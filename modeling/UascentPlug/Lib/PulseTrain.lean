import Mathlib.Algebra.Order.Floor.Ring
import Mathlib.Data.Int.Interval
import Mathlib.Data.Rat.Floor
import Mathlib.Data.Set.Card
import Mathlib.Tactic.FieldSimp
import Mathlib.Tactic.Linarith

/-!
# UascentPlug.Lib.PulseTrain

A periodic pulse train of any frequency and phase, and how many of its pulses
fall into an interval of time.  Counting pulses measures the frequency up to
one pulse, however the interval lies (`lt_count`, `count_lt`).
-/

/-- Pulses at a constant rate; pulse `0` is at `phaseMs`. -/
structure PulseTrain where
  perSec : ℚ
  phaseMs : ℚ
  pos : 0 < perSec

namespace PulseTrain

variable (train : PulseTrain)

/-- When pulse `k` happens, in ms. -/
def timeMs (k : ℤ) : ℚ := train.phaseMs + k * 1000 / train.perSec

/-- The number of pulses after `t₀` and not after `t₁`. -/
noncomputable def count (t₀ t₁ : ℚ) : ℕ :=
  Set.ncard {k : ℤ | t₀ < train.timeMs k ∧ train.timeMs k ≤ t₁}

/-- The number of the last pulse not after `t`. -/
def lastPulse (t : ℚ) : ℤ := ⌊(t - train.phaseMs) * train.perSec / 1000⌋

/-- A pulse has come by `t` exactly when it is not after the last one by then. -/
theorem timeMs_le_iff (k : ℤ) (t : ℚ) : train.timeMs k ≤ t ↔ k ≤ train.lastPulse t := by
  have hpos := train.pos
  rw [lastPulse, Int.le_floor, timeMs, ← le_sub_iff_add_le', div_le_iff₀ hpos,
    le_div_iff₀ (by norm_num)]

/-- It is still to come exactly when it is after the last one. -/
theorem lt_timeMs_iff (k : ℤ) (t : ℚ) : t < train.timeMs k ↔ train.lastPulse t < k := by
  rw [← not_le, ← not_le, timeMs_le_iff]

/-- The pulses between two times are counted by their numbers. -/
theorem count_eq (t₀ t₁ : ℚ) :
    train.count t₀ t₁ = (train.lastPulse t₁ - train.lastPulse t₀).toNat := by
  have hset : {k : ℤ | t₀ < train.timeMs k ∧ train.timeMs k ≤ t₁} =
      ↑(Finset.Ioc (train.lastPulse t₀) (train.lastPulse t₁)) := by
    ext k
    rw [Set.mem_ofPred_eq, Finset.coe_Ioc, Set.mem_Ioc, train.timeMs_le_iff, train.lt_timeMs_iff]
  rw [count, hset, Set.ncard_coe_finset, Int.card_Ioc]

/-- Pulses do not go away. -/
theorem lastPulse_mono {t₀ t₁ : ℚ} (h : t₀ ≤ t₁) : train.lastPulse t₀ ≤ train.lastPulse t₁ := by
  rw [← timeMs_le_iff]
  exact ((train.timeMs_le_iff _ _).mpr (le_refl _)).trans h

/-- So the count is a difference. -/
theorem cast_count {t₀ t₁ : ℚ} (h : t₀ ≤ t₁) :
    (train.count t₀ t₁ : ℚ) = train.lastPulse t₁ - train.lastPulse t₀ := by
  have hmono := train.lastPulse_mono h
  rw [count_eq, ← Int.cast_natCast, Int.toNat_of_nonneg (by omega), Int.cast_sub]

/-- An interval misses less than one pulse of what the rate promises. -/
theorem lt_count {t₀ t₁ : ℚ} (h : t₀ ≤ t₁) :
    (t₁ - t₀) * train.perSec / 1000 - 1 < train.count t₀ t₁ := by
  have hstart := Int.floor_le ((t₀ - train.phaseMs) * train.perSec / 1000)
  have hend := Int.lt_floor_add_one ((t₁ - train.phaseMs) * train.perSec / 1000)
  rw [train.cast_count h, lastPulse, lastPulse]
  linarith

/-- It holds less than one pulse more. -/
theorem count_lt {t₀ t₁ : ℚ} (h : t₀ ≤ t₁) :
    (train.count t₀ t₁ : ℚ) < (t₁ - t₀) * train.perSec / 1000 + 1 := by
  have hstart := Int.lt_floor_add_one ((t₀ - train.phaseMs) * train.perSec / 1000)
  have hend := Int.floor_le ((t₁ - train.phaseMs) * train.perSec / 1000)
  rw [train.cast_count h, lastPulse, lastPulse]
  linarith

end PulseTrain

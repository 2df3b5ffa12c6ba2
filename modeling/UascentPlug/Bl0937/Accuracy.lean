import UascentPlug.Bl0937.Settling
import UascentPlug.Lib.PulseTrain

/-!
# UascentPlug.Bl0937.Accuracy

How far the published power can be from a steady load when polls come late.
Each sample is a count, quantised at both ends of its window, divided by that
window and rounded down; the median of three is one of the three, and the
scaling rounds down once more.  Windows of different lengths make samples of
different precision, but none is worse than the shortest window makes it
(`power_within_bounds`).
-/

namespace UascentPlug

open SampleStream

/-- CF carries `train`, and the polls are at least `minMs` apart.  Pulses
before the first poll do not matter, and neither does CF1. -/
def Carries (train : PulseTrain) (minMs : ℚ) (ps : List Poll) : Prop :=
  ps.IsChain fun p q =>
    minMs ≤ q.nowMs - p.nowMs ∧ q.cf.toNat = train.count p.nowMs q.nowMs

/-! ## windows of consecutive polls -/

/-- Every window that is measured lies between two consecutive polls. -/
theorem exists_polls_of_mem_measuredAfter {R : Poll → Poll → Prop} {p : Poll} {ps : List Poll}
    (h : (p :: ps).IsChain R) {w : Window} (hw : w ∈ measuredAfter (stampOf p.nowMs) ps) :
    ∃ a b, R a b ∧ b.window (some a.nowMs) = some w := by
  induction ps generalizing p with
  | nil => contradiction
  | cons q ps ih =>
      obtain ⟨hpq, hrest⟩ := List.isChain_cons_cons.mp h
      rw [measuredAfter, List.mem_append] at hw
      cases hw with
      | inl hfirst =>
          rw [Option.mem_toList] at hfirst
          obtain ⟨l, hl, -⟩ := window_eq_some hfirst
          rw [stampOf] at hl hfirst
          split at hl
          · contradiction
          · next hne =>
            rw [if_neg hne] at hfirst
            exact ⟨p, q, hpq, hfirst⟩
      | inr hlater => exact ih hrest hlater

/-- So does every window measured from boot. -/
theorem exists_polls_of_mem_measured {R : Poll → Poll → Prop} {ps : List Poll}
    (h : ps.IsChain R) {w : Window} (hw : w ∈ measuredAfter none ps) :
    ∃ a b, R a b ∧ b.window (some a.nowMs) = some w := by
  cases ps with
  | nil => contradiction
  | cons p ps => exact exists_polls_of_mem_measuredAfter h hw

/-! ## one sample -/

/-- A sample is off by the pulses its window gained or missed, and by rounding. -/
structure Accurate (perSec minMs : ℚ) (rate : ℕ) : Prop where
  lower : perSec - 1000 / minMs - 1 < rate
  upper : (rate : ℚ) < perSec + 1000 / minMs

/-- The rate of a window that carries the load is accurate. -/
theorem accurate_cfRate {train : PulseTrain} {minMs : ℚ} (hmin : 0 < minMs) {a b : Poll}
    {w : Window} (hgap : minMs ≤ b.nowMs - a.nowMs)
    (hcf : b.cf.toNat = train.count a.nowMs b.nowMs) (hw : b.window (some a.nowMs) = some w) :
    Accurate train.perSec minMs w.cfRate := by
  obtain ⟨l, hl, hms, hwcf, -⟩ := window_eq_some hw
  obtain rfl := Option.some.inj hl
  have hle : (a.nowMs : ℚ) ≤ b.nowMs := by linarith
  have hmsQ : (w.windowMs : ℚ) = b.nowMs - a.nowMs := by exact_mod_cast hms
  have hpos : (0 : ℚ) < w.windowMs := by exact_mod_cast w.pos
  have hlower := train.lt_count hle
  have hupper := train.count_lt hle
  rw [← hcf, ← hwcf, ← hmsQ] at hlower hupper
  have hedge : 1000 / (w.windowMs : ℚ) ≤ 1000 / minMs :=
    div_le_div_of_nonneg_left (by norm_num) hmin (hmsQ ▸ hgap)
  have hcancel : 1000 / (w.windowMs : ℚ) * w.windowMs = 1000 := div_mul_cancel₀ _ hpos.ne'
  obtain ⟨hfloor, hceil⟩ := Rounding.div_bounds w.pos (w.cf.toNat * 1000)
  rw [div_lt_iff₀ hpos] at hceil
  rw [le_div_iff₀ hpos] at hfloor
  push_cast at hfloor hceil
  constructor
  · have hscaled : (train.perSec - 1000 / (w.windowMs : ℚ) - 1) * w.windowMs <
        w.cfRate * w.windowMs := by
      rw [Window.cfRate]
      linarith
    have hwindow := lt_of_mul_lt_mul_right hscaled hpos.le
    linarith
  · have hscaled : (w.cfRate : ℚ) * w.windowMs <
        (train.perSec + 1000 / (w.windowMs : ℚ)) * w.windowMs := by
      rw [Window.cfRate]
      linarith
    have hwindow := lt_of_mul_lt_mul_right hscaled hpos.le
    linarith

/-- The scaling rounds down once more. -/
theorem Accurate.reading {perSec minMs : ℚ} {rate : ℕ} (h : Accurate perSec minMs rate) :
    (perSec - 1000 / minMs - 1) * 10 ^ 6 / 775 - 1 < (reading 775 rate : ℚ) ∧
      (reading 775 rate : ℚ) < (perSec + 1000 / minMs) * 10 ^ 6 / 775 := by
  obtain ⟨hfloor, hceil⟩ := Rounding.div_bounds (by decide : 0 < 775) (rate * 1000000)
  have hlower := h.lower
  have hupper := h.upper
  rw [UascentPlug.reading, Int.cast_natCast]
  push_cast at hfloor hceil
  constructor
  · linarith
  · linarith

/-! ## whole runs -/

namespace Meter

/-- Every sample of a run over a steady load is accurate. -/
theorem accurate_of_mem_measured {train : PulseTrain} {minMs : ℚ} (hmin : 1 ≤ minMs)
    (hrate : train.perSec < 2 ^ 31) {ps : List Poll} (h : Carries train minMs ps) {w : Window}
    (hw : w ∈ measuredAfter none ps) : Accurate train.perSec minMs w.cfSample := by
  obtain ⟨a, b, ⟨hgap, hcf⟩, hwindow⟩ := exists_polls_of_mem_measured h hw
  have haccurate := accurate_cfRate (zero_lt_one.trans_le hmin) hgap hcf hwindow
  have hedge : 1000 / minMs ≤ 1000 := div_le_self (by norm_num) hmin
  have hfits : w.cfRate < 2 ^ 32 := by
    have hupper := haccurate.upper
    have hlt : (w.cfRate : ℚ) < (2 ^ 32 : ℕ) := by
      push_cast
      linarith
    exact_mod_cast hlt
  rwa [Window.cfSample, Nat.mod_eq_of_lt hfits]

/-- **The published power is accurate under timer jitter.**  Over a steady load
of less than 2^31 counts per second and polls at least `minMs` apart, once a
block is complete, every published power is within the rounding bounds; with
`minMs` a second, within two counts per second and a milliwatt. -/
theorem power_within_bounds (cfg : Option OverPowerConfig) (train : PulseTrain) {minMs : ℚ}
    (hmin : 1 ≤ minMs) (hrate : train.perSec < 2 ^ 31) (is : List (Poll × Bool)) (i : Poll × Bool)
    (hcarries : Carries train minMs ((is ++ [i]).map Prod.fst))
    (hcomplete : 3 ≤ (meterMachine cfg).count validPoll booted (is ++ [i]))
    {power voltage current : Int}
    (hpublished : .powerMeasurementUpdate power voltage current ∈
      ((meterMachine cfg).step ((meterMachine cfg).exec booted is) i).2) :
    (train.perSec - 1000 / minMs - 1) * 10 ^ 6 / 775 - 1 < power ∧
      power < (train.perSec + 1000 / minMs) * 10 ^ 6 / 775 ∧
      (minMs = 1000 → |power - train.perSec * 10 ^ 6 / 775| < 2 * (10 ^ 6 / 775) + 1) := by
  obtain ⟨-, hpower, -, -⟩ := published_eq hpublished
  have hlast : (meterMachine cfg).exec booted (is ++ [i]) =
      ((meterMachine cfg).step ((meterMachine cfg).exec booted is) i).1 := by
    rw [Mealy.exec_append]
    rfl
  have hafter := follows_booted.run cfg (is ++ [i])
  rw [List.nil_append] at hafter
  rw [count_validPoll] at hcomplete
  have hlong : 3 * 0 + 3 ≤ ((measuredAfter booted.stamp ((is ++ [i]).map Prod.fst)).map
      Window.cfSample).length := by
    rw [List.length_map]
    exact hcomplete
  obtain ⟨rate, hmem, hmedian⟩ := exists_lastMedian (p := fun _ => true) (j := 0) rfl hlong
  obtain ⟨w, hw, rfl⟩ := List.mem_map.mp hmem
  rw [← hlast, hafter.activePower, blockReading_of_lastMedian hmedian] at hpower
  obtain ⟨hlower, hupper⟩ := (accurate_of_mem_measured hmin hrate hcarries hw).reading
  rw [hpower]
  refine ⟨hlower, hupper, fun hsecond => ?_⟩
  rw [hsecond] at hlower hupper
  rw [abs_sub_lt_iff]
  constructor
  · linarith
  · linarith

theorem hundred_pos : (0 : ℚ) < 100 := by norm_num

/-- 129 W, with one poll half a second late. -/
theorem late_poll_within_bounds :
    let hundred : PulseTrain := { perSec := 100, phaseMs := 0, pos := hundred_pos }
    (hundred.perSec - 1000 / 1000 - 1) * 10 ^ 6 / 775 - 1 < (129032 : Int) ∧
      (129032 : Int) < (hundred.perSec + 1000 / 1000) * 10 ^ 6 / 775 ∧
      ((1000 : ℚ) = 1000 →
        |(129032 : Int) - hundred.perSec * 10 ^ 6 / 775| < 2 * (10 ^ 6 / 775) + 1) := by
  intro hundred
  have hlast : ∀ b : Int, hundred.lastPulse b = b / 10 := by
    intro b
    have htenth : ((b : ℚ) - 0) * 100 / 1000 = b / (10 : ℕ) := by
      push_cast
      ring
    rw [PulseTrain.lastPulse, htenth]
    exact Rat.floor_intCast_div_natCast b 10
  have hpublished : .powerMeasurementUpdate 129032 0 0 ∈
      ((meterMachine none).step ((meterMachine none).exec booted
        [(⟨1000, 0, 0⟩, true), (⟨2000, 100, 0⟩, true), (⟨3500, 150, 0⟩, true)])
        (⟨4500, 100, 0⟩, true)).2 := by decide
  refine power_within_bounds none hundred (by norm_num) (by norm_num) _ _ ?_ (by decide) hpublished
  simp only [Carries, List.cons_append, List.nil_append, List.map_cons, List.map_nil,
    List.isChain_cons_cons, List.isChain_singleton, PulseTrain.count_eq, hlast]
  norm_num
  exact ⟨rfl, rfl, rfl⟩

end Meter

end UascentPlug

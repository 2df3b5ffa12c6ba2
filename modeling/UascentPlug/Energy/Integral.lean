import Mathlib.Algebra.Order.Ring.Abs
import Mathlib.Data.Rat.Cast.Order
import Mathlib.Tactic.FieldSimp
import Mathlib.Tactic.Linarith
import UascentPlug.Energy.Device
import UascentPlug.Lib.Rounding

/-!
# UascentPlug.Energy.Integral

The running total against the integral it stands for.  Every call divides
twice and drops both remainders, so the total lags the trapezoidal sum by
exactly what was dropped so far (`driftMwh_eq`).  The remainders are not
carried over: a steady draw whose power times interval is not a whole number
of mWh loses the same amount at every call (`droppedTotal_steady`).

The calls are the exact ones of `UascentPlug.PowerMeasurement`, which are those
of the machine as long as none overflows (`powerMeasurementUpdate64_eq`).
-/

namespace UascentPlug

open PowerMeasurement

/-- The calls of one boot. -/
def updates : Mealy PowerMeasurement Sample Effect where
  step s u := s.powerMeasurementUpdate u

/-- The trapezoid between two samples, in mWh, with no rounding. -/
def trapezoidMwh (u v : Sample) : ℚ :=
  ((u.activePowerMw + v.activePowerMw : ℚ) / 2) * (v.nowMs - u.nowMs) / 3600000

/-- The trapezoidal sum of a list of samples that starts at `u`. -/
def integralMwh : Sample → List Sample → ℚ
  | _, [] => 0
  | u, v :: us => trapezoidMwh u v + integralMwh v us

/-- The remainders of the two divisions between two samples, in units of
1 / 7'200'000 mWh. -/
def dropped (u v : Sample) : Int :=
  (u.activePowerMw + v.activePowerMw) % 2 * (v.nowMs - u.nowMs) +
    2 * ((u.activePowerMw + v.activePowerMw) / 2 * (v.nowMs - u.nowMs) % 3600000)

def droppedTotal : Sample → List Sample → Int
  | _, [] => 0
  | u, v :: us => dropped u v + droppedTotal v us

/-- The total after the calls `us`, minus its value at the first call `u` of a
boot, minus the integral. -/
def driftMwh (get : ChipError × Int) (u : Sample) (us : List Sample) : ℚ :=
  let s := (updates.step (booted get) u).1
  ((updates.exec s us).sCumulativeEnergyMwh - s.sCumulativeEnergyMwh : Int) - integralMwh u us

/-- Powers are not negative and the uptime does not run backwards. -/
structure InOrder (us : List Sample) : Prop where
  powers : ∀ u ∈ us, 0 ≤ u.activePowerMw
  times : us.Pairwise fun u v => u.nowMs ≤ v.nowMs

/-- The calls after the first are in order. -/
theorem InOrder.tail {u : Sample} {us : List Sample} (h : InOrder (u :: us)) : InOrder us where
  powers := fun v hv => h.powers v (List.mem_cons_of_mem u hv)
  times := (List.pairwise_cons.mp h.times).2

/-- Time does not run backwards between two calls. -/
theorem InOrder.elapsed {u v : Sample} {us : List Sample} (h : InOrder (u :: v :: us)) :
    0 ≤ v.nowMs - u.nowMs := by
  have hle := (List.pairwise_cons.mp h.times).1 v List.mem_cons_self
  omega

/-! ## what is dropped is what is missing -/

/-- Energy and dropped remainders of one call add up to the trapezoid. -/
theorem energyMwh_add_dropped {u v : Sample} (hu : 0 ≤ u.activePowerMw) (hv : 0 ≤ v.activePowerMw)
    (helapsed : 0 ≤ v.nowMs - u.nowMs) :
    (energyMwh u.activePowerMw v.activePowerMw (v.nowMs - u.nowMs) : ℚ) + dropped u v / 7200000 =
      trapezoidMwh u v := by
  have hpower : (u.activePowerMw + v.activePowerMw).tdiv 2 =
      (u.activePowerMw + v.activePowerMw) / 2 :=
    Int.tdiv_eq_ediv_of_nonneg (by omega)
  have henergy : energyMwh u.activePowerMw v.activePowerMw (v.nowMs - u.nowMs) =
      (u.activePowerMw + v.activePowerMw) / 2 * (v.nowMs - u.nowMs) / 3600000 := by
    rw [energyMwh, hpower]
    exact Int.tdiv_eq_ediv_of_nonneg (Int.mul_nonneg (by omega) helapsed)
  have hexact : ((u.activePowerMw + v.activePowerMw) * (v.nowMs - u.nowMs) : ℚ) =
      energyMwh u.activePowerMw v.activePowerMw (v.nowMs - u.nowMs) * (3600000 * 2) +
        dropped u v := by
    have hint := Rounding.mul_eq_div_mul_div_add (u.activePowerMw + v.activePowerMw)
      (v.nowMs - u.nowMs) 3600000 2
    rw [← henergy] at hint
    exact_mod_cast hint
  rw [trapezoidMwh]
  linarith

/-- Remainders are not negative. -/
theorem dropped_nonneg {u v : Sample} (helapsed : 0 ≤ v.nowMs - u.nowMs) : 0 ≤ dropped u v := by
  have hpower : 0 ≤ (u.activePowerMw + v.activePowerMw) % 2 * (v.nowMs - u.nowMs) :=
    Int.mul_nonneg (by omega) helapsed
  rw [dropped]
  omega

/-- Neither are their sums. -/
theorem droppedTotal_nonneg {u : Sample} {us : List Sample} (h : InOrder (u :: us)) :
    0 ≤ droppedTotal u us := by
  induction us generalizing u with
  | nil => exact le_refl _
  | cons v us ih =>
      have hstep := dropped_nonneg h.elapsed
      have hrest := ih h.tail
      rw [droppedTotal]
      omega

/-- The statics right after a call with sample `u`. -/
structure SampledAt (u : Sample) (s : PowerMeasurement) : Prop where
  delegate : s.sDelegate.isSome = true
  primed : s.sHaveLastSample = true
  power : s.sLastActivePowerMw = u.activePowerMw
  clock : s.sLastSampleMs = u.nowMs

/-- A call leaves its sample behind for the next. -/
theorem sampledAt_update (u : Sample) {s : PowerMeasurement} (h : s.sDelegate.isSome = true) :
    SampledAt u (s.powerMeasurementUpdate u).1 :=
  have hupdated := updated u h
  ⟨hupdated.delegate, hupdated.primed, hupdated.power, hupdated.clock⟩

/-- **Conservation**: over any number of calls, the energy accumulated and the
remainders dropped add up to the integral. -/
theorem accumulated_add_dropped {s : PowerMeasurement} {u : Sample} {us : List Sample}
    (hs : SampledAt u s) (h : InOrder (u :: us)) :
    (((updates.exec s us).sCumulativeEnergyMwh - s.sCumulativeEnergyMwh : Int) : ℚ) +
      droppedTotal u us / 7200000 = integralMwh u us := by
  induction us generalizing s u with
  | nil => simp [droppedTotal, integralMwh]
  | cons v us ih =>
      have hupdated := updated v hs.delegate
      have hrest := ih (sampledAt_update v hs.delegate) h.tail
      have hstep := energyMwh_add_dropped (h.powers u (by simp)) (h.powers v (by simp)) h.elapsed
      have htotal : (s.powerMeasurementUpdate v).1.sCumulativeEnergyMwh = s.sCumulativeEnergyMwh +
          energyMwh u.activePowerMw v.activePowerMw (v.nowMs - u.nowMs) := by
        rw [hupdated.total, totalMwh, stepMwh, if_pos hs.primed, hs.power, hs.clock]
      rw [Mealy.exec_cons, droppedTotal, integralMwh, ← hrest, ← hstep]
      simp only [updates, htotal]
      push_cast
      ring

/-- `PowerMeasurementInit` that succeeds leaves the delegate set. -/
theorem booted_delegate (get : ChipError × Int) : (booted get).sDelegate.isSome = true := by
  rw [booted_eq]
  rfl

/-- **The drift is what was dropped**, no more and no less. -/
theorem driftMwh_eq (get : ChipError × Int) {u : Sample} {us : List Sample}
    (h : InOrder (u :: us)) : driftMwh get u us = -(droppedTotal u us / 7200000) := by
  have hconserved := accumulated_add_dropped (sampledAt_update u (booted_delegate get)) h
  rw [driftMwh, ← hconserved]
  simp only [updates]
  ring

/-- The total never runs ahead of the integral, and lags it by at most 1 mWh
exactly while at most 7'200'000 units were dropped. -/
theorem abs_driftMwh_le_one_iff (get : ChipError × Int) {u : Sample} {us : List Sample}
    (h : InOrder (u :: us)) : |driftMwh get u us| ≤ 1 ↔ droppedTotal u us ≤ 7200000 := by
  have hnonneg : (0 : ℚ) ≤ droppedTotal u us := by exact_mod_cast droppedTotal_nonneg h
  have hlag : (0 : ℚ) ≤ droppedTotal u us / 7200000 := div_nonneg hnonneg (by norm_num)
  rw [driftMwh_eq get h, abs_neg, abs_of_nonneg hlag, div_le_one₀ (by norm_num)]
  exact_mod_cast Iff.rfl

/-! ## a steady draw -/

/-- `n` further samples of `p` mW, one every `dtMs`, after one at `startMs`. -/
def steady (p dtMs : Int) : Int → Nat → List Sample
  | _, 0 => []
  | startMs, n + 1 =>
      { activePowerMw := p, nowMs := startMs + dtMs } :: steady p dtMs (startMs + dtMs) n

/-- A steady draw goes on as it began. -/
theorem steady_add (p dtMs startMs : Int) (m n : Nat) :
    steady p dtMs startMs (m + n) =
      steady p dtMs startMs m ++ steady p dtMs (startMs + dtMs * m) n := by
  induction m generalizing startMs with
  | zero => simp [steady]
  | succ m ih =>
      have hstart : startMs + dtMs + dtMs * m = startMs + dtMs * (m + 1 : Nat) := by
        push_cast
        ring
      rw [Nat.succ_add, steady, steady, ih, hstart, List.cons_append]

/-- The calls of a steady draw are in order. -/
theorem inOrder_steady {p dtMs : Int} (hp : 0 ≤ p) (hdt : 0 ≤ dtMs) (startMs : Int) (n : Nat) :
    InOrder ({ activePowerMw := p, nowMs := startMs } :: steady p dtMs startMs n) ∧
      ∀ u ∈ steady p dtMs startMs n, startMs ≤ u.nowMs := by
  induction n generalizing startMs with
  | zero =>
      refine ⟨⟨?_, List.pairwise_singleton _ _⟩, by simp [steady]⟩
      intro u hu
      rw [List.mem_singleton.mp hu]
      exact hp
  | succ n ih =>
      obtain ⟨hrest, hlater⟩ := ih (startMs + dtMs)
      have hafter : ∀ u ∈ steady p dtMs startMs (n + 1), startMs ≤ u.nowMs := by
        intro u hu
        rw [steady, List.mem_cons] at hu
        rcases hu with rfl | hu
        · simp only
          omega
        · have hle := hlater u hu
          omega
      refine ⟨⟨?_, List.pairwise_cons.mpr ⟨hafter, hrest.times⟩⟩, hafter⟩
      intro u hu
      rw [List.mem_cons] at hu
      rcases hu with rfl | hu
      · exact hp
      · exact hrest.powers u hu

/-- Every call of a steady draw drops the same. -/
theorem droppedTotal_steady (p dtMs startMs : Int) (n : Nat) :
    droppedTotal { activePowerMw := p, nowMs := startMs } (steady p dtMs startMs n) =
      n * (2 * (p * dtMs % 3600000)) := by
  induction n generalizing startMs with
  | zero => simp [steady, droppedTotal]
  | succ n ih =>
      have hstep : dropped { activePowerMw := p, nowMs := startMs }
          { activePowerMw := p, nowMs := startMs + dtMs } = 2 * (p * dtMs % 3600000) := by
        have heven : (p + p) % 2 = 0 := by omega
        have hhalf : (p + p) / 2 = p := by omega
        simp only [dropped, heven, hhalf, add_sub_cancel_left, zero_mul, zero_add]
      rw [steady, droppedTotal, hstep, ih]
      push_cast
      ring

/-- A steady draw stays within 1 mWh for good exactly when no call drops
anything. -/
theorem steady_drift_iff (get : ChipError × Int) {p dtMs : Int} (hp : 0 ≤ p) (hdt : 0 ≤ dtMs)
    (startMs : Int) :
    (∀ n, |driftMwh get { activePowerMw := p, nowMs := startMs } (steady p dtMs startMs n)| ≤ 1) ↔
      3600000 ∣ p * dtMs := by
  have hdrift : ∀ n : Nat,
      |driftMwh get { activePowerMw := p, nowMs := startMs } (steady p dtMs startMs n)| ≤ 1 ↔
        n * (2 * (p * dtMs % 3600000)) ≤ 7200000 := by
    intro n
    rw [abs_driftMwh_le_one_iff get (inOrder_steady hp hdt startMs n).1, droppedTotal_steady]
  simp only [hdrift]
  constructor
  · intro h
    have hlong := h 7200000
    omega
  · intro hdvd n
    rw [Int.emod_eq_zero_of_dvd hdvd]
    omega

/-! ## the total and its integral -/

/-- **The total stays within 1 mWh of the integral** exactly while the
remainders dropped so far add up to at most 1 mWh; a steady draw keeps that up
for good exactly when its power times interval is a whole number of mWh. -/
theorem drift_within_one_iff (get : ChipError × Int) :
    (∀ u us, InOrder (u :: us) → (|driftMwh get u us| ≤ 1 ↔ droppedTotal u us ≤ 7200000)) ∧
      ∀ p dtMs startMs, 0 ≤ p → 0 ≤ dtMs →
        ((∀ n, |driftMwh get { activePowerMw := p, nowMs := startMs }
            (steady p dtMs startMs n)| ≤ 1) ↔ 3600000 ∣ p * dtMs) :=
  ⟨fun _ _ h => abs_driftMwh_le_one_iff get h,
    fun _ _ startMs hp hdt => steady_drift_iff get hp hdt startMs⟩

/-- Uneven powers and times, two calls at once: 0.97 mWh are dropped, and the total is no
further off than that. -/
theorem drift_of_uneven_calls :
    let u : Sample := { activePowerMw := 2300001, nowMs := 1000 }
    let us : List Sample := [{ activePowerMw := 2299998, nowMs := 2003 },
      { activePowerMw := 1200, nowMs := 2003 }, { activePowerMw := 0, nowMs := 9007 }]
    droppedTotal u us = 7003797 ∧ |driftMwh (.noError, 5000) u us| ≤ 1 := by
  intro u us
  have hinOrder : InOrder (u :: us) := ⟨by decide, by decide⟩
  exact ⟨by decide, ((drift_within_one_iff (.noError, 5000)).1 u us hinOrder).mpr (by decide)⟩

/-- A steady 1 W sampled every second is never counted: four seconds in, more
than 1 mWh is missing. -/
theorem one_watt_is_not_counted :
    InOrder ({ activePowerMw := 1000, nowMs := 1000 } :: steady 1000 1000 1000 4) ∧
      ¬ |driftMwh (.noError, 0) { activePowerMw := 1000, nowMs := 1000 }
        (steady 1000 1000 1000 4)| ≤ 1 := by
  have hinOrder := (inOrder_steady (p := 1000) (by decide) (by decide : (0 : Int) ≤ 1000) 1000 4).1
  refine ⟨hinOrder, ?_⟩
  rw [abs_driftMwh_le_one_iff _ hinOrder]
  decide

end UascentPlug

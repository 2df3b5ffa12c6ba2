import Mathlib.Data.List.Chain
import UascentPlug.Energy.Int64
import UascentPlug.Energy.Integral
import UascentPlug.Energy.Loss

/-!
# UascentPlug.Energy.Overflow

When the energy arithmetic overflows.  Everything but the total stays far
inside the range.  The total starts wherever flash says, as long as that is
positive, so the question is how much room the loaded value leaves: ten years
at the declared maximum need 322'368'000'000 mWh (`no_overflow_iff`).
-/

namespace UascentPlug

open PowerMeasurement

/-! ## declared operation -/

/-- Ten years of 365 days. -/
def tenYearsMs : Int := 10 * 365 * 24 * 3600000

/-- Powers in the declared range, calls at most an hour apart, ten years of
uptime. -/
structure Declared (us : List Sample) : Prop where
  powers : ∀ u ∈ us, 0 ≤ u.activePowerMw ∧ u.activePowerMw ≤ 3680000
  gaps : us.IsChain fun u v => u.nowMs ≤ v.nowMs ∧ v.nowMs ≤ u.nowMs + 3600000
  uptimes : ∀ u ∈ us, 0 ≤ u.nowMs ∧ u.nowMs ≤ tenYearsMs

/-- The calls after the first are as declared. -/
theorem Declared.tail {u : Sample} {us : List Sample} (h : Declared (u :: us)) : Declared us where
  powers := fun v hv => h.powers v (List.mem_cons_of_mem u hv)
  gaps := h.gaps.tail
  uptimes := fun v hv => h.uptimes v (List.mem_cons_of_mem u hv)

/-- The most ten years at the declared maximum can add, in mWh. -/
def tenYearsMwh : Int := 322368000000

/-! ## everything fits while the total does -/

/-- The statics after a call `u` of a boot that loaded `stored`. -/
structure InRange (stored : Int) (u : Sample) (s : PowerMeasurement) : Prop where
  sampled : SampledAt u s
  persisted : stored ≤ s.sLastPersistedEnergyMwh
  total : s.sLastPersistedEnergyMwh ≤ s.sCumulativeEnergyMwh
  /-- What was added was drawn since boot. -/
  drawn : 3600000 * (s.sCumulativeEnergyMwh - stored) ≤ 3680000 * u.nowMs
  persistMs : 0 ≤ s.sLastPersistMs ∧ s.sLastPersistMs ≤ u.nowMs
  reportMs : 0 ≤ s.sLastReportMs ∧ s.sLastReportMs ≤ u.nowMs

/-- A number that is not negative fits below 2^63. -/
theorem fitsInt64_of_nonneg {x : Int} (hnonneg : 0 ≤ x) (hlt : x < 2 ^ 63) : FitsInt64 x :=
  ⟨by omega, hlt⟩

/-- A difference of two values that are not negative fits. -/
theorem fitsInt64_sub {x y : Int} (hy : 0 ≤ y) (hle : y ≤ x) (hlt : x < 2 ^ 63) :
    FitsInt64 (x - y) :=
  fitsInt64_of_nonneg (by omega) (by omega)

/-- The differences of `PersistCumulativeEnergyIfDue` fit while the total does. -/
theorem persistArithmetic_fits {nowMs : Int} {s : PowerMeasurement}
    (hpersisted : 0 ≤ s.sLastPersistedEnergyMwh)
    (htotal : s.sLastPersistedEnergyMwh ≤ s.sCumulativeEnergyMwh)
    (hfits : s.sCumulativeEnergyMwh < 2 ^ 63) (hpersistMs : 0 ≤ s.sLastPersistMs)
    (hnow : s.sLastPersistMs ≤ nowMs) (huptime : nowMs < 2 ^ 63) :
    ∀ x ∈ s.persistArithmetic nowMs, FitsInt64 x := by
  have hdelta := fitsInt64_sub hpersisted htotal hfits
  have hsince := fitsInt64_sub hpersistMs hnow huptime
  intro x hx
  simp only [persistArithmetic] at hx
  split at hx
  · rwa [List.mem_singleton.mp hx]
  · rw [List.mem_cons, List.mem_singleton] at hx
    cases hx with
    | inl hx => rwa [hx]
    | inr hx => rwa [hx]

/-- So does that of the report. -/
theorem reportArithmetic_fits {nowMs : Int} {fabricCount : Nat} {s : PowerMeasurement}
    (hreportMs : 0 ≤ s.sLastReportMs) (hnow : s.sLastReportMs ≤ nowMs) (huptime : nowMs < 2 ^ 63) :
    ∀ x ∈ s.reportArithmetic nowMs fabricCount, FitsInt64 x := by
  have hsince := fitsInt64_sub hreportMs hnow huptime
  intro x hx
  rw [reportArithmetic] at hx
  split at hx
  · rwa [List.mem_singleton.mp hx]
  · contradiction

namespace InRange

variable {stored : Int} {u v : Sample} {us : List Sample} {s : PowerMeasurement}

/-- A call adds the energy since the last sample. -/
theorem stepMwh_eq (h : InRange stored u s) (v : Sample) :
    s.totalMwh v = s.sCumulativeEnergyMwh +
      energyMwh u.activePowerMw v.activePowerMw (v.nowMs - u.nowMs) := by
  rw [totalMwh, stepMwh, if_pos h.sampled.primed, h.sampled.power, h.sampled.clock]

/-- A declared call adds something between nothing and its share of the maximum. -/
theorem totalMwh_bounds (h : InRange stored u s) (hus : Declared (u :: v :: us)) :
    s.sCumulativeEnergyMwh ≤ s.totalMwh v ∧
      3600000 * (s.totalMwh v - stored) ≤ 3680000 * v.nowMs := by
  obtain ⟨hu, huMax⟩ := hus.powers u (by simp)
  obtain ⟨hv, hvMax⟩ := hus.powers v (by simp)
  obtain ⟨hle, -⟩ := (List.isChain_cons_cons.mp hus.gaps).1
  have helapsed : 0 ≤ v.nowMs - u.nowMs := by omega
  have hupper := energyMwh_le hu hv huMax hvMax helapsed
  have hlower := energyMwh_nonneg hu hv helapsed
  have hdrawn := h.drawn
  rw [h.stepMwh_eq]
  omega

/-- **Step lemma**: a declared call keeps the bounds. -/
theorem update (h : InRange stored u s) (hus : Declared (u :: v :: us)) :
    InRange stored v (s.powerMeasurementUpdate v).1 := by
  obtain ⟨hgrow, hdrawn⟩ := h.totalMwh_bounds hus
  obtain ⟨hle, -⟩ := (List.isChain_cons_cons.mp hus.gaps).1
  have hnow := (hus.uptimes v (by simp)).1
  have hsampled := sampledAt_update v h.sampled.delegate
  rw [powerMeasurementUpdate_eq v h.sampled.delegate] at hsampled ⊢
  have hpersisted := h.persisted
  have htotal := h.total
  have hpersistMs := h.persistMs
  have hreportMs := h.reportMs
  refine ⟨hsampled, ?_, ?_, hdrawn, ?_, ?_⟩
  · simp only
    split <;> omega
  · simp only
    split <;> omega
  · simp only
    split <;> omega
  · simp only
    split <;> omega

/-- **Step lemma**: with room for ten years above the loaded total, no operation
of a declared call overflows. -/
theorem noOverflow (h : InRange stored u s) (hus : Declared (u :: v :: us)) (hstored : 0 ≤ stored)
    (hroom : stored + tenYearsMwh < 2 ^ 63) : s.NoOverflow v := by
  obtain ⟨hu, huMax⟩ := hus.powers u (by simp)
  obtain ⟨hv, hvMax⟩ := hus.powers v (by simp)
  obtain ⟨hle, hgap⟩ := (List.isChain_cons_cons.mp hus.gaps).1
  obtain ⟨-, huptime⟩ := hus.uptimes v (by simp)
  obtain ⟨hgrow, hdrawn⟩ := h.totalMwh_bounds hus
  have hpersisted := h.persisted
  have htotal := h.total
  have hpersistMs := h.persistMs
  have hreportMs := h.reportMs
  rw [tenYearsMs] at huptime
  rw [tenYearsMwh] at hroom
  have helapsed : 0 ≤ v.nowMs - u.nowMs := by omega
  have havg : 0 ≤ (u.activePowerMw + v.activePowerMw).tdiv 2 ∧
      (u.activePowerMw + v.activePowerMw).tdiv 2 ≤ 3680000 := by
    rw [Int.tdiv_eq_ediv_of_nonneg (by omega)]
    omega
  have hproduct : 0 ≤ (u.activePowerMw + v.activePowerMw).tdiv 2 * (v.nowMs - u.nowMs) ∧
      (u.activePowerMw + v.activePowerMw).tdiv 2 * (v.nowMs - u.nowMs) ≤ 3680000 * 3600000 :=
    ⟨Int.mul_nonneg havg.1 helapsed,
      Int.mul_le_mul havg.2 (by omega) helapsed (by decide)⟩
  have henergy : 0 ≤ energyMwh u.activePowerMw v.activePowerMw (v.nowMs - u.nowMs) ∧
      energyMwh u.activePowerMw v.activePowerMw (v.nowMs - u.nowMs) ≤ 3680000 := by
    refine ⟨energyMwh_nonneg hu hv helapsed, ?_⟩
    have hshare := energyMwh_le hu hv huMax hvMax helapsed
    omega
  have hprimed : s.sDelegate.isSome = true ∧ s.sHaveLastSample = true :=
    ⟨h.sampled.delegate, h.sampled.primed⟩
  have htotal' : s.sCumulativeEnergyMwh +
      ((s.sLastActivePowerMw + v.activePowerMw).tdiv 2 * (v.nowMs - s.sLastSampleMs)).tdiv 3600000 =
        s.totalMwh v := by
    rw [h.stepMwh_eq, energyMwh, h.sampled.power, h.sampled.clock]
  rw [energyMwh] at henergy
  rw [← h.sampled.power, ← h.sampled.clock] at *
  intro x hx
  rw [updateArithmetic, if_pos hprimed] at hx
  simp only [accumulateArithmetic, htotal', List.mem_append] at hx
  obtain (hx | hx) | hx := hx
  · simp only [List.mem_cons, List.not_mem_nil, or_false] at hx
    apply fitsInt64_of_nonneg <;> omega
  · let s' : PowerMeasurement := { s with sCumulativeEnergyMwh := s.totalMwh v }
    have hfits : s.totalMwh v < 2 ^ 63 := by omega
    have hpast : s.sLastPersistMs ≤ v.nowMs := by omega
    exact persistArithmetic_fits (s := s') (hstored.trans hpersisted) (htotal.trans hgrow) hfits
      hpersistMs.1 hpast (by omega) x hx
  · let s' : PowerMeasurement := { s with sCumulativeEnergyMwh := s.totalMwh v }
    have hkept : (s'.persistCumulativeEnergyIfDue v.nowMs v.putErr).1.sLastReportMs =
      s.sLastReportMs := sLastReportMs_persist v.nowMs v.putErr s'
    exact reportArithmetic_fits (by rw [hkept]; omega) (by rw [hkept]; omega) (by omega) x hx

/-- **Run lemma**: the rest of a declared run stays within range. -/
theorem admits (h : InRange stored u s) (hus : Declared (u :: us)) (hstored : 0 ≤ stored)
    (hroom : stored + tenYearsMwh < 2 ^ 63) : updates.Admits NoOverflow s us := by
  induction us generalizing u s with
  | nil => trivial
  | cons v us ih => exact ⟨h.noOverflow hus hstored hroom, ih (h.update hus) hus.tail⟩

/-- **Run lemma**: the total of a declared run never falls below what was loaded. -/
theorem stored_le (h : InRange stored u s) (hus : Declared (u :: us)) :
    stored ≤ (updates.exec s us).sCumulativeEnergyMwh := by
  induction us generalizing u s with
  | nil => exact h.persisted.trans h.total
  | cons v us ih => exact ih (h.update hus) hus.tail

end InRange

/-! ## the first call of a boot -/

/-- A positive total is loaded as it is. -/
theorem loadedMwh_of_pos {stored : Int} (hpos : 0 < stored) :
    loadedMwh (.noError, stored) = stored := by
  rw [loadedMwh_eq]
  exact if_pos ⟨rfl, hpos⟩

/-- The first call computes nothing. -/
theorem noOverflow_booted (get : ChipError × Int) (u : Sample) : (booted get).NoOverflow u := by
  intro x hx
  rw [booted_eq, updateArithmetic, if_neg (by simp)] at hx
  contradiction

/-- The first call of a boot leaves the loaded total. -/
theorem inRange_booted {stored : Int} (hpos : 0 < stored) {u : Sample} (hu : 0 ≤ u.nowMs) :
    InRange stored u ((booted (.noError, stored)).powerMeasurementUpdate u).1 := by
  have hsampled := sampledAt_update u (booted_delegate (.noError, stored))
  rw [powerMeasurementUpdate_eq u (booted_delegate _)] at hsampled ⊢
  simp only [booted_eq, loadedMwh_of_pos hpos] at hsampled ⊢
  refine ⟨hsampled, ?_, ?_, ?_, ?_, ?_⟩ <;> simp [totalMwh, stepMwh, PutDue, ReportDue, hu]


/-! ## ten years at the declared maximum -/

/-- A call without overflow leaves a total that fits. -/
theorem fitsInt64_totalMwh {s : PowerMeasurement} {u v : Sample} (hs : SampledAt u s)
    (hok : s.NoOverflow v) : FitsInt64 (s.totalMwh v) := by
  apply hok
  rw [updateArithmetic, if_pos ⟨hs.delegate, hs.primed⟩]
  simp [accumulateArithmetic, totalMwh, stepMwh, energyMwh, hs.primed]

/-- Calls that do not overflow leave a total that fits. -/
theorem fitsInt64_of_admits {s : PowerMeasurement} {u : Sample} {us : List Sample}
    (hs : SampledAt u s) (hfits : FitsInt64 s.sCumulativeEnergyMwh)
    (hok : updates.Admits NoOverflow s us) :
    FitsInt64 (updates.exec s us).sCumulativeEnergyMwh := by
  induction us generalizing u s with
  | nil => exact hfits
  | cons v us ih =>
      apply ih (sampledAt_update v hs.delegate) _ hok.2
      rw [(updated v hs.delegate).total]
      exact fitsInt64_totalMwh hs hok.1

/-- An hour at the declared maximum is a whole number of mWh. -/
theorem exec_steady_hours {s : PowerMeasurement} {startMs : Int} (n : Nat)
    (hs : SampledAt { activePowerMw := 3680000, nowMs := startMs } s) :
    (updates.exec s (steady 3680000 3600000 startMs n)).sCumulativeEnergyMwh =
      s.sCumulativeEnergyMwh + 3680000 * n := by
  induction n generalizing s startMs with
  | zero => simp [steady]
  | succ n ih =>
      have hupdated := updated { activePowerMw := 3680000, nowMs := startMs + 3600000 } hs.delegate
      have hhour : energyMwh 3680000 3680000 3600000 = 3680000 := rfl
      have htotal : s.totalMwh { activePowerMw := 3680000, nowMs := startMs + 3600000 } =
          s.sCumulativeEnergyMwh + 3680000 := by
        rw [totalMwh, stepMwh, if_pos hs.primed, hs.power, hs.clock]
        simp only [add_sub_cancel_left, hhour]
      calc
        _ = (updates.step s { activePowerMw := 3680000, nowMs := startMs + 3600000 }
              ).1.sCumulativeEnergyMwh + 3680000 * n := ih (sampledAt_update _ hs.delegate)
        _ = s.sCumulativeEnergyMwh + 3680000 + 3680000 * n :=
          congrArg (· + 3680000 * (n : Int)) (hupdated.total.trans htotal)
        _ = s.sCumulativeEnergyMwh + 3680000 * (n + 1 : Nat) := by
          push_cast
          ring

/-- An hourly draw at the declared maximum is as declared. -/
theorem declared_steady {startMs : Int} (n : Nat) (hstart : 0 ≤ startMs)
    (hend : startMs + 3600000 * n ≤ tenYearsMs) :
    Declared ({ activePowerMw := 3680000, nowMs := startMs } ::
      steady 3680000 3600000 startMs n) := by
  induction n generalizing startMs with
  | zero =>
      constructor
      · simp [steady]
      · exact List.isChain_singleton _
      · intro u hu
        rw [List.mem_singleton.mp hu]
        exact ⟨hstart, by simpa using hend⟩
  | succ n ih =>
      push_cast at hend
      have hstart' : 0 ≤ startMs + 3600000 := by omega
      have hrest := ih hstart' (by omega)
      constructor
      · intro u hu
        cases List.mem_cons.mp hu with
        | inl hu => simp [hu]
        | inr hu => exact hrest.powers u hu
      · rw [steady]
        exact List.isChain_cons_cons.mpr ⟨⟨by simp, by simp⟩, hrest.gaps⟩
      · intro u hu
        cases List.mem_cons.mp hu with
        | inl hu =>
            rw [hu]
            simp only
            omega
        | inr hu => exact hrest.uptimes u hu

/-! ## how much room the loaded total needs -/

/-- **No declared run overflows** exactly when the loaded total leaves room for
ten years at the declared maximum; the total then never falls below what was
loaded. -/
theorem no_overflow_iff {stored : Int} (hfits : FitsInt64 stored) (hpos : 0 < stored) :
    (∀ us, Declared us →
        updates.Admits NoOverflow (booted (.noError, stored)) us ∧
          stored ≤ (updates.exec (booted (.noError, stored)) us).sCumulativeEnergyMwh) ↔
      stored ≤ 9223372036854775807 - tenYearsMwh := by
  constructor
  · intro h
    have hdeclared := declared_steady 87600 (Int.le_refl 0) (by decide)
    obtain ⟨⟨-, hadmits⟩, -⟩ := h _ hdeclared
    have hsampled := sampledAt_update { activePowerMw := 3680000, nowMs := 0 }
      (booted_delegate (.noError, stored))
    have htotal : ((booted (.noError, stored)).powerMeasurementUpdate
        { activePowerMw := 3680000, nowMs := 0 }).1.sCumulativeEnergyMwh = stored := by
      rw [(updated _ (booted_delegate _)).total, booted_eq]
      simp [totalMwh, stepMwh, loadedMwh_of_pos hpos]
    have hlast := fitsInt64_of_admits hsampled (by rwa [htotal]) hadmits
    rw [exec_steady_hours 87600 hsampled, htotal] at hlast
    have hmax := hlast.2
    rw [tenYearsMwh]
    omega
  · intro hroom us hus
    cases us with
    | nil => exact ⟨trivial, (loadedMwh_of_pos hpos).ge⟩
    | cons u us =>
        have hfirst := inRange_booted hpos (hus.uptimes u (by simp)).1
        refine ⟨⟨noOverflow_booted _ u, hfirst.admits hus hpos.le (by omega)⟩, ?_⟩
        exact hfirst.stored_le hus

/-- A plug that has counted 1 kWh so far draws 230 W for an hour. -/
theorem no_overflow_from_one_kwh :
    updates.Admits NoOverflow (booted (.noError, 1000000))
        [{ activePowerMw := 230000, nowMs := 1000 },
          { activePowerMw := 230000, nowMs := 3601000 }] ∧
      1000000 ≤ (updates.exec (booted (.noError, 1000000))
        [{ activePowerMw := 230000, nowMs := 1000 },
          { activePowerMw := 230000, nowMs := 3601000 }]).sCumulativeEnergyMwh :=
  (no_overflow_iff (by decide) (by decide)).mpr (by decide) _
    ⟨by decide, by decide, by decide⟩

/-- The largest value of `int64_t` is read back from flash; the next hour at
230 W does not fit. -/
theorem largest_total_overflows :
    loadedMwh (.noError, 9223372036854775807) = 9223372036854775807 ∧
      Declared [{ activePowerMw := 230000, nowMs := 1000 },
        { activePowerMw := 230000, nowMs := 3601000 }] ∧
      ¬ updates.Admits NoOverflow (booted (.noError, 9223372036854775807))
        [{ activePowerMw := 230000, nowMs := 1000 },
          { activePowerMw := 230000, nowMs := 3601000 }] := by
  refine ⟨rfl, ⟨by decide, by decide, by decide⟩, fun hadmits => ?_⟩
  have hok := hadmits.2.1 9223372036855005807 (by decide)
  exact absurd hok (by decide)

end UascentPlug

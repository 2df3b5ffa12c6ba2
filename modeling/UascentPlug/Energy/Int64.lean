import UascentPlug.Energy.Device

/-!
# UascentPlug.Energy.Int64

The measurement module on `int64_t`.  `UascentPlug.PowerMeasurement` computes
with exact integers; here the same functions bring the result of every
operation back into 64 bits.  `readingsArithmetic` and `updateArithmetic` list
the exact results of the operations of a call, in the order of the source.
While all of them fit, the two do the same (`powerMeasurementUpdate64_eq`), and
so do the devices around them (`device64_step`).
-/

namespace UascentPlug

open PowerMeasurement

/-- A value of `int64_t`. -/
def FitsInt64 (x : Int) : Prop := -2 ^ 63 ≤ x ∧ x < 2 ^ 63

instance (x : Int) : Decidable (FitsInt64 x) := inferInstanceAs (Decidable (_ ∧ _))

/-- What an operation on `int64_t` leaves of its exact result.  (C++ leaves
overflow undefined; this is what the target's instructions do.) -/
def int64 (x : Int) : Int := x.bmod (2 ^ 64)

/-- A result that fits is left alone. -/
theorem int64_of_fits {x : Int} (h : FitsInt64 x) : int64 x = x := by
  obtain ⟨hlower, hupper⟩ := h
  apply Int.bmod_eq_of_le <;> omega

namespace PowerMeasurement

/-! ## the functions of the source -/

def persistCumulativeEnergyIfDue64 (nowMs : Int) (putErr : ChipError) (s : PowerMeasurement) :
    PowerMeasurement × List Effect :=
  let deltaMwh := int64 (s.sCumulativeEnergyMwh - s.sLastPersistedEnergyMwh)
  if deltaMwh ≤ 0 then
    (s, [])
  else
    let sincePersistMs := int64 (nowMs - s.sLastPersistMs)
    let thresholdDue : Bool :=
      kEnergyPersistThresholdMwh ≤ deltaMwh ∧ kEnergyPersistMinIntervalMs ≤ sincePersistMs
    let maxIntervalDue : Bool := kEnergyPersistMaxIntervalMs ≤ sincePersistMs
    if !thresholdDue && !maxIntervalDue then
      (s, [])
    else if putErr ≠ .noError then
      (s, [.put s.sCumulativeEnergyMwh putErr])
    else
      ({ s with
          sLastPersistedEnergyMwh := s.sCumulativeEnergyMwh
          sLastPersistMs := nowMs },
        [.put s.sCumulativeEnergyMwh putErr])

def reportIfMoved64 (s : PowerMeasurement) (value reported deadband : Int)
    (attributeId : AttributeId) : Int × List Effect :=
  let delta := int64 (if reported < value then value - reported else reported - value)
  if s.sHaveReported ∧ delta < deadband then
    (reported, [])
  else
    (value, [.attributeChanged s.sEndpoint attributeId])

/-- The three `ReportIfMoved` calls. -/
def reportReadings64 (activePowerMw rmsVoltageMv rmsCurrentMa : Int) (s : PowerMeasurement) :
    PowerMeasurement × List Effect :=
  let power := s.reportIfMoved64 activePowerMw s.sReportedActivePowerMw kActivePowerDeadbandMw
    .activePower
  let voltage := s.reportIfMoved64 rmsVoltageMv s.sReportedRmsVoltageMv kRmsVoltageDeadbandMv
    .rmsVoltage
  let current := s.reportIfMoved64 rmsCurrentMa s.sReportedRmsCurrentMa kRmsCurrentDeadbandMa
    .rmsCurrent
  ({ s with
      sReportedActivePowerMw := power.1
      sReportedRmsVoltageMv := voltage.1
      sReportedRmsCurrentMa := current.1
      sHaveReported := true },
    power.2 ++ voltage.2 ++ current.2)

/-- The energy event, if a fabric is there to receive it and the last one is
old enough. -/
def reportEnergyIfDue64 (nowMs : Int) (fabricCount : Nat) (s : PowerMeasurement) :
    PowerMeasurement × List Effect :=
  if 0 < fabricCount ∧ kEnergyReportIntervalMs ≤ int64 (nowMs - s.sLastReportMs) then
    ({ s with sLastReportMs := nowMs },
      [.notifyCumulativeEnergyMeasured s.sEndpoint s.sCumulativeEnergyMwh,
        .attributeChanged s.sEndpoint .cumulativeEnergyImported])
  else
    (s, [])

/-- What a call does when there is a sample to integrate from. -/
def accumulate64 (u : Sample) (s : PowerMeasurement) : PowerMeasurement × List Effect :=
  let elapsedMs := int64 (u.nowMs - s.sLastSampleMs)
  let avgPowerMw := (int64 (s.sLastActivePowerMw + u.activePowerMw)).tdiv 2
  let s := { s with
    sCumulativeEnergyMwh :=
      int64 (s.sCumulativeEnergyMwh + (int64 (avgPowerMw * elapsedMs)).tdiv 3600000) }
  let persisted := s.persistCumulativeEnergyIfDue64 u.nowMs u.putErr
  let reported := persisted.1.reportEnergyIfDue64 u.nowMs u.fabricCount
  (reported.1, persisted.2 ++ reported.2)

def powerMeasurementUpdate64 (u : Sample) (s : PowerMeasurement) : PowerMeasurement × List Effect :=
  if s.sDelegate.isNone then
    (s, [])
  else
    let s := { s with sDelegate := some (.set u.activePowerMw u.rmsVoltageMv u.rmsCurrentMa) }
    let readings := s.reportReadings64 u.activePowerMw u.rmsVoltageMv u.rmsCurrentMa
    let energy :=
      if readings.1.sHaveLastSample then readings.1.accumulate64 u else (readings.1, [])
    ({ energy.1 with
        sLastActivePowerMw := u.activePowerMw
        sLastSampleMs := u.nowMs
        sHaveLastSample := true },
      readings.2 ++ energy.2)

/-! ## the operations of a call -/

/-- The operations of `PersistCumulativeEnergyIfDue`. -/
def persistArithmetic (nowMs : Int) (s : PowerMeasurement) : List Int :=
  let deltaMwh := s.sCumulativeEnergyMwh - s.sLastPersistedEnergyMwh
  if deltaMwh ≤ 0 then [deltaMwh] else [deltaMwh, nowMs - s.sLastPersistMs]

/-- The interval since the last report, which is only computed for a fabric. -/
def reportArithmetic (nowMs : Int) (fabricCount : Nat) (s : PowerMeasurement) : List Int :=
  if 0 < fabricCount then [nowMs - s.sLastReportMs] else []

/-- The operations of a call that has a sample to integrate from. -/
def accumulateArithmetic (u : Sample) (s : PowerMeasurement) : List Int :=
  let elapsedMs := u.nowMs - s.sLastSampleMs
  let sumMw := s.sLastActivePowerMw + u.activePowerMw
  let product := sumMw.tdiv 2 * elapsedMs
  let s := { s with sCumulativeEnergyMwh := s.sCumulativeEnergyMwh + product.tdiv 3600000 }
  [elapsedMs, sumMw, sumMw.tdiv 2, product, product.tdiv 3600000, s.sCumulativeEnergyMwh] ++
    s.persistArithmetic u.nowMs ++
    (s.persistCumulativeEnergyIfDue u.nowMs u.putErr).1.reportArithmetic u.nowMs u.fabricCount

/-- The exact results of the `int64_t` operations of the energy part of
`PowerMeasurementUpdate`. -/
def updateArithmetic (u : Sample) (s : PowerMeasurement) : List Int :=
  if s.sDelegate.isSome ∧ s.sHaveLastSample then s.accumulateArithmetic u else []

/-- No `int64_t` operation of the call overflows. -/
def NoOverflow (s : PowerMeasurement) (u : Sample) : Prop :=
  ∀ x ∈ s.updateArithmetic u, FitsInt64 x

instance (s : PowerMeasurement) (u : Sample) : Decidable (s.NoOverflow u) :=
  inferInstanceAs (Decidable (∀ x ∈ s.updateArithmetic u, FitsInt64 x))

/-- The difference `ReportIfMoved` computes. -/
def moved (value reported : Int) : Int :=
  if reported < value then value - reported else reported - value

/-- The exact results of the operations of the three `ReportIfMoved` calls. -/
def readingsArithmetic (u : Sample) (s : PowerMeasurement) : List Int :=
  if s.sDelegate.isSome then
    [moved u.activePowerMw s.sReportedActivePowerMw, moved u.rmsVoltageMv s.sReportedRmsVoltageMv,
      moved u.rmsCurrentMa s.sReportedRmsCurrentMa]
  else []

/-- The machine computes the call exactly: neither the differences of the
readings nor the energy arithmetic overflows. -/
def Exact (s : PowerMeasurement) (u : Sample) : Prop :=
  (∀ x ∈ s.readingsArithmetic u, FitsInt64 x) ∧ s.NoOverflow u

instance (s : PowerMeasurement) (u : Sample) : Decidable (s.Exact u) :=
  inferInstanceAs (Decidable (_ ∧ _))

/-! ## an exact call does the same on the machine -/

/-- Without an overflow `PersistCumulativeEnergyIfDue` is exact. -/
theorem persistCumulativeEnergyIfDue64_eq {nowMs : Int} {s : PowerMeasurement}
    (h : ∀ x ∈ s.persistArithmetic nowMs, FitsInt64 x) (putErr : ChipError) :
    s.persistCumulativeEnergyIfDue64 nowMs putErr =
      s.persistCumulativeEnergyIfDue nowMs putErr := by
  have hdelta : int64 (s.sCumulativeEnergyMwh - s.sLastPersistedEnergyMwh) =
      s.sCumulativeEnergyMwh - s.sLastPersistedEnergyMwh := by
    apply int64_of_fits
    apply h
    rw [persistArithmetic]
    split <;> simp
  simp only [persistCumulativeEnergyIfDue64, persistCumulativeEnergyIfDue, hdelta]
  by_cases hnothing : s.sCumulativeEnergyMwh - s.sLastPersistedEnergyMwh ≤ 0
  · rw [if_pos hnothing, if_pos hnothing]
  · have hsince : int64 (nowMs - s.sLastPersistMs) = nowMs - s.sLastPersistMs := by
      apply int64_of_fits
      apply h
      rw [persistArithmetic, if_neg hnothing]
      simp
    rw [if_neg hnothing, if_neg hnothing, hsince]

/-- So is the report of the total. -/
theorem reportEnergyIfDue64_eq {nowMs : Int} {fabricCount : Nat} {s : PowerMeasurement}
    (h : ∀ x ∈ s.reportArithmetic nowMs fabricCount, FitsInt64 x) :
    s.reportEnergyIfDue64 nowMs fabricCount = s.reportEnergyIfDue nowMs fabricCount := by
  by_cases hfabric : 0 < fabricCount
  · have hsince : int64 (nowMs - s.sLastReportMs) = nowMs - s.sLastReportMs := by
      apply int64_of_fits
      apply h
      rw [reportArithmetic, if_pos hfabric]
      simp
    rw [reportEnergyIfDue64, reportEnergyIfDue, hsince]
  · simp [reportEnergyIfDue64, reportEnergyIfDue, hfabric]

/-- So is the accumulation. -/
theorem accumulate64_eq {u : Sample} {s : PowerMeasurement}
    (h : ∀ x ∈ s.accumulateArithmetic u, FitsInt64 x) : s.accumulate64 u = s.accumulate u := by
  simp only [accumulateArithmetic, List.mem_append, List.mem_cons, List.not_mem_nil,
    or_false] at h
  have helapsed := int64_of_fits (h (u.nowMs - s.sLastSampleMs) (by simp))
  have hsum := int64_of_fits (h (s.sLastActivePowerMw + u.activePowerMw) (by simp))
  have hproduct := int64_of_fits (h ((s.sLastActivePowerMw + u.activePowerMw).tdiv 2 *
    (u.nowMs - s.sLastSampleMs)) (by simp))
  have htotal := int64_of_fits (h (s.sCumulativeEnergyMwh +
    ((s.sLastActivePowerMw + u.activePowerMw).tdiv 2 *
      (u.nowMs - s.sLastSampleMs)).tdiv 3600000) (by simp))
  simp only [accumulate64, accumulate, energyMwh, helapsed, hsum, hproduct, htotal]
  rw [persistCumulativeEnergyIfDue64_eq fun x hx => h x (Or.inl (Or.inr hx)),
    reportEnergyIfDue64_eq fun x hx => h x (Or.inr hx)]

/-- So is `ReportIfMoved`. -/
theorem reportIfMoved64_eq {s : PowerMeasurement} {value reported : Int}
    (h : FitsInt64 (moved value reported)) (deadband : Int) (attributeId : AttributeId) :
    s.reportIfMoved64 value reported deadband attributeId =
      s.reportIfMoved value reported deadband attributeId := by
  rw [moved] at h
  rw [reportIfMoved64, reportIfMoved, int64_of_fits h]

/-- So are the reports of the three readings. -/
theorem reportReadings64_eq {u : Sample} {s : PowerMeasurement}
    (h : ∀ x ∈ [moved u.activePowerMw s.sReportedActivePowerMw,
      moved u.rmsVoltageMv s.sReportedRmsVoltageMv,
      moved u.rmsCurrentMa s.sReportedRmsCurrentMa], FitsInt64 x) :
    s.reportReadings64 u.activePowerMw u.rmsVoltageMv u.rmsCurrentMa =
      s.reportReadings u.activePowerMw u.rmsVoltageMv u.rmsCurrentMa := by
  simp only [List.forall_mem_cons] at h
  obtain ⟨hpower, hvoltage, hcurrent, -⟩ := h
  simp only [reportReadings64, reportReadings, reportIfMoved64_eq hpower,
    reportIfMoved64_eq hvoltage, reportIfMoved64_eq hcurrent]

@[simp] theorem sLastReportMs_persist (nowMs : Int) (putErr : ChipError) (s : PowerMeasurement) :
    (s.persistCumulativeEnergyIfDue nowMs putErr).1.sLastReportMs = s.sLastReportMs := by
  rw [persistCumulativeEnergyIfDue_eq]
  split
  · simp only
    split <;> rfl
  · rfl

/-- **A call that overflows nowhere** does on the machine what it does exactly. -/
theorem powerMeasurementUpdate64_eq {u : Sample} {s : PowerMeasurement} (h : s.Exact u) :
    s.powerMeasurementUpdate64 u = s.powerMeasurementUpdate u := by
  obtain ⟨hdeltas, henergy⟩ := h
  cases hdelegate : s.sDelegate with
  | none => simp [powerMeasurementUpdate64, powerMeasurementUpdate, hdelegate]
  | some delegate =>
      obtain ⟨s₁, hs₁⟩ : ∃ s₁, s₁ = { s with
        sDelegate := some (.set u.activePowerMw u.rmsVoltageMv u.rmsCurrentMa) } := ⟨_, rfl⟩
      have hreadings : s₁.reportReadings64 u.activePowerMw u.rmsVoltageMv u.rmsCurrentMa =
          s₁.reportReadings u.activePowerMw u.rmsVoltageMv u.rmsCurrentMa := by
        rw [readingsArithmetic, hdelegate, Option.isSome_some, if_pos rfl] at hdeltas
        rw [hs₁]
        exact reportReadings64_eq hdeltas
      -- the readings do not enter the energy arithmetic
      have hsame : (s₁.reportReadings u.activePowerMw u.rmsVoltageMv
          u.rmsCurrentMa).1.accumulateArithmetic u = s.accumulateArithmetic u := by
        simp only [hs₁, accumulateArithmetic, reportArithmetic, sLastReportMs_persist]
        rfl
      have hprimed : (s₁.reportReadings u.activePowerMw u.rmsVoltageMv
          u.rmsCurrentMa).1.sHaveLastSample = s.sHaveLastSample := by
        rw [hs₁]
        rfl
      simp only [powerMeasurementUpdate64, powerMeasurementUpdate, hdelegate, Option.isNone_some,
        Bool.false_eq_true, if_false, ← hs₁, hreadings, hprimed]
      cases hlast : s.sHaveLastSample with
      | false => rfl
      | true =>
          rw [NoOverflow, updateArithmetic, hdelegate, hlast, if_pos ⟨rfl, rfl⟩, ← hsame] at henergy
          rw [accumulate64_eq henergy]

end PowerMeasurement

/-! ## the device on the machine -/

/-- The device with its calls on `int64_t`. -/
def device64 : Mealy Device DeviceEvent (Int × Effect) where
  step d
    | .update u =>
        let r := d.pm.powerMeasurementUpdate64 u
        ({ pm := r.1, kvs := r.2.foldl store d.kvs, uptimeMs := u.nowMs },
          r.2.map fun e => (u.nowMs, e))
    | .cut u done =>
        let effects := (d.pm.powerMeasurementUpdate64 u).2.take done
        (.off (effects.foldl store d.kvs), effects.map fun e => (u.nowMs, e))
    | .boot readErr =>
        ({ pm := booted (kvsGet readErr d.kvs), kvs := d.kvs, uptimeMs := 0 }, [])

/-- The machine computes the event exactly. -/
def Device.Exact (d : Device) : DeviceEvent → Prop
  | .update u | .cut u _ => d.pm.Exact u
  | .boot _ => True

instance (d : Device) : (e : DeviceEvent) → Decidable (d.Exact e)
  | .update u | .cut u _ => inferInstanceAs (Decidable (d.pm.Exact u))
  | .boot _ => instDecidableTrue

/-- **Step lemma**: an exact event does on the machine what it does exactly. -/
theorem device64_step {d : Device} {e : DeviceEvent} (h : d.Exact e) :
    device64.step d e = device.step d e := by
  cases e with
  | update u => simp only [device64, device, powerMeasurementUpdate64_eq (s := d.pm) h]
  | cut u done => simp only [device64, device, powerMeasurementUpdate64_eq (s := d.pm) h]
  | boot readErr => rfl

end UascentPlug

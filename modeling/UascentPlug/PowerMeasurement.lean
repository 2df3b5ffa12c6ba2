import Mathlib.Algebra.Order.Ring.Int

/-!
# UascentPlug.PowerMeasurement

`power_measurement.cpp`: the readings pushed into the two measurement clusters,
the energy integrator behind them and the copy of its total in the key-value
store.  The file-scope statics are one record, `PowerMeasurement`; what the
functions do to the outside world is a list of `Effect`s in program order.
The SDK's answers are inputs: the error codes of the calls that can fail, what
`Get` returns and the number of commissioned fabrics.

An `int64_t` is an `Int` here: every operation has its exact result, and C++
division is `Int.tdiv`.  `UascentPlug.Energy.Int64` has the same functions with
results of 64 bits, and what a call must not overflow for the two to agree
(`powerMeasurementUpdate64_eq`).
-/

namespace UascentPlug

/-- `CHIP_ERROR`, as far as the code tells errors apart. -/
inductive ChipError where
  | noError
  | persistedStorageValueNotFound
  | other
  deriving DecidableEq

/-- EPM's delegate; `none` is a null attribute. -/
structure PlugPowerDelegate where
  mActivePowerMw : Option Int := none
  mRmsVoltageMv : Option Int := none
  mRmsCurrentMa : Option Int := none
  deriving DecidableEq

def PlugPowerDelegate.set (activePowerMw rmsVoltageMv rmsCurrentMa : Int) : PlugPowerDelegate :=
  { mActivePowerMw := some activePowerMw
    mRmsVoltageMv := some rmsVoltageMv
    mRmsCurrentMa := some rmsCurrentMa }

inductive MeasurementType where
  | activePower
  | rmsVoltage
  | rmsCurrent
  deriving DecidableEq

structure MeasurementSpec where
  type : MeasurementType
  min : Int
  max : Int
  deriving DecidableEq

def kMeasurementSpecs : List MeasurementSpec :=
  [{ type := .activePower, min := 0, max := 3680000 },
    { type := .rmsVoltage, min := 0, max := 300000 },
    { type := .rmsCurrent, min := 0, max := 16000 }]

/-- `none` is `CHIP_ERROR_PROVIDER_LIST_EXHAUSTED`. -/
def getAccuracyByIndex (index : Nat) : Option MeasurementSpec := kMeasurementSpecs[index]?

inductive AttributeId where
  | activePower
  | rmsVoltage
  | rmsCurrent
  | cumulativeEnergyImported
  deriving DecidableEq

/-- What the module does to the rest of the system. -/
inductive Effect where
  /-- `MatterReportingAttributeChangeCallback`. -/
  | attributeChanged (endpoint : UInt16) (attributeId : AttributeId)
  /-- `KeyValueStoreMgr().Put(kEnergyKvsKey, mwh)` and its answer. -/
  | put (mwh : Int) (err : ChipError)
  | notifyCumulativeEnergyMeasured (endpoint : UInt16) (mwh : Int)
  deriving DecidableEq

def kEnergyReportIntervalMs : Int := 60000
def kEnergyPersistThresholdMwh : Int := 100000
def kEnergyPersistMinIntervalMs : Int := 600000
def kEnergyPersistMaxIntervalMs : Int := 21600000
def kActivePowerDeadbandMw : Int := 50
def kRmsVoltageDeadbandMv : Int := 100
def kRmsCurrentDeadbandMa : Int := 3

/-- The statics of `power_measurement.cpp`, as the loader leaves them. -/
structure PowerMeasurement where
  sDelegate : Option PlugPowerDelegate := none
  /-- `sInstance` and `sEnergyAttrAccess` are only ever set and reset. -/
  sInstance : Bool := false
  sEnergyAttrAccess : Bool := false
  sEndpoint : UInt16 := 0
  sHaveLastSample : Bool := false
  sLastActivePowerMw : Int := 0
  sCumulativeEnergyMwh : Int := 0
  sLastSampleMs : Int := 0
  sLastReportMs : Int := 0
  sLastPersistedEnergyMwh : Int := 0
  sLastPersistMs : Int := 0
  sHaveReported : Bool := false
  sReportedActivePowerMw : Int := 0
  sReportedRmsVoltageMv : Int := 0
  sReportedRmsCurrentMa : Int := 0
  deriving DecidableEq

/-- The answers of the calls that can fail in `PowerMeasurementInit`; `get` is
the error of `Get` and the value it stored through its pointer. -/
structure InitAnswers where
  instanceErr : ChipError := .noError
  attrAccessErr : ChipError := .noError
  accuracyErr : ChipError := .noError
  get : ChipError × Int
  deriving DecidableEq

/-- One call of `PowerMeasurementUpdate`: its arguments, the uptime it reads
and the answers it gets. -/
structure Sample where
  activePowerMw : Int
  rmsVoltageMv : Int := 0
  rmsCurrentMa : Int := 0
  nowMs : Int
  fabricCount : Nat := 1
  putErr : ChipError := .noError
  deriving DecidableEq

namespace PowerMeasurement

def loadCumulativeEnergy (get : ChipError × Int) (s : PowerMeasurement) : PowerMeasurement :=
  let s := if get.1 = .noError ∧ 0 < get.2 then { s with sCumulativeEnergyMwh := get.2 } else s
  { s with sLastPersistedEnergyMwh := s.sCumulativeEnergyMwh }

def persistCumulativeEnergyIfDue (nowMs : Int) (putErr : ChipError) (s : PowerMeasurement) :
    PowerMeasurement × List Effect :=
  let deltaMwh := s.sCumulativeEnergyMwh - s.sLastPersistedEnergyMwh
  if deltaMwh ≤ 0 then
    (s, [])
  else
    let sincePersistMs := nowMs - s.sLastPersistMs
    let thresholdDue : Bool :=
      kEnergyPersistThresholdMwh ≤ deltaMwh ∧ kEnergyPersistMinIntervalMs ≤ sincePersistMs
    let maxIntervalDue : Bool := kEnergyPersistMaxIntervalMs ≤ sincePersistMs
    if !thresholdDue && !maxIntervalDue then
      (s, [])
    else if putErr ≠ .noError then
      (s, [.put s.sCumulativeEnergyMwh putErr])
    else
      ({ s with
          sLastPersistedEnergyMwh := s.sCumulativeEnergyMwh
          sLastPersistMs := nowMs },
        [.put s.sCumulativeEnergyMwh putErr])

/-- The value to report next and whether the attribute is marked dirty. -/
def reportIfMoved (s : PowerMeasurement) (value reported deadband : Int)
    (attributeId : AttributeId) :
    Int × List Effect :=
  let delta := if reported < value then value - reported else reported - value
  if s.sHaveReported ∧ delta < deadband then
    (reported, [])
  else
    (value, [.attributeChanged s.sEndpoint attributeId])

/-- The three `ReportIfMoved` calls. -/
def reportReadings (activePowerMw rmsVoltageMv rmsCurrentMa : Int) (s : PowerMeasurement) :
    PowerMeasurement × List Effect :=
  let power := s.reportIfMoved activePowerMw s.sReportedActivePowerMw kActivePowerDeadbandMw
    .activePower
  let voltage := s.reportIfMoved rmsVoltageMv s.sReportedRmsVoltageMv kRmsVoltageDeadbandMv
    .rmsVoltage
  let current := s.reportIfMoved rmsCurrentMa s.sReportedRmsCurrentMa kRmsCurrentDeadbandMa
    .rmsCurrent
  ({ s with
      sReportedActivePowerMw := power.1
      sReportedRmsVoltageMv := voltage.1
      sReportedRmsCurrentMa := current.1
      sHaveReported := true },
    power.2 ++ voltage.2 ++ current.2)

/-- The energy event, if a fabric is there to receive it and the last one is
old enough. -/
def reportEnergyIfDue (nowMs : Int) (fabricCount : Nat) (s : PowerMeasurement) :
    PowerMeasurement × List Effect :=
  if 0 < fabricCount ∧ kEnergyReportIntervalMs ≤ nowMs - s.sLastReportMs then
    ({ s with sLastReportMs := nowMs },
      [.notifyCumulativeEnergyMeasured s.sEndpoint s.sCumulativeEnergyMwh,
        .attributeChanged s.sEndpoint .cumulativeEnergyImported])
  else
    (s, [])

/-- The trapezoid between two samples, in mWh: two integer divisions. -/
def energyMwh (lastActivePowerMw activePowerMw elapsedMs : Int) : Int :=
  ((lastActivePowerMw + activePowerMw).tdiv 2 * elapsedMs).tdiv 3600000

/-- What a call does when there is a sample to integrate from. -/
def accumulate (u : Sample) (s : PowerMeasurement) : PowerMeasurement × List Effect :=
  let elapsedMs := u.nowMs - s.sLastSampleMs
  let s := { s with
    sCumulativeEnergyMwh := s.sCumulativeEnergyMwh +
      energyMwh s.sLastActivePowerMw u.activePowerMw elapsedMs }
  let persisted := s.persistCumulativeEnergyIfDue u.nowMs u.putErr
  let reported := persisted.1.reportEnergyIfDue u.nowMs u.fabricCount
  (reported.1, persisted.2 ++ reported.2)

def powerMeasurementUpdate (u : Sample) (s : PowerMeasurement) : PowerMeasurement × List Effect :=
  if s.sDelegate.isNone then
    (s, [])
  else
    let s := { s with sDelegate := some (.set u.activePowerMw u.rmsVoltageMv u.rmsCurrentMa) }
    let readings := s.reportReadings u.activePowerMw u.rmsVoltageMv u.rmsCurrentMa
    let energy :=
      if readings.1.sHaveLastSample then readings.1.accumulate u else (readings.1, [])
    ({ energy.1 with
        sLastActivePowerMw := u.activePowerMw
        sLastSampleMs := u.nowMs
        sHaveLastSample := true },
      readings.2 ++ energy.2)

/-- Each failing step undoes part of what came before it. -/
def powerMeasurementInit (endpoint : UInt16) (answers : InitAnswers) (s : PowerMeasurement) :
    PowerMeasurement × ChipError :=
  let s := { s with sEndpoint := endpoint, sDelegate := some {}, sInstance := true }
  if answers.instanceErr ≠ .noError then
    ({ s with sInstance := false, sDelegate := none }, answers.instanceErr)
  else
    let s := { s with sEnergyAttrAccess := true }
    if answers.attrAccessErr ≠ .noError then
      ({ s with sEnergyAttrAccess := false }, answers.attrAccessErr)
    else if answers.accuracyErr ≠ .noError then
      ({ s with sEnergyAttrAccess := false }, answers.accuracyErr)
    else
      (s.loadCumulativeEnergy answers.get, .noError)

/-! ## what one call does to the total -/

/-- The energy a call adds; the first call of a boot only primes the
integrator. -/
def stepMwh (u : Sample) (s : PowerMeasurement) : Int :=
  if s.sHaveLastSample then
    energyMwh s.sLastActivePowerMw u.activePowerMw (u.nowMs - s.sLastSampleMs)
  else
    0

def totalMwh (u : Sample) (s : PowerMeasurement) : Int := s.sCumulativeEnergyMwh + s.stepMwh u

/-- The call writes the total to the key-value store. -/
def PutDue (u : Sample) (s : PowerMeasurement) : Prop :=
  s.sHaveLastSample = true ∧ 0 < s.totalMwh u - s.sLastPersistedEnergyMwh ∧
    ((kEnergyPersistThresholdMwh ≤ s.totalMwh u - s.sLastPersistedEnergyMwh ∧
        kEnergyPersistMinIntervalMs ≤ u.nowMs - s.sLastPersistMs) ∨
      kEnergyPersistMaxIntervalMs ≤ u.nowMs - s.sLastPersistMs)

/-- The call reports the total. -/
def ReportDue (u : Sample) (s : PowerMeasurement) : Prop :=
  s.sHaveLastSample = true ∧ 0 < u.fabricCount ∧
    kEnergyReportIntervalMs ≤ u.nowMs - s.sLastReportMs

instance (u : Sample) (s : PowerMeasurement) : Decidable (s.PutDue u) :=
  inferInstanceAs (Decidable (_ ∧ _ ∧ (_ ∨ _)))

instance (u : Sample) (s : PowerMeasurement) : Decidable (s.ReportDue u) :=
  inferInstanceAs (Decidable (_ ∧ _ ∧ _))

/-- Energy is not negative. -/
theorem energyMwh_nonneg {last p elapsedMs : Int} (hlast : 0 ≤ last) (hp : 0 ≤ p)
    (helapsed : 0 ≤ elapsedMs) : 0 ≤ energyMwh last p elapsedMs := by
  have havg : 0 ≤ (last + p).tdiv 2 := Int.tdiv_nonneg (by omega) (by decide)
  exact Int.tdiv_nonneg (Int.mul_nonneg havg helapsed) (by decide)

/-- The two early returns as one condition. -/
theorem persistCumulativeEnergyIfDue_eq (nowMs : Int) (putErr : ChipError) (s : PowerMeasurement) :
    s.persistCumulativeEnergyIfDue nowMs putErr =
      if 0 < s.sCumulativeEnergyMwh - s.sLastPersistedEnergyMwh ∧
          ((kEnergyPersistThresholdMwh ≤ s.sCumulativeEnergyMwh - s.sLastPersistedEnergyMwh ∧
              kEnergyPersistMinIntervalMs ≤ nowMs - s.sLastPersistMs) ∨
            kEnergyPersistMaxIntervalMs ≤ nowMs - s.sLastPersistMs) then
        (if putErr = .noError then
            { s with
              sLastPersistedEnergyMwh := s.sCumulativeEnergyMwh
              sLastPersistMs := nowMs }
          else s,
          [.put s.sCumulativeEnergyMwh putErr])
      else
        (s, []) := by
  simp only [persistCumulativeEnergyIfDue]
  by_cases hdelta : s.sCumulativeEnergyMwh - s.sLastPersistedEnergyMwh ≤ 0
  · rw [if_pos hdelta, if_neg (by omega)]
  · rw [if_neg hdelta]
    by_cases hdue : (kEnergyPersistThresholdMwh ≤
          s.sCumulativeEnergyMwh - s.sLastPersistedEnergyMwh ∧
        kEnergyPersistMinIntervalMs ≤ nowMs - s.sLastPersistMs) ∨
      kEnergyPersistMaxIntervalMs ≤ nowMs - s.sLastPersistMs
    · have hdelta' : 0 < s.sCumulativeEnergyMwh - s.sLastPersistedEnergyMwh := by omega
      refine (if_neg ?_).trans (Eq.trans ?_ (if_pos ⟨hdelta', hdue⟩).symm)
      · simp
        omega
      · by_cases herr : putErr = .noError
        · rw [if_neg (not_not.mpr herr), if_pos herr]
        · rw [if_pos herr, if_neg herr]
    · refine (if_pos ?_).trans (if_neg fun h => hdue h.2).symm
      simp
      omega

/-- **What a call does** to the energy state and to the outside. -/
structure Updated (s : PowerMeasurement) (u : Sample) (s' : PowerMeasurement)
    (effects : List Effect) : Prop where
  delegate : s'.sDelegate.isSome = true
  primed : s'.sHaveLastSample = true
  power : s'.sLastActivePowerMw = u.activePowerMw
  clock : s'.sLastSampleMs = u.nowMs
  total : s'.sCumulativeEnergyMwh = s.totalMwh u
  persisted : s'.sLastPersistedEnergyMwh =
    if s.PutDue u ∧ u.putErr = .noError then s.totalMwh u else s.sLastPersistedEnergyMwh
  persistMs : s'.sLastPersistMs =
    if s.PutDue u ∧ u.putErr = .noError then u.nowMs else s.sLastPersistMs
  effects : ∃ dirty : List AttributeId,
    effects = dirty.map (Effect.attributeChanged s.sEndpoint) ++
      (if s.PutDue u then [.put (s.totalMwh u) u.putErr] else []) ++
      (if s.ReportDue u then
        [.notifyCumulativeEnergyMeasured s.sEndpoint (s.totalMwh u),
          .attributeChanged s.sEndpoint .cumulativeEnergyImported] else [])

/-- `ReportIfMoved` reports attributes and does nothing else. -/
theorem reportIfMoved_effects (s : PowerMeasurement) (value reported deadband : Int)
    (attributeId : AttributeId) :
    ∃ dirty : List AttributeId, (s.reportIfMoved value reported deadband attributeId).2 =
      dirty.map (Effect.attributeChanged s.sEndpoint) := by
  unfold reportIfMoved
  by_cases hquiet : s.sHaveReported ∧
      (if reported < value then value - reported else reported - value) < deadband
  · exact ⟨[], by rw [if_pos hquiet]; rfl⟩
  · exact ⟨[attributeId], by rw [if_neg hquiet]; rfl⟩

/-- Neither do the three of a call. -/
theorem reportReadings_effects (s : PowerMeasurement) (p v c : Int) :
    ∃ dirty : List AttributeId, (s.reportReadings p v c).2 =
      dirty.map (Effect.attributeChanged s.sEndpoint) := by
  obtain ⟨dp, hp⟩ := s.reportIfMoved_effects p s.sReportedActivePowerMw kActivePowerDeadbandMw
    .activePower
  obtain ⟨dv, hv⟩ := s.reportIfMoved_effects v s.sReportedRmsVoltageMv kRmsVoltageDeadbandMv
    .rmsVoltage
  obtain ⟨dc, hc⟩ := s.reportIfMoved_effects c s.sReportedRmsCurrentMa kRmsCurrentDeadbandMa
    .rmsCurrent
  refine ⟨dp ++ dv ++ dc, ?_⟩
  simp only [reportReadings]
  rw [hp, hv, hc, List.map_append, List.map_append]

/-- Without a delegate a call does nothing. -/
theorem powerMeasurementUpdate_of_none {s : PowerMeasurement} (h : s.sDelegate = none)
    (u : Sample) : s.powerMeasurementUpdate u = (s, []) := by
  rw [powerMeasurementUpdate, h]
  rfl

/-- The energy part of a call that has a sample to integrate from. -/
theorem accumulate_eq (u : Sample) {s : PowerMeasurement} (h : s.sHaveLastSample = true) :
    s.accumulate u =
      ({ s with
          sCumulativeEnergyMwh := s.totalMwh u
          sLastPersistedEnergyMwh :=
            if s.PutDue u ∧ u.putErr = .noError then s.totalMwh u else s.sLastPersistedEnergyMwh
          sLastPersistMs :=
            if s.PutDue u ∧ u.putErr = .noError then u.nowMs else s.sLastPersistMs
          sLastReportMs := if s.ReportDue u then u.nowMs else s.sLastReportMs },
        (if s.PutDue u then [.put (s.totalMwh u) u.putErr] else []) ++
          (if s.ReportDue u then
            [.notifyCumulativeEnergyMeasured s.sEndpoint (s.totalMwh u),
              .attributeChanged s.sEndpoint .cumulativeEnergyImported] else [])) := by
  have hstep : s.sCumulativeEnergyMwh +
      energyMwh s.sLastActivePowerMw u.activePowerMw (u.nowMs - s.sLastSampleMs) =
        s.totalMwh u := by
    rw [totalMwh, stepMwh, if_pos h]
  have hput : (0 < s.totalMwh u - s.sLastPersistedEnergyMwh ∧
      ((kEnergyPersistThresholdMwh ≤ s.totalMwh u - s.sLastPersistedEnergyMwh ∧
          kEnergyPersistMinIntervalMs ≤ u.nowMs - s.sLastPersistMs) ∨
        kEnergyPersistMaxIntervalMs ≤ u.nowMs - s.sLastPersistMs)) ↔ s.PutDue u := by
    simp only [PutDue, h, true_and]
  have hreport : (0 < u.fabricCount ∧ kEnergyReportIntervalMs ≤ u.nowMs - s.sLastReportMs) ↔
      s.ReportDue u := by
    simp only [ReportDue, h, true_and]
  simp only [accumulate, hstep, persistCumulativeEnergyIfDue_eq, hput, reportEnergyIfDue]
  by_cases hp : s.PutDue u
  · by_cases herr : u.putErr = .noError
    · simp only [hp, herr, if_true, true_and, hreport]
      by_cases hr : s.ReportDue u
      · simp only [hr, if_true]
      · simp only [hr, if_false]
    · simp only [hp, herr, if_true, if_false, and_false, hreport]
      by_cases hr : s.ReportDue u
      · simp only [hr, if_true]
      · simp only [hr, if_false]
  · simp only [hp, if_false, false_and, hreport]
    by_cases hr : s.ReportDue u
    · simp only [hr, if_true]
    · simp only [hr, if_false]

/-- A call that is not turned away, in one equation. -/
theorem powerMeasurementUpdate_eq (u : Sample) {s : PowerMeasurement}
    (h : s.sDelegate.isSome = true) :
    s.powerMeasurementUpdate u =
      let readings := s.reportReadings u.activePowerMw u.rmsVoltageMv u.rmsCurrentMa
      ({ readings.1 with
          sDelegate := some (.set u.activePowerMw u.rmsVoltageMv u.rmsCurrentMa)
          sHaveLastSample := true
          sLastActivePowerMw := u.activePowerMw
          sLastSampleMs := u.nowMs
          sCumulativeEnergyMwh := s.totalMwh u
          sLastPersistedEnergyMwh :=
            if s.PutDue u ∧ u.putErr = .noError then s.totalMwh u else s.sLastPersistedEnergyMwh
          sLastPersistMs :=
            if s.PutDue u ∧ u.putErr = .noError then u.nowMs else s.sLastPersistMs
          sLastReportMs := if s.ReportDue u then u.nowMs else s.sLastReportMs },
        readings.2 ++ ((if s.PutDue u then [.put (s.totalMwh u) u.putErr] else []) ++
          (if s.ReportDue u then
            [.notifyCumulativeEnergyMeasured s.sEndpoint (s.totalMwh u),
              .attributeChanged s.sEndpoint .cumulativeEnergyImported] else []))) := by
  have hnone : ¬ s.sDelegate.isNone = true := by
    rw [Option.isNone_iff_eq_none, ← Option.not_isSome_iff_eq_none, h]
    simp
  let s₁ := { s with sDelegate := some (.set u.activePowerMw u.rmsVoltageMv u.rmsCurrentMa) }
  let s₂ := (s₁.reportReadings u.activePowerMw u.rmsVoltageMv u.rmsCurrentMa).1
  rw [powerMeasurementUpdate, if_neg hnone]
  by_cases hprimed : s.sHaveLastSample = true
  · have hprimed₂ : s₂.sHaveLastSample = true := hprimed
    simp only
    rw [if_pos hprimed₂, accumulate_eq u hprimed₂]
    rfl
  · have hput : ¬ s.PutDue u := fun hdue => hprimed hdue.1
    have hreport : ¬ s.ReportDue u := fun hdue => hprimed hdue.1
    have htotal : s.totalMwh u = s.sCumulativeEnergyMwh := by
      rw [totalMwh, stepMwh, if_neg hprimed, Int.add_zero]
    have hprimed₂ : ¬ s₂.sHaveLastSample = true := hprimed
    simp only [hput, hreport, htotal, false_and, if_false]
    rw [if_neg hprimed₂]
    rfl

/-- What a call does, field by field. -/
theorem updated (u : Sample) {s : PowerMeasurement} (h : s.sDelegate.isSome = true) :
    Updated s u (s.powerMeasurementUpdate u).1 (s.powerMeasurementUpdate u).2 := by
  obtain ⟨dirty, hdirty⟩ :=
    s.reportReadings_effects u.activePowerMw u.rmsVoltageMv u.rmsCurrentMa
  rw [powerMeasurementUpdate_eq u h]
  exact {
    delegate := rfl
    primed := rfl
    power := rfl
    clock := rfl
    total := rfl
    persisted := rfl
    persistMs := rfl
    effects := ⟨dirty, by simp only [hdirty, List.append_assoc]⟩ }

/-- The effects of a call: dirty marks, at most one `Put` of the total and at
most one notification of it. -/
theorem mem_effects {u : Sample} {s : PowerMeasurement} {e : Effect}
    (he : e ∈ (s.powerMeasurementUpdate u).2) :
    (∃ attributeId, e = .attributeChanged s.sEndpoint attributeId) ∨
      (s.PutDue u ∧ e = .put (s.totalMwh u) u.putErr) ∨
      (s.ReportDue u ∧ e = .notifyCumulativeEnergyMeasured s.sEndpoint (s.totalMwh u)) := by
  cases hdelegate : s.sDelegate with
  | none =>
      rw [powerMeasurementUpdate_of_none hdelegate] at he
      contradiction
  | some delegate =>
      obtain ⟨dirty, heffects⟩ := (updated u (s := s) (by rw [hdelegate]; rfl)).effects
      rw [heffects, List.mem_append, List.mem_append, List.mem_map] at he
      rcases he with (⟨attributeId, -, rfl⟩ | he) | he
      · exact Or.inl ⟨attributeId, rfl⟩
      · by_cases hput : s.PutDue u
        · rw [if_pos hput, List.mem_singleton] at he
          exact Or.inr (Or.inl ⟨hput, he⟩)
        · rw [if_neg hput] at he
          contradiction
      · by_cases hreport : s.ReportDue u
        · rw [if_pos hreport, List.mem_cons, List.mem_singleton] at he
          cases he with
          | inl he => exact Or.inr (Or.inr ⟨hreport, he⟩)
          | inr he => exact Or.inl ⟨_, he⟩
        · rw [if_neg hreport] at he
          contradiction

end PowerMeasurement

end UascentPlug

import UascentPlug.Lib.Rounding
import UascentPlug.Metering

/-!
# UascentPlug.Metering.Changes

What subscribers see of the readings.  `ReportIfMoved` alone would let a value
creep by almost a deadband, but the driver cannot produce two readings that
close: a reading is a whole count per second times 10^6, divided, and each of
the three deadbands is below the smallest step (`deadband_le_sub`).  So every
change is marked, and nothing else is (`changes_are_reported`).
-/

namespace UascentPlug

open PowerMeasurement

/-! ## readings are far apart -/

/-- A value `MeterPoll` can publish with divisor `k`. -/
def IsReading (k : Nat) (v : Int) : Prop := ∃ rate : Nat, v = reading k rate

/-- Zero is a reading. -/
theorem isReading_zero (k : Nat) : IsReading k 0 := ⟨0, by simp [reading]⟩

/-- So is every scaled rate. -/
theorem isReading_scaled (rate : UInt32) (k : Nat) : IsReading k (scaled rate (k : Int)) :=
  ⟨rate.toNat, scaled_eq_reading rate k⟩

/-- Two readings that differ do so by the deadband at least. -/
theorem deadband_le_sub {k deadband : Nat} (hk : deadband ≤ 1000000 / k) {v w : Int}
    (hv : IsReading k v) (hw : IsReading k w) (h : v < w) : (deadband : Int) ≤ w - v := by
  obtain ⟨a, rfl⟩ := hv
  obtain ⟨b, rfl⟩ := hw
  rw [reading, reading] at h ⊢
  have hspaced := Rounding.spaced_of_lt (Int.ofNat_lt.mp h)
  omega

namespace Meter

/-- The three cached readings are values `MeterPoll` can publish. -/
structure CachesReadings (m : Meter) : Prop where
  power : IsReading 775 m.sLastActivePowerMw
  voltage : IsReading 8077 m.sLastRmsVoltageMv
  current : IsReading 91636 m.sLastRmsCurrentMa

/-- After `MeterInit` the cached readings are zero. -/
theorem cachesReadings_meterInit (isReady : MeterPin → Bool) :
    (meterInit isReady {}).CachesReadings := by
  unfold meterInit
  split <;> exact ⟨isReading_zero _, isReading_zero _, isReading_zero _⟩

/-- A CF sample leaves a reading. -/
theorem CachesReadings.pushCf {m : Meter} (h : m.CachesReadings) (rate : UInt32) :
    (m.pushCf rate).CachesReadings := by
  rw [pushCf_eq]
  refine ⟨?_, h.voltage, h.current⟩
  cases (m.sCfFilter.push rate).2 with
  | none => exact h.power
  | some median => exact isReading_scaled median 775

/-- So does a CF1 sample. -/
theorem CachesReadings.pushCf1 {m : Meter} (h : m.CachesReadings) (rate : UInt32) :
    (m.pushCf1 rate).CachesReadings := by
  cases hpush : (m.sCf1Filter.push rate).2 with
  | none =>
      rw [pushCf1_of_none hpush]
      exact ⟨h.power, h.voltage, h.current⟩
  | some median =>
      rw [pushCf1_of_some hpush]
      cases hsel : m.sSelIsVoltage with
      | true => exact ⟨h.power, isReading_scaled median 8077, h.current⟩
      | false => exact ⟨h.power, h.voltage, isReading_scaled median 91636⟩

/-- **Step lemma**: a poll caches readings only. -/
theorem CachesReadings.poll {m : Meter} (h : m.CachesReadings) (cfg : Option OverPowerConfig)
    (i : Poll × Bool) : ((meterMachine cfg).step m i).1.CachesReadings := by
  obtain ⟨p, relayIsOn⟩ := i
  simp only [meterMachine]
  cases hw : p.window m.stamp with
  | none =>
      rw [poll_of_window_none m.stampIs_stamp hw cfg relayIsOn]
      exact ⟨h.power, h.voltage, h.current⟩
  | some w =>
      rw [poll_of_window_some m.stampIs_stamp hw cfg relayIsOn]
      simp only [measure]
      rw [protect_eq]
      apply CachesReadings.pushCf1
      apply CachesReadings.pushCf
      exact ⟨h.power, h.voltage, h.current⟩

/-- **Run lemma**: so does every run of polls. -/
theorem CachesReadings.run {m : Meter} (h : m.CachesReadings) (cfg : Option OverPowerConfig)
    (is : List (Poll × Bool)) : ((meterMachine cfg).exec m is).CachesReadings := by
  induction is generalizing m with
  | nil => exact h
  | cons i is ih => exact ih (h.poll cfg i)

end Meter

/-! ## the three calls of ReportIfMoved -/

def MeasurementType.attributeId : MeasurementType → AttributeId
  | .activePower => .activePower
  | .rmsVoltage => .rmsVoltage
  | .rmsCurrent => .rmsCurrent

/-- The calibration divisor of a quantity. -/
def MeasurementType.divisor : MeasurementType → Nat
  | .activePower => 775
  | .rmsVoltage => 8077
  | .rmsCurrent => 91636

/-- The argument of the call for a quantity. -/
def Sample.value (u : Sample) : MeasurementType → Int
  | .activePower => u.activePowerMw
  | .rmsVoltage => u.rmsVoltageMv
  | .rmsCurrent => u.rmsCurrentMa

namespace PowerMeasurement

/-- The value last reported for a quantity. -/
def reported (s : PowerMeasurement) : MeasurementType → Int
  | .activePower => s.sReportedActivePowerMw
  | .rmsVoltage => s.sReportedRmsVoltageMv
  | .rmsCurrent => s.sReportedRmsCurrentMa

/-- Where the deadband is below the smallest step, it withholds no change. -/
theorem reportIfMoved_eq (k deadband : Nat) {s : PowerMeasurement} {value reported : Int}
    (hpos : 0 < deadband) (hk : deadband ≤ 1000000 / k) (hvalue : IsReading k value)
    (hreported : s.sHaveReported = true → IsReading k reported) (attributeId : AttributeId) :
    s.reportIfMoved value reported deadband attributeId =
      (value, if s.sHaveReported ∧ reported = value then []
        else [.attributeChanged s.sEndpoint attributeId]) := by
  unfold reportIfMoved
  by_cases hfirst : s.sHaveReported = true
  · have hreading := hreported hfirst
    obtain hlt | rfl | hgt := Int.lt_trichotomy reported value
    · simp [hfirst, hlt, Int.ne_of_lt hlt, deadband_le_sub hk hreading hvalue hlt]
    · simp [hfirst, hpos]
    · have hnot : ¬ reported < value := Int.not_lt.mpr (Int.le_of_lt hgt)
      simp [hfirst, hnot, Int.ne_of_gt hgt, deadband_le_sub hk hvalue hreading hgt]
  · simp [hfirst]

/-- The quantities of a call that differ from what was last reported. -/
def changed (s : PowerMeasurement) (u : Sample) : List MeasurementType :=
  [.activePower, .rmsVoltage, .rmsCurrent].filter fun t =>
    !(s.sHaveReported && s.reported t == u.value t)

/-- The three calls report everything and mark what changed. -/
theorem reportReadings_eq {s : PowerMeasurement} {u : Sample}
    (hu : ∀ t, IsReading t.divisor (u.value t))
    (hs : s.sHaveReported = true → ∀ t, IsReading t.divisor (s.reported t)) :
    s.reportReadings u.activePowerMw u.rmsVoltageMv u.rmsCurrentMa =
      ({ s with
          sReportedActivePowerMw := u.activePowerMw
          sReportedRmsVoltageMv := u.rmsVoltageMv
          sReportedRmsCurrentMa := u.rmsCurrentMa
          sHaveReported := true },
        (s.changed u).map fun t => .attributeChanged s.sEndpoint t.attributeId) := by
  have hp : s.reportIfMoved u.activePowerMw s.sReportedActivePowerMw kActivePowerDeadbandMw
      .activePower = _ :=
    reportIfMoved_eq 775 50 (by decide) (by decide) (hu .activePower) (hs · .activePower) _
  have hv : s.reportIfMoved u.rmsVoltageMv s.sReportedRmsVoltageMv kRmsVoltageDeadbandMv
      .rmsVoltage = _ :=
    reportIfMoved_eq 8077 100 (by decide) (by decide) (hu .rmsVoltage) (hs · .rmsVoltage) _
  have hc : s.reportIfMoved u.rmsCurrentMa s.sReportedRmsCurrentMa kRmsCurrentDeadbandMa
      .rmsCurrent = _ :=
    reportIfMoved_eq 91636 3 (by decide) (by decide) (hu .rmsCurrent) (hs · .rmsCurrent) _
  simp only [reportReadings]
  rw [hp, hv, hc]
  refine Prod.ext rfl ?_
  simp only [changed, List.filter_cons, List.filter_nil, reported, Sample.value]
  by_cases hfirst : s.sHaveReported = true
  · by_cases hsameP : s.sReportedActivePowerMw = u.activePowerMw <;>
    by_cases hsameV : s.sReportedRmsVoltageMv = u.rmsVoltageMv <;>
    by_cases hsameC : s.sReportedRmsCurrentMa = u.rmsCurrentMa <;>
    simp [hfirst, hsameP, hsameV, hsameC, MeasurementType.attributeId]
  · simp [hfirst, MeasurementType.attributeId]

end PowerMeasurement

/-! ## marks of a run -/

/-- A mark of one of the three readings. -/
def Effect.isReadingMark : Effect → Bool
  | .attributeChanged _ .cumulativeEnergyImported => false
  | .attributeChanged _ _ => true
  | _ => false

/-- The marks of readings a call makes, in order. -/
def readingMarks (effects : List Effect) : List Effect := effects.filter Effect.isReadingMark

/-- The quantities of a call that differ from the call before it, all of them
if there is none. -/
def Sample.changedSince (u : Sample) (prev : Option Sample) : List MeasurementType :=
  [.activePower, .rmsVoltage, .rmsCurrent].filter fun t =>
    match prev with
    | none => true
    | some v => v.value t != u.value t

/-- The mark of a quantity. -/
def readingMark (endpoint : UInt16) (t : MeasurementType) : Effect :=
  .attributeChanged endpoint t.attributeId

/-- Every mark of a reading is one. -/
theorem readingMarks_map (endpoint : UInt16) (ts : List MeasurementType) :
    readingMarks (ts.map (readingMark endpoint)) = ts.map (readingMark endpoint) := by
  rw [readingMarks, List.filter_eq_self]
  intro e he
  obtain ⟨t, -, rfl⟩ := List.mem_map.mp he
  cases t <;> rfl

namespace Metering

/-- The measurement module has reported `prev`, and the driver's readings. -/
structure Reporting (endpoint : UInt16) (prev : Option Sample) (s : Metering) : Prop where
  delegate : s.pm.sDelegate.isSome = true
  endpoint : s.pm.sEndpoint = endpoint
  caches : s.meter.CachesReadings
  readings : s.pm.sHaveReported = true → ∀ t, IsReading t.divisor (s.pm.reported t)
  first : prev = none → s.pm.sHaveReported = false
  later : ∀ u, prev = some u → s.pm.sHaveReported = true ∧ ∀ t, s.pm.reported t = u.value t

/-- Nothing has been published after `PowerMeasurementInit`. -/
theorem reporting_start {m : Meter} {endpoint : UInt16} {answers : InitAnswers}
    (hm : m.CachesReadings)
    (hok : (({} : PowerMeasurement).powerMeasurementInit endpoint answers).2 = .noError) :
    (start m endpoint answers).Reporting endpoint none := by
  obtain ⟨hdelegate, hendpoint, hreported, -⟩ := pm_start m hok
  constructor
  case delegate => rw [hdelegate]; rfl
  case endpoint => exact hendpoint
  case caches => exact hm
  case readings => simp [hreported]
  case first => exact fun _ => hreported
  case later => simp

namespace Reporting

variable {endpoint : UInt16} {prev : Option Sample} {s : Metering}

/-- A poll publishes values the driver can publish. -/
theorem published_readings (h : s.Reporting endpoint prev) (cfg : Option OverPowerConfig)
    (i : MeteringPoll) (t : MeasurementType) :
    IsReading t.divisor ((s.published cfg i).value t) := by
  have hcaches := h.caches.poll cfg i.meterPoll
  cases t with
  | activePower => exact hcaches.power
  | rmsVoltage => exact hcaches.voltage
  | rmsCurrent => exact hcaches.current

/-- What a valid poll does to the measurement module and to subscribers. -/
theorem update (h : s.Reporting endpoint prev) (cfg : Option OverPowerConfig) (i : MeteringPoll) :
    let u := s.published cfg i
    let r := s.pm.powerMeasurementUpdate u
    (∀ t, r.1.reported t = u.value t) ∧ r.1.sHaveReported = true ∧ r.1.sDelegate.isSome = true ∧
      r.1.sEndpoint = endpoint ∧
      readingMarks r.2 = (s.pm.changed u).map (readingMark endpoint) := by
  intro u r
  have hreadings := reportReadings_eq (h.published_readings cfg i) h.readings
  have hupdate : r = _ := powerMeasurementUpdate_eq u h.delegate
  rw [hreadings] at hupdate
  rw [hupdate]
  refine ⟨fun t => by cases t <;> rfl, rfl, rfl, h.endpoint, ?_⟩
  have henergy : readingMarks ((if s.pm.PutDue u then [.put (s.pm.totalMwh u) u.putErr] else []) ++
      (if s.pm.ReportDue u then
        [.notifyCumulativeEnergyMeasured s.pm.sEndpoint (s.pm.totalMwh u),
          .attributeChanged s.pm.sEndpoint .cumulativeEnergyImported] else [])) = [] := by
    split <;> split <;> rfl
  have hmarks := readingMarks_map s.pm.sEndpoint (s.pm.changed u)
  rw [readingMarks] at henergy hmarks ⊢
  rw [← h.endpoint, List.filter_append, henergy, List.append_nil]
  exact hmarks

/-- **Step lemma**: a poll keeps what was reported last. -/
theorem step (h : s.Reporting endpoint prev) (cfg : Option OverPowerConfig) (i : MeteringPoll) :
    ((metering cfg).step s i).1.Reporting endpoint
      ((((metering cfg).step s i).2.getLast?.map Publication.sample).or prev) := by
  cases hvalid : s.validPoll i with
  | false =>
      rw [step_of_not_valid hvalid]
      exact { h with caches := ⟨h.caches.power, h.caches.voltage, h.caches.current⟩ }
  | true =>
      rw [step_of_valid hvalid]
      obtain ⟨hreported, hhave, hdelegate, hendpoint, -⟩ := h.update cfg i
      constructor
      case delegate => exact hdelegate
      case endpoint => exact hendpoint
      case caches => exact h.caches.poll cfg i.meterPoll
      case readings =>
          intro _ t
          exact (hreported t).symm ▸ h.published_readings cfg i t
      case first => simp
      case later =>
          intro u hu
          obtain rfl := Option.some.inj hu
          exact ⟨hhave, hreported⟩

end Reporting

/-- **Run lemma**: what was reported last is what the last poll published. -/
theorem reporting_of_run {endpoint : UInt16} {s : Metering} (h : s.Reporting endpoint none)
    (cfg : Option OverPowerConfig) (is : List MeteringPoll) :
    ((metering cfg).exec s is).Reporting endpoint
      (((metering cfg).trace s is).getLast?.map Publication.sample) := by
  induction is using List.reverseRecOn with
  | nil => exact h
  | append_singleton is i ih =>
      rw [Mealy.exec_append, Mealy.trace_append, List.getLast?_append, Mealy.trace_cons,
        Mealy.trace_nil, List.append_nil, Option.map_or]
      exact ih.step cfg i

/-- What differs from the last report is what differs from the last poll. -/
theorem Reporting.changed_eq {endpoint : UInt16} {prev : Option Sample} {s : Metering}
    (h : s.Reporting endpoint prev) (u : Sample) : s.pm.changed u = u.changedSince prev := by
  cases hprev : prev with
  | none => simp [changed, Sample.changedSince, h.first hprev]
  | some v =>
      obtain ⟨hhave, hsame⟩ := h.later v hprev
      simp [changed, Sample.changedSince, hhave, hsame, bne]

/-- **Every change reaches subscribers and nothing else does.**  After any run
of polls that follows a successful `PowerMeasurementInit`, a poll that calls
`PowerMeasurementUpdate` leaves exactly its readings as last reported, and
marks exactly the quantities that differ from the last such call, or all three
if there was none. -/
theorem changes_are_reported (cfg : Option OverPowerConfig) (isReady : MeterPin → Bool)
    (before : List (Poll × Bool)) {endpoint : UInt16} {answers : InitAnswers}
    (hok : (({} : PowerMeasurement).powerMeasurementInit endpoint answers).2 = .noError)
    (is : List MeteringPoll) (i : MeteringPoll) :
    let s₀ := start ((meterMachine cfg).exec (Meter.meterInit isReady {}) before) endpoint answers
    let r := (metering cfg).step ((metering cfg).exec s₀ is) i
    let prev := ((metering cfg).trace s₀ is).getLast?.map Publication.sample
    ∀ publication ∈ r.2,
      (∀ t, r.1.pm.reported t = publication.sample.value t) ∧
        readingMarks publication.effects =
          (publication.sample.changedSince prev).map (readingMark endpoint) := by
  intro s₀ r prev publication hpublication
  have hstart : s₀.Reporting endpoint none :=
    reporting_start ((Meter.cachesReadings_meterInit isReady).run cfg before) hok
  have hrun := reporting_of_run hstart cfg is
  cases hvalid : ((metering cfg).exec s₀ is).validPoll i with
  | false =>
      have hr : r = _ := step_of_not_valid hvalid
      rw [hr] at hpublication
      contradiction
  | true =>
      have hr : r = _ := step_of_valid hvalid
      obtain ⟨hreported, -, -, -, hmarks⟩ := hrun.update cfg i
      rw [hr] at hpublication ⊢
      obtain rfl := List.mem_singleton.mp hpublication
      rw [hrun.changed_eq] at hmarks
      exact ⟨hreported, hmarks⟩

/-- The first complete block changes the power from 0 W to 258 W. -/
theorem first_block_is_reported :
    let s₀ := start (Meter.meterInit (fun _ => true) {}) 1 { get := (.noError, 0) }
    let is : List MeteringPoll := [{ poll := ⟨1000, 0, 0⟩, updateMs := 1000 },
      { poll := ⟨2000, 200, 0⟩, updateMs := 2000 }, { poll := ⟨3000, 200, 0⟩, updateMs := 3000 }]
    let i : MeteringPoll := { poll := ⟨4000, 200, 0⟩, updateMs := 4001 }
    let r := (metering none).step ((metering none).exec s₀ is) i
    let publication : Publication :=
      { sample := i.sample 258064 0 0, effects := [readingMark 1 .activePower] }
    (∀ t, r.1.pm.reported t = publication.sample.value t) ∧
      readingMarks publication.effects = [.activePower].map (readingMark 1) := by
  intro s₀ is i r publication
  have hpublication : publication ∈ r.2 := by decide
  exact changes_are_reported none (fun _ => true) [] rfl is i publication hpublication

end Metering

end UascentPlug

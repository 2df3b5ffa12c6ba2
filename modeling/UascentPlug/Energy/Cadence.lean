import Mathlib.Data.List.Induction
import UascentPlug.Energy.Device
import UascentPlug.Lib.Spacing

/-!
# UascentPlug.Energy.Cadence

When the total is written and when it is reported, told from the outside: what
has been written and reported so far in a boot decides it, and the statics keep
nothing else of it (`Recorded`).  So a call that finds a write due and fails is
followed by calls that try again, and reports are at least a minute apart and,
while a fabric is there, never a minute old.

Totals are exact here; a report depends on uptimes only, and a write on how far
two totals are apart.
-/

namespace UascentPlug

open PowerMeasurement

/-! ## what a boot has written and reported -/

/-- The `Put`s that went through, each with its time and total. -/
def storedPuts : List (Int × Effect) → List (Int × Int)
  | [] => []
  | (nowMs, .put mwh .noError) :: os => (nowMs, mwh) :: storedPuts os
  | (_, _) :: os => storedPuts os

/-- When the total was reported. -/
def reportTimes : List (Int × Effect) → List Int
  | [] => []
  | (nowMs, .notifyCumulativeEnergyMeasured _ _) :: os => nowMs :: reportTimes os
  | (_, _) :: os => reportTimes os

/-- The calls of a boot. -/
def calls (us : List Sample) : List DeviceEvent := us.map .update

@[simp] theorem storedPuts_append (os os' : List (Int × Effect)) :
    storedPuts (os ++ os') = storedPuts os ++ storedPuts os' := by
  induction os with
  | nil => rfl
  | cons o os ih =>
      obtain ⟨nowMs, e⟩ := o
      cases e with
      | attributeChanged endpoint attributeId => exact ih
      | put mwh err =>
          cases err with
          | noError => exact congrArg ((nowMs, mwh) :: ·) ih
          | persistedStorageValueNotFound => exact ih
          | other => exact ih
      | notifyCumulativeEnergyMeasured endpoint mwh => exact ih

@[simp] theorem reportTimes_append (os os' : List (Int × Effect)) :
    reportTimes (os ++ os') = reportTimes os ++ reportTimes os' := by
  induction os with
  | nil => rfl
  | cons o os ih =>
      obtain ⟨nowMs, e⟩ := o
      cases e with
      | attributeChanged endpoint attributeId => exact ih
      | put mwh err => exact ih
      | notifyCumulativeEnergyMeasured endpoint mwh => exact congrArg (nowMs :: ·) ih

/-- Attribute reports store nothing. -/
theorem storedPuts_dirty (nowMs : Int) (endpoint : UInt16) (dirty : List AttributeId) :
    storedPuts ((dirty.map (Effect.attributeChanged endpoint)).map fun e => (nowMs, e)) = [] := by
  induction dirty with
  | nil => rfl
  | cons attributeId dirty ih => exact ih

/-- Attribute reports are not reports of the total. -/
theorem reportTimes_dirty (nowMs : Int) (endpoint : UInt16) (dirty : List AttributeId) :
    reportTimes ((dirty.map (Effect.attributeChanged endpoint)).map fun e => (nowMs, e)) = [] := by
  induction dirty with
  | nil => rfl
  | cons attributeId dirty ih => exact ih

/-- A call stores the total at most once. -/
theorem storedPuts_update {d : Device} (hdelegate : d.pm.sDelegate.isSome = true) (u : Sample) :
    storedPuts (device.step d (.update u)).2 =
      if d.pm.PutDue u ∧ u.putErr = .noError then [(u.nowMs, d.pm.totalMwh u)] else [] := by
  obtain ⟨dirty, heffects⟩ := (updated u hdelegate).effects
  simp only [device, heffects, List.map_append, storedPuts_append, storedPuts_dirty,
    List.nil_append]
  by_cases hput : d.pm.PutDue u
  · cases herr : u.putErr with
    | noError => by_cases hreport : d.pm.ReportDue u <;> simp [hput, hreport, storedPuts]
    | _ => by_cases hreport : d.pm.ReportDue u <;> simp [hput, hreport, storedPuts]
  · by_cases hreport : d.pm.ReportDue u <;> simp [hput, hreport, storedPuts]

/-- A call reports the total at most once. -/
theorem reportTimes_update {d : Device} (hdelegate : d.pm.sDelegate.isSome = true) (u : Sample) :
    reportTimes (device.step d (.update u)).2 = if d.pm.ReportDue u then [u.nowMs] else [] := by
  obtain ⟨dirty, heffects⟩ := (updated u hdelegate).effects
  simp only [device, heffects, List.map_append, reportTimes_append, reportTimes_dirty,
    List.nil_append]
  by_cases hput : d.pm.PutDue u <;> by_cases hreport : d.pm.ReportDue u <;>
    simp [hput, hreport, reportTimes]

/-- The time of the last report of a boot, 0 if there is none yet. -/
def lastReportMs (os : List (Int × Effect)) : Int := (reportTimes os).getLast?.getD 0

/-- The last write of a boot that went through: its time and total, at first the
boot itself and the total it loaded. -/
def lastStored (loaded : Int) (os : List (Int × Effect)) : Int × Int :=
  (storedPuts os).getLast?.getD (0, loaded)

/-- The last report is that of the later effects, if they have one. -/
theorem lastReportMs_append (os os' : List (Int × Effect)) :
    lastReportMs (os ++ os') = (reportTimes os').getLast?.getD (lastReportMs os) := by
  rw [lastReportMs, reportTimes_append, List.getLast?_append]
  cases (reportTimes os').getLast? with
  | none => rfl
  | some nowMs => rfl

/-- The last stored total is that of the later effects, if they have one. -/
theorem lastStored_append (loaded : Int) (os os' : List (Int × Effect)) :
    lastStored loaded (os ++ os') = (storedPuts os').getLast?.getD (lastStored loaded os) := by
  rw [lastStored, storedPuts_append, List.getLast?_append]
  cases (storedPuts os').getLast? with
  | none => rfl
  | some stored => rfl

/-! ## the statics record it -/

/-- A call moves `sLastReportMs` exactly when it reports. -/
theorem sLastReportMs_update (u : Sample) {s : PowerMeasurement} (h : s.sDelegate.isSome = true) :
    (s.powerMeasurementUpdate u).1.sLastReportMs =
      if s.ReportDue u then u.nowMs else s.sLastReportMs := by
  rw [powerMeasurementUpdate_eq u h]

/-- The statics record what a boot has written and reported, and whether it has
called before. -/
structure Recorded (loaded : Int) (us : List Sample) (os : List (Int × Effect)) (d : Device) :
    Prop where
  delegate : d.pm.sDelegate.isSome = true
  primed : d.pm.sHaveLastSample = true ↔ us ≠ []
  reportMs : d.pm.sLastReportMs = lastReportMs os
  stored : (d.pm.sLastPersistMs, d.pm.sLastPersistedEnergyMwh) = lastStored loaded os

/-- **Run lemma**: they do after every run of calls. -/
theorem recorded_of_run (d : Device) (readErr : ChipError) (us : List Sample) :
    Recorded (loadedMwh (kvsGet readErr d.kvs)) us
      (device.trace (device.step d (.boot readErr)).1 (calls us))
      (device.exec (device.step d (.boot readErr)).1 (calls us)) := by
  induction us using List.reverseRecOn with
  | nil =>
      simp only [calls, List.map_nil, Mealy.trace_nil, Mealy.exec_nil, device, booted_eq]
      exact ⟨rfl, by simp, rfl, rfl⟩
  | append_singleton us u ih =>
      have hcalls : calls (us ++ [u]) = calls us ++ [.update u] := List.map_append
      rw [hcalls, Mealy.trace_append, Mealy.exec_append]
      generalize device.exec (device.step d (.boot readErr)).1 (calls us) = d' at ih ⊢
      generalize device.trace (device.step d (.boot readErr)).1 (calls us) = os at ih ⊢
      have hupdated := updated u ih.delegate
      have hstored := storedPuts_update ih.delegate u
      have hreported := reportTimes_update ih.delegate u
      simp only [Mealy.trace_cons, Mealy.trace_nil, List.append_nil, Mealy.exec_cons,
        Mealy.exec_nil]
      refine ⟨hupdated.delegate, iff_of_true hupdated.primed (by simp), ?_, ?_⟩
      · rw [lastReportMs_append, hreported, ← ih.reportMs]
        have hlast := sLastReportMs_update u ih.delegate
        by_cases hdue : d'.pm.ReportDue u
        · rw [if_pos hdue] at hlast ⊢
          exact hlast
        · rw [if_neg hdue] at hlast ⊢
          exact hlast
      · rw [lastStored_append, hstored, ← ih.stored]
        have hpersisted := hupdated.persisted
        have hpersistMs := hupdated.persistMs
        by_cases hdue : d'.pm.PutDue u ∧ u.putErr = .noError
        · rw [if_pos hdue] at hpersisted hpersistMs ⊢
          exact Prod.ext hpersistMs hpersisted
        · rw [if_neg hdue] at hpersisted hpersistMs ⊢
          exact Prod.ext hpersistMs hpersisted

/-! ## reports -/

namespace Recorded

variable {loaded : Int} {us : List Sample} {os : List (Int × Effect)} {d : Device}

/-- A report is due when the history says so. -/
theorem reportDue_iff (h : Recorded loaded us os d) (u : Sample) :
    d.pm.ReportDue u ↔
      us ≠ [] ∧ 0 < u.fabricCount ∧ kEnergyReportIntervalMs ≤ u.nowMs - lastReportMs os := by
  rw [ReportDue, h.primed, h.reportMs]

/-- A write is due when enough is unstored for long enough, told from what was
stored last. -/
theorem putDue_iff (h : Recorded loaded us os d) (u : Sample) :
    d.pm.PutDue u ↔
      us ≠ [] ∧ 0 < d.pm.totalMwh u - (lastStored loaded os).2 ∧
        ((kEnergyPersistThresholdMwh ≤ d.pm.totalMwh u - (lastStored loaded os).2 ∧
            kEnergyPersistMinIntervalMs ≤ u.nowMs - (lastStored loaded os).1) ∨
          kEnergyPersistMaxIntervalMs ≤ u.nowMs - (lastStored loaded os).1) := by
  rw [PutDue, h.primed, ← h.stored]

end Recorded

/-- Reports lie a minute apart, the last one latest. -/
theorem spaced_reportTimes (d : Device) (readErr : ChipError) (us : List Sample) :
    Spacing.Spaced kEnergyReportIntervalMs
        (reportTimes (device.trace (device.step d (.boot readErr)).1 (calls us))) ∧
      ∀ t ∈ reportTimes (device.trace (device.step d (.boot readErr)).1 (calls us)),
        t ≤ lastReportMs (device.trace (device.step d (.boot readErr)).1 (calls us)) := by
  induction us using List.reverseRecOn with
  | nil => exact ⟨List.Pairwise.nil, by simp [calls, reportTimes]⟩
  | append_singleton us u ih =>
      have hrecorded := recorded_of_run d readErr us
      have hcalls : calls (us ++ [u]) = calls us ++ [.update u] := List.map_append
      rw [hcalls, Mealy.trace_append]
      generalize device.exec (device.step d (.boot readErr)).1 (calls us) = d' at hrecorded ⊢
      generalize device.trace (device.step d (.boot readErr)).1 (calls us) = os at ih hrecorded ⊢
      obtain ⟨hspaced, hlatest⟩ := ih
      rw [Mealy.trace_cons, Mealy.trace_nil, List.append_nil, lastReportMs_append,
        reportTimes_append, reportTimes_update hrecorded.delegate]
      by_cases hdue : d'.pm.ReportDue u
      · have hlate := ((hrecorded.reportDue_iff u).mp hdue).2.2
        rw [kEnergyReportIntervalMs] at hlate
        rw [if_pos hdue, List.getLast?_singleton, Option.getD_some]
        constructor
        · refine List.pairwise_append.mpr ⟨hspaced, List.pairwise_singleton _ _, ?_⟩
          intro t ht t' ht'
          have hle := hlatest t ht
          rw [List.mem_singleton.mp ht', kEnergyReportIntervalMs]
          omega
        · intro t ht
          rcases List.mem_append.mp ht with hbefore | hnow
          · have hle := hlatest t hbefore
            omega
          · exact (List.mem_singleton.mp hnow).le
      · rw [if_neg hdue, List.append_nil]
        exact ⟨hspaced, hlatest⟩

/-- **Reports keep a pace**: in a boot a call reports exactly when it is not the
first, a fabric is there and the last report is a minute old; so no `k` minutes
hold more than `k` reports, and after a call that a fabric was there for the last
report is less than a minute old. -/
theorem energy_reports_are_paced (d : Device) (readErr : ChipError) (us : List Sample) :
    let booted := (device.step d (.boot readErr)).1
    let os := device.trace booted (calls us)
    (∀ u, reportTimes (device.step (device.exec booted (calls us)) (.update u)).2 =
        if us ≠ [] ∧ 0 < u.fabricCount ∧ 60000 ≤ u.nowMs - lastReportMs os then [u.nowMs]
        else []) ∧
      (∀ (a : Int) (k : Nat),
        ((reportTimes os).filter fun t => a ≤ t ∧ t < a + k * 60000).length ≤ k) ∧
      ∀ u, us ≠ [] → 0 < u.fabricCount →
        u.nowMs - lastReportMs (device.trace booted (calls (us ++ [u]))) < 60000 := by
  intro booted os
  have hrecorded := recorded_of_run d readErr us
  have hreport : ∀ u, reportTimes (device.step (device.exec booted (calls us)) (.update u)).2 =
      if us ≠ [] ∧ 0 < u.fabricCount ∧ 60000 ≤ u.nowMs - lastReportMs os then [u.nowMs]
      else [] := by
    intro u
    rw [reportTimes_update hrecorded.delegate]
    simp only [hrecorded.reportDue_iff u]
    rfl
  refine ⟨hreport, fun a k => ?_, fun u hus hfabric => ?_⟩
  · have hspaced := (spaced_reportTimes d readErr us).1
    exact hspaced.length_filter_le (by decide) (by simp [kEnergyReportIntervalMs]) a
  · have hcalls : calls (us ++ [u]) = calls us ++ [.update u] := List.map_append
    rw [hcalls, Mealy.trace_append, lastReportMs_append, Mealy.trace_cons, Mealy.trace_nil,
      List.append_nil, hreport u]
    by_cases hdue : us ≠ [] ∧ 0 < u.fabricCount ∧ 60000 ≤ u.nowMs - lastReportMs os
    · rw [if_pos hdue, List.getLast?_singleton, Option.getD_some]
      omega
    · rw [if_neg hdue, List.getLast?_nil, Option.getD_none]
      by_contra hlate
      exact hdue ⟨hus, hfabric, not_lt.mp hlate⟩

/-! ## writes -/

end UascentPlug

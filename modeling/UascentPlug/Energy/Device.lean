import UascentPlug.Lib.Machine
import UascentPlug.PowerMeasurement

/-!
# UascentPlug.Energy.Device

The measurement module over the life of a plug: its statics, which every power
cut clears, the key-value store, which outlives them, and the uptime.  A
`DeviceEvent` is a call of `PowerMeasurementUpdate`, a power cut in the middle
of one, or a boot; the outputs are the effects, each with the uptime it
happened at.

Totals and the stored value are exact.  `device64` of `UascentPlug.Energy.Int64`
is this device on the machine, and a run of it in which no operation overflows
is a run of this one (`device64_step`).
-/

namespace UascentPlug

open PowerMeasurement

structure Device where
  pm : PowerMeasurement
  /-- The total under `kEnergyKvsKey`. -/
  kvs : Option Int
  uptimeMs : Int
  deriving DecidableEq

inductive DeviceEvent where
  | update (u : Sample)
  /-- Power is lost during a call, after its first `done` effects. -/
  | cut (u : Sample) (done : Nat)
  /-- A boot in which `Get` fails with `readErr`, unless that is `noError`. -/
  | boot (readErr : ChipError)
  deriving DecidableEq

/-- `KeyValueStoreMgr().Get(kEnergyKvsKey, &stored)`. -/
def kvsGet (readErr : ChipError) (kvs : Option Int) : ChipError × Int :=
  if readErr = .noError then
    match kvs with
    | some stored => (.noError, stored)
    | none => (.persistedStorageValueNotFound, 0)
  else
    (readErr, 0)

/-- A failing `Put` leaves the stored value alone. -/
def store (kvs : Option Int) : Effect → Option Int
  | .put mwh .noError => some mwh
  | _ => kvs

namespace PowerMeasurement

/-- The statics after a boot whose initialisation goes through. -/
def booted (get : ChipError × Int) : PowerMeasurement :=
  (({} : PowerMeasurement).powerMeasurementInit 1 { get := get }).1

/-- The total `LoadCumulativeEnergy` starts a boot from. -/
def loadedMwh (get : ChipError × Int) : Int := (booted get).sCumulativeEnergyMwh

/-- A boot loads what it reads without error and above zero, and zero otherwise. -/
theorem loadedMwh_eq (get : ChipError × Int) :
    loadedMwh get = if get.1 = .noError ∧ 0 < get.2 then get.2 else 0 := by
  simp only [loadedMwh, booted, powerMeasurementInit, loadCumulativeEnergy, ne_eq, not_true,
    if_false]
  split <;> rfl

/-- A boot leaves the integrator unprimed and the loaded total marked as saved. -/
theorem booted_eq (get : ChipError × Int) :
    booted get =
      { sDelegate := some {}
        sInstance := true
        sEnergyAttrAccess := true
        sEndpoint := 1
        sCumulativeEnergyMwh := loadedMwh get
        sLastPersistedEnergyMwh := loadedMwh get } := by
  simp only [loadedMwh, booted, powerMeasurementInit, loadCumulativeEnergy, ne_eq, not_true,
    if_false]
  split <;> rfl

/-- It never loads a negative total. -/
theorem loadedMwh_nonneg (get : ChipError × Int) : 0 ≤ loadedMwh get := by
  rw [loadedMwh_eq]
  split <;> omega

end PowerMeasurement

namespace Device

/-- A plug without power, with `kvs` in its flash. -/
def off (kvs : Option Int) : Device := { pm := {}, kvs := kvs, uptimeMs := 0 }

/-- The total a reboot at this moment would restore. -/
def restoredMwh (d : Device) : Int := loadedMwh (kvsGet .noError d.kvs)

end Device

def device : Mealy Device DeviceEvent (Int × Effect) where
  step d
    | .update u =>
        let r := d.pm.powerMeasurementUpdate u
        ({ pm := r.1, kvs := r.2.foldl store d.kvs, uptimeMs := u.nowMs },
          r.2.map fun e => (u.nowMs, e))
    | .cut u done =>
        let effects := (d.pm.powerMeasurementUpdate u).2.take done
        (.off (effects.foldl store d.kvs), effects.map fun e => (u.nowMs, e))
    | .boot readErr =>
        ({ pm := booted (kvsGet readErr d.kvs), kvs := d.kvs, uptimeMs := 0 }, [])

/-- Powers are not negative and uptime does not run backwards. -/
def Device.Accepts (d : Device) : DeviceEvent → Prop
  | .update u => 0 ≤ u.activePowerMw ∧ d.uptimeMs ≤ u.nowMs
  | .cut u _ => 0 ≤ u.activePowerMw ∧ d.uptimeMs ≤ u.nowMs
  | .boot _ => True

instance (d : Device) (e : DeviceEvent) : Decidable (d.Accepts e) := by
  cases e <;> unfold Device.Accepts <;> infer_instance

/-- The energy values passed to `NotifyCumulativeEnergyMeasured`. -/
def notified : List (Int × Effect) → List Int
  | [] => []
  | (_, .notifyCumulativeEnergyMeasured _ mwh) :: os => mwh :: notified os
  | (_, _) :: os => notified os

/-- When the total was put under `kEnergyKvsKey`. -/
def putTimes : List (Int × Effect) → List Int
  | [] => []
  | (nowMs, .put _ _) :: os => nowMs :: putTimes os
  | (_, _) :: os => putTimes os

@[simp] theorem notified_append (os os' : List (Int × Effect)) :
    notified (os ++ os') = notified os ++ notified os' := by
  induction os with
  | nil => rfl
  | cons o os ih =>
      obtain ⟨nowMs, e⟩ := o
      cases e with
      | attributeChanged endpoint attributeId => exact ih
      | put mwh err => exact ih
      | notifyCumulativeEnergyMeasured endpoint mwh => exact congrArg (mwh :: ·) ih

@[simp] theorem putTimes_append (os os' : List (Int × Effect)) :
    putTimes (os ++ os') = putTimes os ++ putTimes os' := by
  induction os with
  | nil => rfl
  | cons o os ih =>
      obtain ⟨nowMs, e⟩ := o
      cases e with
      | attributeChanged endpoint attributeId => exact ih
      | put mwh err => exact congrArg (nowMs :: ·) ih
      | notifyCumulativeEnergyMeasured endpoint mwh => exact ih

/-- Attribute reports do not touch the store. -/
theorem foldl_store_dirty (kvs : Option Int) (endpoint : UInt16) (dirty : List AttributeId) :
    (dirty.map (Effect.attributeChanged endpoint)).foldl store kvs = kvs := by
  induction dirty with
  | nil => rfl
  | cons attributeId dirty ih => exact ih

/-- Attribute reports write nothing. -/
theorem putTimes_dirty (nowMs : Int) (endpoint : UInt16) (dirty : List AttributeId) :
    putTimes ((dirty.map (Effect.attributeChanged endpoint)).map fun e => (nowMs, e)) = [] := by
  induction dirty with
  | nil => rfl
  | cons attributeId dirty ih => exact ih

/-- A call changes the store only by a due `Put` that succeeds. -/
theorem kvs_update {d : Device} (hdelegate : d.pm.sDelegate.isSome = true) (u : Sample) :
    (device.step d (.update u)).1.kvs =
      if d.pm.PutDue u ∧ u.putErr = .noError then some (d.pm.totalMwh u) else d.kvs := by
  obtain ⟨dirty, heffects⟩ := (updated u hdelegate).effects
  simp only [device, heffects, List.foldl_append, foldl_store_dirty]
  have hreport : ∀ kvs : Option Int, (if d.pm.ReportDue u then
      [Effect.notifyCumulativeEnergyMeasured d.pm.sEndpoint (d.pm.totalMwh u),
        .attributeChanged d.pm.sEndpoint .cumulativeEnergyImported] else []).foldl store kvs =
      kvs := by
    intro kvs
    split <;> rfl
  rw [hreport]
  by_cases hdue : d.pm.PutDue u
  · rw [if_pos hdue, List.foldl_cons, List.foldl_nil]
    cases herr : u.putErr with
    | noError => rw [if_pos ⟨hdue, rfl⟩, store]
    | persistedStorageValueNotFound => rw [if_neg (by simp), store]; simp
    | other => rw [if_neg (by simp), store]; simp
  · rw [if_neg hdue, if_neg (fun h => hdue h.1), List.foldl_nil]

/-- A call puts the total at most once. -/
theorem putTimes_update {d : Device} (hdelegate : d.pm.sDelegate.isSome = true) (u : Sample) :
    putTimes (device.step d (.update u)).2 = if d.pm.PutDue u then [u.nowMs] else [] := by
  obtain ⟨dirty, heffects⟩ := (updated u hdelegate).effects
  simp only [device, heffects, List.map_append, putTimes_append, putTimes_dirty, List.nil_append]
  split <;> split <;> rfl

/-! ## what holds of every device -/

/-- The invariant of the statics: the saved total is not ahead of the running
one, and the last sample lies in the past. -/
structure Device.Sane (d : Device) : Prop where
  persisted : 0 ≤ d.pm.sLastPersistedEnergyMwh
  total : d.pm.sLastPersistedEnergyMwh ≤ d.pm.sCumulativeEnergyMwh
  power : 0 ≤ d.pm.sLastActivePowerMw
  clock : d.pm.sHaveLastSample = true → d.pm.sLastSampleMs ≤ d.uptimeMs

namespace Device

/-- A plug without power is sane. -/
theorem sane_off (kvs : Option Int) : Sane (off kvs) where
  persisted := le_refl _
  total := le_refl _
  power := le_refl _
  clock := by
    intro hprimed
    contradiction

/-- So is one that has just booted. -/
theorem sane_boot (d : Device) (readErr : ChipError) : Sane (device.step d (.boot readErr)).1 := by
  have hnonneg := loadedMwh_nonneg (kvsGet readErr d.kvs)
  simp only [device, booted_eq]
  exact {
    persisted := hnonneg
    total := le_refl _
    power := le_refl _
    clock := fun hprimed => absurd hprimed Bool.false_ne_true }

/-- A call that follows the others takes no energy away. -/
theorem Sane.stepMwh_nonneg {d : Device} (h : d.Sane) {u : Sample} (hpower : 0 ≤ u.activePowerMw)
    (htime : d.uptimeMs ≤ u.nowMs) : 0 ≤ d.pm.stepMwh u := by
  unfold stepMwh
  split
  · next hprimed =>
    have hclock := h.clock hprimed
    exact energyMwh_nonneg h.power hpower (by omega)
  · exact le_refl _

/-- So the total does not go back. -/
theorem Sane.totalMwh_le {d : Device} (h : d.Sane) {u : Sample} (hpower : 0 ≤ u.activePowerMw)
    (htime : d.uptimeMs ≤ u.nowMs) : d.pm.sCumulativeEnergyMwh ≤ d.pm.totalMwh u := by
  have hstep := h.stepMwh_nonneg hpower htime
  rw [totalMwh]
  omega

/-- **Step lemma**: a call keeps the statics sane. -/
theorem Sane.update {d : Device} (h : d.Sane) {u : Sample} (hok : d.Accepts (.update u)) :
    Sane (device.step d (.update u)).1 := by
  have hgrow := h.totalMwh_le hok.1 hok.2
  have hpersisted := h.persisted
  have htotal := h.total
  cases hdelegate : d.pm.sDelegate with
  | none =>
      simp only [device, powerMeasurementUpdate_of_none hdelegate]
      exact ⟨h.persisted, h.total, h.power, fun hprimed => (h.clock hprimed).trans hok.2⟩
  | some delegate =>
      have hupdated := updated u (s := d.pm) (by rw [hdelegate]; rfl)
      refine ⟨?_, ?_, ?_, fun _ => hupdated.clock.le⟩
      · simp only [device, hupdated.persisted]
        split <;> omega
      · simp only [device, hupdated.persisted, hupdated.total]
        split <;> omega
      · simp only [device, hupdated.power]
        exact hok.1

/-- **Step lemma**: every event keeps the invariant. -/
theorem Sane.step {d : Device} (h : d.Sane) {e : DeviceEvent} (hok : d.Accepts e) :
    Sane (device.step d e).1 := by
  cases e with
  | update u => exact h.update hok
  | cut u done => exact sane_off _
  | boot readErr => exact sane_boot d readErr

end Device

end UascentPlug

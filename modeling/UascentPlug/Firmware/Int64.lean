import UascentPlug.Energy.Int64
import UascentPlug.Firmware

/-!
# UascentPlug.Firmware.Int64

The whole firmware on `int64_t`.  `firmware` publishes into the measurement
module with exact integers, `firmware64` into the one of
`UascentPlug.Energy.Int64`; nothing else differs.  The rest of `MeterPoll` cannot
overflow: its products are of 32-bit counts.  So a run whose calls of
`PowerMeasurementUpdate` are exact is a run of `firmware`
(`firmware64_step`).
-/

namespace UascentPlug

/-- Performs the calls of one `MeterPoll` on the measurement module. -/
def publish64 (i : MeteringPoll) (pm : PowerMeasurement) :
    List MeterCall → PowerMeasurement × List Publication
  | [] => (pm, [])
  | .powerMeasurementUpdate power voltage current :: calls =>
      let u := i.sample power voltage current
      let r := pm.powerMeasurementUpdate64 u
      let rest := publish64 i r.1 calls
      (rest.1, { sample := u, effects := r.2 } :: rest.2)
  | _ :: calls => publish64 i pm calls

namespace Firmware

/-- What `MeterPoll` does to the store and the controllers, in order. -/
def effects64 (cfg : Option OverPowerConfig) (a : TaskAnswers) (f : Firmware) : List Effect :=
  (publish64 (f.meteringPoll a) f.pm (f.meterCalls cfg)).2.flatMap Publication.effects

/-- `MeterPoll`, with the calls it makes. -/
def meterPoll64 (cfg : Option OverPowerConfig) (a : TaskAnswers) (f : Firmware) : Firmware :=
  { f with
    meter := (f.meter.meterPoll cfg f.plug.relayIsOn f.uptimeMs).1
    plug := (f.meterCalls cfg).foldl (Plug.call a.relayErr) f.plug
    pm := (publish64 (f.meteringPoll a) f.pm (f.meterCalls cfg)).1
    kvs := (f.effects64 cfg a).foldl store f.kvs
    uptimeMs := f.uptimeMs + a.lagMs
    polls := f.polls ++ [f.poll] }

def runTask64 (cfg : Option OverPowerConfig) (a : TaskAnswers) (f : Firmware) : Task → Firmware
  | .meterPoll => f.meterPoll64 cfg a
  | .buttonEventHandler state hasChanged => f.buttonEventHandler a.relayErr state hasChanged

def taskEffects64 (cfg : Option OverPowerConfig) (a : TaskAnswers) (f : Firmware) :
    Task → List Effect
  | .meterPoll => f.effects64 cfg a
  | .buttonEventHandler _ _ => []

/-- The call of `PowerMeasurementUpdate` that the next task makes, if it makes
one, is exact. -/
def CallExact (cfg : Option OverPowerConfig) (a : TaskAnswers) (f : Firmware) : Prop :=
  f.tasks.head? = some .meterPoll → f.window.isSome = true → f.pm.Exact (f.sample cfg a)

instance (cfg : Option OverPowerConfig) (a : TaskAnswers) (f : Firmware) :
    Decidable (f.CallExact cfg a) :=
  inferInstanceAs (Decidable (_ → _ → _))

/-- No `int64_t` operation of the event overflows. -/
def Exact (cfg : Option OverPowerConfig) (f : Firmware) : FirmwareEvent → Prop
  | .dispatch a => f.CallExact cfg a
  | .powerCut (some (a, _)) _ => f.CallExact cfg a
  | _ => True

instance (cfg : Option OverPowerConfig) (f : Firmware) :
    (e : FirmwareEvent) → Decidable (f.Exact cfg e)
  | .dispatch a => inferInstanceAs (Decidable (f.CallExact cfg a))
  | .powerCut (some (a, _)) _ => inferInstanceAs (Decidable (f.CallExact cfg a))
  | .powerCut none _ | .init | .meterPollTimer | .blinkTimer | .cfIsr | .cf1Isr | .button _ _
  | .deviceState _ | .postServerInit _ _ _ _ | .onOffClusterInit _ _ | .controllerWrite _ _ _
  | .lambda _ | .elapse _ => instDecidableTrue

end Firmware

/-- The firmware on the machine. -/
def firmware64 (cfg : Option OverPowerConfig) : Lts Firmware FirmwareEvent where
  step f
    | .dispatch a => f.nextTask.map fun (task, f) => f.runTask64 cfg a task
    | .powerCut (some (a, done)) answers =>
        f.nextTask.map fun (task, f) =>
          .powerOn answers (((f.taskEffects64 cfg a task).take done).foldl store f.kvs)
            f.plug.onOff
    | e => (firmware cfg).step f e

/-! ## an exact event does the same on the machine -/

namespace Firmware

variable {cfg : Option OverPowerConfig} {f : Firmware} {a : TaskAnswers}

/-- A poll whose call is exact publishes the same on the machine. -/
theorem publish64_eq (h : f.window.isSome = true → f.pm.Exact (f.sample cfg a)) :
    publish64 (f.meteringPoll a) f.pm (f.meterCalls cfg) =
      publish (f.meteringPoll a) f.pm (f.meterCalls cfg) := by
  cases hw : f.window with
  | none =>
      rw [meterCalls_of_window_none hw]
      rfl
  | some w =>
      have hexact := PowerMeasurement.powerMeasurementUpdate64_eq (h (by rw [hw]; rfl))
      have hcall : (f.meteringPoll a).sample (f.sample cfg a).activePowerMw
          (f.sample cfg a).rmsVoltageMv (f.sample cfg a).rmsCurrentMa = f.sample cfg a := rfl
      rw [meterCalls_of_window_some hw a]
      obtain hnone | htrip :=
        Meter.protect_calls cfg f.plug.relayIsOn (UInt32.ofNat w.cfRate) f.takenMeter
      · simp only [hnone, List.nil_append, publish64, publish, hcall, hexact]
      · simp only [htrip, Meter.tripCalls, List.cons_append, List.nil_append, publish64, publish,
          hcall, hexact]

/-- So a task does the same, and has the same effects. -/
theorem runTask64_eq {task : Task}
    (h : task = .meterPoll → f.window.isSome = true → f.pm.Exact (f.sample cfg a)) :
    f.runTask64 cfg a task = f.runTask cfg a task ∧
      f.taskEffects64 cfg a task = f.taskEffects cfg a task := by
  cases task with
  | buttonEventHandler state hasChanged => exact ⟨rfl, rfl⟩
  | meterPoll =>
      have hpublish := publish64_eq (h rfl)
      have heffects : f.effects64 cfg a = f.effects cfg a := by
        rw [effects64, hpublish, effects, publications]
      constructor
      · simp only [runTask64, meterPoll64, hpublish, heffects, runTask, meterPoll]
      · exact heffects

end Firmware

/-- **Step lemma**: an exact event does on the machine what it does exactly. -/
theorem firmware64_step {cfg : Option OverPowerConfig} (f : Firmware) (e : FirmwareEvent)
    (h : f.Exact cfg e) : (firmware64 cfg).step f e = (firmware cfg).step f e := by
  have hnext : ∀ a task g, f.CallExact cfg a → f.nextTask = some (task, g) →
      g.runTask64 cfg a task = g.runTask cfg a task ∧
        g.taskEffects64 cfg a task = g.taskEffects cfg a task := by
    intro a task g hcall hnext
    obtain ⟨tasks, -, htasks, rfl⟩ := Firmware.nextTask_eq_some hnext
    refine Firmware.runTask64_eq fun htask => ?_
    subst htask
    exact hcall (by rw [htasks]; rfl)
  cases e with
  | dispatch a =>
      simp only [firmware64, firmware]
      cases hn : f.nextTask with
      | none => rw [Option.map_none, Option.map_none]
      | some r =>
          obtain ⟨task, g⟩ := r
          simp only [Option.map_some, (hnext a task g h hn).1]
  | powerCut during answers =>
      cases during with
      | none => rfl
      | some during =>
          obtain ⟨a, done⟩ := during
          simp only [firmware64, firmware]
          cases hn : f.nextTask with
          | none => rw [Option.map_none, Option.map_none]
          | some r =>
              obtain ⟨task, g⟩ := r
              simp only [Option.map_some, (hnext a task g h hn).2]
  | _ => rfl

end UascentPlug

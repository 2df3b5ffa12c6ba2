import UascentPlug.Energy.Report
import UascentPlug.Firmware.Int64
import UascentPlug.Firmware.Start
import UascentPlug.Lib.Simulation

/-!
# UascentPlug.Firmware.Energy

The energy total in the whole firmware.  `UascentPlug.Energy` asks its callers
for powers that are not negative and for an uptime that does not run
backwards, and lets a boot load the total in one step.  Here the callers are
the meter, the poll timer and the start-up code, and they do as asked:
`energyEvents` is what a step of the firmware means to the energy module, and
`EnergyFollows` is kept by every step (`EnergyFollows.step`).

So what is known of the device's life holds of the firmware's, and on the
machine too while nothing overflows.
-/

namespace UascentPlug

open PowerMeasurement

/-! ## the meter never publishes a negative power -/

/-- A scaled rate is not negative. -/
theorem scaled_nonneg (countsPerSec : UInt32) (k : Nat) : 0 ≤ scaled countsPerSec (k : Int) := by
  rw [scaled_eq_reading]
  exact Int.natCast_nonneg _

namespace Meter

/-- A CF sample leaves the power not negative. -/
theorem sLastActivePowerMw_pushCf_nonneg {m : Meter} (h : 0 ≤ m.sLastActivePowerMw)
    (rate : UInt32) : 0 ≤ (m.pushCf rate).sLastActivePowerMw := by
  rw [pushCf_eq]
  cases (m.sCfFilter.push rate).2 with
  | none => exact h
  | some median => exact scaled_nonneg median 775

/-- So does a window. -/
theorem sLastActivePowerMw_measure_nonneg {m : Meter} (h : 0 ≤ m.sLastActivePowerMw)
    (cfg : Option OverPowerConfig) (relayIsOn : Bool) (w : Window) :
    0 ≤ (m.measure cfg relayIsOn w).sLastActivePowerMw := by
  unfold measure
  obtain ⟨_, _, _, _, _, heq⟩ := pushCf1_eq (UInt32.ofNat w.cf1Rate)
    ((m.protect cfg relayIsOn (UInt32.ofNat w.cfRate)).1.pushCf (UInt32.ofNat w.cfRate))
  rw [heq]
  refine sLastActivePowerMw_pushCf_nonneg ?_ _
  rw [protect_eq]
  exact h

end Meter

namespace Firmware

variable {cfg : Option OverPowerConfig} {f g : Firmware}

/-- So does a poll. -/
theorem sLastActivePowerMw_meterPoll_nonneg (h : 0 ≤ f.meter.sLastActivePowerMw)
    (cfg : Option OverPowerConfig) (relayIsOn : Bool) :
    0 ≤ (f.meter.meterPoll cfg relayIsOn f.uptimeMs).1.sLastActivePowerMw := by
  cases hw : f.window with
  | none =>
      rw [meter_of_window_none hw]
      exact h
  | some w =>
      rw [meter_of_window_some hw]
      exact Meter.sLastActivePowerMw_measure_nonneg (m := f.takenMeter) h cfg relayIsOn w

end Firmware

namespace Firmware

variable {cfg : Option OverPowerConfig} {f g : Firmware}

/-! ## the firmware's events as the device's -/

/-- A power cut between two calls. -/
def idleCut (f : Firmware) : DeviceEvent := .cut { activePowerMw := 0, nowMs := f.uptimeMs } 0

/-- What a task means to the energy module. -/
def taskEvents (cfg : Option OverPowerConfig) (a : TaskAnswers) (f : Firmware) :
    Task → List DeviceEvent
  | .meterPoll => if f.window.isSome then [.update (f.sample cfg a)] else []
  | .buttonEventHandler _ _ => []

/-- What power going in the middle of a task means to it. -/
def taskCut (cfg : Option OverPowerConfig) (a : TaskAnswers) (done : Nat) (f : Firmware) :
    Task → DeviceEvent
  | .meterPoll => if f.window.isSome then .cut (f.sample cfg a) done else f.idleCut
  | .buttonEventHandler _ _ => f.idleCut

/-- What an event of the firmware means to the energy module. -/
def energyEvents (cfg : Option OverPowerConfig) (f : Firmware) : FirmwareEvent → List DeviceEvent
  | .dispatch a =>
      match f.nextTask with
      | some (task, f) => f.taskEvents cfg a task
      | none => []
  | .postServerInit _ _ _ readErr => [.boot readErr]
  | .powerCut none _ => [f.idleCut]
  | .powerCut (some (a, done)) _ =>
      match f.nextTask with
      | some (task, f) => [f.taskCut cfg a done task]
      | none => []
  | _ => []

/-- The measurement clusters register, and a total that is stored can be read. -/
def Loads (f : Firmware) : FirmwareEvent → Prop
  | .postServerInit instanceErr attrAccessErr accuracyErr readErr =>
      instanceErr = .noError ∧ attrAccessErr = .noError ∧ accuracyErr = .noError ∧
        (readErr = .noError ∨ f.kvs.getD 0 ≤ 0)
  | _ => True

instance (f : Firmware) : (e : FirmwareEvent) → Decidable (f.Loads e)
  | .postServerInit instanceErr attrAccessErr accuracyErr readErr =>
      inferInstanceAs (Decidable (instanceErr = .noError ∧ attrAccessErr = .noError ∧
        accuracyErr = .noError ∧ (readErr = .noError ∨ f.kvs.getD 0 ≤ 0)))
  | .init | .dispatch _ | .meterPollTimer | .blinkTimer | .cfIsr | .cf1Isr | .button _ _
  | .deviceState _ | .onOffClusterInit _ _ | .controllerWrite _ _ _ | .lambda _ | .elapse _
  | .powerCut _ _ => instDecidableTrue

/-- The device is the energy part of the firmware. -/
structure EnergyFollows (f : Firmware) (d : Device) : Prop where
  pm : d.pm = f.pm
  kvs : d.kvs = f.kvs
  clock : d.uptimeMs ≤ f.uptimeMs
  /-- The hook finds the statics as the loader left them. -/
  fresh : f.postServerInitClbk = true → f.pm = {}
  early : f.app = .init .prepareServer → f.pm = {} ∧ f.serverStarted = false
  uptime : 0 ≤ f.uptimeMs
  power : 0 ≤ f.meter.sLastActivePowerMw

/-- When power comes on the device is off, with the same store. -/
theorem energyFollows_powerOn (answers : StartAnswers) (kvs : Option Int) (onOff : Bool) :
    EnergyFollows (powerOn answers kvs onOff) (.off kvs) where
  pm := rfl
  kvs := rfl
  clock := le_refl _
  fresh _ := rfl
  early _ := ⟨rfl, rfl⟩
  uptime := le_refl _
  power := le_refl _

namespace EnergyFollows

variable {d : Device}

/-- A power cut between tasks is one between two calls. -/
theorem idleCut (h : EnergyFollows f d) (answers : StartAnswers) (onOff : Bool) :
    device.Admits (Device.Reliable 0) d [f.idleCut] ∧
      EnergyFollows (powerOn answers f.kvs onOff) (device.exec d [f.idleCut]) := by
  refine ⟨⟨⟨⟨le_refl _, h.clock⟩, trivial⟩, trivial⟩, ?_⟩
  have hoff : device.exec d [f.idleCut] = .off f.kvs := by rw [← h.kvs]; rfl
  rw [hoff]
  exact energyFollows_powerOn answers f.kvs onOff

/-- What a poll publishes is acceptable to the energy module. -/
theorem accepts_sample (h : EnergyFollows f d) (cfg : Option OverPowerConfig) (a : TaskAnswers) :
    d.Accepts (.update (f.sample cfg a)) := by
  have hlag : f.uptimeMs ≤ f.uptimeMs + a.lagMs := by omega
  exact ⟨sLastActivePowerMw_meterPoll_nonneg h.power cfg f.plug.relayIsOn, h.clock.trans hlag⟩

/-- A task is to the energy module what `taskEvents` says. -/
theorem runTask (h : EnergyFollows f d) (happ : f.app = .dispatching)
    (cfg : Option OverPowerConfig) (a : TaskAnswers) (task : Task) :
    device.Admits (Device.Reliable 0) d (f.taskEvents cfg a task) ∧
      EnergyFollows (f.runTask cfg a task) (device.exec d (f.taskEvents cfg a task)) := by
  have hlater : f.uptimeMs ≤ f.uptimeMs + a.lagMs := by omega
  have hearly : f.app ≠ .init .prepareServer := by
    rw [happ]
    simp
  cases task with
  | buttonEventHandler state hasChanged =>
      exact ⟨trivial, h.pm, h.kvs, h.clock, h.fresh, h.early, h.uptime, h.power⟩
  | meterPoll =>
      have hpower := sLastActivePowerMw_meterPoll_nonneg h.power cfg f.plug.relayIsOn
      cases hw : f.window with
      | none =>
          simp only [taskEvents, hw, Option.isSome_none, Bool.false_eq_true, if_false]
          refine ⟨trivial, ?_, ?_, h.clock.trans hlater, ?_, fun happ' => absurd happ' hearly,
            h.uptime.trans hlater, hpower⟩
          · simp only [Firmware.runTask, meterPoll, publish_of_window_none hw]
            exact h.pm
          · simp only [Firmware.runTask, meterPoll, effects_of_window_none hw]
            exact h.kvs
          · simp only [Firmware.runTask, meterPoll, publish_of_window_none hw]
            exact h.fresh
      | some w =>
          simp only [taskEvents, hw, Option.isSome_some, if_true]
          refine ⟨⟨⟨h.accepts_sample cfg a, trivial⟩, trivial⟩, ?_, ?_, le_refl _, ?_,
            fun happ' => absurd happ' hearly, h.uptime.trans hlater, hpower⟩
          · simp only [Firmware.runTask, meterPoll, publish_of_window_some hw]
            rw [← h.pm]
            rfl
          · simp only [Firmware.runTask, meterPoll, effects_of_window_some hw]
            rw [← h.pm, ← h.kvs]
            rfl
          · intro hhook
            have hfresh := h.fresh hhook
            simp only [Firmware.runTask, meterPoll, publish_of_window_some hw]
            rw [hfresh, powerMeasurementUpdate_of_none (s := {}) rfl]

/-- A power cut in a task is what `taskCut` says. -/
theorem taskCut (h : EnergyFollows f d) (a : TaskAnswers) (done : Nat) (task : Task)
    (answers : StartAnswers) (onOff : Bool) :
    device.Admits (Device.Reliable 0) d [f.taskCut cfg a done task] ∧
      EnergyFollows
        (powerOn answers (((f.taskEffects cfg a task).take done).foldl store f.kvs) onOff)
        (device.exec d [f.taskCut cfg a done task]) := by
  cases task with
  | buttonEventHandler state hasChanged =>
      simpa [Firmware.taskCut, taskEffects] using h.idleCut answers onOff
  | meterPoll =>
      cases hw : f.window with
      | none =>
          simpa [Firmware.taskCut, taskEffects, hw, effects_of_window_none hw] using
            h.idleCut answers onOff
      | some w =>
          simp only [Firmware.taskCut, taskEffects, hw, effects_of_window_some hw,
            Option.isSome_some, if_true]
          refine ⟨⟨⟨h.accepts_sample cfg a, trivial⟩, trivial⟩, ?_⟩
          rw [← h.pm, ← h.kvs]
          exact energyFollows_powerOn _ _ _

/-- Start-up does nothing to the energy module. -/
theorem initStep (h : EnergyFollows f d) {next : InitStep} (happ : f.app = .init next) :
    EnergyFollows (f.initStep next) d := by
  have hkeeps := f.initKeeps next
  refine ⟨h.pm.trans hkeeps.pm.symm, h.kvs.trans hkeeps.kvs.symm, ?_, ?_, ?_, ?_, ?_⟩
  · rw [hkeeps.uptimeMs]
    exact h.clock
  · intro hhook
    rw [hkeeps.pm]
    cases next with
    | prepareServer => exact (h.early happ).1
    | meterInit => exact h.fresh hhook
    | _ =>
      refine h.fresh ?_
      simp only [Firmware.initStep] at hhook
      split at hhook <;> exact hhook
  · intro hagain
    rw [app_initStep] at hagain
    split at hagain
    · contradiction
    · cases next <;> contradiction
  · rw [hkeeps.uptimeMs]
    exact h.uptime
  · by_cases hnext : next = .meterInit
    · rw [hnext]
      simp only [Firmware.initStep, Meter.meterInit]
      split <;> exact h.power
    · rw [(f.initStep_unmetered hnext).1]
      exact h.power

/-- **Step lemma**: every event is to the energy module what `energyEvents`
says, and that is acceptable to it. -/
theorem step {e : FirmwareEvent} (h : EnergyFollows f d) (hloads : f.Loads e)
    (hstep : FirmwareStep cfg f e g) :
    device.Admits (Device.Reliable 0) d (f.energyEvents cfg e) ∧
      EnergyFollows g (device.exec d (f.energyEvents cfg e)) := by
  cases hstep with
  | init happ => exact ⟨trivial, h.initStep happ⟩
  | @dispatch a task tasks happ htasks =>
      have htail : EnergyFollows { f with tasks := tasks } d :=
        ⟨h.pm, h.kvs, h.clock, h.fresh, h.early, h.uptime, h.power⟩
      simp only [energyEvents, nextTask_of_dispatching happ htasks]
      exact htail.runTask happ cfg a task
  | meterPollTimer hstarted hdue =>
      exact ⟨trivial, h.pm, h.kvs, h.clock, h.fresh, h.early, h.uptime, h.power⟩
  | blinkTimer hruns =>
      exact ⟨trivial, h.pm, h.kvs, h.clock, h.fresh, h.early, h.uptime, h.power⟩
  | cfIsr henabled => exact ⟨trivial, h.pm, h.kvs, h.clock, h.fresh, h.early, h.uptime, h.power⟩
  | cf1Isr henabled => exact ⟨trivial, h.pm, h.kvs, h.clock, h.fresh, h.early, h.uptime, h.power⟩
  | button hready => exact ⟨trivial, h.pm, h.kvs, h.clock, h.fresh, h.early, h.uptime, h.power⟩
  | deviceState hready =>
      exact ⟨trivial, h.pm, h.kvs, h.clock, h.fresh, h.early, h.uptime, h.power⟩
  | @postServerInit instanceErr attrAccessErr accuracyErr readErr hstarted hhook =>
      obtain ⟨rfl, rfl, rfl, hread⟩ := hloads
      have hread' : d.ReadsAbove 0 (.boot readErr) := by
        rw [Device.ReadsAbove, h.kvs]
        exact hread
      refine ⟨⟨⟨trivial, hread'⟩, trivial⟩, ?_, h.kvs, h.uptime, ?_, ?_, h.uptime, h.power⟩
      · simp only [energyEvents, postServerInit, h.fresh hhook, ← h.kvs]
        rfl
      · intro hagain
        contradiction
      · intro happ
        have hstopped := (h.early happ).2
        rw [hstarted] at hstopped
        contradiction
  | onOffClusterInit hstarted hfirst =>
      exact ⟨trivial, h.pm, h.kvs, h.clock, h.fresh, h.early, h.uptime, h.power⟩
  | controllerWrite hstarted =>
      exact ⟨trivial, h.pm, h.kvs, h.clock, h.fresh, h.early, h.uptime, h.power⟩
  | unchangedWrite hstarted hvalue => exact ⟨trivial, h⟩
  | lambda hstarted hpending =>
      exact ⟨trivial, h.pm, h.kvs, h.clock, h.fresh, h.early, h.uptime, h.power⟩
  | @elapse ms =>
      have hlater : f.uptimeMs ≤ f.uptimeMs + ms := by omega
      exact ⟨trivial, h.pm, h.kvs, h.clock.trans hlater, h.fresh, h.early,
        h.uptime.trans hlater, h.power⟩
  | powerCut => exact h.idleCut _ _
  | @powerCutDuring a done answers task tasks happ htasks =>
      have htail : EnergyFollows { f with tasks := tasks } d :=
        ⟨h.pm, h.kvs, h.clock, h.fresh, h.early, h.uptime, h.power⟩
      simp only [energyEvents, nextTask_of_dispatching happ htasks]
      exact htail.taskCut a done task answers f.plug.onOff

end EnergyFollows

end Firmware

end UascentPlug

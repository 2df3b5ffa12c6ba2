import UascentPlug.Bl0937.Schedule
import UascentPlug.Energy.Device
import UascentPlug.Indication
import UascentPlug.Metering

/-!
# UascentPlug.Firmware

The whole firmware: `AppTask::Init` and the dispatch loop of
`src/app_task.cpp`, the timers and interrupts that feed it, and the Matter
thread, over one state.  Here the parts meet: the poll timer posts tasks, a
`MeterPoll` reads what the pulse interrupts counted, switches the relay and
publishes, and the relay and the measurement module are also reached from the
Matter thread.

Each event is one call of the firmware's code (or time passing, or power being
cut), so a run is an interleaving of the app task, the Matter thread and the
interrupts.  What hardware and SDK answer during start-up is fixed at
power-on (`StartAnswers`); later answers come with the events.  Energy totals are
exact; `UascentPlug.Firmware.Int64` has the firmware with those of the machine.
-/

namespace UascentPlug

/-! ## start-up -/

/-- `Nrf::DeviceState`. -/
inductive DeviceState where
  | deviceDisconnected
  | deviceAdvertisingBLE
  | deviceConnectedBLE
  | deviceProvisioned
  deriving DecidableEq, Repr

/-- The switch of `AppTask::UpdateStatusLed`. -/
def DeviceState.networkLedState : DeviceState → NetworkLedState
  | .deviceProvisioned => .paired
  | .deviceAdvertisingBLE | .deviceConnectedBLE => .pairing
  | .deviceDisconnected => .error

/-- What `AppTask::Init` returns when it fails. -/
inductive InitError where
  /-- `CHIP_ERROR_INCORRECT_STATE`. -/
  | incorrectState
  /-- The error of an SDK call, passed on. -/
  | sdk (code : UInt32)
  deriving DecidableEq, Repr

/-- The calls of `AppTask::Init`, in order.  The last is `MeterInit` and the
start of the poll timer, which cannot fail. -/
inductive InitStep where
  | prepareServer
  | statusLedInit
  | relayInit
  | boardInit
  | registerEventHandler
  | identifyInit
  | startServer
  | meterInit
  deriving DecidableEq, Repr

/-- Where the app task is. -/
inductive AppState where
  /-- In `Init`, before this call. -/
  | init (next : InitStep)
  /-- In the loop of `StartApp`. -/
  | dispatching
  /-- `main` has returned `EXIT_FAILURE`. -/
  | exited (err : InitError)
  deriving DecidableEq, Repr

/-- The answers `Init` gets; `none` is `CHIP_NO_ERROR`. -/
structure StartAnswers where
  prepareServer : Option UInt32 := none
  ledIsReady : Led → Bool := fun _ => true
  ledConfigure : Led → Int := fun _ => 0
  relayIsReady : Bool := true
  relayConfigure : Int := 0
  boardInit : Bool := true
  registerEventHandler : Option UInt32 := none
  identifyInit : Option UInt32 := none
  startServer : Option UInt32 := none
  meterIsReady : MeterPin → Bool := fun _ => true

/-- A task posted with `Nrf::PostTask`. -/
inductive Task where
  | meterPoll
  | buttonEventHandler (state hasChanged : UInt32)
  deriving DecidableEq

def kPlugEndpointId : UInt16 := 1

structure Firmware where
  answers : StartAnswers
  plug : Plug
  meter : Meter := {}
  pm : PowerMeasurement := {}
  /-- The total under `kEnergyKvsKey`. -/
  kvs : Option Int
  app : AppState := .init .prepareServer
  /-- The app task's queue: first in, first out, and no post is refused. -/
  tasks : List Task := []
  /-- `Board::Init` has succeeded: buttons and state changes are handled. -/
  boardReady : Bool := false
  deviceState : DeviceState := .deviceDisconnected
  serverStarted : Bool := false
  /-- The hook handed to `PrepareServer`, until it has run. -/
  postServerInitClbk : Bool := false
  /-- `emberAfOnOffClusterInitCallback` has run. -/
  onOffInitialised : Bool := false
  uptimeMs : Int := 0
  /-- The next expiry of `sMeterPollTimer`, once it is started. -/
  nextExpiryMs : Option Int := none
  /-- History: the polls run since power-on. -/
  polls : List Poll := []

/-- The task is a release of the application button. -/
def Task.releases : Task → Bool
  | .meterPoll => false
  | .buttonEventHandler state hasChanged =>
      applicationButtonMask &&& hasChanged &&& ~~~state != 0

/-- The answers of the calls a task makes. -/
structure TaskAnswers where
  relayErr : Int := 0
  /-- From the uptime `MeterPoll` reads to the one `PowerMeasurementUpdate` reads. -/
  lagMs : Nat := 0
  fabricCount : Nat := 1
  putErr : ChipError := .noError
  deriving DecidableEq

/-- One call of `MeterPoll` on the switching state. -/
def Plug.call (relayErr : Int) (p : Plug) : MeterCall → Plug
  | .relaySet on => p.relaySet relayErr on
  | .updateClusterState => p.updateClusterState
  | .powerMeasurementUpdate _ _ _ => p

namespace Firmware

/-- Power comes on.  The energy total and the OnOff attribute were kept in flash. -/
def powerOn (answers : StartAnswers) (kvs : Option Int) (onOff : Bool) : Firmware :=
  { answers := answers, plug := { onOff := onOff }, kvs := kvs }

/-- `Init` fails, `StartApp` returns its error and `main` returns. -/
def exit (err : InitError) (f : Firmware) : Firmware := { f with app := .exited err }

/-- `AppTask::UpdateStatusLed`. -/
def updateStatusLed (f : Firmware) : Firmware :=
  { f with plug := f.plug.statusLedSetNetworkState f.deviceState.networkLedState }

/-- The next call of `AppTask::Init`.  The board calls its LED handler once
when it is initialised. -/
def initStep (next : InitStep) (f : Firmware) : Firmware :=
  match next with
  | .prepareServer =>
      match f.answers.prepareServer with
      | some code => f.exit (.sdk code)
      | none => { f with postServerInitClbk := true, app := .init .statusLedInit }
  | .statusLedInit =>
      let r := f.plug.outputs.led.statusLedInit f.answers.ledIsReady f.answers.ledConfigure
      let f := { f with plug.outputs.led := r.1 }
      if r.2 ≠ 0 then f.exit .incorrectState else { f with app := .init .relayInit }
  | .relayInit =>
      let r := f.plug.outputs.relayInit f.answers.relayIsReady f.answers.relayConfigure
      let f := { f with plug.outputs := r.1 }
      if r.2 ≠ 0 then f.exit .incorrectState else { f with app := .init .boardInit }
  | .boardInit =>
      if !f.answers.boardInit then
        f.exit .incorrectState
      else
        { f.updateStatusLed with boardReady := true, app := .init .registerEventHandler }
  | .registerEventHandler =>
      match f.answers.registerEventHandler with
      | some code => f.exit (.sdk code)
      | none => { f with app := .init .identifyInit }
  | .identifyInit =>
      match f.answers.identifyInit with
      | some code => f.exit (.sdk code)
      | none => { f with app := .init .startServer }
  | .startServer =>
      let f := { f with serverStarted := true }
      match f.answers.startServer with
      | some code => f.exit (.sdk code)
      | none => { f with app := .init .meterInit }
  | .meterInit =>
      { f with
        meter := f.meter.meterInit f.answers.meterIsReady
        nextExpiryMs := some (f.uptimeMs + kMeterPollIntervalMs)
        app := .dispatching }

/-! ## the dispatch loop -/

/-- The poll the app task is about to run. -/
def poll (f : Firmware) : Poll :=
  { nowMs := f.uptimeMs, cf := f.meter.sCfPulses, cf1 := f.meter.sCf1Pulses }

/-- The poll with what the calls it makes read. -/
def meteringPoll (a : TaskAnswers) (f : Firmware) : MeteringPoll :=
  { poll := f.poll
    relayIsOn := f.plug.relayIsOn
    updateMs := f.uptimeMs + a.lagMs
    fabricCount := a.fabricCount
    putErr := a.putErr }

/-- The calls `MeterPoll` makes into other modules. -/
def meterCalls (cfg : Option OverPowerConfig) (f : Firmware) : List MeterCall :=
  (f.meter.meterPoll cfg f.plug.relayIsOn f.uptimeMs).2

/-- What `MeterPoll` publishes, with the effects of publishing it. -/
def publications (cfg : Option OverPowerConfig) (a : TaskAnswers) (f : Firmware) :
    List Publication :=
  (publish (f.meteringPoll a) f.pm (f.meterCalls cfg)).2

/-- What `MeterPoll` does to the store and the controllers, in order. -/
def effects (cfg : Option OverPowerConfig) (a : TaskAnswers) (f : Firmware) : List Effect :=
  (f.publications cfg a).flatMap Publication.effects

/-- `MeterPoll`, with the calls it makes. -/
def meterPoll (cfg : Option OverPowerConfig) (a : TaskAnswers) (f : Firmware) : Firmware :=
  { f with
    meter := (f.meter.meterPoll cfg f.plug.relayIsOn f.uptimeMs).1
    plug := (f.meterCalls cfg).foldl (Plug.call a.relayErr) f.plug
    pm := (publish (f.meteringPoll a) f.pm (f.meterCalls cfg)).1
    kvs := (f.effects cfg a).foldl store f.kvs
    uptimeMs := f.uptimeMs + a.lagMs
    polls := f.polls ++ [f.poll] }

/-- `AppTask::ButtonEventHandler`. -/
def buttonEventHandler (relayErr : Int) (state hasChanged : UInt32) (f : Firmware) : Firmware :=
  { f with plug := f.plug.buttonEventHandler relayErr state hasChanged }

def runTask (cfg : Option OverPowerConfig) (a : TaskAnswers) (f : Firmware) : Task → Firmware
  | .meterPoll => f.meterPoll cfg a
  | .buttonEventHandler state hasChanged => f.buttonEventHandler a.relayErr state hasChanged

/-- The effects of a task, as far as power cuts can fall between them. -/
def taskEffects (cfg : Option OverPowerConfig) (a : TaskAnswers) (f : Firmware) :
    Task → List Effect
  | .meterPoll => f.effects cfg a
  | .buttonEventHandler _ _ => []

/-- `Nrf::DispatchNextTask` takes the oldest task off the queue, which is taken to
have had room for every post. -/
def nextTask (f : Firmware) : Option (Task × Firmware) :=
  match f.app, f.tasks with
  | .dispatching, task :: tasks => some (task, { f with tasks := tasks })
  | _, _ => none

/-- The hook `Init` hands to `PrepareServer`. -/
def postServerInit (instanceErr attrAccessErr accuracyErr readErr : ChipError)
    (f : Firmware) : Firmware :=
  { f with
    pm := (f.pm.powerMeasurementInit kPlugEndpointId
      { instanceErr := instanceErr
        attrAccessErr := attrAccessErr
        accuracyErr := accuracyErr
        get := kvsGet readErr f.kvs }).1
    postServerInitClbk := false }

end Firmware

/-! ## runs -/

inductive FirmwareEvent where
  /-- The app task makes the next call of `Init`. -/
  | init
  /-- The app task runs the next task. -/
  | dispatch (a : TaskAnswers)
  | meterPollTimer
  | blinkTimer
  | cfIsr
  | cf1Isr
  /-- The board layer posts a button event. -/
  | button (state hasChanged : UInt32)
  | deviceState (state : DeviceState)
  /-- The Matter thread runs the post-server-init hook. -/
  | postServerInit (instanceErr attrAccessErr accuracyErr readErr : ChipError)
  /-- It runs `emberAfOnOffClusterInitCallback`; `getOk` says whether the
  attribute can be read. -/
  | onOffClusterInit (getOk : Bool) (relayErr : Int)
  /-- A controller writes the OnOff attribute.  The SDK may leave out the
  callback when the stored attribute already has the value. -/
  | controllerWrite (value runsCallback : Bool) (relayErr : Int)
  /-- The Matter thread runs the next `UpdateClusterState` lambda. -/
  | lambda (relayErr : Int)
  | elapse (ms : Nat)
  /-- Power is cut and comes back.  `during` is the task it interrupts, with how
  many of its effects are done. -/
  | powerCut (during : Option (TaskAnswers × Nat)) (answers : StartAnswers)

/-- The firmware, with (`some cfg`) or without over-power protection. -/
def firmware (cfg : Option OverPowerConfig) : Lts Firmware FirmwareEvent where
  step f
    | .init =>
        match f.app with
        | .init next => some (f.initStep next)
        | _ => none
    | .dispatch a => f.nextTask.map fun (task, f) => f.runTask cfg a task
    | .meterPollTimer =>
        match f.nextExpiryMs with
        | some expiryMs =>
            if expiryMs ≤ f.uptimeMs then
              some { f with
                tasks := f.tasks ++ [.meterPoll]
                nextExpiryMs := some (expiryMs + kMeterPollIntervalMs) }
            else none
        | none => none
    | .blinkTimer =>
        if f.plug.outputs.led.sBlinkTimer.isSome then
          some { f with plug := f.plug.blinkTimerHandler }
        else none
    | .cfIsr =>
        if f.meter.interruptsEnabled then some { f with meter := f.meter.cfIsr } else none
    | .cf1Isr =>
        if f.meter.interruptsEnabled then some { f with meter := f.meter.cf1Isr } else none
    | .button state hasChanged =>
        if f.boardReady then
          some { f with tasks := f.tasks ++ [.buttonEventHandler state hasChanged] }
        else none
    | .deviceState state =>
        if f.boardReady then
          some (Firmware.updateStatusLed { f with deviceState := state })
        else none
    | .postServerInit instanceErr attrAccessErr accuracyErr readErr =>
        if f.serverStarted ∧ f.postServerInitClbk then
          some (f.postServerInit instanceErr attrAccessErr accuracyErr readErr)
        else none
    | .onOffClusterInit getOk relayErr =>
        if f.serverStarted ∧ !f.onOffInitialised then
          some { f with
            plug := f.plug.emberAfOnOffClusterInitCallback relayErr
              (if getOk then some f.plug.onOff else none)
            onOffInitialised := true }
        else none
    | .controllerWrite value runsCallback relayErr =>
        if f.serverStarted then
          if runsCallback then some { f with plug := f.plug.onOffSet relayErr value }
          else if value = f.plug.onOff then some f else none
        else none
    | .lambda relayErr =>
        if f.serverStarted ∧ 0 < f.plug.lambdas then
          some { f with plug := f.plug.runLambda relayErr }
        else none
    | .elapse ms => some { f with uptimeMs := f.uptimeMs + ms }
    | .powerCut during answers =>
        match during with
        | none => some (.powerOn answers f.kvs f.plug.onOff)
        | some (a, done) =>
            f.nextTask.map fun (task, f) =>
              .powerOn answers (((f.taskEffects cfg a task).take done).foldl store f.kvs)
                f.plug.onOff

/-- What an event does, one constructor an action. -/
inductive FirmwareStep (cfg : Option OverPowerConfig) (f : Firmware) :
    FirmwareEvent → Firmware → Prop where
  | init {next : InitStep} (happ : f.app = .init next) : FirmwareStep cfg f .init (f.initStep next)
  | dispatch {a : TaskAnswers} {task : Task} {tasks : List Task} (happ : f.app = .dispatching)
      (htasks : f.tasks = task :: tasks) :
      FirmwareStep cfg f (.dispatch a) (Firmware.runTask cfg a { f with tasks := tasks } task)
  | meterPollTimer {expiryMs : Int} (hstarted : f.nextExpiryMs = some expiryMs)
      (hdue : expiryMs ≤ f.uptimeMs) :
      FirmwareStep cfg f .meterPollTimer
        { f with
          tasks := f.tasks ++ [.meterPoll]
          nextExpiryMs := some (expiryMs + kMeterPollIntervalMs) }
  | blinkTimer (hruns : f.plug.outputs.led.sBlinkTimer.isSome = true) :
      FirmwareStep cfg f .blinkTimer { f with plug := f.plug.blinkTimerHandler }
  | cfIsr (henabled : f.meter.interruptsEnabled = true) :
      FirmwareStep cfg f .cfIsr { f with meter := f.meter.cfIsr }
  | cf1Isr (henabled : f.meter.interruptsEnabled = true) :
      FirmwareStep cfg f .cf1Isr { f with meter := f.meter.cf1Isr }
  | button {state hasChanged : UInt32} (hready : f.boardReady = true) :
      FirmwareStep cfg f (.button state hasChanged)
        { f with tasks := f.tasks ++ [.buttonEventHandler state hasChanged] }
  | deviceState {state : DeviceState} (hready : f.boardReady = true) :
      FirmwareStep cfg f (.deviceState state)
        (Firmware.updateStatusLed { f with deviceState := state })
  | postServerInit {instanceErr attrAccessErr accuracyErr readErr : ChipError}
      (hstarted : f.serverStarted = true) (hhook : f.postServerInitClbk = true) :
      FirmwareStep cfg f (.postServerInit instanceErr attrAccessErr accuracyErr readErr)
        (f.postServerInit instanceErr attrAccessErr accuracyErr readErr)
  | onOffClusterInit {getOk : Bool} {relayErr : Int} (hstarted : f.serverStarted = true)
      (hfirst : f.onOffInitialised = false) :
      FirmwareStep cfg f (.onOffClusterInit getOk relayErr)
        { f with
          plug := f.plug.emberAfOnOffClusterInitCallback relayErr
            (if getOk then some f.plug.onOff else none)
          onOffInitialised := true }
  | controllerWrite {value : Bool} {relayErr : Int} (hstarted : f.serverStarted = true) :
      FirmwareStep cfg f (.controllerWrite value true relayErr)
        { f with plug := f.plug.onOffSet relayErr value }
  | unchangedWrite {value : Bool} {relayErr : Int} (hstarted : f.serverStarted = true)
      (hvalue : value = f.plug.onOff) : FirmwareStep cfg f (.controllerWrite value false relayErr) f
  | lambda {relayErr : Int} (hstarted : f.serverStarted = true) (hpending : 0 < f.plug.lambdas) :
      FirmwareStep cfg f (.lambda relayErr) { f with plug := f.plug.runLambda relayErr }
  | elapse {ms : Nat} :
      FirmwareStep cfg f (.elapse ms) { f with uptimeMs := f.uptimeMs + ms }
  | powerCut {answers : StartAnswers} :
      FirmwareStep cfg f (.powerCut none answers) (.powerOn answers f.kvs f.plug.onOff)
  | powerCutDuring {a : TaskAnswers} {done : Nat} {answers : StartAnswers} {task : Task}
      {tasks : List Task} (happ : f.app = .dispatching) (htasks : f.tasks = task :: tasks) :
      FirmwareStep cfg f (.powerCut (some (a, done)) answers)
        (.powerOn answers
          (((Firmware.taskEffects cfg a { f with tasks := tasks } task).take done).foldl store
            f.kvs)
          f.plug.onOff)

/-- The next task is the head of the queue, in the dispatch loop. -/
theorem Firmware.nextTask_eq_some {f g : Firmware} {task : Task}
    (h : f.nextTask = some (task, g)) :
    ∃ tasks, f.app = .dispatching ∧ f.tasks = task :: tasks ∧ g = { f with tasks := tasks } := by
  unfold nextTask at h
  split at h
  · next tasks happ htasks =>
    simp only [Option.some.injEq, Prod.mk.injEq] at h
    obtain ⟨rfl, rfl⟩ := h
    exact ⟨_, happ, htasks, rfl⟩
  · contradiction

/-- **Step lemma**: an enabled event does one of these. -/
theorem firmwareStep_of_step {cfg : Option OverPowerConfig} {f g : Firmware} {e : FirmwareEvent}
    (h : (firmware cfg).step f e = some g) : FirmwareStep cfg f e g := by
  cases e with
  | init =>
      simp only [firmware] at h
      split at h
      · next next happ => exact Option.some.inj h ▸ .init happ
      · contradiction
  | dispatch a =>
      simp only [firmware, Option.map_eq_some_iff, Prod.exists] at h
      obtain ⟨task, f', hnext, rfl⟩ := h
      obtain ⟨tasks, happ, htasks, rfl⟩ := Firmware.nextTask_eq_some hnext
      exact .dispatch happ htasks
  | meterPollTimer =>
      simp only [firmware] at h
      split at h
      · next expiryMs hstarted =>
        simp only [Option.ite_none_right_eq_some, Option.some.injEq] at h
        obtain ⟨hdue, rfl⟩ := h
        exact .meterPollTimer hstarted hdue
      · contradiction
  | blinkTimer =>
      simp only [firmware, Option.ite_none_right_eq_some, Option.some.injEq] at h
      obtain ⟨hruns, rfl⟩ := h
      exact .blinkTimer hruns
  | cfIsr =>
      simp only [firmware, Option.ite_none_right_eq_some, Option.some.injEq] at h
      obtain ⟨henabled, rfl⟩ := h
      exact .cfIsr henabled
  | cf1Isr =>
      simp only [firmware, Option.ite_none_right_eq_some, Option.some.injEq] at h
      obtain ⟨henabled, rfl⟩ := h
      exact .cf1Isr henabled
  | button state hasChanged =>
      simp only [firmware, Option.ite_none_right_eq_some, Option.some.injEq] at h
      obtain ⟨hready, rfl⟩ := h
      exact .button hready
  | deviceState state =>
      simp only [firmware, Option.ite_none_right_eq_some, Option.some.injEq] at h
      obtain ⟨hready, rfl⟩ := h
      exact .deviceState hready
  | postServerInit instanceErr attrAccessErr accuracyErr readErr =>
      simp only [firmware, Option.ite_none_right_eq_some, Option.some.injEq] at h
      obtain ⟨⟨hstarted, hhook⟩, rfl⟩ := h
      exact .postServerInit hstarted hhook
  | onOffClusterInit getOk relayErr =>
      simp only [firmware, Option.ite_none_right_eq_some, Option.some.injEq] at h
      obtain ⟨⟨hstarted, hfirst⟩, rfl⟩ := h
      exact .onOffClusterInit hstarted (by simpa using hfirst)
  | controllerWrite value runsCallback relayErr =>
      simp only [firmware, Option.ite_none_right_eq_some] at h
      obtain ⟨hstarted, h⟩ := h
      cases runsCallback with
      | true => exact Option.some.inj h ▸ .controllerWrite hstarted
      | false =>
          simp only [Bool.false_eq_true, if_false, Option.ite_none_right_eq_some,
            Option.some.injEq] at h
          obtain ⟨hvalue, rfl⟩ := h
          exact .unchangedWrite hstarted hvalue
  | lambda relayErr =>
      simp only [firmware, Option.ite_none_right_eq_some, Option.some.injEq] at h
      obtain ⟨⟨hstarted, hpending⟩, rfl⟩ := h
      exact .lambda hstarted hpending
  | elapse ms => exact Option.some.inj h ▸ .elapse
  | powerCut during answers =>
      cases during with
      | none => exact Option.some.inj h ▸ .powerCut
      | some during =>
          obtain ⟨a, done⟩ := during
          simp only [firmware, Option.map_eq_some_iff, Prod.exists] at h
          obtain ⟨task, f', hnext, rfl⟩ := h
          obtain ⟨tasks, happ, htasks, rfl⟩ := Firmware.nextTask_eq_some hnext
          exact .powerCutDuring happ htasks

/-! ## what a poll does -/

namespace Firmware

/-- The meter with its counters taken and its stamp moved. -/
def takenMeter (f : Firmware) : Meter :=
  { f.meter with sLastPollMs := f.uptimeMs, sCfPulses := 0, sCf1Pulses := 0 }

/-- The window the poll closes, if it closes one. -/
def window (f : Firmware) : Option Window := f.poll.window f.meter.stamp

/-- What a poll that closes a window publishes. -/
def sample (cfg : Option OverPowerConfig) (a : TaskAnswers) (f : Firmware) : Sample :=
  let m := (f.meter.meterPoll cfg f.plug.relayIsOn f.uptimeMs).1
  (f.meteringPoll a).sample m.sLastActivePowerMw m.sLastRmsVoltageMv m.sLastRmsCurrentMa

variable {cfg : Option OverPowerConfig} {f : Firmware}

/-- A poll without a window takes the counters and calls nothing. -/
theorem meter_of_window_none (h : f.window = none) (relayIsOn : Bool) :
    f.meter.meterPoll cfg relayIsOn f.uptimeMs = (f.takenMeter, []) :=
  Meter.poll_of_window_none (p := f.poll) f.meter.stampIs_stamp h cfg relayIsOn

/-- A poll with one measures it. -/
theorem meter_of_window_some {w : Window} (h : f.window = some w) (relayIsOn : Bool) :
    f.meter.meterPoll cfg relayIsOn f.uptimeMs =
      let m := f.takenMeter.measure cfg relayIsOn w
      (m, (f.takenMeter.protect cfg relayIsOn (UInt32.ofNat w.cfRate)).2 ++
        [.powerMeasurementUpdate m.sLastActivePowerMw m.sLastRmsVoltageMv m.sLastRmsCurrentMa]) :=
  Meter.poll_of_window_some (p := f.poll) f.meter.stampIs_stamp h cfg relayIsOn

/-- **A poll that closes no window** calls nothing. -/
theorem meterCalls_of_window_none (h : f.window = none) : f.meterCalls cfg = [] := by
  rw [meterCalls, meter_of_window_none h]

/-- **A poll that closes a window** may trip, and publishes once. -/
theorem meterCalls_of_window_some {w : Window} (h : f.window = some w) (a : TaskAnswers) :
    f.meterCalls cfg =
      (f.takenMeter.protect cfg f.plug.relayIsOn (UInt32.ofNat w.cfRate)).2 ++
        [.powerMeasurementUpdate (f.sample cfg a).activePowerMw (f.sample cfg a).rmsVoltageMv
          (f.sample cfg a).rmsCurrentMa] := by
  simp only [meterCalls, sample, meter_of_window_some h]
  rfl

/-- A poll calls nothing, or publishes, with or without a trip before it. -/
theorem meterCalls_cases (cfg : Option OverPowerConfig) (f : Firmware) :
    f.meterCalls cfg = [] ∨ ∃ power voltage current,
      f.meterCalls cfg = [.powerMeasurementUpdate power voltage current] ∨
        f.meterCalls cfg =
          Meter.tripCalls ++ [.powerMeasurementUpdate power voltage current] := by
  cases h : f.window with
  | none => exact Or.inl (meterCalls_of_window_none h)
  | some w =>
      refine Or.inr ⟨(f.sample cfg {}).activePowerMw, (f.sample cfg {}).rmsVoltageMv,
        (f.sample cfg {}).rmsCurrentMa, ?_⟩
      rw [meterCalls_of_window_some h {}]
      obtain hnone | htrip :=
        Meter.protect_calls cfg f.plug.relayIsOn (UInt32.ofNat w.cfRate) f.takenMeter
      · rw [hnone]
        exact Or.inl rfl
      · rw [htrip]
        exact Or.inr rfl

/-- The poll about to be run tries to open the relay. -/
def Trips (cfg : Option OverPowerConfig) (f : Firmware) : Prop :=
  .relaySet false ∈ f.meterCalls cfg

instance (cfg : Option OverPowerConfig) (f : Firmware) : Decidable (f.Trips cfg) :=
  inferInstanceAs (Decidable (_ ∈ _))

/-- A poll does to the plug what a trip does, or nothing. -/
theorem plug_meterPoll (cfg : Option OverPowerConfig) (a : TaskAnswers) (f : Firmware) :
    (f.meterPoll cfg a).plug =
      if f.Trips cfg then (f.plug.relaySet a.relayErr false).updateClusterState else f.plug := by
  unfold Trips Firmware.meterPoll
  obtain hnone | ⟨power, voltage, current, hquiet | htripped⟩ := meterCalls_cases cfg f
  · simp [hnone]
  · simp [hquiet, Plug.call]
  · simp [htripped, Plug.call, Meter.tripCalls]

/-- Only a release of the button does anything. -/
theorem plug_buttonEventHandler (relayErr : Int) (state hasChanged : UInt32) (f : Firmware) :
    (f.buttonEventHandler relayErr state hasChanged).plug =
      if (Task.buttonEventHandler state hasChanged).releases = true then
        (f.plug.toggleRelay relayErr).updateClusterState
      else f.plug := by
  simp only [buttonEventHandler, Plug.buttonEventHandler, Task.releases, bne_iff_ne]

/-- Without a window, nothing is published. -/
theorem publish_of_window_none (h : f.window = none) (a : TaskAnswers) :
    publish (f.meteringPoll a) f.pm (f.meterCalls cfg) = (f.pm, []) := by
  rw [meterCalls_of_window_none h]
  rfl

/-- A window is published by one call of `PowerMeasurementUpdate`. -/
theorem publish_of_window_some {w : Window} (h : f.window = some w) (a : TaskAnswers) :
    publish (f.meteringPoll a) f.pm (f.meterCalls cfg) =
      let r := f.pm.powerMeasurementUpdate (f.sample cfg a)
      (r.1, [{ sample := f.sample cfg a, effects := r.2 }]) := by
  rw [meterCalls_of_window_some h a, Metering.publish_protect]
  rfl

/-- Without a window nothing reaches the measurement module. -/
theorem effects_of_window_none (h : f.window = none) (a : TaskAnswers) : f.effects cfg a = [] := by
  rw [effects, publications, publish_of_window_none h]
  rfl

/-- With one, the effects are those of its call. -/
theorem effects_of_window_some {w : Window} (h : f.window = some w) (a : TaskAnswers) :
    f.effects cfg a = (f.pm.powerMeasurementUpdate (f.sample cfg a)).2 := by
  rw [effects, publications, publish_of_window_some h]
  exact List.append_nil _

/-- In the dispatch loop the head of the queue is next. -/
theorem nextTask_of_dispatching {task : Task} {tasks : List Task} (happ : f.app = .dispatching)
    (htasks : f.tasks = task :: tasks) : f.nextTask = some (task, { f with tasks := tasks }) := by
  unfold nextTask
  rw [happ, htasks]

end Firmware

end UascentPlug

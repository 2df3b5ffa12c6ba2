import UascentPlug.Firmware

/-!
# UascentPlug.Firmware.Start

Starting up.  `AppTask::Init` is a chain of calls that ends at the first
failure; other code runs in between, and power can go at any time.

`start_up_is_all_or_nothing` says what each outcome leaves behind;
`load_stays_off` is the guarantee that `RelayInit` is placed where it is for:
nothing closes the relay that was not told to.
-/

namespace UascentPlug

/-! ## what every operation on the switching state keeps -/

namespace Plug

/-- A property of the switching state that everything but a change of the
network state keeps. -/
structure Kept (P : Plug → Prop) : Prop where
  relaySet : ∀ err on p, P p → P (p.relaySet err on)
  statusLedSetRelayState : ∀ on p, P p → P (p.statusLedSetRelayState on)
  blinkTimerHandler : ∀ p, P p → p.outputs.led.sBlinkTimer.isSome = true → P p.blinkTimerHandler
  /-- Neither the attribute nor the pending lambdas matter. -/
  bookkeeping : ∀ onOff lambdas p, P p → P { p with onOff := onOff, lambdas := lambdas }

namespace Kept

variable {P : Plug → Prop}

/-- `ApplyOnOff` keeps what `RelaySet` and the LED call keep. -/
theorem applyOnOff (h : Kept P) (err : Int) (on : Bool) {p : Plug} (hp : P p) :
    P (p.applyOnOff err on) :=
  h.statusLedSetRelayState on _ (h.relaySet err on p hp)

/-- So does a write to the attribute. -/
theorem onOffSet (h : Kept P) (err : Int) (value : Bool) {p : Plug} (hp : P p) :
    P (p.onOffSet err value) := by
  rw [Plug.onOffSet, onOffChanged_eq]
  exact h.applyOnOff err value (h.bookkeeping value p.lambdas p hp)

/-- So does a lambda. -/
theorem runLambda (h : Kept P) (err : Int) {p : Plug} (hp : P p) : P (p.runLambda err) :=
  h.onOffSet err p.relayIsOn (h.bookkeeping p.onOff (p.lambdas - 1) p hp)

/-- So does the restore at start-up. -/
theorem emberAfOnOffClusterInitCallback (h : Kept P) (err : Int) (get : Option Bool) {p : Plug}
    (hp : P p) : P (p.emberAfOnOffClusterInitCallback err get) := by
  cases get with
  | none => exact hp
  | some storedValue => exact h.applyOnOff err storedValue hp

/-- So does scheduling a lambda. -/
theorem updateClusterState (h : Kept P) {p : Plug} (hp : P p) : P p.updateClusterState :=
  h.bookkeeping p.onOff (p.lambdas + 1) p hp

/-- So does the button handler. -/
theorem buttonEventHandler (h : Kept P) (err : Int) (state hasChanged : UInt32) {p : Plug}
    (hp : P p) : P (p.buttonEventHandler err state hasChanged) := by
  unfold Plug.buttonEventHandler
  split
  · exact h.updateClusterState
      (h.statusLedSetRelayState _ _ (h.relaySet err (!p.relayIsOn) p hp))
  · exact hp

/-- So do the calls of a poll. -/
theorem calls (h : Kept P) (err : Int) (calls : List MeterCall) {p : Plug} (hp : P p) :
    P (calls.foldl (Plug.call err) p) := by
  induction calls generalizing p with
  | nil => exact hp
  | cons c calls ih =>
      cases c with
      | relaySet on => exact ih (h.relaySet err on p hp)
      | updateClusterState => exact ih (h.updateClusterState hp)
      | powerMeasurementUpdate power voltage current => exact ih hp

end Kept

variable {P : Plug → Prop}

/-- So does a task. -/
theorem Kept.runTask (h : Kept P) (cfg : Option OverPowerConfig) (a : TaskAnswers) {f : Firmware}
    (hp : P f.plug) (task : Task) : P (f.runTask cfg a task).plug := by
  cases task with
  | meterPoll => exact h.calls a.relayErr _ hp
  | buttonEventHandler state hasChanged => exact h.buttonEventHandler a.relayErr state hasChanged hp

/-- Outside `Init` and power cuts, the firmware only operates on the plug. -/
theorem Kept.step (h : Kept P) {cfg : Option OverPowerConfig} {f g : Firmware} {e : FirmwareEvent}
    (hinit : ∀ next, f.app = .init next → P (f.initStep next).plug)
    (hpowerOn : ∀ onOff, P { onOff := onOff })
    (hnetwork : ∀ state, P (f.plug.statusLedSetNetworkState state)) (hp : P f.plug)
    (hstep : FirmwareStep cfg f e g) : P g.plug := by
  cases hstep with
  | init happ => exact hinit _ happ
  | @dispatch a task tasks happ htasks =>
      exact h.runTask cfg a (f := { f with tasks := tasks }) hp task
  | blinkTimer hruns => exact h.blinkTimerHandler _ hp hruns
  | deviceState hready => exact hnetwork _
  | onOffClusterInit hstarted hfirst => exact h.emberAfOnOffClusterInitCallback _ _ hp
  | controllerWrite hstarted => exact h.onOffSet _ _ hp
  | lambda hstarted hpending => exact h.runLambda _ hp
  | powerCut => exact hpowerOn _
  | powerCutDuring happ htasks => exact hpowerOn _
  | _ => exact hp

/-- The LEDs and the relay are initialised. -/
structure OutputsReady (p : Plug) : Prop where
  led : p.outputs.led.sInitialised = true
  relay : p.RelayReady

end Plug

@[simp] theorem StatusLed.sInitialised_renderRgb (s : StatusLed) :
    s.renderRgb.sInitialised = s.sInitialised := by
  rw [renderRgb_eq]

@[simp] theorem StatusLed.sInitialised_statusLedSetRelayState (on : Bool) (s : StatusLed) :
    (s.statusLedSetRelayState on).sInitialised = s.sInitialised := by
  unfold statusLedSetRelayState
  split
  · rfl
  · exact sInitialised_renderRgb _

@[simp] theorem StatusLed.sInitialised_statusLedSetNetworkState (state : NetworkLedState)
    (s : StatusLed) : (s.statusLedSetNetworkState state).sInitialised = s.sInitialised := by
  unfold statusLedSetNetworkState
  split
  · rfl
  · simp only
    split
    · rfl
    · cases state <;> exact sInitialised_renderRgb _

/-- The relay does not uninitialise the LEDs. -/
theorem Plug.sInitialised_relaySet (err : Int) (on : Bool) (p : Plug) :
    (p.relaySet err on).outputs.led.sInitialised = p.outputs.led.sInitialised := by
  simp only [Plug.relaySet, Outputs.relaySet]
  split
  · rfl
  · split
    · rfl
    · exact StatusLed.sInitialised_statusLedSetRelayState on _

/-- Switching keeps relay and LEDs ready. -/
theorem Plug.kept_outputsReady : Plug.Kept Plug.OutputsReady where
  relaySet err on p h :=
    ⟨(sInitialised_relaySet err on p).trans h.led, (relayReady_relaySet err on p).mpr h.relay⟩
  statusLedSetRelayState on _ h :=
    ⟨(StatusLed.sInitialised_statusLedSetRelayState on _).trans h.led, h.relay⟩
  blinkTimerHandler _ h _ := ⟨(StatusLed.sInitialised_blinkTimerHandler _).trans h.led, h.relay⟩
  bookkeeping _ _ _ h := ⟨h.led, h.relay⟩

/-- So does a change of the network state. -/
theorem Plug.OutputsReady.statusLedSetNetworkState {p : Plug} (h : p.OutputsReady)
    (state : NetworkLedState) : (p.statusLedSetNetworkState state).OutputsReady :=
  ⟨(StatusLed.sInitialised_statusLedSetNetworkState state _).trans h.led, h.relay⟩

/-! ## what start-up amounts to -/

namespace InitStep

/-- The calls of `Init`, in order. -/
def all : List InitStep :=
  [.prepareServer, .statusLedInit, .relayInit, .boardInit, .registerEventHandler, .identifyInit,
    .startServer, .meterInit]

/-- The calls before this one. -/
def before (step : InitStep) : List InitStep := all.takeWhile (· ≠ step)

end InitStep

namespace StartAnswers

/-- The error a call of `Init` ends it with. -/
def failure (a : StartAnswers) : InitStep → Option InitError
  | .prepareServer => a.prepareServer.map .sdk
  | .statusLedInit =>
      if [Led.red, .green, .blue, .plugNetwork].all
          fun led => a.ledIsReady led && a.ledConfigure led == 0 then none
      else some .incorrectState
  | .relayInit =>
      if a.relayIsReady && a.relayConfigure == 0 then none else some .incorrectState
  | .boardInit => if a.boardInit then none else some .incorrectState
  | .registerEventHandler => a.registerEventHandler.map .sdk
  | .identifyInit => a.identifyInit.map .sdk
  | .startServer => a.startServer.map .sdk
  | .meterInit => none

/-- The error of the first call that fails. -/
def firstFailure (a : StartAnswers) : Option InitError := InitStep.all.findSome? a.failure

end StartAnswers

/-- `StatusLedInit` gets through its pins exactly when each is ready and configured. -/
theorem StatusLed.configureLeds_snd_eq_zero (isReady : Led → Bool) (configure : Led → Int)
    (leds : List Led) (s : StatusLed) :
    (configureLeds isReady configure leds s).2 = 0 ↔
      leds.all (fun led => isReady led && configure led == 0) = true := by
  induction leds generalizing s with
  | nil => simp [configureLeds]
  | cons led leds ih =>
      rw [configureLeds, List.all_cons]
      by_cases hready : isReady led = true
      · by_cases hconfigure : configure led = 0
        · simp [hready, hconfigure, ih]
        · simp [hready, hconfigure]
      · simp [hready, enodev]

/-- `StatusLedInit` succeeds when every LED is ready and can be configured, and
only then are the LEDs initialised. -/
theorem StatusLed.statusLedInit_snd_eq_zero (isReady : Led → Bool) (configure : Led → Int)
    (s : StatusLed) :
    ((s.statusLedInit isReady configure).2 = 0 ↔
      [Led.red, .green, .blue, .plugNetwork].all
        (fun led => isReady led && configure led == 0) = true) ∧
      ((s.statusLedInit isReady configure).2 = 0 →
        (s.statusLedInit isReady configure).1.sInitialised = true) := by
  rw [← configureLeds_snd_eq_zero isReady configure _ s, statusLedInit]
  split
  · next heq => simp [heq]
  · next err hne heq =>
    simp only [heq, true_and]
    intro hzero
    exact absurd hzero hne

@[simp] theorem StatusLed.sInitialised_configureLeds (isReady : Led → Bool) (configure : Led → Int)
    (leds : List Led) (s : StatusLed) :
    (configureLeds isReady configure leds s).1.sInitialised = s.sInitialised := by
  induction leds generalizing s with
  | nil => rfl
  | cons led leds ih =>
      rw [configureLeds]
      split
      · rfl
      · split
        · rfl
        · exact ih _

/-- LEDs that were initialised stay so. -/
theorem StatusLed.sInitialised_statusLedInit {isReady : Led → Bool} {configure : Led → Int}
    {s : StatusLed} (h : s.sInitialised = true) :
    (s.statusLedInit isReady configure).1.sInitialised = true := by
  have hkept := sInitialised_configureLeds isReady configure [.red, .green, .blue, .plugNetwork] s
  rw [statusLedInit]
  split
  · rfl
  · next heq =>
    rw [heq] at hkept
    exact hkept.trans h

/-- What `Init` does after a call that succeeds. -/
def InitStep.next : InitStep → AppState
  | .prepareServer => .init .statusLedInit
  | .statusLedInit => .init .relayInit
  | .relayInit => .init .boardInit
  | .boardInit => .init .registerEventHandler
  | .registerEventHandler => .init .identifyInit
  | .identifyInit => .init .startServer
  | .startServer => .init .meterInit
  | .meterInit => .dispatching

namespace Firmware

/-- What the calls of `Init` that are behind have left. -/
def Reached (f : Firmware) : InitStep → Prop
  | .prepareServer | .statusLedInit => True
  | .relayInit => f.plug.outputs.led.sInitialised = true
  | .boardInit => f.plug.OutputsReady
  | .registerEventHandler | .identifyInit | .startServer => f.boardReady = true
  | .meterInit => f.serverStarted = true

def Stage (f : Firmware) : AppState → Prop
  | .init next => (∀ step ∈ next.before, f.answers.failure step = none) ∧ f.Reached next
  | .dispatching =>
      f.answers.firstFailure = none ∧ f.serverStarted = true ∧ f.nextExpiryMs.isSome = true
  | .exited err => f.answers.firstFailure = some err

/-- The invariant of start-up. -/
structure StartUp (f : Firmware) : Prop where
  stage : f.Stage f.app
  ready : f.boardReady = true → f.plug.OutputsReady
  started : f.serverStarted = true → f.boardReady = true
  /-- Nothing is metered before the loop. -/
  unmetered : f.app ≠ .dispatching →
    f.nextExpiryMs = none ∧ f.meter = {} ∧ f.polls = [] ∧ .meterPoll ∉ f.tasks
  /-- Nothing is switched before the server starts. -/
  unswitched : f.serverStarted = false →
    f.plug.outputs.relay.pin = false ∧ f.plug.relayIsOn = false ∧ f.plug.lambdas = 0 ∧ f.pm = {}

/-- After a step of `Init` the next one is due, or its error ends the app. -/
theorem app_initStep (next : InitStep) (f : Firmware) :
    (f.initStep next).app =
      match f.answers.failure next with
      | some err => .exited err
      | none => next.next := by
  cases next with
  | prepareServer =>
      cases h : f.answers.prepareServer <;>
        simp [initStep, StartAnswers.failure, h, exit, InitStep.next]
  | statusLedInit =>
      have hled := (StatusLed.statusLedInit_snd_eq_zero f.answers.ledIsReady
        f.answers.ledConfigure f.plug.outputs.led).1
      simp only [initStep, StartAnswers.failure, ← hled]
      split
      · next => simp [exit]
      · next heq => simp [not_not.mp heq, InitStep.next]
  | relayInit =>
      simp only [initStep, StartAnswers.failure, Outputs.relayInit]
      cases hready : f.answers.relayIsReady with
      | false => simp [exit, enodev]
      | true => by_cases hconfigure : f.answers.relayConfigure = 0 <;>
          simp [hconfigure, exit, InitStep.next]
  | boardInit =>
      cases h : f.answers.boardInit <;>
        simp [initStep, StartAnswers.failure, h, exit, InitStep.next]
  | registerEventHandler =>
      cases h : f.answers.registerEventHandler <;>
        simp [initStep, StartAnswers.failure, h, exit, InitStep.next]
  | identifyInit =>
      cases h : f.answers.identifyInit <;>
        simp [initStep, StartAnswers.failure, h, exit, InitStep.next]
  | startServer =>
      cases h : f.answers.startServer <;>
        simp [initStep, StartAnswers.failure, h, exit, InitStep.next]
  | meterInit => rfl

/-- What a call of `Init` leaves alone. -/
structure InitKeeps (f g : Firmware) : Prop where
  answers : g.answers = f.answers
  pm : g.pm = f.pm
  kvs : g.kvs = f.kvs
  tasks : g.tasks = f.tasks
  deviceState : g.deviceState = f.deviceState
  uptimeMs : g.uptimeMs = f.uptimeMs
  polls : g.polls = f.polls
  onOff : g.plug.onOff = f.plug.onOff
  lambdas : g.plug.lambdas = f.plug.lambdas
  onOffInitialised : g.onOffInitialised = f.onOffInitialised

/-- `Init` neither measures nor stores anything. -/
theorem initKeeps (next : InitStep) (f : Firmware) : InitKeeps f (f.initStep next) := by
  cases next with
  | boardInit | statusLedInit | relayInit =>
      simp only [initStep]
      split <;> constructor <;> rfl
  | prepareServer | registerEventHandler | identifyInit | startServer =>
      simp only [initStep]
      split <;> constructor <;> rfl
  | meterInit => constructor <;> rfl

/-- The meter and its timer are started last. -/
theorem initStep_unmetered {next : InitStep} (f : Firmware) (h : next ≠ .meterInit) :
    (f.initStep next).meter = f.meter ∧ (f.initStep next).nextExpiryMs = f.nextExpiryMs := by
  cases next with
  | meterInit => exact absurd rfl h
  | _ =>
      simp only [initStep]
      split <;> exact ⟨rfl, rfl⟩

/-- `Init` never closes the relay. -/
theorem initStep_relay (next : InitStep) (f : Firmware) :
    ((f.initStep next).plug.outputs.relay.pin = true → f.plug.outputs.relay.pin = true) ∧
      ((f.initStep next).plug.relayIsOn = true → f.plug.relayIsOn = true) := by
  cases next with
  | relayInit =>
      simp only [initStep, Outputs.relayInit, Plug.relayIsOn, Outputs.relayIsOn]
      cases f.answers.relayIsReady with
      | false => exact ⟨id, id⟩
      | true => by_cases hconfigure : f.answers.relayConfigure = 0 <;> simp [hconfigure, exit]
  | meterInit => exact ⟨id, id⟩
  | _ =>
      simp only [initStep]
      split <;> exact ⟨id, id⟩

end Firmware

/-- The calls of `Init` are those before a step, the step, and those after it. -/
theorem InitStep.all_eq (next : InitStep) :
    ∃ rest, all = next.before ++ next :: rest ∧
      ∀ next', next.next = .init next' → next'.before = next.before ++ [next] := by
  cases next <;> exact ⟨_, rfl, by simp [InitStep.next, before, all]⟩

namespace StartAnswers

variable {a : StartAnswers} {next : InitStep}

/-- With every call before it behind, a call that fails is the first to. -/
theorem firstFailure_of_before {err : InitError}
    (hbefore : ∀ step ∈ next.before, a.failure step = none) (h : a.failure next = some err) :
    a.firstFailure = some err := by
  obtain ⟨rest, hall, -⟩ := next.all_eq
  rw [firstFailure, hall, List.findSome?_append, List.findSome?_eq_none_iff.mpr hbefore,
    List.findSome?_cons, h]
  rfl

/-- When the last step is reached and succeeds, none has failed. -/
theorem firstFailure_eq_none (hbefore : ∀ step ∈ InitStep.meterInit.before, a.failure step = none) :
    a.firstFailure = none := by
  rw [firstFailure, show InitStep.all = InitStep.meterInit.before ++ [.meterInit] from rfl,
    List.findSome?_append, List.findSome?_eq_none_iff.mpr hbefore]
  rfl

/-- The calls before the next step are those before this one, and this one. -/
theorem before_next {next' : InitStep} (hbefore : ∀ step ∈ next.before, a.failure step = none)
    (h : a.failure next = none) (hnext : next.next = .init next') :
    ∀ step ∈ next'.before, a.failure step = none := by
  obtain ⟨-, -, heq⟩ := next.all_eq
  intro step hstep
  rw [heq next' hnext, List.mem_append, List.mem_singleton] at hstep
  cases hstep with
  | inl hstep => exact hbefore step hstep
  | inr hstep => rw [hstep, h]

end StartAnswers

/-! ## the invariant along a run -/

namespace Firmware

/-- Relay and LEDs stay ready. -/
theorem outputsReady_initStep {f : Firmware} (h : f.plug.OutputsReady) (next : InitStep) :
    (f.initStep next).plug.OutputsReady := by
  cases next with
  | statusLedInit =>
      have hled : (f.plug.outputs.led.statusLedInit f.answers.ledIsReady
          f.answers.ledConfigure).1.sInitialised = true :=
        StatusLed.sInitialised_statusLedInit h.led
      simp only [initStep]
      split <;> exact ⟨hled, h.relay⟩
  | relayInit =>
      simp only [initStep, Outputs.relayInit]
      cases f.answers.relayIsReady with
      | false => simp [exit, enodev]; exact h
      | true =>
          by_cases hconfigure : f.answers.relayConfigure = 0
          · simp [hconfigure]; exact ⟨h.led, rfl⟩
          · simp [hconfigure, exit]; exact h
  | boardInit =>
      simp only [initStep]
      split
      · exact h
      · exact h.statusLedSetNetworkState _
  | meterInit => exact h
  | _ =>
      simp only [initStep]
      split <;> exact h

/-- The two flags of start-up, and the calls that raise them. -/
theorem initStep_flags (next : InitStep) (f : Firmware) :
    (f.boardReady = true → (f.initStep next).boardReady = true) ∧
      ((f.initStep next).boardReady = true → f.boardReady = true ∨ next = .boardInit) ∧
      (f.serverStarted = true → (f.initStep next).serverStarted = true) ∧
      ((f.initStep next).serverStarted = true → f.serverStarted = true ∨ next = .startServer) := by
  cases next with
  | meterInit => exact ⟨id, Or.inl, id, Or.inl⟩
  | boardInit =>
      simp only [initStep]
      split <;> simp [exit, updateStatusLed]
  | startServer =>
      simp only [initStep]
      split <;> simp [exit]
  | _ =>
      simp only [initStep]
      split <;> exact ⟨id, Or.inl, id, Or.inl⟩

/-- The calls of `Init` that let the Matter thread in. -/
theorem initStep_server (next : InitStep) (f : Firmware) :
    (f.initStep next).serverStarted = (f.serverStarted || decide (next = .startServer)) ∧
      (f.initStep next).postServerInitClbk = (f.postServerInitClbk ||
        decide (next = .prepareServer) && f.answers.prepareServer.isNone) := by
  cases next with
  | prepareServer =>
      cases h : f.answers.prepareServer <;> simp [initStep, h, exit]
  | meterInit => simp [initStep]
  | startServer =>
      simp only [initStep]
      split <;> simp [exit]
  | _ =>
      simp only [initStep]
      split <;> simp [exit, updateStatusLed]

/-- `Board::Init` is what makes the board ready. -/
theorem initStep_boardReady {next : InitStep} (f : Firmware) (h : f.answers.failure next = none) :
    (f.initStep next).boardReady = (f.boardReady || decide (next = .boardInit)) := by
  cases next with
  | boardInit =>
      simp only [StartAnswers.failure, ite_eq_left_iff, reduceCtorEq, imp_false, not_not] at h
      simp [initStep, h]
  | meterInit => simp [initStep]
  | _ =>
      simp only [initStep]
      split <;> simp [exit]

/-- Power comes on before the first step of `Init`. -/
theorem startUp_powerOn (answers : StartAnswers) (kvs : Option Int) (onOff : Bool) :
    StartUp (powerOn answers kvs onOff) where
  stage := ⟨by simp [InitStep.before, InitStep.all], trivial⟩
  ready := by simp [powerOn]
  started := by simp [powerOn]
  unmetered := by simp [powerOn]
  unswitched := by simp [powerOn, Plug.relayIsOn, Outputs.relayIsOn]

variable {f : Firmware}

/-- A step of `Init` reaches the next stage, or stops at its error. -/
theorem StartUp.stage_initStep (h : StartUp f) {next : InitStep} (happ : f.app = .init next) :
    (f.initStep next).Stage (f.initStep next).app := by
  have hanswers := (f.initKeeps next).answers
  obtain ⟨hbefore, hreached⟩ : f.Stage (.init next) := happ ▸ h.stage
  rw [app_initStep]
  cases hfailure : f.answers.failure next with
  | some err =>
      simp only [Stage, hanswers]
      exact StartAnswers.firstFailure_of_before hbefore hfailure
  | none =>
      have hrest : ∀ next', next.next = .init next' →
          ∀ step ∈ next'.before, (f.initStep next).answers.failure step = none :=
        fun next' hnext => hanswers ▸ StartAnswers.before_next hbefore hfailure hnext
      cases next with
      | prepareServer => exact ⟨hrest _ rfl, trivial⟩
      | statusLedInit =>
          refine ⟨hrest _ rfl, ?_⟩
          have hled := StatusLed.statusLedInit_snd_eq_zero f.answers.ledIsReady
            f.answers.ledConfigure f.plug.outputs.led
          have hzero : (f.plug.outputs.led.statusLedInit f.answers.ledIsReady
              f.answers.ledConfigure).2 = 0 := by
            refine hled.1.mpr ?_
            simp only [StartAnswers.failure] at hfailure
            split at hfailure
            · next hall => exact hall
            · contradiction
          simp only [Reached, initStep, hzero, ne_eq, not_true, if_false]
          exact hled.2 hzero
      | relayInit =>
          refine ⟨hrest _ rfl, ?_⟩
          simp only [StartAnswers.failure, ite_eq_left_iff, reduceCtorEq, imp_false, not_not,
            Bool.and_eq_true, beq_iff_eq] at hfailure
          simp only [Reached, initStep, Outputs.relayInit, hfailure]
          exact ⟨hreached, rfl⟩
      | boardInit =>
          refine ⟨hrest _ rfl, ?_⟩
          simp only [StartAnswers.failure, ite_eq_left_iff, reduceCtorEq, imp_false,
            not_not] at hfailure
          simp [Reached, initStep, hfailure]
      | registerEventHandler =>
          refine ⟨hrest _ rfl, ?_⟩
          simp only [StartAnswers.failure, Option.map_eq_none_iff] at hfailure
          simpa [Reached, initStep, hfailure] using hreached
      | identifyInit =>
          refine ⟨hrest _ rfl, ?_⟩
          simp only [StartAnswers.failure, Option.map_eq_none_iff] at hfailure
          simpa [Reached, initStep, hfailure] using hreached
      | startServer =>
          refine ⟨hrest _ rfl, ?_⟩
          simp only [StartAnswers.failure, Option.map_eq_none_iff] at hfailure
          simp [Reached, initStep, hfailure]
      | meterInit => exact ⟨hanswers ▸ StartAnswers.firstFailure_eq_none hbefore, hreached, rfl⟩

/-- A step of `Init` goes on with start-up. -/
theorem StartUp.initStep (h : StartUp f) {next : InitStep} (happ : f.app = .init next) :
    StartUp (f.initStep next) := by
  have hkeeps := f.initKeeps next
  have hreached : f.Reached next := by
    have hstage := h.stage
    rw [happ] at hstage
    exact hstage.2
  obtain ⟨hexpiry, hmeter, hpolls, htasks⟩ := h.unmetered (by rw [happ]; simp)
  have hflags := f.initStep_flags next
  refine ⟨h.stage_initStep happ, ?_, ?_, ?_, ?_⟩
  · -- the board is only initialised once the outputs are
    intro hready
    have houtputs : f.plug.OutputsReady := by
      rcases hflags.2.1 hready with hbefore | rfl
      · exact h.ready hbefore
      · exact hreached
    exact outputsReady_initStep houtputs next
  · intro hstarted
    have hready : f.boardReady = true := by
      rcases hflags.2.2.2 hstarted with hbefore | rfl
      · exact h.started hbefore
      · exact hreached
    exact hflags.1 hready
  · intro hother
    have hnext : next ≠ .meterInit := by
      rintro rfl
      exact hother rfl
    obtain ⟨hsame, hsame'⟩ := f.initStep_unmetered hnext
    exact ⟨hsame'.trans hexpiry, hsame.trans hmeter, hkeeps.polls.trans hpolls,
      hkeeps.tasks ▸ htasks⟩
  · intro hstopped
    obtain ⟨hpin, hrelay, hlambdas, hpm⟩ := h.unswitched (by
      rw [← Bool.not_eq_true] at hstopped ⊢
      exact fun hbefore => hstopped (hflags.2.2.1 hbefore))
    refine ⟨?_, ?_, hkeeps.lambdas.trans hlambdas, hkeeps.pm.trans hpm⟩
    · rw [← Bool.not_eq_true] at hpin ⊢
      exact fun hclosed => hpin ((f.initStep_relay next).1 hclosed)
    · rw [← Bool.not_eq_true] at hrelay ⊢
      exact fun hclosed => hrelay ((f.initStep_relay next).2 hclosed)

/-- In the dispatch loop all of `Init` is behind. -/
theorem StartUp.stage_dispatching (h : StartUp f) (happ : f.app = .dispatching) :
    f.answers.firstFailure = none ∧ f.serverStarted = true ∧ f.nextExpiryMs.isSome = true := by
  have hstage := h.stage
  rwa [happ] at hstage

/-- The dispatch loop finds relay and LEDs ready. -/
theorem StartUp.outputsReady (h : StartUp f) (happ : f.app = .dispatching) :
    f.plug.OutputsReady :=
  h.ready (h.started (h.stage_dispatching happ).2.1)

/-- In the loop only the state of the outputs is left to keep. -/
theorem startUp_of_dispatching {answers : StartAnswers} (happ : f.app = .dispatching)
    (hanswers : f.answers = answers) (hclean : answers.firstFailure = none)
    (hstarted : f.serverStarted = true) (hready : f.boardReady = true)
    (hexpiry : f.nextExpiryMs.isSome = true) (houtputs : f.plug.OutputsReady) : StartUp f where
  stage := by
    rw [happ]
    exact ⟨hanswers ▸ hclean, hstarted, hexpiry⟩
  ready _ := houtputs
  started _ := hready
  unmetered hother := absurd happ hother
  unswitched hstopped := by
    rw [hstarted] at hstopped
    contradiction

/-- A task leaves start-up behind. -/
theorem StartUp.runTask {tasks : List Task} (h : StartUp f) (happ : f.app = .dispatching)
    (cfg : Option OverPowerConfig) (a : TaskAnswers) (task : Task) :
    StartUp (Firmware.runTask cfg a { f with tasks := tasks } task) := by
  obtain ⟨hclean, hstarted, hexpiry⟩ := h.stage_dispatching happ
  have hready := h.started hstarted
  have houtputs : (Firmware.runTask cfg a { f with tasks := tasks } task).plug.OutputsReady :=
    Plug.kept_outputsReady.runTask cfg a (f := { f with tasks := tasks }) (h.ready hready) task
  cases task with
  | meterPoll =>
      exact startUp_of_dispatching happ rfl hclean hstarted hready hexpiry houtputs
  | buttonEventHandler state hasChanged =>
      exact startUp_of_dispatching happ rfl hclean hstarted hready hexpiry houtputs

/-- What the Matter thread does, with outputs that stay initialised. -/
theorem StartUp.matter {plug : Plug} (h : StartUp f) (hstarted : f.serverStarted = true)
    (houtputs : plug.OutputsReady) (pm : PowerMeasurement) (hook restored : Bool) :
    StartUp { f with
      plug := plug, pm := pm, postServerInitClbk := hook, onOffInitialised := restored } where
  stage := by
    have hstage := h.stage
    cases happ : f.app with
    | init next =>
        rw [happ] at hstage
        refine ⟨hstage.1, ?_⟩
        cases next with
        | relayInit => exact houtputs.led
        | boardInit => exact houtputs
        | _ => exact hstage.2
    | dispatching =>
        rw [happ] at hstage
        exact hstage
    | exited err =>
        rw [happ] at hstage
        exact hstage
  ready _ := houtputs
  started := h.started
  unmetered := h.unmetered
  unswitched hstopped := by
    rw [hstarted] at hstopped
    contradiction

/-- What the LEDs do, wherever start-up is. -/
theorem StartUp.indicate {led : StatusLed} (h : StartUp f)
    (hled : led.sInitialised = f.plug.outputs.led.sInitialised) (state : DeviceState) :
    StartUp { f with plug.outputs.led := led, deviceState := state } where
  stage := by
    have hstage := h.stage
    cases happ : f.app with
    | init next =>
        rw [happ] at hstage
        refine ⟨hstage.1, ?_⟩
        cases next with
        | relayInit => exact hled.trans hstage.2
        | boardInit => exact ⟨hled.trans hstage.2.led, hstage.2.relay⟩
        | _ => exact hstage.2
    | dispatching =>
        rw [happ] at hstage
        exact hstage
    | exited err =>
        rw [happ] at hstage
        exact hstage
  ready hready := ⟨hled.trans (h.ready hready).led, (h.ready hready).relay⟩
  started := h.started
  unmetered := h.unmetered
  unswitched := h.unswitched

/-- The poll timer and the pulse interrupts only run in the loop. -/
theorem StartUp.dispatching (h : StartUp f)
    (hruns : f.nextExpiryMs.isSome = true ∨ f.meter.interruptsEnabled = true) :
    f.app = .dispatching := by
  by_contra hother
  obtain ⟨hexpiry, hmeter, -, -⟩ := h.unmetered hother
  rw [hexpiry, hmeter] at hruns
  simp at hruns

/-- **Step lemma**: every event keeps the invariant of start-up. -/
theorem StartUp.step {cfg : Option OverPowerConfig} {g : Firmware} {e : FirmwareEvent}
    (h : StartUp f) (hstep : FirmwareStep cfg f e g) : StartUp g := by
  have hkept := Plug.kept_outputsReady
  cases hstep with
  | init happ => exact h.initStep happ
  | dispatch happ htasks => exact h.runTask happ cfg _ _
  | meterPollTimer hrunning hdue =>
      have happ := h.dispatching (Or.inl (by rw [hrunning]; rfl))
      obtain ⟨hclean, hstarted, -⟩ := h.stage_dispatching happ
      have hready := h.started hstarted
      exact startUp_of_dispatching happ rfl hclean hstarted hready rfl (h.ready hready)
  | blinkTimer hruns => exact h.indicate (StatusLed.sInitialised_blinkTimerHandler _) f.deviceState
  | cfIsr henabled =>
      have happ := h.dispatching (Or.inr henabled)
      obtain ⟨hclean, hstarted, hexpiry⟩ := h.stage_dispatching happ
      have hready := h.started hstarted
      exact startUp_of_dispatching happ rfl hclean hstarted hready hexpiry (h.ready hready)
  | cf1Isr henabled =>
      have happ := h.dispatching (Or.inr henabled)
      obtain ⟨hclean, hstarted, hexpiry⟩ := h.stage_dispatching happ
      have hready := h.started hstarted
      exact startUp_of_dispatching happ rfl hclean hstarted hready hexpiry (h.ready hready)
  | button hready =>
      exact ⟨h.stage, h.ready, h.started, fun hother => by simpa using h.unmetered hother,
        h.unswitched⟩
  | deviceState hready =>
      exact h.indicate (StatusLed.sInitialised_statusLedSetNetworkState _ _) _
  | postServerInit hstarted hhook =>
      exact h.matter hstarted (h.ready (h.started hstarted)) _ false f.onOffInitialised
  | onOffClusterInit hstarted hfirst =>
      exact h.matter hstarted (hkept.emberAfOnOffClusterInitCallback _ _
        (h.ready (h.started hstarted))) f.pm f.postServerInitClbk true
  | controllerWrite hstarted =>
      exact h.matter hstarted (hkept.onOffSet _ _ (h.ready (h.started hstarted))) f.pm
        f.postServerInitClbk f.onOffInitialised
  | unchangedWrite hstarted hvalue => exact h
  | lambda hstarted hpending =>
      exact h.matter hstarted (hkept.runLambda _ (h.ready (h.started hstarted))) f.pm
        f.postServerInitClbk f.onOffInitialised
  | elapse => exact ⟨h.stage, h.ready, h.started, h.unmetered, h.unswitched⟩
  | powerCut => exact startUp_powerOn _ _ _
  | powerCutDuring happ htasks => exact startUp_powerOn _ _ _

/-- **Run lemma**: the invariant of start-up holds in every run, through any
number of power cuts. -/
theorem startUp_of_run {cfg : Option OverPowerConfig} {answers : StartAnswers} {kvs : Option Int}
    {onOff : Bool} {es : List FirmwareEvent}
    (hrun : (firmware cfg).run (powerOn answers kvs onOff) es = some f) : StartUp f :=
  (firmware cfg).run_invariant_of_step (P := StartUp)
    (fun _ _ _ h hstep => h.step (firmwareStep_of_step hstep)) (startUp_powerOn answers kvs onOff)
    hrun

/-- During `Init`, the flags say which calls are behind. -/
structure InOrder (f : Firmware) : Prop where
  board : ∀ next, f.app = .init next → f.boardReady = decide (.boardInit ∈ next.before)
  server : ∀ next, f.app = .init next → f.serverStarted = decide (.startServer ∈ next.before)
  restored : f.onOffInitialised = true → f.serverStarted = true

/-- When power comes on nothing has been started. -/
theorem inOrder_powerOn (answers : StartAnswers) (kvs : Option Int) (onOff : Bool) :
    InOrder (powerOn answers kvs onOff) where
  board next happ := by
    obtain rfl := AppState.init.inj happ
    rfl
  server next happ := by
    obtain rfl := AppState.init.inj happ
    rfl
  restored := by simp [powerOn]

/-- The steps of `Init` come in order. -/
theorem InOrder.initStep (h : InOrder f) {next : InitStep} (happ : f.app = .init next) :
    InOrder (f.initStep next) := by
  obtain ⟨hstarted, -⟩ := f.initStep_server next
  have hnext : ∀ next', (f.initStep next).app = .init next' →
      f.answers.failure next = none ∧ next'.before = next.before ++ [next] := by
    intro next' happ'
    rw [app_initStep] at happ'
    cases hfailure : f.answers.failure next with
    | some err => simp [hfailure] at happ'
    | none =>
        rw [hfailure] at happ'
        obtain ⟨-, -, hbefore⟩ := next.all_eq
        exact ⟨rfl, hbefore next' happ'⟩
  constructor
  case board =>
    intro next' happ'
    obtain ⟨hfailure, hbefore⟩ := hnext next' happ'
    rw [f.initStep_boardReady hfailure, h.board next happ, hbefore]
    simp [eq_comm]
  case server =>
    intro next' happ'
    obtain ⟨-, hbefore⟩ := hnext next' happ'
    rw [hstarted, h.server next happ, hbefore]
    simp [eq_comm]
  case restored =>
    rw [(f.initKeeps next).onOffInitialised, hstarted]
    exact fun hrestored => by rw [h.restored hrestored, Bool.true_or]

/-- **Step lemma**: board, server and restore come in the order of `Init`. -/
theorem InOrder.step {cfg : Option OverPowerConfig} {g : Firmware} {e : FirmwareEvent}
    (h : InOrder f) (hstep : FirmwareStep cfg f e g) : InOrder g := by
  cases hstep with
  | init happ => exact h.initStep happ
  | @dispatch a task tasks happ htasks =>
      cases task with
      | meterPoll => exact ⟨h.board, h.server, h.restored⟩
      | buttonEventHandler state hasChanged => exact ⟨h.board, h.server, h.restored⟩
  | onOffClusterInit hstarted hfirst => exact ⟨h.board, h.server, fun _ => hstarted⟩
  | powerCut => exact inOrder_powerOn _ _ _
  | powerCutDuring happ htasks => exact inOrder_powerOn _ _ _
  | _ => exact ⟨h.board, h.server, h.restored⟩

/-- **Start-up is all or nothing.**  In every run, whatever the hardware and
the SDK answer and whenever power is cut: the dispatch loop is only reached
with every call of `Init` behind and the LEDs, the relay, the server and the
poll timer running; when `main` returns, it is with the error of the first
call that failed; outside the loop nothing is metered; and before the server
starts the relay is open. -/
theorem start_up_is_all_or_nothing (cfg : Option OverPowerConfig) (answers : StartAnswers)
    (kvs : Option Int) (onOff : Bool) (es : List FirmwareEvent) (f : Firmware)
    (hrun : (firmware cfg).run (powerOn answers kvs onOff) es = some f) :
    (f.app = .dispatching → f.answers.firstFailure = none ∧ f.plug.OutputsReady ∧
        f.serverStarted = true ∧ f.nextExpiryMs.isSome = true) ∧
      (∀ err, f.app = .exited err → f.answers.firstFailure = some err) ∧
      (f.app ≠ .dispatching → f.nextExpiryMs = none ∧ f.meter = {} ∧ f.polls = [] ∧
        .meterPoll ∉ f.tasks) ∧
      (f.serverStarted = false → f.plug.outputs.relay.pin = false ∧ f.plug.relayIsOn = false ∧
        f.plug.lambdas = 0 ∧ f.pm = {}) := by
  have h := startUp_of_run hrun
  refine ⟨fun happ => ?_, fun err happ => ?_, h.unmetered, h.unswitched⟩
  · obtain ⟨hclean, hstarted, hexpiry⟩ := h.stage_dispatching happ
    exact ⟨hclean, h.ready (h.started hstarted), hstarted, hexpiry⟩
  · have hstage := h.stage
    rwa [happ] at hstage

/-- The second LED cannot be configured: `Init` fails with
`CHIP_ERROR_INCORRECT_STATE`, as it should, and the relay is open. -/
theorem start_up_fails_without_green_led :
    let answers : StartAnswers := { ledConfigure := fun led => if led = .green then -5 else 0 }
    ∃ f, (firmware none).run (powerOn answers none true) [.init, .init] = some f ∧
      f.app = .exited .incorrectState ∧ f.answers.firstFailure = some .incorrectState ∧
      f.plug.outputs.relay.pin = false :=
  let answers : StartAnswers := { ledConfigure := fun led => if led = .green then -5 else 0 }
  have h := start_up_is_all_or_nothing none answers none true [.init, .init] _ rfl
  ⟨_, rfl, rfl, h.2.1 .incorrectState rfl, (h.2.2.2 rfl).1⟩

end Firmware

/-! ## where an `Init` that succeeds leads -/

namespace Firmware

/-- The calls of `Init`, when none fails. -/
def initEvents : List FirmwareEvent := List.replicate 8 .init

/-- The plug when the dispatch loop is reached for the first time. -/
def started (answers : StartAnswers) (kvs : Option Int) (onOff : Bool) : Firmware :=
  { powerOn answers kvs onOff with
    plug := Plug.firstIndication onOff .error
    meter := ({} : Meter).meterInit answers.meterIsReady
    app := .dispatching
    boardReady := true
    serverStarted := true
    postServerInitClbk := true
    nextExpiryMs := some kMeterPollIntervalMs }

/-- The results about the plug's parts start where `Init` leads. -/
theorem run_initEvents {answers : StartAnswers} (h : answers.firstFailure = none)
    (cfg : Option OverPowerConfig) (kvs : Option Int) (onOff : Bool) :
    (firmware cfg).run (powerOn answers kvs onOff) initEvents =
      some (started answers kvs onOff) := by
  obtain ⟨prepareServer, ledIsReady, ledConfigure, relayIsReady, relayConfigure, boardInit,
    registerEventHandler, identifyInit, startServer, meterIsReady⟩ := answers
  simp only [StartAnswers.firstFailure, InitStep.all, List.findSome?_eq_none_iff,
    List.forall_mem_cons, StartAnswers.failure, List.all_cons, List.all_nil, ite_eq_left_iff,
    Option.map_eq_none_iff, reduceCtorEq, imp_false, not_not, Bool.and_eq_true, beq_iff_eq] at h
  obtain ⟨rfl, ⟨⟨hred, hred'⟩, ⟨hgreen, hgreen'⟩, ⟨hblue, hblue'⟩, ⟨hplug, hplug'⟩, -⟩,
    ⟨rfl, rfl⟩, rfl, rfl, rfl, rfl, -⟩ := h
  have hled : ({} : StatusLed).statusLedInit ledIsReady ledConfigure =
      ({} : StatusLed).statusLedInit (fun _ => true) (fun _ => 0) := by
    simp only [StatusLed.statusLedInit, StatusLed.configureLeds, hred, hred', hgreen, hgreen',
      hblue, hblue', hplug, hplug']
  simp only [initEvents, List.replicate, Lts.run, firmware, powerOn, Option.bind_some, initStep,
    hled]
  rfl

end Firmware

/-! ## nothing closes the relay unasked -/

/-- The relay is open and commanded open. -/
structure Plug.Open (p : Plug) : Prop where
  pin : p.outputs.relay.pin = false
  relay : p.relayIsOn = false

namespace Plug.Open

variable {p : Plug}

/-- Opening an open relay leaves it open. -/
theorem relaySet (h : p.Open) (err : Int) : (p.relaySet err false).Open := by
  unfold Plug.relaySet Outputs.relaySet
  split
  · exact ⟨h.pin, h.relay⟩
  · split
    · exact ⟨h.pin, h.relay⟩
    · exact ⟨rfl, rfl⟩

/-- So does a write of `false`. -/
theorem onOffSet (h : p.Open) (err : Int) : (p.onOffSet err false).Open := by
  have hset : ((p.storeOnOff false).relaySet err false).Open :=
    relaySet (p := p.storeOnOff false) ⟨h.pin, h.relay⟩ err
  rw [Plug.onOffSet, onOffChanged_eq]
  exact ⟨hset.pin, hset.relay⟩

/-- A lambda on an open relay writes `false`. -/
theorem runLambda (h : p.Open) (err : Int) : (p.runLambda err).Open := by
  rw [Plug.runLambda, h.relay]
  exact onOffSet (p := { p with lambdas := p.lambdas - 1 }) ⟨h.pin, h.relay⟩ err

end Plug.Open

namespace Firmware

/-- The relay is open, and no posted button event is a release of the button. -/
structure LoadOff (f : Firmware) : Prop where
  plug : f.plug.Open
  tasks : ∀ state hasChanged, .buttonEventHandler state hasChanged ∈ f.tasks →
    applicationButtonMask &&& hasChanged &&& ~~~state = 0

/-- The event tells the plug to switch the load on (or, for the button, to
switch it over). -/
def SwitchesOn (f : Firmware) : FirmwareEvent → Prop
  | .button state hasChanged => applicationButtonMask &&& hasChanged &&& ~~~state ≠ 0
  | .controllerWrite value _ _ => value = true
  | .onOffClusterInit getOk _ => getOk = true ∧ f.plug.onOff = true
  | _ => False

instance (f : Firmware) : (e : FirmwareEvent) → Decidable (f.SwitchesOn e)
  | .button state hasChanged =>
      inferInstanceAs (Decidable (applicationButtonMask &&& hasChanged &&& ~~~state ≠ 0))
  | .controllerWrite value _ _ => inferInstanceAs (Decidable (value = true))
  | .onOffClusterInit getOk _ => inferInstanceAs (Decidable (getOk = true ∧ f.plug.onOff = true))
  | .init | .dispatch _ | .meterPollTimer | .blinkTimer | .cfIsr | .cf1Isr | .deviceState _
  | .postServerInit _ _ _ _ | .lambda _ | .elapse _ | .powerCut _ _ => instDecidableFalse

/-- `Init` leaves the relay open. -/
theorem open_initStep {f : Firmware} (h : f.plug.Open) (next : InitStep) :
    (f.initStep next).plug.Open := by
  obtain ⟨hpin, hrelay⟩ := f.initStep_relay next
  constructor
  case pin =>
    by_contra hclosed
    rw [Bool.not_eq_false] at hclosed
    exact absurd (hpin hclosed) (by simp [h.pin])
  case relay =>
    by_contra hclosed
    rw [Bool.not_eq_false] at hclosed
    exact absurd (hrelay hclosed) (by simp [h.relay])

/-- `MeterPoll` only ever opens the relay. -/
theorem open_meterPoll {f : Firmware} (h : f.plug.Open) (cfg : Option OverPowerConfig)
    (a : TaskAnswers) : (f.meterPoll cfg a).plug.Open := by
  have htrip : ((f.plug.relaySet a.relayErr false).updateClusterState).Open :=
    ⟨(h.relaySet a.relayErr).pin, (h.relaySet a.relayErr).relay⟩
  obtain hnone | ⟨power, voltage, current, hquiet | htripped⟩ := meterCalls_cases cfg f
  · simp only [meterPoll, hnone]
    exact h
  · simp only [meterPoll, hquiet]
    exact h
  · simp only [meterPoll, htripped]
    exact htrip

/-- **Step lemma**: only an event that says so switches the load on. -/
theorem LoadOff.step {cfg : Option OverPowerConfig} {f g : Firmware} {e : FirmwareEvent}
    (h : LoadOff f) (hasked : ¬ f.SwitchesOn e) (hstep : FirmwareStep cfg f e g) : LoadOff g := by
  cases hstep with
  | init happ =>
      refine ⟨open_initStep h.plug _, ?_⟩
      rw [(initKeeps _ f).tasks]
      exact h.tasks
  | @dispatch a task tasks happ htasks =>
      have hrest : ∀ state hasChanged, .buttonEventHandler state hasChanged ∈ tasks →
          applicationButtonMask &&& hasChanged &&& ~~~state = 0 :=
        fun state hasChanged hmem =>
          h.tasks state hasChanged (htasks ▸ List.mem_cons_of_mem task hmem)
      cases task with
      | meterPoll => exact ⟨open_meterPoll (f := { f with tasks := tasks }) h.plug cfg a, hrest⟩
      | buttonEventHandler state hasChanged =>
          have hnot := h.tasks state hasChanged (htasks ▸ List.mem_cons_self)
          refine ⟨?_, hrest⟩
          simp only [runTask, buttonEventHandler, Plug.buttonEventHandler, hnot, ne_eq, not_true,
            if_false]
          exact h.plug
  | meterPollTimer hstarted hdue => exact ⟨h.plug, by simpa using h.tasks⟩
  | blinkTimer hruns => exact ⟨⟨h.plug.pin, h.plug.relay⟩, h.tasks⟩
  | cfIsr henabled => exact ⟨h.plug, h.tasks⟩
  | cf1Isr henabled => exact ⟨h.plug, h.tasks⟩
  | button hready =>
      refine ⟨h.plug, fun state hasChanged hmem => ?_⟩
      simp only [List.mem_append, List.mem_singleton] at hmem
      cases hmem with
      | inl hmem => exact h.tasks state hasChanged hmem
      | inr heq =>
          cases heq
          exact not_not.mp hasked
  | deviceState hready => exact ⟨⟨h.plug.pin, h.plug.relay⟩, h.tasks⟩
  | postServerInit hstarted hhook => exact ⟨h.plug, h.tasks⟩
  | @onOffClusterInit getOk relayErr hstarted hfirst =>
      refine ⟨?_, h.tasks⟩
      cases getOk with
      | false => exact h.plug
      | true =>
          have hoff : f.plug.onOff = false := by simpa [SwitchesOn] using hasked
          have happly : (f.plug.applyOnOff relayErr false).Open :=
            ⟨(h.plug.relaySet relayErr).pin, (h.plug.relaySet relayErr).relay⟩
          simpa only [if_true, Plug.emberAfOnOffClusterInitCallback, hoff] using happly
  | @controllerWrite value relayErr hstarted =>
      obtain rfl : value = false := by simpa [SwitchesOn] using hasked
      exact ⟨h.plug.onOffSet relayErr, h.tasks⟩
  | unchangedWrite hstarted hvalue => exact h
  | lambda hstarted hpending => exact ⟨h.plug.runLambda _, h.tasks⟩
  | elapse => exact ⟨h.plug, h.tasks⟩
  | powerCut => exact ⟨⟨rfl, rfl⟩, by simp [powerOn]⟩
  | powerCutDuring happ htasks => exact ⟨⟨rfl, rfl⟩, by simp [powerOn]⟩

/-- **The load stays off** until something switches it on: whatever fails
during start-up and in operation, and however polls, trips, lambdas, network
changes, blinking and power cuts fall, the relay is only ever closed after a
release of the button, a controller's write of `true` or a restored `true`. -/
theorem load_stays_off (cfg : Option OverPowerConfig) (answers : StartAnswers) (kvs : Option Int)
    (onOff : Bool) (es : List FirmwareEvent) (f : Firmware)
    (hasked : (firmware cfg).Admits (fun f e => ¬ f.SwitchesOn e) (powerOn answers kvs onOff) es)
    (hrun : (firmware cfg).run (powerOn answers kvs onOff) es = some f) :
    f.plug.outputs.relay.pin = false ∧ f.plug.relayIsOn = false := by
  have hstart : LoadOff (powerOn answers kvs onOff) := ⟨⟨rfl, rfl⟩, by simp [powerOn]⟩
  have h := (firmware cfg).run_invariant_of_admits (P := LoadOff)
    (fun _ _ _ h hok hstep => h.step hok (firmwareStep_of_step hstep)) hstart hasked hrun
  exact ⟨h.plug.pin, h.plug.relay⟩

/-- An unused plug that was left off is booted, polled, told once more to be
off, and cut off from power: it stays off. -/
theorem unused_load_stays_off :
    let es := initEvents ++ [.onOffClusterInit true 0, .elapse 1000, .meterPollTimer,
      .dispatch {}, .controllerWrite false true (-5), .powerCut none {}]
    ∃ f, (firmware none).run (powerOn {} none false) es = some f ∧
      f.plug.outputs.relay.pin = false ∧ f.plug.relayIsOn = false :=
  let es := initEvents ++ [.onOffClusterInit true 0, .elapse 1000, .meterPollTimer,
    .dispatch {}, .controllerWrite false true (-5), .powerCut none {}]
  ⟨_, rfl, load_stays_off none {} none false es _ (by decide) rfl⟩

end Firmware

end UascentPlug

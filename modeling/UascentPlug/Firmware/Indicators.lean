import UascentPlug.Firmware.Start

/-!
# UascentPlug.Firmware.Indicators

What the LEDs show in the whole firmware: dark until the board layer is
initialised, from then on the state of the device and the relay.
`UascentPlug.Indication` looks at the LEDs from the first rendering on and
leaves open who tells them the network state; here that is
`AppTask::UpdateStatusLed`, `Init` can fail half-way, power can go, and the
restore, controllers and lambdas all come through `ApplyOnOff`.

`indicators_in_the_field_iff` says which failures make them lie.
-/

namespace UascentPlug

/-! ## what everything but a network update keeps -/

namespace StatusLed

@[simp] theorem sNetworkState_renderRgb (s : StatusLed) :
    s.renderRgb.sNetworkState = s.sNetworkState := by
  rw [renderRgb_eq]

@[simp] theorem sNetworkState_statusLedSetRelayState (on : Bool) (s : StatusLed) :
    (s.statusLedSetRelayState on).sNetworkState = s.sNetworkState := by
  unfold statusLedSetRelayState
  split
  · rfl
  · exact sNetworkState_renderRgb _

/-- Initialised or not, nothing has been rendered yet. -/
structure Dark (s : StatusLed) : Prop where
  pins : ∀ led, s.pin led = false
  timer : s.sBlinkTimer = none
  rendered : s.sRendered = false
  relayOn : s.sRelayOn = false

/-- Driving a pin low leaves the LEDs dark. -/
theorem dark_gpioPinSet {s : StatusLed} (h : s.Dark) (led : Led) :
    (s.gpioPinSet led false).Dark where
  pins l := by
    unfold gpioPinSet
    simp only
    split
    · rfl
    · exact h.pins l
  timer := h.timer
  rendered := h.rendered
  relayOn := h.relayOn

/-- Configuring the pins lights nothing. -/
theorem dark_configureLeds (isReady : Led → Bool) (configure : Led → Int) (leds : List Led)
    {s : StatusLed} (h : s.Dark) : (configureLeds isReady configure leds s).1.Dark := by
  induction leds generalizing s with
  | nil => exact h
  | cons led leds ih =>
      rw [configureLeds]
      split
      · exact h
      · split
        · exact h
        · exact ih (dark_gpioPinSet h led)

/-- Neither does the rest of `StatusLedInit`, whether it succeeds or not. -/
theorem dark_statusLedInit (isReady : Led → Bool) (configure : Led → Int) {s : StatusLed}
    (h : s.Dark) : (s.statusLedInit isReady configure).1.Dark := by
  have hdark := dark_configureLeds isReady configure [.red, .green, .blue, .plugNetwork] h
  rw [statusLedInit]
  split
  · next heq =>
    rw [heq] at hdark
    exact ⟨hdark.pins, rfl, hdark.rendered, hdark.relayOn⟩
  · next heq =>
    rw [heq] at hdark
    exact hdark

end StatusLed

namespace Plug

/-- The relay does not change the network state. -/
theorem sNetworkState_relaySet (err : Int) (on : Bool) (p : Plug) :
    (p.relaySet err on).outputs.led.sNetworkState = p.outputs.led.sNetworkState := by
  simp only [Plug.relaySet, Outputs.relaySet]
  split
  · rfl
  · split
    · rfl
    · exact StatusLed.sNetworkState_statusLedSetRelayState on _

/-- The LEDs render what they were told, at this network state. -/
structure Shows (state : NetworkLedState) (p : Plug) : Prop extends p.Indicates where
  network : p.outputs.led.sNetworkState = state

/-- Switching keeps the LEDs at the network state. -/
theorem kept_shows (state : NetworkLedState) : Kept (Shows state) where
  relaySet err on p h :=
    ⟨(h.toIndicates.relaySet err on).1, (sNetworkState_relaySet err on p).trans h.network⟩
  statusLedSetRelayState on _ h :=
    ⟨(h.toIndicates.statusLedSetRelayState on).1,
      (StatusLed.sNetworkState_statusLedSetRelayState on _).trans h.network⟩
  blinkTimerHandler _ h hruns :=
    ⟨⟨h.ready, (StatusLed.renders_blinkTimerHandler h.renders
      (Option.isSome_iff_ne_none.mp hruns)).1⟩,
      (StatusLed.sNetworkState_blinkTimerHandler _).trans h.network⟩
  bookkeeping _ _ _ h := ⟨⟨h.ready, h.renders⟩, h.network⟩

/-- After a state change the LEDs show it, and what they were told of the relay
stays. -/
theorem shows_statusLedSetNetworkState {p : Plug} (hready : p.OutputsReady)
    (h : p.outputs.led.sRendered = false ∨ p.outputs.led.Renders) (state : NetworkLedState) :
    (p.statusLedSetNetworkState state).Shows state ∧
      ((p.statusLedSetNetworkState state).Told ↔ p.Told) := by
  obtain ⟨hrenders, hstate, hrelay⟩ := StatusLed.renders_setNetworkState hready.led h state
  exact ⟨⟨⟨hready.relay, hrenders⟩, hstate⟩, iff_of_eq (congrArg (· = p.relayIsOn) hrelay)⟩

end Plug

/-! ## dark or lit -/

namespace Firmware

variable {cfg : Option OverPowerConfig} {f g : Firmware}

/-- What the LEDs are told and show: nothing before the board is initialised,
and the state of the device after. -/
structure Lights (f : Firmware) : Prop where
  startUp : StartUp f
  inOrder : InOrder f
  dark : f.boardReady = false →
    f.plug.outputs.led.Dark ∧ f.deviceState = .deviceDisconnected
  lit : f.boardReady = true → f.plug.Shows f.deviceState.networkLedState

/-- Power comes on with dark LEDs. -/
theorem lights_powerOn (answers : StartAnswers) (kvs : Option Int) (onOff : Bool) :
    Lights (powerOn answers kvs onOff) where
  startUp := startUp_powerOn answers kvs onOff
  inOrder := inOrder_powerOn answers kvs onOff
  dark _ := ⟨⟨fun _ => rfl, rfl, rfl, rfl⟩, rfl⟩
  lit := by simp [powerOn]

/-- The calls of `Init` before the board layer's leave the LEDs dark, and those
after it leave them alone. -/
theorem led_initStep (f : Firmware) {next : InitStep} (hnext : next ≠ .boardInit) :
    (f.plug.outputs.led.Dark → (f.initStep next).plug.outputs.led.Dark) ∧
      (.boardInit ∈ next.before → (f.initStep next).plug = f.plug) := by
  cases next with
  | boardInit => exact absurd rfl hnext
  | statusLedInit =>
      refine ⟨fun h => ?_, fun hmem => absurd hmem (by decide)⟩
      have hdark := StatusLed.dark_statusLedInit f.answers.ledIsReady f.answers.ledConfigure h
      simp only [initStep]
      split <;> exact hdark
  | relayInit =>
      refine ⟨fun h => ?_, fun hmem => absurd hmem (by decide)⟩
      simp only [initStep, Outputs.relayInit]
      cases f.answers.relayIsReady with
      | false => exact h
      | true => by_cases hconfigure : f.answers.relayConfigure = 0 <;>
          simpa [hconfigure, exit] using h
  | meterInit => exact ⟨id, fun _ => rfl⟩
  | _ =>
      simp only [initStep]
      split <;> exact ⟨id, fun _ => rfl⟩

/-- Dark LEDs lie about nothing: the relay is off. -/
theorem StartUp.told_of_dark (h : StartUp f) (hdark : f.plug.outputs.led.Dark)
    (hready : f.boardReady = false) : f.plug.Told := by
  have hstopped : f.serverStarted = false := by
    rw [← Bool.not_eq_true] at hready ⊢
    exact fun hstarted => hready (h.started hstarted)
  rw [Plug.Told, hdark.relayOn, (h.unswitched hstopped).2.1]

namespace Lights

/-- Once the board is up, the LEDs have to show the state it handles. -/
theorem of_ready (hstartUp : StartUp g) (hinOrder : InOrder g) (hready : g.boardReady = true)
    (hshows : g.plug.Shows g.deviceState.networkLedState) : Lights g where
  startUp := hstartUp
  inOrder := hinOrder
  dark hunready := by
    rw [hready] at hunready
    contradiction
  lit _ := hshows

/-- The board is up before the server. -/
theorem ready_of_started (h : Lights f) (hstarted : f.serverStarted = true) :
    f.boardReady = true := h.startUp.started hstarted

/-- The board layer's call of `Init` lights the LEDs, the others keep them as
they are; none of them makes them lie. -/
theorem initStep (h : Lights f) {next : InitStep} (happ : f.app = .init next) :
    Lights (f.initStep next) ∧ (f.plug.Told → (f.initStep next).plug.Told) := by
  have hstartUp := h.startUp.initStep happ
  have hinOrder := h.inOrder.initStep happ
  have hkeeps := f.initKeeps next
  by_cases hnext : next = .boardInit
  · subst hnext
    have hready : f.boardReady = false := h.inOrder.board .boardInit happ
    obtain ⟨hdark, hstate⟩ := h.dark hready
    have hstage := h.startUp.stage
    rw [happ] at hstage
    obtain ⟨hshows, hkept⟩ := Plug.shows_statusLedSetNetworkState (p := f.plug) hstage.2
      (Or.inl hdark.rendered) f.deviceState.networkLedState
    cases hboard : f.answers.boardInit with
    | false =>
        simp only [Firmware.initStep, hboard, Bool.not_false, if_true] at hstartUp hinOrder ⊢
        exact ⟨⟨hstartUp, hinOrder, h.dark, h.lit⟩, id⟩
    | true =>
        simp only [Firmware.initStep, hboard, Bool.not_true, Bool.false_eq_true,
          if_false] at hstartUp hinOrder ⊢
        exact ⟨of_ready hstartUp hinOrder rfl hshows, hkept.mpr⟩
  · obtain ⟨hdark, hsame⟩ := f.led_initStep hnext
    cases hready : f.boardReady with
    | false =>
        have hready' : (f.initStep next).boardReady = false := by
          rw [← Bool.not_eq_true] at hready ⊢
          exact fun hlit => ((f.initStep_flags next).2.1 hlit).elim hready hnext
        have hdark' := hdark (h.dark hready).1
        refine ⟨⟨hstartUp, hinOrder, fun _ => ⟨hdark', ?_⟩, ?_⟩,
          fun _ => hstartUp.told_of_dark hdark' hready'⟩
        · rw [hkeeps.deviceState]
          exact (h.dark hready).2
        · rw [hready']
          simp
    | true =>
        have hmem : .boardInit ∈ next.before := by
          rw [h.inOrder.board next happ] at hready
          exact of_decide_eq_true hready
        rw [hsame hmem]
        refine ⟨of_ready hstartUp hinOrder ((f.initStep_flags next).1 hready) ?_, id⟩
        rw [hsame hmem, hkeeps.deviceState]
        exact h.lit hready

end Lights

/-- `ApplyOnOff` tells the LEDs the truth: its relay write succeeds, or the
relay already is what was asked for. -/
def LightsConfirmed (f : Firmware) : FirmwareEvent → Prop
  | .onOffClusterInit true relayErr => relayErr = 0 ∨ f.plug.onOff = f.plug.relayIsOn
  | .controllerWrite value true relayErr => relayErr = 0 ∨ value = f.plug.relayIsOn
  | _ => True

/-- **Step lemma**: every event keeps the LEDs at the state of the device, and
keeps what they were told of the relay true exactly when it is confirmed. -/
theorem Lights.step {e : FirmwareEvent} (h : Lights f) (hstep : FirmwareStep cfg f e g) :
    Lights g ∧ (f.plug.Told → (g.plug.Told ↔ f.LightsConfirmed e)) := by
  have hstartUp := h.startUp.step hstep
  have hinOrder := h.inOrder.step hstep
  cases hstep with
  | init happ =>
      obtain ⟨hlights, htold⟩ := h.initStep happ
      exact ⟨hlights, fun ht => iff_of_true (htold ht) trivial⟩
  | @dispatch a task tasks happ htasks =>
      have hready := h.ready_of_started (h.startUp.stage_dispatching happ).2.1
      have hshows := h.lit hready
      have hrun := (Plug.kept_shows _).runTask cfg a (f := { f with tasks := tasks }) hshows task
      cases task with
      | meterPoll =>
          refine ⟨of_ready hstartUp hinOrder hready hrun, fun htold => iff_of_true ?_ trivial⟩
          simp only [runTask, plug_meterPoll]
          split
          · exact (hshows.toIndicates.relaySet a.relayErr false).2.2 htold
          · exact htold
      | buttonEventHandler state hasChanged =>
          refine ⟨of_ready hstartUp hinOrder hready hrun, fun htold => iff_of_true ?_ trivial⟩
          simp only [runTask, plug_buttonEventHandler]
          split
          · have hset := (hshows.toIndicates.relaySet a.relayErr !f.plug.relayIsOn).1
            exact (hset.statusLedSetRelayState _).2.mpr rfl
          · exact htold
  | blinkTimer hruns =>
      have hready : f.boardReady = true := by
        by_contra hready
        rw [Bool.not_eq_true] at hready
        rw [(h.dark hready).1.timer] at hruns
        contradiction
      refine ⟨of_ready hstartUp hinOrder hready
        ((Plug.kept_shows _).blinkTimerHandler _ (h.lit hready) hruns),
        fun htold => iff_of_true ?_ trivial⟩
      exact (StatusLed.renders_blinkTimerHandler (h.lit hready).renders
        (Option.isSome_iff_ne_none.mp hruns)).2.trans htold
  | @deviceState state hready =>
      obtain ⟨hshows, hkept⟩ := Plug.shows_statusLedSetNetworkState (h.startUp.ready hready)
        (Or.inr (h.lit hready).renders) state.networkLedState
      exact ⟨of_ready hstartUp hinOrder hready hshows,
        fun htold => iff_of_true (hkept.mpr htold) trivial⟩
  | @onOffClusterInit getOk relayErr hstarted hfirst =>
      have hready := h.ready_of_started hstarted
      refine ⟨of_ready hstartUp hinOrder hready
        ((Plug.kept_shows _).emberAfOnOffClusterInitCallback _ _ (h.lit hready)), fun htold => ?_⟩
      cases getOk with
      | false => exact iff_of_true htold trivial
      | true => exact ((h.lit hready).toIndicates.applyOnOff relayErr f.plug.onOff).2
  | @controllerWrite value relayErr hstarted =>
      have hready := h.ready_of_started hstarted
      refine ⟨of_ready hstartUp hinOrder hready
        ((Plug.kept_shows _).onOffSet _ _ (h.lit hready)), fun htold => ?_⟩
      have hstored : (f.plug.storeOnOff value).Indicates :=
        ⟨(h.lit hready).ready, (h.lit hready).renders⟩
      simp only [Plug.onOffSet, Plug.onOffChanged_eq]
      exact (hstored.applyOnOff relayErr value).2
  | @lambda relayErr hstarted hpending =>
      have hready := h.ready_of_started hstarted
      refine ⟨of_ready hstartUp hinOrder hready
        ((Plug.kept_shows _).runLambda _ (h.lit hready)), fun _ => iff_of_true ?_ trivial⟩
      have hstored : (({ f.plug with lambdas := f.plug.lambdas - 1 } : Plug).storeOnOff
          f.plug.relayIsOn).Indicates := ⟨(h.lit hready).ready, (h.lit hready).renders⟩
      simp only [Plug.runLambda, Plug.onOffSet, Plug.onOffChanged_eq]
      exact (hstored.applyOnOff relayErr f.plug.relayIsOn).2.mpr (Or.inr rfl)
  | powerCut => exact ⟨lights_powerOn _ _ _, fun _ => iff_of_true rfl trivial⟩
  | powerCutDuring happ htasks => exact ⟨lights_powerOn _ _ _, fun _ => iff_of_true rfl trivial⟩
  | meterPollTimer hrunning hdue =>
      exact ⟨⟨hstartUp, hinOrder, h.dark, h.lit⟩, fun htold => iff_of_true htold trivial⟩
  | cfIsr henabled =>
      exact ⟨⟨hstartUp, hinOrder, h.dark, h.lit⟩, fun htold => iff_of_true htold trivial⟩
  | cf1Isr henabled =>
      exact ⟨⟨hstartUp, hinOrder, h.dark, h.lit⟩, fun htold => iff_of_true htold trivial⟩
  | button hready =>
      exact ⟨⟨hstartUp, hinOrder, h.dark, h.lit⟩, fun htold => iff_of_true htold trivial⟩
  | postServerInit hstarted hhook =>
      exact ⟨⟨hstartUp, hinOrder, h.dark, h.lit⟩, fun htold => iff_of_true htold trivial⟩
  | unchangedWrite hstarted hvalue => exact ⟨h, fun htold => iff_of_true htold trivial⟩
  | elapse => exact ⟨⟨hstartUp, hinOrder, h.dark, h.lit⟩, fun htold => iff_of_true htold trivial⟩

/-- What the LEDs should show: nothing before the board layer is initialised,
from then on the table at the state of the device, `RelayIsOn()` and the blink
phase, with the timer at the table's period. -/
structure Honest (f : Firmware) : Prop where
  dark : f.boardReady = false →
    (∀ led, f.plug.outputs.led.pin led = false) ∧ f.plug.outputs.led.sBlinkTimer = none
  pins : f.boardReady = true → ∀ led, f.plug.outputs.led.pin led =
    indication f.deviceState.networkLedState f.plug.relayIsOn f.plug.outputs.led.sBlinkOn led
  timer : f.boardReady = true →
    f.plug.outputs.led.sBlinkTimer = blinkPeriodMs f.deviceState.networkLedState

/-- Commissioned, the plug would show its relay state. -/
def commissioned (f : Firmware) : Firmware :=
  updateStatusLed { f with deviceState := .deviceProvisioned }

namespace Lights

/-- LEDs that were told show the truth. -/
theorem honest (h : Lights f) (htold : f.plug.Told) : Honest f where
  dark hunready := ⟨(h.dark hunready).1.pins, (h.dark hunready).1.timer⟩
  pins hready led := by
    have hshows := h.lit hready
    rw [hshows.renders.pins led, hshows.network, show f.plug.outputs.led.sRelayOn = _ from htold]
  timer hready := by
    have hshows := h.lit hready
    rw [hshows.renders.timer, hshows.network]

/-- Commissioning would leave them as told as they are. -/
theorem commissioned (h : Lights f) (hready : f.boardReady = true) :
    Lights f.commissioned ∧ (f.commissioned.plug.Told ↔ f.plug.Told) := by
  obtain ⟨hshows, hkept⟩ := Plug.shows_statusLedSetNetworkState (h.startUp.ready hready)
    (Or.inr (h.lit hready).renders) .paired
  have hstep : FirmwareStep none f (.deviceState .deviceProvisioned) f.commissioned :=
    .deviceState hready
  exact ⟨(h.step hstep).1, hkept⟩

/-- LEDs that would show the truth once commissioned were told. -/
theorem told_of_honest (h : Lights f) (hhonest : f.boardReady = true → f.commissioned.Honest) :
    f.plug.Told := by
  cases hready : f.boardReady with
  | false => exact h.startUp.told_of_dark (h.dark hready).1 hready
  | true =>
      obtain ⟨hlights, hkept⟩ := h.commissioned hready
      have hshows := hlights.lit hready
      have hgreen := (hshows.renders.pins .green).symm.trans ((hhonest hready).pins hready .green)
      rw [hshows.network] at hgreen
      exact hkept.mp hgreen

end Lights

/-- **The indicators in the field.**  In a run of the firmware, whatever `Init`
meets, whichever relay writes fail and whenever power goes, the LEDs are dark
until the board layer is initialised and show the table at the state of the
device and the relay ever after, and would if the plug were commissioned at any
point, exactly when every restore and every controller's write succeeds in
moving the relay or finds it there.  Button, trips and lambdas never make them
lie. -/
theorem indicators_in_the_field_iff (cfg : Option OverPowerConfig) (answers : StartAnswers)
    (kvs : Option Int) (onOff : Bool) (es : List FirmwareEvent) :
    (∀ fs, fs <+: es → ∀ f, (firmware cfg).run (powerOn answers kvs onOff) fs = some f →
        f.Honest ∧ (f.boardReady = true → f.commissioned.Honest)) ↔
      (firmware cfg).Admits LightsConfirmed (powerOn answers kvs onOff) es := by
  rw [← (firmware cfg).forall_prefix_iff_admits (P := Lights) (I := fun _ f => f.plug.Told)
    (fun _ _ _ h hstep => (h.step (firmwareStep_of_step hstep)).1)
    (fun _ _ _ _ h htold hstep => (h.step (firmwareStep_of_step hstep)).2 htold)
    (lights_powerOn answers kvs onOff) rfl es]
  refine forall_congr' fun fs => forall_congr' fun _ => forall_congr' fun f =>
    forall_congr' fun hrun => ?_
  have hlights : Lights f := (firmware cfg).run_invariant_of_step (P := Lights)
    (fun _ _ _ h hstep => (h.step (firmwareStep_of_step hstep)).1) (lights_powerOn _ _ _) hrun
  constructor
  case mp => exact fun hhonest => hlights.told_of_honest hhonest.2
  case mpr =>
    intro htold
    refine ⟨hlights.honest htold, fun hready => ?_⟩
    obtain ⟨hcommissioned, hkept⟩ := hlights.commissioned hready
    exact hcommissioned.honest (hkept.mpr htold)

end Firmware

end UascentPlug

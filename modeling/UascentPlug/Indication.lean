import UascentPlug.Switching

/-!
# UascentPlug.Indication

What the LEDs show.  The module keeps two axes, the network state and the
relay state it was last told, and renders them as the table at the top of
`status_led.h` says (`indication`); every operation on it keeps the pins and
the blink timer at the table (`StatusLed.Renders`).

Whether the table is read at the right relay state is another matter:
`ApplyOnOff` tells the LEDs the value it was asked for, whatever became of the
relay write.  `indicators_truthful_iff` says that this is the only way the
LEDs and the relay come apart.
-/

namespace UascentPlug

/-! ## the indication table -/

/-- The table: what an LED shows for a network state, a relay state and a
blink phase. -/
def indication (state : NetworkLedState) (relayOn phase : Bool) (led : Led) : Bool :=
  match state, led with
  | .pairing, .plugNetwork | .pairing, .blue => phase
  | .error, .plugNetwork | .error, .red => phase
  | .paired, .green => relayOn
  | _, _ => false

/-- The period of the blink timer, in milliseconds, while it runs. -/
def blinkPeriodMs : NetworkLedState → Option Nat
  | .pairing => some 500
  | .error => some 150
  | .paired => none

namespace StatusLed

/-- The pins are the table's, at the state the module keeps. -/
structure Lit (s : StatusLed) : Prop where
  initialised : s.sInitialised = true
  rendered : s.sRendered = true
  pins : ∀ led, s.pin led = indication s.sNetworkState s.sRelayOn s.sBlinkOn led

/-- The outputs are the table's: the pins and the blink timer. -/
structure Renders (s : StatusLed) : Prop extends s.Lit where
  timer : s.sBlinkTimer = blinkPeriodMs s.sNetworkState

/-- `RenderRgb` drives pins and nothing else. -/
theorem renderRgb_eq (s : StatusLed) : s.renderRgb = { s with pin := s.renderRgb.pin } := by
  obtain ⟨state, relayOn, initialised, blinkOn, rendered, pin, timer⟩ := s
  cases initialised with
  | false => rfl
  | true => cases state <;> rfl

/-- `RenderRgb` sets the three on-board LEDs and leaves plug LED 2 alone. -/
theorem pin_renderRgb {s : StatusLed} (h : s.sInitialised = true) (led : Led) :
    s.renderRgb.pin led =
      if led = .plugNetwork then s.pin led
      else indication s.sNetworkState s.sRelayOn s.sBlinkOn led := by
  simp only [renderRgb, h, Bool.not_true, Bool.false_eq_true, if_false]
  cases s.sNetworkState <;> cases led <;> rfl

/-- With plug LED 2 right, rendering the rest makes everything right. -/
theorem lit_renderRgb {s : StatusLed} (hinit : s.sInitialised = true)
    (hrendered : s.sRendered = true)
    (hplug : s.pin .plugNetwork = indication s.sNetworkState s.sRelayOn s.sBlinkOn .plugNetwork) :
    s.renderRgb.Lit := by
  rw [renderRgb_eq]
  refine ⟨hinit, hrendered, fun led => ?_⟩
  simp only [pin_renderRgb hinit]
  split
  · next hled => rw [hled, hplug]
  · rfl

/-- After a state change the LEDs are rendered, whether they were before or not at
all. -/
theorem renders_setNetworkState {s : StatusLed} (hinit : s.sInitialised = true)
    (h : s.sRendered = false ∨ s.Renders) (state : NetworkLedState) :
    (s.statusLedSetNetworkState state).Renders ∧
      (s.statusLedSetNetworkState state).sNetworkState = state ∧
      (s.statusLedSetNetworkState state).sRelayOn = s.sRelayOn := by
  by_cases hsame : s.sRendered ∧ state = s.sNetworkState
  · rw [show s.statusLedSetNetworkState state = s from if_pos hsame]
    cases h with
    | inl hfirst =>
        rw [hfirst] at hsame
        exact absurd hsame.1 Bool.false_ne_true
    | inr hrenders => exact ⟨hrenders, hsame.2.symm, rfl⟩
  · obtain ⟨state₀, relayOn, initialised, blinkOn, rendered, pin, timer⟩ := s
    obtain rfl : initialised = true := hinit
    rw [statusLedSetNetworkState, if_neg hsame]
    cases state with
    | pairing =>
        have hlit : Lit (renderRgb (gpioPinSet .plugNetwork true
          ⟨.pairing, relayOn, true, true, true, pin, timer⟩)) := lit_renderRgb rfl rfl rfl
        exact ⟨⟨⟨hlit.initialised, hlit.rendered, hlit.pins⟩, rfl⟩, rfl, rfl⟩
    | error =>
        have hlit : Lit (renderRgb (gpioPinSet .plugNetwork true
          ⟨.error, relayOn, true, true, true, pin, timer⟩)) := lit_renderRgb rfl rfl rfl
        exact ⟨⟨⟨hlit.initialised, hlit.rendered, hlit.pins⟩, rfl⟩, rfl, rfl⟩
    | paired =>
        have hlit : Lit (renderRgb (gpioPinSet .plugNetwork false
          ⟨.paired, relayOn, true, blinkOn, true, pin, none⟩)) := lit_renderRgb rfl rfl rfl
        exact ⟨⟨hlit, rfl⟩, rfl, rfl⟩

/-- The relay call keeps them rendered. -/
theorem renders_setRelayState {s : StatusLed} (h : s.Renders) (relayOn : Bool) :
    (s.statusLedSetRelayState relayOn).Renders ∧
      (s.statusLedSetRelayState relayOn).sRelayOn = relayOn := by
  unfold statusLedSetRelayState
  split
  · next hsame => exact ⟨h, hsame.symm⟩
  · have hplug := h.pins .plugNetwork
    have hlit := lit_renderRgb (s := { s with sRelayOn := relayOn }) h.initialised h.rendered (by
      simp only [hplug]
      cases s.sNetworkState <;> rfl)
    rw [renderRgb_eq] at hlit ⊢
    exact ⟨⟨hlit, h.timer⟩, rfl⟩

/-- A tick of the running timer flips the phase of everything that blinks. -/
theorem renders_blinkTimerHandler {s : StatusLed} (h : s.Renders) (hruns : s.sBlinkTimer ≠ none) :
    s.blinkTimerHandler.Renders ∧ s.blinkTimerHandler.sRelayOn = s.sRelayOn := by
  have hlit := lit_renderRgb (s := ({ s with sBlinkOn := !s.sBlinkOn } : StatusLed).gpioPinSet
    .plugNetwork !s.sBlinkOn) h.initialised h.rendered (by
      rw [h.timer] at hruns
      cases hstate : s.sNetworkState with
      | paired => exact absurd (by rw [hstate]; rfl) hruns
      | pairing => simp [gpioPinSet, indication]
      | error => simp [gpioPinSet, indication])
  unfold blinkTimerHandler
  simp only
  rw [renderRgb_eq] at hlit ⊢
  exact ⟨⟨hlit, h.timer⟩, rfl⟩

/-- A tick leaves the statics alone, the phase apart. -/
theorem blinkTimerHandler_eq (s : StatusLed) :
    s.blinkTimerHandler =
      { s with sBlinkOn := !s.sBlinkOn, pin := s.blinkTimerHandler.pin } := by
  unfold blinkTimerHandler
  simp only
  rw [renderRgb_eq]
  rfl

@[simp] theorem sNetworkState_blinkTimerHandler (s : StatusLed) :
    s.blinkTimerHandler.sNetworkState = s.sNetworkState := by
  rw [blinkTimerHandler_eq]

@[simp] theorem sInitialised_blinkTimerHandler (s : StatusLed) :
    s.blinkTimerHandler.sInitialised = s.sInitialised := by
  rw [blinkTimerHandler_eq]

@[simp] theorem sRendered_blinkTimerHandler (s : StatusLed) :
    s.blinkTimerHandler.sRendered = s.sRendered := by
  rw [blinkTimerHandler_eq]

@[simp] theorem sRelayOn_blinkTimerHandler (s : StatusLed) :
    s.blinkTimerHandler.sRelayOn = s.sRelayOn := by
  rw [blinkTimerHandler_eq]

@[simp] theorem sBlinkTimer_blinkTimerHandler (s : StatusLed) :
    s.blinkTimerHandler.sBlinkTimer = s.sBlinkTimer := by
  rw [blinkTimerHandler_eq]

end StatusLed

/-! ## everything that moves the relay or the LEDs -/

namespace Plug

/-- `StatusLedSetNetworkState`. -/
def statusLedSetNetworkState (state : NetworkLedState) (p : Plug) : Plug :=
  { p with outputs := { p.outputs with led := p.outputs.led.statusLedSetNetworkState state } }

/-- One expiry of the blink timer. -/
def blinkTimerHandler (p : Plug) : Plug :=
  { p with outputs := { p.outputs with led := p.outputs.led.blinkTimerHandler } }

/-- The plug once `StatusLedInit` and `RelayInit` have succeeded and the network
state was reported for the first time. -/
def firstIndication (onOff : Bool) (state : NetworkLedState) : Plug :=
  let led := (StatusLed.statusLedInit (fun _ => true) (fun _ => 0) {}).1
  let outputs := (Outputs.relayInit true 0 { led := led }).1
  ({ outputs := outputs, onOff := onOff } : Plug).statusLedSetNetworkState state

end Plug

/-- The events behind the indicators; `err` is the answer to the relay write an
event makes, if it makes one. -/
inductive IndicationEvent where
  | networkState (state : NetworkLedState)
  | buttonRelease (err : Int)
  | attributeChange (err : Int) (path : AttributePath) (value : UInt8)
  | bootRestore (err : Int) (get : Option Bool)
  | overPowerTrip (err : Int)
  | blinkTick
  deriving DecidableEq

/-- The plug under these events: a trip finds the relay closed, and the blink
timer only ticks while it runs. -/
def indicated : Lts Plug IndicationEvent where
  step p
    | .networkState state => some (p.statusLedSetNetworkState state)
    | .buttonRelease err => some (p.buttonRelease err)
    | .attributeChange err path value => some (p.matterPostAttributeChangeCallback err path value)
    | .bootRestore err get => some (p.emberAfOnOffClusterInitCallback err get)
    | .overPowerTrip err =>
        if p.relayIsOn then some ((p.relaySet err false).updateClusterState) else none
    | .blinkTick => if p.outputs.led.sBlinkTimer.isSome then some p.blinkTimerHandler else none

/-- The outputs are the table's, at the current network state, `RelayIsOn()`
and blink phase. -/
structure Plug.Truthful (p : Plug) : Prop where
  pins : ∀ led, p.outputs.led.pin led =
    indication p.outputs.led.sNetworkState p.relayIsOn p.outputs.led.sBlinkOn led
  timer : p.outputs.led.sBlinkTimer = blinkPeriodMs p.outputs.led.sNetworkState

/-- `ApplyOnOff` tells the LEDs the truth: its relay write succeeds, or the
relay already is what was asked for. -/
def Confirmed (p : Plug) : IndicationEvent → Prop
  | .attributeChange err path value =>
      path = onOffPath → err = 0 ∨ (value != 0) = p.relayIsOn
  | .bootRestore err (some value) => err = 0 ∨ value = p.relayIsOn
  | _ => True

/-! ## the LEDs always render what they were told -/

namespace Plug

/-- The relay works and the LEDs render what they were told. -/
structure Indicates (p : Plug) : Prop where
  ready : p.RelayReady
  renders : p.outputs.led.Renders

/-- The LEDs were told the relay state. -/
def Told (p : Plug) : Prop := p.outputs.led.sRelayOn = p.relayIsOn

/-- A failing relay write changes nothing. -/
theorem relaySet_of_ne_zero {err : Int} (h : err ≠ 0) (on : Bool) (p : Plug) :
    p.relaySet err on = p := by
  have houtputs : (p.outputs.relaySet err on).1 = p.outputs := by
    unfold Outputs.relaySet
    split <;> rfl
  rw [relaySet, houtputs]

/-- A relay write keeps the LEDs rendering, and tells them the truth if they
knew it before or it succeeds. -/
theorem Indicates.relaySet {p : Plug} (h : p.Indicates) (err : Int) (on : Bool) :
    (p.relaySet err on).Indicates ∧ (err = 0 → (p.relaySet err on).Told) ∧
      (p.Told → (p.relaySet err on).Told) := by
  by_cases herr : err = 0
  · subst herr
    have hrelay : (p.outputs.relaySet 0 on).1 =
        { relay := { p.outputs.relay with pin := on, sOn := on }
          led := p.outputs.led.statusLedSetRelayState on } := by
      simp [Outputs.relaySet, show p.outputs.relay.sInitialised = true from h.ready]
    obtain ⟨hrenders, htold⟩ := StatusLed.renders_setRelayState h.renders on
    have hafter : (p.relaySet 0 on).Told := by
      rw [Told, relayIsOn_relaySet h.ready, Plug.relaySet, hrelay]
      exact htold
    refine ⟨⟨(relayReady_relaySet 0 on p).mpr h.ready, ?_⟩, fun _ => hafter, fun _ => hafter⟩
    rw [Plug.relaySet, hrelay]
    exact hrenders
  · rw [relaySet_of_ne_zero herr]
    exact ⟨h, fun h0 => absurd h0 herr, id⟩

/-- Telling the LEDs the relay state tells them the truth exactly if it is. -/
theorem Indicates.statusLedSetRelayState {p : Plug} (h : p.Indicates) (on : Bool) :
    (p.statusLedSetRelayState on).Indicates ∧
      ((p.statusLedSetRelayState on).Told ↔ on = p.relayIsOn) := by
  obtain ⟨hrenders, htold⟩ := StatusLed.renders_setRelayState h.renders on
  refine ⟨⟨h.ready, hrenders⟩, ?_⟩
  rw [Told, relayIsOn_statusLedSetRelayState]
  exact iff_of_eq (congrArg (· = p.relayIsOn) htold)

/-- `ApplyOnOff` keeps the LEDs indicating; they stay told unless the write fails. -/
theorem Indicates.applyOnOff {p : Plug} (h : p.Indicates) (err : Int) (on : Bool) :
    (p.applyOnOff err on).Indicates ∧
      ((p.applyOnOff err on).Told ↔ err = 0 ∨ on = p.relayIsOn) := by
  obtain ⟨hset, -, -⟩ := h.relaySet err on
  obtain ⟨hkept, htold⟩ := hset.statusLedSetRelayState on
  refine ⟨hkept, htold.trans ?_⟩
  by_cases herr : err = 0
  · subst herr
    rw [relayIsOn_relaySet h.ready]
    exact iff_of_true rfl (Or.inl rfl)
  · rw [relaySet_of_ne_zero herr]
    exact ⟨Or.inr, fun hor => hor.resolve_left herr⟩

/-- A state change keeps them indicating, and as told as before. -/
theorem Indicates.statusLedSetNetworkState {p : Plug} (h : p.Indicates)
    (state : NetworkLedState) :
    (p.statusLedSetNetworkState state).Indicates ∧
      (p.statusLedSetNetworkState state).outputs.led.sNetworkState = state ∧
      ((p.statusLedSetNetworkState state).Told ↔ p.Told) := by
  obtain ⟨hrenders, hstate, hrelay⟩ :=
    StatusLed.renders_setNetworkState h.renders.initialised (Or.inr h.renders) state
  exact ⟨⟨h.ready, hrenders⟩, hstate, iff_of_eq (congrArg (· = p.relayIsOn) hrelay)⟩

/-- **Step lemma**: an event keeps the LEDs rendering what they were told, and
keeps that true exactly when it is confirmed. -/
theorem Indicates.step {p q : Plug} {e : IndicationEvent} (h : p.Indicates)
    (hstep : indicated.step p e = some q) :
    q.Indicates ∧ (p.Told → (q.Told ↔ Confirmed p e)) := by
  cases e with
  | networkState state =>
      obtain rfl := Option.some.inj hstep
      obtain ⟨hkept, -, htold⟩ := h.statusLedSetNetworkState state
      exact ⟨hkept, fun ht => iff_of_true (htold.mpr ht) trivial⟩
  | buttonRelease err =>
      obtain rfl := Option.some.inj hstep
      obtain ⟨hset, -, -⟩ := h.relaySet err !p.relayIsOn
      obtain ⟨hkept, htold⟩ := hset.statusLedSetRelayState (p.relaySet err !p.relayIsOn).relayIsOn
      rw [buttonRelease_eq]
      exact ⟨⟨hkept.ready, hkept.renders⟩, fun _ => iff_of_true (htold.mpr rfl) trivial⟩
  | attributeChange err path value =>
      obtain rfl := Option.some.inj hstep
      have hpath : (path.mClusterId = onOffPath.mClusterId ∧
          path.mAttributeId = onOffPath.mAttributeId) ↔ path = onOffPath := by
        cases path
        rw [onOffPath, AttributePath.mk.injEq]
      unfold matterPostAttributeChangeCallback
      by_cases honOff : path = onOffPath
      · rw [if_pos (hpath.mpr honOff)]
        obtain ⟨hkept, htold⟩ := h.applyOnOff err (value != 0)
        exact ⟨hkept, fun _ => htold.trans ⟨fun hok _ => hok, fun hok => hok honOff⟩⟩
      · rw [if_neg (fun heq => honOff (hpath.mp heq))]
        exact ⟨h, fun ht => iff_of_true ht fun heq => absurd heq honOff⟩
  | bootRestore err get =>
      obtain rfl := Option.some.inj hstep
      cases get with
      | none => exact ⟨h, fun ht => iff_of_true ht trivial⟩
      | some value =>
          obtain ⟨hkept, htold⟩ := h.applyOnOff err value
          exact ⟨hkept, fun _ => htold⟩
  | overPowerTrip err =>
      simp only [indicated, Option.ite_none_right_eq_some, Option.some.injEq] at hstep
      obtain ⟨-, rfl⟩ := hstep
      obtain ⟨hkept, -, htold⟩ := h.relaySet err false
      exact ⟨⟨hkept.ready, hkept.renders⟩, fun ht => iff_of_true (htold ht) trivial⟩
  | blinkTick =>
      simp only [indicated, Option.ite_none_right_eq_some, Option.some.injEq] at hstep
      obtain ⟨hruns, rfl⟩ := hstep
      obtain ⟨hrenders, hrelay⟩ :=
        StatusLed.renders_blinkTimerHandler h.renders (Option.isSome_iff_ne_none.mp hruns)
      exact ⟨⟨h.ready, hrenders⟩,
        fun ht => iff_of_true (hrelay.trans ht) trivial⟩

/-- The first state change after boot makes them indicate. -/
theorem indicates_firstIndication (onOff : Bool) (state : NetworkLedState) :
    (firstIndication onOff state).Indicates ∧ (firstIndication onOff state).Told := by
  obtain ⟨hrenders, -, hrelay⟩ := StatusLed.renders_setNetworkState
    (s := (StatusLed.statusLedInit (fun _ => true) (fun _ => 0) {}).1) rfl (Or.inl rfl) state
  exact ⟨⟨rfl, hrenders⟩, hrelay⟩

/-! ## and that is the truth while they are told it -/

/-- LEDs that indicate what they were told of the relay are truthful. -/
theorem Indicates.truthful {p : Plug} (h : p.Indicates) (htold : p.Told) : p.Truthful :=
  ⟨fun led => htold ▸ h.renders.pins led, h.renders.timer⟩

/-- Once commissioned, the green LED gives away what the LEDs were told. -/
theorem Indicates.told_of_truthful_paired {p : Plug} (h : p.Indicates)
    (hpaired : (p.statusLedSetNetworkState .paired).Truthful) : p.Told := by
  obtain ⟨hkept, hstate, htold⟩ := h.statusLedSetNetworkState .paired
  have hgreen := (hkept.renders.pins .green).symm.trans (hpaired.pins .green)
  rw [hstate] at hgreen
  exact htold.mp hgreen

end Plug

/-- Wherever the events lead, the outputs are the table's. -/
def TruthfulAfter (onOff : Bool) (state : NetworkLedState) (es : List IndicationEvent) : Prop :=
  ∀ p, indicated.run (Plug.firstIndication onOff state) es = some p → p.Truthful

/-- **The indicators tell the truth** along a run, and would if the plug were
commissioned at any point of it, exactly when every event of it is confirmed. -/
theorem indicators_truthful_iff (onOff : Bool) (state : NetworkLedState)
    (es : List IndicationEvent) :
    (∀ fs, fs <+: es → TruthfulAfter onOff state fs ∧
        TruthfulAfter onOff state (fs ++ [.networkState .paired])) ↔
      indicated.Admits Confirmed (Plug.firstIndication onOff state) es := by
  obtain ⟨hfirst, htold⟩ := Plug.indicates_firstIndication onOff state
  have hrun : ∀ fs p, indicated.run (Plug.firstIndication onOff state) fs = some p →
      p.Indicates := fun fs p hfs =>
    indicated.run_invariant_of_step (fun _ _ _ hs hstep => (hs.step hstep).1) hfirst hfs
  rw [← indicated.forall_prefix_iff_admits (P := Plug.Indicates) (I := fun _ p => p.Told)
    (fun p e q hp hstep => (hp.step hstep).1)
    (fun _ p e q hp ht hstep => (hp.step hstep).2 ht) hfirst htold es]
  refine forall_congr' fun fs => forall_congr' fun _ => ⟨fun h p hp => ?_, fun h => ⟨?_, ?_⟩⟩
  · have hpaired := h.2 (p.statusLedSetNetworkState .paired)
      (indicated.run_append_of_run hp rfl)
    exact (hrun fs p hp).told_of_truthful_paired hpaired
  · exact fun p hp => (hrun fs p hp).truthful (h p hp)
  · intro q hq
    rw [Lts.run_append, Option.bind_eq_some_iff] at hq
    obtain ⟨p, hp, hq⟩ := hq
    obtain rfl := Option.some.inj hq
    obtain ⟨hkept, -, hkeptTold⟩ := (hrun fs p hp).statusLedSetNetworkState .paired
    exact hkept.truthful (hkeptTold.mpr (h p hp))

/-- A controller turns a commissioned plug on, the relay write fails, and the
LED is green over an open relay. -/
theorem green_over_open_relay :
    ¬ ∀ onOff state es, TruthfulAfter onOff state es := by
  intro h
  have htruthful := h false .paired [.attributeChange (-5) onOffPath 1] _ rfl
  exact absurd (htruthful.pins .green) (by decide)

end UascentPlug

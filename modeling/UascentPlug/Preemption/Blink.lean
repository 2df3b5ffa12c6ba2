import UascentPlug.Preemption.Agreement

/-!
# UascentPlug.Preemption.Blink

What the LEDs show when the blink timer expires in the middle of a call.

The timer's handler renders the LEDs at whatever network and relay state it
finds, and the call it interrupted goes on with values it read before.  A pin
that shows the blink phase may so be driven with the phase before the tick and
stay wrong until the next one; every other pin is right once the call is over.

`Outline` is a proof outline of the module's calls: for each point between two
instructions what the pins still to be driven will be driven with, and what the
others show.  A tick keeps it (`Outline.tick`), which is all the interrupt can
do; two threads in the module at once could break it, and the last section
leaves that out.  As in `UascentPlug.Preemption.Agreement`, `OnOff::Set` is taken
to run the post-change callback for an unchanged value as well.
-/

namespace UascentPlug

/-- The LEDs that show the blink phase in a network state. -/
def carriesPhase (state : NetworkLedState) (led : Led) : Bool :=
  match state, led with
  | .pairing, .plugNetwork | .pairing, .blue => true
  | .error, .plugNetwork | .error, .red => true
  | _, _ => false

/-- A LED that carries the phase shows it. -/
theorem indication_of_carriesPhase {state : NetworkLedState} {led : Led}
    (h : carriesPhase state led = true) (relayOn phase : Bool) :
    indication state relayOn phase led = phase := by
  cases state <;> cases led <;> first | rfl | contradiction

/-- Any other LED shows the same in both phases. -/
theorem indication_of_not_carriesPhase {state : NetworkLedState} {led : Led}
    (h : carriesPhase state led = false) (relayOn phase phase' : Bool) :
    indication state relayOn phase led = indication state relayOn phase' led := by
  cases state <;> cases led <;> first | rfl | contradiction

namespace StatusLed

/-- `v` is the table's value for an LED; of the LEDs that show the blink phase
only asked if `phase`. -/
def Fits (phase : Bool) (s : StatusLed) (led : Led) (v : Bool) : Prop :=
  phase = true ∨ carriesPhase s.sNetworkState led = false →
    v = indication s.sNetworkState s.sRelayOn s.sBlinkOn led

/-- The outputs are the table's, the blink phase left out unless `phase`. -/
structure Shows (phase : Bool) (s : StatusLed) : Prop where
  pins : ∀ led, s.Fits phase led (s.pin led)
  timer : s.sBlinkTimer = blinkPeriodMs s.sNetworkState

/-- A tick in a blinking state makes every pin right. -/
theorem lit_blinkTimerHandler {s : StatusLed} (hinit : s.sInitialised = true)
    (hrendered : s.sRendered = true) (hnet : s.sNetworkState ≠ .paired) :
    s.blinkTimerHandler.Lit :=
  lit_renderRgb hinit hrendered (by
    cases hstate : s.sNetworkState with
    | paired => contradiction
    | pairing => simp [gpioPinSet, indication]
    | error => simp [gpioPinSet, indication])

end StatusLed

/-! ## the proof outline -/

namespace LedInstr

/-- The calls other modules make. -/
def isCall : LedInstr → Bool
  | .statusLedSetRelayState _ | .statusLedSetNetworkState _ => true
  | _ => false

/-- The LED an instruction is about to drive. -/
def drives : LedInstr → Option Led
  | .gpioPinSet led _ | .pinSetBlinkOn led | .pinSetRelayOn led => some led
  | _ => none

/-- What an instruction is about to drive a pin with fits the table. -/
def DrivesRight (phase : Bool) (s : StatusLed) : LedInstr → Prop
  | .gpioPinSet led on => s.Fits phase led on
  | .pinSetBlinkOn led => carriesPhase s.sNetworkState led = true
  | .pinSetRelayOn led => s.sNetworkState = .paired ∧ led = .green
  | _ => False

/-- What a call still does after it has rendered: nothing, or it starts the timer. -/
inductive Ending (s : StatusLed) : List LedInstr → Prop
  | done : s.sBlinkTimer = blinkPeriodMs s.sNetworkState → Ending s []
  | timerStart {interval : Nat} :
      blinkPeriodMs s.sNetworkState = some interval → Ending s [.timerStart interval]

/-- The points between the instructions of a call, with what holds there. -/
inductive Point (phase : Bool) (s : StatusLed) : List LedInstr → Prop
  | storeRelayOn {relayOn : Bool} :
      s.Shows phase → Point phase s [.storeRelayOn relayOn, .renderRgb]
  | storeRendered {state : NetworkLedState} :
      s.Shows phase →
        Point phase s [.storeRendered, .storeNetworkState state, .switchState state]
  | storeNetworkState {state : NetworkLedState} :
      s.Shows phase → Point phase s [.storeNetworkState state, .switchState state]
  | switchState {state : NetworkLedState} :
      s.sNetworkState = state → Point phase s [.switchState state]
  | storeBlinkOn {interval : Nat} :
      blinkPeriodMs s.sNetworkState = some interval →
        Point phase s [.storeBlinkOn, .gpioPinSet .plugNetwork true, .renderRgb,
          .timerStart interval]
  | plugNetworkOn {interval : Nat} :
      blinkPeriodMs s.sNetworkState = some interval → s.Fits phase .plugNetwork true →
        Point phase s [.gpioPinSet .plugNetwork true, .renderRgb, .timerStart interval]
  | timerStop :
      s.sNetworkState = .paired →
        Point phase s [.timerStop, .gpioPinSet .plugNetwork false, .renderRgb]
  | plugNetworkOff :
      s.sNetworkState = .paired → s.sBlinkTimer = none →
        Point phase s [.gpioPinSet .plugNetwork false, .renderRgb]
  | renderRgb {rest : List LedInstr} :
      s.Fits phase .plugNetwork (s.pin .plugNetwork) → Ending s rest →
        Point phase s (.renderRgb :: rest)
  | drive {is : List LedInstr} (todo rest : List LedInstr) :
      is = todo ++ rest → (∀ i ∈ todo, i.DrivesRight phase s) →
        (∀ led, (∀ i ∈ todo, i.drives ≠ some led) → s.Fits phase led (s.pin led)) →
        Ending s rest → Point phase s is

/-- **The outline**: where the call is, what the LEDs show and will show. -/
structure Outline (phase : Bool) (is : List LedInstr) (s : StatusLed) : Prop where
  initialised : s.sInitialised = true
  rendered : s.sRendered = true
  point : Point phase s is

/-- Between calls the outline says that the LEDs show the table. -/
theorem outline_nil {phase : Bool} {s : StatusLed} :
    Outline phase [] s ↔ s.sInitialised = true ∧ s.sRendered = true ∧ s.Shows phase := by
  constructor
  · intro h
    refine ⟨h.initialised, h.rendered, ?_⟩
    obtain ⟨-, -, hpoint⟩ := h
    cases hpoint with
    | drive todo rest hnil hdrives hpins hend =>
        obtain ⟨rfl, rfl⟩ := List.nil_eq_append_iff.mp hnil
        cases hend with
        | done htimer => exact ⟨fun led => hpins led (by simp), htimer⟩
  · intro ⟨hinit, hrendered, hshows⟩
    exact ⟨hinit, hrendered, .drive [] [] rfl (by simp) (fun led _ => hshows.pins led)
      (.done hshows.timer)⟩

/-- At the end of a call the timer does not run in the paired state. -/
theorem Ending.blinking {s : StatusLed} {rest : List LedInstr} (h : Ending s rest)
    (hruns : s.sBlinkTimer ≠ none) : s.sNetworkState ≠ .paired := by
  intro hpaired
  cases h with
  | done htimer =>
      rw [htimer, hpaired] at hruns
      exact hruns rfl
  | timerStart hperiod =>
      rw [hpaired] at hperiod
      contradiction

/-- The first instruction of a call: it is over, or the outline holds after it. -/
theorem Outline.call {phase : Bool} {s : StatusLed} (h : Outline phase [] s) {i : LedInstr}
    (hi : i.isCall = true) : Outline phase (i.exec s).2 (i.exec s).1 := by
  have hshows : s.Shows phase := (outline_nil.mp h).2.2
  cases i with
  | statusLedSetRelayState relayOn =>
      simp only [exec]
      split
      · exact h
      · exact ⟨h.initialised, h.rendered, .storeRelayOn hshows⟩
  | statusLedSetNetworkState state =>
      simp only [exec]
      split
      · exact h
      · exact ⟨h.initialised, h.rendered, .storeRendered hshows⟩
  | _ => contradiction

/-- Plug LED 2 shows the phase while the timer runs. -/
theorem indication_plugNetwork_of_period {state : NetworkLedState} {interval : Nat}
    (h : blinkPeriodMs state = some interval) (relayOn phase : Bool) :
    indication state relayOn phase .plugNetwork = phase := by
  cases state with
  | paired => contradiction
  | _ => rfl

/-- The plug's network LED does not depend on the relay. -/
theorem indication_plugNetwork (state : NetworkLedState) (relayOn relayOn' phase : Bool) :
    indication state relayOn phase .plugNetwork = indication state relayOn' phase .plugNetwork := by
  cases state <;> rfl

/-- The instructions that render a network state drive the three on-board LEDs,
each with what fits. -/
theorem outline_rendering {phase : Bool} {s : StatusLed} {rest : List LedInstr}
    (hinit : s.sInitialised = true) (hrendered : s.sRendered = true)
    (hplug : s.Fits phase .plugNetwork (s.pin .plugNetwork)) (hend : Ending s rest) :
    Outline phase ((exec .renderRgb s).2 ++ rest) (exec .renderRgb s).1 := by
  obtain ⟨state, relayOn, initialised, blinkOn, rendered, pin, timer⟩ := s
  obtain rfl : initialised = true := hinit
  cases state with
  | pairing =>
      refine ⟨rfl, hrendered, .drive
        [.gpioPinSet .red false, .gpioPinSet .green false, .pinSetBlinkOn .blue] rest rfl
        ?_ ?_ hend⟩
      · simp [exec, DrivesRight, StatusLed.Fits, indication, carriesPhase]
      · intro led hled
        cases led <;> first | exact hplug | simp [drives] at hled
  | error =>
      refine ⟨rfl, hrendered, .drive
        [.pinSetBlinkOn .red, .gpioPinSet .green false, .gpioPinSet .blue false] rest rfl
        ?_ ?_ hend⟩
      · simp [exec, DrivesRight, StatusLed.Fits, indication, carriesPhase]
      · intro led hled
        cases led <;> first | exact hplug | simp [drives] at hled
  | paired =>
      refine ⟨rfl, hrendered, .drive
        [.gpioPinSet .red false, .pinSetRelayOn .green, .gpioPinSet .blue false] rest rfl
        ?_ ?_ hend⟩
      · simp [exec, DrivesRight, StatusLed.Fits, indication, carriesPhase]
      · intro led hled
        cases led <;> first | exact hplug | simp [drives] at hled

/-- Driving a pin: what it shows then fits, the other pins are as before. -/
theorem Outline.drive {phase : Bool} {s : StatusLed} {led : Led} {on : Bool}
    {todo rest : List LedInstr} (hinit : s.sInitialised = true) (hrendered : s.sRendered = true)
    (hon : s.Fits phase led on) (htodo : ∀ i ∈ todo, i.DrivesRight phase s)
    (hpins : ∀ l, l ≠ led → (∀ i ∈ todo, i.drives ≠ some l) → s.Fits phase l (s.pin l))
    (hend : Ending s rest) : Outline phase (todo ++ rest) (s.gpioPinSet led on) := by
  refine ⟨hinit, hrendered, .drive todo rest rfl (fun i hi => ?_) (fun l hl => ?_) ?_⟩
  · have hright := htodo i hi
    cases i <;> exact hright
  · by_cases h : l = led
    · subst h
      simpa [StatusLed.gpioPinSet, StatusLed.Fits] using hon
    · simpa [StatusLed.gpioPinSet, StatusLed.Fits, h] using hpins l h hl
  · cases hend with
    | done htimer => exact .done htimer
    | timerStart hperiod => exact .timerStart hperiod

/-- **Step lemma, the call**: an instruction leads from each point of the
outline to the next. -/
theorem Outline.exec {phase : Bool} {s : StatusLed} {i : LedInstr} {is : List LedInstr}
    (h : Outline phase (i :: is) s) :
    Outline phase ((i.exec s).2 ++ is) (i.exec s).1 := by
  obtain ⟨hinit, hrendered, hpoint⟩ := h
  cases hpoint with
  | storeRelayOn hshows =>
      refine ⟨hinit, hrendered, .renderRgb ?_ (.done hshows.timer)⟩
      intro hasked
      exact (hshows.pins .plugNetwork hasked).trans (indication_plugNetwork _ _ _ _)
  | storeRendered hshows =>
      exact ⟨hinit, rfl, .storeNetworkState ⟨hshows.pins, hshows.timer⟩⟩
  | storeNetworkState hshows => exact ⟨hinit, hrendered, .switchState rfl⟩
  | switchState hstate =>
      rename_i state
      simp only [LedInstr.exec, hinit, Bool.not_true, Bool.false_eq_true, if_false]
      cases state with
      | pairing =>
          have hperiod : blinkPeriodMs s.sNetworkState = some kBlinkInterval := by rw [hstate]; rfl
          exact ⟨hinit, hrendered, .storeBlinkOn hperiod⟩
      | error =>
          have hperiod : blinkPeriodMs s.sNetworkState = some kFastBlinkInterval := by
            rw [hstate]; rfl
          exact ⟨hinit, hrendered, .storeBlinkOn hperiod⟩
      | paired => exact ⟨hinit, hrendered, .timerStop hstate⟩
  | storeBlinkOn hperiod =>
      exact ⟨hinit, hrendered, .plugNetworkOn hperiod fun _ =>
        (indication_plugNetwork_of_period hperiod _ _).symm⟩
  | plugNetworkOn hperiod hfits =>
      refine ⟨hinit, hrendered, .renderRgb ?_ (.timerStart hperiod)⟩
      simpa [StatusLed.Fits, StatusLed.gpioPinSet, LedInstr.exec] using hfits
  | timerStop hstate => exact ⟨hinit, hrendered, .plugNetworkOff hstate rfl⟩
  | plugNetworkOff hstate htimer =>
      refine ⟨hinit, hrendered, .renderRgb ?_ (.done ?_)⟩
      · intro _
        simp [LedInstr.exec, StatusLed.gpioPinSet, indication, hstate]
      · simp [LedInstr.exec, StatusLed.gpioPinSet, htimer, blinkPeriodMs, hstate]
  | renderRgb hplug hend => exact outline_rendering hinit hrendered hplug hend
  | drive todo rest hsplit htodo hpins hend =>
      cases todo with
      | nil =>
          cases hend with
          | done htimer => contradiction
          | timerStart hperiod =>
              obtain ⟨rfl, rfl⟩ := List.cons.inj hsplit
              refine ⟨hinit, hrendered, .drive [] [] rfl (by simp) ?_ (.done hperiod.symm)⟩
              exact fun led _ => hpins led (by simp)
      | cons j todo =>
          obtain ⟨rfl, rfl⟩ := List.cons.inj hsplit
          have hright := htodo i List.mem_cons_self
          have htodo' : ∀ j ∈ todo, j.DrivesRight phase s := fun j hj =>
            htodo j (List.mem_cons_of_mem i hj)
          cases i with
          | gpioPinSet led on =>
              show Outline phase (todo ++ rest) (s.gpioPinSet led on)
              refine Outline.drive hinit hrendered hright htodo' (fun l hne hl => ?_) hend
              refine hpins l fun j hj => ?_
              rcases List.mem_cons.mp hj with rfl | hj'
              · simpa [drives] using fun heq : led = l => hne heq.symm
              · exact hl j hj'
          | pinSetBlinkOn led =>
              refine ⟨hinit, hrendered, .drive (.gpioPinSet led s.sBlinkOn :: todo) rest rfl ?_
                (fun l hl => hpins l ?_) hend⟩
              · intro j hj
                rcases List.mem_cons.mp hj with rfl | hj'
                · exact fun _ => (indication_of_carriesPhase hright _ _).symm
                · exact htodo' j hj'
              · intro j hj
                rcases List.mem_cons.mp hj with rfl | hj'
                · exact hl (.gpioPinSet led s.sBlinkOn) List.mem_cons_self
                · exact hl j (List.mem_cons_of_mem _ hj')
          | pinSetRelayOn led =>
              refine ⟨hinit, hrendered, .drive (.gpioPinSet led s.sRelayOn :: todo) rest rfl ?_
                (fun l hl => hpins l ?_) hend⟩
              · intro j hj
                rcases List.mem_cons.mp hj with rfl | hj'
                · obtain ⟨hstate, rfl⟩ := hright
                  have hgreen : s.sRelayOn =
                      indication s.sNetworkState s.sRelayOn s.sBlinkOn .green := by
                    rw [hstate]; rfl
                  exact fun _ => hgreen
                · exact htodo' j hj'
              · intro j hj
                rcases List.mem_cons.mp hj with rfl | hj'
                · exact hl (.gpioPinSet led s.sRelayOn) List.mem_cons_self
                · exact hl j (List.mem_cons_of_mem _ hj')
          | _ => exact hright.elim

/-- Where the table is shown, a running timer blinks. -/
theorem blinking_of_shows {phase : Bool} {s : StatusLed} (h : s.Shows phase)
    (hruns : s.sBlinkTimer ≠ none) : s.sNetworkState ≠ .paired :=
  Ending.blinking (.done h.timer) hruns

/-- What is about to be driven fits after a tick as well, the phase apart. -/
theorem DrivesRight.tick {s : StatusLed} {i : LedInstr} (h : i.DrivesRight false s) :
    i.DrivesRight false s.blinkTimerHandler := by
  cases i with
  | gpioPinSet led on =>
      intro hasked
      have hsteady : carriesPhase s.sNetworkState led = false := by simpa using hasked
      rw [h (Or.inr hsteady)]
      simpa using indication_of_not_carriesPhase hsteady _ _ _
  | pinSetBlinkOn led => simpa [DrivesRight] using h
  | pinSetRelayOn led => simpa [DrivesRight] using h
  | _ => exact h.elim

/-- A tick does not disturb the end of a call. -/
theorem Ending.tick {s : StatusLed} {rest : List LedInstr} (h : Ending s rest) :
    Ending s.blinkTimerHandler rest := by
  cases h with
  | done htimer => exact .done (by simpa using htimer)
  | timerStart hperiod => exact .timerStart (by simpa using hperiod)

/-- **Step lemma, the interrupt**: a tick keeps the outline wherever it meets
the call.  The handler itself drives every pin right, and what the call had read
before is asked of the other pins only. -/
theorem Outline.tick {is : List LedInstr} {s : StatusLed} (h : Outline false is s)
    (hruns : s.sBlinkTimer ≠ none) : Outline false is s.blinkTimerHandler := by
  obtain ⟨hinit, hrendered, hpoint⟩ := h
  have hpins : s.sNetworkState ≠ .paired → ∀ led,
      s.blinkTimerHandler.Fits false led (s.blinkTimerHandler.pin led) := fun hnet led _ =>
    (StatusLed.lit_blinkTimerHandler hinit hrendered hnet).pins led
  have hshown : s.Shows false → s.blinkTimerHandler.Shows false := fun hshows =>
    ⟨hpins (blinking_of_shows hshows hruns), by simpa using hshows.timer⟩
  refine ⟨by simpa using hinit, by simpa using hrendered, ?_⟩
  cases hpoint with
  | storeRelayOn hshows => exact .storeRelayOn (hshown hshows)
  | storeRendered hshows => exact .storeRendered (hshown hshows)
  | storeNetworkState hshows => exact .storeNetworkState (hshown hshows)
  | switchState hstate => exact .switchState (by simpa using hstate)
  | storeBlinkOn hperiod => exact .storeBlinkOn (by simpa using hperiod)
  | plugNetworkOn hperiod hfits =>
      refine .plugNetworkOn (by simpa using hperiod) fun hasked => ?_
      cases hstate : s.sNetworkState with
      | paired =>
          rw [hstate] at hperiod
          contradiction
      | _ => simp [hstate, carriesPhase] at hasked
  | timerStop hstate => exact .timerStop (by simpa using hstate)
  | plugNetworkOff hstate htimer => exact absurd htimer hruns
  | renderRgb hplug hend => exact .renderRgb (hpins (hend.blinking hruns) _) hend.tick
  | drive todo rest hsplit htodo hdone hend =>
      exact .drive todo rest hsplit (fun i hi => (htodo i hi).tick)
        (fun led _ => hpins (hend.blinking hruns) led) hend.tick

/-- Between calls a tick makes every pin right, the phase included. -/
theorem Outline.tick_nil {s : StatusLed} (h : Outline false [] s) (hruns : s.sBlinkTimer ≠ none) :
    Outline true [] s.blinkTimerHandler := by
  obtain ⟨hinit, hrendered, hshows⟩ := outline_nil.mp h
  have hlit := StatusLed.lit_blinkTimerHandler hinit hrendered (blinking_of_shows hshows hruns)
  exact outline_nil.mpr ⟨hlit.initialised, hlit.rendered, fun led _ => hlit.pins led,
    by simpa using hshows.timer⟩

/-- Between calls LEDs that are right are so but for the phase. -/
theorem Outline.weaken {s : StatusLed} (h : Outline true [] s) : Outline false [] s := by
  obtain ⟨hinit, hrendered, hshows⟩ := outline_nil.mp h
  exact outline_nil.mpr ⟨hinit, hrendered, fun led _ => hshows.pins led (Or.inl rfl), hshows.timer⟩

/-- Nothing in the module calls what other modules call. -/
theorem isCall_exec (i : LedInstr) (s : StatusLed) : ∀ j ∈ (i.exec s).2, j.isCall = false := by
  cases i with
  | statusLedSetRelayState relayOn =>
      simp only [exec]
      split <;> simp [isCall]
  | statusLedSetNetworkState state =>
      simp only [exec]
      split <;> simp [isCall]
  | switchState state =>
      simp only [exec]
      split
      · simp
      · cases state <;> simp [isCall]
  | renderRgb =>
      simp only [exec]
      split
      · simp
      · split <;> simp [isCall]
  | _ => simp [exec, isCall]

end LedInstr

/-! ## threads and their LED calls -/

/-- An instruction that is part of an LED call. -/
def Instr.isInner : Instr → Bool
  | .led i => !i.isCall
  | _ => false

/-- Outside the LED module an instruction does not touch the LEDs, and leaves
nothing that is inside. -/
theorem Instr.exec_outside {i : Instr} (h : ∀ j, i ≠ .led j) (err : Int) (p : Plug) :
    (i.exec err p).1.outputs.led = p.outputs.led ∧ ∀ j ∈ (i.exec err p).2, j.isInner = false := by
  cases i with
  | led j => exact absurd rfl (h j)
  | relaySet on =>
      simp only [exec]
      split <;> simp [isInner]
  | relayPinSet on =>
      simp only [exec]
      split <;> simp [isInner, LedInstr.isCall]
  | trip =>
      simp only [exec]
      split <;> simp [isInner]
  | _ => simp [exec, isInner, LedInstr.isCall, Plug.updateClusterState, Plug.storeOnOff]

namespace Preempted

/-- A thread is between two instructions of an LED call. -/
def insideLed : List Instr → Bool
  | i :: _ => i.isInner
  | [] => false

/-- A thread is about to make an LED call. -/
def entersLed : List Instr → Bool
  | .led i :: _ => i.isCall
  | _ => false

/-- No thread enters the LED module while the other is inside. -/
def Serialised (s : Preempted) : PreemptedEvent → Prop
  | .appStep _ => entersLed s.app = true → insideLed s.matter = false
  | .matterStep => entersLed s.matter = true → insideLed s.app = false
  | _ => True

/-- And no tick meets a call. -/
def Undisturbed (s : Preempted) (e : PreemptedEvent) : Prop :=
  s.Serialised e ∧ (e = .blinkTick → insideLed s.app = false ∧ insideLed s.matter = false)

/-- What a thread still has to run of the LED call it is in. -/
def Inside (is : List LedInstr) (program : List Instr) : Prop :=
  (∀ i ∈ is, i.isCall = false) ∧
    ∃ rest, program = is.map .led ++ rest ∧ ∀ i ∈ rest, i.isInner = false

/-- A thread is outside the module exactly when no LED instruction is left. -/
theorem Inside.insideLed_eq_false {is : List LedInstr} {program : List Instr}
    (h : Inside is program) : insideLed program = false ↔ is = [] := by
  obtain ⟨hinner, rest, rfl, hrest⟩ := h
  cases is with
  | nil =>
      cases rest with
      | nil => simp [insideLed]
      | cons i rest => simpa [insideLed] using hrest i List.mem_cons_self
  | cons i is => simp [insideLed, Instr.isInner, hinner i List.mem_cons_self]

/-- A thread that does not enter the module leaves the LEDs to the other. -/
theorem Inside.exec_outside {i : Instr} {rest : List Instr} (h : Inside [] (i :: rest))
    (henters : entersLed (i :: rest) = false) (err : Int) (p : Plug) :
    Inside [] ((i.exec err p).2 ++ rest) ∧ (i.exec err p).1.outputs.led = p.outputs.led := by
  obtain ⟨-, rest', hrest', hinner⟩ := h
  obtain rfl : i :: rest = rest' := hrest'
  have hi : ∀ j, i ≠ .led j := by
    rintro j rfl
    have houtside := hinner (.led j) List.mem_cons_self
    have hcall : j.isCall = false := henters
    simp [Instr.isInner, hcall] at houtside
  obtain ⟨hled, hleft⟩ := Instr.exec_outside hi err p
  refine ⟨⟨by simp, _, rfl, fun j hj => ?_⟩, hled⟩
  exact (List.mem_append.mp hj).elim (hleft j) fun hj' => hinner j (List.mem_cons_of_mem i hj')

/-- A thread that has the LED module to itself follows the outline. -/
theorem Inside.exec {phase : Bool} {i : Instr} {rest : List Instr} {is : List LedInstr} {p : Plug}
    (h : Inside is (i :: rest)) (hout : LedInstr.Outline phase is p.outputs.led) (err : Int) :
    ∃ js, Inside js ((i.exec err p).2 ++ rest) ∧
      LedInstr.Outline phase js (i.exec err p).1.outputs.led := by
  obtain ⟨hcalls, rest', hsplit, hinner⟩ := h
  cases is with
  | nil =>
      obtain rfl : i :: rest = rest' := hsplit
      have hrest : ∀ j ∈ rest, j.isInner = false := fun j hj => hinner j (List.mem_cons_of_mem i hj)
      by_cases hled : ∃ j, i = .led j
      · obtain ⟨j, rfl⟩ := hled
        have hcall : j.isCall = true := by
          simpa [Instr.isInner] using hinner (.led j) List.mem_cons_self
        exact ⟨(j.exec p.outputs.led).2,
          ⟨LedInstr.isCall_exec j p.outputs.led, rest, rfl, hrest⟩, hout.call hcall⟩
      · obtain ⟨hsame, hleft⟩ := Instr.exec_outside (fun j hj => hled ⟨j, hj⟩) err p
        rw [← hsame] at hout
        refine ⟨[], ⟨by simp, _, rfl, fun j hj => ?_⟩, hout⟩
        exact (List.mem_append.mp hj).elim (hleft j) (hrest j)
  | cons j is =>
      obtain ⟨rfl, rfl⟩ := List.cons.inj hsplit
      refine ⟨(j.exec p.outputs.led).2 ++ is, ⟨fun k hk => ?_, rest', ?_, hinner⟩, hout.exec⟩
      · exact (List.mem_append.mp hk).elim (LedInstr.isCall_exec j p.outputs.led k)
          fun hk' => hcalls k (List.mem_cons_of_mem j hk')
      · simp [Instr.exec]

/-- At most one thread is inside the LED module, and follows the outline. -/
def Lone (phase : Bool) (s : Preempted) : Prop :=
  ∃ is js, Inside is s.app ∧ Inside js s.matter ∧ (is = [] ∨ js = []) ∧
    LedInstr.Outline phase (is ++ js) (Program.evalAll LedInstr.eval s.isr s.plug.outputs.led)

/-- What a begun call still has to run is not inside the module yet. -/
theorem inside_nil {program : List Instr} (h : ∀ i ∈ program, i.isInner = false) :
    Inside [] program :=
  ⟨by simp, program, rfl, h⟩

/-- **Step lemma**: with LED calls serialised, and no tick in them if the phase
is asked for, one thread at most is inside and follows the outline. -/
theorem Lone.step {phase : Bool} {s t : Preempted} {e : PreemptedEvent} (h : s.Lone phase)
    (hserial : s.Serialised e)
    (htick : phase = true → e = .blinkTick → insideLed s.app = false ∧ insideLed s.matter = false)
    (hstep : preemptive.step s e = some t) : t.Lone phase := by
  obtain ⟨plug, app, matter, isr⟩ := s
  obtain ⟨is, js, happ, hmatter, hone, hout⟩ := h
  cases e with
  | buttonRelease =>
      simp only [preemptive, Option.ite_none_right_eq_some, Option.some.injEq] at hstep
      obtain ⟨⟨-, rfl⟩, rfl⟩ := hstep
      obtain rfl := happ.insideLed_eq_false.mp rfl
      exact ⟨[], js, inside_nil (by simp [buttonProgram, Instr.isInner]), hmatter, hone, hout⟩
  | checkOverPower =>
      simp only [preemptive, Option.ite_none_right_eq_some, Option.some.injEq] at hstep
      obtain ⟨⟨-, rfl⟩, rfl⟩ := hstep
      obtain rfl := happ.insideLed_eq_false.mp rfl
      exact ⟨[], js, inside_nil (by simp [Instr.isInner]), hmatter, hone, hout⟩
  | controllerWrite value =>
      simp only [preemptive, Option.ite_none_right_eq_some, Option.some.injEq] at hstep
      obtain ⟨⟨-, rfl⟩, rfl⟩ := hstep
      obtain rfl := hmatter.insideLed_eq_false.mp rfl
      exact ⟨is, [], happ, inside_nil (by simp [Instr.isInner]), hone, hout⟩
  | networkState state =>
      simp only [preemptive, Option.ite_none_right_eq_some, Option.some.injEq] at hstep
      obtain ⟨⟨-, rfl⟩, rfl⟩ := hstep
      obtain rfl := hmatter.insideLed_eq_false.mp rfl
      exact ⟨is, [], happ, inside_nil (by simp [Instr.isInner, LedInstr.isCall]), hone, hout⟩
  | lambdaBegin =>
      simp only [preemptive, Option.ite_none_right_eq_some, Option.some.injEq] at hstep
      obtain ⟨⟨-, rfl, -⟩, rfl⟩ := hstep
      obtain rfl := hmatter.insideLed_eq_false.mp rfl
      exact ⟨is, [], happ, inside_nil (by simp [Instr.isInner]), hone, hout⟩
  | blinkTick =>
      simp only [preemptive, Option.ite_none_right_eq_some, Option.some.injEq] at hstep
      obtain ⟨⟨rfl, hsome⟩, rfl⟩ := hstep
      have hruns := Option.isSome_iff_ne_none.mp hsome
      refine ⟨is, js, happ, hmatter, hone, ?_⟩
      cases phase with
      | false => exact hout.tick hruns
      | true =>
          obtain ⟨happ', hmatter'⟩ := htick rfl rfl
          obtain rfl := happ.insideLed_eq_false.mp happ'
          obtain rfl := hmatter.insideLed_eq_false.mp hmatter'
          exact hout.weaken.tick_nil hruns
  | appStep err =>
      simp only [preemptive] at hstep
      split at hstep
      case h_2 => contradiction
      case h_1 i rest =>
        cases Option.some.inj hstep
        by_cases hjs : js = []
        · subst hjs
          rw [List.append_nil] at hout
          obtain ⟨ks, hks, hout'⟩ := happ.exec hout err
          exact ⟨ks, [], hks, hmatter, Or.inr rfl, by rwa [List.append_nil]⟩
        · obtain rfl := hone.resolve_right hjs
          have henters : entersLed (i :: rest) = false := by
            by_contra hcon
            exact hjs (hmatter.insideLed_eq_false.mp (hserial (by simpa using hcon)))
          obtain ⟨hkept, hled⟩ := happ.exec_outside henters err plug
          refine ⟨[], js, hkept, hmatter, Or.inl rfl, ?_⟩
          simp only [hled]
          exact hout
  | matterStep =>
      simp only [preemptive] at hstep
      split at hstep
      case h_2 => contradiction
      case h_1 i rest =>
        cases Option.some.inj hstep
        by_cases his : is = []
        · subst his
          obtain ⟨ks, hks, hout'⟩ := hmatter.exec hout 0
          exact ⟨[], ks, happ, hks, Or.inl rfl, hout'⟩
        · obtain rfl := hone.resolve_left his
          have henters : entersLed (i :: rest) = false := by
            by_contra hcon
            exact his (happ.insideLed_eq_false.mp (hserial (by simpa using hcon)))
          obtain ⟨hkept, hled⟩ := hmatter.exec_outside henters 0 plug
          refine ⟨is, [], happ, hkept, Or.inr rfl, ?_⟩
          simp only [hled]
          exact hout
  | isrStep =>
      simp only [preemptive] at hstep
      split at hstep
      case h_2 => contradiction
      case h_1 i rest =>
        cases Option.some.inj hstep
        have hval := evaluates_ledProgram.evalAll_exec i rest plug.outputs.led
        simp only [ledProgram] at hval
        refine ⟨is, js, happ, hmatter, hone, ?_⟩
        simp only [Instr.withLed, hval]
        exact hout

/-! ## the indicators at rest -/

instance (s : Preempted) : (e : PreemptedEvent) → Decidable (s.Serialised e)
  | .appStep _ => inferInstanceAs (Decidable (entersLed s.app = true → insideLed s.matter = false))
  | .matterStep => inferInstanceAs (Decidable (entersLed s.matter = true → insideLed s.app = false))
  | .buttonRelease | .checkOverPower | .controllerWrite _ | .networkState _ | .blinkTick
  | .lambdaBegin | .isrStep => instDecidableTrue

instance (s : Preempted) (e : PreemptedEvent) : Decidable (s.Undisturbed e) :=
  inferInstanceAs (Decidable (_ ∧ _))

/-- The plug once LEDs and relay are set up, the network state was reported for
the first time and the persisted attribute is restored. -/
def started (persisted : Bool) (state : NetworkLedState) : Preempted where
  plug := (Plug.firstIndication persisted state).emberAfOnOffClusterInitCallback 0 (some persisted)

/-- A plug with its first indication agrees. -/
theorem settles_started (persisted : Bool) (state : NetworkLedState) :
    (started persisted state).Settles where
  ready := by cases persisted <;> cases state <;> rfl
  handler := by simp [started]
  reportsLast := Or.inl rfl
  agree := fun _ _ => by cases persisted <;> cases state <;> exact ⟨rfl, rfl, rfl⟩

/-- No thread is inside the module then. -/
theorem lone_started (persisted : Bool) (state : NetworkLedState) :
    (started persisted state).Lone false := by
  obtain ⟨hindicates, -⟩ := Plug.indicates_firstIndication persisted state
  obtain ⟨hkept, -⟩ := hindicates.applyOnOff 0 persisted
  have hrenders := hkept.renders
  exact ⟨[], [], inside_nil (by simp [started]), inside_nil (by simp [started]), Or.inl rfl,
    LedInstr.outline_nil.mpr
      ⟨hrenders.initialised, hrenders.rendered, fun led _ => hrenders.pins led, hrenders.timer⟩⟩

/-- At rest no thread is inside the LED module. -/
theorem Lone.shows {phase : Bool} {s : Preempted} (h : s.Lone phase) (hq : s.Quiescent) :
    s.plug.outputs.led.Shows phase := by
  obtain ⟨is, js, happ, hmatter, -, hout⟩ := h
  obtain rfl : is = [] := happ.insideLed_eq_false.mp (by rw [hq.app]; rfl)
  obtain rfl : js = [] := hmatter.insideLed_eq_false.mp (by rw [hq.matter]; rfl)
  rw [hq.isr] at hout
  exact (LedInstr.outline_nil.mp hout).2.2

/-- A tick between calls: from then on the phase is right as well. -/
theorem Lone.tick {s t : Preempted} (h : s.Lone false) (hbetween : s.Undisturbed .blinkTick)
    (hstep : preemptive.step s .blinkTick = some t) : t.Lone true := by
  obtain ⟨plug, app, matter, isr⟩ := s
  obtain ⟨is, js, happ, hmatter, hone, hout⟩ := h
  obtain ⟨happ', hmatter'⟩ := hbetween.2 rfl
  obtain rfl := happ.insideLed_eq_false.mp happ'
  obtain rfl := hmatter.insideLed_eq_false.mp hmatter'
  simp only [preemptive, Option.ite_none_right_eq_some, Option.some.injEq] at hstep
  obtain ⟨⟨rfl, hsome⟩, rfl⟩ := hstep
  exact ⟨[], [], happ, hmatter, hone, hout.tick_nil (Option.isSome_iff_ne_none.mp hsome)⟩

/-- **Indicators under preemption**: let ticks fall anywhere and the threads
preempt each other, but not inside the LED module.  Whenever nothing is left to
do, the timer and every LED that does not blink are the table's at `RelayIsOn()`;
and once a tick has fallen between calls every LED is, until one falls in a call. -/
theorem indicators_under_preemption (persisted : Bool) (state : NetworkLedState)
    (es : List PreemptedEvent) (s : Preempted)
    (hrun : preemptive.run (started persisted state) es = some s)
    (hserial : preemptive.Admits Serialised (started persisted state) es) :
    (s.Quiescent →
      s.plug.outputs.led.sBlinkTimer = blinkPeriodMs s.plug.outputs.led.sNetworkState ∧
      ∀ led, carriesPhase s.plug.outputs.led.sNetworkState led = false →
        s.plug.outputs.led.pin led = indication s.plug.outputs.led.sNetworkState
          s.plug.relayIsOn s.plug.outputs.led.sBlinkOn led) ∧
    ∀ fs t, preemptive.run s (.blinkTick :: fs) = some t →
      preemptive.Admits Undisturbed s (.blinkTick :: fs) → t.Quiescent → t.plug.Truthful := by
  have hsettles : s.Settles := preemptive.run_invariant_of_step
    (fun _ _ _ h hstep => h.step hstep) (settles_started persisted state) hrun
  have hlone : s.Lone false := preemptive.run_invariant_of_admits
    (fun _ _ _ h hok hstep => h.step hok (by simp) hstep) (lone_started persisted state)
    hserial hrun
  constructor
  · intro hq
    have hshows := hlone.shows hq
    refine ⟨hshows.timer, fun led hsteady => ?_⟩
    rw [← (hsettles.quiescent hq).told]
    exact hshows.pins led (Or.inr hsteady)
  · intro fs t hfs hok hq
    obtain ⟨u, hu, hfs'⟩ := preemptive.run_cons_eq_some.mp hfs
    obtain ⟨hbetween, hok'⟩ := hok u hu
    have hlone' : t.Lone true := preemptive.run_invariant_of_admits
      (fun _ _ _ h hok hstep => h.step hok.1 (fun _ => hok.2) hstep) (hlone.tick hbetween hu)
      hok' hfs'
    have hsettles' : t.Settles := preemptive.run_invariant_of_step
      (fun _ _ _ h hstep => h.step hstep) hsettles hfs
    have hshows := hlone'.shows hq
    refine ⟨fun led => ?_, hshows.timer⟩
    rw [← (hsettles'.quiescent hq).told]
    exact hshows.pins led (Or.inl rfl)

/-- A controller's write has read the phase for the red LED when the timer
expires; the handler flips the phase, and the write drives what it had read. -/
def tickInCall : List PreemptedEvent :=
  .controllerWrite true :: List.replicate 9 .matterStep ++
    .blinkTick :: List.replicate 8 .isrStep ++ List.replicate 4 .matterStep

/-- Red and plug LED 2 are then out of phase, until the next tick. -/
theorem indicators_after_tick_in_call :
    ∃ s t, preemptive.run (started false .error) tickInCall = some s ∧ ¬ s.plug.Truthful ∧
      preemptive.run s (.blinkTick :: List.replicate 8 .isrStep) = some t ∧ t.plug.Truthful := by
  refine ⟨_, _, rfl, fun h => absurd (h.pins .red) (by decide), rfl, ?_⟩
  exact (indicators_under_preemption false .error tickInCall _ rfl (by decide)).2
    (List.replicate 8 .isrStep) _ rfl (by decide) ⟨rfl, rfl, rfl, rfl⟩

end Preempted

end UascentPlug

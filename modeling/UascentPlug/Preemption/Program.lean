import UascentPlug.Indication
import UascentPlug.Lib.Program

/-!
# UascentPlug.Preemption.Program

The switching code instruction by instruction: every call is left with the
calls and stores of its body, and a value that is read before it is stored or
driven onto a pin stays in the instruction that will store it.  Whoever
preempts the code may act between any two of these.

* `LedInstr`: the body of `status_led.cpp`, the blink timer's handler included;
* `Instr`: the body of `relay.cpp`, of the callbacks in `zcl_callbacks.cpp`,
  of the button handler, of the trip in `CheckOverPower` and of the
  `UpdateClusterState` lambda.

`evaluates_program` says that each call, left alone, is the function the rest
of the development works with.
-/

namespace UascentPlug

/-! ## src/status_led.cpp -/

/-- The instructions of the status LED module. -/
inductive LedInstr where
  | statusLedSetRelayState (relayOn : Bool)
  | storeRelayOn (relayOn : Bool)
  | statusLedSetNetworkState (state : NetworkLedState)
  | storeRendered
  | storeNetworkState (state : NetworkLedState)
  /-- `if (!sInitialised) return; switch (state)`. -/
  | switchState (state : NetworkLedState)
  | storeBlinkOn
  | timerStart (interval : Nat)
  | timerStop
  | blinkTimerHandler
  | renderRgb
  | gpioPinSet (led : Led) (on : Bool)
  /-- `gpio_pin_set_dt(&led, sBlinkOn)`, its argument not yet read. -/
  | pinSetBlinkOn (led : Led)
  /-- `gpio_pin_set_dt(&led, sRelayOn)`, its argument not yet read. -/
  | pinSetRelayOn (led : Led)
  deriving DecidableEq

namespace LedInstr

/-- One instruction, and what is left of it. -/
def exec : LedInstr → StatusLed → StatusLed × List LedInstr
  | .statusLedSetRelayState relayOn, s =>
      if relayOn = s.sRelayOn then (s, []) else (s, [.storeRelayOn relayOn, .renderRgb])
  | .storeRelayOn relayOn, s => ({ s with sRelayOn := relayOn }, [])
  | .statusLedSetNetworkState state, s =>
      if s.sRendered ∧ state = s.sNetworkState then (s, [])
      else (s, [.storeRendered, .storeNetworkState state, .switchState state])
  | .storeRendered, s => ({ s with sRendered := true }, [])
  | .storeNetworkState state, s => ({ s with sNetworkState := state }, [])
  | .switchState state, s =>
      if !s.sInitialised then
        (s, [])
      else
        match state with
        | .pairing | .error =>
            (s, [.storeBlinkOn, .gpioPinSet .plugNetwork true, .renderRgb,
              .timerStart (if state = .error then kFastBlinkInterval else kBlinkInterval)])
        | .paired => (s, [.timerStop, .gpioPinSet .plugNetwork false, .renderRgb])
  | .storeBlinkOn, s => ({ s with sBlinkOn := true }, [])
  | .timerStart interval, s => ({ s with sBlinkTimer := some interval }, [])
  | .timerStop, s => ({ s with sBlinkTimer := none }, [])
  | .blinkTimerHandler, s =>
      ({ s with sBlinkOn := !s.sBlinkOn }, [.pinSetBlinkOn .plugNetwork, .renderRgb])
  | .renderRgb, s =>
      if !s.sInitialised then
        (s, [])
      else
        match s.sNetworkState with
        | .pairing => (s, [.gpioPinSet .red false, .gpioPinSet .green false, .pinSetBlinkOn .blue])
        | .error => (s, [.pinSetBlinkOn .red, .gpioPinSet .green false, .gpioPinSet .blue false])
        | .paired => (s, [.gpioPinSet .red false, .pinSetRelayOn .green, .gpioPinSet .blue false])
  | .gpioPinSet led on, s => (s.gpioPinSet led on, [])
  | .pinSetBlinkOn led, s => (s, [.gpioPinSet led s.sBlinkOn])
  | .pinSetRelayOn led, s => (s, [.gpioPinSet led s.sRelayOn])

/-- What an instruction does, taken as a whole. -/
def eval : LedInstr → StatusLed → StatusLed
  | .statusLedSetRelayState relayOn, s => s.statusLedSetRelayState relayOn
  | .storeRelayOn relayOn, s => { s with sRelayOn := relayOn }
  | .statusLedSetNetworkState state, s => s.statusLedSetNetworkState state
  | .storeRendered, s => { s with sRendered := true }
  | .storeNetworkState state, s => { s with sNetworkState := state }
  | .switchState state, s =>
      if !s.sInitialised then
        s
      else
        match state with
        | .pairing | .error =>
            let s : StatusLed := { s with sBlinkOn := true }
            { (s.gpioPinSet .plugNetwork true).renderRgb with
              sBlinkTimer :=
                some (if state = .error then kFastBlinkInterval else kBlinkInterval) }
        | .paired =>
            (({ s with sBlinkTimer := none } : StatusLed).gpioPinSet .plugNetwork false).renderRgb
  | .storeBlinkOn, s => { s with sBlinkOn := true }
  | .timerStart interval, s => { s with sBlinkTimer := some interval }
  | .timerStop, s => { s with sBlinkTimer := none }
  | .blinkTimerHandler, s => s.blinkTimerHandler
  | .renderRgb, s => s.renderRgb
  | .gpioPinSet led on, s => s.gpioPinSet led on
  | .pinSetBlinkOn led, s => s.gpioPinSet led s.sBlinkOn
  | .pinSetRelayOn led, s => s.gpioPinSet led s.sRelayOn

/-- How many instructions an instruction may take to its end. -/
def weight : LedInstr → Nat
  | .statusLedSetRelayState _ => 9
  | .statusLedSetNetworkState _ => 14
  | .switchState _ => 11
  | .blinkTimerHandler => 10
  | .renderRgb => 7
  | .pinSetBlinkOn _ | .pinSetRelayOn _ => 2
  | _ => 1

end LedInstr

/-- The status LED module as a program. -/
def ledProgram : Program StatusLed LedInstr where
  exec := LedInstr.exec

/-- **The LED calls left alone** do what their functions do. -/
theorem evaluates_ledProgram : ledProgram.Evaluates LedInstr.eval := by
  intro i s
  cases i with
  | statusLedSetRelayState relayOn =>
      simp only [ledProgram, LedInstr.exec, LedInstr.eval, StatusLed.statusLedSetRelayState]
      split <;> rfl
  | statusLedSetNetworkState state =>
      simp only [ledProgram, LedInstr.exec, LedInstr.eval, StatusLed.statusLedSetNetworkState]
      split
      · rfl
      · cases state <;> rfl
  | switchState state =>
      simp only [ledProgram, LedInstr.exec, LedInstr.eval]
      split
      · rfl
      · cases state <;> rfl
  | renderRgb =>
      simp only [ledProgram, LedInstr.exec, LedInstr.eval, StatusLed.renderRgb]
      split
      · rfl
      · cases hstate : s.sNetworkState with
        | pairing => rfl
        | error => rfl
        | paired => rfl
  | _ => rfl

/-- They end. -/
theorem terminates_ledProgram : ledProgram.Terminates LedInstr.weight := by
  intro i s
  cases i with
  | statusLedSetRelayState relayOn =>
      simp only [ledProgram, LedInstr.exec]
      split <;> simp [LedInstr.weight]
  | statusLedSetNetworkState state =>
      simp only [ledProgram, LedInstr.exec]
      split <;> simp [LedInstr.weight]
  | switchState state =>
      simp only [ledProgram, LedInstr.exec]
      split
      · simp [LedInstr.weight]
      · cases state <;> simp [LedInstr.weight]
  | renderRgb =>
      simp only [ledProgram, LedInstr.exec]
      split
      · simp [LedInstr.weight]
      · split <;> simp [LedInstr.weight]
  | _ => simp [ledProgram, LedInstr.exec, LedInstr.weight]

/-! ## src/relay.cpp, src/zcl_callbacks.cpp, src/app_task.cpp, src/bl0937.cpp -/

/-- The instructions of the switching code. -/
inductive Instr where
  | led (i : LedInstr)
  | relaySet (on : Bool)
  /-- `gpio_pin_set_dt(&sRelay, on)`. -/
  | relayPinSet (on : Bool)
  | storeOn (on : Bool)
  /-- `RelaySet(!RelayIsOn())`, its argument not yet read. -/
  | relayToggle
  /-- `StatusLedSetRelayState(RelayIsOn())`, its argument not yet read. -/
  | indicateRelay
  /-- What `CheckOverPower` does once enough samples were above the threshold. -/
  | trip
  | updateClusterState
  /-- `OnOff::Set(endpoint, RelayIsOn())`, its argument not yet read. -/
  | reportRelay
  | onOffSet (value : Bool)
  | onOffChanged (value : Bool)
  deriving DecidableEq

namespace Instr

/-- The plug's LEDs, replaced. -/
def withLed (p : Plug) (s : StatusLed) : Plug := { p with outputs := { p.outputs with led := s } }

/-- One instruction, and what is left of it; `err` is the answer of
`gpio_pin_set_dt` if it drives the relay pin. -/
def exec (err : Int) : Instr → Plug → Plug × List Instr
  | .led i, p =>
      (withLed p (i.exec p.outputs.led).1, (i.exec p.outputs.led).2.map .led)
  | .relaySet on, p => if !p.outputs.relay.sInitialised then (p, []) else (p, [.relayPinSet on])
  | .relayPinSet on, p =>
      if err ≠ 0 then
        (p, [])
      else
        ({ p with outputs := { p.outputs with relay := { p.outputs.relay with pin := on } } },
          [.storeOn on, .led (.statusLedSetRelayState on)])
  | .storeOn on, p =>
      ({ p with outputs := { p.outputs with relay := { p.outputs.relay with sOn := on } } }, [])
  | .relayToggle, p => (p, [.relaySet !p.relayIsOn])
  | .indicateRelay, p => (p, [.led (.statusLedSetRelayState p.relayIsOn)])
  | .trip, p => if p.relayIsOn then (p, [.relaySet false, .updateClusterState]) else (p, [])
  | .updateClusterState, p => (p.updateClusterState, [])
  | .reportRelay, p => (p, [.onOffSet p.relayIsOn])
  | .onOffSet value, p => (p.storeOnOff value, [.onOffChanged value])
  | .onOffChanged value, p => (p, [.relaySet value, .led (.statusLedSetRelayState value)])

/-- What an instruction does, taken as a whole. -/
def eval (err : Int) : Instr → Plug → Plug
  | .led i, p => withLed p (i.eval p.outputs.led)
  | .relaySet on, p => p.relaySet err on
  | .relayPinSet on, p =>
      if err ≠ 0 then p
      else { p with outputs :=
        { relay := { p.outputs.relay with pin := on, sOn := on }
          led := p.outputs.led.statusLedSetRelayState on } }
  | .storeOn on, p =>
      { p with outputs := { p.outputs with relay := { p.outputs.relay with sOn := on } } }
  | .relayToggle, p => p.relaySet err !p.relayIsOn
  | .indicateRelay, p => p.statusLedSetRelayState p.relayIsOn
  | .trip, p => if p.relayIsOn then (p.relaySet err false).updateClusterState else p
  | .updateClusterState, p => p.updateClusterState
  | .reportRelay, p => p.onOffSet err p.relayIsOn
  | .onOffSet value, p => p.onOffSet err value
  | .onOffChanged value, p => p.onOffChanged err value

/-- How many instructions an instruction may take to its end, and for the
report it schedules. -/
def weight : Instr → Nat
  | .led i => i.weight
  | .relaySet _ => 12
  | .relayPinSet _ => 11
  | .storeOn _ => 1
  | .relayToggle => 13
  | .indicateRelay => 10
  | .trip => 39
  | .updateClusterState => 26
  | .reportRelay => 24
  | .onOffSet _ => 23
  | .onOffChanged _ => 22

end Instr

/-- The switching code as a program. -/
def program (err : Int) : Program Plug Instr where
  exec := Instr.exec err

/-- `ButtonEventHandler` on a release of the application button. -/
def buttonProgram : List Instr := [.relayToggle, .indicateRelay, .updateClusterState]

/-- A program of LED instructions acts on the LEDs alone. -/
theorem evalAll_led (err : Int) (is : List LedInstr) (p : Plug) :
    Program.evalAll (Instr.eval err) (is.map .led) p =
      Instr.withLed p (Program.evalAll LedInstr.eval is p.outputs.led) := by
  induction is generalizing p with
  | nil => rfl
  | cons i is ih =>
      rw [List.map_cons, Program.evalAll_cons, ih]
      rfl

/-- Every call of the switching code, left alone, is the function it models. -/
theorem evaluates_program (err : Int) : (program err).Evaluates (Instr.eval err) := by
  intro i p
  cases i with
  | led i =>
      have hled := evaluates_ledProgram i p.outputs.led
      simp only [program, Instr.exec, evalAll_led, Instr.eval]
      exact congrArg (Instr.withLed p) hled
  | relaySet on =>
      simp only [program, Instr.exec, Instr.eval, Plug.relaySet, Outputs.relaySet]
      split
      · rfl
      · by_cases herr : err = 0
        · simp [Instr.eval, herr]
        · simp [Instr.eval, herr]
  | relayPinSet on =>
      simp only [program, Instr.exec, Instr.eval]
      split <;> rfl
  | trip =>
      simp only [program, Instr.exec, Instr.eval]
      split <;> rfl
  | onOffChanged value =>
      rw [Instr.eval, Plug.onOffChanged_eq]
      rfl
  | _ => rfl

/-- The calls of the threads end. -/
theorem terminates_program (err : Int) : (program err).Terminates Instr.weight := by
  have hled : ∀ is : List LedInstr,
      Program.weigh Instr.weight (is.map .led) = Program.weigh LedInstr.weight is := by
    intro is
    induction is with
    | nil => rfl
    | cons i is ih => rw [List.map_cons, Program.weigh_cons, Program.weigh_cons, ih, Instr.weight]
  intro i p
  cases i with
  | led i =>
      simp only [program, Instr.exec, hled]
      exact terminates_ledProgram i p.outputs.led
  | relaySet on =>
      simp only [program, Instr.exec]
      split <;> simp [Instr.weight]
  | relayPinSet on =>
      simp only [program, Instr.exec]
      split <;> simp [Instr.weight, LedInstr.weight]
  | trip =>
      simp only [program, Instr.exec]
      split <;> simp [Instr.weight]
  | _ => simp [program, Instr.exec, Instr.weight, LedInstr.weight]

end UascentPlug

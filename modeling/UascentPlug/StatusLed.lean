import Mathlib.Tactic.TypeStar

/-!
# UascentPlug.StatusLed

The status LED module (`src/status_led.cpp`): three on-board LED channels
and the plug's network LED, fed from the network state and the relay state,
with a blink timer.  The state below is the file's own statics together with
the level of every LED pin (logical: `true` is lit) and the period the blink
timer runs at.
-/

namespace UascentPlug

/-- `-ENODEV`, returned when a GPIO port is not ready. -/
def enodev : Int := -19

/-- `NetworkLedState`: what the network axis of the indication shows. -/
inductive NetworkLedState where
  | pairing
  | paired
  | error
  deriving DecidableEq, Repr

/-- The four LED channels, in the order `StatusLedInit` configures them. -/
inductive Led where
  | red
  | green
  | blue
  | plugNetwork
  deriving DecidableEq, Repr

/-- `kBlinkInterval`, in milliseconds. -/
def kBlinkInterval : Nat := 500

/-- `kFastBlinkInterval`, in milliseconds. -/
def kFastBlinkInterval : Nat := 150

/-- The statics of `status_led.cpp` and the outputs they drive. -/
structure StatusLed where
  sNetworkState : NetworkLedState := .error
  sRelayOn : Bool := false
  sInitialised : Bool := false
  sBlinkOn : Bool := false
  sRendered : Bool := false
  /-- Logical level of each LED pin. -/
  pin : Led → Bool := fun _ => false
  /-- The period of `sBlinkTimer` while it runs, `none` while it is stopped. -/
  sBlinkTimer : Option Nat := none

namespace StatusLed

/-- `gpio_pin_set_dt` on an LED; the firmware ignores its result. -/
def gpioPinSet (led : Led) (on : Bool) (s : StatusLed) : StatusLed :=
  { s with pin := fun l => if l = led then on else s.pin l }

/-- `RenderRgb`: the RGB's colour for the network state, relay state and blink phase. -/
def renderRgb (s : StatusLed) : StatusLed :=
  if !s.sInitialised then
    s
  else
    match s.sNetworkState with
    | .pairing =>
        ((s.gpioPinSet .red false).gpioPinSet .green false).gpioPinSet .blue s.sBlinkOn
    | .error =>
        ((s.gpioPinSet .red s.sBlinkOn).gpioPinSet .green false).gpioPinSet .blue false
    | .paired =>
        ((s.gpioPinSet .red false).gpioPinSet .green s.sRelayOn).gpioPinSet .blue false

/-- `BlinkTimerHandler`, one expiry of the blink timer. -/
def blinkTimerHandler (s : StatusLed) : StatusLed :=
  let s := { s with sBlinkOn := !s.sBlinkOn }
  (s.gpioPinSet .plugNetwork s.sBlinkOn).renderRgb

/-- The configuration loop of `StatusLedInit`: stops at the first LED whose
port is not ready or whose pin cannot be configured. -/
def configureLeds (isReady : Led → Bool) (configure : Led → Int) :
    List Led → StatusLed → StatusLed × Int
  | [], s => (s, 0)
  | led :: leds, s =>
      if !isReady led then
        (s, enodev)
      else if configure led ≠ 0 then
        (s, configure led)
      else
        configureLeds isReady configure leds (s.gpioPinSet led false)

/-- `StatusLedInit`.  `isReady` and `configure` are the answers of
`gpio_is_ready_dt` and `gpio_pin_configure_dt` for each LED. -/
def statusLedInit (isReady : Led → Bool) (configure : Led → Int) (s : StatusLed) :
    StatusLed × Int :=
  match configureLeds isReady configure [.red, .green, .blue, .plugNetwork] s with
  | (s, 0) => ({ s with sBlinkTimer := none, sInitialised := true }, 0)
  | (s, err) => (s, err)

/-- `StatusLedSetNetworkState`. -/
def statusLedSetNetworkState (state : NetworkLedState) (s : StatusLed) : StatusLed :=
  if s.sRendered ∧ state = s.sNetworkState then
    s
  else
    let s := { s with sRendered := true, sNetworkState := state }
    if !s.sInitialised then
      s
    else
      match state with
      | .pairing | .error =>
          let interval := if state = .error then kFastBlinkInterval else kBlinkInterval
          let s := { s with sBlinkOn := true }
          { (s.gpioPinSet .plugNetwork true).renderRgb with sBlinkTimer := some interval }
      | .paired =>
          (({ s with sBlinkTimer := none } : StatusLed).gpioPinSet .plugNetwork false).renderRgb

/-- `StatusLedSetRelayState`. -/
def statusLedSetRelayState (relayOn : Bool) (s : StatusLed) : StatusLed :=
  if relayOn = s.sRelayOn then s else ({ s with sRelayOn := relayOn } : StatusLed).renderRgb

end StatusLed

end UascentPlug

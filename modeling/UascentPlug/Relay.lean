import UascentPlug.StatusLed

/-!
# UascentPlug.Relay

The relay driver (`src/relay.cpp`).  `RelaySet` also tells the status LED
module about the load, so the state here is both modules' statics together.

A GPIO write either succeeds (`err = 0`) or leaves the pin alone and returns
a negative errno; `err` is a parameter of every function that drives the pin.
-/

namespace UascentPlug

/-- The statics of `relay.cpp` and the level of the relay pin. -/
structure Relay where
  sInitialised : Bool := false
  sOn : Bool := false
  /-- Logical level of `sRelay`: `true` closes the relay. -/
  pin : Bool := false

/-- Everything the firmware drives through GPIO: the relay and the LEDs. -/
structure Outputs where
  relay : Relay := {}
  led : StatusLed := {}

namespace Outputs

/-- `RelayInit`.  `isReady` and `err` are the answers of `gpio_is_ready_dt`
and `gpio_pin_configure_dt`. -/
def relayInit (isReady : Bool) (err : Int) (o : Outputs) : Outputs × Int :=
  if !isReady then
    (o, enodev)
  else if err ≠ 0 then
    (o, err)
  else
    ({ o with relay := { sInitialised := true, sOn := false, pin := false } }, 0)

/-- `RelaySet`.  `err` is the answer of `gpio_pin_set_dt`. -/
def relaySet (err : Int) (on : Bool) (o : Outputs) : Outputs × Int :=
  if !o.relay.sInitialised then
    (o, enodev)
  else if err ≠ 0 then
    (o, err)
  else
    ({ relay := { o.relay with pin := on, sOn := on }
       led := o.led.statusLedSetRelayState on }, 0)

/-- `RelayIsOn`. -/
def relayIsOn (o : Outputs) : Bool := o.relay.sOn

/-! ## what a relay write does -/

/-- On an initialised relay a successful write is what `RelayIsOn` reports next. -/
@[simp] theorem relayIsOn_relaySet {o : Outputs} (h : o.relay.sInitialised = true) (on : Bool) :
    (o.relaySet 0 on).1.relayIsOn = on := by
  simp [relaySet, relayIsOn, h]

/-- No relay write initialises or de-initialises the driver. -/
@[simp] theorem sInitialised_relaySet (err : Int) (on : Bool) (o : Outputs) :
    (o.relaySet err on).1.relay.sInitialised = o.relay.sInitialised := by
  unfold relaySet
  split
  · rfl
  · split <;> rfl

end Outputs

end UascentPlug

import UascentPlug.Relay

/-!
# UascentPlug.AppTask

The switching half of the application: the button handler and
`UpdateClusterState` of `src/app_task.cpp`, and the OnOff bridge of
`src/zcl_callbacks.cpp`.

`Plug` is what both threads share: the outputs, the stored OnOff attribute
and the `UpdateClusterState` lambdas waiting on the Matter thread.  Such a
lambda captures nothing, so the FIFO queue of them is a number.
-/

namespace UascentPlug

/-- The state the app task and the Matter thread switch the load through. -/
structure Plug where
  outputs : Outputs := {}
  /-- The stored OnOff attribute of endpoint 1. -/
  onOff : Bool := false
  /-- `UpdateClusterState` lambdas scheduled and not yet run. -/
  lambdas : Nat := 0

/-- A cluster and attribute id (`ConcreteAttributePath`). -/
structure AttributePath where
  mClusterId : UInt32
  mAttributeId : UInt32
  deriving DecidableEq

/-- `OnOff::Id` and `OnOff::Attributes::OnOff::Id`. -/
def onOffPath : AttributePath := ⟨0x0006, 0x0000⟩

/-- `APPLICATION_BUTTON_MASK`: the board layer's first button. -/
def applicationButtonMask : UInt32 := 1

namespace Plug

/-- `RelayIsOn`. -/
def relayIsOn (p : Plug) : Bool := p.outputs.relayIsOn

/-- `RelaySet`, its result discarded as every caller here does. -/
def relaySet (err : Int) (on : Bool) (p : Plug) : Plug :=
  { p with outputs := (p.outputs.relaySet err on).1 }

/-- `StatusLedSetRelayState`. -/
def statusLedSetRelayState (on : Bool) (p : Plug) : Plug :=
  { p with outputs := { p.outputs with led := p.outputs.led.statusLedSetRelayState on } }

/-! ## src/zcl_callbacks.cpp -/

/-- `ApplyOnOff`. -/
def applyOnOff (err : Int) (on : Bool) (p : Plug) : Plug :=
  (p.relaySet err on).statusLedSetRelayState on

/-- `MatterPostAttributeChangeCallback`. -/
def matterPostAttributeChangeCallback (err : Int) (path : AttributePath) (value : UInt8)
    (p : Plug) : Plug :=
  if path.mClusterId = onOffPath.mClusterId ∧ path.mAttributeId = onOffPath.mAttributeId then
    p.applyOnOff err (value != 0)
  else
    p

/-- `emberAfOnOffClusterInitCallback`; `get` is what reading the attribute
back returns, `none` for any status but success. -/
def emberAfOnOffClusterInitCallback (err : Int) (get : Option Bool) (p : Plug) : Plug :=
  match get with
  | some storedValue => p.applyOnOff err storedValue
  | none => p

/-! ## src/app_task.cpp -/

/-- The first half of an attribute write: the SDK stores the value. -/
def storeOnOff (value : Bool) (p : Plug) : Plug := { p with onOff := value }

/-- The second half of an attribute write: the SDK runs the post-change callback. -/
def onOffChanged (err : Int) (value : Bool) (p : Plug) : Plug :=
  p.matterPostAttributeChangeCallback err onOffPath (if value then 1 else 0)

/-- `OnOff::Set`: stores the value and runs the post-change callback before it
returns.  The SDK is taken to run the callback for an unchanged value as well. -/
def onOffSet (err : Int) (value : Bool) (p : Plug) : Plug :=
  (p.storeOnOff value).onOffChanged err value

/-- `AppTask::UpdateClusterState` schedules one lambda. -/
def updateClusterState (p : Plug) : Plug := { p with lambdas := p.lambdas + 1 }

/-- The lambda `UpdateClusterState` scheduled, taken off the queue and run. -/
def runLambda (err : Int) (p : Plug) : Plug :=
  ({ p with lambdas := p.lambdas - 1 } : Plug).onOffSet err p.relayIsOn

/-- The switching half of the button handler: the relay and its indication. -/
def toggleRelay (err : Int) (p : Plug) : Plug :=
  let p := p.relaySet err (!p.relayIsOn)
  p.statusLedSetRelayState p.relayIsOn

/-- `AppTask::ButtonEventHandler`.  The other branch of the source only wakes
the ICD manager, which no state here depends on. -/
def buttonEventHandler (err : Int) (state hasChanged : UInt32) (p : Plug) : Plug :=
  if applicationButtonMask &&& hasChanged &&& ~~~state ≠ 0 then
    (p.toggleRelay err).updateClusterState
  else
    p

/-- A release of the application button. -/
def buttonRelease (err : Int) (p : Plug) : Plug :=
  p.buttonEventHandler err 0 applicationButtonMask

/-- The plug once `Init` has set up the LEDs and the relay and
`emberAfOnOffClusterInitCallback` has applied the persisted attribute. -/
def boot (persisted : Bool) : Plug :=
  let led := (StatusLed.statusLedInit (fun _ => true) (fun _ => 0) {}).1
  let outputs := (Outputs.relayInit true 0 { led := led }).1
  ({ outputs := outputs, onOff := persisted } : Plug).emberAfOnOffClusterInitCallback 0
    (some persisted)

/-! ## what each operation does to the relay and the attribute -/

/-- `RelayInit` has succeeded. -/
def RelayReady (p : Plug) : Prop := p.outputs.relay.sInitialised = true

@[simp] theorem relayReady_relaySet (err : Int) (on : Bool) (p : Plug) :
    (p.relaySet err on).RelayReady ↔ p.RelayReady := by
  simp [RelayReady, relaySet]

@[simp] theorem relayReady_statusLedSetRelayState (on : Bool) (p : Plug) :
    (p.statusLedSetRelayState on).RelayReady ↔ p.RelayReady := Iff.rfl

@[simp] theorem relayReady_storeOnOff (value : Bool) (p : Plug) :
    (p.storeOnOff value).RelayReady ↔ p.RelayReady := Iff.rfl

@[simp] theorem relayReady_applyOnOff (err : Int) (on : Bool) (p : Plug) :
    (p.applyOnOff err on).RelayReady ↔ p.RelayReady := by
  simp [applyOnOff]

/-- On a configured relay, `RelaySet` that succeeds does what it is asked. -/
@[simp] theorem relayIsOn_relaySet {p : Plug} (h : p.RelayReady) (on : Bool) :
    (p.relaySet 0 on).relayIsOn = on :=
  Outputs.relayIsOn_relaySet h on

@[simp] theorem relayIsOn_statusLedSetRelayState (on : Bool) (p : Plug) :
    (p.statusLedSetRelayState on).relayIsOn = p.relayIsOn := rfl

/-- So does `ApplyOnOff`. -/
@[simp] theorem relayIsOn_applyOnOff {p : Plug} (h : p.RelayReady) (on : Bool) :
    (p.applyOnOff 0 on).relayIsOn = on := by
  simp [applyOnOff, h]

/-- The post-change callback of the OnOff attribute is `ApplyOnOff`. -/
@[simp] theorem onOffChanged_eq (err : Int) (value : Bool) (p : Plug) :
    p.onOffChanged err value = p.applyOnOff err value := by
  cases value <;> rfl

@[simp] theorem relayReady_toggleRelay (err : Int) (p : Plug) :
    (p.toggleRelay err).RelayReady ↔ p.RelayReady := by
  simp [toggleRelay]

@[simp] theorem relayIsOn_toggleRelay {p : Plug} (h : p.RelayReady) :
    (p.toggleRelay 0).relayIsOn = !p.relayIsOn := by
  simp [toggleRelay, h]

@[simp] theorem lambdas_runLambda (err : Int) (p : Plug) :
    (p.runLambda err).lambdas = p.lambdas - 1 := by
  rw [runLambda, onOffSet, onOffChanged_eq]
  rfl

/-- A release of the button toggles the relay and schedules the report. -/
theorem buttonRelease_eq (err : Int) (p : Plug) :
    p.buttonRelease err = (p.toggleRelay err).updateClusterState := by
  rw [buttonRelease, buttonEventHandler, if_pos (by decide)]

/-- Boot configures the relay. -/
theorem relayReady_boot (persisted : Bool) : (boot persisted).RelayReady := by
  cases persisted <;> rfl

/-- Boot leaves the relay where the persisted attribute says. -/
theorem relayIsOn_boot (persisted : Bool) : (boot persisted).relayIsOn = persisted := by
  cases persisted <;> rfl

end Plug

end UascentPlug

import UascentPlug.Bl0937

/-!
# UascentPlug.Switching

The load is switched along four paths: the button and the over-power trip
act on the relay and report it later, a controller writes the attribute and
the relay follows, and each queued `UpdateClusterState` lambda writes the
relay state back into the attribute.  Here every path is one atomic step.

`Switch` is the abstract component: a contact, what controllers are told
about it, and how many reports are still to be made.  `switch_step` says
that the firmware's step is the abstract one; the invariant (the two sides
differ only while a report is pending) is proved on the abstract side and
carried back to every run of the firmware.
-/

namespace UascentPlug

/-! ## the abstract switch -/

/-- A contact, the state controllers have been told, and the reports pending. -/
structure Switch where
  closed : Bool
  told : Bool
  pending : Nat
  deriving DecidableEq, Repr

/-- One atomic step of the switching paths. -/
inductive Action where
  /-- A release of the plug's button. -/
  | buttonRelease
  /-- `CheckOverPower` opens the relay. -/
  | overPowerTrip
  /-- A controller writes the OnOff attribute.  The SDK may leave out the
  callback when the stored attribute already has the value. -/
  | controllerWrite (value runsCallback : Bool)
  /-- The Matter thread runs the next `UpdateClusterState` lambda. -/
  | runLambda
  deriving DecidableEq, Repr

/-- What each path is for, on the abstract switch. -/
def Switch.next (s : Switch) : Action → Option Switch
  | .buttonRelease => some { s with closed := !s.closed, pending := s.pending + 1 }
  | .overPowerTrip =>
      if s.closed then some { s with closed := false, pending := s.pending + 1 } else none
  | .controllerWrite value runsCallback =>
      if runsCallback then some { s with closed := value, told := value }
      else if value = s.told then some s else none
  | .runLambda =>
      if 0 < s.pending then some { s with told := s.closed, pending := s.pending - 1 } else none

/-- Contact and report differ only while a report is pending. -/
def Switch.Agrees (s : Switch) : Prop := s.pending = 0 → s.told = s.closed

/-- **Step lemma**: no path makes the two sides differ without leaving a
report pending. -/
theorem Switch.agrees_next {s t : Switch} {a : Action} (h : s.Agrees)
    (hstep : s.next a = some t) : t.Agrees := by
  cases a with
  | buttonRelease =>
      cases Option.some.inj hstep
      exact fun hp => absurd hp (Nat.succ_ne_zero _)
  | overPowerTrip =>
      simp only [next, Option.ite_none_right_eq_some, Option.some.injEq] at hstep
      obtain ⟨-, rfl⟩ := hstep
      exact fun hp => absurd hp (Nat.succ_ne_zero _)
  | controllerWrite value runsCallback =>
      cases runsCallback with
      | true => cases Option.some.inj hstep; exact fun _ => rfl
      | false =>
          simp only [next, Bool.false_eq_true, if_false, Option.ite_none_right_eq_some,
            Option.some.injEq] at hstep
          obtain ⟨-, rfl⟩ := hstep
          exact h
  | runLambda =>
      simp only [next, Option.ite_none_right_eq_some, Option.some.injEq] at hstep
      obtain ⟨-, rfl⟩ := hstep
      exact fun _ => rfl

/-! ## the firmware's paths as atomic steps -/

/-- The switching paths of the firmware, each taken as one step; relay writes,
`ScheduleLambda` and attribute writes succeed. -/
def atomic : Lts Plug Action where
  step p
    | .buttonRelease => some (p.buttonRelease 0)
    | .overPowerTrip => if p.relayIsOn then some p.overPowerTrip else none
    | .controllerWrite value runsCallback =>
        if runsCallback then some (p.onOffSet 0 value)
        else if value = p.onOff then some p else none
    | .runLambda => if 0 < p.lambdas then some (p.runLambda 0) else none

namespace Plug

/-- The abstract switch a plug implements. -/
def switch (p : Plug) : Switch := ⟨p.relayIsOn, p.onOff, p.lambdas⟩

/-- What an `OnOff::Set` does to the abstract switch. -/
theorem switch_onOffSet {p : Plug} (h : p.RelayReady) (value : Bool) :
    (p.onOffSet 0 value).switch = { p.switch with closed := value, told := value } := by
  have hready : (p.storeOnOff value).RelayReady := (relayReady_storeOnOff value p).mpr h
  simp only [onOffSet, onOffChanged_eq, switch, relayIsOn_applyOnOff hready]
  rfl

/-- A write to the attribute leaves the relay configured. -/
theorem relayReady_onOffSet {p : Plug} (h : p.RelayReady) (value : Bool) :
    (p.onOffSet 0 value).RelayReady := by
  simpa [onOffSet] using h

/-- **Refinement step**: on an initialised relay the firmware's step is the
abstract step, and it leaves the relay initialised. -/
theorem switch_step {p q : Plug} {a : Action} (h : p.RelayReady)
    (hstep : atomic.step p a = some q) : p.switch.next a = some q.switch ∧ q.RelayReady := by
  cases a with
  | buttonRelease =>
      cases Option.some.inj hstep
      rw [buttonRelease_eq]
      refine ⟨?_, (relayReady_toggleRelay 0 p).mpr h⟩
      rw [show ((p.toggleRelay 0).updateClusterState).switch =
        ⟨(p.toggleRelay 0).relayIsOn, p.onOff, p.lambdas + 1⟩ from rfl, relayIsOn_toggleRelay h]
      rfl
  | overPowerTrip =>
      simp only [atomic, Option.ite_none_right_eq_some, Option.some.injEq] at hstep
      obtain ⟨hon, rfl⟩ := hstep
      rw [overPowerTrip_eq]
      refine ⟨?_, (relayReady_relaySet 0 false p).mpr h⟩
      rw [show ((p.relaySet 0 false).updateClusterState).switch =
        ⟨(p.relaySet 0 false).relayIsOn, p.onOff, p.lambdas + 1⟩ from rfl, relayIsOn_relaySet h]
      exact if_pos hon
  | controllerWrite value runsCallback =>
      cases runsCallback with
      | true =>
          cases Option.some.inj hstep
          rw [switch_onOffSet h]
          exact ⟨rfl, relayReady_onOffSet h value⟩
      | false =>
          simp only [atomic, Bool.false_eq_true, if_false, Option.ite_none_right_eq_some,
            Option.some.injEq] at hstep
          obtain ⟨hv, rfl⟩ := hstep
          exact ⟨if_pos hv, h⟩
  | runLambda =>
      simp only [atomic, Option.ite_none_right_eq_some, Option.some.injEq] at hstep
      obtain ⟨hp, rfl⟩ := hstep
      have hready : ({ p with lambdas := p.lambdas - 1 } : Plug).RelayReady := h
      rw [runLambda, switch_onOffSet hready]
      exact ⟨if_pos hp, relayReady_onOffSet hready _⟩

/-- The boot state implements a switch whose two sides agree. -/
theorem agrees_boot (persisted : Bool) : (boot persisted).switch.Agrees := fun _ =>
  (relayIsOn_boot persisted).symm

/-- **Run lemma**: in every run from boot the relay stays initialised and the
two sides differ only while a lambda is pending. -/
theorem agrees_of_run {persisted : Bool} {actions : List Action} {p : Plug}
    (hrun : atomic.run (boot persisted) actions = some p) : p.RelayReady ∧ p.switch.Agrees := by
  have hkept : ∀ (s : Plug) (a : Action) (t : Plug), s.RelayReady ∧ s.switch.Agrees →
      atomic.step s a = some t → t.RelayReady ∧ t.switch.Agrees := by
    rintro s a t ⟨hready, hagree⟩ hstep
    obtain ⟨habs, hready'⟩ := switch_step hready hstep
    exact ⟨hready', Switch.agrees_next hagree habs⟩
  exact atomic.run_invariant_of_step hkept ⟨relayReady_boot persisted, agrees_boot persisted⟩ hrun

end Plug

/-! ## relay and attribute at quiescence -/

/-- **Agreement at quiescence**: after any interleaving of button releases,
trips, controller writes and lambdas, the stored attribute is the relay state
whenever no lambda is pending; and running a lambda never moves the relay. -/
theorem attribute_eq_relay_of_no_lambda (persisted : Bool) (actions : List Action) (p : Plug)
    (hrun : atomic.run (Plug.boot persisted) actions = some p) :
    (p.lambdas = 0 → p.onOff = p.relayIsOn) ∧
      ∀ q, atomic.step p .runLambda = some q → q.relayIsOn = p.relayIsOn := by
  obtain ⟨hready, hagree⟩ := Plug.agrees_of_run hrun
  refine ⟨hagree, fun q hq => ?_⟩
  have habs := (Plug.switch_step hready hq).1
  simp only [Switch.next, Option.ite_none_right_eq_some, Option.some.injEq] at habs
  exact (congrArg Switch.closed habs.2).symm

/-- A trip between two presses, a write that finds the attribute already set,
and the three lambdas: attribute and relay agree. -/
theorem attribute_eq_relay_after_trip :
    ∃ p, atomic.run (Plug.boot false)
        [.buttonRelease, .overPowerTrip, .controllerWrite false false, .runLambda,
          .buttonRelease, .runLambda, .runLambda] = some p ∧
      p.lambdas = 0 ∧ p.onOff = p.relayIsOn :=
  ⟨_, rfl, rfl, (attribute_eq_relay_of_no_lambda false
    [.buttonRelease, .overPowerTrip, .controllerWrite false false, .runLambda,
      .buttonRelease, .runLambda, .runLambda] _ rfl).1 rfl⟩

end UascentPlug

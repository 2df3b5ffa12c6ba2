import UascentPlug.Switching

/-!
# UascentPlug.Commands

The switching paths as commands.  A person presses the button, the meter
trips, a controller sends On, Off or Toggle; the contact should end up where
these commands alone would have put it.  The button and the trip act on the
relay; the SDK's OnOff server acts on the stored attribute, which is behind
the relay while a lambda is pending, and then On and Off can be taken for done
and Toggle goes the wrong way.

`commanded_step` says that every event here is one of the atomic steps of
`UascentPlug.Switching`; `commands_take_effect_iff` says exactly which commands
are heard.
-/

namespace UascentPlug

/-! ## commands on a bare contact -/

inductive Command where
  | buttonRelease
  | overPowerTrip
  | on
  | off
  | toggle
  deriving DecidableEq, Repr

/-- What a command asks of the contact. -/
def Command.apply (closed : Bool) : Command → Bool
  | .buttonRelease | .toggle => !closed
  | .on => true
  | .off | .overPowerTrip => false

inductive CommandEvent where
  | command (c : Command)
  /-- The Matter thread runs the next `UpdateClusterState` lambda. -/
  | runLambda
  deriving DecidableEq, Repr

/-- The commands among the events, in the order they were executed. -/
def commands : List CommandEvent → List Command
  | [] => []
  | .command c :: es => c :: commands es
  | .runLambda :: es => commands es

@[simp] theorem commands_append (es fs : List CommandEvent) :
    commands (es ++ fs) = commands es ++ commands fs := by
  induction es with
  | nil => rfl
  | cons e es ih =>
      cases e with
      | command c => simp only [List.cons_append, commands, ih]
      | runLambda => simp only [List.cons_append, commands, ih]

@[simp] theorem commands_replicate_runLambda (n : Nat) :
    commands (List.replicate n .runLambda) = [] := by
  induction n with
  | zero => rfl
  | succ n ih => simpa [List.replicate_succ, commands] using ih

/-! ## commands on the plug -/

namespace Plug

/-- `On` and `Off` of the SDK's OnOff server: nothing to do when the stored
attribute already has the value. -/
def setCommand (value : Bool) (p : Plug) : Plug :=
  if p.onOff = value then p else p.onOffSet 0 value

/-- `Toggle` of the SDK's OnOff server negates the stored attribute. -/
def toggleCommand (p : Plug) : Plug := p.onOffSet 0 (!p.onOff)

end Plug

/-- The plug under commands, each taken as one step; relay writes,
`ScheduleLambda` and attribute writes succeed. -/
def commanded : Lts Plug CommandEvent where
  step p
    | .command .buttonRelease => some (p.buttonRelease 0)
    | .command .overPowerTrip => if p.relayIsOn then some p.overPowerTrip else none
    | .command .on => some (p.setCommand true)
    | .command .off => some (p.setCommand false)
    | .command .toggle => some p.toggleCommand
    | .runLambda => if 0 < p.lambdas then some (p.runLambda 0) else none

/-- The atomic step an event is in state `p`. -/
def CommandEvent.action (p : Plug) : CommandEvent → Action
  | .command .buttonRelease => .buttonRelease
  | .command .overPowerTrip => .overPowerTrip
  | .command .on => .controllerWrite true !p.onOff
  | .command .off => .controllerWrite false p.onOff
  | .command .toggle => .controllerWrite (!p.onOff) true
  | .runLambda => .runLambda

/-- Every event is an atomic step of the switching paths. -/
theorem commanded_step (p : Plug) (e : CommandEvent) :
    commanded.step p e = atomic.step p (e.action p) := by
  cases e with
  | runLambda => rfl
  | command c =>
      cases c with
      | buttonRelease => rfl
      | overPowerTrip => rfl
      | on =>
          cases h : p.onOff <;>
            simp [commanded, atomic, CommandEvent.action, Plug.setCommand, h]
      | off =>
          cases h : p.onOff <;>
            simp [commanded, atomic, CommandEvent.action, Plug.setCommand, h]
      | toggle => rfl

/-! ## which commands are heard -/

/-- The stored attribute does not mislead the OnOff server about the relay. -/
def Heard (p : Plug) : CommandEvent → Prop
  | .command .on => p.onOff = true → p.relayIsOn = true
  | .command .off => p.onOff = false → p.relayIsOn = false
  | .command .toggle => p.onOff = p.relayIsOn
  | _ => True

/-- With no lambda pending, every command is heard. -/
theorem heard_of_no_lambda {p : Plug} (hagree : p.switch.Agrees) (hquiet : p.lambdas = 0)
    (e : CommandEvent) : Heard p e := by
  have heq : p.onOff = p.relayIsOn := hagree hquiet
  cases e with
  | runLambda => trivial
  | command c =>
      cases c with
      | buttonRelease => trivial
      | overPowerTrip => trivial
      | on => exact fun hon => heq ▸ hon
      | off => exact fun hoff => heq ▸ hoff
      | toggle => exact heq

/-- A write whose callback is left out does not move the contact. -/
theorem closed_of_controllerWrite {s t : Switch} {value runsCallback : Bool}
    (h : s.next (.controllerWrite value runsCallback) = some t) :
    t.closed = if runsCallback then value else s.closed := by
  cases runsCallback with
  | true => rw [← Option.some.inj h, if_pos rfl]
  | false =>
      simp only [Switch.next, Bool.false_eq_true, if_false, Option.ite_none_right_eq_some,
        Option.some.injEq] at h
      rw [← h.2]
      rfl

/-- **Step lemma**: an event keeps the relay initialised, and does to it what
was asked exactly when it is heard. -/
theorem relayIsOn_commanded_step {p q : Plug} {e : CommandEvent} (h : p.RelayReady)
    (hstep : commanded.step p e = some q) :
    q.RelayReady ∧ (q.relayIsOn = (commands [e]).foldl Command.apply p.relayIsOn ↔ Heard p e) := by
  rw [commanded_step] at hstep
  obtain ⟨hnext, hready⟩ := Plug.switch_step h hstep
  refine ⟨hready, ?_⟩
  rw [show q.relayIsOn = q.switch.closed from rfl]
  cases e with
  | runLambda =>
      simp only [CommandEvent.action, Switch.next, Option.ite_none_right_eq_some,
        Option.some.injEq] at hnext
      rw [← hnext.2]
      exact iff_of_true rfl trivial
  | command c =>
      cases c with
      | buttonRelease =>
          rw [← Option.some.inj hnext]
          exact iff_of_true rfl trivial
      | overPowerTrip =>
          simp only [CommandEvent.action, Switch.next, Option.ite_none_right_eq_some,
            Option.some.injEq] at hnext
          rw [← hnext.2]
          exact iff_of_true rfl trivial
      | on =>
          rw [closed_of_controllerWrite hnext]
          simp only [commands, List.foldl_cons, List.foldl_nil, Command.apply, Heard]
          cases p.onOff <;> simp [Plug.switch]
      | off =>
          rw [closed_of_controllerWrite hnext]
          simp only [commands, List.foldl_cons, List.foldl_nil, Command.apply, Heard]
          cases p.onOff <;> simp [Plug.switch]
      | toggle =>
          rw [closed_of_controllerWrite hnext]
          simp [commands, Command.apply, Heard]

/-! ## draining the lambdas -/

/-- Lambdas leave the relay alone. -/
theorem relayIsOn_of_run_lambdas {n : Nat} {p q : Plug} (h : p.RelayReady)
    (hrun : commanded.run p (List.replicate n .runLambda) = some q) :
    q.relayIsOn = p.relayIsOn := by
  induction n generalizing p with
  | zero => rw [Option.some.inj hrun]
  | succ n ih =>
      rw [List.replicate_succ] at hrun
      obtain ⟨r, hstep, hrun'⟩ := commanded.run_cons_eq_some.mp hrun
      obtain ⟨hready, hheard⟩ := relayIsOn_commanded_step h hstep
      rw [ih hready hrun']
      exact hheard.mpr trivial

/-- All pending lambdas can run. -/
theorem exists_run_lambdas (p : Plug) :
    ∃ q, commanded.run p (List.replicate p.lambdas .runLambda) = some q ∧ q.lambdas = 0 := by
  generalize hn : p.lambdas = n
  induction n generalizing p with
  | zero => exact ⟨p, rfl, hn⟩
  | succ n ih =>
      have hstep : commanded.step p .runLambda = some (p.runLambda 0) := if_pos (by omega)
      have hpred : (p.runLambda 0).lambdas = n := by
        rw [Plug.lambdas_runLambda]
        omega
      obtain ⟨q, hrun, hquiet⟩ := ih (p.runLambda 0) hpred
      exact ⟨q, commanded.run_cons_eq_some.mpr ⟨_, hstep, hrun⟩, hquiet⟩

/-! ## the relay against the commands alone -/

/-- What the commands alone make of the relay state after boot. -/
def commandedRelay (persisted : Bool) (es : List CommandEvent) : Bool :=
  (commands es).foldl Command.apply (Plug.boot persisted).relayIsOn

/-- If the events lead to a state with no lambda pending, the relay is there
where the commands alone would have put it. -/
def Obeys (persisted : Bool) (es : List CommandEvent) : Prop :=
  ∀ p, commanded.run (Plug.boot persisted) es = some p → p.lambdas = 0 →
    p.relayIsOn = commandedRelay persisted es

/-- A run obeys its commands, drained or not, exactly when the relay is where
they put it. -/
theorem obeys_drained_iff (persisted : Bool) (es : List CommandEvent) :
    (∀ n, Obeys persisted (es ++ List.replicate n .runLambda)) ↔
      ∀ p, commanded.run (Plug.boot persisted) es = some p →
        p.relayIsOn = commandedRelay persisted es := by
  have hdrain : ∀ n, commandedRelay persisted (es ++ List.replicate n .runLambda) =
      commandedRelay persisted es := by
    intro n
    rw [commandedRelay, commands_append, commands_replicate_runLambda, List.append_nil]
    rfl
  have hready : ∀ p, commanded.run (Plug.boot persisted) es = some p → p.RelayReady := by
    intro p hrun
    exact commanded.run_invariant_of_step
      (fun s e t hs hstep => (relayIsOn_commanded_step hs hstep).1)
      (Plug.relayReady_boot persisted) hrun
  constructor
  · intro h p hrun
    obtain ⟨q, hlambdas, hquiet⟩ := exists_run_lambdas p
    have hobeys := h p.lambdas q (commanded.run_append_of_run hrun hlambdas) hquiet
    rw [hdrain] at hobeys
    rw [← hobeys, relayIsOn_of_run_lambdas (hready p hrun) hlambdas]
  · intro h n q hrun _
    rw [Lts.run_append, Option.bind_eq_some_iff] at hrun
    obtain ⟨p, hrun, hlambdas⟩ := hrun
    rw [hdrain, relayIsOn_of_run_lambdas (hready p hrun) hlambdas]
    exact h p hrun

/-- **Commands take effect**: in a run and each prefix of it, followed by its
pending lambdas, the relay ends up where the commands alone put it exactly
when every command of the run is heard. -/
theorem commands_take_effect_iff (persisted : Bool) (es : List CommandEvent) :
    (∀ fs, fs <+: es → ∀ n, Obeys persisted (fs ++ List.replicate n .runLambda)) ↔
      commanded.Admits Heard (Plug.boot persisted) es := by
  simp only [obeys_drained_iff]
  refine commanded.forall_prefix_iff_admits (P := Plug.RelayReady)
    (I := fun fs p => p.relayIsOn = commandedRelay persisted fs)
    (fun p e q hp hstep => (relayIsOn_commanded_step hp hstep).1) ?_
    (Plug.relayReady_boot persisted) rfl es
  intro fs p e q hp hrelay hstep
  rw [commandedRelay, commands_append, List.foldl_append]
  rw [commandedRelay] at hrelay
  rw [← hrelay]
  exact (relayIsOn_commanded_step hp hstep).2

/-- A press turns the plug on; the Off that arrives before its lambda finds
the attribute still off and does nothing. -/
theorem off_is_lost_behind_button :
    ¬ ∀ persisted es, Obeys persisted es := by
  intro h
  have hoff := h false [.command .buttonRelease, .command .off, .runLambda] _ rfl rfl
  contradiction

end UascentPlug

import UascentPlug.Switching

/-!
# UascentPlug.Interleaving

The switching paths again, with the preemption the atomic view hides.  The
app task switches the relay and then schedules the lambda; the Matter thread
stores a controller's value and then runs the callback; a lambda reads
`RelayIsOn()` and then calls `OnOff::Set` with what it read.  Steps of the
other thread may fall between the two halves of each.

`atomic_is_unpreempted` connects the two views: an atomic step is a run of
its halves back to back.  What preemption adds is a Matter-thread operation
with a value in hand that is no longer the relay state; the last section
says exactly when such a value undoes an over-power trip.
-/

namespace UascentPlug

/-- Where the app task is: between paths, or about to schedule the lambda. -/
inductive AppPc where
  | idle
  | updateClusterState
  deriving DecidableEq, Repr

/-- Where the Matter thread is: between operations, or between the two halves
of a lambda or of a controller write, with the value still to be applied. -/
inductive MatterPc where
  | idle
  | lambdaSet (value : Bool)
  | writeCallback (value : Bool)
  deriving DecidableEq, Repr

/-- The value a half-done Matter operation will drive the relay to. -/
def MatterPc.inHand : MatterPc → Option Bool
  | .idle => none
  | .lambdaSet value | .writeCallback value => some value

/-- The plug together with where its two threads are. -/
structure Threads where
  plug : Plug
  app : AppPc := .idle
  matter : MatterPc := .idle

/-- One step of one thread. -/
inductive Event where
  | buttonRelease
  | overPowerTrip
  | scheduleLambda
  | controllerWrite (value : Bool)
  | writeCallback
  | lambdaBegin
  | lambdaSet
  deriving DecidableEq, Repr

/-- The events by which a person or a controller commands the relay. -/
def Event.isCommand : Event → Bool
  | .buttonRelease | .controllerWrite _ => true
  | _ => false

/-- The two threads, interleaved at every half step; relay writes,
`ScheduleLambda` and attribute writes succeed. -/
def interleaved : Lts Threads Event where
  step s
    | .buttonRelease =>
        if s.app = .idle then
          some { s with plug := s.plug.toggleRelay 0, app := .updateClusterState }
        else none
    | .overPowerTrip =>
        if s.app = .idle ∧ s.plug.relayIsOn then
          some { s with plug := s.plug.relaySet 0 false, app := .updateClusterState }
        else none
    | .scheduleLambda =>
        if s.app = .updateClusterState then
          some { s with plug := s.plug.updateClusterState, app := .idle }
        else none
    | .controllerWrite value =>
        if s.matter = .idle then
          some { s with plug := s.plug.storeOnOff value, matter := .writeCallback value }
        else none
    | .writeCallback =>
        match s.matter with
        | .writeCallback value =>
            some { s with plug := s.plug.onOffChanged 0 value, matter := .idle }
        | _ => none
    | .lambdaBegin =>
        if s.matter = .idle ∧ 0 < s.plug.lambdas then
          some { s with
            plug := { s.plug with lambdas := s.plug.lambdas - 1 }
            matter := .lambdaSet s.plug.relayIsOn }
        else none
    | .lambdaSet =>
        match s.matter with
        | .lambdaSet value => some { s with plug := s.plug.onOffSet 0 value, matter := .idle }
        | _ => none

namespace Threads

def boot (persisted : Bool) : Threads := { plug := Plug.boot persisted }

/-! ## the atomic view is the unpreempted one -/

/-- An atomic step is a run in which nobody is preempted. -/
theorem atomic_is_unpreempted {p q : Plug} {a : Action} (hstep : atomic.step p a = some q) :
    ∃ es, interleaved.run { plug := p } es = some { plug := q } := by
  cases a with
  | buttonRelease =>
      cases Option.some.inj hstep
      refine ⟨[.buttonRelease, .scheduleLambda], ?_⟩
      rw [Plug.buttonRelease_eq]
      rfl
  | overPowerTrip =>
      simp only [atomic, Option.ite_none_right_eq_some, Option.some.injEq] at hstep
      obtain ⟨hon, rfl⟩ := hstep
      refine ⟨[.overPowerTrip, .scheduleLambda], ?_⟩
      rw [Plug.overPowerTrip_eq, Lts.run_cons_eq_some]
      exact ⟨_, if_pos ⟨rfl, hon⟩, rfl⟩
  | controllerWrite value runsCallback =>
      cases runsCallback with
      | true =>
          cases Option.some.inj hstep
          exact ⟨[.controllerWrite value, .writeCallback], rfl⟩
      | false =>
          simp only [atomic, Bool.false_eq_true, if_false, Option.ite_none_right_eq_some,
            Option.some.injEq] at hstep
          obtain ⟨-, rfl⟩ := hstep
          exact ⟨[], rfl⟩
  | runLambda =>
      simp only [atomic, Option.ite_none_right_eq_some, Option.some.injEq] at hstep
      obtain ⟨hp, rfl⟩ := hstep
      refine ⟨[.lambdaBegin, .lambdaSet], ?_⟩
      rw [Lts.run_cons_eq_some]
      exact ⟨_, if_pos ⟨rfl, hp⟩, rfl⟩

/-- Every run of atomic steps is an interleaving in which nobody is preempted. -/
theorem atomic_run_is_interleaving {p q : Plug} {actions : List Action}
    (hrun : atomic.run p actions = some q) :
    ∃ es, interleaved.run { plug := p } es = some { plug := q } := by
  induction actions generalizing p with
  | nil => exact ⟨[], by rw [Option.some.inj hrun]; rfl⟩
  | cons a actions ih =>
      obtain ⟨r, hr, hrun'⟩ := atomic.run_cons_eq_some.mp hrun
      obtain ⟨es, hes⟩ := atomic_is_unpreempted hr
      obtain ⟨fs, hfs⟩ := ih hrun'
      exact ⟨es ++ fs, interleaved.run_append_of_run hes hfs⟩

/-! ## what a step can do -/

/-- **Step lemma**: a step keeps the relay initialised, and unless it is a
command it leaves the relay alone, opens it, or applies the value in hand. -/
theorem step_cases {s t : Threads} {e : Event} (h : s.plug.RelayReady)
    (hstep : interleaved.step s e = some t) :
    t.plug.RelayReady ∧ (e.isCommand = false →
      (t.plug.relayIsOn = s.plug.relayIsOn ∨ t.plug.relayIsOn = false ∨
          s.matter.inHand = some t.plug.relayIsOn) ∧
        (t.matter.inHand = s.matter.inHand ∨ t.matter.inHand = none ∨
          t.matter.inHand = some s.plug.relayIsOn)) := by
  cases e with
  | buttonRelease =>
      simp only [interleaved, Option.ite_none_right_eq_some, Option.some.injEq] at hstep
      obtain ⟨-, rfl⟩ := hstep
      exact ⟨(Plug.relayReady_toggleRelay 0 s.plug).mpr h, fun hc => absurd hc (by decide)⟩
  | overPowerTrip =>
      simp only [interleaved, Option.ite_none_right_eq_some, Option.some.injEq] at hstep
      obtain ⟨-, rfl⟩ := hstep
      have hoff : (s.plug.relaySet 0 false).relayIsOn = false := Plug.relayIsOn_relaySet h false
      exact ⟨(Plug.relayReady_relaySet 0 false s.plug).mpr h,
        fun _ => ⟨Or.inr (Or.inl hoff), Or.inl rfl⟩⟩
  | scheduleLambda =>
      simp only [interleaved, Option.ite_none_right_eq_some, Option.some.injEq] at hstep
      obtain ⟨-, rfl⟩ := hstep
      exact ⟨h, fun _ => ⟨Or.inl rfl, Or.inl rfl⟩⟩
  | controllerWrite value =>
      simp only [interleaved, Option.ite_none_right_eq_some, Option.some.injEq] at hstep
      obtain ⟨-, rfl⟩ := hstep
      exact ⟨h, fun hc => absurd hc (by simp [Event.isCommand])⟩
  | writeCallback =>
      simp only [interleaved] at hstep
      split at hstep
      case h_2 => contradiction
      case h_1 value hpc =>
        cases Option.some.inj hstep
        have hv : (s.plug.onOffChanged 0 value).relayIsOn = value := by
          rw [Plug.onOffChanged_eq, Plug.relayIsOn_applyOnOff h]
        refine ⟨by simpa using h, fun _ => ⟨Or.inr (Or.inr ?_), Or.inr (Or.inl rfl)⟩⟩
        rw [hpc, hv]
        rfl
  | lambdaBegin =>
      simp only [interleaved, Option.ite_none_right_eq_some, Option.some.injEq] at hstep
      obtain ⟨-, rfl⟩ := hstep
      exact ⟨h, fun _ => ⟨Or.inl rfl, Or.inr (Or.inr rfl)⟩⟩
  | lambdaSet =>
      simp only [interleaved] at hstep
      split at hstep
      case h_2 => contradiction
      case h_1 value hpc =>
        cases Option.some.inj hstep
        have hv : (s.plug.onOffSet 0 value).relayIsOn = value :=
          congrArg Switch.closed (Plug.switch_onOffSet h value)
        refine ⟨Plug.relayReady_onOffSet h value,
          fun _ => ⟨Or.inr (Or.inr ?_), Or.inr (Or.inl rfl)⟩⟩
        rw [hpc, hv]
        rfl

/-- The relay stays configured in every run. -/
theorem relayReady_of_run {persisted : Bool} {es : List Event} {s : Threads}
    (hrun : interleaved.run (boot persisted) es = some s) : s.plug.RelayReady :=
  interleaved.run_invariant_of_step (P := fun s => s.plug.RelayReady)
    (fun _ _ _ h hstep => (step_cases h hstep).1) (Plug.relayReady_boot persisted) hrun

/-! ## a trip and a value in hand -/

/-- The relay is open and nothing in hand will close it. -/
structure HeldOpen (s : Threads) : Prop where
  ready : s.plug.RelayReady
  isOpen : s.plug.relayIsOn = false
  notClosing : s.matter.inHand ≠ some true

/-- Only a command ends it. -/
theorem HeldOpen.step {s t : Threads} {e : Event} (h : s.HeldOpen) (hc : e.isCommand = false)
    (hstep : interleaved.step s e = some t) : t.HeldOpen := by
  obtain ⟨hready, hcases⟩ := step_cases h.ready hstep
  obtain ⟨hrelay, hhand⟩ := hcases hc
  have hopen : t.plug.relayIsOn = false := by
    rcases hrelay with hsame | hoff | happlied
    · rw [hsame, h.isOpen]
    · exact hoff
    · by_contra hon
      rw [Bool.not_eq_false] at hon
      exact h.notClosing (hon ▸ happlied)
  have hnot : t.matter.inHand ≠ some true := by
    rcases hhand with hsame | hnone | hread
    · rw [hsame]; exact h.notClosing
    · rw [hnone]; simp
    · rw [hread, h.isOpen]; simp
  exact ⟨hready, hopen, hnot⟩

/-- The Matter thread can always finish the operation it has begun, and the
relay is then what was in its hand. -/
theorem finish_inHand {s : Threads} {value : Bool} (h : s.plug.RelayReady)
    (hhand : s.matter.inHand = some value) :
    ∃ e t, e.isCommand = false ∧ interleaved.step s e = some t ∧ t.plug.relayIsOn = value := by
  obtain ⟨plug, app, matter⟩ := s
  cases matter with
  | idle => simp [MatterPc.inHand] at hhand
  | lambdaSet v =>
      obtain rfl : v = value := Option.some.inj hhand
      exact ⟨.lambdaSet, _, rfl, rfl, congrArg Switch.closed (Plug.switch_onOffSet h v)⟩
  | writeCallback v =>
      obtain rfl : v = value := Option.some.inj hhand
      refine ⟨.writeCallback, _, rfl, rfl, ?_⟩
      simp only [Plug.onOffChanged_eq]
      exact Plug.relayIsOn_applyOnOff h v

/-- **When a trip lasts**: in every run, an over-power trip keeps the relay open
until the next command exactly when no lambda and no controller write that
began before the trip is still holding the value `true`. -/
theorem trip_lasts_iff (persisted : Bool) (es : List Event) (s t : Threads)
    (hrun : interleaved.run (boot persisted) es = some s)
    (htrip : interleaved.step s .overPowerTrip = some t) :
    (∀ fs u, interleaved.run t fs = some u → (∀ e ∈ fs, e.isCommand = false) →
      u.plug.relayIsOn = false) ↔ s.matter.inHand ≠ some true := by
  have hs := relayReady_of_run hrun
  have ht := (step_cases hs htrip).1
  have heq := htrip
  simp only [interleaved, Option.ite_none_right_eq_some, Option.some.injEq] at heq
  obtain ⟨-, rfl⟩ := heq
  constructor
  · intro hlasts hhand
    obtain ⟨e, u, hc, hstep, hon⟩ := finish_inHand ht hhand
    have hoff := hlasts [e] u (interleaved.run_cons_eq_some.mpr ⟨u, hstep, rfl⟩) (by simpa using hc)
    rw [hon] at hoff
    contradiction
  · intro hhand fs u hfs hc
    have hopen : HeldOpen { s with plug := s.plug.relaySet 0 false, app := .updateClusterState } :=
      ⟨ht, Plug.relayIsOn_relaySet hs false, hhand⟩
    exact (interleaved.run_invariant (P := HeldOpen) (Q := fun e => e.isCommand = false)
      (fun _ _ _ h hc hstep => h.step hc hstep) hopen hc hfs).isOpen

/-- One lambda has run, a second has begun on an open relay and a third is
pending, and the relay has been closed again. -/
def tripBetweenLambdas : List Event :=
  [.buttonRelease, .scheduleLambda, .lambdaBegin, .lambdaSet, .buttonRelease, .scheduleLambda,
    .lambdaBegin, .buttonRelease, .scheduleLambda]

/-- A trip then lasts: what is in hand opens the relay, and what is pending has
not read it yet. -/
theorem trip_lasts_between_lambdas :
    ∃ s t, interleaved.run (boot false) tripBetweenLambdas = some s ∧
      interleaved.step s .overPowerTrip = some t ∧
      s.plug.lambdas = 1 ∧ s.matter.inHand = some false ∧
      ∀ fs u, interleaved.run t fs = some u → (∀ e ∈ fs, e.isCommand = false) →
        u.plug.relayIsOn = false :=
  ⟨_, _, rfl, rfl, rfl, rfl,
    (trip_lasts_iff false tripBetweenLambdas _ _ rfl rfl).mpr (by decide)⟩

/-- A trip that falls between a lambda's `RelayIsOn()` and its `OnOff::Set` is
undone by it, and the trip's own lambda then reports the relay as on. -/
theorem stale_lambda_undoes_trip :
    ¬ ∀ persisted es s t, interleaved.run (boot persisted) es = some s →
      interleaved.step s .overPowerTrip = some t →
      ∀ fs u, interleaved.run t fs = some u → (∀ e ∈ fs, e.isCommand = false) →
        u.plug.relayIsOn = false := by
  intro h
  have hoff := h false [.buttonRelease, .scheduleLambda, .lambdaBegin] _ _ rfl rfl
    [.lambdaSet, .scheduleLambda, .lambdaBegin, .lambdaSet] _ rfl (by decide)
  contradiction

end Threads

end UascentPlug

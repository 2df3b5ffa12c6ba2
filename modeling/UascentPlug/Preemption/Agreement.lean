import UascentPlug.Interleaving
import UascentPlug.Preemption.Program

/-!
# UascentPlug.Preemption.Agreement

The app task, the Matter thread and the blink timer's interrupt, preempting
each other between any two instructions.  The interrupt runs to its end before
a thread goes on; the threads share the relay, the LEDs and the attribute
without a lock.

Half-done calls leave the relay pin, `RelayIsOn()`, the attribute and what the
LEDs were told in every combination.  What carries agreement through is the
order of the calls: on the app task the report is scheduled last, so while
none is due or pending nothing of the app task's is half done, and the Matter
thread's own half-done call, seen through to its end, writes all four
(`Settles`).  This rests on `OnOff::Set` running the post-change callback before
it returns, for an unchanged value as well: without it an interrupted press may
leave the pin off and everything else on.
-/

namespace UascentPlug

/-- The plug, what its two threads still have to run, and what is left of an
expiry of the blink timer. -/
structure Preempted where
  plug : Plug
  app : List Instr := []
  matter : List Instr := []
  isr : List LedInstr := []

/-- What can happen next. -/
inductive PreemptedEvent where
  /-- The app task dispatches a release of the button. -/
  | buttonRelease
  /-- The app task dispatches a poll that has counted enough samples. -/
  | checkOverPower
  /-- The Matter thread begins a controller's write. -/
  | controllerWrite (value : Bool)
  /-- The Matter thread handles a change of the device state. -/
  | networkState (state : NetworkLedState)
  | blinkTick
  /-- The Matter thread takes the next `UpdateClusterState` lambda. -/
  | lambdaBegin
  | appStep (err : Int)
  | matterStep
  | isrStep
  deriving DecidableEq

/-- The events that only carry on with what was begun or scheduled. -/
def PreemptedEvent.isInternal : PreemptedEvent → Bool
  | .lambdaBegin | .appStep _ | .matterStep | .isrStep => true
  | _ => false

/-- Two threads and an interrupt.  Relay writes on the app task may fail
(`err`), those on the Matter thread succeed. -/
def preemptive : Lts Preempted PreemptedEvent where
  step s
    | .buttonRelease =>
        if s.isr = [] ∧ s.app = [] then some { s with app := buttonProgram } else none
    | .checkOverPower => if s.isr = [] ∧ s.app = [] then some { s with app := [.trip] } else none
    | .controllerWrite value =>
        if s.isr = [] ∧ s.matter = [] then some { s with matter := [.onOffSet value] } else none
    | .networkState state =>
        if s.isr = [] ∧ s.matter = [] then
          some { s with matter := [.led (.statusLedSetNetworkState state)] }
        else none
    | .blinkTick =>
        if s.isr = [] ∧ s.plug.outputs.led.sBlinkTimer.isSome then
          some { s with isr := [.blinkTimerHandler] }
        else none
    | .lambdaBegin =>
        if s.isr = [] ∧ s.matter = [] ∧ 0 < s.plug.lambdas then
          some { s with
            plug := { s.plug with lambdas := s.plug.lambdas - 1 }
            matter := [.reportRelay] }
        else none
    | .appStep err =>
        match s.isr, s.app with
        | [], i :: is =>
            some { s with plug := (i.exec err s.plug).1, app := (i.exec err s.plug).2 ++ is }
        | _, _ => none
    | .matterStep =>
        match s.isr, s.matter with
        | [], i :: is =>
            some { s with plug := (i.exec 0 s.plug).1, matter := (i.exec 0 s.plug).2 ++ is }
        | _, _ => none
    | .isrStep =>
        match s.isr with
        | i :: is =>
            some { s with
              plug := Instr.withLed s.plug (i.exec s.plug.outputs.led).1
              isr := (i.exec s.plug.outputs.led).2 ++ is }
        | [] => none

/-! ## what two plugs have in common that differ in their LEDs -/

namespace Plug

/-- The relay pin, the attribute and what the LEDs were told are what
`RelayIsOn()` says. -/
structure Agree (p : Plug) : Prop where
  pin : p.outputs.relay.pin = p.relayIsOn
  onOff : p.onOff = p.relayIsOn
  told : p.outputs.led.sRelayOn = p.relayIsOn

/-- The same relay, attribute and state told to the LEDs. -/
structure SameLoad (p q : Plug) : Prop where
  relay : p.outputs.relay = q.outputs.relay
  onOff : p.onOff = q.onOff
  told : p.outputs.led.sRelayOn = q.outputs.led.sRelayOn

/-- Plugs of the same load have the relay in the same place. -/
theorem SameLoad.relayIsOn {p q : Plug} (h : p.SameLoad q) : p.relayIsOn = q.relayIsOn :=
  congrArg Relay.sOn h.relay

/-- Plugs of the same load agree alike. -/
theorem SameLoad.agree {p q : Plug} (h : p.SameLoad q) (hp : p.Agree) : q.Agree where
  pin := by rw [← h.relay, ← h.relayIsOn, hp.pin]
  onOff := by rw [← h.onOff, ← h.relayIsOn, hp.onOff]
  told := by rw [← h.told, ← h.relayIsOn, hp.told]

end Plug

/-- The relay state an LED instruction tells the LEDs, if it tells them one. -/
def LedInstr.tells : LedInstr → Option Bool
  | .statusLedSetRelayState relayOn | .storeRelayOn relayOn => some relayOn
  | _ => none

/-- Rendering does not change what the LEDs were told. -/
theorem StatusLed.sRelayOn_renderRgb (s : StatusLed) : s.renderRgb.sRelayOn = s.sRelayOn := by
  rw [renderRgb_eq]

/-- `StatusLedSetRelayState` tells the LEDs what it says. -/
theorem StatusLed.sRelayOn_setRelayState (s : StatusLed) (relayOn : Bool) :
    (s.statusLedSetRelayState relayOn).sRelayOn = relayOn := by
  unfold statusLedSetRelayState
  split
  · next h => exact h.symm
  · rw [sRelayOn_renderRgb]

/-- An instruction tells the LEDs what it has in hand, or nothing. -/
theorem LedInstr.sRelayOn_eval (i : LedInstr) (s : StatusLed) :
    (i.eval s).sRelayOn = i.tells.getD s.sRelayOn := by
  cases i with
  | statusLedSetRelayState relayOn => exact s.sRelayOn_setRelayState relayOn
  | statusLedSetNetworkState state =>
      simp only [eval, StatusLed.statusLedSetNetworkState]
      split
      · rfl
      · split
        · rfl
        · cases state <;> simp [StatusLed.sRelayOn_renderRgb, StatusLed.gpioPinSet, tells]
  | switchState state =>
      simp only [eval]
      split
      · rfl
      · cases state <;> simp [StatusLed.sRelayOn_renderRgb, StatusLed.gpioPinSet, tells]
  | blinkTimerHandler =>
      simp [eval, StatusLed.blinkTimerHandler, StatusLed.sRelayOn_renderRgb,
        StatusLed.gpioPinSet, tells]
  | renderRgb => exact s.sRelayOn_renderRgb
  | _ => rfl

namespace Plug

/-- The LEDs' instructions do not tell plugs of the same load apart. -/
theorem SameLoad.led {p q : Plug} (h : p.SameLoad q) (i : LedInstr) :
    (Instr.withLed p (i.eval p.outputs.led)).SameLoad
      (Instr.withLed q (i.eval q.outputs.led)) where
  relay := h.relay
  onOff := h.onOff
  told := by simp only [Instr.withLed, LedInstr.sRelayOn_eval, h.told]

/-- `RelaySet` keeps plugs of the same load so. -/
theorem SameLoad.relaySet {p q : Plug} (h : p.SameLoad q) (err : Int) (on : Bool) :
    (p.relaySet err on).SameLoad (q.relaySet err on) := by
  simp only [Plug.relaySet, Outputs.relaySet, h.relay]
  split
  · exact h
  · split
    · exact h
    · exact ⟨rfl, h.onOff, by simp only [StatusLed.sRelayOn_setRelayState]⟩

/-- So does `StatusLedSetRelayState`. -/
theorem SameLoad.statusLedSetRelayState {p q : Plug} (h : p.SameLoad q) (on : Bool) :
    (p.statusLedSetRelayState on).SameLoad (q.statusLedSetRelayState on) :=
  h.led (.statusLedSetRelayState on)

/-- So does the post-change callback. -/
theorem SameLoad.onOffChanged {p q : Plug} (h : p.SameLoad q) (err : Int) (value : Bool) :
    (p.onOffChanged err value).SameLoad (q.onOffChanged err value) := by
  simp only [onOffChanged_eq, applyOnOff]
  exact (h.relaySet err value).statusLedSetRelayState value

/-- So does a write to the attribute. -/
theorem SameLoad.onOffSet {p q : Plug} (h : p.SameLoad q) (err : Int) (value : Bool) :
    (p.onOffSet err value).SameLoad (q.onOffSet err value) :=
  have hstored : (p.storeOnOff value).SameLoad (q.storeOnOff value) := ⟨h.relay, rfl, h.told⟩
  hstored.onOffChanged err value

end Plug

/-- What an instruction makes of the load depends on the load alone. -/
theorem Plug.SameLoad.eval (err : Int) (i : Instr) (p q : Plug) (h : p.SameLoad q) :
    (i.eval err p).SameLoad (i.eval err q) := by
  cases i with
  | led i => exact h.led i
  | relaySet on => exact h.relaySet err on
  | relayPinSet on =>
      simp only [Instr.eval]
      split
      · exact h
      · exact ⟨by simp only [h.relay], h.onOff, by simp only [StatusLed.sRelayOn_setRelayState]⟩
  | storeOn on => exact ⟨by simp only [Instr.eval, h.relay], h.onOff, h.told⟩
  | relayToggle =>
      simp only [Instr.eval, h.relayIsOn]
      exact h.relaySet err _
  | indicateRelay =>
      simp only [Instr.eval, h.relayIsOn]
      exact h.statusLedSetRelayState _
  | trip =>
      simp only [Instr.eval, h.relayIsOn]
      split
      · exact ⟨(h.relaySet err false).relay, (h.relaySet err false).onOff,
          (h.relaySet err false).told⟩
      · exact h
  | updateClusterState => exact ⟨h.relay, h.onOff, h.told⟩
  | reportRelay =>
      simp only [Instr.eval, h.relayIsOn]
      exact h.onOffSet err _
  | onOffSet value => exact h.onOffSet err value
  | onOffChanged value => exact h.onOffChanged err value

/-- An `OnOff::Set` whose relay write succeeds makes all four agree. -/
theorem Plug.agree_onOffSet {p : Plug} (h : p.RelayReady) (value : Bool) :
    (p.onOffSet 0 value).Agree := by
  have hready : p.outputs.relay.sInitialised = true := h
  simp only [onOffSet, onOffChanged_eq, applyOnOff, storeOnOff, Plug.relaySet, Outputs.relaySet]
  rw [hready]
  exact ⟨rfl, rfl, StatusLed.sRelayOn_setRelayState _ value⟩

/-! ## what one instruction can do -/

namespace Instr

/-- An instruction leaves the relay driver initialised. -/
theorem relayReady_exec {err : Int} {p : Plug} (h : p.RelayReady) (i : Instr) :
    (i.exec err p).1.RelayReady := by
  cases i with
  | relaySet on =>
      simp only [exec]
      split <;> exact h
  | relayPinSet on =>
      simp only [exec]
      split <;> exact h
  | trip =>
      simp only [exec]
      split <;> exact h
  | _ => exact h

/-- Only `UpdateClusterState` schedules a report. -/
theorem lambdas_exec (err : Int) (p : Plug) (i : Instr) :
    (i.exec err p).1.lambdas = if i = .updateClusterState then p.lambdas + 1 else p.lambdas := by
  cases i with
  | relaySet on =>
      simp only [exec]
      split <;> rfl
  | relayPinSet on =>
      simp only [exec]
      split <;> rfl
  | trip =>
      simp only [exec]
      split <;> rfl
  | _ => rfl

end Instr

/-- The instructions a blink tick consists of: they drive pins and flip the phase. -/
def LedInstr.handles : LedInstr → Bool
  | .blinkTimerHandler | .renderRgb | .gpioPinSet _ _ | .pinSetBlinkOn _ | .pinSetRelayOn _ => true
  | _ => false

/-- An instruction of a blink tick tells the LEDs nothing, and leaves such
instructions. -/
theorem LedInstr.handles_exec {i : LedInstr} (h : i.handles = true) (s : StatusLed) :
    (i.exec s).1.sRelayOn = s.sRelayOn ∧ ∀ j ∈ (i.exec s).2, j.handles = true := by
  cases i with
  | renderRgb =>
      simp only [exec]
      split
      · simp
      · split <;> simp [handles]
  | blinkTimerHandler => simp [exec, handles]
  | gpioPinSet led on => simp [exec, StatusLed.gpioPinSet]
  | pinSetBlinkOn led => simp [exec, handles]
  | pinSetRelayOn led => simp [exec, handles]
  | _ => contradiction

/-! ## the invariant -/

namespace Preempted

/-- The plug of the two threads just after boot. -/
def boot (persisted : Bool) : Preempted := { plug := Plug.boot persisted }

/-- What the app task has left to run ends in a report, unless it is at the
check whether to trip. -/
def ReportsLast (app : List Instr) : Prop :=
  app = [] ∨ app = [.trip] ∨ ∃ is, app = is ++ [.updateClusterState]

/-- While no report is due or pending, the Matter thread's call, seen through to
its end, makes everything agree. -/
structure Settles (s : Preempted) : Prop where
  ready : s.plug.RelayReady
  handler : ∀ i ∈ s.isr, i.handles = true
  reportsLast : ReportsLast s.app
  agree : s.plug.lambdas = 0 → .updateClusterState ∉ s.app →
    (Program.evalAll (Instr.eval 0) s.matter s.plug).Agree

/-- The app task's next instruction: if no report is due after it, it was the
check, and the relay was open. -/
theorem ReportsLast.exec {i : Instr} {is : List Instr} (h : ReportsLast (i :: is)) (err : Int)
    (p : Plug) :
    ReportsLast ((i.exec err p).2 ++ is) ∧
      (.updateClusterState ∉ (i.exec err p).2 ++ is → (i.exec err p).1.lambdas = 0 →
        (i.exec err p).1 = p ∧ .updateClusterState ∉ i :: is) := by
  obtain hnil | htrip | ⟨js, hjs⟩ := h
  · contradiction
  · obtain ⟨rfl, rfl⟩ := List.cons.inj htrip
    simp only [Instr.exec]
    split
    · exact ⟨Or.inr (Or.inr ⟨[.relaySet false], rfl⟩), fun hnot => absurd hnot (by simp)⟩
    · exact ⟨Or.inl rfl, fun _ _ => ⟨rfl, by simp⟩⟩
  · cases js with
    | nil =>
        obtain ⟨rfl, rfl⟩ := List.cons.inj hjs
        exact ⟨Or.inl rfl, fun _ h0 => absurd h0 (Nat.succ_ne_zero _)⟩
    | cons j js =>
        obtain ⟨rfl, rfl⟩ := List.cons.inj hjs
        refine ⟨Or.inr (Or.inr ⟨(i.exec err p).2 ++ js, by simp⟩), fun hnot => ?_⟩
        exact absurd (by simp) hnot

/-- A plug that has booted agrees. -/
theorem settles_boot (persisted : Bool) : (boot persisted).Settles where
  ready := Plug.relayReady_boot persisted
  handler := by simp [boot]
  reportsLast := Or.inl rfl
  agree := fun _ _ => by cases persisted <;> exact ⟨rfl, rfl, rfl⟩

/-- **Step lemma**: nothing that is done between two instructions breaks it. -/
theorem Settles.step {s t : Preempted} {e : PreemptedEvent} (h : s.Settles)
    (hstep : preemptive.step s e = some t) : t.Settles := by
  obtain ⟨plug, app, matter, isr⟩ := s
  obtain ⟨hready, hhandler, hlast, hagree⟩ := h
  cases e with
  | buttonRelease =>
      simp only [preemptive, Option.ite_none_right_eq_some, Option.some.injEq] at hstep
      obtain ⟨-, rfl⟩ := hstep
      exact ⟨hready, hhandler, Or.inr (Or.inr ⟨[.relayToggle, .indicateRelay], rfl⟩),
        fun _ hnot => absurd hnot (by simp [buttonProgram])⟩
  | checkOverPower =>
      simp only [preemptive, Option.ite_none_right_eq_some, Option.some.injEq] at hstep
      obtain ⟨⟨-, rfl⟩, rfl⟩ := hstep
      exact ⟨hready, hhandler, Or.inr (Or.inl rfl), fun h0 _ => hagree h0 (by simp)⟩
  | controllerWrite value =>
      simp only [preemptive, Option.ite_none_right_eq_some, Option.some.injEq] at hstep
      obtain ⟨-, rfl⟩ := hstep
      exact ⟨hready, hhandler, hlast, fun _ _ => Plug.agree_onOffSet hready value⟩
  | networkState state =>
      simp only [preemptive, Option.ite_none_right_eq_some, Option.some.injEq] at hstep
      obtain ⟨⟨-, rfl⟩, rfl⟩ := hstep
      refine ⟨hready, hhandler, hlast, fun h0 hnot => ?_⟩
      have htold := LedInstr.sRelayOn_eval (.statusLedSetNetworkState state) plug.outputs.led
      have hsame : plug.SameLoad (Instr.withLed plug
          ((LedInstr.statusLedSetNetworkState state).eval plug.outputs.led)) :=
        ⟨rfl, rfl, htold.symm⟩
      exact hsame.agree (hagree h0 hnot)
  | blinkTick =>
      simp only [preemptive, Option.ite_none_right_eq_some, Option.some.injEq] at hstep
      obtain ⟨-, rfl⟩ := hstep
      exact ⟨hready, by simp [LedInstr.handles], hlast, hagree⟩
  | lambdaBegin =>
      simp only [preemptive, Option.ite_none_right_eq_some, Option.some.injEq] at hstep
      obtain ⟨-, rfl⟩ := hstep
      have hready' : ({ plug with lambdas := plug.lambdas - 1 } : Plug).RelayReady := hready
      exact ⟨hready, hhandler, hlast, fun _ _ => Plug.agree_onOffSet hready' _⟩
  | appStep err =>
      simp only [preemptive] at hstep
      split at hstep
      case h_2 => contradiction
      case h_1 i is =>
        cases Option.some.inj hstep
        obtain ⟨hlast', hidle⟩ := hlast.exec err plug
        refine ⟨Instr.relayReady_exec hready i, hhandler, hlast', fun h0 hnot => ?_⟩
        obtain ⟨hsame, hnot'⟩ := hidle hnot h0
        rw [hsame] at h0 ⊢
        exact hagree h0 hnot'
  | matterStep =>
      simp only [preemptive] at hstep
      split at hstep
      case h_2 => contradiction
      case h_1 i is =>
        cases Option.some.inj hstep
        refine ⟨Instr.relayReady_exec hready i, hhandler, hlast, fun h0 hnot => ?_⟩
        have h0' : plug.lambdas = 0 := by
          have hle := (Instr.lambdas_exec 0 plug i).symm.trans h0
          split at hle <;> omega
        have hval := (evaluates_program 0).evalAll_exec i is plug
        simp only [program] at hval
        rw [hval]
        exact hagree h0' hnot
  | isrStep =>
      simp only [preemptive] at hstep
      split at hstep
      case h_2 => contradiction
      case h_1 i is =>
        cases Option.some.inj hstep
        obtain ⟨htold, hleft⟩ := LedInstr.handles_exec (hhandler i (by simp)) plug.outputs.led
        refine ⟨hready, fun j hj => ?_, hlast, fun h0 hnot => ?_⟩
        · exact (List.mem_append.mp hj).elim (hleft j) (fun hj' => hhandler j (by simp [hj']))
        · have hsame : plug.SameLoad (Instr.withLed plug (i.exec plug.outputs.led).1) :=
            ⟨rfl, rfl, htold.symm⟩
          exact (Program.evalAll_rel (Plug.SameLoad.eval 0) matter hsame).agree (hagree h0 hnot)

/-! ## carrying on ends -/

/-- Nothing that was begun or scheduled is left to do. -/
structure Quiescent (s : Preempted) : Prop where
  app : s.app = []
  matter : s.matter = []
  isr : s.isr = []
  lambdas : s.plug.lambdas = 0

/-- What settles agrees once nothing is left to do. -/
theorem Settles.quiescent {s : Preempted} (h : s.Settles) (hq : s.Quiescent) : s.plug.Agree := by
  have hagree := h.agree hq.lambdas (by simp [hq.app])
  rwa [hq.matter] at hagree

/-- What is left to run, a pending report counted with the call it will be. -/
def measure (s : Preempted) : Nat :=
  Program.weigh Instr.weight s.app + Program.weigh Instr.weight s.matter +
    Program.weigh LedInstr.weight s.isr + 25 * s.plug.lambdas

/-- An instruction of a thread makes up for the report it may schedule. -/
theorem weigh_exec_add_lambdas_lt (err : Int) (p : Plug) (i : Instr) (is : List Instr) :
    Program.weigh Instr.weight ((i.exec err p).2 ++ is) + 25 * (i.exec err p).1.lambdas <
      Program.weigh Instr.weight (i :: is) + 25 * p.lambdas := by
  have hlt := (terminates_program err).weigh_exec i is p
  simp only [program] at hlt
  rw [Instr.lambdas_exec]
  split
  · next h =>
      subst h
      simp only [Instr.exec, List.nil_append, Program.weigh_cons, Instr.weight]
      omega
  · omega

/-- Carrying on comes closer to an end. -/
theorem measure_step {s t : Preempted} {e : PreemptedEvent} (he : e.isInternal = true)
    (hstep : preemptive.step s e = some t) : t.measure < s.measure := by
  obtain ⟨plug, app, matter, isr⟩ := s
  cases e with
  | lambdaBegin =>
      simp only [preemptive, Option.ite_none_right_eq_some, Option.some.injEq] at hstep
      obtain ⟨⟨-, rfl, hpos⟩, rfl⟩ := hstep
      simp only [measure, Program.weigh_cons, Program.weigh_nil, Instr.weight]
      omega
  | appStep err =>
      simp only [preemptive] at hstep
      split at hstep
      case h_2 => contradiction
      case h_1 i is =>
        cases Option.some.inj hstep
        have hlt := weigh_exec_add_lambdas_lt err plug i is
        simp only [measure]
        omega
  | matterStep =>
      simp only [preemptive] at hstep
      split at hstep
      case h_2 => contradiction
      case h_1 i is =>
        cases Option.some.inj hstep
        have hlt := weigh_exec_add_lambdas_lt 0 plug i is
        simp only [measure]
        omega
  | isrStep =>
      simp only [preemptive] at hstep
      split at hstep
      case h_2 => contradiction
      case h_1 i is =>
        cases Option.some.inj hstep
        have hlt := terminates_ledProgram.weigh_exec i is plug.outputs.led
        simp only [ledProgram] at hlt
        simp only [measure, Instr.withLed]
        omega
  | _ => simp [PreemptedEvent.isInternal] at he

/-- What cannot carry on has nothing left to do. -/
theorem quiescent_of_stuck {s : Preempted}
    (h : ∀ e, e.isInternal = true → preemptive.step s e = none) : s.Quiescent := by
  obtain ⟨plug, app, matter, isr⟩ := s
  cases isr with
  | cons i is => simpa [preemptive] using h .isrStep rfl
  | nil =>
      cases app with
      | cons i is => simpa [preemptive] using h (.appStep 0) rfl
      | nil =>
          cases matter with
          | cons i is => simpa [preemptive] using h .matterStep rfl
          | nil => exact ⟨rfl, rfl, rfl, by simpa [preemptive] using h .lambdaBegin rfl⟩

/-! ## coarser views are runs of this one -/

/-- Where a thread of the coarser view is, as what it still has to run. -/
def ofThreads (s : Threads) : Preempted where
  plug := s.plug
  app :=
    match s.app with
    | .idle => []
    | .updateClusterState => [.updateClusterState]
  matter :=
    match s.matter with
    | .idle => []
    | .lambdaSet value => [.onOffSet value]
    | .writeCallback value => [.onOffChanged value]

/-- The app task alone runs what it has to, up to its report. -/
theorem run_app (err : Int) (s : Preempted) (hisr : s.isr = []) (is js : List Instr) :
    ∃ n, preemptive.run { s with app := is ++ js } (List.replicate n (.appStep err)) =
      some { s with plug := Program.evalAll (Instr.eval err) is s.plug, app := js } := by
  obtain ⟨plug, app, matter, isr⟩ := s
  cases hisr
  exact (evaluates_program err).run_alone (terminates_program err) (L := preemptive)
    (f := fun p is => ⟨p, is ++ js, matter, []⟩) (e := .appStep err)
    (fun p i is => by simp [preemptive, program]) plug is

/-- The Matter thread alone runs what it has to. -/
theorem run_matter (s : Preempted) (hisr : s.isr = []) (is : List Instr) :
    ∃ n, preemptive.run { s with matter := is } (List.replicate n .matterStep) =
      some { s with plug := Program.evalAll (Instr.eval 0) is s.plug, matter := [] } := by
  obtain ⟨plug, app, matter, isr⟩ := s
  cases hisr
  exact (evaluates_program 0).run_alone (terminates_program 0) (L := preemptive)
    (f := fun p is => ⟨p, app, is, []⟩) (e := .matterStep)
    (fun p i is => by simp [preemptive, program]) plug is

/-- A step of the coarser view is a run in which no half of a path is preempted. -/
theorem interleaved_step {s t : Threads} {e : Event} (hstep : interleaved.step s e = some t) :
    ∃ es, preemptive.run (ofThreads s) es = some (ofThreads t) := by
  obtain ⟨plug, app, matter⟩ := s
  cases e with
  | buttonRelease =>
      simp only [interleaved, Option.ite_none_right_eq_some, Option.some.injEq] at hstep
      obtain ⟨rfl, rfl⟩ := hstep
      obtain ⟨n, hn⟩ := run_app 0 (ofThreads ⟨plug, .idle, matter⟩) rfl
        [.relayToggle, .indicateRelay] [.updateClusterState]
      refine ⟨.buttonRelease :: List.replicate n (.appStep 0),
        preemptive.run_cons_eq_some.mpr ⟨_, ?_, hn⟩⟩
      simp [preemptive, ofThreads, buttonProgram]
  | overPowerTrip =>
      simp only [interleaved, Option.ite_none_right_eq_some, Option.some.injEq] at hstep
      obtain ⟨⟨rfl, hon⟩, rfl⟩ := hstep
      obtain ⟨n, hn⟩ := run_app 0 (ofThreads ⟨plug, .idle, matter⟩) rfl
        [.relaySet false] [.updateClusterState]
      refine ⟨.checkOverPower :: .appStep 0 :: List.replicate n (.appStep 0),
        preemptive.run_cons_eq_some.mpr ⟨{ ofThreads ⟨plug, .idle, matter⟩ with app := [.trip] },
          by simp [preemptive, ofThreads], preemptive.run_cons_eq_some.mpr ⟨_, ?_, hn⟩⟩⟩
      simp [preemptive, ofThreads, Instr.exec, hon]
  | scheduleLambda =>
      simp only [interleaved, Option.ite_none_right_eq_some, Option.some.injEq] at hstep
      obtain ⟨rfl, rfl⟩ := hstep
      exact ⟨[.appStep 0], rfl⟩
  | controllerWrite value =>
      simp only [interleaved, Option.ite_none_right_eq_some, Option.some.injEq] at hstep
      obtain ⟨rfl, rfl⟩ := hstep
      exact ⟨[.controllerWrite value, .matterStep], rfl⟩
  | writeCallback =>
      cases matter with
      | writeCallback value =>
          cases Option.some.inj hstep
          obtain ⟨n, hn⟩ := run_matter (ofThreads ⟨plug, app, .writeCallback value⟩) rfl
            [.onOffChanged value]
          exact ⟨_, hn⟩
      | _ => contradiction
  | lambdaBegin =>
      simp only [interleaved, Option.ite_none_right_eq_some, Option.some.injEq] at hstep
      obtain ⟨⟨rfl, hpos⟩, rfl⟩ := hstep
      refine ⟨[.lambdaBegin, .matterStep], ?_⟩
      simp [Lts.run, preemptive, ofThreads, Instr.exec, Plug.relayIsOn, hpos]
  | lambdaSet =>
      cases matter with
      | lambdaSet value =>
          cases Option.some.inj hstep
          obtain ⟨n, hn⟩ := run_matter (ofThreads ⟨plug, app, .lambdaSet value⟩) rfl
            [.onOffSet value]
          exact ⟨_, hn⟩
      | _ => contradiction

/-- Every run of the coarser view, and so every run of atomic steps, is a run
instruction by instruction. -/
theorem interleaved_run {s t : Threads} {es : List Event}
    (hrun : interleaved.run s es = some t) :
    ∃ fs, preemptive.run (ofThreads s) fs = some (ofThreads t) := by
  induction es generalizing s with
  | nil => exact ⟨[], by rw [Option.some.inj hrun]; rfl⟩
  | cons e es ih =>
      obtain ⟨u, hu, hrun'⟩ := interleaved.run_cons_eq_some.mp hrun
      obtain ⟨fs, hfs⟩ := interleaved_step hu
      obtain ⟨gs, hgs⟩ := ih hrun'
      exact ⟨fs ++ gs, preemptive.run_append_of_run hfs hgs⟩

/-! ## agreement -/

/-- Wherever the threads have been preempted, what they were about settles. -/
theorem settles_of_run {persisted : Bool} {es fs : List PreemptedEvent} {s t : Preempted}
    (hrun : preemptive.run (boot persisted) es = some s) (hrun' : preemptive.run s fs = some t) :
    t.Settles :=
  preemptive.run_invariant_of_step (fun _ _ _ h hstep => h.step hstep) (settles_boot persisted)
    (preemptive.run_append_of_run hrun hrun')

/-- **Agreement under preemption**: however the two threads and the blink timer
preempt each other between two instructions, whenever nothing is left to do
relay pin, `RelayIsOn()`, attribute and the state told to the LEDs agree; and
from wherever they are, carrying on ends there.  The runs of the two-step view
and of the atomic one are among these. -/
theorem agreement_under_preemption (persisted : Bool) :
    (∀ es s, preemptive.run (boot persisted) es = some s →
      (s.Quiescent → s.plug.Agree) ∧
        ∃ n, ∀ fs t, preemptive.run s fs = some t → (∀ e ∈ fs, e.isInternal = true) →
          fs.length ≤ n ∧
            ((∀ e, e.isInternal = true → preemptive.step t e = none) →
              t.Quiescent ∧ t.plug.Agree)) ∧
      (∀ es t, interleaved.run (Threads.boot persisted) es = some t →
        ∃ fs, preemptive.run (boot persisted) fs = some (ofThreads t)) ∧
      ∀ actions q, atomic.run (Plug.boot persisted) actions = some q →
        ∃ fs, preemptive.run (boot persisted) fs = some { plug := q } := by
  refine ⟨fun es s hrun => ?_, fun es t hrun => interleaved_run hrun, fun actions q hrun => ?_⟩
  · have hs : s.Settles := settles_of_run hrun (preemptive.run_nil s)
    refine ⟨hs.quiescent, s.measure, fun fs t hfs hinternal => ⟨?_, fun hstuck => ?_⟩⟩
    · have hle := preemptive.length_add_le (fun _ _ _ he hstep => measure_step he hstep)
        hinternal hfs
      omega
    · have hq := quiescent_of_stuck hstuck
      exact ⟨hq, (settles_of_run hrun hfs).quiescent hq⟩
  · obtain ⟨es, hes⟩ := Threads.atomic_run_is_interleaving hrun
    exact interleaved_run hes

/-- The button is released on a plug that is on; before the app task stores what
it drove onto the pin, a controller's write of `true` runs from end to end. -/
def pressPreemptedByWrite : List PreemptedEvent :=
  [.buttonRelease, .appStep 0, .appStep 0, .appStep 0, .controllerWrite true] ++
    List.replicate 7 .matterStep ++ List.replicate 11 (.appStep 0) ++ [.lambdaBegin] ++
    List.replicate 8 .matterStep

/-- Once the report has run, the plug is off in every place. -/
theorem agreement_after_preempted_press :
    ∃ s, preemptive.run (boot true) pressPreemptedByWrite = some s ∧ s.Quiescent ∧
      s.plug.relayIsOn = false ∧ s.plug.Agree :=
  ⟨_, rfl, ⟨rfl, rfl, rfl, rfl⟩, rfl,
    ((agreement_under_preemption true).1 pressPreemptedByWrite _ rfl).1 ⟨rfl, rfl, rfl, rfl⟩⟩

/-- The green LED does not take part: it is driven from two threads, and a value
read before the relay was opened may be driven after. -/
theorem green_may_lie_at_rest :
    ¬ ∀ persisted es s, preemptive.run (boot persisted) es = some s → s.Quiescent →
      s.plug.outputs.led.sNetworkState = .paired →
      s.plug.outputs.led.pin .green = s.plug.relayIsOn := by
  intro h
  have hgreen := h false
    (.networkState .paired :: List.replicate 11 .matterStep ++
      .buttonRelease :: List.replicate 9 (.appStep 0) ++
      .controllerWrite false :: List.replicate 13 .matterStep ++
      List.replicate 5 (.appStep 0) ++ .lambdaBegin :: List.replicate 8 .matterStep)
    _ rfl ⟨rfl, rfl, rfl, rfl⟩ rfl
  exact absurd hgreen (by decide)

end Preempted

end UascentPlug

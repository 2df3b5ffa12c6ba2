import UascentPlug.Preemption.Movers

/-!
# UascentPlug.Preemption.Atomic

A preempted poll may be taken for one event.  What falls into a poll before the
one step that touches the same part of the state moves in front of the poll,
what falls into it later moves behind it (`polls_are_atomic`).  So what is
proved of `UascentPlug.firmware`, which runs a poll in one piece, holds of the
boots of a plug whose polls are interrupted, whenever no poll is running.
-/

namespace UascentPlug

namespace Polling

variable {cfg : Option OverPowerConfig} {e : FirmwareEvent}

/-! ## a poll as an operation -/

/-- A step of a poll opens it or comes at its place in it. -/
theorem pollStep_stages {f : Firmware} {pc : MeterPc} {d : PollingEvent} {t : Polling}
    (h : PollStep cfg f pc d t) :
    (d.opens = true ↔ pc.busy = false) ∧ (t.pc.busy = true → pc.stage ≤ t.pc.stage ∧
      d.stage < t.pc.stage) ∧ (d.opens = true → d.stage < t.pc.stage) ∧
      (d.stage = pc.stage ∨ d.opens = true ∨ ∃ ms, d = .lag ms) := by
  cases h with
  | @measureCf1 windowMs cf1Pulses rate hrate =>
      cases (f.meter.sCf1Filter.push rate).2.isSome with
      | true => simp [PollingEvent.opens, MeterPc.busy, PollingEvent.stage, MeterPc.stage]
      | false => simp [PollingEvent.opens, MeterPc.busy, PollingEvent.stage, MeterPc.stage]
  | @lag pc ms hbusy =>
      cases pc with
      | idle => contradiction
      | _ => simp [PollingEvent.opens, MeterPc.busy, PollingEvent.stage, MeterPc.stage]
  | _ => simp [PollingEvent.opens, MeterPc.busy, PollingEvent.stage, MeterPc.stage]

/-- What passes a running poll does so at any step and leaves it where it is. -/
theorem step_outside_busy {s t : Polling} (hbusy : s.pc.busy = true)
    (hstep : (polling cfg).step s (.outside e) = some t) : e.preempts = true ∧ t.pc = s.pc := by
  simp only [polling, Option.ite_none_right_eq_some, Option.map_eq_some_iff] at hstep
  obtain ⟨hadmits, g, -, rfl⟩ := hstep
  refine ⟨?_, rfl⟩
  unfold admits at hadmits
  cases hpc : s.pc with
  | idle =>
      rw [hpc] at hbusy
      contradiction
  | _ => simpa [hpc] using hadmits

/-- `MeterPoll` as an operation of several steps. -/
def meterPoll (cfg : Option OverPowerConfig) : Operation (polling cfg) (published cfg) where
  busy s := s.pc.busy
  own := PollingEvent.own
  opens := PollingEvent.opens
  passes
    | .outside e => e.preempts
    | _ => false
  stage := PollingEvent.stage
  next s := s.pc.stage
  opens_iff := fun _ _ _ hown hstep => (pollStep_stages (pollStep_of_step hown hstep)).1
  own_of_opens := by
    intro a hopens
    cases a with
    | start => rfl
    | _ => contradiction
  next_open := by
    intro s a t hopens hstep
    cases a with
    | start => exact (pollStep_stages (pollStep_of_step rfl hstep)).2.2.1 rfl
    | _ => contradiction
  next_own := fun _ _ _ hown _ hstep hbusy' =>
    (pollStep_stages (pollStep_of_step hown hstep)).2.1 hbusy'
  next_outside := by
    intro s x t hx hbusy hstep
    cases x with
    | outside e =>
        obtain ⟨hpreempts, hpc⟩ := step_outside_busy hbusy hstep
        simp only [hpc]
        exact ⟨hpreempts, hbusy, trivial⟩
    | _ => contradiction
  early := by
    intro x d hx hown hlt
    cases x with
    | outside e => exact (movesLeft_of_ne hx hown (Nat.ne_of_lt hlt)).1
    | _ => contradiction
  late := by
    intro s a t x hown hbusy hstep hx hlt
    obtain ⟨hopens, -, -, hplace⟩ := pollStep_stages (pollStep_of_step hown hstep)
    cases x with
    | outside e =>
        rcases hplace with hplace | hplace | ⟨ms, rfl⟩
        · rw [← hplace] at hlt
          exact (movesLeft_of_ne hx hown (Nat.ne_of_gt hlt)).2
        · rw [hopens.mp hplace] at hbusy
          contradiction
        · exact lag_movesLeft hx ms
    | _ => contradiction
  apart := by
    intro x y hx hy hlt
    cases x with
    | outside e =>
        cases y with
        | outside e' => exact outside_movesLeft hx hy hlt
        | _ => contradiction
    | _ => contradiction

end Polling

/-! ## polls in one piece -/

/-- What comes to the app task, or does not concern it. -/
def FirmwareEvent.external : FirmwareEvent → Option FirmwareEvent
  | .dispatch _ => none
  | e => some e

def PollingEvent.external : PollingEvent → Option FirmwareEvent
  | .outside e => e.external
  | _ => none

namespace Polling

variable {cfg : Option OverPowerConfig}

/-- A preempted poll that is over did what the task does in one piece. -/
theorem dispatch_of_run {f : Firmware} {s : Polling} {ds : List PollingEvent}
    (hds : ∀ d ∈ ds, d.own = true ∧ d.opens = false)
    (hrun : (polling cfg).run { firmware := f } (.start :: ds) = some s) (hidle : s.pc = .idle) :
    ∃ a, (UascentPlug.firmware cfg).step f (.dispatch a) = some s.firmware ∧
      f.published cfg (.dispatch a) =
        (polling cfg).feed (published cfg) { firmware := f } (.start :: ds) := by
  obtain ⟨t, hstart, hrest⟩ := (polling cfg).run_cons_eq_some.mp hrun
  obtain ⟨a, hvalue⟩ := value_run hds hrest hidle
  refine ⟨a, ?_⟩
  rw [(polling cfg).feed_cons hstart]
  cases pollStep_of_step rfl hstart with
  | @start tasks happ htasks =>
      have happ' : f.app = .dispatching := happ
      have htasks' : f.tasks = .meterPoll :: tasks := htasks
      have hwhole := value_start cfg a { f with tasks := tasks }
      rw [hwhole, Prod.mk.injEq] at hvalue
      obtain ⟨hend, hfed⟩ := hvalue
      constructor
      · have hnext : f.nextTask = some (.meterPoll, { f with tasks := tasks }) := by
          unfold Firmware.nextTask
          rw [happ', htasks']
        simp only [UascentPlug.firmware, hnext, Option.map_some, Firmware.runTask, hend]
      · simp only [Firmware.published, htasks', List.head?_cons]
        exact hfed

/-- The firmware with its polls in one piece. -/
def serial (cfg : Option OverPowerConfig) :
    (meterPoll cfg).Serial Firmware FirmwareEvent FirmwareEvent where
  lts := UascentPlug.firmware cfg
  emits := Firmware.published cfg
  rest f := { firmware := f }
  view := PollingEvent.external
  view' := FirmwareEvent.external
  ok e := e.cutsPower = false
  idle := fun _ => rfl
  unseen := by
    intro a hown
    cases a with
    | outside e => contradiction
    | _ => rfl
  outside := by
    intro f x s hx hstep
    cases x with
    | outside e =>
        simp only [polling, Option.ite_none_right_eq_some, Option.map_eq_some_iff] at hstep
        obtain ⟨hadmits, g, hg, rfl⟩ := hstep
        simp only [admits, Bool.and_eq_true, Bool.not_eq_true'] at hadmits
        exact ⟨e, g, rfl, hadmits.1, hg, rfl, rfl⟩
    | _ => contradiction
  operation := by
    intro f o ds s hopens hds hrun hidle
    cases o with
    | start =>
        have hpc : s.pc = .idle := by
          cases hpc : s.pc with
          | idle => rfl
          | _ => simp [meterPoll, MeterPc.busy, hpc] at hidle
        obtain ⟨a, hstep, hfed⟩ := dispatch_of_run hds hrun hpc
        refine ⟨.dispatch a, s.firmware, ?_, rfl, hstep, hfed, rfl⟩
        obtain ⟨f', pc⟩ := s
        simp only at hpc
        rw [hpc]
    | _ => contradiction

/-- Left alone, the poll ends. -/
def Ends (cfg : Option OverPowerConfig) (s : Polling) : Prop :=
  ∃ ds t, (∀ d ∈ ds, d.own = true ∧ d.opens = false) ∧ (polling cfg).run s ds = some t ∧
    t.pc = .idle

/-- A poll ends if it does from its next step on. -/
theorem ends_of_step {s t : Polling} {d : PollingEvent} (hown : d.own = true)
    (hopens : d.opens = false) (hstep : (polling cfg).step s d = some t) (h : Ends cfg t) :
    Ends cfg s := by
  obtain ⟨ds, u, hds, hrun, hidle⟩ := h
  refine ⟨d :: ds, u, ?_, (polling cfg).run_cons_eq_some.mpr ⟨t, hstep, hrun⟩, hidle⟩
  intro d' hd'
  cases hd' with
  | head => exact ⟨hown, hopens⟩
  | tail _ hd' => exact hds d' hd'

/-- A poll that is over has ended. -/
theorem ends_idle (f : Firmware) : Ends cfg { firmware := f } :=
  ⟨[], _, by simp, rfl, rfl⟩

/-- The call of the measurement module is the end. -/
theorem ends_publish (f : Firmware) : Ends cfg { firmware := f, pc := .publish } :=
  ends_of_step (d := .publish 0 .noError) rfl rfl rfl (ends_idle _)

/-- After the CF1 sample come SEL, or not, and the end. -/
theorem ends_measureCf1 (f : Firmware) (windowMs : Int) (cf1Pulses : UInt32) :
    Ends cfg { firmware := f, pc := .measureCf1 windowMs cf1Pulses } := by
  apply ends_of_step (d := .measureCf1) rfl rfl rfl
  cases (f.meter.sCf1Filter.push (Meter.countsPerSec cf1Pulses windowMs)).2.isSome with
  | true => exact ends_of_step (d := .setSel) rfl rfl rfl (ends_publish _)
  | false => exact ends_publish _

/-- After the CF sample comes the CF1 sample, or the end. -/
theorem ends_measureCf (f : Firmware) (windowMs : Int) (cfPulses cf1Pulses : UInt32) :
    Ends cfg { firmware := f, pc := .measureCf windowMs cfPulses cf1Pulses } := by
  by_cases hwindow : windowMs ≤ 0
  · exact ends_of_step (d := .measureCf 0) rfl rfl (if_pos hwindow) (ends_idle _)
  · exact ends_of_step (d := .measureCf 0) rfl rfl (if_neg hwindow) (ends_measureCf1 _ _ _)

/-- After the swaps comes the CF sample. -/
theorem ends_takeCf1 (f : Firmware) (windowMs : Int) (cfPulses : UInt32) :
    Ends cfg { firmware := f, pc := .takeCf1 windowMs cfPulses } :=
  ends_of_step (d := .takeCf1) rfl rfl rfl (ends_measureCf _ _ _ _)

/-- Wherever a poll has come to, it can end. -/
theorem exists_finish (s : Polling) : Ends cfg s := by
  obtain ⟨f, pc⟩ := s
  cases pc with
  | idle => exact ends_idle f
  | takeCf windowMs =>
      exact ends_of_step (d := .takeCf) rfl rfl rfl (ends_takeCf1 _ windowMs _)
  | takeCf1 windowMs cfPulses => exact ends_takeCf1 f windowMs cfPulses
  | measureCf windowMs cfPulses cf1Pulses => exact ends_measureCf f windowMs cfPulses cf1Pulses
  | measureCf1 windowMs cf1Pulses => exact ends_measureCf1 f windowMs cf1Pulses
  | setSel => exact ends_of_step (d := .setSel) rfl rfl rfl (ends_publish _)
  | publish => exact ends_publish f

end Polling

/-- **Polls are atomic.**  In every boot in which the pulse counters, the
timers, the board layer and the Matter thread interrupt polls between any two of
their steps, and time passes in them: whenever no poll is running, the firmware is
where a boot with polls in one piece is, which published the same and in which
the same events came to the app task.  A poll that is running can always end. -/
theorem polls_are_atomic (cfg : Option OverPowerConfig) (answers : StartAnswers)
    (kvs : Option Int) (onOff : Bool) (es : List PollingEvent) (s : Polling)
    (hrun : (polling cfg).run { firmware := .powerOn answers kvs onOff } es = some s) :
    (s.pc = .idle → ∃ as, (∀ a ∈ as, a.cutsPower = false) ∧
        (firmware cfg).run (.powerOn answers kvs onOff) as = some s.firmware ∧
        (firmware cfg).feed (Firmware.published cfg) (.powerOn answers kvs onOff) as =
          (polling cfg).feed (Polling.published cfg)
            { firmware := .powerOn answers kvs onOff } es ∧
        (as.filterMap FirmwareEvent.external).Perm (es.filterMap PollingEvent.external)) ∧
      ∃ ds t, (∀ d ∈ ds, d.own = true ∧ d.opens = false) ∧ (polling cfg).run s ds = some t ∧
        t.pc = .idle := by
  refine ⟨fun hidle => ?_, s.exists_finish⟩
  have hbusy : (Polling.meterPoll cfg).busy s = false := by
    simp [Polling.meterPoll, hidle, MeterPc.busy]
  obtain ⟨g, as, rfl, hrun', hcut, hfeed, hperm⟩ := (Polling.serial cfg).run_reduces hrun hbusy
  exact ⟨as, hcut, hrun', hfeed, hperm⟩

/-- A first poll, and a second that a pulse precedes, that pulses, a controller,
the poll timer and the button interrupt, and that is late in its last call. -/
def interruptedPoll : List PollingEvent :=
  Firmware.initEvents.map .outside ++
  [.outside (.postServerInit .noError .noError .noError .noError), .outside (.elapse 1000),
    .outside .meterPollTimer, .start, .takeCf, .takeCf1, .measureCf 0] ++
  [.outside (.elapse 1000), .outside .cfIsr, .outside .meterPollTimer, .start, .outside .cfIsr,
    .takeCf, .outside .cfIsr, .outside (.controllerWrite true true 0), .lag 1000, .takeCf1,
    .outside .cf1Isr, .measureCf 0, .outside .meterPollTimer,
    .outside (.controllerWrite false true 0), .measureCf1, .outside (.button 0 1), .lag 5,
    .publish 1 .noError, .outside .cfIsr]

/-- It is a poll in one piece between the same events. -/
theorem interrupted_poll_is_atomic :
    ∃ s, (polling none).run { firmware := .powerOn {} none true } interruptedPoll = some s ∧
      s.firmware.polls = [⟨1000, 0, 0⟩, ⟨2000, 2, 0⟩] ∧ s.firmware.meter.sCfPulses = 2 ∧
      ∃ as, (∀ a ∈ as, a.cutsPower = false) ∧
        (firmware none).run (.powerOn {} none true) as = some s.firmware ∧
        (firmware none).feed (Firmware.published none) (.powerOn {} none true) as =
          (polling none).feed (Polling.published none)
            { firmware := .powerOn {} none true } interruptedPoll ∧
        (as.filterMap FirmwareEvent.external).Perm
          (interruptedPoll.filterMap PollingEvent.external) :=
  ⟨_, rfl, by decide, by decide, (polls_are_atomic none {} none true interruptedPoll _ rfl).1 rfl⟩

end UascentPlug

import UascentPlug.Firmware.Protection

/-!
# UascentPlug.Firmware.Timing

The poll timer in the whole firmware.  `UascentPlug.Bl0937.Schedule` has the
timer, the posted polls and the meter to itself; here polls share the queue with
button events, tasks take time, and the timer's expiry may itself be handled
late.  No poll is lost, run twice or run early (`polls_keep_schedule`), and what a
trip says of real time is, for whole runs, the sharp bound of the queue alone
(`trip_lasts_in_the_field`).
-/

namespace UascentPlug

open SampleStream

namespace PollQueue

variable {startMs : Int} {q : PollQueue} {ps : List Poll}

/-- An expiry handled late posts its poll all the same. -/
theorem Ran.post (h : Ran startMs q ps) (hdue : q.expiryMs q.expired ≤ q.uptimeMs) :
    Ran startMs { q with expired := q.expired + 1 } ps where
  start := h.start
  clock := h.clock
  sorted := h.sorted
  count := h.count
  fifo := h.fifo.trans (Nat.le_succ _)
  posted := by
    intro i hi
    rcases Nat.lt_succ_iff_lt_or_eq.mp hi with hi | rfl
    · exact h.posted i hi
    · rw [← h.expiryMs_eq]
      exact hdue
  late := h.late

/-- Time passes. -/
theorem Ran.elapse (h : Ran startMs q ps) (ms : Nat) :
    Ran startMs { q with uptimeMs := q.uptimeMs + ms } ps where
  start := h.start
  clock := fun p hp => (h.clock p hp).trans (by simp)
  sorted := h.sorted
  count := h.count
  fifo := h.fifo
  posted := fun i hi => (h.posted i hi).trans (by simp)
  late := h.late

end PollQueue

namespace Firmware

variable {cfg : Option OverPowerConfig} {f g : Firmware}

/-- The expiries of `sMeterPollTimer` handled so far: their polls have run or
wait in the queue. -/
def expired (f : Firmware) : Nat := f.polls.length + f.tasks.count .meterPoll

/-- When `sMeterPollTimer` was started, told from its next expiry. -/
def timerStartMs (f : Firmware) : Int :=
  f.nextExpiryMs.getD 0 - kMeterPollIntervalMs * (f.expired + 1)

/-- The timer and the posted polls apart from everything else. -/
def timerQueue (f : Firmware) : PollQueue :=
  { startMs := f.timerStartMs
    uptimeMs := f.uptimeMs
    expired := f.expired
    dispatched := f.polls.length }

/-- The polls are those of a poll queue, once the timer runs. -/
structure OnSchedule (f : Firmware) : Prop where
  uptime : 0 ≤ f.uptimeMs
  start : f.nextExpiryMs.isSome = true → 0 ≤ f.timerStartMs
  ran : f.nextExpiryMs.isSome = true → f.timerQueue.Ran f.timerStartMs f.polls

/-- The queue's next expiry is the timer's. -/
theorem expiryMs_timerQueue {expiryMs : Int} (h : f.nextExpiryMs = some expiryMs) :
    f.timerQueue.expiryMs f.expired = expiryMs := by
  simp only [PollQueue.expiryMs, timerQueue, timerStartMs, h, Option.getD_some]
  omega

namespace OnSchedule

/-- When power comes on the timer does not run. -/
theorem powerOn (answers : StartAnswers) (kvs : Option Int) (onOff : Bool) :
    OnSchedule (powerOn answers kvs onOff) where
  uptime := le_refl _
  start := by simp [Firmware.powerOn]
  ran := by simp [Firmware.powerOn]

/-- Nothing the timer knows of has changed. -/
theorem of_eq (h : OnSchedule f) (huptime : g.uptimeMs = f.uptimeMs)
    (hexpiry : g.nextExpiryMs = f.nextExpiryMs) (hpolls : g.polls = f.polls)
    (htasks : g.tasks.count .meterPoll = f.tasks.count .meterPoll) : OnSchedule g := by
  have hexpired : g.expired = f.expired := by rw [expired, expired, hpolls, htasks]
  have hstart : g.timerStartMs = f.timerStartMs := by
    rw [timerStartMs, timerStartMs, hexpiry, hexpired]
  have hqueue : g.timerQueue = f.timerQueue := by
    rw [timerQueue, timerQueue, hstart, huptime, hexpired, hpolls]
  constructor
  case uptime => rw [huptime]; exact h.uptime
  case start => rw [hexpiry, hstart]; exact h.start
  case ran => rw [hexpiry, hstart, hqueue, hpolls]; exact h.ran

/-- Time may pass at any point of the schedule. -/
theorem elapse (h : OnSchedule f) (ms : Nat) :
    OnSchedule { f with uptimeMs := f.uptimeMs + ms } where
  uptime := by
    have huptime := h.uptime
    simp only
    omega
  start := h.start
  ran := fun hstarted => (h.ran hstarted).elapse ms

/-- An expiry posts the next poll. -/
theorem post (h : OnSchedule f) {expiryMs : Int} (hexpiry : f.nextExpiryMs = some expiryMs)
    (hdue : expiryMs ≤ f.uptimeMs) (htasks : g.tasks = f.tasks ++ [.meterPoll])
    (hnext : g.nextExpiryMs = some (expiryMs + kMeterPollIntervalMs))
    (hpolls : g.polls = f.polls) (huptime : g.uptimeMs = f.uptimeMs) : OnSchedule g := by
  have hstarted : f.nextExpiryMs.isSome = true := by rw [hexpiry]; rfl
  have hexpired : g.expired = f.expired + 1 := by
    simp only [expired, hpolls, htasks, List.count_append, List.count_singleton_self]
    omega
  have hstart : g.timerStartMs = f.timerStartMs := by
    rw [timerStartMs, timerStartMs, hexpired, hnext, hexpiry]
    simp only [Option.getD_some, kMeterPollIntervalMs]
    omega
  have hlate : f.timerQueue.expiryMs f.timerQueue.expired ≤ f.timerQueue.uptimeMs :=
    (expiryMs_timerQueue hexpiry).trans_le hdue
  constructor
  case uptime => rw [huptime]; exact h.uptime
  case start => rw [hstart]; exact fun _ => h.start hstarted
  case ran =>
      intro _
      rw [timerQueue, hstart, hexpired, hpolls, huptime]
      exact (h.ran hstarted).post hlate

/-- The oldest poll runs: it was posted, and the others keep their places. -/
theorem meterPoll {tasks : List Task} (h : OnSchedule f) (hstarted : f.nextExpiryMs.isSome = true)
    (htasks : f.tasks = .meterPoll :: tasks) (cfg : Option OverPowerConfig) (a : TaskAnswers) :
    OnSchedule (Firmware.meterPoll cfg a { f with tasks := tasks }) := by
  have hexpired : expired { f with tasks := tasks, polls := f.polls ++ [f.poll] } = f.expired := by
    simp only [expired, htasks, List.count_cons_self, List.length_append, List.length_singleton]
    omega
  have hstart : timerStartMs { f with tasks := tasks, polls := f.polls ++ [f.poll] } =
      f.timerStartMs := by
    rw [timerStartMs, timerStartMs, hexpired]
  have hposted : f.timerQueue.dispatched < f.timerQueue.expired := by
    simp only [timerQueue, expired, htasks, List.count_cons_self]
    omega
  have hran := (h.ran hstarted).dispatch (p := f.poll) hposted (le_refl _)
  have hpolled : OnSchedule { f with tasks := tasks, polls := f.polls ++ [f.poll] } := by
    constructor
    case uptime => exact h.uptime
    case start => rw [hstart]; exact h.start
    case ran =>
        intro _
        rw [timerQueue, hstart, hexpired, List.length_append, List.length_singleton]
        exact hran
  exact (hpolled.elapse a.lagMs).of_eq rfl rfl rfl rfl

/-- Start-up starts the timer at its end. -/
theorem initStep (h : OnSchedule f) (hstart : StartUp f) {next : InitStep}
    (happ : f.app = .init next) : OnSchedule (f.initStep next) := by
  have hkeeps := f.initKeeps next
  by_cases hnext : next = .meterInit
  · subst hnext
    obtain ⟨-, -, hpolls, htasks⟩ := hstart.unmetered (by simp [happ])
    have hexpired : (f.initStep .meterInit).expired = 0 := by
      rw [expired, hkeeps.polls, hkeeps.tasks, hpolls, List.count_eq_zero.mpr htasks]
      rfl
    have hstarts : (f.initStep .meterInit).timerStartMs = f.uptimeMs := by
      rw [timerStartMs, hexpired]
      simp [Firmware.initStep, kMeterPollIntervalMs]
    have hqueue : (f.initStep .meterInit).timerQueue = PollQueue.start f.uptimeMs := by
      rw [timerQueue, hstarts, hexpired, hkeeps.polls, hpolls, hkeeps.uptimeMs]
      rfl
    constructor
    case uptime => exact h.uptime
    case start => rw [hstarts]; exact fun _ => h.uptime
    case ran => rw [hqueue, hstarts, hkeeps.polls, hpolls]; exact fun _ => PollQueue.ran_start _
  · exact h.of_eq hkeeps.uptimeMs (f.initStep_unmetered hnext).2 hkeeps.polls
      (by rw [hkeeps.tasks])

/-- **Step lemma**: every event keeps the polls on schedule. -/
theorem step {e : FirmwareEvent} (h : OnSchedule f) (hstart : StartUp f)
    (hstep : FirmwareStep cfg f e g) : OnSchedule g := by
  cases hstep with
  | init happ => exact h.initStep hstart happ
  | @dispatch a task tasks happ htasks =>
      cases task with
      | meterPoll => exact h.meterPoll (hstart.stage_dispatching happ).2.2 htasks cfg a
      | buttonEventHandler state hasChanged =>
          exact h.of_eq rfl rfl rfl (by simp [htasks, runTask, buttonEventHandler])
  | meterPollTimer hstarted hdue => exact h.post hstarted hdue rfl rfl rfl rfl
  | button hready => exact h.of_eq rfl rfl rfl (by simp)
  | elapse => exact h.elapse _
  | unchangedWrite hstarted hvalue => exact h
  | powerCut => exact .powerOn _ _ _
  | powerCutDuring happ htasks => exact .powerOn _ _ _
  | _ => exact h.of_eq rfl rfl rfl rfl

end OnSchedule

/-- **Run lemma**: in every run, through any number of power cuts. -/
theorem onSchedule_of_run {answers : StartAnswers} {kvs : Option Int} {onOff : Bool}
    {es : List FirmwareEvent}
    (hrun : (firmware cfg).run (powerOn answers kvs onOff) es = some f) : OnSchedule f :=
  ((firmware cfg).run_invariant_of_step (P := fun f => StartUp f ∧ OnSchedule f)
    (fun _ _ _ h hstep =>
      ⟨h.1.step (firmwareStep_of_step hstep), h.2.step h.1 (firmwareStep_of_step hstep)⟩)
    ⟨startUp_powerOn answers kvs onOff, .powerOn answers kvs onOff⟩ hrun).2

/-! ## windows tile the time -/

/-- Windows leave no time between the first poll and the last uncovered, and
cover none twice. -/
theorem spanMs_windows {p : Poll} {ps : List Poll} {l : Int}
    (hsorted : (p :: ps).Pairwise fun p p' => p.nowMs ≤ p'.nowMs)
    (hl : lastStamp (p :: ps) = some l) : spanMs (windows (p :: ps)) = l - p.nowMs := by
  induction ps using List.reverseRecOn generalizing l with
  | nil =>
      obtain rfl : p.nowMs = l := Option.some.inj hl
      simp [windows, windowsAfter, Poll.window, spanMs]
  | append_singleton ps q ih =>
      rw [← List.cons_append, lastStamp_concat, Option.some.injEq] at hl
      subst hl
      rw [← List.cons_append] at hsorted ⊢
      obtain ⟨hsorted', -, hle⟩ := List.pairwise_append.mp hsorted
      obtain ⟨l', hl', hlast⟩ : ∃ l', lastStamp (p :: ps) = some l' ∧ l' ≤ q.nowMs := by
        obtain ⟨init, r, heq⟩ := (List.eq_nil_or_concat' (p :: ps)).resolve_left (by simp)
        refine ⟨r.nowMs, by rw [heq, lastStamp_concat], hle r (by simp [heq]) q (by simp)⟩
      have hspan := ih hsorted' hl'
      rw [windows_concat, spanMs_append, hspan, hl']
      cases hw : q.window (some l') with
      | none =>
          have hge := nowMs_le_of_window_none hw
          simp only [Option.toList_none, spanMs, List.map_nil, List.sum_nil]
          omega
      | some w =>
          obtain ⟨l'', hl'', hms, -, -⟩ := window_eq_some hw
          obtain rfl := Option.some.inj hl''
          simp only [Option.toList_some, spanMs, List.map_singleton, List.sum_singleton]
          omega

/-- **Polls keep the timer's schedule**: in every run of the firmware, every
expiry's poll has run or waits, once; they ran in order, none before its
expiry, and their windows cover the time from the first to the last. -/
theorem polls_keep_schedule (cfg : Option OverPowerConfig) (answers : StartAnswers)
    (kvs : Option Int) (onOff : Bool) (es : List FirmwareEvent) (f : Firmware)
    (hrun : (firmware cfg).run (powerOn answers kvs onOff) es = some f) (expiryMs : Int)
    (hstarted : f.nextExpiryMs = some expiryMs) :
    let n := f.polls.length + f.tasks.count .meterPoll
    ∃ startMs, 0 ≤ startMs ∧ expiryMs = startMs + 1000 * (n + 1) ∧
      (∀ i < n, startMs + 1000 * (i + 1) ≤ f.uptimeMs) ∧
      (∀ (i : Nat) (p : Poll), f.polls[i]? = some p →
        startMs + 1000 * (i + 1) ≤ p.nowMs ∧ p.nowMs ≤ f.uptimeMs) ∧
      (f.polls.Pairwise fun p p' => p.nowMs ≤ p'.nowMs) ∧
      ∀ p ∈ f.polls.head?, ∀ l ∈ lastStamp f.polls, spanMs (windows f.polls) = l - p.nowMs := by
  intro n
  have h := onSchedule_of_run hrun
  have hsome : f.nextExpiryMs.isSome = true := by rw [hstarted]; rfl
  have hran := h.ran hsome
  refine ⟨f.timerStartMs, h.start hsome, ?_, hran.posted, ?_, hran.sorted, ?_⟩
  · simp only [timerStartMs, hstarted, Option.getD_some, kMeterPollIntervalMs, expired, n]
    omega
  · exact fun i p hp => ⟨hran.late i p hp, hran.clock p (List.mem_of_getElem? hp)⟩
  · intro p hp l hl
    have hsorted := hran.sorted
    obtain ⟨rest, hrest⟩ := List.head?_eq_some_iff.mp hp
    rw [hrest] at hsorted hl ⊢
    exact spanMs_windows hsorted hl

/-- The first poll waits behind the second expiry and runs half a second late. -/
def delayedPoll : List FirmwareEvent :=
  initEvents ++ [.elapse 1000, .meterPollTimer, .elapse 1500, .meterPollTimer, .button 0 0,
    .dispatch {}]

/-- One poll has run, late, and one waits. -/
theorem delayed_poll_keeps_schedule :
    ∃ f startMs, (firmware none).run (powerOn {} none true) delayedPoll = some f ∧
      (3000 : Int) = startMs + 1000 * (f.polls.length + f.tasks.count .meterPoll + 1) ∧
      f.polls.length = 1 ∧ f.tasks.count .meterPoll = 1 ∧ startMs + 1000 * 2 ≤ f.uptimeMs := by
  obtain ⟨f, hrun, hexpiry, hpolls, htasks⟩ :
      ∃ f, (firmware none).run (powerOn {} none true) delayedPoll = some f ∧
        f.nextExpiryMs = some 3000 ∧ f.polls.length = 1 ∧ f.tasks.count .meterPoll = 1 :=
    ⟨_, rfl, rfl, rfl, by decide⟩
  obtain ⟨startMs, -, hnext, hposted, -⟩ :=
    polls_keep_schedule none {} none true delayedPoll f hrun 3000 hexpiry
  exact ⟨f, startMs, hrun, hnext, hpolls, htasks, hposted 1 (by omega)⟩

/-! ## what a trip says of real time -/

/-- **A trip lasts**: in every run of the firmware, if the polls of the boot ran
at most `lateMs` after their expiries, then behind a poll that trips lie
`APP_OVERPOWER_SAMPLES` windows above the threshold, and they last that many
seconds less `lateMs`. -/
theorem trip_lasts_in_the_field (cfg : OverPowerConfig) (hN : 1 ≤ cfg.samples.toNat)
    (answers : StartAnswers) (kvs : Option Int) (onOff : Bool) (es : List FirmwareEvent)
    (f : Firmware) (tasks : List Task) (lateMs : Nat)
    (hrun : (firmware (some cfg)).run (powerOn answers kvs onOff) es = some f)
    (htasks : f.tasks = .meterPoll :: tasks)
    (hprompt : Prompt f.timerQueue lateMs (f.polls ++ [f.poll])) (htrips : f.Trips (some cfg)) :
    let ws := (windows (f.polls ++ [f.poll])).rtake cfg.samples.toNat
    ws.length = cfg.samples.toNat ∧ (∀ w ∈ ws, cfg.exceeds w = true) ∧
      (cfg.samples.toNat : Int) * 1000 - lateMs ≤ spanMs ws := by
  intro ws
  have happ : f.app = .dispatching := by
    by_contra hother
    have hunposted := ((startUp_of_run hrun).unmetered hother).2.2.2
    exact hunposted (htasks ▸ List.mem_cons_self)
  have hsome := ((startUp_of_run hrun).stage_dispatching happ).2.2
  have hposted : f.timerQueue.dispatched < f.timerQueue.expired := by
    simp only [timerQueue, expired, htasks, List.count_cons_self]
    omega
  have hran := ((onSchedule_of_run hrun).ran hsome).dispatch (p := f.poll) hposted (le_refl _)
  obtain ⟨-, -, hpositive, hdvd⟩ := ((guards_of_run hN hrun).trips_iff hN).mp htrips
  have hstreak := Nat.le_of_dvd hpositive hdvd
  have hlen := hstreak.trans (streak_le_length _ _)
  refine ⟨?_, of_mem_rtake_of_le_streak hstreak, ?_⟩
  · simp only [ws, List.rtake, List.length_drop]
    omega
  · obtain ⟨i, p, hp, hi, hspan⟩ :=
      exists_poll_spanMs_rtake hran.sorted (lastStamp_concat _ f.poll) hlen
    rw [List.length_append, List.length_singleton] at hi
    have hlate := hran.late f.polls.length f.poll (by simp)
    have hearly := hprompt i p hp
    rw [PollQueue.expiryMs] at hearly hlate
    simp only [kMeterPollIntervalMs, PollQueue.start, timerQueue] at hearly hlate
    rw [hspan]
    omega

/-- Polls are prompt when each ran soon after its expiry. -/
theorem prompt_iff (q : PollQueue) (lateMs : Nat) (ps : List Poll) :
    Prompt q lateMs ps ↔
      ∀ i, (h : i < ps.length) → ps[i].nowMs ≤ q.expiryMs i + lateMs := by
  constructor
  · exact fun h i hi => h i _ (List.getElem?_eq_getElem hi)
  · intro h i p hp
    obtain ⟨hi, rfl⟩ := List.getElem?_eq_some_iff.mp hp
    exact h i hi

instance (q : PollQueue) (lateMs : Nat) (ps : List Poll) : Decidable (Prompt q lateMs ps) :=
  decidable_of_iff' _ (prompt_iff q lateMs ps)

/-- A boot with the load on, and two seconds with a pulse each before the poll
that is to run. -/
def twoPulsedSeconds : List FirmwareEvent :=
  initEvents ++ [.onOffClusterInit true 0] ++ pulsedSecond {} ++ pulsedSecond {} ++
    [.cfIsr, .elapse 1000, .meterPollTimer]

/-- Polled on time they trip a limit of 0 mW and two samples: it took two
seconds. -/
theorem trip_lasts_two_seconds :
    let cfg : OverPowerConfig := { thresholdMw := 0, samples := 2 }
    ∃ f, (firmware (some cfg)).run (powerOn {} none true) twoPulsedSeconds = some f ∧
      f.Trips (some cfg) ∧ 2000 ≤ spanMs ((windows (f.polls ++ [f.poll])).rtake 2) :=
  have h := trip_lasts_in_the_field { thresholdMw := 0, samples := 2 } (by decide) {} none true
    twoPulsedSeconds _ [] 0 rfl rfl (by decide) (by decide)
  ⟨_, rfl, by decide, h.2.2⟩

end Firmware

end UascentPlug

import UascentPlug.Bl0937.OverPower

/-!
# UascentPlug.Bl0937.Schedule

The queue between the poll timer and the app task.  Every expiry of
`sMeterPollTimer` posts one `MeterPoll`; the app task runs the posted polls in
order, as late as its other work makes it.  Polls that were held up run back
to back, and then their windows are short: the over-power counter counts
windows, not seconds.

`trip_spans_seconds_iff` says how much lateness the documented reading of
`APP_OVERPOWER_SAMPLES` as seconds survives: one poll interval, and no more.
-/

namespace UascentPlug

open SampleStream

def kMeterPollIntervalMs : Int := 1000

/-- The timer and the posted polls: `expired` polls were posted so far, and the
first `dispatched` of them have run. -/
structure PollQueue where
  startMs : Int
  uptimeMs : Int
  expired : Nat := 0
  dispatched : Nat := 0
  deriving DecidableEq

inductive QueueEvent where
  /-- `MeterPollTimerCallback` posts a poll. -/
  | expire
  /-- The app task runs the oldest posted poll. -/
  | dispatch (p : Poll)
  | relaySet (on : Bool)
  deriving DecidableEq

namespace PollQueue

/-- `k_timer_start` at `startMs`. -/
def start (startMs : Int) : PollQueue := { startMs := startMs, uptimeMs := startMs }

/-- The uptime of expiry number `i`. -/
def expiryMs (q : PollQueue) (i : Nat) : Int := q.startMs + kMeterPollIntervalMs * (i + 1)

end PollQueue

/-- Expiries happen on time, whatever the app task does. -/
def pollQueue : Lts PollQueue QueueEvent where
  step q
    | .expire =>
        if q.uptimeMs ≤ q.expiryMs q.expired then
          some { q with uptimeMs := q.expiryMs q.expired, expired := q.expired + 1 }
        else
          none
    | .dispatch p =>
        if q.dispatched < q.expired ∧ q.uptimeMs ≤ p.nowMs ∧ p.nowMs ≤ q.expiryMs q.expired then
          some { q with uptimeMs := p.nowMs, dispatched := q.dispatched + 1 }
        else
          none
    | .relaySet _ => some q

/-- What the meter sees of the events of the queue. -/
def meterEvents : List QueueEvent → List MeterEvent
  | [] => []
  | .expire :: es => meterEvents es
  | .dispatch p :: es => .poll p :: meterEvents es
  | .relaySet on :: es => .relaySet on :: meterEvents es

@[simp] theorem meterEvents_append (es fs : List QueueEvent) :
    meterEvents (es ++ fs) = meterEvents es ++ meterEvents fs := by
  induction es with
  | nil => rfl
  | cons e es ih =>
      cases e with
      | expire => exact ih
      | dispatch p => simp only [List.cons_append, meterEvents, ih]
      | relaySet on => simp only [List.cons_append, meterEvents, ih]

/-- The polls the app task ran, in order. -/
def dispatchedPolls (es : List QueueEvent) : List Poll := polls (meterEvents es)

@[simp] theorem dispatchedPolls_append (es fs : List QueueEvent) :
    dispatchedPolls (es ++ fs) = dispatchedPolls es ++ dispatchedPolls fs := by
  rw [dispatchedPolls, meterEvents_append, polls_append]
  rfl

/-- Every poll ran at most `lateMs` after the expiry that posted it. -/
def Prompt (q : PollQueue) (lateMs : Nat) (ps : List Poll) : Prop :=
  ∀ i p, ps[i]? = some p → p.nowMs ≤ q.expiryMs i + lateMs

/-- Uptime covered by windows. -/
def spanMs (ws : List Window) : Int := (ws.map fun w => (w.windowMs : Int)).sum

/-! ## what a run of the queue does to the poll times -/

/-- The queue after a run in which the polls `ps` were dispatched. -/
structure PollQueue.Ran (startMs : Int) (q : PollQueue) (ps : List Poll) : Prop where
  start : q.startMs = startMs
  clock : ∀ p ∈ ps, p.nowMs ≤ q.uptimeMs
  sorted : ps.Pairwise fun p p' => p.nowMs ≤ p'.nowMs
  count : q.dispatched = ps.length
  fifo : q.dispatched ≤ q.expired
  /-- Every expiry counted so far has happened. -/
  posted : ∀ i < q.expired, (PollQueue.start startMs).expiryMs i ≤ q.uptimeMs
  late : ∀ i p, ps[i]? = some p → (PollQueue.start startMs).expiryMs i ≤ p.nowMs

namespace PollQueue

/-- Before the first poll nothing has run. -/
theorem ran_start (startMs : Int) : Ran startMs (start startMs) [] where
  start := rfl
  clock := by simp
  sorted := List.Pairwise.nil
  count := rfl
  fifo := le_refl _
  posted := by
    intro i hi
    exact absurd hi (Nat.not_lt_zero i)
  late := by simp

/-- The timer's expiries are those of its start. -/
theorem Ran.expiryMs_eq {startMs : Int} {q : PollQueue} {ps : List Poll} (h : Ran startMs q ps)
    (i : Nat) : q.expiryMs i = (PollQueue.start startMs).expiryMs i := by
  rw [expiryMs, h.start]
  rfl

/-- An expiry posts a poll and runs none. -/
theorem Ran.expire {startMs : Int} {q : PollQueue} {ps : List Poll} (h : Ran startMs q ps)
    (hdue : q.uptimeMs ≤ q.expiryMs q.expired) :
    Ran startMs { q with uptimeMs := q.expiryMs q.expired, expired := q.expired + 1 } ps where
  start := h.start
  clock := fun p hp => (h.clock p hp).trans hdue
  sorted := h.sorted
  count := h.count
  fifo := h.fifo.trans (Nat.le_succ _)
  posted := by
    intro i hi
    have hle : (i : Int) ≤ q.expired := by exact_mod_cast Nat.le_of_lt_succ hi
    rw [h.expiryMs_eq, expiryMs, expiryMs]
    simp only [kMeterPollIntervalMs]
    omega
  late := h.late

/-- The oldest posted poll runs next. -/
theorem Ran.dispatch {startMs : Int} {q : PollQueue} {ps : List Poll} (h : Ran startMs q ps)
    {p : Poll} (hposted : q.dispatched < q.expired) (hnow : q.uptimeMs ≤ p.nowMs) :
    Ran startMs { q with uptimeMs := p.nowMs, dispatched := q.dispatched + 1 } (ps ++ [p]) where
  start := h.start
  clock := by
    intro p' hp'
    rw [List.mem_append, List.mem_singleton] at hp'
    rcases hp' with hp' | rfl
    · exact (h.clock p' hp').trans hnow
    · exact le_refl _
  sorted := by
    rw [List.pairwise_append]
    refine ⟨h.sorted, List.pairwise_singleton _ _, fun a ha b hb => ?_⟩
    obtain rfl := List.mem_singleton.mp hb
    exact (h.clock a ha).trans hnow
  count := by rw [List.length_append, List.length_singleton, h.count]
  fifo := hposted
  posted := fun i hi => (h.posted i hi).trans hnow
  late := by
    intro i p' hp'
    by_cases hi : i < ps.length
    · rw [List.getElem?_append_left hi] at hp'
      exact h.late i p' hp'
    · rw [List.getElem?_append_right (by omega)] at hp'
      obtain ⟨hlt, hget⟩ := List.getElem?_eq_some_iff.mp hp'
      rw [List.length_singleton] at hlt
      have hi' : i = q.dispatched := by
        have hcount := h.count
        omega
      have hp : p' = p := by
        rw [← hget]
        simp
      rw [hp, hi']
      exact (h.posted _ hposted).trans hnow

/-- **Run lemma**: polls run in order, none before its expiry. -/
theorem ran_of_run {startMs : Int} {q : PollQueue} {es : List QueueEvent}
    (hrun : pollQueue.run (start startMs) es = some q) :
    Ran startMs q (dispatchedPolls es) := by
  induction es using List.reverseRecOn generalizing q with
  | nil => exact Option.some.inj hrun ▸ ran_start startMs
  | append_singleton es e ih =>
      rw [Lts.run_append, Option.bind_eq_some_iff] at hrun
      obtain ⟨r, hr, hstep⟩ := hrun
      rw [Lts.run_cons_eq_some] at hstep
      obtain ⟨r', hstep, hr'⟩ := hstep
      obtain rfl := Option.some.inj hr'
      have hprev := ih hr
      rw [dispatchedPolls_append]
      cases e with
      | expire =>
          simp only [pollQueue] at hstep
          split at hstep
          · next hdue =>
            obtain rfl := Option.some.inj hstep
            simpa [dispatchedPolls, meterEvents, polls] using hprev.expire hdue
          · contradiction
      | dispatch p =>
          simp only [pollQueue] at hstep
          split at hstep
          · next hok =>
            obtain rfl := Option.some.inj hstep
            exact hprev.dispatch hok.1 hok.2.1
          · contradiction
      | relaySet on =>
          obtain rfl := Option.some.inj hstep
          simpa [dispatchedPolls, meterEvents, polls] using hprev

end PollQueue

/-! ## how much uptime the last windows cover -/

/-- Windows that follow each other last as long as both together. -/
theorem spanMs_append (ws vs : List Window) : spanMs (ws ++ vs) = spanMs ws + spanMs vs := by
  rw [spanMs, List.map_append, List.sum_append]
  rfl

/-- A poll that closes no window is not later than the one before. -/
theorem nowMs_le_of_window_none {l : Int} {p : Poll} (h : p.window (some l) = none) :
    p.nowMs ≤ l := by
  by_contra hlt
  rw [Poll.window, dif_pos (by omega)] at h
  contradiction

/-- The last `n` windows of polls in order reach from some poll, at least `n`
polls back, to the last one. -/
theorem exists_poll_spanMs_rtake {ps : List Poll}
    (hsorted : ps.Pairwise fun p p' => p.nowMs ≤ p'.nowMs) {l : Int}
    (hl : lastStamp ps = some l) {n : Nat} (hn : n ≤ (windows ps).length) :
    ∃ i p, ps[i]? = some p ∧ i + n < ps.length ∧ spanMs ((windows ps).rtake n) = l - p.nowMs := by
  induction ps using List.reverseRecOn generalizing l n with
  | nil => simp [lastStamp, stampAfter] at hl
  | append_singleton ps p ih =>
      rw [lastStamp_concat, Option.some.injEq] at hl
      subst hl
      obtain ⟨hsorted', -, hle⟩ := List.pairwise_append.mp hsorted
      have hbefore : ∀ {i : Nat} {q : Poll}, ps[i]? = some q → (ps ++ [p])[i]? = some q := by
        intro i q hq
        rw [List.getElem?_append_left (List.getElem?_eq_some_iff.mp hq).1, hq]
      have hlength : (ps ++ [p]).length = ps.length + 1 := by simp
      rw [windows_concat] at hn ⊢
      cases n with
      | zero => exact ⟨ps.length, p, by simp, by omega, by simp [spanMs]⟩
      | succ n =>
          cases hw : p.window (lastStamp ps) with
          | some w =>
              -- the window of this poll starts where the windows before it end
              rw [hw, Option.toList_some, List.length_append, List.length_singleton] at hn
              obtain ⟨l', hl', hms, -, -⟩ := window_eq_some hw
              obtain ⟨i, q, hq, hi, hspan⟩ := ih hsorted' hl' (Nat.le_of_succ_le_succ hn)
              refine ⟨i, q, hbefore hq, by omega, ?_⟩
              rw [Option.toList_some, List.rtake_concat_succ, spanMs_append, hspan, spanMs,
                List.map_singleton, List.sum_singleton, hms]
              omega
          | none =>
              -- a poll in the same millisecond as the one before
              rw [hw, Option.toList_none, List.append_nil] at hn
              rw [Option.toList_none, List.append_nil]
              obtain rfl | ⟨init, q', rfl⟩ := ps.eq_nil_or_concat'
              · simp [windows, windowsAfter] at hn
              · rw [lastStamp_concat] at hw
                have hsame : p.nowMs = q'.nowMs := by
                  have hge := nowMs_le_of_window_none hw
                  have hle' := hle q' (by simp) p (by simp)
                  omega
                obtain ⟨i, q, hq, hi, hspan⟩ := ih hsorted' (lastStamp_concat init q') hn
                exact ⟨i, q, hbefore hq, by omega, by rw [hspan, hsame]⟩

/-! ## late polls within one interval keep the guarantee -/

/-- Whenever a poll opens the relay, the windows behind the trip last. -/
def TripSpans (cfg : OverPowerConfig) (lateMs : Nat) : Prop :=
  ∀ startMs persisted es p q, 0 ≤ startMs →
    pollQueue.run (PollQueue.start startMs) (es ++ [.dispatch p]) = some q →
    Prompt q lateMs (dispatchedPolls (es ++ [.dispatch p])) →
    Opens cfg ((metered cfg).exec (.boot persisted) (meterEvents es)) p →
    ((cfg.samples.toNat : Int) - 1) * kMeterPollIntervalMs ≤
      spanMs ((windows (dispatchedPolls (es ++ [.dispatch p]))).rtake cfg.samples.toNat)

/-- With polls at most an interval late, or a single sample, a trip spans its
seconds. -/
theorem tripSpans_of_prompt {cfg : OverPowerConfig} (hN : 1 ≤ cfg.samples.toNat) {lateMs : Nat}
    (h : lateMs ≤ 1000 ∨ cfg.samples.toNat = 1) : TripSpans cfg lateMs := by
  intro startMs persisted es p q hstart hrun hprompt hopens
  have hran := PollQueue.ran_of_run hrun
  have hpolls : dispatchedPolls (es ++ [.dispatch p]) = dispatchedPolls es ++ [p] := by
    rw [dispatchedPolls_append]
    rfl
  rw [hpolls] at hran hprompt ⊢
  have hpos : PositiveStamps (dispatchedPolls es ++ [p]) := by
    intro p' hp'
    obtain ⟨i, hi⟩ := List.mem_iff_getElem?.mp hp'
    have hlate := hran.late i p' hi
    rw [PollQueue.expiryMs, kMeterPollIntervalMs, PollQueue.start] at hlate
    simp only at hlate
    omega
  obtain ⟨-, -, hposit, hdvd⟩ := (opens_iff hN persisted hpos).mp hopens
  have hlen : cfg.samples.toNat ≤ (windows (dispatchedPolls es ++ [p])).length :=
    (Nat.le_of_dvd hposit hdvd).trans (streak_le_length _ _)
  obtain ⟨i, p', hp', hi, hspan⟩ :=
    exists_poll_spanMs_rtake hran.sorted (lastStamp_concat _ p) hlen
  rw [List.length_append, List.length_singleton] at hi
  have hlate := hran.late (dispatchedPolls es).length p (by simp)
  have hearly := hprompt i p' hp'
  have hordered : p'.nowMs ≤ p.nowMs := by
    have hmem := List.mem_of_getElem? hp'
    rw [List.mem_append, List.mem_singleton] at hmem
    rcases hmem with hmem | rfl
    · exact (List.pairwise_append.mp hran.sorted).2.2 p' hmem p (by simp)
    · exact le_refl _
  rw [hran.expiryMs_eq, PollQueue.expiryMs] at hearly
  rw [PollQueue.expiryMs] at hlate
  simp only [kMeterPollIntervalMs] at hearly hlate ⊢
  rw [hspan]
  rcases h with h | h
  · omega
  · rw [h]
    omega

/-! ## one poll later than that breaks it -/

/-- CF pulses far above any `int` threshold, in every window up to a second. -/
def overload : UInt32 := 4000000

/-- The overload exceeds the threshold in every window of at most a second. -/
theorem exceeds_overload {cfg : OverPowerConfig} (hT : cfg.thresholdMw < 2 ^ 31) {w : Window}
    (hcf : w.cf = overload) (hms : w.windowMs ≤ 1000) : cfg.exceeds w = true := by
  have hcf' : w.cf.toNat * 1000 = 4000000000 := by
    rw [hcf]
    rfl
  have hlow : 4000000 ≤ w.cfRate := by
    rw [Window.cfRate, hcf', Nat.le_div_iff_mul_le w.pos]
    omega
  have hhigh : w.cfRate ≤ 4000000000 := by
    rw [Window.cfRate, hcf']
    exact Nat.div_le_self _ _
  have hreading : ((2 ^ 31 : Nat) : Int) ≤ reading 775 w.cfSample := by
    rw [reading, Window.cfSample, Nat.mod_eq_of_lt (by omega)]
    exact_mod_cast (Nat.le_div_iff_mul_le (by omega)).mpr (by omega)
  rw [OverPowerConfig.exceeds, decide_eq_true_eq]
  omega

/-- The first two polls are held up and run back to back, the later ones run on
time. -/
def heldUp : Nat → List QueueEvent
  | 0 => [.expire, .expire, .dispatch ⟨2001, overload, 0⟩, .dispatch ⟨2002, overload, 0⟩]
  | k + 1 => heldUp k ++ [.expire, .dispatch ⟨3000 + 1000 * k, overload, 0⟩]

def heldUpMs : Nat → Int
  | 0 => 2002
  | k + 1 => 3000 + 1000 * k

/-- The last poll of `heldUp k` is not later than the expiry after it. -/
theorem heldUpMs_le (k : Nat) : heldUpMs k ≤ 3000 + 1000 * k := by
  cases k with
  | zero => decide
  | succ k =>
      rw [heldUpMs]
      omega

/-- The queue can run `heldUp k`, and every poll it posts is dispatched. -/
theorem run_heldUp (k : Nat) :
    pollQueue.run (PollQueue.start 0) (heldUp k) = some ⟨0, heldUpMs k, k + 2, k + 2⟩ := by
  induction k with
  | zero => rfl
  | succ k ih =>
      apply pollQueue.run_append_of_run ih
      have hle := heldUpMs_le k
      have hexpiry :
          PollQueue.expiryMs ⟨0, heldUpMs k, k + 2, k + 2⟩ (k + 2) = 3000 + 1000 * k := by
        simp only [PollQueue.expiryMs, kMeterPollIntervalMs]
        omega
      rw [Lts.run_cons_eq_some]
      refine ⟨⟨0, 3000 + 1000 * k, k + 3, k + 2⟩, ?_, ?_⟩
      · simp only [pollQueue, hexpiry]
        rw [if_pos hle]
      · rw [Lts.run_cons_eq_some]
        refine ⟨⟨0, 3000 + 1000 * k, k + 3, k + 3⟩, ?_, rfl⟩
        simp only [pollQueue]
        rw [if_pos]
        simp only [PollQueue.expiryMs, kMeterPollIntervalMs]
        omega

/-- Each further second runs one more poll, on time. -/
theorem dispatchedPolls_heldUp_succ (k : Nat) :
    dispatchedPolls (heldUp (k + 1)) =
      dispatchedPolls (heldUp k) ++ [⟨3000 + 1000 * k, overload, 0⟩] := by
  rw [heldUp, dispatchedPolls_append]
  rfl

/-- `k + 2` polls have run. -/
theorem length_dispatchedPolls_heldUp (k : Nat) : (dispatchedPolls (heldUp k)).length = k + 2 := by
  induction k with
  | zero => rfl
  | succ k ih => rw [dispatchedPolls_heldUp_succ, List.length_append, ih, List.length_singleton]

/-- No poll of `heldUp k` is more than 1001 ms late. -/
theorem prompt_heldUp (q : PollQueue) (hq : q.startMs = 0) (k : Nat) :
    Prompt q 1001 (dispatchedPolls (heldUp k)) := by
  induction k with
  | zero =>
      intro i p hp
      simp only [PollQueue.expiryMs, kMeterPollIntervalMs, hq]
      match i, hp with
      | 0, hp =>
          obtain rfl := Option.some.inj hp
          decide
      | 1, hp =>
          obtain rfl := Option.some.inj hp
          decide
  | succ k ih =>
      intro i p hp
      rw [dispatchedPolls_heldUp_succ] at hp
      by_cases hi : i < (dispatchedPolls (heldUp k)).length
      · rw [List.getElem?_append_left hi] at hp
        exact ih i p hp
      · rw [length_dispatchedPolls_heldUp] at hi
        rw [List.getElem?_append_right (by rw [length_dispatchedPolls_heldUp]; omega)] at hp
        have hp' := List.mem_singleton.mp (List.mem_of_getElem? hp)
        simp only [hp', PollQueue.expiryMs, kMeterPollIntervalMs, hq]
        omega

/-- The windows of the held-up schedule: all overloaded, and together a
millisecond short. -/
structure HeldUpWindows (k : Nat) (ws : List Window) : Prop where
  length : ws.length = k + 1
  span : spanMs ws = heldUpMs k - 2001
  overloaded : ∀ w ∈ ws, w.cf = overload ∧ w.windowMs ≤ 1000

/-- The last poll of `heldUp k` ran at `heldUpMs k`. -/
theorem lastStamp_heldUp (k : Nat) :
    lastStamp (dispatchedPolls (heldUp k)) = some (heldUpMs k) := by
  cases k with
  | zero => rfl
  | succ k => rw [dispatchedPolls_heldUp_succ, lastStamp_concat, heldUpMs]

/-- The window the next poll closes is of overload and no longer than a second. -/
theorem window_after_heldUp (k : Nat) :
    ∃ w, Poll.window (some (heldUpMs k)) ⟨3000 + 1000 * k, overload, 0⟩ = some w ∧
      w.cf = overload ∧ w.windowMs ≤ 1000 ∧ (w.windowMs : Int) = 3000 + 1000 * k - heldUpMs k := by
  have hbounds : heldUpMs k < 3000 + 1000 * k ∧ 2000 + 1000 * k ≤ heldUpMs k := by
    cases k with
    | zero => decide
    | succ k =>
        rw [heldUpMs]
        omega
  refine ⟨⟨(3000 + 1000 * (k : Int) - heldUpMs k).toNat, overload, 0, by omega⟩, ?_, rfl, ?_, ?_⟩
  · rw [Poll.window, dif_pos hbounds.1]
  · simp only
    omega
  · simp only
    omega

/-- Every window of `heldUp k` is of overload and no longer than a second. -/
theorem windows_heldUp (k : Nat) : HeldUpWindows k (windows (dispatchedPolls (heldUp k))) := by
  induction k with
  | zero =>
      have hws : windows (dispatchedPolls (heldUp 0)) = [⟨1, overload, 0, by decide⟩] := rfl
      rw [hws]
      refine ⟨rfl, rfl, fun w hw => ?_⟩
      rw [List.mem_singleton.mp hw]
      exact ⟨rfl, by decide⟩
  | succ k ih =>
      obtain ⟨w, hw, hcf, hle, hms⟩ := window_after_heldUp k
      rw [dispatchedPolls_heldUp_succ, windows_concat, lastStamp_heldUp, hw, Option.toList_some]
      refine ⟨?_, ?_, fun v hv => ?_⟩
      · rw [List.length_append, ih.length, List.length_singleton]
      · rw [spanMs_append, ih.span, spanMs, List.map_singleton, List.sum_singleton, hms, heldUpMs]
        omega
      · rw [List.mem_append, List.mem_singleton] at hv
        rcases hv with hv | rfl
        · exact ih.overloaded v hv
        · exact ⟨hcf, hle⟩

/-- Fewer windows than a trip needs leave the relay as it was at boot. -/
theorem relayIsOn_of_few_windows {cfg : OverPowerConfig} (hN : 0 < cfg.samples.toNat)
    {es : List MeterEvent} (hpos : PositiveStamps (polls es))
    (hothers : ∀ on, .relaySet on ∈ es → on = true)
    (hfew : (windows (polls es)).length < cfg.samples.toNat) :
    ((metered cfg).exec (.boot true) es).plug.relayIsOn = true := by
  have hon : (MeteredPlug.boot true).plug.relayIsOn = true := Plug.relayIsOn_boot true
  rcases opens_or_stays_on cfg (Plug.relayReady_boot true) hon hothers with
    ⟨f₁, p, f₂, rfl, hopens⟩ | hstays
  · have hsplit : polls (f₁ ++ .poll p :: f₂) = (polls f₁ ++ [p]) ++ polls f₂ := by
      rw [polls_append, polls, List.append_assoc]
      rfl
    rw [hsplit] at hpos hfew
    obtain ⟨-, -, hposit, hdvd⟩ := (opens_iff hN true hpos.of_append).mp hopens
    have hle := (Nat.le_of_dvd hposit hdvd).trans (streak_le_length _ _)
    rw [windows, windowsAfter_append, List.length_append] at hfew
    rw [windows] at hle
    omega
  · exact hstays

/-- The polls of `heldUp k` run after boot. -/
theorem positiveStamps_heldUp (k : Nat) : PositiveStamps (dispatchedPolls (heldUp k)) := by
  induction k with
  | zero => decide
  | succ k ih =>
      intro p hp
      rw [dispatchedPolls_heldUp_succ, List.mem_append, List.mem_singleton] at hp
      rcases hp with hp | rfl
      · exact ih p hp
      · simp only
        omega

/-- Nobody else switches the relay in `heldUp k`. -/
theorem meterEvents_heldUp_of_relaySet (k : Nat) (on : Bool) :
    .relaySet on ∉ meterEvents (heldUp k) := by
  induction k with
  | zero => simp [heldUp, meterEvents]
  | succ k ih =>
      rw [heldUp, meterEvents_append, List.mem_append]
      rintro (h | h)
      · exact ih h
      · simp [meterEvents] at h

/-- With a poll more than one interval late, the windows of a trip can be a
millisecond short of the seconds they stand for. -/
theorem not_tripSpans {cfg : OverPowerConfig} (hT : cfg.thresholdMw < 2 ^ 31)
    (hN : 2 ≤ cfg.samples.toNat) {lateMs : Nat} (hlate : 1000 < lateMs) :
    ¬ TripSpans cfg lateMs := by
  intro h
  obtain ⟨k, hk⟩ : ∃ k, cfg.samples.toNat = k + 2 := ⟨cfg.samples.toNat - 2, by omega⟩
  let p : Poll := ⟨3000 + 1000 * k, overload, 0⟩
  have hes : heldUp (k + 1) = (heldUp k ++ [.expire]) ++ [.dispatch p] := by
    rw [heldUp, List.append_assoc]
    rfl
  have hpolls : dispatchedPolls (heldUp k ++ [.expire]) = dispatchedPolls (heldUp k) := by
    rw [dispatchedPolls_append]
    exact List.append_nil _
  have hws := windows_heldUp (k + 1)
  have hexceeds : ∀ w ∈ windows (dispatchedPolls (heldUp (k + 1))), cfg.exceeds w = true :=
    fun w hw => exceeds_overload hT (hws.overloaded w hw).1 (hws.overloaded w hw).2
  have hstreak : streak cfg.exceeds (windows (dispatchedPolls (heldUp (k + 1)))) = k + 2 := by
    have happend := streak_append_of_all cfg.exceeds [] _ hexceeds
    rw [List.nil_append, streak_nil, hws.length] at happend
    omega
  have hposition : PositiveStamps (polls (meterEvents (heldUp k ++ [.expire])) ++ [p]) := by
    have hpos := positiveStamps_heldUp (k + 1)
    rwa [dispatchedPolls_heldUp_succ, ← hpolls] at hpos
  have hopens : Opens cfg
      ((metered cfg).exec (.boot true) (meterEvents (heldUp k ++ [.expire]))) p := by
    have hwindows : windows (polls (meterEvents (heldUp k ++ [.expire])) ++ [p]) =
        windows (dispatchedPolls (heldUp (k + 1))) := by
      rw [dispatchedPolls_heldUp_succ, ← hpolls]
      rfl
    have hN' : 0 < cfg.samples.toNat := by omega
    refine (opens_iff hN' true hposition).mpr ?_
    rw [hwindows, hstreak, hk]
    refine ⟨?_, ?_, by omega, dvd_refl _⟩
    · obtain ⟨w, hw, -⟩ := window_after_heldUp k
      have hstamp := lastStamp_heldUp k
      rw [← hpolls, dispatchedPolls] at hstamp
      rw [hstamp, hw]
      rfl
    · apply relayIsOn_of_few_windows (by omega) hposition.of_append
      · intro on hon
        rw [meterEvents_append, List.mem_append] at hon
        rcases hon with hon | hon
        · exact absurd hon (meterEvents_heldUp_of_relaySet k on)
        · simp [meterEvents] at hon
      · have hlen := (windows_heldUp k).length
        rw [← hpolls, dispatchedPolls] at hlen
        omega
  have hrun := run_heldUp (k + 1)
  have hprompt := prompt_heldUp ⟨0, heldUpMs (k + 1), k + 1 + 2, k + 1 + 2⟩ rfl (k + 1)
  rw [hes] at hrun hprompt
  have hprompt' : Prompt ⟨0, heldUpMs (k + 1), k + 1 + 2, k + 1 + 2⟩ lateMs
      (dispatchedPolls ((heldUp k ++ [.expire]) ++ [.dispatch p])) := by
    intro i p' hp'
    have := hprompt i p' hp'
    omega
  have hspan := h 0 true _ p _ (le_refl _) hrun hprompt' hopens
  have hall : (windows (dispatchedPolls (heldUp (k + 1)))).rtake cfg.samples.toNat =
      windows (dispatchedPolls (heldUp (k + 1))) := by
    rw [List.rtake, hws.length, hk, Nat.sub_self, List.drop_zero]
  rw [← hes, hall, hws.span, hk, heldUpMs, kMeterPollIntervalMs] at hspan
  omega

/-- **A trip spans the seconds it counts** exactly when no posted poll runs
later than one poll interval, or a single window trips. -/
theorem trip_spans_seconds_iff (cfg : OverPowerConfig) (hT : cfg.thresholdMw < 2 ^ 31)
    (hN : 1 ≤ cfg.samples.toNat) (lateMs : Nat) :
    TripSpans cfg lateMs ↔ lateMs ≤ 1000 ∨ cfg.samples.toNat = 1 := by
  constructor
  · intro h
    by_contra hne
    exact not_tripSpans hT (by omega) (by omega) h
  · exact tripSpans_of_prompt hN

/-- The shipped configuration survives polls one interval late, and not a
millisecond more. -/
theorem default_trip_spans_seconds : TripSpans {} 1000 ∧ ¬ TripSpans {} 1001 :=
  ⟨(trip_spans_seconds_iff {} (by decide) (by decide) 1000).mpr (by decide),
    fun h => absurd ((trip_spans_seconds_iff {} (by decide) (by decide) 1001).mp h) (by decide)⟩

/-- Six polls held up for over five seconds run back to back, and 5 ms of inrush
trip the shipped configuration. -/
theorem inrush_trips_behind_late_polls :
    let es : List QueueEvent := [.expire, .expire, .expire, .expire, .expire, .expire,
      .dispatch ⟨6001, 0, 0⟩, .dispatch ⟨6002, 2, 0⟩, .dispatch ⟨6003, 2, 0⟩,
      .dispatch ⟨6004, 2, 0⟩, .dispatch ⟨6005, 2, 0⟩]
    let p : Poll := ⟨6006, 2, 0⟩
    (pollQueue.run (PollQueue.start 0) (es ++ [.dispatch p])).isSome ∧
      Opens {} ((metered {}).exec (.boot true) (meterEvents es)) p ∧
      ¬ ((5 : Int) - 1) * kMeterPollIntervalMs ≤
        spanMs ((windows (dispatchedPolls (es ++ [.dispatch p]))).rtake 5) := by
  intro es p
  refine ⟨by decide, ?_, by decide⟩
  have hpos : PositiveStamps (polls (meterEvents es) ++ [p]) := by decide
  exact (opens_iff (by decide) true hpos).mpr (by decide)

end UascentPlug

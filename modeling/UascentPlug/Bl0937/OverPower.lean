import Mathlib.Algebra.BigOperators.Ring.List
import Mathlib.Algebra.Order.BigOperators.Group.List
import Mathlib.Data.Rat.Defs
import Mathlib.Tactic.FieldSimp
import Mathlib.Tactic.Linarith
import UascentPlug.Bl0937.Window

/-!
# UascentPlug.Bl0937.OverPower

Over-power protection over whole runs.  The driver counts samples above the
threshold in a `uint32_t` that three situations reset; from outside, the count
is the streak of over-threshold windows modulo `APP_OVERPOWER_SAMPLES`
(`Counts`), so a poll opens the relay exactly when it closes a window that
makes the streak a multiple of it (`opens_iff`).  The rounding bounds of
`UascentPlug.Lib.Rounding` then say what a trip means in pulses.
-/

namespace UascentPlug

open SampleStream

/-- The driver together with the plug it protects. -/
structure MeteredPlug where
  meter : Meter
  plug : Plug

/-- A poll, or the relay switched by anyone else between two polls. -/
inductive MeterEvent where
  | poll (p : Poll)
  | relaySet (on : Bool)
  deriving DecidableEq

/-- The protected plug: each poll's calls are performed on the switching
state; relay writes succeed. -/
def metered (cfg : OverPowerConfig) : Mealy MeteredPlug MeterEvent MeterCall where
  step s
    | .poll p =>
        let r := (s.meter.load p).meterPoll (some cfg) s.plug.relayIsOn p.nowMs
        ({ meter := r.1, plug := s.plug.performAll r.2 }, r.2)
    | .relaySet on => ({ s with plug := s.plug.relaySet 0 on }, [])

def MeteredPlug.boot (persisted : Bool) : MeteredPlug :=
  { meter := Meter.booted, plug := Plug.boot persisted }

/-- The polls of a run, without the switching between them. -/
def polls : List MeterEvent → List Poll
  | [] => []
  | .poll p :: es => p :: polls es
  | .relaySet _ :: es => polls es

/-- The scaled sample of a window exceeds the threshold. -/
def OverPowerConfig.exceeds (cfg : OverPowerConfig) (w : Window) : Bool :=
  cfg.thresholdMw < reading 775 w.cfSample

/-- The power the pulses of a window stand for, in mW, with no rounding. -/
def Window.exactPowerMw (w : Window) : ℚ := (w.cf.toNat : ℚ) * 10 ^ 9 / (775 * w.windowMs)

/-- The poll opens the relay. -/
def Opens (cfg : OverPowerConfig) (s : MeteredPlug) (p : Poll) : Prop :=
  s.plug.relayIsOn = true ∧ ((metered cfg).step s (.poll p)).1.plug.relayIsOn = false

/-- Every poll is at a positive uptime. -/
def PositiveStamps (ps : List Poll) : Prop := ∀ p ∈ ps, 0 < p.nowMs

instance (ps : List Poll) : Decidable (PositiveStamps ps) :=
  inferInstanceAs (Decidable (∀ p ∈ ps, 0 < p.nowMs))

/-- The polls before others have positive stamps if all have. -/
theorem PositiveStamps.of_append {ps qs : List Poll} (h : PositiveStamps (ps ++ qs)) :
    PositiveStamps ps := fun p hp => h p (List.mem_append_left _ hp)

@[simp] theorem polls_append (es fs : List MeterEvent) :
    polls (es ++ fs) = polls es ++ polls fs := by
  induction es with
  | nil => rfl
  | cons e es ih =>
      cases e with
      | poll p => simp only [List.cons_append, polls, ih]
      | relaySet on => simp only [List.cons_append, polls, ih]

/-! ## the counter is the streak modulo the number of samples -/

namespace Meter

/-- `CheckOverPower` is a debounced counter whose firing trips a closed relay. -/
theorem checkOverPower_eq_debounce {cfg : OverPowerConfig} {m : Meter}
    (hlt : m.sOverPowerSamples.toNat < cfg.samples.toNat) (relayIsOn : Bool) (power : Int) :
    let d := debounce cfg.samples.toNat (decide (cfg.thresholdMw < power))
      m.sOverPowerSamples.toNat
    (m.checkOverPower cfg relayIsOn power).1.sOverPowerSamples.toNat = d.1 ∧
      (m.checkOverPower cfg relayIsOn power).2 = if d.2 && relayIsOn then tripCalls else [] := by
  have hsucc : (m.sOverPowerSamples + 1).toNat = m.sOverPowerSamples.toNat + 1 := by
    have hN := cfg.samples.toNat_lt
    rw [UInt32.toNat_add, show (1 : UInt32).toNat = 1 from rfl, Nat.mod_eq_of_lt (by omega)]
  by_cases hle : power ≤ cfg.thresholdMw
  · have hhit : ¬ cfg.thresholdMw < power := by omega
    simp only [checkOverPower, debounce, if_pos hle, hhit, decide_false]
    exact ⟨rfl, rfl⟩
  · have hhit : cfg.thresholdMw < power := by omega
    simp only [checkOverPower, debounce, if_neg hle, hhit, decide_true, if_true,
      UInt32.lt_iff_toNat_lt, hsucc]
    by_cases hc : m.sOverPowerSamples.toNat + 1 < cfg.samples.toNat
    · simp only [if_pos hc]
      exact ⟨hsucc, rfl⟩
    · simp only [if_neg hc]
      cases relayIsOn
      · exact ⟨rfl, rfl⟩
      · exact ⟨rfl, rfl⟩

/-- Feeding the filters leaves the over-power count alone. -/
theorem sOverPowerSamples_measure (cfg : OverPowerConfig) (relayIsOn : Bool) (w : Window)
    (m : Meter) :
    (m.measure (some cfg) relayIsOn w).sOverPowerSamples =
      (m.protect (some cfg) relayIsOn (UInt32.ofNat w.cfRate)).1.sOverPowerSamples := by
  unfold measure
  obtain ⟨f, v, c, sel, pin, heq⟩ := pushCf1_eq (UInt32.ofNat w.cf1Rate)
    ((m.protect (some cfg) relayIsOn (UInt32.ofNat w.cfRate)).1.pushCf (UInt32.ofNat w.cfRate))
  rw [heq, pushCf_eq]

end Meter

/-- The over-power count is the streak of over-threshold windows among `ws`,
modulo the number of samples a trip needs. -/
structure Counts (cfg : OverPowerConfig) (s : MeteredPlug) (last : Option Int)
    (ws : List Window) : Prop where
  stamp : s.meter.StampIs last
  ready : s.plug.RelayReady
  count : s.meter.sOverPowerSamples.toNat = streak cfg.exceeds ws % cfg.samples.toNat

/-- At boot nothing has been counted. -/
theorem counts_boot (cfg : OverPowerConfig) (persisted : Bool) :
    Counts cfg (.boot persisted) none [] where
  stamp := ⟨rfl, by simp⟩
  ready := Plug.relayReady_boot persisted
  count := by rw [streak_nil, Nat.zero_mod]; rfl

/-- The publishing call at the end of a poll does not switch the relay. -/
theorem performAll_append_update (p : Plug) (calls : List MeterCall) (a v c : Int) :
    p.performAll (calls ++ [.powerMeasurementUpdate a v c]) = p.performAll calls := by
  rw [Plug.performAll, List.foldl_append]
  rfl

/-- **Step lemma**: a poll keeps the count, and trips exactly when it closes a
window that makes the streak a positive multiple of the number of samples. -/
theorem Counts.poll {cfg : OverPowerConfig} {s : MeteredPlug} {last : Option Int}
    {ws : List Window} (h : Counts cfg s last ws) (hN : 0 < cfg.samples.toNat) (p : Poll)
    (hpos : 0 < p.nowMs) :
    let s' := ((metered cfg).step s (.poll p)).1
    let ws' := ws ++ (p.window last).toList
    Counts cfg s' (some p.nowMs) ws' ∧
      (s'.plug = if (p.window last).isSome ∧ s.plug.relayIsOn = true ∧
          0 < streak cfg.exceeds ws' ∧ cfg.samples.toNat ∣ streak cfg.exceeds ws'
        then s.plug.overPowerTrip else s.plug) := by
  cases hw : p.window last with
  | none =>
      have hstep := Meter.poll_of_window_none h.stamp hw (some cfg) s.plug.relayIsOn
      simp only [metered, hstep, Option.toList_none, List.append_nil, Option.isSome_none,
        Bool.false_eq_true, false_and, if_false]
      exact ⟨⟨Meter.stampIs_of_pos rfl hpos, h.ready, h.count⟩, rfl⟩
  | some w =>
      have hstep := Meter.poll_of_window_some h.stamp hw (some cfg) s.plug.relayIsOn
      have hpower : scaled (UInt32.ofNat w.cfRate) kMilliCountsPerSecPerWatt =
          reading 775 w.cfSample := by
        have hscaled := scaled_eq_reading (UInt32.ofNat w.cfRate) 775
        rwa [UInt32.toNat_ofNat'] at hscaled
      have hlt : s.meter.sOverPowerSamples.toNat < cfg.samples.toNat := by
        rw [h.count]
        exact Nat.mod_lt _ hN
      obtain ⟨hcount, hcalls⟩ := Meter.checkOverPower_eq_debounce
        (m := { s.meter with sLastPollMs := p.nowMs, sCfPulses := 0, sCf1Pulses := 0 }) hlt
        s.plug.relayIsOn (reading 775 w.cfSample)
      simp only [h.count] at hcount hcalls
      rw [show decide (cfg.thresholdMw < reading 775 w.cfSample) = cfg.exceeds w from rfl,
        debounce_streak hN cfg.exceeds ws w] at hcount hcalls
      simp only [metered, hstep, Option.toList_some, Option.isSome_some, true_and]
      refine ⟨⟨?_, ?_, ?_⟩, ?_⟩
      · exact Meter.stampIs_of_pos (Meter.sLastPollMs_measure cfg s.plug.relayIsOn w _) hpos
      · rw [performAll_append_update]
        simp only [Meter.protect, hpower, hcalls]
        split
        · exact (Plug.relayReady_relaySet 0 false s.plug).mpr h.ready
        · exact h.ready
      · rw [Meter.sOverPowerSamples_measure]
        simp only [Meter.protect, hpower]
        exact hcount
      · rw [performAll_append_update]
        simp only [Meter.protect, hpower, hcalls, Bool.and_eq_true, decide_eq_true_eq]
        cases s.plug.relayIsOn with
        | true =>
            simp only [and_true, true_and]
            split <;> rfl
        | false => simp [Plug.performAll]

/-- **Run lemma**: the count is the streak modulo the number of samples after
every run, whatever switches the relay in it. -/
theorem counts_of_run {cfg : OverPowerConfig} (hN : 0 < cfg.samples.toNat) (persisted : Bool)
    {es : List MeterEvent} (hpos : PositiveStamps (polls es)) :
    Counts cfg ((metered cfg).exec (.boot persisted) es) (lastStamp (polls es))
      (windows (polls es)) := by
  induction es using List.reverseRecOn with
  | nil => exact counts_boot cfg persisted
  | append_singleton es e ih =>
      rw [polls_append] at hpos
      have hprev := ih hpos.of_append
      rw [Mealy.exec_append, polls_append]
      cases e with
      | relaySet on =>
          rw [polls, polls, List.append_nil]
          exact ⟨hprev.stamp, (Plug.relayReady_relaySet 0 on _).mpr hprev.ready, hprev.count⟩
      | poll p =>
          rw [polls, polls, windows_concat, lastStamp_concat]
          exact (hprev.poll hN p (hpos p (by simp [polls]))).1

/-- **Exactness**: a poll opens the relay exactly when it closes a window, the
relay is on, and the streak of over-threshold windows is then a positive
multiple of the number of samples. -/
theorem opens_iff {cfg : OverPowerConfig} (hN : 0 < cfg.samples.toNat) (persisted : Bool)
    {es : List MeterEvent} {p : Poll} (hpos : PositiveStamps (polls es ++ [p])) :
    let s := (metered cfg).exec (.boot persisted) es
    let n := streak cfg.exceeds (windows (polls es ++ [p]))
    Opens cfg s p ↔ (p.window (lastStamp (polls es))).isSome ∧ s.plug.relayIsOn = true ∧
      0 < n ∧ cfg.samples.toNat ∣ n := by
  have hcounts := counts_of_run hN persisted hpos.of_append
  have hstep := (hcounts.poll hN p (hpos p (by simp))).2
  rw [← windows_concat] at hstep
  simp only [Opens, hstep]
  by_cases htrip : (p.window (lastStamp (polls es))).isSome ∧
      ((metered cfg).exec (.boot persisted) es).plug.relayIsOn = true ∧
      0 < streak cfg.exceeds (windows (polls es ++ [p])) ∧
      cfg.samples.toNat ∣ streak cfg.exceeds (windows (polls es ++ [p]))
  · have hoff : ((metered cfg).exec (.boot persisted) es).plug.overPowerTrip.relayIsOn = false :=
      Plug.relayIsOn_relaySet hcounts.ready false
    rw [if_pos htrip]
    exact ⟨fun _ => htrip, fun _ => ⟨htrip.2.1, hoff⟩⟩
  · rw [if_neg htrip]
    constructor
    · rintro ⟨hon, hoff⟩
      rw [hon] at hoff
      contradiction
    · exact fun h => absurd h htrip

/-! ## what a trip means in pulses -/

/-- A sample above the threshold comes from pulses above it: rounding down
twice never trips early. -/
theorem lt_of_exceeds {cfg : OverPowerConfig} {w : Window} (h : cfg.exceeds w = true) :
    775 * cfg.thresholdMw * w.windowMs < (w.cf.toNat : Int) * 10 ^ 9 := by
  have hlt : cfg.thresholdMw < reading 775 w.cfSample := by
    simpa [OverPowerConfig.exceeds] using h
  have hpos : (0 : Int) < w.windowMs := by exact_mod_cast w.pos
  have hcast : reading 775 w.cfSample ≤ ((w.cfRate * 1000000 / 775 : Nat) : Int) :=
    Int.ofNat_le.mpr (Nat.div_le_div_right (Nat.mul_le_mul_right _ (Nat.mod_le _ _)))
  have hround : ((w.cfRate * 1000000 / 775 : Nat) : Int) * (775 * w.windowMs) ≤
      (w.cf.toNat : Int) * 1000 * 1000000 := by
    exact_mod_cast Rounding.mul_le_of_div_mul_div (w.cf.toNat * 1000) 1000000 775 w.windowMs
  calc
    775 * cfg.thresholdMw * w.windowMs = cfg.thresholdMw * (775 * w.windowMs) := by ring
    _ < ((w.cfRate * 1000000 / 775 : Nat) : Int) * (775 * w.windowMs) :=
        Int.mul_lt_mul_of_pos_right (hlt.trans_le hcast) (by omega)
    _ ≤ (w.cf.toNat : Int) * 1000 * 1000000 := hround
    _ = (w.cf.toNat : Int) * 10 ^ 9 := by ring

/-- Pulses one count per second and 1 mW above the threshold survive both
roundings. -/
theorem exceeds_of_exact {cfg : OverPowerConfig} {w : Window} (hfit : w.cfRate < 2 ^ 32)
    (h : (cfg.thresholdMw : ℚ) + 10 ^ 6 / 775 + 1 ≤ w.exactPowerMw) : cfg.exceeds w = true := by
  have hpos : (0 : ℚ) < w.windowMs := by exact_mod_cast w.pos
  have hpulses : (775 * (cfg.thresholdMw + 1) + 10 ^ 6) * (w.windowMs : Int) ≤
      (w.cf.toNat : Int) * 1000 * 1000000 := by
    have hq : (775 * ((cfg.thresholdMw : ℚ) + 1) + 10 ^ 6) * w.windowMs ≤
        (w.cf.toNat : ℚ) * 1000 * 1000000 := by
      rw [Window.exactPowerMw, le_div_iff₀ (by positivity)] at h
      linarith
    exact_mod_cast hq
  have hround : (w.cf.toNat : Int) * 1000 * 1000000 <
      (((w.cfRate * 1000000 / 775 : Nat) : Int) + 1) * (775 * w.windowMs) +
        1000000 * w.windowMs := by
    exact_mod_cast Rounding.lt_add_of_div_mul_div (by omega) w.pos (w.cf.toNat * 1000) 1000000
  have hlt : cfg.thresholdMw < reading 775 w.cfSample := by
    rw [reading, Window.cfSample, Nat.mod_eq_of_lt hfit]
    by_contra hle
    have hmul : (((w.cfRate * 1000000 / 775 : Nat) : Int) + 1) * (775 * w.windowMs) ≤
        (cfg.thresholdMw + 1) * (775 * w.windowMs) :=
      Int.mul_le_mul_of_nonneg_right (by omega) (by positivity)
    nlinarith
  simpa [OverPowerConfig.exceeds] using hlt

/-- Summed over windows that all exceed the threshold, the pulses still do. -/
theorem sum_lt_of_exceeds {cfg : OverPowerConfig} {ws : List Window} (hne : ws ≠ [])
    (h : ∀ w ∈ ws, cfg.exceeds w = true) :
    775 * cfg.thresholdMw * (ws.map fun w => (w.windowMs : Int)).sum <
      (ws.map fun w => (w.cf.toNat : Int)).sum * 10 ^ 9 := by
  rw [← List.sum_map_mul_left, ← List.sum_map_mul_right]
  exact List.sum_lt_sum_of_ne_nil hne _ _ fun w hw => lt_of_exceeds (h w hw)

/-! ## an overload that lasts trips -/

/-- The calls of a poll leave the relay configured. -/
theorem relayReady_performAll (calls : List MeterCall) {p : Plug} (h : p.RelayReady) :
    (p.performAll calls).RelayReady := by
  induction calls generalizing p with
  | nil => exact h
  | cons c calls ih =>
      cases c with
      | relaySet on => exact ih ((Plug.relayReady_relaySet 0 on p).mpr h)
      | updateClusterState => exact ih h
      | powerMeasurementUpdate a v c => exact ih h

/-- The poll that closes the window number `j` of a list of events. -/
theorem exists_poll_closing {fs : List MeterEvent} {last : Option Int} {j : Nat}
    (hj : j < (windowsAfter last (polls fs)).length) :
    ∃ f₁ p f₂, fs = f₁ ++ .poll p :: f₂ ∧ (windowsAfter last (polls f₁)).length = j ∧
      (p.window (stampAfter last (polls f₁))).isSome := by
  induction fs generalizing last j with
  | nil => simp [polls, windowsAfter] at hj
  | cons e fs ih =>
      cases e with
      | relaySet on =>
          obtain ⟨f₁, p, f₂, rfl, hlen, hsome⟩ := ih hj
          exact ⟨.relaySet on :: f₁, p, f₂, rfl, hlen, hsome⟩
      | poll q =>
          rw [polls, windowsAfter, List.length_append] at hj
          cases hq : q.window last with
          | none =>
              rw [hq, Option.toList_none, List.length_nil, Nat.zero_add] at hj
              obtain ⟨f₁, p, f₂, rfl, hlen, hsome⟩ := ih hj
              refine ⟨.poll q :: f₁, p, f₂, rfl, ?_, hsome⟩
              rw [polls, windowsAfter, hq, Option.toList_none, List.nil_append, hlen]
          | some w =>
              rw [hq, Option.toList_some, List.length_singleton] at hj
              cases j with
              | zero => exact ⟨[], q, fs, rfl, rfl, by rw [polls, stampAfter, hq]; rfl⟩
              | succ j =>
                  have hj' : j < (windowsAfter (some q.nowMs) (polls fs)).length := by omega
                  obtain ⟨f₁, p, f₂, rfl, hlen, hsome⟩ := ih hj'
                  refine ⟨.poll q :: f₁, p, f₂, rfl, ?_, hsome⟩
                  rw [polls, windowsAfter, hq, Option.toList_some, List.length_append, hlen,
                    List.length_singleton]
                  omega

/-- While nobody else switches it off, a closed relay stays closed until some
poll opens it. -/
theorem opens_or_stays_on (cfg : OverPowerConfig) {s : MeteredPlug} {fs : List MeterEvent}
    (hready : s.plug.RelayReady) (hon : s.plug.relayIsOn = true)
    (hothers : ∀ on, .relaySet on ∈ fs → on = true) :
    (∃ f₁ p f₂, fs = f₁ ++ .poll p :: f₂ ∧ Opens cfg ((metered cfg).exec s f₁) p) ∨
      ((metered cfg).exec s fs).plug.relayIsOn = true := by
  induction fs generalizing s with
  | nil => exact Or.inr hon
  | cons e fs ih =>
      have hrest : ∀ on, .relaySet on ∈ fs → on = true :=
        fun on h => hothers on (List.mem_cons_of_mem e h)
      have hnext : ((metered cfg).step s e).1.plug.RelayReady →
          ((metered cfg).step s e).1.plug.relayIsOn = true →
          (∃ f₁ p f₂, e :: fs = f₁ ++ .poll p :: f₂ ∧ Opens cfg ((metered cfg).exec s f₁) p) ∨
            ((metered cfg).exec s (e :: fs)).plug.relayIsOn = true := by
        intro hready' hon'
        rcases ih hready' hon' hrest with ⟨f₁, p, f₂, rfl, hopens⟩ | hstays
        · exact Or.inl ⟨e :: f₁, p, f₂, rfl, hopens⟩
        · exact Or.inr hstays
      cases e with
      | relaySet on =>
          obtain rfl := hothers on List.mem_cons_self
          exact hnext ((Plug.relayReady_relaySet 0 true s.plug).mpr hready)
            (Plug.relayIsOn_relaySet hready true)
      | poll p =>
          cases hoff : ((metered cfg).step s (.poll p)).1.plug.relayIsOn with
          | false => exact Or.inl ⟨[], p, fs, rfl, hon, hoff⟩
          | true => exact hnext (relayReady_performAll _ hready) hoff

/-- Among any `n` values in a row that start above `c`, one is a multiple of `n`. -/
theorem exists_multiple_in_row {n : Nat} (hn : 0 < n) (c : Nat) : ∃ j < n, n ∣ c + j + 1 := by
  refine ⟨n - 1 - c % n, by omega, ?_⟩
  have hlt : c % n < n := Nat.mod_lt c hn
  have hsum : c + (n - 1 - c % n) + 1 = n * (c / n) + n := by
    have hdiv := Nat.div_add_mod c n
    omega
  rw [hsum]
  exact ⟨c / n + 1, by ring⟩

/-- **Completeness**: over `N` windows above the threshold by a count per second
and 1 mW, a relay that nobody else switches off is opened. -/
theorem exists_opens {cfg : OverPowerConfig} (hN : 0 < cfg.samples.toNat) (persisted : Bool)
    {es fs : List MeterEvent} (hpos : PositiveStamps (polls (es ++ fs)))
    (hon : ((metered cfg).exec (.boot persisted) es).plug.relayIsOn = true)
    (hothers : ∀ on, .relaySet on ∈ fs → on = true)
    (hlen : (windowsAfter (lastStamp (polls es)) (polls fs)).length = cfg.samples.toNat)
    (hover : ∀ w ∈ windowsAfter (lastStamp (polls es)) (polls fs), w.cfRate < 2 ^ 32 ∧
      (cfg.thresholdMw : ℚ) + 10 ^ 6 / 775 + 1 ≤ w.exactPowerMw) :
    ∃ f₁ p f₂, fs = f₁ ++ .poll p :: f₂ ∧
      Opens cfg ((metered cfg).exec (.boot persisted) (es ++ f₁)) p := by
  rw [polls_append] at hpos
  obtain ⟨j, hj, hdvd⟩ := exists_multiple_in_row hN (streak cfg.exceeds (windows (polls es)))
  obtain ⟨f₁, p, f₂, rfl, hlen₁, hsome⟩ := exists_poll_closing (hlen ▸ hj)
  have hothers₁ : ∀ on, .relaySet on ∈ f₁ → on = true :=
    fun on h => hothers on (List.mem_append_left _ h)
  have hready := (counts_of_run hN persisted hpos.of_append).ready
  rcases opens_or_stays_on cfg hready hon hothers₁ with ⟨g₁, q, g₂, rfl, hopens⟩ | hstays
  · -- an earlier poll already opened it
    refine ⟨g₁, q, g₂ ++ .poll p :: f₂, by simp, ?_⟩
    rw [Mealy.exec_append]
    exact hopens
  · -- this poll makes the streak a multiple of `N`
    refine ⟨f₁, p, f₂, rfl, ?_⟩
    obtain ⟨w, hw⟩ := Option.isSome_iff_exists.mp hsome
    have hstamp : lastStamp (polls (es ++ f₁)) = stampAfter (lastStamp (polls es)) (polls f₁) := by
      rw [polls_append, lastStamp, stampAfter_append]
      rfl
    have hclosed : windows (polls (es ++ f₁) ++ [p]) =
        windows (polls es) ++ (windowsAfter (lastStamp (polls es)) (polls f₁) ++ [w]) := by
      rw [windows_concat, hstamp, hw, polls_append, windows, windowsAfter_append,
        List.append_assoc]
      rfl
    have hsub : ∀ v ∈ windowsAfter (lastStamp (polls es)) (polls f₁) ++ [w],
        cfg.exceeds v = true := by
      intro v hv
      have hmem : v ∈ windowsAfter (lastStamp (polls es)) (polls (f₁ ++ .poll p :: f₂)) := by
        rw [polls_append, windowsAfter_append, polls, windowsAfter, hw]
        rw [List.mem_append] at hv ⊢
        rcases hv with hv | hv
        · exact Or.inl hv
        · exact Or.inr (List.mem_append_left _ hv)
      exact exceeds_of_exact (hover v hmem).1 (hover v hmem).2
    have hstreak : streak cfg.exceeds (windows (polls (es ++ f₁) ++ [p])) =
        streak cfg.exceeds (windows (polls es)) + j + 1 := by
      rw [hclosed, streak_append_of_all _ _ _ hsub, List.length_append, hlen₁,
        List.length_singleton]
      omega
    have hpos₁ : PositiveStamps (polls (es ++ f₁) ++ [p]) := by
      have hall : PositiveStamps ((polls (es ++ f₁) ++ [p]) ++ polls f₂) := by
        simpa [polls] using hpos
      exact hall.of_append
    have hrelay : ((metered cfg).exec (.boot persisted) (es ++ f₁)).plug.relayIsOn = true := by
      rw [Mealy.exec_append]
      exact hstays
    rw [← hstamp] at hsome
    rw [← hstreak] at hdvd
    exact (opens_iff hN persisted hpos₁).mpr ⟨hsome, hrelay, by rw [hstreak]; omega, hdvd⟩

/-! ## the protection is exact -/

/-- **Over-power protection is exact with respect to the pulses.**  In every
run, a poll opens the relay exactly when it closes a window, the relay is on
and the streak of samples above the threshold is a positive multiple of `N`;
the pulses of the last `N` windows then exceed the threshold on average; and
`N` windows that exceed it by one count per second and 1 mW open the relay,
whatever came before. -/
theorem protection_is_exact (cfg : OverPowerConfig) (hN : 1 ≤ cfg.samples.toNat)
    (persisted : Bool) :
    (∀ es p, PositiveStamps (polls es ++ [p]) →
      let s := (metered cfg).exec (.boot persisted) es
      let ws := windows (polls es ++ [p])
      (Opens cfg s p ↔ (p.window (lastStamp (polls es))).isSome ∧ s.plug.relayIsOn = true ∧
          0 < streak cfg.exceeds ws ∧ cfg.samples.toNat ∣ streak cfg.exceeds ws) ∧
        (Opens cfg s p → cfg.samples.toNat ≤ ws.length ∧
          775 * cfg.thresholdMw *
              ((ws.rtake cfg.samples.toNat).map fun w => (w.windowMs : Int)).sum <
            ((ws.rtake cfg.samples.toNat).map fun w => (w.cf.toNat : Int)).sum * 10 ^ 9)) ∧
      ∀ es fs, PositiveStamps (polls (es ++ fs)) →
        ((metered cfg).exec (.boot persisted) es).plug.relayIsOn = true →
        (∀ on, .relaySet on ∈ fs → on = true) →
        (windowsAfter (lastStamp (polls es)) (polls fs)).length = cfg.samples.toNat →
        (∀ w ∈ windowsAfter (lastStamp (polls es)) (polls fs), w.cfRate < 2 ^ 32 ∧
          (cfg.thresholdMw : ℚ) + 10 ^ 6 / 775 + 1 ≤ w.exactPowerMw) →
        ∃ f₁ p f₂, fs = f₁ ++ .poll p :: f₂ ∧
          Opens cfg ((metered cfg).exec (.boot persisted) (es ++ f₁)) p := by
  refine ⟨fun es p hpos => ?_, fun es fs hpos hon hothers hlen hover =>
    exists_opens hN persisted hpos hon hothers hlen hover⟩
  intro s ws
  have hiff := opens_iff hN persisted hpos
  refine ⟨hiff, fun hopens => ?_⟩
  obtain ⟨-, -, hpos, hdvd⟩ := hiff.mp hopens
  have hle : cfg.samples.toNat ≤ streak cfg.exceeds ws := Nat.le_of_dvd hpos hdvd
  have hlen : cfg.samples.toNat ≤ ws.length := hle.trans (streak_le_length _ _)
  have hne : ws.rtake cfg.samples.toNat ≠ [] := by
    intro hnil
    have hlen' := congrArg List.length hnil
    rw [List.rtake, List.length_drop, List.length_nil] at hlen'
    omega
  exact ⟨hlen, sum_lt_of_exceeds hne (of_mem_rtake_of_le_streak hle)⟩

/-- Five windows of 2 000 counts per second trip the shipped configuration. -/
theorem default_config_trips :
    Opens {} ((metered {}).exec (.boot true)
      [.poll ⟨1000, 0, 0⟩, .poll ⟨2000, 2000, 0⟩, .poll ⟨3000, 2000, 0⟩,
        .poll ⟨4000, 2000, 0⟩, .poll ⟨5000, 2000, 0⟩]) ⟨6000, 2000, 0⟩ :=
  ((protection_is_exact {} (by decide) true).1
    [.poll ⟨1000, 0, 0⟩, .poll ⟨2000, 2000, 0⟩, .poll ⟨3000, 2000, 0⟩,
      .poll ⟨4000, 2000, 0⟩, .poll ⟨5000, 2000, 0⟩] ⟨6000, 2000, 0⟩ (by decide)).1.mpr (by decide)

end UascentPlug

import Mathlib.Tactic.Linarith
import UascentPlug.Energy.Integral
import UascentPlug.Energy.Loss
import UascentPlug.Lib.Spacing

/-!
# UascentPlug.Energy.Wear

How often the flash is written.  Between two writes the unsaved total has to
climb to the threshold again, at no more than 83 mWh a second below 302.4 W;
that takes twenty minutes, so three writes fit in an hour.  At 302.4 W it is
84 mWh, the writes are 1191 s apart and a fourth one fits.

Totals are exact here; what decides on a write is how far two of them are apart.
-/

namespace UascentPlug

open PowerMeasurement Spacing

/-- A call of at most `maxMw`, one second after the one before it. -/
def Device.DrawsEachSecond (maxMw : Int) (d : Device) (e : DeviceEvent) : Prop :=
  d.Draws maxMw e ∧ ∀ u, e = .update u → d.pm.sHaveLastSample = true → u.nowMs = d.uptimeMs + 1000

/-- The writes of a run in a half-open interval of one hour. -/
def hourWrites (a : Int) (os : List (Int × Effect)) : List Int :=
  (putTimes os).filter fun t => a ≤ t ∧ t < a + 3600000

/-- No run of a boot, sampled each second at no more than `maxMw`, writes more
than three times in an hour. -/
def AtMostThreeAnHour (maxMw : Int) : Prop :=
  ∀ (d : Device) (es : List DeviceEvent) (a : Int),
    device.Admits (Device.DrawsEachSecond maxMw) (device.step d (.boot .noError)).1 es →
    (hourWrites a (device.trace (device.step d (.boot .noError)).1 es)).length ≤ 3

/-! ## below 302.4 W -/

/-- A boot with writes at `ts`, at no more than 83 mWh a second. -/
structure SlowlyFilling (d : Device) (ts : List Int) : Prop where
  boot : ∃ writeMs, Unsaved 302399 d writeMs ∧ ∀ t ∈ ts, t ≤ writeMs
  spaced : Spaced 1200000 ts
  filled : 1000 * (d.pm.sCumulativeEnergyMwh - d.pm.sLastPersistedEnergyMwh) ≤
    83 * (d.uptimeMs - d.pm.sLastPersistMs)

/-- A boot has written nothing and filled nothing. -/
theorem slowlyFilling_boot (d : Device) : SlowlyFilling (device.step d (.boot .noError)).1 [] where
  boot := ⟨0, unsaved_boot 302399 d, by simp⟩
  spaced := List.Pairwise.nil
  filled := by
    simp only [device, booted_eq]
    omega

/-- A second below 302.4 W adds at most 83 mWh. -/
theorem energyMwh_second_le {last p : Int} (hlast : 0 ≤ last) (hp : 0 ≤ p)
    (hlastMax : last ≤ 302399) (hpMax : p ≤ 302399) : energyMwh last p 1000 ≤ 83 := by
  have hle := energyMwh_le hlast hp hlastMax hpMax (by decide : (0 : Int) ≤ 1000)
  omega

/-- A call adds at most 83 mWh for its second. -/
theorem SlowlyFilling.filled_totalMwh {d : Device} {ts : List Int} (h : SlowlyFilling d ts)
    {u : Sample} (hok : d.DrawsEachSecond 302399 (.update u)) :
    1000 * (d.pm.totalMwh u - d.pm.sLastPersistedEnergyMwh) ≤
      83 * (u.nowMs - d.pm.sLastPersistMs) := by
  obtain ⟨writeMs, hunsaved, -⟩ := h.boot
  obtain ⟨⟨⟨hp, htime⟩, hpMax, -⟩, hsecond⟩ := hok
  have hpast := hunsaved.past
  rw [← hunsaved.written] at hpast
  cases hprimed : d.pm.sHaveLastSample with
  | false =>
      have htotal : d.pm.totalMwh u = d.pm.sLastPersistedEnergyMwh := by
        rw [totalMwh, stepMwh, hprimed, hunsaved.unprimed hprimed]
        simp
      omega
  | true =>
      obtain ⟨hclock, hlastMax⟩ := hunsaved.primed hprimed
      have hnow := hsecond u rfl hprimed
      have helapsed : u.nowMs - d.uptimeMs = 1000 := by omega
      have hstep := energyMwh_second_le hunsaved.sane.power hp hlastMax hpMax
      have hfilled := h.filled
      rw [totalMwh, stepMwh, if_pos hprimed, hclock, helapsed]
      omega

/-- **Step lemma**: a write comes at least twenty minutes after the one before. -/
theorem SlowlyFilling.update {d : Device} {ts : List Int} (h : SlowlyFilling d ts) {u : Sample}
    (hok : d.DrawsEachSecond 302399 (.update u)) :
    SlowlyFilling (device.step d (.update u)).1 (ts ++ putTimes (device.step d (.update u)).2) := by
  have hfilled := h.filled_totalMwh hok
  obtain ⟨writeMs, hunsaved, hwrites⟩ := h.boot
  have hnext := hunsaved.update hok.1
  have hupdated := updated u hunsaved.delegate
  have hpast := hunsaved.past
  have htime := hok.1.1.2
  have hwritten := hunsaved.written
  rw [putTimes_update hunsaved.delegate] at hnext ⊢
  by_cases hdue : d.pm.PutDue u
  · have hdone : d.pm.PutDue u ∧ u.putErr = .noError := ⟨hdue, hok.1.2.2⟩
    rw [if_pos hdue] at hnext ⊢
    rw [List.getLast?_singleton, Option.getD_some] at hnext
    have hgap : writeMs + 1200000 ≤ u.nowMs := by
      obtain ⟨-, -, hreason⟩ := hdue
      rw [hwritten] at hreason hfilled
      simp only [kEnergyPersistThresholdMwh, kEnergyPersistMinIntervalMs,
        kEnergyPersistMaxIntervalMs] at hreason
      omega
    refine ⟨⟨u.nowMs, hnext, fun t ht => ?_⟩, ?_, ?_⟩
    · rw [List.mem_append, List.mem_singleton] at ht
      cases ht with
      | inl hold =>
          have hle := hwrites t hold
          omega
      | inr hnew => exact hnew.le
    · refine List.pairwise_append.mpr ⟨h.spaced, List.pairwise_singleton _ _, fun t ht t' ht' => ?_⟩
      have hle := hwrites t ht
      rw [List.mem_singleton.mp ht']
      omega
    · have hpersisted := hupdated.persisted
      have hpersistMs := hupdated.persistMs
      rw [if_pos hdone] at hpersisted hpersistMs
      simp only [device, hupdated.total, hpersisted, hpersistMs]
      omega
  · have hnot : ¬ (d.pm.PutDue u ∧ u.putErr = .noError) := fun hdone => hdue hdone.1
    rw [if_neg hdue] at hnext ⊢
    rw [List.append_nil]
    refine ⟨⟨writeMs, hnext, hwrites⟩, h.spaced, ?_⟩
    have hpersisted := hupdated.persisted
    have hpersistMs := hupdated.persistMs
    rw [if_neg hnot] at hpersisted hpersistMs
    simp only [device, hupdated.total, hpersisted, hpersistMs]
    exact hfilled

/-- **Run lemma**: the writes of a boot are at least twenty minutes apart. -/
theorem slowlyFilling_of_run (d : Device) {es : List DeviceEvent}
    (hok : device.Admits (Device.DrawsEachSecond 302399) (device.step d (.boot .noError)).1 es) :
    SlowlyFilling (device.exec (device.step d (.boot .noError)).1 es)
      (putTimes (device.trace (device.step d (.boot .noError)).1 es)) := by
  induction es using List.reverseRecOn with
  | nil => exact slowlyFilling_boot d
  | append_singleton es e ih =>
      rw [Mealy.admits_append] at hok
      have hprev := ih hok.1
      have hlast := hok.2.1
      cases e with
      | update u =>
          rw [Mealy.exec_append, Mealy.trace_append, putTimes_append, Mealy.trace_cons,
            Mealy.trace_nil, List.append_nil]
          exact hprev.update hlast
      | cut u done => exact absurd hlast.1 id
      | boot readErr => exact absurd hlast.1 id

/-- What stays below a power stays below a larger one. -/
theorem Device.DrawsEachSecond.mono {maxMw maxMw' : Int} (hle : maxMw ≤ maxMw') {d : Device}
    {e : DeviceEvent} (h : d.DrawsEachSecond maxMw e) : d.DrawsEachSecond maxMw' e := by
  obtain ⟨hdraws, hsecond⟩ := h
  cases e with
  | update u => exact ⟨⟨hdraws.1, hdraws.2.1.trans hle, hdraws.2.2⟩, hsecond⟩
  | cut u done => exact absurd hdraws id
  | boot readErr => exact absurd hdraws id

/-- Below 302.4 W three writes an hour are never exceeded. -/
theorem atMostThreeAnHour_of_lt {maxMw : Int} (hmax : maxMw < 302400) :
    AtMostThreeAnHour maxMw := by
  intro d es a hok
  have hok' := hok.imp device fun _ _ h => h.mono (by omega : maxMw ≤ 302399)
  exact (slowlyFilling_of_run d hok').spaced.length_filter_le (by decide) (by decide) a

/-! ## a steady draw -/

/-- `k` calls of a steady draw of `p` mW after a write at `writeMs`. -/
structure Drawing (p writeMs : Int) (k : Nat) (d : Device) : Prop where
  delegate : d.pm.sDelegate.isSome = true
  primed : d.pm.sHaveLastSample = true
  power : d.pm.sLastActivePowerMw = p
  clock : d.pm.sLastSampleMs = d.uptimeMs
  uptime : d.uptimeMs = writeMs + 1000 * k
  written : d.pm.sLastPersistMs = writeMs
  unsaved : d.pm.sCumulativeEnergyMwh - d.pm.sLastPersistedEnergyMwh = k * (p / 3600)

/-- `k` seconds of `p` mW are enough for a write. -/
def WriteAfter (p : Int) (k : Nat) : Prop :=
  0 < k * (p / 3600) ∧ ((100000 ≤ k * (p / 3600) ∧ 600 ≤ k) ∨ 21600 ≤ k)

/-- A second of steady power adds its rounded energy. -/
theorem energyMwh_steady {p : Int} (hp : 0 ≤ p) : energyMwh p p 1000 = p / 3600 := by
  have havg : (p + p).tdiv 2 = p := by
    rw [Int.tdiv_eq_ediv_of_nonneg (by omega)]
    omega
  rw [energyMwh, havg, Int.tdiv_eq_ediv_of_nonneg (by omega)]
  omega

namespace Drawing

variable {p writeMs : Int} {k : Nat} {d : Device}

/-- After `k` seconds of steady power `k` times that is unsaved. -/
theorem unsaved_totalMwh (h : Drawing p writeMs k d) (hp : 0 ≤ p) :
    d.pm.totalMwh { activePowerMw := p, nowMs := d.uptimeMs + 1000 } -
      d.pm.sLastPersistedEnergyMwh = (k + 1 : Nat) * (p / 3600) := by
  have hunsaved := h.unsaved
  have helapsed : d.uptimeMs + 1000 - d.uptimeMs = 1000 := by omega
  rw [totalMwh, stepMwh, if_pos h.primed, h.power, h.clock, helapsed, energyMwh_steady hp]
  push_cast
  rw [Int.add_mul, Int.one_mul]
  omega

/-- A write is due by the number of seconds since the last. -/
theorem putDue_iff (h : Drawing p writeMs k d) (hp : 0 ≤ p) :
    d.pm.PutDue { activePowerMw := p, nowMs := d.uptimeMs + 1000 } ↔ WriteAfter p (k + 1) := by
  have huptime := h.uptime
  rw [PutDue, h.unsaved_totalMwh hp, h.written, WriteAfter]
  simp only [h.primed, true_and, kEnergyPersistThresholdMwh, kEnergyPersistMinIntervalMs,
    kEnergyPersistMaxIntervalMs]
  constructor
  · rintro ⟨hpos, hreason⟩
    exact ⟨hpos, by omega⟩
  · rintro ⟨hpos, hreason⟩
    exact ⟨hpos, by omega⟩

/-- One more second without a write. -/
theorem next (h : Drawing p writeMs k d) (hp : 0 ≤ p) (hnot : ¬ WriteAfter p (k + 1)) :
    let r := device.step d (.update { activePowerMw := p, nowMs := d.uptimeMs + 1000 })
    Drawing p writeMs (k + 1) r.1 ∧ putTimes r.2 = [] := by
  intro r
  have hupdated := updated { activePowerMw := p, nowMs := d.uptimeMs + 1000 } h.delegate
  have hquiet := (h.putDue_iff hp).not.mpr hnot
  have hpersisted := hupdated.persisted
  have hwritten := hupdated.persistMs
  rw [if_neg fun hdone => hquiet hdone.1] at hpersisted hwritten
  have huptime := h.uptime
  refine ⟨?_, (putTimes_update h.delegate _).trans (if_neg hquiet)⟩
  exact {
    delegate := hupdated.delegate
    primed := hupdated.primed
    power := hupdated.power
    clock := hupdated.clock
    uptime := by
      simp only [r, device]
      omega
    written := hwritten.trans h.written
    unsaved := by
      simp only [r, device, hupdated.total, hpersisted]
      exact h.unsaved_totalMwh hp }

/-- The second that brings a write. -/
theorem write (h : Drawing p writeMs k d) (hp : 0 ≤ p) (hdue : WriteAfter p (k + 1)) :
    let r := device.step d (.update { activePowerMw := p, nowMs := d.uptimeMs + 1000 })
    Drawing p (d.uptimeMs + 1000) 0 r.1 ∧ putTimes r.2 = [d.uptimeMs + 1000] := by
  intro r
  have hupdated := updated { activePowerMw := p, nowMs := d.uptimeMs + 1000 } h.delegate
  have hput := (h.putDue_iff hp).mpr hdue
  have hpersisted := hupdated.persisted
  have hwritten := hupdated.persistMs
  rw [if_pos ⟨hput, rfl⟩] at hpersisted hwritten
  refine ⟨?_, (putTimes_update h.delegate _).trans (if_pos hput)⟩
  exact {
    delegate := hupdated.delegate
    primed := hupdated.primed
    power := hupdated.power
    clock := hupdated.clock
    uptime := by simp [r, device]
    written := hwritten
    unsaved := by simp [r, device, hupdated.total, hpersisted] }

/-- Seconds without a write. -/
theorem quiet {n : Nat} (h : Drawing p writeMs k d) (hp : 0 ≤ p)
    (hnot : ∀ j, j ≤ k + n → ¬ WriteAfter p j) :
    let es := (steady p 1000 d.uptimeMs n).map DeviceEvent.update
    Drawing p writeMs (k + n) (device.exec d es) ∧ putTimes (device.trace d es) = [] := by
  induction n generalizing k d with
  | zero => exact ⟨h, rfl⟩
  | succ n ih =>
      obtain ⟨hnext, hnone⟩ := h.next hp (hnot (k + 1) (by omega))
      obtain ⟨hrest, hnone'⟩ := ih hnext (fun j hj => hnot j (by omega))
      have hk : k + 1 + n = k + (n + 1) := by omega
      rw [hk] at hrest
      refine ⟨hrest, ?_⟩
      simp only [steady, List.map_cons, Mealy.trace_cons, putTimes_append, hnone, List.nil_append]
      exact hnone'

/-- **One period**: the `n + 1` seconds from a write to the next one. -/
theorem period {n : Nat} (h : Drawing p writeMs 0 d) (hp : 0 ≤ p)
    (hnot : ∀ j, j ≤ n → ¬ WriteAfter p j) (hdue : WriteAfter p (n + 1)) :
    let es := (steady p 1000 writeMs (n + 1)).map DeviceEvent.update
    Drawing p (writeMs + 1000 * (n + 1 : Nat)) 0 (device.exec d es) ∧
      putTimes (device.trace d es) = [writeMs + 1000 * (n + 1 : Nat)] := by
  intro es
  have hstart : d.uptimeMs = writeMs := by
    have huptime := h.uptime
    omega
  obtain ⟨hquiet, hnone⟩ := h.quiet hp (n := n) (fun j hj => hnot j (by omega))
  rw [hstart, Nat.zero_add] at hquiet
  rw [hstart] at hnone
  have huptime := hquiet.uptime
  obtain ⟨hwrite, hone⟩ := hquiet.write hp hdue
  rw [huptime] at hwrite hone
  have hsplit : es = (steady p 1000 writeMs n).map DeviceEvent.update ++
      [.update { activePowerMw := p, nowMs := writeMs + 1000 * n + 1000 }] := by
    simp only [es, steady_add p 1000 writeMs n 1, List.map_append]
    rfl
  have hend : writeMs + 1000 * (n + 1 : Nat) = writeMs + 1000 * n + 1000 := by
    push_cast
    ring
  rw [hsplit, hend, Mealy.exec_append, Mealy.trace_append, putTimes_append, hnone]
  exact ⟨hwrite, by simpa using hone⟩

end Drawing

/-- `m` writes, the first one `gap` after `writeMs`. -/
def beats (gap : Int) : Int → Nat → List Int
  | _, 0 => []
  | writeMs, m + 1 => (writeMs + gap) :: beats gap (writeMs + gap) m

/-- **Run lemma**: steady power writes once every `n + 1` seconds. -/
theorem Drawing.periods {p writeMs : Int} {d : Device} {n : Nat} (h : Drawing p writeMs 0 d)
    (hp : 0 ≤ p) (hnot : ∀ j, j ≤ n → ¬ WriteAfter p j) (hdue : WriteAfter p (n + 1)) (m : Nat) :
    putTimes (device.trace d ((steady p 1000 writeMs (m * (n + 1))).map .update)) =
      beats (1000 * (n + 1 : Nat)) writeMs m := by
  induction m generalizing writeMs d with
  | zero => simp [steady, beats, putTimes]
  | succ m ih =>
      obtain ⟨hnext, hone⟩ := h.period hp hnot hdue
      have hsplit : (m + 1) * (n + 1) = (n + 1) + m * (n + 1) := by ring
      rw [hsplit, steady_add, List.map_append, Mealy.trace_append, putTimes_append, hone, ih hnext]
      rfl

/-- The first call of a boot. -/
theorem drawing_first (p : Int) (d : Device) :
    let r := device.step (device.step d (.boot .noError)).1
      (.update { activePowerMw := p, nowMs := 0 })
    Drawing p 0 0 r.1 ∧ putTimes r.2 = [] := by
  intro r
  have hboot := unsaved_boot p d
  have hunprimed : (device.step d (.boot .noError)).1.pm.sHaveLastSample = false := by
    simp only [device, booted_eq]
  have huptime : (device.step d (.boot .noError)).1.uptimeMs = 0 := rfl
  simp only [r]
  generalize (device.step d (.boot .noError)).1 = d₀ at *
  have hupdated := updated { activePowerMw := p, nowMs := 0 } hboot.delegate
  have hquiet : ¬ d₀.pm.PutDue { activePowerMw := p, nowMs := 0 } := by
    rw [PutDue, hunprimed]
    simp
  have hpersisted := hupdated.persisted
  have hwritten := hupdated.persistMs
  rw [if_neg fun hdone => hquiet hdone.1] at hpersisted hwritten
  have htotal : d₀.pm.totalMwh { activePowerMw := p, nowMs := 0 } =
      d₀.pm.sLastPersistedEnergyMwh := by
    rw [totalMwh, stepMwh, hunprimed, hboot.unprimed hunprimed]
    simp
  refine ⟨?_, (putTimes_update hboot.delegate _).trans (if_neg hquiet)⟩
  exact {
    delegate := hupdated.delegate
    primed := hupdated.primed
    power := hupdated.power
    clock := hupdated.clock
    uptime := by simp [device]
    written := hwritten.trans hboot.written
    unsaved := by simp [device, hupdated.total, hpersisted, htotal] }

/-- A steady draw is a run of calls each second. -/
theorem admits_steady {maxMw p : Int} (hp : 0 ≤ p) (hmax : p ≤ maxMw) (d : Device) (n : Nat) :
    device.Admits (Device.DrawsEachSecond maxMw) d
      ((steady p 1000 d.uptimeMs n).map .update) := by
  induction n generalizing d with
  | zero => trivial
  | succ n ih =>
      refine ⟨⟨⟨⟨hp, ?_⟩, hmax, rfl⟩, fun u hu _ => ?_⟩, ih _⟩
      · simp only
        omega
      · rw [← DeviceEvent.update.inj hu]

/-- The first call of a boot and `n` seconds of `p` mW after it. -/
def steadyDraw (p : Int) (n : Nat) : List DeviceEvent :=
  .update { activePowerMw := p, nowMs := 0 } :: (steady p 1000 0 n).map .update

/-- A steady draw is one of the runs in question. -/
theorem admits_steadyDraw {maxMw p : Int} (hp : 0 ≤ p) (hmax : p ≤ maxMw) (d : Device) (n : Nat) :
    device.Admits (Device.DrawsEachSecond maxMw) (device.step d (.boot .noError)).1
      (steadyDraw p n) := by
  refine ⟨⟨⟨⟨hp, le_refl _⟩, hmax, rfl⟩, fun u hu hprimed => ?_⟩, admits_steady hp hmax _ n⟩
  simp [device, booted_eq] at hprimed

/-- From boot on it writes at every multiple of `n + 1` seconds. -/
theorem putTimes_steadyDraw {p : Int} (hp : 0 ≤ p) {n : Nat} (hnot : ∀ j, j ≤ n → ¬ WriteAfter p j)
    (hdue : WriteAfter p (n + 1)) (d : Device) (m : Nat) :
    putTimes (device.trace (device.step d (.boot .noError)).1 (steadyDraw p (m * (n + 1)))) =
      beats (1000 * (n + 1 : Nat)) 0 m := by
  obtain ⟨hfirst, hnone⟩ := drawing_first p d
  rw [steadyDraw, Mealy.trace_cons, putTimes_append, hnone, List.nil_append]
  exact hfirst.periods hp hnot hdue m

/-- At 302.4 W a write takes 1191 s. -/
theorem writeAfter_iff_of_302400 (j : Nat) (hj : j < 21600) : WriteAfter 302400 j ↔ 1191 ≤ j := by
  have hmwh : (302400 : Int) / 3600 = 84 := by decide
  rw [WriteAfter, hmwh]
  omega

/-- From 302.4 W on a fourth write fits into an hour. -/
theorem not_atMostThreeAnHour_of_le {maxMw : Int} (hmax : 302400 ≤ maxMw) :
    ¬ AtMostThreeAnHour maxMw := by
  intro h
  have hnot : ∀ j, j ≤ 1190 → ¬ WriteAfter 302400 j := by
    intro j hj
    rw [writeAfter_iff_of_302400 j (by omega)]
    omega
  have hdue : WriteAfter 302400 (1190 + 1) := by
    rw [writeAfter_iff_of_302400 _ (by omega)]
  have hwrites := putTimes_steadyDraw (by decide) hnot hdue (.off none) 4
  have hthree := h (.off none) (steadyDraw 302400 (4 * (1190 + 1))) 1191000
    (admits_steadyDraw (by decide) hmax _ _)
  rw [hourWrites, hwrites] at hthree
  exact absurd hthree (by decide)

/-! ## three writes an hour -/

/-- **Flash wear**: at most three writes an hour are guaranteed exactly below
302.4 W. -/
theorem atMostThreeAnHour_iff (maxMw : Int) : AtMostThreeAnHour maxMw ↔ maxMw < 302400 := by
  constructor
  · intro h
    by_contra hmax
    exact not_atMostThreeAnHour_of_le (by omega) h
  · exact atMostThreeAnHour_of_lt

/-- At the full rating the total is written every ten minutes. -/
theorem full_rating_writes_every_ten_minutes :
    getAccuracyByIndex 0 = some { type := .activePower, min := 0, max := 3680000 } ∧
      device.Admits (Device.DrawsEachSecond 3680000)
        (device.step (.off none) (.boot .noError)).1 (steadyDraw 3680000 (4 * 600)) ∧
      hourWrites 600000 (device.trace (device.step (.off none) (.boot .noError)).1
        (steadyDraw 3680000 (4 * 600))) = [600000, 1200000, 1800000, 2400000] := by
  have hmwh : (3680000 : Int) / 3600 = 1022 := by decide
  have hnot : ∀ j, j ≤ 599 → ¬ WriteAfter 3680000 j := by
    intro j hj
    rw [WriteAfter, hmwh]
    omega
  have hdue : WriteAfter 3680000 (599 + 1) := by
    rw [WriteAfter, hmwh]
    decide
  have hwrites := putTimes_steadyDraw (by decide) hnot hdue (.off none) 4
  refine ⟨rfl, admits_steadyDraw (by decide) (by decide) _ _, ?_⟩
  rw [hourWrites, hwrites]
  decide

end UascentPlug

import UascentPlug.Bl0937.Blocks

/-!
# UascentPlug.Bl0937.Settling

How fast the published readings follow the mains.  There is no timeout for a
load that is switched off: old readings go because every block of samples is
read once and never again.  Whatever the filters hold, the block under way and
the next one (or, for the muxed channel, the next two) replace all three
readings, and the one sample that straddles a SEL flip is outvoted by the
other two of its block.
-/

namespace UascentPlug

open SampleStream

namespace Meter

/-- The poll is not discarded: `windowMs` is positive. -/
def validPoll (m : Meter) (i : Poll × Bool) : Bool := 0 < m.windowMs i.1.nowMs

/-- If the poll is valid, its CF rate is `c`. -/
def CfRateIs (c : UInt32) (m : Meter) (i : Poll × Bool) : Prop :=
  m.validPoll i → countsPerSec i.1.cf (m.windowMs i.1.nowMs) = c

/-- If the poll is valid and not the first after a SEL flip, its CF1 rate is
`cv` with SEL high and `ci` with SEL low. -/
def Cf1RatesAre (cv ci : UInt32) (m : Meter) (i : Poll × Bool) : Prop :=
  m.validPoll i → m.sCf1Filter.mCount.val ≠ 0 →
    countsPerSec i.1.cf1 (m.windowMs i.1.nowMs) = if m.selPin then cv else ci

/-- If the poll is valid, no CF pulse came in since the last one. -/
def NoCfPulses (m : Meter) (i : Poll × Bool) : Prop := m.validPoll i → i.1.cf = 0

/-! ## valid polls and windows -/

/-- A poll is valid exactly when it closes a window. -/
theorem validPoll_eq (m : Meter) (i : Poll × Bool) :
    m.validPoll i = (i.1.window m.stamp).isSome := by
  rw [validPoll]
  cases hw : i.1.window m.stamp with
  | none => simpa using windowMs_of_window_none m.stampIs_stamp hw
  | some w =>
      rw [windowMs_of_window_some m.stampIs_stamp hw]
      simpa using w.pos

/-- Valid polls are counted by their windows. -/
theorem count_validPoll (cfg : Option OverPowerConfig) (m : Meter) (is : List (Poll × Bool)) :
    (meterMachine cfg).count validPoll m is =
      (measuredAfter m.stamp (is.map Prod.fst)).length := by
  induction is generalizing m with
  | nil => rfl
  | cons i is ih =>
      obtain ⟨p, relayIsOn⟩ := i
      rw [Mealy.count, ih, stamp_poll, List.map_cons, measuredAfter, List.length_append,
        validPoll_eq]
      cases p.window m.stamp with
      | none => rfl
      | some w => rfl

@[simp] theorem countsPerSec_zero (windowMs : Int) : countsPerSec 0 windowMs = 0 := by
  have hzero : ((0 : UInt32).toNat : Int) * 1000 = 0 := rfl
  rw [countsPerSec, hzero, Int.zero_tdiv]
  rfl

/-- The sample of a window is the rate its poll is said to have. -/
theorem cfSample_of_rate {m : Meter} {p : Poll} {relayIsOn : Bool} {w : Window} {c : UInt32}
    (h : m.CfRateIs c (p, relayIsOn)) (hw : p.window m.stamp = some w) :
    w.cfSample = c.toNat := by
  have hvalid : m.validPoll (p, relayIsOn) = true := by rw [validPoll_eq, hw]; rfl
  have hrate := h hvalid
  rw [windowMs_of_window_some m.stampIs_stamp hw, countsPerSec_cf hw] at hrate
  rw [← hrate, Window.cfSample, UInt32.toNat_ofNat']

/-! ## samples settle along a run -/

/-- **Run lemma**: if each window that is measured keeps the samples of `sample`
settled, they are settled after the run. -/
theorem settled_run {ok : Meter → Poll × Bool → Prop} {sample : Window → Nat} {p : Nat → Bool}
    {c k : Nat} {cfg : Option OverPowerConfig}
    (hstep : ∀ m ws i w, m.Follows ws → ok m i → i.1.window m.stamp = some w →
      ws.length % 3 ≠ 0 → p (ws.length / 3) = true → sample w = c)
    {m : Meter} {ws : List Window} {is : List (Poll × Bool)} (h : m.Follows ws)
    (hs : Settled p k c (ws.map sample)) (hok : (meterMachine cfg).Admits ok m is) :
    Settled p k c ((ws ++ measuredAfter m.stamp (is.map Prod.fst)).map sample) := by
  induction is generalizing m ws with
  | nil => simpa [measuredAfter] using hs
  | cons i is ih =>
      obtain ⟨q, relayIsOn⟩ := i
      have hnext : Settled p k c ((ws ++ (q.window m.stamp).toList).map sample) := by
        cases hw : q.window m.stamp with
        | none => simpa using hs
        | some w =>
            have hx := hstep m ws (q, relayIsOn) w h hok.1 hw
            rw [Option.toList_some, List.map_append]
            apply settled_concat hs
            rwa [List.length_map]
      have hrest := ih (h.poll cfg q relayIsOn) hnext hok.2
      rw [stamp_poll, List.append_assoc] at hrest
      exact hrest

/-- CF samples settle at the rate the valid polls have. -/
theorem settled_cf {c : UInt32} {cfg : Option OverPowerConfig} {m : Meter} {ws : List Window}
    {is : List (Poll × Bool)} (h : m.Follows ws)
    (hok : (meterMachine cfg).Admits (CfRateIs c) m is) :
    Settled (fun _ => true) ws.length c.toNat
      ((ws ++ measuredAfter m.stamp (is.map Prod.fst)).map Window.cfSample) := by
  have hstart := settled_start (fun _ => true) c.toNat (ws.map Window.cfSample)
  rw [List.length_map] at hstart
  refine settled_run (fun m _ i w _ hrate hw _ _ => ?_) h hstart hok
  exact cfSample_of_rate hrate hw

/-- CF1 samples settle at `cv` in the blocks of SEL high and at `ci` in the others. -/
theorem settled_cf1 {cv ci : UInt32} {cfg : Option OverPowerConfig} {m : Meter} {ws : List Window}
    {is : List (Poll × Bool)} (h : m.Follows ws)
    (hok : (meterMachine cfg).Admits (Cf1RatesAre cv ci) m is) :
    Settled evenBlock ws.length cv.toNat
        ((ws ++ measuredAfter m.stamp (is.map Prod.fst)).map Window.cf1Sample) ∧
      Settled oddBlock ws.length ci.toNat
        ((ws ++ measuredAfter m.stamp (is.map Prod.fst)).map Window.cf1Sample) := by
  have hsample : ∀ (m : Meter) (ws : List Window) (i : Poll × Bool) (w : Window), m.Follows ws →
      Cf1RatesAre cv ci m i → i.1.window m.stamp = some w → ws.length % 3 ≠ 0 →
      w.cf1Sample = (if evenBlock (ws.length / 3) then cv else ci).toNat := by
    intro m ws i w hm hrates hw hmod
    have hvalid : m.validPoll i = true := by rw [validPoll_eq, hw]; rfl
    have hcount := hm.cf1Filter.count
    rw [List.length_map] at hcount
    have hrate := hrates hvalid (by rwa [hcount])
    rw [windowMs_of_window_some m.stampIs_stamp hw, countsPerSec_cf1 hw, hm.selPin,
      hm.selIsVoltage] at hrate
    rw [← hrate, Window.cf1Sample, UInt32.toNat_ofNat']
  have hstart := fun p c => settled_start p c (ws.map Window.cf1Sample)
  simp only [List.length_map] at hstart
  constructor
  · refine settled_run (fun m ws i w hm hrates hw hmod heven => ?_) h (hstart _ _) hok
    rw [hsample m ws i w hm hrates hw hmod, heven, if_pos rfl]
  · refine settled_run (fun m ws i w hm hrates hw hmod hodd => ?_) h (hstart _ _) hok
    rw [oddBlock_eq_not, Bool.not_eq_true'] at hodd
    rw [hsample m ws i w hm hrates hw hmod, hodd, if_neg Bool.false_ne_true]

/-! ## the readings settle and stay -/

/-- One of two blocks in a row is for the voltage. -/
theorem evenBlock_or_succ (j : Nat) : evenBlock j = true ∨ evenBlock (j + 1) = true := by
  rw [evenBlock_succ]
  cases evenBlock j <;> simp

/-- One of two blocks in a row is for the current. -/
theorem oddBlock_or_succ (j : Nat) : oddBlock j = true ∨ oddBlock (j + 1) = true := by
  simp only [oddBlock_eq_not, evenBlock_succ]
  cases evenBlock j <;> simp

/-- The reading is that of the last median. -/
theorem blockReading_of_lastMedian {k : Nat} {p : Nat → Bool} {xs : List Nat} {c : Nat}
    (h : lastMedian p xs = some c) : blockReading k p xs = reading k c := by
  rw [blockReading, h]
  rfl

/-- **Readings settle and never go stale.**  Let `m` be any state the meter
reaches and `is` any polls after it, the last of which publishes.  Once four of
them are valid, a steady CF rate is what the published power says, and no
pulses at all are 0 W; once seven are, steady CF1 rates (the first sample after
each SEL flip aside) are what voltage and current say. -/
theorem readings_settle (cfg : Option OverPowerConfig) (before is : List (Poll × Bool))
    (i : Poll × Bool) (power voltage current : Int) :
    let m := (meterMachine cfg).exec booted before
    let valid := (meterMachine cfg).count validPoll m (is ++ [i])
    .powerMeasurementUpdate power voltage current ∈
        ((meterMachine cfg).step ((meterMachine cfg).exec m is) i).2 →
      (∀ c, (meterMachine cfg).Admits (CfRateIs c) m (is ++ [i]) → 4 ≤ valid →
        power = reading 775 c.toNat) ∧
      ((meterMachine cfg).Admits NoCfPulses m (is ++ [i]) → 4 ≤ valid → power = 0) ∧
      (∀ cv ci, (meterMachine cfg).Admits (Cf1RatesAre cv ci) m (is ++ [i]) → 7 ≤ valid →
        voltage = reading 8077 cv.toNat ∧ current = reading 91636 ci.toNat) := by
  intro m valid hpublished
  obtain ⟨-, hpower, hvoltage, hcurrent⟩ := published_eq hpublished
  have hm : m.Follows (measuredAfter booted.stamp (before.map Prod.fst)) :=
    follows_booted.run cfg before
  generalize measuredAfter booted.stamp (before.map Prod.fst) = ws at hm
  have hafter := hm.run cfg (is ++ [i])
  have hvalid : valid = (measuredAfter m.stamp ((is ++ [i]).map Prod.fst)).length :=
    count_validPoll cfg m (is ++ [i])
  have hlast : (meterMachine cfg).exec m (is ++ [i]) =
      ((meterMachine cfg).step ((meterMachine cfg).exec m is) i).1 := by
    rw [Mealy.exec_append]
    rfl
  rw [← hlast] at hpower hvoltage hcurrent
  rw [hafter.activePower] at hpower
  rw [hafter.rmsVoltage] at hvoltage
  rw [hafter.rmsCurrent] at hcurrent
  have hlen : (ws ++ measuredAfter m.stamp ((is ++ [i]).map Prod.fst)).length =
      ws.length + valid := by
    rw [List.length_append, hvalid]
  have hcf : ∀ c, (meterMachine cfg).Admits (CfRateIs c) m (is ++ [i]) → 4 ≤ valid →
      power = reading 775 c.toNat := by
    intro c hok hfour
    rw [hpower]
    apply blockReading_of_lastMedian
    apply lastMedian_of_settled (j := (ws.length + valid) / 3 - 1) (settled_cf hm hok) rfl
    · omega
    · rw [List.length_map, hlen]
      omega
  refine ⟨hcf, fun hok hfour => ?_, fun cv ci hok hseven => ?_⟩
  · have hzero : ∀ m i, NoCfPulses m i → CfRateIs 0 m i := by
      intro m i hnone hv
      rw [hnone hv, countsPerSec_zero]
    exact hcf 0 (Mealy.Admits.imp _ hzero hok) hfour
  · obtain ⟨heven, hodd⟩ := settled_cf1 hm hok
    have hlong : ws.length + 7 ≤ ((ws ++ measuredAfter m.stamp ((is ++ [i]).map Prod.fst)).map
        Window.cf1Sample).length := by
      rw [List.length_map, hlen]
      omega
    rw [hvoltage, hcurrent]
    exact ⟨blockReading_of_lastMedian
        (lastMedian_of_settled_of_alternating evenBlock_or_succ heven hlong),
      blockReading_of_lastMedian
        (lastMedian_of_settled_of_alternating oddBlock_or_succ hodd hlong)⟩

/-- A load switched on in the middle of a block: 200 counts per second on CF, 30
on CF1 with SEL high and 5 with it low, but for the first sample after each
flip; one poll comes a second late and one closes no window. -/
def loadSwitchedOn : List (Poll × Bool) :=
  [(⟨4000, 200, 30⟩, true), (⟨5000, 200, 17⟩, true), (⟨7000, 400, 10⟩, true),
    (⟨7000, 0, 0⟩, true), (⟨8000, 200, 5⟩, true), (⟨9000, 200, 12⟩, true),
    (⟨10000, 200, 30⟩, true)]

/-- With the seventh window the power is 258 W, the voltage 3714 mV and the
current 54 mA. -/
theorem readings_settle_after_seven_windows :
    let m := (meterMachine none).exec booted
      [(⟨1000, 0, 0⟩, true), (⟨2000, 7, 3⟩, true), (⟨3000, 7, 3⟩, true)]
    let m' := (meterMachine none).exec m loadSwitchedOn
    .powerMeasurementUpdate 258064 3714 54 ∈
        ((meterMachine none).step m' (⟨11000, 200, 30⟩, true)).2 ∧
      258064 = reading 775 (200 : UInt32).toNat ∧
      3714 = reading 8077 (30 : UInt32).toNat ∧ 54 = reading 91636 (5 : UInt32).toNat := by
  intro m m'
  have hpublished : .powerMeasurementUpdate 258064 3714 54 ∈
      ((meterMachine none).step m' (⟨11000, 200, 30⟩, true)).2 := by decide
  obtain ⟨hpower, -, hmuxed⟩ := readings_settle none _ _ _ 258064 3714 54 hpublished
  refine ⟨hpublished, hpower 200 ?_ (by decide), hmuxed 30 5 ?_ (by decide)⟩
  · exact ⟨fun _ => rfl, fun _ => rfl, fun _ => rfl, fun h => absurd h (by decide), fun _ => rfl,
      fun _ => rfl, fun _ => rfl, fun _ => rfl, trivial⟩
  · exact ⟨fun _ _ => rfl, fun _ h => absurd rfl h, fun _ _ => rfl,
      fun h => absurd h (by decide), fun _ _ => rfl, fun _ h => absurd rfl h, fun _ _ => rfl,
      fun _ _ => rfl, trivial⟩

end Meter

end UascentPlug

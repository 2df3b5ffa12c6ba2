import UascentPlug.Bl0937.Window

/-!
# UascentPlug.Bl0937.Blocks

The streaming meter against its block specification.  The driver updates two
filters, a mux phase, a pin and three cached readings incrementally; the
specification cuts the windows of the run into blocks of three and reads the
last complete block of each kind.  `Meter.Tracks` is the joint invariant that
keeps them in step: both filters hold the current block, SEL names its parity,
and the cached readings are those of the last complete blocks.
-/

namespace UascentPlug

open SampleStream

/-! ## the median filter holds the current block -/

namespace MedianFilter

/-- The sorting network finds the median, ties included. -/
theorem toNat_middle (a b c : UInt32) :
    (middle a b c).toNat = median3 a.toNat b.toNat c.toNat := by
  unfold middle median3
  simp only [gt_iff_lt, UInt32.lt_iff_toNat_lt]
  by_cases hab : b.toNat < a.toNat
  · by_cases hbc : c.toNat < a.toNat
    · by_cases hac : c.toNat < b.toNat <;> simp only [hab, hbc, hac, if_true, if_false] <;> omega
    · have hba : ¬ a.toNat < b.toNat := by omega
      simp only [hab, hbc, hba, if_true, if_false]
      omega
  · by_cases hbc : c.toNat < b.toNat
    · by_cases hac : c.toNat < a.toNat <;> simp only [hab, hbc, hac, if_true, if_false] <;> omega
    · simp only [hab, hbc, if_false]
      omega

/-- The filter has been fed `xs` and holds its incomplete last block. -/
structure Tracks (f : MedianFilter) (xs : List Nat) : Prop where
  count : f.mCount.val = xs.length % 3
  current : ((f.mSamples.toList.take f.mCount.val).map UInt32.toNat) = xs.drop (3 * (xs.length / 3))

/-- An empty filter has seen nothing. -/
theorem tracks_nil : Tracks {} [] := ⟨rfl, rfl⟩

/-- The first sample of a block goes into the first slot. -/
theorem push_zero (a b c x : UInt32) :
    push x ⟨#v[a, b, c], 0⟩ = (⟨#v[x, b, c], 1⟩, none) := rfl

/-- The second goes into the second. -/
theorem push_one (a b c x : UInt32) :
    push x ⟨#v[a, b, c], 1⟩ = (⟨#v[a, x, c], 2⟩, none) := rfl

/-- The third completes the block, which gives its median. -/
theorem push_two (a b c x : UInt32) :
    push x ⟨#v[a, b, c], 2⟩ = (⟨#v[a, b, x], 0⟩, some (middle a b x)) := rfl

/-- A filter holds three samples. -/
theorem exists_samples (v : Vector UInt32 3) : ∃ a b c, v = #v[a, b, c] := by
  obtain ⟨⟨l⟩, hl⟩ := v
  match l, hl with
  | [a, b, c], _ => exact ⟨a, b, c, rfl⟩

/-- **Step lemma**: one more sample either stays inside the block or completes
it, and then the filter delivers the median of that block. -/
theorem push_cases {f : MedianFilter} {xs : List Nat} (h : f.Tracks xs) (x : UInt32) :
    (f.push x).1.Tracks (xs ++ [x.toNat]) ∧
      ((f.push x).2 = none ∧ (xs.length + 1) / 3 = xs.length / 3 ∧
          (∀ p, lastMedian p (xs ++ [x.toNat]) = lastMedian p xs) ∨
        ∃ median, (f.push x).2 = some median ∧ (xs.length + 1) / 3 = xs.length / 3 + 1 ∧
          ∀ p, lastMedian p (xs ++ [x.toNat]) =
            if p (xs.length / 3) then some median.toNat else lastMedian p xs) := by
  obtain ⟨samples, count⟩ := f
  obtain ⟨a, b, c, rfl⟩ := exists_samples samples
  have hcount := h.count
  have hcur := h.current
  have hlen : (xs ++ [x.toNat]).length = xs.length + 1 := by simp
  have hdrop : (xs ++ [x.toNat]).drop (3 * (xs.length / 3)) =
      xs.drop (3 * (xs.length / 3)) ++ [x.toNat] :=
    List.drop_append_of_le_length (by omega)
  match count with
  | 0 =>
      have hmod : xs.length % 3 = 0 := hcount.symm
      have hdiv : (xs.length + 1) / 3 = xs.length / 3 := by omega
      rw [push_zero]
      refine ⟨⟨?_, ?_⟩, Or.inl ⟨rfl, hdiv, fun p => lastMedian_concat_of_lt p (by omega) _⟩⟩
      · show 1 = _
        omega
      · rw [hlen, hdiv, hdrop, ← hcur]
        rfl
  | 1 =>
      have hmod : xs.length % 3 = 1 := hcount.symm
      have hdiv : (xs.length + 1) / 3 = xs.length / 3 := by omega
      rw [push_one]
      refine ⟨⟨?_, ?_⟩, Or.inl ⟨rfl, hdiv, fun p => lastMedian_concat_of_lt p (by omega) _⟩⟩
      · show 2 = _
        omega
      · rw [hlen, hdiv, hdrop, ← hcur]
        rfl
  | 2 =>
      have hmod : xs.length % 3 = 2 := hcount.symm
      have hdiv : (xs.length + 1) / 3 = xs.length / 3 + 1 := by omega
      have hblock : xs.drop (3 * (xs.length / 3)) = [a.toNat, b.toNat] := hcur.symm
      rw [push_two]
      refine ⟨⟨?_, ?_⟩, Or.inr ⟨middle a b x, rfl, hdiv, fun p => ?_⟩⟩
      · show 0 = _
        omega
      · rw [hlen, hdiv, List.drop_of_length_le (by omega)]
        rfl
      · rw [lastMedian_concat_of_eq p hblock, toNat_middle]

end MedianFilter

/-! ## the block specification -/

def evenBlock (i : Nat) : Bool := i % 2 = 0

def oddBlock (i : Nat) : Bool := i % 2 = 1

/-- The reading of the last complete block `p` selects, `0` before there is one. -/
def blockReading (milliCountsPerSec : Nat) (p : Nat → Bool) (rates : List Nat) : Int :=
  ((lastMedian p rates).map (reading milliCountsPerSec)).getD 0

/-- Active power after the windows `ws`: every block counts. -/
def activePowerOf (ws : List Window) : Int :=
  blockReading 775 (fun _ => true) (ws.map Window.cfRate)

/-- RMS voltage after the windows `ws`: the even-numbered blocks. -/
def rmsVoltageOf (ws : List Window) : Int :=
  blockReading 8077 evenBlock (ws.map Window.cf1Rate)

/-- RMS current after the windows `ws`: the odd-numbered blocks. -/
def rmsCurrentOf (ws : List Window) : Int :=
  blockReading 91636 oddBlock (ws.map Window.cf1Rate)

/-- Both rates of the window fit `uint32_t`. -/
def Window.RatesFit (w : Window) : Prop := w.cfRate < 2 ^ 32 ∧ w.cf1Rate < 2 ^ 32

instance (w : Window) : Decidable w.RatesFit := inferInstanceAs (Decidable (_ ∧ _))

/-! ## the driver against the specification -/

/-- The driver as a machine that reads polls, each with what `RelayIsOn()`
answers in it. -/
def meterMachine (cfg : Option OverPowerConfig) : Mealy Meter (Poll × Bool) MeterCall where
  step m i := (m.load i.1).meterPoll cfg i.2 i.1.nowMs

namespace Meter

/-- The joint invariant: filters, phase, pin and cached readings are those of
the windows `ws`, the last of which ended at `last`. -/
structure Tracks (m : Meter) (last : Option Int) (ws : List Window) : Prop where
  stamp : m.StampIs last
  cfFilter : m.sCfFilter.Tracks (ws.map Window.cfRate)
  cf1Filter : m.sCf1Filter.Tracks (ws.map Window.cf1Rate)
  selIsVoltage : m.sSelIsVoltage = evenBlock (ws.length / 3)
  selPin : m.selPin = evenBlock (ws.length / 3)
  activePower : m.sLastActivePowerMw = activePowerOf ws
  rmsVoltage : m.sLastRmsVoltageMv = rmsVoltageOf ws
  rmsCurrent : m.sLastRmsCurrentMa = rmsCurrentOf ws

/-- The part of the invariant that holds for any polls: filters, phase and
cached readings are those of the windows `ws`, with rates cut to `uint32_t`. -/
structure Follows (m : Meter) (ws : List Window) : Prop where
  cfFilter : m.sCfFilter.Tracks (ws.map Window.cfSample)
  cf1Filter : m.sCf1Filter.Tracks (ws.map Window.cf1Sample)
  selIsVoltage : m.sSelIsVoltage = evenBlock (ws.length / 3)
  selPin : m.selPin = m.sSelIsVoltage
  activePower : m.sLastActivePowerMw =
    blockReading 775 (fun _ => true) (ws.map Window.cfSample)
  rmsVoltage : m.sLastRmsVoltageMv = blockReading 8077 evenBlock (ws.map Window.cf1Sample)
  rmsCurrent : m.sLastRmsCurrentMa = blockReading 91636 oddBlock (ws.map Window.cf1Sample)

/-- After `MeterInit` no window has been measured. -/
theorem follows_booted : booted.Follows [] where
  cfFilter := MedianFilter.tracks_nil
  cf1Filter := MedianFilter.tracks_nil
  selIsVoltage := rfl
  selPin := rfl
  activePower := rfl
  rmsVoltage := rfl
  rmsCurrent := rfl

/-- One more CF sample updates the CF filter and the active power only. -/
theorem pushCf_follows {m : Meter} {xs : List Nat} (hf : m.sCfFilter.Tracks xs)
    (ha : m.sLastActivePowerMw = blockReading 775 (fun _ => true) xs) (x : UInt32) :
    ∃ f power, m.pushCf x = { m with sCfFilter := f, sLastActivePowerMw := power } ∧
      f.Tracks (xs ++ [x.toNat]) ∧ power = blockReading 775 (fun _ => true) (xs ++ [x.toNat]) := by
  obtain ⟨htracks, hcases⟩ := MedianFilter.push_cases hf x
  refine ⟨_, _, pushCf_eq _ m, htracks, ?_⟩
  cases hcases with
  | inl hinside =>
      obtain ⟨hnone, -, hsame⟩ := hinside
      rw [hnone, ha]
      simp only [blockReading, hsame]
      rfl
  | inr hcomplete =>
      obtain ⟨median, hsome, -, hnew⟩ := hcomplete
      rw [hsome]
      simp only [blockReading, hnew]
      exact scaled_eq_reading median 775

/-- Current blocks are those that are not voltage blocks. -/
theorem oddBlock_eq_not (i : Nat) : oddBlock i = !evenBlock i := by
  simp only [oddBlock, evenBlock, ← decide_not, decide_eq_decide]
  omega

/-- Voltage and current blocks alternate. -/
theorem evenBlock_succ (i : Nat) : evenBlock (i + 1) = !evenBlock i := by
  simp only [evenBlock, ← decide_not, decide_eq_decide]
  omega

/-- One more CF1 sample updates the CF1 filter; when it completes a block, the
quantity of that block's parity is renewed and SEL takes the next parity. -/
theorem pushCf1_follows {m : Meter} {xs : List Nat} (hf : m.sCf1Filter.Tracks xs)
    (hsel : m.sSelIsVoltage = evenBlock (xs.length / 3)) (hpin : m.selPin = m.sSelIsVoltage)
    (hv : m.sLastRmsVoltageMv = blockReading 8077 evenBlock xs)
    (hc : m.sLastRmsCurrentMa = blockReading 91636 oddBlock xs) (x : UInt32) :
    ∃ f v c sel, m.pushCf1 x =
        { m with
          sCf1Filter := f, sLastRmsVoltageMv := v, sLastRmsCurrentMa := c,
          sSelIsVoltage := sel, selPin := sel } ∧
      f.Tracks (xs ++ [x.toNat]) ∧ v = blockReading 8077 evenBlock (xs ++ [x.toNat]) ∧
      c = blockReading 91636 oddBlock (xs ++ [x.toNat]) ∧
      sel = evenBlock ((xs ++ [x.toNat]).length / 3) := by
  have hlen : (xs ++ [x.toNat]).length = xs.length + 1 := by simp
  obtain ⟨htracks, hcases⟩ := MedianFilter.push_cases hf x
  cases hcases with
  | inl hinside =>
      obtain ⟨hnone, hdiv, hsame⟩ := hinside
      refine ⟨_, m.sLastRmsVoltageMv, m.sLastRmsCurrentMa, m.sSelIsVoltage, ?_, htracks,
        ?_, ?_, ?_⟩
      · rw [pushCf1_of_none hnone, ← hpin]
      · rw [hv]
        simp only [blockReading, hsame]
      · rw [hc]
        simp only [blockReading, hsame]
      · rw [hsel, hlen, hdiv]
  | inr hcomplete =>
      obtain ⟨median, hsome, hdiv, hnew⟩ := hcomplete
      refine ⟨_, _, _, _, pushCf1_of_some hsome, htracks, ?_, ?_, ?_⟩
      · rw [hsel, hv]
        simp only [blockReading, hnew]
        cases evenBlock (xs.length / 3) with
        | true => exact scaled_eq_reading median 8077
        | false => rfl
      · rw [hsel, hc]
        simp only [blockReading, hnew, oddBlock_eq_not]
        cases evenBlock (xs.length / 3) with
        | true => rfl
        | false => exact scaled_eq_reading median 91636
      · rw [hsel, hlen, hdiv, evenBlock_succ]

/-- **Step lemma**: a poll keeps the driver in step with the windows measured. -/
theorem Follows.poll {m : Meter} {ws : List Window} (h : m.Follows ws)
    (cfg : Option OverPowerConfig) (p : Poll) (relayIsOn : Bool) :
    ((meterMachine cfg).step m (p, relayIsOn)).1.Follows (ws ++ (p.window m.stamp).toList) := by
  cases hw : p.window m.stamp with
  | none =>
      simp only [meterMachine, Option.toList_none, List.append_nil]
      rw [poll_of_window_none m.stampIs_stamp hw cfg relayIsOn]
      exact { h with }
  | some w =>
      have hcf : (UInt32.ofNat w.cfRate).toNat = w.cfSample := UInt32.toNat_ofNat'
      have hcf1 : (UInt32.ofNat w.cf1Rate).toNat = w.cf1Sample := UInt32.toNat_ofNat'
      have hlen : (ws.map Window.cf1Sample).length = ws.length := List.length_map _
      simp only [meterMachine, Option.toList_some]
      rw [poll_of_window_some m.stampIs_stamp hw cfg relayIsOn]
      simp only [measure]
      rw [protect_eq]
      generalize (protect cfg relayIsOn (UInt32.ofNat w.cfRate)
        { m with sLastPollMs := p.nowMs, sCfPulses := 0, sCf1Pulses := 0 }).1.sOverPowerSamples =
          samples
      obtain ⟨f, power, heq, hf, hpower⟩ :=
        pushCf_follows (m := { m with
            sLastPollMs := p.nowMs, sCfPulses := 0, sCf1Pulses := 0, sOverPowerSamples := samples })
          h.cfFilter h.activePower (UInt32.ofNat w.cfRate)
      obtain ⟨f1, v, c, sel, heq1, hf1, hv, hc, hsel⟩ :=
        pushCf1_follows (m := { m with
            sLastPollMs := p.nowMs, sCfPulses := 0, sCf1Pulses := 0, sOverPowerSamples := samples,
            sCfFilter := f, sLastActivePowerMw := power })
          h.cf1Filter (by rw [hlen]; exact h.selIsVoltage) h.selPin h.rmsVoltage h.rmsCurrent
          (UInt32.ofNat w.cf1Rate)
      rw [hcf] at hf hpower
      rw [hcf1] at hf1 hv hc hsel
      have hws : (ws ++ [w]).length = ((ws.map Window.cf1Sample) ++ [w.cf1Sample]).length := by simp
      rw [heq, heq1]
      constructor
      case cfFilter => rw [List.map_append]; exact hf
      case cf1Filter => rw [List.map_append]; exact hf1
      case selIsVoltage => rw [hws]; exact hsel
      case selPin => rfl
      case activePower => rw [List.map_append]; exact hpower
      case rmsVoltage => rw [List.map_append]; exact hv
      case rmsCurrent => rw [List.map_append]; exact hc

/-- Every poll is the one remembered next. -/
theorem sLastPollMs_poll (cfg : Option OverPowerConfig) (m : Meter) (p : Poll) (relayIsOn : Bool) :
    ((meterMachine cfg).step m (p, relayIsOn)).1.sLastPollMs = p.nowMs := by
  simp only [meterMachine]
  cases hw : p.window m.stamp with
  | none => rw [poll_of_window_none m.stampIs_stamp hw cfg relayIsOn]
  | some w =>
      rw [poll_of_window_some m.stampIs_stamp hw cfg relayIsOn]
      exact sLastPollMs_measure cfg relayIsOn w _

/-- A poll leaves its own uptime behind. -/
theorem stamp_poll (cfg : Option OverPowerConfig) (m : Meter) (p : Poll) (relayIsOn : Bool) :
    ((meterMachine cfg).step m (p, relayIsOn)).1.stamp = stampOf p.nowMs :=
  congrArg stampOf (sLastPollMs_poll cfg m p relayIsOn)

/-- **Run lemma**: the driver stays in step over every run of polls. -/
theorem Follows.run {m : Meter} {ws : List Window} (h : m.Follows ws)
    (cfg : Option OverPowerConfig) (is : List (Poll × Bool)) :
    ((meterMachine cfg).exec m is).Follows (ws ++ measuredAfter m.stamp (is.map Prod.fst)) := by
  induction is generalizing m ws with
  | nil => simpa [measuredAfter] using h
  | cons i is ih =>
      obtain ⟨p, relayIsOn⟩ := i
      have hrest := ih (h.poll cfg p relayIsOn)
      rw [stamp_poll, List.append_assoc] at hrest
      exact hrest

/-- With rates that fit, the samples are the rates. -/
theorem Follows.tracks {m : Meter} {last : Option Int} {ws : List Window} (h : m.Follows ws)
    (hstamp : m.StampIs last) (hfit : ∀ w ∈ ws, w.RatesFit) : m.Tracks last ws := by
  have hcf : ws.map Window.cfSample = ws.map Window.cfRate :=
    List.map_congr_left fun w hw => Nat.mod_eq_of_lt (hfit w hw).1
  have hcf1 : ws.map Window.cf1Sample = ws.map Window.cf1Rate :=
    List.map_congr_left fun w hw => Nat.mod_eq_of_lt (hfit w hw).2
  exact {
    stamp := hstamp
    cfFilter := hcf ▸ h.cfFilter
    cf1Filter := hcf1 ▸ h.cf1Filter
    selIsVoltage := h.selIsVoltage
    selPin := h.selPin.trans h.selIsVoltage
    activePower := by rw [activePowerOf, ← hcf]; exact h.activePower
    rmsVoltage := by rw [rmsVoltageOf, ← hcf1]; exact h.rmsVoltage
    rmsCurrent := by rw [rmsCurrentOf, ← hcf1]; exact h.rmsCurrent }

/-- The stamp after a run of polls at positive uptimes. -/
theorem stampIs_exec {m : Meter} {last : Option Int} (h : m.StampIs last)
    (cfg : Option OverPowerConfig) {is : List (Poll × Bool)}
    (hpos : ∀ p ∈ is.map Prod.fst, 0 < p.nowMs) :
    ((meterMachine cfg).exec m is).StampIs (stampAfter last (is.map Prod.fst)) := by
  induction is generalizing m last with
  | nil => exact h
  | cons i is ih =>
      obtain ⟨p, relayIsOn⟩ := i
      have hp : 0 < p.nowMs := hpos p (by simp)
      exact ih (stampIs_of_pos (sLastPollMs_poll cfg m p relayIsOn) hp) fun q hq =>
        hpos q (List.mem_cons_of_mem p hq)

/-- **Run lemma**: after every run of polls from boot the driver is in step
with the windows of the run. -/
theorem tracks_of_run (cfg : Option OverPowerConfig) (is : List (Poll × Bool))
    (hpos : ∀ p ∈ is.map Prod.fst, 0 < p.nowMs)
    (hfit : ∀ w ∈ windows (is.map Prod.fst), w.RatesFit) :
    ((meterMachine cfg).exec booted is).Tracks (lastStamp (is.map Prod.fst))
      (windows (is.map Prod.fst)) := by
  have hfollows := follows_booted.run cfg is
  rw [List.nil_append, measuredAfter_eq_windowsAfter _ hpos] at hfollows
  exact hfollows.tracks (stampIs_exec ⟨rfl, by simp⟩ cfg hpos) hfit

/-- The calls of `PowerMeasurementUpdate` among the calls of a poll. -/
def updates (calls : List MeterCall) : List MeterCall :=
  calls.filter fun
    | .powerMeasurementUpdate _ _ _ => true
    | _ => false

/-- The over-power step never publishes. -/
theorem updates_protect (cfg : Option OverPowerConfig) (relayIsOn : Bool) (rate : UInt32)
    (m : Meter) : updates (m.protect cfg relayIsOn rate).2 = [] := by
  obtain hnone | htrip := protect_calls cfg relayIsOn rate m
  · rw [hnone]
    rfl
  · rw [htrip]
    rfl

/-- A poll publishes the cached readings it leaves behind, and only when it
closes a window. -/
theorem published_eq {cfg : Option OverPowerConfig} {m : Meter} {p : Poll} {relayIsOn : Bool}
    {power voltage current : Int}
    (h : .powerMeasurementUpdate power voltage current ∈
      ((meterMachine cfg).step m (p, relayIsOn)).2) :
    (p.window m.stamp).isSome ∧
      power = ((meterMachine cfg).step m (p, relayIsOn)).1.sLastActivePowerMw ∧
      voltage = ((meterMachine cfg).step m (p, relayIsOn)).1.sLastRmsVoltageMv ∧
      current = ((meterMachine cfg).step m (p, relayIsOn)).1.sLastRmsCurrentMa := by
  simp only [meterMachine] at h ⊢
  cases hw : p.window m.stamp with
  | none =>
      rw [poll_of_window_none m.stampIs_stamp hw cfg relayIsOn] at h
      contradiction
  | some w =>
      rw [poll_of_window_some m.stampIs_stamp hw cfg relayIsOn] at h ⊢
      simp only [List.mem_append, List.mem_singleton] at h ⊢
      cases h with
      | inl hprotect =>
          have hupdate : .powerMeasurementUpdate power voltage current ∈ updates
              (protect cfg relayIsOn (UInt32.ofNat w.cfRate)
                { m with sLastPollMs := p.nowMs, sCfPulses := 0, sCf1Pulses := 0 }).2 :=
            List.mem_filter.mpr ⟨hprotect, rfl⟩
          rw [updates_protect] at hupdate
          contradiction
      | inr hlast =>
          injection hlast with hpower hvoltage hcurrent
          exact ⟨rfl, hpower, hvoltage, hcurrent⟩

/-- **The streaming meter refines its block specification.**  For every run of
polls from boot and one poll more: SEL was at the level of the block being
measured; the published readings are those of the last complete blocks; a
poll that closes a window publishes them exactly once; and any other poll
moves the stamp, empties the counters and does nothing else. -/
theorem streaming_meter_refines_blocks (cfg : Option OverPowerConfig) (is : List (Poll × Bool))
    (p : Poll) (relayIsOn : Bool) (hpos : ∀ q ∈ is.map Prod.fst ++ [p], 0 < q.nowMs)
    (hfit : ∀ w ∈ windows (is.map Prod.fst ++ [p]), w.RatesFit) :
    let before := (meterMachine cfg).exec booted is
    let after := ((meterMachine cfg).step before (p, relayIsOn)).1
    let calls := ((meterMachine cfg).step before (p, relayIsOn)).2
    let ws := windows (is.map Prod.fst ++ [p])
    before.selPin = evenBlock ((windows (is.map Prod.fst)).length / 3) ∧
      after.sLastActivePowerMw = activePowerOf ws ∧
      after.sLastRmsVoltageMv = rmsVoltageOf ws ∧
      after.sLastRmsCurrentMa = rmsCurrentOf ws ∧
      ((p.window (lastStamp (is.map Prod.fst))).isSome →
        updates calls =
          [.powerMeasurementUpdate (activePowerOf ws) (rmsVoltageOf ws) (rmsCurrentOf ws)]) ∧
      (p.window (lastStamp (is.map Prod.fst)) = none →
        calls = [] ∧
          after = { before with sLastPollMs := p.nowMs, sCfPulses := 0, sCf1Pulses := 0 }) := by
  intro before after calls ws
  have hbefore : before.Tracks (lastStamp (is.map Prod.fst)) (windows (is.map Prod.fst)) :=
    tracks_of_run cfg is (fun q hq => hpos q (List.mem_append_left _ hq)) fun w hw =>
      hfit w (by rw [windows_concat]; exact List.mem_append_left _ hw)
  have hmap : (is ++ [(p, relayIsOn)]).map Prod.fst = is.map Prod.fst ++ [p] := by simp
  have hafter : after.Tracks (some p.nowMs) ws := by
    have h := tracks_of_run cfg (is ++ [(p, relayIsOn)])
    rw [hmap, lastStamp_concat, Mealy.exec_append] at h
    exact h hpos hfit
  refine ⟨hbefore.selPin, hafter.activePower, hafter.rmsVoltage, hafter.rmsCurrent, ?_, ?_⟩
  · intro hsome
    obtain ⟨w, hw⟩ := Option.isSome_iff_exists.mp hsome
    have hstep := poll_of_window_some hbefore.stamp hw cfg relayIsOn
    have hcalls : calls = _ := congrArg Prod.snd hstep
    have hstate : after = _ := congrArg Prod.fst hstep
    have hpower := hafter.activePower
    have hvoltage := hafter.rmsVoltage
    have hcurrent := hafter.rmsCurrent
    rw [hstate] at hpower hvoltage hcurrent
    rw [hcalls]
    simp only at hpower hvoltage hcurrent ⊢
    rw [hpower, hvoltage, hcurrent, updates, List.filter_append, ← updates, updates_protect]
    rfl
  · intro hnone
    have hstep := poll_of_window_none hbefore.stamp hnone cfg relayIsOn
    exact ⟨congrArg Prod.snd hstep, congrArg Prod.fst hstep⟩

/-- Rates of 100, 300 and 200 counts per second read as the power of 200. -/
theorem first_block_reads_median :
    ((meterMachine none).step
      ((meterMachine none).exec booted
        [(⟨1000, 7, 7⟩, true), (⟨2000, 100, 1900⟩, true), (⟨3000, 300, 1850⟩, true)])
      (⟨4000, 200, 1870⟩, true)).1.sLastActivePowerMw = 258064 := by
  rw [(streaming_meter_refines_blocks none
    [(⟨1000, 7, 7⟩, true), (⟨2000, 100, 1900⟩, true), (⟨3000, 300, 1850⟩, true)]
    ⟨4000, 200, 1870⟩ true (by decide) (by decide)).2.1]
  decide

end Meter

end UascentPlug

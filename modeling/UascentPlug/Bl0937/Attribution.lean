import UascentPlug.Bl0937.Pulses

/-!
# UascentPlug.Bl0937.Attribution

Which level of SEL the pulses behind a reading were produced at.  SEL is
flipped at the end of the poll that completes a block, after that poll has
emptied the CF1 counter, so pulses of the old level can be left in the counter
and reach the first sample of the next block; the second and the third never
see one (`Driver.Tagged`).  The median of three lies between those two
(`readings_never_mixed`).
-/

namespace UascentPlug

open SampleStream

/-! ## the CF1 side of the driver -/

@[simp] theorem Channel.rates_sample (c : Channel) (windowMs : Int) (rate : UInt32) :
    (c.sample windowMs rate).rates = c.rates ++ [rate.toNat] := by
  simp [Channel.rates, Channel.sample]

@[simp] theorem Channel.length_rates (c : Channel) : c.rates.length = c.samples.length :=
  List.length_map _

namespace Driver

/-- Filter, phase and cached readings are those of the samples, and the pin is
at the phase except in the step that is about to move it there. -/
structure Muxed (s : Driver) : Prop where
  cf1Filter : s.meter.sCf1Filter.Tracks s.cf1.rates
  selIsVoltage : s.meter.sSelIsVoltage = evenBlock (s.cf1.samples.length / 3)
  rmsVoltage : s.meter.sLastRmsVoltageMv = blockReading 8077 evenBlock s.cf1.rates
  rmsCurrent : s.meter.sLastRmsCurrentMa = blockReading 91636 oddBlock s.cf1.rates
  selPin : s.pc ≠ .setSel → s.meter.selPin = s.meter.sSelIsVoltage
  setSel : s.pc = .setSel → s.cf1.samples.length % 3 = 0

/-- The driver starts with an empty filter and SEL high. -/
theorem muxed_start : start.Muxed where
  cf1Filter := MedianFilter.tracks_nil
  selIsVoltage := rfl
  rmsVoltage := rfl
  rmsCurrent := rfl
  selPin := fun _ => rfl
  setSel := by simp [start]

/-- A step that leaves the CF1 side alone and does not end in `setSel` keeps it. -/
theorem Muxed.of_eq {s t : Driver} (h : s.Muxed) (hpc : s.pc ≠ .setSel) (hpc' : t.pc ≠ .setSel)
    (hfilter : t.meter.sCf1Filter = s.meter.sCf1Filter)
    (hsel : t.meter.sSelIsVoltage = s.meter.sSelIsVoltage)
    (hvoltage : t.meter.sLastRmsVoltageMv = s.meter.sLastRmsVoltageMv)
    (hcurrent : t.meter.sLastRmsCurrentMa = s.meter.sLastRmsCurrentMa)
    (hpin : t.meter.selPin = s.meter.selPin) (hsamples : t.cf1.samples = s.cf1.samples) :
    t.Muxed := by
  have hrates : t.cf1.rates = s.cf1.rates := congrArg (List.map _) hsamples
  constructor
  case cf1Filter => rw [hfilter, hrates]; exact h.cf1Filter
  case selIsVoltage => rw [hsel, hsamples]; exact h.selIsVoltage
  case rmsVoltage => rw [hvoltage, hrates]; exact h.rmsVoltage
  case rmsCurrent => rw [hcurrent, hrates]; exact h.rmsCurrent
  case selPin => intro _; rw [hpin, hsel]; exact h.selPin hpc
  case setSel => exact fun hset => absurd hset hpc'

/-- One more CF1 sample keeps the CF1 side in step; when it completes a block
the pin is the next step. -/
theorem Muxed.measureCf1 {s : Driver} (h : s.Muxed) (hpc : s.pc ≠ .setSel) (windowMs : Int)
    (rate : UInt32) :
    ({ s with
      meter := { s.meter.pushCf1 rate with selPin := s.meter.selPin }
      pc := if (s.meter.sCf1Filter.push rate).2.isSome then .setSel else .publish
      cf1 := s.cf1.sample windowMs rate } : Driver).Muxed := by
  have hlen : s.cf1.rates.length = s.cf1.samples.length := s.cf1.length_rates
  have hpin := h.selPin hpc
  obtain ⟨f, v, c, sel, heq, hf, hv, hc, hsel⟩ :=
    Meter.pushCf1_follows h.cf1Filter (by rw [hlen]; exact h.selIsVoltage) hpin
      h.rmsVoltage h.rmsCurrent rate
  obtain ⟨-, hcases⟩ := MedianFilter.push_cases h.cf1Filter rate
  rw [hlen] at hcases
  rw [List.length_append, List.length_singleton, hlen] at hsel
  have hsamples : (s.cf1.sample windowMs rate).samples.length = s.cf1.samples.length + 1 := by
    simp [Channel.sample]
  rw [heq]
  constructor
  case cf1Filter => simpa using hf
  case selIsVoltage => simpa [hsamples] using hsel
  case rmsVoltage => simpa using hv
  case rmsCurrent => simpa using hc
  case selPin =>
      cases hcases with
      | inl hinside =>
          obtain ⟨-, hdiv, -⟩ := hinside
          intro _
          simp only
          rw [hpin, hsel, hdiv, h.selIsVoltage]
      | inr hcomplete =>
          obtain ⟨median, hsome, -, -⟩ := hcomplete
          simp [hsome]
  case setSel =>
      cases hcases with
      | inl hinside =>
          obtain ⟨hnone, -, -⟩ := hinside
          simp [hnone]
      | inr hcomplete =>
          obtain ⟨median, -, hdiv, -⟩ := hcomplete
          intro _
          simp only [hsamples]
          omega

/-- **Step lemma**: every step keeps the CF1 side in step with the samples. -/
theorem Muxed.step {cfg : Option OverPowerConfig} {s t : Driver} {e : DriverEvent}
    (h : s.Muxed) (hstep : DriverStep cfg s e t) : t.Muxed := by
  cases hstep with
  | cfIsr => exact { h with }
  | cf1Isr => exact { h with }
  | poll hpc hnow => exact h.of_eq (by simp [hpc]) (by simp) rfl rfl rfl rfl rfl rfl
  | takeCf hpc => exact h.of_eq (by simp [hpc]) (by simp) rfl rfl rfl rfl rfl rfl
  | takeCf1 hpc => exact h.of_eq (by simp [hpc]) (by simp) rfl rfl rfl rfl rfl rfl
  | discard hpc hwindow => exact h.of_eq (by simp [hpc]) (by simp) rfl rfl rfl rfl rfl rfl
  | measureCf hpc hwindow hrate =>
      rw [Meter.protect_eq, Meter.pushCf_eq]
      exact h.of_eq (by simp [hpc]) (by simp) rfl rfl rfl rfl rfl rfl
  | measureCf1 hpc hrate => exact h.measureCf1 (by simp [hpc]) _ _
  | setSel hpc => exact { h with selPin := fun _ => rfl, setSel := by simp }
  | publish hpc => exact h.of_eq (by simp [hpc]) (by simp) rfl rfl rfl rfl rfl rfl

end Driver

/-! ## the level the pulses were produced at -/

/-- All pulses were produced with SEL at this level. -/
def MadeAt (selIsHigh : Bool) (pulses : List Pulse) : Prop :=
  ∀ pulse ∈ pulses, pulse.selIsHigh = selIsHigh

/-- The poll has taken the CF1 counter and not passed it on. -/
def MeterPc.cf1InHand : MeterPc → Bool
  | .measureCf _ _ _ | .measureCf1 _ _ => true
  | _ => false

namespace Driver

/-- From the swap that takes its first sample on, the level of a block is that
of the pulses in the counter; so its other samples are of pulses of that level. -/
structure Tagged (s : Driver) : Prop where
  pending : s.cf1.samples.length % 3 ≠ 0 ∨ s.pc.cf1InHand →
    MadeAt (evenBlock (s.cf1.samples.length / 3)) s.cf1.pending
  inHand : s.cf1.samples.length % 3 ≠ 0 → s.pc.cf1InHand →
    MadeAt (evenBlock (s.cf1.samples.length / 3)) s.cf1.inHand
  samples : ∀ j, (hj : j < s.cf1.samples.length) → j % 3 ≠ 0 →
    MadeAt (evenBlock (j / 3)) s.cf1.samples[j].pulses

/-- No pulse has been taken at the start. -/
theorem tagged_start : start.Tagged where
  pending := fun _ _ hpulse => absurd hpulse List.not_mem_nil
  inHand := fun _ _ _ hpulse => absurd hpulse List.not_mem_nil
  samples := fun j hj => absurd hj (Nat.not_lt_zero j)

/-- Inside a block, and from its first swap on, SEL is at its level. -/
theorem Muxed.selPin_eq {s : Driver} (h : s.Muxed)
    (hblock : s.cf1.samples.length % 3 ≠ 0 ∨ s.pc.cf1InHand) :
    s.meter.selPin = evenBlock (s.cf1.samples.length / 3) := by
  rw [← h.selIsVoltage]
  refine h.selPin fun hset => ?_
  have hzero := h.setSel hset
  cases hblock with
  | inl hinside => exact hinside hzero
  | inr hinHand => simp [hset, MeterPc.cf1InHand] at hinHand

/-- A step that leaves the CF1 pulses where they are and takes none in hand. -/
theorem Tagged.of_eq {s t : Driver} (h : s.Tagged) (hcf1 : t.cf1 = s.cf1)
    (hpc : t.pc.cf1InHand → s.pc.cf1InHand) : t.Tagged := by
  constructor
  case pending =>
      rw [hcf1]
      exact fun hblock => h.pending (hblock.imp_right hpc)
  case inHand =>
      rw [hcf1]
      exact fun hinside hinHand => h.inHand hinside (hpc hinHand)
  case samples =>
      rw [hcf1]
      exact h.samples

/-- One more CF1 sample is of the pulses in hand. -/
theorem Tagged.measureCf1 {s : Driver} (h : s.Tagged) (hpc : s.pc.cf1InHand) {pc : MeterPc}
    (hpc' : ¬ pc.cf1InHand) (meter : Meter) (windowMs : Int) (rate : UInt32) :
    ({ s with meter := meter, pc := pc, cf1 := s.cf1.sample windowMs rate } : Driver).Tagged := by
  constructor
  case pending =>
      simp only [Channel.sample, List.length_append, List.length_singleton]
      intro hblock
      have hinside := hblock.resolve_right hpc'
      -- the sample just taken is the first or the second of its block
      have hdiv : (s.cf1.samples.length + 1) / 3 = s.cf1.samples.length / 3 := by omega
      rw [hdiv]
      exact h.pending (Or.inr hpc)
  case inHand => exact fun _ hinHand => absurd hinHand hpc'
  case samples =>
      intro j hj hmod
      simp only [Channel.sample, List.length_append, List.length_singleton] at hj ⊢
      by_cases hlast : j = s.cf1.samples.length
      · subst hlast
        simpa using h.inHand hmod hpc
      · rw [List.getElem_append_left (by omega)]
        exact h.samples j (by omega) hmod

/-- **Step lemma**: a pulse carries the level of the block it will be counted
in, except where it can reach a first sample only. -/
theorem Tagged.step {cfg : Option OverPowerConfig} {s t : Driver} {e : DriverEvent}
    (hmuxed : s.Muxed) (h : s.Tagged) (hstep : DriverStep cfg s e t) : t.Tagged := by
  cases hstep with
  | cfIsr => exact { h with }
  | cf1Isr =>
      refine { h with pending := fun hblock pulse hpulse => ?_ }
      simp only [Channel.arrive, List.mem_append, List.mem_singleton] at hpulse
      cases hpulse with
      | inl hearlier => exact h.pending hblock pulse hearlier
      | inr hnew => rw [hnew]; exact hmuxed.selPin_eq hblock
  | poll hpc hnow => exact h.of_eq rfl (by simp [MeterPc.cf1InHand])
  | takeCf hpc => exact h.of_eq rfl (by simp [MeterPc.cf1InHand])
  | takeCf1 hpc =>
      constructor
      case pending => exact fun _ _ hpulse => absurd hpulse List.not_mem_nil
      case inHand => exact fun hinside _ => h.pending (Or.inl hinside)
      case samples => exact h.samples
  | discard hpc hwindow =>
      constructor
      case pending =>
          intro hblock
          exact h.pending (hblock.imp_right fun hinHand => by simp [MeterPc.cf1InHand] at hinHand)
      case inHand => exact fun _ _ _ hpulse => absurd hpulse List.not_mem_nil
      case samples => exact h.samples
  | measureCf hpc hwindow hrate => exact h.of_eq rfl (by simp [hpc, MeterPc.cf1InHand])
  | measureCf1 hpc hrate =>
      apply h.measureCf1 (by simp [hpc, MeterPc.cf1InHand])
      split <;> simp [MeterPc.cf1InHand]
  | setSel hpc => exact h.of_eq rfl (by simp [MeterPc.cf1InHand])
  | publish hpc => exact h.of_eq rfl (by simp [MeterPc.cf1InHand])

/-- **Run lemma**: whatever the interrupts do, the CF1 side is in step and the
pulses are at the level of their blocks. -/
theorem muxed_tagged_of_run {cfg : Option OverPowerConfig} {es : List DriverEvent} {s : Driver}
    (hrun : (driver cfg).run start es = some s) : s.Muxed ∧ s.Tagged :=
  (driver cfg).run_invariant_of_step (P := fun s => s.Muxed ∧ s.Tagged)
    (fun _ _ _ h hstep =>
      ⟨h.1.step (driverStep_of_step hstep), h.2.step h.1 (driverStep_of_step hstep)⟩)
    ⟨muxed_start, tagged_start⟩ hrun

end Driver

/-! ## a voltage reading is never a current reading -/

/-- The value is the reading of `count`, the median of block `i`: the samples
are rates of the pulses behind them, those of the second and the third sample
were all produced with SEL at the level, and `count` is between these two. -/
structure Channel.Behind (c : Channel) (selIsHigh : Bool) (milliCountsPerSec i : Nat) (value : Int)
    (first second third : FilterSample) (count : Nat) : Prop where
  block : (c.samples.drop (3 * i)).take 3 = [first, second, third]
  rates : ∀ x ∈ [first, second, third],
    x.rate = Meter.countsPerSec (UInt32.ofNat x.pulses.length) x.windowMs
  madeAt : MadeAt selIsHigh second.pulses ∧ MadeAt selIsHigh third.pulses
  median : count = median3 first.rate.toNat second.rate.toNat third.rate.toNat
  between : min second.rate.toNat third.rate.toNat ≤ count ∧
    count ≤ max second.rate.toNat third.rate.toNat
  value : value = reading milliCountsPerSec count

/-- The value is that of the last complete block `p` selects, measured with SEL
at the level, or `0` before there is one. -/
def Channel.Attributed (c : Channel) (selIsHigh : Bool) (milliCountsPerSec : Nat)
    (p : Nat → Bool) (value : Int) : Prop :=
  match lastBlock p c.samples with
  | none => value = 0
  | some i => ∃ first second third count,
      c.Behind selIsHigh milliCountsPerSec i value first second third count

namespace Driver

/-- The reading of the blocks of one parity is attributed to its level. -/
theorem attributed_blockReading {s : Driver} (hconserved : s.Conserved) (htagged : s.Tagged)
    {selIsHigh : Bool} {p : Nat → Bool} (hlevel : ∀ i, p i = true → evenBlock i = selIsHigh)
    (milliCountsPerSec : Nat) :
    s.cf1.Attributed selIsHigh milliCountsPerSec p
      (blockReading milliCountsPerSec p s.cf1.rates) := by
  unfold Channel.Attributed blockReading lastMedian Channel.rates
  rw [lastBlock_map]
  cases hi : lastBlock p s.cf1.samples with
  | none => rfl
  | some i =>
      have hlt := lt_of_lastBlock hi
      have hp : evenBlock i = selIsHigh := hlevel i (of_lastBlock hi)
      have hblock : (s.cf1.samples.drop (3 * i)).take 3 = _ := take_drop_block (by omega)
      have hsecond := htagged.samples (3 * i + 1) (by omega) (by omega)
      have hthird := htagged.samples (3 * i + 2) (by omega) (by omega)
      rw [show (3 * i + 1) / 3 = i by omega, hp] at hsecond
      rw [show (3 * i + 2) / 3 = i by omega, hp] at hthird
      refine ⟨_, _, _, _, hblock, fun x hx => ?_, ⟨hsecond, hthird⟩, rfl, median3_between _ _ _, ?_⟩
      · rw [← hblock] at hx
        exact hconserved.cf1.rates x (List.mem_of_mem_drop (List.mem_of_mem_take hx))
      · rw [Option.bind_some, blockMedian, ← List.map_drop, ← List.map_take, hblock]
        rfl

end Driver

/-- **A voltage reading is never a current reading.**  Wherever the interrupts
fall, each reading `MeterPoll` publishes is that of a block of which all but
the first sample were measured at the level of its own quantity. -/
theorem readings_never_mixed (cfg : Option OverPowerConfig) {es : List DriverEvent} {s : Driver}
    {activePowerMw rmsVoltageMv rmsCurrentMa : Int}
    (hrun : (driver cfg).run Driver.start es = some s)
    (hpublish : s.publishes =
      some (.powerMeasurementUpdate activePowerMw rmsVoltageMv rmsCurrentMa)) :
    s.cf1.Attributed true 8077 evenBlock rmsVoltageMv ∧
      s.cf1.Attributed false 91636 oddBlock rmsCurrentMa := by
  obtain ⟨hmuxed, htagged⟩ := Driver.muxed_tagged_of_run hrun
  have hconserved := Driver.conserved_of_run hrun
  have hcached : s.meter.sLastRmsVoltageMv = rmsVoltageMv ∧
      s.meter.sLastRmsCurrentMa = rmsCurrentMa := by
    unfold Driver.publishes at hpublish
    split at hpublish
    · injection hpublish with hcall
      injection hcall with hpower hvoltage hcurrent
      exact ⟨hvoltage, hcurrent⟩
    · contradiction
  obtain ⟨rfl, rfl⟩ := hcached
  rw [hmuxed.rmsVoltage, hmuxed.rmsCurrent]
  constructor
  · exact Driver.attributed_blockReading hconserved htagged (fun _ heven => heven) 8077
  · refine Driver.attributed_blockReading hconserved htagged (fun i hodd => ?_) 91636
    simpa [Meter.oddBlock_eq_not] using hodd

/-- Between the swap and the SEL flip of the poll that completes the first block
two more voltage pulses come in; the first sample of the current block gets
them, and the current is that of the other two. -/
def pulsesBeforeFlip : List DriverEvent :=
  let advance (n : Nat) := List.replicate n (DriverEvent.advance true)
  .poll 1000 :: advance 3 ++ .cf1Isr :: .poll 2000 :: advance 5 ++
    .cf1Isr :: .poll 3000 :: advance 5 ++
    .cf1Isr :: .poll 4000 :: advance 2 ++ .cf1Isr :: advance 2 ++ .cf1Isr :: advance 2 ++
    .cf1Isr :: .poll 5000 :: advance 5 ++ .cf1Isr :: .poll 6000 :: advance 5 ++
    .cf1Isr :: .cf1Isr :: .poll 7000 :: advance 5

/-- The first voltage and the first current, 123 mV and 21 mA. -/
theorem first_readings_are_not_mixed :
    ∃ s, (driver none).run Driver.start pulsesBeforeFlip = some s ∧
      s.cf1.samples.map (fun x => x.pulses.map Pulse.selIsHigh) =
        [[true], [true], [true], [true, true, false], [false], [false, false]] ∧
      s.publishes = some (.powerMeasurementUpdate 0 123 21) ∧
      s.cf1.Attributed true 8077 evenBlock 123 ∧ s.cf1.Attributed false 91636 oddBlock 21 := by
  obtain ⟨s, hrun, hpulses, hpublish⟩ :
      ∃ s, (driver none).run Driver.start pulsesBeforeFlip = some s ∧
        s.cf1.samples.map (fun x => x.pulses.map Pulse.selIsHigh) =
          [[true], [true], [true], [true, true, false], [false], [false, false]] ∧
        s.publishes = some (.powerMeasurementUpdate 0 123 21) :=
    ⟨_, rfl, by decide, by decide⟩
  exact ⟨s, hrun, hpulses, hpublish, readings_never_mixed none hrun hpublish⟩

end UascentPlug

import UascentPlug.Bl0937.Interrupts

/-!
# UascentPlug.Bl0937.Pulses

Where pulses go.  The swap loses none: however the interrupts fall, every
pulse is in the counter or in exactly one of the counts taken
(`Channel.Conserved`).  What becomes of a count is another matter, because the
swap comes before the window is checked.  The first poll of a boot has no
window and is meant to discard its counts; a poll in the same millisecond as
the one before discards its counts too (`pulses_counted_once_iff`).
-/

namespace UascentPlug

/-! ## no pulse is lost by the swap -/

namespace Channel

/-- Every pulse is pending or was taken by one swap, counter and counts are
those of the pulses, and each sample is the rate of the pulses behind it. -/
structure Conserved (c : Channel) (counter : UInt32) : Prop where
  numbers : (c.taken.flatMap Taken.pulses ++ c.pending).map Pulse.number = List.range c.arrived
  counts : ∀ b ∈ c.taken, b.count = UInt32.ofNat b.pulses.length
  counter : counter = UInt32.ofNat c.pending.length
  rates : ∀ x ∈ c.samples,
    x.rate = Meter.countsPerSec (UInt32.ofNat x.pulses.length) x.windowMs

/-- No counter has wrapped. -/
structure Fits (c : Channel) : Prop where
  pending : c.pending.length < 2 ^ 32
  taken : ∀ b ∈ c.taken, b.pulses.length < 2 ^ 32

namespace Conserved

variable {c : Channel} {counter : UInt32}

/-- A pulse that arrives is one more in the counter and one more pending. -/
theorem arrive (h : c.Conserved counter) (selIsHigh : Bool) :
    (c.arrive selIsHigh).Conserved (counter + 1) where
  numbers := by
    have hnumbers := h.numbers
    simp only [Channel.arrive, List.range_succ, ← hnumbers, List.map_append, List.append_assoc]
    rfl
  counts := h.counts
  counter := by
    rw [h.counter]
    simp [Channel.arrive]
  rates := h.rates

/-- A swap empties the counter and takes what was pending in hand. -/
theorem take (h : c.Conserved counter) : (c.take counter).Conserved 0 where
  numbers := by simpa [Channel.take] using h.numbers
  counts := by
    intro b hb
    simp only [Channel.take, List.mem_append, List.mem_singleton] at hb
    cases hb with
    | inl hb => exact h.counts b hb
    | inr hb => rw [hb]; exact h.counter
  counter := rfl
  rates := h.rates

/-- What was in hand is behind the sample that is made of its count. -/
theorem sample (h : c.Conserved counter) {count : UInt32}
    (hcount : count = UInt32.ofNat c.inHand.length) (windowMs : Int) :
    (c.sample windowMs (Meter.countsPerSec count windowMs)).Conserved counter where
  numbers := h.numbers
  counts := h.counts
  counter := h.counter
  rates := by
    intro x hx
    simp only [Channel.sample, List.mem_append, List.mem_singleton] at hx
    cases hx with
    | inl hx => exact h.rates x hx
    | inr hx => rw [hx, ← hcount]

/-- What a poll without a window had in hand is dropped, and stays on the books. -/
theorem discard (h : c.Conserved counter) : c.discard.Conserved counter :=
  ⟨h.numbers, h.counts, h.counter, h.rates⟩

/-- Pulses so far are the counts taken and the counter. -/
theorem arrived_eq (h : c.Conserved counter) (hfits : c.Fits) :
    c.arrived = (c.taken.map fun b => b.count.toNat).sum + counter.toNat := by
  have hlen := congrArg List.length h.numbers
  have hcounts : c.taken.map (fun b => b.count.toNat) = c.taken.map fun b => b.pulses.length := by
    refine List.map_congr_left fun b hb => ?_
    rw [h.counts b hb, UInt32.toNat_ofNat_of_lt' (hfits.taken b hb)]
  rw [List.length_map, List.length_append, List.length_range, List.length_flatMap] at hlen
  rw [hcounts, h.counter, UInt32.toNat_ofNat_of_lt' hfits.pending, hlen]

end Conserved

namespace Fits

variable {c : Channel}

/-- The counter still fits while fewer than 2^32 pulses are pending. -/
theorem arrive (h : c.Fits) (hfew : c.pending.length + 1 < 2 ^ 32) (selIsHigh : Bool) :
    (c.arrive selIsHigh).Fits where
  pending := by simpa [Channel.arrive] using hfew
  taken := h.taken

/-- A swap takes no more than the counter held. -/
theorem take (h : c.Fits) (count : UInt32) : (c.take count).Fits where
  pending := by simp [Channel.take]
  taken := by
    intro b hb
    simp only [Channel.take, List.mem_append, List.mem_singleton] at hb
    cases hb with
    | inl hb => exact h.taken b hb
    | inr hb => rw [hb]; exact h.pending

end Fits

end Channel

namespace Meter

/-- The measurements leave the pulse counters alone. -/
theorem counters_pushCf (rate : UInt32) (m : Meter) :
    (m.pushCf rate).sCfPulses = m.sCfPulses ∧ (m.pushCf rate).sCf1Pulses = m.sCf1Pulses := by
  rw [pushCf_eq]
  exact ⟨rfl, rfl⟩

/-- `CheckOverPower` does not touch the counters. -/
theorem counters_protect (cfg : Option OverPowerConfig) (relayIsOn : Bool) (rate : UInt32)
    (m : Meter) :
    (m.protect cfg relayIsOn rate).1.sCfPulses = m.sCfPulses ∧
      (m.protect cfg relayIsOn rate).1.sCf1Pulses = m.sCf1Pulses := by
  rw [protect_eq]
  exact ⟨rfl, rfl⟩

/-- Neither does the CF1 filter. -/
theorem counters_pushCf1 (rate : UInt32) (m : Meter) :
    (m.pushCf1 rate).sCfPulses = m.sCfPulses ∧ (m.pushCf1 rate).sCf1Pulses = m.sCf1Pulses := by
  obtain ⟨f, v, c, sel, pin, heq⟩ := pushCf1_eq rate m
  rw [heq]
  exact ⟨rfl, rfl⟩

end Meter

namespace Driver

/-- The counters have room for the pulse. -/
def FewPulses (s : Driver) : DriverEvent → Prop
  | .cfIsr => s.cf.pending.length + 1 < 2 ^ 32
  | .cf1Isr => s.cf1.pending.length + 1 < 2 ^ 32
  | _ => True

instance (s : Driver) : (e : DriverEvent) → Decidable (s.FewPulses e)
  | .cfIsr => inferInstanceAs (Decidable (_ < _))
  | .cf1Isr => inferInstanceAs (Decidable (_ < _))
  | .poll _ => isTrue trivial
  | .advance _ => isTrue trivial

/-- The running poll's local counts are of the pulses it has in hand. -/
def LocalCounts (s : Driver) : Prop :=
  match s.pc with
  | .takeCf1 _ cfPulses => cfPulses = UInt32.ofNat s.cf.inHand.length
  | .measureCf _ cfPulses cf1Pulses =>
      cfPulses = UInt32.ofNat s.cf.inHand.length ∧ cf1Pulses = UInt32.ofNat s.cf1.inHand.length
  | .measureCf1 _ cf1Pulses => cf1Pulses = UInt32.ofNat s.cf1.inHand.length
  | _ => True

structure Conserved (s : Driver) : Prop where
  cf : s.cf.Conserved s.meter.sCfPulses
  cf1 : s.cf1.Conserved s.meter.sCf1Pulses
  locals : s.LocalCounts

/-- Nothing has been counted at boot. -/
theorem conserved_start : start.Conserved := by
  have hchannel : Channel.Conserved {} 0 := ⟨rfl, by simp, rfl, by simp⟩
  exact ⟨hchannel, hchannel, trivial⟩

/-- **Step lemma**: no step loses or invents a pulse. -/
theorem Conserved.step {cfg : Option OverPowerConfig} {s t : Driver} {e : DriverEvent}
    (h : s.Conserved) (hstep : DriverStep cfg s e t) : t.Conserved := by
  have hlocals := h.locals
  cases hstep with
  | cfIsr => exact ⟨h.cf.arrive _, h.cf1, hlocals⟩
  | cf1Isr => exact ⟨h.cf, h.cf1.arrive _, hlocals⟩
  | poll hpc hnow => exact ⟨h.cf, h.cf1, trivial⟩
  | takeCf hpc => exact ⟨h.cf.take, h.cf1, h.cf.counter⟩
  | takeCf1 hpc =>
      rw [LocalCounts, hpc] at hlocals
      exact ⟨h.cf, h.cf1.take, hlocals, h.cf1.counter⟩
  | discard hpc hwindow => exact ⟨h.cf.discard, h.cf1.discard, trivial⟩
  | @measureCf relayIsOn windowMs cfPulses cf1Pulses rate hpc hwindow hrate =>
      rw [LocalCounts, hpc] at hlocals
      obtain ⟨hcf, hcf1⟩ := Meter.counters_protect cfg relayIsOn rate s.meter
      obtain ⟨hcf', hcf1'⟩ := Meter.counters_pushCf rate (s.meter.protect cfg relayIsOn rate).1
      constructor
      case cf =>
          simp only
          rw [hcf', hcf, hrate]
          exact h.cf.sample hlocals.1 windowMs
      case cf1 =>
          simp only
          rw [hcf1', hcf1]
          exact h.cf1
      case locals => exact hlocals.2
  | @measureCf1 relayIsOn windowMs cf1Pulses rate hpc hrate =>
      rw [LocalCounts, hpc] at hlocals
      obtain ⟨hcf, hcf1⟩ := Meter.counters_pushCf1 rate s.meter
      constructor
      case cf =>
          simp only
          rw [hcf]
          exact h.cf
      case cf1 =>
          simp only
          rw [hcf1, hrate]
          exact h.cf1.sample hlocals windowMs
      case locals =>
          simp only [LocalCounts]
          cases (s.meter.sCf1Filter.push rate).2.isSome <;> trivial
  | setSel hpc => exact ⟨h.cf, h.cf1, trivial⟩
  | publish hpc => exact ⟨h.cf, h.cf1, trivial⟩

/-- **Run lemma**: pulses are conserved over every run. -/
theorem conserved_of_run {cfg : Option OverPowerConfig} {es : List DriverEvent} {s : Driver}
    (hrun : (driver cfg).run start es = some s) : s.Conserved :=
  (driver cfg).run_invariant_of_step (fun _ _ _ h hstep => h.step (driverStep_of_step hstep))
    conserved_start hrun

/-- No counter has wrapped. -/
structure Fits (s : Driver) : Prop where
  cf : s.cf.Fits
  cf1 : s.cf1.Fits

/-- Nothing is pending at boot. -/
theorem fits_start : start.Fits := by
  have hchannel : Channel.Fits {} := ⟨by simp, by simp⟩
  exact ⟨hchannel, hchannel⟩

/-- **Step lemma**: the counters keep fitting while few pulses come in. -/
theorem Fits.step {cfg : Option OverPowerConfig} {s t : Driver} {e : DriverEvent}
    (h : s.Fits) (hfew : s.FewPulses e) (hstep : DriverStep cfg s e t) : t.Fits := by
  cases hstep with
  | cfIsr => exact ⟨h.cf.arrive hfew _, h.cf1⟩
  | cf1Isr => exact ⟨h.cf, h.cf1.arrive hfew _⟩
  | poll hpc hnow => exact ⟨h.cf, h.cf1⟩
  | takeCf hpc => exact ⟨h.cf.take _, h.cf1⟩
  | takeCf1 hpc => exact ⟨h.cf, h.cf1.take _⟩
  | discard hpc hwindow => exact ⟨⟨h.cf.pending, h.cf.taken⟩, ⟨h.cf1.pending, h.cf1.taken⟩⟩
  | measureCf hpc hwindow hrate => exact ⟨⟨h.cf.pending, h.cf.taken⟩, h.cf1⟩
  | measureCf1 hpc hrate => exact ⟨h.cf, ⟨h.cf1.pending, h.cf1.taken⟩⟩
  | setSel hpc => exact ⟨h.cf, h.cf1⟩
  | publish hpc => exact ⟨h.cf, h.cf1⟩

/-- **Run lemma**: with fewer than `2^32` pulses a window no counter wraps. -/
theorem fits_of_run {cfg : Option OverPowerConfig} {es : List DriverEvent} {s : Driver}
    (hfew : (driver cfg).Admits FewPulses start es) (hrun : (driver cfg).run start es = some s) :
    s.Fits :=
  (driver cfg).run_invariant_of_admits
    (fun _ _ _ h hok hstep => h.step hok (driverStep_of_step hstep)) fits_start hfew hrun

end Driver

/-! ## which polls discard what they took -/

namespace Channel

/-- The pulses taken by all polls but the first. -/
def takenLater (c : Channel) : List Pulse := (c.taken.drop 1).flatMap Taken.pulses

/-- The pulses behind the samples. -/
def sampled (c : Channel) : List Pulse := c.samples.flatMap FilterSample.pulses

/-- The pulses in hand, unless it is the first poll that has them. -/
def inHandLater (c : Channel) : List Pulse := if c.taken.length ≤ 1 then [] else c.inHand

/-- Every pulse taken after the first poll is behind exactly one sample, or
still in hand. -/
def CountedOnce (c : Channel) : Prop := c.takenLater = c.sampled ++ c.inHandLater

instance (c : Channel) : Decidable c.CountedOnce := inferInstanceAs (Decidable (_ = _))

/-- Nothing in hand is nothing in hand, whichever poll it is. -/
theorem inHandLater_of_nil {c : Channel} (h : c.inHand = []) : c.inHandLater = [] := by
  rw [inHandLater, h, ite_self]

/-- A swap keeps every pulse counted once, provided that nothing is in hand. -/
theorem CountedOnce.take {c : Channel} (h : c.CountedOnce) (hinHand : c.inHand = [])
    (count : UInt32) : (c.take count).CountedOnce := by
  obtain ⟨arrived, pending, taken, inHand, samples⟩ := c
  simp only at hinHand
  subst hinHand
  cases taken with
  | nil => simpa [CountedOnce, takenLater, sampled, inHandLater, Channel.take] using h
  | cons b bs =>
      have hnot : ¬ (bs.length + 1 + 1 ≤ 1) := by omega
      simp only [CountedOnce, takenLater, sampled, inHandLater, Channel.take, ite_self,
        List.drop_succ_cons, List.drop_zero, List.append_nil, List.cons_append] at h ⊢
      rw [List.flatMap_append, h]
      simp [hnot]

/-- So does a sample, once the first swap is behind. -/
theorem CountedOnce.sample {c : Channel} (h : c.CountedOnce) (hlater : 1 < c.taken.length)
    (windowMs : Int) (rate : UInt32) : (c.sample windowMs rate).CountedOnce := by
  have hnot : ¬ c.taken.length ≤ 1 := by omega
  have hnone : (c.sample windowMs rate).inHandLater = [] := inHandLater_of_nil rfl
  rw [CountedOnce, inHandLater, if_neg hnot] at h
  rw [CountedOnce, hnone]
  simpa [takenLater, sampled, Channel.sample] using h

/-- Discarding is right when there is nothing to discard. -/
theorem CountedOnce.discard_iff {c : Channel} (h : c.CountedOnce) :
    c.discard.CountedOnce ↔ c.inHandLater = [] := by
  have hnone : c.discard.inHandLater = [] := inHandLater_of_nil rfl
  have hdiscard : c.discard.CountedOnce ↔ c.takenLater = c.sampled := by
    rw [CountedOnce, hnone, List.append_nil]
    rfl
  rw [hdiscard, h, List.append_right_eq_self]

end Channel

/-- The poll is about to return for want of a window. -/
def MeterPc.givesUp : MeterPc → Bool
  | .measureCf windowMs _ _ => windowMs ≤ 0
  | _ => false

namespace Driver

/-- The poll gives up, and it is not the first, and it has taken a pulse. -/
def DiscardsPulses (s : Driver) : DriverEvent → Prop
  | .advance _ => s.pc.givesUp ∧ (s.cf.inHandLater ≠ [] ∨ s.cf1.inHandLater ≠ [])
  | _ => False

instance (s : Driver) : (e : DriverEvent) → Decidable (s.DiscardsPulses e)
  | .cfIsr => isFalse id
  | .cf1Isr => isFalse id
  | .poll _ => isFalse id
  | .advance _ => inferInstanceAs (Decidable (_ ∧ _))

structure CountedOnce (s : Driver) : Prop where
  cf : s.cf.CountedOnce
  cf1 : s.cf1.CountedOnce

/-- What the running poll has taken so far, and that only a first poll has no
window. -/
def InPhase (s : Driver) : Prop :=
  match s.pc with
  | .idle => s.cf.inHand = [] ∧ s.cf1.inHand = [] ∧
      (s.meter.sLastPollMs ≠ 0 → 1 ≤ s.cf.taken.length ∧ 1 ≤ s.cf1.taken.length)
  | .takeCf windowMs => s.cf.inHand = [] ∧ s.cf1.inHand = [] ∧
      (0 < windowMs → 1 ≤ s.cf.taken.length ∧ 1 ≤ s.cf1.taken.length)
  | .takeCf1 windowMs _ => s.cf1.inHand = [] ∧ 1 ≤ s.cf.taken.length ∧
      (0 < windowMs → 2 ≤ s.cf.taken.length ∧ 1 ≤ s.cf1.taken.length)
  | .measureCf windowMs _ _ => 1 ≤ s.cf.taken.length ∧ 1 ≤ s.cf1.taken.length ∧
      (0 < windowMs → 2 ≤ s.cf.taken.length ∧ 2 ≤ s.cf1.taken.length)
  | .measureCf1 _ _ => s.cf.inHand = [] ∧ 2 ≤ s.cf.taken.length ∧ 2 ≤ s.cf1.taken.length
  | .setSel => s.cf.inHand = [] ∧ s.cf1.inHand = [] ∧
      2 ≤ s.cf.taken.length ∧ 2 ≤ s.cf1.taken.length
  | .publish => s.cf.inHand = [] ∧ s.cf1.inHand = [] ∧
      2 ≤ s.cf.taken.length ∧ 2 ≤ s.cf1.taken.length

/-- At boot no poll is running and none has run. -/
theorem inPhase_start : start.InPhase := ⟨rfl, rfl, fun h => absurd rfl h⟩

/-- **Step lemma**: in between its steps a poll has in hand what its place says. -/
theorem InPhase.step {cfg : Option OverPowerConfig} {s t : Driver} {e : DriverEvent}
    (h : s.InPhase) (hstep : DriverStep cfg s e t) : t.InPhase := by
  cases hstep with
  | cfIsr => exact h
  | cf1Isr => exact h
  | @poll nowMs hpc hnow =>
      rw [InPhase, hpc] at h
      obtain ⟨hcf, hcf1, hearlier⟩ := h
      refine ⟨hcf, hcf1, fun hwindow => hearlier fun hzero => ?_⟩
      simp [Meter.windowMs, hzero] at hwindow
  | takeCf hpc =>
      rw [InPhase, hpc] at h
      obtain ⟨-, hcf1, hearlier⟩ := h
      simp only [InPhase, Channel.take, List.length_append, List.length_singleton]
      exact ⟨hcf1, by omega, fun hwindow => ⟨by have := hearlier hwindow; omega,
        (hearlier hwindow).2⟩⟩
  | takeCf1 hpc =>
      rw [InPhase, hpc] at h
      obtain ⟨-, hone, hearlier⟩ := h
      simp only [InPhase, Channel.take, List.length_append, List.length_singleton]
      exact ⟨hone, by omega, fun hwindow => ⟨(hearlier hwindow).1, by
        have := hearlier hwindow
        omega⟩⟩
  | discard hpc hwindow =>
      rw [InPhase, hpc] at h
      exact ⟨rfl, rfl, fun _ => ⟨h.1, h.2.1⟩⟩
  | measureCf hpc hwindow hrate =>
      rw [InPhase, hpc] at h
      exact ⟨rfl, h.2.2 hwindow⟩
  | @measureCf1 relayIsOn windowMs cf1Pulses rate hpc hrate =>
      rw [InPhase, hpc] at h
      simp only [InPhase]
      cases (s.meter.sCf1Filter.push rate).2.isSome with
      | true => exact ⟨h.1, rfl, h.2⟩
      | false => exact ⟨h.1, rfl, h.2⟩
  | setSel hpc =>
      rw [InPhase, hpc] at h
      exact h
  | publish hpc =>
      rw [InPhase, hpc] at h
      obtain ⟨hcf, hcf1, htwo, htwo1⟩ := h
      exact ⟨hcf, hcf1, fun _ => ⟨Nat.le_of_lt htwo, Nat.le_of_lt htwo1⟩⟩

/-- At boot nothing has been taken. -/
theorem countedOnce_start : start.CountedOnce := ⟨rfl, rfl⟩

/-- **Step lemma**: a step keeps the account right exactly when it is not a poll
that discards pulses it should have kept. -/
theorem CountedOnce.step_iff {cfg : Option OverPowerConfig} {s t : Driver} {e : DriverEvent}
    (hphase : s.InPhase) (h : s.CountedOnce) (hstep : DriverStep cfg s e t) :
    t.CountedOnce ↔ ¬ s.DiscardsPulses e := by
  cases hstep with
  | cfIsr => exact iff_of_true ⟨h.cf, h.cf1⟩ id
  | cf1Isr => exact iff_of_true ⟨h.cf, h.cf1⟩ id
  | poll hpc hnow => exact iff_of_true ⟨h.cf, h.cf1⟩ id
  | takeCf hpc =>
      rw [InPhase, hpc] at hphase
      refine iff_of_true ⟨h.cf.take hphase.1 _, h.cf1⟩ ?_
      simp [DiscardsPulses, MeterPc.givesUp, hpc]
  | takeCf1 hpc =>
      rw [InPhase, hpc] at hphase
      refine iff_of_true ⟨h.cf, h.cf1.take hphase.1 _⟩ ?_
      simp [DiscardsPulses, MeterPc.givesUp, hpc]
  | discard hpc hwindow =>
      simp only [DiscardsPulses, MeterPc.givesUp, hpc, hwindow, decide_true, true_and, not_or,
        not_not]
      rw [← h.cf.discard_iff, ← h.cf1.discard_iff]
      exact ⟨fun ht => ⟨ht.cf, ht.cf1⟩, fun ht => ⟨ht.1, ht.2⟩⟩
  | @measureCf relayIsOn windowMs _ _ rate hpc hwindow hrate =>
      rw [InPhase, hpc] at hphase
      refine iff_of_true ⟨h.cf.sample (hphase.2.2 hwindow).1 windowMs rate, h.cf1⟩ ?_
      simp [DiscardsPulses, MeterPc.givesUp, hpc, Int.not_le.mpr hwindow]
  | @measureCf1 relayIsOn windowMs _ rate hpc hrate =>
      rw [InPhase, hpc] at hphase
      refine iff_of_true ⟨h.cf, h.cf1.sample hphase.2.2 windowMs rate⟩ ?_
      simp [DiscardsPulses, MeterPc.givesUp, hpc]
  | setSel hpc =>
      refine iff_of_true ⟨h.cf, h.cf1⟩ ?_
      simp [DiscardsPulses, MeterPc.givesUp, hpc]
  | publish hpc =>
      refine iff_of_true ⟨h.cf, h.cf1⟩ ?_
      simp [DiscardsPulses, MeterPc.givesUp, hpc]

/-- A run counts the pulses taken after its first poll once exactly when no
later poll discards any. -/
theorem countedOnce_iff (cfg : Option OverPowerConfig) (es : List DriverEvent) :
    (∀ fs, fs <+: es → ∀ s, (driver cfg).run start fs = some s → s.CountedOnce) ↔
      (driver cfg).Admits (fun s e => ¬ s.DiscardsPulses e) start es :=
  (driver cfg).forall_prefix_iff_admits (P := InPhase) (I := fun _ s => s.CountedOnce)
    (fun _ _ _ h hstep => h.step (driverStep_of_step hstep))
    (fun _ _ _ _ hphase h hstep => h.step_iff hphase (driverStep_of_step hstep))
    inPhase_start countedOnce_start es

end Driver

/-! ## every pulse is counted exactly once -/

/-- The pulses so far are the counts taken and the counter, each numbered pulse
is in one of them, and those taken after the first poll are behind one sample
each. -/
structure Channel.PulsesCounted (c : Channel) (counter : UInt32) : Prop where
  total : c.arrived = (c.taken.map fun b => b.count.toNat).sum + counter.toNat
  conserved : c.Conserved counter
  once : c.CountedOnce

structure Driver.PulsesCounted (s : Driver) : Prop where
  cf : s.cf.PulsesCounted s.meter.sCfPulses
  cf1 : s.cf1.PulsesCounted s.meter.sCf1Pulses

/-- **Every pulse is counted exactly once**, whatever the interrupts do, exactly
in the runs in which no poll but the first finds an empty window and pulses. -/
theorem pulses_counted_once_iff (cfg : Option OverPowerConfig) (es : List DriverEvent)
    (hfew : (driver cfg).Admits Driver.FewPulses Driver.start es) :
    (∀ fs, fs <+: es → ∀ s, (driver cfg).run Driver.start fs = some s → s.PulsesCounted) ↔
      (driver cfg).Admits (fun s e => ¬ s.DiscardsPulses e) Driver.start es := by
  rw [← Driver.countedOnce_iff]
  constructor
  · intro h fs hfs s hrun
    have hcounted := h fs hfs s hrun
    exact ⟨hcounted.cf.once, hcounted.cf1.once⟩
  · intro h fs hfs s hrun
    have honce := h fs hfs s hrun
    have hprefix : (driver cfg).Admits Driver.FewPulses Driver.start fs := by
      obtain ⟨gs, rfl⟩ := hfs
      exact (((driver cfg).admits_append_of_run hrun).mp hfew).1
    have hfits := Driver.fits_of_run hprefix hrun
    have hconserved := Driver.conserved_of_run hrun
    constructor
    case cf => exact ⟨hconserved.cf.arrived_eq hfits.cf, hconserved.cf, honce.cf⟩
    case cf1 => exact ⟨hconserved.cf1.arrived_eq hfits.cf1, hconserved.cf1, honce.cf1⟩

/-- The first poll and the second, with a pulse in the middle of each. -/
theorem second_poll_counts_its_pulse :
    let advance := DriverEvent.advance true
    let es := [.poll 1000, advance, .cfIsr, advance, advance,
      .poll 2000, advance, .cfIsr, advance, advance, advance, advance]
    ((driver none).run Driver.start es).isSome ∧
      ∀ fs, fs <+: es → ∀ s, (driver none).run Driver.start fs = some s → s.PulsesCounted := by
  constructor
  · decide
  · exact (pulses_counted_once_iff none _ (by decide)).mpr (by decide)

/-- The second poll within a millisecond takes a pulse and discards it. -/
theorem pulse_discarded_within_a_millisecond :
    ¬ ∀ cfg es, (driver cfg).Admits Driver.FewPulses Driver.start es →
      ∀ s, (driver cfg).run Driver.start es = some s → s.PulsesCounted := by
  intro h
  let advance := DriverEvent.advance true
  have hcounted := h none [.poll 1000, advance, advance, advance,
    .poll 2000, advance, advance, advance, advance, advance, .cfIsr,
    .poll 2000, advance, advance, advance] (by decide) _ rfl
  exact absurd hcounted.cf.once (by decide)

end UascentPlug

import Mathlib.Data.List.Infix
import UascentPlug.Metering

/-!
# UascentPlug.Metering.FirstReading

What the attributes say before anything was measured.  They are nullable so
that "no reading yet" is not a zero, and null is what initialisation leaves.
But a poll publishes whatever is cached as soon as it measures a window, and
until a block is complete that is the initial 0: the power and the voltage
are made up for two polls, the current for five (`nullUntilMeasured_after_iff`), and
the integrator starts from the first of them.
-/

namespace UascentPlug

namespace PowerMeasurement

/-- What `GetActivePower` answers. -/
def activePower (s : PowerMeasurement) : Option Int :=
  s.sDelegate.bind PlugPowerDelegate.mActivePowerMw

/-- What `GetRMSVoltage` answers. -/
def rmsVoltage (s : PowerMeasurement) : Option Int :=
  s.sDelegate.bind PlugPowerDelegate.mRmsVoltageMv

/-- What `GetRMSCurrent` answers. -/
def rmsCurrent (s : PowerMeasurement) : Option Int :=
  s.sDelegate.bind PlugPowerDelegate.mRmsCurrentMa

end PowerMeasurement

namespace Metering

/-- The poll completes a CF filter window. -/
def CompletesCf (s : Metering) (i : MeteringPoll) : Prop :=
  s.validPoll i = true ∧ s.meter.sCfFilter.mCount.val + 1 = kFilterDepth

/-- The poll completes a CF1 filter window with SEL at this level. -/
def CompletesCf1 (selIsHigh : Bool) (s : Metering) (i : MeteringPoll) : Prop :=
  s.validPoll i = true ∧ s.meter.sCf1Filter.mCount.val + 1 = kFilterDepth ∧
    s.meter.selPin = selIsHigh

/-- After the polls `is`, no attribute has a value whose quantity was not
measured, and the integrator has no sample of the power before that was. -/
structure NullUntilMeasured (cfg : Option OverPowerConfig) (s₀ : Metering)
    (is : List MeteringPoll) : Prop where
  power : ((metering cfg).exec s₀ is).pm.activePower.isSome →
    (metering cfg).Ever CompletesCf s₀ is
  voltage : ((metering cfg).exec s₀ is).pm.rmsVoltage.isSome →
    (metering cfg).Ever (CompletesCf1 true) s₀ is
  current : ((metering cfg).exec s₀ is).pm.rmsCurrent.isSome →
    (metering cfg).Ever (CompletesCf1 false) s₀ is
  integrator : ((metering cfg).exec s₀ is).pm.sHaveLastSample = true →
    (metering cfg).Ever CompletesCf s₀ is

/-- How many polls of a run from boot are valid. -/
def validPolls (cfg : Option OverPowerConfig) (s₀ : Metering) (is : List MeteringPoll) : Nat :=
  (metering cfg).count validPoll s₀ is

variable {cfg : Option OverPowerConfig} {s₀ : Metering}

/-- One more poll is one more if it is valid. -/
theorem validPolls_concat (is : List MeteringPoll) (i : MeteringPoll) :
    validPolls cfg s₀ (is ++ [i]) =
      validPolls cfg s₀ is + if ((metering cfg).exec s₀ is).validPoll i then 1 else 0 := by
  rw [validPolls, Mealy.count_append]
  rfl

/-- The windows the driver has measured are the valid polls. -/
theorem exists_follows (h : s₀.meter = Meter.booted) (is : List MeteringPoll) :
    ∃ ws, ((metering cfg).exec s₀ is).meter.Follows ws ∧ ws.length = validPolls cfg s₀ is := by
  induction is using List.reverseRecOn with
  | nil => exact ⟨[], h ▸ Meter.follows_booted, rfl⟩
  | append_singleton is i ih =>
      obtain ⟨ws, hws, hlen⟩ := ih
      have hnext := hws.poll cfg i.poll i.relayIsOn
      have hvalid : ((metering cfg).exec s₀ is).validPoll i = _ := Meter.validPoll_eq _ i.meterPoll
      refine ⟨_, by rw [Mealy.exec_append]; exact hnext, ?_⟩
      rw [validPolls_concat, hvalid, List.length_append, hlen]
      cases hw : i.poll.window ((metering cfg).exec s₀ is).meter.stamp with
      | none => simp [MeteringPoll.meterPoll, hw]
      | some w => simp [MeteringPoll.meterPoll, hw]

/-! ## when a quantity has been measured -/

/-- A CF block is complete from the third valid poll on. -/
theorem ever_completesCf (h : s₀.meter = Meter.booted) (is : List MeteringPoll) :
    (metering cfg).Ever CompletesCf s₀ is ↔ 3 ≤ validPolls cfg s₀ is := by
  induction is using List.reverseRecOn with
  | nil => simp [validPolls, Mealy.count]
  | append_singleton is i ih =>
      obtain ⟨ws, hws, hlen⟩ : ∃ ws, ((metering cfg).exec s₀ is).meter.Follows ws ∧ _ :=
        exists_follows h is
      have hcount := hws.cfFilter.count
      rw [List.length_map, hlen] at hcount
      rw [Mealy.ever_append, ih, validPolls_concat, Mealy.ever_cons, Mealy.ever_nil, or_false,
        CompletesCf, hcount, kFilterDepth]
      cases ((metering cfg).exec s₀ is).validPoll i with
      | false => simp
      | true =>
          simp only [if_true, true_and]
          omega

/-- A CF1 block is complete with SEL high from the third valid poll on, and with
SEL low from the sixth. -/
theorem ever_completesCf1 (h : s₀.meter = Meter.booted) (is : List MeteringPoll) :
    ((metering cfg).Ever (CompletesCf1 true) s₀ is ↔ 3 ≤ validPolls cfg s₀ is) ∧
      ((metering cfg).Ever (CompletesCf1 false) s₀ is ↔ 6 ≤ validPolls cfg s₀ is) := by
  induction is using List.reverseRecOn with
  | nil => simp [validPolls, Mealy.count]
  | append_singleton is i ih =>
      obtain ⟨hhigh, hlow⟩ := ih
      obtain ⟨ws, hws, hlen⟩ : ∃ ws, ((metering cfg).exec s₀ is).meter.Follows ws ∧ _ :=
        exists_follows h is
      have hcount := hws.cf1Filter.count
      have hpin := hws.selPin.trans hws.selIsVoltage
      rw [List.length_map, hlen] at hcount
      rw [hlen] at hpin
      simp only [Mealy.ever_append, Mealy.ever_cons, Mealy.ever_nil, or_false, hhigh, hlow,
        validPolls_concat, CompletesCf1, hcount, hpin, evenBlock, kFilterDepth]
      cases ((metering cfg).exec s₀ is).validPoll i with
      | false => simp
      | true =>
          simp only [if_true, true_and, decide_eq_true_eq, decide_eq_false_iff_not]
          constructor
          · omega
          · omega

/-! ## when the attributes have values -/

/-- All three attributes have values from the first valid poll on, and the
integrator has a sample. -/
structure Publishes (s : Metering) (k : Nat) : Prop where
  delegate : s.pm.sDelegate.isSome = true
  power : s.pm.activePower.isSome = true ↔ 0 < k
  voltage : s.pm.rmsVoltage.isSome = true ↔ 0 < k
  current : s.pm.rmsCurrent.isSome = true ↔ 0 < k
  integrator : s.pm.sHaveLastSample = true ↔ 0 < k

/-- At boot nothing has been published. -/
theorem publishes_start {endpoint : UInt16} {answers : InitAnswers}
    (hok : (({} : PowerMeasurement).powerMeasurementInit endpoint answers).2 = .noError)
    (m : Meter) : (start m endpoint answers).Publishes 0 := by
  obtain ⟨hdelegate, -, -, hprimed⟩ := pm_start m hok
  constructor
  case delegate => rw [hdelegate]; rfl
  case power => simp [PowerMeasurement.activePower, hdelegate]
  case voltage => simp [PowerMeasurement.rmsVoltage, hdelegate]
  case current => simp [PowerMeasurement.rmsCurrent, hdelegate]
  case integrator => simp [hprimed]

/-- **Run lemma**: every valid poll publishes once. -/
theorem publishes_of_run (h : s₀.Publishes 0) (is : List MeteringPoll) :
    ((metering cfg).exec s₀ is).Publishes (validPolls cfg s₀ is) := by
  induction is using List.reverseRecOn with
  | nil => exact h
  | append_singleton is i ih =>
      rw [Mealy.exec_append, validPolls_concat]
      simp only [Mealy.exec_cons, Mealy.exec_nil]
      cases hvalid : ((metering cfg).exec s₀ is).validPoll i with
      | false =>
          rw [step_of_not_valid hvalid]
          exact ⟨ih.delegate, ih.power, ih.voltage, ih.current, ih.integrator⟩
      | true =>
          rw [step_of_valid hvalid]
          simp only [PowerMeasurement.powerMeasurementUpdate_eq _ ih.delegate, if_true]
          constructor
          case delegate => rfl
          all_goals simp [PowerMeasurement.activePower, PowerMeasurement.rmsVoltage,
            PowerMeasurement.rmsCurrent, PlugPowerDelegate.set]

/-! ## null until measured -/

/-- **When every value is a measured one**: before the first valid poll, and
again from the sixth on. -/
theorem nullUntilMeasured_after_iff {endpoint : UInt16} {answers : InitAnswers}
    (hok : (({} : PowerMeasurement).powerMeasurementInit endpoint answers).2 = .noError)
    (is : List MeteringPoll) :
    let s₀ := start Meter.booted endpoint answers
    NullUntilMeasured cfg s₀ is ↔ validPolls cfg s₀ is = 0 ∨ 6 ≤ validPolls cfg s₀ is := by
  intro s₀
  have hpublishes : ((metering cfg).exec s₀ is).Publishes (validPolls cfg s₀ is) :=
    publishes_of_run (publishes_start hok Meter.booted) is
  have hcf : (metering cfg).Ever CompletesCf s₀ is ↔ 3 ≤ validPolls cfg s₀ is :=
    ever_completesCf rfl is
  obtain ⟨hhigh, hlow⟩ : ((metering cfg).Ever (CompletesCf1 true) s₀ is ↔ _) ∧
      ((metering cfg).Ever (CompletesCf1 false) s₀ is ↔ _) := ever_completesCf1 rfl is
  constructor
  · intro h
    have hcurrent := h.current
    rw [hpublishes.current, hlow] at hcurrent
    omega
  · intro h
    constructor
    case power => rw [hpublishes.power, hcf]; omega
    case voltage => rw [hpublishes.voltage, hhigh]; omega
    case current => rw [hpublishes.current, hlow]; omega
    case integrator => rw [hpublishes.integrator, hcf]; omega

/-- **No value is published before it is measured**, in any state of a run from
boot, exactly when no poll of the run is valid. -/
theorem null_until_measured_iff {endpoint : UInt16} {answers : InitAnswers}
    (hok : (({} : PowerMeasurement).powerMeasurementInit endpoint answers).2 = .noError)
    (cfg : Option OverPowerConfig) (is : List MeteringPoll) :
    let s₀ := start Meter.booted endpoint answers
    (∀ fs, fs <+: is → NullUntilMeasured cfg s₀ fs) ↔ validPolls cfg s₀ is = 0 := by
  intro s₀
  induction is using List.reverseRecOn with
  | nil =>
      refine iff_of_true (fun fs hfs => ?_) rfl
      rw [List.prefix_nil.mp hfs]
      exact (nullUntilMeasured_after_iff hok []).mpr (Or.inl rfl)
  | append_singleton is i ih =>
      constructor
      · intro h
        have hbefore := ih.mp fun fs hfs => h fs (hfs.trans (List.prefix_append is [i]))
        have hlast : validPolls cfg s₀ (is ++ [i]) = 0 ∨ 6 ≤ validPolls cfg s₀ (is ++ [i]) :=
          (nullUntilMeasured_after_iff hok _).mp (h _ (List.prefix_refl _))
        have hconcat : validPolls cfg s₀ (is ++ [i]) = _ := validPolls_concat is i
        split at hconcat <;> omega
      · intro hzero fs hfs
        obtain ⟨gs, hgs⟩ := hfs
        have hsplit : validPolls cfg s₀ (fs ++ gs) = 0 := by rw [hgs]; exact hzero
        rw [validPolls, Mealy.count_append] at hsplit
        exact (nullUntilMeasured_after_iff hok fs).mpr
          (Or.inl (Nat.eq_zero_of_add_eq_zero_right hsplit))

/-- The first poll of a boot publishes nothing. -/
theorem null_after_the_first_poll :
    let s₀ := start Meter.booted 1 { get := (.noError, 0) }
    let is : List MeteringPoll := [{ poll := ⟨1000, 200, 1800⟩, updateMs := 1000 }]
    validPolls none s₀ is = 0 ∧ ∀ fs, fs <+: is → NullUntilMeasured none s₀ fs := by
  intro s₀ is
  have hnone : validPolls none s₀ is = 0 := rfl
  exact ⟨hnone, (null_until_measured_iff rfl none is).mpr hnone⟩

/-- The second poll of a boot has counted a load of 258 W, and publishes 0 W. -/
theorem zero_is_published_unmeasured :
    let s₀ := start Meter.booted 1 { get := (.noError, 0) }
    let is : List MeteringPoll := [{ poll := ⟨1000, 200, 1800⟩, updateMs := 1000 },
      { poll := ⟨2000, 200, 1800⟩, updateMs := 2000 }]
    ((metering none).exec s₀ is).pm.activePower = some 0 ∧
      ((metering none).exec s₀ is).pm.rmsVoltage = some 0 ∧
      ((metering none).exec s₀ is).pm.rmsCurrent = some 0 ∧ ¬ NullUntilMeasured none s₀ is := by
  intro s₀ is
  refine ⟨rfl, rfl, rfl, fun h => ?_⟩
  have hpolls : validPolls none s₀ is = 0 ∨ 6 ≤ validPolls none s₀ is :=
    (nullUntilMeasured_after_iff rfl is).mp h
  have hone : validPolls none s₀ is = 1 := rfl
  omega

end Metering

end UascentPlug

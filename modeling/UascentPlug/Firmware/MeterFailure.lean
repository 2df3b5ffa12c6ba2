import UascentPlug.Firmware.Readings

/-!
# UascentPlug.Firmware.MeterFailure

When a metering pin is not ready, `MeterInit` logs the fact and returns; nothing
else is told.  What then happens in a boot (`failed_meter_looks_idle`): polling
and publishing go on, with readings of zero, no write and no trip, and to
everything outside the meter the boot is one of a working meter without load
and without mains.

First what a boot without pulses does, then that a failed meter has none, then
the working meter beside it.
-/

namespace UascentPlug

open SampleStream

/-! ## a boot without pulses -/

/-- Samples of zero read as zero. -/
theorem blockReading_eq_zero {k : Nat} {p : Nat → Bool} {rates : List Nat}
    (h : ∀ rate ∈ rates, rate = 0) : blockReading k p rates = 0 := by
  unfold blockReading
  cases hmedian : lastMedian p rates with
  | none => rfl
  | some median =>
      rw [h median (mem_of_lastMedian hmedian)]
      simp [reading]

/-- No pulse was counted in the poll. -/
def Poll.isQuiet (p : Poll) : Bool := p.cf = 0 ∧ p.cf1 = 0

/-- A window without pulses has zero samples. -/
theorem quiet_of_mem_measuredAfter {last : Option Int} {ps : List Poll}
    (h : ∀ p ∈ ps, p.isQuiet = true) {w : Window} (hw : w ∈ measuredAfter last ps) :
    w.cfSample = 0 ∧ w.cf1Sample = 0 := by
  induction ps generalizing last with
  | nil => contradiction
  | cons p ps ih =>
      rw [measuredAfter, List.mem_append, Option.mem_toList] at hw
      cases hw with
      | inl hw =>
          obtain ⟨-, -, -, hcf, hcf1⟩ := window_eq_some hw
          have hquiet := h p List.mem_cons_self
          simp only [Poll.isQuiet, Bool.decide_and, Bool.and_eq_true, decide_eq_true_eq] at hquiet
          simp [Window.cfSample, Window.cfRate, Window.cf1Sample, Window.cf1Rate, hcf, hcf1, hquiet]
      | inr hw => exact ih (fun q hq => h q (List.mem_cons_of_mem p hq)) hw

/-- Windows without pulses read as nothing. -/
theorem readingsOf_quiet {ps : List Poll} (h : ∀ p ∈ ps, p.isQuiet = true) :
    readingsOf (measured ps) = (0, 0, 0) := by
  have hcf : ∀ rate ∈ (measured ps).map Window.cfSample, rate = 0 := by
    intro rate hrate
    obtain ⟨w, hw, rfl⟩ := List.mem_map.mp hrate
    exact (quiet_of_mem_measuredAfter h hw).1
  have hcf1 : ∀ rate ∈ (measured ps).map Window.cf1Sample, rate = 0 := by
    intro rate hrate
    obtain ⟨w, hw, rfl⟩ := List.mem_map.mp hrate
    exact (quiet_of_mem_measuredAfter h hw).2
  rw [readingsOf, blockReading_eq_zero hcf, blockReading_eq_zero hcf1, blockReading_eq_zero hcf1]

namespace PowerMeasurement

/-- Nothing to add and nothing to write. -/
structure Idle (s : PowerMeasurement) : Prop where
  power : s.sLastActivePowerMw = 0
  saved : s.sLastPersistedEnergyMwh = s.sCumulativeEnergyMwh

variable {s : PowerMeasurement} {u : Sample}

/-- No power adds no energy. -/
theorem Idle.totalMwh (h : s.Idle) (hu : u.activePowerMw = 0) :
    s.totalMwh u = s.sCumulativeEnergyMwh := by
  simp [PowerMeasurement.totalMwh, stepMwh, energyMwh, h.power, hu]

/-- A call with zero power writes nothing. -/
theorem Idle.not_putDue (h : s.Idle) (hu : u.activePowerMw = 0) : ¬ s.PutDue u := by
  intro hdue
  have hpos := hdue.2.1
  rw [h.totalMwh hu, h.saved] at hpos
  omega

/-- **Step lemma**: a call without power adds nothing and writes nothing. -/
theorem Idle.update (h : s.Idle) (hu : u.activePowerMw = 0) :
    (s.powerMeasurementUpdate u).1.Idle ∧
      (s.powerMeasurementUpdate u).1.sCumulativeEnergyMwh = s.sCumulativeEnergyMwh ∧
      ∀ mwh err, .put mwh err ∉ (s.powerMeasurementUpdate u).2 := by
  cases hdelegate : s.sDelegate with
  | none =>
      rw [powerMeasurementUpdate_of_none hdelegate]
      exact ⟨h, rfl, by simp⟩
  | some delegate =>
      have hupdated := updated u (s := s) (by rw [hdelegate]; rfl)
      have hpersisted := hupdated.persisted
      rw [if_neg fun hdue => h.not_putDue hu hdue.1] at hpersisted
      have htotal := hupdated.total.trans (h.totalMwh hu)
      refine ⟨⟨hupdated.power.trans hu, ?_⟩, htotal, fun mwh err hput => ?_⟩
      · rw [hpersisted, htotal, h.saved]
      · rcases mem_effects hput with ⟨_, hdirty⟩ | ⟨hdue, -⟩ | ⟨-, hnotify⟩
        · contradiction
        · exact h.not_putDue hu hdue
        · contradiction

/-- The hook leaves the total where the store has it. -/
theorem Idle.powerMeasurementInit (h : s.Idle) (endpoint : UInt16) (answers : InitAnswers) :
    (s.powerMeasurementInit endpoint answers).1.Idle := by
  unfold PowerMeasurement.powerMeasurementInit loadCumulativeEnergy
  split
  · exact ⟨h.power, h.saved⟩
  · split
    · exact ⟨h.power, h.saved⟩
    · split
      · exact ⟨h.power, h.saved⟩
      · split <;> exact ⟨h.power, rfl⟩

end PowerMeasurement

/-- Effects without a `Put` leave the store alone. -/
theorem foldl_store_of_no_put {effects : List Effect} (h : ∀ mwh err, .put mwh err ∉ effects)
    (kvs : Option Int) : effects.foldl store kvs = kvs := by
  induction effects generalizing kvs with
  | nil => rfl
  | cons e effects ih =>
      have hrest := ih fun mwh err hput => h mwh err (List.mem_cons_of_mem e hput)
      cases e with
      | put mwh err => exact absurd List.mem_cons_self (h mwh err)
      | attributeChanged endpoint attributeId => exact hrest kvs
      | notifyCumulativeEnergyMeasured endpoint mwh => exact hrest kvs

/-! ## a boot with a failed meter -/

/-- A metering pin is not ready. -/
def StartAnswers.meterFails (a : StartAnswers) : Bool :=
  !([MeterPin.cf, .cf1, .sel].all a.meterIsReady)

/-- All readings are zero and nothing is written. -/
structure Publication.Empty (p : Publication) : Prop where
  readings : p.sample.readings = (0, 0, 0)
  unwritten : ∀ mwh err, .put mwh err ∉ p.effects

namespace Firmware

variable {cfg : Option OverPowerConfig} {kvs : Option Int} {f g : Firmware}

/-- The invariant of a boot with a failed meter: no interrupts, so no pulses, so
nothing to integrate and nothing to write. -/
structure Silent (kvs : Option Int) (f : Firmware) : Prop where
  startUp : StartUp f
  measures : Measures f
  fails : f.answers.meterFails = true
  off : f.meter.interruptsEnabled = false
  counters : f.poll.isQuiet = true
  polls : ∀ p ∈ f.polls, p.isQuiet = true
  idle : f.pm.Idle
  stored : f.kvs = kvs

/-- Nothing has been counted when power comes on. -/
theorem silent_powerOn {answers : StartAnswers} (h : answers.meterFails = true)
    (kvs : Option Int) (onOff : Bool) : Silent kvs (powerOn answers kvs onOff) where
  startUp := startUp_powerOn answers kvs onOff
  measures := measures_powerOn answers kvs onOff
  fails := h
  off := rfl
  counters := rfl
  polls := by simp [powerOn]
  idle := ⟨rfl, rfl⟩
  stored := rfl

namespace Silent

/-- Polls of a meter without interrupts take zero counts. -/
theorem quiet_polls (h : Silent kvs f) : ∀ p ∈ f.polls ++ [f.poll], p.isQuiet = true := by
  intro p hp
  rw [List.mem_append, List.mem_singleton] at hp
  cases hp with
  | inl hp => exact h.polls p hp
  | inr hp => exact hp ▸ h.counters

/-- What they publish is zero. -/
theorem sample_readings (h : Silent kvs f) (cfg : Option OverPowerConfig) (a : TaskAnswers) :
    (f.sample cfg a).readings = (0, 0, 0) :=
  (h.measures.sample_readings cfg a).trans (readingsOf_quiet h.quiet_polls)

/-- Their publications are empty. -/
theorem publications (h : Silent kvs f) (cfg : Option OverPowerConfig) (a : TaskAnswers) :
    ∀ p ∈ f.publications cfg a, p.Empty := by
  intro p hp
  cases hw : f.window with
  | none => simp [Firmware.publications, publish_of_window_none hw] at hp
  | some w =>
      rw [Firmware.publications, publish_of_window_some hw, List.mem_singleton] at hp
      have hreadings := h.sample_readings cfg a
      obtain ⟨-, -, hunwritten⟩ := h.idle.update (congrArg Prod.fst hreadings)
      rw [hp]
      exact ⟨hreadings, hunwritten⟩

/-- The measurement module stays idle under them. -/
theorem published_idle (h : Silent kvs f) (cfg : Option OverPowerConfig) (a : TaskAnswers) :
    (publish (f.meteringPoll a) f.pm (f.meterCalls cfg)).1.Idle := by
  cases hw : f.window with
  | none =>
      rw [publish_of_window_none hw]
      exact h.idle
  | some w =>
      rw [publish_of_window_some hw]
      exact (h.idle.update (congrArg Prod.fst (h.sample_readings cfg a))).1

/-- They put nothing. -/
theorem effects (h : Silent kvs f) (cfg : Option OverPowerConfig) (a : TaskAnswers) (mwh : Int)
    (err : ChipError) : .put mwh err ∉ f.effects cfg a := by
  intro hput
  obtain ⟨p, hp, hput⟩ := List.mem_flatMap.mp hput
  exact (h.publications cfg a p hp).unwritten mwh err hput

/-- A rate of zero does not trip. -/
theorem not_trips (h : Silent kvs f) (hthreshold : ∀ c ∈ cfg, 0 ≤ c.thresholdMw) :
    ¬ f.Trips cfg := by
  rw [Trips]
  cases hw : f.window with
  | none => simp [meterCalls_of_window_none hw]
  | some w =>
      obtain ⟨-, -, -, hcf, -⟩ := window_eq_some hw
      have hquiet := h.counters
      simp only [Poll.isQuiet, Bool.decide_and, Bool.and_eq_true, decide_eq_true_eq] at hquiet
      have hrate : w.cfRate = 0 := by simp [Window.cfRate, hcf, hquiet]
      rw [meterCalls_of_window_some hw {}, hrate]
      cases cfg with
      | none => simp [Meter.protect]
      | some c =>
          have hc := hthreshold c rfl
          simp [Meter.protect, Meter.checkOverPower, scaled, hc]

/-- A poll keeps the meter silent. -/
theorem meterPoll {tasks : List Task} (h : Silent kvs f) (happ : f.app = .dispatching)
    (htasks : f.tasks = .meterPoll :: tasks) (cfg : Option OverPowerConfig) (a : TaskAnswers) :
    Silent kvs (Firmware.meterPoll cfg a { f with tasks := tasks }) where
  startUp := h.startUp.step (.dispatch happ htasks)
  measures := (h.measures.of_eq (g := { f with tasks := tasks }) rfl rfl).meterPoll cfg a
  fails := h.fails
  off := (Meter.interruptsEnabled_meterPoll cfg _ _ f.meter).trans h.off
  counters := by
    obtain ⟨hcf, hcf1⟩ := Meter.counters_meterPoll cfg f.plug.relayIsOn f.uptimeMs f.meter
    simp [Poll.isQuiet, poll, Firmware.meterPoll, hcf, hcf1]
  polls := h.quiet_polls
  idle := h.published_idle cfg a
  stored := (foldl_store_of_no_put (h.effects cfg a) f.kvs).trans h.stored

/-- So does a step of start-up: the metering pins are not ready. -/
theorem initStep (h : Silent kvs f) {next : InitStep} (happ : f.app = .init next) :
    Silent kvs (f.initStep next) := by
  have hkeeps := f.initKeeps next
  have hmeter : (f.initStep next).meter = f.meter := by
    by_cases hnext : next = .meterInit
    · subst hnext
      have hfails := h.fails
      simp only [StartAnswers.meterFails, Bool.not_eq_true'] at hfails
      simp [Firmware.initStep, Meter.meterInit, hfails]
    · exact (f.initStep_unmetered hnext).1
  constructor
  case startUp => exact h.startUp.initStep happ
  case measures => exact h.measures.initStep h.startUp happ
  case fails => rw [hkeeps.answers]; exact h.fails
  case off => rw [hmeter]; exact h.off
  case counters => simp only [poll, hmeter]; exact h.counters
  case polls => rw [hkeeps.polls]; exact h.polls
  case idle => rw [hkeeps.pm]; exact h.idle
  case stored => rw [hkeeps.kvs]; exact h.stored

/-- **Step lemma**: the boot stays silent, and what it publishes is empty. -/
theorem step {e : FirmwareEvent} (h : Silent kvs f) (hcut : e.cutsPower = false)
    (hstep : FirmwareStep cfg f e g) :
    Silent kvs g ∧ ∀ p ∈ f.published cfg e, p.Empty := by
  have hstart := h.startUp.step hstep
  have hmeasures := (h.measures.step h.startUp hcut hstep).1
  cases hstep with
  | init happ => exact ⟨h.initStep happ, by simp [published]⟩
  | @dispatch a task tasks happ htasks =>
      cases task with
      | meterPoll =>
          refine ⟨h.meterPoll happ htasks cfg a, ?_⟩
          simp only [published, htasks, List.head?_cons]
          exact h.publications cfg a
      | buttonEventHandler state hasChanged =>
          refine ⟨⟨hstart, hmeasures, h.fails, h.off, h.counters, h.polls, h.idle, h.stored⟩, ?_⟩
          simp [published, htasks]
  | cfIsr henabled =>
      rw [h.off] at henabled
      contradiction
  | cf1Isr henabled =>
      rw [h.off] at henabled
      contradiction
  | postServerInit hstarted hhook =>
      exact ⟨⟨hstart, hmeasures, h.fails, h.off, h.counters, h.polls,
        h.idle.powerMeasurementInit _ _, h.stored⟩, by simp [published]⟩
  | powerCut => contradiction
  | powerCutDuring happ htasks => contradiction
  | _ =>
      exact ⟨⟨hstart, hmeasures, h.fails, h.off, h.counters, h.polls, h.idle, h.stored⟩,
        by simp [published]⟩

end Silent

/-- **Run lemma**: a boot with a failed meter publishes nothing but zeros. -/
theorem silent_of_boot {answers : StartAnswers} (hfails : answers.meterFails = true)
    {kvs : Option Int} {onOff : Bool} {es : List FirmwareEvent}
    (hboot : ∀ e ∈ es, e.cutsPower = false)
    (hrun : (firmware cfg).run (powerOn answers kvs onOff) es = some f) :
    Silent kvs f ∧ ∀ p ∈ (firmware cfg).feed (published cfg) (powerOn answers kvs onOff) es,
      p.Empty := by
  refine (firmware cfg).run_history
    (I := fun _ (ps : List Publication) f => Silent kvs f ∧ ∀ p ∈ ps, p.Empty) ?_
    ⟨silent_powerOn hfails kvs onOff, by simp⟩ hboot hrun
  rintro es ps f e g ⟨h, hps⟩ hcut hstep
  obtain ⟨h', hnew⟩ := h.step hcut (firmwareStep_of_step hstep)
  refine ⟨h', fun p hp => ?_⟩
  rw [List.mem_append] at hp
  exact hp.elim (hps p) (hnew p)

/-! ## the working meter beside it -/

/-- The same, with metering pins that are ready. -/
def withMeter (sel enabled : Bool) (f : Firmware) : Firmware :=
  { f with answers.meterIsReady := fun _ => true, meter := f.meter.wired sel enabled }

/-- The second firmware is the first with pins that are ready. -/
def Repaired (f g : Firmware) : Prop :=
  ∃ sel enabled, g = f.withMeter sel enabled ∧ (f.meter.interruptsEnabled = true → enabled = true)

variable {sel enabled : Bool}

/-- What a poll calls does not depend on SEL and the interrupts. -/
theorem meterCalls_withMeter (sel enabled : Bool) (cfg : Option OverPowerConfig) (f : Firmware) :
    (f.withMeter sel enabled).meterCalls cfg = f.meterCalls cfg := by
  obtain ⟨sel', hwired⟩ :=
    Meter.meterPoll_wired sel enabled cfg f.plug.relayIsOn f.uptimeMs f.meter
  have hcalls := congrArg Prod.snd hwired
  exact hcalls

/-- Nor does what it publishes. -/
theorem publications_withMeter (sel enabled : Bool) (cfg : Option OverPowerConfig)
    (a : TaskAnswers) (f : Firmware) :
    (f.withMeter sel enabled).publications cfg a = f.publications cfg a := by
  rw [publications, meterCalls_withMeter]
  rfl

/-- So a poll does the same to all but these two. -/
theorem meterPoll_withMeter (sel enabled : Bool) (cfg : Option OverPowerConfig)
    (a : TaskAnswers) (f : Firmware) :
    ∃ sel', (f.withMeter sel enabled).meterPoll cfg a =
      (f.meterPoll cfg a).withMeter sel' enabled := by
  obtain ⟨sel', hwired⟩ :=
    Meter.meterPoll_wired sel enabled cfg f.plug.relayIsOn f.uptimeMs f.meter
  refine ⟨sel', ?_⟩
  have hmeter : ((f.withMeter sel enabled).meter.meterPoll cfg
      (f.withMeter sel enabled).plug.relayIsOn (f.withMeter sel enabled).uptimeMs).1 = _ :=
    congrArg Prod.fst hwired
  simp only [Firmware.meterPoll, effects, publications_withMeter, meterCalls_withMeter]
  rw [hmeter]
  rfl

/-- Start-up may set them, and does the same to the rest. -/
theorem initStep_withMeter (sel enabled : Bool) (next : InitStep) (f : Firmware) :
    ∃ sel' enabled', (f.withMeter sel enabled).initStep next =
        (f.initStep next).withMeter sel' enabled' ∧
      (enabled' = true ∨ enabled' = enabled ∧ (f.initStep next).meter = f.meter) := by
  by_cases hnext : next = .meterInit
  · subst hnext
    refine ⟨true, true, ?_, Or.inl rfl⟩
    have hwired : (f.meter.wired sel enabled).meterInit (fun _ => true) =
        (f.meter.meterInit f.answers.meterIsReady).wired true true := by
      unfold Meter.meterInit
      split <;> split <;> first | rfl | contradiction
    simp only [initStep, withMeter, hwired]
  · refine ⟨sel, enabled, ?_, Or.inr ⟨rfl, (f.initStep_unmetered hnext).1⟩⟩
    cases next with
    | prepareServer =>
        cases h : f.answers.prepareServer <;> simp [initStep, withMeter, exit, h]
    | statusLedInit =>
        by_cases h : (f.plug.outputs.led.statusLedInit f.answers.ledIsReady
          f.answers.ledConfigure).2 = 0 <;> simp [initStep, withMeter, exit, h]
    | relayInit =>
        by_cases h : (f.plug.outputs.relayInit f.answers.relayIsReady
          f.answers.relayConfigure).2 = 0 <;> simp [initStep, withMeter, exit, h]
    | boardInit =>
        cases h : f.answers.boardInit <;> simp [initStep, withMeter, updateStatusLed, exit, h]
    | registerEventHandler =>
        cases h : f.answers.registerEventHandler <;> simp [initStep, withMeter, exit, h]
    | identifyInit =>
        cases h : f.answers.identifyInit <;> simp [initStep, withMeter, exit, h]
    | startServer =>
        cases h : f.answers.startServer <;> simp [initStep, withMeter, exit, h]
    | meterInit => contradiction

/-- **Step lemma**: with its pins ready, the firmware can do the same, and
publishes the same. -/
theorem Repaired.step {e : FirmwareEvent} {f' : Firmware} (h : Repaired f g)
    (hcut : e.cutsPower = false) (hstep : FirmwareStep cfg f e f') :
    ∃ g', (firmware cfg).step g e = some g' ∧ Repaired f' g' ∧
      f.published cfg e = g.published cfg e := by
  obtain ⟨sel, enabled, rfl, himp⟩ := h
  have hsame : ∀ {f'' : Firmware}, f''.meter.interruptsEnabled = f.meter.interruptsEnabled →
      Repaired f'' (f''.withMeter sel enabled) :=
    fun heq => ⟨sel, enabled, rfl, heq ▸ himp⟩
  cases hstep with
  | @init next happ =>
      obtain ⟨sel', enabled', hinit, henabled⟩ := initStep_withMeter sel enabled next f
      refine ⟨(f.withMeter sel enabled).initStep next, ?_, ⟨sel', enabled', hinit, ?_⟩, rfl⟩
      · have happ' : (f.withMeter sel enabled).app = .init next := happ
        simp only [firmware, happ']
      · intro hruns
        obtain htrue | ⟨rfl, hmeter⟩ := henabled
        · exact htrue
        · exact himp (hmeter ▸ hruns)
  | @dispatch a task tasks happ htasks =>
      have hnext := nextTask_of_dispatching (f := f.withMeter sel enabled) happ htasks
      cases task with
      | meterPoll =>
          obtain ⟨sel', hpoll⟩ := meterPoll_withMeter sel enabled cfg a { f with tasks := tasks }
          refine ⟨_, by simp only [firmware, hnext]; rfl, ⟨sel', enabled, hpoll, ?_⟩, ?_⟩
          · rw [show (runTask cfg a { f with tasks := tasks } .meterPoll).meter.interruptsEnabled =
              f.meter.interruptsEnabled from Meter.interruptsEnabled_meterPoll cfg _ _ f.meter]
            exact himp
          · have htasks' : (f.withMeter sel enabled).tasks = .meterPoll :: tasks := htasks
            simp only [published, htasks, htasks', List.head?_cons]
            exact (publications_withMeter sel enabled cfg a f).symm
      | buttonEventHandler state hasChanged =>
          refine ⟨_, by simp only [firmware, hnext]; rfl, hsame rfl, ?_⟩
          have htasks' : (f.withMeter sel enabled).tasks =
            .buttonEventHandler state hasChanged :: tasks := htasks
          simp only [published, htasks, htasks', List.head?_cons]
  | @meterPollTimer expiryMs hstarted hdue =>
      refine ⟨_, ?_, hsame rfl, rfl⟩
      have hstarted' : (f.withMeter sel enabled).nextExpiryMs = some expiryMs := hstarted
      simp only [firmware, hstarted']
      exact if_pos hdue
  | blinkTimer hruns => exact ⟨_, if_pos hruns, hsame rfl, rfl⟩
  | cfIsr henabled => exact ⟨_, if_pos (himp henabled), hsame rfl, rfl⟩
  | cf1Isr henabled => exact ⟨_, if_pos (himp henabled), hsame rfl, rfl⟩
  | button hready => exact ⟨_, if_pos hready, hsame rfl, rfl⟩
  | deviceState hready => exact ⟨_, if_pos hready, hsame rfl, rfl⟩
  | postServerInit hstarted hhook => exact ⟨_, if_pos ⟨hstarted, hhook⟩, hsame rfl, rfl⟩
  | onOffClusterInit hstarted hfirst =>
      exact ⟨_, if_pos ⟨hstarted, by simpa [withMeter] using hfirst⟩, hsame rfl, rfl⟩
  | controllerWrite hstarted => exact ⟨_, if_pos hstarted, hsame rfl, rfl⟩
  | unchangedWrite hstarted hvalue =>
      exact ⟨_, (if_pos hstarted).trans (if_pos hvalue), hsame rfl, rfl⟩
  | lambda hstarted hpending => exact ⟨_, if_pos ⟨hstarted, hpending⟩, hsame rfl, rfl⟩
  | elapse => exact ⟨_, rfl, hsame rfl, rfl⟩
  | powerCut => contradiction
  | powerCutDuring happ htasks => contradiction

/-- **A failed meter looks idle**: in every boot with a metering pin that is not
ready, all that is published are zeros, nothing is written and nothing trips; and
with pins that are ready the same events make the same boot, so nothing outside
the meter tells the two apart. -/
theorem failed_meter_looks_idle (cfg : Option OverPowerConfig)
    (hthreshold : ∀ c ∈ cfg, 0 ≤ c.thresholdMw) (answers : StartAnswers)
    (hfails : answers.meterFails = true) (kvs : Option Int) (onOff : Bool)
    (es : List FirmwareEvent) (hboot : ∀ e ∈ es, e.cutsPower = false) (f : Firmware)
    (hrun : (firmware cfg).run (powerOn answers kvs onOff) es = some f) :
    let publications := (firmware cfg).feed (published cfg) (powerOn answers kvs onOff) es
    let repaired := powerOn { answers with meterIsReady := fun _ => true } kvs onOff
    (∀ p ∈ publications, p.sample.readings = (0, 0, 0) ∧ ∀ mwh err, .put mwh err ∉ p.effects) ∧
      f.kvs = kvs ∧ ¬ f.Trips cfg ∧
      ∃ g, (firmware cfg).run repaired es = some g ∧
        (firmware cfg).feed (published cfg) repaired es = publications ∧
        g.plug = f.plug ∧ g.pm = f.pm ∧ g.kvs = f.kvs ∧ g.app = f.app ∧ g.tasks = f.tasks := by
  intro publications repaired
  obtain ⟨hsilent, hempty⟩ := silent_of_boot hfails hboot hrun
  refine ⟨fun p hp => ⟨(hempty p hp).readings, (hempty p hp).unwritten⟩, hsilent.stored,
    hsilent.not_trips hthreshold, ?_⟩
  have hstart : Repaired (powerOn answers kvs onOff) repaired :=
    ⟨false, false, rfl, by simp [powerOn]⟩
  obtain ⟨g, hrun', hrepaired, hfeed⟩ := (firmware cfg).run_lockstep (M := firmware cfg)
    (fun _ _ _ _ h hcut hstep => h.step hcut (firmwareStep_of_step hstep)) hstart hboot hrun
  obtain ⟨sel, enabled, rfl, -⟩ := hrepaired
  exact ⟨_, hrun', hfeed.symm, rfl, rfl, rfl, rfl, rfl⟩

/-- CF1 is not ready.  The relay still follows the button, and a second later
zeros are published. -/
theorem failed_meter_publishes_zeros :
    let es := initEvents ++ [.postServerInit .noError .noError .noError .noError,
      .onOffClusterInit true 0, .elapse 1000, .meterPollTimer, .button 0 1, .dispatch {},
      .dispatch {}, .lambda 0, .elapse 1000, .meterPollTimer, .dispatch {}]
    let answers : StartAnswers := { meterIsReady := fun pin => pin ≠ .cf1 }
    ∃ f g, (firmware (some {})).run (powerOn answers (some 7) false) es = some f ∧
      f.kvs = some 7 ∧ f.plug.relayIsOn = true ∧ f.pm.sDelegate = some (.set 0 0 0) ∧
      (firmware (some {})).run (powerOn {} (some 7) false) es = some g ∧ g.plug = f.plug :=
  let es := initEvents ++ [.postServerInit .noError .noError .noError .noError,
    .onOffClusterInit true 0, .elapse 1000, .meterPollTimer, .button 0 1, .dispatch {},
    .dispatch {}, .lambda 0, .elapse 1000, .meterPollTimer, .dispatch {}]
  have ⟨_, hkvs, _, g, hrun, _, hplug, _⟩ := failed_meter_looks_idle (some {})
    (by rintro c ⟨⟩; decide) { meterIsReady := fun pin => pin ≠ .cf1 } (by decide) (some 7) false
    es (by decide) _ rfl
  ⟨_, g, rfl, hkvs, rfl, rfl, hrun, hplug⟩

end Firmware

end UascentPlug

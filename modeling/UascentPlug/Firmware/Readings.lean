import UascentPlug.Bl0937.Pulses
import UascentPlug.Firmware.Isolation

/-!
# UascentPlug.Firmware.Readings

From pulses to publications in the whole firmware.  Polls are posted by a
timer, wait behind button events and run when they run; still, in every boot,
the counters taken by the polls and what is left in them are the pulses that
interrupted, and what is published is the medians of blocks of the windows
between the polls (`readings_in_the_field`).
-/

namespace UascentPlug

/-! ## the windows of a boot -/

/-- The windows the polls of a boot measured. -/
def measured (ps : List Poll) : List Window := measuredAfter none ps

/-- What `sLastPollMs` says after the polls `ps`. -/
def measuredStamp (ps : List Poll) : Option Int := ps.getLast?.bind fun p => stampOf p.nowMs

/-- One more poll measures at most one more window. -/
theorem measuredAfter_concat (last : Option Int) (ps : List Poll) (p : Poll) :
    measuredAfter last (ps ++ [p]) =
      measuredAfter last ps ++
        (p.window ((ps.getLast?.map fun q => stampOf q.nowMs).getD last)).toList := by
  induction ps generalizing last with
  | nil => simp [measuredAfter]
  | cons q ps ih =>
      rw [List.cons_append, measuredAfter, ih, measuredAfter, List.append_assoc,
        List.getLast?_cons]
      cases ps.getLast? with
      | none => rfl
      | some r => rfl

/-- So it is from boot. -/
theorem measured_concat (ps : List Poll) (p : Poll) :
    measured (ps ++ [p]) = measured ps ++ (p.window (measuredStamp ps)).toList := by
  rw [measured, measuredAfter_concat, measuredStamp]
  cases ps.getLast? with
  | none => rfl
  | some q => rfl

/-- Active power, voltage and current after the windows `ws`: medians of their
last complete blocks of three. -/
def readingsOf (ws : List Window) : Int × Int × Int :=
  (blockReading 775 (fun _ => true) (ws.map Window.cfSample),
    blockReading 8077 evenBlock (ws.map Window.cf1Sample),
    blockReading 91636 oddBlock (ws.map Window.cf1Sample))

/-- What each window published, given that it is the last so far. -/
def readingsTrace (ws : List Window) : List (Int × Int × Int) :=
  (List.range ws.length).map fun k => readingsOf (ws.take (k + 1))

/-- One more window is one more publication. -/
theorem readingsTrace_concat (ws : List Window) (w : Window) :
    readingsTrace (ws ++ [w]) = readingsTrace ws ++ [readingsOf (ws ++ [w])] := by
  have hbefore : ∀ k ∈ List.range ws.length,
      readingsOf ((ws ++ [w]).take (k + 1)) = readingsOf (ws.take (k + 1)) := by
    intro k hk
    rw [List.take_append_of_le_length (List.mem_range.mp hk)]
  rw [readingsTrace, List.length_append, List.length_singleton, List.range_succ, List.map_append,
    List.map_congr_left hbefore, readingsTrace, List.map_singleton,
    List.take_of_length_le (by simp)]

/-- Readings are not negative. -/
theorem blockReading_nonneg (k : Nat) (p : Nat → Bool) (rates : List Nat) :
    0 ≤ blockReading k p rates := by
  unfold blockReading
  cases SampleStream.lastMedian p rates with
  | none => exact le_refl _
  | some m => exact Int.natCast_nonneg _

def Sample.readings (u : Sample) : Int × Int × Int :=
  (u.activePowerMw, u.rmsVoltageMv, u.rmsCurrentMa)

/-! ## the meter apart from its pins -/

namespace Meter

/-- The meter with SEL and the interrupts set up otherwise. -/
def wired (sel enabled : Bool) (m : Meter) : Meter :=
  { m with selPin := sel, interruptsEnabled := enabled }

/-- `CheckOverPower` looks neither at SEL nor at the interrupts. -/
theorem protect_wired (sel enabled : Bool) (cfg : Option OverPowerConfig) (relayIsOn : Bool)
    (rate : UInt32) (m : Meter) :
    (m.wired sel enabled).protect cfg relayIsOn rate =
      ((m.protect cfg relayIsOn rate).1.wired sel enabled, (m.protect cfg relayIsOn rate).2) := by
  cases cfg with
  | none => rfl
  | some cfg =>
      simp only [protect, checkOverPower, wired]
      by_cases hquiet : scaled rate kMilliCountsPerSecPerWatt ≤ cfg.thresholdMw
      · simp [hquiet]
      · by_cases hshort : m.sOverPowerSamples + 1 < cfg.samples
        · simp [hquiet, hshort]
        · cases relayIsOn <;> simp [hquiet, hshort]

/-- Measuring a window does the same, but for the level it leaves SEL at. -/
theorem measure_wired (sel enabled : Bool) (cfg : Option OverPowerConfig) (relayIsOn : Bool)
    (w : Window) (m : Meter) :
    ∃ sel', (m.wired sel enabled).measure cfg relayIsOn w =
      (m.measure cfg relayIsOn w).wired sel' enabled := by
  have hcf : ∀ m : Meter, (m.wired sel enabled).pushCf (UInt32.ofNat w.cfRate) =
      (m.pushCf (UInt32.ofNat w.cfRate)).wired sel enabled := by
    intro m
    rw [pushCf_eq, pushCf_eq]
    rfl
  unfold measure
  rw [protect_wired, hcf]
  generalize ((m.protect cfg relayIsOn (UInt32.ofNat w.cfRate)).1.pushCf
    (UInt32.ofNat w.cfRate)) = m'
  cases h : (m'.sCf1Filter.push (UInt32.ofNat w.cf1Rate)).2 with
  | none =>
      rw [pushCf1_of_none h, pushCf1_of_none (m := m'.wired sel enabled) h]
      exact ⟨sel, rfl⟩
  | some median =>
      rw [pushCf1_of_some h, pushCf1_of_some (m := m'.wired sel enabled) h]
      exact ⟨!m'.sSelIsVoltage, rfl⟩

/-- Whether SEL is where the driver remembers it is not changed by a window. -/
theorem selPin_measure {m : Meter} (h : m.selPin = m.sSelIsVoltage)
    (cfg : Option OverPowerConfig) (relayIsOn : Bool) (w : Window) :
    (m.measure cfg relayIsOn w).selPin = (m.measure cfg relayIsOn w).sSelIsVoltage := by
  have hsel : ((m.protect cfg relayIsOn (UInt32.ofNat w.cfRate)).1.pushCf
        (UInt32.ofNat w.cfRate)).selPin =
      ((m.protect cfg relayIsOn (UInt32.ofNat w.cfRate)).1.pushCf
        (UInt32.ofNat w.cfRate)).sSelIsVoltage := by
    rw [pushCf_eq, protect_eq]
    exact h
  unfold measure
  generalize ((m.protect cfg relayIsOn (UInt32.ofNat w.cfRate)).1.pushCf
    (UInt32.ofNat w.cfRate)) = m' at hsel ⊢
  cases h : (m'.sCf1Filter.push (UInt32.ofNat w.cf1Rate)).2 with
  | none =>
      rw [pushCf1_of_none h]
      exact hsel
  | some median => rw [pushCf1_of_some h]

/-- **A poll** does the same, but for the level it leaves SEL at. -/
theorem meterPoll_wired (sel enabled : Bool) (cfg : Option OverPowerConfig) (relayIsOn : Bool)
    (nowMs : Int) (m : Meter) :
    ∃ sel', (m.wired sel enabled).meterPoll cfg relayIsOn nowMs =
      ((m.meterPoll cfg relayIsOn nowMs).1.wired sel' enabled,
        (m.meterPoll cfg relayIsOn nowMs).2) := by
  let p : Poll := { nowMs := nowMs, cf := m.sCfPulses, cf1 := m.sCf1Pulses }
  have hload : (m.load p).meterPoll cfg relayIsOn p.nowMs = m.meterPoll cfg relayIsOn nowMs := rfl
  have hload' : ((m.wired sel enabled).load p).meterPoll cfg relayIsOn p.nowMs =
      (m.wired sel enabled).meterPoll cfg relayIsOn nowMs := rfl
  rw [← hload, ← hload']
  have hstamp : (m.wired sel enabled).StampIs m.stamp := m.stampIs_stamp
  cases hw : p.window m.stamp with
  | none =>
      rw [poll_of_window_none hstamp hw, poll_of_window_none m.stampIs_stamp hw]
      exact ⟨sel, rfl⟩
  | some w =>
      obtain ⟨sel', hmeasure⟩ := measure_wired sel enabled cfg relayIsOn w
        { m with sLastPollMs := p.nowMs, sCfPulses := 0, sCf1Pulses := 0 }
      have hprotect := protect_wired sel enabled cfg relayIsOn (UInt32.ofNat w.cfRate)
        { m with sLastPollMs := p.nowMs, sCfPulses := 0, sCf1Pulses := 0 }
      rw [poll_of_window_some hstamp hw, poll_of_window_some m.stampIs_stamp hw]
      simp only [wired] at hmeasure hprotect ⊢
      rw [hmeasure, hprotect]
      exact ⟨sel', rfl⟩

/-- A poll takes the counters and moves the stamp, and may measure a window. -/
theorem meterPoll_cases (cfg : Option OverPowerConfig) (relayIsOn : Bool) (nowMs : Int)
    (m : Meter) :
    let taken := { m with sLastPollMs := nowMs, sCfPulses := 0, sCf1Pulses := 0 }
    (m.meterPoll cfg relayIsOn nowMs).1 = taken ∨
      ∃ w, (m.meterPoll cfg relayIsOn nowMs).1 = taken.measure cfg relayIsOn w := by
  let p : Poll := { nowMs := nowMs, cf := m.sCfPulses, cf1 := m.sCf1Pulses }
  have hload : (m.load p).meterPoll cfg relayIsOn p.nowMs = m.meterPoll cfg relayIsOn nowMs := rfl
  rw [← hload]
  cases hw : p.window m.stamp with
  | none => exact Or.inl (by rw [poll_of_window_none m.stampIs_stamp hw])
  | some w => exact Or.inr ⟨w, by rw [poll_of_window_some m.stampIs_stamp hw]⟩

/-- SEL stays where the driver remembers it. -/
theorem selPin_meterPoll {m : Meter} (h : m.selPin = m.sSelIsVoltage)
    (cfg : Option OverPowerConfig) (relayIsOn : Bool) (nowMs : Int) :
    (m.meterPoll cfg relayIsOn nowMs).1.selPin =
      (m.meterPoll cfg relayIsOn nowMs).1.sSelIsVoltage := by
  obtain htaken | ⟨w, hmeasured⟩ := m.meterPoll_cases cfg relayIsOn nowMs
  · rw [htaken]
    exact h
  · rw [hmeasured]
    refine selPin_measure ?_ cfg relayIsOn w
    exact h

/-- The counters are taken, window or not. -/
theorem counters_meterPoll (cfg : Option OverPowerConfig) (relayIsOn : Bool) (nowMs : Int)
    (m : Meter) :
    (m.meterPoll cfg relayIsOn nowMs).1.sCfPulses = 0 ∧
      (m.meterPoll cfg relayIsOn nowMs).1.sCf1Pulses = 0 := by
  obtain htaken | ⟨w, hmeasured⟩ := m.meterPoll_cases cfg relayIsOn nowMs
  · rw [htaken]
    exact ⟨rfl, rfl⟩
  · rw [hmeasured]
    simp only [measure, counters_pushCf1, counters_pushCf, counters_protect, and_self]

/-- A poll leaves the interrupts as they are. -/
theorem interruptsEnabled_meterPoll (cfg : Option OverPowerConfig) (relayIsOn : Bool) (nowMs : Int)
    (m : Meter) :
    (m.meterPoll cfg relayIsOn nowMs).1.interruptsEnabled = m.interruptsEnabled := by
  obtain ⟨sel', h⟩ := meterPoll_wired m.selPin m.interruptsEnabled cfg relayIsOn nowMs m
  have hself : m.wired m.selPin m.interruptsEnabled = m := rfl
  rw [hself] at h
  exact congrArg (fun r => r.1.interruptsEnabled) h

end Meter

/-! ## what a boot has counted, measured and published -/

/-- Power is cut. -/
def FirmwareEvent.cutsPower : FirmwareEvent → Bool
  | .powerCut _ _ => true
  | _ => false

/-- How many CF pulses an event is. -/
def FirmwareEvent.cfPulses : FirmwareEvent → Nat
  | .cfIsr => 1
  | _ => 0

/-- How many CF1 pulses an event is. -/
def FirmwareEvent.cf1Pulses : FirmwareEvent → Nat
  | .cf1Isr => 1
  | _ => 0

namespace Firmware

/-- CF pulses in the counts that polls took and in the counter. -/
def cfPulses (f : Firmware) : Nat := (f.polls.map (·.cf.toNat)).sum + f.meter.sCfPulses.toNat

/-- CF1 pulses in the counts that polls took and in the counter. -/
def cf1Pulses (f : Firmware) : Nat := (f.polls.map (·.cf1.toNat)).sum + f.meter.sCf1Pulses.toNat

/-- Filters, phase and readings are those of the windows measured; once the
meter runs, SEL is where it remembers it. -/
structure Measures (f : Firmware) : Prop where
  follows : (f.meter.wired f.meter.sSelIsVoltage f.meter.interruptsEnabled).Follows
    (measured f.polls)
  stamp : f.meter.stamp = measuredStamp f.polls
  sel : f.meter.interruptsEnabled = true → f.meter.selPin = f.meter.sSelIsVoltage

variable {cfg : Option OverPowerConfig} {f g : Firmware}

/-- When power comes on nothing has been measured. -/
theorem measures_powerOn (answers : StartAnswers) (kvs : Option Int) (onOff : Bool) :
    Measures (powerOn answers kvs onOff) where
  follows :=
    have h := Meter.follows_booted
    ⟨h.cfFilter, h.cf1Filter, h.selIsVoltage, rfl, h.activePower, h.rmsVoltage, h.rmsCurrent⟩
  stamp := rfl
  sel := by simp [powerOn]

namespace Measures

/-- Meter and polls are all that matters here. -/
theorem of_eq (h : Measures f) (hmeter : g.meter = f.meter) (hpolls : g.polls = f.polls) :
    Measures g := by
  constructor
  case follows => rw [hmeter, hpolls]; exact h.follows
  case stamp => rw [hmeter, hpolls]; exact h.stamp
  case sel => rw [hmeter]; exact h.sel

/-- The window a poll closes is the next of the boot. -/
theorem measured_polls (h : Measures f) :
    measured (f.polls ++ [f.poll]) = measured f.polls ++ f.window.toList := by
  rw [measured_concat, window, h.stamp]

/-- A poll measures the window it closes. -/
theorem meterPoll (h : Measures f) (cfg : Option OverPowerConfig) (a : TaskAnswers) :
    Measures (f.meterPoll cfg a) := by
  have hpolls : (f.meterPoll cfg a).polls = f.polls ++ [f.poll] := rfl
  have henabled := Meter.interruptsEnabled_meterPoll cfg f.plug.relayIsOn f.uptimeMs f.meter
  obtain ⟨sel, hwired⟩ := Meter.meterPoll_wired f.meter.sSelIsVoltage f.meter.interruptsEnabled cfg
    f.plug.relayIsOn f.uptimeMs f.meter
  have hfollows : ((f.meter.wired f.meter.sSelIsVoltage f.meter.interruptsEnabled).meterPoll cfg
      f.plug.relayIsOn f.uptimeMs).1.Follows (measured f.polls ++ f.window.toList) :=
    h.follows.poll cfg f.poll f.plug.relayIsOn
  rw [hwired, ← h.measured_polls] at hfollows
  constructor
  case follows =>
      obtain rfl : sel = (f.meter.meterPoll cfg f.plug.relayIsOn f.uptimeMs).1.sSelIsVoltage :=
        hfollows.selPin
      simp only [Firmware.meterPoll, henabled]
      exact hfollows
  case stamp =>
      rw [hpolls, measuredStamp, List.getLast?_concat]
      exact Meter.stamp_poll cfg f.meter f.poll f.plug.relayIsOn
  case sel =>
      simp only [Firmware.meterPoll, henabled]
      exact fun hruns => Meter.selPin_meterPoll (h.sel hruns) cfg _ _

/-- The readings a poll leaves behind, which it publishes if it closes a window. -/
theorem sample_readings (h : Measures f) (cfg : Option OverPowerConfig) (a : TaskAnswers) :
    (f.sample cfg a).readings = readingsOf (measured (f.polls ++ [f.poll])) := by
  have hafter := (h.meterPoll cfg a).follows
  exact Prod.ext hafter.activePower (Prod.ext hafter.rmsVoltage hafter.rmsCurrent)

/-- What a poll adds to the windows it publishes. -/
theorem publications (h : Measures f) (cfg : Option OverPowerConfig) (a : TaskAnswers) :
    readingsTrace (measured (f.meterPoll cfg a).polls) =
      readingsTrace (measured f.polls) ++ (f.publications cfg a).map (·.sample.readings) := by
  have hpolls : measured (f.meterPoll cfg a).polls = measured f.polls ++ f.window.toList :=
    h.measured_polls
  rw [hpolls]
  cases hw : f.window with
  | none => simp [Firmware.publications, publish_of_window_none hw]
  | some w =>
      have hreadings := h.sample_readings cfg a
      rw [h.measured_polls, hw, Option.toList_some] at hreadings
      rw [Firmware.publications, publish_of_window_some hw, Option.toList_some,
        readingsTrace_concat, ← hreadings]
      rfl

/-- Start-up measures nothing. -/
theorem initStep (h : Measures f) (hstart : StartUp f) {next : InitStep}
    (happ : f.app = .init next) : Measures (f.initStep next) := by
  have hpolls := (f.initKeeps next).polls
  by_cases hnext : next = .meterInit
  · subst hnext
    obtain ⟨-, hmeter, -, -⟩ := hstart.unmetered (by simp [happ])
    have hfollows := h.follows
    have hstamp := h.stamp
    rw [hmeter] at hfollows hstamp
    simp only [Firmware.initStep, hmeter, Meter.meterInit]
    split
    · exact ⟨⟨hfollows.cfFilter, hfollows.cf1Filter, hfollows.selIsVoltage, rfl,
        hfollows.activePower, hfollows.rmsVoltage, hfollows.rmsCurrent⟩, hstamp, fun _ => rfl⟩
    · exact ⟨hfollows, hstamp, by simp⟩
  · exact h.of_eq (f.initStep_unmetered hnext).1 hpolls

/-- **Step lemma**: an event keeps what is measured in step with the polls, and
publishes the readings of the windows it closes. -/
theorem step {e : FirmwareEvent} (h : Measures f) (hstart : StartUp f)
    (hcut : e.cutsPower = false) (hstep : FirmwareStep cfg f e g) :
    Measures g ∧ readingsTrace (measured g.polls) =
      readingsTrace (measured f.polls) ++ (f.published cfg e).map (·.sample.readings) := by
  cases hstep with
  | @init next happ =>
      refine ⟨h.initStep hstart happ, ?_⟩
      rw [(f.initKeeps next).polls]
      exact (List.append_nil _).symm
  | @dispatch a task tasks happ htasks =>
      cases task with
      | meterPoll =>
          have h' : Measures { f with tasks := tasks } := h.of_eq rfl rfl
          refine ⟨h'.meterPoll cfg a, ?_⟩
          simp only [published, htasks, List.head?_cons]
          exact h'.publications cfg a
      | buttonEventHandler state hasChanged =>
          refine ⟨h.of_eq rfl rfl, ?_⟩
          simp only [published, htasks, List.head?_cons]
          exact (List.append_nil _).symm
  | cfIsr henabled =>
      have hfollows := h.follows
      exact ⟨⟨⟨hfollows.cfFilter, hfollows.cf1Filter, hfollows.selIsVoltage, hfollows.selPin,
        hfollows.activePower, hfollows.rmsVoltage, hfollows.rmsCurrent⟩, h.stamp, h.sel⟩,
        (List.append_nil _).symm⟩
  | cf1Isr henabled =>
      have hfollows := h.follows
      exact ⟨⟨⟨hfollows.cfFilter, hfollows.cf1Filter, hfollows.selIsVoltage, hfollows.selPin,
        hfollows.activePower, hfollows.rmsVoltage, hfollows.rmsCurrent⟩, h.stamp, h.sel⟩,
        (List.append_nil _).symm⟩
  | powerCut => contradiction
  | powerCutDuring happ htasks => contradiction
  | _ => exact ⟨h.of_eq rfl rfl, (List.append_nil _).symm⟩

end Measures

/-! ## pulses -/

/-- A poll moves pulses from the counters to its counts. -/
theorem pulses_meterPoll (cfg : Option OverPowerConfig) (a : TaskAnswers) (f : Firmware) :
    (f.meterPoll cfg a).cfPulses = f.cfPulses ∧ (f.meterPoll cfg a).cf1Pulses = f.cf1Pulses := by
  obtain ⟨hcf, hcf1⟩ := Meter.counters_meterPoll cfg f.plug.relayIsOn f.uptimeMs f.meter
  simp [cfPulses, cf1Pulses, Firmware.meterPoll, poll, hcf, hcf1]

/-- Start-up counts none. -/
theorem pulses_initStep (next : InitStep) (f : Firmware) :
    (f.initStep next).cfPulses = f.cfPulses ∧ (f.initStep next).cf1Pulses = f.cf1Pulses := by
  have hpolls := (f.initKeeps next).polls
  have hcounters : (f.initStep next).meter.sCfPulses = f.meter.sCfPulses ∧
      (f.initStep next).meter.sCf1Pulses = f.meter.sCf1Pulses := by
    by_cases hnext : next = .meterInit
    · subst hnext
      simp only [Firmware.initStep, Meter.meterInit]
      split <;> exact ⟨rfl, rfl⟩
    · rw [(f.initStep_unmetered hnext).1]
      exact ⟨rfl, rfl⟩
  rw [cfPulses, cf1Pulses, hpolls, hcounters.1, hcounters.2]
  exact ⟨rfl, rfl⟩

/-- **Step lemma**: a pulse is counted once, as far as 32 bits go. -/
theorem pulses_step {e : FirmwareEvent} (hcut : e.cutsPower = false)
    (hstep : FirmwareStep cfg f e g) :
    g.cfPulses % 2 ^ 32 = (f.cfPulses + e.cfPulses) % 2 ^ 32 ∧
      g.cf1Pulses % 2 ^ 32 = (f.cf1Pulses + e.cf1Pulses) % 2 ^ 32 := by
  cases hstep with
  | @init next happ =>
      obtain ⟨hcf, hcf1⟩ := pulses_initStep next f
      rw [hcf, hcf1]
      exact ⟨rfl, rfl⟩
  | @dispatch a task tasks happ htasks =>
      cases task with
      | meterPoll =>
          obtain ⟨hcf, hcf1⟩ := pulses_meterPoll cfg a { f with tasks := tasks }
          rw [runTask, hcf, hcf1]
          exact ⟨rfl, rfl⟩
      | buttonEventHandler state hasChanged => exact ⟨rfl, rfl⟩
  | cfIsr henabled =>
      refine ⟨?_, rfl⟩
      simp only [cfPulses, Meter.cfIsr, FirmwareEvent.cfPulses, UInt32.toNat_add, UInt32.toNat_one]
      omega
  | cf1Isr henabled =>
      refine ⟨rfl, ?_⟩
      simp only [cf1Pulses, Meter.cf1Isr, FirmwareEvent.cf1Pulses, UInt32.toNat_add,
        UInt32.toNat_one]
      omega
  | powerCut => contradiction
  | powerCutDuring happ htasks => contradiction
  | _ => exact ⟨rfl, rfl⟩

/-! ## whole boots -/

/-- What a boot has counted, measured and published, told from its events. -/
structure Recorded (es : List FirmwareEvent) (published : List Publication) (f : Firmware) :
    Prop where
  startUp : StartUp f
  measures : Measures f
  published : readingsTrace (measured f.polls) = published.map (·.sample.readings)
  cf : f.cfPulses % 2 ^ 32 = (es.map FirmwareEvent.cfPulses).sum % 2 ^ 32
  cf1 : f.cf1Pulses % 2 ^ 32 = (es.map FirmwareEvent.cf1Pulses).sum % 2 ^ 32

/-- **Run lemma**: every boot keeps the record. -/
theorem recorded_of_boot {answers : StartAnswers} {kvs : Option Int} {onOff : Bool}
    {es : List FirmwareEvent} (hboot : ∀ e ∈ es, e.cutsPower = false)
    (hrun : (firmware cfg).run (powerOn answers kvs onOff) es = some f) :
    Recorded es ((firmware cfg).feed (published cfg) (powerOn answers kvs onOff) es) f := by
  refine (firmware cfg).run_history (I := Recorded) ?_ ?_ hboot hrun
  · intro es published f e g h hcut hstep
    have hstep' := firmwareStep_of_step hstep
    obtain ⟨hmeasures, htrace⟩ := h.measures.step h.startUp hcut hstep'
    obtain ⟨hcf, hcf1⟩ := pulses_step hcut hstep'
    have hbefore := h.cf
    have hbefore1 := h.cf1
    constructor
    case startUp => exact h.startUp.step hstep'
    case measures => exact hmeasures
    case published => rw [htrace, h.published, List.map_append]
    case cf =>
      rw [List.map_append, List.sum_append, List.map_singleton, List.sum_singleton]
      omega
    case cf1 =>
      rw [List.map_append, List.sum_append, List.map_singleton, List.sum_singleton]
      omega
  · exact ⟨startUp_powerOn answers kvs onOff, measures_powerOn answers kvs onOff, rfl, rfl, rfl⟩

/-- **From pulses to publications**: in every boot, however its polls are
delayed, the counts that polls took and what is left in the counters add up to
the pulses that interrupted; what is published are, window by window, the medians
of the blocks so far; and SEL is at the level of the block being measured. -/
theorem readings_in_the_field (cfg : Option OverPowerConfig) (answers : StartAnswers)
    (kvs : Option Int) (onOff : Bool) (es : List FirmwareEvent)
    (hboot : ∀ e ∈ es, e.cutsPower = false) (f : Firmware)
    (hrun : (firmware cfg).run (powerOn answers kvs onOff) es = some f) :
    let ws := measured f.polls
    ((firmware cfg).feed (published cfg) (powerOn answers kvs onOff) es).map (·.sample.readings) =
        (List.range ws.length).map (fun k => readingsOf (ws.take (k + 1))) ∧
      ((f.polls.map (·.cf.toNat)).sum + f.meter.sCfPulses.toNat) % 2 ^ 32 =
        (es.map FirmwareEvent.cfPulses).sum % 2 ^ 32 ∧
      ((f.polls.map (·.cf1.toNat)).sum + f.meter.sCf1Pulses.toNat) % 2 ^ 32 =
        (es.map FirmwareEvent.cf1Pulses).sum % 2 ^ 32 ∧
      (f.meter.interruptsEnabled = true → f.meter.selPin = evenBlock (ws.length / 3)) := by
  intro ws
  have h := recorded_of_boot hboot hrun
  refine ⟨h.published.symm, h.cf, h.cf1, fun hruns => ?_⟩
  exact (h.measures.sel hruns).trans h.measures.follows.selIsVoltage

/-- A second with two CF pulses and one CF1 pulse, whose poll runs behind a
button event. -/
def pulsingSecond : List FirmwareEvent :=
  [.cfIsr, .cf1Isr, .elapse 1000, .cfIsr, .button 0 0, .meterPollTimer, .dispatch {}, .dispatch {}]

/-- Three such seconds after a first poll: the third publishes 2.58 W and 123 mV. -/
theorem readings_in_the_third_second :
    let es := initEvents ++ [.elapse 1000, .meterPollTimer, .dispatch {}] ++ pulsingSecond ++
      pulsingSecond ++ pulsingSecond
    ∃ f, (firmware none).run (powerOn {} none true) es = some f ∧
      ((firmware none).feed (published none) (powerOn {} none true) es).map (·.sample.readings) =
        [(0, 0, 0), (0, 0, 0), (2580, 123, 0)] :=
  let es := initEvents ++ [.elapse 1000, .meterPollTimer, .dispatch {}] ++ pulsingSecond ++
    pulsingSecond ++ pulsingSecond
  ⟨_, rfl, (readings_in_the_field none {} none true es (by decide) _ rfl).1.trans (by decide)⟩

end Firmware

end UascentPlug

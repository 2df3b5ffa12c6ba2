import UascentPlug.Lib.Reduction
import UascentPlug.Preemption.Poll

/-!
# UascentPlug.Preemption.Movers

What commutes with what in a preempted poll.  Others work on five parts of the
state, and each part is touched by one step of `MeterPoll` only: the counters by
their swaps, relay and LEDs by `CheckOverPower`, the measurement module by the
call at the end, and the queue by nothing after the start.
-/

namespace UascentPlug

/-! ## the two counters -/

/-- The pins that interrupt. -/
inductive PulsePin where
  | cf
  | cf1

namespace Meter

/-- The counter of a pin. -/
def pulses (m : Meter) : PulsePin → UInt32
  | .cf => m.sCfPulses
  | .cf1 => m.sCf1Pulses

/-- The meter with another count. -/
def counting (pin : PulsePin) (c : UInt32) (m : Meter) : Meter :=
  match pin with
  | .cf => { m with sCfPulses := c }
  | .cf1 => { m with sCf1Pulses := c }

variable (pin : PulsePin) (c : UInt32) (m : Meter)

/-- What is counted in a poll is not what it measures: `CheckOverPower` leaves the
counters alone. -/
theorem protect_counting (cfg : Option OverPowerConfig) (relayIsOn : Bool) (rate : UInt32) :
    (m.counting pin c).protect cfg relayIsOn rate =
      ((m.protect cfg relayIsOn rate).1.counting pin c, (m.protect cfg relayIsOn rate).2) := by
  cases cfg with
  | none => rfl
  | some cfg =>
      have hsamples : (m.counting pin c).sOverPowerSamples = m.sOverPowerSamples := by
        cases pin <;> rfl
      have hcomm : ∀ n, { m.counting pin c with sOverPowerSamples := n } =
          { m with sOverPowerSamples := n }.counting pin c := by
        intro n
        cases pin <;> rfl
      simp only [protect, checkOverPower, hsamples, hcomm]
      split
      · rfl
      · split
        · rfl
        · split <;> rfl

/-- So does the CF filter. -/
theorem pushCf_counting (rate : UInt32) :
    (m.counting pin c).pushCf rate = (m.pushCf rate).counting pin c := by
  cases pin <;>
    · rw [pushCf_eq, pushCf_eq]
      rfl

/-- So does the CF1 filter. -/
theorem pushCf1_counting (rate : UInt32) :
    (m.counting pin c).pushCf1 rate = (m.pushCf1 rate).counting pin c := by
  have hfilter : (m.counting pin c).sCf1Filter = m.sCf1Filter := by cases pin <;> rfl
  cases h : (m.sCf1Filter.push rate).2 with
  | none =>
      rw [pushCf1_of_none h, pushCf1_of_none (by rwa [hfilter])]
      cases pin <;> rfl
  | some median =>
      rw [pushCf1_of_some h, pushCf1_of_some (by rwa [hfilter])]
      cases pin <;> rfl

end Meter

/-! ## the parts others work on -/

namespace Polling

/-- The counter of a pin. -/
@[reducible] def counterPart (pin : PulsePin) : StatePart Polling Bool UInt32 where
  read s := s.firmware.meter.interruptsEnabled
  get s := s.firmware.meter.pulses pin
  set c s := { s with firmware.meter := s.firmware.meter.counting pin c }

/-- Relay, LEDs and OnOff attribute. -/
@[reducible] def switchingPart :
    StatePart Polling (Bool × Bool) (Plug × DeviceState × Bool) where
  read s := (s.firmware.serverStarted, s.firmware.boardReady)
  get s := (s.firmware.plug, s.firmware.deviceState, s.firmware.onOffInitialised)
  set c s :=
    { s with
      firmware.plug := c.1, firmware.deviceState := c.2.1, firmware.onOffInitialised := c.2.2 }

/-- The measurement module. -/
@[reducible] def measurementPart :
    StatePart Polling (Bool × Option Int) (PowerMeasurement × Bool) where
  read s := (s.firmware.serverStarted, s.firmware.kvs)
  get s := (s.firmware.pm, s.firmware.postServerInitClbk)
  set c s := { s with firmware.pm := c.1, firmware.postServerInitClbk := c.2 }

/-- The app task's queue and the timer that posts to it. -/
@[reducible] def queuePart : StatePart Polling (Bool × Int) (List Task × Option Int) where
  read s := (s.firmware.boardReady, s.firmware.uptimeMs)
  get s := (s.firmware.tasks, s.firmware.nextExpiryMs)
  set c s := { s with firmware.tasks := c.1, firmware.nextExpiryMs := c.2 }

end Polling

/-- The step of a poll an event must not pass. -/
def FirmwareEvent.stage : FirmwareEvent → ℕ
  | .button _ _ | .meterPollTimer => 1
  | .cfIsr => 2
  | .cf1Isr => 3
  | .blinkTimer | .deviceState _ | .onOffClusterInit _ _ | .controllerWrite _ _ _ | .lambda _ => 4
  | .postServerInit _ _ _ _ => 7
  | .init | .dispatch _ | .elapse _ | .powerCut _ _ => 0

def PollingEvent.stage : PollingEvent → ℕ
  | .start | .lag _ => 1
  | .takeCf => 2
  | .takeCf1 => 3
  | .measureCf _ => 4
  | .measureCf1 => 5
  | .setSel => 6
  | .publish _ _ => 7
  | .outside e => e.stage

/-- The step of a poll that takes the pin's counter. -/
def PulsePin.stage : PulsePin → ℕ
  | .cf => 2
  | .cf1 => 3

/-- The stage of the step a poll has come to. -/
def MeterPc.stage : MeterPc → ℕ
  | .idle => 0
  | .takeCf _ => 2
  | .takeCf1 _ _ => 3
  | .measureCf _ _ _ => 4
  | .measureCf1 _ _ => 5
  | .setSel => 6
  | .publish => 7

def MeterPc.busy : MeterPc → Bool
  | .idle => false
  | _ => true

/-- A guard stays in front of what follows. -/
theorem map_ite_some {α β : Type} {c : Prop} {_ : Decidable c} (x : α) (g : α → β) :
    (if c then some x else none).map g = if c then some (g x) else none := by
  split <;> rfl

namespace Polling

variable {cfg : Option OverPowerConfig} {e : FirmwareEvent}

/-- An event that preempts a poll happens at any step of it. -/
theorem step_outside (h : e.preempts = true) (s : Polling) :
    (polling cfg).step s (.outside e) =
      ((UascentPlug.firmware cfg).step s.firmware e).map fun f => { s with firmware := f } := by
  have hadmits : s.admits e = true := by
    cases e with
    | init => contradiction
    | dispatch a => contradiction
    | elapse ms => contradiction
    | powerCut during answers => contradiction
    | _ => cases hpc : s.pc <;> simp [admits, hpc, FirmwareEvent.cutsPower, Firmware.startsPoll,
        FirmwareEvent.preempts]
  exact if_pos hadmits

/-- An event that preempts a poll publishes nothing. -/
theorem published_outside (h : e.preempts = true) (s : Polling) :
    s.published cfg (.outside e) = [] := by
  cases e with
  | dispatch a => contradiction
  | _ => rfl

/-- It waits for one of the steps others work with. -/
theorem stage_of_preempts (h : e.preempts = true) :
    e.stage = 1 ∨ e.stage = 2 ∨ e.stage = 3 ∨ e.stage = 4 ∨ e.stage = 7 := by
  cases e with
  | init => contradiction
  | dispatch a => contradiction
  | elapse ms => contradiction
  | powerCut during answers => contradiction
  | _ => simp [FirmwareEvent.stage]

/-- What an event does through one part is all it does. -/
theorem worksOn_of_map {ρ γ : Type} {p : StatePart Polling ρ γ} (h : e.preempts = true)
    (F : ρ → γ → Option γ)
    (hF : ∀ s : Polling, ((UascentPlug.firmware cfg).step s.firmware e).map
      (fun f => ({ s with firmware := f } : Polling)) = (F (p.read s) (p.get s)).map (p.set · s)) :
    p.WorksOn (polling cfg) (published cfg) (.outside e) :=
  ⟨⟨F, fun s => (step_outside h s).trans (hF s)⟩, published_outside h⟩

/-- The interrupt of a pin works on its counter. -/
theorem worksOn_counter (pin : PulsePin) (h : e.preempts = true) (hstage : e.stage = pin.stage) :
    (counterPart pin).WorksOn (polling cfg) (published cfg) (.outside e) := by
  refine worksOn_of_map h (fun enabled c => if enabled then some (c + 1) else none) fun s => ?_
  cases e with
  | cfIsr =>
      cases pin with
      | cf =>
          simp only [UascentPlug.firmware, map_ite_some]
          rfl
      | cf1 => contradiction
  | cf1Isr =>
      cases pin with
      | cf => contradiction
      | cf1 =>
          simp only [UascentPlug.firmware, map_ite_some]
          rfl
  | _ => cases pin <;> simp [FirmwareEvent.stage, PulsePin.stage] at hstage

/-- The hook works on the measurement module. -/
theorem worksOn_measurement (h : e.preempts = true) (hstage : e.stage = 7) :
    measurementPart.WorksOn (polling cfg) (published cfg) (.outside e) := by
  cases e with
  | postServerInit instanceErr attrAccessErr accuracyErr readErr =>
      refine worksOn_of_map h (fun r c => if r.1 ∧ c.2 then
        some ((c.1.powerMeasurementInit kPlugEndpointId
          { instanceErr := instanceErr
            attrAccessErr := attrAccessErr
            accuracyErr := accuracyErr
            get := kvsGet readErr r.2 }).1, false) else none) fun s => ?_
      simp only [UascentPlug.firmware, map_ite_some]
      rfl
  | _ => simp [FirmwareEvent.stage] at hstage

/-- Button and timer work on the queue. -/
theorem worksOn_queue (h : e.preempts = true) (hstage : e.stage = 1) :
    queuePart.WorksOn (polling cfg) (published cfg) (.outside e) := by
  cases e with
  | button state hasChanged =>
      refine worksOn_of_map h (fun r c => if r.1 then
        some (c.1 ++ [.buttonEventHandler state hasChanged], c.2) else none) fun s => ?_
      simp only [UascentPlug.firmware, map_ite_some]
  | meterPollTimer =>
      refine worksOn_of_map h (fun r c => c.2.bind fun expiryMs => if expiryMs ≤ r.2 then
        some (c.1 ++ [.meterPoll], some (expiryMs + kMeterPollIntervalMs)) else none) fun s => ?_
      obtain ⟨f, pc⟩ := s
      simp only [UascentPlug.firmware]
      cases hexpiry : f.nextExpiryMs with
      | none => rfl
      | some expiryMs =>
          simp only [Option.bind_some, map_ite_some]
  | _ => simp [FirmwareEvent.stage] at hstage

/-- The Matter thread and the blink timer work on relay, LEDs and attribute. -/
theorem worksOn_switching (h : e.preempts = true) (hstage : e.stage = 4) :
    switchingPart.WorksOn (polling cfg) (published cfg) (.outside e) := by
  cases e with
  | blinkTimer =>
      refine worksOn_of_map h (fun _ c => if c.1.outputs.led.sBlinkTimer.isSome then
        some (c.1.blinkTimerHandler, c.2) else none) fun s => ?_
      simp only [UascentPlug.firmware, map_ite_some]
  | deviceState state =>
      refine worksOn_of_map h (fun r c => if r.2 then
        some (c.1.statusLedSetNetworkState state.networkLedState, state, c.2.2) else none)
        fun s => ?_
      simp only [UascentPlug.firmware, map_ite_some]
      rfl
  | onOffClusterInit getOk relayErr =>
      refine worksOn_of_map h (fun r c => if r.1 ∧ !c.2.2 then
        some (c.1.emberAfOnOffClusterInitCallback relayErr (if getOk then some c.1.onOff else none),
          c.2.1, true) else none) fun s => ?_
      simp only [UascentPlug.firmware, map_ite_some]
  | controllerWrite value runsCallback relayErr =>
      refine worksOn_of_map h (fun r c => if r.1 then
        if runsCallback then some (c.1.onOffSet relayErr value, c.2)
        else if value = c.1.onOff then some c else none else none) fun s => ?_
      obtain ⟨f, pc⟩ := s
      simp only [UascentPlug.firmware]
      by_cases hstarted : f.serverStarted = true
      · simp only [if_pos hstarted]
        cases runsCallback with
        | true => rfl
        | false =>
            simp only [Bool.false_eq_true, if_false, map_ite_some]
      · simp only [if_neg hstarted]
        rfl
  | lambda relayErr =>
      refine worksOn_of_map h (fun r c => if r.1 ∧ 0 < c.1.lambdas then
        some (c.1.runLambda relayErr, c.2) else none) fun s => ?_
      simp only [UascentPlug.firmware, map_ite_some]
  | _ => simp [FirmwareEvent.stage] at hstage

/-! ## which steps leave a part alone -/

/-- A counter is left alone by every step of a poll but its swap. -/
theorem ignores_counter (pin : PulsePin) {d : PollingEvent} (hown : d.own = true)
    (hstage : d.stage ≠ pin.stage) :
    (counterPart pin).Ignores (polling cfg) (published cfg) d := by
  constructor
  case step =>
      rintro c ⟨f, pc⟩
      cases d with
      | outside e => contradiction
      | start =>
          cases pc with
          | idle =>
              cases pin <;>
                · simp only [polling, start]
                  split <;> rfl
          | _ => rfl
      | measureCf relayErr =>
          cases pc with
          | measureCf windowMs cfPulses cf1Pulses =>
              simp only [polling, measureCf]
              split
              · rfl
              · simp only [Meter.protect_counting, Meter.pushCf_counting]
                rfl
          | _ => rfl
      | measureCf1 =>
          cases pc with
          | measureCf1 windowMs cf1Pulses =>
              cases pin <;>
                · simp only [polling, measureCf1, Meter.pushCf1_counting]
                  rfl
          | _ => rfl
      | _ => cases pin <;> cases pc <;> first | contradiction | rfl
  case out =>
      rintro c ⟨f, pc⟩
      cases pin <;> cases d <;> first | contradiction | rfl
  case keeps =>
      intro s t hstep
      have hstep' := pollStep_of_step hown hstep
      obtain ⟨f, pc⟩ := s
      cases hstep' with
      | measureCf hwindow hrate hr =>
          subst hr
          rw [Meter.pushCf_eq, Meter.protect_eq]
          cases pin <;> exact ⟨rfl, rfl⟩
      | measureCf1 hrate =>
          obtain ⟨filter, v, c, sel, level, heq⟩ := Meter.pushCf1_eq _ f.meter
          rw [heq]
          cases pin <;> exact ⟨rfl, rfl⟩
      | _ => cases pin <;> first | contradiction | exact ⟨rfl, rfl⟩

/-- Only `CheckOverPower` switches. -/
theorem ignores_switching {d : PollingEvent} (hown : d.own = true) (hstage : d.stage ≠ 4) :
    switchingPart.Ignores (polling cfg) (published cfg) d := by
  constructor
  case step =>
      rintro c ⟨f, pc⟩
      cases d with
      | outside e => contradiction
      | measureCf relayErr => contradiction
      | start =>
          cases pc with
          | idle =>
              simp only [polling, start]
              split <;> rfl
          | _ => rfl
      | _ => cases pc <;> rfl
  case out =>
      rintro c ⟨f, pc⟩
      cases d <;> first | contradiction | rfl
  case keeps =>
      intro s t hstep
      have hstep' := pollStep_of_step hown hstep
      obtain ⟨f, pc⟩ := s
      cases hstep' with
      | discard hwindow => contradiction
      | measureCf hwindow hrate hr => contradiction
      | _ => exact ⟨rfl, rfl⟩

/-- Only the call at the end reaches the measurement module and the store. -/
theorem ignores_measurement {d : PollingEvent} (hown : d.own = true) (hstage : d.stage ≠ 7) :
    measurementPart.Ignores (polling cfg) (published cfg) d := by
  constructor
  case step =>
      rintro c ⟨f, pc⟩
      cases d with
      | outside e => contradiction
      | publish fabricCount putErr => contradiction
      | start =>
          cases pc with
          | idle =>
              simp only [polling, start]
              split <;> rfl
          | _ => rfl
      | measureCf relayErr =>
          cases pc with
          | measureCf windowMs cfPulses cf1Pulses =>
              simp only [polling, measureCf]
              split <;> rfl
          | _ => rfl
      | _ => cases pc <;> rfl
  case out =>
      rintro c ⟨f, pc⟩
      cases d <;> first | contradiction | rfl
  case keeps =>
      intro s t hstep
      have hstep' := pollStep_of_step hown hstep
      obtain ⟨f, pc⟩ := s
      cases hstep' with
      | publish hu => contradiction
      | _ => exact ⟨rfl, rfl⟩

/-- Once it runs, a poll leaves the queue alone. -/
theorem ignores_queue {d : PollingEvent} (hown : d.own = true) (hstage : d.stage ≠ 1) :
    queuePart.Ignores (polling cfg) (published cfg) d := by
  constructor
  case step =>
      rintro c ⟨f, pc⟩
      cases d with
      | outside e => contradiction
      | start => contradiction
      | lag ms => contradiction
      | measureCf relayErr =>
          cases pc with
          | measureCf windowMs cfPulses cf1Pulses =>
              simp only [polling, measureCf]
              split <;> rfl
          | _ => rfl
      | _ => cases pc <;> rfl
  case out =>
      rintro c ⟨f, pc⟩
      cases d <;> first | contradiction | rfl
  case keeps =>
      intro s t hstep
      have hstep' := pollStep_of_step hown hstep
      obtain ⟨f, pc⟩ := s
      cases hstep' with
      | start happ htasks => contradiction
      | lag hbusy => contradiction
      | _ => exact ⟨rfl, rfl⟩

/-! ## moving events out of a poll -/

/-- An event commutes with the steps that leave its part alone. -/
theorem movesLeft_of_ne {d : PollingEvent} (he : e.preempts = true) (hown : d.own = true)
    (hne : d.stage ≠ e.stage) :
    (polling cfg).MovesLeft (published cfg) (.outside e) d ∧
      (polling cfg).MovesLeft (published cfg) d (.outside e) := by
  rcases stage_of_preempts he with hstage | hstage | hstage | hstage | hstage
  all_goals rw [hstage] at hne
  · have hworks : queuePart.WorksOn (polling cfg) (published cfg) (.outside e) :=
      worksOn_queue he hstage
    exact ⟨hworks.movesLeft (ignores_queue hown hne), (ignores_queue hown hne).movesLeft hworks⟩
  · have hworks : (counterPart .cf).WorksOn (polling cfg) (published cfg) (.outside e) :=
      worksOn_counter .cf he hstage
    exact ⟨hworks.movesLeft (ignores_counter .cf hown hne),
      (ignores_counter .cf hown hne).movesLeft hworks⟩
  · have hworks : (counterPart .cf1).WorksOn (polling cfg) (published cfg) (.outside e) :=
      worksOn_counter .cf1 he hstage
    exact ⟨hworks.movesLeft (ignores_counter .cf1 hown hne),
      (ignores_counter .cf1 hown hne).movesLeft hworks⟩
  · have hworks : switchingPart.WorksOn (polling cfg) (published cfg) (.outside e) :=
      worksOn_switching he hstage
    exact ⟨hworks.movesLeft (ignores_switching hown hne),
      (ignores_switching hown hne).movesLeft hworks⟩
  · have hworks : measurementPart.WorksOn (polling cfg) (published cfg) (.outside e) :=
      worksOn_measurement he hstage
    exact ⟨hworks.movesLeft (ignores_measurement hown hne),
      (ignores_measurement hown hne).movesLeft hworks⟩

/-- What is due stays due. -/
theorem step_queue_late {f g : Firmware} (hstage : e.stage = 1)
    (hstep : (UascentPlug.firmware cfg).step f e = some g) (ms : Nat) :
    (UascentPlug.firmware cfg).step { f with uptimeMs := f.uptimeMs + ms } e =
      some { g with uptimeMs := g.uptimeMs + ms } := by
  cases firmwareStep_of_step hstep with
  | button hready => exact if_pos hready
  | @meterPollTimer expiryMs hstarted hdue =>
      have hstill : expiryMs ≤ f.uptimeMs + ms := by omega
      simp [UascentPlug.firmware, hstarted, hstill]
  | _ => simp [FirmwareEvent.stage] at hstage

/-- Time moves in front of everything. -/
theorem lag_movesLeft (he : e.preempts = true) (ms : Nat) :
    (polling cfg).MovesLeft (published cfg) (.lag ms) (.outside e) := by
  by_cases hstage : e.stage = 1
  · intro s t u hstep hlag
    rw [step_outside he, Option.map_eq_some_iff] at hstep
    obtain ⟨g, hg, rfl⟩ := hstep
    obtain ⟨f, pc⟩ := s
    cases pc with
    | idle => contradiction
    | _ =>
        obtain rfl := Option.some.inj hlag
        refine ⟨{ firmware := { f with uptimeMs := f.uptimeMs + ms }, pc := _ }, rfl, ?_, ?_⟩
        · rw [step_outside he, step_queue_late hstage hg]
          rfl
        · rw [published_outside he, published_outside he]
          rfl
  · exact (movesLeft_of_ne (d := .lag ms) he rfl (Ne.symm hstage)).2

/-- The counters are apart from the queue. -/
theorem apart_counter_queue (pin : PulsePin) : (counterPart pin).Apart queuePart where
  comm _ _ _ := rfl
  looks _ _ := ⟨rfl, rfl⟩
  keeps _ _ := ⟨rfl, rfl⟩

/-- The two counters are apart. -/
theorem apart_counters : (counterPart .cf1).Apart (counterPart .cf) where
  comm _ _ _ := rfl
  looks _ _ := ⟨rfl, rfl⟩
  keeps _ _ := ⟨rfl, rfl⟩

/-- The plug is apart from the queue. -/
theorem apart_switching_queue : switchingPart.Apart queuePart where
  comm _ _ _ := rfl
  looks _ _ := ⟨rfl, rfl⟩
  keeps _ _ := ⟨rfl, rfl⟩

/-- The plug is apart from the counters. -/
theorem apart_switching_counter (pin : PulsePin) : switchingPart.Apart (counterPart pin) where
  comm _ _ _ := rfl
  looks _ _ := ⟨rfl, rfl⟩
  keeps _ _ := ⟨rfl, rfl⟩

/-- The measurement module is apart from the queue. -/
theorem apart_measurement_queue : measurementPart.Apart queuePart where
  comm _ _ _ := rfl
  looks _ _ := ⟨rfl, rfl⟩
  keeps _ _ := ⟨rfl, rfl⟩

/-- The measurement module is apart from the counters. -/
theorem apart_measurement_counter (pin : PulsePin) : measurementPart.Apart (counterPart pin) where
  comm _ _ _ := rfl
  looks _ _ := ⟨rfl, rfl⟩
  keeps _ _ := ⟨rfl, rfl⟩

/-- The measurement module is apart from the plug. -/
theorem apart_measurement_switching : measurementPart.Apart switchingPart where
  comm _ _ _ := rfl
  looks _ _ := ⟨rfl, rfl⟩
  keeps _ _ := ⟨rfl, rfl⟩

/-- What waits for a later step of a poll moves in front of what does not. -/
theorem outside_movesLeft {e' : FirmwareEvent} (he : e.preempts = true) (he' : e'.preempts = true)
    (hlt : e'.stage < e.stage) :
    (polling cfg).MovesLeft (published cfg) (.outside e) (.outside e') := by
  rcases stage_of_preempts he with h | h | h | h | h
  · rcases stage_of_preempts he' with h' | h' | h' | h' | h' <;> omega
  · have hworks : (counterPart .cf).WorksOn (polling cfg) (published cfg) (.outside e) :=
      worksOn_counter .cf he h
    rcases stage_of_preempts he' with h' | h' | h' | h' | h'
    · exact hworks.movesLeft ((worksOn_queue he' h').ignores (apart_counter_queue .cf))
    all_goals omega
  · have hworks : (counterPart .cf1).WorksOn (polling cfg) (published cfg) (.outside e) :=
      worksOn_counter .cf1 he h
    rcases stage_of_preempts he' with h' | h' | h' | h' | h'
    · exact hworks.movesLeft ((worksOn_queue he' h').ignores (apart_counter_queue .cf1))
    · exact hworks.movesLeft ((worksOn_counter .cf he' h').ignores apart_counters)
    all_goals omega
  · have hworks : switchingPart.WorksOn (polling cfg) (published cfg) (.outside e) :=
      worksOn_switching he h
    rcases stage_of_preempts he' with h' | h' | h' | h' | h'
    · exact hworks.movesLeft ((worksOn_queue he' h').ignores apart_switching_queue)
    · exact hworks.movesLeft ((worksOn_counter .cf he' h').ignores (apart_switching_counter .cf))
    · exact hworks.movesLeft ((worksOn_counter .cf1 he' h').ignores (apart_switching_counter .cf1))
    all_goals omega
  · have hworks : measurementPart.WorksOn (polling cfg) (published cfg) (.outside e) :=
      worksOn_measurement he h
    rcases stage_of_preempts he' with h' | h' | h' | h' | h'
    · exact hworks.movesLeft ((worksOn_queue he' h').ignores apart_measurement_queue)
    · exact hworks.movesLeft ((worksOn_counter .cf he' h').ignores (apart_measurement_counter .cf))
    · exact hworks.movesLeft
        ((worksOn_counter .cf1 he' h').ignores (apart_measurement_counter .cf1))
    · exact hworks.movesLeft ((worksOn_switching he' h').ignores apart_measurement_switching)
    · omega

end Polling

end UascentPlug

import UascentPlug.Bl0937.Interrupts
import UascentPlug.Firmware.Readings

/-!
# UascentPlug.Preemption.Poll

`MeterPoll` in small steps inside the whole firmware.  `UascentPlug.Firmware`
runs a task in one piece; here a `MeterPoll` that has started can be
interrupted by the pulse counters, the timers, the board layer and the Matter
thread between any two of its steps, while time passes.

`Polling.value` is what the running poll will have done when it is left alone
from here on.  No step of the poll changes it (`Polling.value_step`), and for a
poll that is about to start it is the task in one piece (`Polling.value_start`).
-/

namespace UascentPlug

/-! ## the steps of a poll -/

/-- The firmware and what its app task does next in `MeterPoll`, if it is in it. -/
structure Polling where
  firmware : Firmware
  pc : MeterPc := .idle

inductive PollingEvent where
  /-- The app task takes a `MeterPoll` off its queue, which reads the uptime. -/
  | start
  | takeCf
  | takeCf1
  /-- The window is checked, and the CF sample goes to `CheckOverPower` and the
  filter; `relayErr` answers the write of a trip. -/
  | measureCf (relayErr : Int)
  | measureCf1
  | setSel
  | publish (fabricCount : Nat) (putErr : ChipError)
  /-- Time passes in the poll. -/
  | lag (ms : Nat)
  /-- Anything else the firmware does. -/
  | outside (e : FirmwareEvent)

/-- The event does not wait for the app task, and time stands still in it. -/
def FirmwareEvent.preempts : FirmwareEvent → Bool
  | .init | .dispatch _ | .elapse _ | .powerCut _ _ => false
  | _ => true

/-- The event runs the oldest task, and that is a `MeterPoll`. -/
def Firmware.startsPoll (f : Firmware) : FirmwareEvent → Bool
  | .dispatch _ => f.tasks.head? == some .meterPoll
  | _ => false

namespace Polling

/-- The event can happen now. -/
def admits (s : Polling) (e : FirmwareEvent) : Bool :=
  match s.pc with
  | .idle => !e.cutsPower && !s.firmware.startsPoll e
  | _ => e.preempts

/-- What the running poll publishes. -/
def sample (s : Polling) (fabricCount : Nat) (putErr : ChipError) : Sample :=
  { activePowerMw := s.firmware.meter.sLastActivePowerMw
    rmsVoltageMv := s.firmware.meter.sLastRmsVoltageMv
    rmsCurrentMa := s.firmware.meter.sLastRmsCurrentMa
    nowMs := s.firmware.uptimeMs
    fabricCount := fabricCount
    putErr := putErr }

def start (s : Polling) : Option Polling :=
  match s.pc, s.firmware.app, s.firmware.tasks with
  | .idle, .dispatching, .meterPoll :: tasks =>
      let f := s.firmware
      some
        { firmware := { f with tasks := tasks, meter.sLastPollMs := f.uptimeMs }
          pc := .takeCf (f.meter.windowMs f.uptimeMs) }
  | _, _, _ => none

def takeCf (s : Polling) : Option Polling :=
  match s.pc with
  | .takeCf windowMs =>
      let (cfPulses, sCfPulses) := Meter.takePulses s.firmware.meter.sCfPulses
      some
        { firmware := { s.firmware with meter.sCfPulses := sCfPulses }
          pc := .takeCf1 windowMs cfPulses }
  | _ => none

def takeCf1 (s : Polling) : Option Polling :=
  match s.pc with
  | .takeCf1 windowMs cfPulses =>
      let (cf1Pulses, sCf1Pulses) := Meter.takePulses s.firmware.meter.sCf1Pulses
      let poll : Poll :=
        { nowMs := s.firmware.meter.sLastPollMs, cf := cfPulses, cf1 := cf1Pulses }
      some
        { firmware :=
            { s.firmware with
              meter.sCf1Pulses := sCf1Pulses
              polls := s.firmware.polls ++ [poll] }
          pc := .measureCf windowMs cfPulses cf1Pulses }
  | _ => none

def measureCf (cfg : Option OverPowerConfig) (relayErr : Int) (s : Polling) : Option Polling :=
  match s.pc with
  | .measureCf windowMs cfPulses cf1Pulses =>
      if windowMs ≤ 0 then
        some { s with pc := .idle }
      else
        let f := s.firmware
        let rate := Meter.countsPerSec cfPulses windowMs
        let r := f.meter.protect cfg f.plug.relayIsOn rate
        some
          { firmware :=
              { f with
                meter := r.1.pushCf rate
                plug := r.2.foldl (Plug.call relayErr) f.plug }
            pc := .measureCf1 windowMs cf1Pulses }
  | _ => none

def measureCf1 (s : Polling) : Option Polling :=
  match s.pc with
  | .measureCf1 windowMs cf1Pulses =>
      let m := s.firmware.meter
      let rate := Meter.countsPerSec cf1Pulses windowMs
      some
        { firmware := { s.firmware with meter := { m.pushCf1 rate with selPin := m.selPin } }
          pc := if (m.sCf1Filter.push rate).2.isSome then .setSel else .publish }
  | _ => none

def setSel (s : Polling) : Option Polling :=
  match s.pc with
  | .setSel =>
      some
        { firmware := { s.firmware with meter.selPin := s.firmware.meter.sSelIsVoltage }
          pc := .publish }
  | _ => none

def publish (fabricCount : Nat) (putErr : ChipError) (s : Polling) : Option Polling :=
  match s.pc with
  | .publish =>
      let r := s.firmware.pm.powerMeasurementUpdate (s.sample fabricCount putErr)
      some
        { firmware := { s.firmware with pm := r.1, kvs := r.2.foldl store s.firmware.kvs }
          pc := .idle }
  | _ => none

def lag (ms : Nat) (s : Polling) : Option Polling :=
  match s.pc with
  | .idle => none
  | _ => some { s with firmware.uptimeMs := s.firmware.uptimeMs + ms }

/-- What an event publishes. -/
def published (cfg : Option OverPowerConfig) (s : Polling) : PollingEvent → List Publication
  | .publish fabricCount putErr =>
      let u := s.sample fabricCount putErr
      [{ sample := u, effects := (s.firmware.pm.powerMeasurementUpdate u).2 }]
  | .outside e => s.firmware.published cfg e
  | _ => []

end Polling

/-- A boot of the firmware in which polls are preempted. -/
def polling (cfg : Option OverPowerConfig) : Lts Polling PollingEvent where
  step s
    | .start => s.start
    | .takeCf => s.takeCf
    | .takeCf1 => s.takeCf1
    | .measureCf relayErr => s.measureCf cfg relayErr
    | .measureCf1 => s.measureCf1
    | .setSel => s.setSel
    | .publish fabricCount putErr => s.publish fabricCount putErr
    | .lag ms => s.lag ms
    | .outside e =>
        if s.admits e then ((firmware cfg).step s.firmware e).map fun f => { s with firmware := f }
        else none

/-! ## what a step can do -/

/-- The event is a step of `MeterPoll`. -/
def PollingEvent.own : PollingEvent → Bool
  | .outside _ => false
  | _ => true

/-- It is the first. -/
def PollingEvent.opens : PollingEvent → Bool
  | .start => true
  | _ => false

/-- The steps of a poll, one constructor a step. -/
inductive PollStep (cfg : Option OverPowerConfig) (f : Firmware) :
    MeterPc → PollingEvent → Polling → Prop where
  | start {tasks : List Task} (happ : f.app = .dispatching)
      (htasks : f.tasks = .meterPoll :: tasks) :
      PollStep cfg f .idle .start
        { firmware := { f with tasks := tasks, meter.sLastPollMs := f.uptimeMs }
          pc := .takeCf (f.meter.windowMs f.uptimeMs) }
  | takeCf {windowMs : Int} :
      PollStep cfg f (.takeCf windowMs) .takeCf
        { firmware := { f with meter.sCfPulses := 0 }, pc := .takeCf1 windowMs f.meter.sCfPulses }
  | takeCf1 {windowMs : Int} {cfPulses : UInt32} {poll : Poll}
      (hpoll : poll =
        { nowMs := f.meter.sLastPollMs, cf := cfPulses, cf1 := f.meter.sCf1Pulses }) :
      PollStep cfg f (.takeCf1 windowMs cfPulses) .takeCf1
        { firmware := { f with meter.sCf1Pulses := 0, polls := f.polls ++ [poll] }
          pc := .measureCf windowMs cfPulses f.meter.sCf1Pulses }
  | discard {windowMs : Int} {cfPulses cf1Pulses : UInt32} {relayErr : Int}
      (hwindow : windowMs ≤ 0) :
      PollStep cfg f (.measureCf windowMs cfPulses cf1Pulses) (.measureCf relayErr)
        { firmware := f }
  | measureCf {windowMs : Int} {cfPulses cf1Pulses rate : UInt32} {relayErr : Int}
      {r : Meter × List MeterCall} (hwindow : 0 < windowMs)
      (hrate : rate = Meter.countsPerSec cfPulses windowMs)
      (hr : r = f.meter.protect cfg f.plug.relayIsOn rate) :
      PollStep cfg f (.measureCf windowMs cfPulses cf1Pulses) (.measureCf relayErr)
        { firmware :=
            { f with
              meter := r.1.pushCf rate
              plug := r.2.foldl (Plug.call relayErr) f.plug }
          pc := .measureCf1 windowMs cf1Pulses }
  | measureCf1 {windowMs : Int} {cf1Pulses rate : UInt32}
      (hrate : rate = Meter.countsPerSec cf1Pulses windowMs) :
      PollStep cfg f (.measureCf1 windowMs cf1Pulses) .measureCf1
        { firmware := { f with meter := { f.meter.pushCf1 rate with selPin := f.meter.selPin } }
          pc := if (f.meter.sCf1Filter.push rate).2.isSome then .setSel else .publish }
  | setSel :
      PollStep cfg f .setSel .setSel
        { firmware := { f with meter.selPin := f.meter.sSelIsVoltage }, pc := .publish }
  | publish {fabricCount : Nat} {putErr : ChipError} {u : Sample}
      (hu : u = Polling.sample { firmware := f } fabricCount putErr) :
      PollStep cfg f .publish (.publish fabricCount putErr)
        { firmware :=
            { f with
              pm := (f.pm.powerMeasurementUpdate u).1
              kvs := (f.pm.powerMeasurementUpdate u).2.foldl store f.kvs } }
  | lag {pc : MeterPc} {ms : Nat} (hbusy : pc ≠ .idle) :
      PollStep cfg f pc (.lag ms)
        { firmware := { f with uptimeMs := f.uptimeMs + ms }, pc := pc }

/-- **Inversion**: a step of a poll is one of these. -/
theorem pollStep_of_step {cfg : Option OverPowerConfig} {s t : Polling} {d : PollingEvent}
    (hown : d.own = true) (h : (polling cfg).step s d = some t) :
    PollStep cfg s.firmware s.pc d t := by
  obtain ⟨f, pc⟩ := s
  cases d with
  | outside e => contradiction
  | start =>
      simp only [polling, Polling.start] at h
      split at h
      · next tasks hpc happ htasks => exact Option.some.inj h ▸ .start happ htasks
      · contradiction
  | takeCf =>
      cases pc with
      | takeCf windowMs => exact Option.some.inj h ▸ .takeCf
      | _ => contradiction
  | takeCf1 =>
      cases pc with
      | takeCf1 windowMs cfPulses => exact Option.some.inj h ▸ .takeCf1 rfl
      | _ => contradiction
  | measureCf relayErr =>
      cases pc with
      | measureCf windowMs cfPulses cf1Pulses =>
          simp only [polling, Polling.measureCf] at h
          split at h
          · next hwindow => exact Option.some.inj h ▸ .discard hwindow
          · next hwindow => exact Option.some.inj h ▸ .measureCf (Int.not_le.mp hwindow) rfl rfl
      | _ => contradiction
  | measureCf1 =>
      cases pc with
      | measureCf1 windowMs cf1Pulses => exact Option.some.inj h ▸ .measureCf1 rfl
      | _ => contradiction
  | setSel =>
      cases pc with
      | setSel => exact Option.some.inj h ▸ .setSel
      | _ => contradiction
  | publish fabricCount putErr =>
      cases pc with
      | publish => exact Option.some.inj h ▸ .publish rfl
      | _ => contradiction
  | lag ms =>
      cases pc with
      | idle => contradiction
      | _ => exact Option.some.inj h ▸ .lag nofun

/-! ## what a poll will have done -/

/-- A poll that closes a window, part by part. -/
theorem Meter.meterPoll_of_pos (cfg : Option OverPowerConfig) (relayIsOn : Bool) {nowMs : Int}
    {m : Meter} (h : 0 < m.windowMs nowMs) :
    m.meterPoll cfg relayIsOn nowMs =
      let rate := countsPerSec m.sCfPulses (m.windowMs nowMs)
      let rate1 := countsPerSec m.sCf1Pulses (m.windowMs nowMs)
      let r := protect cfg relayIsOn rate
        { m with sLastPollMs := nowMs, sCfPulses := 0, sCf1Pulses := 0 }
      let m' := (r.1.pushCf rate).pushCf1 rate1
      (m', r.2 ++ [.powerMeasurementUpdate m'.sLastActivePowerMw m'.sLastRmsVoltageMv
        m'.sLastRmsCurrentMa]) :=
  if_neg (Int.not_le.mpr h)

namespace Polling

/-- The rest of `MeterPoll` from the call of `PowerMeasurementUpdate` on. -/
def finishPublish (a : TaskAnswers) (f : Firmware) : Firmware × List Publication :=
  let s : Polling := { firmware := { f with uptimeMs := f.uptimeMs + a.lagMs } }
  let u := s.sample a.fabricCount a.putErr
  let r := f.pm.powerMeasurementUpdate u
  ({ s.firmware with pm := r.1, kvs := r.2.foldl store f.kvs }, [{ sample := u, effects := r.2 }])

/-- From the CF1 sample on. -/
def finishCf1 (a : TaskAnswers) (windowMs : Int) (cf1Pulses : UInt32) (f : Firmware) :
    Firmware × List Publication :=
  finishPublish a { f with meter := f.meter.pushCf1 (Meter.countsPerSec cf1Pulses windowMs) }

/-- From the check of the window on. -/
def finishCf (cfg : Option OverPowerConfig) (a : TaskAnswers) (windowMs : Int)
    (cfPulses cf1Pulses : UInt32) (f : Firmware) : Firmware × List Publication :=
  if windowMs ≤ 0 then
    ({ f with uptimeMs := f.uptimeMs + a.lagMs }, [])
  else
    let rate := Meter.countsPerSec cfPulses windowMs
    let r := f.meter.protect cfg f.plug.relayIsOn rate
    finishCf1 a windowMs cf1Pulses
      { f with meter := r.1.pushCf rate, plug := r.2.foldl (Plug.call a.relayErr) f.plug }

/-- From the swap of the CF1 counter on. -/
def finishTakeCf1 (cfg : Option OverPowerConfig) (a : TaskAnswers) (windowMs : Int)
    (cfPulses : UInt32) (f : Firmware) : Firmware × List Publication :=
  let poll : Poll :=
    { nowMs := f.meter.sLastPollMs, cf := cfPulses, cf1 := f.meter.sCf1Pulses }
  finishCf cfg a windowMs cfPulses f.meter.sCf1Pulses
    { f with meter.sCf1Pulses := 0, polls := f.polls ++ [poll] }

/-- What the running poll will have done, with what it will have published, if
nothing happens meanwhile and the calls it still makes get these answers. -/
def value (cfg : Option OverPowerConfig) (a : TaskAnswers) (s : Polling) :
    Firmware × List Publication :=
  let f := s.firmware
  match s.pc with
  | .idle => (f, [])
  | .takeCf windowMs =>
      finishTakeCf1 cfg a windowMs f.meter.sCfPulses { f with meter.sCfPulses := 0 }
  | .takeCf1 windowMs cfPulses => finishTakeCf1 cfg a windowMs cfPulses f
  | .measureCf windowMs cfPulses cf1Pulses => finishCf cfg a windowMs cfPulses cf1Pulses f
  | .measureCf1 windowMs cf1Pulses => finishCf1 a windowMs cf1Pulses f
  | .setSel => finishPublish a { f with meter.selPin := f.meter.sSelIsVoltage }
  | .publish => finishPublish a f

variable {cfg : Option OverPowerConfig} {s t : Polling}

/-- Time that passes before the end is time the calls are late. -/
theorem finishPublish_lag (a : TaskAnswers) (ms : Nat) (f : Firmware) :
    finishPublish a { f with uptimeMs := f.uptimeMs + ms } =
      finishPublish { a with lagMs := ms + a.lagMs } f := by
  simp only [finishPublish, sample, Nat.cast_add, Int.add_assoc]

/-- Time that passes before the CF1 sample delays what is published. -/
theorem finishCf1_lag (a : TaskAnswers) (ms : Nat) (windowMs : Int) (cf1Pulses : UInt32)
    (f : Firmware) :
    finishCf1 a windowMs cf1Pulses { f with uptimeMs := f.uptimeMs + ms } =
      finishCf1 { a with lagMs := ms + a.lagMs } windowMs cf1Pulses f :=
  finishPublish_lag a ms { f with meter := _ }

/-- So does time before the CF sample. -/
theorem finishCf_lag (a : TaskAnswers) (ms : Nat) (windowMs : Int) (cfPulses cf1Pulses : UInt32)
    (f : Firmware) :
    finishCf cfg a windowMs cfPulses cf1Pulses { f with uptimeMs := f.uptimeMs + ms } =
      finishCf cfg { a with lagMs := ms + a.lagMs } windowMs cfPulses cf1Pulses f := by
  by_cases hwindow : windowMs ≤ 0
  · simp only [finishCf, if_pos hwindow, Nat.cast_add, Int.add_assoc]
  · simp only [finishCf, if_neg hwindow]
    generalize Meter.countsPerSec cfPulses windowMs = rate
    generalize f.meter.protect cfg f.plug.relayIsOn rate = r
    exact finishCf1_lag a ms windowMs cf1Pulses
      { f with meter := r.1.pushCf rate, plug := r.2.foldl (Plug.call a.relayErr) f.plug }

/-- So does time anywhere in a poll. -/
theorem value_lag (a : TaskAnswers) (ms : Nat) (h : s.pc ≠ .idle) :
    value cfg a { s with firmware.uptimeMs := s.firmware.uptimeMs + ms } =
      value cfg { a with lagMs := ms + a.lagMs } s := by
  obtain ⟨f, pc⟩ := s
  cases pc with
  | idle => contradiction
  | takeCf windowMs => exact finishCf_lag a ms windowMs _ _ { f with meter := _, polls := _ }
  | takeCf1 windowMs cfPulses =>
      exact finishCf_lag a ms windowMs _ _ { f with meter := _, polls := _ }
  | measureCf windowMs cfPulses cf1Pulses => exact finishCf_lag a ms windowMs _ _ f
  | measureCf1 windowMs cf1Pulses => exact finishCf1_lag a ms windowMs _ f
  | setSel => exact finishPublish_lag a ms { f with meter := _ }
  | publish => exact finishPublish_lag a ms f

end Polling

namespace Polling

variable {cfg : Option OverPowerConfig} {s t : Polling}

/-- **Step lemma**: no step of the poll changes what it will have done. -/
theorem value_step {d : PollingEvent} (hown : d.own = true) (hopens : d.opens = false)
    (h : (polling cfg).step s d = some t) (a : TaskAnswers) :
    ∃ a', value cfg a' s = ((value cfg a t).1, s.published cfg d ++ (value cfg a t).2) := by
  have hstep := pollStep_of_step hown h
  obtain ⟨f, pc⟩ := s
  cases hstep with
  | start happ htasks => contradiction
  | takeCf => exact ⟨a, rfl⟩
  | takeCf1 hpoll =>
      subst hpoll
      exact ⟨a, rfl⟩
  | discard hwindow =>
      refine ⟨{ a with lagMs := 0 }, ?_⟩
      simp [value, finishCf, hwindow, published]
  | @measureCf windowMs cfPulses cf1Pulses rate relayErr r hwindow hrate hr =>
      subst hrate hr
      refine ⟨{ a with relayErr := relayErr }, ?_⟩
      simp only [value, finishCf, if_neg (Int.not_le.mpr hwindow)]
      rfl
  | @measureCf1 windowMs cf1Pulses rate hrate =>
      subst hrate
      refine ⟨a, ?_⟩
      simp only [value, finishCf1]
      cases hpush : (f.meter.sCf1Filter.push (Meter.countsPerSec cf1Pulses windowMs)).2 with
      | none =>
          rw [Meter.pushCf1_of_none hpush]
          rfl
      | some median =>
          rw [Meter.pushCf1_of_some hpush]
          rfl
  | setSel => exact ⟨a, rfl⟩
  | @publish fabricCount putErr u hu =>
      subst hu
      refine ⟨{ fabricCount := fabricCount, putErr := putErr }, ?_⟩
      simp [value, finishPublish, published, sample]
  | @lag pc ms hbusy => exact ⟨_, (value_lag a ms hbusy).symm⟩

/-- **Run lemma**: the steps of a poll up to its end. -/
theorem value_run {ds : List PollingEvent} (hds : ∀ d ∈ ds, d.own = true ∧ d.opens = false)
    (hrun : (polling cfg).run s ds = some t) (hidle : t.pc = .idle) :
    ∃ a, value cfg a s = (t.firmware, (polling cfg).feed (published cfg) s ds) := by
  induction ds generalizing s with
  | nil =>
      obtain rfl := Option.some.inj hrun
      refine ⟨{}, ?_⟩
      rw [value, hidle]
      rfl
  | cons d ds ih =>
      obtain ⟨u, hstep, hrest⟩ := (polling cfg).run_cons_eq_some.mp hrun
      obtain ⟨a, ha⟩ := ih (fun d' hd' => hds d' (List.mem_cons_of_mem d hd')) hrest
      obtain ⟨hown, hopens⟩ := hds d List.mem_cons_self
      obtain ⟨a', ha'⟩ := value_step hown hopens hstep a
      refine ⟨a', ?_⟩
      rw [ha', ha, (polling cfg).feed_cons hstep]

/-- **A poll in one piece**: what a poll that has started will have done is what
the task does. -/
theorem value_start (cfg : Option OverPowerConfig) (a : TaskAnswers) (f : Firmware) :
    value cfg a
        { firmware := { f with meter.sLastPollMs := f.uptimeMs }
          pc := .takeCf (f.meter.windowMs f.uptimeMs) } =
      (f.meterPoll cfg a, f.publications cfg a) := by
  by_cases hwindow : f.meter.windowMs f.uptimeMs ≤ 0
  · have hpoll : f.meter.meterPoll cfg f.plug.relayIsOn f.uptimeMs = (_, []) := if_pos hwindow
    simp only [value, finishTakeCf1, finishCf, if_pos hwindow, Firmware.meterPoll,
      Firmware.publications, Firmware.effects, Firmware.meterCalls, hpoll]
    rfl
  · have hpoll := Meter.meterPoll_of_pos cfg f.plug.relayIsOn (Int.not_le.mp hwindow)
    simp only [value, finishTakeCf1, finishCf, if_neg hwindow, Firmware.meterPoll,
      Firmware.publications, Firmware.effects, Firmware.meterCalls, hpoll,
      Metering.publish_protect, List.foldl_append, UascentPlug.publish, List.flatMap_cons,
      List.flatMap_nil, List.append_nil]
    rfl

end Polling

end UascentPlug

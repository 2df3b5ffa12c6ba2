import UascentPlug.Bl0937.Blocks

/-!
# UascentPlug.Bl0937.Interrupts

`MeterPoll` in small steps, with the two pulse interrupts between any two of
them.  The `Meter` of the state is the driver's; the two `Channel`s are
history: which pulses have come, which swap took them, and which sample they
ended up in.  A poll that is not interrupted is `Meter.meterPoll`
(`uninterrupted_poll`).

`DriverStep` lists what a step can do, one constructor an action; the
invariants of the driver are proved by cases on it.
-/

namespace UascentPlug

/-! ## the history of a channel -/

/-- A pulse: how many came before it on its channel, and the level of SEL. -/
structure Pulse where
  number : Nat
  selIsHigh : Bool
  deriving DecidableEq

/-- What one swap of the counter returned, and the pulses that were in it. -/
structure Taken where
  count : UInt32
  pulses : List Pulse

/-- A sample passed to a median filter: the window it was normalised by, its
value, and the pulses behind it. -/
structure FilterSample where
  windowMs : Int
  rate : UInt32
  pulses : List Pulse

structure Channel where
  /-- Pulses so far. -/
  arrived : Nat := 0
  /-- Those that came after the last swap. -/
  pending : List Pulse := []
  taken : List Taken := []
  /-- Those the running poll has taken and not used yet. -/
  inHand : List Pulse := []
  samples : List FilterSample := []

namespace Channel

def arrive (selIsHigh : Bool) (c : Channel) : Channel :=
  { c with
    arrived := c.arrived + 1
    pending := c.pending ++ [{ number := c.arrived, selIsHigh := selIsHigh }] }

def take (count : UInt32) (c : Channel) : Channel :=
  { c with
    taken := c.taken ++ [{ count := count, pulses := c.pending }]
    pending := []
    inHand := c.pending }

def sample (windowMs : Int) (rate : UInt32) (c : Channel) : Channel :=
  { c with
    samples := c.samples ++ [{ windowMs := windowMs, rate := rate, pulses := c.inHand }]
    inHand := [] }

def discard (c : Channel) : Channel := { c with inHand := [] }

/-- The rates of the samples, in order. -/
def rates (c : Channel) : List Nat := c.samples.map fun sample => sample.rate.toNat

end Channel

/-! ## the steps of a poll -/

/-- What `MeterPoll` does next, with its local variables. -/
inductive MeterPc where
  | idle
  | takeCf (windowMs : Int)
  | takeCf1 (windowMs : Int) (cfPulses : UInt32)
  | measureCf (windowMs : Int) (cfPulses cf1Pulses : UInt32)
  | measureCf1 (windowMs : Int) (cf1Pulses : UInt32)
  | setSel
  | publish

structure Driver where
  meter : Meter
  pc : MeterPc := .idle
  cf : Channel := {}
  cf1 : Channel := {}

inductive DriverEvent where
  | cfIsr
  | cf1Isr
  /-- `MeterPoll` is called and reads the uptime. -/
  | poll (nowMs : Int)
  /-- It does its next step; `relayIsOn` is what `RelayIsOn()` answers in it. -/
  | advance (relayIsOn : Bool)

namespace Driver

/-- After a successful `MeterInit`. -/
def start : Driver := { meter := Meter.booted }

/-- The next step of the running poll. -/
def advance (cfg : Option OverPowerConfig) (relayIsOn : Bool) (s : Driver) : Option Driver :=
  match s.pc with
  | .idle => none
  | .takeCf windowMs =>
      let (cfPulses, sCfPulses) := Meter.takePulses s.meter.sCfPulses
      some { s with
        meter := { s.meter with sCfPulses := sCfPulses }
        pc := .takeCf1 windowMs cfPulses
        cf := s.cf.take cfPulses }
  | .takeCf1 windowMs cfPulses =>
      let (cf1Pulses, sCf1Pulses) := Meter.takePulses s.meter.sCf1Pulses
      some { s with
        meter := { s.meter with sCf1Pulses := sCf1Pulses }
        pc := .measureCf windowMs cfPulses cf1Pulses
        cf1 := s.cf1.take cf1Pulses }
  | .measureCf windowMs cfPulses cf1Pulses =>
      if windowMs ≤ 0 then
        some { s with pc := .idle, cf := s.cf.discard, cf1 := s.cf1.discard }
      else
        let rate := Meter.countsPerSec cfPulses windowMs
        some { s with
          meter := (s.meter.protect cfg relayIsOn rate).1.pushCf rate
          pc := .measureCf1 windowMs cf1Pulses
          cf := s.cf.sample windowMs rate }
  | .measureCf1 windowMs cf1Pulses =>
      let rate := Meter.countsPerSec cf1Pulses windowMs
      some { s with
        -- the pin follows in a step of its own
        meter := { s.meter.pushCf1 rate with selPin := s.meter.selPin }
        pc := if (s.meter.sCf1Filter.push rate).2.isSome then .setSel else .publish
        cf1 := s.cf1.sample windowMs rate }
  | .setSel =>
      some { s with meter := { s.meter with selPin := s.meter.sSelIsVoltage }, pc := .publish }
  | .publish => some { s with pc := .idle }

/-- The call of `PowerMeasurementUpdate` the next step makes. -/
def publishes (s : Driver) : Option MeterCall :=
  match s.pc with
  | .publish =>
      some (.powerMeasurementUpdate s.meter.sLastActivePowerMw s.meter.sLastRmsVoltageMv
        s.meter.sLastRmsCurrentMa)
  | _ => none

end Driver

/-- Interrupts at any time, polls one after the other at uptimes that do not
run backwards. -/
def driver (cfg : Option OverPowerConfig) : Lts Driver DriverEvent where
  step s
    | .cfIsr =>
        if s.meter.interruptsEnabled then
          some { s with meter := s.meter.cfIsr, cf := s.cf.arrive s.meter.selPin }
        else none
    | .cf1Isr =>
        if s.meter.interruptsEnabled then
          some { s with meter := s.meter.cf1Isr, cf1 := s.cf1.arrive s.meter.selPin }
        else none
    | .poll nowMs =>
        match s.pc with
        | .idle =>
            if s.meter.sLastPollMs ≤ nowMs then
              some { s with
                meter := { s.meter with sLastPollMs := nowMs }
                pc := .takeCf (s.meter.windowMs nowMs) }
            else none
        | _ => none
    | .advance relayIsOn => s.advance cfg relayIsOn

/-! ## what a step can do -/

/-- The step relation, one constructor an action. -/
inductive DriverStep (cfg : Option OverPowerConfig) (s : Driver) : DriverEvent → Driver → Prop where
  | cfIsr : DriverStep cfg s .cfIsr
      { s with meter := s.meter.cfIsr, cf := s.cf.arrive s.meter.selPin }
  | cf1Isr : DriverStep cfg s .cf1Isr
      { s with meter := s.meter.cf1Isr, cf1 := s.cf1.arrive s.meter.selPin }
  | poll {nowMs : Int} (hpc : s.pc = .idle) (hnow : s.meter.sLastPollMs ≤ nowMs) :
      DriverStep cfg s (.poll nowMs)
        { s with
          meter := { s.meter with sLastPollMs := nowMs }
          pc := .takeCf (s.meter.windowMs nowMs) }
  | takeCf {relayIsOn : Bool} {windowMs : Int} (hpc : s.pc = .takeCf windowMs) :
      DriverStep cfg s (.advance relayIsOn)
        { s with
          meter := { s.meter with sCfPulses := 0 }
          pc := .takeCf1 windowMs s.meter.sCfPulses
          cf := s.cf.take s.meter.sCfPulses }
  | takeCf1 {relayIsOn : Bool} {windowMs : Int} {cfPulses : UInt32}
      (hpc : s.pc = .takeCf1 windowMs cfPulses) :
      DriverStep cfg s (.advance relayIsOn)
        { s with
          meter := { s.meter with sCf1Pulses := 0 }
          pc := .measureCf windowMs cfPulses s.meter.sCf1Pulses
          cf1 := s.cf1.take s.meter.sCf1Pulses }
  | discard {relayIsOn : Bool} {windowMs : Int} {cfPulses cf1Pulses : UInt32}
      (hpc : s.pc = .measureCf windowMs cfPulses cf1Pulses) (hwindow : windowMs ≤ 0) :
      DriverStep cfg s (.advance relayIsOn)
        { s with pc := .idle, cf := s.cf.discard, cf1 := s.cf1.discard }
  | measureCf {relayIsOn : Bool} {windowMs : Int} {cfPulses cf1Pulses rate : UInt32}
      (hpc : s.pc = .measureCf windowMs cfPulses cf1Pulses) (hwindow : 0 < windowMs)
      (hrate : rate = Meter.countsPerSec cfPulses windowMs) :
      DriverStep cfg s (.advance relayIsOn)
        { s with
          meter := (s.meter.protect cfg relayIsOn rate).1.pushCf rate
          pc := .measureCf1 windowMs cf1Pulses
          cf := s.cf.sample windowMs rate }
  | measureCf1 {relayIsOn : Bool} {windowMs : Int} {cf1Pulses rate : UInt32}
      (hpc : s.pc = .measureCf1 windowMs cf1Pulses)
      (hrate : rate = Meter.countsPerSec cf1Pulses windowMs) :
      DriverStep cfg s (.advance relayIsOn)
        { s with
          meter := { s.meter.pushCf1 rate with selPin := s.meter.selPin }
          pc := if (s.meter.sCf1Filter.push rate).2.isSome then .setSel else .publish
          cf1 := s.cf1.sample windowMs rate }
  | setSel {relayIsOn : Bool} (hpc : s.pc = .setSel) :
      DriverStep cfg s (.advance relayIsOn)
        { s with meter := { s.meter with selPin := s.meter.sSelIsVoltage }, pc := .publish }
  | publish {relayIsOn : Bool} (hpc : s.pc = .publish) :
      DriverStep cfg s (.advance relayIsOn) { s with pc := .idle }

/-- **Inversion**: an enabled event is one of the actions. -/
theorem driverStep_of_step {cfg : Option OverPowerConfig} {s t : Driver} {e : DriverEvent}
    (h : (driver cfg).step s e = some t) : DriverStep cfg s e t := by
  cases e with
  | cfIsr =>
      simp only [driver] at h
      split at h
      · exact Option.some.inj h ▸ .cfIsr
      · contradiction
  | cf1Isr =>
      simp only [driver] at h
      split at h
      · exact Option.some.inj h ▸ .cf1Isr
      · contradiction
  | poll nowMs =>
      simp only [driver] at h
      split at h
      · next hpc =>
        split at h
        · next hnow => exact Option.some.inj h ▸ .poll hpc hnow
        · contradiction
      · contradiction
  | advance relayIsOn =>
      simp only [driver, Driver.advance] at h
      split at h
      · contradiction
      · next hpc => exact Option.some.inj h ▸ .takeCf hpc
      · next hpc => exact Option.some.inj h ▸ .takeCf1 hpc
      · next hpc =>
        split at h
        · next hwindow => exact Option.some.inj h ▸ .discard hpc hwindow
        · next hwindow => exact Option.some.inj h ▸ .measureCf hpc (Int.not_le.mp hwindow) rfl
      · next hpc => exact Option.some.inj h ▸ .measureCf1 hpc rfl
      · next hpc => exact Option.some.inj h ▸ .setSel hpc
      · next hpc => exact Option.some.inj h ▸ .publish hpc

/-! ## a poll that is not interrupted -/

/-- Left alone, the running poll ends with the driver in state `m`. -/
def Finishes (cfg : Option OverPowerConfig) (relayIsOn : Bool) (s : Driver) (m : Meter) : Prop :=
  ∃ n t, (driver cfg).run s (List.replicate n (.advance relayIsOn)) = some t ∧
    t.pc = .idle ∧ t.meter = m

/-- A poll finishes where its next step would finish. -/
theorem finishes_of_advance {cfg : Option OverPowerConfig} {relayIsOn : Bool} {s t : Driver}
    {m : Meter} (hstep : s.advance cfg relayIsOn = some t) (h : Finishes cfg relayIsOn t m) :
    Finishes cfg relayIsOn s m := by
  obtain ⟨n, u, hrun, hend⟩ := h
  refine ⟨n + 1, u, ?_, hend⟩
  rw [List.replicate_succ, Lts.run_cons_eq_some]
  exact ⟨t, hstep, hrun⟩

/-- The last step changes nothing in the meter. -/
theorem finishes_publish {cfg : Option OverPowerConfig} {relayIsOn : Bool} {s : Driver}
    (hpc : s.pc = .publish) : Finishes cfg relayIsOn s s.meter := by
  refine ⟨1, { s with pc := .idle }, ?_, rfl, rfl⟩
  simp [Lts.run, driver, Driver.advance, hpc]

/-- From the CF1 sample on, a poll pushes it into its filter. -/
theorem finishes_measureCf1 {cfg : Option OverPowerConfig} {relayIsOn : Bool} {s : Driver}
    {windowMs : Int} {cf1Pulses : UInt32} (hpc : s.pc = .measureCf1 windowMs cf1Pulses) :
    Finishes cfg relayIsOn s (s.meter.pushCf1 (Meter.countsPerSec cf1Pulses windowMs)) := by
  generalize hrate : Meter.countsPerSec cf1Pulses windowMs = rate
  have hadvance : s.advance cfg relayIsOn = some { s with
      meter := { s.meter.pushCf1 rate with selPin := s.meter.selPin }
      pc := if (s.meter.sCf1Filter.push rate).2.isSome then .setSel else .publish
      cf1 := s.cf1.sample windowMs rate } := by
    simp [Driver.advance, hpc, hrate]
  apply finishes_of_advance hadvance
  cases hpush : (s.meter.sCf1Filter.push rate).2 with
  | none =>
      rw [Meter.pushCf1_of_none hpush]
      exact finishes_publish rfl
  | some median =>
      rw [Meter.pushCf1_of_some hpush]
      exact finishes_of_advance rfl (finishes_publish rfl)

/-- From the CF sample on, it checks the window, and pushes both samples if there
is one. -/
theorem finishes_measureCf {cfg : Option OverPowerConfig} {relayIsOn : Bool} {s : Driver}
    {windowMs : Int} {cfPulses cf1Pulses : UInt32}
    (hpc : s.pc = .measureCf windowMs cfPulses cf1Pulses) :
    Finishes cfg relayIsOn s
      (if windowMs ≤ 0 then s.meter
      else ((s.meter.protect cfg relayIsOn (Meter.countsPerSec cfPulses windowMs)).1.pushCf
        (Meter.countsPerSec cfPulses windowMs)).pushCf1
          (Meter.countsPerSec cf1Pulses windowMs)) := by
  by_cases hwindow : windowMs ≤ 0
  · rw [if_pos hwindow]
    refine ⟨1, { s with pc := .idle, cf := s.cf.discard, cf1 := s.cf1.discard }, ?_, rfl, rfl⟩
    simp [Lts.run, driver, Driver.advance, hpc, hwindow]
  · rw [if_neg hwindow]
    have hadvance : s.advance cfg relayIsOn = some { s with
        meter := (s.meter.protect cfg relayIsOn (Meter.countsPerSec cfPulses windowMs)).1.pushCf
          (Meter.countsPerSec cfPulses windowMs)
        pc := .measureCf1 windowMs cf1Pulses
        cf := s.cf.sample windowMs (Meter.countsPerSec cfPulses windowMs) } := by
      simp [Driver.advance, hpc, hwindow]
    exact finishes_of_advance hadvance (finishes_measureCf1 rfl)

/-- **The small steps add up to `MeterPoll`.** -/
theorem uninterrupted_poll (cfg : Option OverPowerConfig) (relayIsOn : Bool) {nowMs : Int}
    {s : Driver} (hpc : s.pc = .idle) (hnow : s.meter.sLastPollMs ≤ nowMs) :
    ∃ t, (driver cfg).step s (.poll nowMs) = some t ∧
      Finishes cfg relayIsOn t (s.meter.meterPoll cfg relayIsOn nowMs).1 := by
  obtain ⟨m, pc, cf, cf1⟩ := s
  subst hpc
  have hmeter : (m.meterPoll cfg relayIsOn nowMs).1 = if m.windowMs nowMs ≤ 0 then _ else _ :=
    apply_ite Prod.fst _ _ _
  refine ⟨_, if_pos hnow, ?_⟩
  rw [hmeter]
  exact finishes_of_advance rfl (finishes_of_advance rfl (finishes_measureCf rfl))

end UascentPlug

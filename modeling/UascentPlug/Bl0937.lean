import UascentPlug.AppTask
import UascentPlug.Lib.Machine

/-!
# UascentPlug.Bl0937

The energy-metering driver (`src/bl0937.cpp`).  CF and CF1 pulses are counted
by interrupts; `MeterPoll` turns the counts taken since the last poll into
rates, checks the over-power limit, and publishes medians of three.

The state is the file's statics and the level of the SEL pin.  `uint32_t` is
`UInt32`; `int64_t` is `Int`, since no product here comes near 63 bits.
What `MeterPoll` does to other modules is the list of `MeterCall`s it returns.
-/

namespace UascentPlug

/-! ## calibration -/

def kMilliCountsPerSecPerWatt : Int := 775

def kMilliCountsPerSecPerVolt : Int := 8077

def kMilliCountsPerSecPerAmp : Int := 91636

/-- A rate in counts per second, scaled by one of the calibration divisors. -/
def scaled (countsPerSec : UInt32) (kMilliCountsPerSec : Int) : Int :=
  ((countsPerSec.toNat : Int) * 1000000).tdiv kMilliCountsPerSec

/-! ## the median filter -/

/-- Samples per filter window. -/
abbrev kFilterDepth : Nat := 3

/-- The filter holds at least one sample. -/
theorem kFilterDepth_pos : 0 < kFilterDepth := Nat.zero_lt_succ 2

/-- `MedianFilter`.  `mCount` is an index into `mSamples` between calls. -/
structure MedianFilter where
  mSamples : Vector UInt32 kFilterDepth := Vector.replicate kFilterDepth 0
  mCount : Fin kFilterDepth := ⟨0, kFilterDepth_pos⟩

namespace MedianFilter

/-- The sorting network of `MedianFilter::Push`: its middle element. -/
def middle (a b c : UInt32) : UInt32 :=
  let (a, b) := if a > b then (b, a) else (a, b)
  let (b, _) := if b > c then (c, b) else (b, c)
  let (_, b) := if a > b then (b, a) else (a, b)
  b

/-- `MedianFilter::Push`: the median, when this sample completes a window. -/
def push (sample : UInt32) (f : MedianFilter) : MedianFilter × Option UInt32 :=
  let mSamples := f.mSamples.set f.mCount.val sample f.mCount.isLt
  if h : f.mCount.val + 1 < kFilterDepth then
    ({ mSamples := mSamples, mCount := ⟨f.mCount.val + 1, h⟩ }, none)
  else
    ({ mSamples := mSamples, mCount := ⟨0, kFilterDepth_pos⟩ },
      some (middle mSamples[0] mSamples[1] mSamples[2]))

end MedianFilter

/-! ## the driver's state and the calls it makes -/

/-- The statics of `bl0937.cpp` and the level it drives SEL to. -/
structure Meter where
  sCfPulses : UInt32 := 0
  sCf1Pulses : UInt32 := 0
  sSelIsVoltage : Bool := true
  sLastActivePowerMw : Int := 0
  sLastRmsVoltageMv : Int := 0
  sLastRmsCurrentMa : Int := 0
  sLastPollMs : Int := 0
  sCfFilter : MedianFilter := {}
  sCf1Filter : MedianFilter := {}
  sOverPowerSamples : UInt32 := 0
  /-- Logical level of `sSel`. -/
  selPin : Bool := false
  /-- Whether `MeterInit` has enabled the two pulse interrupts. -/
  interruptsEnabled : Bool := false

/-- The calls `MeterPoll` makes into other modules. -/
inductive MeterCall where
  | relaySet (on : Bool)
  | updateClusterState
  | powerMeasurementUpdate (activePowerMw rmsVoltageMv rmsCurrentMa : Int)
  deriving DecidableEq

/-- `CONFIG_APP_OVERPOWER_THRESHOLD_MW` and `CONFIG_APP_OVERPOWER_SAMPLES`;
the latter is compared as a `uint32_t`. -/
structure OverPowerConfig where
  thresholdMw : Int := 2400000
  samples : UInt32 := 5

/-- The three pins `MeterInit` needs. -/
inductive MeterPin where
  | cf
  | cf1
  | sel
  deriving DecidableEq

namespace Meter

/-! ## interrupts and pulse counters -/

/-- `CfIsr`: one CF pulse. -/
def cfIsr (m : Meter) : Meter := { m with sCfPulses := m.sCfPulses + 1 }

/-- `Cf1Isr`: one CF1 pulse. -/
def cf1Isr (m : Meter) : Meter := { m with sCf1Pulses := m.sCf1Pulses + 1 }

/-- `TakePulses`: what the counter held, and the counter swapped for zero. -/
def takePulses (counter : UInt32) : UInt32 × UInt32 := (counter, 0)

/-- `CountsPerSec`: a window's pulse count per second, cast to `uint32_t`. -/
def countsPerSec (pulses : UInt32) (windowMs : Int) : UInt32 :=
  UInt32.ofInt (((pulses.toNat : Int) * 1000).tdiv windowMs)

/-- `MeterInit`.  `isReady` is the answer of `gpio_is_ready_dt` for each pin. -/
def meterInit (isReady : MeterPin → Bool) (m : Meter) : Meter :=
  if [MeterPin.cf, .cf1, .sel].all isReady then
    { m with selPin := true, interruptsEnabled := true }
  else
    m

/-! ## one poll -/

/-- What a trip does: opens the relay and schedules the attribute update. -/
def tripCalls : List MeterCall := [.relaySet false, .updateClusterState]

/-- `CheckOverPower`.  `relayIsOn` is what `RelayIsOn()` answers. -/
def checkOverPower (cfg : OverPowerConfig) (relayIsOn : Bool) (instantPowerMw : Int)
    (m : Meter) : Meter × List MeterCall :=
  if instantPowerMw ≤ cfg.thresholdMw then
    ({ m with sOverPowerSamples := 0 }, [])
  else
    let m := { m with sOverPowerSamples := m.sOverPowerSamples + 1 }
    if m.sOverPowerSamples < cfg.samples then
      (m, [])
    else
      let m := { m with sOverPowerSamples := 0 }
      if !relayIsOn then (m, []) else (m, tripCalls)

/-- The CF half of a valid poll: a completed window is the new active power. -/
def pushCf (cfCountsPerSec : UInt32) (m : Meter) : Meter :=
  match m.sCfFilter.push cfCountsPerSec with
  | (f, none) => { m with sCfFilter := f }
  | (f, some median) =>
      { m with
        sCfFilter := f
        sLastActivePowerMw := scaled median kMilliCountsPerSecPerWatt }

/-- The CF1 half of a valid poll: a completed window is the quantity SEL named,
and SEL is flipped. -/
def pushCf1 (cf1CountsPerSec : UInt32) (m : Meter) : Meter :=
  match m.sCf1Filter.push cf1CountsPerSec with
  | (f, none) => { m with sCf1Filter := f }
  | (f, some median) =>
      let m := { m with sCf1Filter := f }
      let m :=
        if m.sSelIsVoltage then
          { m with sLastRmsVoltageMv := scaled median kMilliCountsPerSecPerVolt }
        else
          { m with sLastRmsCurrentMa := scaled median kMilliCountsPerSecPerAmp }
      { m with sSelIsVoltage := !m.sSelIsVoltage, selPin := !m.sSelIsVoltage }

/-- The over-power step of a valid poll; `none` is a build without
`CONFIG_APP_OVERPOWER_PROTECTION`. -/
def protect (cfg : Option OverPowerConfig) (relayIsOn : Bool) (cfCountsPerSec : UInt32)
    (m : Meter) : Meter × List MeterCall :=
  match cfg with
  | none => (m, [])
  | some cfg =>
      m.checkOverPower cfg relayIsOn (scaled cfCountsPerSec kMilliCountsPerSecPerWatt)

/-- The `windowMs` of `MeterPoll`: time since the last poll, `0` on the first. -/
def windowMs (nowMs : Int) (m : Meter) : Int :=
  if m.sLastPollMs ≠ 0 then nowMs - m.sLastPollMs else 0

/-- `MeterPoll` at uptime `nowMs`. -/
def meterPoll (cfg : Option OverPowerConfig) (relayIsOn : Bool) (nowMs : Int) (m : Meter) :
    Meter × List MeterCall :=
  let windowMs := m.windowMs nowMs
  let m := { m with sLastPollMs := nowMs }
  let (cfPulses, sCfPulses) := takePulses m.sCfPulses
  let (cf1Pulses, sCf1Pulses) := takePulses m.sCf1Pulses
  let m := { m with sCfPulses := sCfPulses, sCf1Pulses := sCf1Pulses }
  if windowMs ≤ 0 then
    (m, [])
  else
    let cfCountsPerSec := countsPerSec cfPulses windowMs
    let (m, calls) := m.protect cfg relayIsOn cfCountsPerSec
    let m := (m.pushCf cfCountsPerSec).pushCf1 (countsPerSec cf1Pulses windowMs)
    (m, calls ++ [.powerMeasurementUpdate m.sLastActivePowerMw m.sLastRmsVoltageMv
      m.sLastRmsCurrentMa])

end Meter

/-! ## the calls on the switching state -/

namespace Plug

/-- Performs one call of `MeterPoll` on the switching state; relay writes succeed. -/
def perform (p : Plug) : MeterCall → Plug
  | .relaySet on => p.relaySet 0 on
  | .updateClusterState => p.updateClusterState
  | .powerMeasurementUpdate _ _ _ => p

/-- Performs the calls of one `MeterPoll` in order. -/
def performAll (p : Plug) (calls : List MeterCall) : Plug := calls.foldl perform p

/-- What `CheckOverPower` does to the switching state when it trips. -/
def overPowerTrip (p : Plug) : Plug := p.performAll Meter.tripCalls

/-- A trip opens the relay and schedules the report. -/
theorem overPowerTrip_eq (p : Plug) :
    p.overPowerTrip = (p.relaySet 0 false).updateClusterState := rfl

end Plug

end UascentPlug

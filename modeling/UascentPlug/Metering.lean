import UascentPlug.Bl0937.Settling
import UascentPlug.PowerMeasurement

/-!
# UascentPlug.Metering

The driver together with the measurement module it publishes into.  A
`MeteringPoll` is one call of `MeterPoll` with all it reads on the way: the
counters, the relay, and what the call of `PowerMeasurementUpdate` it may make
reads in its turn.  The output of a poll is that call's arguments and what the
call did, so a run's output is the list of its publications.
-/

namespace UascentPlug

/-- One call of `MeterPoll`; `updateMs` is the uptime `PowerMeasurementUpdate`
reads, a little after that of the poll. -/
structure MeteringPoll where
  poll : Poll
  relayIsOn : Bool := false
  updateMs : Int
  fabricCount : Nat := 1
  putErr : ChipError := .noError
  deriving DecidableEq

/-- A call of `PowerMeasurementUpdate` and its effects. -/
structure Publication where
  sample : Sample
  effects : List Effect
  deriving DecidableEq

structure Metering where
  meter : Meter
  pm : PowerMeasurement

namespace MeteringPoll

/-- The poll as the driver sees it. -/
def meterPoll (i : MeteringPoll) : Poll × Bool := (i.poll, i.relayIsOn)

/-- The call of `PowerMeasurementUpdate` with these readings. -/
def sample (i : MeteringPoll) (activePowerMw rmsVoltageMv rmsCurrentMa : Int) : Sample :=
  { activePowerMw := activePowerMw
    rmsVoltageMv := rmsVoltageMv
    rmsCurrentMa := rmsCurrentMa
    nowMs := i.updateMs
    fabricCount := i.fabricCount
    putErr := i.putErr }

end MeteringPoll

/-- Performs the calls of one `MeterPoll` on the measurement module. -/
def publish (i : MeteringPoll) (pm : PowerMeasurement) :
    List MeterCall → PowerMeasurement × List Publication
  | [] => (pm, [])
  | .powerMeasurementUpdate power voltage current :: calls =>
      let u := i.sample power voltage current
      let r := pm.powerMeasurementUpdate u
      let rest := publish i r.1 calls
      (rest.1, { sample := u, effects := r.2 } :: rest.2)
  | _ :: calls => publish i pm calls

def metering (cfg : Option OverPowerConfig) : Mealy Metering MeteringPoll Publication where
  step s i :=
    let r := (meterMachine cfg).step s.meter i.meterPoll
    let published := publish i s.pm r.2
    ({ meter := r.1, pm := published.1 }, published.2)

namespace Metering

/-- Both modules initialised, the driver in state `m`. -/
def start (m : Meter) (endpoint : UInt16) (answers : InitAnswers) : Metering :=
  { meter := m, pm := (({} : PowerMeasurement).powerMeasurementInit endpoint answers).1 }

/-- The poll is not discarded. -/
def validPoll (s : Metering) (i : MeteringPoll) : Bool := s.meter.validPoll i.meterPoll

/-- What the poll publishes, if it is valid. -/
def published (cfg : Option OverPowerConfig) (s : Metering) (i : MeteringPoll) : Sample :=
  let m := ((meterMachine cfg).step s.meter i.meterPoll).1
  i.sample m.sLastActivePowerMw m.sLastRmsVoltageMv m.sLastRmsCurrentMa

/-! ## what a poll does -/

variable {cfg : Option OverPowerConfig}

/-- The over-power step publishes nothing. -/
theorem publish_protect (i : MeteringPoll) (pm : PowerMeasurement) (relayIsOn : Bool)
    (rate : UInt32) (m : Meter) (calls : List MeterCall) :
    publish i pm ((m.protect cfg relayIsOn rate).2 ++ calls) = publish i pm calls := by
  obtain hnone | htrip := Meter.protect_calls cfg relayIsOn rate m
  · rw [hnone]
    rfl
  · rw [htrip]
    rfl

/-- **A discarded poll** publishes nothing and leaves the readings alone. -/
theorem step_of_not_valid {s : Metering} {i : MeteringPoll} (h : s.validPoll i = false) :
    (metering cfg).step s i =
      ({ meter := { s.meter with sLastPollMs := i.poll.nowMs, sCfPulses := 0, sCf1Pulses := 0 }
         pm := s.pm }, []) := by
  rw [validPoll, Meter.validPoll_eq, Option.isSome_eq_false_iff, Option.isNone_iff_eq_none] at h
  have hpoll : (meterMachine cfg).step s.meter i.meterPoll = _ :=
    Meter.poll_of_window_none s.meter.stampIs_stamp h cfg i.relayIsOn
  simp only [metering]
  rw [hpoll]
  rfl

/-- **A valid poll** calls `PowerMeasurementUpdate` once, with the readings it
leaves behind. -/
theorem step_of_valid {s : Metering} {i : MeteringPoll} (h : s.validPoll i = true) :
    (metering cfg).step s i =
      let r := s.pm.powerMeasurementUpdate (s.published cfg i)
      ({ meter := ((meterMachine cfg).step s.meter i.meterPoll).1
         pm := r.1 }, [{ sample := s.published cfg i, effects := r.2 }]) := by
  rw [validPoll, Meter.validPoll_eq] at h
  obtain ⟨w, hw⟩ := Option.isSome_iff_exists.mp h
  have hpoll : (meterMachine cfg).step s.meter i.meterPoll = _ :=
    Meter.poll_of_window_some s.meter.stampIs_stamp hw cfg i.relayIsOn
  simp only [metering, published]
  rw [hpoll]
  simp only [publish_protect]
  rfl

/-- A successful initialisation leaves null attributes, nothing reported and
nothing to integrate from. -/
theorem pm_start {endpoint : UInt16} {answers : InitAnswers} (m : Meter)
    (hok : (({} : PowerMeasurement).powerMeasurementInit endpoint answers).2 = .noError) :
    (start m endpoint answers).pm.sDelegate = some {} ∧
      (start m endpoint answers).pm.sEndpoint = endpoint ∧
      (start m endpoint answers).pm.sHaveReported = false ∧
      (start m endpoint answers).pm.sHaveLastSample = false := by
  unfold start
  unfold PowerMeasurement.powerMeasurementInit PowerMeasurement.loadCumulativeEnergy at *
  by_cases hinstance : answers.instanceErr = .noError
  · by_cases hattr : answers.attrAccessErr = .noError
    · by_cases haccuracy : answers.accuracyErr = .noError
      · simp only [hinstance, hattr, haccuracy, ne_eq, not_true, if_false]
        split <;> exact ⟨rfl, rfl, rfl, rfl⟩
      · simp [hinstance, hattr, haccuracy] at hok
    · simp [hinstance, hattr] at hok
  · simp [hinstance] at hok

end Metering

end UascentPlug

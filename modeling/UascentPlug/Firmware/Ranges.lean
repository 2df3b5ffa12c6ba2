import UascentPlug.Firmware.Readings
import UascentPlug.Metering.Changes

/-!
# UascentPlug.Firmware.Ranges

The ranges `GetAccuracyByIndex` declares, against what is published.  Nothing
clamps a reading, so the ranges are a promise about the pulses: a boot keeps to
them exactly when the medians of its blocks do (`published_in_range_iff`).
-/

namespace UascentPlug

open SampleStream

/-- Every reading lies in the range the Accuracy attribute declares for it. -/
def Sample.InRange (u : Sample) : Prop :=
  ∀ index, ∀ spec ∈ getAccuracyByIndex index,
    spec.min ≤ u.value spec.type ∧ u.value spec.type ≤ spec.max

/-- The Accuracy attribute lists every reading once. -/
theorem accuracy_lists_each_reading (type : MeasurementType) :
    (kMeasurementSpecs.map MeasurementSpec.type).count type = 1 := by
  cases type <;> rfl

/-- In range is in each of the three declared ranges. -/
theorem Sample.inRange_iff (u : Sample) :
    u.InRange ↔ (0 ≤ u.activePowerMw ∧ u.activePowerMw ≤ 3680000) ∧
      (0 ≤ u.rmsVoltageMv ∧ u.rmsVoltageMv ≤ 300000) ∧
      0 ≤ u.rmsCurrentMa ∧ u.rmsCurrentMa ≤ 16000 := by
  have hmem : u.InRange ↔ ∀ spec ∈ kMeasurementSpecs,
      spec.min ≤ u.value spec.type ∧ u.value spec.type ≤ spec.max := by
    constructor
    · intro h spec hspec
      obtain ⟨index, hindex⟩ := List.mem_iff_getElem?.mp hspec
      exact h index spec hindex
    · exact fun h index spec hspec => h spec (List.mem_of_getElem? hspec)
  simp [hmem, kMeasurementSpecs, value]

/-- The largest rates that read within the declared ranges. -/
def maxCfRate : Nat := 2852

def maxVoltageRate : Nat := 2423

def maxCurrentRate : Nat := 1466

/-- A reading is bounded exactly when every median behind it is. -/
theorem blockReading_le_iff {k bound : Nat} {max : Int} {p : Nat → Bool} {rates : List Nat}
    (hmax : 0 ≤ max) (hbound : ∀ rate, reading k rate ≤ max ↔ rate ≤ bound) :
    blockReading k p rates ≤ max ↔ ∀ m, lastMedian p rates = some m → m ≤ bound := by
  unfold blockReading
  cases lastMedian p rates with
  | none => simpa using hmax
  | some m => simp [hbound]

/-- The readings after the windows `ws` are in range when the last medians are
within the bounds. -/
theorem inRange_of_readings {u : Sample} {ws : List Window} (h : u.readings = readingsOf ws) :
    u.InRange ↔
      (∀ m, lastMedian (fun _ => true) (ws.map Window.cfSample) = some m → m ≤ maxCfRate) ∧
      (∀ m, lastMedian evenBlock (ws.map Window.cf1Sample) = some m → m ≤ maxVoltageRate) ∧
      ∀ m, lastMedian oddBlock (ws.map Window.cf1Sample) = some m → m ≤ maxCurrentRate := by
  have hpower : u.activePowerMw = _ := congrArg Prod.fst h
  have hvoltage : u.rmsVoltageMv = _ := congrArg (fun r => r.2.1) h
  have hcurrent : u.rmsCurrentMa = _ := congrArg (fun r => r.2.2) h
  have hcf : ∀ rate, reading 775 rate ≤ 3680000 ↔ rate ≤ maxCfRate := by
    intro rate
    simp only [reading, maxCfRate]
    omega
  have hv : ∀ rate, reading 8077 rate ≤ 300000 ↔ rate ≤ maxVoltageRate := by
    intro rate
    simp only [reading, maxVoltageRate]
    omega
  have hi : ∀ rate, reading 91636 rate ≤ 16000 ↔ rate ≤ maxCurrentRate := by
    intro rate
    simp only [reading, maxCurrentRate]
    omega
  rw [u.inRange_iff, hpower, hvoltage, hcurrent]
  simp only [readingsOf, blockReading_nonneg, true_and]
  rw [blockReading_le_iff (by decide) hcf, blockReading_le_iff (by decide) hv,
    blockReading_le_iff (by decide) hi]

namespace Firmware

/-- **Published readings are in the declared ranges** for a whole boot exactly
when the median of every CF block is at most 2852 counts per second, that of
every CF1 block measured with SEL high at most 2423, and of every other CF1
block at most 1466. -/
theorem published_in_range_iff (cfg : Option OverPowerConfig) (answers : StartAnswers)
    (kvs : Option Int) (onOff : Bool) (es : List FirmwareEvent)
    (hboot : ∀ e ∈ es, e.cutsPower = false) (f : Firmware)
    (hrun : (firmware cfg).run (powerOn answers kvs onOff) es = some f) :
    (∀ p ∈ (firmware cfg).feed (published cfg) (powerOn answers kvs onOff) es, p.sample.InRange) ↔
      (∀ i m, blockMedian ((measured f.polls).map Window.cfSample) i = some m → m ≤ maxCfRate) ∧
      ∀ i m, blockMedian ((measured f.polls).map Window.cf1Sample) i = some m →
        m ≤ if evenBlock i then maxVoltageRate else maxCurrentRate := by
  have hpublished := (recorded_of_boot hboot hrun).published
  generalize (firmware cfg).feed (published cfg) (powerOn answers kvs onOff) es = ps at hpublished ⊢
  generalize measured f.polls = ws at hpublished ⊢
  have hlen : ∀ g : Window → Nat, (ws.map g).length = ws.length := fun g => List.length_map g
  have hwindows : (∀ p ∈ ps, p.sample.InRange) ↔ ∀ k < ws.length,
      (∀ m, lastMedian (fun _ => true) ((ws.map Window.cfSample).take (k + 1)) = some m →
        m ≤ maxCfRate) ∧
      (∀ m, lastMedian evenBlock ((ws.map Window.cf1Sample).take (k + 1)) = some m →
        m ≤ maxVoltageRate) ∧
      ∀ m, lastMedian oddBlock ((ws.map Window.cf1Sample).take (k + 1)) = some m →
        m ≤ maxCurrentRate := by
    simp only [← List.map_take]
    constructor
    · intro h k hk
      have hmem : readingsOf (ws.take (k + 1)) ∈ ps.map (·.sample.readings) :=
        hpublished ▸ List.mem_map_of_mem (List.mem_range.mpr hk)
      obtain ⟨p, hp, hreadings⟩ := List.mem_map.mp hmem
      exact (inRange_of_readings hreadings).mp (h p hp)
    · intro h p hp
      have hmem : p.sample.readings ∈ readingsTrace ws :=
        hpublished ▸ List.mem_map_of_mem hp
      obtain ⟨k, hk, hreadings⟩ := List.mem_map.mp hmem
      exact (inRange_of_readings hreadings.symm).mpr (h k (List.mem_range.mp hk))
  have hcf := forall_lastMedian_take_iff (fun _ => true) (· ≤ maxCfRate) (ws.map Window.cfSample)
  have hv := forall_lastMedian_take_iff evenBlock (· ≤ maxVoltageRate) (ws.map Window.cf1Sample)
  have hi := forall_lastMedian_take_iff oddBlock (· ≤ maxCurrentRate) (ws.map Window.cf1Sample)
  rw [hlen] at hcf hv hi
  simp only [hwindows, imp_and, forall_and, hcf, hv, hi, true_imp_iff]
  refine and_congr_right fun _ => ⟨fun h i m hm => ?_, fun h => ⟨fun i m heven hm => ?_,
    fun i m hodd hm => ?_⟩⟩
  · cases heven : evenBlock i with
    | true => simpa using h.1 i m heven hm
    | false => simpa using h.2 i m (by rw [Meter.oddBlock_eq_not, heven]; rfl) hm
  · simpa [heven] using h i m hm
  · rw [Meter.oddBlock_eq_not, Bool.not_eq_true'] at hodd
    simpa [hodd] using h i m hm

/-- Three pulses and the next poll, a millisecond after the one before. -/
def crowdedWindow : List FirmwareEvent := [.cfIsr, .cfIsr, .cfIsr, .elapse 1, .dispatch {}]

/-- Four polls, held up for three seconds, run back to back. -/
def crowdedPolls : List FirmwareEvent :=
  initEvents ++ [.elapse 4000, .meterPollTimer, .meterPollTimer, .meterPollTimer, .meterPollTimer,
    .dispatch {}] ++ crowdedWindow ++ crowdedWindow ++ crowdedWindow

/-- Nine pulses in three milliseconds read as 3.87 kW, beyond the declared range. -/
theorem crowded_polls_leave_range :
    ∃ f, (firmware none).run (powerOn {} none true) crowdedPolls = some f ∧
      ¬ ∀ p ∈ (firmware none).feed (published none) (powerOn {} none true) crowdedPolls,
        p.sample.InRange := by
  obtain ⟨f, hrun, hmedian⟩ :
      ∃ f, (firmware none).run (powerOn {} none true) crowdedPolls = some f ∧
        blockMedian ((measured f.polls).map Window.cfSample) 0 = some 3000 :=
    ⟨_, rfl, by decide⟩
  refine ⟨f, hrun, fun h => ?_⟩
  have hrange := (published_in_range_iff none {} none true crowdedPolls (by decide) f hrun).mp h
  exact absurd (hrange.1 0 3000 hmedian) (by decide)

end Firmware

end UascentPlug

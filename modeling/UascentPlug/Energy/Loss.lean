import Mathlib.Algebra.Order.Field.Rat
import Mathlib.Data.List.Induction
import Mathlib.Data.Rat.Cast.Order
import Mathlib.Tactic.Linarith
import UascentPlug.Energy.Int64

/-!
# UascentPlug.Energy.Loss

What a power cut can cost.  The total that is not saved yet cannot exceed what
the largest power of the boot could have drawn since the last write, and a
write is only put off while too little has accumulated or too little time has
passed (`Unsaved`).
-/

namespace UascentPlug

open PowerMeasurement

/-- A call with at most `maxMw`, whose `Put` would succeed. -/
def Device.Draws (maxMw : Int) (d : Device) : DeviceEvent → Prop
  | .update u => d.Accepts (.update u) ∧ u.activePowerMw ≤ maxMw ∧ u.putErr = .noError
  | _ => False

/-- The uptime of the last write of a boot, 0 if there is none yet. -/
def lastWriteMs (os : List (Int × Effect)) : Int := (putTimes os).getLast?.getD 0

/-- The total that a power cut at this moment would lose. -/
def Device.lostMwh (d : Device) : Int := d.pm.sCumulativeEnergyMwh - d.restoredMwh

/-- The last write is that of the later effects, if they have one. -/
theorem lastWriteMs_append (os os' : List (Int × Effect)) :
    lastWriteMs (os ++ os') = (putTimes os').getLast?.getD (lastWriteMs os) := by
  rw [lastWriteMs, putTimes_append, List.getLast?_append]
  cases (putTimes os').getLast? with
  | none => rfl
  | some nowMs => rfl

/-! ## energy is power times time -/

/-- A call adds no more than the largest power could draw since the last one. -/
theorem energyMwh_le {last p maxMw elapsedMs : Int} (hlast : 0 ≤ last) (hp : 0 ≤ p)
    (hlastMax : last ≤ maxMw) (hpMax : p ≤ maxMw) (helapsed : 0 ≤ elapsedMs) :
    3600000 * energyMwh last p elapsedMs ≤ maxMw * elapsedMs := by
  have hpower : (last + p).tdiv 2 = (last + p) / 2 := Int.tdiv_eq_ediv_of_nonneg (by omega)
  have havg : (last + p) / 2 ≤ maxMw := by omega
  have hnonneg : 0 ≤ (last + p) / 2 * elapsedMs := Int.mul_nonneg (by omega) helapsed
  have henergy : energyMwh last p elapsedMs = (last + p) / 2 * elapsedMs / 3600000 := by
    rw [energyMwh, hpower]
    exact Int.tdiv_eq_ediv_of_nonneg hnonneg
  calc
    3600000 * energyMwh last p elapsedMs ≤ (last + p) / 2 * elapsedMs := by
      rw [henergy]
      omega
    _ ≤ maxMw * elapsedMs := Int.mul_le_mul_of_nonneg_right havg helapsed

/-! ## the invariant of a boot -/

/-- A boot whose last write was at `writeMs`, after calls of at most `maxMw`. -/
structure Unsaved (maxMw : Int) (d : Device) (writeMs : Int) : Prop where
  sane : d.Sane
  delegate : d.pm.sDelegate.isSome = true
  persisted : d.pm.sLastPersistedEnergyMwh = d.restoredMwh
  written : d.pm.sLastPersistMs = writeMs
  past : writeMs ≤ d.uptimeMs
  unprimed : d.pm.sHaveLastSample = false →
    d.pm.sCumulativeEnergyMwh = d.pm.sLastPersistedEnergyMwh
  primed : d.pm.sHaveLastSample = true →
    d.pm.sLastSampleMs = d.uptimeMs ∧ d.pm.sLastActivePowerMw ≤ maxMw
  /-- What is unsaved was drawn since the last write. -/
  drawn : 3600000 * (d.pm.sCumulativeEnergyMwh - d.pm.sLastPersistedEnergyMwh) ≤
    maxMw * (d.uptimeMs - writeMs)
  /-- A write is only put off for a reason. -/
  early : 0 < d.pm.sCumulativeEnergyMwh - d.pm.sLastPersistedEnergyMwh →
    d.uptimeMs - writeMs < kEnergyPersistMaxIntervalMs
  little : kEnergyPersistThresholdMwh ≤
      d.pm.sCumulativeEnergyMwh - d.pm.sLastPersistedEnergyMwh →
    d.uptimeMs - writeMs < kEnergyPersistMinIntervalMs

/-- A boot has nothing unsaved. -/
theorem unsaved_boot (maxMw : Int) (d : Device) :
    Unsaved maxMw (device.step d (.boot .noError)).1 0 := by
  have hsane := Device.sane_boot d .noError
  simp only [device, booted_eq] at hsane ⊢
  exact {
    sane := hsane
    delegate := rfl
    persisted := rfl
    written := rfl
    past := le_refl _
    unprimed := fun _ => rfl
    primed := fun hprimed => absurd hprimed Bool.false_ne_true
    drawn := by simp
    early := by simp
    little := by simp [kEnergyPersistThresholdMwh] }

/-- A positive stored total is restored. -/
theorem restoredMwh_some {d : Device} {mwh : Int} (hkvs : d.kvs = some mwh) (hpos : 0 < mwh) :
    d.restoredMwh = mwh := by
  rw [Device.restoredMwh, hkvs, loadedMwh_eq]
  exact if_pos ⟨rfl, hpos⟩

namespace Unsaved

variable {maxMw : Int} {d : Device} {writeMs : Int}

/-- What a call adds to the unsaved total was drawn during it. -/
theorem drawn_totalMwh (h : Unsaved maxMw d writeMs) {u : Sample}
    (hok : d.Draws maxMw (.update u)) :
    3600000 * (d.pm.totalMwh u - d.pm.sLastPersistedEnergyMwh) ≤ maxMw * (u.nowMs - writeMs) := by
  obtain ⟨⟨hp, htime⟩, hpMax, -⟩ := hok
  have hmax : 0 ≤ maxMw := hp.trans hpMax
  cases hprimed : d.pm.sHaveLastSample with
  | false =>
      have htotal : d.pm.totalMwh u = d.pm.sLastPersistedEnergyMwh := by
        rw [totalMwh, stepMwh, hprimed, h.unprimed hprimed]
        simp
      have hpast := h.past
      rw [htotal, Int.sub_self, Int.mul_zero]
      exact Int.mul_nonneg hmax (by omega)
  | true =>
      obtain ⟨hclock, hlastMax⟩ := h.primed hprimed
      have hdrawn := h.drawn
      have helapsed : 0 ≤ u.nowMs - d.uptimeMs := by omega
      have hstep := energyMwh_le h.sane.power hp hlastMax hpMax helapsed
      rw [totalMwh, stepMwh, if_pos hprimed, hclock]
      linarith

/-- A call that puts the write off has a reason: nothing to write, or it is early. -/
theorem early_of_not_putDue (h : Unsaved maxMw d writeMs) {u : Sample} (hdue : ¬ d.pm.PutDue u)
    (hdelta : 0 < d.pm.totalMwh u - d.pm.sLastPersistedEnergyMwh) :
    u.nowMs - writeMs < kEnergyPersistMaxIntervalMs ∧
      (kEnergyPersistThresholdMwh ≤ d.pm.totalMwh u - d.pm.sLastPersistedEnergyMwh →
        u.nowMs - writeMs < kEnergyPersistMinIntervalMs) := by
  cases hprimed : d.pm.sHaveLastSample with
  | false =>
      have hunprimed := h.unprimed hprimed
      rw [totalMwh, stepMwh, hprimed, hunprimed] at hdelta
      simp at hdelta
  | true =>
      rw [PutDue, h.written] at hdue
      refine ⟨?_, fun hthreshold => ?_⟩
      · by_contra hlate
        exact hdue ⟨hprimed, hdelta, Or.inr (by omega)⟩
      · by_contra hlate
        exact hdue ⟨hprimed, hdelta, Or.inl ⟨hthreshold, by omega⟩⟩

/-- **Step lemma**: a call either writes the total or had a reason not to. -/
theorem update (h : Unsaved maxMw d writeMs) {u : Sample} (hok : d.Draws maxMw (.update u)) :
    Unsaved maxMw (device.step d (.update u)).1
      ((putTimes (device.step d (.update u)).2).getLast?.getD writeMs) := by
  have hdrawn := h.drawn_totalMwh hok
  have hupdated := updated u h.delegate
  have hkvs := kvs_update h.delegate u
  have hput := putTimes_update h.delegate u
  have hsane := h.sane.update hok.1
  have huptime : (device.step d (.update u)).1.uptimeMs = u.nowMs := rfl
  have hpm : (device.step d (.update u)).1.pm = (d.pm.powerMeasurementUpdate u).1 := rfl
  generalize (device.step d (.update u)).1 = d' at *
  rw [← hpm] at hupdated
  have hpersisted' := hupdated.persisted
  have hwritten' := hupdated.persistMs
  have htotal' := hupdated.total
  have hprimed' := hupdated.primed
  have hlast' : d'.pm.sLastSampleMs = d'.uptimeMs ∧ d'.pm.sLastActivePowerMw ≤ maxMw :=
    ⟨hupdated.clock.trans huptime.symm, hupdated.power.trans_le hok.2.1⟩
  by_cases hdue : d.pm.PutDue u
  · -- the total is written now
    have hdone : d.pm.PutDue u ∧ u.putErr = .noError := ⟨hdue, hok.2.2⟩
    rw [if_pos hdone] at hkvs hpersisted' hwritten'
    rw [hput, if_pos hdue, List.getLast?_singleton, Option.getD_some]
    have hpos : 0 < d.pm.totalMwh u := by
      have hdelta := hdue.2.1
      have hnonneg := h.sane.persisted
      omega
    have hnothing : d'.pm.sCumulativeEnergyMwh - d'.pm.sLastPersistedEnergyMwh = 0 := by
      rw [htotal', hpersisted', Int.sub_self]
    exact {
      sane := hsane
      delegate := hupdated.delegate
      persisted := hpersisted'.trans (restoredMwh_some hkvs hpos).symm
      written := hwritten'
      past := huptime.ge
      unprimed := fun hnot => absurd hprimed' (by rw [hnot]; decide)
      primed := fun _ => hlast'
      drawn := by rw [hnothing, huptime, Int.sub_self, Int.mul_zero, Int.mul_zero]
      early := fun hdelta => absurd hdelta (by omega)
      little := fun hdelta => absurd hdelta (by rw [hnothing]; decide) }
  · -- it is put off
    have hnot : ¬ (d.pm.PutDue u ∧ u.putErr = .noError) := fun hdone => hdue hdone.1
    rw [if_neg hnot] at hkvs hpersisted' hwritten'
    rw [hput, if_neg hdue, List.getLast?_nil, Option.getD_none]
    have hrestored : d'.restoredMwh = d.restoredMwh := by
      rw [Device.restoredMwh, hkvs]
      rfl
    have hpast := h.past
    have htime := hok.1.2
    have hreason := h.early_of_not_putDue hdue
    rw [← htotal', ← hpersisted', ← huptime] at hreason hdrawn
    exact {
      sane := hsane
      delegate := hupdated.delegate
      persisted := hpersisted'.trans (h.persisted.trans hrestored.symm)
      written := hwritten'.trans h.written
      past := by omega
      unprimed := fun hno => absurd hprimed' (by rw [hno]; decide)
      primed := fun _ => hlast'
      drawn := hdrawn
      early := fun hdelta => (hreason hdelta).1
      little := fun hthreshold => (hreason (by
        rw [kEnergyPersistThresholdMwh] at hthreshold
        omega)).2 hthreshold }

end Unsaved

/-- **Run lemma**: the invariant holds after every call of a boot. -/
theorem unsaved_of_run {maxMw : Int} (d : Device) {es : List DeviceEvent}
    (hok : device.Admits (Device.Draws maxMw) (device.step d (.boot .noError)).1 es) :
    Unsaved maxMw (device.exec (device.step d (.boot .noError)).1 es)
      (lastWriteMs (device.trace (device.step d (.boot .noError)).1 es)) := by
  induction es using List.reverseRecOn with
  | nil => exact unsaved_boot maxMw d
  | append_singleton es e ih =>
      rw [Mealy.admits_append] at hok
      have hprev := ih hok.1
      have hlast := hok.2.1
      cases e with
      | update u =>
          rw [Mealy.exec_append, Mealy.trace_append, lastWriteMs_append, Mealy.trace_cons,
            Mealy.trace_nil, List.append_nil]
          exact hprev.update hlast
      | cut u done => exact absurd hlast id
      | boot readErr => exact absurd hlast id

/-! ## the documented bound -/

/-- What is stored is never ahead of the total. -/
theorem Unsaved.lostMwh_nonneg {maxMw writeMs : Int} {d : Device} (h : Unsaved maxMw d writeMs) :
    0 ≤ d.lostMwh := by
  have htotal := h.sane.total
  rw [h.persisted] at htotal
  rw [Device.lostMwh]
  omega

/-- And never behind by as much as the documented bound. -/
theorem Unsaved.lostMwh_lt {maxMw writeMs : Int} {d : Device} (h : Unsaved maxMw d writeMs) :
    (d.lostMwh : ℚ) <
      max (kEnergyPersistThresholdMwh : ℚ) (maxMw * kEnergyPersistMinIntervalMs / 3600000) := by
  have hdrawn := h.drawn
  have hlittle := h.little
  rw [h.persisted] at hdrawn hlittle
  by_cases hsmall : d.lostMwh < kEnergyPersistThresholdMwh
  · exact lt_max_of_lt_left (by exact_mod_cast hsmall)
  · have hlost : d.pm.sCumulativeEnergyMwh - d.restoredMwh = d.lostMwh := rfl
    rw [hlost] at hdrawn hlittle
    have hrecent := hlittle (by omega)
    have hpast := h.past
    have hpositive : 0 < maxMw := by
      by_contra hnot
      have hnone : maxMw * (d.uptimeMs - writeMs) ≤ 0 :=
        Int.mul_nonpos_of_nonpos_of_nonneg (by omega) (by omega)
      rw [kEnergyPersistThresholdMwh] at hsmall
      omega
    have hint : 3600000 * d.lostMwh < maxMw * kEnergyPersistMinIntervalMs :=
      hdrawn.trans_lt (Int.mul_lt_mul_of_pos_left hrecent hpositive)
    have hq : (3600000 : ℚ) * d.lostMwh < maxMw * kEnergyPersistMinIntervalMs := by
      exact_mod_cast hint
    apply lt_max_of_lt_right
    rw [lt_div_iff₀ (by norm_num)]
    linarith

/-- **A power cut loses what is documented** on the machine, as long as its
arithmetic is exact: after every call of a boot, the total a reboot would
restore is behind by less than the larger of the threshold and the energy of
the minimum interval at the largest power, it is behind only within the maximum
interval since the last write, and the next boot resumes from it. -/
theorem power_cut_loss_is_bounded (d : Device) (maxMw : Int) {es : List DeviceEvent}
    (hok : device64.Admits (fun d e => d.Draws maxMw e ∧ d.Exact e)
      (device64.step d (.boot .noError)).1 es) :
    let booted := (device64.step d (.boot .noError)).1
    let d' := device64.exec booted es
    0 ≤ d'.lostMwh ∧
      (d'.lostMwh : ℚ) <
        max (kEnergyPersistThresholdMwh : ℚ) (maxMw * kEnergyPersistMinIntervalMs / 3600000) ∧
      (0 < d'.lostMwh →
        d'.uptimeMs - lastWriteMs (device64.trace booted es) < kEnergyPersistMaxIntervalMs) ∧
      (device64.step d' (.boot .noError)).1.pm.sCumulativeEnergyMwh = d'.restoredMwh := by
  intro booted d'
  have hagree : ∀ d e, d.Draws maxMw e ∧ d.Exact e → device64.step d e = device.step d e :=
    fun _ _ h => device64_step h.2
  have hexec : d' = device.exec booted es := Mealy.exec_congr hagree hok
  have htrace : device64.trace booted es = device.trace booted es := Mealy.trace_congr hagree hok
  have hrun : Unsaved maxMw d' (lastWriteMs (device64.trace booted es)) := by
    rw [hexec, htrace]
    exact unsaved_of_run d ((Mealy.admits_congr hagree hok).imp device fun _ _ h => h.1)
  refine ⟨hrun.lostMwh_nonneg, hrun.lostMwh_lt, fun hlost => ?_, rfl⟩
  have hearly := hrun.early
  rw [hrun.persisted] at hearly
  exact hearly hlost

/-- A kettle at the 10 A rating: an hour's draw is written, and the minute after
it is not yet. -/
theorem kettle_loss_is_bounded :
    let booted := (device64.step (.off (some 5000)) (.boot .noError)).1
    let es : List DeviceEvent := [.update { activePowerMw := 2300000, nowMs := 10000 },
      .update { activePowerMw := 2300000, nowMs := 3610000 },
      .update { activePowerMw := 2300000, nowMs := 3670000 }]
    let d' := device64.exec booted es
    0 ≤ d'.lostMwh ∧
      (d'.lostMwh : ℚ) < max (kEnergyPersistThresholdMwh : ℚ)
        ((2300000 : Int) * kEnergyPersistMinIntervalMs / 3600000) ∧
      (0 < d'.lostMwh →
        d'.uptimeMs - lastWriteMs (device64.trace booted es) < kEnergyPersistMaxIntervalMs) ∧
      (device64.step d' (.boot .noError)).1.pm.sCumulativeEnergyMwh = d'.restoredMwh :=
  power_cut_loss_is_bounded (.off (some 5000)) 2300000
    ⟨⟨⟨by decide, by decide, rfl⟩, by decide⟩, ⟨⟨by decide, by decide, rfl⟩, by decide⟩,
      ⟨⟨by decide, by decide, rfl⟩, by decide⟩, trivial⟩

/-- At the declared maximum, with 95 years between two calls, power times time
does not fit: the total wraps below what is stored. -/
theorem unsampled_century_wraps :
    let booted := (device64.step (.off none) (.boot .noError)).1
    let es : List DeviceEvent := [.update { activePowerMw := 3680000, nowMs := 0 },
      .update { activePowerMw := 3680000, nowMs := 3000000000000 }]
    device64.Admits (Device.Draws 3680000) booted es ∧
      (device64.exec booted es).lostMwh = -2057428909363 := by
  refine ⟨⟨⟨by decide, by decide, rfl⟩, ⟨by decide, by decide, rfl⟩, trivial⟩, ?_⟩
  decide

end UascentPlug

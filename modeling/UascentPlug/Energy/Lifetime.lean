import UascentPlug.Energy.Loss
import UascentPlug.Energy.Store
import UascentPlug.Lib.Ledger

/-!
# UascentPlug.Energy.Lifetime

The energy total over the life of a plug as a ledger.  Calls book what they
integrate; a power cut, in the middle of a call or between two, takes back what
was not written yet, and a boot goes on from what is left.  What one boot can
have unwritten (`UascentPlug.Energy.Loss`) is then what one power cut can cost.
-/

namespace UascentPlug

open PowerMeasurement

/-- A `Put` that went through. -/
def Effect.isStored : Effect → Bool
  | .put _ .noError => true
  | _ => false

namespace Device

/-- The total the plug goes on from: the running one, or without power the
stored one. -/
def knownMwh (d : Device) : Int :=
  if d.pm.sDelegate.isSome then d.pm.sCumulativeEnergyMwh else d.restoredMwh

/-- The energy an event books: a call cut short does if its `Put` went through. -/
def bookedMwh (d : Device) : DeviceEvent → Int
  | .update u => d.pm.stepMwh u
  | .cut u done =>
      if ((d.pm.powerMeasurementUpdate u).2.take done).any Effect.isStored then d.pm.stepMwh u
      else 0
  | .boot _ => 0

/-- The plug loses power while it measures. -/
def losesPower (d : Device) : DeviceEvent → Bool
  | .update _ => false
  | .cut _ _ | .boot _ => d.pm.sDelegate.isSome

/-- Powers up to `maxMw`, uptime not running backwards, and a store that works. -/
def Serves (maxMw : Int) (d : Device) : DeviceEvent → Prop
  | .update u | .cut u _ => d.Accepts (.update u) ∧ u.activePowerMw ≤ maxMw ∧ u.putErr = .noError
  | .boot readErr => readErr = .noError

/-- Without power, or in a boot that has written what is due. -/
def Kept (maxMw : Int) (d : Device) : Prop := d.pm = {} ∨ ∃ writeMs, Unsaved maxMw d writeMs

/-- What one power cut can cost, in mWh. -/
def costMwh (maxMw : Int) : ℚ :=
  max (kEnergyPersistThresholdMwh : ℚ) (maxMw * kEnergyPersistMinIntervalMs / 3600000)

/-- A power cut can always cost something. -/
theorem costMwh_pos (maxMw : Int) : 0 < costMwh maxMw :=
  lt_max_of_lt_left (by norm_num [kEnergyPersistThresholdMwh])

instance (maxMw : Int) (d : Device) : (e : DeviceEvent) → Decidable (d.Serves maxMw e)
  | .update _ | .cut _ _ => inferInstanceAs (Decidable (_ ∧ _ ∧ _))
  | .boot readErr => inferInstanceAs (Decidable (readErr = .noError))

/-! ## what an event does to the ledger -/

/-- After effects that carry a total, the store holds that total or is as before. -/
theorem foldl_store_of_carries {total : Int} {effects : List Effect}
    (hcarry : ∀ e ∈ effects, e.Carries total) (kvs : Option Int) :
    effects.foldl store kvs = if effects.any Effect.isStored then some total else kvs := by
  induction effects generalizing kvs with
  | nil => rfl
  | cons e effects ih =>
      rw [List.foldl_cons, ih (fun e' he' => hcarry e' (List.mem_cons_of_mem e he')), List.any_cons]
      cases e with
      | put mwh err =>
          obtain rfl : mwh = total := hcarry _ List.mem_cons_self
          cases err with
          | noError => simp [store, Effect.isStored]
          | persistedStorageValueNotFound => simp [store, Effect.isStored]
          | other => simp [store, Effect.isStored]
      | attributeChanged endpoint attributeId => simp [store, Effect.isStored]
      | notifyCumulativeEnergyMeasured endpoint mwh => simp [store, Effect.isStored]

/-- The total as a ledger: what an event does to it, what is booked counted in. -/
def Books (maxMw : Int) (d : Device) (e : DeviceEvent) : Prop :=
  device.Books (fun d => (d.knownMwh : ℚ)) (fun d e => (d.bookedMwh e : ℚ)) losesPower
    (costMwh maxMw) d e

/-- An event that loses nothing. -/
theorem books_of_eq {maxMw : Int} {d : Device} {e : DeviceEvent}
    (h : (device.step d e).1.knownMwh = d.knownMwh + d.bookedMwh e) : d.Books maxMw e := by
  have hq : ((device.step d e).1.knownMwh : ℚ) = d.knownMwh + d.bookedMwh e := by exact_mod_cast h
  exact ⟨hq.le, fun _ => hq, fun _ => by rw [← hq]; exact lt_add_of_pos_right _ (costMwh_pos maxMw)⟩

/-- An event that books nothing and falls back to the stored total. -/
theorem books_of_lost {maxMw writeMs : Int} {d : Device} {e : DeviceEvent}
    (h : Unsaved maxMw d writeMs) (hloses : d.losesPower e = true) (hbooked : d.bookedMwh e = 0)
    (hknown : (device.step d e).1.knownMwh = d.restoredMwh) : d.Books maxMw e := by
  have hlost : d.knownMwh = d.restoredMwh + d.lostMwh := by
    rw [knownMwh, if_pos h.delegate, lostMwh]
    omega
  have hq : (d.knownMwh : ℚ) + d.bookedMwh e = (device.step d e).1.knownMwh + d.lostMwh := by
    rw [hbooked, hknown, hlost]
    push_cast
    rw [add_zero]
  have hnonneg : (0 : ℚ) ≤ d.lostMwh := by exact_mod_cast h.lostMwh_nonneg
  refine ⟨?_, fun hkeeps => absurd hloses (by rw [hkeeps]; decide), fun _ => ?_⟩
  · simp only [hq]
    linarith
  · simp only [hq]
    exact add_lt_add_right h.lostMwh_lt _

/-- A boot knows of what it restores. -/
theorem knownMwh_boot (d : Device) :
    (device.step d (.boot .noError)).1.knownMwh = d.restoredMwh := by
  simp [device, knownMwh, booted_eq, restoredMwh]

/-- Without power nothing is booked and nothing is lost. -/
theorem books_unpowered {maxMw : Int} {d : Device} (h : d.pm = {}) {e : DeviceEvent}
    (hok : d.Serves maxMw e) : Kept maxMw (device.step d e).1 ∧ d.Books maxMw e := by
  obtain ⟨pm, kvs, uptimeMs⟩ := d
  obtain rfl : pm = {} := h
  cases e with
  | update u => exact ⟨Or.inl rfl, books_of_eq (Int.add_zero _).symm⟩
  | cut u done =>
      refine ⟨Or.inl rfl, books_of_eq ?_⟩
      have hnothing : (({} : PowerMeasurement).powerMeasurementUpdate u).2 = [] := rfl
      simp [device, bookedMwh, hnothing, knownMwh, restoredMwh, off]
  | boot readErr =>
      obtain rfl : readErr = .noError := hok
      refine ⟨Or.inr ⟨0, unsaved_boot maxMw _⟩, books_of_eq ?_⟩
      rw [knownMwh_boot]
      exact (Int.add_zero _).symm

/-- **Step lemma**: in a boot a call books what it adds, and only losing power
costs something. -/
theorem books_powered {maxMw writeMs : Int} {d : Device} (h : Unsaved maxMw d writeMs)
    {e : DeviceEvent} (hok : d.Serves maxMw e) :
    Kept maxMw (device.step d e).1 ∧ d.Books maxMw e := by
  cases e with
  | update u =>
      have hupdated := updated u h.delegate
      refine ⟨Or.inr ⟨_, h.update hok⟩, books_of_eq ?_⟩
      simp only [knownMwh, h.delegate, if_true, device, hupdated.delegate, hupdated.total, totalMwh,
        bookedMwh]
  | cut u done =>
      have hcarry : ∀ e ∈ (d.pm.powerMeasurementUpdate u).2.take done,
          e.Carries (d.pm.totalMwh u) :=
        fun e he => effects_carry u d.pm e (List.mem_of_mem_take he)
      have hstore := foldl_store_of_carries hcarry d.kvs
      refine ⟨Or.inl rfl, ?_⟩
      cases hstored : ((d.pm.powerMeasurementUpdate u).2.take done).any Effect.isStored with
      | true =>
          rw [hstored, if_pos rfl] at hstore
          have hgrow := h.sane.totalMwh_le hok.1.1 hok.1.2
          have hpos : 0 < d.pm.totalMwh u := by
            obtain ⟨e, he, hput⟩ := List.any_eq_true.mp hstored
            cases e with
            | put mwh err =>
                have hone := one_le_of_put h.sane.persisted (List.mem_of_mem_take he)
                have hmwh : mwh = d.pm.totalMwh u := hcarry _ he
                omega
            | attributeChanged endpoint attributeId => contradiction
            | notifyCumulativeEnergyMeasured endpoint mwh => contradiction
          have hrestored : (device.step d (.cut u done)).1.restoredMwh = d.pm.totalMwh u :=
            restoredMwh_some hstore hpos
          apply books_of_eq
          simp only [knownMwh, h.delegate, if_true, bookedMwh, hstored]
          exact hrestored.trans rfl
      | false =>
          rw [hstored, if_neg Bool.false_ne_true] at hstore
          apply books_of_lost (e := .cut u done) h h.delegate (by simp [bookedMwh, hstored])
          exact congrArg (fun kvs => loadedMwh (kvsGet .noError kvs)) hstore
  | boot readErr =>
      obtain rfl : readErr = .noError := hok
      exact ⟨Or.inr ⟨0, unsaved_boot maxMw d⟩, books_of_lost h h.delegate rfl (knownMwh_boot d)⟩

/-- **Step lemma**: an event keeps the bound of a boot and books what the ledger
says. -/
theorem Kept.step {maxMw : Int} {d : Device} (h : Kept maxMw d) {e : DeviceEvent}
    (hok : d.Serves maxMw e) : Kept maxMw (device.step d e).1 ∧ d.Books maxMw e := by
  cases h with
  | inl hoff => exact books_unpowered hoff hok
  | inr hon =>
      obtain ⟨writeMs, hunsaved⟩ := hon
      exact books_powered hunsaved hok

end Device

open Device in
/-- **The energy ledger**: over any number of boots, with power cut in the middle
of calls and between them, and as long as the machine's arithmetic is exact, the
total a plug goes on from is what it started from and what was booked since,
less than `costMwh` short for each time it lost power while measuring. -/
theorem energy_ledger (kvs : Option Int) (maxMw : Int) (es : List DeviceEvent)
    (hok : device64.Admits (fun d e => d.Serves maxMw e ∧ d.Exact e) (.off kvs) es) :
    let d := device64.exec (.off kvs) es
    let booked := device64.sum (fun d e => (d.bookedMwh e : ℚ)) (.off kvs) es
    let cuts := device64.count losesPower (.off kvs) es
    (d.knownMwh : ℚ) ≤ (Device.off kvs).restoredMwh + booked ∧
      (Device.off kvs).restoredMwh + booked ≤ d.knownMwh + cuts * costMwh maxMw ∧
      (0 < cuts → (Device.off kvs).restoredMwh + booked < d.knownMwh + cuts * costMwh maxMw) := by
  intro d booked cuts
  have hagree : ∀ d e, d.Serves maxMw e ∧ d.Exact e → device64.step d e = device.step d e :=
    fun _ _ h => device64_step h.2
  have hexec : d = device.exec (.off kvs) es := Mealy.exec_congr hagree hok
  have hsum : booked = device.sum (fun d e => (d.bookedMwh e : ℚ)) (.off kvs) es :=
    Mealy.sum_congr hagree _ hok
  have hcount : cuts = device.count losesPower (.off kvs) es := Mealy.count_congr hagree _ hok
  have hserves : device.Admits (Serves maxMw) (.off kvs) es :=
    (Mealy.admits_congr hagree hok).imp device fun _ _ h => h.1
  have hledger :=
    device.ledger (P := Kept maxMw) (fun _ _ hs hok => hs.step hok) (Or.inl rfl) hserves
  simp only [nsmul_eq_mul] at hledger
  rw [hexec, hsum, hcount]
  exact hledger

/-- A kettle draws 3.6 kW for eleven minutes, the first ten of which are written;
then power is cut in the middle of a call, and comes back. -/
def cutKettle : List DeviceEvent :=
  [.boot .noError, .update { activePowerMw := 3600000, nowMs := 0 },
    .update { activePowerMw := 3600000, nowMs := 600000 },
    .update { activePowerMw := 3600000, nowMs := 660000 },
    .cut { activePowerMw := 3600000, nowMs := 661000 } 2, .boot .noError]

/-- Of the 660 Wh booked, less than 600 Wh are missing: the last minute is. -/
theorem energy_ledger_of_cut_kettle :
    (device64.exec (.off none) cutKettle).knownMwh = 600000 ∧
      ((Device.off none).restoredMwh : ℚ) +
          device64.sum (fun d e => (d.bookedMwh e : ℚ)) (.off none) cutKettle <
        (device64.exec (.off none) cutKettle).knownMwh + (1 : Nat) * Device.costMwh 3600000 :=
  ⟨by decide, (energy_ledger none 3600000 cutKettle
    ⟨⟨rfl, trivial⟩, ⟨⟨by decide, by decide, rfl⟩, by decide⟩,
      ⟨⟨by decide, by decide, rfl⟩, by decide⟩, ⟨⟨by decide, by decide, rfl⟩, by decide⟩,
      ⟨⟨by decide, by decide, rfl⟩, by decide⟩, ⟨rfl, trivial⟩, trivial⟩).2.2 (by decide)⟩

end UascentPlug

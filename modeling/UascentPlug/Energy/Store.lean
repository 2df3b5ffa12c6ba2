import UascentPlug.Energy.Int64
import UascentPlug.Lib.Checkpoint

/-!
# UascentPlug.Energy.Store

The device refines a checkpointed quantity: the running total is the live
value, the total in the key-value store its saved copy, a boot restarts from
the copy.  Totals are compared above a floor `b`, so that a store holding no
more than `b` counts as empty (`Refines`).

What is known about checkpoints then says that the stored total never goes
back, as long as no boot fails to read a total of 2 mWh or more and nothing
overflows; a boot that fails to can overwrite it by a smaller one
(`exists_smaller_put`), and so can a total that wraps.
-/

namespace UascentPlug

open PowerMeasurement

/-- The energy an effect carries is `total`. -/
def Effect.Carries (total : Int) : Effect → Prop
  | .attributeChanged _ _ => True
  | .put mwh _ => mwh = total
  | .notifyCumulativeEnergyMeasured _ mwh => mwh = total

/-- What an effect does to the checkpointed quantity. -/
def Effect.ops (b : Int) : Effect → List (Checkpoint.Op Int)
  | .put mwh .noError => [.grow (max b mwh), .save]
  | .notifyCumulativeEnergyMeasured _ mwh => [.grow (max b mwh), .report]
  | _ => []

/-- The device refines the checkpoint `c`, above the floor `b`. -/
structure Refines (b : Int) (d : Device) (c : Checkpoint Int) : Prop where
  sane : d.Sane
  saved : c.saved = max b (d.kvs.getD 0)
  live : d.pm.sDelegate.isSome = true → c.live = max b d.pm.sCumulativeEnergyMwh

/-- A boot reads the stored total, unless that does not exceed `b`. -/
def Device.ReadsAbove (b : Int) (d : Device) : DeviceEvent → Prop
  | .boot readErr => readErr = .noError ∨ d.kvs.getD 0 ≤ b
  | _ => True

/-- Runs whose boots read what they have to. -/
def Device.Reliable (b : Int) (d : Device) (e : DeviceEvent) : Prop :=
  d.Accepts e ∧ d.ReadsAbove b e

/-! ## effects -/

/-- What a call puts or reports is its total. -/
theorem effects_carry (u : Sample) (s : PowerMeasurement) :
    ∀ e ∈ (s.powerMeasurementUpdate u).2, e.Carries (s.totalMwh u) := by
  intro e he
  rcases mem_effects he with ⟨attributeId, rfl⟩ | ⟨-, rfl⟩ | ⟨-, rfl⟩
  · trivial
  · rfl
  · rfl

/-- A call that puts has something to put. -/
theorem one_le_of_put {u : Sample} {s : PowerMeasurement} (hs : 0 ≤ s.sLastPersistedEnergyMwh)
    {mwh : Int} {err : ChipError} (h : .put mwh err ∈ (s.powerMeasurementUpdate u).2) :
    1 ≤ mwh := by
  rcases mem_effects h with ⟨attributeId, he⟩ | ⟨hdue, he⟩ | ⟨-, he⟩
  · contradiction
  · have hdelta := hdue.2.1
    obtain ⟨hmwh, -⟩ := Effect.put.inj he
    omega
  · contradiction

/-- Effects leave the store alone or with what one of them put. -/
theorem foldl_store_eq (kvs : Option Int) (effects : List Effect) :
    effects.foldl store kvs = kvs ∨
      ∃ mwh, .put mwh .noError ∈ effects ∧ effects.foldl store kvs = some mwh := by
  induction effects generalizing kvs with
  | nil => exact Or.inl rfl
  | cons e effects ih =>
      rw [List.foldl_cons]
      rcases ih (store kvs e) with hkeeps | ⟨mwh, hmem, hstored⟩
      · rw [hkeeps]
        cases e with
        | put mwh err =>
            cases err with
            | noError => exact Or.inr ⟨mwh, List.mem_cons_self, rfl⟩
            | persistedStorageValueNotFound => exact Or.inl rfl
            | other => exact Or.inl rfl
        | attributeChanged endpoint attributeId => exact Or.inl rfl
        | notifyCumulativeEnergyMeasured endpoint mwh => exact Or.inl rfl
      · exact Or.inr ⟨mwh, List.mem_cons_of_mem e hmem, hstored⟩

/-- What a list of effects that all carry `total` does to the checkpoint. -/
structure EffectsRefine (b total nowMs : Int) (kvs : Option Int) (c : Checkpoint Int)
    (effects : List Effect) : Prop where
  live : (Checkpoint.machine.exec c (effects.flatMap (Effect.ops b))).live ≤ max b total
  saved : (Checkpoint.machine.exec c (effects.flatMap (Effect.ops b))).saved =
    max b ((effects.foldl store kvs).getD 0)
  reports : Checkpoint.machine.trace c (effects.flatMap (Effect.ops b)) =
    (notified (effects.map fun e => (nowMs, e))).map (max b)
  noRestart : .restart ∉ effects.flatMap (Effect.ops b)

/-- Effects that refine the checkpoint do so one after the other. -/
theorem EffectsRefine.append {b total nowMs : Int} {kvs : Option Int} {c : Checkpoint Int}
    {es fs : List Effect} (hes : EffectsRefine b total nowMs kvs c es)
    (hfs : EffectsRefine b total nowMs (es.foldl store kvs)
      (Checkpoint.machine.exec c (es.flatMap (Effect.ops b))) fs) :
    EffectsRefine b total nowMs kvs c (es ++ fs) := by
  constructor
  · rw [List.flatMap_append, Mealy.exec_append]
    exact hfs.live
  · rw [List.flatMap_append, Mealy.exec_append, List.foldl_append]
    exact hfs.saved
  · rw [List.flatMap_append, Mealy.trace_append, hes.reports, hfs.reports, List.map_append,
      notified_append, List.map_append]
  · rw [List.flatMap_append, List.mem_append, not_or]
    exact ⟨hes.noRestart, hfs.noRestart⟩

/-- One effect that carries the total does. -/
theorem effectsRefine_singleton {b total nowMs : Int} {kvs : Option Int} {c : Checkpoint Int}
    {e : Effect} (hcarry : e.Carries total) (hlive : c.live ≤ max b total)
    (hsaved : c.saved = max b (kvs.getD 0)) : EffectsRefine b total nowMs kvs c [e] := by
  have hsup : c.live ⊔ max b total = max b total := sup_eq_right.mpr hlive
  cases e with
  | attributeChanged endpoint attributeId => exact ⟨hlive, hsaved, rfl, by simp [Effect.ops]⟩
  | put mwh err =>
      obtain rfl : mwh = total := hcarry
      cases err with
      | noError => exact ⟨hsup.le, hsup, rfl, by simp [Effect.ops]⟩
      | persistedStorageValueNotFound => exact ⟨hlive, hsaved, rfl, by simp [Effect.ops]⟩
      | other => exact ⟨hlive, hsaved, rfl, by simp [Effect.ops]⟩
  | notifyCumulativeEnergyMeasured endpoint mwh =>
      obtain rfl : mwh = total := hcarry
      exact ⟨hsup.le, hsaved, congrArg (fun x => [x]) hsup, by simp [Effect.ops]⟩

/-- And so does any list of them. -/
theorem effectsRefine {b total nowMs : Int} {kvs : Option Int} {c : Checkpoint Int}
    {effects : List Effect} (hcarry : ∀ e ∈ effects, e.Carries total) (hlive : c.live ≤ max b total)
    (hsaved : c.saved = max b (kvs.getD 0)) : EffectsRefine b total nowMs kvs c effects := by
  induction effects generalizing kvs c with
  | nil => exact ⟨hlive, hsaved, rfl, by simp⟩
  | cons e effects ih =>
      have hhead : EffectsRefine b total nowMs kvs c [e] :=
        effectsRefine_singleton (hcarry e List.mem_cons_self) hlive hsaved
      have htail := ih (fun e' he' => hcarry e' (List.mem_cons_of_mem e he')) hhead.live hhead.saved
      exact hhead.append htail

/-! ## events and runs -/

/-- Above the floor a boot loads what is stored, if it can read it. -/
theorem max_loadedMwh {b : Int} (hb : 0 ≤ b) {readErr : ChipError} {kvs : Option Int}
    (h : readErr = .noError ∨ kvs.getD 0 ≤ b) :
    max b (loadedMwh (kvsGet readErr kvs)) = max b (kvs.getD 0) := by
  rw [loadedMwh_eq]
  by_cases hread : readErr = .noError
  · subst hread
    cases kvs with
    | none => simp [kvsGet]
    | some stored =>
        simp only [kvsGet, if_true, true_and, Option.getD_some]
        split <;> omega
  · have hstored : kvs.getD 0 ≤ b := h.resolve_left hread
    simp only [kvsGet, if_neg hread]
    omega

namespace Refines

variable {b : Int} {d : Device} {c : Checkpoint Int}

/-- A plug without power refines a checkpoint of what it has stored. -/
theorem off (b : Int) (kvs : Option Int) :
    Refines b (.off kvs) ⟨max b (kvs.getD 0), max b (kvs.getD 0), Int.le_refl _⟩ where
  sane := Device.sane_off kvs
  saved := rfl
  live := by
    intro hdelegate
    contradiction

/-- A boot restarts the checkpoint. -/
theorem boot (hb : 0 ≤ b) (h : Refines b d c) {readErr : ChipError}
    (hread : d.ReadsAbove b (.boot readErr)) :
    Refines b (device.step d (.boot readErr)).1 (Checkpoint.machine.exec c [.restart]) where
  sane := Device.sane_boot d readErr
  saved := h.saved
  live := by
    intro _
    exact h.saved.trans (max_loadedMwh hb hread).symm

/-- A call's effects are the checkpoint's operations. -/
theorem effects (h : Refines b d c) (hdelegate : d.pm.sDelegate.isSome = true) {u : Sample}
    (hpower : 0 ≤ u.activePowerMw) (htime : d.uptimeMs ≤ u.nowMs) {effects : List Effect}
    (hsub : ∀ e ∈ effects, e ∈ (d.pm.powerMeasurementUpdate u).2) :
    EffectsRefine b (d.pm.totalMwh u) u.nowMs d.kvs c effects := by
  have hgrow := h.sane.totalMwh_le hpower htime
  have hlive : c.live ≤ max b (d.pm.totalMwh u) := by
    rw [h.live hdelegate]
    omega
  exact effectsRefine (fun e he => effects_carry u d.pm e (hsub e he)) hlive h.saved

/-- A call grows the quantity to the new total, saving and reporting it on the
way. -/
theorem update (h : Refines b d c) {u : Sample} (hok : d.Accepts (.update u)) :
    ∃ ops, Refines b (device.step d (.update u)).1 (Checkpoint.machine.exec c ops) ∧
      Checkpoint.machine.trace c ops =
        (notified (device.step d (.update u)).2).map (max b) ∧ .restart ∉ ops := by
  have hsane := h.sane.update hok
  cases hdelegate : d.pm.sDelegate with
  | none =>
      refine ⟨[], ⟨hsane, ?_, ?_⟩, ?_, by simp⟩
      · simp only [device, powerMeasurementUpdate_of_none hdelegate]
        exact h.saved
      · simp only [device, powerMeasurementUpdate_of_none hdelegate]
        exact h.live
      · simp only [device, powerMeasurementUpdate_of_none hdelegate]
        rfl
  | some delegate =>
      have hsome : d.pm.sDelegate.isSome = true := by
        rw [hdelegate]
        rfl
      have hupdated := updated u hsome
      have heffects := h.effects hsome hok.1 hok.2 (fun e he => he)
      have hsup := sup_eq_right.mpr heffects.live
      refine ⟨(d.pm.powerMeasurementUpdate u).2.flatMap (Effect.ops b) ++
        [.grow (max b (d.pm.totalMwh u))], ⟨hsane, ?_, ?_⟩, ?_, ?_⟩
      · rw [Mealy.exec_append]
        exact heffects.saved
      · intro _
        rw [Mealy.exec_append]
        simp only [device, hupdated.total]
        exact hsup
      · rw [Mealy.trace_append, heffects.reports]
        exact List.append_nil _
      · rw [List.mem_append, not_or]
        exact ⟨heffects.noRestart, by simp⟩

/-- A power cut leaves what the effects before it have saved. -/
theorem cut (h : Refines b d c) {u : Sample} {done : Nat} (hok : d.Accepts (.cut u done)) :
    ∃ ops, Refines b (device.step d (.cut u done)).1 (Checkpoint.machine.exec c ops) ∧
      Checkpoint.machine.trace c ops =
        (notified (device.step d (.cut u done)).2).map (max b) ∧ .restart ∉ ops := by
  cases hdelegate : d.pm.sDelegate with
  | none =>
      refine ⟨[], ⟨Device.sane_off _, ?_, fun hoff => by contradiction⟩, ?_, by simp⟩
      · simp only [device, powerMeasurementUpdate_of_none hdelegate, List.take_nil]
        exact h.saved
      · simp only [device, powerMeasurementUpdate_of_none hdelegate, List.take_nil]
        rfl
  | some delegate =>
      have hsub : ∀ e ∈ (d.pm.powerMeasurementUpdate u).2.take done,
          e ∈ (d.pm.powerMeasurementUpdate u).2 := fun e he => List.mem_of_mem_take he
      have heffects := h.effects (by rw [hdelegate]; rfl) hok.1 hok.2 hsub
      exact ⟨_, ⟨Device.sane_off _, heffects.saved, fun hoff => by contradiction⟩,
        heffects.reports, heffects.noRestart⟩

/-- **Simulation, one event**: only a boot restarts the quantity. -/
theorem step (hb : 0 ≤ b) (h : Refines b d c) {e : DeviceEvent} (hok : d.Reliable b e) :
    ∃ ops, Refines b (device.step d e).1 (Checkpoint.machine.exec c ops) ∧
      Checkpoint.machine.trace c ops = (notified (device.step d e).2).map (max b) ∧
      ((∀ readErr, e ≠ .boot readErr) → .restart ∉ ops) := by
  cases e with
  | update u =>
      obtain ⟨ops, hrefines, htrace, hops⟩ := h.update hok.1
      exact ⟨ops, hrefines, htrace, fun _ => hops⟩
  | cut u done =>
      obtain ⟨ops, hrefines, htrace, hops⟩ := h.cut hok.1
      exact ⟨ops, hrefines, htrace, fun _ => hops⟩
  | boot readErr =>
      exact ⟨[.restart], h.boot hb hok.2, rfl, fun hboot => absurd rfl (hboot readErr)⟩

/-- **Simulation, whole runs.** -/
theorem exec (hb : 0 ≤ b) (h : Refines b d c) {es : List DeviceEvent}
    (hok : device.Admits (Device.Reliable b) d es) :
    ∃ ops, Refines b (device.exec d es) (Checkpoint.machine.exec c ops) ∧
      Checkpoint.machine.trace c ops = (notified (device.trace d es)).map (max b) ∧
      ((∀ readErr, .boot readErr ∉ es) → .restart ∉ ops) := by
  induction es generalizing d c with
  | nil => exact ⟨[], h, rfl, fun _ => by simp⟩
  | cons e es ih =>
      obtain ⟨ops, hstep, htrace, hops⟩ := h.step hb hok.1
      obtain ⟨ops', hrest, htrace', hops'⟩ := ih hstep hok.2
      refine ⟨ops ++ ops', ?_, ?_, fun hboot => ?_⟩
      · rw [Mealy.exec_append]
        exact hrest
      · rw [Mealy.trace_append, htrace, htrace', Mealy.trace_cons, notified_append, List.map_append]
      · rw [List.mem_append, not_or]
        constructor
        · exact hops fun readErr he => hboot readErr (he ▸ List.mem_cons_self)
        · exact hops' fun readErr he => hboot readErr (List.mem_cons_of_mem e he)

end Refines

/-! ## the stored total never goes back -/

/-- What is stored stays stored, or gives way to a total no smaller. -/
def StoredLe (kvs kvs' : Option Int) : Prop :=
  ∀ mwh, kvs = some mwh → ∃ mwh', kvs' = some mwh' ∧ mwh ≤ mwh'

/-- A stored total is not behind itself. -/
theorem StoredLe.refl (kvs : Option Int) : StoredLe kvs kvs :=
  fun mwh h => ⟨mwh, h, le_refl _⟩

/-- Stored totals that never go back never do. -/
theorem StoredLe.trans {kvs kvs' kvs'' : Option Int} (h : StoredLe kvs kvs')
    (h' : StoredLe kvs' kvs'') : StoredLe kvs kvs'' := by
  intro mwh hmwh
  obtain ⟨mwh', hmwh', hle⟩ := h mwh hmwh
  obtain ⟨mwh'', hmwh'', hle'⟩ := h' mwh' hmwh'
  exact ⟨mwh'', hmwh'', hle.trans hle'⟩

/-- Every event leaves the store alone or fills it with a positive total. -/
theorem Device.Sane.kvs_step {d : Device} (h : d.Sane) (e : DeviceEvent) :
    (device.step d e).1.kvs = d.kvs ∨ ∃ mwh, 1 ≤ mwh ∧ (device.step d e).1.kvs = some mwh := by
  cases e with
  | update u =>
      cases foldl_store_eq d.kvs (d.pm.powerMeasurementUpdate u).2 with
      | inl hkeeps => exact Or.inl hkeeps
      | inr hput =>
          obtain ⟨mwh, hmem, hstored⟩ := hput
          exact Or.inr ⟨mwh, one_le_of_put h.persisted hmem, hstored⟩
  | cut u done =>
      cases foldl_store_eq d.kvs ((d.pm.powerMeasurementUpdate u).2.take done) with
      | inl hkeeps => exact Or.inl hkeeps
      | inr hput =>
          obtain ⟨mwh, hmem, hstored⟩ := hput
          exact Or.inr ⟨mwh, one_le_of_put h.persisted (List.mem_of_mem_take hmem), hstored⟩
  | boot readErr => exact Or.inl rfl

/-- **Step lemma**: an event keeps the stored total, or raises it. -/
theorem Refines.storedLe_step {d : Device} {c : Checkpoint Int} (h : Refines 1 d c)
    {e : DeviceEvent} (hok : d.Reliable 1 e) : StoredLe d.kvs (device.step d e).1.kvs := by
  intro mwh hmwh
  cases h.sane.kvs_step e with
  | inl hkeeps => exact ⟨mwh, hkeeps.trans hmwh, le_refl _⟩
  | inr hput =>
      obtain ⟨mwh', hpos, hstored⟩ := hput
      obtain ⟨ops, hrefines, -⟩ := h.step (by decide) hok
      have hsaved := Checkpoint.saved_le_saved_exec c ops
      rw [h.saved, hrefines.saved, hmwh, hstored, Option.getD_some, Option.getD_some] at hsaved
      exact ⟨mwh', hstored, by omega⟩

/-- **Run lemma**: so does every run whose boots read what is stored. -/
theorem Refines.storedLe_exec {d : Device} {c : Checkpoint Int} (h : Refines 1 d c)
    {es : List DeviceEvent} (hok : device.Admits (Device.Reliable 1) d es) :
    StoredLe d.kvs (device.exec d es).kvs := by
  induction es generalizing d c with
  | nil => exact StoredLe.refl _
  | cons e es ih =>
      obtain ⟨ops, hstep, -⟩ := h.step (by decide) hok.1
      exact (h.storedLe_step hok.1).trans (ih hstep hok.2)

/-- A reliable run that the machine computes exactly. -/
def Device.ReliableExact (b : Int) (d : Device) (e : DeviceEvent) : Prop :=
  d.Reliable b e ∧ d.Exact e

/-- A reliable, exact event does on the machine what it does exactly. -/
theorem device64_step_of_reliable {b : Int} (d : Device) (e : DeviceEvent)
    (h : d.ReliableExact b e) : device64.step d e = device.step d e :=
  device64_step h.2

/-- After a boot that failed to read, 1 mWh drawn in six hours is put over
whatever was stored. -/
theorem exists_smaller_put (d : Device) {readErr : ChipError} (hfails : readErr ≠ .noError) :
    ∃ fs, device64.Admits (Device.ReliableExact 1) (device64.step d (.boot readErr)).1 fs ∧
      (device64.exec d (.boot readErr :: fs)).kvs = some 1 := by
  have hbooted : booted (kvsGet readErr d.kvs) = booted (.other, 0) := by
    rw [booted_eq, booted_eq, loadedMwh_eq, loadedMwh_eq]
    simp [kvsGet, hfails]
  refine ⟨[.update { activePowerMw := 1, nowMs := 18000000 },
    .update { activePowerMw := 1, nowMs := 21600000 }], ?_, ?_⟩
  · have hpower : (0 : Int) ≤ 1 := by decide
    have hfirst : (0 : Int) ≤ 18000000 := by decide
    have hsecond : (18000000 : Int) ≤ 21600000 := by decide
    have hprimes : (booted (.other, 0)).Exact { activePowerMw := 1, nowMs := 18000000 } := by
      decide
    have hputs : ((booted (.other, 0)).powerMeasurementUpdate64
        { activePowerMw := 1, nowMs := 18000000 }).1.Exact
          { activePowerMw := 1, nowMs := 21600000 } := by
      decide
    simp only [Mealy.admits_cons, Mealy.admits_nil, and_true, device64, hbooted]
    exact ⟨⟨⟨⟨hpower, hfirst⟩, trivial⟩, hprimes⟩, ⟨⟨hpower, hsecond⟩, trivial⟩, hputs⟩
  · simp only [Mealy.exec_cons, Mealy.exec_nil, device64, hbooted]
    rfl

/-- **The stored total never goes back** on the machine over the life of a plug
whose boots read every stored total of 2 mWh or more and whose calls overflow
nowhere; and a boot that does not read one can be followed by a `Put` of a
smaller total. -/
theorem stored_total_monotone_iff (kvs : Option Int) :
    (∀ es fs, device64.Admits (Device.ReliableExact 1) (.off kvs) (es ++ fs) →
      StoredLe (device64.exec (.off kvs) es).kvs (device64.exec (.off kvs) (es ++ fs)).kvs) ∧
    ∀ (d : Device) (readErr : ChipError),
      (∀ fs, device64.Admits (Device.ReliableExact 1) (device64.step d (.boot readErr)).1 fs →
        StoredLe d.kvs (device64.exec d (.boot readErr :: fs)).kvs) ↔
      (readErr = .noError ∨ d.kvs.getD 0 ≤ 1) := by
  have hreliable : ∀ d e, Device.ReliableExact 1 d e → Device.Reliable 1 d e := fun _ _ h => h.1
  refine ⟨fun es fs hok => ?_, fun d readErr => ⟨fun h => ?_, fun hread fs hok => ?_⟩⟩
  · have hstart := ((Mealy.admits_append _ _ _ _ _).mp hok).1
    rw [Mealy.exec_congr device64_step_of_reliable hok,
      Mealy.exec_congr device64_step_of_reliable hstart]
    have hexact := (Mealy.admits_congr device64_step_of_reliable hok).imp device hreliable
    rw [Mealy.admits_append] at hexact
    obtain ⟨ops, hrefines, -⟩ := (Refines.off 1 kvs).exec (by decide) hexact.1
    rw [Mealy.exec_append]
    exact hrefines.storedLe_exec hexact.2
  · by_contra hnot
    rw [not_or] at hnot
    obtain ⟨fs, hok, hstored⟩ := exists_smaller_put d hnot.1
    have hle := h fs hok
    rw [hstored] at hle
    cases hkvs : d.kvs with
    | none =>
        rw [hkvs] at hnot
        exact hnot.2 (by decide)
    | some mwh =>
        obtain ⟨mwh', heq, hmwh⟩ := hle mwh hkvs
        rw [hkvs, Option.getD_some] at hnot
        rw [← Option.some.inj heq] at hmwh
        omega
  · have hbooted : Refines 1 (device.step d (.boot readErr)).1
        ⟨max 1 (d.kvs.getD 0), max 1 (d.kvs.getD 0), Int.le_refl _⟩ :=
      ⟨Device.sane_boot d readErr, rfl, fun _ => (max_loadedMwh (by decide) hread).symm⟩
    have hrun : device64.exec (device64.step d (.boot readErr)).1 fs =
        device.exec (device.step d (.boot readErr)).1 fs :=
      Mealy.exec_congr device64_step_of_reliable hok
    rw [Mealy.exec_cons, hrun]
    exact hbooted.storedLe_exec
      ((Mealy.admits_congr device64_step_of_reliable hok).imp device hreliable)

/-- The 21.6 kWh of a first boot are still covered after a second one. -/
theorem first_total_is_kept :
    StoredLe
      (device64.exec (.off none) [.boot .noError,
        .update { activePowerMw := 3600000, nowMs := 0 },
        .update { activePowerMw := 3600000, nowMs := 21600000 }]).kvs
      (device64.exec (.off none) ([.boot .noError,
        .update { activePowerMw := 3600000, nowMs := 0 },
        .update { activePowerMw := 3600000, nowMs := 21600000 }] ++ [.boot .noError,
        .update { activePowerMw := 3600000, nowMs := 0 },
        .cut { activePowerMw := 3600000, nowMs := 21600000 } 1])).kvs :=
  (stored_total_monotone_iff none).1 _ _
    ⟨⟨⟨trivial, Or.inl rfl⟩, trivial⟩, ⟨⟨by decide, trivial⟩, by decide⟩,
      ⟨⟨by decide, trivial⟩, by decide⟩, ⟨⟨trivial, Or.inl rfl⟩, trivial⟩,
      ⟨⟨by decide, trivial⟩, by decide⟩, ⟨⟨by decide, trivial⟩, by decide⟩, trivial⟩

/-- 50 kWh are stored, the next boot cannot read them, and six hours later
21.6 kWh are put over them.  And the largest total is stored and read: an hour
at 230 W wraps it, and the negative total is put over it. -/
theorem unread_total_is_overwritten :
    (device64.Admits Device.Accepts (.off (some 50000000))
        [.boot .other, .update { activePowerMw := 3600000, nowMs := 0 },
          .update { activePowerMw := 3600000, nowMs := 21600000 }] ∧
      ¬ StoredLe (some 50000000) (device64.exec (.off (some 50000000))
        [.boot .other, .update { activePowerMw := 3600000, nowMs := 0 },
          .update { activePowerMw := 3600000, nowMs := 21600000 }]).kvs) ∧
    (device64.Admits Device.Accepts (.off (some 9223372036854775807))
        [.boot .noError, .update { activePowerMw := 230000, nowMs := 1000 },
          .update { activePowerMw := 230000, nowMs := 3601000 }] ∧
      (device64.exec (.off (some 9223372036854775807))
        [.boot .noError, .update { activePowerMw := 230000, nowMs := 1000 },
          .update { activePowerMw := 230000, nowMs := 3601000 }]).kvs =
        some (-9223372036854545809)) := by
  refine ⟨⟨⟨trivial, by decide, by decide, trivial⟩, fun h => ?_⟩,
    ⟨trivial, by decide, by decide, trivial⟩, by decide⟩
  obtain ⟨mwh, hmwh, hle⟩ := h 50000000 rfl
  have hstored : mwh = 21600000 := Option.some.inj (hmwh.symm.trans (by decide))
  omega

end UascentPlug

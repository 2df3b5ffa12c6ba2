import UascentPlug.Energy.Store

/-!
# UascentPlug.Energy.Report

What controllers are told about energy.  Reports are the outputs of the
checkpoint the device refines (`UascentPlug.Energy.Store`, at floor 0), so
they never go back within a boot; a boot takes them back to the stored total
at most.
-/

namespace UascentPlug

/-! ## where a notification comes from -/

/-- A report belongs to one of the events. -/
theorem exists_event_of_notified {d : Device} {es : List DeviceEvent} {y : Int}
    (h : y ∈ notified (device.trace d es)) :
    ∃ g₁ e g₂, es = g₁ ++ e :: g₂ ∧ y ∈ notified (device.step (device.exec d g₁) e).2 := by
  induction es generalizing d with
  | nil => contradiction
  | cons e es ih =>
      rw [Mealy.trace_cons, notified_append, List.mem_append] at h
      cases h with
      | inl hhere => exact ⟨[], e, es, rfl, hhere⟩
      | inr hlater =>
          obtain ⟨g₁, e', g₂, rfl, hy⟩ := ih hlater
          exact ⟨e :: g₁, e', g₂, rfl, hy⟩

/-- It is one of the effects of that event. -/
theorem exists_effect_of_notified {nowMs y : Int} {effects : List Effect}
    (h : y ∈ notified (effects.map fun e => (nowMs, e))) :
    ∃ endpoint, .notifyCumulativeEnergyMeasured endpoint y ∈ effects := by
  induction effects with
  | nil => contradiction
  | cons e effects ih =>
      cases e with
      | attributeChanged endpoint attributeId =>
          obtain ⟨endpoint', hmem⟩ := ih h
          exact ⟨endpoint', List.mem_cons_of_mem _ hmem⟩
      | put mwh err =>
          obtain ⟨endpoint', hmem⟩ := ih h
          exact ⟨endpoint', List.mem_cons_of_mem _ hmem⟩
      | notifyCumulativeEnergyMeasured endpoint mwh =>
          cases List.mem_cons.mp h with
          | inl heq => exact ⟨endpoint, heq ▸ List.mem_cons_self⟩
          | inr hrest =>
              obtain ⟨endpoint', hmem⟩ := ih hrest
              exact ⟨endpoint', List.mem_cons_of_mem _ hmem⟩

/-- A call reports no negative total. -/
theorem nonneg_of_notified_effect {d : Device} (h : d.Sane) {u : Sample}
    (hpower : 0 ≤ u.activePowerMw) (htime : d.uptimeMs ≤ u.nowMs) {y : Int} {endpoint : UInt16}
    (hy : .notifyCumulativeEnergyMeasured endpoint y ∈ (d.pm.powerMeasurementUpdate u).2) :
    0 ≤ y := by
  have hgrow := h.totalMwh_le hpower htime
  have hpersisted := h.persisted
  have htotal := h.total
  have hcarries : y = d.pm.totalMwh u := effects_carry u d.pm _ hy
  omega

/-- Neither does any other event. -/
theorem nonneg_of_notified {d : Device} (h : d.Sane) {e : DeviceEvent} (hok : d.Accepts e) {y : Int}
    (hy : y ∈ notified (device.step d e).2) : 0 ≤ y := by
  cases e with
  | update u =>
      obtain ⟨endpoint, hmem⟩ := exists_effect_of_notified hy
      exact nonneg_of_notified_effect h hok.1 hok.2 hmem
  | cut u done =>
      obtain ⟨endpoint, hmem⟩ := exists_effect_of_notified hy
      exact nonneg_of_notified_effect h hok.1 hok.2 (List.mem_of_mem_take hmem)
  | boot readErr => contradiction

/-- Neither does a run. -/
theorem nonneg_of_notified_trace {d : Device} (h : d.Sane) {es : List DeviceEvent}
    (hok : device.Admits Device.Accepts d es) {y : Int} (hy : y ∈ notified (device.trace d es)) :
    0 ≤ y := by
  obtain ⟨g₁, e, g₂, rfl, hevent⟩ := exists_event_of_notified hy
  rw [Mealy.admits_append, Mealy.admits_cons] at hok
  have hsane : (device.exec d g₁).Sane :=
    device.exec_invariant (fun _ _ hs hacc => hs.step hacc) h hok.1
  exact nonneg_of_notified hsane hok.2.1 hevent

/-! ## reports are reports of the checkpoint -/

/-- What is restored is what is stored, as far as it is positive. -/
theorem restoredMwh_eq (d : Device) : d.restoredMwh = max 0 (d.kvs.getD 0) := by
  have hread : ChipError.noError = .noError ∨ d.kvs.getD 0 ≤ 0 := Or.inl rfl
  have hmax := max_loadedMwh (le_refl 0) hread
  have hnonneg := PowerMeasurement.loadedMwh_nonneg (kvsGet .noError d.kvs)
  rw [← hmax, Device.restoredMwh]
  omega

namespace Refines

variable {d : Device} {c : Checkpoint Int}

/-- Nothing below the restorable total is reported from here on. -/
theorem restoredMwh_le_of_notified (h : Refines 0 d c) {es : List DeviceEvent}
    (hok : device.Admits (Device.Reliable 0) d es) {y : Int}
    (hy : y ∈ notified (device.trace d es)) : d.restoredMwh ≤ y := by
  have hnonneg := nonneg_of_notified_trace h.sane (hok.imp device fun _ _ hr => hr.1) hy
  obtain ⟨ops, -, htrace, -⟩ := h.exec (le_refl 0) hok
  have hmem : max 0 y ∈ Checkpoint.machine.trace c ops := by
    rw [htrace]
    exact List.mem_map_of_mem hy
  have hle := Checkpoint.saved_le_of_mem_trace hmem
  rw [h.saved, ← restoredMwh_eq] at hle
  omega

/-- Without a boot in between, a later report is no smaller than an earlier one. -/
theorem le_of_notified (h : Refines 0 d c) {es fs : List DeviceEvent}
    (hok : device.Admits (Device.Reliable 0) d (es ++ fs))
    (hboot : ∀ readErr, .boot readErr ∉ es ++ fs) {x y : Int}
    (hx : x ∈ notified (device.trace d es))
    (hy : y ∈ notified (device.trace (device.exec d es) fs)) : x ≤ y := by
  rw [Mealy.admits_append] at hok
  have hxpos := nonneg_of_notified_trace h.sane (hok.1.imp device fun _ _ hr => hr.1) hx
  obtain ⟨ops, hmid, htrace, hops⟩ := h.exec (le_refl 0) hok.1
  have hypos := nonneg_of_notified_trace hmid.sane (hok.2.imp device fun _ _ hr => hr.1) hy
  obtain ⟨ops', -, htrace', hops'⟩ := hmid.exec (le_refl 0) hok.2
  have hnoRestart := hops fun readErr hmem => hboot readErr (List.mem_append_left fs hmem)
  have hnoRestart' := hops' fun readErr hmem => hboot readErr (List.mem_append_right es hmem)
  have hxmem : max 0 x ∈ Checkpoint.machine.trace c ops := by
    rw [htrace]
    exact List.mem_map_of_mem hx
  have hymem : max 0 y ∈ Checkpoint.machine.trace (Checkpoint.machine.exec c ops) ops' := by
    rw [htrace']
    exact List.mem_map_of_mem hy
  have hbefore := Checkpoint.le_live_of_mem_trace hnoRestart hxmem
  have hafter := Checkpoint.live_le_of_mem_trace hnoRestart' hymem
  omega

end Refines

/-! ## reports over the life of a plug -/

/-- A boot reports nothing. -/
theorem not_boot_of_notified {d : Device} {e : DeviceEvent} {y : Int}
    (hy : y ∈ notified (device.step d e).2) (readErr : ChipError) : .boot readErr ≠ e := by
  rintro rfl
  contradiction

/-- Among the events `es` is a boot that found a stored total below `x`, and `y`
is reported after it, no smaller than that total. -/
def RestartsBelow (M : Mealy Device DeviceEvent (Int × Effect)) (d : Device)
    (es : List DeviceEvent) (x y : Int) : Prop :=
  ∃ f₁ readErr f₂, es = f₁ ++ .boot readErr :: f₂ ∧ (M.exec d f₁).restoredMwh < x ∧
    (M.exec d f₁).restoredMwh ≤ y ∧
    y ∈ notified (M.trace (M.exec d f₁) (.boot readErr :: f₂))

/-- Of two reports the later is the smaller only if a boot restarts below the
earlier one. -/
theorem le_or_restartsBelow (kvs : Option Int) {es₁ es₂ : List DeviceEvent}
    {e : DeviceEvent} (hok : device.Admits (Device.Reliable 0) (.off kvs) (es₁ ++ e :: es₂))
    {x y : Int} (hx : x ∈ notified (device.step (device.exec (.off kvs) es₁) e).2)
    (hy : y ∈ notified (device.trace (device.exec (.off kvs) (es₁ ++ [e])) es₂)) :
    x ≤ y ∨ RestartsBelow device (device.exec (.off kvs) (es₁ ++ [e])) es₂ x y := by
  rw [Mealy.admits_append] at hok
  obtain ⟨ops, hrefines, -⟩ := (Refines.off 0 kvs).exec (le_refl 0) hok.1
  rw [Mealy.exec_append] at hy ⊢
  generalize device.exec (.off kvs) es₁ = d at *
  obtain ⟨g₁, e', g₂, rfl, hevent⟩ := exists_event_of_notified hy
  by_cases hboot : ∃ readErr, .boot readErr ∈ g₁
  · -- a boot separates the two reports
    obtain ⟨readErr, hmem⟩ := hboot
    obtain ⟨f₁, f₂, rfl⟩ := List.append_of_mem hmem
    have hsplit : (f₁ ++ .boot readErr :: f₂) ++ e' :: g₂ =
        f₁ ++ .boot readErr :: (f₂ ++ e' :: g₂) := by simp
    have hok' : device.Admits (Device.Reliable 0) d
        ((e :: f₁) ++ .boot readErr :: (f₂ ++ e' :: g₂)) := by
      simpa using hok.2
    rw [Mealy.admits_append] at hok'
    obtain ⟨ops', hmid, -⟩ := hrefines.exec (le_refl 0) hok'.1
    have hyafter : y ∈ notified (device.trace (device.exec d (e :: f₁))
        (.boot readErr :: (f₂ ++ e' :: g₂))) := by
      rw [← List.cons_append, Mealy.trace_append, notified_append, List.mem_append,
        Mealy.trace_cons _ _ e' g₂, notified_append, List.mem_append]
      rw [Mealy.exec_append] at hevent
      exact Or.inr (Or.inl hevent)
    have hfloor := hmid.restoredMwh_le_of_notified hok'.2 hyafter
    by_cases hlost : (device.exec d (e :: f₁)).restoredMwh < x
    · exact Or.inr ⟨f₁, readErr, _, hsplit, hlost, hfloor, hyafter⟩
    · exact Or.inl (by omega)
  · -- no boot at all between them
    have hok' : device.Admits (Device.Reliable 0) d ([e] ++ (g₁ ++ [e'])) := by
      have hall : device.Admits (Device.Reliable 0) d (([e] ++ (g₁ ++ [e'])) ++ g₂) := by
        simpa using hok.2
      exact ((Mealy.admits_append _ _ _ _ _).mp hall).1
    have hnoBoot : ∀ readErr, .boot readErr ∉ [e] ++ (g₁ ++ [e']) := by
      intro readErr hmem
      rw [List.mem_append, List.mem_append, List.mem_singleton, List.mem_singleton] at hmem
      rcases hmem with heq | hmem | heq
      · exact not_boot_of_notified hx readErr heq
      · exact hboot ⟨readErr, hmem⟩
      · exact not_boot_of_notified hevent readErr heq
    have hxmem : x ∈ notified (device.trace d [e]) := by
      rw [Mealy.trace_cons, Mealy.trace_nil, List.append_nil]
      exact hx
    have hymem : y ∈ notified (device.trace (device.exec d [e]) (g₁ ++ [e'])) := by
      rw [Mealy.trace_append, notified_append, List.mem_append, Mealy.trace_cons, Mealy.trace_nil,
        List.append_nil]
      exact Or.inr hevent
    exact Or.inl (hrefines.le_of_notified hok' hnoBoot hxmem hymem)

/-- **Reports go back only to what was stored.**  Of two reports on the machine,
as long as its arithmetic is exact, either the later is no smaller, or a boot
between them found a stored total below the earlier, and the later is not
below that total. -/
theorem reports_go_back_to_stored_only (kvs : Option Int) {es₁ es₂ : List DeviceEvent}
    {e : DeviceEvent}
    (hok : device64.Admits (Device.ReliableExact 0) (.off kvs) (es₁ ++ e :: es₂)) {x y : Int}
    (hx : x ∈ notified (device64.step (device64.exec (.off kvs) es₁) e).2)
    (hy : y ∈ notified (device64.trace (device64.exec (.off kvs) (es₁ ++ [e])) es₂)) :
    x ≤ y ∨ RestartsBelow device64 (device64.exec (.off kvs) (es₁ ++ [e])) es₂ x y := by
  have hagree := device64_step_of_reliable (b := 0)
  have hsplit : device64.Admits (Device.ReliableExact 0) (.off kvs) ((es₁ ++ [e]) ++ es₂) := by
    simpa using hok
  obtain ⟨hbefore, hafter⟩ := (Mealy.admits_append _ _ _ _ _).mp hsplit
  obtain ⟨hfirst, hevent⟩ := (Mealy.admits_append _ _ _ _ _).mp hbefore
  have hexact := (Mealy.admits_congr hagree hok).imp device fun _ _ h => h.1
  rw [hagree _ _ hevent.1, Mealy.exec_congr hagree hfirst] at hx
  rw [Mealy.trace_congr hagree hafter, Mealy.exec_congr hagree hbefore] at hy
  obtain hle | ⟨f₁, readErr, f₂, rfl, hlost, hfloor, hreported⟩ :=
    le_or_restartsBelow kvs hexact hx hy
  · exact Or.inl hle
  · obtain ⟨hafter₁, hafter₂⟩ := (Mealy.admits_append _ _ _ _ _).mp hafter
    have hmid : device64.exec (device64.exec (.off kvs) (es₁ ++ [e])) f₁ =
        device.exec (device.exec (.off kvs) (es₁ ++ [e])) f₁ := by
      rw [Mealy.exec_congr hagree hafter₁, Mealy.exec_congr hagree hbefore]
    refine Or.inr ⟨f₁, readErr, f₂, rfl, ?_, ?_, ?_⟩
    · rwa [hmid]
    · rwa [hmid]
    · rwa [Mealy.trace_congr hagree hafter₂, hmid]

/-- A kettle reports 60 Wh; after the power cut that follows, nothing being
stored, the reports start over. -/
theorem reports_restart_after_power_cut :
    RestartsBelow device64
      (device64.exec (.off none)
        ([.boot .noError, .update { activePowerMw := 3600000, nowMs := 0 }] ++
          [.update { activePowerMw := 3600000, nowMs := 60000 }]))
      [.boot .noError, .update { activePowerMw := 0, nowMs := 0 },
        .update { activePowerMw := 0, nowMs := 60000 }] 60000 0 := by
  have hok : device64.Admits (Device.ReliableExact 0) (.off none)
      ([.boot .noError, .update { activePowerMw := 3600000, nowMs := 0 }] ++
        .update { activePowerMw := 3600000, nowMs := 60000 } ::
          [.boot .noError, .update { activePowerMw := 0, nowMs := 0 },
            .update { activePowerMw := 0, nowMs := 60000 }]) :=
    ⟨⟨⟨trivial, Or.inl rfl⟩, trivial⟩, ⟨⟨by decide, trivial⟩, by decide⟩,
      ⟨⟨by decide, trivial⟩, by decide⟩, ⟨⟨trivial, Or.inl rfl⟩, trivial⟩,
      ⟨⟨by decide, trivial⟩, by decide⟩, ⟨⟨by decide, trivial⟩, by decide⟩, trivial⟩
  exact (reports_go_back_to_stored_only none hok (by decide) (by decide)).resolve_left (by decide)

/-- The reports of that run are not in order.  Neither are those of a boot that
samples the declared maximum twice and then not for 95 years: the total wraps. -/
theorem reports_go_back_after_power_cut :
    (device64.Admits Device.Accepts (.off none)
        [.boot .noError, .update { activePowerMw := 3600000, nowMs := 0 },
          .update { activePowerMw := 3600000, nowMs := 60000 },
          .boot .noError, .update { activePowerMw := 0, nowMs := 0 },
          .update { activePowerMw := 0, nowMs := 60000 }] ∧
      ¬ (notified (device64.trace (.off none)
        [.boot .noError, .update { activePowerMw := 3600000, nowMs := 0 },
          .update { activePowerMw := 3600000, nowMs := 60000 },
          .boot .noError, .update { activePowerMw := 0, nowMs := 0 },
          .update { activePowerMw := 0, nowMs := 60000 }])).Pairwise (· ≤ ·)) ∧
    (device64.Admits Device.Accepts (.off none)
        [.boot .noError, .update { activePowerMw := 3680000, nowMs := 0 },
          .update { activePowerMw := 3680000, nowMs := 60000 },
          .update { activePowerMw := 3680000, nowMs := 3000000060000 }] ∧
      notified (device64.trace (.off none)
        [.boot .noError, .update { activePowerMw := 3680000, nowMs := 0 },
          .update { activePowerMw := 3680000, nowMs := 60000 },
          .update { activePowerMw := 3680000, nowMs := 3000000060000 }]) =
        [61333, -2057428848030]) :=
  ⟨⟨⟨trivial, by decide, by decide, trivial, by decide, by decide, trivial⟩, by decide⟩,
    ⟨trivial, by decide, by decide, by decide, trivial⟩, by decide⟩

end UascentPlug

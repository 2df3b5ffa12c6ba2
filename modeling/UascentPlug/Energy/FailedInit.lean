import UascentPlug.Energy.Integral

/-!
# UascentPlug.Energy.FailedInit

What an error return of `PowerMeasurementInit` leaves behind.  The module is
meant to be inert then: nothing allocated, and every later call a no-op.  The
first of the three fallible steps undoes all that came before it; the other
two leave the delegate, which is what `PowerMeasurementUpdate` looks at, so
the calls integrate from zero and write that over a total nobody loaded.
-/

namespace UascentPlug

namespace PowerMeasurement

/-- `sDelegate`, `sInstance` and `sEnergyAttrAccess` are null. -/
structure AllNull (s : PowerMeasurement) : Prop where
  delegate : s.sDelegate = none
  inst : s.sInstance = false
  attrAccess : s.sEnergyAttrAccess = false

/-- Nothing is allocated, and no sequence of calls marks, accumulates, notifies
or writes anything. -/
structure Inert (s : PowerMeasurement) : Prop where
  null : s.AllNull
  silent : ∀ us, updates.trace s us = []
  still : ∀ us, updates.exec s us = s

/-- The delegate is all that keeps a call from running. -/
theorem inert_of_allNull {s : PowerMeasurement} (h : s.AllNull) : s.Inert := by
  have hstep : ∀ u, updates.step s u = (s, []) := powerMeasurementUpdate_of_none h.delegate
  refine ⟨h, fun us => ?_, fun us => ?_⟩
  · induction us with
    | nil => rfl
    | cons u us ih => rw [Mealy.trace_cons, hstep, ih]; rfl
  · induction us with
    | nil => rfl
    | cons u us ih => rw [Mealy.exec_cons, hstep, ih]

/-- **A failed initialisation leaves the module inert** exactly when it is the
first step that failed. -/
theorem failed_init_is_inert_iff (endpoint : UInt16) (answers : InitAnswers)
    {s : PowerMeasurement} (hnull : s.AllNull)
    (hfails : (s.powerMeasurementInit endpoint answers).2 ≠ .noError) :
    (s.powerMeasurementInit endpoint answers).1.Inert ↔ answers.instanceErr ≠ .noError := by
  by_cases hinstance : answers.instanceErr = .noError
  · refine iff_of_false (fun hinert => ?_) (not_not.mpr hinstance)
    have hdelegate := hinert.null.delegate
    simp only [powerMeasurementInit, hinstance, ne_eq, not_true, if_false] at hfails hdelegate
    split at hdelegate
    · contradiction
    · split at hdelegate
      · contradiction
      · next hattr haccuracy =>
        rw [if_neg hattr, if_neg haccuracy] at hfails
        exact hfails rfl
  · refine iff_of_true (inert_of_allNull ?_) hinstance
    rw [powerMeasurementInit, if_pos hinstance]
    exact ⟨rfl, rfl, hnull.attrAccess⟩

/-- Where the first step fails, nothing is left. -/
theorem failed_instance_init_is_inert :
    (({} : PowerMeasurement).powerMeasurementInit 1
      { instanceErr := .other, get := (.noError, 50000000) }).1.Inert :=
  (failed_init_is_inert_iff 1 { instanceErr := .other, get := (.noError, 50000000) }
    ⟨rfl, rfl, rfl⟩ (by decide)).mpr (by decide)

/-- 50 kWh are stored, the energy cluster cannot be initialised, and six hours
later 21.6 kWh are put over them. -/
theorem put_after_failed_init :
    let r := ({} : PowerMeasurement).powerMeasurementInit 1
      { attrAccessErr := .other, get := (.noError, 50000000) }
    r.2 = .other ∧ ¬ r.1.Inert ∧
      (updates.trace r.1 [{ activePowerMw := 3600000, nowMs := 0 },
        { activePowerMw := 3600000, nowMs := 21600000 }]).foldl store (some 50000000) =
          some 21600000 := by
  refine ⟨rfl, fun hinert => ?_, rfl⟩
  have hdelegate := hinert.null.delegate
  contradiction

end PowerMeasurement

end UascentPlug

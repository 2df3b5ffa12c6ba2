import Mathlib.Order.Lattice
import UascentPlug.Lib.Machine

/-!
# UascentPlug.Lib.Checkpoint

A quantity that only grows, kept in volatile memory, with a copy of it that is
saved now and then and survives a restart.  That the copy is never ahead is
part of the state (`Checkpoint.saved_le_live`), so growing, saving, reporting
and restarting keep it by construction.

The copy never goes back (`saved_le_saved_exec`); what is reported never goes
back until a restart (`le_live_of_mem_trace`, `live_le_of_mem_trace`), and then
no further than the copy (`saved_le_of_mem_trace`).
-/

/-- A volatile quantity and its durable copy. -/
structure Checkpoint (α : Type*) [LE α] where
  live : α
  saved : α
  /-- The copy is never ahead. -/
  saved_le_live : saved ≤ live

namespace Checkpoint

/-- What can happen to the quantity. -/
inductive Op (α : Type*) where
  | grow (x : α)
  | save
  | report
  | restart

variable {α : Type*} [SemilatticeSup α]

/-- Reports are the outputs. -/
def machine : Mealy (Checkpoint α) (Op α) α where
  step c
    | .grow x => (⟨c.live ⊔ x, c.saved, c.saved_le_live.trans le_sup_left⟩, [])
    | .save => (⟨c.live, c.live, le_refl _⟩, [])
    | .report => (c, [c.live])
    | .restart => (⟨c.saved, c.saved, le_refl _⟩, [])

/-- No step loses what was saved. -/
theorem saved_le_saved_step (c : Checkpoint α) (op : Op α) :
    c.saved ≤ (machine.step c op).1.saved := by
  cases op with
  | grow x => exact le_refl _
  | save => exact c.saved_le_live
  | report => exact le_refl _
  | restart => exact le_refl _

/-- The saved copy never goes back. -/
theorem saved_le_saved_exec (c : Checkpoint α) (ops : List (Op α)) :
    c.saved ≤ (machine.exec c ops).saved := by
  induction ops generalizing c with
  | nil => exact le_refl _
  | cons op ops ih => exact (saved_le_saved_step c op).trans (ih _)

/-- Nothing below the copy is ever reported. -/
theorem saved_le_of_mem_trace {c : Checkpoint α} {ops : List (Op α)} {x : α}
    (h : x ∈ machine.trace c ops) : c.saved ≤ x := by
  induction ops generalizing c with
  | nil => contradiction
  | cons op ops ih =>
      rw [Mealy.trace_cons, List.mem_append] at h
      rcases h with h | h
      · cases op with
        | report =>
            rw [List.mem_singleton.mp h]
            exact c.saved_le_live
        | grow x => contradiction
        | save => contradiction
        | restart => contradiction
      · exact (saved_le_saved_step c op).trans (ih h)

/-! ## between two restarts -/

/-- Nothing but a restart takes the live value back. -/
theorem live_le_live_step (c : Checkpoint α) {op : Op α} (hop : op ≠ .restart) :
    c.live ≤ (machine.step c op).1.live := by
  cases op with
  | grow x => exact le_sup_left
  | save => exact le_refl _
  | report => exact le_refl _
  | restart => contradiction

/-- Without a restart it never goes back. -/
theorem live_le_live_exec (c : Checkpoint α) {ops : List (Op α)} (hops : .restart ∉ ops) :
    c.live ≤ (machine.exec c ops).live := by
  induction ops generalizing c with
  | nil => exact le_refl _
  | cons op ops ih =>
      rw [List.mem_cons, not_or] at hops
      exact (live_le_live_step c (Ne.symm hops.1)).trans (ih _ hops.2)

/-- Until a restart, nothing below the quantity is reported. -/
theorem live_le_of_mem_trace {c : Checkpoint α} {ops : List (Op α)} (hops : .restart ∉ ops)
    {x : α} (h : x ∈ machine.trace c ops) : c.live ≤ x := by
  induction ops generalizing c with
  | nil => contradiction
  | cons op ops ih =>
      rw [List.mem_cons, not_or] at hops
      rw [Mealy.trace_cons, List.mem_append] at h
      rcases h with h | h
      · cases op with
        | report => exact (List.mem_singleton.mp h).ge
        | grow x => contradiction
        | save => contradiction
        | restart => contradiction
      · exact (live_le_live_step c (Ne.symm hops.1)).trans (ih hops.2 h)

/-- Until a restart, the quantity is at least everything reported so far. -/
theorem le_live_of_mem_trace {c : Checkpoint α} {ops : List (Op α)} (hops : .restart ∉ ops)
    {x : α} (h : x ∈ machine.trace c ops) : x ≤ (machine.exec c ops).live := by
  induction ops generalizing c with
  | nil => contradiction
  | cons op ops ih =>
      rw [List.mem_cons, not_or] at hops
      rw [Mealy.trace_cons, List.mem_append] at h
      rcases h with h | h
      · cases op with
        | report =>
            rw [List.mem_singleton.mp h, Mealy.exec_cons]
            exact live_le_live_exec c hops.2
        | grow x => contradiction
        | save => contradiction
        | restart => contradiction
      · exact ih hops.2 h

end Checkpoint

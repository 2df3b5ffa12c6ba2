import Mathlib.Algebra.Order.Group.Defs
import Mathlib.Algebra.Order.Monoid.Unbundled.Pow

/-!
# UascentPlug.Lib.Spacing

Points in time that lie at least a gap apart.  A half-open window no longer
than `k` gaps holds at most `k` of them (`length_filter_le`).
-/

namespace Spacing

variable {α : Type*} [AddCommGroup α] [LinearOrder α] [IsOrderedAddMonoid α]

/-- Each point lies at least `gap` before all later ones. -/
def Spaced (gap : α) (ts : List α) : Prop := ts.Pairwise fun t t' => t + gap ≤ t'

/-- The last of `n + 1` points is at least `n` gaps after the first. -/
theorem Spaced.exists_last {gap t : α} {ts : List α} (h : Spaced gap (t :: ts)) :
    ∃ l ∈ t :: ts, t + ts.length • gap ≤ l := by
  induction ts generalizing t with
  | nil => exact ⟨t, List.mem_cons_self, by simp⟩
  | cons t' ts ih =>
      obtain ⟨hfirst, hrest⟩ := List.pairwise_cons.mp h
      obtain ⟨l, hl, hle⟩ := ih hrest
      refine ⟨l, List.mem_cons_of_mem t hl, ?_⟩
      calc
        t + (t' :: ts).length • gap = (t + gap) + ts.length • gap := by
          rw [List.length_cons, succ_nsmul, add_comm (ts.length • gap), add_assoc]
        _ ≤ t' + ts.length • gap := add_le_add_left (hfirst t' List.mem_cons_self) _
        _ ≤ l := hle

/-- **A window of `k` gaps holds at most `k` points.** -/
theorem Spaced.length_filter_le {gap : α} {ts : List α} (h : Spaced gap ts) (hgap : 0 ≤ gap)
    {window : α} {k : Nat} (hwindow : window ≤ k • gap) (a : α) :
    (ts.filter fun t => a ≤ t ∧ t < a + window).length ≤ k := by
  have hspaced : Spaced gap (ts.filter fun t => a ≤ t ∧ t < a + window) :=
    h.sublist List.filter_sublist
  have hinside : ∀ t ∈ ts.filter fun t => a ≤ t ∧ t < a + window, a ≤ t ∧ t < a + window := by
    intro t ht
    simpa using (List.mem_filter.mp ht).2
  generalize (ts.filter fun t => a ≤ t ∧ t < a + window) = us at hspaced hinside ⊢
  cases us with
  | nil => exact Nat.zero_le k
  | cons t us =>
      by_contra hlong
      obtain ⟨l, hl, hle⟩ := hspaced.exists_last
      have hk : k ≤ us.length := by
        rw [List.length_cons] at hlong
        omega
      have hlt : l < l := by
        calc
          l < a + window := (hinside l hl).2
          _ ≤ a + k • gap := add_le_add_right hwindow a
          _ ≤ t + us.length • gap :=
              add_le_add (hinside t List.mem_cons_self).1 (nsmul_le_nsmul_left hgap hk)
          _ ≤ l := hle
      exact absurd hlt (lt_irrefl l)

end Spacing

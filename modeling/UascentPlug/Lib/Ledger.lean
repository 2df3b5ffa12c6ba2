import Mathlib.Algebra.Order.Group.Defs
import Mathlib.Algebra.Order.Monoid.Unbundled.Pow
import Mathlib.Tactic.Abel
import UascentPlug.Lib.Machine

/-!
# UascentPlug.Lib.Ledger

A machine that keeps a running value.  `Mealy.sum` adds up what the inputs of a
run contribute; if a step either books its contribution in full or, at the
inputs that cost something, loses less than `b` of what is there, then a run has
lost less than `b` for each of those (`Mealy.Books.ledger`).
-/

namespace Mealy

variable {σ ι ο α : Type*} (M : Mealy σ ι ο)

/-- What the inputs of a run contribute. -/
def sum [Zero α] [Add α] (gain : σ → ι → α) : σ → List ι → α
  | _, [] => 0
  | s, i :: is => gain s i + sum gain (M.step s i).1 is

/-- Machines that agree on acceptable inputs add up the same. -/
theorem sum_congr [Zero α] [Add α] {M N : Mealy σ ι ο} {ok : σ → ι → Prop}
    (h : ∀ s i, ok s i → N.step s i = M.step s i) (gain : σ → ι → α) {s : σ} {is : List ι}
    (hok : N.Admits ok s is) : N.sum gain s is = M.sum gain s is := by
  induction is generalizing s with
  | nil => rfl
  | cons i is ih =>
      rw [sum, sum, ih hok.2, h s i hok.1]

variable [AddCommGroup α] [LinearOrder α] [IsOrderedAddMonoid α]

/-- What one step does to the value, its contribution counted in. -/
structure Books (M : Mealy σ ι ο) (value : σ → α) (gain : σ → ι → α) (costs : σ → ι → Bool) (b : α)
    (s : σ) (i : ι) : Prop where
  /-- Nothing is booked twice. -/
  le : value (M.step s i).1 ≤ value s + gain s i
  full : costs s i = false → value (M.step s i).1 = value s + gain s i
  lt : costs s i = true → value s + gain s i < value (M.step s i).1 + b

/-- **Run lemma, ledgers**: a run books everything that was contributed, less
than `b` short for each input that costs something. -/
theorem ledger {value : σ → α} {gain : σ → ι → α} {costs : σ → ι → Bool} {b : α} {P : σ → Prop}
    {ok : σ → ι → Prop}
    (hstep : ∀ s i, P s → ok s i → P (M.step s i).1 ∧ M.Books value gain costs b s i)
    {s : σ} {is : List ι} (hs : P s) (hok : M.Admits ok s is) :
    value (M.exec s is) ≤ value s + M.sum gain s is ∧
      value s + M.sum gain s is ≤ value (M.exec s is) + M.count costs s is • b ∧
      (0 < M.count costs s is →
        value s + M.sum gain s is < value (M.exec s is) + M.count costs s is • b) := by
  induction is generalizing s with
  | nil => simp [sum, count]
  | cons i is ih =>
      obtain ⟨hs', hbooks⟩ := hstep s i hs hok.1
      obtain ⟨hle, hge, hgt⟩ := ih hs' hok.2
      simp only [exec_cons, sum, count]
      have hassoc : value s + (gain s i + M.sum gain (M.step s i).1 is) =
          value s + gain s i + M.sum gain (M.step s i).1 is := (add_assoc _ _ _).symm
      rw [hassoc]
      refine ⟨hle.trans (add_le_add_left hbooks.le _), ?_⟩
      cases hcosts : costs s i with
      | false =>
          rw [← hbooks.full hcosts]
          simpa using ⟨hge, hgt⟩
      | true =>
          have hlt : value s + gain s i + M.sum gain (M.step s i).1 is <
              value (M.exec (M.step s i).1 is) + (1 + M.count costs (M.step s i).1 is) • b := by
            calc
              value s + gain s i + M.sum gain (M.step s i).1 is
                  < value (M.step s i).1 + b + M.sum gain (M.step s i).1 is :=
                add_lt_add_left (hbooks.lt hcosts) _
              _ = value (M.step s i).1 + M.sum gain (M.step s i).1 is + b := by abel
              _ ≤ value (M.exec (M.step s i).1 is) + M.count costs (M.step s i).1 is • b + b :=
                add_le_add_left hge b
              _ = value (M.exec (M.step s i).1 is) + (1 + M.count costs (M.step s i).1 is) • b := by
                rw [add_nsmul, one_nsmul]
                abel
          simp only [if_true]
          exact ⟨hlt.le, fun _ => hlt⟩

end Mealy

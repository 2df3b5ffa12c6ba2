import Mathlib.Data.List.DropRight
import Mathlib.Order.Lattice
import Mathlib.Order.MinMax

/-!
# UascentPlug.Lib.Stream

What can be said of a stream from the list of samples it has delivered so
far, each with the equation for one more sample.

* `streak p xs`: how many samples at the end of `xs` satisfy `p` in a row,
  and `debounce`, the counter that fires each time a streak grows by `n`.
* `blockMedian xs i` and `lastMedian p xs`: the stream cut into blocks of
  three, the median of block `i`, and the median of the last complete block
  whose number satisfies `p`; `Settled p k c xs`: from sample `k` on, all but
  the first sample of each of these blocks is `c`.
-/

namespace SampleStream

variable {α : Type*}

/-! ## streaks -/

/-- How many samples at the end of the list satisfy `p` in a row. -/
def streak (p : α → Bool) (xs : List α) : Nat := (xs.reverse.takeWhile p).length

@[simp] theorem streak_nil (p : α → Bool) : streak p [] = 0 := rfl

/-- One more sample extends the streak or ends it. -/
theorem streak_concat (p : α → Bool) (xs : List α) (x : α) :
    streak p (xs ++ [x]) = if p x then streak p xs + 1 else 0 := by
  unfold streak
  rw [List.reverse_append, List.reverse_singleton, List.singleton_append, List.takeWhile_cons]
  split
  · rw [List.length_cons]
  · rfl

/-- Hits at the end make a streak longer. -/
theorem streak_append_of_all (p : α → Bool) (xs ys : List α) (h : ∀ y ∈ ys, p y = true) :
    streak p (xs ++ ys) = streak p xs + ys.length := by
  induction ys using List.reverseRecOn with
  | nil => simp
  | append_singleton ys y ih =>
      have hy : p y = true := h y (by simp)
      have hys : ∀ z ∈ ys, p z = true := fun z hz => h z (by simp [hz])
      rw [← List.append_assoc, streak_concat, if_pos hy, ih hys, List.length_append,
        List.length_singleton]
      omega

/-- A streak is no longer than the stream. -/
theorem streak_le_length (p : α → Bool) (xs : List α) : streak p xs ≤ xs.length := by
  have h := (List.takeWhile_sublist p (l := xs.reverse)).length_le
  rwa [List.length_reverse] at h

/-- The samples of a streak all satisfy the predicate. -/
theorem of_mem_rtake_of_le_streak {p : α → Bool} {xs : List α} {n : Nat} (h : n ≤ streak p xs) :
    ∀ x ∈ xs.rtake n, p x = true := by
  induction xs using List.reverseRecOn generalizing n with
  | nil => simp
  | append_singleton xs y ih =>
      cases n with
      | zero => simp
      | succ n =>
          rw [streak_concat] at h
          split at h
          · next hy =>
            intro x hx
            rw [List.rtake_concat_succ, List.mem_append, List.mem_singleton] at hx
            rcases hx with hx | rfl
            · exact ih (by omega) x hx
            · exact hy
          · omega

/-! ## a debounced counter -/

/-- Counts hits in a row and fires, starting over, each time it reaches `n`. -/
def debounce (n : Nat) (hit : Bool) (c : Nat) : Nat × Bool :=
  if hit then (if c + 1 < n then (c + 1, false) else (0, true)) else (0, false)

/-- **The debounced counter is the streak modulo `n`**: it holds the remainder
and fires exactly when the streak is a positive multiple of `n`. -/
theorem debounce_streak {n : Nat} (hn : 0 < n) (p : α → Bool) (xs : List α) (x : α) :
    debounce n (p x) (streak p xs % n) =
      (streak p (xs ++ [x]) % n,
        decide (0 < streak p (xs ++ [x]) ∧ n ∣ streak p (xs ++ [x]))) := by
  have hlt : streak p xs % n < n := Nat.mod_lt _ hn
  rw [streak_concat]
  unfold debounce
  cases hx : p x with
  | false => simp
  | true =>
      have hsucc : (streak p xs + 1) % n = (streak p xs % n + 1) % n := by rw [Nat.mod_add_mod]
      by_cases hc : streak p xs % n + 1 < n
      · have hmod : (streak p xs + 1) % n = streak p xs % n + 1 := by
          rw [hsucc, Nat.mod_eq_of_lt hc]
        have hdvd : ¬ n ∣ streak p xs + 1 := by
          rw [Nat.dvd_iff_mod_eq_zero, hmod]
          omega
        simp [hc, hmod, hdvd]
      · have hmod : (streak p xs + 1) % n = 0 := by
          rw [hsucc, show streak p xs % n + 1 = n by omega, Nat.mod_self]
        have hdvd : n ∣ streak p xs + 1 := Nat.dvd_of_mod_eq_zero hmod
        simp [hc, hmod, hdvd]

/-! ## blocks of three and their medians -/

/-- The number of the last complete block among those `p` selects. -/
def lastBlock (p : Nat → Bool) (xs : List α) : Option Nat :=
  ((List.range (xs.length / 3)).filter p).getLast?

/-- The last block is complete. -/
theorem lt_of_lastBlock {p : Nat → Bool} {xs : List α} {i : Nat} (h : lastBlock p xs = some i) :
    i < xs.length / 3 := by
  have hmem := List.mem_of_getLast? h
  exact List.mem_range.mp (List.mem_filter.mp hmem).1

/-- It is one of those selected. -/
theorem of_lastBlock {p : Nat → Bool} {xs : List α} {i : Nat} (h : lastBlock p xs = some i) :
    p i = true :=
  (List.mem_filter.mp (List.mem_of_getLast? h)).2

/-- Which block is the last depends on the number of samples only. -/
theorem lastBlock_map {β : Type*} (p : Nat → Bool) (f : α → β) (xs : List α) :
    lastBlock p (xs.map f) = lastBlock p xs := by
  rw [lastBlock, lastBlock, List.length_map]

/-- The samples of a complete block. -/
theorem take_drop_block {xs : List α} {i : Nat} (h : 3 * i + 2 < xs.length) :
    (xs.drop (3 * i)).take 3 = [xs[3 * i], xs[3 * i + 1], xs[3 * i + 2]] := by
  rw [List.drop_eq_getElem_cons (by omega), List.drop_eq_getElem_cons (by omega),
    List.drop_eq_getElem_cons (by omega)]
  rfl

/-- The last selected block is a selected one, and none before another. -/
theorem exists_lastBlock {p : Nat → Bool} {xs : List α} {j : Nat} (hp : p j = true)
    (hj : j < xs.length / 3) :
    ∃ i, lastBlock p xs = some i ∧ j ≤ i ∧ i < xs.length / 3 ∧ p i = true := by
  have hmem : j ∈ (List.range (xs.length / 3)).filter p := by simp [hj, hp]
  have hsorted : ((List.range (xs.length / 3)).filter p).Pairwise (· < ·) :=
    List.pairwise_lt_range.filter p
  obtain hnil | ⟨is, i, heq⟩ := List.eq_nil_or_concat' ((List.range (xs.length / 3)).filter p)
  · rw [hnil] at hmem
    contradiction
  · have hi := List.getLast?_concat (a := i) (l := is)
    rw [← heq] at hi
    refine ⟨i, hi, ?_, lt_of_lastBlock hi, of_lastBlock hi⟩
    rw [heq] at hmem hsorted
    cases List.mem_append.mp hmem with
    | inl hbefore =>
        exact le_of_lt ((List.pairwise_append.mp hsorted).2.2 j hbefore i List.mem_cons_self)
    | inr hlast => rw [List.mem_singleton.mp hlast]

/-- From sample `k` on, all but the first sample of each selected block is `c`. -/
def Settled (p : Nat → Bool) (k : Nat) (c : α) (xs : List α) : Prop :=
  ∀ j, (hj : j < xs.length) → k ≤ j → j % 3 ≠ 0 → p (j / 3) = true → xs[j] = c

/-- From its end on a stream is settled. -/
theorem settled_start (p : Nat → Bool) (c : α) (xs : List α) : Settled p xs.length c xs :=
  fun _ hj hk => absurd hk (by omega)

/-- It stays so with samples that are `c` where that is asked. -/
theorem settled_concat {p : Nat → Bool} {k : Nat} {c x : α} {xs : List α} (h : Settled p k c xs)
    (hx : xs.length % 3 ≠ 0 → p (xs.length / 3) = true → x = c) : Settled p k c (xs ++ [x]) := by
  intro j hj hk hmod hp
  rw [List.length_append, List.length_singleton] at hj
  by_cases hlast : j = xs.length
  · subst hlast
    rw [List.getElem_concat_length rfl]
    exact hx hmod hp
  · rw [List.getElem_append_left (by omega)]
    exact h j (by omega) hk hmod hp

variable [LinearOrder α]

/-- The median of three. -/
def median3 (a b c : α) : α := max (min a b) (min (max a b) c)

/-- The median of block `i`, when the stream has delivered all of it. -/
def blockMedian (xs : List α) (i : Nat) : Option α :=
  match (xs.drop (3 * i)).take 3 with
  | [a, b, c] => some (median3 a b c)
  | _ => none

/-- The median of the last complete block among those `p` selects. -/
def lastMedian (p : Nat → Bool) (xs : List α) : Option α :=
  (lastBlock p xs).bind (blockMedian xs)

/-- A complete block does not change as the stream goes on. -/
theorem blockMedian_concat {xs : List α} {i : Nat} (h : i < xs.length / 3) (x : α) :
    blockMedian (xs ++ [x]) i = blockMedian xs i := by
  have hle : 3 * i + 3 ≤ xs.length := by omega
  unfold blockMedian
  rw [List.drop_append_of_le_length (by omega), List.take_append_of_le_length]
  rw [List.length_drop]
  omega

/-- Inside a block, one more sample completes nothing. -/
theorem lastMedian_concat_of_lt (p : Nat → Bool) {xs : List α} (h : xs.length % 3 < 2) (x : α) :
    lastMedian p (xs ++ [x]) = lastMedian p xs := by
  have hlen : (xs ++ [x]).length / 3 = xs.length / 3 := by
    rw [List.length_append, List.length_singleton]
    omega
  have hlast : lastBlock p (xs ++ [x]) = lastBlock p xs := by
    unfold lastBlock
    rw [hlen]
  unfold lastMedian
  rw [hlast]
  cases hi : lastBlock p xs with
  | none => rfl
  | some i => exact blockMedian_concat (lt_of_lastBlock hi) x

/-- The third sample of a block completes it. -/
theorem lastMedian_concat_of_eq (p : Nat → Bool) {xs : List α} {a b : α}
    (h : xs.drop (3 * (xs.length / 3)) = [a, b]) (x : α) :
    lastMedian p (xs ++ [x]) =
      if p (xs.length / 3) then some (median3 a b x) else lastMedian p xs := by
  have hmod : xs.length % 3 = 2 := by
    have hd := congrArg List.length h
    rw [List.length_drop] at hd
    simp only [List.length_cons, List.length_nil] at hd
    omega
  have hlen : (xs ++ [x]).length / 3 = xs.length / 3 + 1 := by
    rw [List.length_append, List.length_singleton]
    omega
  have hblock : blockMedian (xs ++ [x]) (xs.length / 3) = some (median3 a b x) := by
    unfold blockMedian
    rw [List.drop_append_of_le_length (by omega), h]
    rfl
  have hlast : lastBlock p (xs ++ [x]) =
      if p (xs.length / 3) then some (xs.length / 3) else lastBlock p xs := by
    unfold lastBlock
    rw [hlen, List.range_succ, List.filter_append]
    cases hp : p (xs.length / 3) <;> simp [hp]
  unfold lastMedian
  rw [hlast]
  split
  · rw [Option.bind_some, hblock]
  · cases hi : lastBlock p xs with
    | none => rfl
    | some i => exact blockMedian_concat (lt_of_lastBlock hi) x

/-! ## what a block says of its samples -/

/-- The median of a complete block is that of its three samples. -/
theorem blockMedian_eq {xs : List α} {i : Nat} (h : 3 * i + 2 < xs.length) :
    blockMedian xs i = some (median3 xs[3 * i] xs[3 * i + 1] xs[3 * i + 2]) := by
  rw [blockMedian, take_drop_block h]

/-- A median is one of the three. -/
theorem median3_mem (a b c : α) : median3 a b c ∈ [a, b, c] := by
  grind [median3]

/-- An outlier does not get past the other two. -/
theorem median3_between (a b c : α) : min b c ≤ median3 a b c ∧ median3 a b c ≤ max b c := by
  grind [median3]

/-- A median is one of the samples. -/
theorem mem_of_lastMedian {p : Nat → Bool} {xs : List α} {m : α} (h : lastMedian p xs = some m) :
    m ∈ xs := by
  obtain ⟨i, -, hblock⟩ := Option.bind_eq_some_iff.mp h
  unfold blockMedian at hblock
  split at hblock
  · next a b c hsamples =>
    obtain rfl := Option.some.inj hblock
    have hmem := median3_mem a b c
    rw [← hsamples] at hmem
    exact List.mem_of_mem_drop (List.mem_of_mem_take hmem)
  · contradiction

/-- The last median is one of the samples from the block's first on. -/
theorem exists_getElem_of_lastBlock {p : Nat → Bool} {xs : List α} {i : Nat}
    (h : lastBlock p xs = some i) :
    ∃ (j : Nat) (hj : j < xs.length), 3 * i ≤ j ∧ lastMedian p xs = some xs[j] := by
  have hlt := lt_of_lastBlock h
  have hmem := median3_mem xs[3 * i] xs[3 * i + 1] xs[3 * i + 2]
  rw [lastMedian, h, Option.bind_some, blockMedian_eq (by omega)]
  simp only [List.mem_cons, List.not_mem_nil, or_false] at hmem
  obtain h₀ | h₁ | h₂ := hmem
  · exact ⟨3 * i, by omega, le_refl _, by rw [h₀]⟩
  · exact ⟨3 * i + 1, by omega, by omega, by rw [h₁]⟩
  · exact ⟨3 * i + 2, by omega, by omega, by rw [h₂]⟩

/-- Once a selected block is complete, the median is one of the samples. -/
theorem exists_lastMedian {p : Nat → Bool} {j : Nat} {xs : List α} (hp : p j = true)
    (hj : 3 * j + 3 ≤ xs.length) : ∃ x ∈ xs, lastMedian p xs = some x := by
  have hblock : j < xs.length / 3 := by omega
  obtain ⟨i, hi, -⟩ := exists_lastBlock hp hblock
  obtain ⟨k, hk, -, hmedian⟩ := exists_getElem_of_lastBlock hi
  exact ⟨xs[k], List.getElem_mem hk, hmedian⟩

/-- Where the last complete block begins after `xs`, its median comes from what
follows. -/
theorem exists_lastMedian_append {xs ys : List α}
    (h : (xs ++ ys).length % 3 + 3 ≤ ys.length) :
    ∃ y ∈ ys, lastMedian (fun _ => true) (xs ++ ys) = some y := by
  have hlen : (xs ++ ys).length = xs.length + ys.length := List.length_append
  have hblock : (xs ++ ys).length / 3 - 1 < (xs ++ ys).length / 3 := by omega
  obtain ⟨i, hi, hji, -⟩ := exists_lastBlock (p := fun _ => true) rfl hblock
  obtain ⟨k, hk, hik, hmedian⟩ := exists_getElem_of_lastBlock hi
  refine ⟨(xs ++ ys)[k], ?_, hmedian⟩
  rw [List.getElem_append_right (by omega)]
  exact List.getElem_mem _

/-- A block is the same as soon as it is complete. -/
theorem blockMedian_take {xs : List α} {i n : Nat} (h : 3 * i + 3 ≤ n) :
    blockMedian (xs.take n) i = blockMedian xs i := by
  rw [blockMedian, blockMedian, List.drop_take, List.take_take, min_eq_left (by omega)]

/-- A block with a median is complete. -/
theorem lt_of_blockMedian {xs : List α} {i : Nat} {m : α} (h : blockMedian xs i = some m) :
    3 * i + 2 < xs.length := by
  unfold blockMedian at h
  split at h
  · next a b c hsamples =>
    have hlen := congrArg List.length hsamples
    simp only [List.length_take, List.length_drop, List.length_cons, List.length_nil] at hlen
    omega
  · contradiction

/-- What holds of the last median at every time is what holds of the medians of
all selected blocks. -/
theorem forall_lastMedian_take_iff (p : Nat → Bool) (P : α → Prop) (xs : List α) :
    (∀ k < xs.length, ∀ m, lastMedian p (xs.take (k + 1)) = some m → P m) ↔
      ∀ i m, p i = true → blockMedian xs i = some m → P m := by
  constructor
  · intro h i m hp hm
    have hlt := lt_of_blockMedian hm
    refine h (3 * i + 2) hlt m ?_
    have hcomplete : i < (xs.take (3 * i + 3)).length / 3 := by
      rw [List.length_take]
      omega
    obtain ⟨j, hj, hij, hjlt, -⟩ := exists_lastBlock hp hcomplete
    obtain rfl : j = i := by
      rw [List.length_take] at hjlt
      omega
    rw [lastMedian, hj, Option.bind_some, blockMedian_take le_rfl, hm]
  · intro h k hk m hm
    obtain ⟨i, hi, hblock⟩ := Option.bind_eq_some_iff.mp hm
    have hlt := lt_of_lastBlock hi
    rw [List.length_take] at hlt
    rw [blockMedian_take (by omega)] at hblock
    exact h i m (of_lastBlock hi) hblock

/-- A block with two settled samples has their value for its median, and so has
every later selected one. -/
theorem lastMedian_of_settled {p : Nat → Bool} {k j : Nat} {c : α} {xs : List α}
    (h : Settled p k c xs) (hp : p j = true) (hk : k ≤ 3 * j + 1) (hj : 3 * j + 3 ≤ xs.length) :
    lastMedian p xs = some c := by
  have hblock : j < xs.length / 3 := by omega
  obtain ⟨i, hi, hji, hlt, hpi⟩ := exists_lastBlock hp hblock
  have hsecond : xs[3 * i + 1] = c :=
    h (3 * i + 1) (by omega) (by omega) (by omega) (by rwa [show (3 * i + 1) / 3 = i by omega])
  have hthird : xs[3 * i + 2] = c :=
    h (3 * i + 2) (by omega) (by omega) (by omega) (by rwa [show (3 * i + 2) / 3 = i by omega])
  rw [lastMedian, hi, Option.bind_some, blockMedian_eq (by omega), hsecond, hthird]
  simp [median3]

/-- Seven samples are enough where one of two successive blocks is selected. -/
theorem lastMedian_of_settled_of_alternating {p : Nat → Bool} {k : Nat} {c : α} {xs : List α}
    (hp : ∀ j, p j = true ∨ p (j + 1) = true) (h : Settled p k c xs) (hlen : k + 7 ≤ xs.length) :
    lastMedian p xs = some c := by
  cases hp (xs.length / 3 - 2) with
  | inl hj => exact lastMedian_of_settled h hj (by omega) (by omega)
  | inr hj => exact lastMedian_of_settled h hj (by omega) (by omega)

end SampleStream

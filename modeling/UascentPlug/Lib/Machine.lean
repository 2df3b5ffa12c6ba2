import Mathlib.Order.Basic
import Mathlib.Tactic.TypeStar

/-!
# UascentPlug.Lib.Machine

Two kinds of machine and the rules for reasoning about their runs.

* `Mealy`: a deterministic machine that reads one input at a time and emits
  a list of outputs for it.  `exec` is the state after a list of inputs,
  `trace` everything emitted on the way; `Admits ok` says that every input
  was acceptable in the state it met, `Ever q` that some input met `q`, and
  `count q` is how many did.
* `Lts`: a labelled transition system whose steps may be disabled.  `run`
  is defined exactly when every event of the list was enabled in turn, so
  quantifying over lists of events is quantifying over interleavings.

For each, a property kept by one step is lifted to whole runs once
(`Mealy.exec_invariant`, `Lts.run_invariant`), and so is a property that one
step keeps exactly under a condition (`Lts.forall_prefix_iff_admits`).  Two
machines that do the same at acceptable inputs do the same in whole runs of
them (`Mealy.exec_congr`, `Lts.run_congr`).
-/

/-- A machine that reads inputs `ι` and emits outputs `ο`. -/
structure Mealy (σ ι ο : Type*) where
  /-- The next state and what is emitted on the way to it. -/
  step : σ → ι → σ × List ο

namespace Mealy

variable {σ ι ο : Type*} (M : Mealy σ ι ο)

/-- The state after reading a list of inputs. -/
def exec : σ → List ι → σ
  | s, [] => s
  | s, i :: is => exec (M.step s i).1 is

/-- Everything emitted while reading a list of inputs, in order. -/
def trace : σ → List ι → List ο
  | _, [] => []
  | s, i :: is => (M.step s i).2 ++ trace (M.step s i).1 is

/-- Every input of the list is acceptable in the state it is read in. -/
def Admits (ok : σ → ι → Prop) : σ → List ι → Prop
  | _, [] => True
  | s, i :: is => ok s i ∧ Admits ok (M.step s i).1 is

/-- Some input of the list meets a state in which `q` holds of it. -/
def Ever (q : σ → ι → Prop) : σ → List ι → Prop
  | _, [] => False
  | s, i :: is => q s i ∨ Ever q (M.step s i).1 is

/-- How many inputs of the list meet a state in which `q` holds of them. -/
def count (q : σ → ι → Bool) : σ → List ι → Nat
  | _, [] => 0
  | s, i :: is => (if q s i then 1 else 0) + count q (M.step s i).1 is

/-! ## runs over appended inputs -/

@[simp] theorem exec_nil (s : σ) : M.exec s [] = s := rfl

@[simp] theorem exec_cons (s : σ) (i : ι) (is : List ι) :
    M.exec s (i :: is) = M.exec (M.step s i).1 is := rfl

@[simp] theorem trace_nil (s : σ) : M.trace s [] = [] := rfl

@[simp] theorem trace_cons (s : σ) (i : ι) (is : List ι) :
    M.trace s (i :: is) = (M.step s i).2 ++ M.trace (M.step s i).1 is := rfl

@[simp] theorem admits_nil (ok : σ → ι → Prop) (s : σ) : M.Admits ok s [] := trivial

@[simp] theorem admits_cons (ok : σ → ι → Prop) (s : σ) (i : ι) (is : List ι) :
    M.Admits ok s (i :: is) ↔ ok s i ∧ M.Admits ok (M.step s i).1 is := Iff.rfl

@[simp] theorem exec_append (s : σ) (is js : List ι) :
    M.exec s (is ++ js) = M.exec (M.exec s is) js := by
  induction is generalizing s with
  | nil => rfl
  | cons i is ih => simp only [List.cons_append, exec_cons, ih]

@[simp] theorem trace_append (s : σ) (is js : List ι) :
    M.trace s (is ++ js) = M.trace s is ++ M.trace (M.exec s is) js := by
  induction is generalizing s with
  | nil => rfl
  | cons i is ih => simp only [List.cons_append, trace_cons, exec_cons, ih, List.append_assoc]

@[simp] theorem admits_append (ok : σ → ι → Prop) (s : σ) (is js : List ι) :
    M.Admits ok s (is ++ js) ↔ M.Admits ok s is ∧ M.Admits ok (M.exec s is) js := by
  induction is generalizing s with
  | nil => simp
  | cons i is ih => simp only [List.cons_append, admits_cons, exec_cons, ih, and_assoc]

@[simp] theorem ever_nil (q : σ → ι → Prop) (s : σ) : M.Ever q s [] ↔ False := Iff.rfl

@[simp] theorem ever_cons (q : σ → ι → Prop) (s : σ) (i : ι) (is : List ι) :
    M.Ever q s (i :: is) ↔ q s i ∨ M.Ever q (M.step s i).1 is := Iff.rfl

@[simp] theorem ever_append (q : σ → ι → Prop) (s : σ) (is js : List ι) :
    M.Ever q s (is ++ js) ↔ M.Ever q s is ∨ M.Ever q (M.exec s is) js := by
  induction is generalizing s with
  | nil => simp
  | cons i is ih => simp only [List.cons_append, ever_cons, exec_cons, ih, or_assoc]

@[simp] theorem count_append (q : σ → ι → Bool) (s : σ) (is js : List ι) :
    M.count q s (is ++ js) = M.count q s is + M.count q (M.exec s is) js := by
  induction is generalizing s with
  | nil => simp [count]
  | cons i is ih => simp only [List.cons_append, count, exec_cons, ih, Nat.add_assoc]

/-- A stronger acceptance condition admits fewer inputs. -/
theorem Admits.imp {ok ok' : σ → ι → Prop} (h : ∀ s i, ok s i → ok' s i) {s : σ} {is : List ι}
    (hs : M.Admits ok s is) : M.Admits ok' s is := by
  induction is generalizing s with
  | nil => trivial
  | cons i is ih => exact ⟨h s i hs.1, ih hs.2⟩

/-! ## from one step to whole runs -/

/-- **Run lemma, invariants**: a property kept by every acceptable step holds
after every run of acceptable inputs. -/
theorem exec_invariant {P : σ → Prop} {ok : σ → ι → Prop}
    (hstep : ∀ s i, P s → ok s i → P (M.step s i).1) {s : σ} {is : List ι}
    (hs : P s) (hok : M.Admits ok s is) : P (M.exec s is) := by
  induction is generalizing s with
  | nil => exact hs
  | cons i is ih => exact ih (hstep s i hs hok.1) hok.2

/-! ## machines that agree on acceptable inputs -/

section Congr

variable {M} {N : Mealy σ ι ο} {ok : σ → ι → Prop}

/-- Inputs acceptable along a run of one machine are acceptable along the other's. -/
theorem admits_congr (h : ∀ s i, ok s i → N.step s i = M.step s i) {s : σ} {is : List ι}
    (hok : N.Admits ok s is) : M.Admits ok s is := by
  induction is generalizing s with
  | nil => trivial
  | cons i is ih => exact ⟨hok.1, ih (h s i hok.1 ▸ hok.2)⟩

/-- Both machines end in the same state. -/
theorem exec_congr (h : ∀ s i, ok s i → N.step s i = M.step s i) {s : σ} {is : List ι}
    (hok : N.Admits ok s is) : N.exec s is = M.exec s is := by
  induction is generalizing s with
  | nil => rfl
  | cons i is ih =>
      rw [exec_cons, exec_cons, ih hok.2, h s i hok.1]

/-- Both machines emit the same. -/
theorem trace_congr (h : ∀ s i, ok s i → N.step s i = M.step s i) {s : σ} {is : List ι}
    (hok : N.Admits ok s is) : N.trace s is = M.trace s is := by
  induction is generalizing s with
  | nil => rfl
  | cons i is ih =>
      rw [trace_cons, trace_cons, ih hok.2, h s i hok.1]

/-- The same inputs are counted in both. -/
theorem count_congr (h : ∀ s i, ok s i → N.step s i = M.step s i) (q : σ → ι → Bool) {s : σ}
    {is : List ι} (hok : N.Admits ok s is) : N.count q s is = M.count q s is := by
  induction is generalizing s with
  | nil => rfl
  | cons i is ih =>
      rw [count, count, ih hok.2, h s i hok.1]

end Congr

end Mealy

/-- A labelled transition system: `step s e` is `none` when event `e` cannot
happen in state `s`. -/
structure Lts (σ ε : Type*) where
  /-- The state an enabled event leads to. -/
  step : σ → ε → Option σ

namespace Lts

variable {σ ε : Type*} (L : Lts σ ε)

/-- The state after a list of events, when each of them is enabled in turn. -/
def run : σ → List ε → Option σ
  | s, [] => some s
  | s, e :: es => (L.step s e).bind fun t => run t es

/-- Every enabled event of the list is acceptable in the state it happens in. -/
def Admits (ok : σ → ε → Prop) : σ → List ε → Prop
  | _, [] => True
  | s, e :: es => ∀ t, L.step s e = some t → ok s e ∧ Admits ok t es

@[simp] theorem run_nil (s : σ) : L.run s [] = some s := rfl

/-- A run takes its first event and goes on from there. -/
theorem run_cons_eq_some {s u : σ} {e : ε} {es : List ε} :
    L.run s (e :: es) = some u ↔ ∃ t, L.step s e = some t ∧ L.run t es = some u := by
  simp only [run, Option.bind_eq_some_iff]

/-- A run over two lists is the second from where the first ends. -/
theorem run_append (s : σ) (es fs : List ε) :
    L.run s (es ++ fs) = (L.run s es).bind fun t => L.run t fs := by
  induction es generalizing s with
  | nil => rfl
  | cons e es ih =>
      simp only [List.cons_append, run]
      cases L.step s e with
      | none => rfl
      | some t => exact ih t

/-- A run continued by a run is a run. -/
theorem run_append_of_run {s t u : σ} {es fs : List ε} (h : L.run s es = some t)
    (h' : L.run t fs = some u) : L.run s (es ++ fs) = some u := by
  rw [run_append, h]
  exact h'

/-- **Run lemma, invariants**: a property kept by every enabled event of a kind
holds after every run of events of that kind. -/
theorem run_invariant {P : σ → Prop} {Q : ε → Prop}
    (hstep : ∀ s e t, P s → Q e → L.step s e = some t → P t) {s t : σ} {es : List ε}
    (hs : P s) (hok : ∀ e ∈ es, Q e) (hrun : L.run s es = some t) : P t := by
  induction es generalizing s with
  | nil => exact Option.some.inj hrun ▸ hs
  | cons e es ih =>
      obtain ⟨u, hu, hrun'⟩ := L.run_cons_eq_some.mp hrun
      exact ih (hstep s e u hs (hok e List.mem_cons_self) hu)
        (fun e' he' => hok e' (List.mem_cons_of_mem e he')) hrun'

/-- A property kept by every enabled event holds after every run. -/
theorem run_invariant_of_step {P : σ → Prop} (hstep : ∀ s e t, P s → L.step s e = some t → P t)
    {s t : σ} {es : List ε} (hs : P s) (hrun : L.run s es = some t) : P t :=
  L.run_invariant (Q := fun _ => True) (fun s e t h _ => hstep s e t h) hs (fun _ _ => trivial) hrun

/-- Events are admitted in two parts when the first part runs. -/
theorem admits_append_of_run {ok : σ → ε → Prop} {s t : σ} {es fs : List ε}
    (h : L.run s es = some t) :
    L.Admits ok s (es ++ fs) ↔ L.Admits ok s es ∧ L.Admits ok t fs := by
  induction es generalizing s with
  | nil => simp [Option.some.inj h, Admits]
  | cons e es ih =>
      obtain ⟨u, hu, hrun⟩ := L.run_cons_eq_some.mp h
      simp [Admits, hu, ih hrun, and_assoc]

/-- Nothing is asked of an event that cannot happen. -/
theorem admits_cons_of_none {ok : σ → ε → Prop} {s : σ} {e : ε} {es : List ε}
    (h : L.step s e = none) : L.Admits ok s (e :: es) := by
  simp [Admits, h]

/-- Of one that can, and of those after it, the same is asked. -/
theorem admits_cons_of_some {ok : σ → ε → Prop} {s t : σ} {e : ε} {es : List ε}
    (h : L.step s e = some t) : L.Admits ok s (e :: es) ↔ ok s e ∧ L.Admits ok t es := by
  simp [Admits, h]

instance decidableAdmits (ok : σ → ε → Prop) [∀ s e, Decidable (ok s e)] :
    (s : σ) → (es : List ε) → Decidable (L.Admits ok s es)
  | _, [] => isTrue trivial
  | s, e :: es =>
      match h : L.step s e with
      | none => isTrue (L.admits_cons_of_none h)
      | some t =>
          have := decidableAdmits ok t es
          decidable_of_iff' _ (L.admits_cons_of_some h)

/-- **Run lemma, conditional invariants**: a property kept by every acceptable
event holds after every run of acceptable events. -/
theorem run_invariant_of_admits {P : σ → Prop} {ok : σ → ε → Prop}
    (hstep : ∀ s e t, P s → ok s e → L.step s e = some t → P t) {s t : σ} {es : List ε}
    (hs : P s) (hok : L.Admits ok s es) (hrun : L.run s es = some t) : P t := by
  induction es generalizing s with
  | nil => exact Option.some.inj hrun ▸ hs
  | cons e es ih =>
      obtain ⟨u, hu, hrun'⟩ := L.run_cons_eq_some.mp hrun
      obtain ⟨hacceptable, hrest⟩ := hok u hu
      exact ih (hstep s e u hs hacceptable hu) hrest hrun'

/-- A stronger acceptance condition admits fewer events. -/
theorem Admits.imp {ok ok' : σ → ε → Prop} (h : ∀ s e, ok s e → ok' s e) {s : σ} {es : List ε}
    (hs : L.Admits ok s es) : L.Admits ok' s es := by
  induction es generalizing s with
  | nil => trivial
  | cons e es ih => exact fun t ht => ⟨h s e (hs t ht).1, ih (hs t ht).2⟩

/-- **Run lemma, agreement**: two systems that take acceptable events alike take
runs of them alike, and find the same events acceptable. -/
theorem run_congr {L' : Lts σ ε} {ok : σ → ε → Prop}
    (h : ∀ s e, ok s e → L'.step s e = L.step s e) {s t : σ} {es : List ε}
    (hok : L'.Admits ok s es) (hrun : L'.run s es = some t) :
    L.run s es = some t ∧ L.Admits ok s es := by
  induction es generalizing s with
  | nil => exact ⟨hrun, trivial⟩
  | cons e es ih =>
      obtain ⟨u, hu, hrun'⟩ := L'.run_cons_eq_some.mp hrun
      obtain ⟨hacceptable, hrest⟩ := hok u hu
      obtain ⟨hrun'', hadmits⟩ := ih hrest hrun'
      rw [h s e hacceptable] at hu
      exact ⟨L.run_cons_eq_some.mpr ⟨u, hu, hrun''⟩,
        (L.admits_cons_of_some hu).mpr ⟨hacceptable, hadmits⟩⟩

/-- What holds at every prefix is what each step is asked for. -/
theorem forall_prefix_iff_admits_after {P : σ → Prop} {I : List ε → σ → Prop}
    {ok : σ → ε → Prop} (hinv : ∀ s e t, P s → L.step s e = some t → P t)
    (hstep : ∀ es s e t, P s → I es s → L.step s e = some t → (I (es ++ [e]) t ↔ ok s e))
    {s : σ} (hs : P s) {es₀ : List ε} (hI : I es₀ s) (es : List ε) :
    (∀ fs, fs <+: es → ∀ t, L.run s fs = some t → I (es₀ ++ fs) t) ↔ L.Admits ok s es := by
  induction es generalizing s es₀ with
  | nil =>
      refine ⟨fun _ => trivial, fun _ fs hfs t hrun => ?_⟩
      rw [List.prefix_nil.mp hfs] at hrun ⊢
      rw [← Option.some.inj hrun, List.append_nil]
      exact hI
  | cons e es ih =>
      constructor
      · intro h t ht
        have hrun : L.run s [e] = some t := L.run_cons_eq_some.mpr ⟨t, ht, rfl⟩
        have hIt : I (es₀ ++ [e]) t := h [e] ⟨es, rfl⟩ t hrun
        refine ⟨(hstep es₀ s e t hs hI ht).mp hIt, (ih (hinv s e t hs ht) hIt).mp ?_⟩
        intro fs hfs u hu
        rw [List.append_assoc]
        exact h (e :: fs) ((List.prefix_cons_inj e).mpr hfs) u (L.run_cons_eq_some.mpr ⟨t, ht, hu⟩)
      · intro h fs hfs u hu
        cases fs with
        | nil =>
            rw [← Option.some.inj hu, List.append_nil]
            exact hI
        | cons f fs =>
            obtain ⟨rfl, hfs'⟩ := List.cons_prefix_cons.mp hfs
            obtain ⟨t, ht, hu'⟩ := L.run_cons_eq_some.mp hu
            obtain ⟨hok, hrest⟩ := h t ht
            have hIt : I (es₀ ++ [f]) t := (hstep es₀ s f t hs hI ht).mpr hok
            have hall := (ih (hinv s f t hs ht) hIt).mpr hrest fs hfs' u hu'
            rwa [List.append_assoc] at hall

/-- **Run lemma, exactness**: let `I` say of a state that it is right after the
events so far.  If an enabled event keeps it right exactly when it is
acceptable, then a run is right all along exactly when all its events are. -/
theorem forall_prefix_iff_admits {P : σ → Prop} {I : List ε → σ → Prop} {ok : σ → ε → Prop}
    (hinv : ∀ s e t, P s → L.step s e = some t → P t)
    (hstep : ∀ es s e t, P s → I es s → L.step s e = some t → (I (es ++ [e]) t ↔ ok s e))
    {s : σ} (hs : P s) (hI : I [] s) (es : List ε) :
    (∀ fs, fs <+: es → ∀ t, L.run s fs = some t → I fs t) ↔ L.Admits ok s es :=
  L.forall_prefix_iff_admits_after hinv hstep hs hI es

end Lts

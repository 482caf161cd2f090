import Dialogue.Choice

/-!
# Lockstep of computations

Two computations run in lockstep if they choose between equally many alternatives
at the same time and their results are related, whatever is chosen.  Computations
with a state run in lockstep if they do so from related states, with equal results
and related states afterwards.

Main results:

- Theorem `Choice.Related.bind`: sequences run in lockstep if their parts do.
- Theorem `Choice.Related.follow`: the same stream of draws leads to related
  results, and is used up to the same point.
- Theorem `Choice.exists_picks_of_mem_outcomes`: every outcome comes of some
  draws, wherever they stand in a stream.
-/

namespace Dialogue

/-! ## Draws that lead to an outcome -/

namespace Draws

/-- Whether a stream gives some values next. -/
def Offers (draws : Draws) (picks : List Nat) : Prop :=
  ∀ (i : Nat) (h : i < picks.length), draws.value (draws.used + i) = picks[i]

/-- The stream after some draws have been used. -/
def skip (draws : Draws) (count : Nat) : Draws := { draws with used := draws.used + count }

/-- A stream gives some values and then others. -/
theorem offers_append {draws : Draws} {picks later : List Nat} :
    draws.Offers (picks ++ later) ↔
      draws.Offers picks ∧ (draws.skip picks.length).Offers later := by
  constructor
  · intro h
    constructor
    · intro i hi
      have hboth : i < (picks ++ later).length := by
        rw [List.length_append]
        omega
      rw [h i hboth, List.getElem_append_left hi]
    · intro i hi
      have hboth : picks.length + i < (picks ++ later).length := by
        rw [List.length_append]
        omega
      have hvalue := h (picks.length + i) hboth
      rw [List.getElem_append_right (Nat.le_add_right _ _)] at hvalue
      simpa [skip, Nat.add_assoc] using hvalue
  · rintro ⟨hpicks, hlater⟩ i hi
    rcases Nat.lt_or_ge i picks.length with hlt | hge
    · rw [List.getElem_append_left hlt, hpicks i hlt]
    · rw [List.length_append] at hi
      have hvalue := hlater (i - picks.length) (by omega)
      rw [List.getElem_append_right hge, ← hvalue, skip, Nat.add_assoc, Nat.add_sub_cancel' hge]

/-- There is a stream for any values. -/
theorem exists_offers (picks : List Nat) :
    ∃ value : Nat → Nat, Offers ⟨value, 0⟩ picks := by
  refine ⟨fun i => picks.getD i 0, ?_⟩
  intro i hi
  simp [hi]

end Draws

namespace Choice

/-- Every outcome comes of some draws, wherever they stand in a stream. -/
theorem exists_picks_of_mem_outcomes {α : Type} {x : Choice α} {a : α} (h : a ∈ x.outcomes) :
    ∃ picks : List Nat, ∀ draws : Draws, draws.Offers picks →
      x.follow draws = (a, draws.skip picks.length) := by
  induction x with
  | done b =>
    cases List.mem_singleton.1 h
    exact ⟨[], fun draws _ => rfl⟩
  | pick n next ih =>
    rcases List.mem_flatMap.1 h with ⟨i, -, hnext⟩
    rcases ih i hnext with ⟨picks, hpicks⟩
    refine ⟨i.val :: picks, fun draws hoffers => ?_⟩
    rcases (@Draws.offers_append draws [i.val] picks).1 hoffers with ⟨hfirst, hlater⟩
    have hdrawn : draws.value draws.used = i.val := hfirst 0 Nat.one_pos
    have hi : Fin.ofNat (n + 1) (draws.value draws.used) = i := by
      rw [hdrawn]
      exact Fin.ofNat_val_eq_self i
    have hrest := hpicks _ hlater
    simp only [follow, Draws.next, hi]
    rw [List.length_cons, Nat.add_comm picks.length 1]
    simpa [Draws.skip, Nat.add_assoc] using hrest

/-- A computation that goes on without further choices uses the same draws. -/
theorem follow_bind_pure {α β : Type} (x : Choice α) (f : α → β) (draws : Draws) :
    (x >>= fun a => pure (f a)).follow draws = (f (x.follow draws).1, (x.follow draws).2) :=
  follow_bind x (fun a => done (f a)) draws

/-! ## Computations without a state -/

/-- Computations that choose alike, with related results. -/
inductive Related {α β : Type} (R : α → β → Prop) : Choice α → Choice β → Prop
  | done {a b} (hab : R a b) : Related R (done a) (done b)
  | pick {n next next'} (hnext : ∀ i, Related R (next i) (next' i)) :
    Related R (pick n next) (pick n next')

namespace Related

variable {α β γ δ : Type} {R : α → β → Prop} {S : γ → δ → Prop}
  {x : Choice α} {y : Choice β}

/-- Sequences run in lockstep if their parts do. -/
theorem bind {f : α → Choice γ} {g : β → Choice δ} (hxy : Related R x y)
    (hfg : ∀ a b, R a b → Related S (f a) (g b)) : Related S (x >>= f) (y >>= g) := by
  induction hxy with
  | done hab => exact hfg _ _ hab
  | pick hnext ih => exact pick ih

/-- One of two computations that run in lockstep may go on without further choices. -/
theorem bind_pure_left {f : α → γ} {T : γ → β → Prop} (hxy : Related R x y)
    (hf : ∀ a b, R a b → T (f a) b) : Related T (x >>= fun a => pure (f a)) y := by
  rw [← bind_pure y]
  exact hxy.bind fun a b hab => done (hf a b hab)

/-- The same stream of draws leads to related results, and is used up to the same
point. -/
theorem follow (hxy : Related R x y) (draws : Draws) :
    R (x.follow draws).1 (y.follow draws).1 ∧ (x.follow draws).2 = (y.follow draws).2 := by
  induction hxy generalizing draws with
  | done hab => exact ⟨hab, rfl⟩
  | @pick n next next' hnext ih => exact ih (draws.next n).1 (draws.next n).2

end Related

end Choice

/-! ## Computations with a state -/

/-- Computations that choose alike from related states, with equal results and
related states afterwards. -/
def Lockstep {σ α : Type} (S : σ → σ → Prop) (x y : StateT σ Choice α) : Prop :=
  ∀ s s', S s s' →
    Choice.Related (fun out out' => out.1 = out'.1 ∧ S out.2 out'.2) (x.run s) (y.run s')

namespace Lockstep

variable {σ α β : Type} {S : σ → σ → Prop}

/-- Returning the same result runs in lockstep. -/
theorem pure (a : α) : Lockstep S (pure a) (pure a) := by
  intro s s' hs
  exact .done ⟨rfl, hs⟩

/-- Sequences run in lockstep if their parts do. -/
theorem bind {x y : StateT σ Choice α} {f g : α → StateT σ Choice β} (hxy : Lockstep S x y)
    (hfg : ∀ a, Lockstep S (f a) (g a)) : Lockstep S (x >>= f) (y >>= g) := by
  intro s s' hs
  refine (hxy s s' hs).bind ?_
  rintro ⟨a, t⟩ ⟨b, t'⟩ ⟨hab, ht⟩
  cases hab
  exact hfg a t t' ht

/-- A choice that does not look at the state runs in lockstep. -/
theorem among (n : Nat) : Lockstep S (Choice.among n) (Choice.among n) := by
  intro s s' hs
  exact .pick fun i => .done ⟨rfl, hs⟩

end Lockstep

end Dialogue

import Dialogue.Proofs.Resolution.Stages
import Mathlib.Data.List.Basic

/-!
# Nested evaluations

The evaluation of a category may ask a nested question, which leads to the evaluation of
another category, or of the same one again, one level deeper.  The journal of a request
tells which evaluations have begun and which are over, and so which ones are open at every
moment.

Main results:

- Theorem `Nested.cons`: what keeps the open evaluations nested.
- Theorem `stages_journal`: they are nested at every stage of a request.
- Theorem `nested_of_resolve`: whatever is asked, the open evaluations are at the depths
  0, 1, 2 and so on in turn, and no more than the limit allows.
-/

namespace Dialogue

/-! ## Open evaluations -/

/-- The depths of the evaluations that have begun and are not over, the innermost first.
The latest entry of the journal comes first. -/
def openDepths : List Happening → List Nat
  | [] => []
  | .matched depth _ _ :: earlier => depth :: openDepths earlier
  | .finished _ :: earlier => (openDepths earlier).tail
  | _ :: earlier => openDepths earlier

/-- The depths below a given one, the greatest first. -/
def depthsBelow (depth : Nat) : List Nat := (List.range depth).reverse

/-- One more depth comes in front. -/
theorem depthsBelow_succ (depth : Nat) : depthsBelow (depth + 1) = depth :: depthsBelow depth := by
  rw [depthsBelow, List.range_succ, List.reverse_append]
  rfl

/-- A journal at every moment of which the open evaluations are at the depths 0, 1, 2 and so on
up to the limit at most, each inside the one before, and in which only the innermost one ends. -/
structure Nested (limit : Nat) (journal : List Happening) : Prop where
  chain : ∀ later earlier, journal = later ++ earlier →
    ∃ n, n ≤ limit + 1 ∧ openDepths earlier = depthsBelow n
  innermost : ∀ later depth earlier, journal = later ++ .finished depth :: earlier →
    (openDepths earlier).head? = some depth

/-- Nothing is open before anything has happened. -/
theorem Nested.nil (limit : Nat) : Nested limit [] := by
  constructor
  · intro later earlier hjournal
    obtain ⟨-, rfl⟩ := List.append_eq_nil_iff.1 hjournal.symm
    exact ⟨0, Nat.zero_le _, rfl⟩
  · intro later depth earlier hjournal
    simp at hjournal

/-- One more thing happens: the evaluations that are open then are nested, and if one ends it is
the innermost. -/
theorem Nested.cons {limit n : Nat} {journal : List Happening} {happening : Happening}
    (h : Nested limit journal) (hle : n ≤ limit + 1)
    (hopen : openDepths (happening :: journal) = depthsBelow n)
    (hfinished : ∀ depth, happening = .finished depth →
      (openDepths journal).head? = some depth) :
    Nested limit (happening :: journal) := by
  constructor
  · intro later earlier hjournal
    cases later with
    | nil =>
      rw [List.nil_append] at hjournal
      exact ⟨n, hle, hjournal ▸ hopen⟩
    | cons _ later => exact h.chain later earlier (List.cons.inj hjournal).2
  · intro later depth earlier hjournal
    cases later with
    | nil =>
      rcases List.cons.inj hjournal with ⟨hfirst, rfl⟩
      exact hfinished depth hfirst
    | cons _ later => exact h.innermost later depth earlier (List.cons.inj hjournal).2

/-! ## Stages -/

/-- A nested journal after which the evaluations at the depths below a given one are open. -/
structure OpenBelow (limit depth : Nat) (journal : List Happening) : Prop where
  nested : Nested limit journal
  opened : openDepths journal = depthsBelow depth
  depth_le : depth ≤ limit + 1

section Stages

variable {limit depth : Nat} {journal : List Happening}

/-- Nothing but a match or an end changes which evaluations are open. -/
theorem OpenBelow.cons (h : OpenBelow limit depth journal) {happening : Happening}
    (hopen : openDepths (happening :: journal) = openDepths journal)
    (hother : ∀ depth, happening ≠ .finished depth) :
    OpenBelow limit depth (happening :: journal) := by
  have hopened : openDepths (happening :: journal) = depthsBelow depth := hopen.trans h.opened
  have hnested := h.nested.cons h.depth_le hopened
    fun depth hfinished => absurd hfinished (hother depth)
  exact ⟨hnested, hopened, h.depth_le⟩

/-- A match opens an evaluation at the next depth. -/
theorem OpenBelow.matched (h : OpenBelow limit depth journal) (hle : depth ≤ limit) (index : Nat)
    (captures : List String) :
    OpenBelow limit (depth + 1) (.matched depth index captures :: journal) := by
  have hopened : openDepths (.matched depth index captures :: journal) =
      depthsBelow (depth + 1) := by
    rw [depthsBelow_succ, ← h.opened]
    rfl
  exact ⟨h.nested.cons (Nat.succ_le_succ hle) hopened nofun, hopened, Nat.succ_le_succ hle⟩

/-- The evaluation that ends is the innermost one. -/
theorem OpenBelow.finished (h : OpenBelow limit (depth + 1) journal) :
    OpenBelow limit depth (.finished depth :: journal) := by
  have hinner : openDepths journal = depth :: depthsBelow depth :=
    h.opened.trans (depthsBelow_succ depth)
  have hopened : openDepths (.finished depth :: journal) = depthsBelow depth := by
    rw [openDepths, hinner, List.tail_cons]
  have hle : depth ≤ limit + 1 := Nat.le_of_succ_le h.depth_le
  refine ⟨h.nested.cons hle hopened ?_, hopened, hle⟩
  intro other hfinished
  cases hfinished
  rw [hinner, List.head?_cons]

/-- The open evaluations are nested at every stage of a request: inside the evaluation at a
depth, it and those at smaller depths are open, and before and after it only the latter. -/
theorem stages_journal (kb : KnowledgeBase) (profile : Bindings) (limit : Nat) :
    Stages kb profile limit (fun depth r => OpenBelow limit depth r.journal)
      (fun depth r => OpenBelow limit (depth + 1) r.journal)
      (fun depth r => OpenBelow limit depth r.journal) where
  cut _ h := h
  exceed _ h := h.cons rfl nofun
  miss _ _ h _ := h
  win {_ _ _ winner} hle _ h _ := h.matched hle winner.index winner.captures
  readWildcard _ h := h.cons rfl nofun
  takeCapture _ h := h.cons rfl nofun
  write _ _ h := h.cons rfl nofun
  descend h := h
  ascend h := h
  finish h := h.finished

end Stages

/-! ## Whole requests -/

/-- At every moment of a request the open evaluations are at the depths 0, 1, 2 and so on in
turn, and no more than the limit allows; the innermost one is the first to end, and none is
open at the end of the request. -/
theorem nested_of_resolve {kb : KnowledgeBase} {profile : Bindings} {limit : Nat}
    {conversation : Conversation} {question : String} {resolved : Resolved}
    (hresolved : resolved ∈ (resolve kb profile limit conversation question).outcomes) :
    Nested limit resolved.request.journal ∧ openDepths resolved.request.journal = [] := by
  have hstart : OpenBelow limit 0 [] := ⟨.nil limit, rfl, Nat.zero_le _⟩
  rcases (stages_journal kb profile limit).resolve hstart hresolved with ⟨out, -, hafter, rfl⟩
  exact ⟨hafter.nested, hafter.opened⟩

end Dialogue

import Dialogue.Proofs.Resolution.Guarded

/-!
# Comparing evaluations

Two evaluations of the same template in two settings differ only in what the
settings give them: the depth, and the answers to nested questions.  A relation on
evaluations that holds for the single steps and is kept by sequencing holds for
the evaluation of every template.

Main results:

- Theorem `Comparison.respond`: the answers of a template are related in two
  settings whose steps are.
-/

namespace Dialogue

/-- A relation between evaluations in two settings that holds for the single steps
of an evaluation and is kept by sequencing. -/
structure Comparison (setting setting' : Setting)
    (Rel : (α : Type) → Evaluation α → Evaluation α → Prop) : Prop where
  pure : ∀ {α : Type} (a : α), Rel α (pure a) (pure a)
  bind : ∀ {α β : Type} {x y : Evaluation α} {f g : α → Evaluation β},
    Rel α x y → (∀ a, Rel β (f a) (g a)) → Rel β (x >>= f) (y >>= g)
  profile : setting.profile = setting'.profile
  vars : Rel Bindings Evaluation.vars Evaluation.vars
  readWildcard : Rel String Evaluation.readWildcard Evaluation.readWildcard
  takeCapture : Rel String (Evaluation.takeCapture setting.depth)
    (Evaluation.takeCapture setting'.depth)
  write : ∀ name value, Rel String (Evaluation.write name value) (Evaluation.write name value)
  among : ∀ n, Rel (Fin (n + 1)) (Choice.among n) (Choice.among n)
  answer : ∀ question, Rel String (Evaluation.onRequest (setting.answer question))
    (Evaluation.onRequest (setting'.answer question))

namespace Comparison

variable {setting setting' : Setting}
  {Rel : (α : Type) → Evaluation α → Evaluation α → Prop}

/-- A comparison needs no guard. -/
theorem guarded (h : Comparison setting setting' Rel) :
    GuardedComparison (fun _ => true) (fun _ => True) setting setting' fun α _ => Rel α where
  texts := .all _
  pure a _ := h.pure a
  bind hxy hfg := h.bind hxy fun a => hfg a (MadeOfTexts.meets_of_forall (fun _ => trivial) a)
  profile := h.profile
  botText _ := trivial
  vars := h.vars
  readWildcard := h.readWildcard
  takeCapture := h.takeCapture
  write name value _ := h.write name value
  among _ _ := h.among _
  answer _ := h.answer _

/-- The answers of a template are related. -/
theorem respond (h : Comparison setting setting' Rel) (fragments : List Fragment) :
    Rel (Option String) (respond setting fragments) (respond setting' fragments) :=
  h.guarded.respond fragments (Fragment.everyOf_true fragments)

end Comparison

end Dialogue

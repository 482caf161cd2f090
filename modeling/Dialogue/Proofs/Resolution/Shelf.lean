import Dialogue.Proofs.Choice
import Dialogue.Session
import Mathlib.Data.List.Basic

/-!
# Scans with patterns that are kept

The pattern of a wording without references is always the same.  So it is read once,
when it is first needed, and kept beside the wording for all sessions of the bot.  A
scan finds some patterns read and others not, according to what has been looked up
before; while it runs, other sessions look up patterns too.

Here a rule comes with what is kept of its wordings.  A shelf has such rules in the
order in which they are tried, and a scan is told how it finds the shelf.

Main results:

- Theorem `KeptWording.captures?_eq`: a wording takes the same captures, whether its
  pattern has been read before or not.
- Theorem `scanShelf_eq`: a scan comes to the same, however it finds the shelf.
- Theorem `Session.askShelf_eq`: so does a question.
-/

namespace Dialogue

/-! ## Wordings with their patterns -/

namespace Wording

/-- The text of a part that is not a reference. -/
def Part.literal? : Part → Option String
  | text content => some content
  | bot _ => none
  | get _ => none

/-- What a wording says, leaving its references out. -/
def literalText (w : Wording) : String :=
  String.intercalate " " (w.parts.filterMap Part.literal?)

/-- A wording without references says its literal texts. -/
theorem render_eq_literalText {w : Wording} (hstatic : w.isDynamic = false)
    (profile vars : Bindings) : w.render profile vars = w.literalText := by
  have hparts : w.parts.filterMap Part.literal? =
      w.parts.filterMap (some ∘ Part.render profile vars) := by
    refine List.filterMap_congr fun part hpart => ?_
    have hreference : part.isReference = false := by
      simpa using List.any_eq_false.1 hstatic part hpart
    cases part with
    | text content => rfl
    | bot name => cases hreference
    | get name => cases hreference
  rw [literalText, hparts, List.filterMap_eq_map, render]

end Wording

/-- A wording with what is kept of its pattern. -/
structure KeptWording where
  wording : Wording
  /-- Nothing until the pattern is first needed; then the pattern, or that the wording
  has none that can be used. -/
  kept : Option (Option Pattern)
  kept_eq : ∀ pattern? ∈ kept, pattern? = Pattern.ofText? wording.literalText

namespace KeptWording

/-- A wording whose pattern has not been needed yet. -/
def unread (wording : Wording) : KeptWording := ⟨wording, none, fun _ h => nomatch h⟩

/-- The pattern of the literal texts of a wording, which is read unless it is kept. -/
def pattern? (w : KeptWording) : Option Pattern :=
  w.kept.getD (Pattern.ofText? w.wording.literalText)

/-- It does not matter whether the pattern is kept. -/
theorem pattern?_eq (w : KeptWording) : w.pattern? = Pattern.ofText? w.wording.literalText := by
  rw [pattern?]
  cases hkept : w.kept with
  | none => rw [Option.getD_none]
  | some pattern? => exact w.kept_eq pattern? hkept

/-- The wording after its pattern has been looked up, which is kept from then on.
Nothing is kept of a wording with references. -/
def lookUp (w : KeptWording) : KeptWording :=
  if w.wording.isDynamic then w
  else
    { w with
      kept := some w.pattern?
      kept_eq := fun _ h => Option.some.inj h ▸ w.pattern?_eq }

/-- Looking up its pattern does not change a wording. -/
@[simp] theorem wording_lookUp (w : KeptWording) : w.lookUp.wording = w.wording := by
  unfold lookUp
  split
  · rfl
  · rfl

/-- The captures of an input under a wording: only the pattern of a wording with
references is read anew. -/
def captures? (w : KeptWording) (profile vars : Bindings) (input : String) :
    Option (List String) :=
  if w.wording.isDynamic then matchText input (w.wording.render profile vars)
  else w.pattern?.bind (·.captures? input)

/-- A wording takes the same captures, whether its pattern has been read before or not. -/
theorem captures?_eq (w : KeptWording) (profile vars : Bindings) (input : String) :
    w.captures? profile vars input = w.wording.captures? profile vars input := by
  unfold captures? Wording.captures?
  split
  · rfl
  · next hstatic =>
    have hrender := Wording.render_eq_literalText (by simpa using hstatic) profile vars
    rw [w.pattern?_eq, ← hrender, matchText]

end KeptWording

/-! ## Rules on a shelf -/

/-- A category with what is kept of its wordings. -/
structure KeptCategory where
  pattern : KeptWording
  that : Option KeptWording
  template : List Fragment
  source : Nat

/-- One of the two wordings of a category. -/
inductive WordingRole where
  | pattern
  | that
  deriving DecidableEq, Repr

namespace KeptCategory

/-- A category none of whose patterns has been needed yet. -/
def unread (category : Category) : KeptCategory where
  pattern := .unread category.pattern
  that := category.that.map .unread
  template := category.template
  source := category.source

/-- The category without what is kept. -/
def category (c : KeptCategory) : Category where
  pattern := c.pattern.wording
  that := c.that.map KeptWording.wording
  template := c.template
  source := c.source

/-- The category after the pattern of one of its wordings has been looked up. -/
def lookUp (role : WordingRole) (c : KeptCategory) : KeptCategory :=
  match role with
  | .pattern => { c with pattern := c.pattern.lookUp }
  | .that => { c with that := c.that.map KeptWording.lookUp }

/-- A category is as it was when nothing was kept. -/
@[simp] theorem category_unread (category : Category) : (unread category).category = category := by
  obtain ⟨pattern, that, template, source⟩ := category
  cases that with
  | none => rfl
  | some that => rfl

/-- Looking up a pattern does not change a category. -/
@[simp] theorem category_lookUp (role : WordingRole) (c : KeptCategory) :
    (c.lookUp role).category = c.category := by
  cases role with
  | pattern => simp [lookUp, category]
  | that => simp [lookUp, category, Function.comp_def]

/-- How a category takes a question in a conversation. -/
def verdict (c : KeptCategory) (profile : Bindings) (conversation : Conversation)
    (question : String) : Verdict :=
  match c.pattern.captures? profile conversation.vars question with
  | none => .unmatched
  | some captures =>
    match c.that with
    | none => .matched captures
    | some that =>
      match that.captures? profile conversation.vars conversation.previousAnswer with
      | none => .rejected
      | some _ => .matched captures

/-- A category takes a question in the same way, whatever is kept. -/
theorem verdict_eq (c : KeptCategory) (profile : Bindings) (conversation : Conversation)
    (question : String) :
    c.verdict profile conversation question = c.category.verdict profile conversation question := by
  have hpattern : c.category.pattern = c.pattern.wording := rfl
  have hthat : c.category.that = c.that.map KeptWording.wording := rfl
  unfold verdict Category.verdict
  rw [c.pattern.captures?_eq, hpattern, hthat]
  cases c.pattern.wording.captures? profile conversation.vars question with
  | none => rfl
  | some captures =>
    cases c.that with
    | none => rfl
    | some that =>
      rw [Option.map_some]
      dsimp only
      rewrite [that.captures?_eq]
      cases that.wording.captures? profile conversation.vars conversation.previousAnswer with
      | none => rfl
      | some _ => rfl

end KeptCategory

/-- The rules of a bot in the order in which they are tried, with what is kept. -/
abbrev Shelf := List KeptCategory

/-- A wording on a shelf. -/
structure ShelfPlace where
  index : Nat
  role : WordingRole
  deriving DecidableEq, Repr

namespace Shelf

/-- The categories on a shelf. -/
def categories (shelf : Shelf) : List Category := shelf.map KeptCategory.category

/-- The shelf after a pattern has been looked up. -/
def lookUp (shelf : Shelf) (place : ShelfPlace) : Shelf :=
  shelf.modify place.index (KeptCategory.lookUp place.role)

/-- The shelf after patterns have been looked up one after the other. -/
def lookUpAll (shelf : Shelf) (places : List ShelfPlace) : Shelf := places.foldl lookUp shelf

/-- Looking up a pattern does not change the categories. -/
@[simp] theorem categories_lookUp (shelf : Shelf) (place : ShelfPlace) :
    (shelf.lookUp place).categories = shelf.categories := by
  refine List.ext_getElem? fun i => ?_
  simp only [categories, lookUp, List.getElem?_map, List.getElem?_modify]
  cases shelf[i]? with
  | none => rfl
  | some c =>
    simp only [Option.map_eq_map, Option.map_some]
    split
    · rw [KeptCategory.category_lookUp]
    · rfl

/-- However many patterns are looked up, the categories stay the same. -/
@[simp] theorem categories_lookUpAll (shelf : Shelf) (places : List ShelfPlace) :
    (shelf.lookUpAll places).categories = shelf.categories := by
  induction places generalizing shelf with
  | nil => rfl
  | cons place places ih =>
    exact (ih (shelf.lookUp place)).trans (shelf.categories_lookUp place)

end Shelf

/-! ## Scans -/

/-- Tries the categories of a shelf in order, the first of which has position `index`. -/
def surveyShelf (profile : Bindings) (conversation : Conversation) (question : String)
    (index : Nat) : Shelf → Survey
  | [] => ⟨0, 0, none⟩
  | c :: shelf =>
    match c.verdict profile conversation question with
    | .matched captures => ⟨1, 0, some ⟨index, c.category, captures⟩⟩
    | .rejected =>
      let later := surveyShelf profile conversation question (index + 1) shelf
      { later with tried := later.tried + 1, rejected := later.rejected + 1 }
    | .unmatched =>
      let later := surveyShelf profile conversation question (index + 1) shelf
      { later with tried := later.tried + 1 }

/-- Trying the categories of a shelf comes to the same, whatever is kept. -/
theorem surveyShelf_eq (profile : Bindings) (conversation : Conversation) (question : String)
    (index : Nat) (shelf : Shelf) :
    surveyShelf profile conversation question index shelf =
      survey profile conversation question index shelf.categories := by
  induction shelf generalizing index with
  | nil => rfl
  | cons c shelf ih =>
    rw [Shelf.categories, List.map_cons]
    unfold surveyShelf survey
    rw [c.verdict_eq, ih]
    cases c.category.verdict profile conversation question with
    | unmatched => rfl
    | rejected => rfl
    | matched captures => rfl

/-- Scans for a question as `scan` does.  The scans of a question are numbered by the
redirections before them, and `found` says how each of them finds the shelf: a scan
looks at a wording once, and finds it as it is by then. -/
def scanShelf (found : Nat → Shelf) (profile : Bindings) :
    (levels depth : Nat) → String → Action (Option Hit)
  | 0, _, _ => do
    unless (← get).metrics.limitHit do modify (·.exceedLimit)
    return none
  | levels + 1, depth, question => do
    if (← get).metrics.limitHit then return none
    modify (·.enter depth)
    let request ← get
    let shelf := found request.metrics.redirects
    let survey := surveyShelf profile request.conversation question 0 shelf
    modify (·.count survey)
    match survey.winner with
    | none => return none
    | some winner =>
      let answer := redirect (scanShelf found profile levels (depth + 1))
      return some (← evaluateWinner profile depth answer winner)

/-- A scan comes to the same, however it finds the shelf. -/
theorem scanShelf_eq {found : Nat → Shelf} {kb : KnowledgeBase}
    (hfound : ∀ number, (found number).categories = kb.categories) (profile : Bindings)
    (levels : Nat) : scanShelf found profile levels = scan kb profile levels := by
  induction levels with
  | zero => rfl
  | succ levels ih =>
    funext depth question
    simp only [scanShelf, surveyShelf_eq, hfound, ih]
    rfl

/-- Resolves a question in a conversation as `resolve` does, when its scans find the
shelf like this. -/
def resolveShelf (found : Nat → Shelf) (profile : Bindings) (limit : Nat)
    (conversation : Conversation) (question : String) : Choice Resolved := do
  let start : Request := { conversation := conversation.forgetCaptures }
  let (hit, request) ← (scanShelf found profile (limit + 1) 0 question).run start
  let resolution := Resolution.ofHit request.metrics.limitHit hit
  return ⟨resolution,
    { request with conversation := request.conversation.remember resolution.answer }⟩

/-- Answers a question with the rules that are loaded, when its scans find the shelf like
this. -/
def Session.askShelf (s : Session) (bot : Bot) (found : Nat → Shelf) (input : String) :
    Answer × Session :=
  let (resolved, draws) :=
    (resolveShelf found bot.profile s.options.maxRedirectDepth s.conversation input).follow s.draws
  (.ofResolved bot.knowledge input resolved,
    { s with conversation := resolved.request.conversation, draws := draws })

/-- A question is answered in the same way, however its scans find the shelf. -/
theorem Session.askShelf_eq (s : Session) (bot : Bot) {found : Nat → Shelf}
    (hfound : ∀ number, (found number).categories = bot.knowledge.categories) (input : String) :
    s.askShelf bot found input = s.ask bot input := by
  have hresolve :
      resolveShelf found bot.profile s.options.maxRedirectDepth s.conversation input =
        resolve bot.knowledge bot.profile s.options.maxRedirectDepth s.conversation input := by
    rw [resolveShelf, scanShelf_eq hfound, resolve]
  simp only [askShelf, hresolve, ask, answers, Choice.follow_bind_pure]

end Dialogue

import Dialogue.Proofs.Resolution.Course
import Dialogue.Proofs.Resolution.Ending
import Dialogue.Proofs.Resolution.Guarded

/-!
# What a request writes

Only one kind of fragment binds a variable, and nothing in a template removes one.  So a relation
on variables that holds whenever a name is bound which some template binds holds from the
beginning of a request to its end, whatever is tried and evaluated on the way and even if the
limit on nested redirections is exceeded.  The previous answer is replaced at the end only, by an
answer.

Main results:

- Theorem `Course.Possible.writes`: such a relation holds over every part of the work on a
  question.
- Theorem `get?_of_spares`: a variable that no template binds stays as it is.
- Theorem `isSome_get?_of_resolve`: no variable is removed.
- Theorem `previousAnswer_of_resolve`: only an answer replaces the previous one.
-/

namespace Dialogue

variable {kb : KnowledgeBase} {profile : Bindings} {limit : Nat}

/-! ## Templates that write some names only -/

section Parts

variable {test : Fragment → Bool}

/-- All fragments inside of a list pass a test exactly if all inside of each member do. -/
theorem Fragment.everyOf_iff {fragments : List Fragment} :
    Fragment.everyOf test fragments = true ↔
      ∀ fragment ∈ fragments, fragment.every test = true := by
  induction fragments with
  | nil => simp [Fragment.everyOf]
  | cons fragment fragments ih => rw [Fragment.everyOf, Bool.and_eq_true, ih, List.forall_mem_cons]

/-- All fragments inside of branches pass a test exactly if all inside of each branch do. -/
theorem Branch.everyOf_iff {branches : List Branch} :
    Branch.everyOf test branches = true ↔
      ∀ branch ∈ branches, Fragment.everyOf test branch.content = true := by
  induction branches with
  | nil => simp [Branch.everyOf]
  | cons branch branches ih =>
    obtain ⟨name, value, content⟩ := branch
    rw [Branch.everyOf, Bool.and_eq_true, ih, List.forall_mem_cons, Branch.content]

/-- What is answered for an alternative passes a test if the alternative does. -/
theorem Fragment.everyOf_asAlternative {alternatives : List Fragment} {alternative : Fragment}
    (hevery : Fragment.everyOf test alternatives = true) (hmem : alternative ∈ alternatives) :
    Fragment.everyOf test alternative.asAlternative = true := by
  have halternative := Fragment.everyOf_iff.1 hevery alternative hmem
  unfold Fragment.asAlternative
  split
  · rw [Fragment.every, Bool.and_eq_true] at halternative
    exact halternative.2
  · rw [Fragment.everyOf, Fragment.everyOf, halternative, Bool.and_true]

/-- The content of the branch that is taken passes a test if all branches do. -/
theorem Branch.everyOf_taken {branches : List Branch} (isTaken : Branch → Bool)
    (hevery : Branch.everyOf test branches = true) :
    Fragment.everyOf test (Branch.taken isTaken branches) = true := by
  rcases Branch.taken_eq_nil_or_mem isTaken branches with hnil | hmem
  · rw [hnil, Fragment.everyOf]
  · obtain ⟨branch, hbranch, hcontent⟩ := List.mem_map.1 hmem
    rw [← hcontent]
    exact Branch.everyOf_iff.1 hevery branch hbranch

end Parts

/-- Whether a fragment binds no other names than some. -/
def Fragment.writesOnly (allowed : String → Bool) : Fragment → Bool
  | .set name _ => allowed name
  | _ => true

/-- Whether no fragment of a template, at whatever depth, binds other names than some. -/
def Category.writesOnly (allowed : String → Bool) (category : Category) : Bool :=
  Fragment.everyOf (Fragment.writesOnly allowed) category.template

/-- Every template writes some names, if these are all names. -/
theorem Category.writesOnly_true (category : Category) :
    category.writesOnly (fun _ => true) = true := by
  have htest : Fragment.writesOnly (fun _ => true) = fun _ => true := by
    funext fragment
    cases fragment <;> rfl
  rw [writesOnly, htest]
  exact Fragment.everyOf_true category.template

/-- Whether no fragment of any template of the knowledge base, at whatever depth, binds a
variable. -/
def KnowledgeBase.spares (kb : KnowledgeBase) (name : String) : Bool :=
  kb.categories.all (Category.writesOnly (· ≠ name))

-- A variable is bound in an alternative, inside of an element without a meaning of its own.
example :
    let nested : List Fragment :=
      [.think [.random [.item [.markup "b" [] [.set "mood" [.text "good"]]], .get "name"]]]
    let kb : KnowledgeBase := ⟨[⟨⟨[.text "HI"]⟩, none, nested, 0⟩], 1⟩
    kb.spares "mood" = false ∧ kb.spares "name" = true := by
  decide +kernel

/-! ## Relations between variables -/

/-- A relation between variables that holds over any number of bindings of some names. -/
structure WriteRelation (allowed : String → Bool) (R : Bindings → Bindings → Prop) : Prop where
  refl : ∀ vars, R vars vars
  trans : ∀ {vars vars' vars''}, R vars vars' → R vars' vars'' → R vars vars''
  insert : ∀ vars name value, allowed name = true → R vars (vars.insert name value)

/-- A variable stays as it is while other variables are bound. -/
theorem writeRelation_get? (name : String) :
    WriteRelation (· ≠ name) fun vars vars' => vars'.get? name = vars.get? name where
  refl _ := rfl
  trans hfirst hthen := hthen.trans hfirst
  insert vars other value hother := by
    have hne : name ≠ other := fun heq => (of_decide_eq_true hother) heq.symm
    exact vars.get?_insert_of_ne value hne

/-- A variable that is bound stays bound while any variables are bound. -/
theorem writeRelation_isSome (name : String) :
    WriteRelation (fun _ => true) fun vars vars' =>
      (vars.get? name).isSome → (vars'.get? name).isSome where
  refl _ := id
  trans hfirst hthen := hthen ∘ hfirst
  insert vars other value _ := by
    intro hbound
    by_cases heq : name = other
    · rw [heq, Bindings.get?_insert_self, Option.isSome_some]
    · rwa [vars.get?_insert_of_ne value heq]

/-! ## Every part of the work -/

variable {allowed : String → Bool} {R : Bindings → Bindings → Prop}

/-- Whether a relation holds from where a part of the work on a question begins to where it ends,
if the fragments that are worked on bind the names that are allowed only. -/
def Course.Writes (allowed : String → Bool) (R : Bindings → Bindings → Prop) : Course → Prop
  | scan _ _ before _ after => R before.conversation.vars after.conversation.vars
  | answer _ fragments before _ after =>
    Fragment.everyOf (Fragment.writesOnly allowed) fragments = true → R before.vars after.vars
  | join _ fragments before _ after =>
    Fragment.everyOf (Fragment.writesOnly allowed) fragments = true → R before.vars after.vars
  | evaluate _ fragment before _ after =>
    fragment.every (Fragment.writesOnly allowed) = true → R before.vars after.vars

/-- The beginning of the evaluation of a category leaves the variables alone. -/
theorem Request.vars_begin (request : Request) (depth : Nat) (winner : Winner) :
    (request.begin depth winner).conversation.vars = request.conversation.vars := by
  rw [Request.begin, Request.record_conversation]
  split
  · rw [Conversation.keepCaptures, Conversation.noteCaptures_eq]
  · rw [Conversation.noteCaptures_eq]

/-- A relation that holds whenever one of the names is bound that the templates bind holds over
every part of the work on a question. -/
theorem Course.Possible.writes {course : Course} (h : Possible kb profile limit course)
    (hR : WriteRelation allowed R)
    (hkb : ∀ category ∈ kb.categories, category.writesOnly allowed = true) :
    course.Writes allowed R := by
  induction h with
  | scanCut | scanTooDeep | scanMiss => exact hR.refl _
  | scanHit _ _ hwinner _ ih =>
    have hafter := ih (hkb _ (List.mem_of_getElem? (wins_of_survey hwinner).category))
    rw [Frame.vars, Request.vars_begin] at hafter
    exact hafter
  | answerGroup _ ih =>
    intro hevery
    have hgroup := Fragment.everyOf_iff.1 hevery _ List.mem_cons_self
    rw [Fragment.every, Bool.and_eq_true] at hgroup
    exact ih hgroup.2
  | answerBlank | joinNil | text | bot | get | star | starEmpty | randomNone | onlyIfNot |
    lineBreak => exact fun _ => hR.refl _
  | answerText _ _ _ ih => exact ih
  | joinCons _ _ ihfirst ihrest =>
    intro hevery
    rw [Fragment.everyOf, Bool.and_eq_true] at hevery
    exact hR.trans (ihfirst hevery.1) (ihrest hevery.2)
  | setNothing | setCapture =>
    intro hevery
    rw [Fragment.every, Bool.and_eq_true] at hevery
    exact hR.insert _ _ _ hevery.1
  | setText _ _ ih =>
    intro hevery
    rw [Fragment.every, Bool.and_eq_true] at hevery
    exact hR.trans (ih hevery.2) (hR.insert _ _ _ hevery.1)
  | starAnswer _ _ ih => exact fun _ => ih
  | redirect _ _ ihjoin ihscan =>
    intro hevery
    rw [Fragment.every, Bool.and_eq_true] at hevery
    exact hR.trans (ihjoin hevery.2) ihscan
  | random hmem _ ih =>
    intro hevery
    rw [Fragment.every, Bool.and_eq_true] at hevery
    exact ih (Fragment.everyOf_asAlternative hevery.2 hmem)
  | firstOf _ ih | select _ ih =>
    intro hevery
    rw [Fragment.every, Bool.and_eq_true] at hevery
    exact ih (Branch.everyOf_taken _ hevery.2)
  | onlyIf _ _ ih | recase _ ih | think _ ih | item _ ih | group _ ih | markup _ ih =>
    intro hevery
    rw [Fragment.every, Bool.and_eq_true] at hevery
    exact ih hevery.2

/-! ## Requests -/

variable {conversation : Conversation} {question : String} {resolved : Resolved}

/-- Remembering an answer leaves the variables alone. -/
@[simp] theorem Conversation.vars_remember (c : Conversation) (answer : Option String) :
    (c.remember answer).vars = c.vars := by
  cases answer with
  | none => rfl
  | some text => rfl

/-- The same relation holds from the beginning of a request to its end. -/
theorem writes_of_resolve
    (hresolved : resolved ∈ (resolve kb profile limit conversation question).outcomes)
    (hR : WriteRelation allowed R)
    (hkb : ∀ category ∈ kb.categories, category.writesOnly allowed = true) :
    R conversation.vars resolved.request.conversation.vars := by
  rcases mem_outcomes_resolve_iff.1 hresolved with ⟨hit, request, hpossible, rfl⟩
  rw [Request.conclude, Conversation.vars_remember]
  exact hpossible.writes hR hkb

/-- A variable that no template binds stays as it is. -/
theorem get?_of_spares
    (hresolved : resolved ∈ (resolve kb profile limit conversation question).outcomes)
    {name : String} (hspares : kb.spares name = true) :
    resolved.request.conversation.vars.get? name = conversation.vars.get? name :=
  writes_of_resolve hresolved (writeRelation_get? name) (List.all_eq_true.1 hspares)

/-- No variable is removed. -/
theorem isSome_get?_of_resolve
    (hresolved : resolved ∈ (resolve kb profile limit conversation question).outcomes)
    {name : String} (hbound : (conversation.vars.get? name).isSome) :
    (resolved.request.conversation.vars.get? name).isSome :=
  writes_of_resolve hresolved (writeRelation_isSome name)
    (fun category _ => category.writesOnly_true) hbound

/-- Only an answer replaces the previous one. -/
theorem previousAnswer_of_resolve
    (hresolved : resolved ∈ (resolve kb profile limit conversation question).outcomes)
    (houtcome : resolved.resolution.outcome ≠ .matched) :
    resolved.request.conversation.previousAnswer = conversation.previousAnswer := by
  cases ends_of_resolve hresolved with
  | noMatch request _ hconversation =>
    exact (congrArg Conversation.previousAnswer hconversation :)
  | redirectionLimit request hprevious => exact hprevious
  | empty request winner _ hprevious => exact hprevious
  | matched => exact absurd rfl houtcome

end Dialogue

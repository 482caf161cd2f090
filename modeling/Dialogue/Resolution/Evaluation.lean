import Dialogue.Markup.Entity
import Dialogue.Resolution.Request
import Dialogue.Template.Basic
import Dialogue.Text.Cleanup

/-!
# Evaluation of templates

The template of a category is evaluated from left to right.  Every list of
fragments stands for the texts of its fragments, joined and cleaned.  How a
nested question is answered is a parameter here, so that evaluation is a
recursion on templates alone.
-/

namespace Dialogue

open Text

/-! ## Frames -/

/-- What the evaluation of one category works on: the captures of its match that
no variable has taken yet, and the request. -/
structure Frame where
  unread : List String
  request : Request
  deriving DecidableEq

/-- An evaluation inside one category. -/
abbrev Evaluation := StateT Frame Choice

/-- Where a category is evaluated. -/
structure Setting where
  /-- The attributes of the bot. -/
  profile : Bindings
  /-- The number of redirections that have led to the category. -/
  depth : Nat
  /-- The answer to a nested question. -/
  answer : String → Action String

namespace Evaluation

/-- Performs an action on the request of a frame. -/
def onRequest {α : Type} (action : Action α) : Evaluation α := fun frame => do
  let (result, request) ← action.run frame.request
  return (result, { frame with request := request })

/-- Changes the request of a frame. -/
def modifyRequest (change : Request → Request) : Evaluation Unit :=
  modify fun frame => { frame with request := change frame.request }

/-- The variables as they are now. -/
def vars : Evaluation Bindings := return (← get).request.conversation.vars

/-- Reads the last wildcard. -/
def readWildcard : Evaluation String := do
  let value := (← get).request.conversation.lastWildcard
  modifyRequest (·.record (.readWildcard value))
  return value

/-- Takes the next capture of the category, or the empty text when all have been
taken. -/
def takeCapture (depth : Nat) : Evaluation String := do
  let value := (← get).unread.headD ""
  modify fun frame => { frame with unread := frame.unread.tail }
  modifyRequest (·.record (.tookCapture depth value))
  return value

/-- Binds a variable, whose value is the result. -/
def write (name value : String) : Evaluation String := do
  modifyRequest (·.write name value)
  return value

end Evaluation

/-! ## Pieces of answers -/

/-- A text as an answer: the empty text is none. -/
def answerOf (text : String) : Option String := if text = "" then none else some text

/-- An element without a meaning of its own, as it is written in an answer. -/
def writeElement (tag : String) (attributes : List (String × String)) (content : String) : String :=
  let written := attributes.map fun (key, value) =>
    " " ++ key ++ "=\"" ++ Markup.escape value ++ "\""
  "<" ++ tag ++ String.join written ++
    (if content = "" then "/>" else ">" ++ content ++ "</" ++ tag ++ ">")

/-- Whether a branch is taken when every branch names its own variable. -/
def Branch.holds (vars : Bindings) (b : Branch) : Bool :=
  match b.name, b.value with
  | _, none => true
  | some name, some value => vars.get? name == some value
  | none, some _ => false

/-- Whether a branch is taken when its value is compared with that of one
variable. -/
def Branch.holdsOf (vars : Bindings) (name : String) (b : Branch) : Bool :=
  match b.value with
  | none => true
  | some value => vars.get? name == some value

/-! ## Evaluation -/

mutual

/-- The text that a fragment stands for. -/
def evaluateFragment (setting : Setting) : Fragment → Evaluation String
  | .text content => pure content
  | .bot name => pure (setting.profile.get name)
  | .get name => return (← Evaluation.vars).get name
  | .set name value => do
    let text ←
      match value.head? with
      | none => pure ""
      | some first =>
        if first.takesCapture then Evaluation.takeCapture setting.depth
        else clean <$> concatenate setting value
    Evaluation.write name text
  | .star => Evaluation.readWildcard
  | .starAnswer => do
    let question ← Evaluation.readWildcard
    if question = "" then pure "" else Evaluation.onRequest (setting.answer question)
  | .redirect question => do
    let question ← clean <$> concatenate setting question
    Evaluation.onRequest (setting.answer question)
  | .random alternatives =>
    match alternatives.length with
    | 0 => pure ""
    | n + 1 => do
      let i ← Choice.among n
      return (← respondAt setting alternatives i).getD ""
  | .firstOf branches => do
    let vars ← Evaluation.vars
    return (← respondFirst setting (Branch.holds vars) branches).getD ""
  | .onlyIf name value content => do
    let vars ← Evaluation.vars
    if vars.get? name = some value then clean <$> concatenate setting content else pure ""
  | .select name branches => do
    let vars ← Evaluation.vars
    evaluateFirst setting (Branch.holdsOf vars name) branches
  | .recase casing content => (casing.apply <| clean ·) <$> concatenate setting content
  | .lineBreak => pure "\n"
  | .think content => do
    let _ ← concatenate setting content
    pure ""
  | .item content => clean <$> concatenate setting content
  | .group content => clean <$> concatenate setting content
  | .markup tag attributes content =>
    (writeElement tag attributes <| clean ·) <$> concatenate setting content

/-- The texts that fragments stand for, joined from left to right. -/
def concatenate (setting : Setting) : List Fragment → Evaluation String
  | [] => pure ""
  | fragment :: fragments => do
    let text ← evaluateFragment setting fragment
    let rest ← concatenate setting fragments
    return text ++ rest

/-- The answer that fragments give, if any.  A single template inside is looked
into, and fragments that are all blank give no answer. -/
def respond (setting : Setting) : List Fragment → Evaluation (Option String)
  | [] => pure none
  | [.group content] => respond setting content
  | fragment :: fragments => do
    if fragment.isBlank && fragments.all Fragment.isBlank then return none
    let text ← evaluateFragment setting fragment
    let rest ← concatenate setting fragments
    return answerOf (clean (text ++ rest))

/-- The answer that one of several alternatives gives: the content of a list
item, and any other fragment as it stands. -/
def respondAt (setting : Setting) : List Fragment → Nat → Evaluation (Option String)
  | [], _ => pure none
  | _ :: fragments, i + 1 => respondAt setting fragments i
  | .item content :: _, 0 => respond setting content
  | .group content :: _, 0 => respond setting content
  | fragment :: _, 0 => do
    if fragment.isBlank then return none
    return answerOf (clean (← evaluateFragment setting fragment))

/-- The answer of the first branch that is taken. -/
def respondFirst (setting : Setting) (isTaken : Branch → Bool) :
    List Branch → Evaluation (Option String)
  | [] => pure none
  | .mk name value content :: branches =>
    if isTaken (.mk name value content) then respond setting content
    else respondFirst setting isTaken branches

/-- The text of the first branch that is taken. -/
def evaluateFirst (setting : Setting) (isTaken : Branch → Bool) :
    List Branch → Evaluation String
  | [] => pure ""
  | .mk name value content :: branches =>
    if isTaken (.mk name value content) then clean <$> concatenate setting content
    else evaluateFirst setting isTaken branches

end

/-- The text that a list of fragments stands for. -/
def evaluate (setting : Setting) (fragments : List Fragment) : Evaluation String :=
  clean <$> concatenate setting fragments

end Dialogue

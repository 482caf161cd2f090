import Dialogue.Loading.Bot
import Dialogue.Proofs.Category.Templates
import Dialogue.Proofs.Resolution.Course
import Dialogue.Proofs.Resolution.Responses
import Dialogue.Proofs.Text.Margins

/-!
# Values of variables

A variable is bound to the next capture or to the text of its value.  Only the first fragment of
the value decides: if it is a wildcard, then a capture is taken and the other fragments have no
part in it, and a wildcard behind a blank is a fragment like any other.  The rule for one wildcard
takes a capture for a value that is one wildcard, with blanks around it or without, and the text of
any other value.  Both agree on exactly those values that begin with a wildcard if and only if they
are one.

Main results:

- Theorem `evaluate_append_blank`, `evaluate_blank_append`: blanks around fragments do not count.
- Theorem `valueOf_bind_write_eq_iff`: a capture can be told from the text of a value.
- Theorem `evaluateFragment_set_iff`: when a variable is bound by the rule for one wildcard.
-/

namespace Dialogue

open Fragment

/-! ## Wildcards as values -/

/-- Whether the first fragment of a value is a wildcard. -/
def beginsWithWildcard (value : List Fragment) : Bool := value.head?.any takesCapture

/-- Whether a value is one wildcard, with blanks around it or without. -/
def isWildcard (value : List Fragment) : Bool :=
  match value.filter (!·.isBlank) with
  | [fragment] => fragment.takesCapture
  | _ => false

/-- Whether the first fragment that is not blank is a wildcard. -/
def LeadsWithWildcard (value : List Fragment) : Prop :=
  ∃ wildcard rest, value.dropWhile isBlank = wildcard :: rest ∧ wildcard.takesCapture = true

variable {value blanks : List Fragment}

/-- A wildcard is not blank. -/
theorem Fragment.isBlank_of_takesCapture {fragment : Fragment}
    (hcapture : fragment.takesCapture = true) : fragment.isBlank = false := by
  cases fragment with
  | text content =>
    rw [isBlank_text, Bool.eq_false_iff]
    intro hblank
    rw [takesCapture, Text.trim_eq_nil_iff.2 hblank] at hcapture
    cases hcapture
  | star => rfl
  | _ => cases hcapture

/-- A blank fragment is no wildcard. -/
theorem Fragment.takesCapture_of_isBlank {fragment : Fragment} (hblank : fragment.isBlank = true) :
    fragment.takesCapture = false := by
  rw [Bool.eq_false_iff]
  intro hcapture
  rw [isBlank_of_takesCapture hcapture] at hblank
  cases hblank

/-- A value that begins with a wildcard leads with it. -/
theorem leadsWithWildcard_of_begins (hvalue : beginsWithWildcard value = true) :
    LeadsWithWildcard value := by
  cases value with
  | nil => cases hvalue
  | cons first rest =>
    have hcapture : first.takesCapture = true := hvalue
    refine ⟨first, rest, ?_, hcapture⟩
    rw [List.dropWhile_cons_of_neg (by simp [isBlank_of_takesCapture hcapture])]

/-- A value that is a wildcard leads with it. -/
theorem leadsWithWildcard_of_isWildcard (hvalue : isWildcard value = true) :
    LeadsWithWildcard value := by
  induction value with
  | nil => cases hvalue
  | cons first rest ih =>
    cases hblank : first.isBlank with
    | true =>
      rw [isWildcard, List.filter_cons_of_neg (by simp [hblank])] at hvalue
      rw [LeadsWithWildcard, List.dropWhile_cons_of_pos hblank]
      exact ih hvalue
    | false =>
      rw [isWildcard, List.filter_cons_of_pos (by simp [hblank])] at hvalue
      refine ⟨first, rest, List.dropWhile_cons_of_neg (by simp [hblank]), ?_⟩
      cases hrest : rest.filter (!·.isBlank) with
      | nil => rwa [hrest] at hvalue
      | cons second later => rw [hrest] at hvalue; cases hvalue

/-- Behind blanks a value does not begin with a wildcard. -/
theorem beginsWithWildcard_blank_append (hblank : blanks.all isBlank = true) (hne : blanks ≠ [])
    (value : List Fragment) : beginsWithWildcard (blanks ++ value) = false := by
  cases blanks with
  | nil => exact absurd rfl hne
  | cons first rest =>
    rw [List.all_cons, Bool.and_eq_true] at hblank
    exact takesCapture_of_isBlank hblank.1

/-- Blanks behind a value leave its beginning as it is. -/
theorem beginsWithWildcard_append_blank (value : List Fragment)
    (hblank : blanks.all isBlank = true) :
    beginsWithWildcard (value ++ blanks) = beginsWithWildcard value := by
  cases value with
  | cons first rest => rfl
  | nil =>
    cases blanks with
    | nil => rfl
    | cons first rest =>
      have hbegins := beginsWithWildcard_blank_append hblank (List.cons_ne_nil first rest) []
      rwa [List.append_nil] at hbegins

/-! ## Blanks around fragments -/

variable (setting : Setting)

/-- Blanks behind fragments do not count. -/
theorem evaluate_append_blank (value : List Fragment) (hblank : blanks.all isBlank = true) :
    evaluate setting (value ++ blanks) = evaluate setting value := by
  obtain ⟨joined, hjoined, hblanks⟩ := concatenate_of_isBlank setting hblank
  simp only [evaluate, concatenate_append, hblanks, bind_pure_comp, map_pure, Functor.map_map,
    Text.clean_append_blank _ hjoined]

/-- Blanks in front of fragments do not count. -/
theorem evaluate_blank_append (hblank : blanks.all isBlank = true) (value : List Fragment) :
    evaluate setting (blanks ++ value) = evaluate setting value := by
  obtain ⟨joined, hjoined, hblanks⟩ := concatenate_of_isBlank setting hblank
  simp only [evaluate, concatenate_append, hblanks, pure_bind, bind_pure_comp, Functor.map_map,
    Text.clean_blank_append hjoined]

/-! ## Captures and texts -/

/-- The value of a variable: a capture, or the text of the fragments. -/
def valueOf (takes : Bool) (value : List Fragment) : Evaluation String :=
  if takes then Evaluation.takeCapture setting.depth else evaluate setting value

/-- Whether a variable takes a capture is decided by the first fragment of its value. -/
theorem evaluateFragment_set (name : String) (value : List Fragment) :
    evaluateFragment setting (.set name value) =
      valueOf setting (beginsWithWildcard value) value >>= Evaluation.write name := by
  rw [evaluateFragment]
  cases value with
  | nil => rfl
  | cons first rest =>
    have hbegins : beginsWithWildcard (first :: rest) = first.takesCapture := rfl
    rw [hbegins]
    simp only [List.head?_cons, valueOf]
    cases first.takesCapture <;> rfl

/-- A wildcard stands for a text that is not blank if the last wildcard is not. -/
theorem isBlankText_of_takesCapture {wildcard : Fragment}
    (hcapture : wildcard.takesCapture = true) {frame after : Frame} {text : String}
    (hlast : Text.isBlankText frame.lastWildcard.toList = false)
    (htext : Yields (evaluateFragment setting wildcard) frame text after) :
    Text.isBlankText text.toList = false := by
  cases wildcard with
  | text content =>
    rw [evaluateFragment, yields_pure] at htext
    rw [htext.1]
    exact isBlank_of_takesCapture hcapture
  | star =>
    rw [evaluateFragment, Evaluation.yields_readWildcard] at htext
    rw [htext.1]
    exact hlast
  | _ => cases hcapture

/-- Neither is the text of a value that leads with a wildcard empty. -/
theorem ne_empty_of_leadsWithWildcard (hvalue : LeadsWithWildcard value) {frame after : Frame}
    {text : String} (hlast : Text.isBlankText frame.lastWildcard.toList = false)
    (htext : Yields (evaluate setting value) frame text after) : text ≠ "" := by
  obtain ⟨wildcard, rest, hdrop, hcapture⟩ := hvalue
  have hblank : (value.takeWhile isBlank).all isBlank = true := List.all_takeWhile
  have hsplit : value = value.takeWhile isBlank ++ wildcard :: rest := by
    rw [← hdrop, List.takeWhile_append_dropWhile]
  rw [hsplit, evaluate_blank_append setting hblank, evaluate, concatenate] at htext
  simp only [yields_map, yields_bind, yields_pure] at htext
  obtain ⟨_, ⟨first, mid, hfirst, later, _, _, rfl, _⟩, rfl⟩ := htext
  intro hempty
  have hall := Text.clean_eq_empty_iff.1 hempty
  rw [String.toList_append, Text.isBlankText, List.all_append, Bool.and_eq_true] at hall
  have hnot := isBlankText_of_takesCapture setting hcapture hlast hfirst
  exact absurd hall.1 (by rw [← Text.isBlankText, hnot]; decide)

/-- A frame whose last capture has been taken. -/
def spentFrame : Frame where
  unread := []
  request := { conversation := (Conversation.start .empty).noteCaptures ["Ann"] }

/-- A capture can be told from the text of a value that leads with a wildcard. -/
theorem takeCapture_bind_write_ne (name : String) (hvalue : LeadsWithWildcard value) :
    Evaluation.takeCapture setting.depth >>= Evaluation.write name ≠
      evaluate setting value >>= Evaluation.write name := by
  intro heq
  -- Behind the last capture the empty text is taken, and the text of the value is not empty.
  have htaken : Yields (Evaluation.takeCapture setting.depth >>= Evaluation.write name)
      spentFrame "" ((spentFrame.afterCapture setting.depth).write name "") := by
    rw [yields_bind]
    exact ⟨_, _, Evaluation.yields_takeCapture.2 ⟨rfl, rfl⟩, Evaluation.yields_write.2 ⟨rfl, rfl⟩⟩
  rw [heq, yields_bind] at htaken
  obtain ⟨text, mid, htext, hwrite⟩ := htaken
  rw [Evaluation.yields_write] at hwrite
  exact ne_empty_of_leadsWithWildcard setting hvalue (by decide) htext hwrite.1.symm

/-- Whether a variable takes a capture makes a difference for a value that leads with a wildcard. -/
theorem valueOf_bind_write_eq_iff (name : String) (hvalue : LeadsWithWildcard value)
    {takes takes' : Bool} :
    valueOf setting takes value >>= Evaluation.write name =
        valueOf setting takes' value >>= Evaluation.write name ↔ takes = takes' := by
  have hne := takeCapture_bind_write_ne setting name hvalue
  cases takes <;> cases takes'
  · simp
  · simpa [valueOf] using hne.symm
  · simpa [valueOf] using hne
  · simp

/-- Fragments with the same text are as good as values. -/
theorem valueOf_congr {value' : List Fragment}
    (hsame : evaluate setting value = evaluate setting value') (takes : Bool) :
    valueOf setting takes value = valueOf setting takes value' := by
  rw [valueOf, valueOf, hsame]

/-! ## The rule for one wildcard -/

/-- A variable is bound by the rule for one wildcard exactly if the value begins with a wildcard
just in case it is one. -/
theorem evaluateFragment_set_eq_rule_iff (name : String) (value : List Fragment) :
    evaluateFragment setting (.set name value) =
        valueOf setting (isWildcard value) value >>= Evaluation.write name ↔
      beginsWithWildcard value = isWildcard value := by
  rw [evaluateFragment_set]
  -- If another fragment comes first, then both rules take the text.
  by_cases hlead : LeadsWithWildcard value
  · exact valueOf_bind_write_eq_iff setting name hlead
  · have hbegins : beginsWithWildcard value = false :=
      Bool.eq_false_iff.2 fun h => hlead (leadsWithWildcard_of_begins h)
    have hwildcard : isWildcard value = false :=
      Bool.eq_false_iff.2 fun h => hlead (leadsWithWildcard_of_isWildcard h)
    rw [hbegins, hwildcard]
    exact iff_of_true rfl rfl

/-- Blanks behind a value never make a difference. -/
theorem evaluateFragment_set_append_blank (name : String) (value : List Fragment)
    (hblank : blanks.all isBlank = true) :
    evaluateFragment setting (.set name (value ++ blanks)) =
      evaluateFragment setting (.set name value) := by
  rw [evaluateFragment_set, evaluateFragment_set, beginsWithWildcard_append_blank value hblank,
    valueOf_congr setting (evaluate_append_blank setting value hblank)]

/-- Blanks in front of a value make a difference exactly if it begins with a wildcard. -/
theorem evaluateFragment_set_blank_append_iff (name : String) (hblank : blanks.all isBlank = true)
    (value : List Fragment) :
    evaluateFragment setting (.set name (blanks ++ value)) =
        evaluateFragment setting (.set name value) ↔
      blanks = [] ∨ beginsWithWildcard value = false := by
  by_cases hnone : blanks = []
  · subst hnone
    exact iff_of_true rfl (.inl rfl)
  rw [evaluateFragment_set, evaluateFragment_set,
    beginsWithWildcard_blank_append hblank hnone value,
    valueOf_congr setting (evaluate_blank_append setting hblank value), or_iff_right hnone]
  cases hbegins : beginsWithWildcard value with
  | false => exact iff_of_true rfl rfl
  | true =>
    have hlead := leadsWithWildcard_of_begins hbegins
    exact (valueOf_bind_write_eq_iff setting name hlead).trans eq_comm

/-- What a variable is bound to, for all values and all settings.  If the first fragment of the
value is a wildcard, then the next capture is taken and the other fragments are dropped, and
otherwise the text of all fragments is stored, which is empty if there are none.  So a value that
is one wildcard among blanks takes a capture, and any other value stores its text, exactly if the
value begins with a wildcard just in case it is one.  Blanks behind a value never make a difference,
and blanks in front of it make one exactly if it begins with a wildcard. -/
theorem evaluateFragment_set_iff (name : String) (value : List Fragment)
    (hblank : blanks.all isBlank = true) :
    (evaluateFragment setting (.set name value) =
        valueOf setting (beginsWithWildcard value) value >>= Evaluation.write name) ∧
      (evaluateFragment setting (.set name value) =
          valueOf setting (isWildcard value) value >>= Evaluation.write name ↔
        beginsWithWildcard value = isWildcard value) ∧
      evaluateFragment setting (.set name (value ++ blanks)) =
        evaluateFragment setting (.set name value) ∧
      (evaluateFragment setting (.set name (blanks ++ value)) =
          evaluateFragment setting (.set name value) ↔
        blanks = [] ∨ beginsWithWildcard value = false) :=
  ⟨evaluateFragment_set setting name value, evaluateFragment_set_eq_rule_iff setting name value,
    evaluateFragment_set_append_blank setting name value hblank,
    evaluateFragment_set_blank_append_iff setting name hblank value⟩

/-- A space behind a star reference makes no difference, and one in front of it does. -/
theorem evaluateFragment_set_iff_star :
    let setting : Setting := ⟨.empty, 0, fun _ => pure ""⟩
    let space : Fragment := .text " "
    [space].all isBlank = true ∧ beginsWithWildcard [.star] = isWildcard [.star] ∧
      evaluateFragment setting (.set "name" [.star, space]) =
        evaluateFragment setting (.set "name" [.star]) ∧
      evaluateFragment setting (.set "name" [space, .star]) ≠
        evaluateFragment setting (.set "name" [.star]) := by
  intro setting space
  have hspace : [space].all isBlank = true := by decide
  obtain ⟨-, -, hbehind, hfront⟩ :=
    evaluateFragment_set_iff setting "name" [.star] hspace
  exact ⟨hspace, by decide, hbehind, fun h => absurd (hfront.1 h) (by decide)⟩

/-- The text behind a star reference is dropped: the variable is bound to the capture alone, where
the rule for one wildcard binds it to the whole text. -/
theorem exists_dropped_text :
    let kb := ((Bot.new .empty).loadText ("<category><pattern>SAY *</pattern><template>" ++
      "<set name=\"x\"><star/> and more</set></template></category>")).2.knowledge
    let resolved := ((resolve kb .empty 10 (.start .empty) "Say hi").follow ⟨fun _ => 0, 0⟩).1
    let setting : Setting := ⟨.empty, 0, fun _ => pure ""⟩
    let value : List Fragment := [.star, .text " and more"]
    let said := (Conversation.start .empty).keepCaptures ["hi"]
    let stated := ((valueOf setting (isWildcard value) value).run
      ⟨["hi"], { conversation := said }⟩).follow ⟨fun _ => 0, 0⟩
    resolved.resolution.answer = some "hi" ∧
      resolved.request.conversation.vars.get? "x" = some "hi" ∧ stated.1.1 = "hi and more" := by
  decide +kernel

end Dialogue

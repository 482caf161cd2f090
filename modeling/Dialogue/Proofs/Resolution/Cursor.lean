import Dialogue.Proofs.Resolution.Course

/-!
# The cursor on the captures

Variables whose values are wildcards take the captures of the category one after the other, in the
order in which they are bound, wherever they stand in the template; when all captures have been
taken, they take empty texts.  Nested questions lead to other categories, which begin with their
own captures and are over before the evaluation goes on, so they leave the cursor of this category
alone.

Main results:

- Theorem `Frame.Advances.trans`: the cursor moves along with the evaluation.
- Theorem `Course.Possible.takesInOrder`: what every part of the work on a question takes.
- Theorem `captures_taken_in_order`: what the evaluation of a category takes.
-/

namespace Dialogue

/-! ## Happenings of an evaluation -/

namespace Happening

/-- The depth of the category that matches, takes a capture or ends. -/
def depth? : Happening → Option Nat
  | matched depth _ _ => some depth
  | finished depth => some depth
  | tookCapture depth _ => some depth
  | _ => none

/-- Whether the category at a depth takes a capture. -/
def takesAt (depth : Nat) : Happening → Bool
  | tookCapture other _ => other == depth
  | _ => false

/-- Whether no category at a smaller depth has a part in it. -/
def IsAtLeast (depth : Nat) (happening : Happening) : Prop :=
  ∀ other ∈ happening.depth?, depth ≤ other

/-- Whether something happens inside the evaluation of the category at a depth: the category takes
a capture, or a deeper one is at work. -/
def IsInside (depth : Nat) (happening : Happening) : Prop :=
  happening.takesAt depth = true ∨ happening.IsAtLeast (depth + 1)

variable {depth : Nat} {happening : Happening}

/-- What has no depth happens at every depth. -/
theorem IsAtLeast.of_depth?_eq_none (hnone : happening.depth? = none) :
    happening.IsAtLeast depth := by
  intro other hother
  rw [hnone] at hother
  cases hother

/-- A category that takes a capture has a depth. -/
theorem depth?_of_takesAt (htakes : happening.takesAt depth = true) :
    happening.depth? = some depth := by
  cases happening with
  | tookCapture other value => exact congrArg some (beq_iff_eq.1 htakes)
  | _ => cases htakes

/-- Deeper categories do not take captures of this one. -/
theorem IsAtLeast.takesAt_eq_false (h : happening.IsAtLeast (depth + 1)) :
    happening.takesAt depth = false := by
  rw [Bool.eq_false_iff]
  intro htakes
  exact Nat.not_succ_le_self depth (h depth (depth?_of_takesAt htakes))

/-- What happens inside an evaluation happens at its depth or deeper. -/
theorem IsInside.isAtLeast (h : happening.IsInside depth) : happening.IsAtLeast depth := by
  intro other hother
  rcases h with htakes | hdeeper
  · rw [depth?_of_takesAt htakes] at hother
    cases hother
    exact Nat.le_refl depth
  · exact Nat.le_of_succ_le (hdeeper other hother)

end Happening

/-! ## Captures in a journal -/

/-- The number of captures that the category at a depth takes. -/
def countTaken (depth : Nat) (journal : List Happening) : Nat :=
  journal.countP (Happening.takesAt depth)

/-- Whether a category takes the capture that comes next: since it has matched, it has taken those
before, and only deeper categories have been at work otherwise. -/
def TakesNext (depth : Nat) (value : String) (earlier : List Happening) : Prop :=
  ∃ inside index captures before,
    earlier = inside ++ .matched depth index captures :: before ∧
      (∀ happening ∈ inside, happening.IsInside depth) ∧
      value = captures.getD (countTaken depth inside) ""

/-- Whether a capture that is taken becomes the value of a variable next. -/
def IsStored (value : String) (later : List Happening) : Prop :=
  ∃ name, [.wrote name value] <:+ later

/-- Whether all captures are taken in order, by categories that have matched in between. -/
def EachTakenInOrder (journal : List Happening) : Prop :=
  ∀ later depth value earlier, journal = later ++ .tookCapture depth value :: earlier →
    IsStored value later ∧ TakesNext depth value earlier

/-- Whether all captures are taken in order, by the category at a depth from those that it has not
taken before, and by categories that have matched in between. -/
def TakenInOrder (depth : Nat) (unread : List String) (journal : List Happening) : Prop :=
  ∀ later other value earlier, journal = later ++ .tookCapture other value :: earlier →
    IsStored value later ∧
      if other = depth then value = unread.getD (countTaken depth earlier) ""
      else TakesNext other value earlier

section Journals

variable {depth : Nat} {value : String} {unread : List String}
  {earlier later journal journal' : List Happening}

/-- Captures are counted along a journal. -/
theorem countTaken_append (depth : Nat) (later earlier : List Happening) :
    countTaken depth (later ++ earlier) = countTaken depth later + countTaken depth earlier :=
  List.countP_append

/-- Deeper categories do not take captures of this one. -/
theorem countTaken_of_isAtLeast
    (hdeeper : ∀ happening ∈ journal, happening.IsAtLeast (depth + 1)) :
    countTaken depth journal = 0 := by
  rw [countTaken, List.countP_eq_zero]
  intro happening hmem
  rw [(hdeeper happening hmem).takesAt_eq_false]
  exact Bool.false_ne_true

/-- A place in a journal of two parts is in the later or in the earlier one. -/
theorem append_eq_split {happening : Happening}
    (h : journal' ++ journal = later ++ happening :: earlier) :
    (∃ rest, journal' = later ++ happening :: rest ∧ earlier = rest ++ journal) ∨
      ∃ rest, later = journal' ++ rest ∧ journal = rest ++ happening :: earlier := by
  rcases List.append_eq_append_iff.1 h with ⟨rest, hlater, hjournal⟩ | ⟨rest, hjournal, hrest⟩
  · exact .inr ⟨rest, hlater, hjournal⟩
  · cases rest with
    | nil => exact .inr ⟨[], by simpa using hjournal.symm, hrest.symm⟩
    | cons first rest =>
      obtain ⟨rfl, rfl⟩ := List.cons.inj hrest
      exact .inl ⟨rest, hjournal, rfl⟩

/-- What has happened before the match does not matter. -/
theorem TakesNext.append (h : TakesNext depth value earlier) (before : List Happening) :
    TakesNext depth value (earlier ++ before) := by
  obtain ⟨inside, index, captures, since, rfl, hinside, hvalue⟩ := h
  refine ⟨inside, index, captures, since ++ before, ?_, hinside, hvalue⟩
  rw [List.append_assoc, List.cons_append]

/-- What happens after a capture is stored does not matter. -/
theorem IsStored.append (h : IsStored value later) (journal : List Happening) :
    IsStored value (journal ++ later) := by
  obtain ⟨name, hstored⟩ := h
  exact ⟨name, hstored.trans (List.suffix_append journal later)⟩

/-- Nothing is taken without a happening that does so. -/
theorem EachTakenInOrder.nil : EachTakenInOrder [] := by
  intro later depth value earlier hsplit
  cases later <;> cases hsplit

/-- What has no depth takes nothing. -/
theorem EachTakenInOrder.singleton {happening : Happening} (hnone : happening.depth? = none) :
    EachTakenInOrder [happening] := by
  intro later depth value earlier hsplit
  rcases later with _ | ⟨_, _ | _⟩
  · cases hsplit
    cases hnone
  · cases hsplit
  · cases hsplit

/-- Nothing is taken where nothing happens. -/
theorem TakenInOrder.nil (depth : Nat) (unread : List String) : TakenInOrder depth unread [] := by
  intro later other value earlier hsplit
  cases later <;> cases hsplit

/-- Deeper categories only take their own captures. -/
theorem EachTakenInOrder.inOrder (h : EachTakenInOrder journal)
    (hdeeper : ∀ happening ∈ journal, happening.IsAtLeast (depth + 1)) :
    TakenInOrder depth unread journal := by
  rintro later other value earlier rfl
  obtain ⟨hstored, hnext⟩ := h later other value earlier rfl
  have hle : depth + 1 ≤ other :=
    hdeeper (.tookCapture other value) (List.mem_append_right _ List.mem_cons_self) other rfl
  rw [if_neg (Nat.ne_of_gt hle)]
  exact ⟨hstored, hnext⟩

/-- After some captures have been taken, the others are taken. -/
theorem TakenInOrder.append
    (hlater : TakenInOrder depth (unread.drop (countTaken depth journal)) journal')
    (h : TakenInOrder depth unread journal) : TakenInOrder depth unread (journal' ++ journal) := by
  intro later other value earlier hsplit
  -- The captures before the seam count for those behind it.
  rcases append_eq_split hsplit with ⟨rest, hjournal', rfl⟩ | ⟨rest, rfl, hjournal⟩
  · obtain ⟨hstored, hvalue⟩ := hlater later other value rest hjournal'
    refine ⟨hstored, ?_⟩
    split at hvalue
    · rw [hvalue, countTaken_append, Nat.add_comm, List.getD_eq_getElem?_getD,
        List.getD_eq_getElem?_getD, List.getElem?_drop, if_pos (by assumption)]
    · rw [if_neg (by assumption)]
      exact hvalue.append journal
  · obtain ⟨hstored, hvalue⟩ := h rest other value earlier hjournal
    exact ⟨hstored.append journal', hvalue⟩

/-- A category takes its captures in order from the first one on. -/
theorem TakenInOrder.eachTakenInOrder {captures : List String}
    (h : TakenInOrder depth captures journal)
    (hinside : ∀ happening ∈ journal, happening.IsInside depth) (index : Nat) :
    EachTakenInOrder (.finished depth :: journal ++ [.matched depth index captures]) := by
  intro later other value earlier hsplit
  rcases append_eq_split hsplit with ⟨rest, hjournal, rfl⟩ | ⟨rest, -, hmatch⟩
  · cases later with
    | nil => cases hjournal
    | cons first later =>
      obtain ⟨rfl, rfl⟩ := List.cons.inj hjournal
      obtain ⟨hstored, hvalue⟩ := h later other value rest rfl
      refine ⟨hstored.append [_], ?_⟩
      split at hvalue
      · rename_i hown
        subst hown
        refine ⟨rest, index, captures, [], rfl, fun happening hmem => ?_, hvalue⟩
        exact hinside happening (List.mem_append_right _ (List.mem_cons_of_mem _ hmem))
      · exact hvalue.append _
  · cases rest with
    | nil => cases hmatch
    | cons first rest => cases rest <;> cases hmatch

end Journals

/-! ## Frames -/

namespace Frame

/-- A part of the evaluation of the category at a depth, and what happens in it: the cursor moves by
as many captures as the category takes. -/
structure Advances (depth : Nat) (before after : Frame) (happened : List Happening) : Prop where
  journal : after.request.journal = happened ++ before.request.journal
  inside : ∀ happening ∈ happened, happening.IsInside depth
  unread : after.unread = before.unread.drop (countTaken depth happened)
  inOrder : TakenInOrder depth before.unread happened

namespace Advances

variable {depth : Nat} {before mid after frame : Frame} {happened happened' : List Happening}

/-- Where nothing happens the cursor stays. -/
theorem refl (depth : Nat) (frame : Frame) : frame.Advances depth frame [] where
  journal := rfl
  inside := nofun
  unread := rfl
  inOrder := .nil depth frame.unread

/-- The cursor moves along with the evaluation. -/
theorem trans (h : before.Advances depth mid happened)
    (h' : mid.Advances depth after happened') :
    before.Advances depth after (happened' ++ happened) where
  journal := by rw [h'.journal, h.journal, List.append_assoc]
  inside happening hmem := by
    rcases List.mem_append.1 hmem with hlater | hearlier
    · exact h'.inside happening hlater
    · exact h.inside happening hearlier
  unread := by rw [h'.unread, h.unread, List.drop_drop, countTaken_append, Nat.add_comm]
  inOrder := TakenInOrder.append (h.unread ▸ h'.inOrder) h.inOrder

/-- What only deeper categories do leaves the cursor alone. -/
theorem deeper {request : Request}
    (hjournal : request.journal = happened ++ frame.request.journal)
    (hdeeper : ∀ happening ∈ happened, happening.IsAtLeast (depth + 1))
    (hinOrder : EachTakenInOrder happened) :
    frame.Advances depth (frame.withRequest request) happened where
  journal := hjournal
  inside happening hmem := .inr (hdeeper happening hmem)
  unread := by rw [countTaken_of_isAtLeast hdeeper]; rfl
  inOrder := hinOrder.inOrder hdeeper

/-- The last wildcard may be read. -/
theorem afterWildcard (depth : Nat) (frame : Frame) :
    frame.Advances depth frame.afterWildcard [.readWildcard frame.lastWildcard] := by
  have hjournal : frame.afterWildcard.request.journal =
      [.readWildcard frame.lastWildcard] ++ frame.request.journal := rfl
  exact deeper hjournal (List.forall_mem_singleton.2 (.of_depth?_eq_none rfl)) (.singleton rfl)

/-- A variable may be bound. -/
theorem write (depth : Nat) (frame : Frame) (name value : String) :
    frame.Advances depth (frame.write name value) [.wrote name value] := by
  have hjournal : (frame.write name value).request.journal =
      [.wrote name value] ++ frame.request.journal := rfl
  exact deeper hjournal (List.forall_mem_singleton.2 (.of_depth?_eq_none rfl)) (.singleton rfl)

/-- A capture that is taken is the next one, and it is stored. -/
theorem capture (depth : Nat) (frame : Frame) (name : String) :
    frame.Advances depth ((frame.afterCapture depth).write name frame.nextCapture)
      [.wrote name frame.nextCapture, .tookCapture depth frame.nextCapture] where
  journal := rfl
  inside := List.forall_mem_cons.2 ⟨.inr (.of_depth?_eq_none rfl),
    List.forall_mem_singleton.2 (.inl (beq_self_eq_true depth))⟩
  unread := by
    have hcount : countTaken depth [.wrote name frame.nextCapture,
        .tookCapture depth frame.nextCapture] = 1 := by
      simp [countTaken, Happening.takesAt]
    rw [hcount, List.drop_one]
    rfl
  inOrder := by
    intro later other value earlier hsplit
    rcases later with _ | ⟨first, _ | ⟨second, _ | _⟩⟩
    · cases hsplit
    · cases hsplit
      rw [if_pos rfl]
      exact ⟨⟨name, List.suffix_refl _⟩, List.headD_eq_getD ..⟩
    · cases hsplit
    · cases hsplit

/-- When the template of a category has been evaluated, the category has only taken its captures,
in order from the first one on. -/
theorem scanned {request : Request} {winner : Winner}
    (h : Advances depth ⟨winner.captures, request.begin depth winner⟩ after happened) :
    let journal := .finished depth :: happened ++ [.matched depth winner.index winner.captures]
    (after.request.record (.finished depth)).journal = journal ++ request.journal ∧
      (∀ happening ∈ journal, happening.IsAtLeast depth) ∧ EachTakenInOrder journal := by
  refine ⟨?_, ?_, h.inOrder.eachTakenInOrder h.inside winner.index⟩
  · rw [Request.record, h.journal, List.append_assoc]
    rfl
  · rw [List.cons_append, List.forall_mem_cons, List.forall_mem_append, List.forall_mem_singleton]
    refine ⟨?_, fun happening hmem => (h.inside happening hmem).isAtLeast, ?_⟩
    · rintro other ⟨⟩
      exact Nat.le_refl depth
    · rintro other ⟨⟩
      exact Nat.le_refl depth

end Advances

end Frame

/-! ## The work on a question -/

variable {kb : KnowledgeBase} {profile : Bindings} {limit : Nat}

/-- What a part of the work on a question takes: inside of a category the captures that are left, in
order, and elsewhere only captures of categories that match in between. -/
def Course.TakesInOrder : Course → Prop
  | scan depth _ before _ after => ∃ happened, after.journal = happened ++ before.journal ∧
    (∀ happening ∈ happened, happening.IsAtLeast depth) ∧ EachTakenInOrder happened
  | answer depth _ before _ after => ∃ happened, before.Advances depth after happened
  | join depth _ before _ after => ∃ happened, before.Advances depth after happened
  | evaluate depth _ before _ after => ∃ happened, before.Advances depth after happened

/-- Captures are taken in order in every part of the work on a question. -/
theorem Course.Possible.takesInOrder {course : Course} (h : Possible kb profile limit course) :
    course.TakesInOrder := by
  -- By induction on the rules; only a wildcard moves the cursor, and a scan is deeper work.
  induction h with
  | scanCut | scanMiss => exact ⟨[], rfl, nofun, .nil⟩
  | scanTooDeep =>
    exact ⟨[.exceededLimit], rfl, List.forall_mem_singleton.2 (.of_depth?_eq_none rfl),
      .singleton rfl⟩
  | scanHit _ _ _ _ ih =>
    obtain ⟨happened, hadvances⟩ := ih
    exact ⟨_, hadvances.scanned⟩
  | answerGroup _ ih | answerText _ _ _ ih => exact ih
  | answerBlank | joinNil | text | bot | get | onlyIfNot | randomNone | lineBreak =>
    exact ⟨[], .refl _ _⟩
  | joinCons _ _ ihfirst ihrest =>
    obtain ⟨happened, hfirst⟩ := ihfirst
    obtain ⟨happened', hrest⟩ := ihrest
    exact ⟨_, hfirst.trans hrest⟩
  | setNothing => exact ⟨_, .write _ _ _ _⟩
  | setCapture => exact ⟨_, .capture _ _ _⟩
  | setText _ _ ih =>
    obtain ⟨happened, hjoin⟩ := ih
    exact ⟨_, hjoin.trans (.write _ _ _ _)⟩
  | star | starEmpty => exact ⟨_, .afterWildcard _ _⟩
  | starAnswer _ _ ih =>
    obtain ⟨happened, hjournal, hdeeper, hinOrder⟩ := ih
    exact ⟨_, (Frame.Advances.afterWildcard _ _).trans (.deeper hjournal hdeeper hinOrder)⟩
  | redirect _ _ ihjoin ihscan =>
    obtain ⟨happened, hjoin⟩ := ihjoin
    obtain ⟨happened', hjournal', hdeeper, hinOrder⟩ := ihscan
    exact ⟨_, hjoin.trans (.deeper hjournal' hdeeper hinOrder)⟩
  | random _ _ ih | firstOf _ ih => exact ih
  | onlyIf _ _ ih | select _ ih | recase _ ih | think _ ih | item _ ih | group _ ih | markup _ ih =>
    exact ih

/-! ## The evaluation of a category -/

section Category

variable {levels depth : Nat}

/-- The setting at a depth, if so many levels are left for nested questions. -/
theorem settingAt_add (kb : KnowledgeBase) (profile : Bindings) (levels depth : Nat) :
    Call.settingAt kb profile (depth + levels) depth =
      ⟨profile, depth, redirect (scan kb profile levels (depth + 1))⟩ := by
  rw [Call.settingAt, Call.askNested, Nat.add_sub_cancel_left]

/-- The cursor moves along with any part of a template. -/
theorem advances_of_concatenate {fragments : List Fragment} {before after : Frame} {text : String}
    (htext : Yields (concatenate ⟨profile, depth, redirect (scan kb profile levels (depth + 1))⟩
      fragments) before text after) :
    ∃ happened, before.Advances depth after happened := by
  rw [← settingAt_add] at htext
  have hpossible : Course.Possible kb profile (depth + levels)
      (.join depth fragments before text after) := Course.possible_iff_isOutcome.2 htext
  exact hpossible.takesInOrder

/-- The template of a category is evaluated with the cursor in front of its captures. -/
theorem advances_of_evaluateWinner {winner : Winner} {request : Request} {out : Hit × Request}
    (hout : out ∈ ((evaluateWinner profile depth
      (redirect (scan kb profile levels (depth + 1))) winner).run request).outcomes) :
    ∃ after happened,
      Frame.Advances depth ⟨winner.captures, request.begin depth winner⟩ after happened ∧
        out.2 = after.request.record (.finished depth) := by
  rw [evaluateWinner_run, ← settingAt_add, Choice.mem_outcomes_bind] at hout
  obtain ⟨⟨text, after⟩, hanswer, hpure⟩ := hout
  cases Choice.mem_outcomes_pure.1 hpure
  have hpossible : Course.Possible kb profile (depth + levels) (.answer depth
      winner.category.template ⟨winner.captures, request.begin depth winner⟩ text after) :=
    Course.possible_iff_isOutcome.2 hanswer
  obtain ⟨happened, hadvances⟩ := hpossible.takesInOrder
  exact ⟨after, happened, hadvances, rfl⟩

/-- A variable whose value begins with a wildcard takes the next capture and stands for it. -/
theorem run_set_of_takesCapture (setting : Setting) {first : Fragment}
    (hcapture : first.takesCapture = true) (rest : List Fragment) (name : String) (frame : Frame) :
    (evaluateFragment setting (.set name (first :: rest))).run frame =
      pure (frame.nextCapture,
        (frame.afterCapture setting.depth).write name frame.nextCapture) := by
  rw [evaluateFragment]
  simp only [List.head?_cons, hcapture, if_true]
  rfl

/-- What the evaluation of a category takes, for all templates, captures, requests and draws.  In
everything that happens in it, the captures that the category takes are its own in order, one for
each that it has taken before, and then empty texts; a deeper category takes those of its own match,
in order from the first one; and each capture is stored next.  Variables whose values begin with a
wildcard take the captures: each of them stores the text that is noted and stands for it.  And the
cursor moves along with any part of a template by as many captures as the category takes in it,
whatever nested questions lead to. -/
theorem captures_taken_in_order {winner : Winner} {request : Request} {out : Hit × Request}
    (hout : out ∈ ((evaluateWinner profile depth
      (redirect (scan kb profile levels (depth + 1))) winner).run request).outcomes) :
    let setting : Setting := ⟨profile, depth, redirect (scan kb profile levels (depth + 1))⟩
    (∃ happened,
      out.2.journal = .finished depth ::
        (happened ++ .matched depth winner.index winner.captures :: request.journal) ∧
      (∀ happening ∈ happened, happening.IsInside depth) ∧
      TakenInOrder depth winner.captures happened) ∧
    (∀ (frame : Frame) (name : String) (first : Fragment) (rest : List Fragment),
      first.takesCapture = true → ∃ text after,
        (evaluateFragment setting (.set name (first :: rest))).run frame = pure (text, after) ∧
        after.request.journal =
          .wrote name text :: .tookCapture depth text :: frame.request.journal ∧
        after.vars.get? name = some text) ∧
    ∀ (fragments : List Fragment) (before after : Frame) (text : String),
      Yields (concatenate setting fragments) before text after →
        ∃ happened, before.Advances depth after happened := by
  intro setting
  refine ⟨?_, ?_, fun fragments before after text => advances_of_concatenate⟩
  · obtain ⟨after, happened, hadvances, hafter⟩ := advances_of_evaluateWinner hout
    refine ⟨happened, ?_, hadvances.inside, hadvances.inOrder⟩
    rw [hafter, hadvances.scanned.1, List.append_assoc]
    rfl
  · intro frame name first rest hcapture
    refine ⟨_, _, run_set_of_takesCapture setting hcapture rest name frame, rfl, ?_⟩
    exact Bindings.get?_insert_self ..

/-- A rule that takes two captures, asks a nested question in between and takes one more. -/
def introduces : Category where
  pattern := ⟨[.text "MEET * AND *"]⟩
  that := none
  template := [.set "first" [.star], .redirect [.text "greet Eve"],
    .think [.set "second" [.text " * "]], .set "third" [.text "_"]]

/-- A rule that takes one capture. -/
def greets : Category where
  pattern := ⟨[.text "GREET *"]⟩
  that := none
  template := [.set "greeted" [.star]]

/-- The first rule is evaluated, and the second one can be asked. -/
def meeting : Choice (Hit × Request) :=
  (evaluateWinner .empty 0 (redirect (scan ⟨[introduces, greets], 1⟩ .empty 1 1))
    ⟨0, introduces, ["Ann", "Tom"]⟩).run { conversation := .start .empty }

/-- The nested question takes its own capture, and nothing is left for the last variable. -/
theorem captures_taken_in_order_meeting :
    let request := (meeting.follow ⟨fun _ => 0, 0⟩).1.2
    (∃ happened,
      request.journal = .finished 0 :: (happened ++ [.matched 0 0 ["Ann", "Tom"]]) ∧
        TakenInOrder 0 ["Ann", "Tom"] happened) ∧
      ["first", "greeted", "second", "third"].map request.conversation.vars.get? =
        [some "Ann", some "Eve", some "Tom", some ""] := by
  obtain ⟨⟨happened, hjournal, -, hinOrder⟩, -⟩ :=
    captures_taken_in_order (meeting.follow_mem_outcomes ⟨fun _ => 0, 0⟩)
  exact ⟨⟨happened, hjournal, hinOrder⟩, by decide +kernel⟩

end Category

end Dialogue

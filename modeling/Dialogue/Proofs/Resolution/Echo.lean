import Dialogue.Category.OfMarkup
import Dialogue.Loading.Bot
import Dialogue.Proofs.Markup.Lengths
import Dialogue.Proofs.Markup.Printing
import Dialogue.Proofs.Resolution.Redirection
import Dialogue.Proofs.Text.Clean

/-!
# Echoed elements

An element of a template that has no meaning of its own is part of the answer as it is written.
Its attributes are written with entities, so that they are read again whatever their values are.
Its content is written as it stands: an answer that is such an element is read as this element
exactly if the content has neither an angle bracket that opens a tag nor an ampersand in it, and
the tag has no colon, behind which its local name would begin.

Main results:

- Theorem `toList_writeElement`: an element in an answer is its tag, its content and its end tag.
- Theorem `parse_writeElement_iff`: which elements are read as they are from the way in which they
  are written in an answer.
- Theorem `resolve_echo_iff`: a template that is one such element answers with this element.
- Theorem `exists_misread_echo`: an answer with an ampersand in its content is no markup.
-/

namespace Dialogue

open Markup Text

/-! ## Elements in answers -/

/-- An attribute as it is written in an answer. -/
def attributeText (entry : String × String) : String :=
  " " ++ entry.1 ++ "=\"" ++ Markup.escape entry.2 ++ "\""

/-- An attribute is written in an answer as it is printed. -/
@[simp] theorem toList_attributeText (entry : String × String) :
    (attributeText entry).toList = writeAttribute entry := by
  simp [attributeText, writeAttribute, Markup.escape]

/-- The characters of an element in an answer. -/
theorem toList_writeElement (tag : String) (attributes : Attributes) (content : String) :
    (writeElement tag attributes content).toList =
      if content = "" then '<' :: writeTag tag attributes ++ '/' :: ['>']
      else '<' :: writeTag tag attributes ++
        '>' :: (content.toList ++ ('<' :: '/' :: tag.toList ++ ['>'])) := by
  have hwritten : writeElement tag attributes content =
      "<" ++ tag ++ String.join (attributes.map attributeText) ++
        (if content = "" then "/>" else ">" ++ content ++ "</" ++ tag ++ ">") := rfl
  rw [hwritten, writeTag]
  split <;> simp [String.toList_join, List.flatMap_map]

/-! ## Reading elements in answers -/

section Reading

variable {tag content : String} {attributes : Attributes}

/-- The document of an element with a text in it. -/
def echoed (tag : String) (attributes : Attributes) (content : String) : Element :=
  .mk "" [] [.element (.mk tag attributes (textNodes content.toList))]

/-- An element in an answer is read under its local names if there are no special characters in its
content. -/
theorem parse_writeElement (htag : isPlainName tag = true)
    (hattributes : arePlainAttributes attributes = true)
    (hslash : content ≠ "" → (writeTag tag attributes).getLast? ≠ some '/')
    (hcontent : '<' ∉ content.toList ∧ '&' ∉ content.toList) :
    parse (writeElement tag attributes content) =
      .ok (echoed (localName tag) (localAttributes attributes) content) := by
  rw [parse_eq_ok_iff, toList_writeElement]
  have hend : ∀ document, Progress.ReadsAs ⟨[], [document]⟩ [] document := fun document =>
    ⟨by rw [cutPieces], ⟨[], [document]⟩, by rw [cutPieces]; rfl, rfl⟩
  split
  · rename_i hempty
    subst hempty
    exact readsAs_emptyTag htag hattributes rfl (hend _)
  · rename_i hempty
    have hspells := unescape_eq_ok_iff.1 (unescape_eq_self hcontent.2)
    have hchars := isTextChar_of_not_mem hcontent.1
    have hstop : ∀ c ∈ ('<' :: '/' :: tag.toList ++ '>' :: []).head?, isTextChar c = false := by
      rintro c ⟨⟩
      rfl
    refine readsAs_startTag htag hattributes (hslash hempty) ?_
    refine (Progress.readsAs_text_iff hchars hstop (Progress.readAll_textPieces hspells rfl)).2 ?_
    exact readsAs_endTag htag (hend _)

/-- In a text that is layout there are no special characters. -/
theorem not_special_of_isLayout (h : isLayout content = true) :
    '<' ∉ content.toList ∧ '&' ∉ content.toList := by
  rw [isLayout, Bool.and_eq_true, isBlankText, List.all_eq_true] at h
  exact ⟨fun hmem => absurd (h.1 _ hmem) (by decide), fun hmem => absurd (h.1 _ hmem) (by decide)⟩

/-- An element in an answer that is read with its content has room for this content and the end tag
behind its start tag. -/
theorem fits_of_parse_writeElement {name : String} {keys : Attributes}
    (htag : isPlainName tag = true) (hattributes : arePlainAttributes attributes = true)
    (hslash : (writeTag tag attributes).getLast? ≠ some '/')
    (hlayout : isLayout content = false) (hempty : content ≠ "")
    (hparse : parse (writeElement tag attributes content) = .ok (echoed name keys content)) :
    Fits [tag] [.text content, .closed name]
      (content.toList ++ ('<' :: '/' :: tag.toList ++ ['>'])) := by
  obtain ⟨events, nodes, hevents, hopen, hnodes, hmarks⟩ := parse_eq_ok_iff_marks.1 hparse
  obtain ⟨hfault, hread⟩ := readEvents_eq_ok_iff.1 hevents
  -- The first piece is the start tag, and its event opens the element.
  obtain ⟨first, others, hchars, hfirst⟩ := exists_writeTag htag attributes
  have hpiece := markupPiece_of_passes hchars hfirst (passes_writeTag htag hattributes)
    (content.toList ++ ('<' :: '/' :: tag.toList ++ ['>']))
  have hsource : withoutMark (writeElement tag attributes content).toList =
      '<' :: (writeTag tag attributes ++
        '>' :: (content.toList ++ ('<' :: '/' :: tag.toList ++ ['>']))) := by
    rw [toList_writeElement, if_neg hempty]
    rfl
  rw [hsource, cutPieces_markup hpiece] at hfault hread
  obtain ⟨event, later, hevent, hlater, rfl⟩ := exists_of_readPieces_cons hread
  have hopened : event = .opened tag attributes := by
    rw [readPiece, if_neg hslash, readTag_writeTag htag hattributes] at hevent
    cases hevent
    rfl
  subst hopened
  -- The marks of the other pieces are those of the content and of the end of the element.
  have hlater' : later.flatMap Event.marks = [.text content, .closed name] := by
    cases hnodes
    rw [List.flatMap_cons, textNodes_of_not_layout hlayout hempty] at hmarks
    exact (List.cons.inj hmarks.symm).2
  rw [← hlater']
  exact fits_of_readPieces _ hfault hlater hopen

/-- An element in an answer is read with its content only if there are no special characters in the
content. -/
theorem not_special_of_parse {name : String} {keys : Attributes} (htag : isPlainName tag = true)
    (hattributes : arePlainAttributes attributes = true)
    (hslash : content ≠ "" → (writeTag tag attributes).getLast? ≠ some '/')
    (hparse : parse (writeElement tag attributes content) = .ok (echoed name keys content)) :
    '<' ∉ content.toList ∧ '&' ∉ content.toList := by
  cases hlayout : isLayout content with
  | true => exact not_special_of_isLayout hlayout
  | false =>
    by_cases hempty : content = ""
    · subst hempty
      decide
    · have hfits :=
        fits_of_parse_writeElement htag hattributes (hslash hempty) hlayout hempty hparse
      -- The source is exactly as long as the content and the end tag.
      refine hfits.tight ?_ content List.mem_cons_self
      simp only [closingLength, textLength, List.length_append, List.length_cons, List.length_nil]
      omega

/-- An element in an answer is read as it is exactly if its tag has no colon and its content no
special characters; no key may have a colon. -/
theorem parse_writeElement_iff (htag : isPlainName tag = true)
    (hattributes : arePlainAttributes attributes = true)
    (hslash : content ≠ "" → (writeTag tag attributes).getLast? ≠ some '/')
    (hkeys : ∀ entry ∈ attributes, ':' ∉ entry.1.toList) :
    parse (writeElement tag attributes content) = .ok (echoed tag attributes content) ↔
      ':' ∉ tag.toList ∧ '<' ∉ content.toList ∧ '&' ∉ content.toList := by
  constructor
  · intro hparse
    have hcontent := not_special_of_parse htag hattributes hslash hparse
    rw [parse_writeElement htag hattributes hslash hcontent] at hparse
    injection hparse with hdocument
    injection hdocument with _ _ hchildren
    injection hchildren with hchild
    injection hchild with helement
    injection helement with hname
    exact ⟨localName_eq_self_iff.1 hname, hcontent⟩
  · rintro ⟨hcolon, hcontent⟩
    rw [parse_writeElement htag hattributes hslash hcontent, localName_eq_self_iff.2 hcolon,
      localAttributes_eq_self hkeys]

end Reading

/-! ## Answers -/

section Answers

variable {tag content : String} {attributes : Attributes}

/-- Only a carriage return is written with one. -/
theorem return_mem_escapeChar {c : Char} (h : '\r' ∈ escapeChar c) : c = '\r' := by
  unfold escapeChar at h
  split at h
  · rename_i name e hfind
    have hentities : ∀ entity ∈ namedEntities, '\r' ∉ '&' :: entity.1.toList ++ [';'] := by
      decide
    exact absurd h (hentities _ (List.mem_of_find?_eq_some hfind))
  · exact (List.mem_singleton.1 h).symm

/-- A carriage return is white space in a tag. -/
theorem return_not_mem_of_not_blank {s : List Char} (h : ∀ c ∈ s, isTagBlank c = false) :
    '\r' ∉ s := fun hmem => absurd (h _ hmem) (by decide)

/-- There are no carriage returns in a tag if there are none in its values. -/
theorem return_not_mem_writeTag (htag : isPlainName tag = true)
    (hattributes : arePlainAttributes attributes = true)
    (hvalues : ∀ entry ∈ attributes, '\r' ∉ entry.2.toList) :
    '\r' ∉ writeTag tag attributes := by
  rw [arePlainAttributes, Bool.and_eq_true, List.all_eq_true] at hattributes
  rw [writeTag, List.mem_append, List.mem_flatMap, not_or]
  refine ⟨return_not_mem_of_not_blank (isPlainName_iff.1 htag).2.1, ?_⟩
  rintro ⟨⟨key, value⟩, hentry, hmem⟩
  have hkey := return_not_mem_of_not_blank
    (isTagBlank_of_isPlainKey (hattributes.1 key (List.mem_map_of_mem hentry)))
  have hvalue : '\r' ∉ value.toList.flatMap escapeChar := by
    intro hin
    obtain ⟨c, hc, hreturn⟩ := List.mem_flatMap.1 hin
    exact hvalues _ hentry (return_mem_escapeChar hreturn ▸ hc)
  simp [writeAttribute, hkey, hvalue] at hmem

/-- An element in an answer begins and ends with angle brackets. -/
theorem hasBareEnds_writeElement (tag : String) (attributes : Attributes) (content : String) :
    HasBareEnds (writeElement tag attributes content).toList := by
  obtain ⟨inner, hinner⟩ : ∃ inner,
      (writeElement tag attributes content).toList = '<' :: inner ++ ['>'] := by
    rw [toList_writeElement]
    split
    · exact ⟨writeTag tag attributes ++ ['/'], by simp⟩
    · exact ⟨writeTag tag attributes ++ '>' :: (content.toList ++ '<' :: '/' :: tag.toList),
        by simp⟩
  rw [hinner]
  constructor
  · rintro c ⟨⟩
    rfl
  · rw [List.getLast?_concat]
    rintro c ⟨⟩
    rfl

/-- An element in an answer is clean if there are no carriage returns in its values and in its
content. -/
theorem isClean_writeElement (htag : isPlainName tag = true)
    (hattributes : arePlainAttributes attributes = true)
    (hvalues : ∀ entry ∈ attributes, '\r' ∉ entry.2.toList)
    (hcontent : '\r' ∉ content.toList) : IsClean (writeElement tag attributes content) := by
  have hwritten := return_not_mem_writeTag htag hattributes hvalues
  have hname := return_not_mem_of_not_blank (isPlainName_iff.1 htag).2.1
  refine isClean_iff.2 ⟨?_, hasBareEnds_writeElement tag attributes content⟩
  rw [toList_writeElement]
  split
  · simp [hwritten]
  · simp [hwritten, hname, hcontent]

/-- A template that is one element without a meaning answers with this element. -/
theorem respond_echo (setting : Setting) {children : List Node}
    (hunknown : TagMeaning.ofName tag = .unknown)
    (hchildren : children = [] ∧ content = "" ∨ children = [.text content])
    (hbreak : '\n' ∉ content.toList) (hclean : IsClean content) :
    respond setting [Fragment.ofElement (.mk tag attributes children)] =
      pure (answerOf (clean (writeElement tag attributes content))) := by
  have hfragments : clean <$> concatenate setting (fragmentsOf children) = pure content := by
    rcases hchildren with ⟨rfl, rfl⟩ | rfl
    · rfl
    · rw [fragmentsOf, collapseLineBreaks, collapseBreaks_of_not_mem hbreak, String.ofList_toList]
      have htexts := concatenate_texts setting [content]
      rw [List.map_cons, List.map_nil] at htexts
      rw [fragmentsOf, htexts, map_pure]
      simpa using congrArg pure hclean
  have hfragment : Fragment.ofElement (.mk tag attributes children) =
      .markup tag attributes (fragmentsOf children) := by
    simp only [Fragment.ofElement, hunknown]
  have hother : ∀ inner, Fragment.markup tag attributes (fragmentsOf children) = .group inner →
      ([] : List Fragment) = [] → False := nofun
  have hevaluated : evaluateFragment setting (.markup tag attributes (fragmentsOf children)) =
      pure (writeElement tag attributes content) := by
    have hwritten := congrArg (writeElement tag attributes <$> ·) hfragments
    simpa [evaluateFragment, Functor.map_map] using hwritten
  rw [hfragment, respond_cons setting hother, hevaluated]
  simp only [Fragment.isBlank, Bool.false_and, Bool.false_eq_true, if_false, concatenate,
    pure_bind, String.append_empty]

/-- A request whose template is one element without a meaning answers with this element, and the
answer is read as the element exactly if there is no colon in its tag and no special character in
its content.  Its names are any that can be read in a tag, and its values may be any texts without
carriage returns; the start tag of an element with content never ends with a slash. -/
theorem resolve_echo_iff {kb : KnowledgeBase} {profile : Bindings} {conversation : Conversation}
    {question : String} {winner : Winner} {children : List Node}
    (hwinner : (survey profile conversation question 0 kb.categories).winner = some winner)
    (htemplate : winner.category.template = [Fragment.ofElement (.mk tag attributes children)])
    (hunknown : TagMeaning.ofName tag = .unknown) (htag : isPlainName tag = true)
    (hattributes : arePlainAttributes attributes = true)
    (hslash : content ≠ "" → (writeTag tag attributes).getLast? ≠ some '/')
    (hkeys : ∀ entry ∈ attributes, ':' ∉ entry.1.toList)
    (hvalues : ∀ entry ∈ attributes, '\r' ∉ entry.2.toList)
    (hchildren : children = [] ∧ content = "" ∨ children = [.text content])
    (hbreak : '\n' ∉ content.toList) (hclean : IsClean content) (limit : Nat) (draws : Draws) :
    ((resolve kb profile limit conversation question).follow draws).1.resolution.answer =
        some (writeElement tag attributes content) ∧
      (parse (writeElement tag attributes content) =
          .ok (.mk "" [] [.element (.mk tag attributes (textNodes content.toList))]) ↔
        ':' ∉ tag.toList ∧ '<' ∉ content.toList ∧ '&' ∉ content.toList) := by
  refine ⟨?_, parse_writeElement_iff htag hattributes hslash hkeys⟩
  have hwritten : IsClean (writeElement tag attributes content) :=
    isClean_writeElement htag hattributes hvalues (isClean_iff.1 hclean).1
  have hne : writeElement tag attributes content ≠ "" := by
    intro hempty
    have hchars := toList_writeElement tag attributes content
    rw [hempty] at hchars
    split at hchars <;> cases hchars
  have hforgotten : (survey profile conversation.forgetCaptures question 0
      kb.categories).winner = some winner := by
    rw [survey_forgetCaptures]
    exact hwinner
  have hstart : ({ conversation := conversation.forgetCaptures } : Request).metrics.limitHit =
      false := rfl
  rw [resolve_eq, scan_of_winner hstart hforgotten, evaluateWinner_run, htemplate,
    respond_echo _ hunknown hchildren hbreak hclean, hwritten, answerOf, if_neg hne]
  have hnested : nestedAnswer (some ⟨winner.index, winner.captures,
      some (writeElement tag attributes content)⟩) = writeElement tag attributes content := hwritten
  have hanswer := congrArg Resolution.answer (Resolution.ofHit_some
    ⟨winner.index, winner.captures, some (writeElement tag attributes content)⟩)
  rw [hnested, answerOf, if_neg hne] at hanswer
  exact hanswer

end Answers

/-- An element with quotation marks and special characters in its value. -/
def quotedLink : Element :=
  .mk "a" [("title", "say \"hi\" & <go>")] [.text "it's 2 > 1"]

/-- A rule that answers with the element. -/
def linkAnswer : Category where
  pattern := ⟨[.text "LINK"]⟩
  that := none
  template := [Fragment.ofElement quotedLink]

/-- The element is answered with entities in its value, and the answer is read as the element. -/
theorem resolve_echo_iff_quotedLink :
    let kb : KnowledgeBase := ⟨[linkAnswer], 1⟩
    let answer := "<a title=\"say &quot;hi&quot; &amp; &lt;go&gt;\">it's 2 > 1</a>"
    ((resolve kb .empty 0 (.start .empty) "Link").follow ⟨fun _ => 0, 0⟩).1.resolution.answer =
        some answer ∧
      parse answer = .ok (.mk "" [] [.element quotedLink]) := by
  intro kb answer
  have hverdict : linkAnswer.verdict .empty (.start .empty) "Link" = .matched [] := by
    decide +kernel
  have hwinner : (survey .empty (.start .empty) "Link" 0 kb.categories).winner =
      some ⟨0, linkAnswer, []⟩ := by
    rw [survey_cons_of_matched 0 _ hverdict]
  have hwritten : writeElement "a" [("title", "say \"hi\" & <go>")] "it's 2 > 1" = answer := by
    decide +kernel
  have hclean : IsClean "it's 2 > 1" := by
    unfold IsClean
    decide +kernel
  have hecho := resolve_echo_iff hwinner rfl (by decide +kernel) (by decide +kernel)
    (by decide +kernel) (by decide +kernel) (by decide +kernel) (by decide +kernel) (.inr rfl)
    (by decide +kernel) hclean 0 ⟨fun _ => 0, 0⟩
  rw [hwritten] at hecho
  exact ⟨hecho.1, hecho.2.2 (by decide +kernel)⟩

/-- A template with an ampersand in an element without a meaning answers with a text that is no
markup, since the content of the element is not written with entities. -/
theorem exists_misread_echo :
    let kb := ((Bot.new .empty).loadText ("<category><pattern>A</pattern><template>" ++
      "<b>x &amp; y</b></template></category>")).2.knowledge
    let resolved := ((resolve kb .empty 10 (.start .empty) "A").follow ⟨fun _ => 0, 0⟩).1
    (parse "<b>x &amp; y</b>").toOption.map Element.text = some "x & y" ∧
      resolved.resolution.answer = some "<b>x & y</b>" ∧
      (parse "<b>x & y</b>").toOption.map Element.text = none := by
  decide +kernel

end Dialogue

import Dialogue.Proofs.Pattern.Generality
import Dialogue.Proofs.Resolution.Ending
import Dialogue.Proofs.Resolution.Scope
import Dialogue.Proofs.Session.Turns

/-!
# Categories that never win

The first category that takes a question wins.  So a category is never evaluated if one in front
of it takes whatever it takes: one that asks for no previous answer, and whose pattern has
wildcards in the places of some of its words.  The captures of the two may differ, and with them
the way a question is cut; only that the question is taken counts.

Main results:

- Theorem `Category.Shadows.exists_takes`: what is taken by the one is taken by the other.
- Theorem `Request.Step.index_ne_of_matched`: the step that begins an evaluation.
- Theorem `not_evaluated_of_shadows`: a category in the shadow of another one is evaluated by no
  scan, in no request and for no question of a session.
-/

namespace Dialogue

/-! ## Shadows -/

/-- The tokens of a pattern without references. -/
def Wording.tokens (w : Wording) : List Token := patternTokens (w.render .empty .empty)

/-- A category that takes whatever another one takes: both have a pattern without references, it
asks for no previous answer, and its pattern, which can be used, is that of the other one with
wildcards in the places of some words that are made of word characters. -/
structure Category.Shadows (general special : Category) : Prop where
  that : general.that = none
  isStatic : general.pattern.isDynamic = false
  isStatic_special : special.pattern.isDynamic = false
  reads : (Pattern.ofText? (general.pattern.render .empty .empty)).isSome
  covers : List.Forall₂ Token.Covers general.pattern.tokens special.pattern.tokens

variable {kb : KnowledgeBase} {profile : Bindings} {general special : Category}

/-- Whatever is taken by a category is taken by one that shadows it, though with other
captures. -/
theorem Category.Shadows.exists_takes (h : general.Shadows special) {conversation : Conversation}
    {question : String} {captures : List String}
    (htakes : special.verdict profile conversation question = .matched captures) :
    ∃ others, general.verdict profile conversation question = .matched others := by
  have hmatches : (matchText question (special.pattern.render .empty .empty)).isSome := by
    rw [← Wording.render_of_not_isDynamic h.isStatic_special profile conversation.vars]
    unfold verdict Wording.captures? at htakes
    split at htakes
    · cases htakes
    · rename_i found hfound
      rw [hfound]
      rfl
  have hgeneral := isSome_matchText_of_covers h.reads h.covers hmatches
  rcases Option.isSome_iff_exists.1 hgeneral with ⟨others, hothers⟩
  rw [← Wording.render_of_not_isDynamic h.isStatic profile conversation.vars] at hothers
  refine ⟨others, ?_⟩
  rw [verdict, Wording.captures?, hothers, h.that]

section Shadowed

variable {i j : Nat} (hlt : i < j) (hgeneral : kb.categories[i]? = some general)
  (hspecial : kb.categories[j]? = some special) (hshadows : general.Shadows special)

include hlt hgeneral hspecial hshadows

/-- A category behind one that shadows it does not win. -/
theorem KnowledgeBase.Wins.index_ne_of_shadows {conversation : Conversation} {question : String}
    {winner : Winner} (hwins : kb.Wins profile conversation question winner) :
    winner.index ≠ j := by
  intro hindex
  have hcategory : winner.category = special := by
    have hthere := hwins.category
    rw [hindex, hspecial] at hthere
    exact (Option.some.inj hthere).symm
  have hmatched := hwins.matched
  rw [hcategory] at hmatched
  rcases hshadows.exists_takes hmatched with ⟨others, hothers⟩
  exact hwins.first i (hindex ▸ hlt) general hgeneral others hothers

/-! ## Steps and requests -/

/-- A step that notes a match does so for a category that wins. -/
theorem Request.Step.index_ne_of_matched {r r' : Request} (hstep : Step kb profile r r') :
    ∃ happened, r'.journal = happened ++ r.journal ∧
      ∀ found ∈ matchesIn happened, found.index ≠ j := by
  cases hstep with
  | countRedirect => exact ⟨[], rfl, nofun⟩
  | tryCategories depth question hlimit => exact ⟨[], rfl, nofun⟩
  | readWildcard => exact ⟨[_], rfl, nofun⟩
  | takeCapture depth value => exact ⟨[_], rfl, nofun⟩
  | write name value => exact ⟨[_], rfl, nofun⟩
  | exceedLimit hlimit => exact ⟨[_], rfl, nofun⟩
  | finish depth => exact ⟨[_], rfl, nofun⟩
  | begin depth question winner hlimit hwinner =>
    refine ⟨[_], rfl, ?_⟩
    have hwins := wins_of_survey hwinner
    rw [matchesIn, matchesIn, List.forall_mem_singleton]
    exact hwins.index_ne_of_shadows hlt hgeneral hspecial hshadows

/-- On the way from one request to another no match is noted for a category behind one that
shadows it. -/
theorem Request.Reaches.index_ne_of_matched {r r' : Request} (hreach : Reaches kb profile r r') :
    ∃ happened, r'.journal = happened ++ r.journal ∧
      ∀ found ∈ matchesIn happened, found.index ≠ j := by
  induction hreach with
  | refl => exact ⟨[], rfl, nofun⟩
  | tail _ hlast ih =>
    rcases ih with ⟨earlier, hearlier, hmatches⟩
    rcases hlast.index_ne_of_matched hlt hgeneral hspecial hshadows with ⟨last, hjournal, hlast⟩
    refine ⟨last ++ earlier, ?_, ?_⟩
    · rw [hjournal, hearlier, List.append_assoc]
    · rw [matchesIn_append, List.forall_mem_append]
      exact ⟨hlast, hmatches⟩

/-- A scan does not find a category behind one that shadows it. -/
theorem Hit.index_ne_of_scan {levels depth : Nat} {question : String} {request : Request}
    {out : Option Hit × Request}
    (hout : out ∈ ((scan kb profile levels depth question).run request).outcomes) :
    ∀ hit ∈ out.1, hit.index ≠ j := by
  cases hlimit : request.metrics.limitHit with
  | true =>
    rw [scan_of_limitHit hlimit] at hout
    cases Choice.mem_outcomes_pure.1 hout
    exact nofun
  | false =>
    cases levels with
    | zero =>
      rw [scan_zero _ _ _ _ _ hlimit] at hout
      cases List.mem_singleton.1 hout
      exact nofun
    | succ levels =>
      rcases scan_cases hlimit hout with ⟨-, rfl⟩ | ⟨winner, text, hwinner, hhit, -⟩
      · exact nofun
      · rw [hhit]
        rintro hit ⟨⟩
        exact (wins_of_survey hwinner).index_ne_of_shadows hlt hgeneral hspecial hshadows

/-- A request is not resolved by a category behind one that shadows it, nor is this category
evaluated on the way. -/
theorem Resolved.index_ne_of_shadows {limit : Nat} {conversation : Conversation}
    {question : String} {resolved : Resolved}
    (hresolved : resolved ∈ (resolve kb profile limit conversation question).outcomes) :
    (∀ found ∈ matchesIn resolved.request.journal, found.index ≠ j) ∧
      resolved.resolution.winner ≠ some j := by
  rw [resolve_eq, Choice.mem_outcomes_bind] at hresolved
  rcases hresolved with ⟨⟨hit, request⟩, hscan, hresolved⟩
  cases Choice.mem_outcomes_pure.1 hresolved
  have hhit := Hit.index_ne_of_scan hlt hgeneral hspecial hshadows hscan
  constructor
  · have hreach := (steps_scan (limit + 1) 0 question _ _ hscan).reaches
    rcases hreach.index_ne_of_matched hlt hgeneral hspecial hshadows with
      ⟨happened, hjournal, hmatches⟩
    rw [List.append_nil] at hjournal
    rwa [Request.conclude, hjournal]
  · cases hlimit : request.metrics.limitHit with
    | true => simp [Request.conclude, Resolution.ofHit, hlimit]
    | false =>
      cases hit with
      | none => simp [Request.conclude, Resolution.ofHit, hlimit]
      | some hit =>
        have hindex : hit.index ≠ j := hhit hit rfl
        simpa [Request.conclude, Resolution.ofHit_some, hlimit] using hindex

/-- A category that stands behind one that shadows it is never evaluated.  Whatever state a
request is in, no scan of any question at any depth, with any number of levels left, notes that
the category matches or finds it; and so in the conversation of a session, whatever has been
said before, a question is neither resolved by the category nor redirected to it on the way. -/
theorem not_evaluated_of_shadows :
    (∀ levels depth question request, ∀ out ∈
        ((scan kb profile levels depth question).run request).outcomes,
      (∃ happened, out.2.journal = happened ++ request.journal ∧
        ∀ found ∈ matchesIn happened, found.index ≠ j) ∧
      ∀ hit ∈ out.1, hit.index ≠ j) ∧
    (∀ limit conversation question, ∀ resolved ∈
        (resolve kb profile limit conversation question).outcomes,
      (∀ found ∈ matchesIn resolved.request.journal, found.index ≠ j) ∧
      resolved.resolution.winner ≠ some j) ∧
    ∀ (session : Session) (bot : Bot), bot.knowledge = kb → ∀ question,
      ∀ summary ∈ (session.ask bot question).1.winner, summary.index ≠ j := by
  refine ⟨fun levels depth question request out hout => ⟨?_, ?_⟩,
    fun limit conversation question resolved hresolved =>
      Resolved.index_ne_of_shadows hlt hgeneral hspecial hshadows hresolved, ?_⟩
  · have hreach := (steps_scan levels depth question request out hout).reaches
    exact hreach.index_ne_of_matched hlt hgeneral hspecial hshadows
  · exact Hit.index_ne_of_scan hlt hgeneral hspecial hshadows hout
  · rintro session bot rfl question summary hsummary
    rcases session.exists_resolved_ask bot question with ⟨resolved, hresolved, hanswer, -⟩
    have hwinner := (Resolved.index_ne_of_shadows hlt hgeneral hspecial hshadows hresolved).2
    rw [hanswer, Answer.ofResolved, KnowledgeBase.summary?] at hsummary
    rcases Option.bind_eq_some_iff.1 hsummary with ⟨index, hindex, hfound⟩
    rcases Option.bind_eq_some_iff.1 hfound with ⟨category, -, hmade⟩
    cases hmade
    rintro rfl
    exact hwinner hindex

end Shadowed

/-- A rule for any three words or more. -/
def takesThree : Category := ⟨⟨[.text "* _ *"]⟩, none, [.text "I see"], 0⟩

/-- A rule about who likes whom. -/
def takesLikes : Category := ⟨⟨[.text "* LIKES *."]⟩, none, [.text "Who is ", .star], 0⟩

/-- The word in the middle is made of word characters. -/
theorem takesThree_shadows_takesLikes : takesThree.Shadows takesLikes where
  that := rfl
  isStatic := rfl
  isStatic_special := rfl
  reads := by decide +kernel
  covers := by
    have hgeneral : takesThree.pattern.tokens = [.wildcard, .wildcard, .wildcard] := by
      decide +kernel
    have hspecial : takesLikes.pattern.tokens =
        [.wildcard, .literal "LIKES".toList, .wildcard] := by decide +kernel
    have hword : "LIKES".toList.all Text.isWordChar = true := by decide +kernel
    rw [hgeneral, hspecial]
    exact .cons (.same _) (.cons (.wildcard (List.all_eq_true.1 hword)) (.cons (.same _) .nil))

/-- The second rule would take the sentence with other captures, but the first one wins. -/
theorem not_evaluated_of_shadows_takesLikes :
    let kb : KnowledgeBase := ⟨[takesThree, takesLikes], 1⟩
    let question := "Ann likes Ben and Eve"
    let start : Conversation := .start .empty
    let out := (((scan kb .empty 1 0 question).run { conversation := start }).follow
      ⟨fun _ => 0, 0⟩).1
    takesThree.Shadows takesLikes ∧
      takesLikes.verdict .empty start question = .matched ["Ann", "Ben and Eve"] ∧
      out.1 = some ⟨0, ["Ann likes Ben", "and", "Eve"], some "I see"⟩ ∧
      (∃ happened, out.2.journal = happened ++ [] ∧
        ∀ found ∈ matchesIn happened, found.index ≠ 1) ∧
      ∀ hit ∈ out.1, hit.index ≠ 1 := by
  intro kb question start out
  have hout := Choice.follow_mem_outcomes ((scan kb .empty 1 0 question).run
    { conversation := start }) ⟨fun _ => 0, 0⟩
  have hnever := (@not_evaluated_of_shadows kb .empty takesThree takesLikes 0 1 Nat.one_pos rfl rfl
    takesThree_shadows_takesLikes).1 1 0 question { conversation := start } out hout
  exact ⟨takesThree_shadows_takesLikes, by decide +kernel, by decide +kernel, hnever⟩

end Dialogue

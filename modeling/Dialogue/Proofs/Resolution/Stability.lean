import Dialogue.Proofs.Choice
import Dialogue.Proofs.Resolution.Comparison
import Dialogue.Proofs.Resolution.Scanning
import Dialogue.Session

/-!
# Raising the limit

The limit on nested redirections decides nothing before it is exceeded.  Two scans with
different numbers of levels left take the same steps, on the same draws, up to the moment
at which the limit is exceeded in the one with fewer levels, and from then on it remains
exceeded.  So a request that does not end at the limit does not depend on it.

Main results:

- Theorem `SameUnless.bind`: sequences come to the same if their parts do, unless
  something happens on the way.
- Theorem `sameUnless_scan`: more levels make no difference unless the limit is exceeded.
- Theorem `Session.ask_withLimit_of_le`: a larger limit does not change an answer that has
  stayed below the smaller one.
-/

namespace Dialogue

/-! ## The same unless something happens -/

/-- Computations that come to the same, state and draws included, unless `event` has
happened in the first of them.  An event that has happened once stays. -/
structure SameUnless {σ α : Type} (event : σ → Bool) (x y : StateT σ Choice α) : Prop where
  stays : ∀ s draws, event s = true → event ((x.run s).follow draws).1.2 = true
  same : ∀ s draws, event ((x.run s).follow draws).1.2 = false →
    (y.run s).follow draws = (x.run s).follow draws

namespace SameUnless

variable {σ τ α β : Type} {event : σ → Bool}

/-- A computation comes to the same as itself if no event is undone in it. -/
theorem refl {x : StateT σ Choice α}
    (hstays : ∀ s draws, event s = true → event ((x.run s).follow draws).1.2 = true) :
    SameUnless event x x := by
  constructor
  · exact hstays
  · intro s draws _
    rfl

/-- Returning comes to the same. -/
theorem pure (a : α) : SameUnless event (pure a) (pure a) := by
  apply refl
  intro s draws hs
  exact hs

/-- A choice comes to the same. -/
theorem among (n : Nat) : SameUnless event (Choice.among n) (Choice.among n) := by
  apply refl
  intro s draws hs
  exact hs

/-- Sequences come to the same if their parts do. -/
theorem bind {x y : StateT σ Choice α} {f g : α → StateT σ Choice β}
    (hxy : SameUnless event x y) (hfg : ∀ a, SameUnless event (f a) (g a)) :
    SameUnless event (x >>= f) (y >>= g) := by
  have hfollow : ∀ (x : StateT σ Choice α) (f : α → StateT σ Choice β) s draws,
      ((x >>= f).run s).follow draws =
        ((f ((x.run s).follow draws).1.1).run ((x.run s).follow draws).1.2).follow
          ((x.run s).follow draws).2 :=
    fun x f s draws => Choice.follow_bind (x.run s) (fun out => (f out.1).run out.2) draws
  constructor
  · intro s draws hs
    rw [hfollow]
    exact (hfg _).stays _ _ (hxy.stays s draws hs)
  · intro s draws hend
    rw [hfollow] at hend
    -- What has not happened at the end had not happened after the first part.
    cases hmid : event ((x.run s).follow draws).1.2 with
    | true =>
      have hevent := (hfg ((x.run s).follow draws).1.1).stays _ ((x.run s).follow draws).2 hmid
      rw [hend] at hevent
      cases hevent
    | false =>
      rw [hfollow, hfollow, hxy.same s draws hmid]
      exact (hfg _).same _ _ hend

/-- Computations come to the same if each is another one between an entry and an exit that
leave the event as it is, and the others come to the same. -/
theorem wrap {event' : τ → Bool} {x y : StateT σ Choice α} {x' y' : StateT τ Choice β}
    (h : SameUnless event' x' y') (enter : σ → τ) (leave : σ → β × τ → α × σ)
    (henter : ∀ s, event' (enter s) = event s)
    (hleave : ∀ s out, event (leave s out).2 = event' out.2)
    (hx : ∀ s, x.run s = x'.run (enter s) >>= fun out => Pure.pure (leave s out))
    (hy : ∀ s, y.run s = y'.run (enter s) >>= fun out => Pure.pure (leave s out)) :
    SameUnless event x y := by
  constructor
  · intro s draws hs
    rw [hx, Choice.follow_bind_pure, hleave]
    apply h.stays
    rw [henter, hs]
  · intro s draws hend
    rw [hx, Choice.follow_bind_pure, hleave] at hend
    rw [hx, hy, Choice.follow_bind_pure, Choice.follow_bind_pure, h.same _ _ hend]

end SameUnless

/-! ## Below the limit -/

/-- Whether the limit on nested redirections has been exceeded in a request. -/
def Request.isBeyond (r : Request) : Bool := r.metrics.limitHit

/-- Whether the limit on nested redirections has been exceeded in the request of a
frame. -/
def Frame.isBeyond (frame : Frame) : Bool := frame.request.isBeyond

variable {kb : KnowledgeBase} {profile : Bindings}

/-- The parts of an evaluation come to the same unless the limit is exceeded, if the
answers to nested questions do. -/
theorem comparison_sameUnless (profile : Bindings) (depth : Nat)
    {answer answer' : String → Action String}
    (hanswer : ∀ question, SameUnless Request.isBeyond (answer question) (answer' question)) :
    Comparison ⟨profile, depth, answer⟩ ⟨profile, depth, answer'⟩
      fun _ => SameUnless Frame.isBeyond where
  pure := SameUnless.pure
  bind := SameUnless.bind
  profile := rfl
  vars := .refl fun _ _ hframe => hframe
  readWildcard := .refl fun _ _ hframe => hframe
  takeCapture := .refl fun _ _ hframe => hframe
  write _ _ := .refl fun _ _ hframe => hframe
  among := SameUnless.among
  answer question := (hanswer question).wrap Frame.request
    (fun frame out => (out.1, { frame with request := out.2 })) (fun _ => rfl) (fun _ _ => rfl)
    (Evaluation.run_onRequest _) (Evaluation.run_onRequest _)

/-- The evaluation of the category that wins comes to the same unless the limit is exceeded,
if the answers to nested questions do. -/
theorem sameUnless_evaluateWinner (profile : Bindings) (depth : Nat)
    {answer answer' : String → Action String}
    (hanswer : ∀ question, SameUnless Request.isBeyond (answer question) (answer' question))
    (winner : Winner) :
    SameUnless Request.isBeyond (evaluateWinner profile depth answer winner)
      (evaluateWinner profile depth answer' winner) := by
  have hrespond := (comparison_sameUnless profile depth hanswer).respond winner.category.template
  apply hrespond.wrap (fun request => ⟨winner.captures, request.begin depth winner⟩)
    (fun _ out => (⟨winner.index, winner.captures, out.1⟩,
      out.2.request.record (.finished depth)))
  · intro request
    rfl
  · intro request out
    rfl
  · intro request
    exact evaluateWinner_run answer winner
  · intro request
    exact evaluateWinner_run answer' winner

/-- The answer to a nested question comes to the same unless the limit is exceeded, if the
scan for it does. -/
theorem sameUnless_redirect {scan scan' : String → Action (Option Hit)}
    (hscan : ∀ question, SameUnless Request.isBeyond (scan question) (scan' question))
    (question : String) :
    SameUnless Request.isBeyond (redirect scan question) (redirect scan' question) := by
  apply (hscan question).wrap Request.countRedirect fun _ out => (nestedAnswer out.1, out.2)
  · intro request
    rfl
  · intro request out
    rfl
  · intro request
    exact redirect_run scan
  · intro request
    exact redirect_run scan'

/-- More levels make no difference to a scan unless the limit is exceeded. -/
theorem sameUnless_scan (kb : KnowledgeBase) (profile : Bindings) {levels levels' : Nat}
    (hle : levels ≤ levels') (depth : Nat) (question : String) :
    SameUnless Request.isBeyond (scan kb profile levels depth question)
      (scan kb profile levels' depth question) := by
  induction levels generalizing levels' depth question with
  | zero =>
    -- Without levels the limit is exceeded at once, and nothing remains to be compared.
    have hbeyond : ∀ (request : Request) (draws : Draws),
        (((scan kb profile 0 depth question).run request).follow draws).1.2.isBeyond = true := by
      intro request draws
      cases hlimit : request.metrics.limitHit with
      | true =>
        rw [scan_of_limitHit hlimit]
        exact hlimit
      | false =>
        rw [scan_zero kb profile depth question request hlimit]
        rfl
    constructor
    · intro request draws _
      exact hbeyond request draws
    · intro request draws hend
      rw [hbeyond] at hend
      cases hend
  | succ levels ih =>
    obtain ⟨more, rfl⟩ : ∃ more, levels' = more + 1 := Nat.exists_eq_add_one.2 (by omega)
    have hanswer : ∀ question, SameUnless Request.isBeyond
        (redirect (scan kb profile levels (depth + 1)) question)
        (redirect (scan kb profile more (depth + 1)) question) := by
      intro question
      apply sameUnless_redirect
      intro question
      exact ih (by omega) (depth + 1) question
    constructor
    · intro request draws hbeyond
      rw [scan_of_limitHit hbeyond]
      exact hbeyond
    · intro request draws hend
      cases hlimit : request.metrics.limitHit with
      | true => rw [scan_of_limitHit hlimit, scan_of_limitHit hlimit]
      | false =>
        cases hwinner : (survey profile request.conversation question 0 kb.categories).winner with
        | none => rw [scan_of_no_winner hlimit hwinner, scan_of_no_winner hlimit hwinner]
        | some winner =>
          have hevaluated := sameUnless_evaluateWinner profile depth hanswer winner
          rw [scan_of_winner hlimit hwinner, Choice.follow_bind_pure] at hend
          rw [scan_of_winner hlimit hwinner, scan_of_winner hlimit hwinner,
            Choice.follow_bind_pure, Choice.follow_bind_pure, hevaluated.same _ _ hend]

/-! ## Whole requests -/

/-- A request in which the limit has been exceeded ends at the limit. -/
theorem Request.conclude_outcome_of_isBeyond {r : Request} (hit : Option Hit)
    (hbeyond : r.isBeyond = true) : (r.conclude hit).resolution.outcome = .redirectionLimit := by
  have hlimit : r.metrics.limitHit = true := hbeyond
  rw [conclude, hlimit]
  rfl

/-- A question that is resolved below a limit comes to the same, on the same draws, with a
larger limit. -/
theorem resolve_of_le {limit limit' : Nat} (hle : limit ≤ limit') {conversation : Conversation}
    {question : String} {draws : Draws}
    (houtcome : ((resolve kb profile limit conversation question).follow
      draws).1.resolution.outcome ≠ .redirectionLimit) :
    (resolve kb profile limit' conversation question).follow draws =
      (resolve kb profile limit conversation question).follow draws := by
  have hscan := sameUnless_scan kb profile (Nat.add_le_add_right hle 1) 0 question
  rw [resolve_eq, Choice.follow_bind_pure] at houtcome
  have hbelow : (((scan kb profile (limit + 1) 0 question).run
      { conversation := conversation.forgetCaptures }).follow draws).1.2.isBeyond = false := by
    by_cases hbeyond : (((scan kb profile (limit + 1) 0 question).run
        { conversation := conversation.forgetCaptures }).follow draws).1.2.isBeyond = true
    · exact absurd (Request.conclude_outcome_of_isBeyond _ hbeyond) houtcome
    · exact Bool.eq_false_iff.2 hbeyond
  rw [resolve_eq, resolve_eq, Choice.follow_bind_pure, Choice.follow_bind_pure,
    hscan.same _ _ hbelow]

namespace Session

/-- The session with another limit on nested redirections. -/
def withLimit (s : Session) (limit : Nat) : Session :=
  { s with options := { s.options with maxRedirectDepth := limit } }

/-- A question is answered by resolving it on the draws of the session. -/
theorem ask_eq (s : Session) (bot : Bot) (input : String) :
    let out := (resolve bot.knowledge bot.profile s.options.maxRedirectDepth s.conversation
      input).follow s.draws
    s.ask bot input = (.ofResolved bot.knowledge input out.1,
      { s with conversation := out.1.request.conversation, draws := out.2 }) := by
  intro out
  rw [ask, answers, Choice.follow_bind_pure]

/-- If a question is answered without exceeding a limit on nested redirections, then with a
larger limit it gets the same answer, counters included, and leaves the same conversation
behind after the same draws. -/
theorem ask_withLimit_of_le (session : Session) (bot : Bot) (input : String)
    {limit limit' : Nat} (hle : limit ≤ limit')
    (houtcome : ((session.withLimit limit).ask bot input).1.outcome ≠ .redirectionLimit) :
    let below := (session.withLimit limit).ask bot input
    let above := (session.withLimit limit').ask bot input
    above.1 = below.1 ∧ above.2.conversation = below.2.conversation ∧
      above.2.draws = below.2.draws := by
  intro below above
  let resolveTo (limit : Nat) :=
    (resolve bot.knowledge bot.profile limit session.conversation input).follow session.draws
  have hask : ∀ limit : Nat, (session.withLimit limit).ask bot input =
      (.ofResolved bot.knowledge input (resolveTo limit).1,
        { session.withLimit limit with
          conversation := (resolveTo limit).1.request.conversation
          draws := (resolveTo limit).2 }) :=
    fun limit => ask_eq (session.withLimit limit) bot input
  rw [hask] at houtcome
  have hresolve : resolveTo limit' = resolveTo limit := resolve_of_le hle houtcome
  have hbelow : below = _ := hask limit
  have habove : above = _ := hask limit'
  rw [hbelow, habove, hresolve]
  exact ⟨rfl, rfl, rfl⟩

/-- A rule that redirects to one of two questions. -/
def asksEither : Category where
  pattern := ⟨[.text "ASK *"]⟩
  that := none
  template := [.random [.item [.redirect [.text "HI ", .star]], .item [.starAnswer]], .text "!"]

/-- A rule that keeps a name. -/
def keepsName : Category where
  pattern := ⟨[.text "HI *"]⟩
  that := none
  template := [.text "Hi ", .set "name" [.star]]

/-- A bot that answers by these two rules. -/
def eitherBot : Bot := ⟨.empty, ⟨[asksEither, keepsName], 1⟩, {}⟩

/-- A session that has not asked anything yet. -/
def freshSession : Session := ⟨.start .empty, {}, ⟨fun _ => 0, 0⟩⟩

/-- One redirection is within a limit of one, so a limit of five makes no difference. -/
theorem ask_withLimit_of_le_asksEither :
    1 ≤ 5 ∧
    ((freshSession.withLimit 1).ask eitherBot "Ask Tom").1.outcome = .matched ∧
    ((freshSession.withLimit 1).ask eitherBot "Ask Tom").1.answer = some "Hi Tom!" ∧
    ((freshSession.withLimit 1).ask eitherBot "Ask Tom").2.draws.used = 1 ∧
    (let below := (freshSession.withLimit 1).ask eitherBot "Ask Tom"
      let above := (freshSession.withLimit 5).ask eitherBot "Ask Tom"
      above.1 = below.1 ∧ above.2.conversation = below.2.conversation ∧
        above.2.draws = below.2.draws) := by
  have houtcome : ((freshSession.withLimit 1).ask eitherBot "Ask Tom").1.outcome = .matched := by
    decide +kernel
  have hbelow :
      ((freshSession.withLimit 1).ask eitherBot "Ask Tom").1.outcome ≠ .redirectionLimit := by
    rw [houtcome]
    decide
  have hle : 1 ≤ 5 := by decide
  exact ⟨hle, houtcome, by decide +kernel, by decide +kernel,
    ask_withLimit_of_le freshSession eitherBot "Ask Tom" hle hbelow⟩

end Session

end Dialogue

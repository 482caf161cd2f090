import Dialogue.Proofs.CommandLine.Console
import Dialogue.Proofs.CommandLine.Timing

/-!
# The schedule of a run

A run whose console waits for the load as soon as a question finds the load gate closed, and lets
it rest otherwise, is one of the runs that are described step by step.  Such a run has either not
begun to load, or it has loaded everything.

Main results:

- Theorem `Opening.leads_settle`: the loader alone comes to the end of the load.
- Theorem `Opening.leads_asked`: a question is asked in steps.
- Theorem `Opening.arrives_answerAll`: so are questions in turn.
- Theorem `exists_ends_run`: every run is a run in steps.
-/

namespace Dialogue.CommandLine

/-- The answer to a question for which a bot has been found behind the load gate, if any, and the
session afterwards. -/
def askFound (s : Session) (found : Option Bot) (question : String) : Answer × Session :=
  match found with
  | some bot => s.ask bot question
  | none => (.unanswered question .loadTimeout, s)

/-- A question that waits is answered by the first bot that is found. -/
theorem askWaiting_eq (s : Session) (looks : Nat → Bot) (question : String) :
    s.askWaiting looks question =
      askFound s (Session.firstReady looks s.options.maxRetries) question := rfl

namespace Opening

variable {invocation : Invocation} (o : Opening invocation)

/-! ## Steps one after the other -/

/-- Some steps lead from one state of a run to another. -/
def Leads (p p' : Progress) : Prop := ∃ schedule, o.run none p schedule = p'

variable {o} {p p' p'' : Progress}

/-- Without steps a run stays where it is. -/
theorem Leads.refl (p : Progress) : o.Leads p p := ⟨[], rfl⟩

/-- Steps come after others. -/
theorem Leads.trans (h : o.Leads p p') (h' : o.Leads p' p'') : o.Leads p p'' := by
  obtain ⟨schedule, rfl⟩ := h
  obtain ⟨more, rfl⟩ := h'
  exact ⟨schedule ++ more, run_append p schedule more⟩

/-- The console takes one step. -/
theorem leads_console (h : o.stepConsole none p = p') : o.Leads p p' := ⟨[.console], h⟩

/-! ## The load -/

/-- The run when its load is over. -/
def settle (o : Opening invocation) (p : Progress) : Progress :=
  { p with loader := ⟨o.start.loader.generation, .ended o.loaded.1⟩, bot := o.loaded.2 }

/-- The host of a run as it stands. -/
def host (o : Opening invocation) (p : Progress) : Host := (o.console p).host p.world.folder

/-- Whether the load of a run has not begun. -/
def Unbegun (o : Opening invocation) (p : Progress) : Prop :=
  p.loader = o.start.loader ∧ p.bot = o.start.bot

/-- Whether the load of a run is over. -/
def Over (o : Opening invocation) (p : Progress) : Prop :=
  p.loader = ⟨o.start.loader.generation, .ended o.loaded.1⟩ ∧ p.bot = o.loaded.2

/-- Whether a run has touched no file, and has either not begun to load, or has loaded
everything. -/
structure Rests (o : Opening invocation) (p : Progress) : Prop where
  folder : p.world.folder = invocation.folder
  load : o.Unbegun p ∨ o.Over p

/-- The loader alone comes to the end of the load. -/
theorem leads_settle (hfolder : p.world.folder = invocation.folder) (h : o.Unbegun p) :
    o.Leads p (o.settle p) := by
  have hbegun : (p.loader, p.bot) = (o.start.loader, o.start.bot) := Prod.ext h.1 h.2
  obtain ⟨n, hn⟩ := Loader.exists_iterate_step o.start.bot
    ((Bot.new o.settings.bot).request o.settings.sources).2
  refine ⟨List.replicate n .loader, ?_⟩
  rw [run_replicate_loader, hbegun, hfolder]
  exact congrArg (fun s : Loader × Bot => { p with loader := s.1, bot := s.2 }) hn

/-- The host of a run that has not begun to load. -/
theorem host_of_unbegun (hfolder : p.world.folder = invocation.folder) (h : o.Unbegun p) :
    o.host p = Console.loadingHost o.settings invocation.folder := by
  rw [host, hfolder, console, h.1, h.2]
  rfl

/-- The host of a run that has loaded. -/
theorem host_of_over (hfolder : p.world.folder = invocation.folder) (h : o.Over p) :
    o.host p = (Console.loadingHost o.settings invocation.folder).settle := by
  rw [host, hfolder, console, h.1, h.2]
  rfl

/-- A load that is over stays as it is. -/
theorem settle_of_over (h : o.Over p) : o.settle p = p := by
  rw [settle, ← h.1, ← h.2]

/-- A load that has not begun keeps the load gate closed. -/
theorem isReady_of_unbegun (h : o.Unbegun p) : p.bot.isReady = false := by
  obtain ⟨-, -, hsources, -⟩ := o.exists_resume
  rw [h.2]
  exact (Console.isReady_loadingHost hsources :
    (Console.loadingHost o.settings invocation.folder).bot.isReady = false)

/-! ## Questions -/

/-- The run when a question has waited for the load as long as it can. -/
def await (o : Opening invocation) (p : Progress) : Progress :=
  if p.bot.isReady ∨ p.session.options.maxRetries = 0 then p else o.settle p

/-- The answer to a question that is asked now, and the session afterwards. -/
def asking (o : Opening invocation) (p : Progress) (question : String) : Answer × Session :=
  p.session.askWaiting (o.host p).looks question

/-- The run when a question is answered, and `unread` are left. -/
def asked (o : Opening invocation) (p : Progress) (question : String) (unread : List String) :
    Progress :=
  { o.await p with
    session := (o.asking p question).2
    stage := .checking (o.asking p question).1
    unread := unread }

/-- A run rests when a question has waited. -/
theorem rests_await (h : o.Rests p) : o.Rests (o.await p) := by
  unfold await
  split
  · exact h
  · exact ⟨h.folder, .inr ⟨rfl, rfl⟩⟩

/-- A host has waited for its load when its run has. -/
theorem host_await (h : o.Rests p) :
    o.host (o.await p) = (o.host p).await p.session.options.maxRetries := by
  have hbot : (o.host p).bot = p.bot := rfl
  rw [await, Host.await, hbot]
  split
  · rfl
  · have hover : o.Over (o.settle p) := ⟨rfl, rfl⟩
    rw [host_of_over (p := o.settle p) h.folder hover]
    rcases h.load with hunbegun | hover
    · rw [host_of_unbegun h.folder hunbegun]
    · rw [host_of_over h.folder hover, Host.settle_settle]

/-- If the load does not go on, then a question is answered or given up by the bot that is there. -/
theorem leads_of_steady {question : String} {retries : Nat}
    (hstage : p.stage = .waiting question retries) :
    let answered := askFound p.session (Session.firstReady (fun _ => p.bot) retries) question
    o.Leads p { p with session := answered.2, stage := .checking answered.1 } := by
  cases hready : p.bot.isReady with
  | true =>
    rw [Session.firstReady_of_isReady hready]
    exact (leads_console (stepConsole_of_isReady hstage hready)).trans
      (leads_console (stepConsole_of_admitted rfl))
  | false =>
    induction retries generalizing p with
    | zero =>
      rw [Session.firstReady, hready]
      exact leads_console (stepConsole_of_no_retries hstage hready)
    | succ retries ih =>
      rw [Session.firstReady, hready]
      exact (leads_console (stepConsole_of_retries hstage hready)).trans
        (ih (p := { p with stage := .waiting question retries }) rfl hready)

/-- A question that is asked when the load is over finds the same bot at each look. -/
theorem looks_of_over (hfolder : p.world.folder = invocation.folder) (h : o.Over p) :
    (o.host p).looks = fun _ => p.bot := by
  funext i
  rw [host_of_over hfolder h, h.2]
  cases i with
  | zero => rfl
  | succ i =>
    rw [Host.looks, Host.settle_settle]
    rfl

/-- A question that is asked when the load has not begun finds the rules of all sources at the
second look. -/
theorem looks_of_unbegun (hfolder : p.world.folder = invocation.folder) (h : o.Unbegun p) :
    (fun i => (o.host p).looks (i + 1)) = fun _ => o.loaded.2 := by
  funext i
  rw [host_of_unbegun hfolder h]
  rfl

/-- A question is asked in steps. -/
theorem leads_asked (h : o.Rests p) (hstage : p.stage = .reading) {question : String}
    {unread : List String} (hunread : p.unread = question :: unread) :
    o.Leads p (o.asked p question unread) := by
  refine (leads_console (stepConsole_of_question hstage hunread)).trans ?_
  rcases h.load with hunbegun | hover
  · have hready := isReady_of_unbegun hunbegun
    have hclosed : ((o.host p).looks 0).isReady = false := hready
    rw [asked, asking, askWaiting_eq, await, hready]
    cases hretries : p.session.options.maxRetries with
    | zero =>
      rw [Session.firstReady, hclosed, if_pos (.inr rfl)]
      exact leads_console (stepConsole_of_no_retries rfl hready)
    | succ retries =>
      rw [Session.firstReady, hclosed, if_neg Bool.false_ne_true,
        looks_of_unbegun h.folder hunbegun, if_neg (by simp)]
      -- The question looks once, then the load comes to its end, and from then on nothing changes.
      let looking : Progress :=
        { p with stage := .waiting question (retries + 1), unread := unread }
      let looked : Progress := { p with stage := .waiting question retries, unread := unread }
      have hlook : o.Leads looking looked := leads_console (stepConsole_of_retries rfl hready)
      have hload : o.Leads looked (o.settle looked) := leads_settle h.folder hunbegun
      exact hlook.trans (hload.trans (leads_of_steady rfl))
  · have hawait : o.await p = p := by
      rw [await, settle_of_over hover, ite_self]
    rw [asked, asking, askWaiting_eq, looks_of_over h.folder hover, hawait]
    exact leads_of_steady rfl

/-- A question does not write anything before it is answered, and touches no file. -/
theorem world_asked (o : Opening invocation) (p : Progress) (question : String)
    (unread : List String) : (o.asked p question unread).world = p.world := by
  rw [asked, await]
  split
  · rfl
  · rfl

/-- A host knows of its load what the run knows when a question has waited. -/
theorem background_await (h : o.Rests p) (question : String) (unread : List String) :
    ((o.host p).await p.session.options.maxRetries).background =
      (o.asked p question unread).loader.background := by
  rw [← host_await h]
  rfl

/-- A console fails over a question if the load has failed by then. -/
theorem run_ask_of_failed (h : o.Rests p) {question : String} {unread : List String}
    {failure : LoadFailure}
    (hended : (o.asked p question unread).loader.stage = .ended (.error failure)) :
    ((o.console p).ask question).run p.world = .error (.failure (.source failure)) p.world := by
  refine Console.run_ask_of_failed ?_ question
  have hresult := (Loader.result?_background _ _).2 hended
  rw [← background_await h] at hresult
  exact hresult

/-- Otherwise it goes on with an answer. -/
theorem run_ask_of_not_failed (h : o.Rests p) {question : String} {unread : List String}
    (hended : ∀ failure, (o.asked p question unread).loader.stage ≠ .ended (.error failure)) :
    ((o.console p).ask question).run p.world =
      .ok ((o.asking p question).1, o.console (o.asked p question unread)) p.world := by
  have hresult : ∀ failure, ((o.host p).await
      p.session.options.maxRetries).background.result? ≠ some (.error failure) := by
    intro failure
    rw [background_await h question unread, Ne, Loader.result?_background]
    exact hended failure
  have hconsole : (o.console p).goOn ((o.host p).await p.session.options.maxRetries)
      (o.asking p question).2 = o.console (o.asked p question unread) := by
    rw [← host_await h]
    rfl
  rw [← hconsole]
  exact Console.run_ask hresult question

/-! ## Runs -/

/-- Whether steps lead from a state to where a console either has failed, or has gone on until
there are no more questions. -/
def Arrives (o : Opening invocation) (p : Progress) :
    EStateM.Result RunFailure World Console → Prop
  | .error failure world => ∃ p', o.Leads p p' ∧
    p'.stage = .finished (.ofResult (.error failure world))
  | .ok console world => ∃ p', o.Leads p p' ∧ o.Rests p' ∧ p'.stage = .reading ∧
    p'.unread = [] ∧ p'.world = world ∧ o.console p' = console

/-- What steps lead to after other steps. -/
theorem Arrives.of_leads {result : EStateM.Result RunFailure World Console}
    (hleads : o.Leads p p') (h : o.Arrives p' result) : o.Arrives p result := by
  cases result with
  | error failure world =>
    obtain ⟨last, hlast, hstage⟩ := h
    exact ⟨last, hleads.trans hlast, hstage⟩
  | ok console world =>
    obtain ⟨last, hlast, hrest⟩ := h
    exact ⟨last, hleads.trans hlast, hrest⟩

/-- Questions are answered in steps, one after the other. -/
theorem arrives_answerAll (h : o.Rests p) (hstage : p.stage = .reading) {questions : List String}
    (hunread : p.unread = questions) :
    o.Arrives p ((answerAll invocation.nanos (o.console p) questions).run p.world) := by
  induction questions generalizing p with
  | nil => exact ⟨p, Leads.refl p, h, hstage, hunread, rfl, rfl⟩
  | cons question questions ih =>
    have hasked := leads_asked h hstage hunread
    let asked := o.asked p question questions
    have hrests : o.Rests asked :=
      ⟨(rests_await h).folder, (rests_await h).load⟩
    by_cases hfailed : ∃ failure, asked.loader.stage = .ended (.error failure)
    · obtain ⟨failure, hended⟩ := hfailed
      rw [answerAll, EStateM.run_bind, run_ask_of_failed h hended]
      refine ⟨_, hasked.trans (leads_console (stepConsole_of_failed rfl hended)), ?_⟩
      rw [Progress.finish, world_asked]
    · have hnot := not_exists.1 hfailed
      let written : Progress := { asked with
        stage := .reading
        answers := asked.answers ++ [(o.asking p question).1]
        world := asked.world.write
          ((o.console asked).report (o.asking p question).1 invocation.nanos) }
      have hwritten : o.Leads asked written := leads_console (stepConsole_of_not_failed rfl hnot)
      have hrest := ih (p := written) ⟨hrests.folder, hrests.load⟩ rfl rfl
      rw [answerAll, EStateM.run_bind, run_ask_of_not_failed h hnot]
      dsimp only
      rw [EStateM.run_bind, Routine.run_write, ← world_asked o p question questions]
      exact hrest.of_leads (hasked.trans hwritten)

/-- It does not matter for the end of a console whether its load is over. -/
theorem run_close_settle (console : Console) (world : World) (now : Instant) :
    ((console.goOn (console.host world.folder).settle console.session).close now).run world =
      (console.close now).run world := by
  rw [Console.close, EStateM.run_bind, Console.finish, Routine.run_get_bind,
    Console.host_goOn_settle, Host.join, Host.settle_settle]
  rfl

/-- When there are no more questions, the console waits for the load, and ends. -/
theorem leads_close (h : o.Rests p) (hstage : p.stage = .reading) (hunread : p.unread = []) :
    ∃ p', o.Leads p p' ∧
      p'.stage = .finished (.ofResult (((o.console p).close invocation.now).run p.world)) := by
  have hjoin := leads_console (o := o) (stepConsole_of_no_question hstage hunread)
  rcases h.load with hunbegun | hover
  · let joining : Progress := { p with stage := .joining }
    have hload : o.Leads joining (o.settle joining) := leads_settle h.folder hunbegun
    have hclose := leads_console (o := o)
      (stepConsole_of_ended (p := o.settle joining) rfl rfl)
    refine ⟨_, hjoin.trans (hload.trans hclose), ?_⟩
    have hconsole : o.console (o.settle joining) =
        (o.console p).goOn (o.host p).settle p.session := by
      have hover : o.Over (o.settle joining) := ⟨rfl, rfl⟩
      rw [host_of_unbegun h.folder hunbegun, ← host_of_over (p := o.settle joining) h.folder hover]
      rfl
    rw [hconsole, ← run_close_settle (o.console p)]
    rfl
  · have hended : p.loader.stage = .ended o.loaded.1 := by rw [hover.1]
    exact ⟨_, hjoin.trans (leads_console (stepConsole_of_ended rfl hended)), rfl⟩

/-- A run that answers questions does so in steps. -/
theorem exists_ends (o : Opening invocation) :
    ∃ answers, Ends invocation none answers
      (.ofResult ((answer invocation o.flags).run invocation.world)) := by
  have harrives : o.Arrives o.start
      ((answerAll invocation.nanos (o.console o.start) o.questions).run o.world) :=
    arrives_answerAll ⟨o.folder_world, .inl ⟨rfl, rfl⟩⟩ rfl rfl
  rw [console_start, questions] at harrives
  rw [answer, EStateM.run_bind, o.started]
  dsimp only
  rw [EStateM.run_bind]
  generalize (answerAll invocation.nanos o.opened
    (CommandLine.questions o.flags invocation.input)).run o.world = answered at harrives ⊢
  cases answered with
  | error failure world =>
    obtain ⟨p, ⟨schedule, rfl⟩, hstage⟩ := harrives
    exact ⟨_, .answered o schedule (fun _ => rfl) hstage⟩
  | ok console world =>
    obtain ⟨p, hleads, hrests, hstage, hunread, rfl, rfl⟩ := harrives
    obtain ⟨last, hlast, hfinished⟩ := leads_close hrests hstage hunread
    obtain ⟨schedule, rfl⟩ := hleads.trans hlast
    exact ⟨_, .answered o schedule (fun _ => rfl) hfinished⟩

end Opening

/-- Every run is one of those that are described step by step, whose standard input does not break
off. -/
theorem exists_ends_run (invocation : Invocation) :
    ∃ answers, Ends invocation none answers (run invocation) := by
  rw [run]
  cases hread : read invocation.arguments with
  | error stop => exact ⟨[], .stopped hread⟩
  | ok flags =>
    cases hopen : (openConsole invocation flags).run invocation.world with
    | error failure world =>
      refine ⟨[], ?_⟩
      dsimp only
      rw [answer, EStateM.run_bind, hopen]
      exact .unopened hread hopen
    | ok console world =>
      let o : Opening invocation := ⟨flags, console, world, hread, hopen⟩
      exact o.exists_ends

end Dialogue.CommandLine

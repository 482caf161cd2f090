import Dialogue.Loading.Bot
import Mathlib.Algebra.Ring.Nat

/-!
# Batches that are loaded at the same time

Any number of batches can be under way with one bot, and the bot can be reloaded in
between.  Each batch commits its documents one by one; if one fails, the batch gives up
those after it, and other things can happen before it does so.  A batch knows the
generation of the gate in which it was requested, and nothing else tells it whether the
bot has been reloaded since.

Here this is a sequence of events, and beside the bot there is kept what the bot itself
does not know: how often it has been reloaded, and what has been committed since.

Main results:

- Theorem `Loading.step_cases`: what can happen.
- Theorems `Loading.exists_run_loadFiles`, `Loading.exists_run_loadText`: loading takes
  such events.
-/

namespace Dialogue

/-! ## Batches under way -/

/-- What a batch has still to do. -/
inductive Load.Stage where
  /-- So many documents are still to be committed. -/
  | committing (count : Nat)
  /-- A document has failed, and so many documents after it are still to be given up. -/
  | abandoning (count : Nat)
  deriving DecidableEq, Repr

/-- A batch that is being loaded. -/
structure Load where
  /-- The generation of the gate in which the batch was requested. -/
  generation : UInt64
  /-- How often the bot had been reloaded by then. -/
  reloads : Nat
  stage : Load.Stage
  deriving DecidableEq, Repr

namespace Load

/-- The number of documents that are still to be settled. -/
def Stage.remaining : Stage → Nat
  | committing count => count
  | abandoning count => count

/-- What a batch has still to do after one of its documents has been committed, when
`count` documents come after that one.  If it had no effect, the batch is dropped. -/
def Stage.after (count : Nat) : Option (Except LoadFailure Nat × Bot) → Stage
  | none => committing 0
  | some (.ok _, _) => committing count
  | some (.error _, _) => abandoning count

/-- What a batch counts for when the bot has been reloaded so often: its documents that
are still to be settled, if it was requested since. -/
def counted (reloads : Nat) (load : Load) : Nat :=
  if load.reloads = reloads then load.stage.remaining else 0

/-- The documents that are still to be settled by the batches that were requested since
the last reload. -/
def outstanding (reloads : Nat) (loads : List Load) : Nat := (loads.map (counted reloads)).sum

end Load

/-- A bot with the batches that are under way. -/
structure Loading where
  bot : Bot
  /-- The batches in the order in which they were requested. -/
  loads : List Load
  /-- How often the bot has been reloaded. -/
  reloads : Nat
  /-- The categories of each document that was committed since the last reload by a batch
  requested since then, in the order of the commits. -/
  documents : List (List Category)

namespace Loading

/-- Something that happens to a bot. -/
inductive Event where
  /-- A batch of so many documents is requested. -/
  | request (count : Nat)
  /-- The next document of a batch is committed: its categories, or why it has none. -/
  | commit (index : Nat) (parsed : Parsed)
  /-- The rest of a batch is given up after one of its documents has failed. -/
  | abandon (index : Nat)
  /-- The bot is reloaded. -/
  | reload

/-- Whether the bot is reloaded. -/
def Event.isReload : Event → Bool
  | reload => true
  | _ => false

/-- The batch of which something happens. -/
def Event.load? (loads : List Load) : Event → Option Load
  | commit index _ => loads[index]?
  | abandon index => loads[index]?
  | _ => none

/-- A bot with given attributes and no rules. -/
def start (profile : Bindings) : Loading := ⟨.new profile, [], 0, []⟩

/-- The bot after a batch has committed its next document, after which `count` others
come. -/
def commitNext (s : Loading) (index : Nat) (load : Load) (count : Nat) (parsed : Parsed) :
    Loading :=
  let committed := s.bot.commit load.generation parsed
  { s with
    bot := (committed.map Prod.snd).getD s.bot
    loads := s.loads.set index { load with stage := .after count committed }
    documents :=
      if load.reloads = s.reloads then s.documents ++ parsed.toOption.toList else s.documents }

/-- The bot after a batch has given up its last `count` documents. -/
def abandonRest (s : Loading) (index : Nat) (load : Load) (count : Nat) : Loading :=
  { s with
    bot := s.bot.abandon load.generation count
    loads := s.loads.set index { load with stage := .abandoning 0 } }

/-- The bot after something has happened.  What a batch is not about to do does not
happen. -/
def step (s : Loading) : Event → Loading
  | .request count =>
    { s with
      bot := { s.bot with gate := s.bot.gate.request count }
      loads := s.loads ++ [⟨s.bot.gate.generation, s.reloads, .committing count⟩] }
  | .commit index parsed =>
    match s.loads[index]? with
    | some load =>
      match load.stage with
      | .committing (count + 1) => s.commitNext index load count parsed
      | _ => s
    | none => s
  | .abandon index =>
    match s.loads[index]? with
    | some load =>
      match load.stage with
      | .abandoning count => s.abandonRest index load count
      | _ => s
    | none => s
  | .reload => ⟨s.bot.reload, s.loads, s.reloads + 1, []⟩

/-- The bot after one thing after another has happened. -/
def run (s : Loading) (events : List Event) : Loading := events.foldl step s

/-- The number of documents that are still to be settled. -/
def outstanding (s : Loading) : Nat := Load.outstanding s.reloads s.loads

/-- Something that a batch does that was requested before the last reload. -/
def IsStale (s : Loading) (event : Event) : Prop :=
  ∃ load ∈ event.load? s.loads, load.reloads < s.reloads

end Loading

/-! ## What a step does -/

namespace Loading

variable {s : Loading} {index count : Nat} {load : Load} {parsed : Parsed}

/-- Without events nothing happens. -/
@[simp] theorem run_nil (s : Loading) : s.run [] = s := rfl

/-- Events happen one after the other. -/
@[simp] theorem run_cons (s : Loading) (event : Event) (events : List Event) :
    s.run (event :: events) = (s.step event).run events := rfl

/-- Whatever happens, it is one of few things, or nothing. -/
theorem step_cases (s : Loading) (event : Event) :
    (event.isReload = false ∧ s.step event = s) ∨
    (∃ count, event = .request count ∧
      s.step event =
        { s with
          bot := { s.bot with gate := s.bot.gate.request count }
          loads := s.loads ++ [⟨s.bot.gate.generation, s.reloads, .committing count⟩] }) ∨
    (∃ index parsed load count, event = .commit index parsed ∧ s.loads[index]? = some load ∧
      load.stage = .committing (count + 1) ∧
      s.step event = s.commitNext index load count parsed) ∨
    (∃ index load count, event = .abandon index ∧ s.loads[index]? = some load ∧
      load.stage = .abandoning count ∧ s.step event = s.abandonRest index load count) ∨
    (event = .reload ∧ s.step event = ⟨s.bot.reload, s.loads, s.reloads + 1, []⟩) := by
  cases event with
  | request count => exact .inr (.inl ⟨count, rfl, rfl⟩)
  | reload => exact .inr (.inr (.inr (.inr ⟨rfl, rfl⟩)))
  | commit index parsed =>
    cases hload : s.loads[index]? with
    | none => exact .inl ⟨rfl, by simp only [step, hload]⟩
    | some load =>
      cases hstage : load.stage with
      | abandoning count => exact .inl ⟨rfl, by simp only [step, hload, hstage]⟩
      | committing count =>
        cases count with
        | zero => exact .inl ⟨rfl, by simp only [step, hload, hstage]⟩
        | succ count =>
          refine .inr (.inr (.inl ⟨index, parsed, load, count, rfl, hload, hstage, ?_⟩))
          simp only [step, hload, hstage]
  | abandon index =>
    cases hload : s.loads[index]? with
    | none => exact .inl ⟨rfl, by simp only [step, hload]⟩
    | some load =>
      cases hstage : load.stage with
      | committing count => exact .inl ⟨rfl, by simp only [step, hload, hstage]⟩
      | abandoning count =>
        refine .inr (.inr (.inr (.inl ⟨index, load, count, rfl, hload, hstage, ?_⟩)))
        simp only [step, hload, hstage]

/-- A document of an earlier generation is dropped, and its batch with it. -/
theorem commitNext_of_ne (hgeneration : load.generation ≠ s.bot.gate.generation)
    (hreloads : load.reloads ≠ s.reloads) :
    s.commitNext index load count parsed =
      { s with loads := s.loads.set index { load with stage := .committing 0 } } := by
  have hnone := (s.bot.commit_eq_none_iff load.generation parsed).2 hgeneration
  simp only [commitNext, hnone, hreloads, if_false, Option.map_none, Option.getD_none,
    Load.Stage.after]

/-- The categories of a document go behind those of the earlier ones. -/
theorem commitNext_ok (categories : List Category)
    (hgeneration : load.generation = s.bot.gate.generation)
    (hreloads : load.reloads = s.reloads) :
    s.commitNext index load count (.ok categories) =
      { s with
        bot :=
          { s.bot with
            knowledge := s.bot.knowledge.append categories
            gate :=
              { s.bot.gate with
                settled := s.bot.gate.settled + 1
                loaded := s.bot.gate.loaded + 1 } }
        loads := s.loads.set index { load with stage := .committing count }
        documents := s.documents ++ [categories] } := by
  simp [commitNext, Bot.commit, Gate.settle, hgeneration, hreloads, Load.Stage.after,
    Except.toOption]

/-- A document that has failed is settled, and those after it are to be given up. -/
theorem commitNext_error (failure : LoadFailure)
    (hgeneration : load.generation = s.bot.gate.generation)
    (hreloads : load.reloads = s.reloads) :
    s.commitNext index load count (.error failure) =
      { s with
        bot := { s.bot with gate := { s.bot.gate with settled := s.bot.gate.settled + 1 } }
        loads := s.loads.set index { load with stage := .abandoning count } } := by
  simp [commitNext, Bot.commit, Gate.settle, hgeneration, hreloads, Load.Stage.after,
    Except.toOption]

/-- What a batch of an earlier generation gives up is not counted. -/
theorem abandonRest_of_ne (hgeneration : load.generation ≠ s.bot.gate.generation) :
    s.abandonRest index load count =
      { s with loads := s.loads.set index { load with stage := .abandoning 0 } } := by
  simp [abandonRest, Bot.abandon, Gate.abandon, hgeneration]

/-- What a batch gives up is settled. -/
theorem abandonRest_of_eq (hgeneration : load.generation = s.bot.gate.generation) :
    s.abandonRest index load count =
      { s with
        bot := { s.bot with gate := { s.bot.gate with settled := s.bot.gate.settled + count } }
        loads := s.loads.set index { load with stage := .abandoning 0 } } := by
  simp [abandonRest, Bot.abandon, Gate.abandon, hgeneration]

/-- A document that is committed puts its categories behind those that are there, or
changes none. -/
theorem exists_categories_of_commit {bot : Bot} {generation : UInt64}
    {committed : Except LoadFailure Nat × Bot}
    (hcommit : bot.commit generation parsed = some committed) :
    ∃ added, committed.2.knowledge.categories = bot.knowledge.categories ++ added := by
  cases parsed with
  | error failure =>
    rcases Option.map_eq_some_iff.1 hcommit with ⟨gate, -, rfl⟩
    exact ⟨[], (List.append_nil _).symm⟩
  | ok categories =>
    rcases Option.map_eq_some_iff.1 hcommit with ⟨gate, -, rfl⟩
    exact ⟨_, bot.knowledge.categories_append categories⟩

/-- Unless the bot is reloaded, its categories stay where they are. -/
theorem exists_categories_step (s : Loading) {event : Event} (hreload : event.isReload = false) :
    ∃ added, (s.step event).bot.knowledge.categories = s.bot.knowledge.categories ++ added := by
  have hsame : ∃ added, s.bot.knowledge.categories = s.bot.knowledge.categories ++ added :=
    ⟨[], (List.append_nil _).symm⟩
  rcases s.step_cases event with ⟨-, hstep⟩ | ⟨count, -, hstep⟩ |
    ⟨index, parsed, load, count, -, -, -, hstep⟩ | ⟨index, load, count, -, -, -, hstep⟩ |
    ⟨rfl, -⟩
  · rw [hstep]
    exact hsame
  · rw [hstep]
    exact hsame
  · rw [hstep, commitNext]
    cases hcommit : s.bot.commit load.generation parsed with
    | none => exact hsame
    | some committed => exact exists_categories_of_commit hcommit
  · rw [hstep, abandonRest]
    exact hsame
  · cases hreload

/-! ## Loading takes such events -/

/-- A batch that is about to commit a document does so. -/
theorem step_commit (hload : s.loads[index]? = some load)
    (hstage : load.stage = .committing (count + 1)) (parsed : Parsed) :
    s.step (.commit index parsed) = s.commitNext index load count parsed := by
  simp only [step, hload, hstage]

/-- A batch that is about to give up its rest does so. -/
theorem step_abandon (hload : s.loads[index]? = some load)
    (hstage : load.stage = .abandoning count) :
    s.step (.abandon index) = s.abandonRest index load count := by
  simp only [step, hload, hstage]

/-- A batch that has gone on stands where it stood. -/
theorem getElem?_set_stage {loads : List Load} (hload : loads[index]? = some load)
    (stage : Load.Stage) :
    (loads.set index { load with stage := stage })[index]? = some { load with stage := stage } :=
  List.getElem?_set_self (List.getElem?_eq_some_iff.1 hload).1

/-- A load that is not interrupted takes events of its batch, after which the batch has
nothing left to do. -/
theorem exists_run_loadEach (files : Files) (names : List String) (s : Loading)
    (hload : s.loads[index]? = some load) (hstage : load.stage = .committing names.length)
    (total : Nat) :
    ∃ events, events.countP Event.isReload = 0 ∧
      (s.run events).bot = (s.bot.loadEach files load.generation total names).2 ∧
      ∃ stage, (s.run events).loads[index]? = some { load with stage := stage } ∧
        stage.remaining = 0 := by
  induction names generalizing s load total with
  | nil => exact ⟨[], rfl, rfl, load.stage, hload, by rw [hstage]; rfl⟩
  | cons name names ih =>
    let parsed := categoriesOfFile files name
    have hstep := step_commit hload hstage parsed
    cases hcommit : s.bot.commit load.generation parsed with
    | none =>
      refine ⟨[.commit index parsed], rfl, ?_, .committing 0, ?_, rfl⟩
      · simp [hstep, commitNext, hcommit, Bot.loadEach, parsed]
      · simp only [run_cons, run_nil, hstep, commitNext, hcommit, Load.Stage.after]
        exact getElem?_set_stage hload _
    | some committed =>
      rcases committed with ⟨result, bot⟩
      have hnext : (s.step (.commit index parsed)).loads[index]? =
          some { load with stage := .after names.length (some (result, bot)) } := by
        simp only [hstep, commitNext, hcommit]
        exact getElem?_set_stage hload _
      have hbot : (s.step (.commit index parsed)).bot = bot := by
        simp only [hstep, commitNext, hcommit, Option.map_some, Option.getD_some]
      cases result with
      | ok count =>
        rcases ih (s.step (.commit index parsed)) hnext rfl (total + count) with
          ⟨events, hreloads, hafter, stage, hend, hremaining⟩
        refine ⟨.commit index parsed :: events, hreloads, ?_, stage, hend, hremaining⟩
        rw [run_cons, hafter, hbot, Bot.loadEach, hcommit]
      | error failure =>
        have habandon := step_abandon hnext rfl
        refine ⟨[.commit index parsed, .abandon index], rfl, ?_, .abandoning 0, ?_, rfl⟩
        · simp [habandon, abandonRest, hbot, hcommit, Bot.loadEach, parsed]
        · simp only [run_cons, run_nil, habandon, abandonRest]
          exact getElem?_set_stage hnext _

/-- Loading files takes such events. -/
theorem exists_run_loadFiles (files : Files) (names : List String) (s : Loading) :
    ∃ events, events.countP Event.isReload = 0 ∧
      (s.run events).bot = (s.bot.loadFiles files names).2 := by
  have hload : (s.step (.request names.length)).loads[s.loads.length]? =
      some ⟨s.bot.gate.generation, s.reloads, .committing names.length⟩ := by
    simp [step]
  rcases exists_run_loadEach files names (s.step (.request names.length)) hload rfl 0 with
    ⟨events, hreloads, hafter, -⟩
  exact ⟨.request names.length :: events, hreloads, hafter⟩

/-- Loading a text takes such events. -/
theorem exists_run_loadText (text : String) (s : Loading) :
    ∃ events, events.countP Event.isReload = 0 ∧
      (s.run events).bot = (s.bot.loadText text).2 := by
  have hload : (s.step (.request 1)).loads[s.loads.length]? =
      some ⟨s.bot.gate.generation, s.reloads, .committing 1⟩ := by
    simp [step]
  have hstep := step_commit hload rfl (categoriesOfText text)
  refine ⟨[.request 1, .commit s.loads.length (categoriesOfText text)], rfl, ?_⟩
  rw [run_cons, run_cons, run_nil, hstep]
  exact Option.getD_map Prod.snd (Except.ok 0, (s.step (.request 1)).bot) _

end Loading

end Dialogue

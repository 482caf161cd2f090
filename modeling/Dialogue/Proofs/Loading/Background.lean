import Dialogue.Loading.Bot
import Mathlib.Logic.Function.Iterate

/-!
# A load in the background

A load in the background goes on while other things happen.  It commits its documents one after
the other.  If one of them fails, it gives up those after it, and the load gate may be open
before the failure is known to anybody.  When the load is over, its result waits to be seen.

What the load comes to in the end is fixed from the start.  If it succeeds, then whoever finds the
load gate open finds all rules.

Main results:

- Theorem `Loader.finish_step`: a step does not change what the load comes to.
- Theorem `Loader.exists_iterate_step`: a load comes to its end.
- Theorem `Loader.Coherent.step`: the load gate counts the documents that are left.
- Theorem `Loader.Coherent.eq_finish_of_isReady`: what an open gate says of a load that succeeds.
- Theorem `Bot.exists_categories_of_loadFiles`: a load that succeeds has parsed every document.
-/

namespace Dialogue

/-! ## Steps of a load -/

/-- What a load has still to do. -/
inductive Loader.Stage where
  /-- These documents are still to be committed, after so many categories have been added. -/
  | committing (total : Nat) (pending : List String)
  /-- A document has failed, and so many documents after it are still to be given up. -/
  | abandoning (failure : LoadFailure) (count : Nat)
  /-- Nothing is left to do, but the result cannot be seen yet. -/
  | returning (result : Except LoadFailure Nat)
  /-- The result can be seen. -/
  | ended (result : Except LoadFailure Nat)

/-- A load in the background. -/
structure Loader where
  /-- The generation of the gate in which the load was requested. -/
  generation : UInt64
  stage : Loader.Stage

namespace Loader

/-- The load of a batch that has been requested. -/
def ofBatch (batch : Batch) : Loader := ⟨batch.generation, .committing 0 batch.pending⟩

/-- One step of a load, and the bot afterwards. -/
def step (files : Files) : Loader × Bot → Loader × Bot
  | (⟨generation, .committing total []⟩, bot) => (⟨generation, .returning (.ok total)⟩, bot)
  | (⟨generation, .committing total (name :: names)⟩, bot) =>
    match bot.commit generation (categoriesOfFile files name) with
    | none => (⟨generation, .returning (.ok total)⟩, bot)
    | some (.ok count, bot) => (⟨generation, .committing (total + count) names⟩, bot)
    | some (.error failure, bot) => (⟨generation, .abandoning failure names.length⟩, bot)
  | (⟨generation, .abandoning failure count⟩, bot) =>
    (⟨generation, .returning (.error failure)⟩, bot.abandon generation count)
  | (⟨generation, .returning result⟩, bot) => (⟨generation, .ended result⟩, bot)
  | (⟨generation, .ended result⟩, bot) => (⟨generation, .ended result⟩, bot)

/-- What a load comes to, and the bot at its end. -/
def finish (files : Files) : Loader × Bot → Except LoadFailure Nat × Bot
  | (⟨generation, .committing total pending⟩, bot) => bot.loadEach files generation total pending
  | (⟨generation, .abandoning failure count⟩, bot) =>
    (.error failure, bot.abandon generation count)
  | (⟨_, .returning result⟩, bot) => (result, bot)
  | (⟨_, .ended result⟩, bot) => (result, bot)

/-- The number of documents that are still to be settled. -/
def Stage.remaining : Stage → Nat
  | committing _ pending => pending.length
  | abandoning _ count => count
  | returning _ => 0
  | ended _ => 0

variable {files : Files}

/-- A step does not change what a load comes to. -/
@[simp] theorem finish_step (s : Loader × Bot) : finish files (step files s) = finish files s := by
  obtain ⟨⟨generation, stage⟩, bot⟩ := s
  cases stage with
  | committing total pending =>
    cases pending with
    | nil => rfl
    | cons name names =>
      rw [step, finish, Bot.loadEach]
      cases bot.commit generation (categoriesOfFile files name) with
      | none => rfl
      | some committed =>
        obtain ⟨result, after⟩ := committed
        cases result with
        | ok count => rfl
        | error failure => rfl
  | abandoning failure count => rfl
  | returning result => rfl
  | ended result => rfl

/-! ## The end of a load -/

/-- A load that has been given up ends after two steps. -/
theorem iterate_step_abandoning (generation : UInt64) (failure : LoadFailure) (count : Nat)
    (bot : Bot) :
    (step files)^[2] (⟨generation, .abandoning failure count⟩, bot) =
      (⟨generation, .ended (.error failure)⟩, bot.abandon generation count) := rfl

/-- A load that commits documents comes to its end. -/
theorem exists_iterate_committing (generation : UInt64) (total : Nat) (pending : List String)
    (bot : Bot) :
    let result := bot.loadEach files generation total pending
    ∃ n, (step files)^[n] (⟨generation, .committing total pending⟩, bot) =
      (⟨generation, .ended result.1⟩, result.2) := by
  induction pending generalizing total bot with
  | nil => exact ⟨2, rfl⟩
  | cons name names ih =>
    rw [Bot.loadEach]
    cases hcommit : bot.commit generation (categoriesOfFile files name) with
    | none =>
      refine ⟨2, ?_⟩
      rw [Function.iterate_succ_apply, step, hcommit]
      rfl
    | some committed =>
      obtain ⟨result, after⟩ := committed
      cases result with
      | ok count =>
        obtain ⟨n, hn⟩ := ih (total + count) after
        refine ⟨n + 1, ?_⟩
        rw [Function.iterate_succ_apply, step, hcommit]
        exact hn
      | error failure =>
        refine ⟨3, ?_⟩
        rw [Function.iterate_succ_apply, step, hcommit]
        exact iterate_step_abandoning generation failure names.length after

/-- The load of a batch comes to its end. -/
theorem exists_iterate_step (bot : Bot) (batch : Batch) :
    ∃ n, (step files)^[n] (ofBatch batch, bot) =
      (⟨batch.generation, .ended (bot.runBatch files batch).1⟩, (bot.runBatch files batch).2) :=
  exists_iterate_committing batch.generation 0 batch.pending bot

/-! ## The load gate -/

/-- Whether the gate of a bot counts, besides the documents that are settled, those that a load of
the present generation has still to settle. -/
structure Coherent (loader : Loader) (bot : Bot) : Prop where
  generation : loader.generation = bot.gate.generation
  requested : bot.gate.requested = bot.gate.settled + loader.stage.remaining

/-- The load of a batch that is requested from a bot without open requests. -/
theorem coherent_ofBatch {bot : Bot} (hgate : bot.gate.requested = bot.gate.settled)
    (names : List String) :
    (ofBatch (bot.request names).2).Coherent (bot.request names).1 where
  generation := rfl
  requested := by
    simp only [Bot.request, Gate.request, ofBatch, Stage.remaining, hgate]

namespace Coherent

variable {loader : Loader} {bot : Bot}

/-- The gate goes on counting what is left. -/
theorem step (h : loader.Coherent bot) :
    (step files (loader, bot)).1.Coherent (Loader.step files (loader, bot)).2 := by
  obtain ⟨generation, stage⟩ := loader
  have hgeneration : generation = bot.gate.generation := h.generation
  have hrequested := h.requested
  cases stage with
  | committing total pending =>
    cases pending with
    | nil => exact ⟨hgeneration, hrequested⟩
    | cons name names =>
      simp only [Stage.remaining, List.length_cons] at hrequested
      rw [Loader.step]
      cases categoriesOfFile files name with
      | ok categories =>
        simp only [Bot.commit, Gate.settle, hgeneration, if_true, Option.map_some]
        exact ⟨rfl, by simp only [Stage.remaining]; omega⟩
      | error failure =>
        simp only [Bot.commit, Gate.settle, hgeneration, if_true, Option.map_some]
        exact ⟨rfl, by simp only [Stage.remaining]; omega⟩
  | abandoning failure count =>
    simp only [Stage.remaining] at hrequested
    simp only [Loader.step, Bot.abandon, Gate.abandon, hgeneration, if_true]
    exact ⟨rfl, by simp only [Stage.remaining]; omega⟩
  | returning result => exact ⟨hgeneration, hrequested⟩
  | ended result => exact ⟨hgeneration, hrequested⟩

/-- The gate is open exactly if no document is left. -/
theorem isReady_iff (h : loader.Coherent bot) :
    bot.isReady = true ↔ loader.stage.remaining = 0 := by
  rw [Bot.isReady, Gate.isReady, decide_eq_true_iff, h.requested]
  omega

/-- An open gate stays open. -/
theorem isReady_step (h : loader.Coherent bot) (hready : bot.isReady = true) :
    (Loader.step files (loader, bot)).2.isReady = true := by
  rw [h.step.isReady_iff]
  have hremaining := h.isReady_iff.1 hready
  obtain ⟨generation, stage⟩ := loader
  cases stage with
  | committing total pending =>
    rw [List.eq_nil_of_length_eq_zero hremaining]
    rfl
  | abandoning failure count => rfl
  | returning result => rfl
  | ended result => rfl

/-- If a load succeeds, then the bot with an open gate is the one that the load leaves. -/
theorem eq_finish_of_isReady (h : loader.Coherent bot) (hready : bot.isReady = true) {count : Nat}
    (hsuccess : (finish files (loader, bot)).1 = .ok count) :
    bot = (finish files (loader, bot)).2 := by
  have hremaining := h.isReady_iff.1 hready
  obtain ⟨generation, stage⟩ := loader
  cases stage with
  | committing total pending =>
    rw [List.eq_nil_of_length_eq_zero hremaining]
    rfl
  | abandoning failure count => cases hsuccess
  | returning result => rfl
  | ended result => rfl

end Coherent

end Loader

/-! ## Loads that succeed -/

/-- If the rest of a batch is loaded without a failure, then every document of it has been
parsed. -/
theorem Bot.exists_categories_of_loadEach {files : Files} {names : List String} {bot : Bot}
    {total count : Nat}
    (hsuccess : (bot.loadEach files bot.gate.generation total names).1 = .ok count) :
    ∀ name ∈ names, ∃ categories, categoriesOfFile files name = .ok categories := by
  induction names generalizing bot total with
  | nil => exact fun _ hmem => absurd hmem List.not_mem_nil
  | cons name names ih =>
    rw [loadEach] at hsuccess
    cases hparsed : categoriesOfFile files name with
    | ok categories =>
      let next : Bot := ⟨bot.profile, bot.knowledge.append categories,
        { bot.gate with settled := bot.gate.settled + 1, loaded := bot.gate.loaded + 1 }⟩
      simp only [hparsed, commit, Gate.settle, if_true, Option.map_some] at hsuccess
      have hrest : (next.loadEach files next.gate.generation (total + categories.length) names).1 =
          .ok count := hsuccess
      exact List.forall_mem_cons.2 ⟨⟨categories, hparsed⟩, ih hrest⟩
    | error failure =>
      simp only [hparsed, commit, Gate.settle, if_true, Option.map_some] at hsuccess
      cases hsuccess

/-- If documents are loaded without a failure, then every one of them has been parsed. -/
theorem Bot.exists_categories_of_loadFiles {files : Files} {names : List String} {bot : Bot}
    {count : Nat} (hsuccess : (bot.loadFiles files names).1 = .ok count) :
    ∀ name ∈ names, ∃ categories, categoriesOfFile files name = .ok categories := by
  let requested := (bot.request names).1
  have heach : (requested.loadEach files requested.gate.generation 0 names).1 = .ok count :=
    hsuccess
  exact Bot.exists_categories_of_loadEach heach

end Dialogue

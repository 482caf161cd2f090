import Dialogue.Loading.Bot
import Dialogue.Proofs.Resolution.Settled

/-!
# Loads that succeed

If every document of a batch is well formed, then the batch comes to its end, the load gate
is open afterwards, and all rules are those of the documents.  What comes of a batch depends
on the files of its documents only.

Main results:

- Theorem `Bot.loadFiles_congr`: other files do not matter.
- Theorem `Bot.exists_loadFiles`: the load of well-formed documents succeeds.
- Theorem `Bot.isReady_loadFiles`: nothing is waited for after such a load.
- Theorem `Bot.haveOneWay_loadFiles`: no template leaves a choice if none of the documents
  does.
-/

namespace Dialogue

variable {files files' : Files} {names : List String} {bot : Bot}

/-- Whether documents are all well formed and their templates leave no choice. -/
def LoadWithoutChoice (files : Files) (names : List String) : Prop :=
  ∀ name ∈ names, ∃ categories,
    categoriesOfFile files name = .ok categories ∧ HaveOneWay categories

instance (categories : List Category) : Decidable (HaveOneWay categories) :=
  inferInstanceAs (Decidable (∀ category ∈ categories,
    Fragment.everyOf Fragment.hasOneWay category.template = true))

instance (files : Files) (names : List String) : Decidable (LoadWithoutChoice files names) :=
  have (name : String) : Decidable (∃ categories,
      categoriesOfFile files name = .ok categories ∧ HaveOneWay categories) :=
    match categoriesOfFile files name with
    | .ok categories => decidable_of_iff (HaveOneWay categories) (by simp)
    | .error _ => isFalse (by simp)
  List.decidableBAll _ names

/-- What a document comes to depends on its own file only. -/
theorem categoriesOfFile_congr {name : String} (h : files name = files' name) :
    categoriesOfFile files name = categoriesOfFile files' name := by
  rw [categoriesOfFile, categoriesOfFile, h]

/-- Documents are as they are whatever happens to other files. -/
theorem LoadWithoutChoice.congr (h : LoadWithoutChoice files names)
    (hsame : ∀ name ∈ names, files name = files' name) : LoadWithoutChoice files' names := by
  intro name hmem
  rw [← categoriesOfFile_congr (hsame name hmem)]
  exact h name hmem

/-- A knowledge base leaves no choice after one more source without choices. -/
theorem HaveOneWay.append {kb : KnowledgeBase} {categories : List Category}
    (hkb : HaveOneWay kb.categories) (hcategories : HaveOneWay categories) :
    HaveOneWay (kb.append categories).categories := by
  intro category hmem
  rw [KnowledgeBase.categories_append] at hmem
  rcases List.mem_append.1 hmem with hold | hnew
  · exact hkb category hold
  · rcases List.mem_map.1 hnew with ⟨added, hadded, rfl⟩
    exact hcategories added hadded

namespace Bot

/-- The rest of a batch without a choice comes to its end: it settles each of its documents and
adds rules without a choice. -/
theorem loadEach_of_loadWithoutChoice (bot : Bot) (h : LoadWithoutChoice files names)
    (hone : HaveOneWay bot.knowledge.categories) (total : Nat) :
    ∃ (count : Nat) (after : Bot),
      bot.loadEach files bot.gate.generation total names = (.ok count, after) ∧
      after.gate.requested = bot.gate.requested ∧
      after.gate.settled = bot.gate.settled + names.length ∧
      HaveOneWay after.knowledge.categories := by
  induction names generalizing bot total with
  | nil => exact ⟨total, bot, rfl, rfl, rfl, hone⟩
  | cons name names ih =>
    rcases h name List.mem_cons_self with ⟨categories, hparsed, hcategories⟩
    have hrest : LoadWithoutChoice files names :=
      fun other hmem => h other (List.mem_cons_of_mem _ hmem)
    let next : Bot := ⟨bot.profile, bot.knowledge.append categories,
      { bot.gate with settled := bot.gate.settled + 1, loaded := bot.gate.loaded + 1 }⟩
    have hcommit : bot.commit bot.gate.generation (.ok categories) =
        some (.ok categories.length, next) := by
      simp [commit, Gate.settle, next]
    have hnext : HaveOneWay next.knowledge.categories := hone.append hcategories
    rcases ih next hrest hnext (total + categories.length) with
      ⟨count, after, hloaded, hrequested, hsettled, hafter⟩
    refine ⟨count, after, ?_, hrequested, ?_, hafter⟩
    · rw [loadEach, hparsed, hcommit]
      exact hloaded
    · rw [hsettled, List.length_cons]
      simp only [next]
      omega

/-- The load of well-formed documents succeeds. -/
theorem exists_loadFiles (bot : Bot) (h : LoadWithoutChoice files names)
    (hone : HaveOneWay bot.knowledge.categories) :
    ∃ count, (bot.loadFiles files names).1 = .ok count := by
  rcases loadEach_of_loadWithoutChoice (bot.request names).1 h hone 0 with
    ⟨count, after, hloaded, -⟩
  exact ⟨count, congrArg Prod.fst hloaded⟩

/-- Nothing is waited for after the load of well-formed documents if nothing was before. -/
theorem isReady_loadFiles (h : LoadWithoutChoice files names)
    (hone : HaveOneWay bot.knowledge.categories) (hready : bot.isReady = true) :
    (bot.loadFiles files names).2.isReady = true := by
  rcases loadEach_of_loadWithoutChoice (bot.request names).1 h hone 0 with
    ⟨count, after, hloaded, hrequested, hsettled, -⟩
  have hafter : (bot.loadFiles files names).2 = after := congrArg Prod.snd hloaded
  simp only [request, Gate.request] at hrequested hsettled
  simp only [isReady, Gate.isReady, decide_eq_true_eq] at hready
  rw [hafter, isReady, Gate.isReady, hrequested, hsettled, decide_eq_true_eq]
  omega

/-- No template leaves a choice after the load of documents without choices. -/
theorem haveOneWay_loadFiles (h : LoadWithoutChoice files names)
    (hone : HaveOneWay bot.knowledge.categories) :
    HaveOneWay (bot.loadFiles files names).2.knowledge.categories := by
  rcases loadEach_of_loadWithoutChoice (bot.request names).1 h hone 0 with
    ⟨count, after, hloaded, -, -, hafter⟩
  rw [show (bot.loadFiles files names).2 = after from congrArg Prod.snd hloaded]
  exact hafter

end Bot

end Dialogue

import Dialogue.Loading.Bot
import Mathlib.Data.List.Basic

/-!
# Batches and single documents

A batch requests all its documents at once and then adds them one by one, until one of them
cannot be read or parsed; the others are given up.  The rules that a bot has afterwards are those
that it would have if the documents before that one had been loaded one after the other, each as a
text of its own.  The load gate counts all documents of the batch as settled, and those before the
failure as loaded.

Main results:

- Theorem `KnowledgeBase.IsNumbered.foldl_append`: sources always get new numbers.
- Theorem `Bot.loadEach_append`: documents that can be loaded come in front of the rest of a batch.
- Theorem `Bot.loadTexts_eq`: what single documents make of a bot.
- Theorem `Bot.loadFiles_one_by_one`: what a batch makes of a bot.
-/

namespace Dialogue

/-! ## Documents that can be loaded -/

/-- Whether a document cannot be read or cannot be parsed. -/
def cannotLoad (files : Files) (name : String) : Bool := !(categoriesOfFile files name).isOk

/-- A document with categories can be loaded. -/
theorem cannotLoad_of_ok {files : Files} {name : String} {categories : List Category}
    (hparsed : categoriesOfFile files name = .ok categories) : cannotLoad files name = false := by
  rw [cannotLoad, hparsed]
  rfl

/-- A document that fails cannot be loaded. -/
theorem cannotLoad_of_error {files : Files} {name : String} {failure : LoadFailure}
    (hfails : categoriesOfFile files name = .error failure) : cannotLoad files name = true := by
  rw [cannotLoad, hfails]
  rfl

/-- A document that can be loaded is a text that can be parsed. -/
theorem exists_text_of_categoriesOfFile {files : Files} {name : String}
    {categories : List Category} (hparsed : categoriesOfFile files name = .ok categories) :
    ∃ content, files name = .text content ∧ categoriesOfText content = .ok categories := by
  cases hfile : files name with
  | absent => simp [categoriesOfFile, hfile, FileContent.read] at hparsed
  | notText => simp [categoriesOfFile, hfile, FileContent.read] at hparsed
  | text content => exact ⟨content, rfl, categoriesOfFile_text hfile ▸ hparsed⟩

/-- The documents in front of the first one that cannot be loaded are texts that can be parsed. -/
theorem exists_documents (files : Files) (names : List String) :
    let count := names.findIdx (cannotLoad files)
    ∃ (contents : List String) (documents : List (List Category)), contents.length = count ∧
      (names.take count).map files = contents.map FileContent.text ∧
      (names.take count).map (categoriesOfFile files) = documents.map Except.ok ∧
      contents.map categoriesOfText = documents.map Except.ok := by
  induction names with
  | nil => exact ⟨[], [], rfl, rfl, rfl, rfl⟩
  | cons name names ih =>
    cases hparsed : categoriesOfFile files name with
    | error failure =>
      rw [List.findIdx_cons, cannotLoad_of_error hparsed]
      exact ⟨[], [], rfl, rfl, rfl, rfl⟩
    | ok categories =>
      obtain ⟨content, hfile, htext⟩ := exists_text_of_categoriesOfFile hparsed
      obtain ⟨contents, documents, hlength, hfiles, hnames, htexts⟩ := ih
      rw [List.findIdx_cons, cannotLoad_of_ok hparsed]
      refine ⟨content :: contents, categories :: documents, ?_, ?_, ?_, ?_⟩
      · rw [List.length_cons, hlength, cond_false]
      · rw [cond_false, List.take_succ_cons, List.map_cons, List.map_cons, hfile, hfiles]
      · rw [cond_false, List.take_succ_cons, List.map_cons, List.map_cons, hparsed, hnames]
      · rw [List.map_cons, List.map_cons, htext, htexts]

/-- What comes first in the rest of a batch, if anything does, cannot be loaded. -/
theorem exists_failure {files : Files} {names : List String} {name : String}
    (hname : name ∈ names[names.findIdx (cannotLoad files)]?) :
    ∃ failure, categoriesOfFile files name = .error failure := by
  obtain ⟨hlt, rfl⟩ := List.getElem?_eq_some_iff.1 hname
  have hfails : cannotLoad files names[names.findIdx (cannotLoad files)] = true :=
    List.findIdx_getElem
  cases hparsed : categoriesOfFile files names[names.findIdx (cannotLoad files)] with
  | error failure => exact ⟨failure, rfl⟩
  | ok categories => rw [cannotLoad_of_ok hparsed] at hfails; cases hfails

/-! ## Knowledge bases -/

namespace KnowledgeBase

/-- Whether the numbers of all rule sources are below the next one. -/
def IsNumbered (kb : KnowledgeBase) : Prop :=
  ∀ category ∈ kb.categories, category.source < kb.sources

/-- Nothing has a number before anything is loaded. -/
theorem isNumbered_empty : empty.IsNumbered := by
  intro category hmem
  cases hmem

/-- One more source gets a number, which is below the next one. -/
theorem IsNumbered.append {kb : KnowledgeBase} (h : kb.IsNumbered) (categories : List Category) :
    (kb.append categories).IsNumbered := by
  intro category hmem
  rcases List.mem_append.1 hmem with hold | hnew
  · exact Nat.lt_succ_of_lt (h category hold)
  · obtain ⟨added, -, rfl⟩ := List.mem_map.1 hnew
    exact Nat.lt_succ_self kb.sources

/-- Sources that are added one after the other get numbers below the next one. -/
theorem IsNumbered.foldl_append {kb : KnowledgeBase} (h : kb.IsNumbered)
    (documents : List (List Category)) : (documents.foldl KnowledgeBase.append kb).IsNumbered := by
  induction documents generalizing kb with
  | nil => exact h
  | cons categories documents ih => exact ih (h.append categories)

/-- The categories of documents, each marked with the number of its document; the first number is
`start`. -/
def numberedFrom (start : Nat) (documents : List (List Category)) : List Category :=
  (documents.zipIdx start).flatMap fun (categories, number) =>
    categories.map ({ · with source := number })

/-- The numbers of documents begin with the first one. -/
theorem le_source_of_mem_numberedFrom {start : Nat} {documents : List (List Category)}
    {category : Category} (hmem : category ∈ numberedFrom start documents) :
    start ≤ category.source := by
  obtain ⟨⟨categories, number⟩, hdocument, hcategory⟩ := List.mem_flatMap.1 hmem
  obtain ⟨added, -, rfl⟩ := List.mem_map.1 hcategory
  exact List.le_snd_of_mem_zipIdx hdocument

/-- Documents that are added one after the other get the numbers that come next. -/
theorem foldl_append_eq (kb : KnowledgeBase) (documents : List (List Category)) :
    documents.foldl append kb =
      ⟨kb.categories ++ numberedFrom kb.sources documents, kb.sources + documents.length⟩ := by
  induction documents generalizing kb with
  | nil => simp [numberedFrom]
  | cons categories documents ih =>
    rw [List.foldl_cons, ih]
    simp only [append, numberedFrom, List.zipIdx_cons, List.flatMap_cons, List.append_assoc,
      List.length_cons]
    congr 1
    omega

end KnowledgeBase

/-! ## Bots -/

namespace Bot

/-- The bot after the categories of documents have been added and the documents are settled. -/
def withLoaded (bot : Bot) (documents : List (List Category)) : Bot where
  profile := bot.profile
  knowledge := documents.foldl KnowledgeBase.append bot.knowledge
  gate :=
    { bot.gate with
      settled := bot.gate.settled + documents.length
      loaded := bot.gate.loaded + documents.length }

/-- One document is added before the others. -/
theorem withLoaded_cons (bot : Bot) (categories : List Category)
    (documents : List (List Category)) :
    bot.withLoaded (categories :: documents) =
      (bot.withLoaded [categories]).withLoaded documents := by
  simp only [withLoaded, List.foldl_cons, List.foldl_nil, List.length_cons, List.length_nil]
  congr 2 <;> omega

/-- A document of the present generation is added. -/
theorem commit_ok (bot : Bot) (categories : List Category) :
    bot.commit bot.gate.generation (.ok categories) =
      some (.ok categories.length, bot.withLoaded [categories]) := by
  simp [commit, Gate.settle, withLoaded]

/-- A document of the present generation that has failed is settled. -/
theorem commit_error (bot : Bot) (failure : LoadFailure) :
    bot.commit bot.gate.generation (.error failure) =
      some (.error failure,
        { bot with gate := { bot.gate with settled := bot.gate.settled + 1 } }) := by
  simp [commit, Gate.settle]

/-! ## Batches -/

/-- Documents that can be loaded are added in front of the rest of a batch. -/
theorem loadEach_append {files : Files} {names : List String} {documents : List (List Category)}
    (hnames : names.map (categoriesOfFile files) = documents.map Except.ok) (bot : Bot)
    (total : Nat) (rest : List String) :
    bot.loadEach files bot.gate.generation total (names ++ rest) =
      (bot.withLoaded documents).loadEach files bot.gate.generation
        (total + documents.flatten.length) rest := by
  induction names generalizing bot total documents with
  | nil =>
    obtain rfl : documents = [] := List.map_eq_nil_iff.1 hnames.symm
    rfl
  | cons name names ih =>
    cases documents with
    | nil => cases hnames
    | cons categories documents =>
      obtain ⟨hparsed, hrest⟩ := List.cons.inj hnames
      have hlater := ih hrest (bot.withLoaded [categories]) (total + categories.length)
      have htotal : total + (categories :: documents).flatten.length =
          total + categories.length + documents.flatten.length := by
        rw [List.flatten_cons, List.length_append, Nat.add_assoc]
      rw [htotal, List.cons_append, loadEach, hparsed, commit_ok,
        withLoaded_cons bot categories documents]
      exact hlater

/-- A document that cannot be loaded ends its batch, whose other documents are settled, too. -/
theorem loadEach_of_error {files : Files} {name : String} {failure : LoadFailure}
    (hfails : categoriesOfFile files name = .error failure) (bot : Bot) (total : Nat)
    (names : List String) :
    bot.loadEach files bot.gate.generation total (name :: names) =
      (.error failure,
        { bot with gate :=
          { bot.gate with settled := bot.gate.settled + (name :: names).length } }) := by
  rw [loadEach, hfails, commit_error]
  simp only [abandon, Gate.abandon, if_true, List.length_cons]
  congr 3
  omega

/-! ## Single documents -/

/-- Loads documents that are given as texts, one after the other: what each of them comes to, and
the bot afterwards. -/
def loadTexts (bot : Bot) : List String → List (Except LoadFailure Nat) × Bot
  | [] => ([], bot)
  | text :: texts =>
    let (result, bot) := bot.loadText text
    let (results, bot) := bot.loadTexts texts
    (result :: results, bot)

/-- The bot after so many more documents have been requested. -/
def withRequested (bot : Bot) (count : Nat) : Bot :=
  { bot with gate := bot.gate.request count }

/-- More documents can be requested before or after others are added. -/
theorem withRequested_withLoaded (bot : Bot) (before after : Nat)
    (documents : List (List Category)) :
    ((bot.withRequested before).withLoaded documents).withRequested after =
      (bot.withRequested (before + after)).withLoaded documents := by
  simp only [withRequested, withLoaded, Gate.request, Nat.add_assoc]

/-- A text that can be parsed is requested and added. -/
theorem loadText_of_ok {text : String} {categories : List Category}
    (hparsed : categoriesOfText text = .ok categories) (bot : Bot) :
    bot.loadText text = (.ok categories.length, (bot.withRequested 1).withLoaded [categories]) := by
  have hcommit := commit_ok (bot.withRequested 1) categories
  simp only [withRequested, Gate.request] at hcommit
  simp only [loadText, hparsed, withRequested, Gate.request, hcommit, Option.getD_some]

/-- Texts that can be parsed are all loaded. -/
theorem loadTexts_eq {texts : List String} {documents : List (List Category)}
    (htexts : texts.map categoriesOfText = documents.map Except.ok) (bot : Bot) :
    bot.loadTexts texts =
      (documents.map fun categories => .ok categories.length,
        (bot.withRequested texts.length).withLoaded documents) := by
  induction texts generalizing bot documents with
  | nil =>
    obtain rfl : documents = [] := List.map_eq_nil_iff.1 htexts.symm
    rfl
  | cons text texts ih =>
    cases documents with
    | nil => cases htexts
    | cons categories documents =>
      obtain ⟨hparsed, hrest⟩ := List.cons.inj htexts
      rw [loadTexts, loadText_of_ok hparsed]
      simp only [ih hrest, List.map_cons, List.length_cons, withRequested_withLoaded]
      rw [withLoaded_cons _ categories documents, Nat.add_comm]

/-! ## A batch against single documents -/

/-- What a batch comes to.  The texts `contents` are those of the documents in front of the first
one that cannot be loaded, and `documents` has their categories. -/
structure LoadsOneByOne (files : Files) (names : List String) (bot : Bot) (contents : List String)
    (documents : List (List Category)) : Prop where
  /-- The first document that cannot be loaded comes after them. -/
  count : contents.length = names.findIdx (cannotLoad files)
  /-- They are what the documents in front of it contain. -/
  readable : (names.take contents.length).map files = contents.map FileContent.text
  parsed : contents.map categoriesOfText = documents.map Except.ok
  /-- Each of them would be loaded by itself. -/
  single : (bot.loadTexts contents).1 = documents.map fun categories => .ok categories.length
  /-- The rules are those that the bot would have then. -/
  alike : (bot.loadFiles files names).2.knowledge = (bot.loadTexts contents).2.knowledge
  /-- The rules of the documents come behind the old ones, with the next numbers. -/
  knowledge : (bot.loadFiles files names).2.knowledge =
    ⟨bot.knowledge.categories ++ KnowledgeBase.numberedFrom bot.knowledge.sources documents,
      bot.knowledge.sources + contents.length⟩
  /-- No source had one of these numbers before. -/
  fresh : bot.knowledge.IsNumbered → (bot.loadFiles files names).2.knowledge.IsNumbered ∧
    ∀ old ∈ bot.knowledge.categories,
      ∀ new ∈ KnowledgeBase.numberedFrom bot.knowledge.sources documents, old.source < new.source
  profile : (bot.loadFiles files names).2.profile = bot.profile
  /-- All documents of the batch are settled, and those in front of the failure are loaded. -/
  gate : (bot.loadFiles files names).2.gate =
    { bot.gate with
      requested := bot.gate.requested + names.length
      settled := bot.gate.settled + names.length
      loaded := bot.gate.loaded + contents.length }
  /-- The bot is ready. -/
  ready : (bot.loadFiles files names).2.isReady = true
  /-- If all documents can be loaded, then their categories are counted. -/
  total : contents.length = names.length →
    (bot.loadFiles files names).1 = .ok documents.flatten.length
  /-- Otherwise the result is why the first document that cannot be loaded cannot. -/
  failure : ∀ name ∈ names[contents.length]?, ∃ cause,
    categoriesOfFile files name = .error cause ∧ (bot.loadFiles files names).1 = .error cause

/-- The rest of a batch, which is empty or begins with a document that cannot be loaded. -/
theorem exists_loadEach {files : Files} {rest : List String}
    (hrest : ∀ name ∈ rest.head?, ∃ cause, categoriesOfFile files name = .error cause) (bot : Bot)
    (total : Nat) :
    ∃ result, bot.loadEach files bot.gate.generation total rest =
        (result, { bot with gate :=
          { bot.gate with settled := bot.gate.settled + rest.length } }) ∧
      (rest = [] → result = .ok total) ∧
      ∀ name ∈ rest.head?, ∃ cause,
        categoriesOfFile files name = .error cause ∧ result = .error cause := by
  cases rest with
  | nil => exact ⟨.ok total, rfl, fun _ => rfl, fun _ hname => by cases hname⟩
  | cons name names =>
    obtain ⟨cause, hfails⟩ := hrest name rfl
    refine ⟨.error cause, loadEach_of_error hfails bot total names, fun h => (by cases h), ?_⟩
    rintro name ⟨⟩
    exact ⟨cause, hfails, rfl⟩

/-- A batch requests all its documents, adds those that can be loaded and comes to the rest. -/
theorem loadFiles_eq_loadEach {files : Files} {names : List String} {count : Nat}
    {documents : List (List Category)}
    (hnames : (names.take count).map (categoriesOfFile files) = documents.map Except.ok)
    (bot : Bot) :
    bot.loadFiles files names =
      ((bot.withRequested names.length).withLoaded documents).loadEach files bot.gate.generation
        documents.flatten.length (names.drop count) := by
  have hloaded := loadEach_append hnames (bot.withRequested names.length) 0 (names.drop count)
  rw [List.take_append_drop, Nat.zero_add] at hloaded
  exact hloaded

/-- A batch settles all its documents and adds those in front of the first one that cannot be
loaded. -/
theorem exists_loadFiles_eq {files : Files} {names : List String}
    {documents : List (List Category)}
    (hcount : documents.length = names.findIdx (cannotLoad files))
    (hnames : (names.take documents.length).map (categoriesOfFile files) =
      documents.map Except.ok) (bot : Bot) :
    ∃ result, bot.loadFiles files names = (result,
        ⟨bot.profile, documents.foldl KnowledgeBase.append bot.knowledge,
          { bot.gate with
            requested := bot.gate.requested + names.length
            settled := bot.gate.settled + names.length
            loaded := bot.gate.loaded + documents.length }⟩) ∧
      (documents.length = names.length → result = .ok documents.flatten.length) ∧
      ∀ name ∈ names[documents.length]?, ∃ cause,
        categoriesOfFile files name = .error cause ∧ result = .error cause := by
  have hrest : ∀ name ∈ (names.drop documents.length).head?, ∃ cause,
      categoriesOfFile files name = .error cause := by
    intro name hname
    rw [List.head?_drop, hcount] at hname
    exact exists_failure hname
  -- The documents that are added and the rest, which is given up, make up the batch.
  have hsettled : documents.length + (names.drop documents.length).length = names.length := by
    rw [List.length_drop, hcount]
    exact Nat.add_sub_cancel' List.findIdx_le_length
  obtain ⟨result, hresult, htotal, hfailure⟩ :=
    exists_loadEach hrest ((bot.withRequested names.length).withLoaded documents)
      documents.flatten.length
  refine ⟨result, ?_, ?_, ?_⟩
  · rw [loadFiles_eq_loadEach hnames]
    refine hresult.trans ?_
    simp only [withLoaded, withRequested, Gate.request, Nat.add_assoc, hsettled]
  · intro hall
    exact htotal (by rw [hall, List.drop_length])
  · intro name hname
    exact hfailure name (by rwa [List.head?_drop])

/-- A batch loads its documents one by one, up to the first that cannot be loaded. -/
theorem loadFiles_one_by_one (files : Files) (names : List String) {bot : Bot}
    (hready : bot.isReady = true) :
    ∃ contents documents, LoadsOneByOne files names bot contents documents := by
  obtain ⟨contents, documents, hcount, hreadable, hnames, hparsed⟩ := exists_documents files names
  have hlength : documents.length = contents.length := by
    simpa using (congrArg List.length hparsed).symm
  obtain ⟨result, hbatch, htotal, hfailure⟩ :=
    exists_loadFiles_eq (hlength.trans hcount) (by rwa [hlength, hcount]) bot
  have htexts := loadTexts_eq hparsed bot
  rw [hlength] at hbatch htotal hfailure
  refine ⟨contents, documents, ?_⟩
  constructor
  case count => exact hcount
  case readable => rwa [hcount]
  case parsed => exact hparsed
  case single => rw [htexts]
  case alike => rw [hbatch, htexts]; rfl
  case knowledge => rw [hbatch, ← hlength]; exact KnowledgeBase.foldl_append_eq _ _
  case fresh =>
    intro hnumbered
    rw [hbatch]
    refine ⟨hnumbered.foldl_append documents, ?_⟩
    intro old hold new hnew
    exact Nat.lt_of_lt_of_le (hnumbered old hold)
      (KnowledgeBase.le_source_of_mem_numberedFrom hnew)
  case profile => rw [hbatch]
  case gate => rw [hbatch]
  case ready =>
    rw [hbatch]
    simp only [isReady, Gate.isReady, decide_eq_true_eq] at hready ⊢
    omega
  case total => rwa [hbatch]
  case failure => rwa [hbatch]

/-- One greeting, which several documents contain. -/
def greetingFiles : Files := fun name =>
  if name = "missing" then .absent
  else .text "<aiml><category><pattern>HI</pattern><template>Hello</template></category></aiml>"

/-- The document behind a missing one is given up. -/
theorem loadFiles_one_by_one_interrupted :
    (new .empty).isReady = true ∧ (new .empty).knowledge.IsNumbered ∧
      ["first", "second", "missing", "first"].findIdx (cannotLoad greetingFiles) = 2 ∧
      ((new .empty).loadFiles greetingFiles ["first", "second", "missing", "first"]).1 =
        .error (.unreadable "missing" .absent) ∧
      ∃ contents documents,
        LoadsOneByOne greetingFiles ["first", "second", "missing", "first"] (new .empty)
          contents documents :=
  ⟨rfl, KnowledgeBase.isNumbered_empty, by decide +kernel, by decide +kernel,
    loadFiles_one_by_one _ _ rfl⟩

end Bot

end Dialogue

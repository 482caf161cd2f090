import Dialogue.Proofs.Loading.Events

/-!
# What the load gate knows while batches are loaded

Whatever batches, failures and reloads come in whatever order, the counters of the gate
tell what is still to be settled by the batches that were requested since the last
reload, and the knowledge base has what they have committed.  Batches that were
requested earlier have no part in it, as long as the generations do not come round.

Main results:

- Theorem `Loading.step_of_isStale`: a batch that was requested before the last reload
  has no effect any more.
- Theorem `Loading.consistent_run`: what the counters and the knowledge base are after
  any sequence of events.
-/

namespace Dialogue

/-! ## What is outstanding -/

namespace Load

variable {loads : List Load} {reloads index : Nat} {load load' : Load}

/-- A new batch adds its documents. -/
theorem outstanding_concat (loads : List Load) (generation : UInt64) (reloads count : Nat) :
    outstanding reloads (loads ++ [⟨generation, reloads, .committing count⟩]) =
      outstanding reloads loads + count := by
  simp [outstanding, counted, Stage.remaining]

/-- When one batch takes the place of another, it counts instead. -/
theorem outstanding_set (reloads : Nat) (load' : Load) (hload : loads[index]? = some load) :
    outstanding reloads (loads.set index load') + counted reloads load =
      outstanding reloads loads + counted reloads load' := by
  induction loads generalizing index with
  | nil => simp at hload
  | cons first loads ih =>
    cases index with
    | zero =>
      cases hload
      simp only [outstanding, List.set_cons_zero, List.map_cons, List.sum_cons]
      omega
    | succ index =>
      have hrest := ih hload
      simp only [outstanding, List.set_cons_succ, List.map_cons, List.sum_cons] at hrest ⊢
      omega

/-- When a batch goes on that was requested since the last reload, so much less is
outstanding as it has done. -/
theorem outstanding_goOn (hload : loads[index]? = some load) (hnow : load.reloads = reloads)
    (stage : Stage) :
    outstanding reloads (loads.set index { load with stage := stage }) + load.stage.remaining =
      outstanding reloads loads + stage.remaining := by
  have hset := outstanding_set reloads { load with stage := stage } hload
  simpa only [counted, hnow, if_true] using hset

/-- When a batch goes on that was requested earlier, nothing changes. -/
theorem outstanding_goOn_of_ne (hload : loads[index]? = some load)
    (hearlier : load.reloads ≠ reloads) (stage : Stage) :
    outstanding reloads (loads.set index { load with stage := stage }) =
      outstanding reloads loads := by
  have hset := outstanding_set reloads { load with stage := stage } hload
  simpa only [counted, hearlier, if_false, Nat.add_zero] using hset

/-- Nothing is outstanding of batches that were all requested earlier. -/
theorem outstanding_of_lt (hearlier : ∀ load ∈ loads, load.reloads < reloads) :
    outstanding reloads loads = 0 := by
  induction loads with
  | nil => rfl
  | cons first loads ih =>
    rw [List.forall_mem_cons] at hearlier
    have hfirst : counted reloads first = 0 := if_neg (Nat.ne_of_lt hearlier.1)
    have hrest := ih hearlier.2
    simp only [outstanding, List.map_cons, List.sum_cons] at hrest ⊢
    omega

end Load

namespace Loading

variable {s : Loading} {index count : Nat} {load : Load}

/-! ## What has been committed -/

/-- The categories of documents, each marked with the number of its document. -/
def numbered (documents : List (List Category)) : List Category :=
  documents.zipIdx.flatMap fun (categories, number) =>
    categories.map ({ · with source := number })

/-- A bot whose counters and whose knowledge base are those of what has happened. -/
structure Consistent (s : Loading) : Prop where
  loaded_le_settled : s.bot.gate.loaded ≤ s.bot.gate.settled
  settled_le_requested : s.bot.gate.settled ≤ s.bot.gate.requested
  requested_sub_settled : s.bot.gate.requested - s.bot.gate.settled = s.outstanding
  isReady_iff : s.bot.isReady = true ↔ s.outstanding = 0
  categories : s.bot.knowledge.categories = numbered s.documents
  sources : s.bot.knowledge.sources = s.bot.gate.loaded
  loaded : s.bot.gate.loaded = s.documents.length
  stale : ∀ event, s.IsStale event → (s.step event).bot = s.bot

/-! ## What every step keeps -/

/-- Batches that know when they were requested, and the generation that the gate has after
so many reloads. -/
structure Dated (generation : UInt64) (reloads : Nat) (loads : List Load) : Prop where
  generation : generation = UInt64.ofNat reloads
  reloads_le : ∀ load ∈ loads, load.reloads ≤ reloads
  generations : ∀ load ∈ loads, load.generation = UInt64.ofNat load.reloads

namespace Dated

variable {generation : UInt64} {reloads : Nat} {loads : List Load}

/-- As long as the generations do not come round, a batch is of the present generation
exactly if it was requested since the last reload. -/
theorem generation_eq_iff (h : Dated generation reloads loads) (hreloads : reloads < 2 ^ 64)
    (hmem : load ∈ loads) : load.generation = generation ↔ load.reloads = reloads := by
  rw [h.generations load hmem, h.generation]
  constructor
  · intro heq
    have hnat := congrArg UInt64.toNat heq
    have hle := h.reloads_le load hmem
    rw [UInt64.toNat_ofNat', UInt64.toNat_ofNat'] at hnat
    rwa [Nat.mod_eq_of_lt (by omega), Nat.mod_eq_of_lt (by omega)] at hnat
  · intro heq
    rw [heq]

/-- A batch that is requested now knows so. -/
theorem request (h : Dated generation reloads loads) (stage : Load.Stage) :
    Dated generation reloads (loads ++ [⟨generation, reloads, stage⟩]) where
  generation := h.generation
  reloads_le := by
    intro load hmem
    rcases List.mem_append.1 hmem with hold | hnew
    · exact h.reloads_le load hold
    · cases List.mem_singleton.1 hnew
      exact Nat.le_refl _
  generations := by
    intro load hmem
    rcases List.mem_append.1 hmem with hold | hnew
    · exact h.generations load hold
    · cases List.mem_singleton.1 hnew
      exact h.generation

/-- A batch that goes on still knows when it was requested. -/
theorem goOn (h : Dated generation reloads loads) (hload : loads[index]? = some load)
    (stage : Load.Stage) :
    Dated generation reloads (loads.set index { load with stage := stage }) where
  generation := h.generation
  reloads_le := by
    intro other hmem
    rcases List.mem_or_eq_of_mem_set hmem with hold | rfl
    · exact h.reloads_le other hold
    · exact h.reloads_le load (List.mem_of_getElem? hload)
  generations := by
    intro other hmem
    rcases List.mem_or_eq_of_mem_set hmem with hold | rfl
    · exact h.generations other hold
    · exact h.generations load (List.mem_of_getElem? hload)

/-- After a reload the batches know that they were requested earlier. -/
theorem reload (h : Dated generation reloads loads) :
    Dated (generation + 1) (reloads + 1) loads where
  generation := by
    rw [h.generation]
    exact (UInt64.ofNat_add reloads 1).symm
  reloads_le := by
    intro load hmem
    exact Nat.le_succ_of_le (h.reloads_le load hmem)
  generations := h.generations

end Dated

/-- Another document goes behind the others, with the next number. -/
theorem numbered_concat (documents : List (List Category)) (categories : List Category) :
    numbered (documents ++ [categories]) =
      numbered documents ++ categories.map ({ · with source := documents.length }) := by
  simp [numbered, List.zipIdx_append]

/-- A bot whose gate and knowledge base are those of what has happened. -/
structure Coherent (s : Loading) : Prop where
  dated : Dated s.bot.gate.generation s.reloads s.loads
  requested : s.bot.gate.requested = s.bot.gate.settled + s.outstanding
  loaded_le : s.bot.gate.loaded ≤ s.bot.gate.settled
  loaded : s.bot.gate.loaded = s.documents.length
  knowledge : s.bot.knowledge = ⟨numbered s.documents, s.documents.length⟩

/-- A new bot is coherent. -/
theorem coherent_start (profile : Bindings) : (start profile).Coherent where
  dated := ⟨rfl, nofun, nofun⟩
  requested := rfl
  loaded_le := Nat.le_refl 0
  loaded := rfl
  knowledge := rfl

namespace Coherent

/-- A request keeps a bot coherent. -/
theorem request (h : s.Coherent) (count : Nat) : (s.step (.request count)).Coherent where
  dated := h.dated.request _
  requested := by
    have hrequested := h.requested
    have hconcat := Load.outstanding_concat s.loads s.bot.gate.generation s.reloads count
    simp only [outstanding, step, Gate.request] at hrequested ⊢
    omega
  loaded_le := h.loaded_le
  loaded := h.loaded
  knowledge := h.knowledge

/-- A reload keeps a bot coherent. -/
theorem reload (h : s.Coherent) : (s.step .reload).Coherent where
  dated := h.dated.reload
  requested := by
    have hearlier : ∀ load ∈ s.loads, load.reloads < s.reloads + 1 := by
      intro load hmem
      exact Nat.lt_succ_of_le (h.dated.reloads_le load hmem)
    have hnone := Load.outstanding_of_lt hearlier
    simp only [step, outstanding, Bot.reload, Gate.reset, hnone]
  loaded_le := Nat.le_refl 0
  loaded := rfl
  knowledge := rfl

/-- A batch that was requested before the last reload can go on as it likes. -/
theorem goOn_of_ne (h : s.Coherent) (hload : s.loads[index]? = some load)
    (hreloads : load.reloads ≠ s.reloads) (stage : Load.Stage) :
    Coherent { s with loads := s.loads.set index { load with stage := stage } } where
  dated := h.dated.goOn hload stage
  requested := by
    have hsame := Load.outstanding_goOn_of_ne hload hreloads stage
    have hrequested := h.requested
    simp only [outstanding] at hrequested ⊢
    omega
  loaded_le := h.loaded_le
  loaded := h.loaded
  knowledge := h.knowledge

/-- A commit keeps a bot coherent. -/
theorem commitNext (h : s.Coherent) (hreloads : s.reloads < 2 ^ 64)
    (hload : s.loads[index]? = some load) (hstage : load.stage = .committing (count + 1))
    (parsed : Parsed) : (s.commitNext index load count parsed).Coherent := by
  have hgeneration := h.dated.generation_eq_iff hreloads (List.mem_of_getElem? hload)
  have hrequested := h.requested
  by_cases hnow : load.reloads = s.reloads
  · have hgoOn := Load.outstanding_goOn hload hnow
    cases parsed with
    | ok categories =>
      rw [commitNext_ok categories (hgeneration.2 hnow) hnow]
      have hrest := hgoOn (.committing count)
      simp only [hstage, outstanding, Load.Stage.remaining] at hrequested hrest
      refine ⟨h.dated.goOn hload _, ?_, ?_, ?_, ?_⟩
      · simp only [outstanding]
        omega
      · exact Nat.succ_le_succ h.loaded_le
      · simp [h.loaded]
      · simp [h.knowledge, KnowledgeBase.append, numbered_concat]
    | error failure =>
      rw [commitNext_error failure (hgeneration.2 hnow) hnow]
      have hrest := hgoOn (.abandoning count)
      simp only [hstage, outstanding, Load.Stage.remaining] at hrequested hrest
      refine ⟨h.dated.goOn hload _, ?_, ?_, h.loaded, h.knowledge⟩
      · simp only [outstanding]
        omega
      · exact Nat.le_succ_of_le h.loaded_le
  · rw [commitNext_of_ne (fun heq => hnow (hgeneration.1 heq)) hnow]
    exact h.goOn_of_ne hload hnow _

/-- Giving up the rest of a batch keeps a bot coherent. -/
theorem abandonRest (h : s.Coherent) (hreloads : s.reloads < 2 ^ 64)
    (hload : s.loads[index]? = some load) (hstage : load.stage = .abandoning count) :
    (s.abandonRest index load count).Coherent := by
  have hgeneration := h.dated.generation_eq_iff hreloads (List.mem_of_getElem? hload)
  by_cases hnow : load.reloads = s.reloads
  · rw [abandonRest_of_eq (hgeneration.2 hnow)]
    have hrequested := h.requested
    have hrest := Load.outstanding_goOn hload hnow (.abandoning 0)
    simp only [hstage, outstanding, Load.Stage.remaining] at hrequested hrest
    refine ⟨h.dated.goOn hload _, ?_, ?_, h.loaded, h.knowledge⟩
    · simp only [outstanding]
      omega
    · exact Nat.le_add_right_of_le h.loaded_le
  · rw [abandonRest_of_ne fun heq => hnow (hgeneration.1 heq)]
    exact h.goOn_of_ne hload hnow _

/-- Whatever happens keeps a bot coherent. -/
theorem step (h : s.Coherent) (hreloads : s.reloads < 2 ^ 64) (event : Event) :
    (s.step event).Coherent := by
  rcases s.step_cases event with ⟨-, heq⟩ | ⟨count, rfl, -⟩ |
    ⟨index, parsed, load, count, -, hload, hstage, heq⟩ |
    ⟨index, load, count, -, hload, hstage, heq⟩ | ⟨rfl, -⟩
  · rw [heq]
    exact h
  · exact h.request count
  · rw [heq]
    exact h.commitNext hreloads hload hstage parsed
  · rw [heq]
    exact h.abandonRest hreloads hload hstage
  · exact h.reload

end Coherent

/-- How often the bot has been reloaded after something has happened. -/
theorem reloads_step (s : Loading) (event : Event) :
    (s.step event).reloads = s.reloads + event.isReload.toNat := by
  rcases s.step_cases event with ⟨hother, heq⟩ | ⟨count, rfl, heq⟩ |
    ⟨index, parsed, load, count, rfl, -, -, heq⟩ |
    ⟨index, load, count, rfl, -, -, heq⟩ | ⟨rfl, heq⟩
  · rw [heq, hother]
    rfl
  all_goals
    rw [heq]
    rfl

/-- Whatever happens one after the other keeps a bot coherent, as long as the generations
do not come round. -/
theorem Coherent.run (h : s.Coherent) (events : List Event)
    (hreloads : s.reloads + events.countP Event.isReload < 2 ^ 64) :
    (s.run events).Coherent ∧
      (s.run events).reloads = s.reloads + events.countP Event.isReload := by
  induction events generalizing s with
  | nil => exact ⟨h, rfl⟩
  | cons event events ih =>
    have hstep := reloads_step s event
    have hcount : (event :: events).countP Event.isReload =
        events.countP Event.isReload + event.isReload.toNat := by
      cases hevent : event.isReload <;> simp [hevent]
    have hnow : s.reloads < 2 ^ 64 := by omega
    have hlater := ih (h.step hnow event) (by omega)
    refine ⟨hlater.1, ?_⟩
    rw [run_cons, hlater.2]
    omega

/-! ## What is known after any sequence of events -/

/-- What a batch does that was requested before the last reload has no effect on the
bot. -/
theorem step_of_isStale (h : s.Coherent) (hreloads : s.reloads < 2 ^ 64) {event : Event}
    (hstale : s.IsStale event) : (s.step event).bot = s.bot := by
  rcases hstale with ⟨stale, hmem, hlt⟩
  have hne : ∀ {index : Nat} {load : Load}, s.loads[index]? = some load →
      event.load? s.loads = s.loads[index]? →
      load.reloads ≠ s.reloads ∧ load.generation ≠ s.bot.gate.generation := by
    intro index load hload hevent
    rw [hevent, hload, Option.mem_some_iff] at hmem
    have hold : load.reloads ≠ s.reloads := by
      rw [hmem]
      omega
    have hiff := h.dated.generation_eq_iff hreloads (List.mem_of_getElem? hload)
    exact ⟨hold, fun heq => hold (hiff.1 heq)⟩
  rcases s.step_cases event with ⟨-, heq⟩ | ⟨count, rfl, -⟩ |
    ⟨index, parsed, load, count, rfl, hload, -, heq⟩ |
    ⟨index, load, count, rfl, hload, -, heq⟩ | ⟨rfl, -⟩
  · rw [heq]
  · cases hmem
  · rcases hne hload rfl with ⟨hold, hgeneration⟩
    rw [heq, commitNext_of_ne hgeneration hold]
  · rw [heq, abandonRest_of_ne (hne hload rfl).2]
  · cases hmem

/-- A coherent bot has the counters and the knowledge base of what has happened. -/
theorem Coherent.consistent (h : s.Coherent) (hreloads : s.reloads < 2 ^ 64) :
    s.Consistent where
  loaded_le_settled := h.loaded_le
  settled_le_requested := by
    have hrequested := h.requested
    omega
  requested_sub_settled := by
    have hrequested := h.requested
    omega
  isReady_iff := by
    have hrequested := h.requested
    rw [Bot.isReady, Gate.isReady, decide_eq_true_iff]
    omega
  categories := by
    rw [h.knowledge]
  sources := by
    rw [h.knowledge, h.loaded]
  loaded := h.loaded
  stale := fun _ hstale => step_of_isStale h hreloads hstale

/-- After any sequence of requests, commits, failures and reloads, fewer of which are
reloads than there are generations, the gate counts what is still to be settled by the
batches requested since the last reload, and the knowledge base has exactly what they
have committed. -/
theorem consistent_run (profile : Bindings) (events : List Event)
    (hreloads : events.countP Event.isReload < 2 ^ 64) :
    ((start profile).run events).Consistent := by
  have hstart : (start profile).reloads + events.countP Event.isReload < 2 ^ 64 := by
    have hzero : (start profile).reloads = 0 := rfl
    omega
  rcases (coherent_start profile).run events hstart with ⟨hcoherent, hcount⟩
  exact hcoherent.consistent (hcount ▸ hstart)

/-- A batch is overtaken by a reload and by another batch, whose second document fails. -/
def overtaken : List Event :=
  [.request 2, .commit 0 (.ok [⟨⟨[.text "A"]⟩, none, [], 0⟩]), .reload, .request 3,
    .commit 0 (.ok [⟨⟨[.text "B"]⟩, none, [], 0⟩]),
    .commit 1 (.ok [⟨⟨[.text "C"]⟩, none, [], 0⟩]),
    .commit 1 (.error (.unreadable "D" .absent))]

/-- The batch that has failed has one document to give up. -/
theorem consistent_run_overtaken :
    overtaken.countP Event.isReload < 2 ^ 64 ∧
      ((start .empty).run overtaken).Consistent ∧
      ((start .empty).run overtaken).bot.gate = ⟨1, 3, 2, 1⟩ ∧
      ((start .empty).run overtaken).outstanding = 1 := by
  have hreloads : overtaken.countP Event.isReload < 2 ^ 64 := by decide
  exact ⟨hreloads, consistent_run .empty overtaken hreloads, by decide, by decide⟩

end Loading

end Dialogue

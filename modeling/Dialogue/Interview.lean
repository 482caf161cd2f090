import Dialogue.Session

/-!
# Interviews

An interview asks a list of questions in a new session.  Its answers depend on
the draws that are made on the way, so that interviews with different seeds can
come to different lists of answers.  A survey collects the lists that come up in
a number of interviews; the ways through an interview are all that can come up.

Main results:

- `mem_extend_iff`: every way to go on with an interview is a way to answer its
  next question.
- `answersWith_mem_paths`: every interview takes one of the ways.
- `mem_survey_iff`: what a survey collects.
-/

namespace Dialogue.Interview

/-! ## Ways through an interview -/

/-- How an interview has gone so far. -/
structure Path where
  conversation : Conversation
  /-- The answers that have been given, the latest first. -/
  answers : List (Option String)
  deriving DecidableEq

/-- The ways in which an interview begins: there is one. -/
def start : List Path := [⟨.start .empty, []⟩]

/-- The ways in which the next question can be answered on a path. -/
def Path.next (bot : Bot) (options : Options) (question : String) (path : Path) : List Path :=
  (Session.answers bot options path.conversation question).outcomes.map
    fun (answer, conversation) => ⟨conversation, answer.answer :: path.answers⟩

/-- The ways through an interview after one more question, each once. -/
def extend (bot : Bot) (options : Options) (paths : List Path) (question : String) : List Path :=
  (paths.flatMap (Path.next bot options question)).eraseDups

/-- The ways through an interview. -/
def paths (bot : Bot) (options : Options) (questions : List String) : List Path :=
  questions.foldl (extend bot options) start

/-- An interview begins with no answers. -/
theorem mem_start_iff (path : Path) : path ∈ start ↔ path = ⟨.start .empty, []⟩ := by
  simp [start]

/-- Every way to go on with an interview is a way to answer its next question. -/
theorem mem_extend_iff (bot : Bot) (options : Options) (paths : List Path) (question : String)
    (path : Path) :
    path ∈ extend bot options paths question ↔
      ∃ earlier ∈ paths, path ∈ earlier.next bot options question := by
  simp [extend, List.mem_eraseDups]

/-! ## Single interviews -/

/-- The answers to questions that are asked one after the other in a session. -/
def askAll (bot : Bot) (session : Session) : List String → List (Option String)
  | [] => []
  | question :: questions =>
    let (answer, session) := session.ask bot question
    answer.answer :: askAll bot session questions

/-- The answers of the interview whose draws come from a seed. -/
def answersWith (bot : Bot) (options : Options) (questions : List String) (seed : Nat) :
    List (Option String) :=
  askAll bot (.new { options with seed := some seed } 0) questions

/-- What is asked in a session takes one of the ways that go on from its
conversation. -/
theorem askAll_mem_foldl (bot : Bot) (questions : List String) (session : Session)
    (ways : List Path) (path : Path) (hmem : path ∈ ways)
    (hc : path.conversation = session.conversation) :
    ∃ last ∈ questions.foldl (extend bot session.options) ways,
      last.answers.reverse = path.answers.reverse ++ askAll bot session questions := by
  induction questions generalizing session ways path with
  | nil => exact ⟨path, hmem, by simp [askAll]⟩
  | cons question questions ih =>
    let asked := session.ask bot question
    let further : Path := ⟨asked.2.conversation, asked.1.answer :: path.answers⟩
    have hnext : further ∈ extend bot session.options ways question := by
      refine (mem_extend_iff ..).2 ⟨path, hmem, ?_⟩
      refine List.mem_map.2 ⟨_, Choice.follow_mem_outcomes _ session.draws, ?_⟩
      rw [hc]
      rfl
    obtain ⟨last, hl, ha⟩ := ih asked.2 _ further hnext rfl
    refine ⟨last, hl, ?_⟩
    rw [ha]
    simp [further, asked, askAll]

/-- Every interview takes one of the ways. -/
theorem answersWith_mem_paths (bot : Bot) (options : Options) (questions : List String)
    (seed : Nat) :
    ∃ path ∈ paths bot options questions,
      path.answers.reverse = answersWith bot options questions seed :=
  askAll_mem_foldl bot questions (.new { options with seed := some seed } 0) start
    ⟨.start .empty, []⟩ ((mem_start_iff _).2 rfl) rfl

/-! ## Surveys -/

/-- Whether a list of answers comes before another or is equal to it: the first
difference counts, and no answer comes before any answer. -/
def precedes : List (Option String) → List (Option String) → Bool
  | [], _ => true
  | _ :: _, [] => false
  | none :: as, none :: bs => precedes as bs
  | none :: _, some _ :: _ => true
  | some _ :: _, none :: _ => false
  | some a :: as, some b :: bs => a < b || (a == b && precedes as bs)

/-- The lists of answers that come up in interviews with the seeds below `count`,
each once and in order. -/
def survey (bot : Bot) (options : Options) (questions : List String) (count : Nat) :
    List (List (Option String)) :=
  (((List.range count).map (answersWith bot options questions)).eraseDups).mergeSort precedes

/-- A list of answers is in a survey exactly if one of its interviews comes to
it. -/
theorem mem_survey_iff (bot : Bot) (options : Options) (questions : List String) (count : Nat)
    (answers : List (Option String)) :
    answers ∈ survey bot options questions count ↔
      ∃ seed < count, answersWith bot options questions seed = answers := by
  simp [survey, List.mem_mergeSort, List.mem_eraseDups]

end Dialogue.Interview

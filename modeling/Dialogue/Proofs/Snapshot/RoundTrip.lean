import Dialogue.Host.Command
import Dialogue.Proofs.Instant.Rfc3339
import Dialogue.Proofs.Json.Text
import Dialogue.Snapshot.Reading
import Dialogue.Snapshot.Writing

/-!
# Snapshots read back

A snapshot is found again from the text that it is written as.  The members of an object are
read one line after the other, and the variables come back in the order in which they stand.

Main results:

- Theorem `readMembers_first`, `readMembers_next`, `readMembers_end`: what is done with one line
  of a written object.
- Theorem `readVariables_writeVariables`: variables are read back.
- Theorem `read_write`: a snapshot is read back.
- Theorem `file_round_trip`: so is one that has been written to a file, a conversation that has
  been saved goes on where it was, and whatever form a file had, it is written in one form.
-/

namespace Dialogue.Snapshot

open Json

/-! ## Blanks -/

/-- Blanks are passed over up to what is not a blank. -/
theorem skipBlanks_append {blanks : List Char} (hblanks : ∀ c ∈ blanks, isJsonBlank c = true)
    {c : Char} (hc : isJsonBlank c = false) (rest : List Char) :
    skipBlanks (blanks ++ c :: rest) = c :: rest := by
  rw [skipBlanks, List.dropWhile_append_of_pos hblanks]
  exact skipBlanks_cons rest hc

/-- The beginning of a line is blank. -/
theorem isJsonBlank_of_mem_indent {count : Nat} {c : Char}
    (h : c ∈ '\n' :: List.replicate count ' ') : isJsonBlank c = true := by
  rcases List.mem_cons.1 h with rfl | h
  · rfl
  · rw [List.eq_of_mem_replicate h]
    rfl

/-- The beginning of a line is passed over. -/
theorem skipBlanks_indent (count : Nat) {c : Char} (hc : isJsonBlank c = false)
    (rest : List Char) :
    skipBlanks ('\n' :: (List.replicate count ' ' ++ c :: rest)) = c :: rest :=
  have hindent : ∀ c ∈ '\n' :: List.replicate count ' ', isJsonBlank c = true :=
    fun _ h => isJsonBlank_of_mem_indent h
  skipBlanks_append hindent hc rest

/-! ## Members -/

/-- A member on its line, with what follows it. -/
theorem writeMember_append (level : Nat) (name : String) (value rest : List Char) :
    writeMember level name value ++ rest =
      List.replicate (2 * level) ' ' ++
        '"' :: (name.toList.flatMap writeChar ++ '"' :: ':' :: ' ' :: (value ++ rest)) := by
  simp [writeMember, writeText]

/-- The key of the first member of an object. -/
theorem nextKey_first (level : Nat) (name : String) (value rest : List Char) :
    nextKey true ('\n' :: (writeMember level name value ++ rest)) =
      .ok (some name, ':' :: ' ' :: (value ++ rest)) := by
  rw [writeMember_append, nextKey, skipBlanks_indent _ rfl]
  simp [readText_writeText, Except.map]

/-- The key of a member that is not the first. -/
theorem nextKey_next (level : Nat) (name : String) (value rest : List Char) :
    nextKey false (',' :: '\n' :: (writeMember level name value ++ rest)) =
      .ok (some name, ':' :: ' ' :: (value ++ rest)) := by
  have hcomma : ∀ s, skipBlanks (',' :: s) = ',' :: s := fun s => skipBlanks_cons s rfl
  rw [writeMember_append, nextKey, hcomma]
  simp [skipBlanks_indent, isJsonBlank, readText_writeText, Except.map]

/-- The end of an object has no key. -/
theorem nextKey_end (isFirst : Bool) (count : Nat) (rest : List Char) :
    nextKey isFirst ('\n' :: (List.replicate count ' ' ++ '\x7d' :: rest)) =
      .ok (none, '\x7d' :: rest) := by
  rw [nextKey, skipBlanks_indent _ rfl]
  rfl

section Members

variable {σ : Type} {member : σ → String → List Char → Except Fault (σ × List Char)}
  {state state' : σ} {level : Nat} {name : String} {value rest : List Char}

/-- The first member of an object is read, and then the others. -/
theorem readMembers_first (fuel : Nat)
    (h : member state name (':' :: ' ' :: (value ++ rest)) = .ok (state', rest)) :
    readMembers member true state (fuel + 1) ('\n' :: (writeMember level name value ++ rest)) =
      readMembers member false state' fuel rest := by
  rw [readMembers, nextKey_first]
  simp [bind, Except.bind, h]

/-- A member of an object is read, and then the others. -/
theorem readMembers_next (level fuel : Nat)
    (h : member state name (':' :: ' ' :: (value ++ rest)) = .ok (state', rest)) :
    readMembers member false state (fuel + 1)
        (',' :: '\n' :: (writeMember level name value ++ rest)) =
      readMembers member false state' fuel rest := by
  rw [readMembers, nextKey_next]
  simp [bind, Except.bind, h]

/-- The members end before the closing brace. -/
theorem readMembers_end (isFirst : Bool) (state : σ) (fuel count : Nat) (rest : List Char) :
    readMembers member isFirst state (fuel + 1)
        ('\n' :: (List.replicate count ' ' ++ '\x7d' :: rest)) =
      .ok (state, '\x7d' :: rest) := by
  rw [readMembers, nextKey_end]
  rfl

end Members

/-- The lines of an object: all but the first have a comma before them. -/
theorem intercalate_cons {α : Type} (separator first : List α) (others : List (List α)) :
    separator.intercalate (first :: others) = first ++ others.flatMap (separator ++ ·) := by
  induction others generalizing first with
  | nil => simp [List.intercalate_singleton]
  | cons second others ih =>
    rw [List.intercalate_cons_cons, ih, List.flatMap_cons, List.append_assoc, List.append_assoc]

/-! ## Variables -/

/-- A name that comes after all the others is bound at the end. -/
theorem insertEntry_of_forall_lt {name value : String} {entries : List (String × String)}
    (h : ∀ e ∈ entries, e.1 < name) :
    Bindings.insertEntry name value entries = entries ++ [(name, value)] := by
  induction entries with
  | nil => rfl
  | cons first entries ih =>
    rcases first with ⟨key, old⟩
    have hlt : key < name := h (key, old) List.mem_cons_self
    have hnot : ¬name < key := fun h => String.lt_irrefl _ (String.lt_trans hlt h)
    have hne : name ≠ key := by
      rintro rfl
      exact String.lt_irrefl _ hlt
    rw [Bindings.insertEntry, if_neg hnot, if_neg hne,
      ih fun e he => h e (List.mem_cons_of_mem _ he), List.cons_append]

/-- The value of a written variable is read. -/
theorem readVariable_writeText (b : Bindings) (name value : String) (rest : List Char) :
    readVariable b name (':' :: ' ' :: (writeText value ++ rest)) =
      .ok (b.insert name value, rest) := by
  have hcolon : readColon (':' :: ' ' :: (writeText value ++ rest)) =
      .ok (' ' :: (writeText value ++ rest)) := rfl
  have htext := expectText_writeText "a string" value rest
  rw [readVariable, hcolon]
  simp [bind, Except.bind, pure, Except.pure, htext]

/-- The lines of variables that follow others. -/
def writeNext (entries : List (String × String)) : List Char :=
  entries.flatMap fun (name, value) => ',' :: '\n' :: writeMember 2 name (writeText value)

/-- Bindings with the same entries are equal. -/
theorem eq_of_entries_eq {a b : Bindings} (h : a.entries = b.entries) : a = b := by
  cases a
  cases b
  cases h
  rfl

/-- Variables that follow others are read one after the other, and are bound behind those that
have been read before. -/
theorem readMembers_writeNext {vars : Bindings} (rest : List Char)
    (entries : List (String × String)) :
    ∀ (b : Bindings) (fuel : Nat), vars.entries = b.entries ++ entries → entries.length < fuel →
      readMembers readVariable false b fuel
          (writeNext entries ++ '\n' :: (List.replicate 2 ' ' ++ '\x7d' :: rest)) =
        .ok (vars, '\x7d' :: rest) := by
  induction entries with
  | nil =>
    intro b fuel hvars hfuel
    rcases Nat.exists_eq_succ_of_ne_zero (Nat.ne_of_gt hfuel) with ⟨fuel, rfl⟩
    rw [List.append_nil] at hvars
    rw [eq_of_entries_eq hvars]
    exact readMembers_end false b fuel 2 rest
  | cons entry entries ih =>
    intro b fuel hvars hfuel
    rcases entry with ⟨name, value⟩
    rcases Nat.exists_eq_succ_of_ne_zero (Nat.ne_of_gt (Nat.lt_of_le_of_lt (Nat.zero_le _) hfuel))
      with ⟨fuel, rfl⟩
    have hless : entries.length < fuel := Nat.lt_of_succ_lt_succ hfuel
    have hsorted : (b.entries ++ (name, value) :: entries).Pairwise fun a b => a.1 < b.1 := by
      rw [← hvars]
      exact vars.sorted
    have hlast : (b.insert name value).entries = b.entries ++ [(name, value)] := by
      apply insertEntry_of_forall_lt
      intro e he
      exact (List.pairwise_append.1 hsorted).2.2 e he _ List.mem_cons_self
    have hvars' : vars.entries = (b.insert name value).entries ++ entries := by
      rw [hvars, hlast, List.append_assoc, List.singleton_append]
    have hvalue := readVariable_writeText b name value
      (writeNext entries ++ '\n' :: (List.replicate 2 ' ' ++ '\x7d' :: rest))
    have hstep := readMembers_next 2 fuel hvalue
    rw [ih (b.insert name value) fuel hvars' hless] at hstep
    rw [← hstep]
    simp [writeNext]

/-- Variables that are written, with what follows them. -/
theorem writeVariables_append {vars : Bindings} {name value : String}
    {entries : List (String × String)} (h : vars.entries = (name, value) :: entries)
    (rest : List Char) :
    writeVariables vars ++ rest =
      '\x7b' :: '\n' :: (writeMember 2 name (writeText value) ++
        (writeNext entries ++ '\n' :: (List.replicate 2 ' ' ++ '\x7d' :: rest))) := by
  simp [writeVariables, writeObject, h, intercalate_cons, writeNext, List.flatMap_map]

/-- There are no more variables than characters that are written for them. -/
theorem length_le_writeNext (entries : List (String × String)) :
    entries.length ≤ (writeNext entries).length := by
  induction entries with
  | nil => exact Nat.le_refl 0
  | cons entry entries ih =>
    simp only [writeNext, List.flatMap_cons, List.length_append, List.length_cons] at ih ⊢
    omega

/-- Variables are the members between two braces. -/
theorem readVariables_of_readMembers {s rest : List Char} {vars : Bindings}
    (h : readMembers readVariable true .empty (s.length + 1) s = .ok (vars, '\x7d' :: rest)) :
    readVariables (' ' :: '\x7b' :: s) = .ok (vars, rest) := by
  have hbrace : skipBlanks (' ' :: '\x7b' :: s) = '\x7b' :: s := rfl
  rw [readVariables, hbrace]
  simp only [h]
  rfl

/-- Variables are read back. -/
theorem readVariables_writeVariables (vars : Bindings) (rest : List Char) :
    readVariables (' ' :: (writeVariables vars ++ rest)) = .ok (vars, rest) := by
  cases hentries : vars.entries with
  | nil =>
    have hempty : vars = .empty := eq_of_entries_eq hentries
    rw [hempty]
    rfl
  | cons entry entries =>
    rcases entry with ⟨name, value⟩
    have hlength := length_le_writeNext entries
    rw [writeVariables_append hentries]
    apply readVariables_of_readMembers
    rw [readMembers_first _ (readVariable_writeText .empty name value _)]
    apply readMembers_writeNext rest entries _ _ hentries
    simp only [List.length_append, List.length_cons]
    omega

/-! ## Snapshots -/

/-- An instant that is written is read. -/
theorem readInstant_write (t : Instant) (rest : List Char) :
    readInstant (' ' :: (writeText t.write ++ rest)) = .ok (t, rest) := by
  rw [readInstant, expectText_writeText]
  simp [bind, Except.bind, Instant.read_write, pure, Except.pure]

/-- The lines of a snapshot after the opening brace. -/
def writeLines (s : Snapshot) : List Char :=
  '\n' :: (writeMember 1 "previous_answer" (writeText s.previousAnswer) ++
    ',' :: '\n' :: (writeMember 1 "variables" (writeVariables s.vars) ++
      ',' :: '\n' :: (writeMember 1 "saved_at" (writeText s.savedAt.write) ++
        '\n' :: (List.replicate 0 ' ' ++ ['\x7d']))))

/-- A snapshot is written line by line. -/
theorem writeChars_eq (s : Snapshot) : s.writeChars = '\x7b' :: s.writeLines := by
  simp [writeChars, writeLines, writeObject, intercalate_cons]

/-- The previous answer is read where there is none yet. -/
theorem readMember_previousAnswer {m : Members} (hnone : m.previousAnswer = none) (answer : String)
    (rest : List Char) :
    readMember m "previous_answer" (':' :: ' ' :: (writeText answer ++ rest)) =
      .ok ({ m with previousAnswer := some answer }, rest) := by
  have hcolon : readColon (':' :: ' ' :: (writeText answer ++ rest)) =
      .ok (' ' :: (writeText answer ++ rest)) := rfl
  simp [readMember, hnone, hcolon, bind, Except.bind, expectText_writeText, pure, Except.pure]

/-- The variables are read where there are none yet. -/
theorem readMember_variables {m : Members} (hnone : m.vars = none) (vars : Bindings)
    (rest : List Char) :
    readMember m "variables" (':' :: ' ' :: (writeVariables vars ++ rest)) =
      .ok ({ m with vars := some vars }, rest) := by
  have hcolon : readColon (':' :: ' ' :: (writeVariables vars ++ rest)) =
      .ok (' ' :: (writeVariables vars ++ rest)) := rfl
  simp [readMember, hnone, hcolon, bind, Except.bind, readVariables_writeVariables, pure,
    Except.pure]

/-- The instant is read where there is none yet. -/
theorem readMember_savedAt {m : Members} (hnone : m.savedAt = none) (t : Instant)
    (rest : List Char) :
    readMember m "saved_at" (':' :: ' ' :: (writeText t.write ++ rest)) =
      .ok ({ m with savedAt := some t }, rest) := by
  have hcolon : readColon (':' :: ' ' :: (writeText t.write ++ rest)) =
      .ok (' ' :: (writeText t.write ++ rest)) := rfl
  simp [readMember, hnone, hcolon, bind, Except.bind, readInstant_write, pure, Except.pure]

/-- The three members of a snapshot are read one after the other. -/
theorem readMembers_writeLines (s : Snapshot) (fuel : Nat) :
    readMembers readMember true {} (fuel + 4) s.writeLines =
      .ok (⟨some s.previousAnswer, some s.vars, some s.savedAt⟩, ['\x7d']) := by
  rw [writeLines, readMembers_first _ (readMember_previousAnswer rfl s.previousAnswer _),
    readMembers_next _ _ (readMember_variables rfl s.vars _),
    readMembers_next _ _ (readMember_savedAt rfl s.savedAt _), readMembers_end]

/-- A snapshot is read back, and nothing is left. -/
theorem readValue_writeChars (s : Snapshot) : readValue s.writeChars = .ok (s, []) := by
  have hbrace : skipBlanks ('\x7b' :: s.writeLines) = '\x7b' :: s.writeLines :=
    skipBlanks_cons _ rfl
  have hfuel : ∃ fuel, s.writeLines.length + 1 = fuel + 4 := by
    refine ⟨s.writeLines.length - 3, ?_⟩
    simp only [writeLines, List.length_append, List.length_cons]
    omega
  rcases hfuel with ⟨fuel, hfuel⟩
  have hmembers := readMembers_writeLines s fuel
  rw [← hfuel] at hmembers
  rw [writeChars_eq, readValue, hbrace]
  simp only [readObject, hmembers]
  rfl

/-- A snapshot is read back from the text that it is written as. -/
theorem read_write (s : Snapshot) : read s.write = .ok s := by
  rw [read, write, String.toList_ofList, readValue_writeChars]
  rfl

/-! ## Files -/

/-- A file holds the snapshot that its text is read as. -/
theorem ofFile_text {files : Files} {name content : String} {s : Snapshot}
    (hfile : files name = .text content) (hread : read content = .ok s) :
    ofFile files name = .ok s := by
  rw [ofFile, hfile]
  show (read content).mapError _ = _
  rw [hread]
  rfl

/-- A snapshot that has been written to a file is found in it. -/
theorem ofFile_save {folder saved : Folder} {name : String} {s : Snapshot}
    (h : folder.save name s.write = .ok saved) : ofFile saved.files name = .ok s := by
  rcases (Folder.save_eq_ok_iff folder name s.write saved).1 h with ⟨location, haccept, hsaved⟩
  have hlocation : FileLocation.ofName? name = some location :=
    (Option.filter_eq_some_iff.1 haccept).1
  have hfile : saved.files name = .text s.write := by
    rw [← hsaved]
    simp [Folder.files, hlocation]
  exact ofFile_text hfile (read_write s)

/-- A session that is saved has its snapshot written to the file. -/
theorem save_of_performWith {now : Instant} {host saved : Host} {index : Nat} {session : Session}
    {name content : String}
    (h : host.performWith now index session (.save name) = (.written content, saved)) :
    host.folder.save name (capture now session.conversation).write = .ok saved.folder := by
  unfold Host.performWith at h
  dsimp only at h
  split at h
  · rename_i folder hfolder
    rw [← (Prod.mk.inj h).2]
    exact hfolder
  · exact Reply.noConfusion (Prod.mk.inj h).1

/-- What is written to a file is found there again: the same snapshot; the variables and the
previous answer of the conversation that was saved, in whichever session it is restored; and for
a file of any form that is accepted, one text that it is written as, however often. -/
theorem file_round_trip :
    (∀ (folder saved : Folder) (name : String) (s : Snapshot),
      folder.save name s.write = .ok saved → ofFile saved.files name = .ok s) ∧
    (∀ (now later : Instant) (host saved : Host) (index other : Nat) (session resumed : Session)
        (name content : String),
      host.performWith now index session (.save name) = (.written content, saved) →
      ∃ c, saved.performWith later other resumed (.restore name) =
          (.done, saved.change other resumed c) ∧
        c.vars = session.conversation.vars ∧
        c.previousAnswer = session.conversation.previousAnswer) ∧
    (∀ (folder saved : Folder) (name other : String) (s : Snapshot),
      ofFile folder.files name = .ok s → folder.save other s.write = .ok saved →
      ∃ again, ofFile saved.files other = .ok again ∧ again.write = s.write) := by
  refine ⟨?_, ?_, ?_⟩
  · intro folder saved name s hsave
    exact ofFile_save hsave
  · intro now later host saved index other session resumed name content hsave
    have hfile := ofFile_save (save_of_performWith hsave)
    refine ⟨(capture now session.conversation).restore, ?_, rfl, rfl⟩
    simp only [Host.performWith, hfile]
  · intro folder saved name other s _ hsave
    exact ⟨s, ofFile_save hsave, rfl⟩

/-- A conversation on the second of January 2024, one hour before midday. -/
def morning : Snapshot where
  previousAnswer := "Say \"grüß\\\ngott\"\t\x1f😀"
  vars := .ofList [("b", "\x7f"), ("a", "")]
  savedAt := ⟨⟨2024, 1, 2, rfl⟩, 39600, 500000, rfl⟩

/-- The same conversation in another form: a list, with other escapes, with the variables in
another order, and by a clock that is an hour ahead. -/
def morningList : String :=
  "[\"Say \\u0022gr\\u00FC\u00df\\\\\\ngott\\\"\\t\\u001F\\ud83d\\uDE00\", \x7b\"b\": \"\x7f\"," ++
    "\"a\": \"\"\x7d , \"2024-01-02 12:00:00.00050+01:00\"]\n"

/-- The other form is read as the same snapshot. -/
theorem read_morningList : read morningList = .ok morning := by
  have hvalue : (read morningList).toOption = some morning := by decide +kernel
  generalize morning = s at hvalue ⊢
  cases hread : read morningList with
  | error fault => simp [hread, Except.toOption] at hvalue
  | ok found => simpa [hread, Except.toOption] using hvalue

/-- A folder in which the other form is kept. -/
def morningFolder : Folder where
  entries := [(⟨false, [], "old.json"⟩, .text morningList)]

/-- A session whose conversation is the one of the snapshot. -/
def morningSession : Session := (Session.new {} 0).withConversation morning.restore

/-- A host of the folder with the session. -/
def morningHost : Host where
  bot := .new .empty
  folder := morningFolder
  sessions := [morningSession]

/-- The folder after the snapshot has been written to another file. -/
def morningSaved : Folder :=
  morningFolder.putAt ⟨false, [], "new.json"⟩ (.text morning.write)

/-- The file with the other form is rewritten once and for all, and the session that is saved can
be restored. -/
theorem file_round_trip_morning :
    morningFolder.save "new.json" morning.write = .ok morningSaved ∧
    ofFile morningSaved.files "new.json" = .ok morning ∧
    ofFile morningFolder.files "old.json" = .ok morning ∧
    (∃ again, ofFile morningSaved.files "new.json" = .ok again ∧ again.write = morning.write) ∧
    (morningHost.performWith morning.savedAt 0 morningSession (.save "new.json")).1 =
      .written morning.write ∧
    ∃ c, ({ morningHost with folder := morningSaved } : Host).performWith morning.savedAt 0
        (Session.new {} 1) (.restore "new.json") =
          (.done, ({ morningHost with folder := morningSaved } : Host).change 0
            (Session.new {} 1) c) ∧
        c.vars = morning.vars ∧ c.previousAnswer = "Say \"grüß\\\ngott\"\t\x1f😀" := by
  have hsave : morningFolder.save "new.json" morning.write = .ok morningSaved := rfl
  have hold : ofFile morningFolder.files "old.json" = .ok morning :=
    ofFile_text rfl read_morningList
  have hperform : morningHost.performWith morning.savedAt 0 morningSession (.save "new.json") =
      (.written morning.write, { morningHost with folder := morningSaved }) := by
    have hfolder : morningHost.folder.save "new.json"
        (capture morning.savedAt morningSession.conversation).write = .ok morningSaved := hsave
    simp only [Host.performWith, hfolder]
    rfl
  refine ⟨hsave, file_round_trip.1 _ _ _ _ hsave, hold,
    file_round_trip.2.2 _ _ _ _ _ hold hsave, congrArg Prod.fst hperform, ?_⟩
  exact file_round_trip.2.1 _ morning.savedAt _ _ 0 0 _ (Session.new {} 1) _ _ hperform

end Dialogue.Snapshot

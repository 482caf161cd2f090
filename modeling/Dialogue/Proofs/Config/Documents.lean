import Dialogue.Config.Toml.Reader
import Dialogue.Proofs.Config.Paths
import Mathlib.Data.Option.Basic

/-!
# Names in configuration files

In the value of a configuration file no table has a name twice: a key is only
added to a table that does not have it, and a header only goes on with a table
that is there.  This holds of the tables that are built line by line and of the
values that are read at once, and wrappers do not change it.

Main results:

- Theorem `Table.Distinct.alter`: a change of a table at the end of a path keeps
  the names of all tables different.
- Theorem `readDocument_distinct`: so do all lines of a file.
- Theorem `parse?_distinct`: a configuration file has a table as its value, in which
  no table has a name twice.
-/

namespace Dialogue.Config.Toml

/-! ## Tables under construction -/

mutual

/-- In no part of a table a name stands twice. -/
inductive Table.Distinct : Table → Prop where
  | mk {origin : TableOrigin} {members : List (String × Member)} (once : NamedOnce members)
      (h : ∀ member ∈ members, member.2.Distinct) : (Table.mk origin members).Distinct

/-- In no part of what a key stands for a name stands twice. -/
inductive Member.Distinct : Member → Prop where
  | value {value : Value} (h : value.Distinct) : (Member.value value).Distinct
  | table {table : Table} (h : table.Distinct) : (Member.table table).Distinct
  | tables {last : Table} {earlier : List Table} (hlast : last.Distinct)
      (h : ∀ table ∈ earlier, table.Distinct) : (Member.tables last earlier).Distinct

end

namespace Table

/-- A table without keys has no name twice. -/
theorem Distinct.empty (origin : TableOrigin) : (Table.empty origin).Distinct :=
  .mk List.nodup_nil (by simp)

/-- What a key of a table stands for has no name twice. -/
theorem Distinct.member {t : Table} (h : t.Distinct) {key : String} {member : Member}
    (hmember : t.member? key = some member) : member.Distinct := by
  cases h with
  | mk once hmembers => exact hmembers _ (mem_of_lookup hmember)

/-- A table with a key that stands for something else has no name twice. -/
theorem Distinct.putMember {t : Table} (h : t.Distinct) (key : String) {member : Member}
    (hmember : member.Distinct) : (t.putMember key member).Distinct := by
  cases h with
  | mk once hmembers =>
    refine .mk (once.put key member) fun entry hentry => ?_
    rcases mem_put hentry with heq | hold
    · rwa [heq]
    · exact hmembers entry hold

/-- A change of a table at the end of a path keeps the names of all tables
different. -/
theorem Distinct.alter {isDotted : Bool} {change : Table → Option Table}
    (hchange : ∀ {t changed : Table}, t.Distinct → change t = some changed → changed.Distinct)
    {path : List String} {t changed : Table} (h : t.Distinct)
    (heq : t.alter isDotted change path = some changed) : changed.Distinct := by
  induction path generalizing t changed with
  | nil => exact hchange h heq
  | cons key path ih =>
    unfold Table.alter at heq
    cases hmember : t.member? key with
    | none =>
      simp only [hmember, Option.bind_eq_bind, Option.bind_eq_some_iff, Option.pure_def,
        Option.some.injEq] at heq
      obtain ⟨inner, hinner, rfl⟩ := heq
      exact h.putMember key (.table (ih (.empty _) hinner))
    | some member =>
      have hold := h.member hmember
      cases hold with
      | value => simp [hmember] at heq
      | table hold =>
        simp only [hmember, Option.bind_eq_bind, Option.pure_def, Option.ite_none_left_eq_some,
          Option.bind_eq_some_iff, Option.some.injEq] at heq
        obtain ⟨-, inner, hinner, rfl⟩ := heq
        exact h.putMember key (.table (ih hold hinner))
      | tables hlast hearlier =>
        simp only [hmember, Option.bind_eq_bind, Option.bind_eq_some_iff, Option.pure_def,
          Option.some.injEq] at heq
        obtain ⟨inner, hinner, rfl⟩ := heq
        exact h.putMember key (.tables (ih hlast hinner) hearlier)

/-- Adding a key keeps the names of all tables different. -/
theorem Distinct.addPair {t changed : Table} (h : t.Distinct) {path : List String} {key : String}
    {value : Value} (hvalue : value.Distinct) (heq : t.addPair path key value = some changed) :
    changed.Distinct := by
  refine h.alter (fun {t changed} ht hadd => ?_) heq
  unfold addKey at hadd
  split at hadd
  · cases hadd
  · split at hadd
    · cases hadd
    · cases hadd
      exact ht.putMember key (.value hvalue)

/-- Opening the table of a header keeps the names of all tables different. -/
theorem Distinct.addTable {t changed : Table} (h : t.Distinct) {path : List String} {key : String}
    (heq : t.addTable path key = some changed) : changed.Distinct := by
  refine h.alter (fun {t changed} ht hadd => ?_) heq
  split at hadd
  case h_1 =>
    cases hadd
    exact ht.putMember key (.table (.empty .header))
  case h_2 members hmember =>
    cases hadd
    cases ht.member hmember with
    | table hold =>
      cases hold with
      | mk once hmembers => exact ht.putMember key (.table (.mk once hmembers))
  case h_3 => cases hadd

/-- Opening the next table of a list keeps the names of all tables different. -/
theorem Distinct.addItem {t changed : Table} (h : t.Distinct) {path : List String} {key : String}
    (heq : t.addItem path key = some changed) : changed.Distinct := by
  refine h.alter (fun {t changed} ht hadd => ?_) heq
  split at hadd
  case h_1 =>
    cases hadd
    exact ht.putMember key (.tables (.empty .header) (by simp))
  case h_2 last earlier hmember =>
    cases hadd
    cases ht.member hmember with
    | tables hlast hearlier =>
      refine ht.putMember key (.tables (.empty .header) fun table htable => ?_)
      rcases List.mem_cons.1 htable with rfl | hold
      · exact hlast
      · exact hearlier table hold
  case h_3 => cases hadd

end Table

/-! ## Values of tables -/

/-- The keys of a table are the names of its entries. -/
theorem map_fst_membersToEntries (members : List (String × Member)) :
    (membersToEntries members).map Prod.fst = members.map Prod.fst := by
  induction members with
  | nil => rfl
  | cons member members ih => simp [membersToEntries, ih]

mutual

/-- The value of a table without repeated names has none. -/
theorem Table.Distinct.toValue : ∀ {t : Table}, t.Distinct → t.toValue.Distinct
  | .mk _ members, .mk once h => by
    rw [Table.toValue]
    refine .table ?_ (distinct_membersToEntries members h)
    unfold NamedOnce
    rw [map_fst_membersToEntries]
    exact once

/-- The value of what a key stands for has no repeated names. -/
theorem Member.Distinct.toValue : ∀ {member : Member}, member.Distinct → member.toValue.Distinct
  | .value _, .value h => by rwa [Member.toValue]
  | .table _, .table h => by
    rw [Member.toValue]
    exact h.toValue
  | .tables last earlier, .tables hlast h => by
    rw [Member.toValue]
    refine .list fun item hitem => ?_
    rcases List.mem_append.1 hitem with hearlier | hitem
    · exact distinct_tablesToValues earlier h item (List.mem_reverse.1 hearlier)
    · rw [List.mem_singleton.1 hitem]
      exact hlast.toValue

/-- The entries of a table without repeated names have values without them. -/
theorem distinct_membersToEntries : ∀ (members : List (String × Member)),
    (∀ member ∈ members, member.2.Distinct) →
      ∀ entry ∈ membersToEntries members, entry.2.Distinct
  | [], _ => by simp [membersToEntries]
  | (key, member) :: members, h => by
    obtain ⟨hfirst, hrest⟩ := List.forall_mem_cons.1 h
    rw [membersToEntries, List.forall_mem_cons]
    exact ⟨hfirst.toValue, distinct_membersToEntries members hrest⟩

/-- Tables without repeated names have values without them. -/
theorem distinct_tablesToValues : ∀ (tables : List Table),
    (∀ table ∈ tables, table.Distinct) → ∀ value ∈ tablesToValues tables, value.Distinct
  | [], _ => by simp [tablesToValues]
  | table :: tables, h => by
    obtain ⟨hfirst, hrest⟩ := List.forall_mem_cons.1 h
    rw [tablesToValues, List.forall_mem_cons]
    exact ⟨hfirst.toValue, distinct_tablesToValues tables hrest⟩

end

/-! ## Wrappers -/

/-- The names of entries stay when the values are unwrapped. -/
theorem map_fst_unwrapEntries? {entries found : Entries} (h : unwrapEntries? entries = some found) :
    found.map Prod.fst = entries.map Prod.fst := by
  induction entries generalizing found with
  | nil =>
    obtain rfl : [] = found := by simpa [unwrapEntries?] using h
    rfl
  | cons entry entries ih =>
    simp only [unwrapEntries?, Option.bind_eq_bind, Option.bind_eq_some_iff, Option.pure_def,
      Option.some.injEq] at h
    obtain ⟨content, -, rest, hrest, rfl⟩ := h
    simp [ih hrest]

mutual

/-- What a value without repeated names stands for has none. -/
theorem distinct_unwrap? : ∀ {value content : Value}, value.Distinct →
    unwrap? value = some content → content.Distinct
  | .list items, content, hdistinct, h => by
    cases hdistinct with
    | list hitems =>
      simp only [unwrap?, Option.bind_eq_bind, Option.bind_eq_some_iff, Option.pure_def,
        Option.some.injEq] at h
      obtain ⟨found, hfound, rfl⟩ := h
      exact .list (distinct_unwrapItems? hitems hfound)
  | .table entries, content, hdistinct, h => by
    cases hdistinct with
    | table once hentries =>
      simp only [unwrap?, Option.bind_eq_bind, Option.bind_eq_some_iff, Option.pure_def] at h
      obtain ⟨found, hfound, h⟩ := h
      have hvalues := distinct_unwrapEntries? hentries hfound
      split at h
      case isFalse => cases h
      rw [Option.some.injEq] at h
      subst h
      cases hcontent : found.lookup contentKey with
      | some content => exact hvalues _ (mem_of_lookup hcontent)
      | none =>
        refine .table ?_ hvalues
        unfold NamedOnce
        rw [map_fst_unwrapEntries? hfound]
        exact once
  | .text _, _, hdistinct, h | .boolean _, _, hdistinct, h | .integer _, _, hdistinct, h
  | .number, _, hdistinct, h => by
    simp only [unwrap?, Option.some.injEq] at h
    exact h ▸ hdistinct

/-- What items without repeated names stand for has none. -/
theorem distinct_unwrapItems? : ∀ {items found : List Value}, (∀ item ∈ items, item.Distinct) →
    unwrapItems? items = some found → ∀ item ∈ found, item.Distinct
  | [], _, _, h => by
    simp only [unwrapItems?, Option.some.injEq] at h
    simp [← h]
  | item :: items, _, hdistinct, h => by
    simp only [unwrapItems?, Option.bind_eq_bind, Option.bind_eq_some_iff, Option.pure_def,
      Option.some.injEq] at h
    obtain ⟨content, hcontent, rest, hrest, rfl⟩ := h
    obtain ⟨hfirst, hitems⟩ := List.forall_mem_cons.1 hdistinct
    exact List.forall_mem_cons.2
      ⟨distinct_unwrap? hfirst hcontent, distinct_unwrapItems? hitems hrest⟩

/-- What the values of entries without repeated names stand for has none. -/
theorem distinct_unwrapEntries? : ∀ {entries found : Entries},
    (∀ entry ∈ entries, entry.2.Distinct) → unwrapEntries? entries = some found →
      ∀ entry ∈ found, entry.2.Distinct
  | [], _, _, h => by
    simp only [unwrapEntries?, Option.some.injEq] at h
    simp [← h]
  | (_, value) :: entries, _, hdistinct, h => by
    simp only [unwrapEntries?, Option.bind_eq_bind, Option.bind_eq_some_iff, Option.pure_def,
      Option.some.injEq] at h
    obtain ⟨content, hcontent, rest, hrest, rfl⟩ := h
    obtain ⟨hfirst, hentries⟩ := List.forall_mem_cons.1 hdistinct
    exact List.forall_mem_cons.2
      ⟨distinct_unwrap? hfirst hcontent, distinct_unwrapEntries? hentries hrest⟩

end

/-! ## Reading values -/

/-- An integer that fits has no repeated names. -/
theorem distinct_integerOf {n : Int} {value : Value} (h : integerOf n = some value) :
    value.Distinct := by
  unfold integerOf at h
  split at h
  · cases h
    exact .integer n
  · cases h

/-- A decimal number has no repeated names. -/
theorem distinct_readDecimal {isNegative : Bool} {s rest : List Char} {value : Value}
    (h : readDecimal isNegative s = some (value, rest)) : value.Distinct := by
  unfold readDecimal at h
  simp only [Option.bind_eq_bind, Option.bind_eq_some_iff] at h
  obtain ⟨⟨digits, after⟩, -, h⟩ := h
  split at h
  case h_1 => cases h
  case h_2 =>
    split at h
    · cases h
    · cases h
      exact .number
  case h_3 =>
    simp only [Option.bind_eq_some_iff, Option.pure_def, Option.some.injEq, Prod.mk.injEq] at h
    obtain ⟨found, hfound, rfl, -⟩ := h
    exact distinct_integerOf hfound

/-- A number after its sign has no repeated names. -/
theorem distinct_readUnsigned {isNegative : Bool} {s rest : List Char} {value : Value}
    (h : readUnsigned isNegative s = some (value, rest)) : value.Distinct := by
  unfold readUnsigned at h
  split at h
  case h_1 =>
    cases h
    exact .number
  case h_2 =>
    cases h
    exact .number
  case h_3 => exact distinct_readDecimal h

/-- An integer in another base has no repeated names. -/
theorem distinct_readInBase {base : Nat} {s rest : List Char} {value : Value}
    (h : readInBase base s = some (value, rest)) : value.Distinct := by
  unfold readInBase at h
  simp only [Option.bind_eq_bind, Option.bind_eq_some_iff, Option.pure_def, Option.some.injEq,
    Prod.mk.injEq] at h
  obtain ⟨⟨digits, after⟩, -, found, hfound, rfl, -⟩ := h
  exact distinct_integerOf hfound

/-- A number has no repeated names. -/
theorem distinct_readNumber {s rest : List Char} {value : Value}
    (h : readNumber s = some (value, rest)) : value.Distinct := by
  unfold readNumber at h
  split at h
  case h_1 | h_2 | h_6 => exact distinct_readUnsigned h
  case h_3 | h_4 | h_5 => exact distinct_readInBase h

/-- A value without parts has no repeated names. -/
theorem distinct_readLeaf {s rest : List Char} {value : Value}
    (h : readLeaf s = some (value, rest)) : value.Distinct := by
  unfold readLeaf at h
  split at h
  case h_1 => cases h
  split at h
  · obtain ⟨found, -, heq⟩ := Option.map_eq_some_iff.1 h
    cases heq
    exact .text _
  · unfold readWord readNumberOrMoment at h
    split at h
    · split at h
      · cases h
        exact .boolean true
      · cases h
    · split at h
      · split at h
        · cases h
          exact .boolean false
        · cases h
      · split at h
        · obtain ⟨found, -, heq⟩ := Option.map_eq_some_iff.1 h
          cases heq
          exact .table (List.nodup_singleton _) (by simpa using Value.Distinct.text _)
        · exact distinct_readNumber h

/-- Whatever is read has no repeated names: a value, the items of a list, and a table
in braces after keys without repeated names. -/
theorem distinct_readValue (fuel : Nat) :
    (∀ {depth s value rest}, readValue depth fuel s = some (value, rest) → value.Distinct) ∧
    (∀ {depth s items rest}, readItems depth fuel s = some (items, rest) →
      ∀ item ∈ items, item.Distinct) ∧
    (∀ {depth table s found rest}, readPairs depth fuel table s = some (found, rest) →
      table.Distinct → found.Distinct) := by
  induction fuel with
  | zero =>
    refine ⟨fun h => ?_, fun h => ?_, fun h => ?_⟩
    · simp [readValue] at h
    · simp [readItems] at h
    · simp [readPairs] at h
  | succ fuel ih =>
    obtain ⟨ihValue, ihItems, ihPairs⟩ := ih
    refine ⟨fun {depth s value rest} h => ?_, fun {depth s items rest} h => ?_,
      fun {depth table s found rest} h htable => ?_⟩
    · unfold readValue at h
      split at h
      case h_1 =>
        simp only [Option.bind_eq_bind, Option.bind_eq_some_iff, Option.pure_def,
          Option.some.injEq, Prod.mk.injEq] at h
        obtain ⟨-, -, ⟨items, after⟩, hitems, rfl, -⟩ := h
        exact .list (ihItems hitems)
      case h_2 =>
        simp only [Option.bind_eq_bind, Option.bind_eq_some_iff] at h
        obtain ⟨-, -, h⟩ := h
        split at h
        · cases h
          exact .table List.nodup_nil (by simp)
        · simp only [Option.bind_eq_some_iff, Option.pure_def, Option.some.injEq,
            Prod.mk.injEq] at h
          obtain ⟨⟨table, after⟩, htable, rfl, -⟩ := h
          exact (ihPairs htable (.empty .header)).toValue
      case h_3 => exact distinct_readLeaf h
    · unfold readItems at h
      split at h
      · cases h
        simp
      · simp only [Option.bind_eq_bind, Option.bind_eq_some_iff] at h
        obtain ⟨⟨item, after⟩, hitem, h⟩ := h
        split at h
        · simp only [Option.bind_eq_some_iff, Option.pure_def, Option.some.injEq,
            Prod.mk.injEq] at h
          obtain ⟨⟨more, last⟩, hmore, rfl, -⟩ := h
          exact List.forall_mem_cons.2 ⟨ihValue hitem, ihItems hmore⟩
        · cases h
          simpa using ihValue hitem
        · cases h
    · unfold readPairs at h
      simp only [Option.bind_eq_bind, Option.bind_eq_some_iff] at h
      obtain ⟨⟨path, key, afterKey⟩, -, afterSign, -, ⟨value, after⟩, hvalue, added, hadded, h⟩ := h
      have hdistinct := htable.addPair (ihValue hvalue) hadded
      split at h
      · exact ihPairs h hdistinct
      · cases h
        exact hdistinct
      · cases h

/-! ## Reading files -/

/-- A header keeps the names of all tables different. -/
theorem distinct_readHeader {isItem : Bool} {progress next : Progress} {s rest : List Char}
    (h : readHeader isItem progress s = some (next, rest)) (hdistinct : progress.table.Distinct) :
    next.table.Distinct := by
  unfold readHeader at h
  cases isItem with
  | true =>
    simp only [if_true, Option.bind_eq_bind, Option.bind_eq_some_iff] at h
    obtain ⟨⟨path, key, afterKey⟩, -, afterMark, -, afterMarks, -, table, htable, h⟩ := h
    cases h
    exact hdistinct.addItem htable
  | false =>
    simp only [Bool.false_eq_true, if_false, Option.bind_eq_bind, Option.bind_eq_some_iff] at h
    obtain ⟨⟨path, key, afterKey⟩, -, afterMark, -, afterMarks, -, table, htable, h⟩ := h
    cases h
    exact hdistinct.addTable htable

/-- A key with a value keeps the names of all tables different. -/
theorem distinct_readPair {progress next : Progress} {s rest : List Char}
    (h : readPair progress s = some (next, rest)) (hdistinct : progress.table.Distinct) :
    next.table.Distinct := by
  unfold readPair at h
  simp only [Option.bind_eq_bind, Option.bind_eq_some_iff] at h
  obtain ⟨⟨path, key, afterKey⟩, -, afterSign, -, ⟨value, after⟩, hvalue, table, htable, h⟩ := h
  cases h
  exact hdistinct.alter (fun ht hadd => ht.addPair ((distinct_readValue _).1 hvalue) hadd) htable

/-- A line keeps the names of all tables different. -/
theorem distinct_readStatement {progress next : Progress} {s rest : List Char}
    (h : readStatement progress s = some (next, rest)) (hdistinct : progress.table.Distinct) :
    next.table.Distinct := by
  unfold readStatement at h
  split at h
  case h_1 | h_2 => exact distinct_readHeader h hdistinct
  case h_3 => exact distinct_readPair h hdistinct

/-- All lines of a file keep the names of all tables different. -/
theorem readDocument_distinct {fuel : Nat} {progress : Progress} {s : List Char} {table : Table}
    (h : readDocument progress fuel s = some table) (hdistinct : progress.table.Distinct) :
    table.Distinct := by
  induction fuel generalizing progress s with
  | zero => simp [readDocument] at h
  | succ fuel ih =>
    unfold readDocument at h
    split at h
    · cases h
      exact hdistinct
    · simp only [Option.bind_eq_bind, Option.bind_eq_some_iff] at h
      obtain ⟨⟨next, after⟩, hnext, rest, -, h⟩ := h
      exact ih h (distinct_readStatement hnext hdistinct)

/-- A configuration file has a table as its value, in which no table has a name
twice. -/
theorem parse?_distinct {text : String} {value : Value} (h : parse? text = some value) :
    value.isTable ∧ value.Distinct := by
  unfold parse? at h
  simp only [Option.bind_eq_bind, Option.bind_eq_some_iff, Option.pure_def,
    Option.some.injEq] at h
  obtain ⟨table, htable, entries, hentries, rfl⟩ := h
  have hdistinct := (readDocument_distinct htable (.empty .header)).toValue
  refine ⟨rfl, ?_⟩
  cases table with
  | mk origin members =>
    rw [Table.toValue] at hdistinct
    cases hdistinct with
    | table once hvalues =>
      refine .table ?_ (distinct_unwrapEntries? hvalues hentries)
      unfold NamedOnce
      rw [map_fst_unwrapEntries? hentries]
      exact once

end Dialogue.Config.Toml

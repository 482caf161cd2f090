import Dialogue.Config.Value
import Mathlib.Data.List.Nodup

/-!
# Paths through configuration values

A path leads through tables to a value.  What one value laid over another has at
the end of a path is what both have there, laid over each other, provided that
in the upper one nothing but tables stands on the way and no table on the way has
a name twice.  Of values that are no tables the uppermost one counts.

Main results:

- Theorem `at?_over`: what is at the end of a path after values have been laid
  over each other.
- Theorem `Value.Leads.over`: what leads through two values leads through one laid
  over the other.
- Theorem `overlay_eq_orElse`: of values that are no tables the upper one counts.
- Theorem `Value.Distinct.leads_or`: a path leads through a value without repeated
  names, or something on the way hides what is below.
-/

namespace Dialogue.Config

/-! ## Values that may be missing -/

/-- A value that may be missing laid over another one. -/
def overlay : Option Value → Option Value → Option Value
  | some value, some earlier => some (value.over earlier)
  | some value, none => some value
  | none, earlier => earlier

/-- Nothing laid over a value leaves it as it was. -/
@[simp] theorem overlay_none_left (earlier : Option Value) : overlay none earlier = earlier := rfl

/-- A value laid over nothing is there as it is. -/
@[simp] theorem overlay_none_right (value : Option Value) : overlay value none = value := by
  cases value <;> rfl

/-- There is something exactly if there is something in one of the two places. -/
theorem isSome_overlay {value earlier : Option Value} :
    (overlay value earlier).isSome ↔ value.isSome ∨ earlier.isSome := by
  cases value <;> cases earlier <;> simp [overlay]

/-- Over a table of an upper layer there is a table. -/
theorem isTable_over {value earlier : Value} : (value.over earlier).isTable = value.isTable := by
  cases value <;> cases earlier <;> rfl

/-- What lies over a value is no table if the two together are none. -/
theorem isTable_of_overlay {value : Value} {earlier : Option Value}
    (h : ∀ found ∈ overlay (some value) earlier, found.isTable = false) :
    value.isTable = false := by
  cases earlier with
  | none => exact h value rfl
  | some earlier => exact isTable_over.symm.trans (h _ rfl)

/-- Of values that are no tables the upper one counts. -/
theorem overlay_eq_orElse {value earlier : Option Value}
    (h : ∀ found ∈ overlay value earlier, found.isTable = false) :
    overlay value earlier = (value <|> earlier) := by
  cases value with
  | none => rfl
  | some value =>
    cases earlier with
    | none => rfl
    | some earlier =>
      exact congrArg some (over_of_not_table (isTable_of_overlay h) earlier)

/-! ## Entries -/

/-- No name stands twice among entries. -/
def NamedOnce {α : Type} (entries : List (String × α)) : Prop := (entries.map Prod.fst).Nodup

/-- The names of entries after one has been given a value. -/
theorem map_fst_put {α : Type} (name : String) (value : α) (entries : List (String × α)) :
    (put name value entries).map Prod.fst =
      if name ∈ entries.map Prod.fst then entries.map Prod.fst
      else entries.map Prod.fst ++ [name] := by
  induction entries with
  | nil => rfl
  | cons entry entries ih =>
    obtain ⟨key, old⟩ := entry
    by_cases hkey : name = key
    · simp [put, hkey]
    · by_cases hmem : name ∈ entries.map Prod.fst
      · rw [if_pos hmem] at ih
        simp [put, hkey, ih, hmem]
      · rw [if_neg hmem] at ih
        simp [put, hkey, ih, hmem]

/-- Giving a name a value makes no name stand twice. -/
theorem NamedOnce.put {α : Type} {entries : List (String × α)} (h : NamedOnce entries)
    (name : String) (value : α) : NamedOnce (put name value entries) := by
  unfold NamedOnce
  rw [map_fst_put]
  split
  case isTrue => exact h
  case isFalse hnew => exact h.append (List.nodup_singleton name) (by simpa using hnew)

/-- An entry after a name has been given a value has this value or was there
before. -/
theorem mem_put {α : Type} {name : String} {value : α} {entries : List (String × α)}
    {entry : String × α} (h : entry ∈ put name value entries) :
    entry.2 = value ∨ entry ∈ entries := by
  induction entries with
  | nil => exact .inl (by simp_all [Config.put])
  | cons first entries ih =>
    obtain ⟨key, old⟩ := first
    simp only [Config.put] at h
    split at h
    · rcases List.mem_cons.1 h with rfl | h
      · exact .inl rfl
      · exact .inr (List.mem_cons_of_mem _ h)
    · rcases List.mem_cons.1 h with rfl | h
      · exact .inr List.mem_cons_self
      · exact (ih h).imp_right (List.mem_cons_of_mem _)

/-- What a name stands for is the value of an entry. -/
theorem mem_of_lookup {α : Type} {name : String} {value : α} {entries : List (String × α)}
    (h : entries.lookup name = some value) : (name, value) ∈ entries := by
  obtain ⟨before, after, rfl, -⟩ := List.lookup_eq_some_iff.1 h
  simp

/-- Where no name stands twice, a name stands for the value of its entry. -/
theorem NamedOnce.lookup_eq_some_iff {α : Type} {entries : List (String × α)}
    (h : NamedOnce entries) {name : String} {value : α} :
    entries.lookup name = some value ↔ (name, value) ∈ entries := by
  refine ⟨mem_of_lookup, fun hmem => ?_⟩
  induction entries with
  | nil => simp at hmem
  | cons entry entries ih =>
    obtain ⟨key, old⟩ := entry
    obtain ⟨hkey, hrest⟩ := List.nodup_cons.1 h
    rcases List.mem_cons.1 hmem with heq | hmem
    · cases heq
      exact List.lookup_cons_self
    · have hb : (name == key) = false := by
        simpa using fun heq : name = key => hkey (heq ▸ List.mem_map.2 ⟨_, hmem, rfl⟩)
      rw [List.lookup_cons, hb]
      exact ih hrest hmem

/-- Where no name stands twice, the order of the entries does not matter. -/
theorem NamedOnce.lookup_reverse {α : Type} {entries : List (String × α)} (h : NamedOnce entries)
    (name : String) : entries.reverse.lookup name = entries.lookup name := by
  have hreverse : NamedOnce entries.reverse := by
    unfold NamedOnce
    rw [List.map_reverse]
    exact List.nodup_reverse.2 h
  ext value
  rw [hreverse.lookup_eq_some_iff, h.lookup_eq_some_iff, List.mem_reverse]

/-- What a name stands for if there is one entry. -/
theorem lookup_singleton {α : Type} (name other : String) (value : α) :
    [(name, value)].lookup other = if name = other then some value else none := by
  by_cases h : name = other
  · simp [h]
  · have hb : (other == name) = false := by simpa using Ne.symm h
    simp [List.lookup_cons, hb, h]

/-- What a name stands for after entries have been laid over earlier ones. -/
theorem lookup_entriesOver {entries : Entries} (h : NamedOnce entries) (earlier : Entries)
    (name : String) :
    (entriesOver entries earlier).lookup name =
      overlay (entries.lookup name) (earlier.lookup name) := by
  induction entries generalizing earlier with
  | nil => simp [entriesOver]
  | cons entry entries ih =>
    obtain ⟨key, value⟩ := entry
    obtain ⟨hkey, hrest⟩ := List.nodup_cons.1 h
    rw [entriesOver, ih hrest]
    by_cases hname : name = key
    · subst hname
      have hmissing : entries.lookup name = none := by
        rw [List.lookup_eq_none_iff]
        intro entry hentry
        have hne : name ≠ entry.1 := by
          rintro rfl
          exact hkey (List.mem_map.2 ⟨entry, hentry, rfl⟩)
        simpa using hne
      simp only [hmissing, lookup_put_self, List.lookup_cons_self, overlay_none_left]
      cases earlier.lookup name <;> rfl
    · have hb : (name == key) = false := by simpa
      rw [lookup_put_of_ne _ _ hname, List.lookup_cons, hb]

/-- Entries laid over earlier ones have no name twice. -/
theorem NamedOnce.entriesOver (entries : Entries) {earlier : Entries} (h : NamedOnce earlier) :
    NamedOnce (entriesOver entries earlier) := by
  induction entries generalizing earlier with
  | nil => exact h
  | cons entry entries ih => exact ih (h.put _ _)

/-! ## Paths -/

/-- The value at the end of a path through tables. -/
def Value.at? : Value → List String → Option Value
  | value, [] => some value
  | .table entries, name :: path => (entries.lookup name).bind fun value => value.at? path
  | _, _ :: _ => none

/-- At the end of an empty path is the value itself. -/
@[simp] theorem Value.at?_nil (value : Value) : value.at? [] = some value := by
  cases value <;> rfl

/-- The first step of a path through a table goes to what its name stands for. -/
@[simp] theorem Value.at?_table (entries : Entries) (name : String) (path : List String) :
    (Value.table entries).at? (name :: path) =
      (entries.lookup name).bind fun value => value.at? path := rfl

/-- At the end of a path with one step through a table is what its name stands for. -/
@[simp] theorem Value.at?_name (entries : Entries) (name : String) :
    (Value.table entries).at? [name] = entries.lookup name := by
  simp [Option.bind_fun_some]

/-- A longer path goes on from the end of its first part. -/
theorem Value.at?_append (value : Value) (path rest : List String) :
    value.at? (path ++ rest) = (value.at? path).bind fun value => value.at? rest := by
  induction path generalizing value with
  | nil => simp
  | cons name path ih =>
    cases value with
    | table entries => cases h : entries.lookup name <;> simp [h, ih]
    | _ => rfl

/-- On the way to the end of a path, as far as there is one, stand only tables,
which have no name twice. -/
def Value.Leads : Value → List String → Prop
  | _, [] => True
  | .table entries, name :: path =>
    NamedOnce entries ∧ ∀ value ∈ entries.lookup name, value.Leads path
  | _, _ :: _ => False

/-- Every value leads to the end of the empty path. -/
@[simp] theorem Value.leads_nil (value : Value) : value.Leads [] := by
  cases value <;> trivial

/-- What leads to the end of a path leads to what is one step before. -/
theorem Value.Leads.of_concat {value : Value} {path : List String} {name : String}
    (h : value.Leads (path ++ [name])) : value.Leads path := by
  induction path generalizing value with
  | nil => simp
  | cons first path ih =>
    cases value with
    | table entries => exact ⟨h.1, fun inner hinner => ih (h.2 inner hinner)⟩
    | _ => exact h.elim

/-- What leads further leads to a table in which no name stands twice. -/
theorem Value.Leads.table {value found : Value} {path : List String} {name : String}
    (h : value.Leads (path ++ [name])) (hfound : value.at? path = some found) :
    ∃ entries, found = .table entries ∧ NamedOnce entries := by
  induction path generalizing value with
  | nil =>
    rw [Value.at?_nil, Option.some.injEq] at hfound
    subst hfound
    cases value with
    | table entries => exact ⟨entries, rfl, h.1⟩
    | _ => exact h.elim
  | cons first path ih =>
    cases value with
    | table outer =>
      rw [Value.at?_table, Option.bind_eq_some_iff] at hfound
      obtain ⟨inner, hinner, hfound⟩ := hfound
      exact ih (h.2 inner hinner) hfound
    | _ => exact h.elim

/-- What is at the end of a path after values have been laid over each other. -/
theorem at?_over {value : Value} {path : List String} (h : value.Leads path) (earlier : Value) :
    (value.over earlier).at? path = overlay (value.at? path) (earlier.at? path) := by
  induction path generalizing value earlier with
  | nil => simp [overlay]
  | cons name path ih =>
    cases value with
    | table entries =>
      obtain ⟨honce, hrest⟩ := h
      cases earlier with
      | table earlier =>
        simp only [Value.over, Value.at?_table, lookup_entriesOver honce]
        cases hupper : entries.lookup name with
        | none => rfl
        | some value =>
          cases earlier.lookup name with
          | none => exact (overlay_none_right _).symm
          | some old => exact ih (hrest value hupper) old
      | _ => exact (overlay_none_right _).symm
    | _ => exact h.elim

/-- What leads through two values leads through one laid over the other. -/
theorem Value.Leads.over {value earlier : Value} {path : List String} (h : value.Leads path)
    (hearlier : earlier.Leads path) : (value.over earlier).Leads path := by
  induction path generalizing value earlier with
  | nil => simp
  | cons name path ih =>
    cases value with
    | table entries =>
      cases earlier with
      | table earlier =>
        refine ⟨hearlier.1.entriesOver entries, ?_⟩
        rw [lookup_entriesOver h.1]
        intro found hfound
        cases hupper : entries.lookup name with
        | none => exact hearlier.2 found (by simpa [hupper] using hfound)
        | some value =>
          have hvalue := h.2 value hupper
          cases hlower : earlier.lookup name with
          | none =>
            obtain rfl : value = found := by simpa [hupper, hlower] using hfound
            exact hvalue
          | some old =>
            obtain rfl : value.over old = found := by
              simpa [hupper, hlower, overlay] using hfound
            exact ih hvalue (hearlier.2 old hlower)
      | _ => exact hearlier.elim
    | _ => exact h.elim

/-! ## Values without repeated names -/

/-- In no table inside of a value a name stands twice. -/
inductive Value.Distinct : Value → Prop where
  | text (content : String) : (Value.text content).Distinct
  | boolean (value : Bool) : (Value.boolean value).Distinct
  | integer (n : Int) : (Value.integer n).Distinct
  | number : Value.number.Distinct
  | list {items : List Value} (h : ∀ item ∈ items, item.Distinct) : (Value.list items).Distinct
  | table {entries : Entries} (once : NamedOnce entries)
      (h : ∀ entry ∈ entries, entry.2.Distinct) : (Value.table entries).Distinct

/-- Through a value without repeated names a path leads, unless a value that is no
table is in its way; then it is in the way of everything below, too. -/
theorem Value.Distinct.leads_or {value : Value} (h : value.Distinct) (path : List String) :
    value.Leads path ∨
      value.at? path = none ∧ ∀ earlier : Value, (value.over earlier).at? path = none := by
  induction path generalizing value with
  | nil => exact .inl value.leads_nil
  | cons name path ih =>
    cases h with
    | table once hentries =>
      rename_i entries
      cases hfound : entries.lookup name with
      | none => exact .inl ⟨once, by simp [hfound]⟩
      | some inner =>
        rcases ih (hentries _ (mem_of_lookup hfound)) with hleads | ⟨hnone, hover⟩
        · refine .inl ⟨once, fun found hmem => ?_⟩
          obtain rfl : inner = found := by simpa [hfound] using hmem
          exact hleads
        · refine .inr ⟨by simp [hfound, hnone], fun earlier => ?_⟩
          cases earlier with
          | table earlier =>
            rw [Value.over, Value.at?_table, lookup_entriesOver once, hfound]
            cases earlier.lookup name with
            | none => exact hnone
            | some old => exact hover old
          | _ => simp [Value.over, hfound, hnone]
    | _ => exact .inr ⟨rfl, fun earlier => rfl⟩

/-- Through a table without repeated names every path with one step leads. -/
theorem Value.Distinct.leads_name {value : Value} (h : value.Distinct) (htable : value.isTable)
    (name : String) : value.Leads [name] := by
  cases h with
  | table once _ => exact ⟨once, fun inner _ => inner.leads_nil⟩
  | _ => simp [Value.isTable] at htable

/-- What is at the end of a path through a value without repeated names has none. -/
theorem Value.Distinct.at? {value found : Value} (h : value.Distinct) {path : List String}
    (hfound : value.at? path = some found) : found.Distinct := by
  induction path generalizing value with
  | nil =>
    obtain rfl : value = found := by simpa using hfound
    exact h
  | cons name path ih =>
    cases h with
    | table once hentries =>
      rw [Value.at?_table, Option.bind_eq_some_iff] at hfound
      obtain ⟨inner, hinner, hfound⟩ := hfound
      exact ih (hentries _ (mem_of_lookup hinner)) hfound
    | _ => simp [Value.at?] at hfound

/-- A table at the end of a path has no name twice. -/
def Value.OnceAt (value : Value) (path : List String) : Prop :=
  ∀ entries, value.at? path = some (.table entries) → NamedOnce entries

/-- Values laid over each other have no names twice where both have none. -/
theorem Value.OnceAt.over {value earlier : Value} {path : List String} (h : value.OnceAt path)
    (hearlier : earlier.OnceAt path) (hleads : value.Leads path) :
    (value.over earlier).OnceAt path := by
  intro entries hentries
  rw [at?_over hleads] at hentries
  cases hupper : value.at? path with
  | none =>
    rw [hupper] at hentries
    exact hearlier entries hentries
  | some upper =>
    cases hlower : earlier.at? path with
    | none =>
      rw [hupper, hlower] at hentries
      exact h entries (hupper.trans hentries)
    | some lower =>
      rw [hupper, hlower, overlay, Option.some.injEq] at hentries
      cases upper with
      | table upper =>
        cases lower with
        | table lower =>
          cases hentries
          exact (hearlier lower hlower).entriesOver upper
        | _ => exact h entries (hupper.trans (congrArg some hentries))
      | _ => cases hentries

end Dialogue.Config

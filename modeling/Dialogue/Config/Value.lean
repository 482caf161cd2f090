/-!
# Configuration values

A configuration is made of layers, each a tree of tables with texts, numbers and
lists at its leaves.  A later layer is laid over an earlier one: tables are
joined name by name, and any other value replaces what was there.

Main results:

- `lookup_put_self`, `lookup_put_of_ne`: what a name stands for in a list of
  entries after one name has been given a value.
- `over_of_not_table`: a value that is no table replaces what was there.
-/

namespace Dialogue.Config

/-- A value of a configuration. -/
inductive Value where
  | text (content : String)
  | boolean (value : Bool)
  | integer (value : Int)
  /-- A number that is not written as an integer. -/
  | number
  | list (items : List Value)
  | table (entries : List (String × Value))

/-- The names of a table with their values. -/
abbrev Entries := List (String × Value)

/-! ## Entries -/

/-- The entries with a value for a name, whether it had one before or not. -/
def put {α : Type} (name : String) (value : α) : List (String × α) → List (String × α)
  | [] => [(name, value)]
  | (key, old) :: entries =>
    if name = key then (key, value) :: entries else (key, old) :: put name value entries

/-- A name that has been given a value has it. -/
@[simp] theorem lookup_put_self {α : Type} (name : String) (value : α)
    (entries : List (String × α)) : (put name value entries).lookup name = some value := by
  induction entries with
  | nil => simp [put]
  | cons entry entries ih =>
    obtain ⟨key, old⟩ := entry
    simp only [put]
    split
    · simp [*]
    · have : (name == key) = false := by simpa
      simp [List.lookup_cons, this, ih]

/-- Giving a name a value leaves the other names alone. -/
theorem lookup_put_of_ne {α : Type} {name other : String} (value : α)
    (entries : List (String × α)) (hne : other ≠ name) :
    (put name value entries).lookup other = entries.lookup other := by
  have hb : (other == name) = false := by simpa
  induction entries with
  | nil => simp [put, List.lookup_cons, hb]
  | cons entry entries ih =>
    obtain ⟨key, old⟩ := entry
    simp only [put]
    split
    · rename_i h
      subst h
      simp [List.lookup_cons, hb]
    · simp [List.lookup_cons, ih]

/-! ## Layers -/

mutual

/-- A value laid over an earlier one. -/
def Value.over : Value → Value → Value
  | .table entries, .table earlier => .table (entriesOver entries earlier)
  | value, _ => value

/-- The entries of a table laid over those of an earlier one. -/
def entriesOver : Entries → Entries → Entries
  | [], earlier => earlier
  | (name, value) :: entries, earlier =>
    let joined :=
      match earlier.lookup name with
      | some old => value.over old
      | none => value
    entriesOver entries (put name joined earlier)

end

/-- Whether a value is a table. -/
def Value.isTable : Value → Bool
  | table _ => true
  | _ => false

/-- A value that is no table replaces what was there. -/
theorem over_of_not_table {value : Value} (h : value.isTable = false) (earlier : Value) :
    value.over earlier = value := by
  cases value <;> simp_all [Value.over, Value.isTable]

end Dialogue.Config

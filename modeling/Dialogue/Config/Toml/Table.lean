import Dialogue.Config.Value

/-!
# Tables under construction

A configuration file builds its tables line by line: by headers, by headers of
lists of tables, and by keys with dots.  A table remembers how it has come
about, because that decides who may still add to it.

Main results:

- `addPair_nil_isSome_iff`: a key without dots can be added exactly if it is new
  and the table has not been made by dots.
-/

namespace Dialogue.Config.Toml

/-! ## Tables -/

/-- How a table has come about. -/
inductive TableOrigin where
  /-- By a header of its own, or as the whole file, or in braces. -/
  | header
  /-- As a part of the header of another table. -/
  | implied
  /-- By a key with dots. -/
  | dotted
  deriving DecidableEq, Repr

mutual

/-- A table under construction. -/
inductive Table where
  | mk (origin : TableOrigin) (members : List (String × Member))

/-- What a key of a table stands for. -/
inductive Member where
  | value (value : Value)
  | table (table : Table)
  /-- A list of tables with headers, of which the last is still built. -/
  | tables (last : Table) (earlier : List Table)

end

namespace Table

/-- How a table has come about. -/
def origin : Table → TableOrigin
  | mk origin _ => origin

/-- The keys of a table and what they stand for. -/
def members : Table → List (String × Member)
  | mk _ members => members

/-- A table without keys. -/
def empty (origin : TableOrigin) : Table := mk origin []

/-- What a key of a table stands for. -/
def member? (t : Table) (key : String) : Option Member := t.members.lookup key

/-- The table in which a key stands for something. -/
def putMember (t : Table) (key : String) (member : Member) : Table :=
  mk t.origin (put key member t.members)

/-! ## Adding -/

/-- Changes the table at the end of a path, on which missing tables are made.  On
a path with dots, tables with headers of their own are closed. -/
def alter (isDotted : Bool) (change : Table → Option Table) : List String → Table → Option Table
  | [], t => change t
  | key :: path, t =>
    match t.member? key with
    | none => do
      let fresh := empty (if isDotted then .dotted else .implied)
      return t.putMember key (.table (← alter isDotted change path fresh))
    | some (.value _) => none
    | some (.table inner) =>
      if isDotted && inner.origin == .header then none
      else do return t.putMember key (.table (← alter isDotted change path inner))
    | some (.tables last earlier) => do
      return t.putMember key (.tables (← alter isDotted change path last) earlier)

/-- Adds a key, unless it is there.  A table made by dots is open only to keys
with dots, and only such a table is open to them. -/
def addKey (isDotted : Bool) (key : String) (value : Value) (t : Table) : Option Table :=
  if (t.origin == .dotted) != isDotted then none
  else
    match t.member? key with
    | some _ => none
    | none => some (t.putMember key (.value value))

/-- Adds a value under a path of keys, of which `key` is the last. -/
def addPair (path : List String) (key : String) (value : Value) (t : Table) : Option Table :=
  t.alter true (addKey (!path.isEmpty) key value) path

/-- Opens the table of a header, whose last key is `key`. -/
def addTable (path : List String) (key : String) (t : Table) : Option Table :=
  t.alter false (fun parent =>
    match parent.member? key with
    | none => some (parent.putMember key (.table (empty .header)))
    | some (.table (mk .implied members)) =>
      some (parent.putMember key (.table (mk .header members)))
    | some _ => none) path

/-- Opens the next table of a list of tables, whose header has `key` as its last
key. -/
def addItem (path : List String) (key : String) (t : Table) : Option Table :=
  t.alter false (fun parent =>
    match parent.member? key with
    | none => some (parent.putMember key (.tables (empty .header) []))
    | some (.tables last earlier) =>
      some (parent.putMember key (.tables (empty .header) (last :: earlier)))
    | some _ => none) path

/-- A key without dots can be added exactly if it is new and the table has not
been made by dots. -/
theorem addPair_nil_isSome_iff (key : String) (value : Value) (t : Table) :
    (t.addPair [] key value).isSome ↔ t.origin ≠ .dotted ∧ (t.member? key).isNone := by
  unfold addPair alter addKey
  cases t.member? key <;> cases h : t.origin <;> simp

end Table

/-! ## Values -/

mutual

/-- The value that a table stands for. -/
def Table.toValue : Table → Value
  | .mk _ members => .table (membersToEntries members)

/-- The value that a key stands for. -/
def Member.toValue : Member → Value
  | .value value => value
  | .table table => table.toValue
  | .tables last earlier => .list ((tablesToValues earlier).reverse ++ [last.toValue])

/-- The entries that the keys of a table stand for. -/
def membersToEntries : List (String × Member) → Entries
  | [] => []
  | (key, member) :: members => (key, member.toValue) :: membersToEntries members

/-- The values that tables stand for. -/
def tablesToValues : List Table → List Value
  | [] => []
  | table :: tables => table.toValue :: tablesToValues tables

end

/-- The entries of a table. -/
def Table.entries (t : Table) : Entries := membersToEntries t.members

end Dialogue.Config.Toml

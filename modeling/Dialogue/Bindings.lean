/-!
# Bindings

A finite map from names to texts, used for the attributes of a bot and for the
variables of a conversation.  Its entries stand in the order of their names, so
that two bindings with the same contents are equal.

Main results:

- `get?_insert_self`, `get?_insert_of_ne`: what a name stands for after one
  name has been bound.
- `get?_erase_self`, `get?_erase_of_ne`: the same after a name has been removed.
- `ext_get?`: bindings that agree on every name are equal.
-/

namespace Dialogue

/-- A finite map from names to texts. -/
structure Bindings where
  /-- The names and what they stand for, in the order of the names. -/
  entries : List (String × String)
  sorted : entries.Pairwise fun a b => a.1 < b.1
  deriving DecidableEq

namespace Bindings

/-! ## Operations -/

/-- The bindings without names. -/
def empty : Bindings := ⟨[], .nil⟩

/-- What a name stands for in a list of entries. -/
def lookupEntry (name : String) : List (String × String) → Option String
  | [] => none
  | (key, value) :: entries => if name = key then some value else lookupEntry name entries

/-- What a name stands for. -/
def get? (b : Bindings) (name : String) : Option String := lookupEntry name b.entries

/-- What a name stands for, or the empty text. -/
def get (b : Bindings) (name : String) : String := (b.get? name).getD ""

/-- The entries with one name bound. -/
def insertEntry (name value : String) : List (String × String) → List (String × String)
  | [] => [(name, value)]
  | (key, old) :: entries =>
    if name < key then (name, value) :: (key, old) :: entries
    else if name = key then (name, value) :: entries
    else (key, old) :: insertEntry name value entries

/-- Every entry after a name has been bound is the new one or an old one. -/
theorem mem_insertEntry {name value : String} {entries : List (String × String)}
    {e : String × String} (h : e ∈ insertEntry name value entries) :
    e = (name, value) ∨ e ∈ entries := by
  induction entries with
  | nil => simpa [insertEntry] using h
  | cons first entries ih =>
    simp only [insertEntry] at h
    split at h
    · simpa using h
    · split at h <;> grind

/-- Binding a name keeps the order. -/
theorem sorted_insertEntry {entries : List (String × String)} (name value : String)
    (h : entries.Pairwise fun a b => a.1 < b.1) :
    (insertEntry name value entries).Pairwise fun a b => a.1 < b.1 := by
  induction entries with
  | nil => simp [insertEntry]
  | cons first entries ih =>
    obtain ⟨key, old⟩ := first
    rw [List.pairwise_cons] at h
    simp only [insertEntry]
    split
    · rename_i hlt
      refine List.pairwise_cons.2 ⟨fun e he => ?_, List.pairwise_cons.2 h⟩
      rcases List.mem_cons.1 he with rfl | he
      · exact hlt
      · exact String.lt_trans hlt (h.1 e he)
    · split
      · rename_i heq
        exact List.pairwise_cons.2 ⟨fun e he => heq ▸ h.1 e he, h.2⟩
      · rename_i hlt hne
        refine List.pairwise_cons.2 ⟨fun e he => ?_, ih h.2⟩
        rcases mem_insertEntry he with rfl | he
        · grind
        · exact h.1 e he

/-- The bindings with one name bound, whether it was bound before or not. -/
def insert (b : Bindings) (name value : String) : Bindings :=
  ⟨insertEntry name value b.entries, sorted_insertEntry name value b.sorted⟩

/-- The bindings without a name. -/
def erase (b : Bindings) (name : String) : Bindings :=
  ⟨b.entries.filter (·.1 ≠ name), b.sorted.filter _⟩

/-- The bindings of a list; of several entries for a name the last counts. -/
def ofList (entries : List (String × String)) : Bindings :=
  entries.foldl (fun b (name, value) => b.insert name value) empty

/-- The bindings of `b` together with those of a list, which win. -/
def insertAll (b : Bindings) (entries : List (String × String)) : Bindings :=
  entries.foldl (fun b (name, value) => b.insert name value) b

/-! ## What a name stands for -/

/-- A name that has just been bound stands for its value. -/
@[simp] theorem get?_insert_self (b : Bindings) (name value : String) :
    (b.insert name value).get? name = some value := by
  obtain ⟨entries, h⟩ := b
  simp only [get?, insert]
  clear h
  induction entries with
  | nil => simp [insertEntry, lookupEntry]
  | cons first entries ih => grind [insertEntry, lookupEntry]

/-- Binding a name leaves the others alone. -/
theorem get?_insert_of_ne (b : Bindings) {name other : String} (value : String)
    (hne : other ≠ name) : (b.insert name value).get? other = b.get? other := by
  obtain ⟨entries, h⟩ := b
  simp only [get?, insert]
  clear h
  induction entries with
  | nil => simp [insertEntry, lookupEntry, hne]
  | cons first entries ih => grind [insertEntry, lookupEntry]

/-- A name that has been removed stands for nothing. -/
@[simp] theorem get?_erase_self (b : Bindings) (name : String) :
    (b.erase name).get? name = none := by
  obtain ⟨entries, h⟩ := b
  simp only [get?, erase]
  clear h
  induction entries with
  | nil => rfl
  | cons first entries ih => grind [lookupEntry]

/-- Removing a name leaves the others alone. -/
theorem get?_erase_of_ne (b : Bindings) {name other : String} (hne : other ≠ name) :
    (b.erase name).get? other = b.get? other := by
  obtain ⟨entries, h⟩ := b
  simp only [get?, erase]
  clear h
  induction entries with
  | nil => rfl
  | cons first entries ih => grind [lookupEntry]

/-! ## Equality -/

/-- A name that is smaller than all names of a list is not bound by it. -/
theorem lookupEntry_eq_none {entries : List (String × String)} {name : String}
    (h : ∀ e ∈ entries, name < e.1) : lookupEntry name entries = none := by
  induction entries with
  | nil => rfl
  | cons first entries ih =>
    have := h first List.mem_cons_self
    have hne : name ≠ first.1 := fun heq => String.lt_irrefl name (heq ▸ this)
    simp [lookupEntry, hne, ih fun e he => h e (List.mem_cons_of_mem first he)]

/-- Sorted lists of entries that agree on every name are equal. -/
theorem eq_of_lookupEntry {as bs : List (String × String)}
    (ha : as.Pairwise fun a b => a.1 < b.1) (hb : bs.Pairwise fun a b => a.1 < b.1)
    (h : ∀ name, lookupEntry name as = lookupEntry name bs) : as = bs := by
  induction as generalizing bs with
  | nil =>
    cases bs with
    | nil => rfl
    | cons b bs => simpa [lookupEntry] using h b.1
  | cons a as ih =>
    cases bs with
    | nil => simpa [lookupEntry] using h a.1
    | cons b bs =>
      rw [List.pairwise_cons] at ha hb
      have key : a.1 = b.1 := by
        have h1 := h a.1
        have h2 := h b.1
        have h3 : a.1 < b.1 → lookupEntry a.1 bs = none := fun hlt =>
          lookupEntry_eq_none fun e he => String.lt_trans hlt (hb.1 e he)
        have h4 : b.1 < a.1 → lookupEntry b.1 as = none := fun hlt =>
          lookupEntry_eq_none fun e he => String.lt_trans hlt (ha.1 e he)
        grind [lookupEntry]
      have value : a.2 = b.2 := by
        have := h a.1
        simpa [lookupEntry, key] using this
      have rest : as = bs := by
        refine ih ha.2 hb.2 fun name => ?_
        by_cases hn : name = a.1
        · rw [hn, lookupEntry_eq_none ha.1, key, lookupEntry_eq_none hb.1]
        · have := h name
          simpa [lookupEntry, hn, ← key] using this
      rw [rest, Prod.ext key value]

/-- Bindings that agree on every name are equal. -/
theorem ext_get? {a b : Bindings} (h : ∀ name, a.get? name = b.get? name) : a = b := by
  obtain ⟨as, ha⟩ := a
  obtain ⟨bs, hb⟩ := b
  have : as = bs := eq_of_lookupEntry ha hb h
  subst this
  rfl

end Bindings

end Dialogue

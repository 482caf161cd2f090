import Dialogue.Config.Value

/-!
# Wrappers

In a configuration file a table can be a wrapper: one of its entries has a
reserved name, and the table stands for the value of this entry.  A second
reserved name, for the identity of a value, may not be used in a file at all.

Main results:

- `unwrap?_wrap`: a wrapper stands for what its content stands for.
- `unwrap?_of_unwrap?`: in what a value stands for there are no wrappers left.
-/

namespace Dialogue.Config.Toml

/-! ## Reserved names -/

/-- The name of the entry for which a wrapper stands. -/
def contentKey : String := "___figment_value_value"

/-- The name that no table inside of a file may have. -/
def identityKey : String := "___figment_value_id"

/-! ## Unwrapping -/

mutual

/-- What a value inside of a file stands for, unless it has a name in it that is
forbidden.  The entries of a wrapper beside its content do not matter. -/
def unwrap? : Value → Option Value
  | .list items => do return .list (← unwrapItems? items)
  | .table entries => do
    let entries ← unwrapEntries? entries
    if (entries.lookup identityKey).isNone then
      return (entries.lookup contentKey).getD (.table entries)
    else none
  | value => some value

/-- What the items of a list stand for. -/
def unwrapItems? : List Value → Option (List Value)
  | [] => some []
  | item :: items => do return (← unwrap? item) :: (← unwrapItems? items)

/-- The entries with what their values stand for. -/
def unwrapEntries? : Entries → Option Entries
  | [] => some []
  | (name, value) :: entries => do
    return (name, ← unwrap? value) :: (← unwrapEntries? entries)

end

/-! ## Wrapping -/

/-- A wrapper of a value. -/
def wrap (value : Value) : Value := .table [(contentKey, value)]

/-- A wrapper stands for what its content stands for. -/
theorem unwrap?_wrap (value : Value) : unwrap? (wrap value) = unwrap? value := by
  have hne : (identityKey == contentKey) = false := by decide
  simp only [wrap, unwrap?, unwrapEntries?]
  cases unwrap? value with
  | none => rfl
  | some content =>
    have hlookup : ([(contentKey, content)] : Entries).lookup identityKey = none := by
      simp only [List.lookup_cons, hne, List.lookup_nil]
    simp only [Option.pure_def, Option.bind_eq_bind, Option.bind_some, hlookup]
    rfl

/-! ## What is left -/

/-- A value among unwrapped entries is what a value of the entries stands for. -/
theorem lookup_unwrapEntries? {name : String} {value : Value} :
    ∀ {entries found : Entries}, unwrapEntries? entries = some found →
      entries.lookup name = some value →
      ∃ content, unwrap? value = some content ∧ found.lookup name = some content
  | [], _, _, hv => by simp at hv
  | (key, old) :: entries, found, h, hv => by
    simp only [unwrapEntries?, Option.bind_eq_bind, Option.bind_eq_some_iff, Option.pure_def,
      Option.some.injEq] at h
    obtain ⟨content, hc, rest, hr, rfl⟩ := h
    by_cases hk : name = key
    · subst hk
      simp only [List.lookup_cons, BEq.rfl, Option.some.injEq] at hv ⊢
      subst hv
      exact ⟨content, hc, rfl⟩
    · have hb : (name == key) = false := by simpa
      simp only [List.lookup_cons, hb] at hv ⊢
      exact lookup_unwrapEntries? hr hv

mutual

/-- In what a value stands for there are no wrappers left. -/
theorem unwrap?_of_unwrap? :
    ∀ {value content : Value}, unwrap? value = some content → unwrap? content = some content
  | .list items, content, h => by
    simp only [unwrap?, Option.bind_eq_bind, Option.bind_eq_some_iff, Option.pure_def,
      Option.some.injEq] at h
    obtain ⟨found, hf, rfl⟩ := h
    simp [unwrap?, unwrapItems?_of_unwrapItems? hf]
  | .table entries, content, h => by
    simp only [unwrap?, Option.bind_eq_bind, Option.bind_eq_some_iff, Option.pure_def] at h
    obtain ⟨found, hf, h⟩ := h
    split at h
    case isFalse => cases h
    rename_i hguard
    rw [Option.some.injEq] at h
    subst h
    have hfound := unwrapEntries?_of_unwrapEntries? hf
    cases hc : found.lookup contentKey with
    | none => simp [unwrap?, hfound, hguard, hc]
    | some content =>
      obtain ⟨again, ha, hl⟩ := lookup_unwrapEntries? hfound hc
      simp_all
  | .text _, _, h | .boolean _, _, h | .integer _, _, h | .number, _, h => by
    simp only [unwrap?, Option.some.injEq] at h
    subst h
    simp [unwrap?]

/-- In what the items of a list stand for there are no wrappers left. -/
theorem unwrapItems?_of_unwrapItems? :
    ∀ {items found : List Value}, unwrapItems? items = some found →
      unwrapItems? found = some found
  | [], _, h => by simp_all [unwrapItems?]
  | item :: items, _, h => by
    simp only [unwrapItems?, Option.bind_eq_bind, Option.bind_eq_some_iff, Option.pure_def,
      Option.some.injEq] at h
    obtain ⟨content, hc, rest, hr, rfl⟩ := h
    simp [unwrapItems?, unwrap?_of_unwrap? hc, unwrapItems?_of_unwrapItems? hr]

/-- In what entries stand for there are no wrappers left. -/
theorem unwrapEntries?_of_unwrapEntries? :
    ∀ {entries found : Entries}, unwrapEntries? entries = some found →
      unwrapEntries? found = some found
  | [], _, h => by simp_all [unwrapEntries?]
  | (_, value) :: entries, _, h => by
    simp only [unwrapEntries?, Option.bind_eq_bind, Option.bind_eq_some_iff, Option.pure_def,
      Option.some.injEq] at h
    obtain ⟨content, hc, rest, hr, rfl⟩ := h
    simp [unwrapEntries?, unwrap?_of_unwrap? hc, unwrapEntries?_of_unwrapEntries? hr]

end

end Dialogue.Config.Toml

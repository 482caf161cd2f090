import Dialogue.Json.Reader

/-!
# JSON texts read back

A text is found again from its JSON form, whatever characters are in it.

Main results:

- Theorem `readEscape_letter`, `readEscape_control`: an escape that is written is read back.
- Theorem `readRest_writeChar`: reading takes one step for each character that is written.
- Theorem `readText_writeText`, `expectText_writeText`: a text is read back, up to its closing
  quotation mark.
-/

namespace Dialogue.Json

/-! ## Escapes -/

/-- The letter of a written escape is among those that are read, with the same meaning. -/
theorem readEscapes_lookup_letter {c letter : Char} (h : letterEscapes.lookup c = some letter) :
    readEscapes.lookup letter = some c ∧ letter ≠ 'u' := by
  have hall : ∀ entry ∈ letterEscapes,
      readEscapes.lookup entry.2 = some entry.1 ∧ entry.2 ≠ 'u' := by decide
  rcases List.lookup_eq_some_iff.1 h with ⟨before, after, hentries, _⟩
  have hmem : (c, letter) ∈ letterEscapes := by
    rw [hentries]
    exact List.mem_append_right before List.mem_cons_self
  exact hall (c, letter) hmem

/-- An escape with a letter of its own is read back. -/
theorem readEscape_letter {c letter : Char} (h : letterEscapes.lookup c = some letter)
    (rest : List Char) : readEscape (letter :: rest) = .ok (c, rest) := by
  rcases readEscapes_lookup_letter h with ⟨hlookup, hletter⟩
  unfold readEscape
  split
  · rename_i heq
    cases heq
  · rename_i heq
    exact absurd (List.cons.inj heq).1 hletter
  · rename_i heq
    cases heq
    rw [hlookup]

/-- The four digits of a control character have its number as their value. -/
theorem hexValue?_control {n : Nat} (h : n < 0x20) :
    hexValue? ['0', '0', hexDigit (n / 16), hexDigit (n % 16)] = some n := by
  have hall : ∀ m < 0x20, hexValue? ['0', '0', hexDigit (m / 16), hexDigit (m % 16)] = some m := by
    decide
  exact hall n h

/-- A control character that is written by its number is read back. -/
theorem readEscape_control {c : Char} (h : c.toNat < 0x20) (rest : List Char) :
    readEscape ('u' :: '0' :: '0' :: hexDigit (c.toNat / 16) :: hexDigit (c.toNat % 16) :: rest) =
      .ok (c, rest) := by
  have hvalue := hexValue?_control h
  have hhigh : ¬(0xDC00 ≤ c.toNat ∧ c.toNat ≤ 0xDFFF) := by omega
  have hlow : c.toNat < 0xD800 ∨ 0xDBFF < c.toNat := by omega
  simp only [readEscape, readHex, hvalue, bind, Except.bind, readSurrogate]
  rw [if_neg hhigh, if_pos hlow, Char.ofNat_toNat]

/-! ## Texts -/

/-- Reading takes one step for each character that is written. -/
theorem readRest_writeChar (seen : List Char) (fuel : Nat) (c : Char) (rest : List Char) :
    readRest seen (fuel + 1) (writeChar c ++ rest) = readRest (c :: seen) fuel rest := by
  unfold writeChar
  cases hlookup : letterEscapes.lookup c with
  | some letter =>
    have hread := readEscape_letter hlookup rest
    simp [readRest, hread, bind, Except.bind]
  | none =>
    by_cases hcontrol : c.toNat < 0x20
    · have hread := readEscape_control hcontrol rest
      simp [hcontrol, readRest, hread, bind, Except.bind]
    · have hquote : c ≠ '"' := by
        rintro rfl
        cases hlookup
      have hbackslash : c ≠ '\\' := by
        rintro rfl
        cases hlookup
      simp [hcontrol, readRest, hquote, hbackslash]

/-- The characters of a text are read back, up to the quotation mark behind them. -/
theorem readRest_flatMap_writeChar (text rest : List Char) :
    ∀ (seen : List Char) (fuel : Nat), text.length < fuel →
      readRest seen fuel (text.flatMap writeChar ++ '"' :: rest) =
        .ok (seen.reverse ++ text, rest) := by
  induction text with
  | nil =>
    intro seen fuel hfuel
    rcases Nat.exists_eq_succ_of_ne_zero (Nat.ne_of_gt hfuel) with ⟨fuel, rfl⟩
    simp [readRest]
  | cons c text ih =>
    intro seen fuel hfuel
    rcases Nat.exists_eq_succ_of_ne_zero (Nat.ne_of_gt (Nat.lt_of_le_of_lt (Nat.zero_le _) hfuel))
      with ⟨fuel, rfl⟩
    have hless : text.length < fuel := Nat.lt_of_succ_lt_succ hfuel
    rw [List.flatMap_cons, List.append_assoc, readRest_writeChar, ih (c :: seen) fuel hless]
    simp

/-- Nothing is written as nothing. -/
theorem length_writeChar_pos (c : Char) : 1 ≤ (writeChar c).length := by
  unfold writeChar
  split
  · exact Nat.le_add_left 1 1
  · split <;> exact Nat.le_add_left 1 _

/-- A text does not become shorter where it is written. -/
theorem length_le_flatMap_writeChar (text : List Char) :
    text.length ≤ (text.flatMap writeChar).length := by
  induction text with
  | nil => exact Nat.le_refl 0
  | cons c text ih =>
    have hc := length_writeChar_pos c
    rw [List.flatMap_cons, List.length_append, List.length_cons]
    omega

/-- A text is read back after its opening quotation mark. -/
theorem readText_writeText (s : String) (rest : List Char) :
    readText (s.toList.flatMap writeChar ++ '"' :: rest) = .ok (s, rest) := by
  have hlength := length_le_flatMap_writeChar s.toList
  have hread := readRest_flatMap_writeChar s.toList rest []
    ((s.toList.flatMap writeChar ++ '"' :: rest).length + 1)
    (by rw [List.length_append]; omega)
  rw [readText, hread]
  simp [bind, Except.bind, pure, Except.pure]

/-- A text that is written begins with a quotation mark. -/
theorem writeText_append (s : String) (rest : List Char) :
    writeText s ++ rest = '"' :: (s.toList.flatMap writeChar ++ '"' :: rest) := by
  simp [writeText]

/-- A text is read back where a text is expected, after the blank in front of it. -/
theorem expectText_writeText (expected s : String) (rest : List Char) :
    expectText expected (' ' :: (writeText s ++ rest)) = .ok (s, rest) := by
  have hskip : skipBlanks (' ' :: (writeText s ++ rest)) =
      '"' :: (s.toList.flatMap writeChar ++ '"' :: rest) := by
    rw [writeText_append]
    rfl
  rw [expectText, hskip]
  exact readText_writeText s rest

end Dialogue.Json

import Dialogue.Instant.Rfc3339
import Dialogue.Proofs.Decimal.Digits

/-!
# Instants read back

An instant is found again from the text that it is written as: every year of the calendar,
with a sign or without, every fraction of a second, and leap seconds.

Main results:

- Theorem `readYear_writeYear`: a year is read back up to the hyphen behind it.
- Theorem `readFraction_writeFraction`: so is a fraction, up to the letter behind it.
- Theorem `read_write`: an instant is read back.
-/

namespace Dialogue.Instant

open Decimal (ofDigits padded paddedDigits)
open Text

/-! ## Numbers -/

/-- A digit is not blank. -/
theorem isBlank_of_isDigit {c : Char} (h : c.isDigit = true) : isBlank c = false := by
  simp only [Char.isDigit, Bool.and_eq_true, decide_eq_true_eq, UInt32.le_iff_toNat_le] at h
  have hlow : 48 ≤ c.toNat := h.1
  have hhigh : c.toNat ≤ 57 := h.2
  have hspace : c ≠ ' ' := by
    rintro rfl
    exact absurd hlow (by decide)
  have hcontrol : ¬c ≤ '\r' := by
    intro hle
    have hbelow : c.toNat ≤ 13 := UInt32.le_iff_toNat_le.1 hle
    omega
  have hrare : ¬0x80 ≤ c.toNat := by omega
  simp [isBlank, hspace, hcontrol, hrare]

/-- A text that begins with a number begins with a digit. -/
theorem isDigit_of_paddedDigits_append {width n : Nat} {rest s : List Char} {c : Char}
    (h : paddedDigits width n ++ rest = c :: s) : c.isDigit = true := by
  rcases List.exists_cons_of_ne_nil (Decimal.paddedDigits_ne_nil width n) with
    ⟨first, digits, hcons⟩
  have hmem : first ∈ paddedDigits width n := by
    rw [hcons]
    exact List.mem_cons_self
  rw [hcons, List.cons_append] at h
  rw [← (List.cons.inj h).1]
  exact Decimal.isDigit_of_mem_paddedDigits hmem

/-- Nothing is passed over in front of a number. -/
theorem dropWhile_isBlank_paddedDigits (width n : Nat) (rest : List Char) :
    (paddedDigits width n ++ rest).dropWhile isBlank = paddedDigits width n ++ rest := by
  cases htext : paddedDigits width n ++ rest with
  | nil => rfl
  | cons c s =>
    have hc : isBlank c = false := isBlank_of_isDigit (isDigit_of_paddedDigits_append htext)
    exact List.dropWhile_cons_of_neg (by simp [hc])

/-- The digits of a number are read up to what is not a digit. -/
theorem readDigits_paddedDigits {bound : Option Nat} {width n : Nat} {rest : List Char}
    (hbound : ∀ most ∈ bound, (paddedDigits width n).length ≤ most)
    (hrest : ∀ c ∈ rest.head?, c.isDigit = false) :
    readDigits bound (paddedDigits width n ++ rest) = .ok (paddedDigits width n, rest) := by
  have hdigits : ∀ c ∈ paddedDigits width n, c.isDigit = true :=
    fun _ hc => Decimal.isDigit_of_mem_paddedDigits hc
  have htaken := Decimal.takeWhile_isDigit_append hdigits hrest
  have hne := Decimal.paddedDigits_ne_nil width n
  cases bound with
  | none => simp [readDigits, htaken, hne]
  | some most =>
    have htake : (paddedDigits width n).take most = paddedDigits width n :=
      List.take_of_length_le (hbound most rfl)
    simp [readDigits, htaken, htake, hne]

/-- A field of two digits is read up to what is not a digit. -/
theorem readField_paddedDigits {least greatest n : Nat} {rest : List Char} (hleast : least ≤ n)
    (hgreatest : n ≤ greatest) (hn : n < 100) (hrest : ∀ c ∈ rest.head?, c.isDigit = false) :
    readField least greatest (paddedDigits 2 n ++ rest) = .ok (n, rest) := by
  have hlength : (paddedDigits 2 n).length = 2 := Decimal.length_paddedDigits_of_lt (by decide) hn
  have hdigits : readDigits (some 2) (paddedDigits 2 n ++ rest) = .ok (paddedDigits 2 n, rest) := by
    apply readDigits_paddedDigits _ hrest
    rintro most ⟨⟩
    exact Nat.le_of_eq hlength
  rw [readField, dropWhile_isBlank_paddedDigits, hdigits]
  simp [bind, Except.bind, pure, Except.pure, hleast, hgreatest]

/-- A mark that is not blank is read. -/
theorem readMark_cons (mark : Char) (hmark : isBlank mark = false) (rest : List Char) :
    readMark mark (mark :: rest) = .ok rest := by
  simp [readMark, hmark]

/-! ## Years and fractions -/

/-- A year that has been read, if it is not too large to be kept, and what follows it. -/
def keepYear (year : Int) (rest : List Char) : Except Fault (Int × List Char) :=
  if -0x80000000 ≤ year ∧ year < 0x80000000 then .ok (year, rest) else .error .outOfRange

/-- A year of any size with nothing blank before it, and what follows it. -/
def readSigned (s : List Char) : Except Fault (Int × List Char) :=
  match s with
  | '-' :: s => (readDigits none s).map fun (digits, rest) => (-(ofDigits digits : Int), rest)
  | '+' :: s => (readDigits none s).map fun (digits, rest) => ((ofDigits digits : Int), rest)
  | s => (readDigits (some 4) s).map fun (digits, rest) => ((ofDigits digits : Int), rest)

/-- What is done with a reading that cannot fail any more is done with its result. -/
theorem bind_pure_bind {α β γ : Type} (x : Except Fault α) (f : α → β) (g : β → Except Fault γ) :
    (do let a ← x; let b ← pure (f a); g b) = (x.map f).bind g := by
  cases x <;> rfl

/-- A year without a sign has four digits at most. -/
theorem readSigned_unsigned {s : List Char} (hminus : ∀ rest, s ≠ '-' :: rest)
    (hplus : ∀ rest, s ≠ '+' :: rest) :
    readSigned s =
      (readDigits (some 4) s).map fun (digits, rest) => ((ofDigits digits : Int), rest) := by
  unfold readSigned
  split
  · exact (hminus _ rfl).elim
  · exact (hplus _ rfl).elim
  · rfl

/-- A year is read after blanks, and then it is seen whether it can be kept. -/
theorem readYear_eq (s : List Char) :
    readYear s =
      (readSigned (s.dropWhile isBlank)).bind fun (year, rest) => keepYear year rest := by
  unfold readYear
  generalize s.dropWhile isBlank = text
  dsimp only
  split
  · rename_i s
    exact bind_pure_bind (readDigits none s) _ _
  · rename_i s
    exact bind_pure_bind (readDigits none s) _ _
  · rename_i hminus hplus
    rw [readSigned_unsigned hminus hplus]
    exact bind_pure_bind (readDigits (some 4) text) _ _

/-- A year of the calendar is kept. -/
theorem readYear_eq_ok {s rest : List Char} {year : Int} (hblank : s.dropWhile isBlank = s)
    (hread : readSigned s = .ok (year, rest)) (hmin : minYear ≤ year) (hmax : year ≤ maxYear) :
    readYear s = .ok (year, rest) := by
  unfold minYear at hmin
  unfold maxYear at hmax
  have hkept : keepYear year rest = .ok (year, rest) := if_pos (by omega)
  rw [readYear_eq, hblank, hread]
  exact hkept

/-- The digits of a year without a sign. -/
theorem readSigned_paddedDigits {n : Nat} (hn : n < 10000) {rest : List Char}
    (hrest : ∀ c ∈ rest.head?, c.isDigit = false) :
    readSigned (paddedDigits 4 n ++ rest) = .ok ((n : Int), rest) := by
  have hsign : ∀ (sign : Char) (s : List Char), sign.isDigit = false →
      paddedDigits 4 n ++ rest ≠ sign :: s := by
    intro sign s hsign heq
    have hdigit : sign.isDigit = true := isDigit_of_paddedDigits_append heq
    rw [hsign] at hdigit
    cases hdigit
  have hlength : (paddedDigits 4 n).length = 4 := Decimal.length_paddedDigits_of_lt (by decide) hn
  have hdigits : readDigits (some 4) (paddedDigits 4 n ++ rest) = .ok (paddedDigits 4 n, rest) := by
    apply readDigits_paddedDigits _ hrest
    rintro most ⟨⟩
    exact Nat.le_of_eq hlength
  rw [readSigned_unsigned (fun s => hsign '-' s rfl) (fun s => hsign '+' s rfl), hdigits]
  simp [Except.map, Decimal.ofDigits_paddedDigits]

/-- A year of the calendar is read back up to the hyphen behind it. -/
theorem readYear_writeYear {year : Int} (hmin : minYear ≤ year) (hmax : year ≤ maxYear)
    (rest : List Char) :
    readYear ((writeYear year).toList ++ '-' :: rest) = .ok (year, '-' :: rest) := by
  have hhyphen : ∀ c ∈ ('-' :: rest).head?, c.isDigit = false := by
    rintro c ⟨⟩
    decide
  by_cases hplain : 0 ≤ year ∧ year ≤ 9999
  · rw [writeYear, if_pos hplain, padded, String.toList_ofList]
    apply readYear_eq_ok (dropWhile_isBlank_paddedDigits 4 _ _) _ hmin hmax
    rw [readSigned_paddedDigits (by omega) hhyphen, Int.toNat_of_nonneg hplain.1]
  · have hdigits : readDigits none (paddedDigits 4 year.natAbs ++ '-' :: rest) =
        .ok (paddedDigits 4 year.natAbs, '-' :: rest) :=
      readDigits_paddedDigits nofun hhyphen
    rw [writeYear, if_neg hplain, String.toList_append, padded, String.toList_ofList,
      List.append_assoc]
    by_cases hnegative : year < 0
    · rw [if_pos hnegative]
      apply readYear_eq_ok rfl _ hmin hmax
      have hyear : -(year.natAbs : Int) = year := by omega
      show readSigned ('-' :: (paddedDigits 4 year.natAbs ++ '-' :: rest)) = _
      simp only [readSigned, hdigits, Except.map, Decimal.ofDigits_paddedDigits, hyear]
    · rw [if_neg hnegative]
      apply readYear_eq_ok rfl _ hmin hmax
      have hyear : (year.natAbs : Int) = year := by omega
      show readSigned ('+' :: (paddedDigits 4 year.natAbs ++ '-' :: rest)) = _
      simp only [readSigned, hdigits, Except.map, Decimal.ofDigits_paddedDigits, hyear]

/-- A fraction that is written in a number of digits, up to nine, is read back up to what is
not a digit. -/
theorem readFraction_digits {width n : Nat} {rest : List Char} (hpos : 0 < width)
    (hwidth : width ≤ 9) (hn : n < 10 ^ width) (hrest : ∀ c ∈ rest.head?, c.isDigit = false) :
    readFraction ('.' :: (paddedDigits width n ++ rest)) = .ok (n * 10 ^ (9 - width), rest) := by
  have hlength : (paddedDigits width n).length = width :=
    Decimal.length_paddedDigits_of_lt hpos hn
  have hdigits : readDigits (some 9) (paddedDigits width n ++ rest) =
      .ok (paddedDigits width n, rest) := by
    apply readDigits_paddedDigits _ hrest
    rintro most ⟨⟩
    rw [hlength]
    exact hwidth
  have hdrop : rest.dropWhile Char.isDigit = rest := by
    cases rest with
    | nil => rfl
    | cons c rest =>
      have hc : c.isDigit = false := hrest c rfl
      exact List.dropWhile_cons_of_neg (by simp [hc])
  simp [readFraction, hdigits, hlength, hdrop, bind, Except.bind, pure, Except.pure]

/-- A fraction of a second is read back up to the letter behind it. -/
theorem readFraction_writeFraction {nano : Nat} (hnano : nano < nanosPerSecond)
    (rest : List Char) :
    readFraction ((writeFraction nano).toList ++ 'Z' :: rest) = .ok (nano, 'Z' :: rest) := by
  unfold nanosPerSecond at hnano
  have hletter : ∀ c ∈ ('Z' :: rest).head?, c.isDigit = false := by
    rintro c ⟨⟩
    decide
  have hcount : ∀ {width n : Nat}, 0 < width → width ≤ 9 → n < 10 ^ width →
      n * 10 ^ (9 - width) = nano →
      readFraction (("." ++ padded width n).toList ++ 'Z' :: rest) = .ok (nano, 'Z' :: rest) := by
    intro width n hpos hwidth hn hvalue
    have hread := readFraction_digits hpos hwidth hn hletter
    rw [hvalue] at hread
    simpa [padded] using hread
  by_cases hzero : nano = 0
  · rw [writeFraction, if_pos hzero, hzero]
    rfl
  · rw [writeFraction, if_neg hzero]
    by_cases hmilli : nano % 1000000 = 0
    · rw [if_pos hmilli]
      exact hcount (by decide) (by decide) (by omega) (by omega)
    · rw [if_neg hmilli]
      by_cases hmicro : nano % 1000 = 0
      · rw [if_pos hmicro]
        exact hcount (by decide) (by decide) (by omega) (by omega)
      · rw [if_neg hmicro]
        exact hcount (by decide) (by decide) (by omega) (by omega)

/-! ## Instants -/

/-- What makes a second of the day and its nanoseconds a time. -/
theorem time_bounds (t : Instant) :
    t.second < 86400 ∧
      (t.nano < 1000000000 ∨ t.second % 60 = 59 ∧ t.nano < 2 * 1000000000) := by
  have htime := t.isTime
  simp only [Dialogue.isTime, Bool.and_eq_true, Bool.or_eq_true, decide_eq_true_eq,
    beq_iff_eq] at htime
  exact htime

/-- An instant is found again from its fields as they are shown. -/
theorem ofRead_fields (t : Instant) :
    ofRead t.date.year t.date.month t.date.day (t.second / 3600) (t.second / 60 % 60)
      t.shownSecond (t.nano % nanosPerSecond) 0 = .ok t := by
  rcases t.time_bounds with ⟨hday, hnano⟩
  have hshown : t.shownSecond = t.second % 60 + t.nano / 1000000000 := rfl
  have hsecond : t.second / 3600 * 3600 + t.second / 60 % 60 * 60 + min t.shownSecond 59 =
      t.second := by
    omega
  have hleap : t.nano % nanosPerSecond +
      (if t.shownSecond = 60 then nanosPerSecond else 0) = t.nano := by
    unfold nanosPerSecond
    split <;> omega
  have hlocal : ofLocal? t.date t.second t.nano 0 = some t := by
    have hbelow : ¬(secondsPerDay : Int) ≤ (t.second : Int) := by
      unfold secondsPerDay
      omega
    have hnonneg : ¬((t.second : Int) < 0) := by omega
    simp [ofLocal?, ofFields?, hbelow, hnonneg, t.isTime]
  rw [ofRead, Date.ofFields?_fields]
  simp only [hsecond, hleap]
  rw [if_pos (by decide), hlocal]

/-- The bounds of the fields of a day. -/
theorem date_bounds (d : Date) :
    minYear ≤ d.year ∧ d.year ≤ maxYear ∧ 1 ≤ d.month ∧ d.month ≤ 12 ∧ 1 ≤ d.day ∧ d.day ≤ 31 := by
  have hdate := d.isDate
  simp only [isDate, Bool.and_eq_true, decide_eq_true_eq] at hdate
  have hdays : daysInMonth d.year d.month ≤ 31 := by
    unfold daysInMonth
    split <;> split <;> omega
  omega

/-- The characters of an instant. -/
theorem toList_write (t : Instant) :
    t.write.toList = (writeYear t.date.year).toList ++ '-' ::
      (paddedDigits 2 t.date.month ++ '-' :: (paddedDigits 2 t.date.day ++ 'T' ::
        (paddedDigits 2 (t.second / 3600) ++ ':' :: (paddedDigits 2 (t.second / 60 % 60) ++ ':' ::
          (paddedDigits 2 t.shownSecond ++
            ((writeFraction (t.nano % nanosPerSecond)).toList ++ ['Z'])))))) := by
  simp [write, padded]

/-- What follows the seconds does not begin with a digit. -/
theorem isDigit_head_writeFraction (nano : Nat) (rest : List Char) :
    ∀ c ∈ ((writeFraction nano).toList ++ 'Z' :: rest).head?, c.isDigit = false := by
  unfold writeFraction
  split
  · rintro c ⟨⟩
    decide
  · split <;> try split
    all_goals
      rintro c hc
      simp at hc
      subst hc
      decide

/-- An instant is read back from the text that it is written as. -/
theorem read_write (t : Instant) : read t.write = .ok t := by
  rcases t.time_bounds with ⟨hday, hnano⟩
  rcases date_bounds t.date with ⟨hmin, hmax, hmonth, hmonth', hdays, hdays'⟩
  have hshown : t.shownSecond = t.second % 60 + t.nano / 1000000000 := rfl
  have hsub : t.nano % nanosPerSecond < nanosPerSecond := Nat.mod_lt _ (by decide)
  -- A field is read up to the mark behind it, whatever follows.
  have hfield : ∀ {least greatest n : Nat} (mark : Char) (rest : List Char),
      mark.isDigit = false → least ≤ n → n ≤ greatest → n < 100 →
      readField least greatest (paddedDigits 2 n ++ mark :: rest) = .ok (n, mark :: rest) := by
    intro least greatest n mark rest hmark hleast hgreatest hn
    apply readField_paddedDigits hleast hgreatest hn
    rintro c ⟨⟩
    exact hmark
  have hseconds : t.shownSecond ≤ 60 := by omega
  have hsecond := readField_paddedDigits (Nat.zero_le t.shownSecond) hseconds (by omega)
    (isDigit_head_writeFraction (t.nano % nanosPerSecond) [])
  have hfraction := readFraction_writeFraction hsub []
  have hoffset : readOffset (['Z'].dropWhile isBlank) = .ok (0, []) := rfl
  rw [read, toList_write, readChars, readYear_writeYear hmin hmax]
  simp only [bind, Except.bind, readMark_cons '-' rfl]
  rw [hfield '-' _ rfl hmonth hmonth' (by omega)]
  simp only [readMark_cons '-' rfl]
  rw [hfield 'T' _ rfl hdays hdays' (by omega)]
  simp only [readSeparator, true_or, if_true]
  rw [hfield ':' _ rfl (Nat.zero_le _) (by omega) (by omega)]
  simp only [readMark_cons ':' rfl]
  rw [hfield ':' _ rfl (Nat.zero_le _) (by omega) (by omega)]
  simp only [readMark_cons ':' rfl, hsecond, hfraction, hoffset]
  exact t.ofRead_fields

end Dialogue.Instant

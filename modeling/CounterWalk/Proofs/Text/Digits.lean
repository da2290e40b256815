import CounterWalk.Text.Digits
import CounterWalk.Text.Utf8
import Mathlib.Data.List.TakeWhile

/-!
# Reading digits

Digits are read from the left, and the number read so far never shrinks.  So it is too large for a
word as soon as the digits read so far say so, whatever follows them, and digits whose value fits a
word are read to their end.

Main definitions:

- `Text.IsNumeralOf`: texts that are numerals of a number;
- `Text.refusal`: what keeps a text from being the numeral of a word.

Main results:

- Theorem `Text.takeWhile_dropWhile_of_stop`: a run of characters of one kind is cut off where a
  character of another kind follows.
- Theorem `Text.readDigits_eq`: what comes of digits, from those in front.
- Theorems `Text.readNumeral_eq_ok` and `Text.readNumeral_of_not_isNumeralOf`: which texts are read
  as a word, and why the others are not.
- Theorem `Text.exists_encode_digits`: the bytes of digits begin with the byte of a digit.
-/

namespace CounterWalk.Text

variable {digits text : List Char}

/-- A run of characters of one kind is cut off where a character of another kind follows. -/
theorem takeWhile_dropWhile_of_stop {p : Char → Bool} {run rest : List Char}
    (hrun : ∀ c ∈ run, p c = true) (hrest : ∀ c ∈ rest.head?, p c = false) :
    (run ++ rest).takeWhile p = run ∧ (run ++ rest).dropWhile p = rest := by
  rw [List.takeWhile_append_of_pos hrun, List.dropWhile_append_of_pos hrun]
  cases rest with
  | nil => simp
  | cons c rest =>
    have hc : p c = false := hrest c rfl
    simp [hc]

/-! ## Digits -/

theorem le_foldl_digits (n : Nat) (digits : List Char) :
    n ≤ digits.foldl (fun n c => 10 * n + digitValue c) n := by
  induction digits generalizing n with
  | nil => exact Nat.le_refl n
  | cons c digits ih =>
    have hstep := ih (10 * n + digitValue c)
    rw [List.foldl_cons]
    omega

/-- The digits in front decide first: a number that is too large is noticed before what stands after
them. -/
theorem readDigits_eq {n : Nat} (hn : n < UInt64.size) (text : List Char) :
    readDigits n text =
      if UInt64.size ≤ (text.takeWhile isDigit).foldl (fun n c => 10 * n + digitValue c) n then
        .error .tooLarge
      else if text.all isDigit then
        .ok (UInt64.ofNat (text.foldl (fun n c => 10 * n + digitValue c) n))
      else .error .invalidDigit := by
  induction text generalizing n with
  | nil =>
    rw [List.takeWhile_nil, List.foldl_nil, if_neg (Nat.not_le.mpr hn)]
    rfl
  | cons c text ih =>
    rw [readDigits]
    by_cases hc : isDigit c = true
    · rw [List.takeWhile_cons_of_pos hc, List.foldl_cons, hc, Bool.not_true,
        if_neg Bool.false_ne_true]
      by_cases hsmall : 10 * n + digitValue c < UInt64.size
      · rw [if_pos hsmall, ih hsmall]
        rw [List.all_cons, hc, Bool.true_and, List.foldl_cons]
      · have hlarge := le_foldl_digits (10 * n + digitValue c) (text.takeWhile isDigit)
        rw [if_neg hsmall, if_pos (by omega)]
    · rw [List.takeWhile_cons_of_neg hc, List.foldl_nil, if_neg (Nat.not_le.mpr hn), List.all_cons,
        Bool.eq_false_iff.mpr hc]
      rfl

/-! ## Numerals -/

/-- A text that is the numeral of a number: digits, before which a plus sign may stand. -/
inductive IsNumeralOf : Nat → List Char → Prop where
  | intro {sign digits : List Char} (hsign : sign = [] ∨ sign = ['+']) (hne : digits ≠ [])
      (hdigits : ∀ c ∈ digits, isDigit c = true) :
      IsNumeralOf (digitsValue digits) (sign ++ digits)

/-- A text after the plus sign with which it may begin. -/
def unsigned : List Char → List Char
  | '+' :: rest => rest
  | text => text

/-- The value of the digits with which a text begins, after a plus sign if there is one. -/
def leadingValue (text : List Char) : Nat := digitsValue ((unsigned text).takeWhile isDigit)

/-- What keeps a text from being the numeral of a word. -/
def refusal (text : List Char) : NumeralError :=
  if text = [] then .empty
  else if UInt64.size ≤ leadingValue text then .tooLarge
  else .invalidDigit

theorem unsigned_of_head (h : text.head? ≠ some '+') : unsigned text = text := by
  unfold unsigned
  split
  · exact absurd rfl h
  · rfl

/-- Digits have no plus sign in front. -/
theorem unsigned_digits (hdigits : ∀ c ∈ digits, isDigit c = true) : unsigned digits = digits := by
  apply unsigned_of_head
  intro h
  exact absurd (hdigits '+' (List.mem_of_head? h)) (by decide)

theorem isNumeralOf_iff {n : Nat} : IsNumeralOf n text ↔
    unsigned text ≠ [] ∧ (∀ c ∈ unsigned text, isDigit c = true) ∧
      digitsValue (unsigned text) = n := by
  constructor
  · rintro ⟨rfl | rfl, hne, hdigits⟩
    · rw [List.nil_append, unsigned_digits hdigits]
      exact ⟨hne, hdigits, rfl⟩
    · exact ⟨hne, hdigits, rfl⟩
  · rintro ⟨hne, hdigits, rfl⟩
    by_cases hplus : text.head? = some '+'
    · obtain ⟨rest, rfl⟩ := List.head?_eq_some_iff.mp hplus
      exact .intro (.inr rfl) hne hdigits
    · rw [unsigned_of_head hplus] at hne hdigits ⊢
      exact .intro (.inl rfl) hne hdigits

/-- All of a numeral but its sign are digits, so they are those with which it begins. -/
theorem IsNumeralOf.leadingValue_eq {n : Nat} (h : IsNumeralOf n text) : leadingValue text = n := by
  obtain ⟨-, hdigits, hvalue⟩ := isNumeralOf_iff.mp h
  rw [leadingValue, List.takeWhile_eq_self_iff.mpr hdigits, hvalue]

/-- After a plus sign the rest is read as it would be without one, unless there is none. -/
theorem readNumeral_eq_readDigits (h : unsigned text ≠ []) :
    readNumeral text = readDigits 0 (unsigned text) := by
  unfold readNumeral
  split
  · exact absurd rfl h
  · exact absurd rfl h
  · rfl
  · rename_i hplus
    rw [unsigned_of_head]
    intro hhead
    obtain ⟨rest, rfl⟩ := List.head?_eq_some_iff.mp hhead
    exact hplus rest rfl

theorem readNumeral_of_unsigned_eq_nil (h : unsigned text = []) :
    readNumeral text = .error (refusal text) := by
  unfold unsigned at h
  split at h
  · rw [h]
    rfl
  · rw [h]
    rfl

/-- A numeral of a word is read as that word. -/
theorem readNumeral_of_isNumeralOf {n : UInt64} (h : IsNumeralOf n.toNat text) :
    readNumeral text = .ok n := by
  obtain ⟨hne, hdigits, hvalue⟩ := isNumeralOf_iff.mp h
  have hleading : digitsValue ((unsigned text).takeWhile isDigit) = n.toNat := h.leadingValue_eq
  rw [digitsValue] at hvalue hleading
  rw [readNumeral_eq_readDigits hne, readDigits_eq (by decide), hleading,
    if_neg (Nat.not_le.mpr n.toNat_lt), if_pos (List.all_eq_true.mpr hdigits), hvalue,
    UInt64.ofNat_toNat]

/-- What is no numeral of a word is refused, and what is wrong with it is told. -/
theorem readNumeral_of_not_isNumeralOf (h : ∀ n : UInt64, ¬ IsNumeralOf n.toNat text) :
    readNumeral text = .error (refusal text) := by
  by_cases hnil : unsigned text = []
  · exact readNumeral_of_unsigned_eq_nil hnil
  · have hne : text ≠ [] := by
      rintro rfl
      exact hnil rfl
    rw [readNumeral_eq_readDigits hnil, readDigits_eq (by decide), refusal, if_neg hne]
    by_cases hlarge : UInt64.size ≤ leadingValue text
    · rw [if_pos hlarge]
      exact if_pos hlarge
    · have hdigits : ¬ (unsigned text).all isDigit = true := by
        intro hdigits
        have hnumeral : IsNumeralOf (digitsValue (unsigned text)) text :=
          isNumeralOf_iff.mpr ⟨hnil, List.all_eq_true.mp hdigits, rfl⟩
        rw [hnumeral.leadingValue_eq] at hlarge
        refine h (UInt64.ofNat (digitsValue (unsigned text))) ?_
        rwa [UInt64.toNat_ofNat_of_lt' (Nat.not_le.mp hlarge)]
      rw [if_neg hlarge, if_neg hdigits]
      exact if_neg hlarge

/-- What is read as a word is a numeral of that word, and nothing else is. -/
theorem readNumeral_eq_ok {n : UInt64} : readNumeral text = .ok n ↔ IsNumeralOf n.toNat text := by
  refine ⟨fun hread => ?_, readNumeral_of_isNumeralOf⟩
  by_cases h : ∃ k : UInt64, IsNumeralOf k.toNat text
  · obtain ⟨k, hk⟩ := h
    obtain rfl : k = n := Except.ok.inj ((readNumeral_of_isNumeralOf hk).symm.trans hread)
    exact hk
  · rw [readNumeral_of_not_isNumeralOf (not_exists.mp h)] at hread
    contradiction

/-- Digits whose value fits a word are read as that value. -/
theorem readNumeral_digits (hne : digits ≠ []) (hdigits : ∀ c ∈ digits, isDigit c = true)
    (h : digitsValue digits < UInt64.size) :
    readNumeral digits = .ok (UInt64.ofNat (digitsValue digits)) := by
  rw [readNumeral_eq_ok, UInt64.toNat_ofNat_of_lt' h]
  exact .intro (.inl rfl) hne hdigits

/-! ## Bytes -/

/-- A digit is a single byte. -/
theorem encodeChar_digit {c : Char} (h : isDigit c = true) :
    ∃ b, String.utf8EncodeChar c = [b] ∧ 0x30 ≤ b ∧ b ≤ 0x39 := by
  simp only [isDigit, Bool.and_eq_true, decide_eq_true_eq, Char.le_def, UInt32.le_iff_toNat_le] at h
  have hlow : 48 ≤ c.val.toNat := h.1
  have hhigh : c.val.toNat ≤ 57 := h.2
  refine ⟨UInt8.ofNat c.val.toNat, ?_, ?_⟩
  · simp only [String.utf8EncodeChar]
    rw [if_pos (by omega)]
  · have hb : (UInt8.ofNat c.val.toNat).toNat = c.val.toNat := Utf8.toNat_ofNat_of_lt (by omega)
    simp only [UInt8.le_iff_toNat_le, hb]
    exact ⟨hlow, hhigh⟩

/-- The bytes of digits begin with the byte of a digit. -/
theorem exists_encode_digits (hne : digits ≠ []) (hdigits : ∀ c ∈ digits, isDigit c = true) :
    ∃ b rest, Utf8.encode digits = b :: rest ∧ 0x30 ≤ b ∧ b ≤ 0x39 := by
  obtain ⟨c, rest, rfl⟩ := List.exists_cons_of_ne_nil hne
  obtain ⟨b, hb, hrange⟩ := encodeChar_digit (hdigits c List.mem_cons_self)
  refine ⟨b, Utf8.encode rest, ?_, hrange⟩
  rw [Utf8.encode, List.flatMap_cons, hb]
  rfl

end CounterWalk.Text

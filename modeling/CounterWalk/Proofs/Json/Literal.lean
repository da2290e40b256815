import CounterWalk.Proofs.Json.Spelling
import CounterWalk.Proofs.Text.Digits
import Mathlib

/-!
# Reading strings and numerals

The two parts of JSON text that have no blanks inside.  A string is read up to its closing quote; a
numeral has no such mark, so it is read to the first character that cannot belong to it, and what
stands there decides nothing else.

Main results:

- Theorem `Json.readStringRest_spelled`: what spells a string is read as that string;
- Theorem `Json.readNumber_spelled`: what spells a number is read as that number.
-/

namespace CounterWalk.Json

open Text (isDigit digitValue digitsValue hexValue? le_foldl_digits takeWhile_dropWhile_of_stop)

/-! ## Strings -/

section

variable {a b c d : Char} {v : Nat} {high : Option Nat} {s t rest : List Char}

/-- What a string goes on with after a code. -/
def afterCode (meaning : CodeMeaning) (t : List Char) : Except ReadError (List Char × List Char) :=
  match meaning with
  | .char c => (readStringFrom .open t).map fun (s, rest) => (c :: s, rest)
  | .upperHalf high => readStringFrom (.pair high) t
  | .invalid => .error .malformed

theorem readStringFrom_digit {x k : Nat} (hx : hexValue? a = some x) (hk : k < 3) (v : Nat)
    (high : Option Nat) (t : List Char) :
    readStringFrom (.code k v high) (a :: t) =
      readStringFrom (.code (k + 1) (16 * v + x) high) t := by
  rw [readStringFrom, hx]
  exact if_pos hk

theorem readStringFrom_lastDigit {x : Nat} (hx : hexValue? a = some x) (v : Nat)
    (high : Option Nat) (t : List Char) :
    readStringFrom (.code 3 v high) (a :: t) = afterCode (codeMeaning (16 * v + x) high) t := by
  rw [readStringFrom, hx]
  exact if_neg (by decide)

/-- A code of four digits is read as a whole. -/
theorem readStringFrom_code (hv : codeValue? a b c d = some v) (high : Option Nat)
    (t : List Char) :
    readStringFrom (.code 0 0 high) (a :: b :: c :: d :: t) = afterCode (codeMeaning v high) t := by
  simp only [codeValue?, Option.bind_eq_bind, Option.bind_eq_some_iff, Option.pure_def,
    Option.some.injEq] at hv
  obtain ⟨x, hx, y, hy, z, hz, w, hw, rfl⟩ := hv
  rw [readStringFrom_digit hx (by decide), readStringFrom_digit hy (by decide),
    readStringFrom_digit hz (by decide), readStringFrom_lastDigit hw, Nat.mul_zero, Nat.zero_add]

theorem codeMeaning_whole (hv : v < 0xD800 ∨ 0xDFFF < v) :
    codeMeaning v none = .char (Char.ofNat v) := by
  rw [codeMeaning, if_neg (by omega), if_neg (by omega)]

theorem codeMeaning_high (hv : 0xD800 ≤ v ∧ v ≤ 0xDBFF) : codeMeaning v none = .upperHalf v := by
  rw [codeMeaning, if_neg (by omega), if_pos hv]

theorem codeMeaning_low {high : Nat} (hv : 0xDC00 ≤ v ∧ v ≤ 0xDFFF) :
    codeMeaning v (some high) =
      .char (Char.ofNat (0x10000 + (high - 0xD800) * 0x400 + (v - 0xDC00))) := by
  rw [codeMeaning, if_pos hv]

theorem readStringFrom_plain (hcontrol : ¬ c < ' ') (hquote : c ≠ '"') (hescape : c ≠ '\\')
    (t : List Char) :
    readStringFrom .open (c :: t) =
      (readStringFrom .open t).map fun (s, rest) => (c :: s, rest) := by
  rw [readStringFrom, if_neg hquote, if_neg hescape, if_neg hcontrol]

theorem readStringFrom_letter {l : Char} (hl : escaped? l = some c) (t : List Char) :
    readStringFrom .open ('\\' :: l :: t) =
      (readStringFrom .open t).map fun (s, rest) => (c :: s, rest) := by
  have hne : l ≠ 'u' := by
    rintro rfl
    cases hl
  simp [readStringFrom, hl, hne]

/-- What spells a string is read as that string, up to the quote after it. -/
theorem readStringFrom_spelled (h : SpellsString s t) (rest : List Char) :
    readStringFrom .open (t ++ '"' :: rest) = .ok (s, rest) := by
  induction h with
  | nil => rfl
  | plain hcontrol hquote hescape h ih =>
    rw [List.cons_append, readStringFrom_plain hcontrol hquote hescape, ih]
    rfl
  | letter hl h ih =>
    rw [List.cons_append, List.cons_append, readStringFrom_letter hl, ih]
    rfl
  | @code a b c d v s t hv hwhole h ih =>
    have hopen : readStringFrom .open ('\\' :: 'u' :: a :: b :: c :: d :: (t ++ '"' :: rest)) =
        readStringFrom (.code 0 0 none) (a :: b :: c :: d :: (t ++ '"' :: rest)) := rfl
    simp only [List.cons_append]
    rw [hopen, readStringFrom_code hv, codeMeaning_whole hwhole, afterCode, ih]
    rfl
  | @pair a b c d a' b' c' d' v w s t hv hhigh hw hlow h ih =>
    simp only [List.cons_append]
    have hopen (t : List Char) : readStringFrom .open ('\\' :: 'u' :: t) =
        readStringFrom (.code 0 0 none) t := rfl
    have hpair (t : List Char) : readStringFrom (.pair v) ('\\' :: 'u' :: t) =
        readStringFrom (.code 0 0 (some v)) t := rfl
    rw [hopen, readStringFrom_code hv, codeMeaning_high hhigh, afterCode, hpair,
      readStringFrom_code hw, codeMeaning_low hlow, afterCode, ih]
    rfl

/-- A text spells one string at most. -/
theorem SpellsString.unique {s' : List Char} (h : SpellsString s t) (h' : SpellsString s' t) :
    s = s' := by
  have heq := (readStringFrom_spelled h []).symm.trans (readStringFrom_spelled h' [])
  exact congrArg Prod.fst (Except.ok.inj heq)

theorem readStringRest_spelled {s : String} (h : SpellsString s.toList t) (rest : List Char) :
    readStringRest (t ++ '"' :: rest) = .ok (s, rest) := by
  simp [readStringRest, readStringFrom_spelled h, Except.map]

end

/-! ## Numbers -/

/-- A character that ends a numeral. -/
def endsNumeral (c : Char) : Bool := !isDigit c && c ≠ '.' && c ≠ 'e' && c ≠ 'E'

/-- A text in which no numeral that stands before it goes on. -/
def EndsNumeral (rest : List Char) : Prop := ∀ c ∈ rest.head?, endsNumeral c = true

section

variable {digits t rest : List Char} {n : JsonNumber} {isNegative : Bool}

theorem EndsNumeral.isDigit_head (h : EndsNumeral rest) : ∀ c ∈ rest.head?, isDigit c = false := by
  intro c hc
  have := h c hc
  simp only [endsNumeral, Bool.and_eq_true, Bool.not_eq_true'] at this
  exact this.1.1.1

/-- A text after which nothing goes on is cut into digits and others as it is by itself. -/
theorem takeWhile_dropWhile_append (h : EndsNumeral rest) (t : List Char) :
    (t ++ rest).takeWhile isDigit = t.takeWhile isDigit ∧
      (t ++ rest).dropWhile isDigit = t.dropWhile isDigit ++ rest := by
  have hsplit : t ++ rest = t.takeWhile isDigit ++ (t.dropWhile isDigit ++ rest) := by
    rw [← List.append_assoc, List.takeWhile_append_dropWhile]
  rw [hsplit]
  apply takeWhile_dropWhile_of_stop
  · intro c hc
    exact List.mem_takeWhile_imp hc
  · cases hdrop : t.dropWhile isDigit with
    | nil => exact h.isDigit_head
    | cons c rest' =>
      have hc := List.head_dropWhile_not (p := isDigit) (l := t) (by simp [hdrop])
      simpa [hdrop] using hc

/-- Digits that fit a word are all taken. -/
theorem absorb_of_lt {n : Nat}
    (h : digits.foldl (fun n c => 10 * n + digitValue c) n < UInt64.size) :
    absorb n digits = (digits.foldl (fun n c => 10 * n + digitValue c) n, digits.length) := by
  induction digits generalizing n with
  | nil => rfl
  | cons c digits ih =>
    rw [List.foldl_cons] at h ⊢
    have hc : 10 * n + digitValue c < UInt64.size := (le_foldl_digits _ digits).trans_lt h
    rw [absorb, if_pos hc, ih h]
    rfl

/-- What a whole part is read as that has no fraction and no exponent. -/
def wholeNumber? (isNegative : Bool) (whole : List Char) : Option JsonNumber :=
  if whole.length - (absorb 0 whole).2 = 0 then integer? isNegative (absorb 0 whole).1
  else
    real? isNegative (absorb 0 whole).1 ((whole.length - (absorb 0 whole).2 : Nat) : Int)

theorem readFraction_eq_inRange {whole : List Char}
    (h : ∀ c ∈ t.head?, c ≠ '.' ∧ c ≠ 'e' ∧ c ≠ 'E') :
    readFraction isNegative whole t = inRange (wholeNumber? isNegative whole) t := by
  unfold readFraction wholeNumber?
  cases t with
  | nil =>
    simp only []
    split <;> rfl
  | cons c t =>
    obtain ⟨hpoint, he, hE⟩ := h c rfl
    simp only [List.cons.injEq, hpoint, he, hE, false_and, imp_self, implies_true]
    split <;> rfl

/-- A whole number that fits a word is an integer. -/
theorem wholeNumber?_of_lt (hsize : digitsValue digits < UInt64.size) :
    wholeNumber? isNegative digits = integer? isNegative (digitsValue digits) := by
  have habsorb : absorb 0 digits = (digitsValue digits, digits.length) := absorb_of_lt hsize
  rw [wholeNumber?, habsorb, if_pos (Nat.sub_self _)]

theorem EndsNumeral.head_ne (h : EndsNumeral rest) :
    ∀ c ∈ rest.head?, c ≠ '.' ∧ c ≠ 'e' ∧ c ≠ 'E' := by
  intro c hc
  have hends := h c hc
  simp only [endsNumeral, Bool.and_eq_true, decide_eq_true_eq] at hends
  exact ⟨hends.1.1.2, hends.1.2, hends.2⟩

/-- Reads a number after its sign. -/
def readUnsigned (isNegative : Bool) (text : List Char) :
    Except ReadError (JsonNumber × List Char) :=
  match text.takeWhile isDigit with
  | [] => .error (noDigit (text.dropWhile isDigit))
  | '0' :: _ :: _ => .error .malformed
  | whole => readFraction isNegative whole (text.dropWhile isDigit)

theorem readNumber_minus (t : List Char) : readNumber ('-' :: t) = readUnsigned true t :=
  rfl

theorem readNumber_of_head (h : t.head? ≠ some '-') : readNumber t = readUnsigned false t := by
  cases t with
  | nil => rfl
  | cons c t =>
    have hc : c ≠ '-' := by simpa using h
    simp only [readNumber, List.cons.injEq, hc, false_and, imp_self, implies_true]
    rfl

theorem readUnsigned_whole (h : IsWhole digits) (hrest : EndsNumeral rest) :
    readUnsigned isNegative (digits ++ rest) = readFraction isNegative digits rest := by
  obtain ⟨htake, hdrop⟩ := takeWhile_dropWhile_of_stop h.isDigit hrest.isDigit_head
  unfold readUnsigned
  rw [htake, hdrop]
  split
  · exact absurd rfl h.ne_nil
  · have hzero := h.no_zero rfl
    simp at hzero
  · rfl

/-! ### Numerals that are followed by something else -/

theorem inRange_append {n? : Option JsonNumber} (h : inRange n? t = .ok (n, [])) :
    inRange n? (t ++ rest) = .ok (n, rest) := by
  cases n? with
  | none => cases h
  | some m =>
    obtain ⟨rfl, rfl⟩ : m = n ∧ t = [] := by simpa [inRange] using h
    rfl

/-- Reads an exponent after its sign. -/
def readExponentDigits (isNegative : Bool) (significand : Nat) (exponent : Int)
    (exponentIsNegative : Bool) (text : List Char) : Except ReadError (JsonNumber × List Char) :=
  if (text.takeWhile isDigit).isEmpty then .error (noDigit (text.dropWhile isDigit))
  else
    inRange (realWithExponent? isNegative significand exponent exponentIsNegative
      (digitsValue (text.takeWhile isDigit))) (text.dropWhile isDigit)

/-- The first character of an exponent is its sign or belongs to its digits, whatever follows. -/
theorem exists_readExponent_eq (isNegative : Bool) (significand : Nat) (exponent : Int)
    (c : Char) :
    ∃ exponentIsNegative lead, (lead = [] ∧ (c = '+' ∨ c = '-') ∨ lead = [c]) ∧
      ∀ t, readExponent isNegative significand exponent (c :: t) =
        readExponentDigits isNegative significand exponent exponentIsNegative (lead ++ t) := by
  by_cases hplus : c = '+'
  · subst hplus
    exact ⟨false, [], Or.inl ⟨rfl, Or.inl rfl⟩, fun t => rfl⟩
  · by_cases hminus : c = '-'
    · subst hminus
      exact ⟨true, [], Or.inl ⟨rfl, Or.inr rfl⟩, fun t => rfl⟩
    · refine ⟨false, [c], Or.inr rfl, fun t => ?_⟩
      simp only [readExponent, List.cons.injEq, hplus, hminus, false_and, imp_self, implies_true]
      rfl

theorem readExponent_append {significand : Nat} {exponent : Int} (hrest : EndsNumeral rest)
    (h : readExponent isNegative significand exponent t = .ok (n, [])) :
    readExponent isNegative significand exponent (t ++ rest) = .ok (n, rest) := by
  cases t with
  | nil => cases h
  | cons c t =>
    obtain ⟨exponentIsNegative, lead, -, heq⟩ :=
      exists_readExponent_eq isNegative significand exponent c
    obtain ⟨htake, hdrop⟩ := takeWhile_dropWhile_append hrest (lead ++ t)
    rw [heq] at h
    rw [List.cons_append, heq, ← List.append_assoc]
    unfold readExponentDigits at h ⊢
    rw [htake, hdrop]
    split at h
    · cases h
    · rename_i hdigits
      rw [if_neg hdigits]
      exact inRange_append h

/-- Reads what stands after the digits of a fraction: an exponent or nothing. -/
def readAfterDigits (isNegative : Bool) (significand : Nat) (exponent : Int) (text : List Char) :
    Except ReadError (JsonNumber × List Char) :=
  match text with
  | 'e' :: rest | 'E' :: rest => readExponent isNegative significand exponent rest
  | rest => inRange (real? isNegative significand exponent) rest

theorem readAfterDigits_eq_inRange {significand : Nat} {exponent : Int}
    (h : ∀ c ∈ t.head?, c ≠ 'e' ∧ c ≠ 'E') :
    readAfterDigits isNegative significand exponent t =
      inRange (real? isNegative significand exponent) t := by
  cases t with
  | nil => rfl
  | cons c t =>
    obtain ⟨he, hE⟩ := h c rfl
    simp only [readAfterDigits, List.cons.injEq, he, hE, false_and, imp_self, implies_true]

theorem readAfterDigits_append {significand : Nat} {exponent : Int} (hrest : EndsNumeral rest)
    (h : readAfterDigits isNegative significand exponent t = .ok (n, [])) :
    readAfterDigits isNegative significand exponent (t ++ rest) = .ok (n, rest) := by
  cases t with
  | nil =>
    rw [readAfterDigits_eq_inRange (by simp)] at h
    rw [List.nil_append, readAfterDigits_eq_inRange fun c hc => (hrest.head_ne c hc).2]
    exact inRange_append h
  | cons c t =>
    by_cases he : c = 'e' ∨ c = 'E'
    · rcases he with rfl | rfl
      · exact readExponent_append hrest h
      · exact readExponent_append hrest h
    · rw [not_or] at he
      rw [readAfterDigits_eq_inRange (by simp [he])] at h ⊢
      exact inRange_append h

/-- A fraction needs a digit, and its digits go on top of those of the whole part. -/
theorem readFraction_point (isNegative : Bool) (whole t : List Char) :
    readFraction isNegative whole ('.' :: t) =
      if (t.takeWhile isDigit).isEmpty then .error (noDigit (t.dropWhile isDigit))
      else
        readAfterDigits isNegative (absorb (absorb 0 whole).1 (t.takeWhile isDigit)).1
          (((whole.length - (absorb 0 whole).2 : Nat) : Int) -
            (absorb (absorb 0 whole).1 (t.takeWhile isDigit)).2) (t.dropWhile isDigit) :=
  rfl

theorem readFraction_append {whole : List Char} (hrest : EndsNumeral rest)
    (h : readFraction isNegative whole t = .ok (n, [])) :
    readFraction isNegative whole (t ++ rest) = .ok (n, rest) := by
  cases t with
  | nil =>
    rw [readFraction_eq_inRange (by simp)] at h
    rw [List.nil_append, readFraction_eq_inRange hrest.head_ne]
    exact inRange_append h
  | cons c t =>
    by_cases hpoint : c = '.'
    · subst hpoint
      obtain ⟨htake, hdrop⟩ := takeWhile_dropWhile_append hrest t
      rw [List.cons_append, readFraction_point, htake, hdrop]
      rw [readFraction_point] at h
      split at h
      · cases h
      · rename_i hdigits
        rw [if_neg hdigits]
        exact readAfterDigits_append hrest h
    · by_cases he : c = 'e' ∨ c = 'E'
      · rcases he with rfl | rfl
        · exact readExponent_append hrest h
        · exact readExponent_append hrest h
      · rw [not_or] at he
        rw [readFraction_eq_inRange (by simp [hpoint, he])] at h
        rw [List.cons_append, readFraction_eq_inRange (by simp [hpoint, he])]
        exact inRange_append h

/-- A number is read where its whole part is well formed and the rest can be read. -/
theorem readUnsigned_eq_ok {r : JsonNumber × List Char} :
    readUnsigned isNegative t = .ok r ↔ IsWhole (t.takeWhile isDigit) ∧
      readFraction isNegative (t.takeWhile isDigit) (t.dropWhile isDigit) = .ok r := by
  have hdigits : ∀ c ∈ t.takeWhile isDigit, isDigit c = true :=
    fun c hc => List.mem_takeWhile_imp hc
  unfold readUnsigned
  split
  · rename_i hnil
    simp only [reduceCtorEq, false_iff, not_and]
    intro hwhole
    exact absurd hnil hwhole.ne_nil
  · rename_i c cs hzero
    simp only [reduceCtorEq, false_iff, not_and]
    intro hwhole
    have := hwhole.no_zero (by rw [hzero]; rfl)
    rw [hzero] at this
    cases this
  · rename_i hnil hzero
    refine ⟨fun h => ⟨⟨hnil, hdigits, fun hhead => ?_⟩, h⟩, And.right⟩
    cases hwhole : t.takeWhile isDigit with
    | nil => exact absurd hwhole hnil
    | cons c cs =>
      rw [hwhole] at hhead
      obtain rfl : c = '0' := Option.some.inj hhead
      cases cs with
      | nil => rfl
      | cons d cs => exact absurd hwhole (hzero d cs)

theorem readUnsigned_append (hrest : EndsNumeral rest)
    (h : readUnsigned isNegative t = .ok (n, [])) :
    readUnsigned isNegative (t ++ rest) = .ok (n, rest) := by
  obtain ⟨htake, hdrop⟩ := takeWhile_dropWhile_append hrest t
  rw [readUnsigned_eq_ok] at h ⊢
  rw [htake, hdrop]
  exact ⟨h.1, readFraction_append hrest h.2⟩

/-- A numeral is read in the same way where something else follows it. -/
theorem readNumber_append (hrest : EndsNumeral rest) (h : readNumber t = .ok (n, [])) :
    readNumber (t ++ rest) = .ok (n, rest) := by
  cases t with
  | nil => cases h
  | cons c t =>
    by_cases hc : c = '-'
    · subst hc
      rw [readNumber_minus] at h
      exact readUnsigned_append hrest h
    · have hhead (t : List Char) : (c :: t).head? ≠ some '-' := by simpa using hc
      rw [readNumber_of_head (hhead t)] at h
      rw [List.cons_append, readNumber_of_head (hhead (t ++ rest))]
      exact readUnsigned_append hrest h

/-- What spells a number is read as that number. -/
theorem readNumber_spelled (h : SpellsNumber n t) (hrest : EndsNumeral rest) :
    readNumber (t ++ rest) = .ok (n, rest) := by
  cases h with
  | natural h hsize =>
    have hhead : (t ++ rest).head? ≠ some '-' := by
      cases t with
      | nil => exact absurd rfl h.ne_nil
      | cons c t =>
        rintro ⟨⟩
        exact absurd (h.isDigit '-' List.mem_cons_self) (by decide)
    rw [readNumber_of_head hhead, readUnsigned_whole h hrest,
      readFraction_eq_inRange hrest.head_ne, wholeNumber?_of_lt hsize]
    rfl
  | @negative digits h hpos hsize =>
    have hword : digitsValue digits < UInt64.size := hsize.trans_lt (by decide)
    rw [List.cons_append, readNumber_minus, readUnsigned_whole h hrest,
      readFraction_eq_inRange hrest.head_ne, wholeNumber?_of_lt hword, integer?,
      if_neg (by decide), if_pos ⟨hpos, hsize⟩]
    rfl
  | real h => exact readNumber_append hrest h

end

end CounterWalk.Json

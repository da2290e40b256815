import CounterWalk.Proofs.Json.Literal
import Mathlib

/-!
# Strings and numerals that are read are spelled

A reader that returns a string or a number has taken a part of the text from the front.  That part
spells what is returned: character by character for a string, and for a numeral because it is read
in the same way when it stands alone.

Main results:

- Theorem `Json.exists_spelled_of_readStringRest`: strings;
- Theorem `Json.exists_spelled_of_readNumber`: numbers.
-/

namespace CounterWalk.Json

open Text (isDigit digitValue digitsValue hexValue? takeWhile_dropWhile_of_stop)

/-! ## Strings -/

section

variable {s t rest : List Char} {c : Char} {high : Option Nat} {v k : Nat}

theorem exists_of_map_cons {x : Except ReadError (List Char × List Char)}
    (h : (x.map fun (s, rest) => (c :: s, rest)) = .ok (s, rest)) :
    ∃ s', x = .ok (s', rest) ∧ s = c :: s' := by
  cases x with
  | error e => cases h
  | ok p =>
    obtain ⟨s', rest'⟩ := p
    cases h
    exact ⟨s', rfl, rfl⟩

/-- What is read while a code is open starts with a digit. -/
theorem exists_digit_of_readStringFrom {r : List Char × List Char}
    (h : readStringFrom (.code k v high) t = .ok r) :
    ∃ a x t', t = a :: t' ∧ hexValue? a = some x := by
  cases t with
  | nil => cases h
  | cons a t =>
    cases hx : hexValue? a with
    | none =>
      rw [readStringFrom, hx] at h
      cases h
    | some x => exact ⟨a, x, t, rfl, hx⟩

/-- What is read from the start of a code starts with four digits. -/
theorem exists_code_of_readStringFrom {r : List Char × List Char}
    (h : readStringFrom (.code 0 0 high) t = .ok r) :
    ∃ a b c d v t', t = a :: b :: c :: d :: t' ∧ codeValue? a b c d = some v ∧
      afterCode (codeMeaning v high) t' = .ok r := by
  obtain ⟨a, x, t, rfl, hx⟩ := exists_digit_of_readStringFrom h
  rw [readStringFrom_digit hx (by decide)] at h
  obtain ⟨b, y, t, rfl, hy⟩ := exists_digit_of_readStringFrom h
  rw [readStringFrom_digit hy (by decide)] at h
  obtain ⟨c, z, t, rfl, hz⟩ := exists_digit_of_readStringFrom h
  rw [readStringFrom_digit hz (by decide)] at h
  obtain ⟨d, w, t, rfl, hw⟩ := exists_digit_of_readStringFrom h
  rw [readStringFrom_lastDigit hw] at h
  rw [Nat.mul_zero, Nat.zero_add] at h
  exact ⟨a, b, c, d, _, t, rfl, by simp [codeValue?, hx, hy, hz, hw], h⟩

/-- After the upper half of a pair the lower half has to come at once. -/
theorem exists_code_of_pair {r : List Char × List Char} {high : Nat}
    (h : readStringFrom (.pair high) t = .ok r) :
    ∃ t', t = '\\' :: 'u' :: t' ∧ readStringFrom (.code 0 0 (some high)) t' = .ok r := by
  cases t with
  | nil => cases h
  | cons c t =>
    rw [readStringFrom] at h
    split at h
    · rename_i hc
      cases t with
      | nil => cases h
      | cons d t =>
        rw [readStringFrom] at h
        split at h
        · rename_i hd
          exact ⟨t, by rw [hc, hd], h⟩
        · cases h
    · cases h

/-- A text from which strings are read only as they are spelled. -/
def ReadsSpelled (t : List Char) : Prop :=
  ∀ s rest, readStringFrom .open t = .ok (s, rest) →
    ∃ t', t = t' ++ '"' :: rest ∧ SpellsString s t'

theorem exists_spelled_of_code (ih : ∀ t', t'.length < t.length → ReadsSpelled t')
    (h : readStringFrom (.code 0 0 none) t = .ok (s, rest)) :
    ∃ t', '\\' :: 'u' :: t = t' ++ '"' :: rest ∧ SpellsString s t' := by
  obtain ⟨a, b, c, d, v, t, rfl, hv, h⟩ := exists_code_of_readStringFrom h
  by_cases hlow : 0xDC00 ≤ v ∧ v ≤ 0xDFFF
  · rw [codeMeaning, if_pos hlow] at h
    cases h
  by_cases hhigh : 0xD800 ≤ v ∧ v ≤ 0xDBFF
  · rw [codeMeaning_high hhigh] at h
    obtain ⟨t, rfl, h⟩ := exists_code_of_pair h
    obtain ⟨a', b', c', d', w, t, rfl, hw, h⟩ := exists_code_of_readStringFrom h
    by_cases hlow' : 0xDC00 ≤ w ∧ w ≤ 0xDFFF
    · rw [codeMeaning_low hlow'] at h
      obtain ⟨s, hread, rfl⟩ := exists_of_map_cons h
      obtain ⟨t', rfl, hspells⟩ := ih t (by simp only [List.length_cons]; omega) s rest hread
      exact ⟨_, rfl, .pair hv hhigh hw hlow' hspells⟩
    · rw [codeMeaning, if_neg hlow'] at h
      cases h
  · rw [codeMeaning_whole (by omega)] at h
    obtain ⟨s, hread, rfl⟩ := exists_of_map_cons h
    obtain ⟨t', rfl, hspells⟩ := ih t (by simp only [List.length_cons]; omega) s rest hread
    exact ⟨_, rfl, .code hv (by omega) hspells⟩

theorem exists_spelled_of_escape (ih : ∀ t', t'.length < t.length → ReadsSpelled t')
    (h : readStringFrom .escape t = .ok (s, rest)) :
    ∃ t', '\\' :: t = t' ++ '"' :: rest ∧ SpellsString s t' := by
  cases t with
  | nil => cases h
  | cons l t =>
    by_cases hu : l = 'u'
    · subst hu
      refine exists_spelled_of_code (fun t' ht' => ih t' (ht'.trans ?_)) h
      exact Nat.lt_succ_self _
    · rw [readStringFrom, if_neg hu] at h
      cases hl : escaped? l with
      | none =>
        rw [hl] at h
        cases h
      | some c =>
        rw [hl] at h
        obtain ⟨s, hread, rfl⟩ := exists_of_map_cons h
        obtain ⟨t', rfl, hspells⟩ := ih t (Nat.lt_succ_self _) s rest hread
        exact ⟨_, rfl, .letter hl hspells⟩

/-- What is read as the rest of a string spells it, up to the closing quote. -/
theorem exists_spelled_of_readStringFrom (t : List Char) : ReadsSpelled t := by
  -- An escape takes several characters before the string goes on, so the induction is on the length
  -- of the text and not on the text.
  induction hn : t.length using Nat.strongRecOn generalizing t with
  | ind n ih =>
    have ih' : ∀ t', t'.length < t.length → ReadsSpelled t' :=
      fun t' ht' => ih t'.length (hn ▸ ht') t' rfl
    intro s rest h
    cases t with
    | nil => cases h
    | cons c t =>
      by_cases hquote : c = '"'
      · subst hquote
        cases h
        exact ⟨[], rfl, .nil⟩
      by_cases hescape : c = '\\'
      · subst hescape
        exact exists_spelled_of_escape (fun t' ht' => ih' t' (ht'.trans (Nat.lt_succ_self _))) h
      by_cases hcontrol : c < ' '
      · rw [readStringFrom, if_neg hquote, if_neg hescape, if_pos hcontrol] at h
        cases h
      · rw [readStringFrom_plain hcontrol hquote hescape] at h
        obtain ⟨s, hread, rfl⟩ := exists_of_map_cons h
        obtain ⟨t', rfl, hspells⟩ := ih' t (Nat.lt_succ_self _) s rest hread
        exact ⟨c :: t', rfl, .plain hcontrol hquote hescape hspells⟩

theorem exists_spelled_of_readStringRest {name : String}
    (h : readStringRest t = .ok (name, rest)) :
    ∃ t', t = t' ++ '"' :: rest ∧ SpellsString name.toList t' := by
  unfold readStringRest at h
  cases hread : readStringFrom .open t with
  | error e =>
    rw [hread] at h
    cases h
  | ok p =>
    obtain ⟨s, rest'⟩ := p
    rw [hread] at h
    cases h
    rw [String.toList_ofList]
    exact exists_spelled_of_readStringFrom t s _ hread

end

/-! ## Numbers -/

section

variable {isNegative : Bool} {n : JsonNumber} {t q rest whole : List Char}

/-! ### The part that a numeral takes -/

theorem exponent_of_head (h : ¬ ∀ c ∈ t.head?, c ≠ 'e' ∧ c ≠ 'E') :
    ∃ t', t = 'e' :: t' ∨ t = 'E' :: t' := by
  cases t with
  | nil => exact absurd h (by simp)
  | cons c t =>
    refine ⟨t, ?_⟩
    by_contra hne
    exact h (by simpa using hne)

theorem fraction_of_head (h : ¬ ∀ c ∈ t.head?, c ≠ '.' ∧ c ≠ 'e' ∧ c ≠ 'E') :
    ∃ t', t = '.' :: t' ∨ t = 'e' :: t' ∨ t = 'E' :: t' := by
  cases t with
  | nil => exact absurd h (by simp)
  | cons c t =>
    refine ⟨t, ?_⟩
    by_contra hne
    exact h (by simpa using hne)

theorem inRange_eq_ok {n? : Option JsonNumber} :
    inRange n? t = .ok (n, rest) ↔ n? = some n ∧ t = rest := by
  cases n? <;> simp [inRange]

/-- What stands after the digits of a text may be cut short. -/
theorem exists_part_of_dropWhile (h : t.dropWhile isDigit = q ++ rest) :
    ∃ p, t = p ++ rest ∧ p.takeWhile isDigit = t.takeWhile isDigit ∧
      p.dropWhile isDigit = q := by
  refine ⟨t.takeWhile isDigit ++ q, ?_, takeWhile_dropWhile_of_stop ?_ ?_⟩
  · rw [List.append_assoc, ← h, List.takeWhile_append_dropWhile]
  · intro c hc
    exact List.mem_takeWhile_imp hc
  · intro c hc
    have hhead : (t.dropWhile isDigit).head? = some c := by
      rw [h, List.head?_append, hc, Option.some_or]
    have hnot := List.head?_dropWhile_not isDigit t
    rw [hhead] at hnot
    simpa using hnot

theorem exists_part_of_readExponentDigits {significand : Nat} {exponent : Int}
    {exponentIsNegative : Bool}
    (h : readExponentDigits isNegative significand exponent exponentIsNegative t =
      .ok (n, rest)) :
    ∃ p, t = p ++ rest ∧
      readExponentDigits isNegative significand exponent exponentIsNegative p = .ok (n, []) := by
  unfold readExponentDigits at h
  split at h
  · cases h
  · rename_i hdigits
    obtain ⟨hn, hrest⟩ := inRange_eq_ok.mp h
    obtain ⟨p, hp, htake, hdrop⟩ := exists_part_of_dropWhile (t := t) (q := []) hrest
    refine ⟨p, hp, ?_⟩
    rw [readExponentDigits, htake, hdrop, if_neg hdigits, hn]
    rfl

theorem exists_part_of_readExponent {significand : Nat} {exponent : Int}
    (h : readExponent isNegative significand exponent t = .ok (n, rest)) :
    ∃ p, t = p ++ rest ∧ readExponent isNegative significand exponent p = .ok (n, []) := by
  cases t with
  | nil => cases h
  | cons c t =>
    obtain ⟨exponentIsNegative, lead, hlead, heq⟩ :=
      exists_readExponent_eq isNegative significand exponent c
    rw [heq] at h
    obtain ⟨p, hp, hread⟩ := exists_part_of_readExponentDigits h
    rcases hlead with ⟨rfl, -⟩ | rfl
    · exact ⟨c :: p, by rw [List.cons_append, ← hp, List.nil_append], (heq p).trans hread⟩
    · cases p with
      | nil => cases hread
      | cons d p =>
        obtain ⟨rfl, rfl⟩ := List.cons.inj hp
        exact ⟨c :: p, rfl, (heq p).trans hread⟩

theorem exists_part_of_readAfterDigits {significand : Nat} {exponent : Int}
    (h : readAfterDigits isNegative significand exponent t = .ok (n, rest)) :
    ∃ p, t = p ++ rest ∧ readAfterDigits isNegative significand exponent p = .ok (n, []) := by
  by_cases he : ∀ c ∈ t.head?, c ≠ 'e' ∧ c ≠ 'E'
  · rw [readAfterDigits_eq_inRange he] at h
    obtain ⟨hn, rfl⟩ := inRange_eq_ok.mp h
    exact ⟨[], rfl, inRange_eq_ok.mpr ⟨hn, rfl⟩⟩
  · obtain ⟨t, rfl | rfl⟩ := exponent_of_head he
    · obtain ⟨p, rfl, hread⟩ := exists_part_of_readExponent h
      exact ⟨'e' :: p, rfl, hread⟩
    · obtain ⟨p, rfl, hread⟩ := exists_part_of_readExponent h
      exact ⟨'E' :: p, rfl, hread⟩

/-- After the whole part there is nothing, an exponent or a fraction. -/
theorem exists_part_of_readFraction (h : readFraction isNegative whole t = .ok (n, rest)) :
    ∃ p, t = p ++ rest ∧ readFraction isNegative whole p = .ok (n, []) := by
  by_cases hplain : ∀ c ∈ t.head?, c ≠ '.' ∧ c ≠ 'e' ∧ c ≠ 'E'
  · rw [readFraction_eq_inRange hplain] at h
    obtain ⟨hn, rfl⟩ := inRange_eq_ok.mp h
    refine ⟨[], rfl, ?_⟩
    rw [readFraction_eq_inRange (by simp)]
    exact inRange_eq_ok.mpr ⟨hn, rfl⟩
  · obtain ⟨t, rfl | rfl | rfl⟩ := fraction_of_head hplain
    · rw [readFraction_point] at h
      split at h
      · cases h
      · rename_i hdigits
        obtain ⟨q, hq, hread⟩ := exists_part_of_readAfterDigits h
        obtain ⟨p, rfl, htake, rfl⟩ := exists_part_of_dropWhile hq
        refine ⟨'.' :: p, rfl, ?_⟩
        rw [readFraction_point, htake, if_neg hdigits]
        exact hread
    · obtain ⟨p, rfl, hread⟩ := exists_part_of_readExponent h
      exact ⟨'e' :: p, rfl, hread⟩
    · obtain ⟨p, rfl, hread⟩ := exists_part_of_readExponent h
      exact ⟨'E' :: p, rfl, hread⟩

theorem exists_part_of_readUnsigned (h : readUnsigned isNegative t = .ok (n, rest)) :
    ∃ p, t = p ++ rest ∧ readUnsigned isNegative p = .ok (n, []) := by
  obtain ⟨hwhole, hread⟩ := readUnsigned_eq_ok.mp h
  obtain ⟨q, hq, hread⟩ := exists_part_of_readFraction hread
  obtain ⟨p, hp, htake, rfl⟩ := exists_part_of_dropWhile hq
  refine ⟨p, hp, readUnsigned_eq_ok.mpr ?_⟩
  rw [htake]
  exact ⟨hwhole, hread⟩

/-- A numeral is read as it is read by itself. -/
theorem exists_part_of_readNumber (h : readNumber t = .ok (n, rest)) :
    ∃ p, t = p ++ rest ∧ readNumber p = .ok (n, []) := by
  by_cases hminus : t.head? = some '-'
  · obtain ⟨t, rfl⟩ := List.head?_eq_some_iff.mp hminus
    rw [readNumber_minus] at h
    obtain ⟨p, rfl, hread⟩ := exists_part_of_readUnsigned h
    exact ⟨'-' :: p, rfl, hread⟩
  · rw [readNumber_of_head hminus] at h
    obtain ⟨p, rfl, hread⟩ := exists_part_of_readUnsigned h
    refine ⟨p, rfl, ?_⟩
    rw [readNumber_of_head, hread]
    intro hhead
    exact hminus (by rw [List.head?_append, hhead, Option.some_or])

/-! ### Integers -/

theorem exists_real_of_real? {significand : Nat} {exponent : Int}
    (h : real? isNegative significand exponent = some n) : ∃ bits, n = .real bits := by
  obtain ⟨y, -, rfl⟩ := Option.map_eq_some_iff.mp h
  exact ⟨_, rfl⟩

theorem exists_real_of_realWithExponent? {significand written : Nat} {exponent : Int}
    {exponentIsNegative : Bool}
    (h : realWithExponent? isNegative significand exponent exponentIsNegative written = some n) :
    ∃ bits, n = .real bits := by
  unfold realWithExponent? at h
  split at h
  · exact exists_real_of_real? h
  · split at h
    · cases h
    · exact exists_real_of_real? h

theorem exists_real_of_readExponent {significand : Nat} {exponent : Int}
    (h : readExponent isNegative significand exponent t = .ok (n, rest)) :
    ∃ bits, n = .real bits := by
  cases t with
  | nil => cases h
  | cons c t =>
    obtain ⟨exponentIsNegative, lead, -, heq⟩ :=
      exists_readExponent_eq isNegative significand exponent c
    rw [heq, readExponentDigits] at h
    split at h
    · cases h
    · exact exists_real_of_realWithExponent? (inRange_eq_ok.mp h).1

theorem exists_real_of_readAfterDigits {significand : Nat} {exponent : Int}
    (h : readAfterDigits isNegative significand exponent t = .ok (n, rest)) :
    ∃ bits, n = .real bits := by
  unfold readAfterDigits at h
  split at h
  · exact exists_real_of_readExponent h
  · exact exists_real_of_readExponent h
  · exact exists_real_of_real? (inRange_eq_ok.mp h).1

/-- If all digits are taken, their value fits a word. -/
theorem digits_of_absorb {digits : List Char} {m : Nat} (hm : m < UInt64.size)
    (h : digits.length - (absorb m digits).2 = 0) :
    (absorb m digits).1 = digits.foldl (fun n c => 10 * n + digitValue c) m ∧
      digits.foldl (fun n c => 10 * n + digitValue c) m < UInt64.size := by
  induction digits generalizing m with
  | nil => exact ⟨rfl, hm⟩
  | cons c digits ih =>
    rw [absorb] at h ⊢
    split at h
    · rename_i hc
      rw [if_pos hc]
      exact ih hc (by simpa using h)
    · simp at h

theorem integer_of_wholeNumber? (h : wholeNumber? isNegative whole = some n)
    (hreal : ∀ bits, n ≠ .real bits) :
    digitsValue whole < UInt64.size ∧ integer? isNegative (digitsValue whole) = some n := by
  unfold wholeNumber? at h
  split at h
  · rename_i hdropped
    obtain ⟨hvalue, hsize⟩ := digits_of_absorb (by decide) hdropped
    rw [hvalue] at h
    exact ⟨hsize, h⟩
  · obtain ⟨bits, hn⟩ := exists_real_of_real? h
    exact absurd hn (hreal bits)

theorem integer_of_readFraction (h : readFraction isNegative whole t = .ok (n, []))
    (hreal : ∀ bits, n ≠ .real bits) : t = [] ∧ wholeNumber? isNegative whole = some n := by
  by_cases hplain : ∀ c ∈ t.head?, c ≠ '.' ∧ c ≠ 'e' ∧ c ≠ 'E'
  · rw [readFraction_eq_inRange hplain] at h
    obtain ⟨hn, ht⟩ := inRange_eq_ok.mp h
    exact ⟨ht, hn⟩
  · have hn : ∃ bits, n = .real bits := by
      obtain ⟨t, rfl | rfl | rfl⟩ := fraction_of_head hplain
      · rw [readFraction_point] at h
        split at h
        · cases h
        · exact exists_real_of_readAfterDigits h
      · exact exists_real_of_readExponent h
      · exact exists_real_of_readExponent h
    obtain ⟨bits, hn⟩ := hn
    exact absurd hn (hreal bits)

/-- A numeral that is read as an integer is a whole number that fits a word. -/
theorem integer_of_readUnsigned (h : readUnsigned isNegative t = .ok (n, []))
    (hreal : ∀ bits, n ≠ .real bits) :
    IsWhole t ∧ digitsValue t < UInt64.size ∧ integer? isNegative (digitsValue t) = some n := by
  obtain ⟨hwhole, hread⟩ := readUnsigned_eq_ok.mp h
  obtain ⟨hdrop, hn⟩ := integer_of_readFraction hread hreal
  have htake : t.takeWhile isDigit = t := by
    have hsplit := List.takeWhile_append_dropWhile (p := isDigit) (l := t)
    rwa [hdrop, List.append_nil] at hsplit
  rw [htake] at hwhole hn
  exact ⟨hwhole, integer_of_wholeNumber? hn hreal⟩

/-- What is read as a number spells it. -/
theorem spellsNumber_of_readNumber (h : readNumber t = .ok (n, [])) : SpellsNumber n t := by
  by_cases hreal : ∃ bits, n = .real bits
  · obtain ⟨bits, rfl⟩ := hreal
    exact .real h
  · rw [not_exists] at hreal
    by_cases hminus : t.head? = some '-'
    · obtain ⟨digits, rfl⟩ := List.head?_eq_some_iff.mp hminus
      rw [readNumber_minus] at h
      obtain ⟨hwhole, hsize, hn⟩ := integer_of_readUnsigned h hreal
      rw [integer?, if_neg (by decide)] at hn
      split at hn
      · rename_i hrange
        cases hn
        exact .negative hwhole hrange.1 hrange.2
      · obtain ⟨bits, hn⟩ := exists_real_of_real? hn
        exact absurd hn (hreal bits)
    · rw [readNumber_of_head hminus] at h
      obtain ⟨hwhole, hsize, hn⟩ := integer_of_readUnsigned h hreal
      cases hn
      exact .natural hwhole hsize

theorem exists_spelled_of_readNumber (h : readNumber t = .ok (n, rest)) :
    ∃ p, t = p ++ rest ∧ SpellsNumber n p := by
  obtain ⟨p, hp, hread⟩ := exists_part_of_readNumber h
  exact ⟨p, hp, spellsNumber_of_readNumber hread⟩

end

end CounterWalk.Json

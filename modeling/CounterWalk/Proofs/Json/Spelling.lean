import CounterWalk.Json.Reader

/-!
# How JSON is spelled

One value can be spelled in many ways: blanks may stand between the parts of a text, a character of
a string may stand for itself or be escaped, and an object may name a member more than once.  This
module says which texts spell a value, without reference to how they are read.  Only reals are left
to the reader, which alone knows their range and their rounding.

Main definitions:

- `Json.SpellsString`: texts that spell a string between its quotes;
- `Json.SpellsNumber`: texts that spell a number;
- `Json.Spells`: texts that spell a value whose brackets nest to at most a given depth;
- `Json.IsTextOf`: whole texts, with blanks around the value.

Main result:

- Theorem `Json.spells_natural_iff`: an unsigned word is spelled by plain digits only.
-/

namespace CounterWalk.Json

/-- Nothing but blanks. -/
def Blanks (w : List Char) : Prop := ∀ c ∈ w, isBlank c = true

/-! ## Strings -/

/-- The number for which four digits to base sixteen stand. -/
def codeValue? (a b c d : Char) : Option Nat := do
  let a ← Text.hexValue? a
  let b ← Text.hexValue? b
  let c ← Text.hexValue? c
  let d ← Text.hexValue? d
  return 16 * (16 * (16 * a + b) + c) + d

/-- A text that spells the characters of a string, without the quotes around it. -/
inductive SpellsString : List Char → List Char → Prop where
  | nil : SpellsString [] []
  /-- A character stands for itself unless it is a quote, a backslash or a control. -/
  | plain {c : Char} {s t : List Char} (hcontrol : ¬ c < ' ') (hquote : c ≠ '"')
      (hescape : c ≠ '\\') (h : SpellsString s t) : SpellsString (c :: s) (c :: t)
  | letter {l c : Char} {s t : List Char} (hl : escaped? l = some c) (h : SpellsString s t) :
      SpellsString (c :: s) ('\\' :: l :: t)
  /-- A code stands for its character unless it is one half of a surrogate pair. -/
  | code {a b c d : Char} {v : Nat} {s t : List Char} (hv : codeValue? a b c d = some v)
      (hwhole : v < 0xD800 ∨ 0xDFFF < v) (h : SpellsString s t) :
      SpellsString (Char.ofNat v :: s) ('\\' :: 'u' :: a :: b :: c :: d :: t)
  | pair {a b c d a' b' c' d' : Char} {v w : Nat} {s t : List Char}
      (hv : codeValue? a b c d = some v) (hhigh : 0xD800 ≤ v ∧ v ≤ 0xDBFF)
      (hw : codeValue? a' b' c' d' = some w) (hlow : 0xDC00 ≤ w ∧ w ≤ 0xDFFF)
      (h : SpellsString s t) :
      SpellsString (Char.ofNat (0x10000 + (v - 0xD800) * 0x400 + (w - 0xDC00)) :: s)
        ('\\' :: 'u' :: a :: b :: c :: d :: '\\' :: 'u' :: a' :: b' :: c' :: d' :: t)

/-! ## Numbers -/

/-- Digits that spell a whole number, without a needless zero in front. -/
structure IsWhole (digits : List Char) : Prop where
  ne_nil : digits ≠ []
  isDigit : ∀ c ∈ digits, Text.isDigit c = true
  no_zero : digits.head? = some '0' → digits = ['0']

/-- A text that spells a number. -/
inductive SpellsNumber : JsonNumber → List Char → Prop where
  | natural {digits : List Char} (h : IsWhole digits)
      (hsize : Text.digitsValue digits < UInt64.size) :
      SpellsNumber (.natural (UInt64.ofNat (Text.digitsValue digits))) digits
  | negative {digits : List Char} (h : IsWhole digits) (hpos : 0 < Text.digitsValue digits)
      (hsize : Text.digitsValue digits ≤ Nat.pow 2 63) :
      SpellsNumber (.negative (Int64.ofInt (-Text.digitsValue digits))) ('-' :: digits)
  /-- A numeral that fits no word, or has a fraction or an exponent, is what the reader takes it
  for. -/
  | real {bits : UInt64} {t : List Char} (h : readNumber t = .ok (.real bits, [])) :
      SpellsNumber (.real bits) t

/-! ## Lists and objects -/

section

variable {α : Type}

/-- A text that spells the elements after the first one, each with a comma before it. -/
inductive SpellsRest (item : α → List Char → Prop) : List α → List Char → Prop where
  | nil {w : List Char} (hw : Blanks w) : SpellsRest item [] w
  | cons {a : α} {as : List α} {after before t ts : List Char} (hafter : Blanks after)
      (hbefore : Blanks before) (ha : item a t) (h : SpellsRest item as ts) :
      SpellsRest item (a :: as) (after ++ ',' :: (before ++ (t ++ ts)))

/-- A text that spells all the elements between two brackets. -/
inductive SpellsAll (item : α → List Char → Prop) : List α → List Char → Prop where
  | nil {w : List Char} (hw : Blanks w) : SpellsAll item [] w
  | cons {a : α} {as : List α} {before t ts : List Char} (hbefore : Blanks before) (ha : item a t)
      (h : SpellsRest item as ts) : SpellsAll item (a :: as) (before ++ (t ++ ts))

end

/-- A text that spells a member of an object: its name between quotes, a colon and its value. -/
inductive SpellsMember (value : Json → List Char → Prop) : String × Json → List Char → Prop where
  | intro {name : String} {v : Json} {n before after t : List Char}
      (hname : SpellsString name.toList n) (hbefore : Blanks before) (hafter : Blanks after)
      (hvalue : value v t) :
      SpellsMember value (name, v) ('"' :: (n ++ '"' :: (before ++ ':' :: (after ++ t))))

/-! ## Values -/

/-- A text that spells a value that is neither a list nor an object. -/
inductive SpellsScalar : Json → List Char → Prop where
  | null : SpellsScalar .null ['n', 'u', 'l', 'l']
  | isTrue : SpellsScalar (.bool true) ['t', 'r', 'u', 'e']
  | isFalse : SpellsScalar (.bool false) ['f', 'a', 'l', 's', 'e']
  | number {n : JsonNumber} {t : List Char} (h : SpellsNumber n t) : SpellsScalar (.number n) t
  | string {s : String} {t : List Char} (h : SpellsString s.toList t) :
      SpellsScalar (.string s) ('"' :: (t ++ ['"']))

/-- A text that spells a value, from the texts that spell the values inside its brackets. -/
inductive SpellsAround (inner : Json → List Char → Prop) : Json → List Char → Prop where
  | scalar {v : Json} {t : List Char} (h : SpellsScalar v t) : SpellsAround inner v t
  | array {items : List Json} {ts : List Char} (h : SpellsAll inner items ts) :
      SpellsAround inner (.array items) ('[' :: (ts ++ [']']))
  | object {ms : List (String × Json)} {ts : List Char}
      (h : SpellsAll (SpellsMember inner) ms ts) :
      SpellsAround inner (.object ms) ('\x7b' :: (ts ++ ['\x7d']))

/-- A text that spells a value whose brackets nest to at most a given depth. -/
def Spells : Nat → Json → List Char → Prop
  | 0 => SpellsScalar
  | depth + 1 => SpellsAround (Spells depth)

/-- An unsigned word is spelled by the plain digits of its value and by nothing else: no sign, no
fraction and no exponent. -/
theorem spells_natural_iff {depth : Nat} {n : UInt64} {t : List Char} :
    Spells depth (.number (.natural n)) t ↔ IsWhole t ∧ Text.digitsValue t = n.toNat := by
  have hscalar : SpellsScalar (.number (.natural n)) t ↔
      IsWhole t ∧ Text.digitsValue t = n.toNat := by
    constructor
    · rintro (_ | _ | _ | ⟨⟨h, hsize⟩⟩)
      exact ⟨h, (UInt64.toNat_ofNat_of_lt' hsize).symm⟩
    · rintro ⟨h, hvalue⟩
      have hspells := SpellsNumber.natural h (hvalue ▸ n.toNat_lt)
      rw [hvalue, UInt64.ofNat_toNat] at hspells
      exact .number hspells
  cases depth with
  | zero => exact hscalar
  | succ depth =>
    refine ⟨?_, fun h => .scalar (hscalar.mpr h)⟩
    rintro ⟨h⟩
    exact hscalar.mp h

/-- A whole text that spells a value, with blanks around it. -/
inductive IsTextOf : Json → List Char → Prop where
  | intro {v : Json} {before t after : List Char} (hbefore : Blanks before)
      (h : Spells maxDepth v t) (hafter : Blanks after) : IsTextOf v (before ++ (t ++ after))

end CounterWalk.Json

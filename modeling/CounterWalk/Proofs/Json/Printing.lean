import CounterWalk.Json.Printer
import CounterWalk.Proofs.Json.Reading
import Mathlib

/-!
# Printing and reading back

A text that is printed spells the value that it is printed from, in every layout that puts nothing
but blanks between the parts, and so it is read back as that value.  Reals are left out: their
shortest numerals are rounded when they are read.

Main definition:

- `Json.fits`: values without reals, whose brackets nest to at most a given depth.

Main results:

- Theorem `Json.spellsString_escaped`: the characters of a string, escaped, spell the string;
- Theorem `Json.isTextOf_render`: a printed text spells its value;
- Theorem `Json.readAll_render`: a printed value is read back.
-/

namespace CounterWalk.Json

open Text (isDigit digitsValue)

/-! ## Strings -/

section

variable {c : Char} {s t : List Char}

theorem not_lt_space (h : ¬ c.toNat < 32) : ¬ c < ' ' := by
  rwa [Char.lt_def, UInt32.lt_iff_toNat_lt]

/-- The two digits of a control make up its code. -/
theorem codeValue?_control {n : Nat} (h : n < 32) :
    codeValue? '0' '0' (hexDigit (n / 16)) (hexDigit n) = some n := by
  revert n
  decide

/-- A character, escaped where it has to be, goes before what spells the rest of a string. -/
theorem spellsString_escapeChar (c : Char) (h : SpellsString s t) :
    SpellsString (c :: s) (escapeChar c ++ t) := by
  unfold escapeChar
  split
  · exact .letter rfl h
  · exact .letter rfl h
  · exact .letter rfl h
  · exact .letter rfl h
  · exact .letter rfl h
  · exact .letter rfl h
  · exact .letter rfl h
  · rename_i hquote hescape _ _ _ _ _
    split
    · rename_i hcontrol
      have hcode := SpellsString.code (codeValue?_control hcontrol) (by omega) h
      rwa [Char.ofNat_toNat] at hcode
    · rename_i hcontrol
      exact .plain (not_lt_space hcontrol) hquote hescape h

theorem spellsString_escaped (s : List Char) : SpellsString s (s.flatMap escapeChar) := by
  induction s with
  | nil => exact .nil
  | cons c s ih => exact spellsString_escapeChar c ih

end

/-! ## Numbers -/

section

variable {n : Nat}

/-- Only the numeral of zero starts with a zero. -/
theorem eq_zero_of_head?_toDigits (h : (Nat.toDigits 10 n).head? = some '0') : n = 0 := by
  induction n using Nat.strongRecOn with
  | ind n ih =>
    by_cases hn : n < 10
    · rw [Nat.toDigits_of_lt_base hn] at h
      exact Nat.digitChar_eq_zero.mp (Option.some.inj h)
    · have hten : 10 ≤ n := Nat.le_of_not_lt hn
      rw [Nat.toDigits_of_base_le (by decide) hten, List.head?_append_of_ne_nil _
        Nat.toDigits_ne_nil] at h
      have := ih (n / 10) (by omega) h
      omega

theorem isWhole_toDigits (n : Nat) : IsWhole (Nat.toDigits 10 n) where
  ne_nil := Nat.toDigits_ne_nil
  isDigit _ hc := Nat.isDigit_of_mem_toDigits (by decide) (by decide) hc
  no_zero h := by
    rw [eq_zero_of_head?_toDigits h]
    rfl

theorem digitsValue_toDigits (n : Nat) : digitsValue (Nat.toDigits 10 n) = n := by
  have hvalue : Nat.ofDigitChars 10 (Nat.toDigits 10 n) 0 = n :=
    Nat.ofDigitChars_toDigits (by decide) (by decide)
  rw [Nat.ofDigitChars_eq_foldl] at hvalue
  exact hvalue

end

/-- A whole number, of the sign under which it is kept. -/
def fitsNumber : JsonNumber → Bool
  | .natural _ => true
  | .negative n => n.toInt < 0
  | .real _ => false

theorem spellsNumber_numberText {n : JsonNumber} (h : fitsNumber n = true) :
    SpellsNumber n (numberText n) := by
  cases n with
  | natural n =>
    have hspells := SpellsNumber.natural (isWhole_toDigits n.toNat)
      (by rw [digitsValue_toDigits]; exact n.toNat_lt)
    rw [digitsValue_toDigits, UInt64.ofNat_toNat] at hspells
    rw [numberText, Nat.toString_eq_repr, Nat.toList_repr]
    exact hspells
  | negative n =>
    have hneg : n.toInt < 0 := by simpa [fitsNumber] using h
    have hmin : -(2 : Int) ^ 63 ≤ n.toInt := n.le_toInt
    have habs : -((-n.toInt).toNat : Int) = n.toInt := by omega
    have hspells := SpellsNumber.negative (isWhole_toDigits (-n.toInt).toNat)
      (by rw [digitsValue_toDigits]; omega)
      (by rw [digitsValue_toDigits]; have : Nat.pow 2 63 = 9223372036854775808 := rfl; omega)
    rw [digitsValue_toDigits, habs, Int64.ofInt_toInt] at hspells
    rw [numberText, Int.toString_eq_repr, Int.repr_eq_if, if_neg (by omega), String.toList_append,
      Nat.toList_repr]
    exact hspells
  | real bits => cases h

/-! ## Values -/

/-- A layout that puts nothing but blanks between the parts of a text. -/
structure Layout.IsBlank (layout : Layout) : Prop where
  newline : ∀ depth, Blanks (layout.newline depth)
  afterColon : Blanks layout.afterColon

theorem Layout.isBlank_compact : compact.IsBlank where
  newline _ := blanks_nil
  afterColon := blanks_nil

theorem Layout.isBlank_pretty : pretty.IsBlank where
  newline depth := by
    intro c hc
    rcases List.mem_cons.mp hc with rfl | hc
    · rfl
    · rw [List.eq_of_mem_replicate hc]
      rfl
  afterColon := by simp [Blanks, pretty, isBlank]

/-- Whether a value has no reals, and its brackets nest to at most a depth. -/
def fits : Nat → Json → Bool
  | _, .number n => fitsNumber n
  | depth + 1, .array items => items.all (fits depth)
  | depth + 1, .object ms => ms.all fun m => fits depth m.2
  | 0, .array _ => false
  | 0, .object _ => false
  | _, _ => true

section

variable {layout : Layout} (hl : layout.IsBlank) {w : List Char} {depth : Nat}

include hl

/-- The elements after the first one, with the blanks before the closing bracket. -/
theorem spellsRest_itemsText {item : Json → List Char → Prop} (hw : Blanks w) {items : List Json}
    (h : ∀ v ∈ items, item v (text layout depth v)) :
    SpellsRest item items (itemsText layout depth items ++ w) := by
  induction items with
  | nil => exact .nil hw
  | cons v items ih =>
    have hrest := ih fun v hv => h v (List.mem_cons_of_mem _ hv)
    have hspells :=
      SpellsRest.cons blanks_nil (hl.newline depth) (h v List.mem_cons_self) hrest
    simpa [itemsText] using hspells

/-- One member: its name, the colon and its value. -/
theorem spellsMember_text {value : Json → List Char → Prop} {name : String} {v : Json}
    {t : List Char} (h : value v t) :
    SpellsMember value (name, v) (stringText name ++ ':' :: (layout.afterColon ++ t)) := by
  have hspells := SpellsMember.intro (spellsString_escaped name.toList) blanks_nil hl.afterColon h
  simpa [stringText] using hspells

/-- The members after the first one, each seen in some way, with the blanks before the closing
brace. -/
theorem spellsRest_membersText {α : Type} {item : α → List Char → Prop} (f : String × Json → α)
    (hw : Blanks w) {ms : List (String × Json)}
    (h : ∀ m ∈ ms,
      item (f m) (stringText m.1 ++ ':' :: (layout.afterColon ++ text layout depth m.2))) :
    SpellsRest item (ms.map f) (membersText layout depth ms ++ w) := by
  induction ms with
  | nil => exact .nil hw
  | cons m ms ih =>
    obtain ⟨name, v⟩ := m
    have hrest := ih fun m hm => h m (List.mem_cons_of_mem _ hm)
    have hspells :=
      SpellsRest.cons blanks_nil (hl.newline depth) (h (name, v) List.mem_cons_self) hrest
    simpa [membersText] using hspells

omit hl in
theorem spellsScalar_text {v : Json} (h : fits 0 v = true) (n : Nat) :
    SpellsScalar v (text layout n v) := by
  cases v with
  | null => exact .null
  | bool b =>
    cases b with
    | false => exact .isFalse
    | true => exact .isTrue
  | number n => exact .number (spellsNumber_numberText h)
  | string s => exact .string (spellsString_escaped s.toList)
  | array items => cases h
  | object ms => cases h

/-- What is printed spells the value that it is printed from. -/
theorem spells_text {v : Json} (h : fits depth v = true) (n : Nat) :
    Spells depth v (text layout n v) := by
  -- The induction is on the depth to which brackets may nest; `n`, the depth at which the value
  -- stands, only decides about blanks.
  induction depth generalizing v n with
  | zero => exact spellsScalar_text h n
  | succ depth ih =>
    cases v with
    | array items =>
      have hitems : ∀ v ∈ items, fits depth v = true := List.all_eq_true.mp h
      cases items with
      | nil => exact .array (.nil blanks_nil)
      | cons v items =>
        have hrest := spellsRest_itemsText hl (hl.newline n) fun v hv =>
          ih (hitems v (List.mem_cons_of_mem _ hv)) (n + 1)
        have hspells : Spells (depth + 1) _ _ :=
          SpellsAround.array
            (.cons (hl.newline (n + 1)) (ih (hitems v List.mem_cons_self) (n + 1)) hrest)
        simpa [text] using hspells
    | object ms =>
      have hms : ∀ m ∈ ms, fits depth m.2 = true := List.all_eq_true.mp h
      cases ms with
      | nil => exact .object (.nil blanks_nil)
      | cons m ms =>
        obtain ⟨name, v⟩ := m
        have hrest := spellsRest_membersText hl id (hl.newline n) fun m hm =>
          spellsMember_text hl (ih (hms m (List.mem_cons_of_mem _ hm)) (n + 1))
        rw [List.map_id] at hrest
        have hmember : SpellsMember (Spells depth) (name, v) _ :=
          spellsMember_text hl (ih (hms (name, v) List.mem_cons_self) (n + 1))
        have hspells : Spells (depth + 1) _ _ :=
          SpellsAround.object (.cons (hl.newline (n + 1)) hmember hrest)
        simpa [text] using hspells
    | _ => exact SpellsAround.scalar (spellsScalar_text (by exact h) n)

/-- A printed text spells its value. -/
theorem isTextOf_render {v : Json} (h : fits maxDepth v = true) :
    IsTextOf v (v.render layout).toList := by
  have htext := IsTextOf.intro blanks_nil (spells_text hl h 0) blanks_nil
  rw [List.nil_append, List.append_nil] at htext
  rw [render, String.toList_ofList]
  exact htext

/-- A printed value is read back. -/
theorem readAll_render {v : Json} (h : fits maxDepth v = true) :
    readAll (readValue maxDepth) (v.render layout).toList = .ok v :=
  (readValue_spelled maxDepth).readAll (isTextOf_render hl h)

end

end CounterWalk.Json

import CounterWalk.CommandLine.Basic
import CounterWalk.Proofs.Text.Digits
import Mathlib.Data.List.TakeWhile

/-!
# Spellings of options

How an option may be written on the command line, without reference to how the command line is read.
The value of a setting is attached to its name or is an argument of its own, and the setting for
steps has a letter besides its name.  A spelling is one argument or two, and the first of them
says by itself which option it is.

Main definitions:

- `Spelling`: an option as it is written;
- `Spelling.arguments`: the arguments that this takes.

Main results:

- Theorems `Piece.ofArgument_switch`, `Piece.ofArgument_setting`, `Piece.ofArgument_attached`:
  names are read as the options that have them.
- Theorem `Piece.ofArgument_joined`: digits may follow the letter for steps.
- Theorem `Piece.ofArgument_word`: what does not begin with a dash names nothing.
-/

namespace CounterWalk

namespace CommandLine

/-! ## Spellings -/

/-- A decimal numeral of an unsigned word.  It may have zeros in front. -/
structure Numeral where
  digits : List Char
  ne_nil : digits ≠ []
  isDigit : ∀ c ∈ digits, Text.isDigit c = true
  fits : Text.digitsValue digits < UInt64.size

/-- The number that a numeral stands for. -/
def Numeral.value (n : Numeral) : UInt64 := UInt64.ofNat (Text.digitsValue n.digits)

/-- A numeral as it is written. -/
def Numeral.bytes (n : Numeral) : Argument := Text.Utf8.encode n.digits

/-- A path, which need not be text. -/
structure Path where
  bytes : Argument
  ne_nil : bytes ≠ []

/-- A setting and a value that it can have. -/
inductive Value where
  | steps (n : Numeral)
  | seed (n : Numeral)
  | logDir (p : Path)

namespace Value

/-- The setting that the value is for. -/
def setting : Value → Setting
  | .steps _ => .steps
  | .seed _ => .seed
  | .logDir _ => .logDir

/-- The value as it is written. -/
def bytes : Value → Argument
  | .steps n | .seed n => n.bytes
  | .logDir p => p.bytes

/-- Whether the value can be an argument of its own.  A path that begins with a dash would look like
a name there. -/
def StandsApart : Value → Prop
  | .steps _ | .seed _ => True
  | .logDir p => p.bytes.head? ≠ some Piece.dash

end Value

/-- The name of a switch with its dashes. -/
def Switch.text : Switch → String
  | .faulty => "--faulty"
  | .json => "--json"

/-- The name of a setting with its dashes. -/
def Setting.text : Setting → String
  | .steps => "--steps"
  | .seed => "--seed"
  | .logDir => "--log-dir"

/-- An option as it is written. -/
inductive Spelling where
  | switch (s : Switch)
  /-- A name, an equals sign and a value. -/
  | attached (v : Value)
  /-- A name, and a value as the next argument. -/
  | apart (v : Value) (h : v.StandsApart)
  /-- The letter for steps, and a number as the next argument. -/
  | shortApart (n : Numeral)
  /-- The letter for steps, and right after it a number. -/
  | shortJoined (n : Numeral)
  /-- The letter for steps, an equals sign and a number. -/
  | shortAttached (n : Numeral)

namespace Spelling

/-- The arguments that write an option. -/
def arguments : Spelling → List Argument
  | .switch s => [.ofString s.text]
  | .attached v => [.ofString (v.setting.text ++ "=") ++ v.bytes]
  | .apart v _ => [.ofString v.setting.text, v.bytes]
  | .shortApart n => [.ofString "-s", n.bytes]
  | .shortJoined n => [.ofString "-s" ++ n.bytes]
  | .shortAttached n => [.ofString "-s=" ++ n.bytes]

/-- The option that is written. -/
def option : Spelling → OptionName
  | .switch s => .switch s
  | .attached v | .apart v _ => .setting v.setting
  | .shortApart _ | .shortJoined _ | .shortAttached _ => .setting .steps

end Spelling

/-! ## What values begin with -/

/-- A numeral begins with a byte that is no mark of the command line. -/
theorem Numeral.exists_bytes (n : Numeral) :
    ∃ b rest, n.bytes = b :: rest ∧ b ≠ Piece.dash ∧ b ≠ Piece.equals := by
  obtain ⟨b, rest, hbytes, hlow, hhigh⟩ := Text.exists_encode_digits n.ne_nil n.isDigit
  refine ⟨b, rest, hbytes, ?_, ?_⟩
  · rintro rfl
    exact absurd hlow (by decide)
  · rintro rfl
    exact absurd hhigh (by decide)

theorem Value.StandsApart.head?_bytes_ne {v : Value} (h : v.StandsApart) :
    v.bytes.head? ≠ some Piece.dash := by
  cases v with
  | steps n | seed n =>
    obtain ⟨b, rest, hbytes, hdash, -⟩ := n.exists_bytes
    rw [bytes, hbytes, List.head?_cons, ne_eq, Option.some_inj]
    exact hdash
  | logDir p => exact h

/-! ## Arguments by themselves -/

namespace Piece

theorem ofArgument_switch (s : Switch) :
    ofArgument (.ofString s.text) = .named (.switch s) none := by
  cases s <;> decide +kernel

theorem ofArgument_setting (s : Setting) :
    ofArgument (.ofString s.text) = .named (.setting s) none := by
  cases s <;> decide +kernel

/-- A name ends at the first equals sign, whatever the value has in it. -/
theorem ofLong_attached {name : Argument} {o : OptionName} (hequals : equals ∉ name)
    (ho : OptionName.ofLong? name = some o) (value : Argument) :
    ofLong (name ++ equals :: value) = .named o (some value) := by
  have hname : (name ++ equals :: value).takeWhile (· ≠ equals) = name := by
    rw [List.takeWhile_append_of_pos, List.takeWhile_cons_of_neg, List.append_nil]
    · simp
    · intro b hb
      exact decide_eq_true (ne_of_mem_of_not_mem hb hequals)
  rw [ofLong, hname]
  simp only [ho, List.drop_left, List.tail?_cons]

theorem ofArgument_attached (s : Setting) (value : Argument) :
    ofArgument (.ofString (s.text ++ "=") ++ value) = .named (.setting s) (some value) := by
  have hname : equals ∉ Argument.ofString (OptionName.setting s).long ∧
      OptionName.ofLong? (.ofString (OptionName.setting s).long) = some (.setting s) ∧
      Argument.ofString (s.text ++ "=") =
        dash :: dash :: (Argument.ofString (OptionName.setting s).long ++ [equals]) := by
    cases s <;> decide +kernel
  obtain ⟨hequals, ho, htext⟩ := hname
  rw [htext, List.cons_append, List.cons_append, List.append_assoc, List.singleton_append]
  simp [ofArgument, ofLong_attached hequals ho]

theorem ofArgument_letter : ofArgument (.ofString "-s") = .named (.setting .steps) none := by
  decide +kernel

/-- What stands after the letter for steps. -/
theorem ofArgument_letter_append (value : Argument) :
    ofArgument (.ofString "-s" ++ value) = .named (.setting .steps) (shortValue value) := by
  have hs : Argument.ofString "-s" = [dash, 0x73] := by decide +kernel
  have hlead : Text.Utf8.lead 0x73 = .whole 's' := by rfl
  have hdecode : Text.Utf8.decode (0x73 :: value) = some 's' :: Text.Utf8.decode value := by
    rw [Text.Utf8.decode, Text.Utf8.decodeFrom, hlead]
    rfl
  rw [hs]
  simp [ofArgument, ofShort, hdecode, OptionName.ofShort?, dash]

theorem ofArgument_letter_attached (value : Argument) :
    ofArgument (.ofString "-s=" ++ value) = .named (.setting .steps) (some value) := by
  have hs : Argument.ofString "-s=" = .ofString "-s" ++ [equals] := by decide +kernel
  rw [hs, List.append_assoc, ofArgument_letter_append]
  simp [shortValue]

theorem ofArgument_joined (n : Numeral) :
    ofArgument (.ofString "-s" ++ n.bytes) = .named (.setting .steps) (some n.bytes) := by
  obtain ⟨b, rest, hbytes, -, hequals⟩ := n.exists_bytes
  rw [ofArgument_letter_append, hbytes, shortValue, if_neg hequals]

/-- What does not begin with a dash names nothing. -/
theorem ofArgument_word {a : Argument} (hdash : a.head? ≠ some dash) : ofArgument a = .word a := by
  match a, hdash with
  | [], _ | [_], _ => rfl
  | b :: c :: rest, hdash =>
    have hb : b ≠ dash := by
      rintro rfl
      exact hdash rfl
    rw [ofArgument, if_pos hb]

end Piece

end CommandLine

end CounterWalk

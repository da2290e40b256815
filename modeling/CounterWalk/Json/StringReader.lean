import CounterWalk.Json.Error
import CounterWalk.Text.Digits

/-!
# Reading strings

A string is read one character at a time. Between characters the reader is in the open, after a
backslash, or within a code of four digits to base sixteen; a code in the upper half of a surrogate
pair has to be followed at once by one in the lower half.
-/

namespace CounterWalk.Json

/-- Where the reader stands inside a string. -/
inductive StringState where
  | open
  | escape
  /-- In a code, of which some digits make up `value` so far. A surrogate that came just before is
  kept. -/
  | code (digits : Nat) (value : Nat) (high : Option Nat)
  /-- After the upper half of a surrogate pair. -/
  | pair (high : Nat)
  /-- After the backslash that follows the upper half of a surrogate pair. -/
  | pairEscape (high : Nat)
deriving DecidableEq, Repr

/-- The character that a letter stands for after a backslash. -/
def escaped? : Char → Option Char
  | '"' => some '"'
  | '\\' => some '\\'
  | '/' => some '/'
  | 'b' => some '\x08'
  | 'f' => some '\x0c'
  | 'n' => some '\n'
  | 'r' => some '\r'
  | 't' => some '\t'
  | _ => none

/-- What a full code of four digits means. -/
inductive CodeMeaning where
  | char (c : Char)
  | upperHalf (high : Nat)
  | invalid

/-- The meaning of a full code after a surrogate or without one. -/
def codeMeaning (value : Nat) : Option Nat → CodeMeaning
  | none =>
    if 0xDC00 ≤ value ∧ value ≤ 0xDFFF then .invalid
    else if 0xD800 ≤ value ∧ value ≤ 0xDBFF then .upperHalf value
    else .char (Char.ofNat value)
  | some high =>
    if 0xDC00 ≤ value ∧ value ≤ 0xDFFF then
      .char (Char.ofNat (0x10000 + (high - 0xD800) * 0x400 + (value - 0xDC00)))
    else
      .invalid

/-- The error at a character that is no digit of a code: the text ends too early if fewer than four
bytes follow the start of the code. -/
def badCode (digits : Nat) (text : List Char) : ReadError :=
  if digits + (String.ofList text).utf8ByteSize < 4 then .truncated else .malformed

/-- Reads the rest of a string up to its closing quote. -/
def readStringFrom : StringState → List Char → Except ReadError (List Char × List Char)
  | _, [] => .error .truncated
  | .open, c :: rest =>
    if c = '"' then .ok ([], rest)
    else if c = '\\' then readStringFrom .escape rest
    else if c < ' ' then .error .malformed
    else (readStringFrom .open rest).map fun (s, rest) => (c :: s, rest)
  | .escape, c :: rest =>
    if c = 'u' then readStringFrom (.code 0 0 none) rest
    else match escaped? c with
      | some c => (readStringFrom .open rest).map fun (s, rest) => (c :: s, rest)
      | none => .error .malformed
  | .code digits value high, c :: rest =>
    match Text.hexValue? c with
    | none => .error (badCode digits (c :: rest))
    | some d =>
      if digits < 3 then readStringFrom (.code (digits + 1) (16 * value + d) high) rest
      else match codeMeaning (16 * value + d) high with
        | .char c => (readStringFrom .open rest).map fun (s, rest) => (c :: s, rest)
        | .upperHalf high => readStringFrom (.pair high) rest
        | .invalid => .error .malformed
  | .pair high, c :: rest =>
    if c = '\\' then readStringFrom (.pairEscape high) rest else .error .malformed
  | .pairEscape high, c :: rest =>
    if c = 'u' then readStringFrom (.code 0 0 (some high)) rest else .error .malformed

/-- Reads a string after its opening quote. -/
def readStringRest (text : List Char) : Except ReadError (String × List Char) :=
  (readStringFrom .open text).map fun (s, rest) => (String.ofList s, rest)

end CounterWalk.Json

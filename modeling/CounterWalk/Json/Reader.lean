import CounterWalk.Json.Numeral
import CounterWalk.Json.StringReader

/-!
# Reading JSON

A `Reader` takes what it needs from the front of a text. Lists and objects are read element by
element, so that a reader for a special shape can refuse an element as soon as it has seen it; the
first error from the left is the one that is reported.

Main definitions:

- `Json.elements`, `Json.members`: the elements of a list and the members of an object, each by a
  reader of its own;
- `Json.readValue`: any value, with brackets nested to a given depth;
- `Json.readShallow`: any value up to the opening bracket;
- `Json.readAll`: a whole text.
-/

namespace CounterWalk

/-- Reads from the front of a text. -/
abbrev Reader := StateT (List Char) (Except ReadError)

namespace Json

variable {α σ : Type}

/-- Whether a character is a blank between the parts of a text. -/
def isBlank (c : Char) : Bool := c = ' ' || c = '\n' || c = '\t' || c = '\r'

/-- Skips blanks and looks at the character after them. -/
def peek : Reader (Option Char) := fun text =>
  let text := text.dropWhile isBlank
  .ok (text.head?, text)

/-- Skips blanks and looks at the character after them, which has to be there. -/
def peekChar : Reader Char := do
  let some c ← peek | throw .truncated
  return c

/-- Drops one character. -/
def skip : Reader Unit := modify List.tail

/-- Skips a character that has to come after blanks. -/
def mark (c : Char) : Reader Unit := do
  if (← peekChar) = c then skip else throw .malformed

/-- Skips the characters of a word. -/
def word : List Char → Reader Unit
  | [] => return ()
  | c :: rest => do
    match ← get with
    | [] => throw .truncated
    | d :: text => if c = d then set text else throw .malformed
    word rest

/-- Reads a value that starts with the given character and is neither a list nor an object. -/
def readScalar (c : Char) : Reader Json :=
  match c with
  | 'n' => do word "null".toList; return .null
  | 't' => do word "true".toList; return .bool true
  | 'f' => do word "false".toList; return .bool false
  | '"' => do skip; return .string (← readStringRest)
  | c => if c = '-' || Text.isDigit c then .number <$> readNumber else throw .malformed

/-- Reads a value that is neither a list nor an object. Of a list or an object only the bracket is
seen, and an empty one stands for it. -/
def readShallow : Reader Json := do
  match ← peekChar with
  | '[' => return .array []
  | '\x7b' => return .object []
  | c => readScalar c

/-- Reads the elements after the first one, at most `n` of them, and the closing bracket. -/
def moreElements (item : Reader α) : Nat → Reader (List α)
  | 0 => throw .malformed
  | n + 1 => do
    match ← peekChar with
    | ']' => skip; return []
    | ',' =>
      skip
      if (← peekChar) = ']' then throw .malformed
      let a ← item
      return a :: (← moreElements item n)
    | _ => throw .malformed

/-- Reads the elements after the first one and the closing bracket. Each takes a character at least,
so there are no more of them than characters. -/
def remainingElements (item : Reader α) : Reader (List α) := do
  moreElements item ((← get).length + 1)

/-- Reads the elements of a list after its opening bracket. -/
def elements (item : Reader α) : Reader (List α) := do
  if (← peekChar) = ']' then
    skip
    return []
  else
    let a ← item
    return a :: (← remainingElements item)

/-- Reads the name of a member. -/
def readName : Reader String := do
  mark '"'
  readStringRest

/-- Reads the members after the first one, at most `n` of them, and the closing brace. -/
def moreMembers (member : σ → String → Reader σ) : Nat → σ → Reader σ
  | 0, _ => throw .malformed
  | n + 1, s => do
    match ← peekChar with
    | '\x7d' => skip; return s
    | ',' =>
      skip
      let s ← member s (← readName)
      moreMembers member n s
    | _ => throw .malformed

/-- Reads the members of an object after its opening brace. Each is handed to `member` when its name
has been read, together with what the members before it came to. -/
def members (member : σ → String → Reader σ) (s : σ) : Reader σ := do
  if (← peekChar) = '\x7d' then
    skip
    return s
  else
    let s ← member s (← readName)
    moreMembers member ((← get).length + 1) s

/-- Adds a member that is read by `value` to those before it, the last one first. -/
def pushMember (value : Reader Json) (before : List (String × Json)) (name : String) :
    Reader (List (String × Json)) := do
  mark ':'
  return (name, ← value) :: before

/-- Reads a value whose brackets nest at most to the given depth. -/
def readValue : Nat → Reader Json
  | 0 => do
    match ← peekChar with
    | '[' | '\x7b' => throw .malformed
    | c => readScalar c
  | depth + 1 => do
    match ← peekChar with
    | '[' =>
      skip
      .array <$> elements (readValue depth)
    | '\x7b' =>
      skip
      return .object (← members (pushMember (readValue depth)) []).reverse
    | c => readScalar c

/-- The depth to which brackets may nest. -/
def maxDepth : Nat := 127

/-- Reads a whole text, after which only blanks may follow. -/
def readAll (reader : Reader α) (text : List Char) : Except ReadError α := do
  let (a, rest) ← reader text
  if (rest.dropWhile isBlank).isEmpty then return a else throw .malformed

/-- A finding about the shape of a value, among the errors of reading. -/
def judge (r : Except ShapeError α) : Reader α :=
  match r with
  | .ok a => return a
  | .error e => throw (.shape e)

end Json

end CounterWalk

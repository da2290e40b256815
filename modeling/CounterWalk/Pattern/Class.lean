import CounterWalk.Pattern.Escape
import CounterWalk.Text.Blank

/-!
# Classes

A class is written in brackets: characters, ranges, escapes, named sets and classes inside it, which
are united. Doubled signs intersect or subtract what stands before and after them, from left to
right.

Main definition:

- `Pattern.readClass`: the class after its opening bracket.
-/

namespace CounterWalk.Pattern

/-- How what stands before a sign in a class is combined with what stands after it. -/
inductive SetOperation where
  | inter
  | diff
  | symmDiff
deriving DecidableEq, Repr

/-- A class of which a part has been read. -/
structure ClassPart where
  negated : Bool := false
  /-- What stands before the last sign. -/
  before : Option (SetOperation × CharSet) := none
  /-- What stands after it. -/
  set : CharSet := .empty
deriving DecidableEq, Repr

/-- The set, in either letter case if that is asked. -/
def Flags.fold (flags : Flags) (s : CharSet) : CharSet := if flags.caseless then .caseless s else s

/-- The text without the blanks and notes before it, if those do not count. A note goes on to the
end of its line. -/
def Flags.skip (flags : Flags) (text : List Char) : List Char :=
  if flags.spaced then go false text else text
where
  /-- Skips blanks, and notes inside which everything is skipped. -/
  go : Bool → List Char → List Char
  | _, [] => []
  | true, c :: rest => go (c ≠ '\n') rest
  | false, c :: rest =>
    if c = '#' then go true rest else if Text.isBlank c then go false rest else c :: rest

namespace ClassPart

/-- The class with one more item. -/
def add (s : CharSet) (part : ClassPart) : ClassPart := { part with set := .union part.set s }

/-- All that was read, combined. -/
def combined (flags : Flags) (part : ClassPart) : CharSet :=
  match part.before with
  | none => part.set
  | some (operation, before) =>
    let before := flags.fold before
    let after := flags.fold part.set
    match operation with
    | .inter => .inter before after
    | .diff => before.diff after
    | .symmDiff => before.symmDiff after

/-- The class after a sign. -/
def combine (flags : Flags) (operation : SetOperation) (part : ClassPart) : ClassPart :=
  { part with before := some (operation, part.combined flags), set := .empty }

/-- The set of a class that was read to its end. -/
def close? (flags : Flags) (part : ClassPart) : Option CharSet :=
  signed? flags part.negated (flags.fold (part.combined flags))

end ClassPart

/-- Reads the opening of a class, after its bracket: the sign of a complement, and dashes or else a
bracket that stand for themselves. -/
def openClass (flags : Flags) (text : List Char) : ClassPart × List Char :=
  let text := flags.skip text
  let (negated, text) := match text with
    | '^' :: text => (true, flags.skip text)
    | text => (false, text)
  match text with
  | '-' :: _ => ({ negated, set := .single '-' }, flags.skip (text.dropWhile (· = '-')))
  | ']' :: text => ({ negated, set := .single ']' }, text)
  | text => ({ negated }, text)

/-- Reads a character or an escape in a class. -/
def readItem (flags : Flags) : List Char → Option (Escape × List Char)
  | [] => none
  | '\\' :: rest => readEscape flags rest
  | c :: rest => some (.literal c, rest)

/-- The set of a range in a class. Of bytes only those of ASCII are characters. -/
def range? (flags : Flags) (first last : Char) : Option CharSet :=
  if first ≤ last ∧ (flags.unicode ∨ last < '\x80') then some (.range first last) else none

/-- The set of an item that stands alone in a class. -/
def Escape.set? (flags : Flags) : Escape → Option CharSet
  | .literal c => range? flags c c
  | .set s => some s
  | .place _ => none

/-- Reads an item of a class or a range. A dash before a bracket or another dash makes no range. -/
def readRange (flags : Flags) (text : List Char) : Option (CharSet × List Char) := do
  let (item, rest) ← readItem flags text
  let alone := (item.set? flags).map fun s => (s, rest)
  match flags.skip rest with
  | '-' :: more =>
    match flags.skip more with
    | [] => none
    | c :: after =>
      if c = ']' ∨ c = '-' then alone
      else
        match item, (← readItem flags (c :: after)) with
        | .literal first, (.literal last, rest) => (range? flags first last).map fun s => (s, rest)
        | _, _ => none
  | _ => alone

/-- Reads the rest of a class, at most `n` parts of it. -/
def readClassRest (flags : Flags) : Nat → ClassPart → List Char → Option (CharSet × List Char)
  | 0, _, _ => none
  | n + 1, part, text =>
    match flags.skip text with
    | [] => none
    | ']' :: rest => (part.close? flags).map fun s => (s, rest)
    | '&' :: '&' :: rest => readClassRest flags n (part.combine flags .inter) rest
    | '-' :: '-' :: rest => readClassRest flags n (part.combine flags .diff) rest
    | '~' :: '~' :: rest => readClassRest flags n (part.combine flags .symmDiff) rest
    | '[' :: rest => do
      let (set, rest) ← match readNamed flags rest with
        | some named => some named
        | none =>
          let (inner, rest) := openClass flags rest
          readClassRest flags n inner rest
      readClassRest flags n (part.add set) rest
    | text => do
      let (set, rest) ← readRange flags text
      readClassRest flags n (part.add set) rest

/-- Reads a class after its opening bracket. -/
def readClass (flags : Flags) (text : List Char) : Option (CharSet × List Char) :=
  let (part, rest) := openClass flags text
  readClassRest flags (text.length + 1) part rest

end CounterWalk.Pattern

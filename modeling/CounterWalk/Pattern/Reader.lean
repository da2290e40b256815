import CounterWalk.Pattern.Class
import CounterWalk.Text.Alphanumeric

/-!
# Reading patterns

A pattern is written as alternatives between bars, each of which is a run of items: characters,
points, classes, escapes, the signs of start and end, and groups in parentheses. A sign of
repetition stands after its item. Flags hold to the end of the group in which they are set.

Main definition:

- `Pattern.ofText?`: the pattern that a text spells.
-/

namespace CounterWalk.Pattern

/-- A pattern of which a part has been read. -/
structure Part where
  flags : Flags := {}
  /-- The alternatives before the last bar, the latest first. -/
  earlier : List Pattern := []
  /-- The items after the last bar, the latest first. A setting of flags is none. -/
  items : List (Option Pattern) := []
  /-- The names of groups. -/
  names : List (List Char) := []

namespace Part

/-- The alternative after the last bar. -/
def latest (part : Part) : Pattern := sequence (part.items.reverse.filterMap id)

/-- All that was read. -/
def pattern (part : Part) : Pattern :=
  match (part.latest :: part.earlier).reverse with
  | [] => .empty
  | a :: rest => choice a rest

/-- The part with one more item. -/
def add (p : Pattern) (part : Part) : Part := { part with items := some p :: part.items }

/-- The part with one more character of a set. -/
def addSet (s : CharSet) (part : Part) : Part := part.add (.one s)

/-- The part with one more character, which stands for itself. -/
def addChar (c : Char) (part : Part) : Part := part.addSet (part.flags.fold (.single c))

/-- The part after a bar. -/
def bar (part : Part) : Part := { part with earlier := part.latest :: part.earlier, items := [] }

/-- Repeats the last item, if there is one. -/
def repeated (again : Pattern → Pattern) (part : Part) : Option Part :=
  match part.items with
  | some p :: items => some { part with items := some (again p) :: items }
  | _ => none

end Part

/-- What a group begins with. -/
inductive GroupHead where
  /-- A group to be kept, perhaps under a name. -/
  | kept (name : Option (List Char))
  /-- A group with flags of its own. -/
  | plain (flags : Flags)
  /-- Flags for the group around. -/
  | setting (flags : Flags)

/-- Sets or clears a flag. How lines end makes no difference here. -/
def Flags.set? (flags : Flags) (value : Bool) : Char → Option Flags
  | 'i' => some { flags with caseless := value }
  | 'm' => some { flags with lines := value }
  | 's' => some { flags with dotAll := value }
  | 'U' => some { flags with lazy := value }
  | 'u' => some { flags with unicode := value }
  | 'x' => some { flags with spaced := value }
  | 'R' => some flags
  | _ => none

/-- Reads flags, each at most once; those after a dash are cleared. -/
def readFlags (flags : Flags) (seen : List Char) : List Char → Option (GroupHead × List Char)
  | [] => none
  | c :: rest =>
    if c = ')' then
      if seen = [] ∨ seen.head? = some '-' then none else some (.setting flags, rest)
    else if c = ':' then
      if seen.head? = some '-' then none else some (.plain flags, rest)
    else if c ∈ seen then none
    else if c = '-' then readFlags flags ('-' :: seen) rest
    else
      match flags.set? ('-' ∉ seen) c with
      | none => none
      | some flags => readFlags flags (c :: seen) rest

/-- Reads the name of a group. -/
def readName (text : List Char) : Option (GroupHead × List Char) :=
  match text.span (· ≠ '>') with
  | (c :: name, _ :: rest) =>
    let starts := c = '_' || (Text.isAlphanumeric c && !Text.isDigit c)
    let goesOn := name.all fun d => Text.isAlphanumeric d || ['_', '.', '[', ']'].contains d
    if starts && goesOn then some (.kept (some (c :: name)), rest) else none
  | _ => none

/-- Reads what a group begins with, after its parenthesis. -/
def readGroupHead (flags : Flags) (text : List Char) : Option (GroupHead × List Char) :=
  match flags.skip text with
  | '?' :: 'P' :: '<' :: text => readName text
  | '?' :: '<' :: text => readName text
  | '?' :: text => readFlags flags [] text
  | text => some (.kept none, text)

/-- Reads a sign of repetition, after which a question mark turns the preference around. -/
def repetition? (flags : Flags) (text : List Char) : Option ((Pattern → Pattern) × List Char) :=
  match text with
  | [] => none
  | c :: text =>
    let (greedy, text) := match text with
      | '?' :: text => (flags.lazy, text)
      | text => (!flags.lazy, text)
    match c with
    | '*' => some (star greedy, text)
    | '+' => some (.plus greedy, text)
    | '?' => some (optional greedy, text)
    | _ => none

/-- Reads an item that is a single character of the text, other than a letter that stands for
itself. -/
def sign? (flags : Flags) : Char → Option Pattern
  | '^' => some (.place (if flags.lines then .lineStart else .textStart))
  | '$' => some (.place (if flags.lines then .lineEnd else .textEnd))
  | '.' =>
    (signed? flags true (if flags.dotAll then .empty else .single '\n')).map .one
  | _ => none

/-- Whether a character begins an item of several characters, or is a sign of repetition. -/
def isReserved (c : Char) : Bool := ['*', '+', '?', '\x7b', '.'].contains c

/-- Reads up to the end of a group, at most `n` items. Repetition that is counted is never closed,
since directives have no place for its closing brace. -/
def readPart : Nat → Part → List Char → Option (Part × List Char)
  | 0, _, _ => none
  | n + 1, part, text =>
    match part.flags.skip text with
    | [] => some (part, [])
    | ')' :: rest => some (part, ')' :: rest)
    | '|' :: rest => readPart n part.bar rest
    | '(' :: rest => do
      match (← readGroupHead part.flags rest) with
      | (.setting flags, rest) =>
        readPart n { part with flags, items := none :: part.items } rest
      | (.plain flags, rest) => group n part flags part.names rest
      | (.kept name, rest) => group n part part.flags (name.toList ++ part.names) rest
    | '[' :: rest => do
      let (set, rest) ← readClass part.flags rest
      readPart n (part.addSet set) rest
    | '\\' :: rest => do
      let (escape, rest) ← readEscape part.flags rest
      let part := match escape with
        | .literal c => part.addChar c
        | .set s => part.addSet (part.flags.fold s)
        | .place p => part.add (.place p)
      readPart n part rest
    | c :: rest =>
      match repetition? part.flags (c :: rest), sign? part.flags c with
      | some (again, rest), _ => do readPart n (← part.repeated again) rest
      | none, some p => readPart n (part.add p) rest
      | none, none => if isReserved c then none else readPart n (part.addChar c) rest
where
  /-- Reads a group and goes on after it. -/
  group (n : Nat) (part : Part) (flags : Flags) (names : List (List Char)) (text : List Char) :
      Option (Part × List Char) := do
    match n with
    | 0 => none
    | n + 1 =>
      match (← readPart n { flags, names } text) with
      | (inner, ')' :: rest) =>
        readPart n { part.add inner.pattern with names := inner.names } rest
      | _ => none

/-- The pattern that a text spells. No two groups have the same name. -/
def ofText? (text : List Char) : Option Pattern :=
  match readPart (2 * text.length + 2) {} text with
  | some (part, []) => if part.names.Nodup then some part.pattern else none
  | _ => none

end CounterWalk.Pattern

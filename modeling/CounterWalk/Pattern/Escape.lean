import CounterWalk.Pattern.Basic
import CounterWalk.Text.Digits

/-!
# Escapes and named sets

After a backslash a character stands for itself, for a control, for a set of characters or for a
place. The texts that patterns are tried on are of ASCII, so a named set holds its characters of
ASCII only.

Main definitions:

- `Pattern.Flags`: how a pattern is to be read;
- `Pattern.readEscape`: what follows a backslash;
- `Pattern.readNamed`: a set between colons and brackets.
-/

namespace CounterWalk.Pattern

/-- How a pattern is to be read. -/
structure Flags where
  /-- Letters stand for themselves in either case. -/
  caseless : Bool := false
  /-- Lines have starts and ends of their own. -/
  lines : Bool := false
  /-- The point stands for the end of a line also. -/
  dotAll : Bool := false
  /-- Repetition is lazy, and greedy where it is marked. -/
  lazy : Bool := false
  /-- Blanks and notes do not count. -/
  spaced : Bool := false
  /-- Characters are those of any script, and not bytes. -/
  unicode : Bool := true
deriving DecidableEq, Repr

/-- What follows a backslash. -/
inductive Escape where
  | literal (c : Char)
  | set (s : CharSet)
  | place (p : Place)
deriving DecidableEq, Repr

/-- The digits. -/
def digitSet : CharSet := .range '0' '9'

/-- The characters of words. -/
def wordSet : CharSet := .ofRanges [('0', '9'), ('A', 'Z'), ('a', 'z'), ('_', '_')]

/-- The blanks. -/
def blankSet : CharSet := .ofRanges [('\t', '\r'), (' ', ' ')]

/-- The set or its complement. Of bytes a complement is no set of characters. -/
def signed? (flags : Flags) (negated : Bool) (s : CharSet) : Option CharSet :=
  if !negated then some s else if flags.unicode then some (.compl s) else none

/-- The characters of a general category, which is named by a letter in either case. -/
def category? (c : Char) : Option CharSet :=
  match c.toLower with
  | 'l' => some (.ofRanges [('A', 'Z'), ('a', 'z')])
  | 'm' => some .empty
  | 'n' => some digitSet
  | 'p' => some (.ofRanges [('!', '#'), ('%', '*'), (',', '/'), (':', ';'), ('?', '@'), ('[', ']'),
      ('_', '_'), ('\x7b', '\x7b'), ('\x7d', '\x7d')])
  | 's' => some (.ofRanges [('$', '$'), ('+', '+'), ('<', '>'), ('^', '^'), ('\x60', '\x60'),
      ('|', '|'), ('~', '~')])
  | 'z' => some (.single ' ')
  | 'c' => some (.ofRanges [('\x00', '\x1f'), ('\x7f', '\x7f')])
  | _ => none

/-- The set of a name between colons. -/
def named? (name : List Char) : Option CharSet :=
  match String.ofList name with
  | "alnum" => some (.ofRanges [('0', '9'), ('A', 'Z'), ('a', 'z')])
  | "alpha" => some (.ofRanges [('A', 'Z'), ('a', 'z')])
  | "ascii" => some (.range '\x00' '\x7f')
  | "blank" => some (.ofRanges [('\t', '\t'), (' ', ' ')])
  | "cntrl" => some (.ofRanges [('\x00', '\x1f'), ('\x7f', '\x7f')])
  | "digit" => some digitSet
  | "graph" => some (.range '!' '~')
  | "lower" => some (.range 'a' 'z')
  | "print" => some (.range ' ' '~')
  | "punct" => some (.ofRanges [('!', '/'), (':', '@'), ('[', '\x60'), ('\x7b', '~')])
  | "space" => some blankSet
  | "upper" => some (.range 'A' 'Z')
  | "word" => some wordSet
  | "xdigit" => some (.ofRanges [('0', '9'), ('A', 'F'), ('a', 'f')])
  | _ => none

/-- The character whose code is written with so many digits to base sixteen. -/
def readCode (digits : Nat) (text : List Char) : Option (Char × List Char) := do
  let values ← (text.take digits).mapM Text.hexValue?
  let code := values.foldl (fun n v => 16 * n + v) 0
  if values.length = digits ∧ code.isValidChar then
    some (Char.ofNat code, text.drop digits)
  else none

/-- The place that an escape asks for. The words of all scripts have no place of their own here. -/
def place? (flags : Flags) : Char → Option Place
  | 'A' => some .textStart
  | 'z' => some .textEnd
  | 'b' => if flags.unicode then none else some .boundary
  | 'B' => if flags.unicode then none else some .noBoundary
  | '<' => if flags.unicode then none else some .wordStart
  | '>' => if flags.unicode then none else some .wordEnd
  | _ => none

/-- The control that a letter stands for after a backslash. -/
def control? : Char → Option Char
  | 'a' => some '\x07'
  | 'f' => some '\x0c'
  | 'n' => some '\n'
  | 'r' => some '\r'
  | 't' => some '\t'
  | 'v' => some '\x0b'
  | _ => none

/-- The set that a letter stands for after a backslash, in capitals its complement. -/
def shorthand? (flags : Flags) (c : Char) : Option CharSet :=
  let set? := match c.toLower with
    | 'd' => some digitSet
    | 's' => some blankSet
    | 'w' => some wordSet
    | _ => none
  set?.bind (signed? flags c.isUpper)

/-- Whether a character stands for itself after a backslash. -/
def isEscapable (c : Char) : Bool := c < '\x80' && !c.isAlphanum && c ≠ '<' && c ≠ '>'

/-- Reads what follows a backslash. A code of two digits may be that of a byte, of which only those
of ASCII are characters. -/
def readEscape (flags : Flags) : List Char → Option (Escape × List Char)
  | [] => none
  | c :: rest =>
    match c with
    | 'x' => do
      let (d, rest) ← readCode 2 rest
      if flags.unicode ∨ d < '\x80' then some (.literal d, rest) else none
    | 'u' => (readCode 4 rest).map fun (d, rest) => (.literal d, rest)
    | 'U' => (readCode 8 rest).map fun (d, rest) => (.literal d, rest)
    | 'p' | 'P' => do
      let d ← rest.head?
      let set ← category? d
      let set ← if flags.unicode then signed? flags (c = 'P') set else none
      return (.set set, rest.tail)
    | c =>
      if isEscapable c then some (.literal c, rest)
      else
        match control? c, place? flags c, shorthand? flags c with
        | some d, _, _ => some (.literal d, rest)
        | none, some p, _ => some (.place p, rest)
        | none, none, some s => some (.set s, rest)
        | none, none, none => none

/-- Reads a set between colons and brackets, of which the first bracket was seen. -/
def readNamed (flags : Flags) (text : List Char) : Option (CharSet × List Char) :=
  match text with
  | ':' :: text =>
    let (negated, text) := match text with
      | '^' :: text => (true, text)
      | text => (false, text)
    match text.span (· ≠ ':') with
    | (name, ':' :: ']' :: rest) => do
      let set ← named? name
      let set ← signed? flags negated set
      return (set, rest)
    | _ => none
  | _ => none

end CounterWalk.Pattern

/-!
# Patterns

A pattern describes texts. It is built from sets of characters and from places in a text by putting
patterns one after another, by choice and by repetition. Choice and repetition have an order of
preference, which settles how a text is searched.

Main definitions:

- `CharSet`: sets of characters, with `CharSet.contains`;
- `Place`: what can be asked of a place in a text, with `Place.holds`;
- `Pattern`.
-/

namespace CounterWalk

/-- A set of characters. -/
inductive CharSet where
  /-- All characters from the first to the last. -/
  | range (first last : Char)
  | union (a b : CharSet)
  | inter (a b : CharSet)
  | compl (a : CharSet)
  /-- The characters of a set in either letter case. -/
  | caseless (a : CharSet)
deriving DecidableEq, Repr

namespace CharSet

/-- The set of one character. -/
def single (c : Char) : CharSet := .range c c

/-- The set without characters. -/
def empty : CharSet := .range '\x01' '\x00'

/-- The characters of some ranges. -/
def ofRanges (ranges : List (Char × Char)) : CharSet :=
  ranges.foldr (fun r s => .union (.range r.1 r.2) s) empty

/-- The characters that differ from a character of ASCII in letter case alone, and itself. -/
def variants (c : Char) : List Char :=
  let others := match c.toLower with
    | 'k' => ['\u212a']
    | 's' => ['\u017f']
    | _ => []
  c.toLower :: c.toUpper :: others

/-- Whether a character is in a set. -/
def contains : CharSet → Char → Bool
  | .range first last, c => first ≤ c && c ≤ last
  | .union a b, c => a.contains c || b.contains c
  | .inter a b, c => a.contains c && b.contains c
  | .compl a, c => !a.contains c
  | .caseless a, c => (variants c).any a.contains

/-- The characters in the first set and not in the second. -/
def diff (a b : CharSet) : CharSet := .inter a (.compl b)

/-- The characters in one of the sets but not in both. -/
def symmDiff (a b : CharSet) : CharSet := .union (a.diff b) (b.diff a)

theorem contains_single {c d : Char} : (single c).contains d = true ↔ d = c := by
  simp only [single, contains, Bool.and_eq_true, decide_eq_true_eq]
  exact ⟨fun h => Char.le_antisymm h.2 h.1, by rintro rfl; exact ⟨Char.le_refl _, Char.le_refl _⟩⟩

end CharSet

/-- What can be asked of a place in a text. -/
inductive Place where
  | textStart
  | textEnd
  | lineStart
  | lineEnd
  /-- Where a word starts or ends. -/
  | boundary
  /-- Where no word starts or ends. -/
  | noBoundary
  | wordStart
  | wordEnd
deriving DecidableEq, Repr

/-- The characters before and after a place. -/
structure Surroundings where
  before : Option Char
  after : Option Char
deriving DecidableEq, Repr

/-- Whether a character is part of words. -/
def isWordChar (c : Char) : Bool := c.isAlphanum || c = '_'

/-- Whether a place is as asked. -/
def Place.holds (p : Place) (s : Surroundings) : Bool :=
  let inWord (c : Option Char) := c.any isWordChar
  match p with
  | .textStart => s.before.isNone
  | .textEnd => s.after.isNone
  | .lineStart => s.before.all (· = '\n')
  | .lineEnd => s.after.all (· = '\n')
  | .boundary => inWord s.before != inWord s.after
  | .noBoundary => inWord s.before == inWord s.after
  | .wordStart => !inWord s.before && inWord s.after
  | .wordEnd => inWord s.before && !inWord s.after

/-- A description of texts. -/
inductive Pattern where
  /-- The empty text. -/
  | empty
  /-- A character of a set. -/
  | one (set : CharSet)
  /-- The empty text at a place as asked. -/
  | place (p : Place)
  | seq (a b : Pattern)
  /-- One of two, the first rather than the second. -/
  | either (a b : Pattern)
  /-- A pattern once or more, rather more often if it is greedy. -/
  | plus (greedy : Bool) (a : Pattern)
deriving DecidableEq, Repr

namespace Pattern

/-- A pattern once or not at all. -/
def optional (greedy : Bool) (a : Pattern) : Pattern :=
  if greedy then .either a .empty else .either .empty a

/-- A pattern any number of times. -/
def star (greedy : Bool) (a : Pattern) : Pattern := optional greedy (.plus greedy a)

/-- Patterns one after another. -/
def sequence : List Pattern → Pattern
  | [] => .empty
  | [a] => a
  | a :: rest => .seq a (sequence rest)

/-- One of the first pattern and the others, rather an earlier one. -/
def choice (a : Pattern) : List Pattern → Pattern
  | [] => a
  | b :: rest => .either a (choice b rest)

end Pattern

end CounterWalk

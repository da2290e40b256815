import CounterWalk.Decimal.Real
import CounterWalk.Json.Basic
import CounterWalk.Json.Escape

/-!
# Writing JSON

A `Layout` says what blanks stand where a line may be broken and after a colon; the rest of the text
is the same in every layout.
-/

namespace CounterWalk.Json

/-- Where blanks stand. -/
structure Layout where
  /-- What stands before an element or a closing bracket at a depth of nesting. -/
  newline : Nat → List Char
  /-- What stands after the colon of a member. -/
  afterColon : List Char

namespace Layout

/-- No blanks at all. -/
def compact : Layout := ⟨fun _ => [], []⟩

/-- One element on a line, two spaces for each depth, one space after a colon. -/
def pretty : Layout := ⟨fun depth => '\n' :: List.replicate (2 * depth) ' ', [' ']⟩

end Layout

/-- The text of a number. -/
def numberText : JsonNumber → List Char
  | .natural n => (toString n.toNat).toList
  | .negative n => (toString n.toInt).toList
  | .real bits => (Decimal.realText bits).toList

mutual

/-- The text of a value that stands at a depth of nesting. -/
def text (layout : Layout) (depth : Nat) : Json → List Char
  | .null => ['n', 'u', 'l', 'l']
  | .bool true => ['t', 'r', 'u', 'e']
  | .bool false => ['f', 'a', 'l', 's', 'e']
  | .number n => numberText n
  | .string s => stringText s
  | .array [] => ['[', ']']
  | .array (v :: rest) =>
    '[' :: layout.newline (depth + 1) ++ text layout (depth + 1) v ++
      itemsText layout (depth + 1) rest ++ layout.newline depth ++ [']']
  | .object [] => ['\x7b', '\x7d']
  | .object ((name, v) :: rest) =>
    '\x7b' :: layout.newline (depth + 1) ++ stringText name ++ ':' :: layout.afterColon ++
      text layout (depth + 1) v ++ membersText layout (depth + 1) rest ++
      layout.newline depth ++ ['\x7d']

/-- The text of the elements after the first. -/
def itemsText (layout : Layout) (depth : Nat) : List Json → List Char
  | [] => []
  | v :: rest => ',' :: layout.newline depth ++ text layout depth v ++ itemsText layout depth rest

/-- The text of the members after the first. -/
def membersText (layout : Layout) (depth : Nat) : List (String × Json) → List Char
  | [] => []
  | (name, v) :: rest =>
    ',' :: layout.newline depth ++ stringText name ++ ':' :: layout.afterColon ++
      text layout depth v ++ membersText layout depth rest

end

/-- The text in a layout. -/
def render (layout : Layout) (v : Json) : String := String.ofList (v.text layout 0)

end CounterWalk.Json

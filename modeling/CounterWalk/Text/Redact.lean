import CounterWalk.Text.Digits

/-!
# Redacted text

A value that must not be told is replaced by a star. It is known by the words before it.
-/

namespace CounterWalk.Text

/-- What stands before a value in a message. -/
def valueMarkers : List (List Char) :=
  ["counter reported ", "initial value: ", ", got ", "\x7b value: ", "incremented to: "].map
    String.toList

/-- Whether a character is part of a value. -/
def isValueChar (c : Char) : Bool := c = '-' || isDigit c

/-- The number of characters, after the first one, of the marker that a text starts with. -/
def markerRest? (text : List Char) : Option Nat :=
  (valueMarkers.find? fun m => m.isPrefixOf text).map (·.length - 1)

/-- Replaces the value after each marker. Inside a marker the number of its characters that are
still to come is kept; with none to come a value is being skipped. -/
def redactFrom : Option Nat → List Char → List Char
  | none, [] => []
  | some _, [] => ['*']
  | none, c :: rest => c :: redactFrom (markerRest? (c :: rest)) rest
  | some (n + 1), c :: rest => c :: redactFrom (some n) rest
  | some 0, c :: rest =>
    if isValueChar c then redactFrom (some 0) rest
    else '*' :: c :: redactFrom (markerRest? (c :: rest)) rest

/-- Replaces the value after each marker. -/
def redactValues (s : String) : String := String.ofList (redactFrom none s.toList)

/-- What stands before the last field of a mismatch that is shown by its fields. -/
def actualMarker : List Char := ", actual: ".toList

/-- The text up to the last field of a mismatch, if there is such a field. -/
def beforeActual? : List Char → Option (List Char)
  | [] => none
  | c :: rest =>
    if actualMarker.isPrefixOf (c :: rest) then some [] else (beforeActual? rest).map (c :: ·)

/-- Cuts the text at the last field of a mismatch, which is replaced with all that follows. Only a
text without such a field has its values replaced. -/
def redact (s : String) : String :=
  match beforeActual? s.toList with
  | none => redactValues s
  | some text => String.ofList (text ++ actualMarker ++ ['*', ' ', '\x7d'])

end CounterWalk.Text

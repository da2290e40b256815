import CounterWalk.Text.Digits

/-!
# Literals

A literal is a text that stands for a truth value or for a number. A number may have a sign, a point
and an exponent, and may be infinite or none at all.
-/

namespace CounterWalk.Text

/-- The text without a sign before it. -/
def dropSign : List Char → List Char
  | '+' :: rest => rest
  | '-' :: rest => rest
  | text => text

/-- Whether a text is made of digits, among which one point may stand. -/
def isDecimal (text : List Char) : Bool :=
  match text.span isDigit with
  | (whole, []) => !whole.isEmpty
  | (whole, point :: fraction) =>
    point = '.' && fraction.all isDigit && !(whole.isEmpty && fraction.isEmpty)

/-- Whether a text without a sign is a number that is written with digits. -/
def isMagnitude (text : List Char) : Bool :=
  match text.span fun c => c ≠ 'e' && c ≠ 'E' with
  | (decimal, []) => isDecimal decimal
  | (decimal, _ :: exponent) =>
    let digits := dropSign exponent
    isDecimal decimal && !digits.isEmpty && digits.all isDigit

/-- Whether a text is a number. -/
def isNumber (text : List Char) : Bool :=
  let magnitude := dropSign text
  ["inf", "infinity", "nan"].contains (String.ofList magnitude).toLower || isMagnitude magnitude

/-- Whether a text is a truth value or a number. -/
def isLiteral (text : List Char) : Bool :=
  text = "true".toList || text = "false".toList || isNumber text

end CounterWalk.Text

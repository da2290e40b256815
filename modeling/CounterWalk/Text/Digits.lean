/-!
# Digits

Only the ten ASCII digits count as decimal digits; to base sixteen six ASCII letters follow them.
-/

namespace CounterWalk.Text

/-- Whether a character is a decimal digit. -/
def isDigit (c : Char) : Bool := '0' ≤ c && c ≤ '9'

/-- The value of a decimal digit. -/
def digitValue (c : Char) : Nat := c.toNat - '0'.toNat

/-- The value of a list of digits. -/
def digitsValue (digits : List Char) : Nat := digits.foldl (fun n c => 10 * n + digitValue c) 0

/-- The value of a digit to base sixteen. -/
def hexValue? (c : Char) : Option Nat :=
  if '0' ≤ c ∧ c ≤ '9' then some (c.toNat - '0'.toNat)
  else if 'a' ≤ c ∧ c ≤ 'f' then some (c.toNat - 'a'.toNat + 10)
  else if 'A' ≤ c ∧ c ≤ 'F' then some (c.toNat - 'A'.toNat + 10)
  else none

/-- Why a text is not the numeral of an unsigned word. -/
inductive NumeralError where
  | empty
  | invalidDigit
  | tooLarge
deriving DecidableEq, Repr

/-- The sentence that reports the error. -/
def NumeralError.message : NumeralError → String
  | .empty => "cannot parse integer from empty string"
  | .invalidDigit => "invalid digit found in string"
  | .tooLarge => "number too large to fit in target type"

/-- Reads digits on top of a number that was read before them. -/
def readDigits : Nat → List Char → Except NumeralError UInt64
  | n, [] => .ok (UInt64.ofNat n)
  | n, c :: rest =>
    if !isDigit c then .error .invalidDigit
    else if 10 * n + digitValue c < UInt64.size then readDigits (10 * n + digitValue c) rest
    else .error .tooLarge

/-- Reads the numeral of an unsigned word: digits, before which a plus sign may stand. -/
def readNumeral : List Char → Except NumeralError UInt64
  | [] => .error .empty
  | ['+'] => .error .invalidDigit
  | '+' :: digits => readDigits 0 digits
  | digits => readDigits 0 digits

end CounterWalk.Text

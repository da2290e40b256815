import CounterWalk.Json.Error
import CounterWalk.Text.Digits

/-!
# Reading numbers

An integer is kept as a word if it fits one. Any other number becomes a real: the digits that fit an
unsigned word are its significand, and the digits dropped before the point count as powers of ten.
The significand is scaled by one rounded multiplication or division, so the result may be off in the
last place; a number beyond all reals is refused.
-/

namespace CounterWalk.Json

open Text (isDigit digitValue digitsValue)

/-- Takes digits into a significand for as long as it fits an unsigned word, and counts those that
are taken. -/
def absorb : Nat → List Char → Nat × Nat
  | n, [] => (n, 0)
  | n, c :: rest =>
    if 10 * n + digitValue c < UInt64.size then
      let (n, taken) := absorb (10 * n + digitValue c) rest
      (n, taken + 1)
    else
      (n, 0)

/-- A power of ten, rounded. -/
def powerOfTen (n : Nat) : Float := Float.ofScientific 1 false n

/-- Divides so many times by the greatest power of ten that a real can hold. -/
def shrink : Nat → Float → Float
  | 0, x => x
  | n + 1, x => if x == 0 then x else shrink n (x / powerOfTen 308)

/-- Divides by a power of ten, by at most 308 places at a time. -/
def scaleDown (x : Float) (n : Nat) : Float :=
  let steps := (n - 1) / 308
  shrink steps x / powerOfTen (n - 308 * steps)

/-- Multiplies by a power of ten, unless the result would be infinite. -/
def scaleUp? (x : Float) (n : Nat) : Option Float :=
  if n ≤ 308 then
    let y := x * powerOfTen n
    if y.isInf then none else some y
  else if x == 0 then some x
  else none

/-- The real `significand * 10 ^ exponent`, with a sign. -/
def real? (isNegative : Bool) (significand : Nat) (exponent : Int) : Option JsonNumber :=
  let x := (UInt64.ofNat significand).toFloat
  let y := match exponent with
    | .ofNat n => scaleUp? x n
    | .negSucc n => some (scaleDown x (n + 1))
  y.map fun y => .real (if isNegative then -y else y).toBits

/-- The real of a significand and a written exponent that comes on top of another. An exponent
beyond 31 bits stands for infinity or zero. -/
def realWithExponent? (isNegative : Bool) (significand : Nat) (exponent : Int)
    (exponentIsNegative : Bool) (written : Nat) : Option JsonNumber :=
  if written < Nat.pow 2 31 then
    real? isNegative significand
      (if exponentIsNegative then exponent - written else exponent + written)
  else if significand ≠ 0 ∧ !exponentIsNegative then none
  else real? isNegative 0 0

/-- The integer of a magnitude and a sign. A zero with a sign, and a number that fits no signed
word, are reals. -/
def integer? (isNegative : Bool) (n : Nat) : Option JsonNumber :=
  if !isNegative then some (.natural (UInt64.ofNat n))
  else if 0 < n ∧ n ≤ Nat.pow 2 63 then some (.negative (Int64.ofInt (-n)))
  else real? true n 0

/-- A result, or the refusal of a number out of range. -/
def inRange (n : Option JsonNumber) (rest : List Char) :
    Except ReadError (JsonNumber × List Char) :=
  match n with
  | some n => .ok (n, rest)
  | none => .error .malformed

/-- The error where a digit has to stand. -/
def noDigit (rest : List Char) : ReadError := if rest.isEmpty then .truncated else .malformed

/-- Reads the exponent, after its letter. -/
def readExponent (isNegative : Bool) (significand : Nat) (exponent : Int) (text : List Char) :
    Except ReadError (JsonNumber × List Char) :=
  let (exponentIsNegative, text) := match text with
    | '+' :: rest => (false, rest)
    | '-' :: rest => (true, rest)
    | rest => (false, rest)
  let digits := text.takeWhile isDigit
  let rest := text.dropWhile isDigit
  if digits.isEmpty then .error (noDigit rest)
  else
    let written := digitsValue digits
    inRange (realWithExponent? isNegative significand exponent exponentIsNegative written) rest

/-- Reads what may follow the whole part: a fraction, an exponent or neither. -/
def readFraction (isNegative : Bool) (whole : List Char) (text : List Char) :
    Except ReadError (JsonNumber × List Char) :=
  let (significand, taken) := absorb 0 whole
  let dropped : Nat := whole.length - taken
  match text with
  | '.' :: text =>
    let digits := text.takeWhile isDigit
    let rest := text.dropWhile isDigit
    let (significand, taken) := absorb significand digits
    let exponent : Int := dropped - taken
    if digits.isEmpty then .error (noDigit rest)
    else match rest with
      | 'e' :: rest | 'E' :: rest => readExponent isNegative significand exponent rest
      | rest => inRange (real? isNegative significand exponent) rest
  | 'e' :: rest | 'E' :: rest => readExponent isNegative significand dropped rest
  | rest =>
    if dropped = 0 then inRange (integer? isNegative significand) rest
    else inRange (real? isNegative significand dropped) rest

/-- Reads a number, which starts with a digit or a minus sign. A whole part of more than one digit
does not start with zero. -/
def readNumber (text : List Char) : Except ReadError (JsonNumber × List Char) :=
  let (isNegative, text) := match text with
    | '-' :: rest => (true, rest)
    | rest => (false, rest)
  let whole := text.takeWhile isDigit
  let rest := text.dropWhile isDigit
  match whole with
  | [] => .error (noDigit rest)
  | '0' :: _ :: _ => .error .malformed
  | whole => readFraction isNegative whole rest

end CounterWalk.Json

/-!
# Shortest decimals

A binary64 number stands for all reals that round to it. Among the decimals that stand in this
interval, the ones with the fewest digits are looked for, and of these the nearest is taken. All
arithmetic is on natural numbers.

Main definitions:

- `Magnitude.ofBits`: a finite number without its sign, as `significand * 2 ^ exponent`;
- `Magnitude.shortest`: its shortest decimal.
-/

namespace CounterWalk.Decimal

/-- A positive number `significand * 2 ^ exponent`. -/
structure Magnitude where
  significand : Nat
  exponent : Int
  /-- Whether the next number below is only half as far away as the next above. -/
  crowded : Bool := false
deriving DecidableEq, Repr

/-- A decimal `digits * 10 ^ exponent`. -/
structure Scientific where
  digits : Nat
  exponent : Int
deriving DecidableEq, Repr

/-- A fraction with a positive denominator. -/
structure Fraction where
  num : Nat
  den : Nat
deriving DecidableEq, Repr

namespace Fraction

/-- The fraction `n * base ^ e`. -/
def scaled (n base : Nat) (e : Int) : Fraction :=
  match e with
  | .ofNat e => ⟨n * Nat.pow base e, 1⟩
  | .negSucc e => ⟨n, Nat.pow base (e + 1)⟩

/-- Whether one fraction is at most another. -/
def le (x y : Fraction) : Bool := x.num * y.den ≤ y.num * x.den

/-- Whether one fraction is less than another. -/
def lt (x y : Fraction) : Bool := x.num * y.den < y.num * x.den

/-- The distance between two fractions. -/
def distance (x y : Fraction) : Fraction :=
  let a := x.num * y.den
  let b := y.num * x.den
  ⟨max a b - min a b, x.den * y.den⟩

/-- The whole part of `x / 10 ^ e`. -/
def floorAt (x : Fraction) (e : Int) : Nat :=
  let unit := scaled 1 10 e
  x.num * unit.den / (x.den * unit.num)

end Fraction

namespace Scientific

/-- The value as a fraction. -/
def toFraction (s : Scientific) : Fraction := .scaled s.digits 10 s.exponent

/-- Moves the zeros at the end of the digits into the exponent, at most `n` of them. -/
def trim (s : Scientific) : Nat → Scientific
  | 0 => s
  | n + 1 => if s.digits % 10 = 0 then trim ⟨s.digits / 10, s.exponent + 1⟩ n else s

end Scientific

namespace Magnitude

/-- The magnitude of a finite binary64 number, unless that is zero. -/
def ofBits (bits : UInt64) : Option Magnitude :=
  let fraction := (bits &&& 0xFFFFFFFFFFFFF).toNat
  let biased := (bits >>> 52 &&& 0x7FF).toNat
  if biased = 0 then
    if fraction = 0 then none else some ⟨fraction, -1074, false⟩
  else
    some ⟨0x10000000000000 + fraction, (biased : Int) - 1075, fraction = 0 && biased ≠ 1⟩

/-- The value as a fraction. -/
def toFraction (m : Magnitude) : Fraction := .scaled m.significand 2 m.exponent

/-- The least real that rounds to the number, or the bound of such. -/
def lower (m : Magnitude) : Fraction :=
  if m.crowded then .scaled (4 * m.significand - 1) 2 (m.exponent - 2)
  else .scaled (2 * m.significand - 1) 2 (m.exponent - 1)

/-- The greatest real that rounds to the number, or the bound of such. -/
def upper (m : Magnitude) : Fraction := .scaled (2 * m.significand + 1) 2 (m.exponent - 1)

/-- Whether a real rounds to the number. The bounds do if the significand is even. -/
def covers (m : Magnitude) (x : Fraction) : Bool :=
  if m.significand % 2 = 0 then m.lower.le x && x.le m.upper else m.lower.lt x && x.lt m.upper

/-- The exponent of ten for which the number has one digit before the point. -/
def decimalExponent (m : Magnitude) : Int :=
  let x := m.toFraction
  if x.den ≤ x.num then
    (toString (x.num / x.den)).length - 1
  else
    -- one power of ten below one for each digit of the reciprocal's whole part
    0 - (toString ((x.den - 1) / x.num)).length

/-- The neighbour of the number on the grid of `n` digits that rounds to it, the nearer one if
both do. -/
def onGrid (m : Magnitude) (n : Nat) : Option Scientific :=
  let e := m.decimalExponent - (n - 1 : Nat)
  let below : Scientific := ⟨m.toFraction.floorAt e, e⟩
  let above : Scientific := ⟨below.digits + 1, e⟩
  let x := m.toFraction
  match m.covers below.toFraction, m.covers above.toFraction with
  | true, true =>
    let down := x.distance below.toFraction
    let up := x.distance above.toFraction
    if down.lt up then some below
    else if up.lt down then some above
    else if below.digits % 2 = 0 then some below else some above
  | true, false => some below
  | false, true => some above
  | false, false => none

/-- The shortest decimal that rounds to the number; seventeen digits always suffice. -/
def shortest (m : Magnitude) : Scientific :=
  let found := (List.range 17).findSome? fun n => m.onGrid (n + 1)
  (found.getD ⟨m.toFraction.floorAt (m.decimalExponent - 16), m.decimalExponent - 16⟩).trim 17

end Magnitude

end CounterWalk.Decimal

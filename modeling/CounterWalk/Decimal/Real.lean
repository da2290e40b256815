import CounterWalk.Decimal.Shortest

/-!
# Texts of reals

A binary64 number is written with the digits of its shortest decimal. From `1e-5` to below `1e16`
the digits stand around a point, with at least one on each side of it; elsewhere one digit stands
before the point and a signed power of ten follows.
-/

namespace CounterWalk.Decimal

/-- The digits around a point that stands after the first `n` of them; `n` may lie beyond them. -/
def aroundPoint (digits : List Char) (n : Int) : List Char :=
  if n ≤ 0 then
    '0' :: '.' :: List.replicate (-n).toNat '0' ++ digits
  else if n.toNat < digits.length then
    digits.take n.toNat ++ '.' :: digits.drop n.toNat
  else
    digits ++ List.replicate (n.toNat - digits.length) '0' ++ ['.', '0']

/-- The digits with a power of ten, which has its sign always. -/
def withPower (digits : List Char) (e : Int) : List Char :=
  let significand := match digits with
    | first :: second :: rest => first :: '.' :: second :: rest
    | short => short
  let sign := if e < 0 then '-' else '+'
  significand ++ 'e' :: sign :: (toString e.natAbs).toList

/-- The text of a decimal. -/
def scientificText (s : Scientific) : List Char :=
  let digits := (toString s.digits).toList
  let e := s.exponent + digits.length - 1
  if -5 ≤ e ∧ e < 16 then aroundPoint digits (e + 1) else withPower digits e

/-- The text of a finite binary64 number. -/
def realText (bits : UInt64) : String :=
  let magnitude := match Magnitude.ofBits bits with
    | none => ['0', '.', '0']
    | some m => scientificText m.shortest
  String.ofList (if bits >>> 63 = 0 then magnitude else '-' :: magnitude)

end CounterWalk.Decimal

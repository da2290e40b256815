import CounterWalk.Random.Keystream

/-!
# Unbiased choice

A number below `n` is chosen by multiplying a random 32-bit word by `n`: the high half of the
product is the number. The word is thrown away if the low half lies beyond a bound, which leaves the
same number of words for each result.
-/

namespace CounterWalk.Choice

/-- The number of zero bits above the highest bit of `n`, out of 32. -/
def leadingZeros (n : Nat) : Nat := 31 - n.log2

/-- The greatest low half with which a word is kept. -/
def bound (n : Nat) : Nat := (n <<< leadingZeros n) - 1

/-- The number below `n` that a word stands for, unless the word has to be thrown away. -/
def pick? (n : Nat) (w : UInt32) : Option Nat :=
  if w.toNat * n % UInt32.size ≤ bound n then some (w.toNat * n / UInt32.size) else none

/-- The number of words after which the stream of a key starts again. -/
def period : Nat := Nat.pow 2 68

/-- The number of the first word that is kept, of the next `tries` words; `0` if none is. -/
def firstKept (n : Nat) : Nat → Keystream → Nat × Keystream
  | 0, g => (0, g)
  | tries + 1, g =>
    let (w, g) := g.word
    match pick? n w with
    | some i => (i, g)
    | none => firstKept n tries g

/-- A number below `n`. A stream in whose whole period no word is kept has none to give, and the
answer is then `0`. -/
def below (n : Nat) (g : Keystream) : Nat × Keystream := firstKept n period g

/-- One of the elements, or `none` if there are none. -/
def element? {α : Type} (l : List α) (g : Keystream) : Option (α × Keystream) :=
  match l with
  | [] => none
  | a :: _ =>
    let (i, g) := below l.length g
    some (l.getD i a, g)

theorem element?_eq_none_iff {α : Type} {l : List α} {g : Keystream} :
    element? l g = none ↔ l = [] := by
  cases l <;> simp [element?]

end CounterWalk.Choice

/-!
# The ChaCha block function

ChaCha mixes a four by four grid of 32-bit words. A quarter round acts on a column of the grid; kept
as rows, the four columns are mixed at once, and after the rows have been turned by their index the
columns are the diagonals. A block is the mixed grid added to the grid it came from.
-/

namespace CounterWalk.ChaCha

/-- The word with its bits turned left by `n` places. -/
def rotateLeft (w n : UInt32) : UInt32 := (w <<< n) ||| (w >>> (32 - n))

/-- Four words. -/
structure Row where
  a : UInt32
  b : UInt32
  c : UInt32
  d : UInt32
deriving DecidableEq, Repr

namespace Row

/-- Combines two rows word by word. -/
def zipWith (f : UInt32 → UInt32 → UInt32) (x y : Row) : Row :=
  ⟨f x.a y.a, f x.b y.b, f x.c y.c, f x.d y.d⟩

/-- Each word of `x`, after an exclusive or with `y`, turned left by `n` places. -/
def xorRotate (n : UInt32) (x y : Row) : Row := zipWith (fun v w => rotateLeft (v ^^^ w) n) x y

/-- Adds two rows word by word. -/
def add (x y : Row) : Row := zipWith (· + ·) x y

/-- The row turned left by one place. -/
def turn (x : Row) : Row := ⟨x.b, x.c, x.d, x.a⟩

/-- The words from left to right. -/
def toList (x : Row) : List UInt32 := [x.a, x.b, x.c, x.d]

end Row

/-- Four rows. -/
structure Grid where
  top : Row
  upper : Row
  lower : Row
  bottom : Row
deriving DecidableEq, Repr

namespace Grid

/-- Mixes every column. -/
def mixColumns (g : Grid) : Grid :=
  let top := g.top.add g.upper
  let bottom := Row.xorRotate 16 g.bottom top
  let lower := g.lower.add bottom
  let upper := Row.xorRotate 12 g.upper lower
  let top := top.add upper
  let bottom := Row.xorRotate 8 bottom top
  let lower := lower.add bottom
  let upper := Row.xorRotate 7 upper lower
  ⟨top, upper, lower, bottom⟩

/-- Turns the rows so that the diagonals stand as columns. -/
def skew (g : Grid) : Grid := ⟨g.top, g.upper.turn, g.lower.turn.turn, g.bottom.turn.turn.turn⟩

/-- Turns the rows back. -/
def unskew (g : Grid) : Grid := ⟨g.top, g.upper.turn.turn.turn, g.lower.turn.turn, g.bottom.turn⟩

/-- Mixes the columns and then the diagonals: two rounds. -/
def mixTwice (g : Grid) : Grid := g.mixColumns.skew.mixColumns.unskew

/-- Twelve rounds. -/
def mix (g : Grid) : Grid := g.mixTwice.mixTwice.mixTwice.mixTwice.mixTwice.mixTwice

/-- Adds two grids word by word. -/
def add (g h : Grid) : Grid :=
  ⟨g.top.add h.top, g.upper.add h.upper, g.lower.add h.lower, g.bottom.add h.bottom⟩

/-- The words row by row. -/
def toList (g : Grid) : List UInt32 :=
  g.top.toList ++ g.upper.toList ++ g.lower.toList ++ g.bottom.toList

theorem unskew_skew (g : Grid) : g.skew.unskew = g := rfl

theorem length_toList (g : Grid) : g.toList.length = 16 := rfl

end Grid

/-- A key of eight words. -/
structure Key where
  first : Row
  second : Row
deriving DecidableEq, Repr

/-- The top row of every grid, the same for all keys. -/
def constants : Row := ⟨0x61707865, 0x3320646e, 0x79622d32, 0x6b206574⟩

/-- The block of a key at a place, which is counted in 64 bits. -/
def block (key : Key) (place : UInt64) : Grid :=
  let start : Grid :=
    ⟨constants, key.first, key.second, ⟨place.toUInt32, (place >>> 32).toUInt32, 0, 0⟩⟩
  start.mix.add start

end CounterWalk.ChaCha

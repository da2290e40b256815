import CounterWalk.Random.ChaCha

/-!
# Key streams

The blocks of a ChaCha key, one after another, are an endless stream of 32-bit words. A `Keystream`
is a place in such a stream. Two words make a 64-bit word, the low half first.
-/

namespace CounterWalk

/-- A place in the stream of words of a key: the words left of the present block and the place of
the block after it. -/
structure Keystream where
  key : ChaCha.Key
  next : UInt64 := 0
  ready : List UInt32 := []
deriving DecidableEq, Repr

namespace Keystream

/-- The next word. -/
def word (g : Keystream) : UInt32 × Keystream :=
  match g.ready with
  | w :: ready => (w, { g with ready })
  | [] =>
    let block := ChaCha.block g.key g.next
    (block.top.a, { g with next := g.next + 1, ready := block.toList.tail })

/-- The next two words as one, the low half first. -/
def doubleWord (g : Keystream) : UInt64 × Keystream :=
  let (low, g) := g.word
  let (high, g) := g.word
  (high.toUInt64 <<< 32 ||| low.toUInt64, g)

/-- The 64-bit word at a given index from the start of the stream of a key. -/
def doubleWordAt (key : ChaCha.Key) (i : Nat) : UInt64 :=
  let g : Keystream :=
    { key, next := (UInt64.ofNat (i / 8)) + 1,
      ready := (ChaCha.block key (UInt64.ofNat (i / 8))).toList.drop (2 * (i % 8)) }
  g.doubleWord.1

/-- One step of the sequence that spreads a 64-bit seed over a key, and the word it gives. -/
def spread (s : UInt64) : UInt32 × UInt64 :=
  let s := s * 6364136223846793005 + 11634580027462260723
  let x := (((s >>> 18) ^^^ s) >>> 27).toUInt32
  let n := (s >>> 59).toUInt32
  (ChaCha.rotateLeft x (32 - n), s)

/-- The stream of a 64-bit seed. -/
def ofSeed (seed : UInt64) : Keystream :=
  let (a, s) := spread seed
  let (b, s) := spread s
  let (c, s) := spread s
  let (d, s) := spread s
  let (e, s) := spread s
  let (f, s) := spread s
  let (g, s) := spread s
  let (h, _) := spread s
  { key := ⟨⟨a, b, c, d⟩, ⟨e, f, g, h⟩⟩ }

/-- The 32-bit words of a list of bytes, the low byte first. -/
def wordsOfBytes : List UInt8 → List UInt32
  | a :: b :: c :: d :: rest =>
    (a.toUInt32 ||| b.toUInt32 <<< 8 ||| c.toUInt32 <<< 16 ||| d.toUInt32 <<< 24) ::
      wordsOfBytes rest
  | _ => []

/-- The key of 32 bytes. -/
def keyOfBytes? (bytes : List UInt8) : Option ChaCha.Key :=
  if bytes.length = 32 then
    match wordsOfBytes bytes with
    | [a, b, c, d, e, f, g, h] => some ⟨⟨a, b, c, d⟩, ⟨e, f, g, h⟩⟩
    | _ => none
  else
    none

/-- The stream of a key of 32 bytes. -/
def ofBytes? (bytes : List UInt8) : Option Keystream :=
  (keyOfBytes? bytes).map fun key => { key }

end Keystream

end CounterWalk

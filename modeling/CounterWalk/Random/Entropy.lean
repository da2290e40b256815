import CounterWalk.Random.Keystream

/-!
# Unpredictable words

Random values come from a stream of 64-bit words about which nothing is assumed. A word is used up
when it is drawn.
-/

namespace CounterWalk

/-- A stream of words and the number of words drawn from it. -/
structure Entropy where
  wordAt : Nat → UInt64
  drawn : Nat := 0

namespace Entropy

/-- Draws the next word. -/
def draw (e : Entropy) : UInt64 × Entropy := (e.wordAt e.drawn, { e with drawn := e.drawn + 1 })

/-- The words of the stream of a key. -/
def ofKey (key : ChaCha.Key) : Entropy := { wordAt := Keystream.doubleWordAt key }

end Entropy

end CounterWalk

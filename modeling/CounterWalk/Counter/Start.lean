import CounterWalk.Fault.Flag

/-!
# Starting values

A new counter gets its value from a source. A source may remember what it gave before, and a random
one notes each value that it gives.
-/

namespace CounterWalk

/-- What random starting values are made from. -/
inductive WordSource where
  /-- The stream of a key. -/
  | keystream (stream : Keystream)
  /-- Words at equal distances, the next of which is given. -/
  | progression (next step : UInt64)
  /-- The words that all operations share. -/
  | shared

/-- Where starting values come from. -/
inductive StartSource where
  /-- Always zero. -/
  | zero
  /-- Always the same value. -/
  | fixed (value : Int64)
  /-- The whole range of values, at random. -/
  | randomized (words : WordSource)
  /-- The values of a list, which has a first one, over and over. Those of the present turn that
  are still to come are kept beside it. -/
  | cycle (first : Int64) (others ahead : List Int64)

namespace WordSource

/-- Draws a word. -/
def draw (s : WordSource) (env : Environment) : UInt64 × WordSource × Environment :=
  match s with
  | .keystream g =>
    let (w, g) := g.doubleWord
    (w, .keystream g, env)
  | .progression next step => (next, .progression (next + step) step, env)
  | .shared =>
    let (w, entropy) := env.entropy.draw
    (w, .shared, { env with entropy })

end WordSource

namespace StartSource

/-- The source for a setting of the fault flag. -/
def forFlag (faulty : Bool) : StartSource := if faulty then .randomized .shared else .zero

/-- Whether the values cannot be told in advance. -/
def isUnpredictable : StartSource → Bool
  | .randomized .shared => true
  | _ => false

/-- Draws a starting value. -/
def draw (s : StartSource) (env : Environment) : Logged (Int64 × StartSource × Environment) :=
  match s with
  | .zero => return (0, s, env)
  | .fixed v => return (v, s, env)
  | .randomized words => do
    let (w, words, env) := words.draw env
    Logged.note (.valueDrawn w.toInt64)
    return (w.toInt64, .randomized words, env)
  | .cycle first others ahead =>
    match ahead with
    | [] => return (first, .cycle first others others, env)
    | v :: ahead => return (v, .cycle first others ahead, env)

/-- Values that have been drawn, and what the next ones are drawn from. -/
structure Drawing where
  values : Array Int64 := #[]
  source : StartSource
  environment : Environment

/-- Draws one more starting value. -/
def Drawing.next (d : Drawing) : Logged Drawing := do
  let (v, source, environment) ← d.source.draw d.environment
  return { values := d.values.push v, source, environment }

/-- Draws `n` starting values. -/
def drawMany (s : StartSource) (env : Environment) (n : Nat) : Logged Drawing :=
  Logged.times Drawing.next n { source := s, environment := env }

end StartSource

end CounterWalk

import CounterWalk.Model.Supply
import CounterWalk.Session.Slots

/-!
# Sessions

A session keeps counters, sources of starting values and guards under names, and beside them one
model. All of them share one environment, which the model's supply holds.

What a session tells of a counter never shows a random value: a counter that started from one, and
has not been reset since, is told by how far it has moved.
-/

namespace CounterWalk

/-- What is told of a counter. -/
inductive Reading where
  | exact (value : Int64)
  /-- The way from a starting value that is not told. -/
  | moved (distance : Int64)
deriving DecidableEq, Repr

/-- A counter and, if it started from a random value and has not been reset since, that value. -/
structure Tracked where
  counter : Counter
  origin : Option Int64 := none
deriving DecidableEq, Repr

namespace Tracked

/-- A counter that has just been made. -/
def start (c : Counter) (isRandom : Bool) : Tracked where
  counter := c
  origin := if isRandom then some c.value else none

/-- What is told of the counter. -/
def reading (t : Tracked) : Reading :=
  match t.origin with
  | none => .exact t.counter.value
  | some v => .moved (t.counter.value - v)

end Tracked

/-- What a session keeps. -/
structure Session where
  model : Model Supply
  counters : Slots Tracked := []
  sources : Slots StartSource := []
  guards : Slots Guard := []

namespace Session

/-- A session without counters, sources and guards, on a model whose counters are made in a given
way. -/
def start (maker : Maker) (env : Environment) : Session :=
  { model := { supply := { maker, environment := env } } }

/-- What all parts of the session share. -/
def environment (s : Session) : Environment := s.model.supply.environment

/-- Replaces what all parts of the session share. -/
def withEnvironment (env : Environment) (s : Session) : Session :=
  { s with model := { s.model with supply := { s.model.supply with environment := env } } }

/-- The fault flag. -/
def faulty (s : Session) : Bool := s.environment.faulty

/-- Keeps a counter under a name. -/
def putCounter (name : String) (t : Tracked) (s : Session) : Session :=
  { s with counters := s.counters.put name t }

@[simp] theorem environment_withEnvironment (env : Environment) (s : Session) :
    (s.withEnvironment env).environment = env := rfl

@[simp] theorem environment_start (maker : Maker) (env : Environment) :
    (start maker env).environment = env := rfl

@[simp] theorem environment_putCounter (name : String) (t : Tracked) (s : Session) :
    (s.putCounter name t).environment = s.environment := rfl

end Session

end CounterWalk

import CounterWalk.Counter.Start

/-!
# Making and changing counters

The operations on counters, each of which notes what it did.
-/

namespace CounterWalk

namespace Counter

/-- A counter that starts where a source says. -/
def ofSource (s : StartSource) (env : Environment) :
    Logged (Counter × StartSource × Environment) := do
  let (v, s, env) ← s.draw env
  Logged.note (.counterMade v none)
  return (⟨v⟩, s, env)

/-- A counter that starts where the fault flag says. The flag is asked once. -/
def ofFlag (env : Environment) : Logged (Counter × Environment) := do
  let (v, _, after) ← (StartSource.forFlag env.faulty).draw env
  Logged.note (.counterMade v (some env.faulty))
  return (⟨v⟩, after)

/-- Moves a counter one step up. -/
def increment (c : Counter) : Logged Counter :=
  Logged.within (.increment c) do
    Logged.note (.counterIncremented c.succ.value)
    return c.succ

/-- Moves a counter back to zero. -/
def reset (c : Counter) : Logged Counter :=
  Logged.within (.reset c) do
    Logged.note .counterReset
    return zero

/-- Moves a counter `n` steps up. -/
def incrementMany (c : Counter) (n : Nat) : Logged Counter := Logged.times increment n c

@[simp] theorem value_increment (c : Counter) : c.increment.value = c.succ := rfl

@[simp] theorem value_reset (c : Counter) : c.reset.value = zero := rfl

end Counter

end CounterWalk

import CounterWalk.Log.Basic
import CounterWalk.Random.Entropy

/-!
# The fault flag

One flag is shared by all that runs together. While it is raised, a new counter starts from a random
value in place of zero; it is asked when a counter is made and at no other time. A guard sets the
flag for a while: when it is released the flag goes back to what it was when the guard was engaged.
-/

namespace CounterWalk

/-- What all operations share: the fault flag and the source of random words. -/
structure Environment where
  faulty : Bool := false
  entropy : Entropy

namespace Environment

/-- Raises or lowers the flag. A change is noted, a setting that changes nothing is not. -/
def setFaulty (faulty : Bool) (env : Environment) : Logged Environment where
  value := { env with faulty }
  log := if env.faulty = faulty then [] else (Logged.note (.flagChanged env.faulty faulty)).log

@[simp] theorem faulty_setFaulty (b : Bool) (env : Environment) :
    (env.setFaulty b).value.faulty = b := rfl

@[simp] theorem entropy_setFaulty (b : Bool) (env : Environment) :
    (env.setFaulty b).value.entropy = env.entropy := rfl

end Environment

/-- A promise to put the flag back. -/
structure Guard where
  /-- The flag as it was when the guard was engaged. -/
  previous : Bool
deriving DecidableEq, Repr

namespace Guard

/-- Sets the flag and keeps its old value. -/
def engage (faulty : Bool) (env : Environment) : Logged (Guard × Environment) := do
  let after ← env.setFaulty faulty
  return (⟨env.faulty⟩, after)

/-- Gives the flag its old value back. -/
def release (g : Guard) (env : Environment) : Logged Environment := env.setFaulty g.previous

@[simp] theorem previous_engage (faulty : Bool) (env : Environment) :
    (engage faulty env).value.1.previous = env.faulty := rfl

@[simp] theorem faulty_engage (faulty : Bool) (env : Environment) :
    (engage faulty env).value.2.faulty = faulty := rfl

@[simp] theorem faulty_release (g : Guard) (env : Environment) :
    (g.release env).value.faulty = g.previous := rfl

/-- The guard shown by its field. -/
def describe (g : Guard) : String :=
  Text.record "FaultGuard" [("previous", Text.truth g.previous)]

end Guard

end CounterWalk

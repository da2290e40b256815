import CounterWalk.Text.Record

/-!
# Plans of random walks
-/

namespace CounterWalk

/-- A walk is settled by the seed of its choices and the most steps it may take. -/
structure WalkPlan where
  seed : UInt64
  steps : UInt64
deriving DecidableEq, Repr

/-- The plan shown by its fields. -/
def WalkPlan.describe (p : WalkPlan) : String :=
  Text.record "RandomWalk" [("seed", Text.natural p.seed), ("steps", Text.natural p.steps)]

end CounterWalk

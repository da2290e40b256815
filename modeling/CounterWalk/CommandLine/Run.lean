import CounterWalk.CommandLine.Options
import CounterWalk.Model.Supply
import CounterWalk.Report.Encode
import CounterWalk.Walk.Basic

/-!
# What the options ask for

The fault flag is set as the options say, and a model whose counters follow the flag is walked on. A
walk without a seed draws one, and its report tells which.
-/

namespace CounterWalk.Options

/-- The seed of the walk. -/
def walkSeed (o : Options) (env : Environment) : UInt64 × Environment :=
  match o.seed with
  | some seed => (seed, env)
  | none =>
    let (seed, entropy) := env.entropy.draw
    (seed, { env with entropy })

/-- Sets the flag and walks. -/
def run (o : Options) (env : Environment) : Logged (Report × Environment) := do
  let env ← env.setFaulty o.faulty
  let (seed, env) := o.walkSeed env
  let plan : WalkPlan := { seed, steps := o.steps }
  let (report, m) ← plan.run Supply.make { supply := { environment := env } }
  return (report, m.supply.environment)

end CounterWalk.Options

import CounterWalk.Model.Basic

/-!
# Supplies of counters

Two ways in which a model comes by its counters: the fault flag is asked each time, or a source of
starting values is drawn from.
-/

namespace CounterWalk

/-- How counters are made. -/
inductive Maker where
  /-- As the fault flag says at that moment. -/
  | flagged
  /-- From one source of starting values. -/
  | drawing (source : StartSource)

/-- What counters are made with. -/
structure Supply where
  maker : Maker := .flagged
  environment : Environment

namespace Supply

/-- Makes the next counter. -/
def make : Factory Supply := fun s =>
  match s.maker with
  | .flagged => do
    let (c, environment) ← Counter.ofFlag s.environment
    return (c, { s with environment })
  | .drawing source => do
    let (c, source, environment) ← Counter.ofSource source s.environment
    return (c, { maker := .drawing source, environment })

end Supply

end CounterWalk

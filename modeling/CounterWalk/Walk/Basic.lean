import CounterWalk.Model.Basic
import CounterWalk.Random.Choice
import CounterWalk.Report.Basic

/-!
# Random walks

A walk does actions one after another, each chosen at random among those that the model allows, up
to the first that fails or to the end of its budget. The choices come from the seed of the walk and
from what is allowed, and from nothing else.

Main definitions:

- `WalkState.advance`: some more steps;
- `WalkPlan.run`: the whole walk, with its report.
-/

namespace CounterWalk

/-- A walk under way. -/
structure WalkState (σ : Type) where
  choices : Keystream
  model : Model σ
  trace : Array Action := #[]
  log : Array Entry := #[]

/-- Whether the last action of a walk failed. -/
inductive WalkEnd where
  | finished
  | failed (action : Action) (error : ModelError)
deriving DecidableEq, Repr

namespace WalkState

variable {σ : Type}

/-- Does an action that has been chosen. -/
def perform (make : Factory σ) (a : Action) (choices : Keystream) :
    WalkState σ → Outcome × WalkState σ
  | { model, trace, log, .. } =>
    let result := model.execute make a
    (result.value.1,
      { choices, model := result.value.2, trace := trace.push a, log := log ++ result.log })

/-- Walks on for at most `n` steps. Nothing more is done once no action is allowed. -/
def advance (make : Factory σ) : Nat → WalkState σ → WalkEnd × WalkState σ
  | 0, s => (.finished, s)
  | n + 1, s =>
    match Choice.element? s.model.enabledActions s.choices with
    | none => (.finished, s)
    | some (a, choices) =>
      match s.perform make a choices with
      | (.ok (), s) => advance make n s
      | (.error e, s) => (.failed a e, s)

end WalkState

namespace WalkPlan

variable {σ : Type}

/-- The walk before its first step. -/
def start (plan : WalkPlan) (m : Model σ) : WalkState σ :=
  { choices := Keystream.ofSeed plan.seed, model := m }

/-- The last note of a walk. -/
def closing (trace : Array Action) : WalkEnd → Event
  | .finished => .walkPassed trace.size
  | .failed a e => .walkFailed (trace.size - 1) a e

/-- The verdict on a walk. -/
def verdict (trace : Array Action) : WalkEnd → Verdict
  | .finished => .pass
  | .failed _ e => .fail (UInt64.ofNat (trace.size - 1)) e.message

/-- Walks on a model and reports. -/
def run (plan : WalkPlan) (make : Factory σ) (m : Model σ) : Logged (Report × Model σ) :=
  Logged.within (.walk plan) <|
    let (ending, s) := (plan.start m).advance make plan.steps.toNat
    { value :=
        ({ seed := plan.seed
           stepsExecuted := UInt64.ofNat s.trace.size
           trace := s.trace.toList
           verdict := verdict s.trace ending }, s.model)
      log := s.log.toList ++ [⟨[], .event (closing s.trace ending)⟩] }

end WalkPlan

end CounterWalk

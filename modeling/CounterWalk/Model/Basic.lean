import CounterWalk.Counter.Operations

/-!
# The model

A model holds a counter that may or may not be alive, a reference value that says what the count
should be, and the supply from which its counters are made. Each action is done to the counter and
to the reference value alike; a count compares the two.

Main definitions:

- `Model.execute`: one action, with its outcome;
- `Model.runScript`: a list of actions up to the first that fails.
-/

namespace CounterWalk

/-- Makes counters one after another; `σ` is what the supply remembers between them. -/
abbrev Factory (σ : Type) := σ → Logged (Counter × σ)

/-- A counter beside its reference value. -/
structure Model (σ : Type) where
  counter : Option Counter := none
  expected : Int64 := 0
  supply : σ

/-- How an action or a script ended. -/
abbrev Outcome := Except ModelError Unit

namespace Model

variable {σ : Type}

/-- Whether an action is allowed: `create` without a counter, all others with one. -/
def isEnabled (m : Model σ) : Action → Bool
  | .create => m.counter.isNone
  | .destroy | .increment | .reset | .count => m.counter.isSome

/-- The actions that are allowed, in the order of `Action.all`. -/
def enabledActions (m : Model σ) : List Action := Action.all.filter m.isEnabled

theorem mem_enabledActions {m : Model σ} {a : Action} :
    a ∈ m.enabledActions ↔ m.isEnabled a = true := by
  simp [enabledActions, Action.mem_all]

theorem enabledActions_ne_nil (m : Model σ) : m.enabledActions ≠ [] := by
  cases h : m.counter <;> simp [enabledActions, isEnabled, Action.all, h]

/-- The end of an action that was done. -/
def done (a : Action) (m : Model σ) : Logged (Outcome × Model σ) := do
  Logged.note (.executed a)
  return (.ok (), m)

/-- What an action does, apart from the span in which it is done. -/
def perform (make : Factory σ) (a : Action) (m : Model σ) : Logged (Outcome × Model σ) :=
  match a, m.counter with
  | .create, none => do
    let (c, supply) ← make m.supply
    done .create { counter := some c, expected := 0, supply }
  | .destroy, some _ => done .destroy { m with counter := none }
  | .increment, some c => do
    let c ← c.increment
    done .increment { m with counter := some c, expected := m.expected + 1 }
  | .reset, some c => do
    let c ← c.reset
    done .reset { m with counter := some c, expected := 0 }
  | .count, some c =>
    if c.value = m.expected then
      done .count m
    else do
      Logged.note (.mismatched m.expected c.value)
      return (.error (.countMismatch m.expected c.value), m)
  | a, _ => do
    Logged.note (.rejected a)
    return (.error (.notEnabled a), m)

/-- Does one action. A failed action leaves the model as it was. -/
def execute (make : Factory σ) (a : Action) (m : Model σ) : Logged (Outcome × Model σ) :=
  Logged.within (.action a) (perform make a m)

/-- Does the actions in order and stops at the first that fails. -/
def runScript (make : Factory σ) : List Action → Model σ → Logged (Outcome × Model σ)
  | [], m => return (.ok (), m)
  | a :: rest, m => do
    let (outcome, m) ← m.execute make a
    match outcome with
    | .ok () => runScript make rest m
    | .error e => return (.error e, m)

/-- Drops the counter and takes the reference value back to zero. -/
def reset (m : Model σ) : Logged (Model σ) := do
  Logged.note .modelReset
  return { supply := m.supply }

end Model

end CounterWalk

import CounterWalk.Action
import CounterWalk.Text.Record

/-!
# Failed actions

An action fails when it is not allowed in the present state, or when the counter and the reference
value disagree.
-/

namespace CounterWalk

/-- Why an action failed. -/
inductive ModelError where
  /-- The action is not allowed while the counter is in its present state of life. -/
  | notEnabled (action : Action)
  /-- The counter reported another value than the reference. -/
  | countMismatch (expected actual : Int64)
deriving DecidableEq, Repr

namespace ModelError

/-- The sentence that reports the failure. -/
def message : ModelError → String
  | .notEnabled a => "action " ++ a.label ++ " is not enabled in the current state"
  | .countMismatch e v =>
    "count mismatch: expected " ++ Text.integer e ++ ", counter reported " ++ Text.integer v

theorem message_notEnabled (a : Action) :
    (notEnabled a).message = "action " ++ a.label ++ " is not enabled in the current state" :=
  rfl

theorem message_countMismatch (e v : Int64) :
    (countMismatch e v).message =
      "count mismatch: expected " ++ Text.integer e ++ ", counter reported " ++ Text.integer v :=
  rfl

/-- The failure shown by its fields. -/
def describe : ModelError → String
  | .notEnabled a => Text.record "NotEnabled" [("action", a.name)]
  | .countMismatch e v =>
    Text.record "CountMismatch" [("expected", Text.integer e), ("actual", Text.integer v)]

end ModelError

end CounterWalk

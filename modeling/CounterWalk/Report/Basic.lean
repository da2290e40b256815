import CounterWalk.Action
import CounterWalk.Text.Record

/-!
# Reports of walks
-/

namespace CounterWalk

/-- How a walk ended. -/
inductive Verdict where
  | pass
  /-- The action at `step`, counted from zero, failed. -/
  | fail (step : UInt64) (reason : String)
deriving DecidableEq, Repr

/-- What a verdict is called. -/
inductive VerdictName where
  | pass
  | fail
deriving DecidableEq, Repr

namespace VerdictName

/-- Every name. -/
def all : List VerdictName := [.pass, .fail]

/-- The name as it is written. -/
def name : VerdictName → String
  | .pass => "pass"
  | .fail => "fail"

/-- The name that is written in a given way. -/
def ofName? (s : String) : Option VerdictName := all.find? fun v => v.name == s

theorem ofName?_name (v : VerdictName) : ofName? v.name = some v := by cases v <;> decide

end VerdictName

/-- What the verdict is called. -/
def Verdict.kind : Verdict → VerdictName
  | .pass => .pass
  | .fail .. => .fail

/-- Whether the walk passed. -/
def Verdict.isPass : Verdict → Bool
  | .pass => true
  | .fail .. => false

/-- What is told of a walk. -/
structure Report where
  seed : UInt64
  stepsExecuted : UInt64
  trace : List Action
  verdict : Verdict
deriving DecidableEq, Repr

end CounterWalk

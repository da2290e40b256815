import CounterWalk.Json.Printer
import CounterWalk.Report.Basic
import CounterWalk.Text.Quoted

/-!
# Writing reports

A report is written as a JSON object or as one line for people. In JSON the verdict has no object of
its own: its members stand after those of the report.
-/

namespace CounterWalk

/-- An unsigned word as JSON. -/
def Json.ofWord (n : UInt64) : Json := .number (.natural n)

/-- An action as JSON. -/
def Action.toJson (a : Action) : Json := .string a.name

namespace Verdict

/-- The members that tell what came of a walk that did not pass. -/
def details : Verdict → List (String × Json)
  | .pass => []
  | .fail step reason => [("step", .ofWord step), ("reason", .string reason)]

/-- The members that tell the verdict. -/
def members (v : Verdict) : List (String × Json) := ("verdict", .string v.kind.name) :: v.details

/-- The verdict as JSON. -/
def toJson (v : Verdict) : Json := .object v.members

/-- The verdict shown by its fields. -/
def describe : Verdict → String
  | .pass => "Pass"
  | .fail step reason =>
    Text.record "Fail" [("step", Text.natural step), ("reason", Text.quoted reason)]

/-- The status with which a program ends that reports the verdict. -/
def exitStatus : Verdict → Nat
  | .pass => 0
  | .fail .. => 1

end Verdict

namespace Report

/-- The report as JSON. -/
def toJson (r : Report) : Json :=
  .object <|
    [("seed", .ofWord r.seed),
     ("steps_executed", .ofWord r.stepsExecuted),
     ("trace", .array (r.trace.map Action.toJson))] ++ r.verdict.members

/-- The outcome in one line. -/
def summary (r : Report) : String :=
  match r.verdict with
  | .pass =>
    "pass: " ++ Text.natural r.stepsExecuted ++ " steps, seed " ++ Text.natural r.seed
  | .fail step reason =>
    "fail at step " ++ Text.natural step ++ ": " ++ reason ++
      " (seed " ++ Text.natural r.seed ++ ")"

/-- The report as JSON over several lines, or its summary. -/
def render (r : Report) (json : Bool) : String :=
  if json then r.toJson.render .pretty else r.summary

end Report

end CounterWalk

import CounterWalk.Json.Reader
import CounterWalk.Report.Basic

/-!
# Reading reports

The members of a report are taken as they come: its own three are read at once, all others are kept.
Only when the object has ended are the three asked for, and after them the verdict, which is looked
for among the members that were kept. A verdict by itself may also be a list that starts with its
name.

Main definitions:

- `Action.read`, `Action.readList`: an action, and a list of actions;
- `Verdict.read`: a verdict by itself;
- `Report.read`: a report.
-/

namespace CounterWalk

open Json

/-- The depth to which brackets may nest inside the outermost ones. -/
def Json.innerDepth : Nat := maxDepth - 1

/-- Takes an unsigned word. -/
def Json.decodeWord (wanted : Wanted) : Json → Except ShapeError UInt64
  | .number (.natural n) => .ok n
  | .number (.negative n) => .error (.wrongValue (.negative n) wanted)
  | v => .error (.wrongType v.found wanted)

/-- Takes a string. -/
def Json.decodeString : Json → Except ShapeError String
  | .string s => .ok s
  | v => .error (.wrongType v.found .string)

/-- Takes the value that says nothing. -/
def Json.decodeNothing : Json → Except ShapeError Unit
  | .null => .ok ()
  | v => .error (.wrongType v.found .nothing)

namespace Action

/-- The action of a name. -/
def decodeName (name : String) : Except ShapeError Action :=
  match ofName? name with
  | some a => .ok a
  | none => .error (.unknownName name (all.map Action.name))

/-- Reads an action: its name, or an object whose only member has that name and says nothing. -/
def read : Reader Action := do
  match ← peekChar with
  | '"' => judge (decodeName (← readName))
  | '\x7b' =>
    skip
    let a ← judge (decodeName (← readName))
    mark ':'
    judge (← readShallow).decodeNothing
    mark '\x7d'
    return a
  | _ => throw .malformed

/-- Reads a list of actions. -/
def readList : Reader (List Action) := do
  if (← peekChar) = '[' then
    skip
    elements read
  else
    judge (.error (.wrongType (← readShallow).found .sequence))

end Action

/-- Takes the name of a verdict or, where that is allowed, its place among the two. -/
def VerdictName.decode (placeAllowed : Bool) : Json → Except ShapeError VerdictName
  | .string s =>
    match ofName? s with
    | some name => .ok name
    | none => .error (.unknownName s (all.map VerdictName.name))
  | .number (.natural n) =>
    if !placeAllowed then .error (.wrongType (.natural n) .verdictName)
    else if n = 0 then .ok .pass
    else if n = 1 then .ok .fail
    else .error (.wrongValue (.natural n) .verdictIndex)
  | v => .error (.wrongType v.found .verdictName)

/-- Members among which a verdict is told: its name, if that has been seen, and the others, the last
one first. -/
structure VerdictMembers where
  name : Option VerdictName := none
  others : List (String × Json) := []

/-- What has been seen of a failed walk. -/
structure FailureMembers where
  step : Option UInt64 := none
  reason : Option String := none

/-- Asks for a member that has to be there. -/
def Json.require {α : Type} (name : String) : Option α → Except ShapeError α
  | some a => .ok a
  | none => .error (.missingField name)

/-- Refuses a member that has been seen before. -/
def Json.refuseRepeat {α : Type} (name : String) : Option α → Except ShapeError Unit
  | some _ => .error (.repeatedField name)
  | none => .ok ()

namespace FailureMembers

/-- Takes one more member; those of other names say nothing. -/
def add (f : FailureMembers) (m : String × Json) : Except ShapeError FailureMembers := do
  match m.1 with
  | "step" =>
    refuseRepeat "step" f.step
    return { f with step := some (← m.2.decodeWord .size) }
  | "reason" =>
    refuseRepeat "reason" f.reason
    return { f with reason := some (← m.2.decodeString) }
  | _ => return f

end FailureMembers

namespace Verdict

/-- The verdict of a name with the members beside it. -/
def ofMembers (name : VerdictName) (members : List (String × Json)) :
    Except ShapeError Verdict := do
  match name with
  | .pass => return .pass
  | .fail =>
    let f ← members.foldlM FailureMembers.add {}
    return .fail (← require "step" f.step) (← require "reason" f.reason)

/-- The verdict of a name with the elements after it in a list. -/
def ofElements (name : VerdictName) (elements : List Json) : Except ShapeError Verdict := do
  match name, elements with
  | .pass, [] => return .pass
  | .pass, more => throw (.wrongLength more.length (.elements 0))
  | .fail, [] => throw (.wrongLength 0 .failure)
  | .fail, step :: rest =>
    let step ← step.decodeWord .size
    match rest with
    | [] => throw (.wrongLength 1 .failure)
    | reason :: more =>
      let reason ← reason.decodeString
      if more.isEmpty then return .fail step reason
      else throw (.wrongLength (more.length + 2) (.elements 2))

end Verdict

namespace VerdictMembers

/-- Takes the name of the verdict, which is told only once. -/
def addName (placeAllowed : Bool) (t : VerdictMembers) (v : Json) :
    Except ShapeError VerdictMembers := do
  return { t with name := some (← VerdictName.decode placeAllowed v) }

/-- Takes one more member that has been kept. -/
def add (t : VerdictMembers) (m : String × Json) : Except ShapeError VerdictMembers := do
  if m.1 = "verdict" then
    refuseRepeat "verdict" t.name
    t.addName true m.2
  else
    return { t with others := m :: t.others }

/-- The verdict that the members tell. -/
def verdict (t : VerdictMembers) : Except ShapeError Verdict := do
  Verdict.ofMembers (← require "verdict" t.name) t.others.reverse

/-- Reads one more member. The name of the verdict is looked at as soon as it is read. -/
def readMember (t : VerdictMembers) (name : String) : Reader VerdictMembers := do
  if name = "verdict" then
    judge (refuseRepeat "verdict" t.name)
    mark ':'
    judge (t.addName false (← readShallow))
  else
    return { t with others := ← pushMember (readValue innerDepth) t.others name }

end VerdictMembers

namespace Verdict

/-- Reads a verdict by itself: an object, or a list of its name, step and reason. -/
def read : Reader Verdict := do
  match ← peekChar with
  | '\x7b' =>
    skip
    judge (← members VerdictMembers.readMember {}).verdict
  | '[' =>
    skip
    if (← peekChar) = ']' then
      judge (.error (.missingField "verdict"))
    else
      let name ← judge (VerdictName.decode false (← readShallow))
      judge (ofElements name (← remainingElements (readValue innerDepth)))
  | _ => judge (.error (.wrongType (← readShallow).found .verdict))

end Verdict

/-- What has been seen of a report, and the other members, the last one first. -/
structure ReportMembers where
  seed : Option UInt64 := none
  stepsExecuted : Option UInt64 := none
  trace : Option (List Action) := none
  others : List (String × Json) := []

namespace ReportMembers

/-- Reads one more member. -/
def readMember (f : ReportMembers) (name : String) : Reader ReportMembers := do
  match name with
  | "seed" =>
    judge (refuseRepeat name f.seed)
    mark ':'
    return { f with seed := some (← judge ((← readShallow).decodeWord .word)) }
  | "steps_executed" =>
    judge (refuseRepeat name f.stepsExecuted)
    mark ':'
    return { f with stepsExecuted := some (← judge ((← readShallow).decodeWord .size)) }
  | "trace" =>
    judge (refuseRepeat name f.trace)
    mark ':'
    return { f with trace := some (← Action.readList) }
  | _ => return { f with others := ← pushMember (readValue innerDepth) f.others name }

/-- The report that the members make up. -/
def report (f : ReportMembers) : Except ShapeError Report := do
  let seed ← require "seed" f.seed
  let stepsExecuted ← require "steps_executed" f.stepsExecuted
  let trace ← require "trace" f.trace
  let verdict ← (← f.others.reverse.foldlM VerdictMembers.add {}).verdict
  return { seed, stepsExecuted, trace, verdict }

end ReportMembers

/-- Reads a report. -/
def Report.read : Reader Report := do
  if (← peekChar) = '\x7b' then
    skip
    judge (← members ReportMembers.readMember {}).report
  else
    judge (.error (.wrongType (← readShallow).found .report))

end CounterWalk

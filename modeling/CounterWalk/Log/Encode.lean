import CounterWalk.Json.Printer
import CounterWalk.Log.View

/-!
# Writing log files

Each record of a log file is a JSON object on a line of its own. Levels are written as numbers, in
steps of ten, the greater the more they matter.
-/

namespace CounterWalk

/-- The number of a level. -/
def Level.number (l : Level) : UInt64 := UInt64.ofNat (60 - 10 * l.rank)

/-- The name of the program in its log files. -/
def Record.program : String := "faultcounter-0.1.0"

/-- The record as JSON. -/
def Record.toJson (r : Record) : Json :=
  .object <|
    [("name", .string Record.program), ("msg", .string r.text),
     ("level", .number (.natural r.level.number))] ++
      r.fields.map fun f => (f.1, .string f.2)

end CounterWalk

import CounterWalk.Log.Encode
import CounterWalk.Program
import Std.Time.Format

/-!
# The command line

The outer layer of the program: it hands the arguments, the filter and random words to the program,
and the program's output to the world.
-/

namespace CounterWalk

/-- The key of unpredictable words. Without one the words of an empty key are drawn. -/
def freshEntropy : IO Entropy := do
  let bytes ← IO.getRandomBytes 32
  return .ofKey ((Keystream.keyOfBytes? bytes.toList).getD ⟨⟨0, 0, 0, 0⟩, ⟨0, 0, 0, 0⟩⟩)

/-- The name of today's log file. -/
def logFileName : IO String := do
  let now ← Std.Time.Timestamp.now
  return "trace.log." ++ toString (Std.Time.PlainDate.ofEpochDay now.toDaysSinceUnixEpoch)

/-- Adds records to today's log file. -/
def keepRecords (directory : Argument) (records : List Record) : IO Unit := do
  let directory := Text.Utf8.lossy directory
  IO.FS.createDirAll directory
  let file ← IO.FS.Handle.mk (directory ++ "/" ++ (← logFileName)) .append
  for r in records do
    file.putStrLn (r.toJson.render .compact)

/-- Runs the program in the world. -/
def Program.perform (arguments : List String) : IO UInt32 := do
  let path := Argument.ofString (toString (← IO.appPath))
  let result :=
    run path (arguments.map Argument.ofString) (← IO.getEnv "RUST_LOG") (← freshEntropy)
  if let some directory := result.logDir then
    keepRecords directory result.records
  IO.print result.output
  IO.eprint result.complaint
  return UInt32.ofNat result.exitStatus

end CounterWalk

/-- Runs the program. -/
def main (arguments : List String) : IO UInt32 := CounterWalk.Program.perform arguments

import CounterWalk.CommandLine.Run
import CounterWalk.Log.View

/-!
# The program

The program walks once, prints the report and keeps a log. What it does is settled by its arguments,
by the filter for its log and by the random words that it is given.

Main definitions:

- `ProgramEnd`: what the program hands back;
- `Program.run`: the whole program.
-/

namespace CounterWalk

/-- What a program hands back when it ends. -/
structure ProgramEnd where
  exitStatus : Nat
  /-- What it printed. -/
  output : String := ""
  /-- What it complained of. -/
  complaint : String := ""
  /-- Where the records are kept, if the program came to keep any. -/
  logDir : Option Argument := none
  records : List Record := []
deriving DecidableEq, Repr

namespace Program

open CommandLine

/-- How a program ends that does not walk. -/
def halted (path : Argument) (h : Halt) : ProgramEnd :=
  let text := h.written (programName path)
  match h with
  | .inquiry _ => { exitStatus := h.exitStatus, output := text }
  | .error _ => { exitStatus := h.exitStatus, complaint := text ++ "\n" }

/-- The filter that a text sets, or the usual one if there is no text or no filter in it. A filter
that divides a character is none at all. -/
def filter? : Option String → Option Filter
  | none => some .usual
  | some text =>
    match Filter.ofText? text with
    | .ok f => some f
    | .error .unreadable => some .usual
    | .error .divided => none

/-- How a program ends that cannot keep a log. -/
def crashed : ProgramEnd :=
  { exitStatus := 101, complaint := "\nthe log filter divides a character\n" }

/-- Walks as the options say. -/
def walk (o : Options) (f : Filter) (entropy : Entropy) : ProgramEnd :=
  let run := o.run { entropy }
  { exitStatus := run.value.1.verdict.exitStatus
    output := run.value.1.render o.json ++ "\n"
    logDir := some o.logDir
    records := run.log.records f }

/-- The whole program, from its path, its arguments and the text of its log filter. -/
def run (path : Argument) (arguments : List Argument) (filter : Option String) (entropy : Entropy) :
    ProgramEnd :=
  match Options.ofArguments arguments with
  | .error h => halted path h
  | .ok o =>
    match filter? filter with
    | none => crashed
    | some f => walk o f entropy

end Program

end CounterWalk

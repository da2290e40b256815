import CounterWalk.CommandLine.Basic
import CounterWalk.Text.Digits
import CounterWalk.Text.Plain

/-!
# Answers of the command line

The command line is answered at once where it asks for help or for the version, and where it is
wrong.
-/

namespace CounterWalk.CommandLine

/-- What is wrong with a command line. -/
inductive UsageError where
  | unknownArgument (text : String)
  | noValue (s : Setting)
  | repeated (o : OptionName)
  | unwantedValue (o : OptionName) (value : String)
  | invalidNumeral (s : Setting) (value : String) (error : Text.NumeralError)
  /-- A value that has to be text is none. -/
  | notText
deriving DecidableEq, Repr

/-- The sentence that reports the error, with what was given set off. -/
def UsageError.message : UsageError → String
  | .unknownArgument text => "unexpected argument '" ++ Text.emphasized text ++ "' found"
  | .noValue s =>
    "a value is required for '" ++ (OptionName.setting s).describe ++ "' but none was supplied"
  | .repeated o => "the argument '" ++ o.describe ++ "' cannot be used multiple times"
  | .unwantedValue o value =>
    "unexpected value '" ++ Text.emphasized value ++ "' for '" ++ o.describe ++
      "' found; no more were expected"
  | .invalidNumeral s value e =>
    "invalid value '" ++ Text.emphasized value ++ "' for '" ++
      (OptionName.setting s).describe ++ "': " ++ e.message
  | .notText => "invalid UTF-8 was detected in one or more arguments"

/-- Why a program ends before its work begins. -/
inductive Halt where
  | inquiry (i : Inquiry)
  | error (e : UsageError)
deriving DecidableEq, Repr

/-- The name and version of the program. -/
def versionText : String := "faultcounter 0.1.0\n"

/-- The help for a program that was called by the given name, which is set off. -/
def helpText (program : String) : String :=
  "Random-walk test of the counter against its reference model\n\n" ++
  "Usage: " ++ Text.emphasized program ++ " [OPTIONS]\n\n" ++
  "Options:\n" ++
  "      --faulty             Raise the fault flag so new counters start from a random value\n" ++
  "  -s, --steps <STEPS>      [default: 100]\n" ++
  "      --seed <SEED>        Walk seed; drawn at random when omitted\n" ++
  "      --json               Print the walk report as JSON\n" ++
  "      --log-dir <LOG_DIR>  [default: ./logs]\n" ++
  "  -h, --help               Print help\n" ++
  "  -V, --version            Print version\n"

/-- The name of a program in a path: its last part, unless that leads upwards or is no text. Parts
that stay where they are do not count. -/
def programName (path : Argument) : String :=
  let parts := path.splitBy fun a b => a ≠ 0x2F && b ≠ 0x2F
  let named := parts.filter fun p => p ≠ [0x2F] && p ≠ Argument.ofString "."
  match named.getLast? with
  | none => "faultcounter"
  | some p =>
    if p = Argument.ofString ".." then "faultcounter"
    else ((Text.Utf8.decode? p).map String.ofList).getD "faultcounter"

namespace Halt

/-- The status with which the program ends. -/
def exitStatus : Halt → Nat
  | .inquiry _ => 0
  | .error _ => 2

/-- What a terminal is told before the program ends. -/
def display (program : String) : Halt → String
  | .inquiry .help => helpText program
  | .inquiry .version => versionText
  | .error e => "error: " ++ e.message

/-- What the program says before it ends: all of the answer to an inquiry, and the first line about
an error. -/
def text (program : String) (h : Halt) : String :=
  let text := Text.plain (h.display program)
  match h with
  | .inquiry _ => text
  | .error _ => Text.firstLine text

/-- What the program writes before it ends, where no terminal reads it. -/
def written (program : String) (h : Halt) : String := Text.plainStream (h.display program)

end Halt

end CounterWalk.CommandLine

import CounterWalk.Text.Utf8

/-!
# The words of the command line

An argument is a list of bytes, which need not be text. The program knows two switches, three
settings that take a value, and two inquiries. By itself an argument names one of these, perhaps
with a value attached to the name, or it is a plain word, or it marks the end of all names.

Main definitions:

- `OptionName`: what an argument can name;
- `Piece.ofArgument`: how an argument is read by itself.
-/

namespace CounterWalk

/-- An argument of the command line. -/
abbrev Argument := List UInt8

/-- The argument that spells a text. -/
def Argument.ofString (s : String) : Argument := Text.Utf8.encode s.toList

namespace CommandLine

/-- An option without a value. -/
inductive Switch where
  | faulty
  | json
deriving DecidableEq, Repr

/-- An option with a value. -/
inductive Setting where
  | steps
  | seed
  | logDir
deriving DecidableEq, Repr

/-- An option that is answered at once. -/
inductive Inquiry where
  | help
  | version
deriving DecidableEq, Repr

/-- An option. -/
inductive OptionName where
  | switch (s : Switch)
  | setting (s : Setting)
  | inquiry (i : Inquiry)
deriving DecidableEq, Repr

namespace OptionName

/-- Every option. -/
def all : List OptionName :=
  [.switch .faulty, .setting .steps, .setting .seed, .switch .json, .setting .logDir,
   .inquiry .help, .inquiry .version]

/-- The name after two dashes. -/
def long : OptionName → String
  | .switch .faulty => "faulty"
  | .switch .json => "json"
  | .setting .steps => "steps"
  | .setting .seed => "seed"
  | .setting .logDir => "log-dir"
  | .inquiry .help => "help"
  | .inquiry .version => "version"

/-- The option of a name after two dashes. -/
def ofLong? (name : Argument) : Option OptionName :=
  all.find? fun o => Argument.ofString o.long == name

/-- The option of a letter after one dash. -/
def ofShort? : Char → Option OptionName
  | 's' => some (.setting .steps)
  | 'h' => some (.inquiry .help)
  | 'V' => some (.inquiry .version)
  | _ => none

/-- The name in messages, with a word for the value if there is one. -/
def describe (o : OptionName) : String :=
  "--" ++ o.long ++ match o with
    | .setting .steps => " <STEPS>"
    | .setting .seed => " <SEED>"
    | .setting .logDir => " <LOG_DIR>"
    | .switch _ | .inquiry _ => ""

theorem mem_all (o : OptionName) : o ∈ all := by
  cases o with
  | switch s => cases s <;> decide
  | setting s => cases s <;> decide
  | inquiry i => cases i <;> decide

end OptionName

/-- What an argument says by itself. -/
inductive Piece where
  /-- No names follow. -/
  | terminator
  /-- An option, and the value that is attached to it if there is one. -/
  | named (option : OptionName) (attached : Option Argument)
  /-- The name of no option, as it is spelled. -/
  | unknown (name : String)
  | word (text : Argument)
deriving DecidableEq, Repr

namespace Piece

/-- The byte of a dash. -/
def dash : UInt8 := 0x2D

/-- The byte of an equals sign. -/
def equals : UInt8 := 0x3D

/-- What stands after two dashes: a name, and after an equals sign a value. -/
def ofLong (text : Argument) : Piece :=
  let name := text.takeWhile (· ≠ equals)
  match OptionName.ofLong? name with
  | some o => .named o (text.drop name.length).tail?
  | none => .unknown ("--" ++ Text.Utf8.lossy name)

/-- The value after the letter of a setting. An equals sign may stand before it, and without any
text there is no value. -/
def shortValue : Argument → Option Argument
  | [] => none
  | b :: rest => some (if b = equals then rest else b :: rest)

/-- What stands after one dash: a letter, and the value of a setting. Nothing is asked of the text
after any other letter. -/
def ofShort (text : Argument) : Piece :=
  match Text.Utf8.decode text with
  | some c :: _ =>
    match OptionName.ofShort? c with
    | some (.setting s) => .named (.setting s) (shortValue text.tail)
    | some o => .named o none
    | none => .unknown (String.ofList ['-', c])
  | _ => .unknown ("-" ++ Text.Utf8.lossy text)

/-- What an argument says by itself. -/
def ofArgument : Argument → Piece
  | a :: b :: rest =>
    if a ≠ dash then .word (a :: b :: rest)
    else if b ≠ dash then ofShort (b :: rest)
    else if rest.isEmpty then .terminator
    else ofLong rest
  | short => .word short

end Piece

end CommandLine

end CounterWalk

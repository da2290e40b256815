import CounterWalk.CommandLine.Message

/-!
# Options of the program

The arguments are taken from left to right. A setting without a value attached waits for the next
word; its value is looked at when the next option is named or the arguments end, and an unknown
argument is reported first. No option is given twice.

Main definitions:

- `Options`: what the command line settles;
- `Options.ofArguments`: the options that arguments spell.
-/

namespace CounterWalk

/-- What the command line settles. -/
structure Options where
  faulty : Bool := false
  steps : UInt64 := 100
  seed : Option UInt64 := none
  json : Bool := false
  logDir : Argument := .ofString "./logs"
deriving DecidableEq, Repr

namespace CommandLine

/-- The options given so far. -/
structure Given where
  faulty : Bool := false
  json : Bool := false
  steps : Option UInt64 := none
  seed : Option UInt64 := none
  logDir : Option Argument := none
deriving DecidableEq, Repr

/-- Reads the value of a setting that is a number. -/
def readNumber (s : Setting) (value : Argument) : Except UsageError UInt64 :=
  match Text.Utf8.decode? value with
  | none => .error .notText
  | some text =>
    match Text.readNumeral text with
    | .ok n => .ok n
    | .error e => .error (.invalidNumeral s (String.ofList text) e)

namespace Given

/-- Turns a switch on. -/
def raise (g : Given) : Switch → Except UsageError Given
  | .faulty =>
    if g.faulty then .error (.repeated (.switch .faulty)) else .ok { g with faulty := true }
  | .json =>
    if g.json then .error (.repeated (.switch .json)) else .ok { g with json := true }

/-- Whether a setting has been given. -/
def has (g : Given) : Setting → Bool
  | .steps => g.steps.isSome
  | .seed => g.seed.isSome
  | .logDir => g.logDir.isSome

/-- Takes the value of a setting. That it was given before is noticed before the value is read. -/
def put (g : Given) (s : Setting) (value : Argument) : Except UsageError Given :=
  if g.has s then .error (.repeated (.setting s))
  else match s with
    | .steps => return { g with steps := some (← readNumber .steps value) }
    | .seed => return { g with seed := some (← readNumber .seed value) }
    | .logDir =>
      if value.isEmpty then .error (.noValue .logDir) else .ok { g with logDir := some value }

/-- The options, with what was not given at its usual value. -/
def options (g : Given) : Options :=
  let usual : Options := {}
  { faulty := g.faulty, json := g.json, steps := g.steps.getD usual.steps, seed := g.seed,
    logDir := g.logDir.getD usual.logDir }

end Given

/-- A setting that was named without a value, and the word after it if there was one. -/
structure Waiting where
  setting : Setting
  value : Option Argument := none
deriving DecidableEq, Repr

/-- How far the arguments have been taken. -/
structure Progress where
  given : Given := {}
  waiting : Option Waiting := none
  /-- Whether no more names may follow. -/
  ended : Bool := false
deriving DecidableEq, Repr

namespace Progress

/-- Looks at the value that was waited for. -/
def settle (p : Progress) : Except UsageError Given :=
  match p.waiting with
  | none => .ok p.given
  | some ⟨s, none⟩ => .error (.noValue s)
  | some ⟨s, some value⟩ => p.given.put s value

/-- Takes an option. -/
def take (p : Progress) : OptionName → Option Argument → Except Halt Progress
  | .setting s, none => do
    let given ← p.settle.mapError .error
    return { given, waiting := some { setting := s } }
  | .setting s, some value => do
    let given ← p.settle.mapError .error
    return { given := ← (given.put s value).mapError .error }
  | o, some value => throw (.error (.unwantedValue o (Text.Utf8.lossy value)))
  | .switch s, none => do
    let given ← p.settle.mapError .error
    return { given := ← (given.raise s).mapError .error }
  | .inquiry i, none => do
    let _ ← p.settle.mapError Halt.error
    throw (.inquiry i)

/-- Takes an argument. -/
def step (p : Progress) (a : Argument) : Except Halt Progress :=
  if p.ended then
    throw (.error (.unknownArgument (Text.Utf8.lossy a)))
  else
    match Piece.ofArgument a, p.waiting with
    | .terminator, _ => return { p with ended := true }
    | .named o value, _ => p.take o value
    | .unknown name, _ => throw (.error (.unknownArgument name))
    | .word text, some ⟨s, none⟩ => return { p with waiting := some ⟨s, some text⟩ }
    | .word text, _ => throw (.error (.unknownArgument (Text.Utf8.lossy text)))

end Progress

end CommandLine

open CommandLine

/-- The options that arguments spell. -/
def Options.ofArguments (arguments : List Argument) : Except Halt Options := do
  let p ← arguments.foldlM Progress.step {}
  return (← p.settle.mapError Halt.error).options

end CounterWalk

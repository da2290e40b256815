import CounterWalk.Decimal.Real
import CounterWalk.Json.Basic
import CounterWalk.Text.Quoted
import CounterWalk.Text.Record

/-!
# What can be wrong with JSON text

A text may end too early, may not be JSON at all, or may be JSON of another shape than the one that
is asked for. A wrong shape is told by what was found and what was wanted.
-/

namespace CounterWalk

/-- The kind of a value, and the value itself where it is simple. -/
inductive Found where
  | null
  | truth (value : Bool)
  | natural (value : UInt64)
  | negative (value : Int64)
  | real (bits : UInt64)
  | text (value : String)
  | sequence
  | map
deriving DecidableEq, Repr

/-- What was asked for. -/
inductive Wanted where
  | nothing
  | sequence
  /-- An unsigned word that is a seed. -/
  | word
  /-- An unsigned word that counts. -/
  | size
  | string
  | report
  | verdict
  | verdictName
  /-- The place of a verdict among all verdicts. -/
  | verdictIndex
  /-- The step and the reason of a failed walk. -/
  | failure
  /-- Exactly so many elements. -/
  | elements (n : Nat)
deriving DecidableEq, Repr

/-- Why JSON is not of the shape that is asked for. -/
inductive ShapeError where
  | wrongType (found : Found) (wanted : Wanted)
  | wrongValue (found : Found) (wanted : Wanted)
  | wrongLength (length : Nat) (wanted : Wanted)
  /-- A name is none of those that are known. -/
  | unknownName (name : String) (known : List String)
  | missingField (name : String)
  | repeatedField (name : String)
deriving DecidableEq, Repr

/-- Why a text was not read. -/
inductive ReadError where
  /-- The text ends too early. -/
  | truncated
  /-- The text is not JSON, or its brackets nest too deeply. -/
  | malformed
  | shape (error : ShapeError)
deriving DecidableEq, Repr

namespace Json

/-- The kind of a value. -/
def found : Json → Found
  | .null => .null
  | .bool b => .truth b
  | .number (.natural n) => .natural n
  | .number (.negative n) => .negative n
  | .number (.real bits) => .real bits
  | .string s => .text s
  | .array _ => .sequence
  | .object _ => .map

end Json

/-- The words for a kind of value. -/
def Found.describe : Found → String
  | .null => "null"
  | .truth b => "boolean " ++ Text.ticked (Text.truth b)
  | .natural n => "integer " ++ Text.ticked (Text.natural n)
  | .negative n => "integer " ++ Text.ticked (Text.integer n)
  | .real bits => "floating point " ++ Text.ticked (Decimal.realText bits)
  | .text s => "string " ++ Text.quoted s
  | .sequence => "sequence"
  | .map => "map"

/-- The words for what was asked for. -/
def Wanted.describe : Wanted → String
  | .nothing => "unit"
  | .sequence => "a sequence"
  | .word => "u64"
  | .size => "usize"
  | .string => "a string"
  | .report => "struct WalkReport"
  | .verdict => "internally tagged enum Verdict"
  | .verdictName => "variant identifier"
  | .verdictIndex => "variant index 0 <= i < 2"
  | .failure => "struct variant Verdict::Fail with 2 elements"
  | .elements 1 => "1 element in sequence"
  | .elements n => toString n ++ " elements in sequence"

/-- The words for a choice of names. -/
def ShapeError.choice : List String → String
  | [a] => Text.ticked a
  | [a, b] => Text.ticked a ++ " or " ++ Text.ticked b
  | names => "one of " ++ ", ".intercalate (names.map Text.ticked)

/-- The sentence that reports a wrong shape. -/
def ShapeError.message : ShapeError → String
  | .wrongType f w => "invalid type: " ++ f.describe ++ ", expected " ++ w.describe
  | .wrongValue f w => "invalid value: " ++ f.describe ++ ", expected " ++ w.describe
  | .wrongLength n w => "invalid length " ++ toString n ++ ", expected " ++ w.describe
  | .unknownName name known =>
    "unknown variant " ++ Text.ticked name ++ ", expected " ++ choice known
  | .missingField name => "missing field " ++ Text.ticked name
  | .repeatedField name => "duplicate field " ++ Text.ticked name

end CounterWalk

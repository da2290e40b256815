import CounterWalk.Log.Threshold
import CounterWalk.Pattern.Matching
import CounterWalk.Pattern.Reader
import CounterWalk.Text.Literal
import CounterWalk.Text.Slice

/-!
# Directives

A directive of a filter sets a threshold for a part of the log. It is written as

  `target[span{field=value}]=threshold`

of which every part may be left out: the beginning of the names of the parts of the program that it
is about, the name of a span, the name of a field, the value of that field, and the threshold, which
is that of everything if it is not given. A name alone that is a threshold is meant as one.

Main definitions:

- `Selection`: what a directive is about;
- `Directive.ofText?`: the directive that a text spells.
-/

namespace CounterWalk

/-- What a field has to be. -/
inductive FieldValue where
  /-- A truth value or a number. The fields of spans are values of other kinds. -/
  | literal
  /-- Something whose text matches a pattern, of which the spelling is kept. -/
  | matching (spelling : List Char) (pattern : Pattern)
deriving DecidableEq, Repr

/-- Whether a field with the given text is as it has to be. -/
def FieldValue.holds (text : String) : FieldValue → Bool
  | .literal => false
  | .matching _ pattern => pattern.accepts text.toList

/-- A field that has to be there, and perhaps what it has to be. -/
structure FieldTest where
  name : String
  value : Option FieldValue := none
deriving DecidableEq, Repr

/-- What a directive is about. -/
structure Selection where
  /-- What the name of the part of the program starts with. -/
  target : List Char := []
  span : Option String := none
  field : Option FieldTest := none
deriving DecidableEq, Repr

/-- A part of a filter. -/
structure Directive where
  selection : Selection := {}
  threshold : Threshold := .full
deriving DecidableEq, Repr

/-- Why a text is not a filter. -/
inductive FilterError where
  | unreadable
  /-- A part ends inside a character. -/
  | divided
deriving DecidableEq, Repr

namespace FieldTest

/-- Reads a field. What follows a second equals sign does not count. -/
def ofText? (text : List Char) : Except FilterError FieldTest :=
  match text.splitOn '=' with
  | name :: value :: _ =>
    if Text.isLiteral value then
      return { name := String.ofList name, value := some .literal }
    else
      match Pattern.ofText? value with
      | some p => return { name := String.ofList name, value := some (.matching value p) }
      | none => throw .unreadable
  | _ => if text.isEmpty then throw .unreadable else return { name := String.ofList text }

end FieldTest

namespace Directive

/-- Which part of a directive a reader is in. Parts of open length come with their first place. -/
inductive Stage where
  | start
  | word
  | span (first : Nat)
  | field (first : Nat)
  | fieldEnd
  | selected
  | threshold (first : Nat)
deriving DecidableEq, Repr

/-- A directive of which a part has been read. -/
structure Progress where
  selection : Selection := {}
  stage : Stage := .start
  /-- The number of bytes read. -/
  place : Nat := 0
deriving DecidableEq, Repr

/-- Whether a character may start a name. -/
def isInitial (c : Char) : Bool := Text.isAlphanumeric c || c = '-' || c = ':' || c = '_'

/-- What stands in a text from one place up to another. -/
def cut (first last : Nat) (text : List Char) : Except FilterError (List Char) :=
  match Text.slice? first last text with
  | some part => return part
  | none => throw .divided

/-- The threshold of a text, which has to be one. -/
def readThreshold (text : List Char) : Except FilterError Threshold :=
  match Threshold.ofText? text with
  | some t => return t
  | none => throw .unreadable

namespace Progress

/-- Where a reader is after one more character. Parts are cut from the `whole` text. -/
def next (whole : List Char) (p : Progress) (c : Char) : Except FilterError Progress := do
  let after := p.place + c.utf8Size
  let s := p.selection
  let (selection, stage) ← match p.stage, c with
    | .start, '[' => pure (s, Stage.span after)
    | .start, c => if isInitial c then pure (s, .word) else throw .unreadable
    | .word, '=' => do pure ({ s with target := ← cut 0 p.place whole }, .threshold after)
    | .word, '[' => do pure ({ s with target := ← cut 0 p.place whole }, .span after)
    | .word, _ => pure (s, .word)
    | .span first, ']' => do
      let name ← cut first p.place whole
      pure ({ s with span := some (String.ofList name) }, .selected)
    | .span first, '\x7b' => do
      let name ← cut first p.place whole
      let span := if name.isEmpty then none else some (String.ofList name)
      pure ({ s with span }, .field after)
    | .span first, _ => pure (s, .span first)
    | .field first, '\x7d' => do
      let field ← FieldTest.ofText? (← cut first p.place whole)
      pure ({ s with field := some field }, .fieldEnd)
    | .field first, _ => pure (s, .field first)
    | .fieldEnd, ']' => pure (s, .selected)
    | .selected, '=' => pure (s, .threshold after)
    | .threshold first, _ => pure (s, .threshold first)
    | _, _ => throw .unreadable
  return { selection, stage, place := after }

/-- The directive at the end of the `whole` text. -/
def finish (whole : List Char) (p : Progress) : Except FilterError Directive :=
  match p.stage with
  | .word =>
    match Threshold.ofText? whole with
    | some threshold => return { threshold }
    | none => return { selection := { target := whole } }
  | .selected => return { selection := p.selection }
  | .threshold first =>
    match Text.dropBytes? first whole with
    | none => throw .divided
    | some [] => return { selection := p.selection }
    | some text => return { selection := p.selection, threshold := ← readThreshold text }
  | _ => throw .unreadable

end Progress

/-- Reads a directive. The places of its parts are counted without the blanks at its ends, but the
parts are cut from the text as it stands, so that blanks before a directive shift them. -/
def ofText? (text : List Char) : Except FilterError Directive := do
  let p ← (Text.trim text).foldlM (Progress.next text) {}
  p.finish text

end Directive

end CounterWalk

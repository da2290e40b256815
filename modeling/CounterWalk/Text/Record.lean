/-!
# Values shown by their fields

A value with named fields is shown as its name and the fields in braces, a list as its elements in
brackets.
-/

namespace CounterWalk.Text

/-- A name followed by its fields, each as the field's name and the text of its value. -/
def record (name : String) (fields : List (String × String)) : String :=
  name ++ " \x7b " ++ ", ".intercalate (fields.map fun f => f.1 ++ ": " ++ f.2) ++ " \x7d"

/-- The elements of a list between brackets. -/
def sequence (items : List String) : String :=
  "[" ++ ", ".intercalate items ++ "]"

/-- The decimal text of a signed word. -/
def integer (v : Int64) : String := toString v.toInt

/-- The decimal text of an unsigned word. -/
def natural (v : UInt64) : String := toString v.toNat

/-- The text of a truth value. -/
def truth (b : Bool) : String := if b then "true" else "false"

end CounterWalk.Text

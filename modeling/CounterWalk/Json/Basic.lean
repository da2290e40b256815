/-!
# JSON values

Objects keep their members in the order in which they are written, names that occur more than once
included. Numbers are told apart by how they can be held: as an unsigned word, as a negative signed
word, or as a binary64 real.
-/

namespace CounterWalk

/-- A number. -/
inductive JsonNumber where
  | natural (value : UInt64)
  /-- A number below zero. -/
  | negative (value : Int64)
  /-- A real, by its binary64 encoding. -/
  | real (bits : UInt64)
deriving DecidableEq, Repr

/-- A JSON value. -/
inductive Json where
  | null
  | bool (value : Bool)
  | number (value : JsonNumber)
  | string (value : String)
  | array (items : List Json)
  | object (members : List (String × Json))

end CounterWalk

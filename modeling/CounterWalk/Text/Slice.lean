/-!
# Parts of a text by bytes

A place in a text can be given by the number of bytes before it. Not every number is such a place:
a character of several bytes cannot be divided.

Main results:

- `dropBytes?_append`, `takeBytes?_append`: a text is cut between two parts at the number of bytes
  of the first.
-/

namespace CounterWalk.Text

/-- The number of bytes of a text. -/
def byteLength : List Char → Nat
  | [] => 0
  | c :: rest => c.utf8Size + byteLength rest

/-- The text after a number of bytes, unless that divides a character. -/
def dropBytes? : Nat → List Char → Option (List Char)
  | 0, text => some text
  | _ + 1, [] => none
  | n + 1, c :: rest => if c.utf8Size ≤ n + 1 then dropBytes? (n + 1 - c.utf8Size) rest else none

/-- The text of a number of bytes, unless that divides a character. -/
def takeBytes? : Nat → List Char → Option (List Char)
  | 0, _ => some []
  | _ + 1, [] => none
  | n + 1, c :: rest =>
    if c.utf8Size ≤ n + 1 then (takeBytes? (n + 1 - c.utf8Size) rest).map (c :: ·) else none

/-- The text between two places. -/
def slice? (first last : Nat) (text : List Char) : Option (List Char) :=
  (dropBytes? first text).bind (takeBytes? (last - first))

/-- The first character can be cut off. -/
theorem dropBytes?_cons (c : Char) (n : Nat) (rest : List Char) :
    dropBytes? (c.utf8Size + n) (c :: rest) = dropBytes? n rest := by
  obtain ⟨k, hk⟩ : ∃ k, c.utf8Size = k + 1 := ⟨c.utf8Size - 1, by have := c.utf8Size_pos; omega⟩
  rw [hk, show k + 1 + n = (k + n) + 1 by omega, dropBytes?, if_pos (by omega)]
  congr 1
  omega

/-- The first character can be kept. -/
theorem takeBytes?_cons (c : Char) (n : Nat) (rest : List Char) :
    takeBytes? (c.utf8Size + n) (c :: rest) = (takeBytes? n rest).map (c :: ·) := by
  obtain ⟨k, hk⟩ : ∃ k, c.utf8Size = k + 1 := ⟨c.utf8Size - 1, by have := c.utf8Size_pos; omega⟩
  rw [hk, show k + 1 + n = (k + n) + 1 by omega, takeBytes?, if_pos (by omega)]
  congr 2
  omega

theorem dropBytes?_append (a b : List Char) : dropBytes? (byteLength a) (a ++ b) = some b := by
  induction a with
  | nil => rw [byteLength, List.nil_append, dropBytes?]
  | cons c rest ih => rw [byteLength, List.cons_append, dropBytes?_cons, ih]

theorem takeBytes?_append (a b : List Char) : takeBytes? (byteLength a) (a ++ b) = some a := by
  induction a with
  | nil => rw [byteLength, List.nil_append, takeBytes?]
  | cons c rest ih => rw [byteLength, List.cons_append, takeBytes?_cons, ih, Option.map_some]

end CounterWalk.Text

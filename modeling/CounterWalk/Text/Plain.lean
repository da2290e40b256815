import CounterWalk.Text.Utf8

/-!
# Plain text

What is shown on a terminal may hold sequences that steer the terminal. Text is made plain by
leaving these out, with all controls that do not move on in the text. A sequence has an escape
character, then what kind of sequence it is, and goes on as that kind tells; another escape
character begins another one.

Main definitions:

- `Steering.next`: where a character that is not shown leads;
- `plain`: a text made plain as a whole;
- `plainStream`: a text made plain while it is written;
- `firstLine`: the line by which a message is told.
-/

namespace CounterWalk.Text

/-- Where in a steering sequence a text stands. -/
inductive Steering where
  | outside
  /-- After the escape character. -/
  | escape
  /-- Among marks after the escape character. -/
  | marks
  /-- In a control sequence, which a letter ends. -/
  | control
  /-- At the head of a string for the device. -/
  | deviceHead
  /-- Among the parameters at the head of a string for the device. -/
  | deviceParameters
  /-- Among the marks at the head of a string for the device. -/
  | deviceMarks
  /-- In a string that is not shown, which the terminator of strings ends. -/
  | string
  /-- In a command to the terminal, which a bell ends. -/
  | command
deriving DecidableEq, Repr

/-- Whether a character is a control that moves on in a line or to another. -/
def isMove (c : Char) : Bool := c = '\t' || c = '\n' || c = '\x0c' || c = '\r'

/-- Whether a character is beyond ASCII. -/
def isWide (c : Char) : Bool := '\x7f' < c

/-- The byte that terminates a string for the terminal. -/
def stringTerminator : UInt8 := 0x9C

namespace Steering

/-- Whether a character is shown where a text stands. Only strings and commands hide moves. -/
def shows : Steering → Char → Bool
  | .outside, c => isMove c || (' ' ≤ c && c ≤ '~') || isWide c
  | .escape, c | .marks, c | .control, c => isMove c
  | _, _ => false

/-- What the character after an escape character begins. -/
def afterEscape (c : Char) : Steering :=
  if c = '[' then .control
  else if c = ']' then .command
  else if c = 'P' then .deviceHead
  else if c = 'X' ∨ c = '^' ∨ c = '_' then .string
  else if c ≤ '/' then .marks
  else .outside

/-- Where a graphic character of ASCII leads. -/
def afterGraphic (c : Char) : Steering → Steering
  | .outside => .outside
  | .escape => afterEscape c
  | .marks => if c ≤ '/' then .marks else .outside
  | .control => if c ≤ '?' then .control else .outside
  | .deviceHead =>
    if c ≤ '/' then .deviceMarks else if c ≤ '?' then .deviceParameters else .string
  | .deviceParameters =>
    if c ≤ '/' then .deviceMarks else if c ≤ ';' then .deviceParameters else .string
  | .deviceMarks => if c ≤ '/' then .deviceMarks else .string
  | .string => .string
  | .command => .command

/-- Where a text stands after one more character that is not shown. A character beyond ASCII ends a
string if the terminator is among its bytes, and leads nowhere otherwise. -/
def next (s : Steering) (c : Char) : Steering :=
  if c = '\x1b' then .escape
  else if c = '\x18' ∨ c = '\x1a' then .outside
  else if isWide c then
    if s = .string ∧ stringTerminator ∈ Utf8.encode [c] then .outside else s
  else if ' ' ≤ c ∧ c ≤ '~' then s.afterGraphic c
  else if s = .command ∧ c = '\x07' then .outside
  else s

end Steering

/-- The characters that are shown. A move inside a sequence is shown, and so is what follows it up
to the next control. There the sequence goes on if it is to `resume`, unless a character beyond
ASCII was shown; otherwise the move ended it. -/
def plainFrom (resume : Bool) (s : Steering) (shown : Bool) : List Char → List Char
  | [] => []
  | c :: rest =>
    if s.shows c || (shown && Steering.outside.shows c) then
      c :: plainFrom resume (if resume && !isWide c then s else .outside) true rest
    else plainFrom resume (s.next c) false rest

/-- Outside of a sequence, what is shown there stays. -/
theorem plainFrom_of_shows (resume shown : Bool) {text : List Char}
    (h : ∀ c ∈ text, Steering.outside.shows c = true) :
    plainFrom resume .outside shown text = text := by
  induction text generalizing shown with
  | nil => rfl
  | cons c rest ih =>
    have hc : Steering.outside.shows c = true := h c List.mem_cons_self
    have hrest : ∀ d ∈ rest, Steering.outside.shows d = true :=
      fun d hd => h d (List.mem_cons_of_mem c hd)
    simp [plainFrom, hc, ih true hrest]

/-- The text without steering sequences, each of which ends at the first move inside it. -/
def plain (s : String) : String := String.ofList (plainFrom false .outside false s.toList)

/-- The text without steering sequences, each of which goes on after the moves inside it. -/
def plainStream (s : String) : String := String.ofList (plainFrom true .outside false s.toList)

/-- A text without controls is plain. -/
theorem plain_of_shows {s : String} (h : ∀ c ∈ s.toList, Steering.outside.shows c = true) :
    plain s = s := by
  rw [plain, plainFrom_of_shows false false h, String.ofList_toList]

/-- The text set off from what is around it on a terminal. -/
def emphasized (s : String) : String := "\x1b[33m" ++ s ++ "\x1b[0m"

/-- The first line without its end, which may be a line feed or a carriage return and a line
feed. -/
def firstLine (s : String) : String :=
  let line := s.toList.takeWhile (· ≠ '\n')
  String.ofList (if line.length < s.length ∧ line.getLast? = some '\r' then line.dropLast else line)

end CounterWalk.Text

import CounterWalk.Pattern.Basic

/-!
# Matching patterns

A text is searched for a pattern from left to right. The search follows all ways to match at once,
in their order of preference: those that began earlier come first, and those that began together are
ordered as the pattern prefers. Once a way is at its end, the ways after it are given up, but those
before it go on. The text as a whole matches if some way is at its end where the text ends.

Main definitions:

- `Pattern.Thread`: what is left to match on one way;
- `Pattern.branches`: the next characters that a thread can take;
- `Pattern.accepts`: whether a text matches.
-/

namespace CounterWalk.Pattern

/-- How a repetition came to its end. -/
inductive Round where
  /-- A character was taken since. -/
  | later
  /-- No character was taken since the repetition began. -/
  | first
  /-- No character was taken since it was repeated. -/
  | again
deriving DecidableEq, Repr

/-- A part of what is left to match. -/
inductive Frame where
  | once (p : Pattern)
  /-- The end of a repetition, which may be repeated. -/
  | repeated (greedy : Bool) (p : Pattern) (round : Round)
deriving DecidableEq, Repr

namespace Frame

/-- The part after a character was taken. -/
def advanced : Frame → Frame
  | .once p => .once p
  | .repeated greedy p _ => .repeated greedy p .later

end Frame

/-- What is left to match on one way. -/
abbrev Thread := List Frame

/-- How a thread goes on. -/
inductive Branch where
  /-- Nothing is left to match. -/
  | done
  /-- A character of the set is taken. -/
  | take (set : CharSet) (rest : Thread)
deriving DecidableEq, Repr

/-- The size of a pattern. -/
def size : Pattern → Nat
  | .empty | .one _ | .place _ => 1
  | .seq a b | .either a b => a.size + b.size + 1
  | .plus _ a => a.size + 3

/-- The most that can be done with a part before a character is taken. -/
def Frame.work : Frame → Nat
  | .once p => p.size
  | .repeated _ p .later => p.size + 3
  | .repeated _ _ .first | .repeated _ _ .again => 1

/-- The most that can be done with a thread before a character is taken. -/
def work : Thread → Nat
  | [] => 0
  | f :: rest => f.work + work rest

theorem size_pos (p : Pattern) : 0 < p.size := by cases p <;> simp [size]

/-- The ways in which a thread can go on between two characters, in order of preference. A
repetition that took no character since it was repeated leads nowhere new. -/
def branches (s : Surroundings) : Thread → List Branch
  | [] => [.done]
  | .once .empty :: rest => branches s rest
  | .once (.one set) :: rest => [.take set (rest.map Frame.advanced)]
  | .once (.place p) :: rest => if p.holds s then branches s rest else []
  | .once (.seq a b) :: rest => branches s (.once a :: .once b :: rest)
  | .once (.either a b) :: rest => branches s (.once a :: rest) ++ branches s (.once b :: rest)
  | .once (.plus greedy a) :: rest => branches s (.once a :: .repeated greedy a .first :: rest)
  | .repeated _ _ .again :: _ => []
  | .repeated _ _ .first :: rest => branches s rest
  | .repeated greedy a .later :: rest =>
    let more := branches s (.once a :: .repeated greedy a .again :: rest)
    let enough := branches s rest
    if greedy then more ++ enough else enough ++ more
termination_by t => work t
decreasing_by
  all_goals simp only [work, Frame.work, size]
  all_goals grind [size_pos]

/-- Where a thread goes on a character. -/
def Branch.next? (c : Char) : Branch → Option Thread
  | .done => none
  | .take set rest => if set.contains c then some rest else none

/-- Whether a text, of which `before` is the character before, can be finished by one of the
threads. While it is `searching`, a thread may begin at any place. -/
def finishes (p : Pattern) (before : Option Char) (threads : List Thread) (searching : Bool) :
    List Char → Bool
  | [] => (ways none).contains .done
  | c :: rest =>
    let now := ways (some c)
    let ahead := (now.takeWhile (· ≠ .done)).filterMap (Branch.next? c)
    finishes p (some c) ahead (searching && !now.contains .done) rest
where
  /-- The ways to go on at the place between `before` and `after`. -/
  ways (after : Option Char) : List Branch :=
    let all := if searching then threads ++ [[.once p]] else threads
    (all.flatMap (branches ⟨before, after⟩)).eraseDups

/-- Whether a text matches up to its end. -/
def accepts (p : Pattern) (text : List Char) : Bool := finishes p none [] true text

end CounterWalk.Pattern

import CounterWalk.Log.Basic
import CounterWalk.Text.Digits

/-!
# Thresholds

A threshold is the last level that is shown. It is written as the name of that level, or as its
place among all thresholds.

Main definitions:

- `Threshold.shows`: whether a level is shown;
- `Threshold.ofText?`: the threshold that a text spells.
-/

namespace CounterWalk

/-- The last of the levels that are shown, if any are. -/
abbrev Threshold := Option Level

namespace Threshold

/-- Everything is shown. -/
def full : Threshold := some .trace

/-- Whether a level is shown. -/
def shows (t : Threshold) (l : Level) : Bool := t.any fun last => l.rank ≤ last.rank

/-- The threshold that shows what one of two shows. -/
def union (a b : Threshold) : Threshold := if b.all a.shows then a else b

/-- The threshold that shows what one of many shows. -/
def unions (ts : List Threshold) : Threshold := ts.foldl union none

/-- Every threshold, from nothing to everything. -/
def all : List Threshold := none :: Level.all.map some

/-- The name of a threshold in small letters. -/
def name (t : Threshold) : String := t.elim "off" Level.name

/-- The threshold of a name in any letter case, or of its place among all thresholds. -/
def ofText? (text : List Char) : Option Threshold :=
  match Text.readNumeral text with
  | .ok n => all[n.toNat]?
  | .error _ => all.find? fun t => t.name == (String.ofList text).toLower

theorem shows_union (a b : Threshold) (l : Level) :
    (a.union b).shows l = (a.shows l || b.shows l) := by
  cases a with
  | none => cases b <;> simp [union, shows]
  | some a =>
    cases b with
    | none => simp [union, shows]
    | some b => cases a <;> cases b <;> cases l <;> rfl

end Threshold

end CounterWalk

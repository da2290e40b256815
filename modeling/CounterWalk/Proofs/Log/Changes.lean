import CounterWalk.Proofs.Log.Lines
import Mathlib.Algebra.Ring.Parity
import Mathlib.Data.List.Chain

/-!
# The changes of the flag in a log

A flag that is set to one value after another changes where a value differs from the one before it.
A log that tells these changes and no others begins at the first value of the flag and ends at the
last, and each change goes on from where the one before it ended.

Main definitions:

- `Log.flagChanges`: the changes that the lines of a log tell;
- `Log.change` and `Log.changesFrom`: the changes that a flag goes through when it is set to one
  value or to several;
- `Log.Recounts`: what makes a list of changes the story of a flag.

Main results:

- Theorem `Log.flagChanges_eq_events`: the lines tell the changes that were noted.
- Theorem `Log.recounts_changesFrom`: the changes that a flag goes through are its story.
- Theorem `Log.Recounts.ne_iff_odd`: the flag is another one at the end if the changes are odd in
  number.
-/

namespace CounterWalk

/-! ## Lines that tell a change -/

/-- The change of the flag that an event notes. -/
def Event.flagChange? : Event → Option (Bool × Bool)
  | .flagChanged before after => some (before, after)
  | _ => none

/-- The change of the flag that a line tells. -/
def Line.flagChange? (l : Line) : Option (Bool × Bool) :=
  [(false, false), (false, true), (true, false), (true, true)].find? fun p =>
    l.text = "Fault flag changed: " ++ Text.truth p.1 ++ " -> " ++ Text.truth p.2

namespace Line

/-- Only a sentence that begins as those about the flag do can tell a change of it. -/
theorem flagChange?_of_initial_ne {e : List Span × Event} (h : e.2.initial ≠ 'F') :
    (ofEvent e).flagChange? = none := by
  rw [flagChange?, List.find?_eq_none]
  rintro p - hp
  have hlead : "Fault flag changed: ".toList.head? = some 'F' := by decide
  have hhead := e.2.head?_message
  rw [← ofEvent_text, of_decide_eq_true hp] at hhead
  simp only [String.toList_append, List.append_assoc, List.head?_append, hlead] at hhead
  exact h (Option.some.inj hhead).symm

/-- A line tells the change that its event notes. -/
theorem flagChange?_ofEvent (e : List Span × Event) :
    (ofEvent e).flagChange? = e.2.flagChange? := by
  obtain ⟨spans, e⟩ := e
  cases e with
  | flagChanged before after => cases before <;> cases after <;> rfl
  | valueDrawn | counterMade | counterIncremented | counterReset | executed | mismatched | rejected
  | modelReset | walkPassed | walkFailed =>
    exact flagChange?_of_initial_ne (by simp [Event.initial])

end Line

namespace Log

/-- The changes of the flag that the lines of a log tell. -/
def flagChanges (log : Log) : List (Bool × Bool) := (log.lines .full).filterMap Line.flagChange?

/-- The lines tell the changes that were noted. -/
theorem flagChanges_eq_events (log : Log) :
    log.flagChanges = log.events.filterMap fun e => e.2.flagChange? := by
  rw [flagChanges, lines_full, List.filterMap_map]
  congr 1
  funext e
  exact Line.flagChange?_ofEvent e

@[simp]
theorem flagChanges_nil : flagChanges [] = [] :=
  rfl

@[simp]
theorem flagChanges_append (l₁ l₂ : Log) :
    flagChanges (l₁ ++ l₂) = l₁.flagChanges ++ l₂.flagChanges := by
  rw [flagChanges, lines_append, List.filterMap_append]
  rfl

theorem flagChanges_event (spans : List Span) (e : Event) :
    flagChanges [⟨spans, .event e⟩] = e.flagChange?.toList := by
  rw [flagChanges_eq_events]
  cases h : e.flagChange? <;> simp [events, Entry.event?, h]

@[simp]
theorem flagChanges_within (s : Span) (log : Log) :
    flagChanges (log.within s) = log.flagChanges := by
  rw [flagChanges_eq_events, flagChanges_eq_events, events_within, List.filterMap_map]
  rfl

/-! ## The story of a flag -/

/-- The change of a flag that is set; there is none if it was so before. -/
def change (before after : Bool) : List (Bool × Bool) :=
  if before = after then [] else [(before, after)]

/-- The changes that a flag goes through when it is set to some values one after another. -/
def changesFrom (before : Bool) : List Bool → List (Bool × Bool)
  | [] => []
  | v :: values => change before v ++ changesFrom v values

theorem changesFrom_append (before : Bool) (values later : List Bool) :
    changesFrom before (values ++ later) =
      changesFrom before values ++ changesFrom (values.getLastD before) later := by
  induction values generalizing before with
  | nil => rfl
  | cons v values ih => rw [List.cons_append, changesFrom, ih, changesFrom, List.append_assoc,
      List.getLastD_cons]

/-- A flag that is set once at most goes through one change or none. -/
theorem changesFrom_of_length_le_one (before : Bool) {values : List Bool}
    (honce : values.length ≤ 1) :
    changesFrom before values = change before (values.getLastD before) := by
  match values, honce with
  | [], _ => simp [changesFrom, change]
  | [v], _ => simp [changesFrom]

/-- The changes are the story of a flag: they begin with the value that it had before, each goes on
from where the one before it ended, none leaves the value as it was, and they end with the value
that it has after them. -/
structure Recounts (before : Bool) (changes : List (Bool × Bool)) (after : Bool) : Prop where
  first : ∀ p ∈ changes.head?, p.1 = before
  linked : changes.IsChain fun p q => p.2 = q.1
  changed : ∀ p ∈ changes, p.1 ≠ p.2
  last : (changes.getLast?.map Prod.snd).getD before = after

namespace Recounts

variable {before middle after : Bool} {p : Bool × Bool} {changes : List (Bool × Bool)}

theorem nil (before : Bool) : Recounts before [] before where
  first _ h := nomatch h
  linked := .nil
  changed _ h := nomatch h
  last := rfl

theorem cons (hne : before ≠ middle) (h : Recounts middle changes after) :
    Recounts before ((before, middle) :: changes) after where
  first := by simp
  linked := List.isChain_cons.mpr ⟨fun q hq => (h.first q hq).symm, h.linked⟩
  changed := List.forall_mem_cons.mpr ⟨hne, h.changed⟩
  last := by
    rw [List.getLast?_cons, Option.map_some, Option.getD_some, ← h.last]
    cases changes.getLast? <;> rfl

/-- The story goes on after its first change. -/
theorem of_cons (h : Recounts before (p :: changes) after) :
    p = (before, !before) ∧ Recounts (!before) changes after := by
  obtain ⟨first, second⟩ := p
  obtain rfl : first = before := h.first _ rfl
  obtain rfl : second = !first := Bool.eq_not.mpr (h.changed _ List.mem_cons_self).symm
  obtain ⟨hfirst, hlinked⟩ := List.isChain_cons.mp h.linked
  refine ⟨rfl, fun q hq => (hfirst q hq).symm, hlinked, ?_, ?_⟩
  · exact fun q hq => h.changed q (List.mem_cons_of_mem _ hq)
  · rw [← h.last, List.getLast?_cons, Option.map_some, Option.getD_some]
    cases changes.getLast? <;> rfl

/-- The flag is another one at the end exactly if it changed an odd number of times. -/
theorem ne_iff_odd (h : Recounts before changes after) : after ≠ before ↔ Odd changes.length := by
  induction changes generalizing before with
  | nil =>
    obtain rfl : before = after := h.last
    simp
  | cons p changes ih =>
    obtain ⟨-, hrest⟩ := h.of_cons
    rw [List.length_cons, Nat.odd_add_one, ← ih hrest]
    cases before <;> cases after <;> simp

end Recounts

/-- The changes that a flag goes through are its story. -/
theorem recounts_changesFrom (before : Bool) (values : List Bool) :
    Recounts before (changesFrom before values) (values.getLastD before) := by
  induction values generalizing before with
  | nil => exact .nil before
  | cons v values ih =>
    rw [changesFrom, change, List.getLastD_cons]
    by_cases h : before = v
    · rw [if_pos h, h, List.nil_append]
      exact ih v
    · rw [if_neg h]
      exact .cons h (ih v)

end Log

end CounterWalk

/-!
# Slots

Things that are kept under names, in the order of the names.

Main results:

- `Slots.get?_put_self`, `Slots.get?_put_of_ne`: what a slot holds after something was put there or
  elsewhere;
- `Slots.get?_remove_self`, `Slots.get?_remove_of_ne`: what it holds after a slot was emptied.
-/

namespace CounterWalk

/-- Things with their names. -/
abbrev Slots (α : Type) := List (String × α)

namespace Slots

variable {α : Type}

/-- What is kept under a name. -/
def get? (slots : Slots α) (name : String) : Option α :=
  (slots.find? fun p => p.1 = name).map Prod.snd

/-- Keeps something under a name, in place of what was there. -/
def put (name : String) (a : α) : Slots α → Slots α
  | [] => [(name, a)]
  | (k, b) :: rest =>
    if name = k then (name, a) :: rest
    else if name < k then (name, a) :: (k, b) :: rest
    else (k, b) :: put name a rest

/-- Empties a slot. -/
def remove (name : String) (slots : Slots α) : Slots α := slots.filter fun p => p.1 ≠ name

theorem get?_put_self (slots : Slots α) (name : String) (a : α) :
    (slots.put name a).get? name = some a := by
  induction slots with
  | nil => simp [put, get?]
  | cons p rest ih =>
    obtain ⟨k, b⟩ := p
    grind [put, get?]

theorem get?_put_of_ne (slots : Slots α) {name other : String} (a : α) (h : other ≠ name) :
    (slots.put name a).get? other = slots.get? other := by
  induction slots with
  | nil => grind [put, get?]
  | cons p rest ih =>
    obtain ⟨k, b⟩ := p
    grind [put, get?]

theorem get?_remove_self (slots : Slots α) (name : String) :
    (slots.remove name).get? name = none := by
  simp [remove, get?, List.find?_eq_none]

theorem get?_remove_of_ne (slots : Slots α) {name other : String} (h : other ≠ name) :
    (slots.remove name).get? other = slots.get? other := by
  induction slots with
  | nil => rfl
  | cons p rest ih =>
    obtain ⟨k, b⟩ := p
    grind [remove, get?]

end Slots

end CounterWalk

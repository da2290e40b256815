import CounterWalk.Text.Record

/-!
# Counters

A counter holds a signed 64-bit value that moves by one step up, wrapping at the top, or back to
zero. Where a counter starts is not its own business.
-/

namespace CounterWalk

/-- A signed counter. -/
structure Counter where
  value : Int64
deriving DecidableEq, Repr

namespace Counter

/-- One step up; the greatest value is followed by the least. -/
def succ (c : Counter) : Counter := ⟨c.value + 1⟩

/-- The counter at zero. -/
def zero : Counter := ⟨0⟩

/-- The counter shown by its field. -/
def describe (c : Counter) : String := Text.record "Counter" [("value", Text.integer c.value)]

@[simp] theorem value_succ (c : Counter) : c.succ.value = c.value + 1 := rfl

@[simp] theorem value_zero : zero.value = 0 := rfl

end Counter

end CounterWalk

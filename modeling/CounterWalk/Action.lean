/-!
# Actions

The five things a test can do with a counter: bring it to life, end its life, change it in two ways
and ask for its count.
-/

namespace CounterWalk

/-- One step of a test. -/
inductive Action where
  | create
  | destroy
  | increment
  | reset
  | count
deriving DecidableEq, Repr

namespace Action

/-- Every action, in the order in which lists of actions are kept. -/
def all : List Action := [.create, .destroy, .increment, .reset, .count]

/-- The name under which an action is written in scripts and reports. -/
def name : Action → String
  | .create => "Create"
  | .destroy => "Destroy"
  | .increment => "Increment"
  | .reset => "Reset"
  | .count => "Count"

/-- The name under which an action is spoken of in messages. -/
def label (a : Action) : String := "i" ++ a.name

/-- The action of a given name. -/
def ofName? (s : String) : Option Action := all.find? fun a => a.name == s

theorem mem_all (a : Action) : a ∈ all := by cases a <;> decide

theorem ofName?_name (a : Action) : ofName? a.name = some a := by cases a <;> decide

theorem name_of_ofName? {s : String} {a : Action} (h : ofName? s = some a) : a.name = s := by
  have := List.find?_some h
  simpa using this

end Action

end CounterWalk

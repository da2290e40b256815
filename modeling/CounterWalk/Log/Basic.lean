import CounterWalk.Counter.Basic
import CounterWalk.Model.Error
import CounterWalk.Walk.Plan

/-!
# The log

Operations note what they do. A note is an `Event`; it is made inside the spans of the operations
under way, and a span is itself noted when it opens and when it closes. A `Log` keeps these entries
in order, and `Logged` carries a value together with the log of the work behind it.
-/

namespace CounterWalk

/-- How much an event matters, most first. -/
inductive Level where
  | error
  | warn
  | info
  | debug
  | trace
deriving DecidableEq, Repr

namespace Level

/-- The place in the order of levels, counted from the one that matters most. -/
def rank : Level → Nat
  | .error => 1
  | .warn => 2
  | .info => 3
  | .debug => 4
  | .trace => 5

/-- The name of the level, in small letters. -/
def name : Level → String
  | .error => "error"
  | .warn => "warn"
  | .info => "info"
  | .debug => "debug"
  | .trace => "trace"

/-- The levels, most important first. -/
def all : List Level := [.error, .warn, .info, .debug, .trace]

end Level

/-- An operation during which events are noted. -/
inductive Span where
  /-- A random walk. -/
  | walk (plan : WalkPlan)
  /-- One action of a test. -/
  | action (action : Action)
  /-- A step up of a counter, which is given as it was before. -/
  | increment (before : Counter)
  /-- A return to zero of a counter, which is given as it was before. -/
  | reset (before : Counter)
deriving DecidableEq, Repr

namespace Span

/-- The name of the operation. -/
def name : Span → String
  | .walk _ => "random_walk"
  | .action _ => "execute_action"
  | .increment _ => "increment_counter"
  | .reset _ => "reset_counter"

/-- The field that tells the operation from others of its name. -/
def field : Span → String × String
  | .walk p => ("self", p.describe)
  | .action a => ("action", a.name)
  | .increment c => ("self", c.describe)
  | .reset c => ("self", c.describe)

/-- The level at which the operation is noted. -/
def level : Span → Level
  | .walk _ => .info
  | .action _ | .increment _ | .reset _ => .debug

/-- The part of the program that does the operation. -/
def origin : Span → String
  | .walk _ => "faultcounter::core::model::walk"
  | .action _ => "faultcounter::core::model::harness"
  | .increment _ | .reset _ => "faultcounter::core::counter"

/-- The name with the field in braces. -/
def describe (s : Span) : String :=
  s.name ++ "\x7b" ++ s.field.1 ++ "=" ++ s.field.2 ++ "\x7d"

end Span

/-- Something worth noting. -/
inductive Event where
  | flagChanged (before after : Bool)
  | valueDrawn (value : Int64)
  /-- A counter was made; the flag is given if it was asked. -/
  | counterMade (value : Int64) (flag : Option Bool)
  | counterIncremented (value : Int64)
  | counterReset
  | executed (action : Action)
  | mismatched (expected actual : Int64)
  | rejected (action : Action)
  | modelReset
  | walkPassed (steps : Nat)
  | walkFailed (step : Nat) (action : Action) (error : ModelError)
deriving DecidableEq, Repr

namespace Event

/-- The level at which the event is noted. -/
def level : Event → Level
  | .flagChanged .. | .counterMade .. | .modelReset | .walkPassed _ => .info
  | .valueDrawn _ | .counterIncremented _ | .counterReset | .executed _ => .debug
  | .mismatched .. | .rejected _ | .walkFailed .. => .warn

/-- The part of the program that notes the event. -/
def origin : Event → String
  | .flagChanged .. => "faultcounter::core::fault"
  | .valueDrawn _ => "faultcounter::core::counter::initializer"
  | .counterMade .. | .counterIncremented _ | .counterReset => "faultcounter::core::counter"
  | .executed _ | .mismatched .. | .rejected _ | .modelReset => "faultcounter::core::model::harness"
  | .walkPassed _ | .walkFailed .. => "faultcounter::core::model::walk"

/-- The sentence that reports the event. -/
def message : Event → String
  | .flagChanged a b => "Fault flag changed: " ++ Text.truth a ++ " -> " ++ Text.truth b
  | .valueDrawn v => "Randomized initial value: " ++ Text.integer v
  | .counterMade v flag =>
    "Creating a new counter with initial value: " ++ Text.integer v ++
      (flag.elim "" fun b => " (faulty: " ++ Text.truth b ++ ")")
  | .counterIncremented v => "Counter incremented to: " ++ Text.integer v
  | .counterReset => "Counter reset"
  | .executed a => "Executed " ++ a.label
  | .mismatched e v =>
    "Count mismatch: expected " ++ Text.integer e ++ ", got " ++ Text.integer v
  | .rejected a => "Rejected " ++ a.label ++ ": not enabled"
  | .modelReset => "Model reset"
  | .walkPassed n => "Walk passed after " ++ toString n ++ " steps"
  | .walkFailed k a e =>
    "Walk failed at step " ++ toString k ++ " on " ++ a.label ++ ": " ++ e.message

end Event

/-- What happened at an entry of the log. -/
inductive Mark where
  /-- The innermost span began. -/
  | opened
  /-- The innermost span ended. -/
  | closed
  | event (event : Event)
deriving DecidableEq, Repr

/-- An entry of the log with the spans around it, outermost first. -/
structure Entry where
  spans : List Span
  mark : Mark
deriving DecidableEq, Repr

namespace Entry

/-- The entry seen from outside a span. -/
def under (s : Span) (e : Entry) : Entry := { e with spans := s :: e.spans }

/-- The event of an entry that notes one, with the spans around it. -/
def event? (e : Entry) : Option (List Span × Event) :=
  match e.mark with
  | .event ev => some (e.spans, ev)
  | .opened | .closed => none

theorem event?_under (s : Span) (e : Entry) :
    (e.under s).event? = e.event?.map fun p => (s :: p.1, p.2) := by
  rcases e with ⟨spans, _ | _ | ev⟩ <;> rfl

end Entry

/-- Entries in the order in which they were made. -/
abbrev Log := List Entry

namespace Log

/-- The log of work done inside a span. -/
def within (s : Span) (log : Log) : Log :=
  ⟨[s], .opened⟩ :: log.map (Entry.under s) ++ [⟨[s], .closed⟩]

/-- The events of a log with the spans around each. -/
def events (log : Log) : List (List Span × Event) := log.filterMap Entry.event?

@[simp] theorem events_nil : events [] = [] := rfl

@[simp] theorem events_append (l₁ l₂ : Log) : events (l₁ ++ l₂) = events l₁ ++ events l₂ :=
  List.filterMap_append

/-- A span is put outermost around every event inside it, and adds none. -/
theorem events_within (s : Span) (log : Log) :
    (log.within s).events = log.events.map fun e => (s :: e.1, e.2) := by
  have opened : Entry.event? ⟨[s], .opened⟩ = none := rfl
  have closed : Entry.event? ⟨[s], .closed⟩ = none := rfl
  simp only [within, events, List.cons_append, List.filterMap_cons, opened, List.filterMap_append,
    closed, List.filterMap_nil, List.append_nil, List.filterMap_map, List.map_filterMap]
  congr 1
  funext e
  exact Entry.event?_under s e

end Log

/-- A value and the log of the work that led to it. -/
structure Logged (α : Type) where
  value : α
  log : Log := []

namespace Logged

variable {α β : Type}

instance : Monad Logged where
  pure a := { value := a }
  bind x f :=
    let y := f x.value
    { value := y.value, log := x.log ++ y.log }

/-- Notes one event. -/
def note (e : Event) : Logged Unit := { value := (), log := [⟨[], .event e⟩] }

/-- Does a piece of work `n` times over. -/
def times (f : α → Logged α) (n : Nat) (a : α) : Logged α :=
  let (a, log) := n.repeat (fun s : α × Array Entry =>
    let x := f s.1
    (x.value, s.2 ++ x.log)) (a, #[])
  { value := a, log := log.toList }

/-- Does the work inside a span. -/
def within (s : Span) (x : Logged α) : Logged α := { x with log := x.log.within s }

@[simp] theorem value_pure (a : α) : (pure a : Logged α).value = a := rfl

@[simp] theorem log_pure (a : α) : (pure a : Logged α).log = [] := rfl

@[simp] theorem value_bind (x : Logged α) (f : α → Logged β) :
    (x >>= f).value = (f x.value).value := rfl

@[simp] theorem log_bind (x : Logged α) (f : α → Logged β) :
    (x >>= f).log = x.log ++ (f x.value).log := rfl

@[simp] theorem log_note (e : Event) : (note e).log = [⟨[], .event e⟩] := rfl

@[simp] theorem times_zero (f : α → Logged α) (a : α) : times f 0 a = pure a := rfl

theorem times_succ (f : α → Logged α) (n : Nat) (a : α) :
    times f (n + 1) a = times f n a >>= f := by
  simp [times, Nat.repeat, bind]

@[simp] theorem value_within (s : Span) (x : Logged α) : (x.within s).value = x.value := rfl

@[simp] theorem log_within (s : Span) (x : Logged α) : (x.within s).log = x.log.within s := rfl

end Logged

end CounterWalk

import CounterWalk.CommandLine.Run
import CounterWalk.Session.Basic
import CounterWalk.Walk.Basic

/-!
# Commands to a session

Main definitions:

- `Session.perform`: one command, with its reply;
- `Session.performAll`: commands one after another;
- `Session.finish`: the end, when the guards that are left are released in the order of their names.
-/

namespace CounterWalk

/-- What a session can be asked to do. -/
inductive Command where
  /-- Tells the fault flag. -/
  | flag
  | setFlag (faulty : Bool)
  | engage (guard : String) (faulty : Bool)
  | release (guard : String)
  /-- Keeps a source of starting values. -/
  | keep (source : String) (start : StartSource)
  /-- Draws starting values. -/
  | draw (source : String) (n : Nat)
  /-- Makes a counter as the fault flag says. -/
  | make (counter : String)
  /-- Makes a counter from a source. -/
  | makeFrom (counter source : String)
  | increment (counter : String) (n : Nat)
  | reset (counter : String)
  /-- Tells the value of a counter. -/
  | count (counter : String)
  /-- Shows a counter by its field. -/
  | describe (counter : String)
  | copy (counter target : String)
  /-- Tells whether two counters have one value. -/
  | compare (counter other : String)
  | discard (counter : String)
  | execute (action : Action)
  | runScript (actions : List Action)
  | resetModel
  | isEnabled (action : Action)
  /-- Walks on the model of the session. -/
  | walk (plan : WalkPlan)
  /-- Walks as options say, on a model of its own. -/
  | run (options : Options)

/-- What a session answers. -/
inductive Reply where
  | nothing
  | truth (value : Bool)
  | text (s : String)
  | reading (r : Reading)
  /-- Values that were drawn; those that are random are not told. -/
  | values (vs : List (Option Int64))
  | outcome (o : Outcome)
  | report (r : Report)

namespace Session

/-- Engages a guard. A guard of the same name is released after that. -/
def engage (name : String) (faulty : Bool) (s : Session) : Logged (Reply × Session) := do
  let (guard, env) ← Guard.engage faulty s.environment
  let env ← match s.guards.get? name with
    | none => pure env
    | some old => old.release env
  return (.text guard.describe, { s.withEnvironment env with guards := s.guards.put name guard })

/-- Releases a guard. -/
def release (name : String) (s : Session) (guard : Guard) : Logged Session := do
  let env ← guard.release s.environment
  return { s.withEnvironment env with guards := s.guards.remove name }

/-- Draws starting values from a source. -/
def draw (name : String) (n : Nat) (s : Session) (source : StartSource) :
    Logged (Reply × Session) := do
  let d ← source.drawMany s.environment n
  let told := d.values.toList.map fun v => if source.isUnpredictable then none else some v
  return (.values told,
    { s.withEnvironment d.environment with sources := s.sources.put name d.source })

/-- Makes a counter as the fault flag says. -/
def make (name : String) (s : Session) : Logged (Reply × Session) := do
  let (c, env) ← Counter.ofFlag s.environment
  let t := Tracked.start c s.faulty
  return (.reading t.reading, (s.withEnvironment env).putCounter name t)

/-- Makes a counter from a source. -/
def makeFrom (name sourceName : String) (s : Session) (source : StartSource) :
    Logged (Reply × Session) := do
  let (c, after, env) ← Counter.ofSource source s.environment
  let t := Tracked.start c source.isUnpredictable
  let s := { s.withEnvironment env with sources := s.sources.put sourceName after }
  return (.reading t.reading, s.putCounter name t)

/-- Moves a counter `n` steps up. -/
def increment (name : String) (n : Nat) (s : Session) (t : Tracked) : Logged (Reply × Session) := do
  let c ← t.counter.incrementMany n
  let t := { t with counter := c }
  return (.reading t.reading, s.putCounter name t)

/-- Moves a counter back to zero. -/
def reset (name : String) (s : Session) (t : Tracked) : Logged (Reply × Session) := do
  let t : Tracked := { counter := ← t.counter.reset }
  return (.reading t.reading, s.putCounter name t)

/-- Shows a counter by its field, unless its value is not told. -/
def describe (t : Tracked) : Reply :=
  match t.reading with
  | .exact _ => .text t.counter.describe
  | .moved d => .reading (.moved d)

/-- What a command does that concerns the model. -/
def withModel {α : Type} (s : Session) (reply : α → Reply) (work : Logged (α × Model Supply)) :
    Logged (Reply × Session) := do
  let (a, model) ← work
  return (reply a, { s with model })

/-- Does a command, unless a slot is empty that it needs. -/
def perform (c : Command) (s : Session) : Option (Logged (Reply × Session)) :=
  match c with
  | .flag => some (return (.truth s.faulty, s))
  | .setFlag v => some do
    let env ← s.environment.setFaulty v
    return (.nothing, s.withEnvironment env)
  | .engage name v => some (s.engage name v)
  | .release name => do
    let guard ← s.guards.get? name
    return do return (.nothing, ← s.release name guard)
  | .keep name source => some (return (.nothing, { s with sources := s.sources.put name source }))
  | .draw name n => return s.draw name n (← s.sources.get? name)
  | .make name => some (s.make name)
  | .makeFrom name source => return s.makeFrom name source (← s.sources.get? source)
  | .increment name n => return s.increment name n (← s.counters.get? name)
  | .reset name => return s.reset name (← s.counters.get? name)
  | .count name => do
    let t ← s.counters.get? name
    return (return (.reading t.reading, s))
  | .describe name => do
    let t ← s.counters.get? name
    return (return (describe t, s))
  | .copy name target => do
    let t ← s.counters.get? name
    return (return (.reading t.reading, s.putCounter target t))
  | .compare name other => do
    let t ← s.counters.get? name
    let u ← s.counters.get? other
    return (return (.truth (t.counter == u.counter), s))
  | .discard name => do
    let _ ← s.counters.get? name
    return (return (.nothing, { s with counters := s.counters.remove name }))
  | .execute a => some (s.withModel .outcome (s.model.execute Supply.make a))
  | .runScript as => some (s.withModel .outcome (Model.runScript Supply.make as s.model))
  | .resetModel => some do return (.nothing, { s with model := ← s.model.reset })
  | .isEnabled a => some (return (.truth (s.model.isEnabled a), s))
  | .walk plan => some (s.withModel .report (plan.run Supply.make s.model))
  | .run o => some do
    let (report, env) ← o.run s.environment
    return (.report report, s.withEnvironment env)

/-- Does a command, or nothing if it cannot be done. -/
def attempt (c : Command) (s : Session) : Logged (Option Reply × Session) :=
  match s.perform c with
  | none => return (none, s)
  | some work => do
    let (reply, s) ← work
    return (some reply, s)

/-- A command keeps what its work keeps. -/
theorem attempt_keeps {P : Session → Prop} {c : Command} {s : Session} (hs : P s)
    (hwork : ∀ work, s.perform c = some work → P work.value.2) : P (s.attempt c).value.2 := by
  unfold attempt
  cases hperform : s.perform c with
  | none => exact hs
  | some work => exact hwork work hperform

/-- Does commands one after another. Those that cannot be done do nothing. -/
def performAll : List Command → Session → Logged (List (Option Reply) × Session)
  | [], s => return ([], s)
  | c :: rest, s => do
    let (reply, s) ← s.attempt c
    let (replies, s) ← performAll rest s
    return (reply :: replies, s)

theorem performAll_append (cs later : List Command) (s : Session) :
    (performAll (cs ++ later) s).value.2 =
      (performAll later (performAll cs s).value.2).value.2 := by
  induction cs generalizing s with
  | nil => rfl
  | cons c cs ih => exact ih _

theorem performAll_concat (cs : List Command) (c : Command) (s : Session) :
    (performAll (cs ++ [c]) s).value.2 = ((performAll cs s).value.2.attempt c).value.2 :=
  performAll_append cs [c] s

/-- Releases the guards that are left. -/
def releaseAll : Slots Guard → Session → Logged Session
  | [], s => return s
  | (name, guard) :: rest, s => do releaseAll rest (← s.release name guard)

/-- Ends the session. -/
def finish (s : Session) : Logged Session := releaseAll s.guards s

end Session

end CounterWalk

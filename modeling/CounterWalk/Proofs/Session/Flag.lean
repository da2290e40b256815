import CounterWalk.Proofs.Fault.Settings
import CounterWalk.Session.Command

/-!
# The flag of a session and what the log tells of it

Whatever a session is asked to do, the flag is set to some values one after another.  Commands about
the flag and its guards and runs of the options set it; counters, scripts and walks leave it alone.
Guards can be released in any order, and a guard that takes the name of another puts it out of its
place.

Main results:

- Theorem `Session.setsFlag_attempt`: the values to which a command sets the flag.
- Theorem `Session.setsFlag_performAll` and `Session.setsFlag_finish`: commands one after another,
  and the guards that are released at the end.
- Theorem `Session.log_tells_flag`: the log tells every change of the flag and no other.
-/

namespace CounterWalk

namespace Session

variable {s : Session} {c : Command} {values : List Bool}

/-! ## One command -/

/-- The value to which the guard under a name sets the flag when it is released. -/
def putBack (s : Session) (name : String) : List Bool :=
  (s.guards.get? name).toList.map Guard.previous

/-- The values to which a command sets the flag.  A new guard sets the flag before one of its name
is released. -/
def settings (s : Session) : Command → List Bool
  | .setFlag v => [v]
  | .engage name v => v :: s.putBack name
  | .release name => s.putBack name
  | .run o => [o.faulty]
  | _ => []

theorem setsFlag_engage (s : Session) (name : String) (v : Bool) :
    SetsFlag (fun x => x.2.faulty) s.faulty (v :: s.putBack name) (s.engage name v) := by
  have hengage := Guard.setsFlag_engage v s.environment
  unfold engage putBack
  cases s.guards.get? name with
  | none => exact hengage.bind_pure rfl
  | some old => exact hengage.bind ((old.setsFlag_release _).bind_pure rfl)

theorem setsFlag_release (s : Session) (name : String) (g : Guard) :
    SetsFlag faulty s.faulty [g.previous] (s.release name g) :=
  (g.setsFlag_release s.environment).bind_pure rfl

theorem setsFlag_draw (s : Session) (name : String) (n : Nat) (source : StartSource) :
    SetsFlag (fun x => x.2.faulty) s.faulty [] (s.draw name n source) :=
  (source.setsFlag_drawMany s.environment n).bind_pure rfl

theorem setsFlag_make (s : Session) (name : String) :
    SetsFlag (fun x => x.2.faulty) s.faulty [] (s.make name) :=
  (Counter.setsFlag_ofFlag s.environment).bind_pure rfl

theorem setsFlag_makeFrom (s : Session) (name sourceName : String) (source : StartSource) :
    SetsFlag (fun x => x.2.faulty) s.faulty [] (s.makeFrom name sourceName source) :=
  (Counter.setsFlag_ofSource source s.environment).bind_pure rfl

theorem setsFlag_increment (s : Session) (name : String) (n : Nat) (t : Tracked) :
    SetsFlag (fun x => x.2.faulty) s.faulty [] (s.increment name n t) :=
  (t.counter.setsFlag_incrementMany n s.faulty).bind_pure rfl

theorem setsFlag_reset (s : Session) (name : String) (t : Tracked) :
    SetsFlag (fun x => x.2.faulty) s.faulty [] (s.reset name t) :=
  (t.counter.setsFlag_reset s.faulty).bind_pure rfl

/-- What is done to the model is done to the flag of the session. -/
theorem setsFlag_withModel {α : Type} (reply : α → Reply) {work : Logged (α × Model Supply)}
    (h : SetsFlag (fun x => x.2.faulty) s.model.faulty values work) :
    SetsFlag (fun x => x.2.faulty) s.faulty values (s.withModel reply work) :=
  h.bind_pure rfl

/-- A command that cannot be done does nothing. -/
theorem setsFlag_attempt_of_none (hperform : s.perform c = none) :
    SetsFlag (fun x => x.2.faulty) s.faulty [] (s.attempt c) := by
  rw [attempt, hperform]
  exact .pure rfl

/-- A command sets the flag as its work does. -/
theorem setsFlag_attempt_of_some {work : Logged (Reply × Session)}
    (hperform : s.perform c = some work)
    (hwork : SetsFlag (fun x => x.2.faulty) s.faulty values work) :
    SetsFlag (fun x => x.2.faulty) s.faulty values (s.attempt c) := by
  rw [attempt, hperform]
  exact hwork.bind_pure rfl

/-- A command that needs what a slot holds leaves the flag alone if its work does. -/
theorem setsFlag_attempt_of_slot {α : Type} {slot : Option α} {work : α → Logged (Reply × Session)}
    (hperform : s.perform c = slot >>= fun a => some (work a))
    (hwork : ∀ a, SetsFlag (fun x => x.2.faulty) s.faulty [] (work a)) :
    SetsFlag (fun x => x.2.faulty) s.faulty [] (s.attempt c) := by
  cases slot with
  | none => exact setsFlag_attempt_of_none hperform
  | some a => exact setsFlag_attempt_of_some hperform (hwork a)

theorem setsFlag_attempt_release (s : Session) (name : String) :
    SetsFlag (fun x => x.2.faulty) s.faulty (s.putBack name) (s.attempt (.release name)) := by
  rw [putBack]
  cases hget : s.guards.get? name with
  | none => exact setsFlag_attempt_of_none (by rw [perform, hget]; rfl)
  | some g =>
    exact setsFlag_attempt_of_some (by rw [perform, hget]; rfl)
      ((s.setsFlag_release name g).bind_pure rfl)

theorem setsFlag_attempt_compare (s : Session) (name other : String) :
    SetsFlag (fun x => x.2.faulty) s.faulty [] (s.attempt (.compare name other)) := by
  cases hname : s.counters.get? name with
  | none => exact setsFlag_attempt_of_none (by rw [perform, hname]; rfl)
  | some t =>
    have hperform : s.perform (.compare name other) =
        s.counters.get? other >>= fun u =>
          some (pure (.truth (t.counter == u.counter), s)) := by
      rw [perform, hname]
      rfl
    exact setsFlag_attempt_of_slot hperform fun u => .pure rfl

theorem setsFlag_attempt (s : Session) (c : Command) :
    SetsFlag (fun x => x.2.faulty) s.faulty (s.settings c) (s.attempt c) := by
  cases c with
  | flag | keep name source | isEnabled a => exact setsFlag_attempt_of_some rfl (.pure rfl)
  | setFlag v =>
    exact setsFlag_attempt_of_some rfl ((s.environment.setsFlag_setFaulty v).bind_pure rfl)
  | engage name v => exact setsFlag_attempt_of_some rfl (s.setsFlag_engage name v)
  | release name => exact s.setsFlag_attempt_release name
  | run o => exact setsFlag_attempt_of_some rfl ((o.setsFlag_run s.environment).bind_pure rfl)
  | make name => exact setsFlag_attempt_of_some rfl (s.setsFlag_make name)
  | draw name n => exact setsFlag_attempt_of_slot rfl (s.setsFlag_draw name n)
  | makeFrom name source => exact setsFlag_attempt_of_slot rfl (s.setsFlag_makeFrom name source)
  | increment name n => exact setsFlag_attempt_of_slot rfl (s.setsFlag_increment name n)
  | reset name => exact setsFlag_attempt_of_slot rfl (s.setsFlag_reset name)
  | count name | describe name | copy name target | discard name =>
    exact setsFlag_attempt_of_slot rfl fun _ => .pure rfl
  | compare name other => exact s.setsFlag_attempt_compare name other
  | execute a =>
    exact setsFlag_attempt_of_some rfl (setsFlag_withModel .outcome (s.model.setsFlag_execute a))
  | runScript actions =>
    exact setsFlag_attempt_of_some rfl
      (setsFlag_withModel .outcome (Model.setsFlag_runScript actions s.model))
  | resetModel => exact setsFlag_attempt_of_some rfl (s.model.setsFlag_reset.bind_pure rfl)
  | walk plan =>
    exact setsFlag_attempt_of_some rfl (setsFlag_withModel .report (plan.setsFlag_run s.model))

/-! ## One command after another -/

/-- The values to which commands set the flag that are done one after another. -/
def settingsAll : List Command → Session → List Bool
  | [], _ => []
  | c :: cs, s => s.settings c ++ settingsAll cs (s.attempt c).value.2

theorem setsFlag_performAll (cs : List Command) (s : Session) :
    SetsFlag (fun x => x.2.faulty) s.faulty (settingsAll cs s) (performAll cs s) := by
  induction cs generalizing s with
  | nil => exact .pure rfl
  | cons c cs ih => exact (s.setsFlag_attempt c).bind ((ih _).bind_pure rfl)

/-- The guards that are left set the flag one after another to what each found. -/
theorem setsFlag_releaseAll (guards : Slots Guard) (s : Session) :
    SetsFlag faulty s.faulty (guards.map fun p => p.2.previous) (releaseAll guards s) := by
  induction guards generalizing s with
  | nil => exact .pure rfl
  | cons p guards ih => exact (s.setsFlag_release p.1 p.2).bind (ih _)

theorem setsFlag_finish (s : Session) :
    SetsFlag faulty s.faulty (s.guards.map fun p => p.2.previous) s.finish :=
  setsFlag_releaseAll s.guards s

/-! ## What the log tells -/

/-- A command sets the flag once at most, unless it engages a guard under the name of another. -/
theorem length_settings_le (hfree : ∀ name v, c = .engage name v → s.guards.get? name = none) :
    (s.settings c).length ≤ 1 := by
  cases c with
  | engage name v => simp [settings, putBack, hfree name v rfl]
  | release name => cases hget : s.guards.get? name <;> simp [settings, putBack, hget]
  | _ => simp [settings]

/-- A guard that takes the name of another is engaged before that one is released. -/
theorem log_attempt_engage {name : String} {old : Guard} (h : s.guards.get? name = some old)
    (v : Bool) :
    (s.attempt (.engage name v)).log =
      (Guard.engage v s.environment).log ++
        (old.release (Guard.engage v s.environment).value.2).log := by
  simp [attempt, perform, engage, h]

/-- The log tells every change of the flag and no other.  Whatever a session is asked to do, the
changes that its log tells begin with the flag as it was before, each goes on from the one before
it, and they end with the flag as it is then; so the flag is another one exactly if they are odd in
number.  The story goes on when the guards that are left are released at the end.  A command, and
the engaging and the releasing of a guard, tell the one change that they make to the flag and
nothing if they leave it as it was; a command that engages a guard under the name of another does
one after the other. -/
theorem log_tells_flag (s : Session) (cs : List Command) :
    (Log.Recounts s.faulty (performAll cs s).log.flagChanges (performAll cs s).value.2.faulty ∧
      let whole : Logged Session := performAll cs s >>= fun x => x.2.finish
      Log.Recounts s.faulty whole.log.flagChanges whole.value.faulty) ∧
    ((performAll cs s).value.2.faulty ≠ s.faulty ↔
      Odd (performAll cs s).log.flagChanges.length) ∧
    (∀ (t : Session) (c : Command), (∀ name v, c = .engage name v → t.guards.get? name = none) →
      (t.attempt c).log.flagChanges = Log.change t.faulty (t.attempt c).value.2.faulty) ∧
    (∀ (t : Session) (name : String) (old : Guard), t.guards.get? name = some old → ∀ v,
      (t.attempt (.engage name v)).log =
        (Guard.engage v t.environment).log ++
          (old.release (Guard.engage v t.environment).value.2).log) ∧
    ∀ env : Environment,
      (∀ v, (Guard.engage v env).log.flagChanges =
        Log.change env.faulty (Guard.engage v env).value.2.faulty) ∧
      ∀ g : Guard, (g.release env).log.flagChanges =
        Log.change env.faulty (g.release env).value.faulty := by
  have hall := setsFlag_performAll cs s
  refine ⟨⟨hall.recounts, (hall.bind (setsFlag_finish _)).recounts⟩, hall.recounts.ne_iff_odd,
    ?_, ?_, ?_⟩
  · intro t c hfree
    exact (t.setsFlag_attempt c).flagChanges_eq_change (length_settings_le hfree)
  · intro t name old hget v
    exact log_attempt_engage hget v
  · intro env
    exact ⟨fun v => (Guard.setsFlag_engage v env).flagChanges_eq_change Nat.le.refl,
      fun g => (g.setsFlag_release env).flagChanges_eq_change Nat.le.refl⟩

end Session

end CounterWalk

import CounterWalk.Model.Supply
import CounterWalk.Proofs.Log.Lines
import CounterWalk.Proofs.Model.Execution
import Mathlib.Tactic.ByContra

/-!
# What actions and scripts note

An action notes that it was done, or why it failed, as the last thing inside its span.  What a script
notes is what its actions note, one after another.  So the lines that tell which actions were done
give the actions of the script in order, with whatever the making of a counter tells of actions of
its own before the `create` that it is for; the supplies of this library tell of none.

Main definitions:

- `Action.executionLine`: the line that tells that an action was done;
- `Factory.told`: the lines that tell which actions were done;
- `Factory.Discreet`: making a counter tells of no actions.

Main results:

- Theorem `Model.log_runScript_append_of_runs`: a script notes what its first part notes, and then
  what the rest notes on the model that the first part leaves.
- Theorem `Model.executions_runScript_of_runs`: a script that succeeds tells its actions in order.
- Theorem `Model.events_execute_of_mismatch`: what a `count` notes that fails.
- Theorem `Supply.discreet_make`: supplies are discreet.
-/

namespace CounterWalk

/-- The line that tells that an action was done. -/
def Action.executionLine (a : Action) : Line :=
  ⟨.debug, "Executed " ++ a.label, [(Span.action a).describe]⟩

namespace Factory

variable {σ : Type}

/-- The lines that tell which actions were done when a history was: one for each action, after what
the making of a counter tells of actions of its own. -/
def told (make : Factory σ) : List Action → σ → List Line
  | [], _ => []
  | .create :: rest, supply =>
    (make supply).log.executions.map (Line.under (.action .create)) ++
      Action.executionLine .create :: told make rest (make supply).value.2
  | a :: rest, supply => a.executionLine :: told make rest supply

/-- Making a counter tells of no actions that were done. -/
def Discreet (make : Factory σ) : Prop := ∀ supply, (make supply).log.executions = []

/-- There is one line for each action if making a counter tells of none. -/
theorem Discreet.told_eq {make : Factory σ} (h : make.Discreet) (p : List Action) (supply : σ) :
    make.told p supply = p.map Action.executionLine := by
  induction p generalizing supply with
  | nil => rfl
  | cons a p ih =>
    cases a with
    | create => rw [told, h supply, ih, List.map_nil, List.nil_append, List.map_cons]
    | destroy | increment | reset | count => simp [told, ih]

end Factory

namespace Model

variable {σ : Type} {make : Factory σ} {m m' : Model σ} {a : Action} {e : ModelError}
  {p q s : List Action}

/-! ## Logs of scripts -/

theorem log_runScript_cons_of_failure (h : m.failure? a = some e) :
    (runScript make (a :: s) m).log = (m.execute make a).log := by
  simp only [runScript, Logged.log_bind, execute_of_failure make h, Logged.log_pure,
    List.append_nil]

theorem log_runScript_cons_of_no_failure (h : m.failure? a = none) :
    (runScript make (a :: s) m).log =
      (m.execute make a).log ++ (runScript make s (m.next make a)).log := by
  simp only [runScript, Logged.log_bind, execute_of_no_failure make h]

/-- A script notes what a part of it notes that succeeds, and then what the rest notes from there. -/
theorem log_runScript_append_of_runs (h : Runs make p m m') :
    (runScript make (p ++ q) m).log = (runScript make p m).log ++ (runScript make q m').log := by
  induction p generalizing m with
  | nil =>
    obtain rfl : m = m' := by simpa [Runs] using h
    rfl
  | cons a p ih =>
    obtain ⟨hstep, hrest⟩ := runs_cons_iff.mp h
    rw [List.cons_append, log_runScript_cons_of_no_failure hstep,
      log_runScript_cons_of_no_failure hstep, ih hrest, List.append_assoc]

/-- Actions that a script does not come to are not noted. -/
theorem log_runScript_attempts (make : Factory σ) (s : List Action) (m : Model σ) :
    (runScript make (attempts make s m) m).log = (runScript make s m).log := by
  induction s generalizing m with
  | nil => rfl
  | cons a s ih =>
    cases h : m.failure? a with
    | none =>
      rw [attempts_cons_of_no_failure h, log_runScript_cons_of_no_failure h,
        log_runScript_cons_of_no_failure h, ih]
    | some e =>
      rw [attempts_cons_of_failure h, log_runScript_cons_of_failure h,
        log_runScript_cons_of_failure h]

/-! ## Lines of actions -/

/-- A `count` that fails notes the values that it compared, and nothing else. -/
theorem events_execute_of_mismatch {expected actual : Int64} (make : Factory σ)
    (h : m.failure? .count = some (.countMismatch expected actual)) :
    (m.execute make .count).log.events = [([.action .count], .mismatched expected actual)] := by
  obtain ⟨counter, reference, supply⟩ := m
  cases counter with
  | none => simp [failure?, isEnabled] at h
  | some c =>
    have hvalue : c.value ≠ reference := by
      rintro rfl
      simp [failure?, isEnabled] at h
    obtain ⟨rfl, rfl⟩ : reference = expected ∧ c.value = actual := by
      simpa [failure?, isEnabled, hvalue] using h
    simp only [execute, perform, if_neg hvalue, Logged.log_within, Log.events_within]
    rfl

/-- What an action notes before it is done. -/
def preparation (make : Factory σ) (m : Model σ) (a : Action) : Log :=
  match a, m.counter with
  | .create, none => (make m.supply).log
  | .increment, some c => c.increment.log
  | .reset, some c => c.reset.log
  | _, _ => []

theorem log_execute_of_no_failure (make : Factory σ) (h : m.failure? a = none) :
    (m.execute make a).log =
      Log.within (.action a) (m.preparation make a ++ [⟨[], .event (.executed a)⟩]) := by
  obtain ⟨counter, reference, supply⟩ := m
  have hallowed := allowed_of_no_failure h
  cases counter with
  | none =>
    obtain rfl : a = .create := by cases a <;> simp_all [Action.allowed, alive]
    rfl
  | some c =>
    cases a with
    | create => simp [Action.allowed, alive] at hallowed
    | destroy => rfl
    | increment => rfl
    | reset => rfl
    | count =>
      have hvalue : c.value = reference := by
        by_contra hne
        simp [failure?, isEnabled, hne] at h
      simp only [execute, perform, if_pos hvalue, Logged.log_within]
      rfl

/-! ## Actions that were done -/

/-- Only making a counter may tell of actions before the one that it is made for is done. -/
theorem executions_preparation_of_ne (make : Factory σ) (m : Model σ) (ha : a ≠ .create) :
    (m.preparation make a).executions = [] := by
  obtain ⟨counter, reference, supply⟩ := m
  cases counter with
  | none =>
    cases a with
    | create => exact absurd rfl ha
    | destroy | increment | reset | count => rfl
  | some c =>
    cases a with
    | create | destroy | count => rfl
    | increment =>
      have hevents : c.increment.log.events =
          [([.increment c], .counterIncremented c.succ.value)] := rfl
      simp [preparation, Log.executions_eq_nil_iff, hevents]
    | reset =>
      have hevents : c.reset.log.events = [([.reset c], .counterReset)] := rfl
      simp [preparation, Log.executions_eq_nil_iff, hevents]

/-- An action that does not fail is told as done, after what its preparation tells. -/
theorem executions_execute_of_no_failure (make : Factory σ) (h : m.failure? a = none) :
    (m.execute make a).log.executions =
      (m.preparation make a).executions.map (Line.under (.action a)) ++ [a.executionLine] := by
  rw [log_execute_of_no_failure make h, Log.executions_within, Log.executions_append_executed,
    List.map_append]
  rfl

theorem executions_execute_of_ne (make : Factory σ) (h : m.failure? a = none)
    (ha : a ≠ .create) : (m.execute make a).log.executions = [a.executionLine] := by
  rw [executions_execute_of_no_failure make h, executions_preparation_of_ne make m ha]
  rfl

/-- A script that succeeds tells its actions in order. -/
theorem executions_runScript_of_runs (h : Runs make s m m') :
    (runScript make s m).log.executions = make.told s m.supply := by
  induction s generalizing m with
  | nil => rfl
  | cons a s ih =>
    obtain ⟨hstep, hrest⟩ := runs_cons_iff.mp h
    rw [log_runScript_cons_of_no_failure hstep, Log.executions_append, ih hrest]
    cases a with
    | create =>
      obtain ⟨counter, reference, supply⟩ := m
      obtain rfl : counter = none := by
        simpa [Action.allowed, alive] using allowed_of_no_failure hstep
      rw [executions_execute_of_no_failure make hstep, List.append_assoc]
      rfl
    | destroy | increment | reset | count =>
      rw [executions_execute_of_ne make hstep (by decide)]
      rfl

end Model

/-! ## Discreet supplies -/

theorem StartSource.executions_draw (source : StartSource) (env : Environment) :
    (source.draw env).log.executions = [] := by
  rw [Log.executions_eq_nil_iff]
  cases source with
  | zero => simp [draw]
  | fixed v => simp [draw]
  | randomized words => simp [draw, Log.events, Entry.event?]
  | cycle first others ahead => cases ahead <;> simp [draw]

/-- Counters are made without a word of actions, whether the flag or a source is asked. -/
theorem Supply.discreet_make : Supply.make.Discreet := by
  intro supply
  cases hmaker : supply.maker with
  | flagged =>
    simp [make, hmaker, Counter.ofFlag, Log.executions_append_event_of_ne,
      StartSource.executions_draw]
  | drawing source =>
    simp [make, hmaker, Counter.ofSource, Log.executions_append_event_of_ne,
      StartSource.executions_draw]

end CounterWalk

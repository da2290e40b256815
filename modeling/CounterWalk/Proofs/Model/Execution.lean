import CounterWalk.Model.Basic

/-!
# Execution of actions and scripts

An action is settled by the state in which it is tried: either it fails, for one of two reasons, and
leaves the model alone, or it moves the model on.  This module separates the two, so that everything
proved about scripts and walks rests on one description of a step.  It also names the actions that a
script comes to before it ends, which is what a walk writes down as its trace.

Main results:

- Theorem `Model.execute_value`: an action fails exactly for the reason that `Model.failure?` gives,
  and otherwise leaves `Model.next`.
- Theorem `Model.drift_next`: how far a counter is ahead of the reference value changes only with
  `create`, `destroy` and `reset`.
- Theorem `Model.runScript_append_of_runs`: a script goes on from where a part of it that succeeded
  ended.
- Theorem `Model.runScript_attempts`: the actions that a script comes to are a script that ends in
  the same way and leaves the same model.
-/

namespace CounterWalk

namespace Action

/-- Whether an action may be done, from whether a counter is alive. -/
def allowed (alive : Bool) : Action → Bool
  | .create => !alive
  | .destroy | .increment | .reset | .count => alive

/-- Whether a counter is alive after an action, from whether one was alive before it. -/
def leaves (alive : Bool) : Action → Bool
  | .create => true
  | .destroy => false
  | .increment | .reset | .count => alive

end Action

namespace Model

variable {σ : Type} {make : Factory σ} {m m' : Model σ} {a : Action} {e : ModelError}
  {p q s : List Action}

/-! ## One action -/

/-- Whether a counter is alive. -/
def alive (m : Model σ) : Bool := m.counter.isSome

theorem isEnabled_eq_allowed (m : Model σ) (a : Action) : m.isEnabled a = a.allowed m.alive := by
  cases a <;> simp [isEnabled, Action.allowed, alive]

theorem enabledActions_eq_filter_allowed (m : Model σ) :
    m.enabledActions = Action.all.filter (Action.allowed m.alive) := by
  unfold enabledActions
  congr 1
  funext a
  exact isEnabled_eq_allowed m a

/-- Why an action fails in the present state, if it does. -/
def failure? (m : Model σ) (a : Action) : Option ModelError :=
  if m.isEnabled a then
    match a, m.counter with
    | .count, some c =>
      if c.value = m.expected then none else some (.countMismatch m.expected c.value)
    | _, _ => none
  else
    some (.notEnabled a)

/-- What an action leaves when it does not fail. -/
def next (make : Factory σ) (m : Model σ) : Action → Model σ
  | .create =>
    { counter := some (make m.supply).value.1, expected := 0, supply := (make m.supply).value.2 }
  | .destroy => { m with counter := none }
  | .increment => { m with counter := m.counter.map Counter.succ, expected := m.expected + 1 }
  | .reset => { m with counter := m.counter.map fun _ => Counter.zero, expected := 0 }
  | .count => m

/-- Everything that one action can do: it fails and changes nothing, or it moves the model on. -/
theorem execute_value (make : Factory σ) (m : Model σ) (a : Action) :
    (m.execute make a).value =
      match m.failure? a with
      | none => (.ok (), m.next make a)
      | some e => (.error e, m) := by
  obtain ⟨counter, expected, supply⟩ := m
  cases counter with
  | none => cases a <;> rfl
  | some c =>
    cases a with
    | create => rfl
    | destroy => rfl
    | increment => rfl
    | reset => rfl
    | count =>
      by_cases h : c.value = expected
      · simp [execute, perform, failure?, isEnabled, next, done, h]
      · simp [execute, perform, failure?, isEnabled, h]

theorem execute_of_failure (make : Factory σ) (h : m.failure? a = some e) :
    (m.execute make a).value = (.error e, m) := by
  rw [execute_value, h]

theorem execute_of_no_failure (make : Factory σ) (h : m.failure? a = none) :
    (m.execute make a).value = (.ok (), m.next make a) := by
  rw [execute_value, h]

theorem allowed_of_no_failure (h : m.failure? a = none) : a.allowed m.alive = true := by
  rw [← isEnabled_eq_allowed]
  by_cases henabled : m.isEnabled a = true
  · exact henabled
  · simp [failure?, henabled] at h

/-- What the liveness forbids fails for that reason. -/
theorem failure?_of_forbidden (h : a.allowed m.alive = false) :
    m.failure? a = some (.notEnabled a) := by
  rw [← isEnabled_eq_allowed] at h
  simp [failure?, h]

/-- Only a `count` can fail although it is allowed. -/
theorem failure?_of_allowed (h : a.allowed m.alive = true) (ha : a ≠ .count) :
    m.failure? a = none := by
  rw [← isEnabled_eq_allowed] at h
  cases a with
  | count => exact absurd rfl ha
  | create | destroy | increment | reset => simp [failure?, h]

theorem alive_next (make : Factory σ) (m : Model σ) (a : Action) :
    (m.next make a).alive = a.leaves m.alive := by
  cases a <;> simp [next, alive, Action.leaves]

/-! ## Drift -/

/-- How far the live counter is ahead of the reference value; `0` if no counter is alive. -/
def drift (m : Model σ) : Int64 :=
  match m.counter with
  | none => 0
  | some c => c.value - m.expected

/-- A counter is ahead by its starting value until a `reset`, whatever it counts in between. -/
theorem drift_next (make : Factory σ) (m : Model σ) (a : Action) :
    (m.next make a).drift =
      match a with
      | .create => (make m.supply).value.1.value
      | .destroy | .reset => 0
      | .increment | .count => m.drift := by
  cases a with
  | create => simp [next, drift]
  | destroy => rfl
  | increment =>
    cases hcounter : m.counter with
    | none => simp [next, drift, hcounter]
    | some c =>
      have hmove : c.value + 1 - (m.expected + 1) = c.value - m.expected := by grind
      simp [next, drift, hcounter, Counter.succ, hmove]
  | reset => cases hcounter : m.counter <;> simp [next, drift, hcounter, Counter.zero]
  | count => rfl

/-- A `count` of a live counter fails exactly if the counter has drifted. -/
theorem failure?_count (h : m.alive = true) :
    m.failure? .count =
      if m.drift = 0 then none else some (.countMismatch m.expected (m.expected + m.drift)) := by
  obtain ⟨counter, expected, supply⟩ := m
  cases counter with
  | none => simp [alive] at h
  | some c =>
    have hdrift : c.value - expected = 0 ↔ c.value = expected := by grind
    have hvalue : expected + (c.value - expected) = c.value := by grind
    simp [failure?, isEnabled, drift, hdrift, hvalue]

/-- An action that is allowed and fails is a `count` that finds another value than it expects. -/
theorem eq_count_of_failure (hallowed : a.allowed m.alive = true) (hfail : m.failure? a = some e) :
    a = .count ∧ ∃ expected actual, e = .countMismatch expected actual := by
  by_cases ha : a = .count
  · subst ha
    rw [failure?_count hallowed] at hfail
    split at hfail
    · contradiction
    · exact ⟨rfl, _, _, (Option.some.inj hfail).symm⟩
  · rw [failure?_of_allowed hallowed ha] at hfail
    contradiction

/-! ## Scripts -/

@[simp]
theorem runScript_nil (make : Factory σ) (m : Model σ) :
    (runScript make [] m).value = (.ok (), m) :=
  rfl

theorem runScript_cons_of_failure (h : m.failure? a = some e) :
    (runScript make (a :: s) m).value = (.error e, m) := by
  simp only [runScript, Logged.value_bind, execute_of_failure make h, Logged.value_pure]

theorem runScript_cons_of_no_failure (h : m.failure? a = none) :
    (runScript make (a :: s) m).value = (runScript make s (m.next make a)).value := by
  simp only [runScript, Logged.value_bind, execute_of_no_failure make h]

/-- A script runs from one model to another if none of its actions fails. -/
def Runs (make : Factory σ) (s : List Action) (m m' : Model σ) : Prop :=
  (runScript make s m).value = (.ok (), m')

theorem runs_nil (make : Factory σ) (m : Model σ) : Runs make [] m m :=
  rfl

theorem runs_cons_iff :
    Runs make (a :: s) m m' ↔ m.failure? a = none ∧ Runs make s (m.next make a) m' := by
  unfold Runs
  cases h : m.failure? a with
  | none => simp [runScript_cons_of_no_failure h]
  | some e => simp [runScript_cons_of_failure h]

/-- A script goes on from where a part of it that succeeded ended. -/
theorem runScript_append_of_runs (h : Runs make p m m') :
    (runScript make (p ++ q) m).value = (runScript make q m').value := by
  induction p generalizing m with
  | nil =>
    simp only [Runs, runScript_nil, Prod.mk.injEq, true_and] at h
    rw [h, List.nil_append]
  | cons a p ih =>
    obtain ⟨hstep, hrest⟩ := runs_cons_iff.mp h
    rw [List.cons_append, runScript_cons_of_no_failure hstep, ih hrest]

theorem Runs.concat (h : Runs make p m m') (hstep : m'.failure? a = none) :
    Runs make (p ++ [a]) m (m'.next make a) := by
  unfold Runs
  rw [runScript_append_of_runs h, runScript_cons_of_no_failure hstep, runScript_nil]

/-- The first action that fails ends a script, whatever would have come after it. -/
theorem runScript_of_failure (h : Runs make p m m') (hfail : m'.failure? a = some e) :
    (runScript make (p ++ a :: q) m).value = (.error e, m') := by
  rw [runScript_append_of_runs h, runScript_cons_of_failure hfail]

/-- A script that does not succeed splits at the action that failed. -/
theorem exists_failure_of_error (h : (runScript make s m).value = (.error e, m')) :
    ∃ p a q, s = p ++ a :: q ∧ Runs make p m m' ∧ m'.failure? a = some e := by
  induction s generalizing m with
  | nil => simp at h
  | cons a s ih =>
    cases hstep : m.failure? a with
    | some e' =>
      rw [runScript_cons_of_failure hstep] at h
      obtain ⟨rfl, rfl⟩ : e' = e ∧ m = m' := by simpa using h
      exact ⟨[], a, s, rfl, runs_nil make m, hstep⟩
    | none =>
      rw [runScript_cons_of_no_failure hstep] at h
      obtain ⟨p, b, q, rfl, hruns, hfail⟩ := ih h
      exact ⟨a :: p, b, q, rfl, runs_cons_iff.mpr ⟨hstep, hruns⟩, hfail⟩

/-- Nothing is added to a script that does not succeed by what stands after it. -/
theorem runScript_append_of_error (h : (runScript make p m).value = (.error e, m')) :
    (runScript make (p ++ q) m).value = (.error e, m') := by
  obtain ⟨r, a, t, rfl, hruns, hfail⟩ := exists_failure_of_error h
  rw [List.append_assoc, List.cons_append, runScript_of_failure hruns hfail]

/-- What every action keeps is kept by a script, however it ends. -/
theorem runScript_induction {P : Model σ → Prop} (hstep : ∀ m a, P m → P (m.next make a))
    (s : List Action) (h : P m) : P (runScript make s m).value.2 := by
  induction s generalizing m with
  | nil => exact h
  | cons a s ih =>
    cases hfail : m.failure? a with
    | none =>
      rw [runScript_cons_of_no_failure hfail]
      exact ih (hstep m a h)
    | some e =>
      rw [runScript_cons_of_failure hfail]
      exact h

/-! ## The actions that a script comes to -/

/-- The actions of a script up to the first that fails, that one included. -/
def attempts (make : Factory σ) : List Action → Model σ → List Action
  | [], _ => []
  | a :: rest, m =>
    a :: match m.failure? a with
      | none => attempts make rest (m.next make a)
      | some _ => []

theorem attempts_cons_of_failure (h : m.failure? a = some e) :
    attempts make (a :: s) m = [a] := by
  simp [attempts, h]

theorem attempts_cons_of_no_failure (h : m.failure? a = none) :
    attempts make (a :: s) m = a :: attempts make s (m.next make a) := by
  simp [attempts, h]

theorem attempts_append_of_runs (h : Runs make p m m') :
    attempts make (p ++ q) m = p ++ attempts make q m' := by
  induction p generalizing m with
  | nil =>
    simp only [Runs, runScript_nil, Prod.mk.injEq, true_and] at h
    rw [h, List.nil_append, List.nil_append]
  | cons a p ih =>
    obtain ⟨hstep, hrest⟩ := runs_cons_iff.mp h
    rw [List.cons_append, attempts_cons_of_no_failure hstep, ih hrest, List.cons_append]

theorem attempts_of_runs (h : Runs make s m m') : attempts make s m = s := by
  simpa [attempts] using attempts_append_of_runs (q := []) h

theorem attempts_of_failure (h : Runs make p m m') (hfail : m'.failure? a = some e) :
    attempts make (p ++ a :: q) m = p ++ [a] := by
  rw [attempts_append_of_runs h, attempts_cons_of_failure hfail]

theorem attempts_append_of_error (h : (runScript make p m).value = (.error e, m')) :
    attempts make (p ++ q) m = attempts make p m := by
  obtain ⟨r, a, t, rfl, hruns, hfail⟩ := exists_failure_of_error h
  rw [List.append_assoc, List.cons_append, attempts_of_failure hruns hfail,
    attempts_of_failure hruns hfail]

theorem attempts_prefix (make : Factory σ) (s : List Action) (m : Model σ) :
    attempts make s m <+: s := by
  induction s generalizing m with
  | nil => exact List.prefix_rfl
  | cons a s ih =>
    cases h : m.failure? a with
    | none =>
      rw [attempts_cons_of_no_failure h, List.prefix_cons_inj]
      exact ih _
    | some e =>
      rw [attempts_cons_of_failure h, List.prefix_cons_inj]
      exact List.nil_prefix

/-- The actions before one that a script comes to succeed. -/
theorem exists_runs_of_lt_attempts {k : Nat} (h : k < (attempts make s m).length) :
    ∃ m', Runs make (s.take k) m m' := by
  induction s generalizing m k with
  | nil => exact absurd h (Nat.not_lt_zero k)
  | cons a s ih =>
    cases k with
    | zero => exact ⟨m, runs_nil make m⟩
    | succ k =>
      cases hstep : m.failure? a with
      | some e =>
        rw [attempts_cons_of_failure hstep, List.length_singleton] at h
        exact absurd h (by omega)
      | none =>
        rw [attempts_cons_of_no_failure hstep, List.length_cons] at h
        obtain ⟨m', hruns⟩ := ih (Nat.lt_of_succ_lt_succ h)
        exact ⟨m', runs_cons_iff.mpr ⟨hstep, hruns⟩⟩

/-- Trying only the actions that a script comes to is the same as trying the whole script. -/
theorem runScript_attempts (make : Factory σ) (s : List Action) (m : Model σ) :
    (runScript make (attempts make s m) m).value = (runScript make s m).value := by
  induction s generalizing m with
  | nil => rfl
  | cons a s ih =>
    cases h : m.failure? a with
    | none =>
      rw [attempts_cons_of_no_failure h, runScript_cons_of_no_failure h,
        runScript_cons_of_no_failure h, ih]
    | some e =>
      rw [attempts_cons_of_failure h, runScript_cons_of_failure h, runScript_cons_of_failure h]

end Model

end CounterWalk

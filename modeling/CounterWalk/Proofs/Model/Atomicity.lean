import CounterWalk.Proofs.Model.Execution
import CounterWalk.Session.Command

/-!
# Failures that leave nothing behind

An action is rejected exactly if it is not among those that are allowed, and whatever fails leaves
the model as it was, the supply and all that it holds included.  So a script that fails has done
exactly the actions before the one that failed: nothing is left of that one, and nothing is done of
those after it.  How often the factory has been asked is found out by a factory that counts.

Main definitions:

- `Factory.counting`: a factory that counts how often it is asked;
- `Model.FailsAt`: a position of a script whose action fails after those before it were done.

Main results:

- Theorem `Model.FailsAt.runScript_value`: what a script leaves that fails at a position;
- Theorem `Model.FailsAt.unique`: it fails at one position only;
- Theorem `Model.failures_are_atomic`: actions, scripts, scripts in two parts, and sessions.
-/

namespace CounterWalk

/-- The same factory, which counts how often it is asked. -/
def Factory.counting {σ : Type} (make : Factory σ) : Factory (σ × Nat) := fun (supply, calls) => do
  let (c, supply) ← make supply
  return (c, supply, calls + 1)

namespace Model

variable {σ : Type} {make : Factory σ} {m m' : Model σ} {a : Action} {e e' : ModelError}
  {s : List Action} {j k : Nat}

/-! ## One action -/

theorem execute_eq_error_iff :
    (m.execute make a).value.1 = .error e ↔ m.failure? a = some e := by
  rw [execute_value]
  split
  · rename_i h
    simp [h]
  · rename_i h
    simp [h]

/-- An action is rejected if the guard says no, and then only. -/
theorem failure?_eq_notEnabled_iff :
    m.failure? a = some (.notEnabled a) ↔ m.isEnabled a = false := by
  cases henabled : m.isEnabled a with
  | false =>
    rw [isEnabled_eq_allowed] at henabled
    simp [failure?_of_forbidden henabled]
  | true =>
    rw [isEnabled_eq_allowed] at henabled
    refine ⟨fun h => ?_, fun h => by cases h⟩
    obtain ⟨-, expected, actual, hmismatch⟩ := eq_count_of_failure henabled h
    cases hmismatch

/-- An action that fails leaves the model as it was. -/
theorem execute_eq_of_error (h : (m.execute make a).value.1 = .error e) :
    (m.execute make a).value = (.error e, m) :=
  execute_of_failure make (execute_eq_error_iff.mp h)

/-! ## Counting the counters that are made -/

/-- The model on the factory that counts, when it has been asked so often. -/
def counted (m : Model σ) (calls : Nat) : Model (σ × Nat) where
  counter := m.counter
  expected := m.expected
  supply := (m.supply, calls)

theorem failure?_counted (m : Model σ) (calls : Nat) (a : Action) :
    (m.counted calls).failure? a = m.failure? a := by
  cases a <;> rfl

/-- The factory is asked by `create` and by nothing else. -/
theorem next_counted (make : Factory σ) (m : Model σ) (calls : Nat) (a : Action) :
    (m.counted calls).next make.counting a =
      (m.next make a).counted (calls + [a].count .create) := by
  cases a <;> rfl

/-- A script that is done has asked the factory once for each `create`. -/
theorem Runs.counted (h : Runs make s m m') (calls : Nat) :
    Runs make.counting s (m.counted calls) (m'.counted (calls + s.count .create)) := by
  induction s generalizing m calls with
  | nil =>
    obtain rfl : m = m' := congrArg Prod.snd h
    exact runs_nil _ _
  | cons a s ih =>
    obtain ⟨hstep, hrest⟩ := runs_cons_iff.mp h
    refine runs_cons_iff.mpr ⟨(failure?_counted m calls a).trans hstep, ?_⟩
    have hcount : (a :: s).count .create = [a].count .create + s.count .create := by
      rw [← List.singleton_append, List.count_append]
    rw [next_counted, hcount, ← Nat.add_assoc]
    exact ih hrest _

/-! ## Scripts that fail -/

/-- The action at a position fails after those before it were done. -/
def FailsAt (make : Factory σ) (m : Model σ) (s : List Action) (k : Nat) (e : ModelError) : Prop :=
  ∃ a, s[k]? = some a ∧ (runScript make (s.take k) m).value.1 = .ok () ∧
    ((runScript make (s.take k) m).value.2.execute make a).value.1 = .error e

theorem FailsAt.exists_failure (h : FailsAt make m s k e) :
    ∃ a, s = s.take k ++ a :: s.drop (k + 1) ∧
      Runs make (s.take k) m (runScript make (s.take k) m).value.2 ∧
      (runScript make (s.take k) m).value.2.failure? a = some e := by
  obtain ⟨a, ha, hok, herror⟩ := h
  obtain ⟨hlt, rfl⟩ := List.getElem?_eq_some_iff.mp ha
  refine ⟨s[k], ?_, Prod.ext hok rfl, execute_eq_error_iff.mp herror⟩
  rw [← List.drop_eq_getElem_cons hlt, List.take_append_drop]

/-- A script that fails at a position ends with the failure and in the state before it. -/
theorem FailsAt.runScript_value (h : FailsAt make m s k e) :
    (runScript make s m).value = (.error e, (runScript make (s.take k) m).value.2) := by
  obtain ⟨a, hsplit, hruns, hfail⟩ := h.exists_failure
  have hvalue := runScript_of_failure (q := s.drop (k + 1)) hruns hfail
  rwa [← hsplit] at hvalue

/-- The factory has been asked once for each `create` before the position, and no more. -/
theorem FailsAt.runScript_counted (h : FailsAt make m s k e) (calls : Nat) :
    (runScript make.counting s (m.counted calls)).value =
      (.error e, (runScript make s m).value.2.counted (calls + (s.take k).count .create)) := by
  obtain ⟨a, hsplit, hruns, hfail⟩ := h.exists_failure
  have hcounted := hruns.counted calls
  have hvalue := runScript_of_failure (q := s.drop (k + 1)) hcounted
    ((failure?_counted _ _ a).trans hfail)
  rw [← hsplit] at hvalue
  rw [hvalue, h.runScript_value]

/-- A script fails at one position only: it comes to the actions up to there and to no others. -/
theorem FailsAt.unique (h : FailsAt make m s k e) (h' : FailsAt make m s j e') : j = k := by
  have hlength : ∀ {k e}, FailsAt make m s k e → (attempts make s m).length = k + 1 := by
    intro k e h
    obtain ⟨a, hsplit, hruns, hfail⟩ := h.exists_failure
    obtain ⟨b, hb, -⟩ := h
    obtain ⟨hlt, -⟩ := List.getElem?_eq_some_iff.mp hb
    have hattempts := attempts_of_failure (q := s.drop (k + 1)) hruns hfail
    rw [← hsplit] at hattempts
    rw [hattempts, List.length_append, List.length_take_of_le (Nat.le_of_lt hlt),
      List.length_singleton]
  have hk := hlength h
  have hj := hlength h'
  omega

/-- A script that fails does so at some position. -/
theorem exists_failsAt (h : (runScript make s m).value.1 = .error e) :
    ∃ k, FailsAt make m s k e := by
  obtain ⟨p, a, q, rfl, hruns, hfail⟩ := exists_failure_of_error (Prod.ext h rfl)
  refine ⟨p.length, a, by simp, ?_⟩
  rw [List.take_left, hruns]
  exact ⟨rfl, execute_eq_error_iff.mpr hfail⟩

/-- A script in two parts does the second part where the first one ended, unless that one failed. -/
theorem runScript_append (make : Factory σ) (m : Model σ) (p q : List Action) :
    (runScript make (p ++ q) m).value =
      match (runScript make p m).value with
      | (.ok (), m') => (runScript make q m').value
      | (.error e, m') => (.error e, m') := by
  cases hvalue : (runScript make p m).value with
  | mk outcome m' =>
    cases outcome with
    | ok _ => exact runScript_append_of_runs hvalue
    | error e => exact runScript_append_of_error hvalue

end Model

/-! ## Sessions -/

/-- In a session a failed action leaves everything as it was, the fault flag included. -/
theorem Session.attempt_execute_of_error {s : Session} {a : Action} {e : ModelError}
    (h : (s.attempt (.execute a)).value.1 = some (.outcome (.error e))) :
    (s.attempt (.execute a)).value.2 = s := by
  have herror : (s.model.execute Supply.make a).value.1 = .error e := by
    simpa [Session.attempt, Session.perform, Session.withModel] using h
  have hsame := Model.execute_eq_of_error herror
  simp [Session.attempt, Session.perform, Session.withModel, hsame]

namespace Model

/-- Failures are atomic, and the guard says what will be done. -/
theorem failures_are_atomic {σ : Type} (make : Factory σ) (m : Model σ) :
    (∀ a, ((m.execute make a).value.1 = .error (.notEnabled a) ↔ m.isEnabled a = false) ∧
      (m.isEnabled a = false ↔ a ∉ m.enabledActions) ∧
      ∀ e, (m.execute make a).value.1 = .error e → (m.execute make a).value.2 = m) ∧
    (∀ (s : Session) a e, (s.attempt (.execute a)).value.1 = some (.outcome (.error e)) →
      (s.attempt (.execute a)).value.2 = s) ∧
    (∀ s e, (runScript make s m).value.1 = .error e → ∃ k, FailsAt make m s k e ∧
      (∀ j e', FailsAt make m s j e' → j = k) ∧
      (runScript make s m).value.2 = (runScript make (s.take k) m).value.2 ∧
      ∀ calls, (runScript make.counting s (m.counted calls)).value =
        (.error e, (runScript make s m).value.2.counted (calls + (s.take k).count .create))) ∧
    ∀ p q, (runScript make (p ++ q) m).value =
      match (runScript make p m).value with
      | (.ok (), m') => (runScript make q m').value
      | (.error e, m') => (.error e, m') := by
  refine ⟨fun a => ⟨?_, ?_, ?_⟩, ?_, ?_, ?_⟩
  · rw [execute_eq_error_iff, failure?_eq_notEnabled_iff]
  · rw [mem_enabledActions, Bool.not_eq_true]
  · intro e h
    rw [execute_eq_of_error h]
  · exact fun s a e h => Session.attempt_execute_of_error h
  · intro s e h
    obtain ⟨k, hk⟩ := exists_failsAt h
    exact ⟨k, hk, fun j e' hj => hk.unique hj, by rw [hk.runScript_value],
      hk.runScript_counted⟩
  · exact runScript_append make m

end Model

end CounterWalk

import CounterWalk.Proofs.Model.Atomicity
import CounterWalk.Proofs.Model.Supply

/-!
# Counts that only look

A `count` that succeeds leaves the model as it was.  So a script that succeeds may be rid of any of
its counts, and what a script has done when it fails is done as well by the actions before the
failure without the counts among them.  The other way round a count can only be put in where it
cannot fail.  On a healthy model, whose counters start at zero and do not drift, this is wherever a
counter is alive.

Main definitions:

- `Thinned`: a script without some of its counts;
- `Model.Healthy`: a model on which no allowed action fails.

Main results:

- Theorem `Model.Runs.thinned`: a script that succeeds does the same without some of its counts.
- Theorem `Model.Healthy.next`: every action leaves a healthy model healthy.
- Theorem `Model.Runs.observed`: on a healthy model counts of live counters add nothing.
- Theorem `Model.count_only_observes`: scripts with fewer counts, scripts that fail, and scripts
  with more counts.
-/

namespace CounterWalk

/-- The first script is the second one without some of its counts. -/
inductive Thinned : List Action → List Action → Prop where
  | nil : Thinned [] []
  | keep (a : Action) {s t : List Action} : Thinned s t → Thinned (a :: s) (a :: t)
  | drop {s t : List Action} : Thinned s t → Thinned s (.count :: t)

/-- A script can be rid of all its counts. -/
theorem Thinned.filter (s : List Action) : Thinned (s.filter (· ≠ .count)) s := by
  induction s with
  | nil => exact .nil
  | cons a s ih =>
    by_cases ha : a = .count
    · subst ha
      exact .drop ih
    · rw [List.filter_cons_of_pos (by simpa using ha)]
      exact .keep a ih

namespace Model

variable {σ : Type} {make : Factory σ} {m m' : Model σ} {a : Action} {e : ModelError}
  {s t : List Action} {k : Nat}

/-! ## Fewer counts -/

/-- A script that succeeds does the same without some of its counts. -/
theorem Runs.thinned (ht : Runs make t m m') (h : Thinned s t) : Runs make s m m' := by
  induction h generalizing m with
  | nil => exact ht
  | keep a _ ih =>
    obtain ⟨hstep, hrest⟩ := runs_cons_iff.mp ht
    exact runs_cons_iff.mpr ⟨hstep, ih hrest⟩
  | drop _ ih =>
    obtain ⟨-, hrest⟩ := runs_cons_iff.mp ht
    exact ih hrest

/-- What a script has done when it fails is done by the actions before the failure without their
counts. -/
theorem FailsAt.runs_filter (h : FailsAt make m s k e) :
    Runs make ((s.take k).filter (· ≠ .count)) m (runScript make s m).value.2 := by
  obtain ⟨a, -, hruns, -⟩ := h.exists_failure
  rw [h.runScript_value]
  exact hruns.thinned (.filter _)

/-! ## Healthy models -/

theorem drift_eq_zero_iff : m.drift = 0 ↔ ∀ c, m.counter = some c → c.value = m.expected := by
  cases hcounter : m.counter with
  | none => simp [drift, hcounter]
  | some c =>
    have hvalue : c.value - m.expected = 0 ↔ c.value = m.expected := by grind
    simp [drift, hcounter, hvalue]

/-- A model whose counter, if one is alive, agrees with the reference value, and whose counters to
come all start at zero. -/
structure Healthy (make : Factory σ) (m : Model σ) : Prop where
  drift_eq_zero : m.drift = 0
  startAt_eq_zero : ∀ j, make.startAt m.supply j = 0

/-- Every action leaves a healthy model healthy. -/
theorem Healthy.next (h : Healthy make m) (a : Action) : Healthy make (m.next make a) := by
  have hdrift := drift_next make m a
  cases a with
  | create =>
    refine ⟨hdrift.trans (h.startAt_eq_zero 0), fun j => ?_⟩
    rw [Model.next, ← Factory.startAt_succ]
    exact h.startAt_eq_zero (j + 1)
  | destroy | reset => exact ⟨hdrift, h.startAt_eq_zero⟩
  | increment | count => exact ⟨hdrift.trans h.drift_eq_zero, h.startAt_eq_zero⟩

/-- On a healthy model nothing fails that is allowed. -/
theorem Healthy.failure?_eq_none (h : Healthy make m) (ha : a.allowed m.alive = true) :
    m.failure? a = none := by
  by_cases hcount : a = .count
  · subst hcount
    rw [failure?_count ha, if_pos h.drift_eq_zero]
  · exact failure?_of_allowed ha hcount

/-! ## More counts -/

/-- All counts of a script stand where a counter is alive. -/
def Observes (alive : Bool) (t : List Action) : Prop :=
  ∀ k, t[k]? = some .count → History.alive alive (t.take k) = true

/-- What follows the first action of a script observes if the script does. -/
theorem Observes.tail {alive : Bool} (h : Observes alive (a :: t)) :
    Observes (a.leaves alive) t := by
  intro k hk
  have hlive := h (k + 1) hk
  rwa [List.take_succ_cons, History.alive_cons] at hlive

/-- On a healthy model a script that succeeds does the same with more counts, if these stand where a
counter is alive. -/
theorem Runs.observed (hs : Runs make s m m') (h : Thinned s t) (hm : Healthy make m)
    (ht : Observes m.alive t) : Runs make t m m' := by
  induction h generalizing m with
  | nil => exact hs
  | keep a _ ih =>
    obtain ⟨hstep, hrest⟩ := runs_cons_iff.mp hs
    refine runs_cons_iff.mpr ⟨hstep, ih hrest (hm.next a) ?_⟩
    rw [alive_next]
    exact ht.tail
  | drop _ ih =>
    have halive : m.alive = true := ht 0 rfl
    exact runs_cons_iff.mpr ⟨hm.failure?_eq_none halive, ih hs hm ht.tail⟩

/-- Counts only observe.  A script that succeeds leaves the same model without any of its counts.  A
script that fails does so at one position, and leaves what the actions before it, all their counts
left out, leave when they are done, which they are to the end.  On a model without a counter, or
with one that agrees with the reference value, and with a factory whose counters start at zero, a
script that succeeds leaves the same model when counts are put in wherever a counter is alive. -/
theorem count_only_observes (make : Factory σ) (m : Model σ) :
    (∀ s t, Thinned s t → (runScript make t m).value.1 = .ok () →
      (runScript make s m).value = (.ok (), (runScript make t m).value.2)) ∧
    (∀ s e, (runScript make s m).value.1 = .error e → ∃ k, FailsAt make m s k e ∧
      (∀ j e', FailsAt make m s j e' → j = k) ∧
      (runScript make ((s.take k).filter (· ≠ .count)) m).value =
        (.ok (), (runScript make s m).value.2)) ∧
    ((∀ c, m.counter = some c → c.value = m.expected) → (∀ j, make.startAt m.supply j = 0) →
      ∀ s t, Thinned s t → (∀ k, t[k]? = some .count → m.aliveAfter (t.take k) = true) →
        (runScript make s m).value.1 = .ok () →
        (runScript make t m).value = (.ok (), (runScript make s m).value.2)) := by
  refine ⟨?_, ?_, ?_⟩
  · intro s t h hok
    have hruns : Runs make t m (runScript make t m).value.2 := Prod.ext hok rfl
    exact hruns.thinned h
  · intro s e herror
    obtain ⟨k, hk⟩ := exists_failsAt herror
    exact ⟨k, hk, fun j e' hj => hk.unique hj, hk.runs_filter⟩
  · intro hcounter hstarts s t h hlive hok
    have hruns : Runs make s m (runScript make s m).value.2 := Prod.ext hok rfl
    exact hruns.observed h ⟨drift_eq_zero_iff.mpr hcounter, hstarts⟩ hlive

/-- A `count` that is put in finds a counter out that the next `reset` would have put right. -/
example :
    (runScript (Factory.constant 5) [.create, .reset, .count] { supply := () }).value.1 = .ok () ∧
      (runScript (Factory.constant 5) [.create, .count, .reset, .count] { supply := () }).value.1 =
        .error (.countMismatch 0 5) :=
  ⟨rfl, rfl⟩

end Model

end CounterWalk

import CounterWalk.Proofs.Model.Supply
import CounterWalk.Proofs.Walk.Itinerary

/-!
# Models that behave alike

A model shows nothing of its supply but the values at which its counters start.  Two models that
agree on the counter, on the reference value and on the values that are still to come therefore do
the same for ever, even if their supplies are of different kinds.

Main results:

- Theorem `Model.Alike.next`: models that are alike stay alike.
- Theorem `Model.Alike.outcome_eq`: scripts end on both in the same way.
- Theorem `Model.Alike.report_eq`: walks on both give the same report.
-/

namespace CounterWalk

namespace Model

variable {σ τ : Type} {make : Factory σ} {make' : Factory τ} {m : Model σ} {n : Model τ}

/-- Two models hold the same counter and the same reference value, and their next counters will
start at the same values. -/
structure Alike (make : Factory σ) (make' : Factory τ) (m : Model σ) (n : Model τ) : Prop where
  counter : m.counter = n.counter
  expected : m.expected = n.expected
  starts : ∀ j, make.startAt m.supply j = make'.startAt n.supply j

namespace Alike

/-- New models are alike if their counters start at the same values. -/
theorem of_starts {supply : σ} {supply' : τ}
    (h : ∀ j, make.startAt supply j = make'.startAt supply' j) :
    Alike make make' { supply } { supply := supply' } :=
  ⟨rfl, rfl, h⟩

theorem alive_eq (h : Alike make make' m n) : m.alive = n.alive := by
  rw [alive, alive, h.counter]

theorem failure?_eq (h : Alike make make' m n) (a : Action) : m.failure? a = n.failure? a := by
  have henabled : m.isEnabled a = n.isEnabled a := by
    rw [isEnabled_eq_allowed, isEnabled_eq_allowed, h.alive_eq]
  unfold failure?
  rw [henabled, h.counter, h.expected]

/-- Models that are alike stay alike. -/
theorem next (h : Alike make make' m n) (a : Action) :
    Alike make make' (m.next make a) (n.next make' a) := by
  cases a with
  | create =>
    have hcounter : (make m.supply).value.1 = (make' n.supply).value.1 :=
      congrArg Counter.mk (h.starts 0)
    refine ⟨congrArg some hcounter, rfl, ?_⟩
    intro j
    have hstart := h.starts (j + 1)
    rwa [Factory.startAt_succ, Factory.startAt_succ] at hstart
  | destroy => exact ⟨rfl, h.expected, h.starts⟩
  | increment => exact ⟨by simp [Model.next, h.counter], by simp [Model.next, h.expected], h.starts⟩
  | reset => exact ⟨by simp [Model.next, h.counter], rfl, h.starts⟩
  | count => exact h

/-- Scripts come to the same actions on both. -/
theorem attempts_eq (h : Alike make make' m n) (s : List Action) :
    attempts make s m = attempts make' s n := by
  induction s generalizing m n with
  | nil => rfl
  | cons a s ih =>
    cases hstep : m.failure? a with
    | none =>
      rw [attempts_cons_of_no_failure hstep,
        attempts_cons_of_no_failure (h.failure?_eq a ▸ hstep), ih (h.next a)]
    | some e =>
      rw [attempts_cons_of_failure hstep, attempts_cons_of_failure (h.failure?_eq a ▸ hstep)]

/-- Scripts end on both in the same way. -/
theorem outcome_eq (h : Alike make make' m n) (s : List Action) :
    (runScript make s m).value.1 = (runScript make' s n).value.1 := by
  induction s generalizing m n with
  | nil => rfl
  | cons a s ih =>
    cases hstep : m.failure? a with
    | none =>
      rw [runScript_cons_of_no_failure hstep,
        runScript_cons_of_no_failure (h.failure?_eq a ▸ hstep), ih (h.next a)]
    | some e =>
      rw [runScript_cons_of_failure hstep, runScript_cons_of_failure (h.failure?_eq a ▸ hstep)]

/-- Walks on both give the same report. -/
theorem report_eq (h : Alike make make' m n) (plan : WalkPlan) :
    (plan.run make m).value.1 = (plan.run make' n).value.1 := by
  have hroute : plan.itinerary m = plan.itinerary n := by
    rw [WalkPlan.itinerary, WalkPlan.itinerary, h.alive_eq]
  rw [WalkPlan.run_value, WalkPlan.run_value, hroute, h.attempts_eq, h.outcome_eq]

end Alike

end Model

end CounterWalk

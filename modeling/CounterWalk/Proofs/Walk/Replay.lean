import CounterWalk.Proofs.Text.Numeral
import CounterWalk.Proofs.Walk.Itinerary

/-!
# Replaying a walk

The trace of a walk is a script.  Run on the model on which the walk began, it does what the walk
did: it ends in the same model, it fails exactly if the walk failed, and then with the failure whose
message the report gives as the reason.

Main results:

- Theorem `WalkPlan.runScript_trace`: running the trace as a script repeats the walk.
-/

namespace CounterWalk

namespace WalkPlan

variable {σ : Type}

/-- Running the trace of a walk as a script repeats the walk: it leaves the same model, it succeeds
exactly if the walk passed, and it fails with a given failure exactly if the report says that the
last action of the trace failed for the reason that this failure gives and the actions before it
succeed. -/
theorem runScript_trace (plan : WalkPlan) (make : Factory σ) (m : Model σ) :
    (Model.runScript make (plan.run make m).value.1.trace m).value.2 = (plan.run make m).value.2 ∧
    ((Model.runScript make (plan.run make m).value.1.trace m).value.1 = .ok () ↔
      (plan.run make m).value.1.verdict = .pass) ∧
    ∀ e, (Model.runScript make (plan.run make m).value.1.trace m).value.1 = .error e ↔
      ∃ step, (plan.run make m).value.1.verdict = .fail step e.message ∧
        step.toNat + 1 = (plan.run make m).value.1.trace.length ∧
        (Model.runScript make ((plan.run make m).value.1.trace.take step.toNat) m).value.1 =
          .ok () := by
  have hreplay : (Model.runScript make (plan.run make m).value.1.trace m).value =
      (Model.runScript make (plan.itinerary m) m).value := by
    rw [run_value, Model.runScript_attempts]
  rw [hreplay]
  cases hvalue : (Model.runScript make (plan.itinerary m) m).value with
  | mk outcome m' =>
    cases outcome with
    | ok _ =>
      have hverdict : (plan.run make m).value.1.verdict = .pass := by
        rw [run_value, hvalue]
        rfl
      refine ⟨?_, ?_, ?_⟩
      · rw [run_value, hvalue]
      · simp [hverdict]
      · simp [hverdict]
    | error e =>
      obtain ⟨p, a, q, hsplit, hruns, hfail⟩ := Model.exists_failure_of_error hvalue
      obtain ⟨htrace, step, hverdict, hstep⟩ := run_of_failure hsplit hruns hfail
      refine ⟨?_, ?_, ?_⟩
      · rw [run_value, hvalue]
      · simp [hverdict]
      · intro e'
        constructor
        · intro he
          obtain rfl : e = e' := by simpa using he
          refine ⟨step, hverdict, ?_, ?_⟩
          · rw [htrace, hstep, List.length_append, List.length_singleton]
          · rw [htrace, hstep, List.take_left]
            exact congrArg Prod.fst hruns
        · rintro ⟨step', hverdict', -, -⟩
          rw [hverdict, Verdict.fail.injEq] at hverdict'
          rw [ModelError.message_injective hverdict'.2]

end WalkPlan

end CounterWalk

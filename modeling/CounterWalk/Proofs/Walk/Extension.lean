import CounterWalk.Model.Supply
import CounterWalk.Proofs.Walk.Legality

/-!
# Walks that go on longer

What a walk chooses is settled by its seed and by whether a counter is alive at the start.  So two
walks with one seed that begin alike in this do the same actions, as long as neither fails and both
have steps left, whatever their counters hold and wherever new ones come from.  On one model a walk
with a larger budget is the walk with the smaller one, and then it goes on from there, unless that
one failed already.

Main results:

- Theorem `WalkPlan.exists_itinerary_append`: the itinerary of a larger budget begins with that of a
  smaller one.
- Theorem `WalkPlan.run_of_append_of_error`: a walk that fails is not changed by a larger budget.
- Theorem `WalkPlan.traces_comparable`: of the traces of two walks with one seed, one begins with the
  other.
- Theorem `WalkPlan.run_extends`: a larger budget only extends a walk.
-/

namespace CounterWalk

/-- The reason tells the failure. -/
theorem Verdict.exists_ofOutcome_eq_fail_iff {trace : List Action} {o : Outcome} {e : ModelError} :
    (∃ step, ofOutcome trace o = .fail step e.message) ↔ o = .error e := by
  cases o with
  | ok _ => simp [ofOutcome]
  | error e' => simp [ofOutcome, ModelError.message_injective.eq_iff]

namespace WalkPlan

variable {σ τ : Type} {plan longer : WalkPlan} {make : Factory σ} {m m' : Model σ}

/-! ## Itineraries of one seed -/

/-- Two itineraries with one seed are the beginnings of a third if a counter is alive at the start
of both or of neither. -/
theorem exists_prefix_itinerary {plan' : WalkPlan} {n : Model τ} (hseed : plan.seed = plan'.seed)
    (halive : m.alive = n.alive) :
    ∃ route, plan.itinerary m <+: route ∧ plan'.itinerary n <+: route := by
  let g := Keystream.ofSeed plan.seed
  have hbegins (k : Nat) (hk : k ≤ max plan.steps.toNat plan'.steps.toNat) :
      Itinerary.actions k m.alive g <+:
        Itinerary.actions (max plan.steps.toNat plan'.steps.toNat) m.alive g := by
    rw [← Itinerary.take_actions hk]
    exact List.take_prefix _ _
  refine ⟨_, hbegins _ (Nat.le_max_left _ _), ?_⟩
  rw [itinerary, ← hseed, ← halive]
  exact hbegins _ (Nat.le_max_right _ _)

/-- The itinerary of a larger budget begins with that of a smaller one. -/
theorem exists_itinerary_append (plan longer : WalkPlan) (hseed : plan.seed = longer.seed)
    (hsteps : plan.steps ≤ longer.steps) (m : Model σ) :
    ∃ rest, longer.itinerary m = plan.itinerary m ++ rest := by
  have htake := Itinerary.take_actions (UInt64.le_iff_toNat_le.mp hsteps) m.alive
    (Keystream.ofSeed plan.seed)
  refine ⟨(longer.itinerary m).drop plan.steps.toNat, ?_⟩
  rw [itinerary, itinerary, ← hseed, ← htake, List.take_append_drop]

/-! ## Traces of one seed -/

/-- Of the traces of two walks with one seed, one begins with the other. -/
theorem prefix_or_prefix_trace {plan' : WalkPlan} {n : Model τ} (make : Factory σ)
    (make' : Factory τ) (hseed : plan.seed = plan'.seed) (halive : m.alive = n.alive) :
    (plan.run make m).value.1.trace <+: (plan'.run make' n).value.1.trace ∨
      (plan'.run make' n).value.1.trace <+: (plan.run make m).value.1.trace := by
  obtain ⟨route, hroute, hroute'⟩ := exists_prefix_itinerary hseed halive
  exact List.prefix_or_prefix_of_prefix ((plan.trace_run_prefix_itinerary make m).trans hroute)
    ((plan'.trace_run_prefix_itinerary make' n).trans hroute')

/-- Only a failure ends a walk before its budget does. -/
theorem exists_fail_of_length_lt (make : Factory σ) (m : Model σ)
    (h : (plan.run make m).value.1.trace.length < plan.steps.toNat) :
    ∃ step reason, (plan.run make m).value.1.verdict = .fail step reason := by
  cases hverdict : (plan.run make m).value.1.verdict with
  | pass =>
    have hlength := (consistent_run plan make m).passed hverdict
    omega
  | fail step reason => exact ⟨step, reason, rfl⟩

/-- The choice of actions does not see what counters hold.  Two walks with one seed, on models that
need only agree on whether a counter is alive and that may get their counters in different ways, do
the same actions as long as both go on: one trace begins with the other, and a walk whose trace is
shorter than its budget has failed. -/
theorem traces_comparable (seed steps steps' : UInt64) (make : Factory σ) (make' : Factory τ)
    (m : Model σ) (n : Model τ) (h : m.counter.isSome = n.counter.isSome) :
    let r := ((⟨seed, steps⟩ : WalkPlan).run make m).value.1
    let r' := ((⟨seed, steps'⟩ : WalkPlan).run make' n).value.1
    (r.trace <+: r'.trace ∨ r'.trace <+: r.trace) ∧
      (r.trace.length < steps.toNat → ∃ step reason, r.verdict = .fail step reason) ∧
      (r'.trace.length < steps'.toNat → ∃ step reason, r'.verdict = .fail step reason) :=
  ⟨prefix_or_prefix_trace make make' rfl h, exists_fail_of_length_lt make m,
    exists_fail_of_length_lt make' n⟩

/-- A walk on a counter that agrees with its reference value and a walk, with the largest budget, on
one that does not, while the flag is raised: the second fails at its first `count` and has done what
the first does. -/
theorem traces_comparable_raised_flag :
    let m : Model Unit := { counter := some ⟨0⟩, supply := () }
    let raised : Supply := { environment := { faulty := true, entropy := ⟨fun _ => 5, 0⟩ } }
    let n : Model Supply := { counter := some ⟨-3⟩, expected := 9, supply := raised }
    let r := ((⟨6, 7⟩ : WalkPlan).run (Factory.constant 0) m).value.1
    let r' := ((⟨6, 18446744073709551615⟩ : WalkPlan).run Supply.make n).value.1
    m.counter.isSome = n.counter.isSome ∧
      r.trace = [.destroy, .create, .count, .increment, .count, .reset, .increment] ∧
      r'.trace = [.destroy, .create, .count] ∧ r'.trace <+: r.trace ∧
      ∃ step reason, r'.verdict = .fail step reason := by
  intro m raised n r r'
  have halive : m.counter.isSome = n.counter.isSome := rfl
  have htrace : r.trace =
      [.destroy, .create, .count, .increment, .count, .reset, .increment] := by decide +kernel
  have htrace' : r'.trace = [.destroy, .create, .count] := by decide +kernel
  obtain ⟨hcomparable, -, hfail⟩ :=
    traces_comparable 6 7 18446744073709551615 (Factory.constant 0) Supply.make m n halive
  refine ⟨halive, htrace, htrace', hcomparable.resolve_left ?_, hfail ?_⟩
  · intro hlonger
    have hlength := hlonger.length_le
    rw [htrace, htrace'] at hlength
    exact absurd hlength (by decide)
  · change r'.trace.length < _
    rw [htrace']
    decide

/-! ## Larger budgets -/

/-- A walk that fails is not changed by a larger budget. -/
theorem run_of_append_of_error {rest : List Action} {e : ModelError}
    (hseed : plan.seed = longer.seed) (hroute : longer.itinerary m = plan.itinerary m ++ rest)
    (h : (Model.runScript make (plan.itinerary m) m).value = (.error e, m')) :
    (longer.run make m).value = (plan.run make m).value := by
  rw [run_value, run_value, hroute, Model.runScript_append_of_error h,
    Model.attempts_append_of_error h, h, hseed]

/-- The actions that a larger budget adds to a walk that passed go on from the model that it left:
as a script they leave the model of the longer walk and end as that walk does. -/
theorem run_of_append_of_runs {rest : List Action}
    (hroute : longer.itinerary m = plan.itinerary m ++ rest)
    (h : Model.Runs make (plan.itinerary m) m m') :
    (longer.run make m).value.1.trace = plan.itinerary m ++ Model.attempts make rest m' ∧
      (longer.run make m).value.1.verdict =
        .ofOutcome (longer.run make m).value.1.trace (Model.runScript make rest m').value.1 ∧
      (longer.run make m).value.2 = (Model.runScript make rest m').value.2 := by
  rw [run_value, hroute, Model.attempts_append_of_runs h, Model.runScript_append_of_runs h]
  exact ⟨rfl, rfl, rfl⟩

/-- The failed step of the longer walk is one of those that were added. -/
theorem le_step_of_append_of_runs {rest : List Action}
    (hroute : longer.itinerary m = plan.itinerary m ++ rest)
    (h : Model.Runs make (plan.itinerary m) m m') {step : UInt64} {reason : String}
    (hfail : (longer.run make m).value.1.verdict = .fail step reason) : plan.steps ≤ step := by
  obtain ⟨htrace, hverdict, -⟩ := run_of_append_of_runs hroute h
  have hne : Model.attempts make rest m' ≠ [] := by
    intro hnil
    obtain rfl : rest = [] := by
      cases rest with
      | nil => rfl
      | cons a rest => simp [Model.attempts] at hnil
    rw [hfail] at hverdict
    simp [Verdict.ofOutcome] at hverdict
  have hlength := congrArg List.length htrace
  rw [List.length_append, length_itinerary] at hlength
  have hpos := List.length_pos_iff.mpr hne
  obtain ⟨hsteps, -, -⟩ := (consistent_run longer make m).failed step reason hfail
  rw [(consistent_run longer make m).stepsExecuted] at hsteps
  rw [UInt64.le_iff_toNat_le]
  omega

/-- A larger budget only extends a walk.  A walk that fails gives the same report with it and leaves
the same model.  A walk that passes is the beginning of the longer one, which does not fail before
its end; the actions that are added, as a script on the model that the shorter walk left, leave the
model of the longer walk, and they fail if and only if it does, with the failure that it reports. -/
theorem run_extends (seed : UInt64) {steps steps' : UInt64} (h : steps ≤ steps')
    (make : Factory σ) (m : Model σ) :
    let short := ((⟨seed, steps⟩ : WalkPlan).run make m).value
    let long := ((⟨seed, steps'⟩ : WalkPlan).run make m).value
    let added := (Model.runScript make (long.1.trace.drop steps.toNat) short.2).value
    ((∃ step reason, short.1.verdict = .fail step reason) → long = short) ∧
      (short.1.verdict = .pass →
        long.1.trace.take steps.toNat = short.1.trace ∧
        (∀ step reason, long.1.verdict = .fail step reason → steps ≤ step) ∧
        added.2 = long.2 ∧ (added.1 = .ok () ↔ long.1.verdict = .pass) ∧
        ∀ e, added.1 = .error e ↔ ∃ step, long.1.verdict = .fail step e.message) := by
  intro short long added
  obtain ⟨rest, hroute⟩ := exists_itinerary_append ⟨seed, steps⟩ ⟨seed, steps'⟩ rfl h m
  constructor
  · rintro ⟨step, reason, hfail⟩
    cases hvalue : (Model.runScript make ((⟨seed, steps⟩ : WalkPlan).itinerary m) m).value with
    | mk outcome m' =>
      cases outcome with
      | ok _ =>
        have hpass : short.1.verdict = .pass := (run_of_runs hvalue).2
        rw [hpass] at hfail
        contradiction
      | error e => exact run_of_append_of_error rfl hroute hvalue
  · intro hpass
    have hruns := runs_of_pass hpass
    have hshort : short.1.trace = (⟨seed, steps⟩ : WalkPlan).itinerary m := (run_of_runs hruns).1
    have hlength : ((⟨seed, steps⟩ : WalkPlan).itinerary m).length = steps.toNat :=
      length_itinerary _ m
    obtain ⟨htrace, hverdict, hmodel⟩ := run_of_append_of_runs hroute hruns
    have hdrop : long.1.trace.drop steps.toNat = Model.attempts make rest short.2 := by
      rw [← hlength]
      exact htrace ▸ List.drop_left
    have hadded : added = (Model.runScript make rest short.2).value := by
      rw [← Model.runScript_attempts make rest, ← hdrop]
    refine ⟨?_, fun step reason => le_step_of_append_of_runs hroute hruns, ?_, ?_, ?_⟩
    · rw [hshort, ← hlength]
      exact htrace ▸ List.take_left
    · rw [hadded]
      exact hmodel.symm
    · rw [hadded, hverdict, Verdict.ofOutcome_eq_pass_iff]
    · intro e
      rw [hadded, hverdict, Verdict.exists_ofOutcome_eq_fail_iff]

/-- With two steps a walk that makes a counter at the greatest value passes; with three more it
counts, and fails. -/
theorem run_extends_to_mismatch :
    let short := ((⟨6, 2⟩ : WalkPlan).run (Factory.constant Int64.maxValue) { supply := () }).value
    let long := ((⟨6, 5⟩ : WalkPlan).run (Factory.constant Int64.maxValue) { supply := () }).value
    (2 : UInt64) ≤ 5 ∧ short.1.verdict = .pass ∧ short.1.trace = [.create, .increment] ∧
      long.1.trace.drop 2 = [.count] ∧
      ∃ step, long.1.verdict =
        .fail step (ModelError.countMismatch 1 Int64.minValue).message ∧ 2 ≤ step := by
  intro short long
  have hle : (2 : UInt64) ≤ 5 := by decide
  have hpass : short.1.verdict = .pass := by decide +kernel
  have hdrop : long.1.trace.drop 2 = [.count] := by decide +kernel
  obtain ⟨-, hextends⟩ :=
    run_extends 6 hle (Factory.constant Int64.maxValue) ({ supply := () } : Model Unit)
  obtain ⟨htake, hstep, -, -, hfail⟩ := hextends hpass
  have hmismatch : (Model.runScript (Factory.constant Int64.maxValue) [.count] short.2).value.1 =
      .error (.countMismatch 1 Int64.minValue) := by decide +kernel
  obtain ⟨step, hverdict⟩ := (hfail _).mp (hdrop ▸ hmismatch)
  refine ⟨hle, hpass, ?_, hdrop, step, hverdict, hstep step _ hverdict⟩
  rw [← htake]
  decide +kernel

end WalkPlan

end CounterWalk

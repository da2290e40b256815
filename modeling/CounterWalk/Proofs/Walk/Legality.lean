import CounterWalk.Proofs.Text.Numeral
import CounterWalk.Proofs.Walk.Itinerary
import Mathlib

/-!
# Walks keep to the rules

A walk chooses among the actions that its model allows, so its trace follows the lives of counters:
`create` is done only without a counter and everything else only with one.  What is allowed can fail
only when a `count` finds that the counter has drifted.  The trace, the number of steps and the
verdict of a report therefore tell one and the same story.

Main results:

- Theorem `Lives.exists_append_mem_remaining`: actions that are allowed one after another are the
  beginning of lives that are lived to their end.
- Theorem `WalkPlan.mem_enabledActions_modelAt`: every action of a trace is one of those that the
  model allowed when it was chosen.
- Theorem `WalkPlan.consistent_run`: the parts of a report agree with each other and with the plan.
- Theorem `WalkPlan.run_legal`: reports are consistent and their traces are legal.
-/

namespace CounterWalk

/-! ## The lives of counters -/

namespace Lives

open scoped Computability

/-- What can be done while a counter stays alive. -/
def kept : Language Action := {[.increment]} + {[.reset]} + {[.count]}

/-- Counters that live one after another, each from its `create` to its `destroy`. -/
def whole : Language Action := ({[.create]} * kept∗ * {[.destroy]})∗

/-- What may follow up to the end of the last life, from whether a counter is alive. -/
def remaining : Bool → Language Action
  | false => whole
  | true => kept∗ * {[.destroy]} * whole

theorem append_mem_kstar {l : Language Action} {u w : List Action} (hu : u ∈ l) (hw : w ∈ l∗) :
    u ++ w ∈ l∗ :=
  (mul_kstar_le_kstar : l * l∗ ≤ l∗) (Language.append_mem_mul hu hw)

/-- What keeps a counter alive may stand before anything that may follow with a live counter. -/
theorem cons_mem_remaining_of_kept {a : Action} {w : List Action} (ha : [a] ∈ kept)
    (hw : w ∈ remaining true) : a :: w ∈ remaining true := by
  obtain ⟨u, ⟨x, hx, y, hy, rfl⟩, v, hv, rfl⟩ := hw
  exact Language.append_mem_mul (Language.append_mem_mul (append_mem_kstar ha hx) hy) hv

/-- An allowed action may stand before anything that may follow it. -/
theorem cons_mem_remaining {a : Action} {alive : Bool} {w : List Action}
    (ha : a.allowed alive = true) (hw : w ∈ remaining (a.leaves alive)) :
    a :: w ∈ remaining alive := by
  cases a with
  | create =>
    obtain rfl : alive = false := by simpa [Action.allowed] using ha
    obtain ⟨u, ⟨x, hx, y, hy, rfl⟩, v, hv, rfl⟩ := hw
    have hlife : [.create] ++ x ++ y ∈ {[.create]} * kept∗ * {[.destroy]} :=
      Language.append_mem_mul (Language.append_mem_mul rfl hx) hy
    have hwhole : [.create] ++ x ++ y ++ v ∈ whole := append_mem_kstar hlife hv
    rw [List.append_assoc [.create] x y, List.append_assoc] at hwhole
    exact hwhole
  | destroy =>
    obtain rfl : alive = true := ha
    have hend : [] ++ [.destroy] ∈ kept∗ * {[.destroy]} :=
      Language.append_mem_mul (Language.nil_mem_kstar kept) rfl
    exact Language.append_mem_mul hend hw
  | increment =>
    obtain rfl : alive = true := ha
    exact cons_mem_remaining_of_kept (Or.inl (Or.inl rfl)) hw
  | reset =>
    obtain rfl : alive = true := ha
    exact cons_mem_remaining_of_kept (Or.inl (Or.inr rfl)) hw
  | count =>
    obtain rfl : alive = true := ha
    exact cons_mem_remaining_of_kept (Or.inr rfl) hw

/-- Every life can be lived to its end. -/
theorem exists_mem_remaining : ∀ alive, ∃ w, w ∈ remaining alive
  | false => ⟨[], Language.nil_mem_kstar _⟩
  | true => ⟨[.destroy], cons_mem_remaining rfl (Language.nil_mem_kstar _)⟩

/-- Actions each of which is allowed by what those before it leave are the beginning of lives that
are lived to their end. -/
theorem exists_append_mem_remaining {t : List Action} {alive : Bool}
    (h : ∀ (k : Nat) (a : Action), t[k]? = some a →
      a.allowed (History.alive alive (t.take k)) = true) :
    ∃ w, t ++ w ∈ remaining alive := by
  induction t generalizing alive with
  | nil => exact exists_mem_remaining alive
  | cons a t ih =>
    have hfirst : a.allowed alive = true := h 0 a rfl
    have hrest : ∀ (k : Nat) (b : Action), t[k]? = some b →
        b.allowed (History.alive (a.leaves alive) (t.take k)) = true := by
      intro k b hb
      rw [← History.alive_cons, ← List.take_succ_cons]
      exact h (k + 1) b hb
    obtain ⟨w, hw⟩ := ih hrest
    exact ⟨w, cons_mem_remaining hfirst hw⟩

end Lives

/-! ## Reports -/

/-- The parts of a report agree with each other and with the plan of the walk. -/
structure Report.Consistent (plan : WalkPlan) (r : Report) : Prop where
  seed : r.seed = plan.seed
  stepsExecuted : r.stepsExecuted.toNat = r.trace.length
  within_budget : r.trace.length ≤ plan.steps.toNat
  /-- Only its budget ends a walk that passes. -/
  passed : r.verdict = .pass → r.trace.length = plan.steps.toNat
  /-- The steps are those before the failed one and that one itself, and their number is a word. -/
  failed : ∀ step reason, r.verdict = .fail step reason →
    r.stepsExecuted.toNat = step.toNat + 1 ∧ step.toNat + 1 < UInt64.size ∧ step < plan.steps
  /-- Only a `count` fails, and only for a mismatch. -/
  mismatched : ∀ step reason, r.verdict = .fail step reason →
    r.trace.getLast? = some .count ∧
      (∃ e v, reason = (ModelError.countMismatch e v).message) ∧
      ∀ a, reason ≠ (ModelError.notEnabled a).message

namespace WalkPlan

variable {σ : Type}

/-- The model on which a walk chooses its action number `k`, counted from zero. -/
def modelAt (plan : WalkPlan) (make : Factory σ) (m : Model σ) (k : Nat) : Model σ :=
  ((plan.start m).advance make k).2.model

theorem modelAt_eq_runScript (plan : WalkPlan) (make : Factory σ) (m : Model σ) {k : Nat}
    (hk : k ≤ plan.steps.toNat) :
    plan.modelAt make m k = (Model.runScript make ((plan.itinerary m).take k) m).value.2 := by
  obtain ⟨hvalue, -⟩ := (plan.start m).advance_eq_runScript make k
  have hroute : (plan.start m).itinerary k = (plan.itinerary m).take k :=
    (Itinerary.take_actions hk m.alive (Keystream.ofSeed plan.seed)).symm
  rw [modelAt, ← hroute]
  exact congrArg Prod.snd hvalue

theorem trace_run_prefix_itinerary (plan : WalkPlan) (make : Factory σ) (m : Model σ) :
    (plan.run make m).value.1.trace <+: plan.itinerary m := by
  rw [trace_run]
  exact Model.attempts_prefix make (plan.itinerary m) m

/-- The actions of a trace before one of them are those that are planned before it. -/
theorem take_trace_run {plan : WalkPlan} {make : Factory σ} {m : Model σ} {k : Nat}
    (hk : k < (plan.run make m).value.1.trace.length) :
    (plan.run make m).value.1.trace.take k = (plan.itinerary m).take k := by
  obtain ⟨rest, hrest⟩ := plan.trace_run_prefix_itinerary make m
  rw [← hrest, List.take_append_of_le_length hk.le]

/-- The model on which an action of the trace is chosen is the one to which the actions before it
lead. -/
theorem runs_take_trace {plan : WalkPlan} {make : Factory σ} {m : Model σ} {k : Nat}
    (hk : k < (plan.run make m).value.1.trace.length) :
    Model.Runs make ((plan.run make m).value.1.trace.take k) m (plan.modelAt make m k) := by
  have hle : k ≤ plan.steps.toNat := by
    have hlength := (plan.trace_run_prefix_itinerary make m).length_le
    rw [length_itinerary] at hlength
    omega
  have hattempts := hk
  rw [trace_run] at hattempts
  obtain ⟨m', hruns⟩ := Model.exists_runs_of_lt_attempts hattempts
  have hmodel : plan.modelAt make m k = m' := by
    rw [modelAt_eq_runScript plan make m hle]
    exact congrArg Prod.snd hruns
  rw [take_trace_run hk, hmodel]
  exact hruns

/-- Every action of a trace is allowed by what the actions before it leave. -/
theorem allowed_of_getElem?_trace {plan : WalkPlan} {make : Factory σ} {m : Model σ} {k : Nat}
    {a : Action} (ha : (plan.run make m).value.1.trace[k]? = some a) :
    a.allowed (m.aliveAfter ((plan.run make m).value.1.trace.take k)) = true := by
  have hk : k < (plan.run make m).value.1.trace.length := (List.getElem?_eq_some_iff.mp ha).1
  obtain ⟨rest, hrest⟩ := plan.trace_run_prefix_itinerary make m
  rw [take_trace_run hk]
  apply allowed_of_getElem?_itinerary
  rw [← hrest, List.getElem?_append_left hk]
  exact ha

/-- Every action of a trace is one of those that the model allowed when it was chosen. -/
theorem mem_enabledActions_modelAt {plan : WalkPlan} {make : Factory σ} {m : Model σ} {k : Nat}
    {a : Action} (ha : (plan.run make m).value.1.trace[k]? = some a) :
    a ∈ (plan.modelAt make m k).enabledActions := by
  have hruns := runs_take_trace (List.getElem?_eq_some_iff.mp ha).1
  rw [Model.mem_enabledActions, Model.isEnabled_eq_allowed, hruns.alive_eq]
  exact allowed_of_getElem?_trace ha

/-- What ends an itinerary before its end is a `count` that finds a mismatch. -/
theorem exists_mismatch_of_error {plan : WalkPlan} {make : Factory σ} {m m' : Model σ}
    {e : ModelError} (h : (Model.runScript make (plan.itinerary m) m).value = (.error e, m')) :
    (∃ expected actual, e = .countMismatch expected actual) ∧
      ∃ p step, (plan.run make m).value.1.trace = p ++ [.count] ∧ Model.Runs make p m m' ∧
        m'.failure? .count = some e ∧
        (plan.run make m).value.1.verdict = .fail step e.message ∧ step.toNat = p.length := by
  obtain ⟨p, a, q, hsplit, hruns, hfail⟩ := Model.exists_failure_of_error h
  obtain ⟨htrace, step, hverdict, hstep⟩ := run_of_failure hsplit hruns hfail
  have ha : (plan.run make m).value.1.trace[p.length]? = some a := by simp [htrace]
  have hallowed := allowed_of_getElem?_trace ha
  rw [htrace, List.take_left, ← hruns.alive_eq] at hallowed
  obtain ⟨rfl, hmismatch⟩ := Model.eq_count_of_failure hallowed hfail
  exact ⟨hmismatch, p, step, htrace, hruns, hfail, hverdict, hstep⟩

/-- What a walk that failed did: all before the last action of its trace succeeded, and that one is a
`count` that found a mismatch. -/
theorem exists_mismatch_of_fail {plan : WalkPlan} {make : Factory σ} {m : Model σ}
    {step : UInt64} {reason : String}
    (h : (plan.run make m).value.1.verdict = .fail step reason) :
    ∃ p m' expected actual, (plan.run make m).value.1.trace = p ++ [.count] ∧
      Model.Runs make p m m' ∧ m'.failure? .count = some (.countMismatch expected actual) ∧
      reason = (ModelError.countMismatch expected actual).message := by
  cases hvalue : (Model.runScript make (plan.itinerary m) m).value with
  | mk outcome m' =>
    cases outcome with
    | ok _ =>
      rw [(run_of_runs hvalue).2] at h
      contradiction
    | error e =>
      obtain ⟨⟨expected, actual, rfl⟩, p, step', htrace, hruns, hfail, hverdict, -⟩ :=
        exists_mismatch_of_error hvalue
      obtain ⟨-, rfl⟩ := Verdict.fail.inj (hverdict.symm.trans h)
      exact ⟨p, m', expected, actual, htrace, hruns, hfail, rfl⟩

/-- A walk fails exactly if its trace does as a script, and then for a mismatch. -/
theorem exists_fail_iff (plan : WalkPlan) (make : Factory σ) (m : Model σ) :
    (∃ step reason, (plan.run make m).value.1.verdict = .fail step reason) ↔
      ∃ e v, (Model.runScript make (plan.run make m).value.1.trace m).value.1 =
        .error (.countMismatch e v) := by
  rw [runScript_trace_run]
  cases hvalue : (Model.runScript make (plan.itinerary m) m).value with
  | mk outcome m' =>
    cases outcome with
    | ok _ => simp [(run_of_runs hvalue).2]
    | error e =>
      obtain ⟨⟨expected, actual, rfl⟩, p, step, -, -, -, hverdict, -⟩ :=
        exists_mismatch_of_error hvalue
      simp [hverdict]

/-- The parts of a report agree with each other and with the plan of the walk. -/
theorem consistent_run (plan : WalkPlan) (make : Factory σ) (m : Model σ) :
    (plan.run make m).value.1.Consistent plan := by
  have hseed : (plan.run make m).value.1.seed = plan.seed := rfl
  have hsteps := toNat_stepsExecuted_run plan make m
  have hbudget : (plan.run make m).value.1.trace.length ≤ plan.steps.toNat := by
    simpa using (plan.trace_run_prefix_itinerary make m).length_le
  cases hvalue : (Model.runScript make (plan.itinerary m) m).value with
  | mk outcome m' =>
    cases outcome with
    | ok _ =>
      obtain ⟨htrace, hverdict⟩ := run_of_runs hvalue
      refine ⟨hseed, hsteps, hbudget, ?_, ?_, ?_⟩
      · intro _
        rw [htrace, length_itinerary]
      · simp [hverdict]
      · simp [hverdict]
    | error e =>
      obtain ⟨hmismatch, p, step, htrace, -, -, hverdict, hstep⟩ := exists_mismatch_of_error hvalue
      have hlength : (plan.run make m).value.1.trace.length = step.toNat + 1 := by
        rw [htrace, hstep, List.length_append, List.length_singleton]
      refine ⟨hseed, hsteps, hbudget, ?_, ?_, ?_⟩
      · simp [hverdict]
      · intro step' reason' hverdict'
        obtain ⟨rfl, -⟩ := Verdict.fail.inj (hverdict.symm.trans hverdict')
        have hlt : step.toNat + 1 ≤ plan.steps.toNat := hlength ▸ hbudget
        refine ⟨by rw [hsteps, hlength], hlt.trans_lt plan.steps.toNat_lt, ?_⟩
        exact UInt64.lt_iff_toNat_lt.mpr hlt
      · intro step' reason' hverdict'
        obtain ⟨-, rfl⟩ := Verdict.fail.inj (hverdict.symm.trans hverdict')
        obtain ⟨expected, actual, rfl⟩ := hmismatch
        refine ⟨by rw [htrace, List.getLast?_concat], ⟨expected, actual, rfl⟩, ?_⟩
        intro a h
        cases ModelError.message_injective h

/-- The report of a walk is consistent, and its trace is legal: each action is one of those that the
model allowed when it was chosen, of which there are always some, and without a counter at the start
the trace is the beginning of lives that are lived to their end. -/
theorem run_legal (plan : WalkPlan) (make : Factory σ) (m : Model σ) :
    (plan.run make m).value.1.Consistent plan ∧
    (∀ k, (plan.modelAt make m k).enabledActions ≠ []) ∧
    (∀ (k : Nat) (a : Action), (plan.run make m).value.1.trace[k]? = some a →
      a ∈ (plan.modelAt make m k).enabledActions ∧
      Model.Runs make ((plan.run make m).value.1.trace.take k) m (plan.modelAt make m k)) ∧
    (m.counter = none → ∃ w, (plan.run make m).value.1.trace ++ w ∈ Lives.whole) := by
  refine ⟨consistent_run plan make m, fun k => Model.enabledActions_ne_nil _, ?_, ?_⟩
  · intro k a ha
    exact ⟨mem_enabledActions_modelAt ha, runs_take_trace (List.getElem?_eq_some_iff.mp ha).1⟩
  · intro hnone
    have halive : m.alive = false := by simp [Model.alive, hnone]
    have hallowed : ∀ (k : Nat) (a : Action), (plan.run make m).value.1.trace[k]? = some a →
        a.allowed (History.alive m.alive ((plan.run make m).value.1.trace.take k)) = true :=
      fun _ _ ha => allowed_of_getElem?_trace ha
    rw [halive] at hallowed
    exact Lives.exists_append_mem_remaining hallowed

end WalkPlan

end CounterWalk

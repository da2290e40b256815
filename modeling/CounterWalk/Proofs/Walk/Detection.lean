import CounterWalk.Proofs.Model.Script
import CounterWalk.Proofs.Walk.Itinerary

/-!
# What a walk detects

A counter that starts at another value than zero is found out by the first `count` that looks at it,
unless it was reset before.  Which walks find something can therefore be read off the trace of the
walk with the same plan on a model whose counters all start at zero: this trace is the whole
itinerary, and the walk on any other new model does the same actions up to the first `count` that
exposes a counter.

Main results:

- Theorem `Exposes.drift_and_expected`: what an exposing `count` finds.
- Theorem `WalkPlan.stopsAt_itinerary_iff`: an itinerary stops where a counter is exposed and nowhere
  else.
- Theorem `WalkPlan.run_detects_exposed`: which walks fail, where and with which reason.
-/

namespace CounterWalk

/-! ## Positions in a history -/

namespace History

variable {t q r : List Action} {a b : Action} {c i k : Nat}

/-- The actions strictly between two positions. -/
def between (t : List Action) (c k : Nat) : List Action := (t.take k).drop (c + 1)

theorem take_eq_append_between (ha : t[c]? = some a) (hk : k ≤ t.length) (h : c < k) :
    t.take k = t.take c ++ a :: between t c k := by
  obtain ⟨hc, hget⟩ := List.getElem?_eq_some_iff.mp ha
  have hc' : c < (t.take k).length := by
    rw [List.length_take]
    omega
  have ha' : (t.take k)[c] = a := by rw [List.getElem_take, hget]
  have htake : t.take c = (t.take k).take c := by rw [List.take_take, Nat.min_eq_left h.le]
  rw [between, htake, ← ha', ← List.drop_eq_getElem_cons hc', List.take_append_drop]

theorem not_mem_between (h : ∀ i, c < i → i < k → t[i]? ≠ some a) : a ∉ between t c k := by
  intro ha
  obtain ⟨i, hi⟩ := List.mem_iff_getElem?.mp ha
  rw [between, List.getElem?_drop, List.getElem?_take] at hi
  split at hi
  · exact h (c + 1 + i) (by omega) (by assumption) hi
  · contradiction

/-- An action between the end of `q` and position `k` is one of those that follow `q` there. -/
theorem mem_of_getElem?_of_take_eq (h : t.take k = q ++ a :: r) (hi : q.length < i) (hk : i < k)
    (hb : t[i]? = some b) : b ∈ r := by
  rw [← List.getElem?_take_of_lt hk, h, List.getElem?_append_right hi.le] at hb
  obtain ⟨j, hj⟩ : ∃ j, i - q.length = j + 1 := ⟨i - q.length - 1, by omega⟩
  rw [hj, List.getElem?_cons_succ] at hb
  exact List.mem_of_getElem? hb

end History

/-! ## Exposing positions -/

/-- The `count` at position `k` of a trace looks at the counter made at position `c`, which started
at another value than zero and has not been reset.  `values` are the starting values of the counters
in the order in which they are made. -/
structure Exposes (values : Nat → Int64) (t : List Action) (c k : Nat) : Prop where
  count_at : t[k]? = some .count
  create_at : t[c]? = some .create
  lt : c < k
  not_create : ∀ i, c < i → i < k → t[i]? ≠ some .create
  not_reset : ∀ i, c < i → i < k → t[i]? ≠ some .reset
  value_ne_zero : values ((t.take c).count .create) ≠ 0

namespace Exposes

variable {values : Nat → Int64} {t : List Action} {c k : Nat}

/-- What an exposing `count` finds: the drift is the starting value of the counter, and the reference
value is the number of increments since the counter was made. -/
theorem drift_and_expected (h : Exposes values t c k) (start : Int64) :
    History.drift start values (t.take k) = values ((t.take c).count .create) ∧
      History.expected start (t.take k) =
        Int64.ofNat ((History.between t c k).count .increment) := by
  have hk : k ≤ t.length := (List.getElem?_eq_some_iff.mp h.count_at).1.le
  have hcreate : .create ∉ History.between t c k := History.not_mem_between h.not_create
  have hreset : .reset ∉ History.between t c k := History.not_mem_between h.not_reset
  rw [History.take_eq_append_between h.create_at hk h.lt]
  constructor
  · rw [History.drift_append_create _ _ _ hcreate, if_neg hreset]
  · rw [History.expected_append_create _ _ hcreate hreset]

/-- A `count` of a live counter that has drifted exposes the counter that was made last. -/
theorem of_drift (hcount : t[k]? = some .count) (halive : History.alive false (t.take k) = true)
    {start : Int64} (hdrift : History.drift start values (t.take k) ≠ 0) :
    ∃ c, Exposes values t c k := by
  obtain ⟨q, r, hsplit, hcreate⟩ :=
    History.exists_last_create (History.create_mem_of_alive halive)
  rw [hsplit, History.drift_append_create _ _ _ hcreate] at hdrift
  have hreset : .reset ∉ r := by
    intro hmem
    rw [if_pos hmem] at hdrift
    exact hdrift rfl
  rw [if_neg hreset] at hdrift
  have hk : k ≤ t.length := (List.getElem?_eq_some_iff.mp hcount).1.le
  have hlt : q.length < k := by
    have hlength := congrArg List.length hsplit
    rw [List.length_take, Nat.min_eq_left hk, List.length_append, List.length_cons] at hlength
    omega
  have htake : t.take q.length = q := by
    rw [← Nat.min_eq_left hlt.le, ← List.take_take, hsplit, List.take_left]
  refine ⟨q.length, hcount, ?_, hlt, ?_, ?_, ?_⟩
  · rw [← List.getElem?_take_of_lt hlt, hsplit, List.getElem?_append_right le_rfl]
    simp
  · intro i hi hik hcreate'
    exact hcreate (History.mem_of_getElem?_of_take_eq hsplit hi hik hcreate')
  · intro i hi hik hreset'
    exact hreset (History.mem_of_getElem?_of_take_eq hsplit hi hik hreset')
  · rw [htake]
    exact hdrift

end Exposes

/-! ## Walks on new models -/

namespace WalkPlan

variable {σ τ : Type}

/-- On a new model an itinerary stops exactly where a counter is exposed: nothing in it is forbidden,
so only a `count` can fail. -/
theorem stopsAt_itinerary_iff (plan : WalkPlan) (make : Factory σ) (supply : σ) (k : Nat) :
    Model.StopsAt make { supply } (plan.itinerary ({ supply } : Model σ)) k ↔
      ∃ c, Exposes (make.startAt supply) (plan.itinerary ({ supply } : Model σ)) c k := by
  constructor
  · rintro ⟨a, ha, hfail⟩
    have hallowed := allowed_of_getElem?_itinerary ha
    rcases hfail with hforbidden | ⟨rfl, halive, hdrift⟩
    · exact absurd hallowed (by rw [Bool.not_eq_true]; exact hforbidden)
    · exact Exposes.of_drift ha halive hdrift
  · rintro ⟨c, h⟩
    have halive := allowed_of_getElem?_itinerary h.count_at
    refine ⟨.count, h.count_at, Or.inr ⟨rfl, halive, ?_⟩⟩
    rw [Model.driftAfter, (h.drift_and_expected _).1]
    exact h.value_ne_zero

/-- A new model on which a walk passes, whatever its plan: all counters start at zero. -/
theorem run_of_startAt_eq_zero (plan : WalkPlan) {zeros : Factory τ} {supply : τ}
    (hzeros : ∀ j, zeros.startAt supply j = 0) :
    (plan.run zeros { supply }).value.1.trace = plan.itinerary ({ supply } : Model τ) ∧
      (plan.run zeros { supply }).value.1.verdict = .pass := by
  apply run_of_runs
  apply Model.runs_of_not_stopsAt
  intro k hstop
  obtain ⟨c, hexposes⟩ := (stopsAt_itinerary_iff plan zeros supply k).mp hstop
  exact hexposes.value_ne_zero (hzeros _)

/-- At the first position that exposes a counter the walk fails, and the reason tells the increments
since the counter was made and the value that they led to. -/
theorem run_of_isLeast_exposes (plan : WalkPlan) (make : Factory σ) (supply : σ) {T : List Action}
    (hT : plan.itinerary ({ supply } : Model σ) = T) {c k : Nat}
    (hleast : IsLeast {k | ∃ c, Exposes (make.startAt supply) T c k} k)
    (h : Exposes (make.startAt supply) T c k) :
    (plan.run make { supply }).value.1.trace = T.take (k + 1) ∧
      ∃ step, step.toNat = k ∧ (plan.run make { supply }).value.1.verdict =
        .fail step (ModelError.countMismatch
          (Int64.ofNat ((History.between T c k).count .increment))
          (make.startAt supply ((T.take c).count .create) +
            Int64.ofNat ((History.between T c k).count .increment))).message := by
  subst hT
  have hstops : {k | Model.StopsAt make { supply } (plan.itinerary ({ supply } : Model σ)) k} =
      {k | ∃ c, Exposes (make.startAt supply) (plan.itinerary ({ supply } : Model σ)) c k} := by
    ext i
    exact stopsAt_itinerary_iff plan make supply i
  rw [← hstops] at hleast
  obtain ⟨a, ha, hsplit, hruns, hfail⟩ := Model.exists_failure_of_isLeast_stopsAt hleast
  obtain rfl : a = .count := Option.some.inj (ha.symm.trans h.count_at)
  obtain ⟨htrace, step, hverdict, hstep⟩ := run_of_failure hsplit hruns hfail
  have hk : k < (plan.itinerary ({ supply } : Model σ)).length :=
    (List.getElem?_eq_some_iff.mp ha).1
  have hallowed := allowed_of_getElem?_itinerary ha
  obtain ⟨hdrift, hexpected⟩ := h.drift_and_expected 0
  refine ⟨?_, step, ?_, ?_⟩
  · rw [htrace, List.take_add_one, ha, Option.toList_some]
  · rw [hstep, List.length_take, Nat.min_eq_left hk.le]
  · rw [hverdict, Model.failureAfter, if_pos hallowed, Model.expectedAfter, Model.driftAfter,
      Model.drift, hdrift, hexpected, Int64.add_comm]

/-- A walk on a new model does what the walk with the same plan does on a new model whose counters
all start at zero, up to the first `count` that exposes a counter.  There it fails, and the reason
gives the increments since the counter was made and the value that they led to. -/
theorem run_detects_exposed (plan : WalkPlan) (make : Factory σ) (supply : σ) (zeros : Factory τ)
    (supplyOfZeros : τ) (T : List Action)
    (hzeros : ∀ j, zeros.startAt supplyOfZeros j = 0)
    (hT : T = (plan.run zeros { supply := supplyOfZeros }).value.1.trace) :
    ((plan.run zeros { supply := supplyOfZeros }).value.1.verdict = .pass ∧
      T.length = plan.steps.toNat) ∧
    ((∃ step reason, (plan.run make { supply }).value.1.verdict = .fail step reason) ↔
      ∃ k c, Exposes (make.startAt supply) T c k) ∧
    ((¬ ∃ k c, Exposes (make.startAt supply) T c k) →
      (plan.run make { supply }).value.1.verdict = .pass ∧
        (plan.run make { supply }).value.1.trace = T) ∧
    ∀ k c, IsLeast {k | ∃ c, Exposes (make.startAt supply) T c k} k →
      Exposes (make.startAt supply) T c k →
      (plan.run make { supply }).value.1.trace = T.take (k + 1) ∧
      (plan.run make { supply }).value.1.stepsExecuted.toNat = k + 1 ∧
      ∃ step, step.toNat = k ∧
        (plan.run make { supply }).value.1.verdict = .fail step
          ("count mismatch: expected " ++
            Text.integer (Int64.ofNat ((History.between T c k).count .increment)) ++
            ", counter reported " ++
            Text.integer (make.startAt supply ((T.take c).count .create) +
              Int64.ofNat ((History.between T c k).count .increment))) := by
  obtain ⟨hhealthy, hpass⟩ := run_of_startAt_eq_zero plan hzeros
  have hroute : plan.itinerary ({ supply } : Model σ) = T := by
    rw [hT, hhealthy]
    rfl
  have hquiet : (¬ ∃ k c, Exposes (make.startAt supply) T c k) →
      (plan.run make { supply }).value.1.verdict = .pass ∧
        (plan.run make { supply }).value.1.trace = T := by
    intro hnone
    obtain ⟨htrace, hverdict⟩ := run_of_runs (Model.runs_of_not_stopsAt fun k hstop =>
      hnone ⟨k, hroute ▸ (stopsAt_itinerary_iff plan make supply k).mp hstop⟩)
    exact ⟨hverdict, htrace.trans hroute⟩
  refine ⟨⟨hpass, ?_⟩, ⟨?_, ?_⟩, hquiet, ?_⟩
  · rw [← hroute, length_itinerary]
  · rintro ⟨step, reason, hfail⟩
    by_contra hnone
    rw [(hquiet hnone).1] at hfail
    contradiction
  · intro hexposed
    obtain ⟨k, hleast⟩ := History.exists_isLeast hexposed
    obtain ⟨c, hc⟩ := hleast.1
    obtain ⟨-, step, -, hverdict⟩ := run_of_isLeast_exposes plan make supply hroute hleast hc
    exact ⟨step, _, hverdict⟩
  · intro k c hleast hc
    obtain ⟨htrace, step, hstep, hverdict⟩ :=
      run_of_isLeast_exposes plan make supply hroute hleast hc
    have hk : k < T.length := (List.getElem?_eq_some_iff.mp hc.count_at).1
    refine ⟨htrace, ?_, step, hstep, hverdict⟩
    rw [toNat_stepsExecuted_run, htrace, List.length_take, Nat.min_eq_left hk]

/-- A counter that starts at the greatest value is found out after one increment has taken it to the
least. -/
theorem run_detects_greatest_value :
    (∀ j, (Factory.constant 0).startAt () j = 0) ∧
    ((⟨6, 5⟩ : WalkPlan).run (Factory.constant 0) { supply := () }).value.1.trace =
      [.create, .increment, .count, .increment, .count] ∧
    ((⟨6, 5⟩ : WalkPlan).run (Factory.constant Int64.maxValue) { supply := () }).value.1.trace =
      [.create, .increment, .count] ∧
    ∃ step, step.toNat = 2 ∧
      ((⟨6, 5⟩ : WalkPlan).run (Factory.constant Int64.maxValue) { supply := () }).value.1.verdict =
        .fail step "count mismatch: expected 1, counter reported -9223372036854775808" := by
  have hzeros : ∀ j, (Factory.constant 0).startAt () j = 0 := Factory.startAt_constant 0
  have hT : ((⟨6, 5⟩ : WalkPlan).run (Factory.constant 0) { supply := () }).value.1.trace =
      [.create, .increment, .count, .increment, .count] := by
    rw [(run_of_startAt_eq_zero _ hzeros).1]
    decide +kernel
  have hexposes : Exposes ((Factory.constant Int64.maxValue).startAt ())
      [.create, .increment, .count, .increment, .count] 0 2 := by
    refine ⟨rfl, rfl, by decide, ?_, ?_, by decide⟩
    · intro i hi hik
      obtain rfl : i = 1 := by omega
      decide
    · intro i hi hik
      obtain rfl : i = 1 := by omega
      decide
  obtain ⟨-, -, -, hfirst⟩ := run_detects_exposed ⟨6, 5⟩ (Factory.constant Int64.maxValue) ()
    (Factory.constant 0) () _ hzeros hT.symm
  have hleast : IsLeast {k | ∃ c, Exposes ((Factory.constant Int64.maxValue).startAt ())
      [.create, .increment, .count, .increment, .count] c k} 2 := by
    refine ⟨⟨0, hexposes⟩, ?_⟩
    rintro i ⟨c, hi⟩
    by_contra hlt
    obtain rfl | rfl : i = 0 ∨ i = 1 := by omega
    · exact absurd hi.count_at (by decide)
    · exact absurd hi.count_at (by decide)
  obtain ⟨htrace, -, step, hstep, hverdict⟩ := hfirst 2 0 hleast hexposes
  refine ⟨hzeros, hT, htrace, step, hstep, hverdict.trans (congrArg (Verdict.fail step) ?_)⟩
  decide +kernel

end WalkPlan

end CounterWalk

import CounterWalk.Proofs.Model.History
import CounterWalk.Walk.Basic

/-!
# The itinerary of a walk

What a walk chooses next depends on the choices still to be made and on whether a counter is alive,
and an action that does not fail settles the liveness after it.  So the actions that a walk would
choose if none of them failed are fixed before the first step: they are its itinerary.  A walk does
its itinerary like a script, and its trace is the part of it that is come to.

Main results:

- Theorem `Itinerary.allowed_of_getElem?_actions`: every action of an itinerary is allowed by the
  liveness that the actions before it leave.
- Theorem `WalkState.advance_eq_runScript`: walking on is running the itinerary as a script.
- Theorem `WalkPlan.run_value`: the report of a walk and the model it leaves, from that script.
- Theorems `WalkPlan.run_of_runs` and `WalkPlan.run_of_failure`: the trace and the verdict when the
  itinerary succeeds and when it fails.
-/

namespace CounterWalk

/-! ## Choices -/

namespace Choice

theorem mem_of_element? {α : Type} {l : List α} {g g' : Keystream} {a : α}
    (h : element? l g = some (a, g')) : a ∈ l := by
  cases l with
  | nil => simp [element?] at h
  | cons b l =>
    simp only [element?, Option.some.injEq, Prod.mk.injEq] at h
    rw [← h.1, List.getD_eq_getElem?_getD]
    cases hget : (b :: l)[(below (b :: l).length g).1]? with
    | none => exact List.mem_cons_self
    | some c => exact List.mem_of_getElem? hget

/-- The next action of a walk and the choices after it, from whether a counter is alive. -/
def action? (alive : Bool) (g : Keystream) : Option (Action × Keystream) :=
  element? (Action.all.filter (Action.allowed alive)) g

theorem element?_enabledActions {σ : Type} (m : Model σ) (g : Keystream) :
    element? m.enabledActions g = action? m.alive g := by
  rw [Model.enabledActions_eq_filter_allowed, action?]

/-- There is always an action to choose. -/
theorem exists_action? (alive : Bool) (g : Keystream) : ∃ a g', action? alive g = some (a, g') := by
  cases h : action? alive g with
  | none =>
    rw [action?, element?_eq_none_iff] at h
    cases alive <;> exact absurd h (by decide)
  | some choice => exact ⟨choice.1, choice.2, rfl⟩

theorem allowed_of_action? {alive : Bool} {g g' : Keystream} {a : Action}
    (h : action? alive g = some (a, g')) : a.allowed alive = true :=
  (List.mem_filter.mp (mem_of_element? h)).2

end Choice

/-! ## Itineraries -/

namespace Itinerary

/-- The next `n` actions that are chosen while nothing fails. -/
def actions : Nat → Bool → Keystream → List Action
  | 0, _, _ => []
  | n + 1, alive, g =>
    match Choice.action? alive g with
    | none => []
    | some (a, g) => a :: actions n (a.leaves alive) g

theorem actions_succ {n : Nat} {alive : Bool} {g g' : Keystream} {a : Action}
    (h : Choice.action? alive g = some (a, g')) :
    actions (n + 1) alive g = a :: actions n (a.leaves alive) g' := by
  rw [actions, h]

@[simp]
theorem length_actions (n : Nat) (alive : Bool) (g : Keystream) :
    (actions n alive g).length = n := by
  induction n generalizing alive g with
  | zero => rfl
  | succ n ih =>
    obtain ⟨a, g', h⟩ := Choice.exists_action? alive g
    rw [actions_succ h, List.length_cons, ih]

/-- Fewer actions are the first of more. -/
theorem take_actions {n k : Nat} (hk : k ≤ n) (alive : Bool) (g : Keystream) :
    (actions n alive g).take k = actions k alive g := by
  induction k generalizing n alive g with
  | zero => rfl
  | succ k ih =>
    obtain ⟨n, rfl⟩ : ∃ i, n = i + 1 := ⟨n - 1, by omega⟩
    obtain ⟨a, g', h⟩ := Choice.exists_action? alive g
    rw [actions_succ h, actions_succ h, List.take_succ_cons, ih (Nat.le_of_succ_le_succ hk)]

/-- No action of an itinerary is forbidden by what the actions before it leave. -/
theorem allowed_of_getElem?_actions {n k : Nat} {alive : Bool} {g : Keystream} {a : Action}
    (h : (actions n alive g)[k]? = some a) :
    a.allowed (History.alive alive ((actions n alive g).take k)) = true := by
  induction n generalizing alive g k with
  | zero => simp [actions] at h
  | succ n ih =>
    obtain ⟨b, g', hb⟩ := Choice.exists_action? alive g
    rw [actions_succ hb] at h ⊢
    cases k with
    | zero =>
      obtain rfl : b = a := by simpa using h
      exact Choice.allowed_of_action? hb
    | succ k =>
      rw [List.take_succ_cons, History.alive_cons]
      exact ih (by simpa using h)

end Itinerary

/-! ## Walking along an itinerary -/

/-- The outcome of the last action of a walk. -/
def WalkEnd.outcome : WalkEnd → Outcome
  | .finished => .ok ()
  | .failed _ e => .error e

namespace WalkState

variable {σ : Type}

/-- The actions that a walk under way would choose in its next `n` steps if none of them failed. -/
def itinerary (s : WalkState σ) (n : Nat) : List Action :=
  Itinerary.actions n s.model.alive s.choices

theorem advance_succ_of_failure (make : Factory σ) (n : Nat) {s : WalkState σ} {a : Action}
    {g : Keystream} {e : ModelError} (hchoice : Choice.action? s.model.alive s.choices = some (a, g))
    (h : s.model.failure? a = some e) :
    ((s.advance make (n + 1)).1 = .failed a e) ∧
      (s.advance make (n + 1)).2.model = s.model ∧
      (s.advance make (n + 1)).2.trace = s.trace.push a ∧
      (s.advance make (n + 1)).2.log = s.log ++ (s.model.execute make a).log := by
  have hexecute := Model.execute_of_failure make h
  simp [advance, Choice.element?_enabledActions, hchoice, perform, hexecute]

theorem advance_succ_of_no_failure (make : Factory σ) (n : Nat) {s : WalkState σ} {a : Action}
    {g : Keystream} (hchoice : Choice.action? s.model.alive s.choices = some (a, g))
    (h : s.model.failure? a = none) :
    ∃ t : WalkState σ, s.advance make (n + 1) = t.advance make n ∧
      t.choices = g ∧ t.model = s.model.next make a ∧ t.trace = s.trace.push a ∧
      t.log = s.log ++ (s.model.execute make a).log := by
  have hexecute := Model.execute_of_no_failure make h
  refine ⟨(s.perform make a g).2, ?_, rfl, ?_, rfl, rfl⟩
  · simp [advance, Choice.element?_enabledActions, hchoice, perform, hexecute]
  · simp [perform, hexecute]

/-- Walking on is running the itinerary as a script: the outcome and the model are those of the
script, and the actions that the script comes to are added to the trace. -/
theorem advance_eq_runScript (make : Factory σ) (n : Nat) (s : WalkState σ) :
    ((s.advance make n).1.outcome, (s.advance make n).2.model) =
        (Model.runScript make (s.itinerary n) s.model).value ∧
      (s.advance make n).2.trace.toList =
        s.trace.toList ++ Model.attempts make (s.itinerary n) s.model := by
  induction n generalizing s with
  | zero => simp [advance, itinerary, Itinerary.actions, WalkEnd.outcome, Model.attempts]
  | succ n ih =>
    obtain ⟨a, g, hchoice⟩ := Choice.exists_action? s.model.alive s.choices
    have hroute : s.itinerary (n + 1) = a :: Itinerary.actions n (a.leaves s.model.alive) g :=
      Itinerary.actions_succ hchoice
    cases hfail : s.model.failure? a with
    | some e =>
      obtain ⟨hend, hmodel, htrace, -⟩ :=
        advance_succ_of_failure make n hchoice hfail
      rw [hroute, Model.runScript_cons_of_failure hfail, Model.attempts_cons_of_failure hfail, hend,
        hmodel, htrace]
      exact ⟨rfl, Array.toList_push⟩
    | none =>
      obtain ⟨t, hadvance, hchoices, hmodel, htrace, -⟩ :=
        advance_succ_of_no_failure make n hchoice hfail
      have hrest : t.itinerary n = Itinerary.actions n (a.leaves s.model.alive) g := by
        rw [itinerary, hmodel, hchoices, Model.alive_next]
      obtain ⟨hvalue, hactions⟩ := ih t
      rw [hroute, Model.runScript_cons_of_no_failure hfail,
        Model.attempts_cons_of_no_failure hfail, hadvance, ← hmodel, ← hrest]
      refine ⟨hvalue, ?_⟩
      rw [hactions, htrace, Array.toList_push, List.append_assoc, List.singleton_append]

end WalkState

/-! ## Reports -/

/-- The verdict on a walk that came to the actions of a trace, from the outcome of the last one. -/
def Verdict.ofOutcome (trace : List Action) : Outcome → Verdict
  | .ok () => .pass
  | .error e => .fail (UInt64.ofNat (trace.length - 1)) e.message

theorem Verdict.ofOutcome_eq_pass_iff {trace : List Action} {o : Outcome} :
    ofOutcome trace o = .pass ↔ o = .ok () := by
  cases o <;> simp [ofOutcome]

namespace WalkPlan

variable {σ : Type}

/-- The actions that a walk would do on a model if none of them failed. -/
def itinerary (plan : WalkPlan) (m : Model σ) : List Action :=
  Itinerary.actions plan.steps.toNat m.alive (Keystream.ofSeed plan.seed)

@[simp]
theorem length_itinerary (plan : WalkPlan) (m : Model σ) :
    (plan.itinerary m).length = plan.steps.toNat :=
  Itinerary.length_actions ..

/-- No action of an itinerary is forbidden when it is come to. -/
theorem allowed_of_getElem?_itinerary {plan : WalkPlan} {m : Model σ} {k : Nat} {a : Action}
    (h : (plan.itinerary m)[k]? = some a) :
    a.allowed (m.aliveAfter ((plan.itinerary m).take k)) = true :=
  Itinerary.allowed_of_getElem?_actions h

/-- A walk runs its itinerary as a script and reports the actions that the script comes to. -/
theorem run_value (plan : WalkPlan) (make : Factory σ) (m : Model σ) :
    (plan.run make m).value =
      ({ seed := plan.seed
         stepsExecuted := UInt64.ofNat (Model.attempts make (plan.itinerary m) m).length
         trace := Model.attempts make (plan.itinerary m) m
         verdict := .ofOutcome (Model.attempts make (plan.itinerary m) m)
           (Model.runScript make (plan.itinerary m) m).value.1 },
        (Model.runScript make (plan.itinerary m) m).value.2) := by
  obtain ⟨hvalue, htrace⟩ := (plan.start m).advance_eq_runScript make plan.steps.toNat
  have hroute : (plan.start m).itinerary plan.steps.toNat = plan.itinerary m := rfl
  have hmodel : (plan.start m).model = m := rfl
  rw [hroute, hmodel] at hvalue htrace
  have htrace' : ((plan.start m).advance make plan.steps.toNat).2.trace.toList =
      Model.attempts make (plan.itinerary m) m := by
    rw [htrace]
    rfl
  have hverdict : verdict ((plan.start m).advance make plan.steps.toNat).2.trace
      ((plan.start m).advance make plan.steps.toNat).1 =
      .ofOutcome (Model.attempts make (plan.itinerary m) m)
        (Model.runScript make (plan.itinerary m) m).value.1 := by
    rw [← hvalue, ← htrace']
    cases ((plan.start m).advance make plan.steps.toNat).1 with
    | finished => rfl
    | failed a e => simp [verdict, Verdict.ofOutcome, WalkEnd.outcome]
  simp only [run, Logged.value_within, hverdict, htrace', ← Array.length_toList]
  rw [← hvalue]

/-- The actions of a trace are those that the itinerary comes to. -/
theorem trace_run (plan : WalkPlan) (make : Factory σ) (m : Model σ) :
    (plan.run make m).value.1.trace = Model.attempts make (plan.itinerary m) m := by
  rw [run_value]

/-- The trace does as a script what the itinerary does. -/
theorem runScript_trace_run (plan : WalkPlan) (make : Factory σ) (m : Model σ) :
    (Model.runScript make (plan.run make m).value.1.trace m).value =
      (Model.runScript make (plan.itinerary m) m).value := by
  rw [trace_run, Model.runScript_attempts]

/-- A trace is never longer than the budget, so its length is a word. -/
theorem length_attempts_lt_size (plan : WalkPlan) (make : Factory σ) (m : Model σ) :
    (Model.attempts make (plan.itinerary m) m).length < UInt64.size := by
  have hle : (Model.attempts make (plan.itinerary m) m).length ≤ plan.steps.toNat := by
    simpa using (Model.attempts_prefix make (plan.itinerary m) m).length_le
  exact hle.trans_lt plan.steps.toNat_lt

/-- The number of steps in a report is the length of the trace. -/
theorem toNat_stepsExecuted_run (plan : WalkPlan) (make : Factory σ) (m : Model σ) :
    (plan.run make m).value.1.stepsExecuted.toNat = (plan.run make m).value.1.trace.length := by
  rw [run_value]
  exact UInt64.toNat_ofNat_of_lt' (length_attempts_lt_size plan make m)

/-- A walk whose itinerary succeeds does all of it and passes. -/
theorem run_of_runs {plan : WalkPlan} {make : Factory σ} {m m' : Model σ}
    (h : Model.Runs make (plan.itinerary m) m m') :
    (plan.run make m).value.1.trace = plan.itinerary m ∧
      (plan.run make m).value.1.verdict = .pass := by
  have hvalue : (Model.runScript make (plan.itinerary m) m).value = (.ok (), m') := h
  rw [run_value, hvalue, Model.attempts_of_runs h]
  exact ⟨rfl, rfl⟩

/-- A walk that passes does its whole itinerary as a script and leaves the model that the script
leaves. -/
theorem runs_of_pass {plan : WalkPlan} {make : Factory σ} {m : Model σ}
    (h : (plan.run make m).value.1.verdict = .pass) :
    Model.Runs make (plan.itinerary m) m (plan.run make m).value.2 := by
  rw [run_value] at h ⊢
  exact Prod.ext (Verdict.ofOutcome_eq_pass_iff.mp h) rfl

/-- If the itinerary fails, the trace ends with the action that failed, and the verdict counts the
actions before it. -/
theorem run_of_failure {plan : WalkPlan} {make : Factory σ} {m m' : Model σ} {p q : List Action}
    {a : Action} {e : ModelError} (hsplit : plan.itinerary m = p ++ a :: q)
    (hruns : Model.Runs make p m m') (hfail : m'.failure? a = some e) :
    (plan.run make m).value.1.trace = p ++ [a] ∧
      ∃ step, (plan.run make m).value.1.verdict = .fail step e.message ∧ step.toNat = p.length := by
  have htrace : Model.attempts make (plan.itinerary m) m = p ++ [a] := by
    rw [hsplit, Model.attempts_of_failure hruns hfail]
  have hvalue : (Model.runScript make (plan.itinerary m) m).value = (.error e, m') := by
    rw [hsplit, Model.runScript_of_failure hruns hfail]
  have hlength : p.length < UInt64.size := by
    have hlt := length_attempts_lt_size plan make m
    rw [htrace, List.length_append] at hlt
    exact Nat.lt_of_succ_lt hlt
  rw [run_value, hvalue, htrace]
  refine ⟨rfl, UInt64.ofNat p.length, ?_, UInt64.toNat_ofNat_of_lt' hlength⟩
  simp [Verdict.ofOutcome]

end WalkPlan

end CounterWalk

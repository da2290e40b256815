import CounterWalk.Proofs.Walk.Itinerary

/-!
# Reference values that do not matter

While no counter is alive the reference value is stale: nothing asks for it, and the next counter
comes with a new one.  So two models without a counter that are supplied alike give the same answers
for ever, whatever their reference values are, and they become the same model as soon as a counter
is made or the model is reset.  In particular a model whose counter has been destroyed cannot be
told from one that has been reset, nor from a new one.

Main definitions:

- `Model.Operation` and `Model.askAll`: what can be asked of a model, one thing after another;
- `Model.Agree`: models that differ at most in a stale reference value;
- `Model.Indistinct`: models that give the same answers to everything.

Main results:

- Theorem `Model.Agree.askAll`: models that agree give the same answers and go on to agree;
- Theorem `Model.Agree.eq_of_refreshed`: they are the same once their reference values are fresh;
- Theorem `Model.stale_expected_unobservable`: models without a counter, and what a model is worth
  after its counter has been destroyed.
-/

namespace CounterWalk

namespace Model

variable {σ : Type} {make : Factory σ} {m n : Model σ}

/-! ## Operations -/

/-- What can be asked of a model. -/
inductive Operation where
  | execute (action : Action)
  | runScript (actions : List Action)
  | walk (plan : WalkPlan)
  | reset
  | enabledActions

/-- What a model answers. -/
inductive Answer where
  | nothing
  | outcome (o : Outcome)
  | report (r : Report)
  | actions (as : List Action)

/-- Does one operation. -/
def ask (make : Factory σ) (m : Model σ) : Operation → Logged (Answer × Model σ)
  | .execute a => do
    let (outcome, m) ← m.execute make a
    return (.outcome outcome, m)
  | .runScript s => do
    let (outcome, m) ← runScript make s m
    return (.outcome outcome, m)
  | .walk plan => do
    let (report, m) ← plan.run make m
    return (.report report, m)
  | .reset => do return (.nothing, ← m.reset)
  | .enabledActions => return (.actions m.enabledActions, m)

/-- Does operations one after another. -/
def askAll (make : Factory σ) : List Operation → Model σ → Logged (List Answer × Model σ)
  | [], m => return ([], m)
  | op :: rest, m => do
    let (answer, m) ← m.ask make op
    let (answers, m) ← askAll make rest m
    return (answer :: answers, m)

/-! ## Models that agree -/

/-- Two models hold the same counter and the same supply, and the same reference value if the
counter is alive. -/
structure Agree (m n : Model σ) : Prop where
  counter : m.counter = n.counter
  supply : m.supply = n.supply
  expected : m.alive = true → m.expected = n.expected

/-- Two pieces of work give the same answer, note the same and leave models that agree. -/
structure Agreeing {α : Type} (x y : Logged (α × Model σ)) : Prop where
  log : x.log = y.log
  answer : x.value.1 = y.value.1
  model : x.value.2.Agree y.value.2

theorem Agree.refl (m : Model σ) : m.Agree m :=
  ⟨rfl, rfl, fun _ => rfl⟩

theorem Agreeing.refl {α : Type} (x : Logged (α × Model σ)) : Agreeing x x :=
  ⟨rfl, rfl, .refl _⟩

theorem Agreeing.bind {α β : Type} {x y : Logged (α × Model σ)}
    {f : α × Model σ → Logged (β × Model σ)} (h : Agreeing x y)
    (hf : ∀ a m n, Agree m n → Agreeing (f (a, m)) (f (a, n))) : Agreeing (x >>= f) (y >>= f) := by
  obtain ⟨⟨a, m⟩, log⟩ := x
  obtain ⟨⟨b, n⟩, log'⟩ := y
  obtain ⟨rfl, rfl, hmodel⟩ := h
  obtain ⟨hlog, hanswer, hagree⟩ := hf a m n hmodel
  exact ⟨congrArg (log ++ ·) hlog, hanswer, hagree⟩

theorem Agreeing.within {α : Type} {x y : Logged (α × Model σ)} (h : Agreeing x y) (s : Span) :
    Agreeing (x.within s) (y.within s) :=
  ⟨congrArg (Log.within s) h.log, h.answer, h.model⟩

namespace Agree

theorem alive_eq (h : Agree m n) : m.alive = n.alive := by
  rw [alive, alive, h.counter]

/-- Models with a counter that agree are the same. -/
theorem eq_of_alive (h : Agree m n) (halive : m.alive = true) : m = n := by
  obtain ⟨counter, expected, supply⟩ := m
  obtain ⟨counter', expected', supply'⟩ := n
  obtain ⟨rfl, rfl, hexpected⟩ := h
  obtain rfl : expected = expected' := hexpected halive
  rfl

/-- What is done without a counter does not depend on the reference value. -/
theorem execute (h : Agree m n) (a : Action) : Agreeing (m.execute make a) (n.execute make a) := by
  cases halive : m.alive with
  | true =>
    rw [h.eq_of_alive halive]
    exact .refl _
  | false =>
    obtain ⟨counter, expected, supply⟩ := m
    obtain ⟨counter', expected', supply'⟩ := n
    obtain ⟨rfl, rfl, -⟩ := h
    obtain rfl : counter = none := by simpa [alive] using halive
    have hdead : Agree { expected, supply } { expected := expected', supply } :=
      ⟨rfl, rfl, by rintro ⟨⟩⟩
    cases a with
    | create => exact .refl _
    | destroy | increment | reset | count => exact ⟨rfl, rfl, hdead⟩

theorem runScript (h : Agree m n) (s : List Action) :
    Agreeing (runScript make s m) (runScript make s n) := by
  induction s generalizing m n with
  | nil => exact ⟨rfl, rfl, h⟩
  | cons a s ih =>
    refine (h.execute a).bind fun outcome m n h => ?_
    cases outcome with
    | ok _ => exact ih h
    | error e => exact ⟨rfl, rfl, h⟩

end Agree

end Model

/-! ## Walks -/

namespace WalkState

variable {σ : Type} {make : Factory σ} {s t : WalkState σ}

/-- Two walks under way that have done the same and will choose alike, on models that agree. -/
structure Agree (s t : WalkState σ) : Prop where
  choices : s.choices = t.choices
  trace : s.trace = t.trace
  log : s.log = t.log
  model : s.model.Agree t.model

theorem Agree.perform (h : Agree s t) (make : Factory σ) (a : Action) (g : Keystream) :
    (s.perform make a g).1 = (t.perform make a g).1 ∧
      Agree (s.perform make a g).2 (t.perform make a g).2 := by
  obtain ⟨choices, m, trace, log⟩ := s
  obtain ⟨choices', n, trace', log'⟩ := t
  obtain ⟨-, rfl, rfl, hmodel⟩ := h
  have hexecute : Model.Agreeing (m.execute make a) (n.execute make a) := hmodel.execute a
  refine ⟨hexecute.answer, rfl, rfl, ?_, hexecute.model⟩
  simp only [WalkState.perform, hexecute.log]

/-- Walks that agree go on to agree and end alike. -/
theorem Agree.advance (h : Agree s t) (make : Factory σ) (n : Nat) :
    (s.advance make n).1 = (t.advance make n).1 ∧
      Agree (s.advance make n).2 (t.advance make n).2 := by
  induction n generalizing s t with
  | zero => exact ⟨rfl, h⟩
  | succ n ih =>
    have henabled : s.model.enabledActions = t.model.enabledActions := by
      rw [Model.enabledActions_eq_filter_allowed, Model.enabledActions_eq_filter_allowed,
        h.model.alive_eq]
    rw [WalkState.advance, WalkState.advance, henabled, h.choices]
    cases Choice.element? t.model.enabledActions t.choices with
    | none => exact ⟨rfl, h⟩
    | some choice =>
      obtain ⟨a, g⟩ := choice
      obtain ⟨houtcome, hnext⟩ := h.perform make a g
      cases hs : s.perform make a g with
      | mk outcome s' =>
        cases ht : t.perform make a g with
        | mk outcome' t' =>
          rw [hs, ht] at houtcome hnext
          obtain rfl : outcome = outcome' := houtcome
          simp only [hs, ht]
          cases outcome with
          | ok _ => exact ih hnext
          | error e => exact ⟨rfl, hnext⟩

end WalkState

namespace Model

variable {σ : Type} {make : Factory σ} {m n : Model σ}

namespace Agree

theorem walk (h : Agree m n) (plan : WalkPlan) : Agreeing (plan.run make m) (plan.run make n) := by
  have hstart : WalkState.Agree (plan.start m) (plan.start n) := ⟨rfl, rfl, rfl, h⟩
  obtain ⟨hend, hstate⟩ := hstart.advance make plan.steps.toNat
  refine Agreeing.within ⟨?_, ?_, hstate.model⟩ (.walk plan)
  · simp only [hend, hstate.log, hstate.trace]
  · simp only [hend, hstate.trace]

/-- Models that agree give the same answer to an operation and go on to agree. -/
theorem ask (h : Agree m n) (op : Operation) : Agreeing (m.ask make op) (n.ask make op) := by
  cases op with
  | execute a => exact (h.execute a).bind fun _ _ _ h => ⟨rfl, rfl, h⟩
  | runScript s => exact (h.runScript s).bind fun _ _ _ h => ⟨rfl, rfl, h⟩
  | walk plan => exact (h.walk plan).bind fun _ _ _ h => ⟨rfl, rfl, h⟩
  | reset => exact ⟨rfl, rfl, rfl, h.supply, fun _ => rfl⟩
  | enabledActions =>
    have hactions : m.enabledActions = n.enabledActions := by
      rw [enabledActions_eq_filter_allowed, enabledActions_eq_filter_allowed, h.alive_eq]
    exact ⟨rfl, congrArg Answer.actions hactions, h⟩

/-- Models that agree give the same answers and go on to agree. -/
theorem askAll (h : Agree m n) (ops : List Operation) :
    Agreeing (askAll make ops m) (askAll make ops n) := by
  induction ops generalizing m n with
  | nil => exact ⟨rfl, rfl, h⟩
  | cons op ops ih =>
    exact (h.ask op).bind fun answer m n h => (ih h).bind fun answers m n h => ⟨rfl, rfl, h⟩

end Agree

/-! ## Fresh reference values -/

/-- The actions of a script that are done: those before the first that fails. -/
def completed (make : Factory σ) : List Action → Model σ → List Action
  | [], _ => []
  | a :: rest, m =>
    match (m.execute make a).value with
    | (.ok (), m) => a :: completed make rest m
    | (.error _, _) => []

theorem completed_cons_of_failure {a : Action} {s : List Action} {e : ModelError}
    (h : m.failure? a = some e) : completed make (a :: s) m = [] := by
  rw [completed, execute_of_failure make h]

/-- The actions that are done by an operation. Those of a walk are found by doing its trace. -/
def Operation.completed (make : Factory σ) (m : Model σ) : Operation → List Action
  | .execute a => Model.completed make [a] m
  | .runScript s => Model.completed make s m
  | .walk plan => Model.completed make (plan.run make m).value.1.trace m
  | .reset | .enabledActions => []

/-- An operation resets the model or makes a counter, so that the reference value is no more the one
from before. -/
def Operation.Refreshes (make : Factory σ) (m : Model σ) (op : Operation) : Prop :=
  op = .reset ∨ .create ∈ op.completed make m

/-- One of some operations, done one after another, resets the model or makes a counter. -/
def Refreshed (make : Factory σ) : List Operation → Model σ → Prop
  | [], _ => False
  | op :: rest, m => op.Refreshes make m ∨ Refreshed make rest (m.ask make op).value.2

namespace Agree

theorem failure?_eq (h : Agree m n) (a : Action) : m.failure? a = n.failure? a := by
  cases halive : m.alive with
  | true => rw [h.eq_of_alive halive]
  | false =>
    have halive' : n.alive = false := h.alive_eq ▸ halive
    cases a with
    | create =>
      rw [failure?_of_allowed, failure?_of_allowed] <;> simp [halive, halive', Action.allowed]
    | destroy | increment | reset | count =>
      rw [failure?_of_forbidden, failure?_of_forbidden] <;> simp [halive, halive', Action.allowed]

/-- An action that does not fail leaves one and the same model: without a counter that can only be
one that makes a counter. -/
theorem next_eq (h : Agree m n) {a : Action} (hstep : m.failure? a = none) :
    m.next make a = n.next make a := by
  cases halive : m.alive with
  | true => rw [h.eq_of_alive halive]
  | false =>
    have hallowed := allowed_of_no_failure hstep
    rw [halive] at hallowed
    cases a with
    | create => rw [next, next, h.supply]
    | destroy | increment | reset | count => cases hallowed

/-- A script that does something leaves one and the same model. -/
theorem runScript_eq (h : Agree m n) {s : List Action} {a : Action}
    (ha : a ∈ completed make s m) :
    (Model.runScript make s m).value = (Model.runScript make s n).value := by
  cases s with
  | nil => cases ha
  | cons b s =>
    cases hstep : m.failure? b with
    | some e =>
      rw [completed_cons_of_failure hstep] at ha
      cases ha
    | none =>
      rw [runScript_cons_of_no_failure hstep,
        runScript_cons_of_no_failure (h.failure?_eq b ▸ hstep), h.next_eq hstep]

/-- An operation that refreshes the reference value leaves one and the same model. -/
theorem eq_of_refreshes (h : Agree m n) {op : Operation} (hop : op.Refreshes make m) :
    (m.ask make op).value.2 = (n.ask make op).value.2 := by
  have hmodel : ∀ s : List Action, .create ∈ completed make s m →
      (Model.runScript make s m).value.2 = (Model.runScript make s n).value.2 :=
    fun s hs => congrArg Prod.snd (h.runScript_eq hs)
  rcases hop with rfl | hcreate
  · exact congrArg (fun supply => ({ supply } : Model σ)) h.supply
  · cases op with
    | execute a =>
      change (m.execute make a).value.2 = (n.execute make a).value.2
      cases hstep : m.failure? a with
      | some e =>
        rw [Operation.completed, completed_cons_of_failure hstep] at hcreate
        cases hcreate
      | none =>
        rw [execute_of_no_failure make hstep,
          execute_of_no_failure make (h.failure?_eq a ▸ hstep), h.next_eq hstep]
    | runScript s => exact hmodel s hcreate
    | walk plan =>
      -- The trace of a walk does as a script what the walk does, and both walks have one trace.
      have hreplay : ∀ k : Model σ, (plan.run make k).value.2 =
          (Model.runScript make (plan.run make k).value.1.trace k).value.2 := by
        intro k
        rw [WalkPlan.runScript_trace_run, WalkPlan.run_value]
      change (plan.run make m).value.2 = (plan.run make n).value.2
      rw [hreplay m, hreplay n, ← (h.walk plan).answer]
      exact hmodel _ hcreate
    | reset | enabledActions => cases hcreate

/-- Models that agree are the same once their reference values are fresh. -/
theorem eq_of_refreshed (h : Agree m n) {ops : List Operation} (hops : Refreshed make ops m) :
    (Model.askAll make ops m).value.2 = (Model.askAll make ops n).value.2 := by
  induction ops generalizing m n with
  | nil => cases hops
  | cons op ops ih =>
    rcases hops with hop | hops
    · have hnext := h.eq_of_refreshes hop
      simp only [Model.askAll, Logged.value_bind, Logged.value_pure, hnext]
    · exact ih (h.ask op).model hops

end Agree

/-! ## What cannot be told apart -/

/-- Two models give the same answers to everything that they are asked, note the same while they do
it, and hold the same counter and the same supply afterwards, wherever the questions end. -/
def Indistinct (make : Factory σ) (m n : Model σ) : Prop :=
  ∀ ops, (askAll make ops m).value.1 = (askAll make ops n).value.1 ∧
    (askAll make ops m).log = (askAll make ops n).log ∧
    (askAll make ops m).value.2.counter = (askAll make ops n).value.2.counter ∧
    (askAll make ops m).value.2.supply = (askAll make ops n).value.2.supply

theorem Agree.indistinct (h : Agree m n) : Indistinct make m n := by
  intro ops
  obtain ⟨hlog, hanswers, hmodel⟩ := h.askAll ops
  exact ⟨hanswers, hlog, hmodel.counter, hmodel.supply⟩

/-- Without a counter the reference value cannot be observed, and it is the same from the first
counter on that is made and from the first reset of the model on.  So a live counter can be
destroyed, dropped by a reset or left behind for a new model with the supply as it is, and nothing
that follows shows which of the three was done. -/
theorem stale_expected_unobservable (make : Factory σ) (supply : σ) (e e' : Int64) :
    Indistinct make { supply, expected := e } { supply, expected := e' } ∧
    (∀ ops, Refreshed make ops { supply, expected := e } →
      (askAll make ops { supply, expected := e }).value.2.expected =
        (askAll make ops { supply, expected := e' }).value.2.expected) ∧
    ∀ c : Counter,
      let m : Model σ := { counter := some c, expected := e, supply }
      (m.execute make .destroy).value.1 = .ok () ∧
        Indistinct make (m.execute make .destroy).value.2 m.reset.value ∧
        Indistinct make (m.execute make .destroy).value.2 { supply } := by
  have hagree : ∀ e e' : Int64,
      Agree { supply, expected := e } ({ supply, expected := e' } : Model σ) :=
    fun e e' => ⟨rfl, rfl, by rintro ⟨⟩⟩
  refine ⟨(hagree e e').indistinct, ?_, ?_⟩
  · intro ops hops
    exact congrArg Model.expected ((hagree e e').eq_of_refreshed hops)
  · intro c m
    exact ⟨rfl, (hagree e 0).indistinct, (hagree e 0).indistinct⟩

end Model

end CounterWalk

import CounterWalk.Proofs.Random.Choice
import CounterWalk.Proofs.Walk.Legality

/-!
# Steps are chosen without bias

At each step a walk takes words from its stream up to the first that is kept, and this word alone
decides among the actions that are allowed.  No action is listed twice, so each is stood for by as
many words as any other, and words for what is not allowed do not exist.

Main results:

- Theorem `Model.isUniform_enabledActions`: the choice among the actions a model allows is fair.
- Theorem `WalkState.element?_of_getElem?_attempts`: the actions of a walk are chosen one after
  another from what the walk has come to.
- Theorem `WalkPlan.run_chooses_uniformly`: the fairness of every choice, and the word that decides
  each step of a walk.
-/

namespace CounterWalk

namespace Model

variable {σ : Type}

theorem nodup_enabledActions (m : Model σ) : m.enabledActions.Nodup :=
  List.Nodup.filter _ (by decide)

theorem length_enabledActions_lt (m : Model σ) : m.enabledActions.length < UInt32.size :=
  (List.length_filter_le _ _).trans_lt (by decide)

/-- The choice among the actions that a model allows is fair. -/
theorem isUniform_enabledActions (m : Model σ) : Choice.IsUniform m.enabledActions :=
  Choice.isUniform_of_nodup m.nodup_enabledActions m.length_enabledActions_lt

end Model

/-! ## The choices of a walk under way -/

namespace WalkState

variable {σ : Type} {make : Factory σ} {s : WalkState σ} {a : Action} {g : Keystream}

theorem advance_succ_eq (h : Choice.element? s.model.enabledActions s.choices = some (a, g))
    (hok : s.model.failure? a = none) (n : Nat) :
    s.advance make (n + 1) = (s.perform make a g).2.advance make n := by
  have hexecute := Model.execute_of_no_failure make hok
  simp [advance, h, perform, hexecute]

theorem choices_advance_one (h : Choice.element? s.model.enabledActions s.choices = some (a, g)) :
    (s.advance make 1).2.choices = g := by
  cases hvalue : (s.model.execute make a).value with
  | mk outcome m => cases outcome <;> simp [advance, h, perform, hvalue]

/-- The actions of a walk are chosen one after another, each from the model and the stream that the
walk has come to. -/
theorem element?_of_getElem?_attempts {n k : Nat}
    (h : (Model.attempts make (s.itinerary n) s.model)[k]? = some a) :
    Choice.element? (s.advance make k).2.model.enabledActions (s.advance make k).2.choices =
      some (a, (s.advance make (k + 1)).2.choices) := by
  -- On the budget: the first action is chosen here and now, a later one in the walk that goes on
  -- after the first, which is not there if the first has failed.
  induction n generalizing s k with
  | zero => simp [itinerary, Itinerary.actions, Model.attempts] at h
  | succ n ih =>
    obtain ⟨b, g, haction⟩ := Choice.exists_action? s.model.alive s.choices
    have hchoice : Choice.element? s.model.enabledActions s.choices = some (b, g) := by
      rw [Choice.element?_enabledActions, haction]
    rw [itinerary, Itinerary.actions_succ haction] at h
    cases k with
    | zero =>
      obtain rfl : b = a := by simpa [Model.attempts] using h
      rw [choices_advance_one hchoice]
      exact hchoice
    | succ k =>
      cases hfail : s.model.failure? b with
      | some e => simp [Model.attempts_cons_of_failure hfail] at h
      | none =>
        have hmodel : (s.perform make b g).2.model = s.model.next make b := by
          rw [perform, Model.execute_of_no_failure make hfail]
        have hrest : (s.perform make b g).2.itinerary n =
            Itinerary.actions n (b.leaves s.model.alive) g := by
          rw [itinerary, hmodel, Model.alive_next, perform]
        rw [Model.attempts_cons_of_no_failure hfail, List.getElem?_cons_succ, ← hmodel,
          ← hrest] at h
        rw [advance_succ_eq hchoice hfail, advance_succ_eq hchoice hfail]
        exact ih h

/-- A walk goes on in a stream that returns. -/
theorem returns_choices_advance (make : Factory σ) (n : Nat) (s : WalkState σ)
    (h : s.choices.Returns) : (s.advance make n).2.choices.Returns := by
  induction n generalizing s with
  | zero => exact h
  | succ n ih =>
    obtain ⟨a, g, haction⟩ := Choice.exists_action? s.model.alive s.choices
    have hchoice : Choice.element? s.model.enabledActions s.choices = some (a, g) := by
      rw [Choice.element?_enabledActions, haction]
    have hreturns : g.Returns := Choice.returns_of_element? hchoice h
    cases hvalue : (s.model.execute make a).value with
    | mk outcome m =>
      cases outcome with
      | error e => simpa [advance, hchoice, perform, hvalue] using hreturns
      | ok _ =>
        have hadvance : s.advance make (n + 1) = (s.perform make a g).2.advance make n := by
          simp [advance, hchoice, perform, hvalue]
        rw [hadvance]
        exact ih _ hreturns

end WalkState

namespace WalkPlan

variable {σ : Type}

/-- The stream from which a walk chooses its action number `k`, counted from zero. -/
def choicesAt (plan : WalkPlan) (make : Factory σ) (m : Model σ) (k : Nat) : Keystream :=
  ((plan.start m).advance make k).2.choices

/-- Every action of a trace is chosen from what the model allows with the stream at that step. -/
theorem element?_of_getElem?_trace {plan : WalkPlan} {make : Factory σ} {m : Model σ} {k : Nat}
    {a : Action} (ha : (plan.run make m).value.1.trace[k]? = some a) :
    Choice.element? (plan.modelAt make m k).enabledActions (plan.choicesAt make m k) =
      some (a, plan.choicesAt make m (k + 1)) := by
  rw [trace_run] at ha
  exact WalkState.element?_of_getElem?_attempts (s := plan.start m) ha

/-- The first word that is kept decides a step of a walk. -/
theorem picked?_of_getElem?_trace {plan : WalkPlan} {make : Factory σ} {m : Model σ} {k j i : Nat}
    {a : Action} (ha : (plan.run make m).value.1.trace[k]? = some a)
    (h : Choice.FirstKeptAt (plan.modelAt make m k).enabledActions.length
      (plan.choicesAt make m k) j i) :
    Choice.picked? (plan.modelAt make m k).enabledActions ((plan.choicesAt make m k).wordAfter j) =
        some a ∧
      plan.choicesAt make m (k + 1) = (plan.choicesAt make m k).after (j + 1) := by
  have hreturns : (plan.choicesAt make m k).Returns :=
    WalkState.returns_choices_advance make k _ (Keystream.returns_ofSeed plan.seed)
  obtain ⟨b, hpicked, hchoice⟩ := Choice.element?_eq (Model.enabledActions_ne_nil _)
    (Model.length_enabledActions_lt _) hreturns h
  rw [element?_of_getElem?_trace ha] at hchoice
  obtain ⟨rfl, hleft⟩ := Prod.mk.inj (Option.some.inj hchoice)
  exact ⟨hpicked, hleft⟩

/-- Choices are unbiased.  A word that is kept stands for a number below `n`, and each of these is
stood for by the same number of words.  In every model each action that is allowed is stood for by
as many words as any other, what is not allowed by none, and no action is listed twice.  A step of a
walk is decided by the first word of its stream that is kept, and the next step begins with the word
after it. -/
theorem run_chooses_uniformly :
    (∀ n, 0 < n → n < UInt32.size →
      (∀ w i, Choice.pick? n w = some i → i < n) ∧
        ∀ i < n, {w | Choice.pick? n w = some i}.ncard = 2 ^ Choice.leadingZeros n) ∧
    (∀ m : Model σ, Choice.IsUniform m.enabledActions) ∧
    ∀ (plan : WalkPlan) (make : Factory σ) (m : Model σ) (k : Nat) (a : Action),
      (plan.run make m).value.1.trace[k]? = some a →
        let allowed := (plan.modelAt make m k).enabledActions
        let choices := plan.choicesAt make m k
        a ∈ allowed ∧ ∀ j i, Choice.FirstKeptAt allowed.length choices j i →
          Choice.picked? allowed (choices.wordAfter j) = some a ∧
            plan.choicesAt make m (k + 1) = choices.after (j + 1) := by
  refine ⟨?_, Model.isUniform_enabledActions, ?_⟩
  · intro n hn hsize
    exact ⟨fun w i h => Choice.lt_of_pick? hn hsize h, fun i hi => Choice.ncard_pick? hn hsize hi⟩
  · intro plan make m k a ha allowed choices
    exact ⟨mem_enabledActions_modelAt ha, fun j i h => picked?_of_getElem?_trace ha h⟩

/-- The third step of this walk throws three words away.  The fourth stands for the last of the four
actions that are allowed. -/
theorem run_chooses_uniformly_after_three_words :
    let plan : WalkPlan := ⟨6, 7⟩
    let m : Model Unit := { counter := some ⟨0⟩, supply := () }
    let choices := plan.choicesAt (Factory.constant 0) m 2
    let allowed : List Action := [.destroy, .increment, .reset, .count]
    {w | Choice.pick? 3 w = some 2}.ncard = 2 ^ 30 ∧
      (plan.run (Factory.constant 0) m).value.1.trace[2]? = some .count ∧
      Choice.FirstKeptAt 4 choices 3 3 ∧
      Choice.picked? allowed (choices.wordAfter 3) = some .count ∧
      plan.choicesAt (Factory.constant 0) m 3 = choices.after 4 := by
  intro plan m choices allowed
  obtain ⟨hnumbers, -, hsteps⟩ := run_chooses_uniformly (σ := Unit)
  have htrace : (plan.run (Factory.constant 0) m).value.1.trace[2]? = some .count := by
    decide +kernel
  have hallowed : (plan.modelAt (Factory.constant 0) m 2).enabledActions = allowed := by
    decide +kernel
  have hfirst : Choice.FirstKeptAt 4 choices 3 3 :=
    ⟨by decide +kernel, by decide +kernel⟩
  have hzeros : Choice.leadingZeros 3 = 30 := by decide +kernel
  obtain ⟨-, hword⟩ := hsteps plan (Factory.constant 0) m 2 .count htrace
  rw [hallowed] at hword
  obtain ⟨hpicked, hleft⟩ := hword 3 3 hfirst
  obtain ⟨-, hcard⟩ := hnumbers 3 (by decide) (by decide)
  rw [← hzeros]
  exact ⟨hcard 2 (by decide), htrace, hfirst, hpicked, hleft⟩

end WalkPlan

end CounterWalk

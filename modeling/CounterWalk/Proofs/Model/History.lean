import CounterWalk.Proofs.Model.Execution
import Mathlib.Data.List.DropRight

/-!
# What a history leaves

A history is the list of actions that were done on a model, none of which failed.  The state after
it can be read off the list: the last `create` or `destroy` says whether a counter is alive, the
actions since the last `create` or `reset` say what the reference value is, and the counter differs
from the reference value by a drift that was fixed when the counter was made and that only a `reset`
takes away.

Main results:

- Theorem `Model.failure?_after`: why an action fails after a history.
- Theorem `Model.next_after`: an action that does not fail adds itself to the history.
- Theorem `Model.after_nil`: the empty history leaves the model as it was.
-/

namespace CounterWalk

namespace Factory

variable {σ : Type}

/-- What the supply has become when `n` counters have been made. -/
def supplyAt (make : Factory σ) (supply : σ) : Nat → σ
  | 0 => supply
  | n + 1 => (make (supplyAt make supply n)).value.2

/-- The starting value of the counter with number `n`, counted from zero. -/
def startAt (make : Factory σ) (supply : σ) (n : Nat) : Int64 :=
  (make (supplyAt make supply n)).value.1.value

/-- All counters start at the same value. -/
def constant (v : Int64) : Factory Unit := fun _ => return (⟨v⟩, ())

@[simp]
theorem startAt_constant (v : Int64) (n : Nat) : (constant v).startAt () n = v :=
  rfl

end Factory

/-! ## Reading a history -/

namespace History

/-- Whether a counter is alive after a history, from whether one was alive before it. -/
def alive (start : Bool) (p : List Action) : Bool :=
  match (p.filter fun a => a = .create ∨ a = .destroy).getLast? with
  | none => start
  | some a => a = .create

/-- The actions after the last `create`; all of them if there is none. -/
def sinceCreate (p : List Action) : List Action := p.rtakeWhile (· ≠ .create)

/-- The actions after the last that took the reference value to zero; all of them if none did. -/
def sinceZero (p : List Action) : List Action := p.rtakeWhile fun a => a ≠ .create ∧ a ≠ .reset

/-- The reference value after a history, from the one before it. -/
def expected (start : Int64) (p : List Action) : Int64 :=
  (if .create ∈ p ∨ .reset ∈ p then 0 else start) +
    Int64.ofNat ((sinceZero p).count .increment)

/-- How far the live counter is ahead of the reference value after a history, from how far it was
before it and from the starting values of the counters that are made. -/
def drift (start : Int64) (values : Nat → Int64) (p : List Action) : Int64 :=
  if .reset ∈ sinceCreate p then 0
  else if .create ∈ p then values (p.count .create - 1)
  else start

@[simp]
theorem alive_nil (start : Bool) : alive start [] = start :=
  rfl

@[simp]
theorem expected_nil (start : Int64) : expected start [] = start := by
  simp [expected, sinceZero]

@[simp]
theorem drift_nil (start : Int64) (values : Nat → Int64) : drift start values [] = start := by
  simp [drift, sinceCreate]

/-- Only `create` and `destroy` change whether a counter is alive. -/
theorem alive_concat (start : Bool) (p : List Action) (a : Action) :
    alive start (p ++ [a]) = a.leaves (alive start p) := by
  cases a <;> simp [alive, Action.leaves]

theorem alive_cons (start : Bool) (a : Action) (p : List Action) :
    alive start (a :: p) = alive (a.leaves start) p := by
  induction p using List.reverseRecOn with
  | nil => simpa using alive_concat start [] a
  | append_singleton p b ih => rw [← List.cons_append, alive_concat, alive_concat, ih]

/-- The reference value moves with `increment` and starts again with `create` and `reset`. -/
theorem expected_concat (start : Int64) (p : List Action) (a : Action) :
    expected start (p ++ [a]) =
      match a with
      | .create | .reset => 0
      | .increment => expected start p + 1
      | .destroy | .count => expected start p := by
  cases a with
  | create => simp [expected, sinceZero]
  | destroy => simp [expected, sinceZero]
  | increment => simp [expected, sinceZero, Int64.add_assoc]
  | reset => simp [expected, sinceZero]
  | count => simp [expected, sinceZero]

/-- The drift is fixed by `create`, taken away by `reset` and touched by nothing else. -/
theorem drift_concat (start : Int64) (values : Nat → Int64) (p : List Action) (a : Action) :
    drift start values (p ++ [a]) =
      match a with
      | .create => values (p.count .create)
      | .reset => 0
      | .destroy | .increment | .count => drift start values p := by
  cases a <;> simp [drift, sinceCreate]

/-! ## Histories with a creation in them -/

/-- Without a counter at the start, one is alive only if one was made. -/
theorem create_mem_of_alive {p : List Action} (h : alive false p = true) : .create ∈ p := by
  induction p using List.reverseRecOn with
  | nil => simp at h
  | append_singleton p a ih =>
    rw [alive_concat] at h
    cases a with
    | create => simp
    | destroy => simp [Action.leaves] at h
    | increment => exact List.mem_append_left _ (ih h)
    | reset => exact List.mem_append_left _ (ih h)
    | count => exact List.mem_append_left _ (ih h)

/-- A history in which a counter was made splits at the last `create`. -/
theorem exists_last_create {p : List Action} (h : .create ∈ p) :
    ∃ q r, p = q ++ .create :: r ∧ .create ∉ r := by
  induction p using List.reverseRecOn with
  | nil => simp at h
  | append_singleton p a ih =>
    by_cases ha : a = .create
    · exact ⟨p, [], by rw [ha], List.not_mem_nil⟩
    · have hp : .create ∈ p := by simpa [Ne.symm ha] using h
      obtain ⟨q, r, rfl, hr⟩ := ih hp
      refine ⟨q, r ++ [a], by simp, ?_⟩
      simpa [Ne.symm ha] using hr

theorem rtakeWhile_append_cons_of_neg {α : Type} {P : α → Bool} {q r : List α} {a : α}
    (ha : P a = false) (hr : ∀ b ∈ r, P b = true) : (q ++ a :: r).rtakeWhile P = r := by
  induction r using List.reverseRecOn with
  | nil => simp [ha]
  | append_singleton r b ih =>
    have hb : P b = true := hr b (by simp)
    have hrest : (q ++ a :: r).rtakeWhile P = r := ih fun c hc => hr c (List.mem_append_left _ hc)
    rw [← List.cons_append, ← List.append_assoc, List.rtakeWhile_concat_pos _ _ _ hb, hrest]

/-- The last counter that was made keeps its starting value as drift until a `reset`. -/
theorem drift_append_create (start : Int64) (values : Nat → Int64) (q : List Action)
    {r : List Action} (hr : .create ∉ r) :
    drift start values (q ++ .create :: r) =
      if .reset ∈ r then 0 else values (q.count .create) := by
  have hsince : sinceCreate (q ++ .create :: r) = r := by
    apply rtakeWhile_append_cons_of_neg (by decide)
    intro b hb
    have hne : b ≠ .create := fun h => hr (h ▸ hb)
    simpa using hne
  have hcount : (q ++ .create :: r).count .create - 1 = q.count .create := by
    simp [List.count_eq_zero_of_not_mem hr]
  rw [drift, hsince, hcount]
  simp

/-- With neither `create` nor `reset` since the last counter was made, the reference value is the
number of increments since then. -/
theorem expected_append_create (start : Int64) (q : List Action) {r : List Action}
    (hcreate : .create ∉ r) (hreset : .reset ∉ r) :
    expected start (q ++ .create :: r) = Int64.ofNat (r.count .increment) := by
  have hsince : sinceZero (q ++ .create :: r) = r := by
    apply rtakeWhile_append_cons_of_neg (by decide)
    intro b hb
    have hne : b ≠ .create ∧ b ≠ .reset :=
      ⟨fun h => hcreate (h ▸ hb), fun h => hreset (h ▸ hb)⟩
    simpa using hne
  rw [expected, hsince]
  simp

end History

/-! ## The model after a history -/

namespace Model

variable {σ : Type}

/-- The liveness that a history leaves. -/
def aliveAfter (m : Model σ) (p : List Action) : Bool := History.alive m.alive p

/-- The reference value that a history leaves. -/
def expectedAfter (m : Model σ) (p : List Action) : Int64 := History.expected m.expected p

/-- The drift that a history leaves. -/
def driftAfter (make : Factory σ) (m : Model σ) (p : List Action) : Int64 :=
  History.drift m.drift (make.startAt m.supply) p

/-- The model that a history leaves. -/
def after (make : Factory σ) (m : Model σ) (p : List Action) : Model σ where
  counter := if m.aliveAfter p then some ⟨m.expectedAfter p + m.driftAfter make p⟩ else none
  expected := m.expectedAfter p
  supply := make.supplyAt m.supply (p.count .create)

theorem after_nil (make : Factory σ) (m : Model σ) : m.after make [] = m := by
  obtain ⟨counter, expected, supply⟩ := m
  cases counter with
  | none => simp [after, aliveAfter, expectedAfter, alive, Factory.supplyAt]
  | some c =>
    have hvalue : expected + (c.value - expected) = c.value := by
      rw [Int64.add_comm, Int64.sub_add_cancel]
    simp [after, aliveAfter, expectedAfter, driftAfter, drift, alive, Factory.supplyAt, hvalue]

@[simp]
theorem alive_after (make : Factory σ) (m : Model σ) (p : List Action) :
    (m.after make p).alive = m.aliveAfter p := by
  cases h : m.aliveAfter p <;> simp [after, alive, h]

theorem drift_after {make : Factory σ} {m : Model σ} {p : List Action} (h : m.aliveAfter p = true) :
    (m.after make p).drift = m.driftAfter make p := by
  simp [after, drift, h, Int64.add_comm (m.expectedAfter p)]

/-- The liveness after actions that succeed can be read off them. -/
theorem Runs.alive_eq {make : Factory σ} {m m' : Model σ} {p : List Action}
    (h : Runs make p m m') : m'.alive = m.aliveAfter p := by
  unfold aliveAfter
  induction p generalizing m with
  | nil =>
    obtain rfl : m = m' := by simpa [Runs] using h
    rfl
  | cons a p ih =>
    obtain ⟨-, hrest⟩ := runs_cons_iff.mp h
    rw [ih hrest, alive_next, History.alive_cons]

/-- An action fails after a history if the liveness forbids it, or if it is a `count` and the live
counter has drifted from the reference value. -/
def FailsAfter (make : Factory σ) (m : Model σ) (p : List Action) (a : Action) : Prop :=
  a.allowed (m.aliveAfter p) = false ∨
    a = .count ∧ m.aliveAfter p = true ∧ m.driftAfter make p ≠ 0

instance (make : Factory σ) (m : Model σ) (p : List Action) (a : Action) :
    Decidable (m.FailsAfter make p a) :=
  inferInstanceAs (Decidable (_ ∨ _))

/-- The failure of an action after a history: the liveness is looked at first. -/
def failureAfter (make : Factory σ) (m : Model σ) (p : List Action) (a : Action) : ModelError :=
  if a.allowed (m.aliveAfter p) then
    .countMismatch (m.expectedAfter p) (m.expectedAfter p + m.driftAfter make p)
  else .notEnabled a

theorem FailsAfter.of_forbidden {make : Factory σ} {m : Model σ} {p : List Action} {a : Action}
    (h : a.allowed (m.aliveAfter p) = false) : m.FailsAfter make p a :=
  Or.inl h

theorem allowed_of_not_failsAfter {make : Factory σ} {m : Model σ} {p : List Action} {a : Action}
    (h : ¬ m.FailsAfter make p a) : a.allowed (m.aliveAfter p) = true :=
  eq_true_of_ne_false fun hforbidden => h (.of_forbidden hforbidden)

/-- Why an action fails after a history, if it does. -/
theorem failure?_after (make : Factory σ) (m : Model σ) (p : List Action) (a : Action) :
    (m.after make p).failure? a =
      if m.FailsAfter make p a then some (m.failureAfter make p a) else none := by
  cases hallowed : a.allowed (m.aliveAfter p) with
  | false =>
    have hforbidden : a.allowed (m.after make p).alive = false := by rw [alive_after, hallowed]
    rw [if_pos (.of_forbidden hallowed), failure?_of_forbidden hforbidden, failureAfter,
      if_neg (by simp [hallowed])]
  | true =>
    have hallowed' : a.allowed (m.after make p).alive = true := by rw [alive_after, hallowed]
    by_cases ha : a = .count
    · subst ha
      have halive : m.aliveAfter p = true := hallowed
      have hfails : m.FailsAfter make p .count ↔ m.driftAfter make p ≠ 0 := by
        simp [FailsAfter, Action.allowed, halive]
      rw [failure?_count hallowed', drift_after halive, failureAfter, if_pos hallowed]
      simp [hfails, after]
    · have hfails : ¬ m.FailsAfter make p a := by simp [FailsAfter, hallowed, ha]
      rw [if_neg hfails, failure?_of_allowed hallowed' ha]

/-- An action that is allowed after a history leaves the model after the history with that action
at its end. -/
theorem next_after {make : Factory σ} {m : Model σ} {p : List Action} {a : Action}
    (h : a.allowed (m.aliveAfter p)) :
    (m.after make p).next make a = m.after make (p ++ [a]) := by
  cases a with
  | create =>
    simp [next, after, aliveAfter, expectedAfter, driftAfter, Action.leaves, History.alive_concat,
      History.expected_concat, History.drift_concat, Factory.startAt, Factory.supplyAt]
  | destroy =>
    simp [next, after, aliveAfter, expectedAfter, Action.leaves, History.alive_concat,
      History.expected_concat]
  | increment =>
    have halive : History.alive m.alive p = true := h
    have hvalue (e d : Int64) : e + d + 1 = e + 1 + d := by
      rw [Int64.add_assoc, Int64.add_comm d, Int64.add_assoc]
    simp [next, after, aliveAfter, expectedAfter, driftAfter, Action.leaves, History.alive_concat,
      History.expected_concat, History.drift_concat, halive, Counter.succ, hvalue]
  | reset =>
    have halive : History.alive m.alive p = true := h
    simp [next, after, aliveAfter, expectedAfter, driftAfter, Action.leaves, History.alive_concat,
      History.expected_concat, History.drift_concat, halive, Counter.zero]
  | count =>
    have halive : History.alive m.alive p = true := h
    simp [next, after, aliveAfter, expectedAfter, driftAfter, Action.leaves, History.alive_concat,
      History.expected_concat, History.drift_concat, halive]

end Model

end CounterWalk

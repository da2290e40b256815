import CounterWalk.Proofs.Model.History
import Mathlib.Data.Nat.Find
import Mathlib.Order.Bounds.Defs

/-!
# Where scripts stop

A script is done up to the first action that fails.  Which action that is can be told without doing
anything: the actions before a position say whether a counter is alive there and how far it has
drifted, and these two decide whether the next action fails.

Main results:

- Theorem `Model.runs_take_of_not_stopsAt`: up to the first stop nothing fails, and the model is the
  one that the history leaves.
- Theorem `Model.exists_failure_of_isLeast_stopsAt`: at the first stop the action fails.
- Theorem `Model.runScript_ends_at_first_stop`: the outcome of a script and the model it leaves, from
  its first stop.
-/

namespace CounterWalk

/-- Of the positions that have a property, if there are any, one is the first. -/
theorem History.exists_isLeast {P : Nat → Prop} (h : ∃ k, P k) : ∃ k, IsLeast {k | P k} k := by
  classical
  exact ⟨Nat.find h, Nat.find_spec h, fun i hi => Nat.find_min' h hi⟩

namespace Model

variable {σ : Type} {make : Factory σ} {m : Model σ} {p s : List Action} {a : Action} {k : Nat}

/-- A script stops at a position if the action there fails after the actions before it. -/
def StopsAt (make : Factory σ) (m : Model σ) (s : List Action) (k : Nat) : Prop :=
  ∃ a, s[k]? = some a ∧ m.FailsAfter make (s.take k) a

theorem stopsAt_iff (ha : s[k]? = some a) :
    m.StopsAt make s k ↔ m.FailsAfter make (s.take k) a := by
  constructor
  · rintro ⟨b, hb, hfail⟩
    obtain rfl : a = b := Option.some.inj (ha.symm.trans hb)
    exact hfail
  · intro hfail
    exact ⟨a, ha, hfail⟩

/-- Up to a position before which there is no stop nothing fails, and the model is the one that the
history leaves. -/
theorem runs_take_of_not_stopsAt (hk : k ≤ s.length) (h : ∀ i < k, ¬ m.StopsAt make s i) :
    Runs make (s.take k) m (m.after make (s.take k)) := by
  induction k with
  | zero =>
    rw [List.take_zero, after_nil]
    exact runs_nil make m
  | succ k ih =>
    have hlt : k < s.length := hk
    have hprev : Runs make (s.take k) m (m.after make (s.take k)) :=
      ih hlt.le fun i hi => h i (Nat.lt_succ_of_lt hi)
    have hnot : ¬ m.FailsAfter make (s.take k) s[k] := by
      rw [← stopsAt_iff (List.getElem?_eq_getElem hlt)]
      exact h k (Nat.lt_succ_self k)
    have hstep : (m.after make (s.take k)).failure? s[k] = none := by
      rw [failure?_after, if_neg hnot]
    have hnext := hprev.concat hstep
    rw [next_after (allowed_of_not_failsAfter hnot)] at hnext
    rw [List.take_succ_eq_append_getElem hlt]
    exact hnext

theorem runs_of_not_stopsAt (h : ∀ k, ¬ m.StopsAt make s k) : Runs make s m (m.after make s) := by
  simpa using runs_take_of_not_stopsAt (k := s.length) le_rfl fun i _ => h i

/-- At the first stop the action fails, after everything before it was done. -/
theorem exists_failure_of_isLeast_stopsAt (h : IsLeast {k | m.StopsAt make s k} k) :
    ∃ a, s[k]? = some a ∧ s = s.take k ++ a :: s.drop (k + 1) ∧
      Runs make (s.take k) m (m.after make (s.take k)) ∧
      (m.after make (s.take k)).failure? a = some (m.failureAfter make (s.take k) a) := by
  obtain ⟨a, ha, hfail⟩ : m.StopsAt make s k := h.1
  obtain ⟨hlt, hget⟩ := List.getElem?_eq_some_iff.mp ha
  refine ⟨a, ha, ?_, ?_, ?_⟩
  · rw [← hget, ← List.drop_eq_getElem_cons hlt, List.take_append_drop]
  · apply runs_take_of_not_stopsAt hlt.le
    intro i hi hstop
    exact absurd (h.2 hstop) (Nat.not_le.mpr hi)
  · rw [failure?_after, if_pos hfail]

theorem runScript_of_isLeast_stopsAt (h : IsLeast {k | m.StopsAt make s k} k)
    (ha : s[k]? = some a) :
    (runScript make s m).value =
      (.error (m.failureAfter make (s.take k) a), m.after make (s.take k)) := by
  obtain ⟨b, hb, hsplit, hruns, hfail⟩ := exists_failure_of_isLeast_stopsAt h
  obtain rfl : a = b := Option.some.inj (ha.symm.trans hb)
  have hvalue := runScript_of_failure (q := s.drop (k + 1)) hruns hfail
  rw [← hsplit] at hvalue
  exact hvalue

/-- A script ends at its first stop, with the failure that the history before the stop determines
and with the model that this history leaves; a script without a stop is done to its end. -/
theorem runScript_ends_at_first_stop (make : Factory σ) (m : Model σ) (s : List Action) :
    ((∃ e, (runScript make s m).value.1 = .error e) ↔ ∃ k, m.StopsAt make s k) ∧
    ((∀ k, ¬ m.StopsAt make s k) → (runScript make s m).value = (.ok (), m.after make s)) ∧
    ∀ k a, IsLeast {k | m.StopsAt make s k} k → s[k]? = some a →
      (runScript make (s.take k) m).value = (.ok (), m.after make (s.take k)) ∧
      (a.allowed (m.aliveAfter (s.take k)) = false →
        (runScript make s m).value = (.error (.notEnabled a), m.after make (s.take k))) ∧
      (a.allowed (m.aliveAfter (s.take k)) = true →
        (runScript make s m).value =
          (.error (.countMismatch (m.expectedAfter (s.take k))
            (m.expectedAfter (s.take k) + m.driftAfter make (s.take k))),
          m.after make (s.take k))) := by
  refine ⟨⟨?_, ?_⟩, fun h => runs_of_not_stopsAt h, ?_⟩
  · rintro ⟨e, he⟩
    by_contra hnone
    rw [not_exists] at hnone
    have hok : (runScript make s m).value = (.ok (), m.after make s) := runs_of_not_stopsAt hnone
    rw [hok] at he
    contradiction
  · intro hstop
    obtain ⟨k, hk⟩ := History.exists_isLeast hstop
    obtain ⟨a, ha, -⟩ := exists_failure_of_isLeast_stopsAt hk
    exact ⟨_, congrArg Prod.fst (runScript_of_isLeast_stopsAt hk ha)⟩
  · intro k a hk ha
    have hvalue := runScript_of_isLeast_stopsAt hk ha
    obtain ⟨b, -, -, hruns, -⟩ := exists_failure_of_isLeast_stopsAt hk
    refine ⟨hruns, ?_, ?_⟩
    · intro hforbidden
      rw [hvalue, failureAfter, hforbidden, if_neg Bool.false_ne_true]
    · intro hallowed
      rw [hvalue, failureAfter, if_pos hallowed]

end Model

end CounterWalk

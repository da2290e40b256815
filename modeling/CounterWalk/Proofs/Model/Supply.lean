import CounterWalk.Model.Supply
import CounterWalk.Proofs.Model.History

/-!
# Where counters start

What a supply of counters will give can be told in advance.  A supply that asks the fault flag gives
zeros while the flag is down and the random words one after another while it is raised.

Main results:

- Theorem `Supply.value_make`: where the next counter starts that is made as the flag says.
- Theorems `Supply.startAt_make_of_not_faulty` and `Supply.startAt_make_of_faulty`: where all the
  counters start.
- Theorem `Supply.Asks.runScript`: scripts leave the flag as it is.
-/

namespace CounterWalk

namespace Factory

variable {σ : Type}

/-- The counters start at the values of an endless list; the supply is the number of those that were
made. -/
def listed (values : Nat → Int64) : Factory Nat := fun n => return (⟨values n⟩, n + 1)

/-- What is left when `n + 1` counters have been made is left when `n` more are made after the
first. -/
theorem supplyAt_succ (make : Factory σ) (supply : σ) (n : Nat) :
    make.supplyAt supply (n + 1) = make.supplyAt (make supply).value.2 n := by
  induction n with
  | zero => rfl
  | succ n ih => rw [supplyAt, ih, supplyAt]

theorem startAt_succ (make : Factory σ) (supply : σ) (n : Nat) :
    make.startAt supply (n + 1) = make.startAt (make supply).value.2 n := by
  rw [startAt, supplyAt_succ, startAt]

@[simp]
theorem startAt_listed (values : Nat → Int64) (n j : Nat) :
    (listed values).startAt n j = values (n + j) := by
  induction j generalizing n with
  | zero => rfl
  | succ j ih =>
    rw [startAt_succ, Nat.add_comm j, ← Nat.add_assoc]
    exact ih (n + 1)

end Factory

namespace Supply

variable {supply : Supply}

/-- Making a counter does not change how counters are made. -/
theorem maker_make (h : supply.maker = .flagged) : (make supply).value.2.maker = .flagged := by
  simp [make, h]

theorem maker_next {m : Model Supply} (h : m.supply.maker = .flagged) (a : Action) :
    (m.next make a).supply.maker = .flagged := by
  cases a with
  | create => exact maker_make h
  | destroy | increment | reset | count => exact h

/-- Where a counter starts that is made as the flag says. -/
theorem value_make (h : supply.maker = .flagged) :
    (make supply).value.1.value =
      if supply.environment.faulty then
        ((StartSource.randomized .shared).draw supply.environment).value.1
      else 0 := by
  simp only [make, h, Counter.ofFlag, StartSource.forFlag, Logged.value_bind, Logged.value_pure]
  cases supply.environment.faulty <;> rfl

/-- Making a counter uses a random word up if the flag is raised and changes nothing else. -/
theorem environment_make (h : supply.maker = .flagged) :
    (make supply).value.2.environment =
      if supply.environment.faulty then
        { supply.environment with entropy := supply.environment.entropy.draw.2 }
      else supply.environment := by
  obtain ⟨maker, faulty, entropy⟩ := supply
  obtain rfl : maker = .flagged := h
  cases faulty <;> rfl

/-- Making a counter leaves the flag as it is. -/
theorem faulty_make (h : supply.maker = .flagged) :
    (make supply).value.2.environment.faulty = supply.environment.faulty := by
  rw [environment_make h]
  split <;> rfl

/-- The model asks the flag for its counters, and the flag is raised or not. -/
structure Asks (faulty : Bool) (m : Model Supply) : Prop where
  maker : m.supply.maker = .flagged
  faulty : m.supply.environment.faulty = faulty

/-- Every action leaves the flag as it is. -/
theorem Asks.next {faulty : Bool} {m : Model Supply} (h : Asks faulty m) (a : Action) :
    Asks faulty (m.next make a) := by
  cases a with
  | create => exact ⟨maker_make h.maker, (faulty_make h.maker).trans h.faulty⟩
  | destroy | increment | reset | count => exact ⟨h.maker, h.faulty⟩

/-- Scripts leave the flag as it is. -/
theorem Asks.runScript {faulty : Bool} {m : Model Supply} (h : Asks faulty m) (s : List Action) :
    Asks faulty (Model.runScript make s m).value.2 :=
  Model.runScript_induction (fun _ a hn => hn.next a) s h

/-- While the flag is down every counter starts at zero. -/
theorem startAt_make_of_not_faulty (h : supply.maker = .flagged)
    (hflag : supply.environment.faulty = false) (j : Nat) : make.startAt supply j = 0 := by
  induction j generalizing supply with
  | zero =>
    have hvalue := value_make h
    rw [hflag, if_neg Bool.false_ne_true] at hvalue
    exact hvalue
  | succ j ih =>
    have henv := environment_make h
    rw [hflag, if_neg Bool.false_ne_true] at henv
    rw [Factory.startAt_succ]
    exact ih (maker_make h) (henv ▸ hflag)

/-- While the flag is raised the counters start at the random words that come next. -/
theorem startAt_make_of_faulty (h : supply.maker = .flagged)
    (hflag : supply.environment.faulty = true) (j : Nat) :
    make.startAt supply j =
      (supply.environment.entropy.wordAt (supply.environment.entropy.drawn + j)).toInt64 := by
  induction j generalizing supply with
  | zero =>
    have hvalue := value_make h
    rw [hflag, if_pos rfl] at hvalue
    exact hvalue
  | succ j ih =>
    have henv := environment_make h
    rw [hflag, if_pos rfl] at henv
    rw [Factory.startAt_succ, ih (maker_make h) (by rw [henv, hflag]), henv, Nat.add_comm j,
      ← Nat.add_assoc]
    rfl

end Supply

end CounterWalk

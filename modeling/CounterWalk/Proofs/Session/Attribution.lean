import CounterWalk.Proofs.Model.History
import CounterWalk.Proofs.Model.Supply
import CounterWalk.Proofs.Session.Moments

/-!
# What a mismatch is owed to

The fault flag goes up and down while a session makes, moves and drops counters, and a model asks
the flag only when it makes a counter.  So what a `count` finds is settled by the moment at which
the counter was made and by whether the counter was reset since: by nothing before that moment, and
by no later change of the flag.

Main results:

- Theorem `Life.unique`: the moments of a session say which of them made the live counter.
- Theorem `Attributed.leave`: the account of the live counter is kept up by every happening.
- Theorem `Session.countMismatch_iff_made_faulty`: a `count` fails exactly if its counter was made
  while the flag was raised, from a value other than zero, and was not reset since.
-/

namespace CounterWalk

/-! ## The life of a counter -/

/-- The last counter that was made in the course of some moments, and is still alive after them:
the moment of its birth, when no counter was alive, and the moments since, when it was. -/
structure Life (course past : List Moment) (birth : Moment) (since : List Moment) : Prop where
  split : course = past ++ birth :: since
  created : birth.happening = .tried .create
  not_alive : birth.alive = false
  alive_since : ∀ x ∈ since, x.alive = true

namespace Life

variable {course past past' : List Moment} {birth birth' : Moment} {since since' : List Moment}

/-- The moments since the birth are the last at which a counter was alive. -/
theorem since_eq (h : Life course past birth since) :
    since = course.rtakeWhile Moment.alive := by
  rw [h.split, History.rtakeWhile_append_cons_of_neg h.not_alive h.alive_since]

/-- Only one counter can be the one that is alive. -/
theorem unique (h : Life course past birth since) (h' : Life course past' birth' since') :
    past = past' ∧ birth = birth' ∧ since = since' := by
  have hsince : since = since' := by rw [h.since_eq, h'.since_eq]
  have hsplit : past ++ [birth] ++ since = past' ++ [birth'] ++ since' := by
    simp only [List.append_assoc, List.singleton_append, ← h.split, ← h'.split]
  rw [hsince, List.append_left_inj, List.append_singleton_inj] at hsplit
  exact ⟨hsplit.1, hsplit.2, hsince⟩

/-- A life goes on through a moment at which the counter is alive. -/
theorem concat (h : Life course past birth since) {x : Moment} (hx : x.alive = true) :
    Life (course ++ [x]) past birth (since ++ [x]) where
  split := by rw [h.split, List.append_assoc, List.cons_append]
  created := h.created
  not_alive := h.not_alive
  alive_since y hy := by
    rcases List.mem_append.mp hy with hy | hy
    · exact h.alive_since y hy
    · rw [List.mem_singleton.mp hy]
      exact hx

/-- A counter that is made when none is alive begins its life. -/
theorem of_create (course : List Moment) {x : Moment} (hcreated : x.happening = .tried .create)
    (hx : x.alive = false) : Life (course ++ [x]) course x [] where
  split := rfl
  created := hcreated
  not_alive := hx
  alive_since _ hy := absurd hy List.not_mem_nil

end Life

/-- A counter carries a fault if it was made while the flag was raised, from a value other than
zero, and was not reset since. -/
@[mk_iff]
structure Faulted (birth : Moment) (since : List Moment) : Prop where
  faulty : birth.faulty = true
  drawn_ne_zero : birth.drawn ≠ 0
  not_reset : ∀ x ∈ since, x.happening ≠ .tried .reset

namespace Faulted

variable {birth : Moment} {since : List Moment} {x : Moment}

theorem nil_iff (birth : Moment) : Faulted birth [] ↔ birth.faulty = true ∧ birth.drawn ≠ 0 := by
  simp [faulted_iff]

theorem concat_iff (hx : x.happening ≠ .tried .reset) :
    Faulted birth (since ++ [x]) ↔ Faulted birth since := by
  simp [faulted_iff, or_imp, forall_and, hx]

theorem not_concat_of_reset (hx : x.happening = .tried .reset) : ¬ Faulted birth (since ++ [x]) :=
  fun h => h.not_reset x (List.mem_append_right _ (List.mem_singleton_self x)) hx

end Faulted

/-- A `count` of a live counter fails exactly if the counter has drifted. -/
theorem Moment.exists_countMismatch_iff {x : Moment} (hcount : x.happening = .tried .count)
    (halive : x.alive = true) :
    (∃ e v, x.outcome = .error (.countMismatch e v)) ↔ x.before.drift ≠ 0 := by
  have houtcome : x.outcome = (x.before.execute Supply.make .count).value.1 := by
    rw [Moment.outcome, hcount]
    rfl
  have hfailure := Model.failure?_count halive
  by_cases hdrift : x.before.drift = 0
  · rw [if_pos hdrift] at hfailure
    rw [houtcome, Model.execute_of_no_failure Supply.make hfailure]
    simp [hdrift]
  · rw [if_neg hdrift] at hfailure
    rw [houtcome, Model.execute_of_failure Supply.make hfailure]
    simp [hdrift]

/-! ## Keeping account -/

/-- The account of a model after some moments: it asks the flag for its counters, and the live
counter has drifted exactly if it carries a fault from its birth. -/
structure Attributed (course : List Moment) (m : Model Supply) : Prop where
  flagged : m.supply.maker = .flagged
  life : m.alive = true → ∃ past birth since, Life course past birth since ∧
    (m.drift ≠ 0 ↔ Faulted birth since)

namespace Attributed

variable {course : List Moment} {m : Model Supply}

/-- A moment that neither makes a counter nor resets one adds to the life of the counter. -/
theorem concat (hm : Attributed course m) {m' : Model Supply} {h : Happening}
    (hflagged : m'.supply.maker = .flagged) (halive : m'.alive = true → m.alive = true)
    (hdrift : m'.drift = m.drift) (hreset : m.alive = true → h ≠ .tried .reset) :
    Attributed (course ++ [⟨m, h⟩]) m' where
  flagged := hflagged
  life hm' := by
    have hbefore : m.alive = true := halive hm'
    have hx : Moment.alive ⟨m, h⟩ = true := hbefore
    obtain ⟨past, birth, since, hlife, hfault⟩ := hm.life hbefore
    refine ⟨past, birth, since ++ [⟨m, h⟩], hlife.concat hx, ?_⟩
    rw [hdrift, Faulted.concat_iff (hreset hbefore)]
    exact hfault

/-- A model that has no counter has nothing to account for. -/
theorem of_not_alive (hflagged : m.supply.maker = .flagged) (h : m.alive = false) :
    Attributed course m where
  flagged := hflagged
  life hm := absurd hm (by rw [h]; exact Bool.false_ne_true)

/-- An action that does not fail keeps up the account. -/
theorem next (hm : Attributed course m) {a : Action} (h : m.failure? a = none) :
    Attributed (course ++ [⟨m, .tried a⟩]) (m.next Supply.make a) := by
  have hallowed : a.allowed m.alive = true := Model.allowed_of_no_failure h
  have hflagged : (m.next Supply.make a).supply.maker = .flagged := Supply.maker_next hm.flagged a
  have halive : (m.next Supply.make a).alive = a.leaves m.alive := Model.alive_next Supply.make m a
  have hdrift := Model.drift_next Supply.make m a
  cases a with
  | create =>
    have hx : Moment.alive ⟨m, .tried .create⟩ = false := Bool.not_eq_true' _ ▸ hallowed
    refine ⟨hflagged, fun _ => ?_⟩
    refine ⟨course, ⟨m, .tried .create⟩, [], Life.of_create course rfl hx, ?_⟩
    rw [hdrift, Supply.value_make hm.flagged, Faulted.nil_iff]
    simp [Moment.faulty, Moment.drawn]
  | destroy => exact of_not_alive hflagged halive
  | increment | count => exact hm.concat hflagged (fun _ => hallowed) hdrift (by simp)
  | reset =>
    have hx : Moment.alive ⟨m, .tried .reset⟩ = true := hallowed
    obtain ⟨past, birth, since, hlife, -⟩ := hm.life hallowed
    refine ⟨hflagged, fun _ => ?_⟩
    refine ⟨past, birth, since ++ [⟨m, .tried .reset⟩], hlife.concat hx, ?_⟩
    rw [hdrift]
    exact iff_of_false (fun hne => hne rfl) (Faulted.not_concat_of_reset rfl)

/-- Every happening keeps up the account. -/
theorem leave (hm : Attributed course m) (h : Happening) :
    Attributed (course ++ [⟨m, h⟩]) (h.leave m) := by
  cases h with
  | shared environment => exact hm.concat hm.flagged id rfl (by simp)
  | cleared => exact of_not_alive hm.flagged rfl
  | tried a =>
    cases hfail : m.failure? a with
    | none =>
      have hleave : (Happening.tried a).leave m = m.next Supply.make a :=
        congrArg Prod.snd (Model.execute_of_no_failure Supply.make hfail)
      rw [hleave]
      exact hm.next hfail
    | some e =>
      have hleave : (Happening.tried a).leave m = m :=
        congrArg Prod.snd (Model.execute_of_failure Supply.make hfail)
      rw [hleave]
      apply hm.concat hm.flagged id rfl
      intro halive ha
      obtain rfl : a = .reset := Happening.tried.inj ha
      have hallowed : Action.reset.allowed m.alive = true := halive
      rw [Model.failure?_of_allowed hallowed (by decide)] at hfail
      contradiction

/-- After all happenings the account is what it should be. -/
theorem run (hm : Attributed [] m) (hs : List Happening) :
    Attributed (Happening.moments hs m) (Happening.run hs m) := by
  induction hs using List.reverseRecOn with
  | nil => exact hm
  | append_singleton hs h ih =>
    rw [Happening.moments_concat, Happening.run_append]
    exact ih.leave h

end Attributed

/-! ## Sessions -/

namespace Session

theorem attributed_start (env : Environment) : Attributed [] (start .flagged env).model :=
  .of_not_alive rfl rfl

/-- In a session on a new model that asks the flag for its counters, whatever the flag is at first
and whatever is done in which order: a `count` of a live counter fails for a mismatch exactly if the
flag was raised when the counter was made, the value that was drawn then was not zero, and no
`reset` was done since. -/
theorem countMismatch_iff_made_faulty (env : Environment) (cs : List Command) :
    (performAll cs (start .flagged env)).value.2.model =
      Happening.run (history cs (start .flagged env)) (start .flagged env).model ∧
    ∀ earlier x later,
      Happening.moments (history cs (start .flagged env)) (start .flagged env).model =
        earlier ++ x :: later →
      x.happening = .tried .count → x.alive = true →
      (∃ past birth since, Life earlier past birth since) ∧
      ∀ past birth since, Life earlier past birth since →
        ((∃ e v, x.outcome = .error (.countMismatch e v)) ↔
          birth.faulty = true ∧ birth.drawn ≠ 0 ∧
            ∀ y ∈ since, y.happening ≠ .tried .reset) := by
  refine ⟨model_performAll cs _, ?_⟩
  intro earlier x later hsplit hcount halive
  obtain ⟨hs, rfl, hbefore⟩ := Happening.moments_split hsplit
  have haccount := (attributed_start env).run hs
  rw [hbefore] at haccount
  obtain ⟨past, birth, since, hlife, hfault⟩ := haccount.life halive
  refine ⟨⟨past, birth, since, hlife⟩, ?_⟩
  intro past' birth' since' hlife'
  obtain ⟨rfl, rfl, rfl⟩ := hlife.unique hlife'
  rw [Moment.exists_countMismatch_iff hcount halive, hfault, faulted_iff]

/-- A counter that was made while the flag was raised is found out after it was lowered. -/
example : Happening.ending (history
    [.setFlag true, .execute .create, .setFlag false, .runScript [.increment, .count, .destroy]]
    (start .flagged { entropy := { wordAt := fun _ => 7 } }))
    (start .flagged { entropy := { wordAt := fun _ => 7 } }).model =
      .error (.countMismatch 1 8) :=
  rfl

end Session

end CounterWalk

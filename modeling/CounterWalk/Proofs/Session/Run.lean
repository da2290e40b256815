import CounterWalk.Proofs.Model.Likeness
import CounterWalk.Proofs.Walk.Detection
import CounterWalk.Proofs.Walk.Legality
import CounterWalk.Session.Command

/-!
# Runs of the options

Asked to do what options say, a session sets the flag and walks on a new model.  Nothing that was
done before has a part in it but the random words that are drawn: the first is the seed, if none is
given, and the others are the values at which the counters start, if the flag is to be raised.

Main results:

- Theorem `Options.report_run`: the report is settled by the seed and by the starting values.
- Theorem `Options.exists_draws`: any seed and any starting values may be drawn.
- Theorem `Options.reportFrom_of_zeros`: the report if every counter starts at zero.
- Theorem `Session.attempt_run_reports`: what a session answers, whatever it was asked before.
-/

namespace CounterWalk

namespace Options

/-- The values at which the counters of a run start: the random words that are drawn after the seed
if the flag is to be raised, and zeros if not. -/
def startValue (o : Options) (env : Environment) (j : Nat) : Int64 :=
  let entropy := (o.walkSeed env).2.entropy
  if o.faulty then (entropy.wordAt (entropy.drawn + j)).toInt64 else 0

/-- The report of the walk with a seed on a new model whose counters start at given values. -/
def reportFrom (o : Options) (seed : UInt64) (values : Nat → Int64) : Report :=
  ((⟨seed, o.steps⟩ : WalkPlan).run (Factory.listed values) { supply := 0 }).value.1

theorem startValue_of_not_faulty {o : Options} (h : o.faulty = false) (env : Environment)
    (j : Nat) : o.startValue env j = 0 := by
  rw [startValue, h, if_neg Bool.false_ne_true]

theorem walkSeed_eq_getD (o : Options) (env : Environment) :
    (o.walkSeed env).1 = o.seed.getD env.entropy.draw.1 := by
  cases hseed : o.seed <;> simp [walkSeed, hseed]

/-- What the walk of a run finds: the flag as it has just been set, and the words after the seed. -/
def prepared (o : Options) (env : Environment) : Environment :=
  { faulty := o.faulty, entropy := (o.walkSeed env).2.entropy }

theorem walkSeed_setFaulty (o : Options) (env : Environment) :
    o.walkSeed (env.setFaulty o.faulty).value = ((o.walkSeed env).1, o.prepared env) := by
  cases hseed : o.seed <;> simp [walkSeed, prepared, hseed, Environment.setFaulty]

/-- A run is a walk on a new model that asks the flag for its counters. -/
theorem value_run (o : Options) (env : Environment) :
    (o.run env).value =
      (((⟨(o.walkSeed env).1, o.steps⟩ : WalkPlan).run Supply.make
          { supply := { environment := o.prepared env } }).value.1,
        ((⟨(o.walkSeed env).1, o.steps⟩ : WalkPlan).run Supply.make
          { supply := { environment := o.prepared env } }).value.2.supply.environment) := by
  simp only [run, Logged.value_bind, walkSeed_setFaulty, Logged.value_pure]

theorem startAt_prepared (o : Options) (env : Environment) (j : Nat) :
    Supply.make.startAt { environment := o.prepared env } j = o.startValue env j := by
  cases hflag : o.faulty with
  | false => rw [Supply.startAt_make_of_not_faulty rfl hflag, startValue_of_not_faulty hflag]
  | true =>
    rw [Supply.startAt_make_of_faulty rfl hflag, startValue, hflag, if_pos rfl]
    rfl

/-- The report is settled by the seed and by the starting values. -/
theorem report_run (o : Options) (env : Environment) :
    (o.run env).value.1 = o.reportFrom (o.walkSeed env).1 (o.startValue env) := by
  have halike : Model.Alike Supply.make (Factory.listed (o.startValue env))
      { supply := { environment := o.prepared env } } { supply := 0 } := by
    apply Model.Alike.of_starts
    intro j
    rw [startAt_prepared, Factory.startAt_listed, Nat.zero_add]
  rw [value_run]
  exact halike.report_eq _

/-- A run leaves the flag as the options say. -/
theorem faulty_run (o : Options) (env : Environment) : (o.run env).value.2.faulty = o.faulty := by
  rw [value_run, WalkPlan.run_value]
  exact (Supply.Asks.runScript ⟨rfl, rfl⟩ _).faulty

/-- Words of which the first is a seed and the others are starting values. -/
def wordsOf (seed : UInt64) (values : Nat → Int64) : Nat → UInt64
  | 0 => seed
  | j + 1 => (values j).toUInt64

/-- Any seed and any starting values may be drawn. -/
theorem exists_draws {o : Options} (h : o.faulty = true) (seed : UInt64) (values : Nat → Int64) :
    ∃ env : Environment, (o.walkSeed env).1 = o.seed.getD seed ∧
      ∀ j, o.startValue env j = values j := by
  cases hseed : o.seed with
  | none =>
    refine ⟨{ entropy := { wordAt := wordsOf seed values } },
      by simp [walkSeed, hseed, Entropy.draw, wordsOf], ?_⟩
    intro j
    simp [startValue, walkSeed, hseed, h, Entropy.draw, Nat.add_comm, wordsOf]
  | some s =>
    refine ⟨{ entropy := { wordAt := fun j => (values j).toUInt64 } },
      by simp [walkSeed, hseed], ?_⟩
    intro j
    simp [startValue, walkSeed, hseed, h]

/-- If every counter starts at zero the walk passes and uses its budget up. -/
theorem reportFrom_of_zeros (o : Options) (seed : UInt64) {values : Nat → Int64}
    (h : ∀ j, values j = 0) :
    (o.reportFrom seed values).verdict = .pass ∧
      (o.reportFrom seed values).stepsExecuted = o.steps ∧
      (o.reportFrom seed values).trace.length = o.steps.toNat := by
  have hzeros : ∀ j, (Factory.listed values).startAt 0 j = 0 := by simp [h]
  have hpass : (o.reportFrom seed values).verdict = .pass :=
    (WalkPlan.run_of_startAt_eq_zero _ hzeros).2
  have hconsistent : (o.reportFrom seed values).Consistent ⟨seed, o.steps⟩ :=
    WalkPlan.consistent_run _ _ _
  have hlength := hconsistent.passed hpass
  refine ⟨hpass, UInt64.toNat_inj.mp ?_, hlength⟩
  rw [hconsistent.stepsExecuted, hlength]

/-- The exit status tells whether the trace, run as a script on a new model whose counters start
alike, ends in a mismatch. -/
theorem exitStatus_reportFrom_eq_one_iff (o : Options) (seed : UInt64) (values : Nat → Int64) :
    (o.reportFrom seed values).verdict.exitStatus = 1 ↔
      ∃ e v, (Model.runScript (Factory.listed values) (o.reportFrom seed values).trace
        { supply := 0 }).value.1 = .error (.countMismatch e v) := by
  have hfail := WalkPlan.exists_fail_iff ⟨seed, o.steps⟩ (Factory.listed values) { supply := 0 }
  rw [← reportFrom] at hfail
  rw [← hfail]
  cases (o.reportFrom seed values).verdict with
  | pass => simp [Verdict.exitStatus]
  | fail step reason => simp [Verdict.exitStatus]

end Options

namespace Session

/-- What a session answers when it is asked to do what options say, whatever it was asked before:
it leaves the flag as the options say, and its report is that of a walk on a new model, which is
settled by the seed and by the starting values of the counters.  With the seed of the report and the
same starting values every other run gives the same report.  While the flag is to be down all
starting values are zero, and the walk passes and uses its budget up; while it is to be raised they
may be any. -/
theorem attempt_run_reports (s : Session) (o : Options) :
    (s.attempt (.run o)).value.2.faulty = o.faulty ∧
    (o.faulty = false → ∀ j, o.startValue s.environment j = 0) ∧
    (o.faulty = true → ∀ (seed : UInt64) (values : Nat → Int64), ∃ env : Environment,
      (o.walkSeed env).1 = o.seed.getD seed ∧ ∀ j, o.startValue env j = values j) ∧
    ∃ r : Report, (s.attempt (.run o)).value.1 = some (.report r) ∧
      r.seed = o.seed.getD s.environment.entropy.draw.1 ∧
      r = ((⟨r.seed, o.steps⟩ : WalkPlan).run (Factory.listed (o.startValue s.environment))
        { supply := 0 }).value.1 ∧
      (∀ (t : Session) (p : Options), p.seed = some r.seed → p.steps = o.steps →
        (∀ j, p.startValue t.environment j = o.startValue s.environment j) →
        (t.attempt (.run p)).value.1 = some (.report r)) ∧
      (o.faulty = false →
        r.verdict = .pass ∧ r.stepsExecuted = o.steps ∧ r.trace.length = o.steps.toNat ∧
        r.verdict.exitStatus = 0 ∧
        r.render false =
          "pass: " ++ Text.natural o.steps ++ " steps, seed " ++ Text.natural r.seed) ∧
      (r.verdict.exitStatus = 1 ↔
        ∃ e v, (Model.runScript (Factory.listed (o.startValue s.environment)) r.trace
          { supply := 0 }).value.1 = .error (.countMismatch e v)) := by
  have hzeros : o.faulty = false → ∀ j, o.startValue s.environment j = 0 :=
    fun h => Options.startValue_of_not_faulty h s.environment
  refine ⟨Options.faulty_run o s.environment, hzeros, fun h => Options.exists_draws h, ?_⟩
  refine ⟨(o.run s.environment).value.1, rfl, ?_⟩
  rw [Options.report_run]
  refine ⟨Options.walkSeed_eq_getD o s.environment, rfl, ?_, ?_, ?_⟩
  · intro t p hseed hsteps hvalues
    have hreport : (p.run t.environment).value.1 =
        o.reportFrom (o.walkSeed s.environment).1 (o.startValue s.environment) := by
      have hplan : (p.walkSeed t.environment).1 = (o.walkSeed s.environment).1 := by
        rw [Options.walkSeed_eq_getD, hseed]
        rfl
      rw [Options.report_run, hplan, Options.reportFrom, hsteps, funext hvalues, Options.reportFrom]
    exact congrArg (fun r => some (Reply.report r)) hreport
  · intro h
    obtain ⟨hpass, hsteps, hlength⟩ :=
      o.reportFrom_of_zeros (o.walkSeed s.environment).1 (hzeros h)
    refine ⟨hpass, hsteps, hlength, by rw [hpass]; rfl, ?_⟩
    simp [Report.render, Report.summary, hpass, hsteps]
  · exact Options.exitStatus_reportFrom_eq_one_iff o _ _

end Session

end CounterWalk

import CounterWalk.Proofs.Walk.Itinerary
import CounterWalk.Session.Command

/-!
# What happens to the model of a session

Whatever a session is asked to do, one of three things happens to its model, or several one after
another: other work leaves the flag and the random words as it found them or not, an action is
tried, or the model is cleared.  A session is thereby told as a list of happenings, in which the
actions of scripts and walks stand beside those that were asked for one at a time.

Main results:

- Theorem `Session.model_performAll`: the model after a session is the one that its happenings lead
  to.
- Theorem `Session.reply_attempt`: what a session answers about the model tells the outcome of the
  last happening.
- Theorem `Happening.moments_split`: every moment finds the model that the happenings before it
  lead to.
-/

namespace CounterWalk

/-! ## Happenings and moments -/

/-- What can happen to the model of a session. -/
inductive Happening where
  /-- Other work was done, and left the flag and the random words like this. -/
  | shared (environment : Environment)
  | tried (action : Action)
  | cleared

namespace Happening

variable {m : Model Supply} {h : Happening} {hs : List Happening}

/-- The model that is left. -/
def leave (m : Model Supply) : Happening → Model Supply
  | .shared environment => { m with supply := { m.supply with environment } }
  | .tried a => (m.execute Supply.make a).value.2
  | .cleared => m.reset.value

/-- How it ends. Only an action can fail. -/
def outcome (m : Model Supply) : Happening → Outcome
  | .tried a => (m.execute Supply.make a).value.1
  | .shared _ | .cleared => .ok ()

/-- The model after one happening after another. -/
def run (hs : List Happening) (m : Model Supply) : Model Supply := hs.foldl leave m

@[simp]
theorem run_cons (h : Happening) (hs : List Happening) (m : Model Supply) :
    run (h :: hs) m = run hs (h.leave m) :=
  rfl

theorem run_append (hs hs' : List Happening) (m : Model Supply) :
    run (hs ++ hs') m = run hs' (run hs m) :=
  List.foldl_append

end Happening

/-- A happening together with the model that it finds. -/
structure Moment where
  before : Model Supply
  happening : Happening

namespace Moment

/-- How the happening ends. -/
def outcome (x : Moment) : Outcome := x.happening.outcome x.before

/-- Whether a counter is alive. -/
def alive (x : Moment) : Bool := x.before.alive

/-- Whether the fault flag is raised. -/
def faulty (x : Moment) : Bool := x.before.supply.environment.faulty

/-- The value that a random source would give. -/
def drawn (x : Moment) : Int64 :=
  ((StartSource.randomized .shared).draw x.before.supply.environment).value.1

end Moment

namespace Happening

/-- The moments at which happenings take place. -/
def moments : List Happening → Model Supply → List Moment
  | [], _ => []
  | h :: hs, m => ⟨m, h⟩ :: moments hs (h.leave m)

theorem moments_append (hs hs' : List Happening) (m : Model Supply) :
    moments (hs ++ hs') m = moments hs m ++ moments hs' (run hs m) := by
  induction hs generalizing m with
  | nil => rfl
  | cons h hs ih => rw [List.cons_append, moments, moments, ih, run_cons, List.cons_append]

theorem moments_concat (hs : List Happening) (h : Happening) (m : Model Supply) :
    moments (hs ++ [h]) m = moments hs m ++ [⟨run hs m, h⟩] := by
  rw [moments_append]
  rfl

/-- Every moment finds the model that the happenings before it lead to. -/
theorem moments_split {hs : List Happening} {m : Model Supply} {earlier later : List Moment}
    {x : Moment} (h : moments hs m = earlier ++ x :: later) :
    ∃ hs', moments hs' m = earlier ∧ run hs' m = x.before := by
  induction hs generalizing m earlier with
  | nil => simp [moments] at h
  | cons first hs ih =>
    rw [moments] at h
    cases earlier with
    | nil =>
      obtain ⟨rfl, -⟩ := List.cons.inj h
      exact ⟨[], rfl, rfl⟩
    | cons y earlier =>
      obtain ⟨rfl, hrest⟩ := List.cons.inj h
      obtain ⟨hs', hearlier, hbefore⟩ := ih hrest
      exact ⟨first :: hs', by rw [moments, hearlier], hbefore⟩

/-- The outcome of the last of several happenings; without any there is no failure. -/
def ending (hs : List Happening) (m : Model Supply) : Outcome :=
  match (moments hs m).getLast? with
  | none => .ok ()
  | some x => x.outcome

theorem ending_cons_of_ok (hok : h.outcome m = .ok ()) :
    ending (h :: hs) m = ending hs (h.leave m) := by
  cases hs with
  | nil => exact hok
  | cons h' hs => simp [ending, moments]

/-! ## Scripts as happenings -/

/-- The happenings of a script are the actions that it comes to. -/
def ofScript (actions : List Action) (m : Model Supply) : List Happening :=
  (Model.attempts Supply.make actions m).map tried

/-- The last of them ends as the script does, and they leave the model that the script leaves. -/
theorem ending_run_ofScript (actions : List Action) (m : Model Supply) :
    (ending (ofScript actions m) m, run (ofScript actions m) m) =
      (Model.runScript Supply.make actions m).value := by
  induction actions generalizing m with
  | nil => rfl
  | cons a actions ih =>
    cases hstep : m.failure? a with
    | none =>
      have hexecute := Model.execute_of_no_failure Supply.make hstep
      have hok : (tried a).outcome m = .ok () := congrArg Prod.fst hexecute
      have hleave : (tried a).leave m = m.next Supply.make a := congrArg Prod.snd hexecute
      rw [ofScript, Model.attempts_cons_of_no_failure hstep, List.map_cons, ending_cons_of_ok hok,
        run_cons, hleave, Model.runScript_cons_of_no_failure hstep]
      exact ih _
    | some e =>
      have hexecute := Model.execute_of_failure Supply.make hstep
      rw [ofScript, Model.attempts_cons_of_failure hstep, Model.runScript_cons_of_failure hstep,
        ← hexecute]
      rfl

theorem ending_ofScript (actions : List Action) (m : Model Supply) :
    ending (ofScript actions m) m = (Model.runScript Supply.make actions m).value.1 :=
  congrArg Prod.fst (ending_run_ofScript actions m)

theorem run_ofScript (actions : List Action) (m : Model Supply) :
    run (ofScript actions m) m = (Model.runScript Supply.make actions m).value.2 :=
  congrArg Prod.snd (ending_run_ofScript actions m)

end Happening

/-! ## Sessions as happenings -/

namespace Session

/-- What happens to the model when a session is asked to do something.  A walk tries the actions of
its trace. -/
def happenings (s : Session) (c : Command) : List Happening :=
  match c with
  | .execute a => [.tried a]
  | .runScript actions => Happening.ofScript actions s.model
  | .resetModel => [.cleared]
  | .walk plan => (plan.run Supply.make s.model).value.1.trace.map .tried
  | _ => [.shared (s.attempt c).value.2.environment]

theorem happenings_walk (s : Session) (plan : WalkPlan) :
    s.happenings (.walk plan) = Happening.ofScript (plan.itinerary s.model) s.model := by
  rw [happenings, WalkPlan.run_value, Happening.ofScript]

theorem model_engage (name : String) (faulty : Bool) (s : Session) :
    (s.engage name faulty).value.2.model =
      (Happening.shared (s.engage name faulty).value.2.environment).leave s.model := by
  cases hget : s.guards.get? name <;>
    simp [engage, hget, Happening.leave, environment, withEnvironment]

/-- A command of which all the work is done elsewhere changes at most what the model shares with
the rest of the session. -/
theorem model_attempt_of_work {s : Session} {c : Command}
    (hwork : ∀ work, s.perform c = some work →
      work.value.2.model = (Happening.shared work.value.2.environment).leave s.model) :
    (s.attempt c).value.2.model =
      (Happening.shared (s.attempt c).value.2.environment).leave s.model :=
  attempt_keeps (P := fun t => t.model = (Happening.shared t.environment).leave s.model) rfl hwork

/-- The happenings are all that a command does to the model. -/
theorem model_attempt (s : Session) (c : Command) :
    (s.attempt c).value.2.model = Happening.run (s.happenings c) s.model := by
  cases c with
  | execute a => rfl
  | runScript actions => exact (Happening.run_ofScript actions s.model).symm
  | resetModel => rfl
  | walk plan =>
    rw [happenings_walk, Happening.run_ofScript]
    exact congrArg Prod.snd (plan.run_value Supply.make s.model)
  | flag | setFlag v | keep name source | make name | isEnabled a | run o => rfl
  | engage name v => exact model_engage name v s
  | compare name other =>
    apply model_attempt_of_work
    intro work h
    obtain ⟨t, -, h⟩ := Option.bind_eq_some_iff.mp h
    obtain ⟨u, -, h⟩ := Option.bind_eq_some_iff.mp h
    obtain rfl := Option.some.inj h
    rfl
  | release name | draw name n | makeFrom name source | increment name n | reset name
  | count name | describe name | copy name target | discard name =>
    apply model_attempt_of_work
    intro work h
    obtain ⟨found, -, h⟩ := Option.bind_eq_some_iff.mp h
    obtain rfl := Option.some.inj h
    rfl

/-- What a session answers when actions are tried tells how the last of them ended. -/
theorem reply_attempt (s : Session) :
    (∀ a, (s.attempt (.execute a)).value.1 =
      some (.outcome (Happening.ending (s.happenings (.execute a)) s.model))) ∧
    (∀ actions, (s.attempt (.runScript actions)).value.1 =
      some (.outcome (Happening.ending (s.happenings (.runScript actions)) s.model))) ∧
    ∀ plan, ∃ report, (s.attempt (.walk plan)).value.1 = some (.report report) ∧
      s.happenings (.walk plan) = report.trace.map .tried ∧
      report.verdict =
        .ofOutcome report.trace (Happening.ending (s.happenings (.walk plan)) s.model) := by
  refine ⟨fun a => rfl, ?_, ?_⟩
  · intro actions
    rw [happenings, Happening.ending_ofScript]
    rfl
  · intro plan
    refine ⟨(plan.run Supply.make s.model).value.1, rfl, rfl, ?_⟩
    rw [happenings_walk, Happening.ending_ofScript, WalkPlan.run_value]

/-- What happens to the model when a session is asked to do one thing after another. -/
def history : List Command → Session → List Happening
  | [], _ => []
  | c :: cs, s => s.happenings c ++ history cs (s.attempt c).value.2

/-- The model after a session is the one that its happenings lead to. -/
theorem model_performAll (cs : List Command) (s : Session) :
    (performAll cs s).value.2.model = Happening.run (history cs s) s.model := by
  induction cs generalizing s with
  | nil => rfl
  | cons c cs ih =>
    rw [history, Happening.run_append, ← model_attempt, ← ih]
    rfl

end Session

end CounterWalk

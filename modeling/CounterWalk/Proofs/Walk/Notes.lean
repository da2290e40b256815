import CounterWalk.Proofs.Model.Notes
import CounterWalk.Proofs.Walk.Legality

/-!
# What a walk notes

A walk notes what its trace notes as a script, inside a span of its own, and then how it ended.  The
log of a walk can therefore be told from its report: it names the actions of the trace in order, and
the last two lines about a walk that failed give the values of the mismatch, which the reason gives
too.

Main definition:

- `Report.completed`: the actions of a trace that were done.

Main results:

- Theorem `WalkState.log_advance`: walking on notes what the itinerary notes as a script.
- Theorem `WalkPlan.exists_log_run`: the log of a walk is that of its trace and a last note.
- Theorem `WalkPlan.lines_run`: the log of a walk agrees with its report.
-/

namespace CounterWalk

/-- The actions of a trace that were done: all of them, or all but the last if that one failed. -/
def Report.completed (r : Report) : List Action :=
  match r.verdict with
  | .pass => r.trace
  | .fail .. => r.trace.dropLast

/-! ## Walks under way -/

namespace WalkState

variable {σ : Type}

/-- Walking on notes what the itinerary notes as a script. -/
theorem log_advance (make : Factory σ) (n : Nat) (s : WalkState σ) :
    (s.advance make n).2.log.toList =
      s.log.toList ++ (Model.runScript make (s.itinerary n) s.model).log := by
  induction n generalizing s with
  | zero => simp [advance, itinerary, Itinerary.actions, Model.runScript]
  | succ n ih =>
    obtain ⟨a, g, hchoice⟩ := Choice.exists_action? s.model.alive s.choices
    have hroute : s.itinerary (n + 1) = a :: Itinerary.actions n (a.leaves s.model.alive) g :=
      Itinerary.actions_succ hchoice
    cases hfail : s.model.failure? a with
    | some e =>
      obtain ⟨-, -, -, hlog⟩ := advance_succ_of_failure make n hchoice hfail
      rw [hroute, Model.log_runScript_cons_of_failure hfail, hlog, Array.toList_appendList]
    | none =>
      obtain ⟨t, hadvance, hchoices, hmodel, -, hlog⟩ :=
        advance_succ_of_no_failure make n hchoice hfail
      have hrest : t.itinerary n = Itinerary.actions n (a.leaves s.model.alive) g := by
        rw [itinerary, hmodel, hchoices, Model.alive_next]
      rw [hroute, Model.log_runScript_cons_of_no_failure hfail, hadvance, ih, hlog, hmodel, hrest,
        Array.toList_appendList, List.append_assoc]

/-- The action with which a walk failed is the last of its trace. -/
theorem getLast?_trace_advance {make : Factory σ} {n : Nat} {s : WalkState σ} {a : Action}
    {e : ModelError} (h : (s.advance make n).1 = .failed a e) :
    (s.advance make n).2.trace.toList.getLast? = some a := by
  induction n generalizing s with
  | zero => simp [advance] at h
  | succ n ih =>
    obtain ⟨b, g, hchoice⟩ := Choice.exists_action? s.model.alive s.choices
    cases hfail : s.model.failure? b with
    | some e' =>
      obtain ⟨hend, -, htrace, -⟩ := advance_succ_of_failure make n hchoice hfail
      obtain ⟨rfl, -⟩ := WalkEnd.failed.inj (hend.symm.trans h)
      rw [htrace, Array.toList_push, List.getLast?_concat]
    | none =>
      obtain ⟨t, hadvance, -⟩ := advance_succ_of_no_failure make n hchoice hfail
      rw [hadvance] at h ⊢
      exact ih h

end WalkState

namespace WalkPlan

variable {σ : Type} {plan : WalkPlan} {make : Factory σ} {m m' : Model σ}

/-! ## The log of a walk -/

/-- The last note agrees with the verdict. -/
theorem closing_of_verdict {trace : Array Action} {ending : WalkEnd}
    (hlast : ∀ a e, ending = .failed a e → trace.toList.getLast? = some a)
    (hsize : trace.size < UInt64.size) :
    (verdict trace ending = .pass → closing trace ending = .walkPassed trace.size) ∧
      ∀ step reason, verdict trace ending = .fail step reason →
        ∃ a e, trace.toList.getLast? = some a ∧ reason = e.message ∧
          closing trace ending = .walkFailed step.toNat a e := by
  cases ending with
  | finished => simp [verdict, closing]
  | failed a e =>
    refine ⟨by simp [verdict], ?_⟩
    intro step reason hverdict
    obtain ⟨rfl, rfl⟩ := Verdict.fail.inj hverdict
    refine ⟨a, e, hlast a e rfl, rfl, ?_⟩
    rw [closing, UInt64.toNat_ofNat_of_lt' (by omega)]

/-- A walk notes what its trace notes as a script, and then how it ended. -/
theorem exists_log_run (plan : WalkPlan) (make : Factory σ) (m : Model σ) :
    ∃ last : Event,
      (plan.run make m).log = Log.within (.walk plan)
        ((Model.runScript make (plan.run make m).value.1.trace m).log ++ [⟨[], .event last⟩]) ∧
      ((plan.run make m).value.1.verdict = .pass →
        last = .walkPassed (plan.run make m).value.1.trace.length) ∧
      ∀ step reason, (plan.run make m).value.1.verdict = .fail step reason →
        ∃ a e, (plan.run make m).value.1.trace.getLast? = some a ∧ reason = e.message ∧
          last = .walkFailed step.toNat a e := by
  have hlog : (Model.runScript make (plan.run make m).value.1.trace m).log =
      ((plan.start m).advance make plan.steps.toNat).2.log.toList := by
    rw [WalkState.log_advance, trace_run, Model.log_runScript_attempts]
    rfl
  have hsize : ((plan.start m).advance make plan.steps.toNat).2.trace.size < UInt64.size := by
    have hlength := length_attempts_lt_size plan make m
    rwa [← trace_run] at hlength
  obtain ⟨hpass, hfail⟩ :=
    closing_of_verdict (fun _ _ => WalkState.getLast?_trace_advance) hsize
  refine ⟨closing ((plan.start m).advance make plan.steps.toNat).2.trace
    ((plan.start m).advance make plan.steps.toNat).1, ?_, hpass, hfail⟩
  rw [hlog]
  rfl

/-! ## The lines of a walk -/

/-- The actions that the trace tells as done when it is run as a script. -/
theorem executions_runScript_trace (plan : WalkPlan) (make : Factory σ) (m : Model σ) :
    (Model.runScript make (plan.run make m).value.1.trace m).log.executions =
      make.told (plan.run make m).value.1.completed m.supply := by
  cases hverdict : (plan.run make m).value.1.verdict with
  | pass =>
    have hruns := runs_of_pass hverdict
    rw [Report.completed, hverdict, (run_of_runs hruns).1]
    exact Model.executions_runScript_of_runs hruns
  | fail step reason =>
    obtain ⟨p, m', expected, actual, htrace, hruns, hfail, -⟩ := exists_mismatch_of_fail hverdict
    have hquiet : (m'.execute make .count).log.executions = [] := by
      simp [Log.executions_eq_nil_iff, Model.events_execute_of_mismatch make hfail]
    rw [Report.completed, hverdict, htrace, Model.log_runScript_append_of_runs hruns,
      Model.log_runScript_cons_of_failure hfail, Log.executions_append, hquiet, List.append_nil,
      List.dropLast_concat]
    exact Model.executions_runScript_of_runs hruns

/-- The actions that a walk tells as done. -/
theorem executions_run (plan : WalkPlan) (make : Factory σ) (m : Model σ) :
    (plan.run make m).log.executions =
      (make.told (plan.run make m).value.1.completed m.supply).map (Line.under (.walk plan)) := by
  obtain ⟨last, hlog, hpass, hfail⟩ := exists_log_run plan make m
  have hother : ∀ a, last ≠ .executed a := by
    intro a
    cases hverdict : (plan.run make m).value.1.verdict with
    | pass =>
      rw [hpass hverdict]
      exact Event.noConfusion
    | fail step reason =>
      obtain ⟨b, e, -, -, rfl⟩ := hfail step reason hverdict
      exact Event.noConfusion
  rw [hlog, Log.executions_within, Log.executions_append_event_of_ne _ _ hother,
    executions_runScript_trace]

/-- A walk that fails tells last, before the failure, the values of the mismatch. -/
theorem exists_lines_trace_of_fail {step : UInt64} {reason : String}
    (h : (plan.run make m).value.1.verdict = .fail step reason) :
    ∃ expected actual before, reason = (ModelError.countMismatch expected actual).message ∧
      (Model.runScript make (plan.run make m).value.1.trace m).log.lines .full =
        before ++ [⟨.warn, "Count mismatch: expected " ++ Text.integer expected ++ ", got " ++
          Text.integer actual, [(Span.action .count).describe]⟩] := by
  obtain ⟨p, m', expected, actual, htrace, hruns, hfail, hreason⟩ := exists_mismatch_of_fail h
  refine ⟨expected, actual, (Model.runScript make p m).log.lines .full, hreason, ?_⟩
  rw [htrace, Model.log_runScript_append_of_runs hruns, Model.log_runScript_cons_of_failure hfail,
    Log.lines_append, Log.lines_full (m'.execute make .count).log,
    Model.events_execute_of_mismatch make hfail]
  rfl

/-- The log of a walk agrees with its report.  Its lines are those of the trace, run as a script on
the same model, with the span of the walk around each, and a closing one that has no other span and
tells how the walk ended.  So the actions that are told as done are those of the trace in order, all
but the last if the walk failed, each after what the making of a counter for it tells of others; and
before the closing line of a walk that failed stand the values that its reason gives. -/
theorem lines_run (plan : WalkPlan) (make : Factory σ) (m : Model σ) :
    let r := (plan.run make m).value.1
    let log := (plan.run make m).log
    let span := (Span.walk plan).describe
    ∃ closing : Line,
      log.lines .full =
        ((Model.runScript make r.trace m).log.lines .full).map (Line.under (.walk plan)) ++
          [closing] ∧
      (r.verdict = .pass →
        closing = ⟨.info, "Walk passed after " ++ toString r.trace.length ++ " steps", [span]⟩) ∧
      (∀ step reason, r.verdict = .fail step reason →
        (∃ a, r.trace.getLast? = some a ∧
          closing = ⟨.warn, "Walk failed at step " ++ Text.natural step ++ " on " ++ a.label ++
            ": " ++ reason, [span]⟩) ∧
        ∃ expected actual before,
          reason = (ModelError.countMismatch expected actual).message ∧
          log.lines .full = before ++
            [⟨.warn, "Count mismatch: expected " ++ Text.integer expected ++ ", got " ++
              Text.integer actual, [span, (Span.action .count).describe]⟩, closing]) ∧
      log.executions = (make.told r.completed m.supply).map (Line.under (.walk plan)) ∧
      (make.Discreet →
        log.executions =
          r.completed.map fun a => ⟨.debug, "Executed " ++ a.label,
            [span, (Span.action a).describe]⟩) := by
  intro r log span
  obtain ⟨last, hlog, hpass, hfail⟩ := exists_log_run plan make m
  have hlines : log.lines .full =
      ((Model.runScript make r.trace m).log.lines .full).map (Line.under (.walk plan)) ++
        [Line.ofEvent ([.walk plan], last)] := by
    simp only [log, hlog, Log.lines_within_full, Log.lines_append_event, List.map_append]
    rfl
  have hexecutions := executions_run plan make m
  refine ⟨Line.ofEvent ([.walk plan], last), hlines, ?_, ?_, hexecutions, ?_⟩
  · intro hverdict
    rw [hpass hverdict]
    rfl
  · intro step reason hverdict
    obtain ⟨a, e, ha, rfl, rfl⟩ := hfail step reason hverdict
    refine ⟨⟨a, ha, rfl⟩, ?_⟩
    obtain ⟨expected, actual, before, hreason, hbefore⟩ := exists_lines_trace_of_fail hverdict
    refine ⟨expected, actual, before.map (Line.under (.walk plan)), hreason, ?_⟩
    rw [hlines, hbefore, List.map_append, List.append_assoc]
    rfl
  · intro hdiscreet
    rw [hexecutions, hdiscreet.told_eq, List.map_map]
    rfl

end WalkPlan

end CounterWalk

import CounterWalk.Proofs.Json.Printing
import CounterWalk.Proofs.Report.Description

/-!
# Reports that are written and read back

A report is written as an object that describes it, whether or not a walk could have come to it, and
of all reports the object describes only that one.  So the report is read back from both of its
texts, and what is told of it afterwards is the same.

Main results:

- Theorem `Report.describedBy_toJson`: a report is described by the object that is written for it;
- Theorem `Report.read_rendered`: it is read back from its compact and from its pretty text.
-/

namespace CounterWalk

open Json

theorem Action.listedBy_toJson (as : List Action) : ListedBy as (.array (as.map toJson)) := by
  apply ListedBy.intro
  rw [List.forall₂_map_right_iff, List.forall₂_same]
  intro a _
  exact .name a

namespace Report

variable (r : Report)

/-- A report is described by the object that is written for it. -/
theorem describedBy_toJson : ∃ ms, r.toJson = .object ms ∧ r.DescribedBy ms := by
  refine ⟨_, rfl, ?_⟩
  obtain ⟨seed, stepsExecuted, trace, verdict⟩ := r
  cases verdict with
  | pass =>
    refine ⟨rfl, rfl, ⟨_, rfl, Action.listedBy_toJson trace⟩, ⟨_, rfl, .name .pass⟩, ?_⟩
    rintro _ _ ⟨⟩
  | fail step reason =>
    refine ⟨rfl, rfl, ⟨_, rfl, Action.listedBy_toJson trace⟩, ⟨_, rfl, .name .fail⟩, ?_⟩
    rintro _ _ ⟨⟩
    exact ⟨rfl, rfl⟩

/-- What is written for a report has no reals, and its brackets do not nest deeply. -/
theorem fits_toJson : fits maxDepth r.toJson = true := by
  have htrace : (r.trace.map Action.toJson).all (fits 125) = true := by
    rw [List.all_map, List.all_eq_true]
    intro a _
    rfl
  have hdetails : r.verdict.details.all (fun m => fits 126 m.2) = true := by
    cases r.verdict <;> rfl
  change ([("seed", Json.ofWord r.seed), ("steps_executed", .ofWord r.stepsExecuted),
    ("trace", .array (r.trace.map Action.toJson))] ++ r.verdict.members).all
      (fun m => fits 126 m.2) = true
  rw [List.all_append, Verdict.members]
  simp only [List.all_cons, List.all_nil, hdetails, Bool.and_true, Bool.and_eq_true]
  exact ⟨⟨rfl, rfl, htrace⟩, rfl⟩

/-- A report is read back from the text that is written for it in a layout of blanks. -/
theorem readAll_render_toJson {layout : Layout} (hl : layout.IsBlank) :
    readAll read (r.toJson.render layout).toList = .ok r := by
  obtain ⟨ms, hms, hdescribed⟩ := r.describedBy_toJson
  rw [read_spelled.readAll (isTextOf_render hl r.fits_toJson), hms]
  exact ofJson_eq_ok.mpr hdescribed

/-- What is told of a report for people and by the exit status. -/
def outcome : String × Nat := (r.render false, r.verdict.exitStatus)

/-- A report is read back from its compact and from its pretty text, and the summary and the exit
status of what is read are those of the report. -/
theorem read_rendered :
    readAll read (r.toJson.render .compact).toList = .ok r ∧
      readAll read (r.render true).toList = .ok r ∧
      (readAll read (r.toJson.render .compact).toList).map outcome = .ok r.outcome ∧
      (readAll read (r.render true).toList).map outcome = .ok r.outcome := by
  have hcompact := r.readAll_render_toJson Layout.isBlank_compact
  have hpretty : readAll read (r.render true).toList = .ok r :=
    r.readAll_render_toJson Layout.isBlank_pretty
  refine ⟨hcompact, hpretty, ?_, ?_⟩
  · rw [hcompact]
    rfl
  · rw [hpretty]
    rfl

end Report

end CounterWalk

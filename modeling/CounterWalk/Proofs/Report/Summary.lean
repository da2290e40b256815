import CounterWalk.Proofs.Walk.Legality
import CounterWalk.Report.Encode

/-!
# What a summary tells

A summary is one line in which a free text may stand between numerals.  It is read off from both
ends: the first numeral ends at the first character that is no digit, the last one begins after the
last character that is none, and what is left between them is the free text, whatever it looks like.

Main results:

- Theorems `Report.eq_of_summary_of_pass` and `Report.eq_of_summary_of_fail`: what a summary tells
  can be read off it.
- Theorem `WalkPlan.isVisible_summary`: the summary of a walk is made of visible characters.
- Theorem `Report.summary_tells_outcome`: which reports have one summary, and that the summary of a
  walk is one line.
-/

namespace CounterWalk

namespace Text

/-- The characters at which a text is broken into lines. -/
def lineBreaks : List Char := ['\n', '\x0b', '\x0c', '\r', '\u0085', '\u2028', '\u2029']

/-- Whether a character is a space or one of the ASCII characters that show. -/
def isVisible (c : Char) : Bool := 0x20 ≤ c.toNat && c.toNat ≤ 0x7E

theorem notMem_lineBreaks_of_isVisible {c : Char} (h : isVisible c = true) : c ∉ lineBreaks := by
  have hnone : (lineBreaks.all fun c => !isVisible c) = true := by decide
  intro hmem
  have hc := List.all_eq_true.mp hnone c hmem
  rw [h] at hc
  contradiction

theorem isVisible_of_isDigit {c : Char} (h : c.isDigit = true) : isVisible c = true := by
  simp only [Char.isDigit, Bool.and_eq_true, decide_eq_true_eq] at h
  have hlow : 48 ≤ c.toNat := UInt32.le_iff_toNat_le.mp h.1
  have hhigh : c.toNat ≤ 57 := UInt32.le_iff_toNat_le.mp h.2
  simp only [isVisible, Bool.and_eq_true, decide_eq_true_eq]
  omega

/-- Whether a text is made of visible characters only. -/
def IsVisible (s : String) : Prop := s.toList.all isVisible = true

instance (s : String) : Decidable (IsVisible s) := inferInstanceAs (Decidable (_ = true))

theorem isVisible_iff {s : String} : IsVisible s ↔ ∀ c ∈ s.toList, isVisible c = true :=
  List.all_eq_true

@[simp]
theorem isVisible_append {s t : String} : IsVisible (s ++ t) ↔ IsVisible s ∧ IsVisible t := by
  rw [IsVisible, String.toList_append, List.all_append, Bool.and_eq_true]
  rfl

theorem isVisible_natural (v : UInt64) : IsVisible (natural v) :=
  isVisible_iff.mpr fun _ hc => isVisible_of_isDigit (isDigit_of_mem_natural hc)

theorem isVisible_integer (v : Int64) : IsVisible (integer v) := by
  rw [isVisible_iff]
  intro c hc
  rcases isDigit_of_mem_integer hc with rfl | hdigit
  · decide
  · exact isVisible_of_isDigit hdigit

end Text

/-! ## What a summary tells -/

namespace Report

variable {r r' : Report}

theorem summary_of_pass (h : r.verdict = .pass) :
    r.summary =
      "pass: " ++ Text.natural r.stepsExecuted ++ " steps, seed " ++ Text.natural r.seed := by
  rw [summary, h]

theorem summary_of_fail {step : UInt64} {reason : String} (h : r.verdict = .fail step reason) :
    r.summary = "fail at step " ++ Text.natural step ++ ": " ++ reason ++ " (seed " ++
      Text.natural r.seed ++ ")" := by
  rw [summary, h]

/-- A summary begins with a letter that tells the kind of the verdict. -/
theorem head?_summary (r : Report) :
    r.summary.toList.head? = some (match r.verdict.kind with | .pass => 'p' | .fail => 'f') := by
  cases h : r.verdict with
  | pass =>
    have hlead : "pass: ".toList.head? = some 'p' := by decide
    simp only [summary_of_pass h, String.toList_append, List.append_assoc, List.head?_append, hlead]
    rfl
  | fail step reason =>
    have hlead : "fail at step ".toList.head? = some 'f' := by decide
    simp only [summary_of_fail h, String.toList_append, List.append_assoc, List.head?_append, hlead]
    rfl

theorem kind_eq_of_summary_eq (h : r.summary = r'.summary) :
    r.verdict.kind = r'.verdict.kind := by
  have hhead := congrArg (fun s => s.toList.head?) h
  simp only [head?_summary, Option.some.injEq] at hhead
  cases hr : r.verdict.kind with
  | pass => cases hr' : r'.verdict.kind <;> simp_all
  | fail => cases hr' : r'.verdict.kind <;> simp_all

/-- Of walks that passed a summary tells the number of steps and the seed. -/
theorem eq_of_summary_of_pass (hr : r.verdict = .pass) (hr' : r'.verdict = .pass)
    (h : r.summary = r'.summary) : r.stepsExecuted = r'.stepsExecuted ∧ r.seed = r'.seed := by
  have hstop (v : UInt64) :
      ∀ c ∈ (" steps, seed " ++ Text.natural v).toList.head?, c.isDigit = false := by
    have hlead : " steps, seed ".toList.head? = some ' ' := by decide
    rw [String.toList_append, List.head?_append, hlead]
    rintro c ⟨⟩
    decide
  rw [summary_of_pass hr, summary_of_pass hr', String.append_assoc, String.append_assoc,
    String.append_assoc, String.append_assoc, String.append_right_inj] at h
  obtain ⟨hsteps, hrest⟩ := Text.natural_append_inj (hstop _) (hstop _) h
  exact ⟨hsteps, Text.natural_injective ((String.append_right_inj _).mp hrest)⟩

/-- Of walks that failed a summary tells the step, the reason and the seed. -/
theorem eq_of_summary_of_fail {step step' : UInt64} {reason reason' : String}
    (hr : r.verdict = .fail step reason) (hr' : r'.verdict = .fail step' reason')
    (h : r.summary = r'.summary) : step = step' ∧ reason = reason' ∧ r.seed = r'.seed := by
  have hbefore (s : String) : ∀ c ∈ (s ++ " (seed ").toList.getLast?, c.isDigit = false := by
    have hend : " (seed ".toList.getLast? = some ' ' := by decide
    rw [String.toList_append, List.getLast?_append, hend]
    rintro c ⟨⟩
    decide
  have hafter (s : String) : ∀ c ∈ (": " ++ s).toList.head?, c.isDigit = false := by
    have hlead : ": ".toList.head? = some ':' := by decide
    rw [String.toList_append, List.head?_append, hlead]
    rintro c ⟨⟩
    decide
  rw [summary_of_fail hr, summary_of_fail hr', String.append_left_inj] at h
  obtain ⟨hfront, hseed⟩ := Text.append_natural_inj (hbefore _) (hbefore _) h
  rw [String.append_left_inj, String.append_assoc, String.append_assoc, String.append_assoc,
    String.append_assoc, String.append_right_inj] at hfront
  obtain ⟨hstep, hreason⟩ := Text.natural_append_inj (hafter _) (hafter _) hfront
  exact ⟨hstep, (String.append_right_inj _).mp hreason, hseed⟩

/-- Reports have one summary if they agree in what it tells, and only then. -/
theorem summary_eq_iff (r r' : Report) :
    r.summary = r'.summary ↔
      r.seed = r'.seed ∧ r.verdict = r'.verdict ∧
        (r.verdict = .pass → r.stepsExecuted = r'.stepsExecuted) := by
  constructor
  · intro h
    have hkind := kind_eq_of_summary_eq h
    cases hr : r.verdict with
    | pass =>
      cases hr' : r'.verdict with
      | pass =>
        obtain ⟨hsteps, hseed⟩ := eq_of_summary_of_pass hr hr' h
        exact ⟨hseed, rfl, fun _ => hsteps⟩
      | fail step' reason' => simp [hr, hr', Verdict.kind] at hkind
    | fail step reason =>
      cases hr' : r'.verdict with
      | pass => simp [hr, hr', Verdict.kind] at hkind
      | fail step' reason' =>
        obtain ⟨rfl, rfl, hseed⟩ := eq_of_summary_of_fail hr hr' h
        exact ⟨hseed, rfl, fun hpass => nomatch hpass⟩
  · rintro ⟨hseed, hverdict, hsteps⟩
    cases hr : r.verdict with
    | pass =>
      rw [summary_of_pass hr, summary_of_pass (hverdict ▸ hr), hseed, hsteps hr]
    | fail step reason =>
      rw [summary_of_fail hr, summary_of_fail (hverdict ▸ hr), hseed]

end Report

/-! ## The summary of a walk -/

theorem ModelError.isVisible_message_countMismatch (e v : Int64) :
    Text.IsVisible (countMismatch e v).message := by
  simp only [message_countMismatch, Text.isVisible_append]
  exact ⟨⟨⟨by decide, Text.isVisible_integer e⟩, by decide⟩, Text.isVisible_integer v⟩

/-- The summary of a walk is made of visible characters: its reason, if it failed, tells of a
mismatch. -/
theorem WalkPlan.isVisible_summary {σ : Type} (plan : WalkPlan) (make : Factory σ) (m : Model σ) :
    Text.IsVisible (plan.run make m).value.1.summary := by
  cases h : (plan.run make m).value.1.verdict with
  | pass =>
    simp only [Report.summary_of_pass h, Text.isVisible_append]
    exact ⟨⟨⟨by decide, Text.isVisible_natural _⟩, by decide⟩, Text.isVisible_natural _⟩
  | fail step reason =>
    obtain ⟨-, -, expected, actual, -, -, -, rfl⟩ := exists_mismatch_of_fail h
    have hreason := ModelError.isVisible_message_countMismatch expected actual
    simp only [Report.summary_of_fail h, Text.isVisible_append]
    exact ⟨⟨⟨⟨⟨⟨by decide, Text.isVisible_natural _⟩, by decide⟩, hreason⟩, by decide⟩,
      Text.isVisible_natural _⟩, by decide⟩

namespace Report

/-- Two reports, of walks or not, have one summary exactly if they agree on the seed and on the
verdict, and on the number of steps if they tell of walks that passed; so a summary tells the exit
status.  The summary of a walk is one line. -/
theorem summary_tells_outcome :
    (∀ r r' : Report, r.summary = r'.summary ↔
      r.seed = r'.seed ∧ r.verdict = r'.verdict ∧
        (r.verdict = .pass → r.stepsExecuted = r'.stepsExecuted)) ∧
    (∀ r r' : Report, r.summary = r'.summary → r.verdict.exitStatus = r'.verdict.exitStatus) ∧
    ∀ {σ : Type} (plan : WalkPlan) (make : Factory σ) (m : Model σ),
      ∀ c ∈ Text.lineBreaks, c ∉ (plan.run make m).value.1.summary.toList := by
  refine ⟨summary_eq_iff, ?_, ?_⟩
  · intro r r' h
    obtain ⟨-, hverdict, -⟩ := (summary_eq_iff r r').mp h
    rw [hverdict]
  · intro σ plan make m c hbreak hc
    have hvisible := Text.isVisible_iff.mp (plan.isVisible_summary make m) c hc
    exact Text.notMem_lineBreaks_of_isVisible hvisible hbreak

/-- A reason that imitates what may stand around it does not hide the step and the seed. -/
example :
    (Report.mk 7 2 [] (.fail 1 "x (seed 7)")).summary ≠
      (Report.mk 7 2 [] (.fail 1 "x")).summary := by
  decide

end Report

end CounterWalk

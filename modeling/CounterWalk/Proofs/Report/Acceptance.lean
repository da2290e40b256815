import CounterWalk.Proofs.Json.Printing
import CounterWalk.Proofs.Report.Description

/-!
# Which objects are read as a report

Of all texts of JSON objects, those are read as a report that tell one by their members, whatever
the order of the members, the blanks between them and the way in which strings are escaped.  What is
read is the report that is told, and members that do not tell it have no influence on it.

A text of an object is one that spells it; by `Json.readAll_readValue_eq_ok` these are the texts that
are read as the object when any value is wanted.

Main definition:

- `Report.ToldBy`: members that tell some report.

Main results:

- Theorem `Report.toldBy_iff`: members that tell a report are those that describe one;
- Theorem `Report.read_accepts`: an object is read as a report if and only if its members tell one.
-/

namespace CounterWalk

open Json

namespace Report

/-- Members that tell a report: exactly one seed and one count of steps, both unsigned words, which
are spelled by plain digits only; exactly one trace, a list of actions; and exactly one verdict,
beside which a failed walk has exactly one step, a word, and exactly one reason, a string. -/
structure ToldBy (ms : List (String × Json)) : Prop where
  seed : ∃ n, valuesOf "seed" ms = [.ofWord n]
  stepsExecuted : ∃ n, valuesOf "steps_executed" ms = [.ofWord n]
  trace : ∃ items, valuesOf "trace" ms = [.array items] ∧ ∀ v ∈ items, ∃ a, Action.NamedBy a v
  verdict : ∃ kind v, valuesOf "verdict" ms = [v] ∧ VerdictName.NamedBy kind v ∧
    (kind = .fail → (∃ n, valuesOf "step" ms = [.ofWord n]) ∧
      ∃ s, valuesOf "reason" ms = [.string s])

/-- The names of the members that matter for a report. -/
def names (r : Report) : List String :=
  ["seed", "steps_executed", "trace", "verdict"] ++ r.verdict.details.map Prod.fst

variable {r : Report} {ms ms' : List (String × Json)} {text : List Char}

theorem exists_forall₂_iff {α β : Type} {R : α → β → Prop} {bs : List β} :
    (∃ as, List.Forall₂ R as bs) ↔ ∀ b ∈ bs, ∃ a, R a b := by
  induction bs with
  | nil => simp
  | cons b bs ih =>
    rw [List.forall_mem_cons, ← ih]
    constructor
    · rintro ⟨as, h⟩
      cases h with
      | cons ha has => exact ⟨⟨_, ha⟩, _, has⟩
    · rintro ⟨⟨a, ha⟩, as, has⟩
      exact ⟨a :: as, .cons ha has⟩

/-- A verdict can be made of its name and what stands beside it. -/
theorem exists_verdict {kind : VerdictName}
    (h : kind = .fail → (∃ n, valuesOf "step" ms = [.ofWord n]) ∧
      ∃ s, valuesOf "reason" ms = [.string s]) :
    ∃ v : Verdict, v.kind = kind ∧ ∀ step reason, v = .fail step reason →
      valuesOf "step" ms = [.ofWord step] ∧ valuesOf "reason" ms = [.string reason] := by
  cases kind with
  | pass => exact ⟨.pass, rfl, by rintro _ _ ⟨⟩⟩
  | fail =>
    obtain ⟨⟨n, hn⟩, s, hs⟩ := h rfl
    refine ⟨.fail n s, rfl, ?_⟩
    rintro _ _ ⟨⟩
    exact ⟨hn, hs⟩

/-- Members that tell a report are those that describe one. -/
theorem toldBy_iff : ToldBy ms ↔ ∃ r : Report, r.DescribedBy ms := by
  constructor
  · rintro ⟨⟨seed, hseed⟩, ⟨steps, hsteps⟩, ⟨items, htrace, hitems⟩, kind, v, hv, hkind, hfail⟩
    obtain ⟨as, has⟩ := exists_forall₂_iff.mpr hitems
    obtain ⟨verdict, rfl, hdetails⟩ := exists_verdict hfail
    exact ⟨⟨seed, steps, as, verdict⟩, hseed, hsteps, ⟨_, htrace, .intro has⟩, ⟨v, hv, hkind⟩,
      hdetails⟩
  · rintro ⟨r, hseed, hsteps, ⟨_, htrace, ⟨hitems⟩⟩, ⟨v, hv, hkind⟩, hdetails⟩
    refine ⟨⟨_, hseed⟩, ⟨_, hsteps⟩, ⟨_, htrace, exists_forall₂_iff.mp ⟨_, hitems⟩⟩,
      r.verdict.kind, v, hv, hkind, ?_⟩
    intro hfail
    cases hverdict : r.verdict with
    | pass =>
      rw [hverdict] at hfail
      cases hfail
    | fail step reason =>
      obtain ⟨hstep, hreason⟩ := hdetails step reason hverdict
      exact ⟨⟨step, hstep⟩, reason, hreason⟩

/-- Only the members that matter decide which report is described. -/
theorem DescribedBy.congr (h : r.DescribedBy ms)
    (hms : ∀ name ∈ r.names, valuesOf name ms' = valuesOf name ms) : r.DescribedBy ms' := by
  obtain ⟨hseed, hsteps, htrace, hkind, hdetails⟩ := h
  refine ⟨?_, ?_, ?_, ?_, ?_⟩
  · rwa [hms "seed" (by simp [names])]
  · rwa [hms "steps_executed" (by simp [names])]
  · rwa [hms "trace" (by simp [names])]
  · rwa [hms "verdict" (by simp [names])]
  · intro step reason hfail
    rw [hms "step" (by simp [names, hfail, Verdict.details]),
      hms "reason" (by simp [names, hfail, Verdict.details])]
    exact hdetails step reason hfail

/-- A text of an object is read as the reports that the object describes. -/
theorem readAll_read_eq_ok (h : IsTextOf (.object ms) text) :
    readAll read text = .ok r ↔ r.DescribedBy ms := by
  rw [read_spelled.readAll h, ofJson_eq_ok]

/-- An object is read as a report if and only if its members tell one.  What is read has exactly the
values that they tell, and it is read from every other object too that has the same values under the
names that matter.  The words among these values are spelled by plain digits and nothing else. -/
theorem read_accepts (h : IsTextOf (.object ms) text) :
    ((∃ r, readAll read text = .ok r) ↔ ToldBy ms) ∧
      (∀ r, readAll read text = .ok r ↔ r.DescribedBy ms) ∧
      (∀ r ms' text', readAll read text = .ok r → IsTextOf (.object ms') text' →
        (∀ name ∈ r.names, valuesOf name ms' = valuesOf name ms) →
        readAll read text' = .ok r) ∧
      ∀ depth n t, Spells depth (.ofWord n) t ↔ IsWhole t ∧ Text.digitsValue t = n.toNat := by
  refine ⟨?_, fun r => readAll_read_eq_ok h, ?_, fun _ _ _ => spells_natural_iff⟩
  · simp only [readAll_read_eq_ok h, toldBy_iff]
  · intro r ms' text' hread h' hms
    rw [readAll_read_eq_ok h] at hread
    rw [readAll_read_eq_ok h']
    exact hread.congr hms

/-- Two objects that tell one report, in another order and with another action as an object; one has
members of an unknown name, twice, that the other has not. -/
theorem read_accepts_mixed :
    let told := [("verdict", .ofWord 1), ("note", .null), ("seed", .ofWord 7),
      ("trace", .array [.string "Create", .object [("Count", .null)]]), ("note", .bool true),
      ("reason", .string "odd"), ("step", .ofWord 1), ("steps_executed", .ofWord 2)]
    let toldAgain := [("seed", .ofWord 7), ("steps_executed", .ofWord 2), ("step", .ofWord 1),
      ("trace", .array [.string "Create", .object [("Count", .null)]]), ("reason", .string "odd"),
      ("verdict", .ofWord 1)]
    let r : Report := ⟨7, 2, [.create, .count], .fail 1 "odd"⟩
    IsTextOf (.object told) ((object told).render .pretty).toList ∧
      IsTextOf (.object toldAgain) ((object toldAgain).render .compact).toList ∧
      (∀ name ∈ r.names, valuesOf name toldAgain = valuesOf name told) ∧ ToldBy told ∧
      readAll read ((object told).render .pretty).toList = .ok r ∧
      readAll read ((object toldAgain).render .compact).toList = .ok r := by
  intro told toldAgain r
  have htext : IsTextOf (.object told) ((object told).render .pretty).toList :=
    isTextOf_render Layout.isBlank_pretty rfl
  have htextAgain : IsTextOf (.object toldAgain) ((object toldAgain).render .compact).toList :=
    isTextOf_render Layout.isBlank_compact rfl
  have hvalues : ∀ name ∈ r.names, valuesOf name toldAgain = valuesOf name told := by
    have hnames : r.names = ["seed", "steps_executed", "trace", "verdict", "step", "reason"] := rfl
    rw [hnames]
    simp only [List.forall_mem_cons]
    exact ⟨rfl, rfl, rfl, rfl, rfl, rfl, by simp⟩
  have hdescribed : r.DescribedBy told := by
    refine ⟨rfl, rfl, ⟨_, rfl, .intro (.cons (.name .create) (.cons (.member .count) .nil))⟩,
      ⟨_, rfl, .fail⟩, ?_⟩
    rintro _ _ ⟨⟩
    exact ⟨rfl, rfl⟩
  obtain ⟨hiff, hdescribes, hothers, -⟩ := read_accepts htext
  have hread := (hdescribes r).mpr hdescribed
  exact ⟨htext, htextAgain, hvalues, hiff.mp ⟨r, hread⟩, hread,
    hothers r toldAgain _ hread htextAgain hvalues⟩

end Report

end CounterWalk

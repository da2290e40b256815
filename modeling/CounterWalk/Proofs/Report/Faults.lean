import CounterWalk.Proofs.Report.Acceptance

/-!
# Faults in a report's own members

The members of a report that are its own are judged while the object is read, or at its end if one
of them is absent; the verdict is looked for only after that.  So a fault in an own member is always
reported, and what the other members are has no influence on how: reading an object comes to reading
its own members, and then a verdict among the others.

As for `Report.read_accepts`, a text of an object is one that is read as the object when any value
is wanted (`Json.readAll_readValue_eq_ok`).

Main definitions:

- `Report.Complete`: members among which each own one is there once, with a value that fits;
- `Report.Fault`: what can be wrong with the own members, with the error that tells it;
- `Report.own`, `Report.others`: the own members and the others;
- `Report.ownParts`: what the own members make up.

Main results:

- Theorem `Report.ofJson_object`: an object is read in these two parts;
- Theorem `Report.fault_of_ownParts`: an error of the first part tells a fault;
- Theorem `Report.read_own_members_first`: which texts are refused for their own members, and that
  the error does not depend on the others.
-/

namespace CounterWalk

open Json

/-! ## What can be wrong -/

namespace Report

/-- A value of the shape that is asked for under a name of a report's own. -/
inductive Fits (name : String) (v : Json) : Prop where
  | word {n : UInt64} (hname : name = "seed" ∨ name = "steps_executed") (h : v = .ofWord n)
  | list {as : List Action} (hname : name = "trace") (h : Action.ListedBy as v)

/-- Each of a report's own members is there exactly once, with a value that fits. -/
def Complete (ms : List (String × Json)) : Prop :=
  ∀ name ∈ ReportMembers.names, ∃ v, valuesOf name ms = [v] ∧ Fits name v

/-- The error for a value of another shape under a name of a report's own. -/
inductive Misfit (name : String) (v : Json) : ReadError → Prop where
  | seed {e : ShapeError} (hname : name = "seed") (h : v.decodeWord .word = .error e) :
      Misfit name v (.shape e)
  | stepsExecuted {e : ShapeError} (hname : name = "steps_executed")
      (h : v.decodeWord .size = .error e) : Misfit name v (.shape e)
  | trace {e : ReadError} (hname : name = "trace") (h : Action.listOfJson v = .error e) :
      Misfit name v e

/-- What can be wrong with a report's own members, with the error that tells it. -/
inductive Fault (ms : List (String × Json)) : ReadError → Prop where
  | absent {name : String} (hname : name ∈ ReportMembers.names) (h : valuesOf name ms = []) :
      Fault ms (.shape (.missingField name))
  | repeated {name : String} (hname : name ∈ ReportMembers.names)
      (h : 2 ≤ (valuesOf name ms).length) : Fault ms (.shape (.repeatedField name))
  | misshapen {name : String} {v : Json} {e : ReadError} (hv : v ∈ valuesOf name ms)
      (h : Misfit name v e) : Fault ms e

/-- The members that are a report's own, in their order. -/
def own (ms : List (String × Json)) : List (String × Json) :=
  ms.filter fun m => m.1 ∈ ReportMembers.names

/-- The other members, in their order. -/
def others (ms : List (String × Json)) : List (String × Json) :=
  ms.filter fun m => m.1 ∉ ReportMembers.names

section

variable {name : String} {v : Json} {e : ReadError}

theorem fits_word (hname : name = "seed" ∨ name = "steps_executed") :
    Fits name v ↔ ∃ n, v = .ofWord n := by
  constructor
  · rintro (⟨-, rfl⟩ | ⟨rfl, -⟩)
    · exact ⟨_, rfl⟩
    · exact absurd hname (by decide)
  · rintro ⟨n, rfl⟩
    exact .word hname rfl

theorem fits_trace : Fits "trace" v ↔ ∃ as, Action.ListedBy as v := by
  constructor
  · rintro (⟨hname, -⟩ | ⟨-, hlisted⟩)
    · exact absurd hname (by decide)
    · exact ⟨_, hlisted⟩
  · rintro ⟨as, hlisted⟩
    exact .list rfl hlisted

/-- No error is made for a value that fits. -/
theorem Fits.not_misfit (h : Fits name v) : ¬ Misfit name v e := by
  have hword {n : UInt64} {wanted : Wanted} {e : ShapeError} :
      decodeWord wanted (.ofWord n) ≠ .error e := by
    simp [decodeWord_eq_ok.mpr rfl]
  rintro (⟨rfl, herror⟩ | ⟨rfl, herror⟩ | ⟨rfl, herror⟩)
  · obtain ⟨n, rfl⟩ := (fits_word (.inl rfl)).mp h
    exact hword herror
  · obtain ⟨n, rfl⟩ := (fits_word (.inr rfl)).mp h
    exact hword herror
  · obtain ⟨as, hlisted⟩ := fits_trace.mp h
    rw [Action.listOfJson_eq_ok.mpr hlisted] at herror
    cases herror

theorem Misfit.mem_names (h : Misfit name v e) : name ∈ ReportMembers.names := by
  obtain ⟨rfl, -⟩ | ⟨rfl, -⟩ | ⟨rfl, -⟩ := h <;> decide

/-- Where nothing is absent, repeated or misshapen there is no fault. -/
theorem Complete.not_fault {ms : List (String × Json)} (h : Complete ms) : ¬ Fault ms e := by
  rintro (⟨hname, habsent⟩ | ⟨hname, hrepeated⟩ | ⟨hv, hmisfit⟩)
  · obtain ⟨v, hv, -⟩ := h _ hname
    rw [hv] at habsent
    cases habsent
  · obtain ⟨v, hv, -⟩ := h _ hname
    rw [hv] at hrepeated
    exact absurd hrepeated (by simp)
  · rename_i name v
    obtain ⟨w, hw, hfits⟩ := h name hmisfit.mem_names
    rw [hw, List.mem_singleton] at hv
    exact hfits.not_misfit (hv ▸ hmisfit)

end

end Report

/-! ## The own members by themselves -/

/-- The verdict that the kept members tell. -/
def Verdict.ofKept (ms : List (String × Json)) : Except ShapeError Verdict := do
  (← ms.foldlM VerdictMembers.add {}).verdict

namespace ReportMembers

/-- What has been seen of the own members. -/
def withoutOthers (f : ReportMembers) : ReportMembers := { f with others := [] }

/-- The parts of a report that its own members tell. -/
def parts (f : ReportMembers) : Except ShapeError (UInt64 × UInt64 × List Action) := do
  return (← require "seed" f.seed, ← require "steps_executed" f.stepsExecuted,
    ← require "trace" f.trace)

variable {f : ReportMembers} {ms : List (String × Json)} {m : String × Json}

/-- The verdict is looked for after the own members. -/
theorem report_eq (f : ReportMembers) : f.report = f.parts >>= fun p =>
    (Verdict.ofKept f.others.reverse).map fun v => ⟨p.1, p.2.1, p.2.2, v⟩ := by
  obtain ⟨seed, stepsExecuted, trace, others⟩ := f
  cases seed with
  | none => rfl
  | some seed =>
    cases stepsExecuted with
    | none => rfl
    | some stepsExecuted =>
      cases trace with
      | none => rfl
      | some trace =>
        change (others.reverse.foldlM VerdictMembers.add {} >>= fun t => t.verdict >>= _) =
          (others.reverse.foldlM VerdictMembers.add {} >>= VerdictMembers.verdict).map _
        cases others.reverse.foldlM VerdictMembers.add {} with
        | error e => rfl
        | ok t =>
          change t.verdict >>= _ = t.verdict.map _
          cases t.verdict <;> rfl

/-- What an own member adds does not depend on what has been kept. -/
theorem map_withoutOthers_add_own (hm : m.1 ∈ names) :
    (f.add m).map withoutOthers = f.withoutOthers.add m := by
  obtain ⟨name, v⟩ := m
  obtain ⟨seed, stepsExecuted, trace, others⟩ := f
  simp only [names, List.mem_cons, List.not_mem_nil, or_false] at hm
  rcases hm with rfl | rfl | rfl
  · rw [add_seed, add_seed]
    cases seed <;> cases v.decodeWord .word <;> rfl
  · rw [add_stepsExecuted, add_stepsExecuted]
    cases stepsExecuted <;> cases v.decodeWord .size <;> rfl
  · rw [add_trace, add_trace]
    cases trace <;> cases Action.listOfJson v <;> rfl

/-- What has been seen of the own members is told by them alone. -/
theorem map_withoutOthers_foldlM_add (ms : List (String × Json)) (f : ReportMembers) :
    (ms.foldlM add f).map withoutOthers = (Report.own ms).foldlM add f.withoutOthers := by
  induction ms generalizing f with
  | nil => rfl
  | cons m ms ih =>
    -- An own member does to both passes the same, and any other one is only there in the first.
    by_cases hm : m.1 ∈ names
    · have hown : Report.own (m :: ms) = m :: Report.own ms := List.filter_cons_of_pos (by simpa)
      rw [hown, List.foldlM_cons, List.foldlM_cons, ← map_withoutOthers_add_own hm]
      cases f.add m with
      | error e => rfl
      | ok g => exact ih g
    · have hown : Report.own (m :: ms) = Report.own ms := List.filter_cons_of_neg (by simpa)
      have hadd : f.add m = .ok { f with others := m :: f.others } := add_other f m.2 hm
      rw [hown, List.foldlM_cons, hadd]
      exact ih _

end ReportMembers

namespace Report

/-- What the own members make up: the seed, the number of steps and the trace. -/
def ownParts (ms : List (String × Json)) : Except ReadError (UInt64 × UInt64 × List Action) := do
  (← ms.foldlM ReportMembers.add {}).parts.mapError .shape

variable {ms ms' : List (String × Json)} {text : List Char} {e : ReadError}

/-- The other members have no influence on what the own ones make up. -/
theorem ownParts_eq_of_own_eq (h : own ms' = own ms) : ownParts ms' = ownParts ms := by
  have hparts (l : List (String × Json)) : ownParts l =
      (l.foldlM ReportMembers.add {}).map ReportMembers.withoutOthers >>= fun f =>
        f.parts.mapError .shape := by
    rw [ownParts]
    cases l.foldlM ReportMembers.add {} <;> rfl
  rw [hparts, hparts, ReportMembers.map_withoutOthers_foldlM_add,
    ReportMembers.map_withoutOthers_foldlM_add, h]

/-- An object is read in two parts: its own members, and then a verdict among the others. -/
theorem ofJson_object (ms : List (String × Json)) : ofJson (.object ms) = ownParts ms >>= fun p =>
    ((Verdict.ofKept (others ms)).mapError ReadError.shape).map fun v =>
      ⟨p.1, p.2.1, p.2.2, v⟩ := by
  rw [ofJson, ownParts]
  cases hf : ms.foldlM ReportMembers.add {} with
  | error e => rfl
  | ok f =>
    have hothers : f.others.reverse = others ms := (ReportMembers.foldlM_add_eq_ok.mp hf).others
    change f.report.mapError ReadError.shape = _
    rw [ReportMembers.report_eq, hothers]
    change _ = f.parts.mapError ReadError.shape >>= _
    cases f.parts with
    | error e => rfl
    | ok p =>
      change Except.mapError _ (Except.map _ _) = Except.map _ (Except.mapError _ _)
      cases Verdict.ofKept (others ms) <;> rfl

/-- The own members make up what they say, if each is there once. -/
theorem ownParts_eq_ok {seed steps : UInt64} {trace : List Action} :
    ownParts ms = .ok (seed, steps, trace) ↔ valuesOf "seed" ms = [.ofWord seed] ∧
      valuesOf "steps_executed" ms = [.ofWord steps] ∧
      ∃ v, valuesOf "trace" ms = [v] ∧ Action.ListedBy trace v := by
  simp only [ownParts, bind_eq_ok, mapError_eq_ok, ReportMembers.foldlM_add_eq_ok,
    ReportMembers.parts, require_eq_ok, pure_eq_ok]
  constructor
  · rintro ⟨f, ⟨hs, hn, ht, -⟩, s, hseed, n, hsteps, t, htrace, ⟨⟩⟩
    rw [hseed, told_some] at hs
    rw [hsteps, told_some] at hn
    rw [htrace, told_some] at ht
    obtain ⟨_, hs, rfl⟩ := hs
    obtain ⟨_, hn, rfl⟩ := hn
    exact ⟨hs, hn, ht⟩
  · rintro ⟨hseed, hsteps, htrace⟩
    exact ⟨⟨some seed, some steps, some trace, (others ms).reverse⟩,
      ⟨told_some.mpr ⟨_, hseed, rfl⟩, told_some.mpr ⟨_, hsteps, rfl⟩, told_some.mpr htrace,
        List.reverse_reverse _⟩, seed, rfl, steps, rfl, trace, rfl, rfl⟩

/-- The own members make something up if and only if they are complete. -/
theorem complete_iff : Complete ms ↔ ∃ p, ownParts ms = .ok p := by
  simp only [Prod.exists, ownParts_eq_ok, Complete, ReportMembers.names, List.forall_mem_cons,
    fits_word (.inl rfl), fits_word (.inr rfl), fits_trace]
  constructor
  · rintro ⟨⟨_, hseed, seed, rfl⟩, ⟨_, hsteps, steps, rfl⟩, ⟨v, hv, trace, hlisted⟩, -⟩
    exact ⟨seed, steps, trace, hseed, hsteps, v, hv, hlisted⟩
  · rintro ⟨seed, steps, trace, hseed, hsteps, v, hv, hlisted⟩
    exact ⟨⟨_, hseed, seed, rfl⟩, ⟨_, hsteps, steps, rfl⟩, ⟨v, hv, trace, hlisted⟩, by simp⟩

end Report

/-! ## The error that is reported -/

theorem Json.mapError_eq_error {ε ε' α : Type} {x : Except ε α} {f : ε → ε'} {e' : ε'} :
    x.mapError f = .error e' ↔ ∃ e, x = .error e ∧ f e = e' := by
  cases x <;> simp [Except.mapError]

/-- A pass that fails does so at some member, after those before it have been taken. -/
theorem Json.exists_of_foldlM_eq_error {ε σ μ : Type} {step : σ → μ → Except ε σ} {s : σ}
    {ms : List μ} {e : ε} (h : ms.foldlM step s = .error e) :
    ∃ before m after t, ms = before ++ m :: after ∧ before.foldlM step s = .ok t ∧
      step t m = .error e := by
  induction ms generalizing s with
  | nil => cases h
  | cons m ms ih =>
    rw [List.foldlM_cons] at h
    cases hstep : step s m with
    | error e' =>
      rw [hstep] at h
      cases h
      exact ⟨[], m, ms, s, rfl, rfl, hstep⟩
    | ok t =>
      rw [hstep] at h
      obtain ⟨before, n, after, u, rfl, hbefore, hn⟩ := ih h
      refine ⟨m :: before, n, after, u, rfl, ?_, hn⟩
      rw [List.foldlM_cons, hstep]
      exact hbefore

namespace ReportMembers

variable {f : ReportMembers} {ms : List (String × Json)} {name : String} {v : Json} {e : ReadError}

/-- What is told only once is refused if it has been told before, or for its value. -/
theorem slot_eq_error {α β : Type} {stands : β → Json → Prop} {o : Option β} {vs : List Json}
    {x : Except ReadError α} {put : α → ReportMembers} (htold : Told stands o vs)
    (h : ((refuseRepeat name o).mapError ReadError.shape >>= fun _ => x >>= fun a =>
      pure (put a)) = .error e) :
    (vs ≠ [] ∧ e = .shape (.repeatedField name)) ∨ x = .error e := by
  cases o with
  | some b =>
    cases h
    obtain ⟨v, rfl, -⟩ := told_some.mp htold
    exact .inl ⟨List.cons_ne_nil v [], rfl⟩
  | none =>
    cases x with
    | error e' =>
      cases h
      exact .inr rfl
    | ok a => cases h

/-- A member that is refused repeats one before it or does not fit. -/
theorem Seen.of_add_eq_error (hseen : f.Seen ms) (h : f.add (name, v) = .error e) :
    name ∈ names ∧ ((valuesOf name ms ≠ [] ∧ e = .shape (.repeatedField name)) ∨
      Report.Misfit name v e) := by
  by_cases hname : name ∈ names
  · refine ⟨hname, ?_⟩
    simp only [names, List.mem_cons, List.not_mem_nil, or_false] at hname
    rcases hname with rfl | rfl | rfl
    · refine (slot_eq_error hseen.seed h).imp_right fun hvalue => ?_
      obtain ⟨e', he', rfl⟩ := mapError_eq_error.mp hvalue
      exact .seed rfl he'
    · refine (slot_eq_error hseen.stepsExecuted h).imp_right fun hvalue => ?_
      obtain ⟨e', he', rfl⟩ := mapError_eq_error.mp hvalue
      exact .stepsExecuted rfl he'
    · exact (slot_eq_error hseen.trace h).imp_right (.trace rfl)
  · rw [add_other f v hname] at h
    cases h

/-- A part that is asked for and not told is absent. -/
theorem Seen.of_parts_eq_error {e : ShapeError} (hseen : f.Seen ms) (h : f.parts = .error e) :
    ∃ name ∈ names, valuesOf name ms = [] ∧ e = .missingField name := by
  obtain ⟨seed, stepsExecuted, trace, others⟩ := f
  cases seed with
  | none =>
    cases h
    exact ⟨"seed", by decide, told_none.mp hseen.seed, rfl⟩
  | some seed =>
    cases stepsExecuted with
    | none =>
      cases h
      exact ⟨"steps_executed", by decide, told_none.mp hseen.stepsExecuted, rfl⟩
    | some stepsExecuted =>
      cases trace with
      | none =>
        cases h
        exact ⟨"trace", by decide, told_none.mp hseen.trace, rfl⟩
      | some trace => cases h

end ReportMembers

namespace Report

variable {ms : List (String × Json)} {e : ReadError}

/-- The error that the own members are refused with tells what is wrong with them. -/
theorem fault_of_ownParts (h : ownParts ms = .error e) : Fault ms e := by
  rw [ownParts] at h
  cases hf : ms.foldlM ReportMembers.add {} with
  | error e' =>
    rw [hf] at h
    cases h
    obtain ⟨before, ⟨name, v⟩, after, f, rfl, hbefore, hv⟩ := exists_of_foldlM_eq_error hf
    obtain ⟨hname, hfault⟩ := (ReportMembers.foldlM_add_eq_ok.mp hbefore).of_add_eq_error hv
    have hvalues : valuesOf name (before ++ (name, v) :: after) =
        valuesOf name before ++ v :: valuesOf name after := by
      simp [valuesOf]
    obtain ⟨hne, rfl⟩ | hmisfit := hfault
    · refine .repeated hname ?_
      have hpos := List.length_pos_iff.mpr hne
      rw [hvalues, List.length_append, List.length_cons]
      omega
    · refine .misshapen ?_ hmisfit
      rw [hvalues]
      exact List.mem_append_right _ List.mem_cons_self
  | ok f =>
    rw [hf] at h
    obtain ⟨e', he', rfl⟩ := mapError_eq_error.mp h
    obtain ⟨name, hname, habsent, rfl⟩ :=
      (ReportMembers.foldlM_add_eq_ok.mp hf).of_parts_eq_error he'
    exact .absent hname habsent

/-- There is a fault where the own members are not complete, and only there. -/
theorem exists_fault_iff : (∃ e, Fault ms e) ↔ ¬ Complete ms := by
  constructor
  · rintro ⟨e, hfault⟩ hcomplete
    exact hcomplete.not_fault hfault
  · intro h
    cases hparts : ownParts ms with
    | error e => exact ⟨e, fault_of_ownParts hparts⟩
    | ok p => exact absurd (complete_iff.mpr ⟨p, hparts⟩) h

/-- The own members of a report are judged first.  If one of them is absent, repeated or misshapen,
the object is not read, the error tells such a fault, and it is the same for every object with these
own members in this order, whatever its other members are and wherever they stand.  If there is no
such fault, the own members settle all of the report but its verdict, and an error is that of the
verdict among the other members. -/
theorem read_own_members_first (ms : List (String × Json)) :
    ((∃ e, Fault ms e) ↔ ¬ Complete ms) ∧
    (¬ Complete ms → ∃ e, Fault ms e ∧ ∀ ms' text, own ms' = own ms →
      IsTextOf (.object ms') text → readAll read text = .error e) ∧
    (Complete ms → ∃ seed steps trace, ∀ ms' text, own ms' = own ms →
      IsTextOf (.object ms') text → readAll read text =
        ((Verdict.ofKept (others ms')).mapError .shape).map (⟨seed, steps, trace, ·⟩)) := by
  have hread {ms' : List (String × Json)} {text : List Char} (hown : own ms' = own ms)
      (htext : IsTextOf (.object ms') text) : readAll read text = ownParts ms >>= fun p =>
        ((Verdict.ofKept (others ms')).mapError ReadError.shape).map (⟨p.1, p.2.1, p.2.2, ·⟩) := by
    rw [read_spelled.readAll htext, ofJson_object, ownParts_eq_of_own_eq hown]
  refine ⟨exists_fault_iff, ?_, ?_⟩
  · intro h
    cases hparts : ownParts ms with
    | error e =>
      refine ⟨e, fault_of_ownParts hparts, ?_⟩
      intro ms' text hown htext
      rw [hread hown htext, hparts]
      rfl
    | ok p => exact absurd (complete_iff.mpr ⟨p, hparts⟩) h
  · intro h
    obtain ⟨⟨seed, steps, trace⟩, hparts⟩ := complete_iff.mp h
    refine ⟨seed, steps, trace, ?_⟩
    intro ms' text hown htext
    rw [hread hown htext, hparts]
    rfl

/-- An object whose second seed is found before its trace is missed, with no verdict of any use and
with another one; and an object that lacks only a verdict. -/
theorem read_own_members_first_repeated_seed :
    let odd := [("verdict", .bool true), ("seed", .ofWord 1), ("seed", .ofWord 2)]
    let oddToo := [("seed", .ofWord 1), ("verdict", .string "pass"), ("step", .null),
      ("seed", .ofWord 2), ("verdict", .ofWord 1)]
    let whole := [("trace", .array []), ("seed", .ofWord 1), ("steps_executed", .ofWord 0)]
    (own oddToo = own odd ∧ ¬ Complete odd ∧
      readAll read ((object odd).render .compact).toList =
        .error (.shape (.repeatedField "seed")) ∧
      readAll read ((object oddToo).render .pretty).toList =
        .error (.shape (.repeatedField "seed"))) ∧
    Complete whole ∧ readAll read ((object whole).render .compact).toList =
      .error (.shape (.missingField "verdict")) := by
  intro odd oddToo whole
  have hodd : IsTextOf (.object odd) ((object odd).render .compact).toList :=
    isTextOf_render Layout.isBlank_compact rfl
  have hoddToo : IsTextOf (.object oddToo) ((object oddToo).render .pretty).toList :=
    isTextOf_render Layout.isBlank_pretty rfl
  have hwhole : IsTextOf (.object whole) ((object whole).render .compact).toList :=
    isTextOf_render Layout.isBlank_compact rfl
  have hown : own oddToo = own odd := rfl
  obtain ⟨hfault, hrefused, -⟩ := read_own_members_first odd
  obtain ⟨-, -, hread⟩ := read_own_members_first whole
  have hname : "seed" ∈ ReportMembers.names := by decide
  have hincomplete : ¬ Complete odd := hfault.mp ⟨_, .repeated hname le_rfl⟩
  have hcomplete : Complete whole := complete_iff.mpr ⟨(1, 0, []), rfl⟩
  obtain ⟨e, -, herror⟩ := hrefused hincomplete
  have hseed : readAll read ((object odd).render .compact).toList =
      .error (.shape (.repeatedField "seed")) := by
    rw [read_spelled.readAll hodd]
    rfl
  obtain rfl : .shape (.repeatedField "seed") = e :=
    Except.error.inj (hseed.symm.trans (herror odd _ rfl hodd))
  obtain ⟨seed, steps, trace, hverdict⟩ := hread hcomplete
  exact ⟨⟨hown, hincomplete, hseed, herror oddToo _ hown hoddToo⟩, hcomplete,
    hverdict whole _ rfl hwhole⟩

end Report

end CounterWalk

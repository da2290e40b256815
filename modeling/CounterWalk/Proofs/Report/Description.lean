import CounterWalk.Proofs.Report.Decoding
import CounterWalk.Report.Encode
import Mathlib

/-!
# Objects that describe a report

Which report an object describes is said here by its members alone: each member that matters is
there exactly once and stands for one part of the report, and members of other names do not matter.
The readers find this out in three passes, over the members of the report, over those of the verdict
and over those of a failed verdict; every pass keeps what it has seen so far, and that is always
what the members so far say.

Main definitions:

- `Json.valuesOf`: the values of the members of one name;
- `Verdict.DescribedBy`, `Report.DescribedBy`: objects that describe a verdict or a report.

Main results:

- Theorems `FailureMembers.foldlM_add_eq_ok`, `VerdictMembers.foldlM_add_eq_ok` and
  `ReportMembers.foldlM_add_eq_ok`: what each pass has seen;
- Theorem `Report.ofJson_eq_ok`: an object is taken for the reports that it describes.
-/

namespace CounterWalk

open Json

/-! ## Members of one name -/

namespace Json

/-- The values of the members of a name, in their order. -/
def valuesOf (name : String) (ms : List (String × Json)) : List Json :=
  (ms.filter fun m => m.1 = name).map Prod.snd

section

variable {name other : String} {v : Json} {ms : List (String × Json)}

@[simp] theorem valuesOf_concat_self :
    valuesOf name (ms ++ [(name, v)]) = valuesOf name ms ++ [v] := by
  simp [valuesOf]

@[simp] theorem valuesOf_concat_of_ne (h : other ≠ name) :
    valuesOf name (ms ++ [(other, v)]) = valuesOf name ms := by
  simp [valuesOf, h]

/-- To leave out members of other names changes nothing. -/
theorem valuesOf_filter {p : String × Json → Bool} (h : ∀ v, p (name, v) = true) :
    valuesOf name (ms.filter p) = valuesOf name ms := by
  rw [valuesOf, List.filter_filter, valuesOf]
  congr 2
  funext m
  by_cases hm : m.1 = name
  · have := h m.2
    rw [← hm] at this
    simp [hm, this]
  · simp [hm]

end

/-! ## What one member says -/

section

variable {α : Type}

/-- What is known comes from the only value of a name, and nothing is known where there is no such
value. -/
def Told (stands : α → Json → Prop) (known : Option α) (vs : List Json) : Prop :=
  List.Forall₂ stands known.toList vs

/-- What is known before a member and after it, where only the first member of a name says
something. -/
def Takes (name : String) (stands : α → Json → Prop) (before : Option α) (m : String × Json)
    (after : Option α) : Prop :=
  if m.1 = name then before = none ∧ ∃ a, stands a m.2 ∧ after = some a else after = before

variable {name : String} {stands : α → Json → Prop} {a : α} {after : Option α}
  {vs : List Json} {ms : List (String × Json)}

theorem told_none : Told stands none vs ↔ vs = [] := by
  simp [Told]

theorem told_nil {known : Option α} : Told stands known [] ↔ known = none := by
  cases known <;> simp [Told]

theorem told_some : Told stands (some a) vs ↔ ∃ v, vs = [v] ∧ stands a v := by
  simp [Told, List.forall₂_cons_left_iff, and_comm]

/-- What the members so far say comes from what those before the last one say. -/
theorem told_concat (m : String × Json) :
    Told stands after (valuesOf name (ms ++ [m])) ↔
      ∃ before, Told stands before (valuesOf name ms) ∧ Takes name stands before m after := by
  obtain ⟨other, v⟩ := m
  unfold Takes
  by_cases hname : other = name
  · subst hname
    simp only [valuesOf_concat_self, if_true]
    constructor
    · intro h
      cases after with
      | none => exact absurd (told_none.mp h) (by simp)
      | some a =>
        obtain ⟨w, hw, ha⟩ := told_some.mp h
        have hsplit : valuesOf other ms ++ [v] = [] ++ [w] := hw
        obtain ⟨hvs, hv⟩ := List.append_inj' hsplit rfl
        cases hv
        exact ⟨none, told_none.mpr hvs, rfl, a, ha, rfl⟩
    · rintro ⟨before, hbefore, rfl, a, ha, rfl⟩
      rw [told_none.mp hbefore]
      exact told_some.mpr ⟨v, rfl, ha⟩
  · simp [valuesOf_concat_of_ne hname, hname]

/-- What is kept before a member and after it, the last one first. -/
def Keeps (p : String × Json → Bool) (before : List (String × Json)) (m : String × Json)
    (after : List (String × Json)) : Prop :=
  after = if p m then m :: before else before

theorem kept_concat {p : String × Json → Bool} {after : List (String × Json)}
    (m : String × Json) :
    after.reverse = (ms ++ [m]).filter p ↔
      ∃ before, before.reverse = ms.filter p ∧ Keeps p before m after := by
  unfold Keeps
  rw [List.filter_append]
  by_cases hp : p m
  · simp only [hp, List.filter_cons_of_pos, List.filter_nil, if_true]
    constructor
    · intro h
      refine ⟨(ms.filter p).reverse, List.reverse_reverse _, ?_⟩
      rw [List.reverse_eq_iff, List.reverse_append] at h
      exact h
    · rintro ⟨before, hbefore, rfl⟩
      rw [List.reverse_cons, hbefore]
  · simp [hp]

end

/-! ## What is read without an error -/

theorem bind_eq_ok {ε α β : Type} {x : Except ε α} {f : α → Except ε β} {b : β} :
    (x >>= f) = .ok b ↔ ∃ a, x = .ok a ∧ f a = .ok b := by
  cases x with
  | error e => constructor <;> simp [bind, Except.bind]
  | ok a => simp [bind, Except.bind]

theorem mapError_eq_ok {ε ε' α : Type} {x : Except ε α} {f : ε → ε'} {a : α} :
    x.mapError f = .ok a ↔ x = .ok a := by
  cases x <;> simp [Except.mapError]

theorem pure_eq_ok {ε α : Type} {a b : α} : (pure a : Except ε α) = .ok b ↔ a = b := by
  simp [pure, Except.pure]

theorem refuseRepeat_eq_ok {α : Type} {name : String} {o : Option α} {u : Unit} :
    refuseRepeat name o = .ok u ↔ o = none := by
  cases o <;> simp [refuseRepeat]

theorem require_eq_ok {α : Type} {name : String} {o : Option α} {a : α} :
    require name o = .ok a ↔ o = some a := by
  cases o <;> simp [require]

theorem decodeWord_eq_ok {wanted : Wanted} {v : Json} {n : UInt64} :
    decodeWord wanted v = .ok n ↔ v = .ofWord n := by
  unfold decodeWord
  split <;> simp_all [ofWord]

theorem decodeString_eq_ok {v : Json} {s : String} : decodeString v = .ok s ↔ v = .string s := by
  unfold decodeString
  split <;> simp_all

/-- A pass over members has seen what they say, if nothing has been seen before the first one, and
each member adds what it says. -/
theorem foldlM_eq_ok {ε σ μ : Type} {step : σ → μ → Except ε σ} {start : σ}
    {Seen : σ → List μ → Prop} (hnil : ∀ s, Seen s [] ↔ s = start)
    (hconcat : ∀ s ms m,
      Seen s (ms ++ [m]) ↔ ∃ before, Seen before ms ∧ step before m = .ok s)
    {ms : List μ} {s : σ} : ms.foldlM step start = .ok s ↔ Seen s ms := by
  induction ms using List.reverseRecOn generalizing s with
  | nil => rw [List.foldlM_nil, pure_eq_ok, hnil, eq_comm]
  | append_singleton ms m ih =>
    simp only [List.foldlM_append, List.foldlM_cons, List.foldlM_nil, bind_eq_ok, ih, hconcat,
      pure_eq_ok, exists_eq_right]

end Json

/-! ## Actions -/

/-- A value that stands for an action: its name, or an object whose only member has that name and
says nothing. -/
inductive Action.NamedBy : Action → Json → Prop where
  | name (a : Action) : NamedBy a (.string a.name)
  | member (a : Action) : NamedBy a (.object [(a.name, .null)])

/-- A list of values that stand for actions. -/
inductive Action.ListedBy : List Action → Json → Prop where
  | intro {as : List Action} {items : List Json} (h : List.Forall₂ NamedBy as items) :
      ListedBy as (.array items)

section

variable {a : Action} {as : List Action} {v : Json} {name : String}

theorem Action.decodeName_eq_ok : decodeName name = .ok a ↔ name = a.name := by
  unfold decodeName
  constructor
  · intro h
    split at h
    · rename_i b hb
      cases h
      exact (name_of_ofName? hb).symm
    · cases h
  · rintro rfl
    rw [ofName?_name]

theorem Json.decodeNothing_eq_ok {u : Unit} : v.decodeNothing = .ok u ↔ v = .null := by
  unfold decodeNothing
  split <;> simp_all

theorem Action.ofJson_eq_ok : ofJson v = .ok a ↔ a.NamedBy v := by
  constructor
  · intro h
    unfold ofJson at h
    split at h
    · rw [mapError_eq_ok, decodeName_eq_ok] at h
      rw [h]
      exact .name a
    · rename_i name v more
      simp only [bind_eq_ok, mapError_eq_ok, decodeName_eq_ok, decodeNothing_eq_ok] at h
      obtain ⟨b, rfl, u, rfl, h⟩ := h
      split at h
      · rename_i hmore
        obtain rfl : b = a := pure_eq_ok.mp h
        rw [List.isEmpty_iff] at hmore
        rw [hmore]
        exact .member b
      · cases h
    · cases h
  · rintro (_ | _)
    · exact mapError_eq_ok.mpr (decodeName_eq_ok.mpr rfl)
    · simp only [ofJson, bind_eq_ok, mapError_eq_ok, decodeName_eq_ok, decodeNothing_eq_ok]
      exact ⟨a, rfl, (), trivial, rfl⟩

theorem Json.mapM_eq_ok {ε α β : Type} {f : α → Except ε β} {xs : List α} {ys : List β} :
    xs.mapM f = .ok ys ↔ List.Forall₂ (fun y x => f x = .ok y) ys xs := by
  induction xs generalizing ys with
  | nil => simp [pure, Except.pure, eq_comm]
  | cons x xs ih =>
    simp only [List.mapM_cons, bind_eq_ok, pure_eq_ok, ih, List.forall₂_cons_right_iff]
    constructor
    · rintro ⟨y, hy, ys', hys, rfl⟩
      exact ⟨y, ys', hy, hys, rfl⟩
    · rintro ⟨y, ys', hy, hys, rfl⟩
      exact ⟨y, hy, ys', hys, rfl⟩

theorem Action.listOfJson_eq_ok : listOfJson v = .ok as ↔ ListedBy as v := by
  constructor
  · intro h
    unfold listOfJson at h
    split at h
    · simp only [mapM_eq_ok, ofJson_eq_ok] at h
      exact .intro h
    · cases h
  · rintro ⟨h⟩
    simp only [listOfJson, mapM_eq_ok, ofJson_eq_ok]
    exact h

end

/-! ## Failed walks -/

namespace FailureMembers

/-- What has been seen of a failed walk is what the members say. -/
structure Seen (f : FailureMembers) (ms : List (String × Json)) : Prop where
  step : Told (fun n v => v = .ofWord n) f.step (valuesOf "step" ms)
  reason : Told (fun s v => v = .string s) f.reason (valuesOf "reason" ms)

variable {f after : FailureMembers} {ms : List (String × Json)}

theorem add_eq_ok (m : String × Json) : f.add m = .ok after ↔
    Takes "step" (fun n v => v = .ofWord n) f.step m after.step ∧
      Takes "reason" (fun s v => v = .string s) f.reason m after.reason := by
  obtain ⟨name, v⟩ := m
  cases f
  cases after
  unfold add
  split
  · obtain rfl : name = "step" := ‹_›
    simp only [bind_eq_ok, refuseRepeat_eq_ok, decodeWord_eq_ok, pure_eq_ok, Takes]
    grind
  · obtain rfl : name = "reason" := ‹_›
    simp only [bind_eq_ok, refuseRepeat_eq_ok, decodeString_eq_ok, pure_eq_ok, Takes]
    grind
  · obtain ⟨hstep, hreason⟩ : name ≠ "step" ∧ name ≠ "reason" := ⟨‹_›, ‹_›⟩
    simp only [pure_eq_ok, Takes, hstep, hreason, if_false]
    grind

/-- After some members a pass has seen what they say. -/
theorem foldlM_add_eq_ok : ms.foldlM add {} = .ok f ↔ f.Seen ms := by
  apply foldlM_eq_ok
  · intro f
    constructor
    · rintro ⟨hstep, hreason⟩
      cases f
      rw [FailureMembers.mk.injEq]
      exact ⟨told_nil.mp hstep, told_nil.mp hreason⟩
    · rintro rfl
      exact ⟨told_nil.mpr rfl, told_nil.mpr rfl⟩
  · intro f ms m
    simp only [add_eq_ok]
    constructor
    · rintro ⟨hstep, hreason⟩
      obtain ⟨step, hstep, hstep'⟩ := (told_concat m).mp hstep
      obtain ⟨reason, hreason, hreason'⟩ := (told_concat m).mp hreason
      exact ⟨⟨step, reason⟩, ⟨hstep, hreason⟩, hstep', hreason'⟩
    · rintro ⟨before, ⟨hstep, hreason⟩, hstep', hreason'⟩
      exact ⟨(told_concat m).mpr ⟨_, hstep, hstep'⟩, (told_concat m).mpr ⟨_, hreason, hreason'⟩⟩

end FailureMembers

/-! ## Verdicts -/

/-- A value that names a verdict: its name, or its place among the two. -/
inductive VerdictName.NamedBy : VerdictName → Json → Prop where
  | name (n : VerdictName) : NamedBy n (.string n.name)
  | pass : NamedBy .pass (.ofWord 0)
  | fail : NamedBy .fail (.ofWord 1)

/-- Members that describe a verdict: exactly one names it, and those of a failed walk have exactly
one step and exactly one reason. -/
@[mk_iff]
structure Verdict.DescribedBy (v : Verdict) (ms : List (String × Json)) : Prop where
  kind : ∃ w, valuesOf "verdict" ms = [w] ∧ v.kind.NamedBy w
  details : ∀ step reason, v = .fail step reason →
    valuesOf "step" ms = [.ofWord step] ∧ valuesOf "reason" ms = [.string reason]

theorem VerdictName.ofName?_eq_some {s : String} {n : VerdictName} :
    ofName? s = some n ↔ s = n.name := by
  constructor
  · intro h
    have hname := List.find?_some h
    exact (beq_iff_eq.mp hname).symm
  · rintro rfl
    exact ofName?_name n

theorem VerdictName.decode_eq_ok {v : Json} {n : VerdictName} :
    decode true v = .ok n ↔ n.NamedBy v := by
  constructor
  · intro h
    unfold decode at h
    split at h
    · split at h
      · rename_i hname
        cases h
        rw [ofName?_eq_some.mp hname]
        exact .name n
      · cases h
    · rw [if_neg (by decide)] at h
      split at h
      · rename_i hzero
        cases h
        rw [hzero]
        exact .pass
      · split at h
        · rename_i hone
          cases h
          rw [hone]
          exact .fail
        · cases h
    · cases h
  · rintro (_ | _ | _)
    · simp [decode, ofName?_name]
    · rfl
    · rfl

namespace VerdictMembers

/-- What has been seen of a verdict is what the members say. -/
structure Seen (t : VerdictMembers) (ms : List (String × Json)) : Prop where
  name : Told VerdictName.NamedBy t.name (valuesOf "verdict" ms)
  others : t.others.reverse = ms.filter fun m => m.1 ≠ "verdict"

variable {t after : VerdictMembers} {ms : List (String × Json)} {v : Verdict}

theorem add_eq_ok (m : String × Json) : t.add m = .ok after ↔
    Takes "verdict" VerdictName.NamedBy t.name m after.name ∧
      Keeps (fun m => m.1 ≠ "verdict") t.others m after.others := by
  obtain ⟨name, v⟩ := m
  cases t
  cases after
  unfold add addName
  split
  · obtain rfl : name = "verdict" := ‹_›
    simp only [bind_eq_ok, refuseRepeat_eq_ok, VerdictName.decode_eq_ok, pure_eq_ok, Takes, Keeps]
    grind
  · have hname : name ≠ "verdict" := ‹_›
    simp only [pure_eq_ok, Takes, Keeps, hname, if_false]
    grind

/-- After some members a pass has seen what they say. -/
theorem foldlM_add_eq_ok : ms.foldlM add {} = .ok t ↔ t.Seen ms := by
  apply foldlM_eq_ok
  · intro t
    constructor
    · rintro ⟨hname, hothers⟩
      cases t
      rw [VerdictMembers.mk.injEq]
      exact ⟨told_nil.mp hname, List.reverse_eq_nil_iff.mp hothers⟩
    · rintro rfl
      exact ⟨told_nil.mpr rfl, rfl⟩
  · intro t ms m
    simp only [add_eq_ok]
    constructor
    · rintro ⟨hname, hothers⟩
      obtain ⟨name, hname, hname'⟩ := (told_concat m).mp hname
      obtain ⟨others, hothers, hothers'⟩ := (kept_concat m).mp hothers
      exact ⟨⟨name, others⟩, ⟨hname, hothers⟩, hname', hothers'⟩
    · rintro ⟨before, ⟨hname, hothers⟩, hname', hothers'⟩
      exact ⟨(told_concat m).mpr ⟨_, hname, hname'⟩, (kept_concat m).mpr ⟨_, hothers, hothers'⟩⟩

end VerdictMembers

namespace Verdict

variable {v : Verdict} {kind : VerdictName} {ms : List (String × Json)}

/-- Beside its name a verdict takes its step and its reason, and a passed one nothing. -/
theorem ofMembers_eq_ok : ofMembers kind ms = .ok v ↔ v.kind = kind ∧
    ∀ step reason, v = .fail step reason →
      valuesOf "step" ms = [.ofWord step] ∧ valuesOf "reason" ms = [.string reason] := by
  cases kind with
  | pass =>
    cases v with
    | pass => simp [ofMembers, Verdict.kind, pure, Except.pure]
    | fail step reason => simp [ofMembers, Verdict.kind, pure, Except.pure]
  | fail =>
    simp only [ofMembers, bind_eq_ok, FailureMembers.foldlM_add_eq_ok, require_eq_ok, pure_eq_ok]
    cases v with
    | pass => simp [Verdict.kind]
    | fail step reason =>
      constructor
      · rintro ⟨f, ⟨hstep, hreason⟩, s, hs, r, hr, ⟨⟩⟩
        rw [hs, told_some] at hstep
        rw [hr, told_some] at hreason
        obtain ⟨_, hstep, rfl⟩ := hstep
        obtain ⟨_, hreason, rfl⟩ := hreason
        refine ⟨rfl, ?_⟩
        rintro _ _ ⟨⟩
        exact ⟨hstep, hreason⟩
      · rintro ⟨-, h⟩
        obtain ⟨hstep, hreason⟩ := h step reason rfl
        exact ⟨⟨some step, some reason⟩, ⟨told_some.mpr ⟨_, hstep, rfl⟩,
          told_some.mpr ⟨_, hreason, rfl⟩⟩, step, rfl, reason, rfl, rfl⟩

/-- The members that have been kept are taken for the verdicts that they describe. -/
theorem ofKept_eq_ok :
    (∃ t, ms.foldlM VerdictMembers.add {} = .ok t ∧ t.verdict = .ok v) ↔ v.DescribedBy ms := by
  have hstep : valuesOf "step" (ms.filter fun m => m.1 ≠ "verdict") = valuesOf "step" ms :=
    valuesOf_filter fun _ => by simp
  have hreason : valuesOf "reason" (ms.filter fun m => m.1 ≠ "verdict") = valuesOf "reason" ms :=
    valuesOf_filter fun _ => by simp
  simp only [bind_eq_ok, VerdictMembers.foldlM_add_eq_ok, VerdictMembers.verdict, require_eq_ok,
    ofMembers_eq_ok]
  constructor
  · rintro ⟨t, ⟨hname, hothers⟩, kind, hkind, rfl, hdetails⟩
    rw [hkind, told_some] at hname
    rw [hothers, hstep, hreason] at hdetails
    exact ⟨hname, hdetails⟩
  · rintro ⟨hkind, hdetails⟩
    rw [← hstep, ← hreason] at hdetails
    refine ⟨⟨some v.kind, (ms.filter fun m => m.1 ≠ "verdict").reverse⟩,
      ⟨told_some.mpr hkind, List.reverse_reverse _⟩, v.kind, rfl, rfl, ?_⟩
    rw [List.reverse_reverse]
    exact hdetails

end Verdict

/-! ## Reports -/

namespace ReportMembers

/-- What has been seen of a report is what the members say. -/
structure Seen (f : ReportMembers) (ms : List (String × Json)) : Prop where
  seed : Told (fun n v => v = .ofWord n) f.seed (valuesOf "seed" ms)
  stepsExecuted : Told (fun n v => v = .ofWord n) f.stepsExecuted (valuesOf "steps_executed" ms)
  trace : Told Action.ListedBy f.trace (valuesOf "trace" ms)
  others : f.others.reverse = ms.filter fun m => m.1 ∉ names

variable {f after : ReportMembers} {ms : List (String × Json)}

theorem add_eq_ok (m : String × Json) : f.add m = .ok after ↔
    Takes "seed" (fun n v => v = .ofWord n) f.seed m after.seed ∧
    Takes "steps_executed" (fun n v => v = .ofWord n) f.stepsExecuted m after.stepsExecuted ∧
    Takes "trace" Action.ListedBy f.trace m after.trace ∧
    Keeps (fun m => m.1 ∉ names) f.others m after.others := by
  obtain ⟨name, v⟩ := m
  cases f
  cases after
  unfold add
  split
  · obtain rfl : name = "seed" := ‹_›
    simp only [bind_eq_ok, mapError_eq_ok, refuseRepeat_eq_ok, decodeWord_eq_ok, pure_eq_ok, Takes,
      Keeps, names]
    grind
  · obtain rfl : name = "steps_executed" := ‹_›
    simp only [bind_eq_ok, mapError_eq_ok, refuseRepeat_eq_ok, decodeWord_eq_ok, pure_eq_ok, Takes,
      Keeps, names]
    grind
  · obtain rfl : name = "trace" := ‹_›
    simp only [bind_eq_ok, mapError_eq_ok, refuseRepeat_eq_ok, Action.listOfJson_eq_ok, pure_eq_ok,
      Takes, Keeps, names]
    grind
  · obtain ⟨hseed, hsteps, htrace⟩ : name ≠ "seed" ∧ name ≠ "steps_executed" ∧ name ≠ "trace" :=
      ⟨‹_›, ‹_›, ‹_›⟩
    simp only [pure_eq_ok, Takes, Keeps, names, hseed, hsteps, htrace, if_false]
    grind

/-- After some members a pass has seen what they say. -/
theorem foldlM_add_eq_ok : ms.foldlM add {} = .ok f ↔ f.Seen ms := by
  apply foldlM_eq_ok
  · intro f
    constructor
    · rintro ⟨hseed, hsteps, htrace, hothers⟩
      cases f
      rw [ReportMembers.mk.injEq]
      exact ⟨told_nil.mp hseed, told_nil.mp hsteps, told_nil.mp htrace,
        List.reverse_eq_nil_iff.mp hothers⟩
    · rintro rfl
      exact ⟨told_nil.mpr rfl, told_nil.mpr rfl, told_nil.mpr rfl, rfl⟩
  · intro f ms m
    simp only [add_eq_ok]
    constructor
    · rintro ⟨hseed, hsteps, htrace, hothers⟩
      obtain ⟨seed, hseed, hseed'⟩ := (told_concat m).mp hseed
      obtain ⟨steps, hsteps, hsteps'⟩ := (told_concat m).mp hsteps
      obtain ⟨trace, htrace, htrace'⟩ := (told_concat m).mp htrace
      obtain ⟨others, hothers, hothers'⟩ := (kept_concat m).mp hothers
      exact ⟨⟨seed, steps, trace, others⟩, ⟨hseed, hsteps, htrace, hothers⟩, hseed', hsteps',
        htrace', hothers'⟩
    · rintro ⟨before, ⟨hseed, hsteps, htrace, hothers⟩, hseed', hsteps', htrace', hothers'⟩
      exact ⟨(told_concat m).mpr ⟨_, hseed, hseed'⟩, (told_concat m).mpr ⟨_, hsteps, hsteps'⟩,
        (told_concat m).mpr ⟨_, htrace, htrace'⟩, (kept_concat m).mpr ⟨_, hothers, hothers'⟩⟩

/-- A report needs its three parts and a verdict among the other members. -/
theorem report_eq_ok {r : Report} : f.report = .ok r ↔ f.seed = some r.seed ∧
    f.stepsExecuted = some r.stepsExecuted ∧ f.trace = some r.trace ∧
    r.verdict.DescribedBy f.others.reverse := by
  obtain ⟨seed, stepsExecuted, trace, verdict⟩ := r
  simp only [report, bind_eq_ok, require_eq_ok, pure_eq_ok, Report.mk.injEq,
    ← Verdict.ofKept_eq_ok]
  constructor
  · rintro ⟨_, hseed, _, hsteps, _, htrace, t, ht, _, hverdict, rfl, rfl, rfl, rfl⟩
    exact ⟨hseed, hsteps, htrace, t, ht, hverdict⟩
  · rintro ⟨hseed, hsteps, htrace, t, ht, hverdict⟩
    exact ⟨_, hseed, _, hsteps, _, htrace, t, ht, _, hverdict, rfl, rfl, rfl, rfl⟩

end ReportMembers

/-- Members that describe a report: exactly one for each of its parts, and those of its verdict. -/
structure Report.DescribedBy (r : Report) (ms : List (String × Json)) : Prop where
  seed : valuesOf "seed" ms = [.ofWord r.seed]
  stepsExecuted : valuesOf "steps_executed" ms = [.ofWord r.stepsExecuted]
  trace : ∃ v, valuesOf "trace" ms = [v] ∧ Action.ListedBy r.trace v
  verdict : r.verdict.DescribedBy ms

namespace Report

variable {r : Report} {ms : List (String × Json)}

/-- An object is taken for the reports that it describes. -/
theorem ofJson_eq_ok : ofJson (.object ms) = .ok r ↔ r.DescribedBy ms := by
  -- The verdict is looked for among the members that are kept, and none of its members is left out.
  have hkept : ∀ name ∉ ReportMembers.names,
      valuesOf name (ms.filter fun m => m.1 ∉ ReportMembers.names) = valuesOf name ms := by
    intro name hname
    exact valuesOf_filter fun _ => by simpa using hname
  have hverdict : r.verdict.DescribedBy (ms.filter fun m => m.1 ∉ ReportMembers.names) ↔
      r.verdict.DescribedBy ms := by
    simp only [Verdict.describedBy_iff, hkept "verdict" (by decide), hkept "step" (by decide),
      hkept "reason" (by decide)]
  simp only [ofJson, bind_eq_ok, mapError_eq_ok, ReportMembers.foldlM_add_eq_ok,
    ReportMembers.report_eq_ok]
  constructor
  · rintro ⟨f, hf, hseed, hsteps, htrace, hdescribed⟩
    have hs := hf.seed
    have hn := hf.stepsExecuted
    have ht := hf.trace
    rw [hseed, told_some] at hs
    rw [hsteps, told_some] at hn
    rw [htrace, told_some] at ht
    rw [hf.others, hverdict] at hdescribed
    obtain ⟨_, hs, rfl⟩ := hs
    obtain ⟨_, hn, rfl⟩ := hn
    exact ⟨hs, hn, ht, hdescribed⟩
  · rintro ⟨hseed, hsteps, htrace, hdescribed⟩
    refine ⟨⟨some r.seed, some r.stepsExecuted, some r.trace,
      (ms.filter fun m => m.1 ∉ ReportMembers.names).reverse⟩, ⟨told_some.mpr ⟨_, hseed, rfl⟩,
      told_some.mpr ⟨_, hsteps, rfl⟩, told_some.mpr htrace, List.reverse_reverse _⟩, rfl, rfl, rfl,
      ?_⟩
    rw [List.reverse_reverse, hverdict]
    exact hdescribed

end Report

end CounterWalk

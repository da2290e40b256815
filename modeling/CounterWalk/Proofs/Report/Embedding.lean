import CounterWalk.Proofs.Report.Acceptance
import CounterWalk.Proofs.Report.RoundTrip
import CounterWalk.Proofs.Report.Soundness

/-!
# Verdicts alone and inside a report

A verdict reads the same alone and inside a report.  Into the text of an object, whatever it says,
the three members that are a report's own can be inserted anywhere; the result is read as a report
with a verdict exactly if the object alone is read as that verdict.  The object may be no verdict at
all, it may have members of unknown names and names that occur more than once, and it may be JSON
that no reader takes.

Main definitions:

- `Inserted`: a list into which some elements have been inserted;
- `Report.ownMembers`: the members of a report that are not its verdict's.

Main results:

- Theorem `Report.describedBy_iff_of_inserted`: which report an object describes after its own
  members have been inserted;
- Theorem `Verdict.read_alone_or_reported`: a verdict alone, inside a report and as a list.
-/

namespace CounterWalk

open Json

/-! ## Elements inserted into a list -/

/-- A list into which some elements have been inserted, each of them anywhere. -/
structure Inserted {α : Type} (new before after : List α) : Prop where
  sublist : before.Sublist after
  perm : after.Perm (new ++ before)

section

variable {α β : Type} {R : α → β → Prop} {new before after : List α} {new' before' after' : List β}

theorem Inserted.refl (before : List α) : Inserted [] before before :=
  ⟨.refl before, .refl before⟩

/-- One more element can be inserted at any place. -/
theorem Inserted.insert (a : α) (xs ys : List α) (h : Inserted new before (xs ++ ys)) :
    Inserted (a :: new) before (xs ++ a :: ys) where
  sublist := h.sublist.trans ((List.sublist_cons_self a ys).append_left xs)
  perm := List.perm_middle.trans (h.perm.cons a)

theorem Inserted.map (h : Inserted new before after) (f : α → β) :
    Inserted (new.map f) (before.map f) (after.map f) where
  sublist := h.sublist.map f
  perm := by simpa using h.perm.map f

theorem exists_sublist_of_forall₂ (hR : List.Forall₂ R after after') (h : before'.Sublist after') :
    ∃ before, before.Sublist after ∧ List.Forall₂ R before before' := by
  induction h generalizing after with
  | slnil =>
    cases hR
    exact ⟨[], .slnil, .nil⟩
  | cons b h ih =>
    cases hR with
    | cons hab hR =>
      obtain ⟨before, hbefore, hrest⟩ := ih hR
      exact ⟨before, hbefore.cons _, hrest⟩
  | cons_cons b h ih =>
    cases hR with
    | cons hab hR =>
      obtain ⟨before, hbefore, hrest⟩ := ih hR
      exact ⟨_ :: before, hbefore.cons_cons _, .cons hab hrest⟩

theorem exists_mem_of_forall₂ {a : α} (hR : List.Forall₂ R after after') (ha : a ∈ after) :
    ∃ b ∈ after', R a b := by
  induction hR with
  | nil => cases ha
  | cons hab hR ih =>
    rcases List.mem_cons.mp ha with rfl | ha
    · exact ⟨_, List.mem_cons_self, hab⟩
    · obtain ⟨b, hb, hab⟩ := ih ha
      exact ⟨b, List.mem_cons_of_mem _ hb, hab⟩

/-- If the elements of one list stand for those of another, and each of them for one only, then what
has been inserted into one has been inserted into the other. -/
theorem Inserted.of_forall₂ (hunique : Relator.LeftUnique R) (hnew : List.Forall₂ R new new')
    (hbefore : List.Forall₂ R before before') (hafter : List.Forall₂ R after after')
    (h : Inserted new' before' after') : Inserted new before after := by
  constructor
  · obtain ⟨before₁, hsublist, hbefore₁⟩ := exists_sublist_of_forall₂ hafter h.sublist
    rwa [hunique.forall₂ hbefore hbefore₁]
  · have hall : List.Forall₂ R (new ++ before) (new' ++ before') := List.rel_append hnew hbefore
    exact List.rel_perm_imp hunique.flip hafter.flip hall.flip h.perm

/-- Where what has been inserted stands for something, the elements before and those after it do
both or do neither. -/
theorem Inserted.exists_forall₂_iff (hnew : List.Forall₂ R new new')
    (h : Inserted new' before' after') :
    (∃ before, List.Forall₂ R before before') ↔ ∃ after, List.Forall₂ R after after' := by
  have hall : ∀ b ∈ new', ∃ a, R a b := Report.exists_forall₂_iff.mp ⟨new, hnew⟩
  simp only [Report.exists_forall₂_iff, h.perm.mem_iff, List.mem_append]
  constructor
  · rintro hbefore b (hb | hb)
    · exact hall b hb
    · exact hbefore b hb
  · exact fun hafter b hb => hafter b (Or.inr hb)

end

/-! ## Members inserted into an object -/

section

variable {new before after : List (String × Json)} {name : String} {v : Json}

theorem Json.valuesOf_append (ms ms' : List (String × Json)) :
    valuesOf name (ms ++ ms') = valuesOf name ms ++ valuesOf name ms' := by
  simp [valuesOf]

theorem Json.valuesOf_perm (name : String) {ms ms' : List (String × Json)} (h : ms.Perm ms') :
    (valuesOf name ms).Perm (valuesOf name ms') :=
  (h.filter _).map _

theorem Json.valuesOf_of_perm {ms ms' : List (String × Json)} (h : ms.Perm ms')
    (hv : valuesOf name ms' = [v]) : valuesOf name ms = [v] := by
  have hperm := valuesOf_perm name h
  rw [hv] at hperm
  exact List.perm_singleton.mp hperm

/-- A name has the values that it had if none is inserted. -/
theorem Inserted.valuesOf_eq (h : Inserted new before after) (hnew : valuesOf name new = []) :
    valuesOf name after = valuesOf name before := by
  have hsublist : (valuesOf name before).Sublist (valuesOf name after) :=
    (h.sublist.filter _).map _
  have hperm := valuesOf_perm name h.perm
  rw [valuesOf_append, hnew, List.nil_append] at hperm
  exact (hsublist.eq_of_length hperm.length_eq.symm).symm

/-- A name that had no value has the one that is inserted. -/
theorem Inserted.valuesOf_eq_singleton (h : Inserted new before after)
    (hbefore : valuesOf name before = []) (hnew : valuesOf name new = [v]) :
    valuesOf name after = [v] := by
  refine valuesOf_of_perm h.perm ?_
  rw [valuesOf_append, hnew, hbefore, List.append_nil]

theorem Json.valuesOf_eq_nil {ms : List (String × Json)} (h : ∀ m ∈ ms, m.1 ≠ name) :
    valuesOf name ms = [] := by
  simpa [valuesOf] using h

end

/-- The members of a report that are not its verdict's. -/
def Report.ownMembers (seed stepsExecuted : UInt64) (trace : Json) : List (String × Json) :=
  [("seed", .ofWord seed), ("steps_executed", .ofWord stepsExecuted), ("trace", trace)]

section

variable {ms ms' : List (String × Json)} {seed stepsExecuted : UInt64} {trace : Json}
  {as : List Action}

theorem Action.ListedBy.unique {as' : List Action} (h : ListedBy as trace)
    (h' : ListedBy as' trace) : as = as' := by
  rw [← listOfJson_eq_ok] at h h'
  exact Except.ok.inj (h.symm.trans h')

/-- When its own members have been inserted, an object describes the reports with these members and
with a verdict that the rest describes. -/
theorem Report.describedBy_iff_of_inserted {r : Report} (htrace : Action.ListedBy as trace)
    (hfree : ∀ m ∈ ms, m.1 ∉ ReportMembers.names)
    (h : Inserted (ownMembers seed stepsExecuted trace) ms ms') :
    r.DescribedBy ms' ↔ r.seed = seed ∧ r.stepsExecuted = stepsExecuted ∧ r.trace = as ∧
      r.verdict.DescribedBy ms := by
  have hnone : ∀ name ∈ ReportMembers.names, valuesOf name ms = [] := by
    intro name hname
    refine valuesOf_eq_nil fun m hm hm' => hfree m hm ?_
    rwa [hm']
  have hseed : valuesOf "seed" ms' = [.ofWord seed] :=
    h.valuesOf_eq_singleton (hnone _ (by decide)) rfl
  have hsteps : valuesOf "steps_executed" ms' = [.ofWord stepsExecuted] :=
    h.valuesOf_eq_singleton (hnone _ (by decide)) rfl
  have hlisted : valuesOf "trace" ms' = [trace] :=
    h.valuesOf_eq_singleton (hnone _ (by decide)) rfl
  have hverdict : r.verdict.DescribedBy ms' ↔ r.verdict.DescribedBy ms := by
    have hkind : valuesOf "verdict" ms' = valuesOf "verdict" ms := h.valuesOf_eq rfl
    have hstep : valuesOf "step" ms' = valuesOf "step" ms := h.valuesOf_eq rfl
    have hreason : valuesOf "reason" ms' = valuesOf "reason" ms := h.valuesOf_eq rfl
    simp only [Verdict.describedBy_iff, hkind, hstep, hreason]
  have hword : ∀ {n k : UInt64}, [Json.ofWord n] = [.ofWord k] ↔ k = n := by
    intro n k
    simp [ofWord, eq_comm]
  constructor
  · rintro ⟨hseed', hsteps', ⟨v, hv, hlistedBy⟩, hdescribed⟩
    rw [hlisted] at hv
    cases hv
    exact ⟨hword.mp (hseed.symm.trans hseed'), hword.mp (hsteps.symm.trans hsteps'),
      hlistedBy.unique htrace, hverdict.mp hdescribed⟩
  · rintro ⟨rfl, rfl, rfl, hdescribed⟩
    exact ⟨hseed, hsteps, ⟨trace, hlisted, htrace⟩, hverdict.mpr hdescribed⟩

end

/-! ## Texts -/

section

variable {ws : List Written} {text : List Char}

theorem Json.Means.unique {depth : Nat} : Relator.LeftUnique (Means depth) := by
  rintro ⟨name, v⟩ ⟨name', v'⟩ w ⟨hname, hv⟩ ⟨hname', hv'⟩
  obtain rfl : name = name' := String.toList_injective (hname.unique hname')
  obtain rfl : v = v' := hv.unique hv'
  rfl

/-- The text of an object is read as a report if its members mean something and the report is
described. -/
theorem Report.readAll_read_iff {r : Report} (h : IsObjectText ws text) :
    readAll read text = .ok r ↔
      ∃ ms, List.Forall₂ (Means innerDepth) ms ws ∧ r.DescribedBy ms := by
  constructor
  · intro hread
    obtain ⟨ms, hms⟩ := exists_isTextOf hread
    exact ⟨ms, h.isTextOf_iff.mp hms, (readAll_read_eq_ok hms).mp hread⟩
  · rintro ⟨ms, hmeans, hdescribed⟩
    exact (readAll_read_eq_ok (h.isTextOf_iff.mpr hmeans)).mpr hdescribed

/-- The text of an object is read as a verdict if its members mean something and the verdict is
described by its name. -/
theorem Verdict.readAll_read_iff {v : Verdict} (h : IsObjectText ws text) :
    readAll read text = .ok v ↔ ∃ ms, List.Forall₂ (Means innerDepth) ms ws ∧
      v.DescribedBy ms ∧ ∀ n, ("verdict", .ofWord n) ∉ ms := by
  constructor
  · intro hread
    obtain ⟨ms, hms⟩ : ∃ ms, IsTextOf (.object ms) text := by
      obtain ⟨hbefore, -, -⟩ := h
      exact exists_isTextOf hbefore hread
    exact ⟨ms, h.isTextOf_iff.mp hms, (readAll_read_eq_ok hms).mp hread⟩
  · rintro ⟨ms, hmeans, hdescribed⟩
    exact (readAll_read_eq_ok (h.isTextOf_iff.mpr hmeans)).mpr hdescribed

namespace Verdict

/-- A verdict is read from the text of its list and from every text of an object that has the same
values under their names. -/
theorem readAll_read_fail {step : UInt64} {reason : String} {ms : List (String × Json)}
    {list object : List Char}
    (hlist : IsTextOf (.array [.string "fail", .ofWord step, .string reason]) list)
    (hobject : IsTextOf (.object ms) object)
    (hms : ms.Perm [("verdict", .string "fail"), ("step", .ofWord step),
      ("reason", .string reason)]) :
    readAll read list = .ok (.fail step reason) ∧
      readAll read object = .ok (.fail step reason) := by
  constructor
  · rw [read_spelled.readAll hlist]
    rfl
  · refine (readAll_read_eq_ok hobject).mpr ⟨⟨⟨_, valuesOf_of_perm hms rfl, .name .fail⟩, ?_⟩, ?_⟩
    · rintro _ _ ⟨⟩
      exact ⟨valuesOf_of_perm hms rfl, valuesOf_of_perm hms rfl⟩
    · intro n hn
      simpa [ofWord] using hms.mem_iff.mp hn

/-- A report that has been written is read as its verdict. -/
theorem readAll_read_render (r : Report) {layout : Layout} (hl : layout.IsBlank) :
    readAll read (r.toJson.render layout).toList = .ok r.verdict := by
  obtain ⟨ms, hms, hdescribed⟩ := r.describedBy_toJson
  have htext := isTextOf_render hl r.fits_toJson
  rw [hms] at htext ⊢
  refine (readAll_read_eq_ok htext).mpr ⟨hdescribed.verdict, fun n hn => ?_⟩
  cases hms
  cases hverdict : r.verdict <;> simp [hverdict, members, details, ofWord] at hn

/-- An object is read as a verdict if and only if it is read as a report with this verdict after the
other members of a report have been inserted.  Neither may the object have them already, nor may it
tell the place of a verdict. -/
theorem readAll_read_iff_of_inserted {ws' own : List Written} {text' : List Char}
    {seed steps : UInt64} {as : List Action} {trace : Json} {v : Verdict}
    (htext : IsObjectText ws text) (htext' : IsObjectText ws' text')
    (hfree : ∀ w ∈ ws, ∀ name ∈ ReportMembers.names, ¬ SpellsString name.toList w.name)
    (hplace : ∀ w ∈ ws, SpellsString "verdict".toList w.name →
      ∀ n, ¬ Spells innerDepth (.ofWord n) w.value)
    (hown : List.Forall₂ (Means innerDepth) (Report.ownMembers seed steps trace) own)
    (htrace : Action.ListedBy as trace) (h : Inserted own ws ws') :
    readAll read text = .ok v ↔ ∃ r, readAll Report.read text' = .ok r ∧ r.verdict = v := by
  rw [readAll_read_iff htext]
  simp only [Report.readAll_read_iff htext']
  have hnames : ∀ {ms}, List.Forall₂ (Means innerDepth) ms ws →
      ∀ m ∈ ms, m.1 ∉ ReportMembers.names := by
    intro ms hmeans m hm hname
    obtain ⟨w, hw, hmw⟩ := exists_mem_of_forall₂ hmeans hm
    exact hfree w hw _ hname hmw.name
  constructor
  · rintro ⟨ms, hmeans, hdescribed, -⟩
    obtain ⟨ms', hmeans'⟩ := (h.exists_forall₂_iff hown).mp ⟨ms, hmeans⟩
    have hms := h.of_forall₂ Means.unique hown hmeans hmeans'
    refine ⟨⟨seed, steps, as, v⟩, ⟨ms', hmeans', ?_⟩, rfl⟩
    exact (Report.describedBy_iff_of_inserted htrace (hnames hmeans) hms).mpr
      ⟨rfl, rfl, rfl, hdescribed⟩
  · rintro ⟨r, ⟨ms', hmeans', hdescribed⟩, rfl⟩
    obtain ⟨ms, hmeans⟩ := (h.exists_forall₂_iff hown).mpr ⟨ms', hmeans'⟩
    have hms := h.of_forall₂ Means.unique hown hmeans hmeans'
    obtain ⟨-, -, -, hverdict⟩ :=
      (Report.describedBy_iff_of_inserted htrace (hnames hmeans) hms).mp hdescribed
    refine ⟨ms, hmeans, hverdict, fun n hn => ?_⟩
    obtain ⟨w, hw, hmw⟩ := exists_mem_of_forall₂ hmeans hn
    exact hplace w hw hmw.name n hmw.value

/-- A verdict reads the same alone and inside a report: as an object without a report's own members
and with them, and from what is written for a report.  As a list it reads like the object with its
values. -/
theorem read_alone_or_reported :
    (∀ ws ws' own text text' seed steps as trace v, IsObjectText ws text →
      IsObjectText ws' text' →
      (∀ w ∈ ws, ∀ name ∈ ReportMembers.names, ¬ SpellsString name.toList w.name) →
      (∀ w ∈ ws, SpellsString "verdict".toList w.name →
        ∀ n, ¬ Spells innerDepth (.ofWord n) w.value) →
      List.Forall₂ (Means innerDepth) (Report.ownMembers seed steps trace) own →
      Action.ListedBy as trace → Inserted own ws ws' →
      (readAll read text = .ok v ↔ ∃ r, readAll Report.read text' = .ok r ∧ r.verdict = v)) ∧
    (∀ r : Report, readAll read (r.toJson.render .compact).toList = .ok r.verdict ∧
      readAll read (r.render true).toList = .ok r.verdict) ∧
    (∀ step reason list object,
      IsTextOf (.array [.string "fail", step, reason]) list →
      IsTextOf (.object [("verdict", .string "fail"), ("step", step), ("reason", reason)]) object →
      readAll read list = readAll read object) ∧
    ∀ step reason list ms object,
      IsTextOf (.array [.string "fail", .ofWord step, .string reason]) list →
      IsTextOf (.object ms) object →
      ms.Perm [("verdict", .string "fail"), ("step", .ofWord step), ("reason", .string reason)] →
      readAll read list = .ok (.fail step reason) ∧
        readAll read object = .ok (.fail step reason) := by
  refine ⟨?_, ?_, ?_, ?_⟩
  · intro ws ws' own text text' seed steps as trace v htext htext' hfree hplace hown htrace h
    exact readAll_read_iff_of_inserted htext htext' hfree hplace hown htrace h
  · exact fun r => ⟨readAll_read_render r Layout.isBlank_compact,
      readAll_read_render r Layout.isBlank_pretty⟩
  · intro step reason list object hlist hobject
    rw [read_spelled.readAll hlist, read_spelled.readAll hobject, ofJson_array_fail]
  · intro step reason list ms object hlist hobject hms
    exact readAll_read_fail hlist hobject hms

/-- A passed verdict between two members of one unknown name, alone and inside a report. -/
theorem read_alone_or_reported_repeated :
    let trace : Json := .array [.string "Create"]
    let ms := [("note", .null), ("verdict", .string "pass"), ("note", .array [])]
    let ms' := [("trace", trace), ("note", .null), ("seed", .ofWord 7),
      ("verdict", .string "pass"), ("note", .array []), ("steps_executed", .ofWord 1)]
    let written := List.map (written .compact 1)
    let text := ((Json.object ms).render .compact).toList
    let text' := ((Json.object ms').render .compact).toList
    IsObjectText (written ms) text ∧ IsObjectText (written ms') text' ∧
      (∀ w ∈ written ms, ∀ name ∈ ReportMembers.names, ¬ SpellsString name.toList w.name) ∧
      (∀ w ∈ written ms, SpellsString "verdict".toList w.name →
        ∀ n, ¬ Spells innerDepth (.ofWord n) w.value) ∧
      List.Forall₂ (Means innerDepth) (Report.ownMembers 7 1 trace)
        (written (Report.ownMembers 7 1 trace)) ∧
      Action.ListedBy [.create] trace ∧
      Inserted (written (Report.ownMembers 7 1 trace)) (written ms) (written ms') ∧
      readAll read text = .ok .pass ∧
      ∃ r, readAll Report.read text' = .ok r ∧ r.verdict = .pass := by
  intro trace ms ms' written text text'
  have hms : Inserted (Report.ownMembers 7 1 trace) ms ms' := by
    have hone := (Inserted.refl ms).insert ("trace", trace) [] ms
    have htwo := Inserted.insert ("steps_executed", .ofWord 1) (("trace", trace) :: ms) [] hone
    exact Inserted.insert ("seed", .ofWord 7) [("trace", trace), ("note", .null)]
      [("verdict", .string "pass"), ("note", .array []), ("steps_executed", .ofWord 1)] htwo
  have hfits : ∀ m ∈ ms', fits innerDepth m.2 = true := List.all_eq_true.mp rfl
  have hmeans : ∀ m ∈ ms', Means innerDepth m (Json.written .compact 1 m) :=
    fun m hm => means_written Layout.isBlank_compact (hfits m hm) 1
  have hmem : ∀ m ∈ ms, m ∈ ms' := fun m hm => hms.sublist.subset hm
  have htext : IsObjectText (written ms) text :=
    isObjectText_render Layout.isBlank_compact fun m hm => hfits m (hmem m hm)
  have htext' : IsObjectText (written ms') text' :=
    isObjectText_render Layout.isBlank_compact hfits
  have hfree : ∀ w ∈ written ms, ∀ name ∈ ReportMembers.names,
      ¬ SpellsString name.toList w.name := by
    intro w hw name hname hspells
    obtain ⟨m, hm, rfl⟩ := List.mem_map.mp hw
    obtain rfl := String.toList_injective (hspells.unique (hmeans m (hmem m hm)).name)
    have hnames : ∀ m ∈ ms, m.1 ∉ ReportMembers.names := by simp [ms, ReportMembers.names]
    exact hnames m hm hname
  have hplace : ∀ w ∈ written ms, SpellsString "verdict".toList w.name →
      ∀ n, ¬ Spells innerDepth (.ofWord n) w.value := by
    intro w hw _ n hspells
    obtain ⟨m, hm, rfl⟩ := List.mem_map.mp hw
    have hwords : ∀ m ∈ ms, ∀ n, Json.ofWord n ≠ m.2 := by simp [ms, ofWord]
    exact hwords m hm n (hspells.unique (hmeans m (hmem m hm)).value)
  have hown : List.Forall₂ (Means innerDepth) (Report.ownMembers 7 1 trace)
      (written (Report.ownMembers 7 1 trace)) := by
    rw [List.forall₂_map_right_iff, List.forall₂_same]
    exact fun m hm => hmeans m (hms.perm.mem_iff.mpr (List.mem_append_left _ hm))
  have hlisted : Action.ListedBy [.create] trace := .intro (.cons (.name .create) .nil)
  have hread : readAll read text = .ok .pass := by
    have hms : IsTextOf (.object ms) text := isTextOf_render Layout.isBlank_compact rfl
    refine (readAll_read_eq_ok hms).mpr ⟨⟨⟨_, rfl, .name .pass⟩, ?_⟩, ?_⟩
    · rintro _ _ ⟨⟩
    · simp [ms, ofWord]
  exact ⟨htext, htext', hfree, hplace, hown, hlisted, hms.map _, hread,
    (read_alone_or_reported.1 _ _ _ _ _ _ _ _ _ _ htext htext' hfree hplace hown hlisted
      (hms.map _)).mp hread⟩

end Verdict

end

end CounterWalk

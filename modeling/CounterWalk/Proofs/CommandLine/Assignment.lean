import CounterWalk.CommandLine.Options
import Mathlib.Data.List.Nodup

/-!
# Assignments

What an option says, however it is written: that a switch is on, or which value a setting has.
Assignments are taken one after another, and one of an option that was given before is refused.
What has been given records the assignments that were taken, not their order.

Main definitions:

- `Assignment`: what an option says;
- `Given.add`: one more assignment on top of those given so far;
- `Given.Records`: what has been given says just what some assignments say;
- `Options.AssignedBy`: the options that assignments settle.

Main results:

- Theorem `Given.foldlM_add_of_nodup`: assignments of different options are all taken.
- Theorem `Given.foldlM_add_of_repeat`: the first assignment of an option given before is refused.
- Theorem `Options.AssignedBy.unique`: assignments settle all of the options.
-/

namespace CounterWalk

namespace CommandLine

/-- What an option says. -/
inductive Assignment where
  | raise (s : Switch)
  | steps (n : UInt64)
  | seed (n : UInt64)
  | logDir (path : Argument)

/-- The option that says it. -/
def Assignment.option : Assignment → OptionName
  | .raise s => .switch s
  | .steps _ => .setting .steps
  | .seed _ => .setting .seed
  | .logDir _ => .setting .logDir

namespace Given

variable {g : Given} {a : Assignment} {as before after : List Assignment}

/-! ## One assignment -/

/-- Whether an option has been given. -/
def gives (g : Given) : OptionName → Bool
  | .switch .faulty => g.faulty
  | .switch .json => g.json
  | .setting s => g.has s
  | .inquiry _ => false

/-- What an assignment says has been given. -/
def Holds (g : Given) : Assignment → Prop
  | .raise .faulty => g.faulty = true
  | .raise .json => g.json = true
  | .steps n => g.steps = some n
  | .seed n => g.seed = some n
  | .logDir path => g.logDir = some path

/-- Takes an assignment, whatever was given before. -/
def assign (g : Given) : Assignment → Given
  | .raise .faulty => { g with faulty := true }
  | .raise .json => { g with json := true }
  | .steps n => { g with steps := some n }
  | .seed n => { g with seed := some n }
  | .logDir path => { g with logDir := some path }

/-- Takes an assignment of an option that was not given before. -/
def add (g : Given) (a : Assignment) : Except UsageError Given :=
  if g.gives a.option then .error (.repeated a.option) else .ok (g.assign a)

theorem gives_iff_exists_holds (o : OptionName) :
    g.gives o = true ↔ ∃ a : Assignment, g.Holds a ∧ a.option = o := by
  constructor
  · intro h
    match o, h with
    | .switch .faulty, h => exact ⟨.raise .faulty, h, rfl⟩
    | .switch .json, h => exact ⟨.raise .json, h, rfl⟩
    | .setting .steps, h =>
      obtain ⟨n, hn⟩ := Option.isSome_iff_exists.mp h
      exact ⟨.steps n, hn, rfl⟩
    | .setting .seed, h =>
      obtain ⟨n, hn⟩ := Option.isSome_iff_exists.mp h
      exact ⟨.seed n, hn, rfl⟩
    | .setting .logDir, h =>
      obtain ⟨path, hpath⟩ := Option.isSome_iff_exists.mp h
      exact ⟨.logDir path, hpath, rfl⟩
  · rintro ⟨a, h, rfl⟩
    match a, h with
    | .raise .faulty, h | .raise .json, h => exact h
    | .steps _, h | .seed _, h | .logDir _, h => exact Option.isSome_of_eq_some h

/-- An assignment of an option that was not given before adds what it says and changes nothing
else. -/
theorem holds_assign_iff (h : g.gives a.option = false) (b : Assignment) :
    (g.assign a).Holds b ↔ g.Holds b ∨ b = a := by
  rcases a with (_ | _) | n | n | path <;> rcases b with (_ | _) | n' | n' | path' <;>
    grind [gives, has, Assignment.option, Holds, assign]

theorem raise_eq_add (g : Given) (s : Switch) : g.raise s = g.add (.raise s) := by
  cases s <;> rfl

/-! ## Many assignments -/

/-- What has been given says just what the assignments say. -/
def Records (g : Given) (as : List Assignment) : Prop := ∀ a, g.Holds a ↔ a ∈ as

theorem records_nil : ({} : Given).Records [] := by
  intro a
  rcases a with (_ | _) | n | n | path <;> simp [Holds]

theorem Records.gives_iff (h : g.Records as) (o : OptionName) :
    g.gives o = true ↔ o ∈ as.map Assignment.option := by
  rw [gives_iff_exists_holds, List.mem_map]
  exact exists_congr fun a => and_congr_left' (h a)

theorem Records.assign (h : g.Records as) (hnew : a.option ∉ as.map Assignment.option) :
    (g.assign a).Records (as ++ [a]) := by
  intro b
  have hgives : g.gives a.option = false := by
    rw [← h.gives_iff] at hnew
    exact Bool.eq_false_iff.mpr hnew
  rw [holds_assign_iff hgives, h b, List.mem_append, List.mem_singleton]

/-- Assignments of different options, none of which was given before, are all taken. -/
theorem Records.foldlM_add (h : g.Records before)
    (hnodup : ((before ++ as).map Assignment.option).Nodup) :
    ∃ g', as.foldlM add g = .ok g' ∧ g'.Records (before ++ as) := by
  -- An assignment that is taken moves to those that were taken before.
  induction as generalizing g before with
  | nil =>
    refine ⟨g, rfl, ?_⟩
    rw [List.append_nil]
    exact h
  | cons a as ih =>
    have hnew : a.option ∉ before.map Assignment.option := by
      rw [List.map_append, List.map_cons, List.nodup_middle] at hnodup
      exact fun hmem => hnodup.notMem (List.mem_append_left _ hmem)
    have hadd : g.add a = .ok (g.assign a) := by
      rw [← h.gives_iff] at hnew
      exact if_neg hnew
    rw [List.append_cons] at hnodup
    obtain ⟨g', hg', hrecords⟩ := ih (h.assign hnew) hnodup
    refine ⟨g', ?_, ?_⟩
    · rw [List.foldlM_cons, hadd]
      exact hg'
    · rw [List.append_cons]
      exact hrecords

/-- Assignments of different options are all taken. -/
theorem foldlM_add_of_nodup (h : (as.map Assignment.option).Nodup) :
    ∃ g, as.foldlM add {} = .ok g ∧ g.Records as :=
  records_nil.foldlM_add h

/-- The first assignment of an option that was given before is refused. -/
theorem foldlM_add_of_repeat (hbefore : (before.map Assignment.option).Nodup)
    (ha : a.option ∈ before.map Assignment.option) :
    (before ++ a :: after).foldlM add {} = .error (.repeated a.option) := by
  obtain ⟨g, hg, hrecords⟩ := foldlM_add_of_nodup hbefore
  have hadd : g.add a = .error (.repeated a.option) := if_pos ((hrecords.gives_iff _).mpr ha)
  rw [List.foldlM_append, hg]
  change (a :: after).foldlM add g = _
  rw [List.foldlM_cons, hadd]
  rfl

end Given

end CommandLine

open CommandLine

/-! ## Options -/

namespace Options

variable {o o' : Options} {as bs : List Assignment}

/-- The options say what the assignments say, and what these leave open is as usual. -/
structure AssignedBy (o : Options) (as : List Assignment) : Prop where
  faulty : o.faulty = true ↔ .raise .faulty ∈ as
  json : o.json = true ↔ .raise .json ∈ as
  steps : ∀ n, .steps n ∈ as → o.steps = n
  usualSteps : (∀ n, .steps n ∉ as) → o.steps = 100
  seed : ∀ n, .seed n ∈ as → o.seed = some n
  usualSeed : (∀ n, .seed n ∉ as) → o.seed = none
  logDir : ∀ path, .logDir path ∈ as → o.logDir = path
  usualLogDir : (∀ path, .logDir path ∉ as) → o.logDir = .ofString "./logs"

/-- The order of assignments does not matter, nor how often one stands there. -/
theorem AssignedBy.congr (h : o.AssignedBy as) (hmem : ∀ a, a ∈ as ↔ a ∈ bs) : o.AssignedBy bs where
  faulty := h.faulty.trans (hmem _)
  json := h.json.trans (hmem _)
  steps n hn := h.steps n ((hmem _).mpr hn)
  usualSteps hnone := h.usualSteps fun n hn => hnone n ((hmem _).mp hn)
  seed n hn := h.seed n ((hmem _).mpr hn)
  usualSeed hnone := h.usualSeed fun n hn => hnone n ((hmem _).mp hn)
  logDir path hpath := h.logDir path ((hmem _).mpr hpath)
  usualLogDir hnone := h.usualLogDir fun path hpath => hnone path ((hmem _).mp hpath)

/-- What is as told where something is told, and as usual where nothing is. -/
theorem eq_of_told_or_usual {α β : Type} {told : α → Prop} {value : α → β} {usual x y : β}
    (hx : ∀ a, told a → x = value a) (hx' : (∀ a, ¬ told a) → x = usual)
    (hy : ∀ a, told a → y = value a) (hy' : (∀ a, ¬ told a) → y = usual) : x = y := by
  by_cases htold : ∃ a, told a
  · obtain ⟨a, ha⟩ := htold
    rw [hx a ha, hy a ha]
  · rw [hx' (not_exists.mp htold), hy' (not_exists.mp htold)]

/-- Assignments settle all of the options. -/
theorem AssignedBy.unique (h : o.AssignedBy as) (h' : o'.AssignedBy as) : o = o' := by
  have hfaulty : o.faulty = o'.faulty := Bool.eq_iff_iff.mpr (h.faulty.trans h'.faulty.symm)
  have hjson : o.json = o'.json := Bool.eq_iff_iff.mpr (h.json.trans h'.json.symm)
  have hsteps : o.steps = o'.steps :=
    eq_of_told_or_usual h.steps h.usualSteps h'.steps h'.usualSteps
  have hseed : o.seed = o'.seed := eq_of_told_or_usual h.seed h.usualSeed h'.seed h'.usualSeed
  have hlogDir : o.logDir = o'.logDir :=
    eq_of_told_or_usual h.logDir h.usualLogDir h'.logDir h'.usualLogDir
  cases o
  cases o'
  simp_all only

end Options

/-- What was given settles the options as the assignments do that it records. -/
theorem CommandLine.Given.Records.assignedBy {g : Given} {as : List Assignment}
    (h : g.Records as) : g.options.AssignedBy as where
  faulty := h (.raise .faulty)
  json := h (.raise .json)
  steps n hn := by
    have hsteps : g.steps = some n := (h (.steps n)).mpr hn
    rw [options, hsteps]
    rfl
  usualSteps hnone := by
    have hsteps : g.steps = none :=
      Option.eq_none_iff_forall_ne_some.mpr fun n hn => hnone n ((h (.steps n)).mp hn)
    rw [options, hsteps]
    rfl
  seed n hn := (h (.seed n)).mpr hn
  usualSeed hnone :=
    Option.eq_none_iff_forall_ne_some.mpr fun n hn => hnone n ((h (.seed n)).mp hn)
  logDir path hpath := by
    have hlogDir : g.logDir = some path := (h (.logDir path)).mpr hpath
    rw [options, hlogDir]
    rfl
  usualLogDir hnone := by
    have hlogDir : g.logDir = none :=
      Option.eq_none_iff_forall_ne_some.mpr fun path hpath =>
        hnone path ((h (.logDir path)).mp hpath)
    rw [options, hlogDir]
    rfl

end CounterWalk

import CounterWalk.CommandLine.Message
import CounterWalk.Proofs.CommandLine.Assignment
import CounterWalk.Proofs.CommandLine.Spelling
import Mathlib.Data.List.Induction
import Mathlib.Data.List.Nodup
import Mathlib.Data.List.TakeWhile
import Mathlib.Tactic.ByContra

/-!
# Reading options

Arguments that spell options are read as the assignments that the options make.  A value that is an
argument of its own is looked at only when the next option is named, so reading is followed through
what is to be given once the value that is waited for has been looked at.

Main definitions:

- `Progress.Reaches`: where some arguments lead;
- `Spelling.assignment`: what an option says.

Main results:

- Theorem `Progress.reaches_spelling`: an option that is spelled makes its assignment.
- Theorem `Options.ofArguments_eq_foldlM_add`: options that are spelled make their assignments from
  left to right.
- Theorem `Options.ofArguments_spelled`: options that are spelled are read if and only if none is
  there twice, and then in any order.
-/

namespace CounterWalk

namespace CommandLine

/-! ## What options say -/

/-- The assignment of the value to its setting. -/
def Value.assignment : Value → Assignment
  | .steps n => .steps n.value
  | .seed n => .seed n.value
  | .logDir p => .logDir p.bytes

/-- What an option says. -/
def Spelling.assignment : Spelling → Assignment
  | .switch s => .raise s
  | .attached v | .apart v _ => v.assignment
  | .shortApart n | .shortJoined n | .shortAttached n => .steps n.value

theorem Value.option_assignment (v : Value) : v.assignment.option = .setting v.setting := by
  cases v <;> rfl

theorem Spelling.option_assignment (s : Spelling) : s.assignment.option = s.option := by
  cases s with
  | switch s => rfl
  | attached v | apart v h => exact v.option_assignment
  | shortApart n | shortJoined n | shortAttached n => rfl

theorem Spelling.map_option_assignment (l : List Spelling) :
    (l.map assignment).map Assignment.option = l.map option := by
  rw [List.map_map]
  exact List.map_congr_left fun s _ => s.option_assignment

theorem readNumber_bytes (s : Setting) (n : Numeral) : readNumber s n.bytes = .ok n.value := by
  rw [readNumber, Numeral.bytes, Text.Utf8.decode?_encode]
  simp only [Text.readNumeral_digits n.ne_nil n.isDigit n.fits]
  rfl

/-- The value of a setting that is spelled is taken unless the setting was given before. -/
theorem Given.put_value (g : Given) (v : Value) :
    g.put v.setting v.bytes = g.add v.assignment := by
  rw [put.eq_def, add, v.option_assignment]
  cases v with
  | steps n | seed n => simp only [Value.setting, Value.bytes, readNumber_bytes]; rfl
  | logDir p =>
    have hne : p.bytes.isEmpty = false := List.isEmpty_eq_false_iff.mpr p.ne_nil
    simp only [Value.setting, Value.bytes, hne]
    rfl

/-! ## One option -/

namespace Progress

variable {p : Progress} {a : Argument}

/-- The arguments lead on, and once the value that is then waited for has been looked at, they come
to the result; or they lead to the error that is the result. -/
def Reaches (p : Progress) (arguments : List Argument) (result : Except UsageError Given) : Prop :=
  (∃ e, result = .error e ∧ arguments.foldlM step p = .error (.error e)) ∨
    ∃ p', arguments.foldlM step p = .ok p' ∧ p'.ended = false ∧ p'.settle = result

theorem step_of_named (hended : p.ended = false) {o : OptionName} {value : Option Argument}
    (ha : Piece.ofArgument a = .named o value) : p.step a = p.take o value := by
  rw [step, hended, if_neg Bool.false_ne_true, ha]

/-- An argument after which no value is waited for. -/
theorem reaches_of_step {f : Given → Except UsageError Given}
    (h : p.step a = p.settle.mapError Halt.error >>= fun g =>
      (f g).mapError Halt.error >>= fun given => pure { given }) :
    p.Reaches [a] (p.settle >>= f) := by
  cases hsettle : p.settle with
  | error e =>
    rw [hsettle] at h
    exact Or.inl ⟨e, rfl, by rw [List.foldlM_cons, h]; rfl⟩
  | ok g =>
    rw [hsettle] at h
    change p.step a = (f g).mapError Halt.error >>= fun given => pure { given } at h
    change p.Reaches [a] (f g)
    cases hresult : f g with
    | error e =>
      rw [hresult] at h
      exact Or.inl ⟨e, rfl, by rw [List.foldlM_cons, h]; rfl⟩
    | ok g' =>
      rw [hresult] at h
      exact Or.inr ⟨{ given := g' }, by rw [List.foldlM_cons, h]; rfl, rfl, rfl⟩

theorem reaches_switch (hended : p.ended = false) {s : Switch}
    (ha : Piece.ofArgument a = .named (.switch s) none) :
    p.Reaches [a] (p.settle >>= fun g => g.add (.raise s)) := by
  apply reaches_of_step
  rw [step_of_named hended ha, take]
  simp only [Given.raise_eq_add]

/-- A value that is attached to the name of its setting. -/
theorem reaches_attached (hended : p.ended = false) {v : Value}
    (ha : Piece.ofArgument a = .named (.setting v.setting) (some v.bytes)) :
    p.Reaches [a] (p.settle >>= fun g => g.add v.assignment) := by
  apply reaches_of_step
  rw [step_of_named hended ha, take]
  simp only [Given.put_value]

/-- A value that is an argument of its own is waited for and not yet looked at. -/
theorem reaches_apart (hended : p.ended = false) {v : Value}
    (ha : Piece.ofArgument a = .named (.setting v.setting) none) (hv : v.StandsApart) :
    p.Reaches [a, v.bytes] (p.settle >>= fun g => g.add v.assignment) := by
  -- The name settles what was waited for before, and the value then waits in its place.
  have hstep : p.step a = (p.settle.mapError Halt.error).map fun given =>
      { given, waiting := some { setting := v.setting } } := by
    rw [step_of_named hended ha, take]
    cases p.settle <;> rfl
  cases hsettle : p.settle with
  | error e =>
    rw [hsettle] at hstep
    exact Or.inl ⟨e, rfl, by rw [List.foldlM_cons, hstep]; rfl⟩
  | ok g =>
    rw [hsettle] at hstep
    have hnext : step { given := g, waiting := some { setting := v.setting } } v.bytes =
        .ok { given := g, waiting := some ⟨v.setting, some v.bytes⟩ } := by
      rw [step, if_neg Bool.false_ne_true, Piece.ofArgument_word hv.head?_bytes_ne]
      rfl
    refine Or.inr ⟨{ given := g, waiting := some ⟨v.setting, some v.bytes⟩ }, ?_, rfl,
      g.put_value v⟩
    rw [List.foldlM_cons, hstep]
    change [v.bytes].foldlM step _ = _
    rw [List.foldlM_cons, hnext]
    rfl

/-- An option that is spelled makes its assignment. -/
theorem reaches_spelling (hended : p.ended = false) (s : Spelling) :
    p.Reaches s.arguments (p.settle >>= fun g => g.add s.assignment) := by
  cases s with
  | switch s => exact reaches_switch hended (Piece.ofArgument_switch s)
  | attached v => exact reaches_attached hended (Piece.ofArgument_attached v.setting v.bytes)
  | apart v h => exact reaches_apart hended (Piece.ofArgument_setting v.setting) h
  | shortApart n => exact reaches_apart (v := .steps n) hended Piece.ofArgument_letter trivial
  | shortJoined n => exact reaches_attached (v := .steps n) hended (Piece.ofArgument_joined n)
  | shortAttached n =>
    exact reaches_attached (v := .steps n) hended (Piece.ofArgument_letter_attached n.bytes)

/-! ## Many options -/

/-- Options that are spelled make their assignments from left to right, on top of what was given
before once the value that was waited for has been looked at. -/
theorem foldlM_step_arguments (hended : p.ended = false) (l : List Spelling) :
    ((l.flatMap Spelling.arguments).foldlM step p >>= fun p' => p'.settle.mapError Halt.error) =
      (p.settle >>= fun g => (l.map Spelling.assignment).foldlM Given.add g).mapError
        Halt.error := by
  -- The progress varies: after a name without a value the next option finds a value waited for.
  induction l generalizing p with
  | nil =>
    change p.settle.mapError Halt.error = _
    cases p.settle <;> rfl
  | cons s l ih =>
    have hsplit : (p.settle >>= fun g => ((s :: l).map Spelling.assignment).foldlM Given.add g) =
        (p.settle >>= fun g => g.add s.assignment) >>= fun g =>
          (l.map Spelling.assignment).foldlM Given.add g := by
      cases p.settle <;> rfl
    rw [List.flatMap_cons, List.foldlM_append, hsplit]
    rcases reaches_spelling hended s with ⟨e, hresult, hfold⟩ | ⟨p', hfold, hended', hsettle⟩
    · rw [hfold, hresult]
      rfl
    · rw [hfold, ← hsettle, ← ih hended']
      rfl

end Progress

end CommandLine

open CommandLine

/-! ## Options that are there twice -/

/-- A list in which something is there twice has a first place where that happens. -/
theorem exists_first_repeat {α β : Type} {f : α → β} {l : List α} (h : ¬ (l.map f).Nodup) :
    ∃ before a after, l = before ++ a :: after ∧ (before.map f).Nodup ∧ f a ∈ before.map f := by
  -- From the end: a repeat in front of the last place comes before one at it.
  induction l using List.reverseRecOn with
  | nil => exact absurd List.nodup_nil h
  | append_singleton l a ih =>
    by_cases hl : (l.map f).Nodup
    · refine ⟨l, a, [], rfl, hl, ?_⟩
      by_contra ha
      apply h
      rw [List.map_append, List.map_singleton, List.nodup_append]
      refine ⟨hl, List.nodup_singleton _, ?_⟩
      rintro b hb c hc rfl
      rw [List.mem_singleton] at hc
      exact ha (hc ▸ hb)
    · obtain ⟨before, b, after, rfl, hbefore, hb⟩ := ih hl
      exact ⟨before, b, after ++ [a], by simp, hbefore, hb⟩

/-- A text that is shown and has no line feed is told as it is. -/
theorem Text.firstLine_plain {s : String}
    (h : s.toList.all (fun c => Steering.outside.shows c && c ≠ '\n') = true) :
    firstLine (plain s) = s := by
  simp only [List.all_eq_true, Bool.and_eq_true] at h
  have hplain : plain s = s := plain_of_shows fun c hc => (h c hc).1
  have hline : s.toList.takeWhile (· ≠ '\n') = s.toList :=
    List.takeWhile_eq_self_iff.mpr fun c hc => (h c hc).2
  have hlength : ¬ s.toList.length < s.length := by
    rw [String.length_toList]
    exact Nat.lt_irrefl _
  simp only [firstLine, hplain, hline, hlength, false_and, if_false, String.ofList_toList]

/-- What is told about an option that is there twice, whatever the name of the program. -/
theorem CommandLine.Halt.text_repeated (program : String) (o : OptionName) :
    (Halt.error (.repeated o)).text program =
      "error: " ++ ("the argument '" ++ o.describe ++ "' cannot be used multiple times") := by
  have hdescribe : ∀ o ∈ OptionName.all, o.describe.toList.all
      (fun c => Text.Steering.outside.shows c && c ≠ '\n') = true := by
    decide +kernel
  have hline : ("error: " ++ ("the argument '" ++ o.describe ++
      "' cannot be used multiple times")).toList.all
        (fun c => Text.Steering.outside.shows c && c ≠ '\n') = true := by
    simp only [String.toList_append, List.all_append, hdescribe o o.mem_all, Bool.and_eq_true,
      and_true]
    decide +kernel
  exact Text.firstLine_plain hline

/-! ## The command line -/

namespace Options

variable {l : List Spelling}

/-- Options that are spelled make their assignments from left to right. -/
theorem ofArguments_eq_foldlM_add (l : List Spelling) :
    ofArguments (l.flatMap Spelling.arguments) =
      (((l.map Spelling.assignment).foldlM Given.add {}).map Given.options).mapError
        Halt.error := by
  have hfold := Progress.foldlM_step_arguments (p := {}) rfl l
  change _ = ((l.map Spelling.assignment).foldlM Given.add {}).mapError Halt.error at hfold
  have hoptions : ofArguments (l.flatMap Spelling.arguments) =
      ((l.flatMap Spelling.arguments).foldlM Progress.step {} >>= fun p' =>
        p'.settle.mapError Halt.error) >>= fun g => pure g.options := by
    rw [bind_assoc]
    rfl
  rw [hoptions, hfold]
  cases (l.map Spelling.assignment).foldlM Given.add {} <;> rfl

/-- Options of which none is there twice are read, and settle what they say. -/
theorem exists_ofArguments_of_nodup (h : (l.map Spelling.option).Nodup) :
    ∃ o, ofArguments (l.flatMap Spelling.arguments) = .ok o ∧
      o.AssignedBy (l.map Spelling.assignment) := by
  rw [← Spelling.map_option_assignment] at h
  obtain ⟨g, hg, hrecords⟩ := Given.foldlM_add_of_nodup h
  refine ⟨g.options, ?_, hrecords.assignedBy⟩
  rw [ofArguments_eq_foldlM_add, hg]
  rfl

/-- The first option that was there before is refused. -/
theorem ofArguments_of_repeat {before after : List Spelling} {s : Spelling}
    (hbefore : (before.map Spelling.option).Nodup) (hs : s.option ∈ before.map Spelling.option) :
    ofArguments ((before ++ s :: after).flatMap Spelling.arguments) =
      .error (.error (.repeated s.option)) := by
  rw [← Spelling.map_option_assignment] at hbefore hs
  rw [← s.option_assignment] at hs ⊢
  rw [ofArguments_eq_foldlM_add, List.map_append, List.map_cons,
    Given.foldlM_add_of_repeat hbefore hs]
  rfl

/-- Where an option is there twice, the first one that was there before is refused. -/
theorem exists_refused_of_not_nodup (h : ¬ (l.map Spelling.option).Nodup) :
    ∃ before s after, l = before ++ s :: after ∧ (before.map Spelling.option).Nodup ∧
      s.option ∈ before.map Spelling.option ∧
      ofArguments (l.flatMap Spelling.arguments) = .error (.error (.repeated s.option)) := by
  obtain ⟨before, s, after, rfl, hbefore, hs⟩ := exists_first_repeat h
  exact ⟨before, s, after, rfl, hbefore, hs, ofArguments_of_repeat hbefore hs⟩

theorem nodup_of_ofArguments_eq_ok {o : Options}
    (h : ofArguments (l.flatMap Spelling.arguments) = .ok o) :
    (l.map Spelling.option).Nodup := by
  by_contra hrepeat
  obtain ⟨_, _, _, -, -, -, hrefused⟩ := exists_refused_of_not_nodup hrepeat
  rw [h] at hrefused
  contradiction

/-- Options that are read settle what they say. -/
theorem assignedBy_of_ofArguments_eq_ok {o : Options}
    (h : ofArguments (l.flatMap Spelling.arguments) = .ok o) :
    o.AssignedBy (l.map Spelling.assignment) := by
  obtain ⟨o', hread, hassigned⟩ := exists_ofArguments_of_nodup (nodup_of_ofArguments_eq_ok h)
  obtain rfl : o = o' := Except.ok.inj (h.symm.trans hread)
  exact hassigned

/-- Options that are read are read the same in any order. -/
theorem ofArguments_of_perm {o : Options} {l' : List Spelling}
    (h : ofArguments (l.flatMap Spelling.arguments) = .ok o) (hperm : l.Perm l') :
    ofArguments (l'.flatMap Spelling.arguments) = .ok o := by
  have hnodup := (hperm.map Spelling.option).nodup (nodup_of_ofArguments_eq_ok h)
  obtain ⟨o', hread, hassigned⟩ := exists_ofArguments_of_nodup hnodup
  have hmem a : a ∈ l.map Spelling.assignment ↔ a ∈ l'.map Spelling.assignment :=
    (hperm.map Spelling.assignment).mem_iff
  rw [hread, hassigned.unique ((assignedBy_of_ofArguments_eq_ok h).congr hmem)]

/-- The command line of options that are spelled in any of the ways there are.  It is read if and
only if no option is there twice.  Then each option that is there has the value that is spelled, all
others are as usual, and no other order of the options is read differently.  Otherwise the first
option that was there before is refused, and the program tells which, whatever its name. -/
theorem ofArguments_spelled (l : List Spelling) :
    let read := ofArguments (l.flatMap Spelling.arguments)
    ((∃ o, read = .ok o) ↔ (l.map Spelling.option).Nodup) ∧
      (∀ o, read = .ok o → o.AssignedBy (l.map Spelling.assignment) ∧
        ∀ l', l.Perm l' → ofArguments (l'.flatMap Spelling.arguments) = .ok o) ∧
      (¬ (l.map Spelling.option).Nodup → ∃ before s after,
        l = before ++ s :: after ∧ (before.map Spelling.option).Nodup ∧
          s.option ∈ before.map Spelling.option ∧ read = .error (.error (.repeated s.option)) ∧
          ∀ program, (Halt.error (.repeated s.option)).text program =
            "error: " ++ ("the argument '" ++ s.option.describe ++
              "' cannot be used multiple times")) := by
  intro read
  refine ⟨⟨?_, ?_⟩, ?_, ?_⟩
  · rintro ⟨o, hread⟩
    exact nodup_of_ofArguments_eq_ok hread
  · intro hnodup
    obtain ⟨o, hread, -⟩ := exists_ofArguments_of_nodup hnodup
    exact ⟨o, hread⟩
  · intro o hread
    exact ⟨assignedBy_of_ofArguments_eq_ok hread, fun l' => ofArguments_of_perm hread⟩
  · intro hrepeat
    obtain ⟨before, s, after, hl, hbefore, hs, hrefused⟩ := exists_refused_of_not_nodup hrepeat
    exact ⟨before, s, after, hl, hbefore, hs, hrefused, fun program =>
      Halt.text_repeated program s.option⟩

end Options

end CounterWalk

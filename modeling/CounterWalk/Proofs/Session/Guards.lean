import CounterWalk.Proofs.Session.Flag
import Mathlib.Data.List.Induction

/-!
# Guards put the flag back

A guard remembers the flag as it was just before the guard was engaged, and puts it back when it is
released, whatever was done to the flag in between.  So a block of commands between the engaging of
a guard and its release leaves the flag as it found it, and so do blocks that are nested to any
depth.  Guards that are released in another order put back what they found all the same: the flag is
always what was last written to it.

Main definitions:

- `Command.Nested`: programs in which every guard is released before those that were engaged
  earlier;
- `Command.Blocks`: those of them that are made of blocks at the outermost level;
- `Session.written`: what a command writes to the flag, told from the commands before it.

Main results:

- Theorem `Command.Nested.exists_block`: a release in a well-nested program ends a block.
- Theorem `Session.flagAfter_block`: releasing a guard puts the flag back.
- Theorem `Session.get?_guards_performAll`: what a guard remembers, after any commands.
- Theorem `Session.guards_restore_flag`: blocks leave the flag as they found it, and in general the
  flag is what was last written to it.
-/

namespace CounterWalk

/-! ## Programs -/

namespace Command

/-- The name of the guard that a command engages or releases. -/
def guard? : Command → Option String
  | .engage name _ | .release name => some name
  | _ => none

/-- Well-nested programs, in which blocks stand among other commands.  What is done in a block
leaves the guard of the block alone. -/
inductive Nested : List Command → Prop
  | nil : Nested []
  | single {c : Command} (h : c.guard? = none) : Nested [c]
  | block {name : String} {body : List Command} (v : Bool) (hbody : Nested body)
      (hname : ∀ c ∈ body, c.guard? ≠ some name) :
      Nested (.engage name v :: (body ++ [.release name]))
  | append {cs later : List Command} (hcs : Nested cs) (hlater : Nested later) :
      Nested (cs ++ later)

/-- Well-nested programs that are made of blocks alone, apart from what is done in the blocks. -/
inductive Blocks : List Command → Prop
  | nil : Blocks []
  | block {name : String} {body : List Command} (v : Bool) (hbody : Nested body)
      (hname : ∀ c ∈ body, c.guard? ≠ some name) :
      Blocks (.engage name v :: (body ++ [.release name]))
  | append {cs later : List Command} (hcs : Blocks cs) (hlater : Blocks later) :
      Blocks (cs ++ later)

/-- A command in a list that is put together of two is in the first or in the second. -/
theorem split_append {cs later pre post : List Command} {c : Command}
    (h : cs ++ later = pre ++ c :: post) :
    (∃ rest, cs = pre ++ c :: rest) ∨ ∃ pre', pre = cs ++ pre' ∧ later = pre' ++ c :: post := by
  obtain ⟨pre', hpre, hlater⟩ | ⟨rest, hcs, hrest⟩ := List.append_eq_append_iff.mp h
  · exact .inr ⟨pre', hpre, hlater⟩
  · cases rest with
    | nil => exact .inr ⟨[], by simpa using hcs.symm, by simpa using hrest.symm⟩
    | cons c' rest =>
      obtain ⟨rfl, -⟩ := List.cons.inj hrest
      exact .inl ⟨rest, hcs⟩

/-- Every release in a well-nested program is the end of a block. -/
theorem Nested.exists_block {cs : List Command} (h : Nested cs) {pre post : List Command}
    {name : String} (hsplit : cs = pre ++ .release name :: post) :
    ∃ earlier v body, pre = earlier ++ .engage name v :: body ∧ Nested body ∧
      ∀ c ∈ body, c.guard? ≠ some name := by
  induction h generalizing pre post with
  | nil => simp at hsplit
  | @single c h =>
    have hrelease : .release name ∈ [c] := hsplit ▸ List.mem_append_cons_self
    rw [← List.mem_singleton.mp hrelease] at h
    simp [guard?] at h
  | @block outer body v hbody hname ih =>
    obtain ⟨pre, rfl⟩ : ∃ pre', pre = .engage outer v :: pre' := by
      cases pre with
      | nil => simp at hsplit
      | cons first pre' => exact ⟨pre', by rw [(List.cons.inj hsplit).1]⟩
    obtain ⟨rest, hinner⟩ | ⟨pre', rfl, hlast⟩ := split_append (List.cons.inj hsplit).2
    · obtain ⟨earlier, w, inner, rfl, hinner, hfree⟩ := ih hinner
      exact ⟨.engage outer v :: earlier, w, inner, rfl, hinner, hfree⟩
    · obtain ⟨rfl, rfl, -⟩ : pre' = [] ∧ name = outer ∧ post = [] := by
        simpa [List.singleton_eq_append_iff] using hlast
      exact ⟨[], v, body, by simp, hbody, hname⟩
  | append hcs hlater ihcs ihlater =>
    obtain ⟨rest, hfirst⟩ | ⟨pre', rfl, hsecond⟩ := split_append hsplit
    · exact ihcs hfirst
    · obtain ⟨earlier, w, body, rfl, hbody, hfree⟩ := ihlater hsecond
      exact ⟨_ ++ earlier, w, body, by rw [List.append_assoc], hbody, hfree⟩

/-- The commands before the guard was engaged that is kept under a name after some commands; none if
the last command about the name released its guard, or if there was no such command. -/
def beforeGuard? (name : String) (cs : List Command) : Option (List Command) :=
  match cs.reverse.dropWhile fun c => c.guard? ≠ some name with
  | .engage _ _ :: past => some past.reverse
  | _ => none

variable {name : String} {cs : List Command} {c : Command}

@[simp]
theorem beforeGuard?_engage (name : String) (v : Bool) (cs : List Command) :
    beforeGuard? name (cs ++ [.engage name v]) = some cs := by
  simp [beforeGuard?, guard?]

@[simp]
theorem beforeGuard?_release (name : String) (cs : List Command) :
    beforeGuard? name (cs ++ [.release name]) = none := by
  simp [beforeGuard?, guard?]

theorem beforeGuard?_of_ne (h : c.guard? ≠ some name) :
    beforeGuard? name (cs ++ [c]) = beforeGuard? name cs := by
  simp [beforeGuard?, h]

end Command

namespace Session

variable {s : Session} {name : String} {c : Command} {cs : List Command}

/-! ## Guards that are kept -/

theorem guards_attempt_of_work
    (hwork : ∀ work, s.perform c = some work → work.value.2.guards = s.guards) :
    (s.attempt c).value.2.guards = s.guards :=
  attempt_keeps (P := fun t => t.guards = s.guards) rfl hwork

/-- Only commands about guards change the guards that are kept. -/
theorem guards_attempt_of_none (s : Session) (h : c.guard? = none) :
    (s.attempt c).value.2.guards = s.guards := by
  cases c with
  | engage | release => simp [Command.guard?] at h
  | flag | setFlag | keep | make | isEnabled | run | execute | runScript | resetModel | walk => rfl
  | compare name other =>
    apply guards_attempt_of_work
    intro work h
    obtain ⟨t, -, h⟩ := Option.bind_eq_some_iff.mp h
    obtain ⟨u, -, h⟩ := Option.bind_eq_some_iff.mp h
    obtain rfl := Option.some.inj h
    rfl
  | draw | makeFrom | increment | reset | count | describe | copy | discard =>
    apply guards_attempt_of_work
    intro work h
    obtain ⟨found, -, h⟩ := Option.bind_eq_some_iff.mp h
    obtain rfl := Option.some.inj h
    rfl

theorem guards_attempt_engage (s : Session) (name : String) (v : Bool) :
    (s.attempt (.engage name v)).value.2.guards = s.guards.put name ⟨s.faulty⟩ := by
  cases hget : s.guards.get? name <;> simp [attempt, perform, engage, hget, faulty, Guard.engage]

theorem get?_guards_release (s : Session) (name : String) :
    (s.attempt (.release name)).value.2.guards.get? name = none := by
  cases hget : s.guards.get? name with
  | none => simp [attempt, perform, hget]
  | some g =>
    simp only [attempt, perform, hget]
    exact Slots.get?_remove_self _ _

/-- A command about another guard, or about none, leaves the guard under a name alone. -/
theorem get?_guards_attempt_of_ne (s : Session) (h : c.guard? ≠ some name) :
    (s.attempt c).value.2.guards.get? name = s.guards.get? name := by
  cases c with
  | engage other v =>
    have hne : name ≠ other := fun heq => h (heq ▸ rfl)
    rw [guards_attempt_engage, Slots.get?_put_of_ne _ _ hne]
  | release other =>
    have hne : name ≠ other := fun heq => h (heq ▸ rfl)
    cases hget : s.guards.get? other with
    | none => simp [attempt, perform, hget]
    | some g =>
      simp only [attempt, perform, hget]
      exact Slots.get?_remove_of_ne _ hne
  | _ => rw [guards_attempt_of_none s rfl]

theorem get?_guards_performAll_of_ne (s : Session) (h : ∀ c ∈ cs, c.guard? ≠ some name) :
    (performAll cs s).value.2.guards.get? name = s.guards.get? name := by
  induction cs generalizing s with
  | nil => rfl
  | cons c cs ih =>
    obtain ⟨hc, hcs⟩ := List.forall_mem_cons.mp h
    exact (ih _ hcs).trans (s.get?_guards_attempt_of_ne hc)

/-! ## Blocks -/

/-- The flag after some commands. -/
def flagAfter (s : Session) (cs : List Command) : Bool := (performAll cs s).value.2.faulty

theorem flagAfter_append (s : Session) (cs later : List Command) :
    s.flagAfter (cs ++ later) = (performAll cs s).value.2.flagAfter later :=
  congrArg faulty (performAll_append cs later s)

theorem faulty_attempt (s : Session) (c : Command) :
    (s.attempt c).value.2.faulty = (s.settings c).getLastD s.faulty :=
  (s.setsFlag_attempt c).left

/-- The next command about the name of a guard releases it, or puts another in its place, and
thereby puts the flag back. -/
theorem faulty_attempt_of_guard {g : Guard} (hguard : s.guards.get? name = some g)
    (hname : c.guard? = some name) : (s.attempt c).value.2.faulty = g.previous := by
  cases c with
  | engage other v | release other =>
    obtain rfl := Option.some.inj hname
    simp [faulty_attempt, settings, putBack, hguard]
  | _ => simp [Command.guard?] at hname

/-- A guard puts the flag back to what it was just before the guard was engaged. -/
theorem flagAfter_block (s : Session) (past : List Command) (v : Bool) {since : List Command}
    (hsince : ∀ c ∈ since, c.guard? ≠ some name) (hname : c.guard? = some name) :
    s.flagAfter (past ++ .engage name v :: (since ++ [c])) = s.flagAfter past := by
  have hguard : (performAll since
      ((performAll past s).value.2.attempt (.engage name v)).value.2).value.2.guards.get? name =
        some ⟨s.flagAfter past⟩ := by
    rw [get?_guards_performAll_of_ne _ hsince, guards_attempt_engage, Slots.get?_put_self]
    rfl
  calc s.flagAfter (past ++ .engage name v :: (since ++ [c]))
      = ((performAll past s).value.2.attempt (.engage name v)).value.2.flagAfter
          (since ++ [c]) := flagAfter_append s past _
    _ = ((performAll since
          ((performAll past s).value.2.attempt (.engage name v)).value.2).value.2.attempt
            c).value.2.faulty := congrArg faulty (performAll_concat since c _)
    _ = s.flagAfter past := faulty_attempt_of_guard hguard hname

theorem flagAfter_blocks (h : Command.Blocks cs) (s : Session) : s.flagAfter cs = s.faulty := by
  induction h generalizing s with
  | nil => rfl
  | block v hbody hname => exact s.flagAfter_block [] v hname rfl
  | append hcs hlater ihcs ihlater =>
    rw [flagAfter_append, ihlater]
    exact ihcs s

/-! ## What was written last -/

/-- The values that a command writes to the flag when it is done after others, one after another: a
guard that is released, or gives its name to another, writes what the flag was just before it was
engaged. -/
def written (s : Session) (past : List Command) : Command → List Bool
  | .setFlag v => [v]
  | .engage name v => v :: ((Command.beforeGuard? name past).map s.flagAfter).toList
  | .release name => ((Command.beforeGuard? name past).map s.flagAfter).toList
  | .run o => [o.faulty]
  | _ => []

/-- The values that commands write to the flag when they are done after others. -/
def writtenAll (s : Session) (past : List Command) : List Command → List Bool
  | [] => []
  | c :: cs => s.written past c ++ writtenAll s (past ++ [c]) cs

/-- After any commands, a guard remembers the flag as it was just before the guard was engaged. -/
theorem get?_guards_performAll (hs : s.guards = []) (cs : List Command) (name : String) :
    (performAll cs s).value.2.guards.get? name =
      (Command.beforeGuard? name cs).map fun past => ⟨s.flagAfter past⟩ := by
  induction cs using List.reverseRecOn with
  | nil =>
    have hperform : (performAll [] s).value.2.guards = [] := hs
    rw [hperform]
    rfl
  | append_singleton cs c ih =>
    rw [performAll_concat]
    by_cases hname : c.guard? = some name
    · cases c with
      | engage other v =>
        obtain rfl := Option.some.inj hname
        rw [guards_attempt_engage, Slots.get?_put_self, Command.beforeGuard?_engage]
        rfl
      | release other =>
        obtain rfl := Option.some.inj hname
        rw [get?_guards_release, Command.beforeGuard?_release]
        rfl
      | _ => simp [Command.guard?] at hname
    · rw [get?_guards_attempt_of_ne _ hname, ih, Command.beforeGuard?_of_ne hname]

theorem settings_performAll (hs : s.guards = []) (past : List Command) (c : Command) :
    (performAll past s).value.2.settings c = s.written past c := by
  have hputBack : ∀ name, (performAll past s).value.2.putBack name =
      ((Command.beforeGuard? name past).map s.flagAfter).toList := by
    intro name
    rw [putBack, get?_guards_performAll hs]
    cases Command.beforeGuard? name past <;> rfl
  cases c with
  | engage name v | release name => rw [settings, written, hputBack]
  | _ => rfl

theorem settingsAll_performAll (hs : s.guards = []) (past cs : List Command) :
    settingsAll cs (performAll past s).value.2 = s.writtenAll past cs := by
  induction cs generalizing past with
  | nil => rfl
  | cons c cs ih =>
    rw [settingsAll, writtenAll, settings_performAll hs, ← performAll_concat, ih]

/-- Guards put the flag back.  Every release in a well-nested program ends a block, and leaves the
flag as it was just before the block.  In any program, nested or not, the first command that is
about the name of a guard after the guard was engaged, be it the release or the engaging of another,
leaves the flag as it was just before that.  So programs that are made of blocks leave the flag as
they found it.  In a session that has no guards at first, and whatever commands are done in it, the
flag is what was last written to it, where a guard writes what the flag was just before the guard
was engaged. -/
theorem guards_restore_flag (s : Session) :
    (∀ cs, Command.Nested cs → ∀ pre name post, cs = pre ++ .release name :: post →
      ∃ earlier v body, pre = earlier ++ .engage name v :: body ∧ Command.Nested body ∧
        (∀ c ∈ body, c.guard? ≠ some name) ∧
        s.flagAfter (pre ++ [.release name]) = s.flagAfter earlier) ∧
    (∀ (past : List Command) (name : String) (v : Bool) (since : List Command),
      (∀ c ∈ since, c.guard? ≠ some name) → ∀ c : Command, c.guard? = some name →
        s.flagAfter (past ++ .engage name v :: (since ++ [c])) = s.flagAfter past) ∧
    (∀ cs, Command.Blocks cs → s.flagAfter cs = s.faulty) ∧
    (s.guards = [] → ∀ cs, s.flagAfter cs = (s.writtenAll [] cs).getLastD s.faulty) := by
  refine ⟨?_, ?_, fun cs h => flagAfter_blocks h s, ?_⟩
  · intro cs hcs pre name post hsplit
    obtain ⟨earlier, v, body, rfl, hbody, hname⟩ := hcs.exists_block hsplit
    refine ⟨earlier, v, body, rfl, hbody, hname, ?_⟩
    rw [List.append_assoc, List.cons_append]
    exact s.flagAfter_block earlier v hname rfl
  · intro past name v since hsince c hname
    exact s.flagAfter_block past v hsince hname
  · intro hs cs
    rw [← settingsAll_performAll hs []]
    exact (setsFlag_performAll cs s).left

/-- Guards that are released in the order in which they were engaged: the flag was down, and is up
after that. -/
example (entropy : Entropy) :
    (start .flagged { entropy }).flagAfter
      [.engage "first" true, .engage "second" false, .release "first", .release "second"] = true :=
  rfl

end Session

end CounterWalk

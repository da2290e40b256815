import CounterWalk.Proofs.Json.Grammar
import CounterWalk.Proofs.Report.Verdict

/-!
# What is read as a report is spelled

The readers of actions, verdicts and reports judge a text while they read it, and some of them look
no further than a bracket.  Still they return nothing before they have seen a value to its end: a
text that is read as a report is one of an object, and so is a text that is read as a verdict and
starts with a brace.

Main results:

- Theorem `Action.isSound_readList`: lists of actions;
- Theorem `Json.exists_isTextOf_object`: objects whose members are handed to any sound reader;
- Theorems `Report.exists_isTextOf` and `Verdict.exists_isTextOf`: reports and verdicts.
-/

namespace CounterWalk

open Json

section

variable {v : Json} {w t text rest after : List Char} {depth : Nat}

theorem Json.SpellsScalar.spells (h : SpellsScalar v t) (depth : Nat) : Spells depth v t := by
  cases depth with
  | zero => exact h
  | succ depth => exact .scalar h

/-! ## Actions -/

/-- What is read as an action spells some value. -/
theorem Action.isSound_read (depth : Nat) :
    IsSound Action.read fun _ t => ∃ v, Spells (depth + 1) v t := by
  intro text a rest h
  obtain ⟨c, mid, hpeek, hnext⟩ := exists_of_bind h
  obtain ⟨w, t, hw, rfl, rfl⟩ := exists_of_peekChar hpeek
  split at hnext
  · obtain ⟨name, mid, hname, hjudge⟩ := exists_of_bind hnext
    obtain ⟨-, rfl⟩ := exists_of_judge hjudge
    obtain ⟨w', n, hw', hn, hquote⟩ := exists_spelled_of_readName hname
    exact ⟨w ++ w', _, hw.append hw', by rw [hquote]; simp, .string name, .scalar (.string hn)⟩
  · rw [bind_of_ok (skip_cons _ _)] at hnext
    obtain ⟨name, mid, hname, hjudge⟩ := exists_of_bind hnext
    obtain ⟨w', n, hw', hn, rfl⟩ := exists_spelled_of_readName hname
    obtain ⟨_, mid', hknown, hmark⟩ := exists_of_bind hjudge
    obtain ⟨-, rfl⟩ := exists_of_judge hknown
    obtain ⟨_, mid', hcolon, hvalue⟩ := exists_of_bind hmark
    obtain ⟨before, hbefore, rfl⟩ := exists_of_mark hcolon
    rw [← bind_assoc] at hvalue
    obtain ⟨_, mid, hnothing, hclose⟩ := exists_of_bind hvalue
    obtain ⟨v, after, t, hafter, rfl, hv, -⟩ :=
      exists_spelled_of_readShallow isShallow_decodeNothing hnothing
    obtain ⟨_, mid', hbrace, hend⟩ := exists_of_bind hclose
    obtain ⟨last, hlast, rfl⟩ := exists_of_mark hbrace
    cases hend
    have hmember := SpellsMember.intro hn hbefore hafter (hv.spells depth)
    exact ⟨w, _, hw, by simp, .object [(name, v)], .object (.cons hw' hmember (.nil hlast))⟩
  · cases hnext

/-- What is read as a list of actions spells some value. -/
theorem Action.isSound_readList (depth : Nat) :
    IsSound Action.readList fun _ t => ∃ v, Spells (depth + 2) v t := by
  intro text as rest h
  obtain ⟨c, mid, hpeek, hnext⟩ := exists_of_bind h
  obtain ⟨w, t, hw, rfl, rfl⟩ := exists_of_peekChar hpeek
  split at hnext
  · rename_i hc
    subst hc
    rw [bind_of_ok (skip_cons _ _)] at hnext
    obtain ⟨ts, rfl, hts⟩ := exists_spelled_of_elements (isSound_read depth) hnext
    obtain ⟨items, hitems, -⟩ := hts.exists_forall₂ (R := fun _ _ => True) fun _ t ⟨v, hv⟩ =>
      ⟨v, hv, trivial⟩
    exact ⟨w, _, hw, by simp, .array items, .array hitems⟩
  · obtain ⟨v, mid, -, hjudge⟩ := exists_of_bind hnext
    cases hjudge

/-! ## Members -/

/-- A value that has been judged by no more than its bracket has been seen to its end. -/
theorem Json.isSound_readShallow {β : Type} {f : Json → Except ShapeError β} (hf : IsShallow f)
    (depth : Nat) :
    IsSound (readShallow >>= fun v => judge (f v)) fun _ t => ∃ v, Spells depth v t := by
  intro text b rest h
  obtain ⟨v, w, t, hw, htext, hv, -⟩ := exists_spelled_of_readShallow hf h
  exact ⟨w, t, hw, htext, v, hv.spells depth⟩

/-- A member that is read after its name has been found to be new. -/
theorem Json.exists_spelled_of_readSlot {α β σ : Type} {reader : Reader α}
    {value : Json → List Char → Prop} (hreader : IsSound reader fun _ t => ∃ v, value v t)
    (name : String) (o : Option β) (put : α → σ) {s : σ}
    (h : (judge (refuseRepeat name o) >>= fun _ => mark ':' >>= fun _ => reader >>= fun a =>
      (pure (put a) : Reader σ)) text = .ok (s, rest)) :
    ∃ before after v t, Blanks before ∧ Blanks after ∧ value v t ∧
      text = before ++ ':' :: (after ++ (t ++ rest)) := by
  obtain ⟨_, mid, hjudge, hmark⟩ := exists_of_bind h
  obtain ⟨-, rfl⟩ := exists_of_judge hjudge
  obtain ⟨_, mid, hcolon, hslot⟩ := exists_of_bind hmark
  obtain ⟨before, hbefore, rfl⟩ := exists_of_mark hcolon
  obtain ⟨a, mid', hread, hend⟩ := exists_of_bind hslot
  cases hend
  obtain ⟨after, t, hafter, rfl, v, hv⟩ := hreader hread
  exact ⟨before, after, v, t, hbefore, hafter, hv, rfl⟩

/-- A member of a report that is read has some value. -/
theorem ReportMembers.memberIsSound_readMember :
    MemberIsSound ReportMembers.readMember (Spells innerDepth) := by
  intro f name text f' rest h
  unfold readMember at h
  split at h
  · refine exists_spelled_of_readSlot (isSound_readShallow (isShallow_decodeWord .word) innerDepth)
      "seed" f.seed (fun n => { f with seed := some n }) (s := f') ?_
    simpa only [bind_assoc] using h
  · refine exists_spelled_of_readSlot (isSound_readShallow (isShallow_decodeWord .size) innerDepth)
      "steps_executed" f.stepsExecuted (fun n => { f with stepsExecuted := some n }) (s := f') ?_
    simpa only [bind_assoc] using h
  · exact exists_spelled_of_readSlot (Action.isSound_readList 124) "trace" f.trace
      (fun as => { f with trace := some as }) h
  · obtain ⟨others, mid, hread, hend⟩ := exists_of_bind h
    cases hend
    exact memberIsSound_pushMember (isSound_readValue innerDepth) f.others name hread

/-- A member of a verdict that is read has some value. -/
theorem VerdictMembers.memberIsSound_readMember :
    MemberIsSound VerdictMembers.readMember (Spells innerDepth) := by
  intro t name text t' rest h
  unfold readMember at h
  split at h
  · refine exists_spelled_of_readSlot (isSound_readShallow t.isShallow_addName innerDepth) "verdict"
      t.name id (s := t') ?_
    simpa only [id, bind_pure] using h
  · obtain ⟨others, mid, hread, hend⟩ := exists_of_bind h
    cases hend
    exact memberIsSound_pushMember (isSound_readValue innerDepth) t.others name hread

/-! ## Whole texts -/

/-- Members are read from the text of an object, whatever they are read for. -/
theorem Json.exists_isTextOf_object {α σ : Type} {member : σ → String → Reader σ}
    {result : σ → Except ShapeError α} {s : σ} {a : α}
    (hmember : MemberIsSound member (Spells innerDepth)) (hw : Blanks w) (hafter : Blanks after)
    (h : (skip >>= fun _ => members member s >>= fun s' => judge (result s')) ('\x7b' :: t) =
      .ok (a, after)) : ∃ ms, IsTextOf (.object ms) (w ++ '\x7b' :: t) := by
  rw [bind_of_ok (skip_cons _ _)] at h
  obtain ⟨s', mid, hread, hjudge⟩ := exists_of_bind h
  obtain ⟨-, rfl⟩ := exists_of_judge hjudge
  obtain ⟨ms, ts, rfl, hms⟩ := exists_spelled_of_members hmember hread
  have hspells : Spells maxDepth (.object ms) _ := .object hms
  exact ⟨ms, by simpa using IsTextOf.intro hw hspells hafter⟩

/-- What is read as a report is the text of an object. -/
theorem Report.exists_isTextOf {r : Report} (h : readAll read text = .ok r) :
    ∃ ms, IsTextOf (.object ms) text := by
  obtain ⟨after, hread, hafter⟩ := exists_of_readAll h
  obtain ⟨c, mid, hpeek, hnext⟩ := exists_of_bind hread
  obtain ⟨w, t, hw, rfl, rfl⟩ := exists_of_peekChar hpeek
  split at hnext
  · rename_i hc
    subst hc
    exact exists_isTextOf_object ReportMembers.memberIsSound_readMember hw hafter hnext
  · obtain ⟨v, mid, -, hjudge⟩ := exists_of_bind hnext
    cases hjudge

/-- What starts with a brace and is read as a verdict is the text of an object. -/
theorem Verdict.exists_isTextOf {v : Verdict} (hw : Blanks w)
    (h : readAll read (w ++ '\x7b' :: t) = .ok v) :
    ∃ ms, IsTextOf (.object ms) (w ++ '\x7b' :: t) := by
  obtain ⟨after, hread, hafter⟩ := exists_of_readAll h
  rw [read, bind_of_ok (peekChar_eq hw (by decide) t)] at hread
  exact exists_isTextOf_object VerdictMembers.memberIsSound_readMember hw hafter hread

end

end CounterWalk

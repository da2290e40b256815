import CounterWalk.Proofs.Json.Reading
import CounterWalk.Report.Decode

/-!
# What the readers of reports make of a value

The readers of actions and reports look at a text from left to right and stop at the first thing
that they do not expect.  On a text that spells a value this comes to a function of the value,
errors included, and each part of a report has its own.

Main results:

- Theorem `Action.read_spelled`: an action;
- Theorem `ReportMembers.readMember_spelled`: one more member of a report;
- Theorem `Report.read_spelled`: a report.
-/

namespace CounterWalk

open Json

/-! ## Actions -/

namespace Action

/-- The action for which a value stands. -/
def ofJson : Json → Except ReadError Action
  | .string s => (decodeName s).mapError .shape
  | .object ((name, v) :: more) => do
    let a ← (decodeName name).mapError .shape
    v.decodeNothing.mapError .shape
    if more.isEmpty then return a else throw .malformed
  | _ => .error .malformed

/-- The actions for which a list stands. -/
def listOfJson : Json → Except ReadError (List Action)
  | .array items => items.mapM ofJson
  | v => .error (.shape (.wrongType v.found .sequence))

end Action

theorem Json.isShallow_decodeWord (wanted : Wanted) : IsShallow (decodeWord wanted) :=
  ⟨⟨.wrongType .sequence wanted, fun _ => rfl⟩, ⟨.wrongType .map wanted, fun _ => rfl⟩⟩

theorem Json.isShallow_decodeNothing : IsShallow decodeNothing :=
  ⟨⟨.wrongType .sequence .nothing, fun _ => rfl⟩, ⟨.wrongType .map .nothing, fun _ => rfl⟩⟩

theorem Json.isShallow_refuse {α : Type} (wanted : Wanted) :
    IsShallow fun v => (.error (.wrongType v.found wanted) : Except ShapeError α) :=
  ⟨⟨.wrongType .sequence wanted, fun _ => rfl⟩, ⟨.wrongType .map wanted, fun _ => rfl⟩⟩

section

variable {name : String} {v : Json} {w t ts rest : List Char} {depth : Nat}
  {ms : List (String × Json)}

theorem Action.read_string {s : String} (hw : Blanks w) (h : SpellsString s.toList t)
    (rest : List Char) :
    Action.read (w ++ '"' :: (t ++ '"' :: rest)) =
      ((decodeName s).mapError .shape).map (·, rest) := by
  rw [Action.read, bind_of_ok (peekChar_eq hw (by decide) _)]
  change (readName >>= fun name => judge (decodeName name)) _ = _
  have hname : readName ('"' :: (t ++ '"' :: rest)) = .ok (s, rest) :=
    readName_spelled blanks_nil h rest
  rw [bind_of_ok hname, judge_apply]

/-- After its only member an object ends, and after any other member it goes on. -/
theorem Json.mark_brace (h : SpellsRest (SpellsMember (Spells depth)) ms ts) (rest : List Char) :
    mark '\x7d' (ts ++ '\x7d' :: rest) =
      if ms.isEmpty then .ok ((), rest) else .error .malformed := by
  cases h with
  | nil hw => exact mark_self hw (by decide) rest
  | cons hafter hbefore hm h =>
    rw [List.append_assoc, List.cons_append]
    exact mark_of_ne hafter (by decide) (by decide) _

theorem Action.read_object (hw : Blanks w) (h : SpellsAll (SpellsMember (Spells depth)) ms ts)
    (rest : List Char) :
    Action.read (w ++ '\x7b' :: (ts ++ '\x7d' :: rest)) =
      (ofJson (.object ms)).map (·, rest) := by
  rw [Action.read, bind_of_ok (peekChar_eq hw (by decide) _)]
  simp only []
  rw [bind_of_ok (skip_cons _ _)]
  cases h with
  | nil hw =>
    rw [bind_of_error (readName_of_ne hw (by decide) (by decide) rest)]
    rfl
  | cons hbefore hm h =>
    rename_i more before t ts
    cases hm with
    | @intro name v n before after t hname hcolon hafter hvalue =>
      have hread : (readShallow >>= fun v => judge v.decodeNothing)
          (after ++ (t ++ (ts ++ '\x7d' :: rest))) =
            (v.decodeNothing.mapError ReadError.shape).map (·, ts ++ '\x7d' :: rest) :=
        readShallow_spelled isShallow_decodeNothing depth hafter hvalue
          (h.delimited '\x7d' (by decide) rest)
      simp only [List.append_assoc, List.cons_append]
      rw [bind_of_ok (readName_spelled hbefore hname _), bind_of_eq (judge_apply _ _), ofJson]
      cases (decodeName name).mapError ReadError.shape with
      | error e => rfl
      | ok a =>
        simp only [Except.bind]
        rw [bind_of_ok (mark_self hcolon (by decide) _), ← bind_assoc, bind_of_eq hread]
        cases v.decodeNothing.mapError ReadError.shape with
        | error e => rfl
        | ok u =>
          have hend := mark_brace h rest
          change (mark '\x7d' >>= fun _ => pure a) (ts ++ '\x7d' :: rest) =
            Except.map (·, rest) (if more.isEmpty then .ok a else .error .malformed)
          split at hend
          · rename_i hmore
            rw [bind_of_ok hend, if_pos hmore]
            rfl
          · rename_i hmore
            rw [bind_of_error hend, if_neg hmore]
            rfl

/-- What is no string and no object is no action. -/
theorem Action.read_of_head {c : Char} (hw : Blanks w) (hc : isBlank c = false) (hquote : c ≠ '"')
    (hbrace : c ≠ '\x7b') (t : List Char) : Action.read (w ++ c :: t) = .error .malformed := by
  rw [Action.read, bind_of_ok (peekChar_eq hw hc t)]
  split
  · exact absurd rfl hquote
  · exact absurd rfl hbrace
  · rfl

/-- An action is read as the one for which the value stands. -/
theorem Action.read_spelled (depth : Nat) : ReadsAs Action.read (Spells depth) ofJson := by
  intro v w t rest hw h hrest
  cases v with
  | string s =>
    obtain ⟨n, hn, rfl⟩ := h.string_inv
    simp only [List.append_assoc, List.cons_append, List.nil_append]
    exact read_string hw hn rest
  | object ms =>
    obtain ⟨inner, ts, rfl, hts, rfl⟩ := h.object_inv
    simp only [List.append_assoc, List.cons_append, List.nil_append]
    exact read_object hw hts rest
  | bool b =>
    obtain ⟨c, t', rfl, hc⟩ := h.exists_leads
    cases b <;>
      exact read_of_head hw (isBlank_of_leads hc).1 (leads_ne hc rfl) (leads_ne hc rfl) _
  | _ =>
    obtain ⟨c, t', rfl, hc⟩ := h.exists_leads
    exact read_of_head hw (isBlank_of_leads hc).1 (leads_ne hc rfl) (leads_ne hc rfl) _

/-- Where a list has to stand, any other value is refused by its kind. -/
theorem Action.listOfJson_of_ne (h : ∀ items, v ≠ .array items) :
    listOfJson v = .error (.shape (.wrongType v.found .sequence)) := by
  cases v with
  | array items => exact absurd rfl (h items)
  | _ => rfl

/-- A list of actions is read action by action. -/
theorem Action.readList_spelled (depth : Nat) :
    ReadsAs Action.readList (Spells depth) listOfJson := by
  intro v w t rest hw h hrest
  by_cases hlist : ∃ items, v = .array items
  · obtain ⟨items, rfl⟩ := hlist
    obtain ⟨inner, ts, rfl, hts, rfl⟩ := h.array_inv
    simp only [List.append_assoc, List.cons_append, List.nil_append]
    rw [Action.readList, bind_of_ok (peekChar_eq hw (by decide) _), if_pos rfl,
      bind_of_ok (skip_cons _ _)]
    exact elements_spelled (read_spelled inner) (fun _ _ h => h.startsItem) hts rest
  · simp only [not_exists] at hlist
    rw [listOfJson_of_ne hlist]
    obtain ⟨c, t', rfl, hc⟩ := h.exists_leads
    have hbracket : c ≠ '[' := by
      rintro rfl
      obtain ⟨items, hitems⟩ := leads_bracket hc
      exact hlist items hitems
    rw [List.cons_append, Action.readList, bind_of_ok (peekChar_eq hw (isBlank_of_leads hc).1 _),
      if_neg hbracket]
    exact readShallow_spelled (isShallow_refuse .sequence) depth blanks_nil h hrest

/-! ## Reports -/

/-- Takes one more member of a report. -/
def ReportMembers.add (f : ReportMembers) (m : String × Json) : Except ReadError ReportMembers := do
  match m.1 with
  | "seed" =>
    (refuseRepeat "seed" f.seed).mapError .shape
    return { f with seed := some (← (m.2.decodeWord .word).mapError .shape) }
  | "steps_executed" =>
    (refuseRepeat "steps_executed" f.stepsExecuted).mapError .shape
    return { f with stepsExecuted := some (← (m.2.decodeWord .size).mapError .shape) }
  | "trace" =>
    (refuseRepeat "trace" f.trace).mapError .shape
    return { f with trace := some (← Action.listOfJson m.2) }
  | _ => return { f with others := m :: f.others }

namespace ReportMembers

/-- The names of the members that are a report's own, the verdict's left out. -/
def names : List String := ["seed", "steps_executed", "trace"]

variable (f : ReportMembers) (v : Json)

theorem add_seed : add f ("seed", v) =
    (refuseRepeat "seed" f.seed).mapError .shape >>= fun _ =>
      (v.decodeWord .word).mapError .shape >>= fun n => pure { f with seed := some n } :=
  rfl

theorem add_stepsExecuted : add f ("steps_executed", v) =
    (refuseRepeat "steps_executed" f.stepsExecuted).mapError .shape >>= fun _ =>
      (v.decodeWord .size).mapError .shape >>= fun n => pure { f with stepsExecuted := some n } :=
  rfl

theorem add_trace : add f ("trace", v) =
    (refuseRepeat "trace" f.trace).mapError .shape >>= fun _ =>
      Action.listOfJson v >>= fun as => pure { f with trace := some as } :=
  rfl

theorem add_other {name : String} (h : name ∉ names) :
    add f (name, v) = .ok { f with others := (name, v) :: f.others } := by
  simp only [names, List.mem_cons, List.not_mem_nil, or_false, not_or] at h
  unfold add
  split
  · exact absurd ‹name = _› h.1
  · exact absurd ‹name = _› h.2.1
  · exact absurd ‹name = _› h.2.2
  · rfl

end ReportMembers

/-- The report for which a value stands. -/
def Report.ofJson : Json → Except ReadError Report
  | .object ms => do (← ms.foldlM ReportMembers.add {}).report.mapError .shape
  | v => .error (.shape (.wrongType v.found .report))

/-- A member that is read after its name has been found to be new. -/
theorem Json.readSlot_spelled {α β σ : Type} {reader : Reader α} {value : Json → List Char → Prop}
    {decode : Json → Except ReadError α} (hreader : ReadsAs reader value decode) (name : String)
    (o : Option β) (put : α → σ) {before after : List Char} (hbefore : Blanks before)
    (hafter : Blanks after) (ht : value v t) (hrest : Delimited rest) :
    (judge (refuseRepeat name o) >>= fun _ => mark ':' >>= fun _ => reader >>= fun a =>
        (pure (put a) : Reader σ)) (before ++ ':' :: (after ++ (t ++ rest))) =
      ((refuseRepeat name o).mapError ReadError.shape >>= fun _ => decode v >>= fun a =>
        pure (put a)).map (·, rest) := by
  rw [bind_of_eq (judge_apply _ _)]
  cases (refuseRepeat name o).mapError ReadError.shape with
  | error e => rfl
  | ok u =>
    change (mark ':' >>= fun _ => reader >>= fun a => pure (put a)) _ =
      (decode v >>= fun a => pure (put a)).map (·, rest)
    rw [bind_of_ok (mark_self hbefore (by decide) _), bind_of_eq (hreader hafter ht hrest)]
    cases decode v <;> rfl

/-- One more member of a report is taken as a whole. -/
theorem ReportMembers.readMember_spelled :
    MemberReadsAs ReportMembers.readMember (Spells innerDepth) add := by
  intro f name v before after t rest hbefore hafter ht hrest
  unfold readMember
  split
  · have hread := readSlot_spelled (readShallow_spelled (isShallow_decodeWord .word) innerDepth)
      "seed" f.seed (fun n => { f with seed := some n }) hbefore hafter ht hrest
    rw [add_seed]
    simpa only [bind_assoc] using hread
  · have hread := readSlot_spelled (readShallow_spelled (isShallow_decodeWord .size) innerDepth)
      "steps_executed" f.stepsExecuted (fun n => { f with stepsExecuted := some n }) hbefore hafter
      ht hrest
    rw [add_stepsExecuted]
    simpa only [bind_assoc] using hread
  · rw [add_trace]
    exact readSlot_spelled (Action.readList_spelled innerDepth) "trace" f.trace
      (fun as => { f with trace := some as }) hbefore hafter ht hrest
  · rename_i hseed hsteps htrace
    rw [add_other f v (by simpa [names] using ⟨hseed, hsteps, htrace⟩),
      bind_of_eq (pushMember_readsAs (readValue_spelled innerDepth) f.others name hbefore hafter ht
        hrest)]
    rfl

/-- Where a report has to stand, any value but an object is refused by its kind. -/
theorem Report.ofJson_of_ne (h : ∀ ms, v ≠ .object ms) :
    ofJson v = .error (.shape (.wrongType v.found .report)) := by
  cases v with
  | object ms => exact absurd rfl (h ms)
  | _ => rfl

/-- A report is read as the one for which the value stands. -/
theorem Report.read_spelled : ReadsAs Report.read (Spells maxDepth) ofJson := by
  intro v w t rest hw h hrest
  by_cases hobject : ∃ ms, v = .object ms
  · obtain ⟨ms, rfl⟩ := hobject
    obtain ⟨inner, ts, hinner, hts, rfl⟩ := h.object_inv
    obtain rfl : inner = innerDepth := by
      rw [innerDepth, hinner, Nat.add_sub_cancel]
    have hread := members_spelled ReportMembers.readMember_spelled hts rest {}
    simp only [List.append_assoc, List.cons_append, List.nil_append]
    rw [Report.read, bind_of_ok (peekChar_eq hw (by decide) _), if_pos rfl,
      bind_of_ok (skip_cons _ _), bind_of_eq hread, ofJson]
    cases ms.foldlM ReportMembers.add {} with
    | error e => rfl
    | ok f => exact judge_apply f.report rest
  · simp only [not_exists] at hobject
    rw [ofJson_of_ne hobject]
    obtain ⟨c, t', rfl, hc⟩ := h.exists_leads
    have hbrace : c ≠ '\x7b' := by
      rintro rfl
      obtain ⟨ms, hms⟩ := leads_brace hc
      exact hobject ms hms
    rw [List.cons_append, Report.read, bind_of_ok (peekChar_eq hw (isBlank_of_leads hc).1 _),
      if_neg hbrace]
    exact readShallow_spelled (isShallow_refuse .report) maxDepth blanks_nil h hrest

end

end CounterWalk

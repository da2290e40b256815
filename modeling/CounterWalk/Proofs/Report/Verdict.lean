import CounterWalk.Proofs.Report.Description

/-!
# Verdicts by themselves

A verdict by itself is read straight from its text, with one pass over the members of an object;
inside a report it is made of members that have been kept.  The two passes differ in when they look
at the name of the verdict and in one thing that they accept: only the second takes the place of a
verdict for its name.  So an object describes a verdict in both ways or in none, unless it tells a
place.

Main definition:

- `Verdict.ofJson`: the verdict for which a value stands.

Main results:

- Theorem `Verdict.read_spelled`: a verdict is read as the one for which the value stands;
- Theorem `Verdict.ofJson_object_eq_ok`: an object is taken for the verdict that it describes;
- Theorem `Verdict.ofJson_array_fail`: a list is taken for what the members of the same values are
  taken for.
-/

namespace CounterWalk

open Json

section

variable {v : Json} {w t ts rest : List Char} {depth : Nat}

/-! ## What the reader makes of a value -/

/-- Takes one more member of a verdict by itself. -/
def VerdictMembers.take (t : VerdictMembers) (m : String × Json) :
    Except ReadError VerdictMembers := do
  if m.1 = "verdict" then
    (refuseRepeat "verdict" t.name).mapError .shape
    (t.addName false m.2).mapError .shape
  else
    return { t with others := m :: t.others }

/-- The verdict for which a value stands. -/
def Verdict.ofJson : Json → Except ReadError Verdict
  | .object ms => do (← ms.foldlM VerdictMembers.take {}).verdict.mapError .shape
  | .array [] => .error (.shape (.missingField "verdict"))
  | .array (name :: more) => do
    let kind ← (VerdictName.decode false name).mapError .shape
    (ofElements kind more).mapError .shape
  | v => .error (.shape (.wrongType v.found .verdict))

theorem VerdictName.isShallow_decode (placeAllowed : Bool) : IsShallow (decode placeAllowed) :=
  ⟨⟨.wrongType .sequence .verdictName, fun _ => rfl⟩, ⟨.wrongType .map .verdictName, fun _ => rfl⟩⟩

theorem VerdictMembers.isShallow_addName (t : VerdictMembers) : IsShallow (t.addName false) :=
  ⟨⟨.wrongType .sequence .verdictName, fun _ => rfl⟩, ⟨.wrongType .map .verdictName, fun _ => rfl⟩⟩

/-- One more member of a verdict is taken as a whole. -/
theorem VerdictMembers.readMember_spelled :
    MemberReadsAs VerdictMembers.readMember (Spells innerDepth) take := by
  intro f name v before after t rest hbefore hafter ht hrest
  unfold readMember take
  split
  · rename_i hname
    subst hname
    have hread := readSlot_spelled (readShallow_spelled f.isShallow_addName innerDepth) "verdict"
      f.name id hbefore hafter ht hrest
    simpa only [id, bind_pure] using hread
  · rw [bind_of_eq (pushMember_readsAs (readValue_spelled innerDepth) f.others name hbefore hafter
      ht hrest)]
    rfl

/-- The elements of a list are taken for a verdict. -/
theorem Verdict.read_array {items : List Json} (hw : Blanks w)
    (h : SpellsAll (Spells innerDepth) items ts) (rest : List Char) :
    Verdict.read (w ++ '[' :: (ts ++ ']' :: rest)) = (ofJson (.array items)).map (·, rest) := by
  rw [Verdict.read, bind_of_ok (peekChar_eq hw (by decide) _)]
  simp only []
  rw [bind_of_ok (skip_cons _ _)]
  cases h with
  | nil hblank =>
    rw [bind_of_ok (peekChar_eq hblank (by decide) rest), if_pos rfl]
    rfl
  | @cons name more before t ts hbefore hname hmore =>
    obtain ⟨c, t', rfl, hblank, hc⟩ := hname.startsItem
    have hkind := readShallow_spelled (VerdictName.isShallow_decode false) innerDepth blanks_nil
      hname (hmore.delimited ']' (by decide) rest)
    have hrest := remainingElements_spelled (readValue_spelled innerDepth)
      (fun _ _ h => h.startsItem) hmore rest
    rw [mapM_ok] at hrest
    simp only [List.append_assoc, List.cons_append, List.nil_append] at hkind ⊢
    rw [bind_of_ok (peekChar_eq hbefore hblank _), if_neg hc, ← bind_assoc, bind_of_eq hkind,
      ofJson]
    cases (VerdictName.decode false name).mapError ReadError.shape with
    | error e => rfl
    | ok kind =>
      change (remainingElements (readValue innerDepth) >>= fun more => judge (ofElements kind more))
        (ts ++ ']' :: rest) = _
      rw [bind_of_eq hrest]
      exact judge_apply _ rest

/-- Where a verdict has to stand, a value without brackets is refused by its kind. -/
theorem Verdict.ofJson_of_ne (hlist : ∀ items, v ≠ .array items) (hobject : ∀ ms, v ≠ .object ms) :
    ofJson v = .error (.shape (.wrongType v.found .verdict)) := by
  cases v with
  | array items => exact absurd rfl (hlist items)
  | object ms => exact absurd rfl (hobject ms)
  | _ => rfl

/-- A verdict is read as the one for which the value stands. -/
theorem Verdict.read_spelled : ReadsAs Verdict.read (Spells maxDepth) ofJson := by
  intro v w t rest hw h hrest
  rcases h.scalar_or_bracket with hscalar | ⟨items, t', rfl, rfl⟩ | ⟨ms, t', rfl, rfl⟩
  · obtain ⟨c, t', rfl, hc, hblank, hbracket, hbrace⟩ := hscalar.exists_head
    rw [ofJson_of_ne]
    · rw [List.cons_append, Verdict.read, bind_of_ok (peekChar_eq hw hblank _)]
      split
      · exact absurd rfl hbrace
      · exact absurd rfl hbracket
      · exact readShallow_spelled (isShallow_refuse .verdict) maxDepth blanks_nil h hrest
    · rintro items rfl
      cases hscalar
    · rintro ms rfl
      cases hscalar
  · obtain ⟨inner, ts, hinner, hts, heq⟩ := h.array_inv
    obtain rfl : inner = innerDepth := by
      rw [innerDepth, hinner, Nat.add_sub_cancel]
    rw [heq]
    simp only [List.append_assoc, List.cons_append, List.nil_append]
    exact read_array hw hts rest
  · obtain ⟨inner, ts, hinner, hts, heq⟩ := h.object_inv
    obtain rfl : inner = innerDepth := by
      rw [innerDepth, hinner, Nat.add_sub_cancel]
    have hread := members_spelled VerdictMembers.readMember_spelled hts rest {}
    rw [heq]
    simp only [List.append_assoc, List.cons_append, List.nil_append]
    rw [Verdict.read, bind_of_ok (peekChar_eq hw (by decide) _)]
    simp only []
    rw [bind_of_ok (skip_cons _ _), bind_of_eq hread, ofJson]
    cases ms.foldlM VerdictMembers.take {} with
    | error e => rfl
    | ok t => exact judge_apply t.verdict rest

/-! ## Objects -/

variable {kind : VerdictName} {f after : VerdictMembers} {ms : List (String × Json)}

/-- A name is all that is taken where no place is allowed. -/
theorem VerdictName.decode_false_eq_ok :
    decode false v = .ok kind ↔ decode true v = .ok kind ∧ ∀ n, v ≠ .ofWord n := by
  unfold decode
  split
  · simp [ofWord]
  · rename_i n
    refine ⟨fun h => ?_, fun h => absurd rfl (h.2 n)⟩
    cases h
  · simp

theorem VerdictMembers.take_eq_ok (m : String × Json) :
    f.take m = .ok after ↔ f.add m = .ok after ∧ ∀ n, m ≠ ("verdict", .ofWord n) := by
  obtain ⟨name, v⟩ := m
  unfold take add addName
  split
  · simp only [bind_eq_ok, mapError_eq_ok, VerdictName.decode_false_eq_ok]
    grind
  · simp only [pure_eq_ok]
    grind

/-- A pass over the members of a verdict by itself comes to the same as one over members that have
been kept, unless one of them tells a place. -/
theorem VerdictMembers.foldlM_take_eq_ok : ms.foldlM take f = .ok after ↔
    ms.foldlM add f = .ok after ∧ ∀ n, ("verdict", .ofWord n) ∉ ms := by
  induction ms generalizing f with
  | nil => simp [pure_eq_ok]
  | cons m ms ih =>
    simp only [List.foldlM_cons, bind_eq_ok, take_eq_ok, ih, List.mem_cons, not_or]
    constructor
    · rintro ⟨f', ⟨hm, hplace⟩, hms, hplaces⟩
      exact ⟨⟨f', hm, hms⟩, fun n => ⟨(hplace n).symm, hplaces n⟩⟩
    · rintro ⟨⟨f', hm, hms⟩, hplaces⟩
      exact ⟨f', ⟨hm, fun n => Ne.symm (hplaces n).1⟩, hms, fun n => (hplaces n).2⟩

namespace Verdict

variable {verdict : Verdict} {text : List Char}

/-- An object is taken for the verdict that it describes, unless it tells a place. -/
theorem ofJson_object_eq_ok : ofJson (.object ms) = .ok verdict ↔
    verdict.DescribedBy ms ∧ ∀ n, ("verdict", .ofWord n) ∉ ms := by
  simp only [ofJson, bind_eq_ok, mapError_eq_ok, VerdictMembers.foldlM_take_eq_ok, ← ofKept_eq_ok]
  constructor
  · rintro ⟨t, ⟨ht, hplaces⟩, hverdict⟩
    exact ⟨⟨t, ht, hverdict⟩, hplaces⟩
  · rintro ⟨⟨t, ht, hverdict⟩, hplaces⟩
    exact ⟨t, ⟨ht, hplaces⟩, hverdict⟩

/-- A text of an object is read as the verdict that the object describes, unless it tells a
place. -/
theorem readAll_read_eq_ok (h : IsTextOf (.object ms) text) : readAll read text = .ok verdict ↔
    verdict.DescribedBy ms ∧ ∀ n, ("verdict", .ofWord n) ∉ ms := by
  rw [read_spelled.readAll h, ofJson_object_eq_ok]

/-! ## Lists -/

/-- A failed walk is told by a list as by an object, errors included. -/
theorem ofJson_array_fail (step reason : Json) :
    ofJson (.array [.string "fail", step, reason]) =
      ofJson (.object [("verdict", .string "fail"), ("step", step), ("reason", reason)]) := by
  have hmembers : ofMembers .fail [("step", step), ("reason", reason)] =
      ofElements .fail [step, reason] := by
    simp only [ofMembers, ofElements, List.foldlM_cons, List.foldlM_nil, FailureMembers.add]
    cases step.decodeWord .size with
    | error e => rfl
    | ok n => cases reason.decodeString <;> rfl
  have hlist : ofJson (.array [.string "fail", step, reason]) =
      (ofElements .fail [step, reason]).mapError .shape := rfl
  have hobject :
      ofJson (.object [("verdict", .string "fail"), ("step", step), ("reason", reason)]) =
        (ofMembers .fail [("step", step), ("reason", reason)]).mapError .shape := rfl
  rw [hlist, hobject, hmembers]

end Verdict

end

end CounterWalk

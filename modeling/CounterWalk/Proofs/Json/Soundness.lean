import CounterWalk.Proofs.Json.LiteralSoundness
import CounterWalk.Proofs.Json.Reading
import Mathlib

/-!
# What is read is spelled

Whatever is read as a value spells it, so the texts of a value are exactly those that are read as
the value.  A reader that returns something has taken a part of the text from the front; the proofs
say what that part is, reader by reader, and leave the rest alone.

Main results:

- Theorem `Json.isSound_readValue`: values;
- Theorem `Json.readAll_readValue_eq_ok`: whole texts.
-/

namespace CounterWalk.Json

/-! ## One reader after another -/

section

variable {α β : Type} {m : Reader α} {k : α → Reader β} {text rest : List Char} {b : β} {c : Char}

theorem exists_of_bind (h : (m >>= k) text = .ok (b, rest)) :
    ∃ a mid, m text = .ok (a, mid) ∧ k a mid = .ok (b, rest) := by
  change (m text).bind (fun p => k p.1 p.2) = _ at h
  cases hm : m text with
  | error e =>
    rw [hm] at h
    cases h
  | ok p =>
    rw [hm] at h
    exact ⟨p.1, p.2, rfl, h⟩

theorem exists_of_map {f : α → β} (h : (f <$> m) text = .ok (b, rest)) :
    ∃ a, m text = .ok (a, rest) ∧ b = f a := by
  change (m text).bind (fun p => .ok (f p.1, p.2)) = _ at h
  cases hm : m text with
  | error e =>
    rw [hm] at h
    cases h
  | ok p =>
    obtain ⟨a, mid⟩ := p
    rw [hm] at h
    cases h
    exact ⟨a, rfl, rfl⟩

theorem exists_of_peekChar (h : peekChar text = .ok (c, rest)) :
    ∃ w t, Blanks w ∧ text = w ++ rest ∧ rest = c :: t := by
  obtain ⟨o, mid, hpeek, h⟩ := exists_of_bind h
  have hmid : text.dropWhile isBlank = mid := congrArg Prod.snd (Except.ok.inj hpeek)
  have ho : (text.dropWhile isBlank).head? = o := congrArg Prod.fst (Except.ok.inj hpeek)
  cases o with
  | none => cases h
  | some d =>
    obtain ⟨rfl, rfl⟩ : d = c ∧ mid = rest := by
      have := Except.ok.inj h
      exact ⟨congrArg Prod.fst this, congrArg Prod.snd this⟩
    rw [hmid] at ho
    obtain ⟨t, ht⟩ := List.head?_eq_some_iff.mp ho
    refine ⟨text.takeWhile isBlank, t, fun c hc => List.mem_takeWhile_imp hc, ?_, ht⟩
    rw [← hmid, List.takeWhile_append_dropWhile]

theorem eq_of_skip {u : Unit} (h : skip text = .ok (u, rest)) : rest = text.tail :=
  (congrArg Prod.snd (Except.ok.inj h)).symm

theorem exists_of_mark {u : Unit} (h : mark c text = .ok (u, rest)) :
    ∃ w, Blanks w ∧ text = w ++ c :: rest := by
  obtain ⟨d, mid, hpeek, hskip⟩ := exists_of_bind h
  obtain ⟨w, t, hw, rfl, rfl⟩ := exists_of_peekChar hpeek
  by_cases hd : d = c
  · rw [if_pos hd] at hskip
    rw [eq_of_skip hskip, ← hd]
    exact ⟨w, hw, rfl⟩
  · rw [if_neg hd] at hskip
    cases hskip

theorem exists_of_judge {a : α} {r : Except ShapeError α} (h : judge r text = .ok (a, rest)) :
    r = .ok a ∧ text = rest := by
  cases r with
  | error e => cases h
  | ok a' =>
    cases h
    exact ⟨rfl, rfl⟩

theorem word_cons (c d : Char) (cs t : List Char) :
    word (c :: cs) (d :: t) = if c = d then word cs t else .error .malformed := by
  have hget : (get : Reader (List Char)) (d :: t) = .ok (d :: t, d :: t) := rfl
  rw [word, bind_of_ok hget]
  simp only []
  split <;> rfl

theorem eq_of_word {u : Unit} {cs : List Char} (h : word cs text = .ok (u, rest)) :
    text = cs ++ rest := by
  induction cs generalizing text with
  | nil => exact congrArg Prod.snd (Except.ok.inj h)
  | cons c cs ih =>
    cases text with
    | nil => cases h
    | cons d text =>
      rw [word_cons] at h
      split at h
      · rename_i hd
        rw [ih h, hd]
        rfl
      · cases h

theorem exists_spelled_of_readName {name : String} (h : readName text = .ok (name, rest)) :
    ∃ w n, Blanks w ∧ SpellsString name.toList n ∧ text = w ++ '"' :: (n ++ '"' :: rest) := by
  obtain ⟨_, mid, hquote, hrest⟩ := exists_of_bind h
  obtain ⟨w, hw, rfl⟩ := exists_of_mark hquote
  obtain ⟨n, rfl, hn⟩ := exists_spelled_of_readStringRest hrest
  exact ⟨w, n, hw, hn, rfl⟩

end

/-! ## Lists and objects -/

theorem Blanks.append {w w' : List Char} (h : Blanks w) (h' : Blanks w') : Blanks (w ++ w') := by
  intro c hc
  rcases List.mem_append.mp hc with hc | hc
  · exact h c hc
  · exact h' c hc

/-- Whatever a reader returns is spelled by the text that it has taken, but for blanks before it. -/
def IsSound {α : Type} (reader : Reader α) (spells : α → List Char → Prop) : Prop :=
  ∀ ⦃text : List Char⦄ ⦃a : α⦄ ⦃rest : List Char⦄, reader text = .ok (a, rest) →
    ∃ w t, Blanks w ∧ text = w ++ (t ++ rest) ∧ spells a t

section

variable {α : Type} {item : Reader α} {spells : α → List Char → Prop} {as : List α}
  {text rest : List Char}

theorem exists_spelled_of_moreElements (hitem : IsSound item spells) {n : Nat}
    (h : moreElements item n text = .ok (as, rest)) :
    ∃ ts, text = ts ++ ']' :: rest ∧ SpellsRest spells as ts := by
  induction n generalizing text as with
  | zero => cases h
  | succ n ih =>
    rw [moreElements] at h
    obtain ⟨c, mid, hpeek, hnext⟩ := exists_of_bind h
    obtain ⟨w, t, hw, rfl, rfl⟩ := exists_of_peekChar hpeek
    split at hnext
    · cases hnext
      exact ⟨w, rfl, .nil hw⟩
    · rw [bind_of_ok (skip_cons _ _)] at hnext
      obtain ⟨c, mid', hpeek', hitems⟩ := exists_of_bind hnext
      obtain ⟨w', t', hw', rfl, rfl⟩ := exists_of_peekChar hpeek'
      split at hitems
      · cases hitems
      · obtain ⟨a, mid, hread, hrest⟩ := exists_of_bind hitems
        obtain ⟨as', mid', hmore, hend⟩ := exists_of_bind hrest
        cases hend
        obtain ⟨w'', t'', hw'', htext, ha⟩ := hitem hread
        obtain ⟨ts, rfl, has⟩ := ih hmore
        refine ⟨_, ?_, .cons hw (hw'.append hw'') ha has⟩
        rw [htext]
        simp
    · cases hnext

theorem exists_spelled_of_elements (hitem : IsSound item spells)
    (h : elements item text = .ok (as, rest)) :
    ∃ ts, text = ts ++ ']' :: rest ∧ SpellsAll spells as ts := by
  obtain ⟨c, mid, hpeek, hnext⟩ := exists_of_bind h
  obtain ⟨w, t, hw, rfl, rfl⟩ := exists_of_peekChar hpeek
  split at hnext
  · rename_i hc
    cases hnext
    exact ⟨w, by rw [hc]; rfl, .nil hw⟩
  · obtain ⟨a, mid, hread, hitems⟩ := exists_of_bind hnext
    obtain ⟨as', mid', hmore, hend⟩ := exists_of_bind hitems
    cases hend
    obtain ⟨w', t', hw', htext, ha⟩ := hitem hread
    obtain ⟨ts, rfl, has⟩ := exists_spelled_of_moreElements hitem hmore
    refine ⟨_, ?_, .cons (hw.append hw') ha has⟩
    rw [htext]
    simp

end

section

variable {σ : Type} {member : σ → String → Reader σ} {reader : Reader Json}
  {value : Json → List Char → Prop} {s s' : σ} {text rest : List Char}

/-- Whenever a reader of a member returns, it has taken a colon and the text of some value. -/
def MemberIsSound {σ : Type} (member : σ → String → Reader σ) (value : Json → List Char → Prop) :
    Prop :=
  ∀ (s : σ) (name : String) ⦃text : List Char⦄ ⦃s' : σ⦄ ⦃rest : List Char⦄,
    member s name text = .ok (s', rest) →
      ∃ before after v t, Blanks before ∧ Blanks after ∧ value v t ∧
        text = before ++ ':' :: (after ++ (t ++ rest))

theorem memberIsSound_pushMember (hreader : IsSound reader value) :
    MemberIsSound (pushMember reader) value := by
  intro s name text s' rest h
  obtain ⟨_, mid, hcolon, hvalue⟩ := exists_of_bind h
  obtain ⟨before, hbefore, rfl⟩ := exists_of_mark hcolon
  obtain ⟨v, mid', hread, hend⟩ := exists_of_bind hvalue
  cases hend
  obtain ⟨after, t, hafter, rfl, hv⟩ := hreader hread
  exact ⟨before, after, v, t, hbefore, hafter, hv, rfl⟩

/-- A member that is read is spelled. -/
theorem exists_spelled_of_member (hmember : MemberIsSound member value)
    (h : (readName >>= member s) text = .ok (s', rest)) :
    ∃ m w t, Blanks w ∧ text = w ++ (t ++ rest) ∧ SpellsMember value m t := by
  obtain ⟨name, mid, hname, hread⟩ := exists_of_bind h
  obtain ⟨w, n, hw, hn, rfl⟩ := exists_spelled_of_readName hname
  obtain ⟨before, after, v, t, hbefore, hafter, hv, rfl⟩ := hmember s name hread
  refine ⟨(name, v), w, _, hw, ?_, .intro hn hbefore hafter hv⟩
  simp

theorem exists_spelled_of_moreMembers (hmember : MemberIsSound member value) {n : Nat}
    (h : moreMembers member n s text = .ok (s', rest)) :
    ∃ ms ts, text = ts ++ '\x7d' :: rest ∧ SpellsRest (SpellsMember value) ms ts := by
  induction n generalizing text s with
  | zero => cases h
  | succ n ih =>
    rw [moreMembers] at h
    obtain ⟨c, mid, hpeek, hnext⟩ := exists_of_bind h
    obtain ⟨w, t, hw, rfl, rfl⟩ := exists_of_peekChar hpeek
    split at hnext
    · cases hnext
      exact ⟨[], w, rfl, .nil hw⟩
    · rw [bind_of_ok (skip_cons _ _), ← bind_assoc] at hnext
      obtain ⟨before, mid', hread, hmore⟩ := exists_of_bind hnext
      obtain ⟨m, w', t', hw', rfl, hm⟩ := exists_spelled_of_member hmember hread
      obtain ⟨ms, ts, rfl, hms⟩ := ih hmore
      exact ⟨m :: ms, _, by simp, .cons hw hw' hm hms⟩
    · cases hnext

/-- The members of an object that are read are spelled, whatever they are read for. -/
theorem exists_spelled_of_members (hmember : MemberIsSound member value)
    (h : members member s text = .ok (s', rest)) :
    ∃ ms ts, text = ts ++ '\x7d' :: rest ∧ SpellsAll (SpellsMember value) ms ts := by
  obtain ⟨c, mid, hpeek, hnext⟩ := exists_of_bind h
  obtain ⟨w, t, hw, rfl, rfl⟩ := exists_of_peekChar hpeek
  split at hnext
  · rename_i hc
    cases hnext
    exact ⟨[], w, by rw [hc]; rfl, .nil hw⟩
  · rw [← bind_assoc] at hnext
    obtain ⟨before, mid', hread, hmore⟩ := exists_of_bind hnext
    obtain ⟨m, w', t', hw', htext, hm⟩ := exists_spelled_of_member hmember hread
    obtain ⟨ms, ts, rfl, hms⟩ := exists_spelled_of_moreMembers hmember hmore
    refine ⟨m :: ms, _, ?_, .cons (hw.append hw') hm hms⟩
    rw [htext]
    simp

end

/-! ## Values -/

section

variable {v : Json} {c : Char} {text t rest : List Char}

theorem exists_spelled_of_readScalar (h : readScalar c (c :: t) = .ok (v, rest)) :
    ∃ p, c :: t = p ++ rest ∧ SpellsScalar v p := by
  unfold readScalar at h
  split at h
  · obtain ⟨_, mid, hword, hend⟩ := exists_of_bind h
    cases hend
    exact ⟨_, eq_of_word hword, .null⟩
  · obtain ⟨_, mid, hword, hend⟩ := exists_of_bind h
    cases hend
    exact ⟨_, eq_of_word hword, .isTrue⟩
  · obtain ⟨_, mid, hword, hend⟩ := exists_of_bind h
    cases hend
    exact ⟨_, eq_of_word hword, .isFalse⟩
  · rw [bind_of_ok (skip_cons _ _)] at h
    obtain ⟨s, mid, hread, hend⟩ := exists_of_bind h
    cases hend
    obtain ⟨p, rfl, hs⟩ := exists_spelled_of_readStringRest hread
    exact ⟨'"' :: (p ++ ['"']), by simp, .string hs⟩
  · split at h
    · obtain ⟨n, hread, rfl⟩ := exists_of_map h
      obtain ⟨p, hp, hn⟩ := exists_spelled_of_readNumber hread
      exact ⟨p, hp, .number hn⟩
    · cases h

/-- What is read as a value spells it. -/
theorem isSound_readValue (depth : Nat) : IsSound (readValue depth) (Spells depth) := by
  induction depth with
  | zero =>
    intro text v rest h
    rw [readValue] at h
    obtain ⟨c, mid, hpeek, hnext⟩ := exists_of_bind h
    obtain ⟨w, t, hw, rfl, rfl⟩ := exists_of_peekChar hpeek
    split at hnext
    · cases hnext
    · cases hnext
    · obtain ⟨p, hp, hv⟩ := exists_spelled_of_readScalar hnext
      exact ⟨w, p, hw, by rw [hp], hv⟩
  | succ depth ih =>
    intro text v rest h
    rw [readValue] at h
    obtain ⟨c, mid, hpeek, hnext⟩ := exists_of_bind h
    obtain ⟨w, t, hw, rfl, rfl⟩ := exists_of_peekChar hpeek
    split at hnext
    · rw [bind_of_ok (skip_cons _ _)] at hnext
      obtain ⟨items, hread, rfl⟩ := exists_of_map hnext
      obtain ⟨ts, rfl, hitems⟩ := exists_spelled_of_elements ih hread
      exact ⟨w, _, hw, by simp, .array hitems⟩
    · rw [bind_of_ok (skip_cons _ _)] at hnext
      obtain ⟨ms', mid', hmembers, hend⟩ := exists_of_bind hnext
      cases hend
      obtain ⟨ms, ts, rfl, hms⟩ := exists_spelled_of_members (memberIsSound_pushMember ih) hmembers
      -- The members are kept the last one first.
      rw [members_spelled (pushMember_readsAs (readValue_spelled depth)) hms, foldlM_cons_ok,
        List.append_nil] at hmembers
      cases hmembers
      rw [List.reverse_reverse]
      exact ⟨w, _, hw, by simp, .object hms⟩
    · obtain ⟨p, hp, hv⟩ := exists_spelled_of_readScalar hnext
      exact ⟨w, p, hw, by rw [hp], .scalar hv⟩

/-- A value of which no more than the bracket is wanted, and which is not refused, is spelled and
has no brackets. -/
theorem exists_spelled_of_readShallow {β : Type} {f : Json → Except ShapeError β} {b : β}
    (hf : IsShallow f) (h : (readShallow >>= fun v => judge (f v)) text = .ok (b, rest)) :
    ∃ v w t, Blanks w ∧ text = w ++ (t ++ rest) ∧ SpellsScalar v t ∧ f v = .ok b := by
  obtain ⟨v, mid, hread, hjudge⟩ := exists_of_bind h
  obtain ⟨hb, rfl⟩ := exists_of_judge hjudge
  obtain ⟨c, mid', hpeek, hnext⟩ := exists_of_bind hread
  obtain ⟨w, t, hw, rfl, rfl⟩ := exists_of_peekChar hpeek
  split at hnext
  · cases hnext
    obtain ⟨e, he⟩ := hf.array
    rw [he] at hb
    cases hb
  · cases hnext
    obtain ⟨e, he⟩ := hf.object
    rw [he] at hb
    cases hb
  · obtain ⟨p, hp, hv⟩ := exists_spelled_of_readScalar hnext
    exact ⟨v, w, p, hw, by rw [hp], hv, hb⟩

end

/-! ## Whole texts -/

section

variable {α : Type} {reader : Reader α} {a : α} {v : Json} {text : List Char}

theorem exists_of_readAll (h : readAll reader text = .ok a) :
    ∃ after, reader text = .ok (a, after) ∧ Blanks after := by
  unfold readAll at h
  cases hread : reader text with
  | error e =>
    rw [hread] at h
    cases h
  | ok p =>
    obtain ⟨a', after⟩ := p
    rw [hread] at h
    change (if (after.dropWhile isBlank).isEmpty then Except.ok a'
      else .error ReadError.malformed) = _ at h
    split at h
    · rename_i hafter
      cases h
      rw [List.isEmpty_iff, List.dropWhile_eq_nil_iff] at hafter
      exact ⟨after, rfl, hafter⟩
    · cases h

/-- The texts of a value are those that are read as the value. -/
theorem readAll_readValue_eq_ok : readAll (readValue maxDepth) text = .ok v ↔ IsTextOf v text := by
  refine ⟨fun h => ?_, (readValue_spelled maxDepth).readAll⟩
  obtain ⟨after, hread, hafter⟩ := exists_of_readAll h
  obtain ⟨before, t, hbefore, rfl, hv⟩ := isSound_readValue maxDepth hread
  exact .intro hbefore hv hafter

end

end CounterWalk.Json

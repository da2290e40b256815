import CounterWalk.Proofs.Json.Literal

/-!
# Reading what is spelled

A text that spells a value is read as that value.  Most readers do not return the value itself but
what they make of it, and they may refuse it as soon as they have seen enough of it; `ReadsAs` says
of such a reader that it does what a function of the value does.  The readers for lists and objects
inherit this from the readers of their parts.

Main results:

- Theorems `Json.elements_spelled` and `Json.members_spelled`: lists and objects, part by part;
- Theorem `Json.readShallow_spelled`: a value that is looked at no further than its bracket;
- Theorem `Json.readValue_spelled`: any value;
- Theorem `Json.IsTextOf.unique`: a text spells one value at most.
-/

namespace CounterWalk.Json

open Text (isDigit)

section

variable {α β : Type} {m : Reader α} {k : α → Reader β} {text rest : List Char}

/-! ## One reader after another -/

theorem bind_of_eq {r : Except ReadError α} (h : m text = r.map (·, rest)) :
    (m >>= k) text = r.bind fun a => k a rest := by
  change (m text).bind (fun p => k p.1 p.2) = _
  rw [h]
  cases r <;> rfl

theorem bind_of_ok {a : α} (h : m text = .ok (a, rest)) : (m >>= k) text = k a rest := by
  change (m text).bind (fun p => k p.1 p.2) = _
  rw [h]
  rfl

theorem bind_of_error {e : ReadError} (h : m text = .error e) : (m >>= k) text = .error e := by
  change (m text).bind (fun p => k p.1 p.2) = _
  rw [h]
  rfl

theorem map_of_eq {f : α → β} {r : Except ReadError α} (h : m text = r.map (·, rest)) :
    (f <$> m) text = (r.map f).map (·, rest) := by
  change (m text).bind (fun p => .ok (f p.1, p.2)) = _
  rw [h]
  cases r <;> rfl

theorem judge_apply (r : Except ShapeError α) (text : List Char) :
    judge r text = (r.mapError .shape).map (·, text) := by
  cases r <;> rfl

/-! ## Blanks and marks -/

variable {c : Char} {t w : List Char}

theorem Blanks.dropWhile_append (hw : Blanks w) (hc : isBlank c = false) (t : List Char) :
    (w ++ c :: t).dropWhile isBlank = c :: t := by
  rw [List.dropWhile_append_of_pos hw, List.dropWhile_cons_of_neg (by simp [hc])]

theorem peekChar_eq (hw : Blanks w) (hc : isBlank c = false) (t : List Char) :
    peekChar (w ++ c :: t) = .ok (c, c :: t) := by
  have hpeek : peek (w ++ c :: t) = .ok (some c, c :: t) := by
    rw [peek, hw.dropWhile_append hc]
    rfl
  rw [peekChar, bind_of_ok hpeek]
  rfl

theorem skip_cons (c : Char) (t : List Char) : skip (c :: t) = .ok ((), t) :=
  rfl

theorem mark_self (hw : Blanks w) (hc : isBlank c = false) (t : List Char) :
    mark c (w ++ c :: t) = .ok ((), t) := by
  rw [mark, bind_of_ok (peekChar_eq hw hc t), if_pos rfl, skip_cons]

theorem mark_of_ne {d : Char} (hw : Blanks w) (hd : isBlank d = false) (hne : d ≠ c)
    (t : List Char) : mark c (w ++ d :: t) = .error .malformed := by
  rw [mark, bind_of_ok (peekChar_eq hw hd t), if_neg hne]
  rfl

theorem readName_spelled {name : String} (hw : Blanks w) (h : SpellsString name.toList t)
    (rest : List Char) : readName (w ++ '"' :: (t ++ '"' :: rest)) = .ok (name, rest) := by
  rw [readName, bind_of_ok (mark_self hw (by decide) _), readStringRest_spelled h]

theorem readName_of_ne {d : Char} (hw : Blanks w) (hd : isBlank d = false) (hne : d ≠ '"')
    (t : List Char) : readName (w ++ d :: t) = .error .malformed := by
  rw [readName, bind_of_error (mark_of_ne hw hd hne t)]

end

theorem blanks_nil : Blanks [] := by simp [Blanks]

/-! ## Readers that do what a function does -/

/-- A character that may stand right after a value. -/
def delimits (c : Char) : Bool := isBlank c || c = ',' || c = ']' || c = '\x7d'

/-- A text that may stand right after a value. -/
def Delimited (rest : List Char) : Prop := ∀ c ∈ rest.head?, delimits c = true

/-- A reader takes every text that spells a value, and returns what a function makes of the
value. -/
def ReadsAs {α β : Type} (reader : Reader β) (spells : α → List Char → Prop)
    (decode : α → Except ReadError β) : Prop :=
  ∀ ⦃a : α⦄ ⦃w t rest : List Char⦄, Blanks w → spells a t → Delimited rest →
    reader (w ++ (t ++ rest)) = (decode a).map (·, rest)

theorem Delimited.endsNumeral {rest : List Char} (h : Delimited rest) : EndsNumeral rest := by
  intro c hc
  have hdelimits := h c hc
  simp only [delimits, isBlank, Bool.or_eq_true, decide_eq_true_eq] at hdelimits
  rcases hdelimits with ((((((rfl | rfl) | rfl) | rfl) | rfl) | rfl) | rfl) <;> decide

theorem delimited_append_cons {w rest : List Char} {c : Char} (hw : Blanks w)
    (hc : delimits c = true) : Delimited (w ++ c :: rest) := by
  cases w with
  | nil =>
    rintro _ ⟨⟩
    exact hc
  | cons b w =>
    rintro _ ⟨⟩
    simp [delimits, hw b List.mem_cons_self]

/-- A text that does not start with a blank or with the end of a list. -/
def StartsItem (t : List Char) : Prop := ∃ c t', t = c :: t' ∧ isBlank c = false ∧ c ≠ ']'

/-! ## Lists -/

section

variable {α β : Type} {spells : α → List Char → Prop} {item : Reader β}
  {decode : α → Except ReadError β} {as : List α} {ts : List Char}

theorem SpellsRest.delimited (h : SpellsRest spells as ts) (c : Char) (hc : delimits c = true)
    (rest : List Char) : Delimited (ts ++ c :: rest) := by
  cases h with
  | nil hw => exact delimited_append_cons hw hc
  | cons hafter hbefore ha h =>
    rw [List.append_assoc, List.cons_append]
    exact delimited_append_cons hafter (by decide)

theorem SpellsRest.length_le (h : SpellsRest spells as ts) : as.length ≤ ts.length := by
  induction h with
  | nil hw => exact Nat.zero_le _
  | cons hafter hbefore ha h ih =>
    simp only [List.length_append, List.length_cons]
    omega

theorem moreElements_spelled (hitem : ReadsAs item spells decode)
    (hstart : ∀ ⦃a t⦄, spells a t → StartsItem t) (h : SpellsRest spells as ts) (rest : List Char)
    {n : Nat} (hn : as.length < n) :
    moreElements item n (ts ++ ']' :: rest) = (as.mapM decode).map (·, rest) := by
  -- The induction is on how the elements are spelled; `n` only has to outlast them.
  induction h generalizing n with
  | @nil w hw =>
    obtain ⟨n, rfl⟩ := Nat.exists_eq_succ_of_ne_zero (Nat.ne_zero_of_lt hn)
    rw [moreElements, bind_of_ok (peekChar_eq hw (by decide) rest)]
    rfl
  | @cons a as after before t ts hafter hbefore ha h ih =>
    obtain ⟨n, rfl⟩ := Nat.exists_eq_succ_of_ne_zero (Nat.ne_zero_of_lt hn)
    obtain ⟨c, t', rfl, hblank, hc⟩ := hstart ha
    have hread := hitem blanks_nil ha (h.delimited ']' (by decide) rest)
    have hmore := ih (Nat.lt_of_succ_lt_succ hn)
    simp only [List.append_assoc, List.cons_append, List.nil_append] at hread ⊢
    rw [moreElements, bind_of_ok (peekChar_eq hafter (by decide) _)]
    simp only []
    rw [bind_of_ok (skip_cons _ _), bind_of_ok (peekChar_eq hbefore hblank _), if_neg hc,
      bind_of_eq hread, List.mapM_cons]
    cases decode a with
    | error e => rfl
    | ok b =>
      simp only [Except.bind]
      rw [bind_of_eq hmore]
      cases as.mapM decode <;> rfl

theorem remainingElements_spelled (hitem : ReadsAs item spells decode)
    (hstart : ∀ ⦃a t⦄, spells a t → StartsItem t) (h : SpellsRest spells as ts)
    (rest : List Char) :
    remainingElements item (ts ++ ']' :: rest) = (as.mapM decode).map (·, rest) := by
  have hfuel : as.length < (ts ++ ']' :: rest).length + 1 := by
    have := h.length_le
    simp only [List.length_append]
    omega
  exact moreElements_spelled hitem hstart h rest hfuel

/-- The elements of a list are read one by one. -/
theorem elements_spelled (hitem : ReadsAs item spells decode)
    (hstart : ∀ ⦃a t⦄, spells a t → StartsItem t) (h : SpellsAll spells as ts)
    (rest : List Char) :
    elements item (ts ++ ']' :: rest) = (as.mapM decode).map (·, rest) := by
  cases h with
  | nil hw =>
    rw [elements, bind_of_ok (peekChar_eq hw (by decide) rest)]
    rfl
  | @cons a as before t ts hbefore ha h =>
    obtain ⟨c, t', rfl, hblank, hc⟩ := hstart ha
    have hread := hitem blanks_nil ha (h.delimited ']' (by decide) rest)
    simp only [List.append_assoc, List.cons_append, List.nil_append] at hread ⊢
    rw [elements, bind_of_ok (peekChar_eq hbefore hblank _), if_neg hc, bind_of_eq hread,
      List.mapM_cons]
    cases decode a with
    | error e => rfl
    | ok b =>
      simp only [Except.bind]
      rw [bind_of_eq (remainingElements_spelled hitem hstart h rest)]
      cases as.mapM decode <;> rfl

end

/-! ## Objects -/

section

variable {σ : Type} {value : Json → List Char → Prop} {member : σ → String → Reader σ}
  {step : σ → String × Json → Except ReadError σ} {ms : List (String × Json)} {ts : List Char}

/-- A reader of a member goes on from its name as a function of the whole member does. -/
def MemberReadsAs (member : σ → String → Reader σ) (value : Json → List Char → Prop)
    (step : σ → String × Json → Except ReadError σ) : Prop :=
  ∀ (s : σ) (name : String) ⦃v : Json⦄ ⦃before after t rest : List Char⦄, Blanks before →
    Blanks after → value v t → Delimited rest →
    member s name (before ++ ':' :: (after ++ (t ++ rest))) = (step s (name, v)).map (·, rest)

/-- A member starts with a quote and goes on as its reader expects. -/
theorem MemberReadsAs.apply (hmember : MemberReadsAs member value step) (s : σ)
    {m : String × Json} {w t rest : List Char} (hw : Blanks w) (h : SpellsMember value m t)
    (hrest : Delimited rest) :
    (readName >>= member s) (w ++ (t ++ rest)) = (step s m).map (·, rest) := by
  cases h with
  | intro hname hbefore hafter hvalue =>
    simp only [List.append_assoc, List.cons_append]
    rw [bind_of_ok (readName_spelled hw hname _), hmember s _ hbefore hafter hvalue hrest]

theorem moreMembers_spelled (hmember : MemberReadsAs member value step)
    (h : SpellsRest (SpellsMember value) ms ts) (rest : List Char) {n : Nat} (hn : ms.length < n)
    (s : σ) :
    moreMembers member n s (ts ++ '\x7d' :: rest) = (ms.foldlM step s).map (·, rest) := by
  induction h generalizing n s with
  | @nil w hw =>
    obtain ⟨n, rfl⟩ := Nat.exists_eq_succ_of_ne_zero (Nat.ne_zero_of_lt hn)
    rw [moreMembers, bind_of_ok (peekChar_eq hw (by decide) rest)]
    rfl
  | @cons m ms after before t ts hafter hbefore hm h ih =>
    obtain ⟨n, rfl⟩ := Nat.exists_eq_succ_of_ne_zero (Nat.ne_zero_of_lt hn)
    have hread := hmember.apply s hbefore hm (h.delimited '\x7d' (by decide) rest)
    have hmore := ih (Nat.lt_of_succ_lt_succ hn)
    simp only [List.append_assoc, List.cons_append]
    rw [moreMembers, bind_of_ok (peekChar_eq hafter (by decide) _)]
    simp only []
    rw [bind_of_ok (skip_cons _ _), ← bind_assoc, bind_of_eq hread, List.foldlM_cons]
    cases step s m with
    | error e => rfl
    | ok s' => exact hmore s'

/-- The members of an object are read one by one. -/
theorem members_spelled (hmember : MemberReadsAs member value step)
    (h : SpellsAll (SpellsMember value) ms ts) (rest : List Char) (s : σ) :
    members member s (ts ++ '\x7d' :: rest) = (ms.foldlM step s).map (·, rest) := by
  cases h with
  | nil hw =>
    rw [members, bind_of_ok (peekChar_eq hw (by decide) rest)]
    rfl
  | @cons m ms before t ts hbefore hm h =>
    have hread := hmember.apply s blanks_nil hm (h.delimited '\x7d' (by decide) rest)
    have hfuel : ms.length < (ts ++ '\x7d' :: rest).length + 1 := by
      have := h.length_le
      simp only [List.length_append]
      omega
    have hmore := moreMembers_spelled hmember h rest hfuel
    obtain ⟨t', rfl⟩ : ∃ t', t = '"' :: t' := by
      cases hm with
      | intro => exact ⟨_, rfl⟩
    simp only [List.append_assoc, List.cons_append, List.nil_append] at hread ⊢
    rw [members, bind_of_ok (peekChar_eq hbefore (by decide) _), if_neg (by decide), ← bind_assoc,
      bind_of_eq hread, List.foldlM_cons]
    cases step s m with
    | error e => rfl
    | ok s' => exact hmore s'

end

/-! ## Values -/

/-- Whether a text that spells a value may start with a character. -/
def leads : Json → Char → Bool
  | .null, c => c = 'n'
  | .bool true, c => c = 't'
  | .bool false, c => c = 'f'
  | .number _, c => c = '-' || isDigit c
  | .string _, c => c = '"'
  | .array _, c => c = '['
  | .object _, c => c = '\x7b'

section

variable {v : Json} {c : Char} {t rest : List Char} {depth : Nat}

theorem leads_ne {d : Char} (h : leads v c) (hd : leads v d = false) : c ≠ d := by
  rintro rfl
  simp [h] at hd

theorem leads_bracket (h : leads v '[') : ∃ items, v = .array items := by
  cases v with
  | array items => exact ⟨items, rfl⟩
  | bool b => cases b <;> cases h
  | _ => cases h

theorem leads_brace (h : leads v '\x7b') : ∃ ms, v = .object ms := by
  cases v with
  | object ms => exact ⟨ms, rfl⟩
  | bool b => cases b <;> cases h
  | _ => cases h

/-- No value starts with a blank or with the end of a list. -/
theorem isBlank_of_leads (h : leads v c) : isBlank c = false ∧ c ≠ ']' := by
  have hlist : leads v ' ' = false ∧ leads v '\n' = false ∧ leads v '\t' = false ∧
      leads v '\r' = false ∧ leads v ']' = false := by
    unfold leads
    split <;> decide
  obtain ⟨hspace, hnewline, htab, hreturn, hend⟩ := hlist
  refine ⟨?_, leads_ne h hend⟩
  simp [isBlank, leads_ne h hspace, leads_ne h hnewline, leads_ne h htab, leads_ne h hreturn]

theorem exists_leads_of_readNumber {n : JsonNumber} (h : readNumber t = .ok (n, rest)) :
    ∃ c t', t = c :: t' ∧ leads (.number n) c := by
  cases t with
  | nil => cases h
  | cons c t =>
    refine ⟨c, t, rfl, ?_⟩
    by_contra hc
    simp only [leads, Bool.or_eq_true, decide_eq_true_eq, not_or, Bool.not_eq_true] at hc
    rw [readNumber_of_head (by simp [hc.1]), readUnsigned,
      List.takeWhile_cons_of_neg (by simp [hc.2])] at h
    cases h

theorem SpellsNumber.exists_leads {n : JsonNumber} (h : SpellsNumber n t) :
    ∃ c t', t = c :: t' ∧ leads (.number n) c := by
  have hread : readNumber (t ++ []) = .ok (n, []) := readNumber_spelled h (by simp [EndsNumeral])
  rw [List.append_nil] at hread
  exact exists_leads_of_readNumber hread

theorem SpellsScalar.exists_leads (h : SpellsScalar v t) :
    ∃ c t', t = c :: t' ∧ leads v c := by
  cases h with
  | number h => exact h.exists_leads
  | _ => exact ⟨_, _, rfl, rfl⟩

theorem Spells.exists_leads (h : Spells depth v t) : ∃ c t', t = c :: t' ∧ leads v c := by
  cases depth with
  | zero => exact SpellsScalar.exists_leads h
  | succ depth =>
    cases h with
    | scalar h => exact h.exists_leads
    | _ => exact ⟨_, _, rfl, rfl⟩

theorem Spells.startsItem (h : Spells depth v t) : StartsItem t := by
  obtain ⟨c, t', rfl, hc⟩ := h.exists_leads
  exact ⟨c, t', rfl, isBlank_of_leads hc⟩

theorem readScalar_number {n : JsonNumber} (h : leads (.number n) c) :
    readScalar c = Json.number <$> readNumber := by
  have hc : (c = '-' || isDigit c) = true := h
  unfold readScalar
  split
  · exact absurd hc (by decide)
  · exact absurd hc (by decide)
  · exact absurd hc (by decide)
  · exact absurd hc (by decide)
  · rw [if_pos hc]

/-- A value that is neither a list nor an object is read as it is. -/
theorem readScalar_spelled (h : SpellsScalar v t) (hrest : Delimited rest) (hc : leads v c) :
    readScalar c (t ++ rest) = .ok (v, rest) := by
  cases h with
  | null =>
    obtain rfl : c = 'n' := by simpa [leads] using hc
    rfl
  | isTrue =>
    obtain rfl : c = 't' := by simpa [leads] using hc
    rfl
  | isFalse =>
    obtain rfl : c = 'f' := by simpa [leads] using hc
    rfl
  | @number n t h =>
    have hread : readNumber (t ++ rest) = (Except.ok n).map (·, rest) :=
      readNumber_spelled h hrest.endsNumeral
    rw [readScalar_number hc, map_of_eq hread]
    rfl
  | @string s t h =>
    obtain rfl : c = '"' := by simpa [leads] using hc
    simp only [List.append_assoc, List.cons_append, List.nil_append]
    change (skip >>= fun _ => readStringRest >>= fun s => pure (Json.string s)) _ = _
    rw [bind_of_ok (skip_cons _ _), bind_of_ok (readStringRest_spelled h rest)]
    rfl

/-- A text that spells a value spells one without brackets, or starts with the bracket. -/
theorem Spells.scalar_or_bracket (h : Spells depth v t) :
    SpellsScalar v t ∨ (∃ items t', v = .array items ∧ t = '[' :: t') ∨
      ∃ ms t', v = .object ms ∧ t = '\x7b' :: t' := by
  cases depth with
  | zero => exact Or.inl h
  | succ depth =>
    cases h with
    | scalar h => exact Or.inl h
    | array h => exact Or.inr (Or.inl ⟨_, _, rfl, rfl⟩)
    | object h => exact Or.inr (Or.inr ⟨_, _, rfl, rfl⟩)

theorem Spells.string_inv {s : String} (h : Spells depth (.string s) t) :
    ∃ n, SpellsString s.toList n ∧ t = '"' :: (n ++ ['"']) := by
  rcases h.scalar_or_bracket with hscalar | ⟨items, t', hitems, -⟩ | ⟨ms, t', hms, -⟩
  · cases hscalar with
    | string hs => exact ⟨_, hs, rfl⟩
  · cases hitems
  · cases hms

theorem Spells.array_inv {items : List Json} (h : Spells depth (.array items) t) :
    ∃ inner ts, depth = inner + 1 ∧ SpellsAll (Spells inner) items ts ∧
      t = '[' :: (ts ++ [']']) := by
  cases depth with
  | zero => cases (h : SpellsScalar _ _)
  | succ inner =>
    cases h with
    | scalar h => cases h
    | array h => exact ⟨inner, _, rfl, h, rfl⟩

theorem Spells.object_inv {ms : List (String × Json)} (h : Spells depth (.object ms) t) :
    ∃ inner ts, depth = inner + 1 ∧ SpellsAll (SpellsMember (Spells inner)) ms ts ∧
      t = '\x7b' :: (ts ++ ['\x7d']) := by
  cases depth with
  | zero => cases (h : SpellsScalar _ _)
  | succ inner =>
    cases h with
    | scalar h => cases h
    | object h => exact ⟨inner, _, rfl, h, rfl⟩

/-- What stands without brackets starts with no bracket. -/
theorem SpellsScalar.exists_head (h : SpellsScalar v t) :
    ∃ c t', t = c :: t' ∧ leads v c ∧ isBlank c = false ∧ c ≠ '[' ∧ c ≠ '\x7b' := by
  obtain ⟨c, t', rfl, hc⟩ := h.exists_leads
  have hbracket : leads v '[' = false ∧ leads v '\x7b' = false := by
    cases h <;> exact ⟨rfl, rfl⟩
  exact ⟨c, t', rfl, hc, (isBlank_of_leads hc).1, leads_ne hc hbracket.1, leads_ne hc hbracket.2⟩

/-! ### Values of which no more than the bracket is seen -/

/-- A function that refuses all lists for one reason, and all objects for one reason. -/
structure IsShallow {β : Type} (f : Json → Except ShapeError β) : Prop where
  array : ∃ e, ∀ items, f (.array items) = .error e
  object : ∃ e, ∀ ms, f (.object ms) = .error e

variable {w : List Char}

theorem readShallow_scalar (hw : Blanks w) (h : SpellsScalar v t) (hrest : Delimited rest) :
    readShallow (w ++ (t ++ rest)) = .ok (v, rest) := by
  obtain ⟨c, t', rfl, hc, hblank, harray, hobject⟩ := h.exists_head
  rw [List.cons_append, readShallow, bind_of_ok (peekChar_eq hw hblank _)]
  split
  · exact absurd rfl harray
  · exact absurd rfl hobject
  · exact readScalar_spelled h hrest hc

theorem readShallow_array (hw : Blanks w) (t : List Char) :
    readShallow (w ++ '[' :: t) = .ok (.array [], '[' :: t) := by
  rw [readShallow, bind_of_ok (peekChar_eq hw (by decide) t)]
  rfl

theorem readShallow_object (hw : Blanks w) (t : List Char) :
    readShallow (w ++ '\x7b' :: t) = .ok (.object [], '\x7b' :: t) := by
  rw [readShallow, bind_of_ok (peekChar_eq hw (by decide) t)]
  rfl

/-- To judge a value by its bracket is enough for a function that refuses lists and objects. -/
theorem readShallow_spelled {β : Type} {f : Json → Except ShapeError β} (hf : IsShallow f)
    (depth : Nat) :
    ReadsAs (readShallow >>= fun v => judge (f v)) (Spells depth)
      fun v => (f v).mapError .shape := by
  intro v w t rest hw h hrest
  -- The reader stops at a bracket with the text after it unread, but then `f` refuses the value, and
  -- an error leaves no text.
  rcases h.scalar_or_bracket with h | ⟨items, t', rfl, rfl⟩ | ⟨ms, t', rfl, rfl⟩
  · rw [bind_of_ok (readShallow_scalar hw h hrest), judge_apply]
  · obtain ⟨e, he⟩ := hf.array
    rw [List.cons_append, bind_of_ok (readShallow_array hw _), he]
    simp only [he]
    rfl
  · obtain ⟨e, he⟩ := hf.object
    rw [List.cons_append, bind_of_ok (readShallow_object hw _), he]
    simp only [he]
    rfl

/-! ### Values as they are -/

theorem mapM_ok {ε : Type} (items : List Json) :
    items.mapM (fun v => (.ok v : Except ε Json)) = .ok items := by
  induction items with
  | nil => rfl
  | cons v items ih =>
    rw [List.mapM_cons, ih]
    rfl

theorem foldlM_cons_ok {ε : Type} (ms before : List (String × Json)) :
    ms.foldlM (fun before m => (.ok (m :: before) : Except ε _)) before =
      .ok (ms.reverse ++ before) := by
  induction ms generalizing before with
  | nil => rfl
  | cons m ms ih =>
    rw [List.foldlM_cons, List.reverse_cons, List.append_assoc]
    exact ih (m :: before)

theorem pushMember_readsAs {reader : Reader Json} {value : Json → List Char → Prop}
    (hvalue : ReadsAs reader value .ok) :
    MemberReadsAs (pushMember reader) value fun before m => .ok (m :: before) := by
  intro before name v w w' t rest hw hw' ht hrest
  rw [pushMember, bind_of_ok (mark_self hw (by decide) _), bind_of_eq (hvalue hw' ht hrest)]
  rfl

theorem readValue_scalar (depth : Nat) (hw : Blanks w) (h : SpellsScalar v t)
    (hrest : Delimited rest) : readValue depth (w ++ (t ++ rest)) = .ok (v, rest) := by
  obtain ⟨c, t', rfl, hc, hblank, harray, hobject⟩ := h.exists_head
  rw [List.cons_append]
  cases depth <;>
  · rw [readValue, bind_of_ok (peekChar_eq hw hblank _)]
    split
    · exact absurd rfl harray
    · exact absurd rfl hobject
    · exact readScalar_spelled h hrest hc

/-- Every value is read as it is. -/
theorem readValue_spelled (depth : Nat) : ReadsAs (readValue depth) (Spells depth) .ok := by
  induction depth with
  | zero =>
    intro v w t rest hw h hrest
    exact readValue_scalar 0 hw h hrest
  | succ depth ih =>
    intro v w t rest hw h hrest
    cases h with
    | scalar h => exact readValue_scalar (depth + 1) hw h hrest
    | @array items ts h =>
      have hread := elements_spelled ih (fun _ _ h => h.startsItem) h rest
      simp only [List.append_assoc, List.cons_append, List.nil_append]
      rw [readValue, bind_of_ok (peekChar_eq hw (by decide) _)]
      change (skip >>= fun _ => array <$> elements (readValue depth)) _ = _
      rw [bind_of_ok (skip_cons _ _), map_of_eq hread]
      rw [mapM_ok]
      rfl
    | @object ms ts h =>
      have hread := members_spelled (pushMember_readsAs ih) h rest []
      simp only [List.append_assoc, List.cons_append, List.nil_append]
      rw [readValue, bind_of_ok (peekChar_eq hw (by decide) _)]
      change (skip >>= fun _ => members (pushMember (readValue depth)) [] >>= fun ms =>
        pure (object ms.reverse)) _ = _
      rw [bind_of_ok (skip_cons _ _), bind_of_eq hread]
      rw [foldlM_cons_ok, List.append_nil]
      simp only [Except.bind, List.reverse_reverse]
      rfl

end

/-! ## Whole texts -/

section

variable {β : Type} {reader : Reader β} {decode : Json → Except ReadError β} {v v' : Json}
  {text : List Char}

/-- A reader of values reads whole texts. -/
theorem ReadsAs.readAll (hreader : ReadsAs reader (Spells maxDepth) decode)
    (h : IsTextOf v text) : readAll reader text = decode v := by
  obtain ⟨hbefore, ht, hafter⟩ := h
  rename_i before t after
  have hdelimited : Delimited after := by
    intro c hc
    simp [delimits, hafter c (List.mem_of_mem_head? hc)]
  have hdrop : after.dropWhile isBlank = [] := by
    rw [List.dropWhile_eq_nil_iff]
    exact hafter
  rw [Json.readAll, hreader hbefore ht hdelimited]
  cases decode v with
  | error e => rfl
  | ok b =>
    change (if (after.dropWhile isBlank).isEmpty then _ else _) = _
    rw [hdrop]
    rfl

theorem Spells.unique {depth : Nat} {t : List Char} (h : Spells depth v t)
    (h' : Spells depth v' t) : v = v' := by
  have hread (v : Json) (h : Spells depth v t) : readValue depth (t ++ []) = .ok (v, []) :=
    readValue_spelled depth blanks_nil h (by simp [Delimited])
  have heq := (hread v h).symm.trans (hread v' h')
  exact congrArg Prod.fst (Except.ok.inj heq)

/-- A text spells one value at most. -/
theorem IsTextOf.unique (h : IsTextOf v text) (h' : IsTextOf v' text) : v = v' := by
  have hread := (readValue_spelled maxDepth).readAll h
  rw [(readValue_spelled maxDepth).readAll h'] at hread
  exact (Except.ok.inj hread).symm

end

end CounterWalk.Json

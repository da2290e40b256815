import CounterWalk.Proofs.Json.Printing
import CounterWalk.Proofs.Json.Soundness

/-!
# The grammar of JSON texts

A text can be JSON and still not be read: its brackets nest too deeply, a numeral is beyond all
reals, or a code in a string is one half of a surrogate pair.  This module gives the grammar alone,
without values, and shows that a text can be taken apart by it in one way only.  So one can speak of
the members that are written in the text of an object, whether or not they mean anything.

Main definitions:

- `Json.IsJson`: texts that are JSON, with brackets nested to any depth;
- `Json.IsObjectText`: whole texts of objects, with the members that are written in them;
- `Json.Means`: what a member that is written means;
- `Json.written`: a member as it is printed.

Main results:

- Theorem `Json.cutsOnce_isMember`: where a member ends is settled by its text;
- Theorem `Json.IsObjectText.isTextOf_iff`: the text of an object spells the objects whose members
  are what the members that are written in it mean, and it spells nothing else;
- Theorem `Json.isObjectText_render`: the members that are written in a printed object.
-/

namespace CounterWalk.Json

open Text (isDigit)

/-! ## Strings and numerals -/

/-- A text that may stand between the quotes of a string.  A code may be half of a surrogate
pair. -/
inductive IsQuotable : List Char → Prop where
  | nil : IsQuotable []
  | plain {c : Char} {t : List Char} (hcontrol : ¬ c < ' ') (hquote : c ≠ '"') (hescape : c ≠ '\\')
      (h : IsQuotable t) : IsQuotable (c :: t)
  | letter {l c : Char} {t : List Char} (hl : escaped? l = some c) (h : IsQuotable t) :
      IsQuotable ('\\' :: l :: t)
  | code {a b c d : Char} {v : Nat} {t : List Char} (hv : codeValue? a b c d = some v)
      (h : IsQuotable t) : IsQuotable ('\\' :: 'u' :: a :: b :: c :: d :: t)

/-- At least one digit. -/
structure IsDigits (t : List Char) : Prop where
  ne_nil : t ≠ []
  isDigit : ∀ c ∈ t, isDigit c = true

/-- The fraction of a numeral, or nothing. -/
inductive IsFraction : List Char → Prop where
  | absent : IsFraction []
  | present {t : List Char} (h : IsDigits t) : IsFraction ('.' :: t)

/-- The exponent of a numeral, or nothing. -/
inductive IsExponent : List Char → Prop where
  | absent : IsExponent []
  | present {e : Char} {sign t : List Char} (he : e = 'e' ∨ e = 'E')
      (hsign : sign = [] ∨ sign = ['+'] ∨ sign = ['-']) (h : IsDigits t) :
      IsExponent (e :: (sign ++ t))

/-- A numeral, however great. -/
inductive IsNumeral : List Char → Prop where
  | intro {sign whole fraction exponent : List Char} (hsign : sign = [] ∨ sign = ['-'])
      (hwhole : IsWhole whole) (hfraction : IsFraction fraction) (hexponent : IsExponent exponent) :
      IsNumeral (sign ++ (whole ++ (fraction ++ exponent)))

/-! ## Values -/

/-- A member as it is written: the text between the quotes of its name, and that of its value. -/
structure Written where
  name : List Char
  value : List Char

/-- A part that stands for its own text. -/
def Verbatim (part : List Char → Prop) (u t : List Char) : Prop := u = t ∧ part t

/-- A text of a member, from the texts that its value may have. -/
inductive IsMember (value : List Char → Prop) : Written → List Char → Prop where
  | intro {n before after t : List Char} (hname : IsQuotable n) (hbefore : Blanks before)
      (hafter : Blanks after) (hvalue : value t) :
      IsMember value ⟨n, t⟩ ('"' :: (n ++ '"' :: (before ++ ':' :: (after ++ t))))

/-- What goes on after the first character of a text that is no numeral, from the texts that the
values inside its brackets may have. -/
inductive GoesOn (inner : List Char → Prop) : Char → List Char → Prop where
  | null : GoesOn inner 'n' ['u', 'l', 'l']
  | isTrue : GoesOn inner 't' ['r', 'u', 'e']
  | isFalse : GoesOn inner 'f' ['a', 'l', 's', 'e']
  | string {t : List Char} (h : IsQuotable t) : GoesOn inner '"' (t ++ ['"'])
  | array {items : List (List Char)} {ts : List Char} (h : SpellsAll (Verbatim inner) items ts) :
      GoesOn inner '[' (ts ++ [']'])
  | object {ws : List Written} {ts : List Char} (h : SpellsAll (IsMember inner) ws ts) :
      GoesOn inner '\x7b' (ts ++ ['\x7d'])

/-- A text of a value, from the texts that the values inside its brackets may have. -/
inductive IsValue (inner : List Char → Prop) : List Char → Prop where
  | numeral {t : List Char} (h : IsNumeral t) : IsValue inner t
  | marked {c : Char} {t : List Char} (h : GoesOn inner c t) : IsValue inner (c :: t)

/-- A text of a value in which fewer than so many values stand one inside the other. -/
def IsNested : Nat → List Char → Prop
  | 0 => fun _ => False
  | depth + 1 => IsValue (IsNested depth)

/-- A text that is JSON. -/
def IsJson (t : List Char) : Prop := ∃ depth, IsNested depth t

/-- A whole text of an object in which some members are written, with blanks around it. -/
inductive IsObjectText (ws : List Written) : List Char → Prop where
  | intro {before ts after : List Char} (hbefore : Blanks before)
      (h : SpellsAll (IsMember IsJson) ws ts) (hafter : Blanks after) :
      IsObjectText ws (before ++ '\x7b' :: (ts ++ '\x7d' :: after))

/-! ## Parts of lists and objects -/

section

variable {α β : Type} {item : α → List Char → Prop} {item' : β → List Char → Prop}
  {R : α → β → Prop} {as : List α} {bs : List β} {ts : List Char}

/-- Elements that can be seen in another way one by one can be seen so together. -/
theorem SpellsRest.exists_forall₂ (hitem : ∀ a t, item a t → ∃ b, item' b t ∧ R a b)
    (h : SpellsRest item as ts) : ∃ bs, SpellsRest item' bs ts ∧ List.Forall₂ R as bs := by
  induction h with
  | nil hw => exact ⟨[], .nil hw, .nil⟩
  | cons hafter hbefore ha h ih =>
    obtain ⟨b, hb, hab⟩ := hitem _ _ ha
    obtain ⟨bs, hbs, hrest⟩ := ih
    exact ⟨b :: bs, .cons hafter hbefore hb hbs, .cons hab hrest⟩

theorem SpellsAll.exists_forall₂ (hitem : ∀ a t, item a t → ∃ b, item' b t ∧ R a b)
    (h : SpellsAll item as ts) : ∃ bs, SpellsAll item' bs ts ∧ List.Forall₂ R as bs := by
  cases h with
  | nil hw => exact ⟨[], .nil hw, .nil⟩
  | cons hbefore ha h =>
    obtain ⟨b, hb, hab⟩ := hitem _ _ ha
    obtain ⟨bs, hbs, hrest⟩ := h.exists_forall₂ hitem
    exact ⟨b :: bs, .cons hbefore hb hbs, .cons hab hrest⟩

/-- What is known of elements in one way can be carried over to another. -/
theorem SpellsRest.of_forall₂ (hitem : ∀ a b t, R a b → item' b t → item a t)
    (hR : List.Forall₂ R as bs) (h : SpellsRest item' bs ts) : SpellsRest item as ts := by
  induction h generalizing as with
  | nil hw =>
    cases hR
    exact .nil hw
  | cons hafter hbefore hb h ih =>
    cases hR with
    | cons hab hR => exact .cons hafter hbefore (hitem _ _ _ hab hb) (ih hR)

theorem SpellsAll.of_forall₂ (hitem : ∀ a b t, R a b → item' b t → item a t)
    (hR : List.Forall₂ R as bs) (h : SpellsAll item' bs ts) : SpellsAll item as ts := by
  cases h with
  | nil hw =>
    cases hR
    exact .nil hw
  | cons hbefore hb h =>
    cases hR with
    | cons hab hR => exact .cons hbefore (hitem _ _ _ hab hb) (h.of_forall₂ hitem hR)

theorem SpellsAll.imp {item' : α → List Char → Prop} (hitem : ∀ a t, item a t → item' a t)
    (h : SpellsAll item as ts) : SpellsAll item' as ts := by
  obtain ⟨bs, hbs, heq⟩ := h.exists_forall₂ (R := Eq) fun a t ha => ⟨a, hitem a t ha, rfl⟩
  obtain rfl : as = bs := by rwa [List.forall₂_eq_eq_eq] at heq
  exact hbs

end

theorem IsMember.imp {value value' : List Char → Prop} (h : ∀ t, value t → value' t) {m : Written}
    {t : List Char} (hm : IsMember value m t) : IsMember value' m t := by
  cases hm with
  | intro hname hbefore hafter hvalue => exact .intro hname hbefore hafter (h _ hvalue)

theorem IsValue.imp {inner inner' : List Char → Prop} (h : ∀ t, inner t → inner' t) {t : List Char}
    (ht : IsValue inner t) : IsValue inner' t := by
  cases ht with
  | numeral hn => exact .numeral hn
  | marked hc =>
    refine .marked ?_
    cases hc with
    | null => exact .null
    | isTrue => exact .isTrue
    | isFalse => exact .isFalse
    | string ht => exact .string ht
    | array hts => exact .array (hts.imp fun _ _ hu => ⟨hu.1, h _ hu.2⟩)
    | object hts => exact .object (hts.imp fun _ _ hm => hm.imp h)

theorem IsNested.mono {depth depth' : Nat} (h : depth ≤ depth') {t : List Char}
    (ht : IsNested depth t) : IsNested depth' t := by
  induction depth generalizing depth' t with
  | zero => cases ht
  | succ depth ih =>
    obtain ⟨d, rfl⟩ : ∃ d, depth' = d + 1 := ⟨depth' - 1, by omega⟩
    exact IsValue.imp (fun t ht => ih (Nat.le_of_succ_le_succ h) ht) ht

/-! ## A text is cut in one way only -/

/-- Where a part ends is settled by the text: if two parts stand at the front of one text, each
before something that may stand after a value, they are one part. -/
def CutsOnce {α : Type} (item : α → List Char → Prop) : Prop :=
  ∀ ⦃a a' : α⦄ ⦃t t' rest rest' : List Char⦄, item a t → item a' t' → Delimited rest →
    Delimited rest' → t ++ rest = t' ++ rest' → a = a' ∧ rest = rest'

section

variable {c d : Char} {t t' w w' rest rest' : List Char}

theorem Blanks.cut (hw : Blanks w) (hw' : Blanks w') (hc : isBlank c = false)
    (hd : isBlank d = false) (h : w ++ c :: rest = w' ++ d :: rest') : c = d ∧ rest = rest' := by
  have hdrop := congrArg (List.dropWhile isBlank) h
  rwa [hw.dropWhile_append hc, hw'.dropWhile_append hd, List.cons.injEq] at hdrop

/-- A string ends at the first quote that is not escaped. -/
theorem IsQuotable.cut (h : IsQuotable t) (h' : IsQuotable t')
    (heq : t ++ '"' :: rest = t' ++ '"' :: rest') : t = t' ∧ rest = rest' := by
  have hcode : escaped? 'u' = none := rfl
  induction h generalizing t' with
  | nil => cases h' <;> grind
  | plain hcontrol hquote hescape h ih =>
    cases h' with
    | plain hcontrol' hquote' hescape' h' =>
      simp only [List.cons_append, List.cons.injEq] at heq
      obtain ⟨rfl, hrest⟩ := ih h' heq.2
      exact ⟨by rw [heq.1], hrest⟩
    | nil | letter | code => grind
  | letter hl h ih =>
    cases h' with
    | letter hl' h' =>
      simp only [List.cons_append, List.cons.injEq, true_and] at heq
      obtain ⟨rfl, hrest⟩ := ih h' heq.2
      exact ⟨by rw [heq.1], hrest⟩
    | nil | plain | code => grind
  | code hv h ih =>
    cases h' with
    | code hv' h' =>
      simp only [List.cons_append, List.cons.injEq, true_and] at heq
      obtain ⟨rfl, rfl, rfl, rfl, heq⟩ := heq
      obtain ⟨rfl, hrest⟩ := ih h' heq
      exact ⟨rfl, hrest⟩
    | nil | plain | letter => grind

/-! ### Numerals -/

/-- A character that may stand in a numeral. -/
def isNumeralChar (c : Char) : Bool :=
  isDigit c || c = '-' || c = '+' || c = '.' || c = 'e' || c = 'E'

theorem isNumeralChar_of_isDigit (h : isDigit c = true) : isNumeralChar c = true := by
  simp [isNumeralChar, h]

theorem IsFraction.isNumeralChar (h : IsFraction t) : ∀ c ∈ t, isNumeralChar c = true := by
  cases h with
  | absent => simp
  | present h =>
    rw [List.forall_mem_cons]
    exact ⟨rfl, fun c hc => isNumeralChar_of_isDigit (h.isDigit c hc)⟩

theorem IsExponent.isNumeralChar (h : IsExponent t) : ∀ c ∈ t, isNumeralChar c = true := by
  cases h with
  | absent => simp
  | present he hsign h =>
    rw [List.forall_mem_cons, List.forall_mem_append]
    refine ⟨?_, ?_, fun c hc => isNumeralChar_of_isDigit (h.isDigit c hc)⟩
    · rcases he with rfl | rfl <;> rfl
    · rcases hsign with rfl | rfl | rfl <;> simp [Json.isNumeralChar]

theorem IsNumeral.isNumeralChar (h : IsNumeral t) : ∀ c ∈ t, isNumeralChar c = true := by
  obtain ⟨hsign, hwhole, hfraction, hexponent⟩ := h
  simp only [List.forall_mem_append]
  refine ⟨?_, fun c hc => isNumeralChar_of_isDigit (hwhole.isDigit c hc), hfraction.isNumeralChar,
    hexponent.isNumeralChar⟩
  rcases hsign with rfl | rfl <;> simp [Json.isNumeralChar]

theorem IsNumeral.ne_nil (h : IsNumeral t) : t ≠ [] := by
  obtain ⟨hsign, hwhole, hfraction, hexponent⟩ := h
  simp [hwhole.ne_nil]

/-- No numeral goes on where a value may end. -/
theorem Delimited.isNumeralChar (h : Delimited rest) :
    ∀ c ∈ rest.head?, isNumeralChar c = false := by
  intro c hc
  have hdelimits := h c hc
  simp only [delimits, isBlank, Bool.or_eq_true, decide_eq_true_eq] at hdelimits
  rcases hdelimits with ((((((rfl | rfl) | rfl) | rfl) | rfl) | rfl) | rfl) <;> decide

/-- A numeral is as long as its characters go on. -/
theorem IsNumeral.takeWhile (h : IsNumeral t) (hrest : Delimited rest) :
    (t ++ rest).takeWhile Json.isNumeralChar = t := by
  rw [List.takeWhile_append_of_pos h.isNumeralChar]
  cases rest with
  | nil => simp
  | cons c rest => simp [hrest.isNumeralChar c rfl]

theorem GoesOn.isNumeralChar {inner : List Char → Prop} (h : GoesOn inner c t) :
    isNumeralChar c = false := by
  cases h <;> rfl

end

/-! ### Lists and objects -/

section

variable {α : Type} {item : α → List Char → Prop} {as as' : List α} {c : Char}
  {ts ts' rest rest' : List Char}

/-- Elements start with a character that neither is blank nor closes the list. -/
def StartsBefore {α : Type} (c : Char) (item : α → List Char → Prop) : Prop :=
  ∀ ⦃a t⦄, item a t → ∃ d t', t = d :: t' ∧ isBlank d = false ∧ d ≠ c

/-- An element after blanks is cut in one way only. -/
theorem CutsOnce.of_blanks (hitem : CutsOnce item) (hstart : StartsBefore c item) {a a' : α}
    {w w' t t' : List Char} (hw : Blanks w) (hw' : Blanks w') (ha : item a t) (ha' : item a' t')
    (hrest : Delimited rest) (hrest' : Delimited rest')
    (heq : w ++ (t ++ rest) = w' ++ (t' ++ rest')) : a = a' ∧ rest = rest' := by
  obtain ⟨d, t, rfl, hd, -⟩ := hstart ha
  obtain ⟨d', t', rfl, hd', -⟩ := hstart ha'
  simp only [List.cons_append] at heq
  obtain ⟨hhead, htail⟩ := hw.cut hw' hd hd' heq
  exact hitem ha ha' hrest hrest' (by rw [List.cons_append, hhead, htail, List.cons_append])

theorem SpellsRest.cut (hitem : CutsOnce item) (hstart : StartsBefore c item)
    (hblank : isBlank c = false) (hdelimits : delimits c = true) (hcomma : c ≠ ',')
    (h : SpellsRest item as ts) (h' : SpellsRest item as' ts')
    (heq : ts ++ c :: rest = ts' ++ c :: rest') : as = as' ∧ rest = rest' := by
  induction h generalizing as' ts' with
  | nil hw =>
    cases h' with
    | nil hw' => exact ⟨rfl, (hw.cut hw' hblank hblank heq).2⟩
    | cons hafter hbefore ha h' =>
      rw [List.append_assoc, List.cons_append] at heq
      exact absurd (hw.cut hafter hblank (by decide) heq).1 hcomma
  | cons hafter hbefore ha h ih =>
    rw [List.append_assoc, List.cons_append] at heq
    cases h' with
    | nil hw' => exact absurd (hafter.cut hw' (by decide) hblank heq).1.symm hcomma
    | cons hafter' hbefore' ha' h' =>
      simp only [List.append_assoc, List.cons_append] at heq
      obtain ⟨-, hitems⟩ := hafter.cut hafter' (by decide) (by decide) heq
      obtain ⟨rfl, hmore⟩ := hitem.of_blanks hstart hbefore hbefore' ha ha'
        (h.delimited c hdelimits rest) (h'.delimited c hdelimits rest') hitems
      obtain ⟨rfl, hrest⟩ := ih h' hmore
      exact ⟨rfl, hrest⟩

/-- A list is cut in one way only if its elements are. -/
theorem SpellsAll.cut (hitem : CutsOnce item) (hstart : StartsBefore c item)
    (hblank : isBlank c = false) (hdelimits : delimits c = true) (hcomma : c ≠ ',')
    (h : SpellsAll item as ts) (h' : SpellsAll item as' ts')
    (heq : ts ++ c :: rest = ts' ++ c :: rest') : as = as' ∧ rest = rest' := by
  cases h with
  | nil hw =>
    cases h' with
    | nil hw' => exact ⟨rfl, (hw.cut hw' hblank hblank heq).2⟩
    | cons hbefore ha h' =>
      obtain ⟨d, t, rfl, hd, hne⟩ := hstart ha
      simp only [List.append_assoc, List.cons_append] at heq
      exact absurd (hw.cut hbefore hblank hd heq).1.symm hne
  | cons hbefore ha h =>
    cases h' with
    | nil hw' =>
      obtain ⟨d, t, rfl, hd, hne⟩ := hstart ha
      simp only [List.append_assoc, List.cons_append] at heq
      exact absurd (hbefore.cut hw' hd hblank heq).1 hne
    | cons hbefore' ha' h' =>
      simp only [List.append_assoc] at heq
      obtain ⟨rfl, hmore⟩ := hitem.of_blanks hstart hbefore hbefore' ha ha'
        (h.delimited c hdelimits rest) (h'.delimited c hdelimits rest') heq
      obtain ⟨rfl, hrest⟩ := h.cut hitem hstart hblank hdelimits hcomma h' hmore
      exact ⟨rfl, hrest⟩

end

/-! ### Members and values -/

section

variable {c : Char} {t t' rest rest' : List Char} {inner : List Char → Prop}

theorem IsNumeral.exists_cons (h : IsNumeral t) :
    ∃ c t', t = c :: t' ∧ Json.isNumeralChar c = true := by
  obtain ⟨c, t', rfl⟩ := List.exists_cons_of_ne_nil h.ne_nil
  exact ⟨c, t', rfl, h.isNumeralChar c List.mem_cons_self⟩

/-- A value starts with a character that neither is blank nor closes anything. -/
theorem IsValue.startsBefore (hc : delimits c = true) :
    StartsBefore c (Verbatim (IsValue inner)) := by
  rintro t _ ⟨rfl, h⟩
  have hblank : ∀ d, isBlank d = true → delimits d = true := by
    intro d hd
    simp [delimits, hd]
  suffices hhead : ∃ d t', t = d :: t' ∧ delimits d = false by
    obtain ⟨d, t', rfl, hd⟩ := hhead
    refine ⟨d, t', rfl, ?_, ?_⟩
    · rw [← Bool.not_eq_true]
      exact fun hb => absurd (hblank d hb) (by simp [hd])
    · rintro rfl
      rw [hc] at hd
      cases hd
  cases h with
  | numeral h =>
    obtain ⟨d, t', rfl, hd⟩ := h.exists_cons
    refine ⟨d, t', rfl, ?_⟩
    rw [← Bool.not_eq_true]
    intro hdelimits
    have hdelimited : Delimited [d] := by simpa [Delimited] using hdelimits
    have hnot := hdelimited.isNumeralChar d rfl
    rw [hd] at hnot
    cases hnot
  | marked h => cases h <;> exact ⟨_, _, rfl, rfl⟩

theorem IsMember.startsBefore {value : List Char → Prop} :
    StartsBefore '\x7d' (IsMember value) := by
  rintro _ _ ⟨hname, hbefore, hafter, hvalue⟩
  exact ⟨'"', _, rfl, by decide, by decide⟩

/-- A member is cut in one way only if its value is. -/
theorem cutsOnce_isMember {value : List Char → Prop} (hvalue : CutsOnce (Verbatim value))
    (hstart : StartsBefore ',' (Verbatim value)) : CutsOnce (IsMember value) := by
  rintro _ _ _ _ rest rest' ⟨hname, hbefore, hafter, ht⟩ ⟨hname', hbefore', hafter', ht'⟩ hrest
    hrest' heq
  simp only [List.cons_append, List.append_assoc, List.cons.injEq, true_and] at heq
  obtain ⟨rfl, hmore⟩ := hname.cut hname' heq
  obtain ⟨-, hmore'⟩ := hbefore.cut hbefore' (by decide) (by decide) hmore
  obtain ⟨rfl, hend⟩ := hvalue.of_blanks hstart hafter hafter' ⟨rfl, ht⟩ ⟨rfl, ht'⟩ hrest hrest'
    hmore'
  exact ⟨rfl, hend⟩

theorem GoesOn.cut (hinner : CutsOnce (Verbatim inner))
    (hstart : ∀ c, delimits c = true → StartsBefore c (Verbatim inner)) (h : GoesOn inner c t)
    (h' : GoesOn inner c t') (heq : t ++ rest = t' ++ rest') : rest = rest' := by
  cases h with
  | null => cases h' with
    | null => simpa using heq
  | isTrue => cases h' with
    | isTrue => simpa using heq
  | isFalse => cases h' with
    | isFalse => simpa using heq
  | string h => cases h' with
    | string h' =>
      simp only [List.append_assoc, List.cons_append, List.nil_append] at heq
      exact (h.cut h' heq).2
  | array h => cases h' with
    | array h' =>
      simp only [List.append_assoc, List.cons_append, List.nil_append] at heq
      exact (h.cut hinner (hstart _ rfl) rfl rfl (by decide) h' heq).2
  | object h => cases h' with
    | object h' =>
      simp only [List.append_assoc, List.cons_append, List.nil_append] at heq
      exact (h.cut (cutsOnce_isMember hinner (hstart _ rfl)) IsMember.startsBefore rfl rfl
        (by decide) h' heq).2

/-- A value is cut in one way only if the values inside it are. -/
theorem IsValue.cutsOnce (hinner : CutsOnce (Verbatim inner))
    (hstart : ∀ c, delimits c = true → StartsBefore c (Verbatim inner)) :
    CutsOnce (Verbatim (IsValue inner)) := by
  rintro t t' _ _ rest rest' ⟨rfl, h⟩ ⟨rfl, h'⟩ hrest hrest' heq
  suffices hend : rest = rest' by
    subst hend
    exact ⟨List.append_cancel_right heq, rfl⟩
  have hnumeral : ∀ {t u c rest rest'}, IsNumeral t → GoesOn inner c u →
      t ++ rest ≠ c :: u ++ rest' := by
    intro t u c rest rest' ht hu heq
    obtain ⟨d, t, rfl, hd⟩ := ht.exists_cons
    obtain rfl : d = c := (List.cons.inj heq).1
    rw [hu.isNumeralChar] at hd
    cases hd
  cases h with
  | numeral h =>
    cases h' with
    | numeral h' =>
      have htake := h.takeWhile hrest
      rw [heq, h'.takeWhile hrest'] at htake
      rw [htake] at heq
      exact List.append_cancel_left heq
    | marked h' => exact absurd heq (hnumeral h h')
  | marked h =>
    cases h' with
    | numeral h' => exact absurd heq.symm (hnumeral h' h)
    | marked h' =>
      obtain ⟨rfl, hmore⟩ := List.cons.inj heq
      exact h.cut hinner hstart h' hmore

theorem cutsOnce_isNested (depth : Nat) : CutsOnce (Verbatim (IsNested depth)) ∧
    ∀ c, delimits c = true → StartsBefore c (Verbatim (IsNested depth)) := by
  induction depth with
  | zero =>
    constructor
    · rintro _ _ _ _ _ _ ⟨-, ⟨⟩⟩
    · rintro _ _ _ _ ⟨-, ⟨⟩⟩
  | succ depth ih => exact ⟨IsValue.cutsOnce ih.1 ih.2, fun c hc => IsValue.startsBefore hc⟩

/-- A JSON text is cut in one way only, however deep its brackets nest. -/
theorem cutsOnce_isJson : CutsOnce (Verbatim IsJson) := by
  rintro t t' _ _ rest rest' ⟨rfl, depth, h⟩ ⟨rfl, depth', h'⟩ hrest hrest' heq
  have hboth := (cutsOnce_isNested (max depth depth')).1
  exact hboth ⟨rfl, h.mono (le_max_left ..)⟩ ⟨rfl, h'.mono (le_max_right ..)⟩ hrest hrest' heq

theorem startsBefore_isJson (hc : delimits c = true) : StartsBefore c (Verbatim IsJson) := by
  rintro t _ ⟨rfl, depth, h⟩
  exact (cutsOnce_isNested depth).2 c hc ⟨rfl, h⟩

end

/-- The text of an object has its members in one way only. -/
theorem IsObjectText.unique {ws ws' : List Written} {text : List Char} (h : IsObjectText ws text)
    (h' : IsObjectText ws' text) : ws = ws' := by
  obtain ⟨hbefore, h, hafter⟩ := h
  rename_i before ts after
  generalize htext : before ++ '\x7b' :: (ts ++ '\x7d' :: after) = text at h'
  obtain ⟨hbefore', h', hafter'⟩ := h'
  obtain ⟨-, hmore⟩ := hbefore.cut hbefore' (by decide) (by decide) htext
  exact (h.cut (cutsOnce_isMember cutsOnce_isJson (startsBefore_isJson rfl)) IsMember.startsBefore
    rfl rfl (by decide) h' hmore).1

/-! ## What is spelled is JSON -/

theorem SpellsString.isQuotable {s t : List Char} (h : SpellsString s t) : IsQuotable t := by
  induction h with
  | nil => exact .nil
  | plain hcontrol hquote hescape h ih => exact .plain hcontrol hquote hescape ih
  | letter hl h ih => exact .letter hl ih
  | code hv hwhole h ih => exact .code hv ih
  | pair hv hhigh hw hlow h ih => exact .code hv (.code hw ih)

section

variable {isNegative : Bool} {n : JsonNumber} {significand : Nat} {exponent : Int}
  {whole t : List Char}

/-- Digits after which nothing comes. -/
theorem isDigits_of_dropWhile (h : t.dropWhile isDigit = [])
    (hne : ¬ (t.takeWhile isDigit).isEmpty = true) : IsDigits t := by
  have htake : t.takeWhile isDigit = t := by
    have hsplit := List.takeWhile_append_dropWhile (p := isDigit) (l := t)
    rwa [h, List.append_nil] at hsplit
  rw [htake, List.isEmpty_iff] at hne
  exact ⟨hne, fun c hc => List.mem_takeWhile_imp (htake.symm ▸ hc)⟩

theorem isExponent_of_readExponent {e : Char} (he : e = 'e' ∨ e = 'E')
    (h : readExponent isNegative significand exponent t = .ok (n, [])) : IsExponent (e :: t) := by
  cases t with
  | nil => cases h
  | cons c t =>
    obtain ⟨exponentIsNegative, lead, hlead, heq⟩ :=
      exists_readExponent_eq isNegative significand exponent c
    rw [heq, readExponentDigits] at h
    split at h
    · cases h
    · rename_i hdigits
      have hall := isDigits_of_dropWhile (inRange_eq_ok.mp h).2 hdigits
      rcases hlead with ⟨rfl, rfl | rfl⟩ | rfl
      · exact .present he (Or.inr (Or.inl rfl)) hall
      · exact .present he (Or.inr (Or.inr rfl)) hall
      · exact .present he (Or.inl rfl) hall

theorem isExponent_of_readAfterDigits
    (h : readAfterDigits isNegative significand exponent t = .ok (n, [])) : IsExponent t := by
  by_cases he : ∀ c ∈ t.head?, c ≠ 'e' ∧ c ≠ 'E'
  · rw [readAfterDigits_eq_inRange he] at h
    rw [(inRange_eq_ok.mp h).2]
    exact .absent
  · obtain ⟨t, rfl | rfl⟩ := exponent_of_head he
    · exact isExponent_of_readExponent (Or.inl rfl) h
    · exact isExponent_of_readExponent (Or.inr rfl) h

theorem exists_fraction_of_readFraction (h : readFraction isNegative whole t = .ok (n, [])) :
    ∃ fraction exponent, t = fraction ++ exponent ∧ IsFraction fraction ∧ IsExponent exponent := by
  by_cases hplain : ∀ c ∈ t.head?, c ≠ '.' ∧ c ≠ 'e' ∧ c ≠ 'E'
  · rw [readFraction_eq_inRange hplain] at h
    exact ⟨[], [], (inRange_eq_ok.mp h).2, .absent, .absent⟩
  · obtain ⟨t, rfl | rfl | rfl⟩ := fraction_of_head hplain
    · rw [readFraction_point] at h
      split at h
      · cases h
      · rename_i hdigits
        refine ⟨'.' :: t.takeWhile isDigit, t.dropWhile isDigit, ?_, .present ⟨?_, ?_⟩,
          isExponent_of_readAfterDigits h⟩
        · rw [List.cons_append, List.takeWhile_append_dropWhile]
        · simpa using hdigits
        · exact fun c hc => List.mem_takeWhile_imp hc
    · exact ⟨[], _, rfl, .absent, isExponent_of_readExponent (Or.inl rfl) h⟩
    · exact ⟨[], _, rfl, .absent, isExponent_of_readExponent (Or.inr rfl) h⟩

/-- What is read as a number is a numeral. -/
theorem isNumeral_of_readNumber (h : readNumber t = .ok (n, [])) : IsNumeral t := by
  have hunsigned : ∀ {isNegative sign t}, sign = [] ∨ sign = ['-'] →
      readUnsigned isNegative t = .ok (n, []) → IsNumeral (sign ++ t) := by
    intro isNegative sign t hsign h
    obtain ⟨hwhole, hread⟩ := readUnsigned_eq_ok.mp h
    obtain ⟨fraction, exponent, hsplit, hfraction, hexponent⟩ :=
      exists_fraction_of_readFraction hread
    rw [← List.takeWhile_append_dropWhile (p := isDigit) (l := t), hsplit]
    exact .intro hsign hwhole hfraction hexponent
  by_cases hminus : t.head? = some '-'
  · obtain ⟨t, rfl⟩ := List.head?_eq_some_iff.mp hminus
    exact hunsigned (Or.inr rfl) (readNumber_minus t ▸ h)
  · exact hunsigned (Or.inl rfl) (readNumber_of_head hminus ▸ h)

theorem SpellsNumber.isNumeral (h : SpellsNumber n t) : IsNumeral t := by
  have hread : readNumber (t ++ []) = .ok (n, []) := readNumber_spelled h (by simp [EndsNumeral])
  rw [List.append_nil] at hread
  exact isNumeral_of_readNumber hread

end

section

variable {v : Json} {m : String × Json} {ms : List (String × Json)} {ws : List Written}
  {t text : List Char} {depth : Nat}

theorem SpellsScalar.isValue {inner : List Char → Prop} (h : SpellsScalar v t) :
    IsValue inner t := by
  cases h with
  | null => exact .marked .null
  | isTrue => exact .marked .isTrue
  | isFalse => exact .marked .isFalse
  | number h => exact .numeral h.isNumeral
  | string h => exact .marked (.string h.isQuotable)

/-- What a member that is written means. -/
structure Means (depth : Nat) (m : String × Json) (w : Written) : Prop where
  name : SpellsString m.1.toList w.name
  value : Spells depth m.2 w.value

theorem SpellsMember.exists_means {value : List Char → Prop}
    (hvalue : ∀ v t, Spells depth v t → value t) (h : SpellsMember (Spells depth) m t) :
    ∃ w, IsMember value w t ∧ Means depth m w := by
  cases h with
  | intro hname hbefore hafter ht =>
    exact ⟨⟨_, _⟩, .intro hname.isQuotable hbefore hafter (hvalue _ _ ht), ⟨hname, ht⟩⟩

theorem IsMember.spellsMember {value : List Char → Prop} {w : Written} (h : IsMember value w t)
    (hm : Means depth m w) : SpellsMember (Spells depth) m t := by
  cases h with
  | intro hname hbefore hafter ht => exact .intro hm.name hbefore hafter hm.value

/-- A text that spells a value is JSON. -/
theorem Spells.isNested (h : Spells depth v t) : IsNested (depth + 1) t := by
  induction depth generalizing v t with
  | zero => exact SpellsScalar.isValue h
  | succ depth ih =>
    cases h with
    | scalar h => exact h.isValue
    | @array items ts h =>
      have hinner : ∃ us, SpellsAll (Verbatim (IsNested (depth + 1))) us ts ∧
          List.Forall₂ (Spells depth) items us :=
        h.exists_forall₂ fun v t hv => ⟨t, ⟨rfl, ih hv⟩, hv⟩
      obtain ⟨us, hus, -⟩ := hinner
      exact .marked (.array hus)
    | object h =>
      obtain ⟨ws, hws, -⟩ := h.exists_forall₂ fun m t hm => hm.exists_means fun v t => ih
      exact .marked (.object hws)

theorem Spells.isJson (h : Spells depth v t) : IsJson t := ⟨depth + 1, h.isNested⟩

/-- In the text of an object some members are written. -/
theorem IsTextOf.exists_isObjectText (h : IsTextOf (.object ms) text) :
    ∃ ws, IsObjectText ws text ∧ List.Forall₂ (Means (maxDepth - 1)) ms ws := by
  obtain ⟨hbefore, h, hafter⟩ := h
  obtain ⟨inner, ts, hinner, hts, rfl⟩ := h.object_inv
  obtain ⟨ws, hws, hmeans⟩ :=
    hts.exists_forall₂ fun m t hm => hm.exists_means fun v t hv => hv.isJson
  refine ⟨ws, ?_, ?_⟩
  · simpa using IsObjectText.intro hbefore hws hafter
  · rwa [hinner, Nat.add_sub_cancel]

/-- The text of an object spells the objects whose members are what the members that are written in
it mean, and nothing else. -/
theorem IsObjectText.isTextOf_iff (h : IsObjectText ws text) :
    IsTextOf (.object ms) text ↔ List.Forall₂ (Means (maxDepth - 1)) ms ws := by
  constructor
  · intro hspells
    obtain ⟨ws', hws', hmeans⟩ := hspells.exists_isObjectText
    rwa [h.unique hws']
  · intro hmeans
    obtain ⟨hbefore, h, hafter⟩ := h
    have hts := h.of_forall₂ (fun m w t hm hw => hw.spellsMember hm) hmeans
    have hspells : Spells maxDepth (.object ms) _ := .object hts
    simpa using IsTextOf.intro hbefore hspells hafter

end

/-! ## What is printed -/

/-- A member as it is printed at a depth. -/
def written (layout : Layout) (depth : Nat) (m : String × Json) : Written :=
  ⟨m.1.toList.flatMap escapeChar, text layout depth m.2⟩

section

variable {layout : Layout} (hl : layout.IsBlank) {depth : Nat}

include hl

/-- A member that is printed means itself. -/
theorem means_written {m : String × Json} (h : fits depth m.2 = true) (n : Nat) :
    Means depth m (written layout n m) :=
  ⟨spellsString_escaped m.1.toList, spells_text hl h n⟩

theorem isMember_written {m : String × Json} (h : fits depth m.2 = true) (n : Nat) :
    IsMember IsJson (written layout n m)
      (stringText m.1 ++ ':' :: (layout.afterColon ++ text layout n m.2)) := by
  have hm := means_written hl h n
  have hmember : IsMember IsJson (written layout n m) _ :=
    .intro hm.name.isQuotable blanks_nil hl.afterColon hm.value.isJson
  simpa [stringText, written] using hmember

/-- In the text that is printed for an object its members are written as they are printed. -/
theorem isObjectText_render {ms : List (String × Json)} (h : ∀ m ∈ ms, fits depth m.2 = true) :
    IsObjectText (ms.map (written layout 1)) ((object ms).render layout).toList := by
  rw [render, String.toList_ofList]
  cases ms with
  | nil => exact .intro blanks_nil (.nil blanks_nil) blanks_nil
  | cons m ms =>
    obtain ⟨name, v⟩ := m
    have hrest := spellsRest_membersText hl (written layout 1) (hl.newline 0) fun m hm =>
      isMember_written hl (h m (List.mem_cons_of_mem _ hm)) 1
    have htext := IsObjectText.intro blanks_nil
      (.cons (hl.newline 1) (isMember_written hl (h (name, v) List.mem_cons_self) 1) hrest)
      blanks_nil
    simpa [text] using htext

end

end CounterWalk.Json

import CounterWalk.Model.Error
import CounterWalk.Proofs.Text.Digits
import Mathlib

/-!
# Numerals in messages

The decimal text of a word determines the word, and it holds nothing but digits and a minus sign, so
it ends where the next comma stands.  A message that is put together from numerals can therefore be
taken apart again.

Main results:

- Theorem `Text.integer_injective`: different words have different texts.
- Theorems `Text.natural_append_inj` and `Text.append_natural_inj`: a numeral can be read off a text
  that begins or ends with it.
- Theorem `Text.integer_comma_integer_inj`: two numerals can be read off the text that holds them.
- Theorem `ModelError.message_injective`: a failure can be told from its message.
-/

namespace CounterWalk

namespace Text

theorem integer_eq_repr (v : Int64) : integer v = v.toInt.repr :=
  Int.toString_eq_repr

theorem integer_injective : Function.Injective integer := by
  intro v w h
  rw [integer_eq_repr, integer_eq_repr] at h
  exact Int64.toInt_inj.mp (Int.repr_injective h)

/-- A numeral is written with digits and a minus sign only. -/
theorem isDigit_of_mem_integer {v : Int64} {c : Char} (h : c ∈ (integer v).toList) :
    c = '-' ∨ c.isDigit = true := by
  rw [integer_eq_repr, Int.repr_eq_if] at h
  split at h
  · rw [Nat.toList_repr] at h
    exact Or.inr (Nat.isDigit_of_mem_toDigits (by decide) (by decide) h)
  · rw [String.toList_append, Nat.toList_repr, List.mem_append] at h
    rcases h with hsign | hdigit
    · exact Or.inl (List.mem_singleton.mp hsign)
    · exact Or.inr (Nat.isDigit_of_mem_toDigits (by decide) (by decide) hdigit)

/-! ### Unsigned words -/

theorem natural_eq_repr (v : UInt64) : natural v = v.toNat.repr :=
  Nat.toString_eq_repr

theorem natural_injective : Function.Injective natural := by
  intro v w h
  rw [natural_eq_repr, natural_eq_repr] at h
  exact UInt64.toNat_inj.mp (Nat.repr_injective h)

theorem isDigit_of_mem_natural {v : UInt64} {c : Char} (h : c ∈ (natural v).toList) :
    c.isDigit = true := by
  rw [natural_eq_repr, Nat.toList_repr] at h
  exact Nat.isDigit_of_mem_toDigits (by decide) (by decide) h

/-- Runs of characters of one kind that other characters follow can be read off the text. -/
theorem append_inj_of_stop {p : Char → Bool} {u v s t : List Char} (hu : ∀ c ∈ u, p c = true)
    (hv : ∀ c ∈ v, p c = true) (hs : ∀ c ∈ s.head?, p c = false) (ht : ∀ c ∈ t.head?, p c = false)
    (h : u ++ s = v ++ t) : u = v ∧ s = t := by
  obtain ⟨htake, hdrop⟩ := takeWhile_dropWhile_of_stop hu hs
  obtain ⟨htake', hdrop'⟩ := takeWhile_dropWhile_of_stop hv ht
  rw [h] at htake hdrop
  exact ⟨htake.symm.trans htake', hdrop.symm.trans hdrop'⟩

/-- A numeral that no other digit follows can be read off the beginning of a text. -/
theorem natural_append_inj {v w : UInt64} {s t : String}
    (hs : ∀ c ∈ s.toList.head?, c.isDigit = false) (ht : ∀ c ∈ t.toList.head?, c.isDigit = false)
    (h : natural v ++ s = natural w ++ t) : v = w ∧ s = t := by
  have hchars := congrArg String.toList h
  rw [String.toList_append, String.toList_append] at hchars
  obtain ⟨hnumeral, hrest⟩ := append_inj_of_stop (fun _ hc => isDigit_of_mem_natural hc)
    (fun _ hc => isDigit_of_mem_natural hc) hs ht hchars
  exact ⟨natural_injective (String.toList_inj.mp hnumeral), String.toList_inj.mp hrest⟩

/-- A numeral before which no other digit stands can be read off the end of a text. -/
theorem append_natural_inj {v w : UInt64} {s t : String}
    (hs : ∀ c ∈ s.toList.getLast?, c.isDigit = false)
    (ht : ∀ c ∈ t.toList.getLast?, c.isDigit = false)
    (h : s ++ natural v = t ++ natural w) : s = t ∧ v = w := by
  rw [← List.head?_reverse] at hs ht
  have hchars := congrArg (fun text => text.toList.reverse) h
  simp only [String.toList_append, List.reverse_append] at hchars
  obtain ⟨hnumeral, hrest⟩ := append_inj_of_stop
    (fun _ hc => isDigit_of_mem_natural (List.mem_reverse.mp hc))
    (fun _ hc => isDigit_of_mem_natural (List.mem_reverse.mp hc)) hs ht hchars
  exact ⟨String.toList_inj.mp (List.reverse_inj.mp hrest),
    natural_injective (String.toList_inj.mp (List.reverse_inj.mp hnumeral))⟩

/-! ### Signed words -/

theorem comma_notMem_integer (v : Int64) : ',' ∉ (integer v).toList := by
  intro h
  rcases isDigit_of_mem_integer h with hsign | hdigit
  · exact absurd hsign (by decide)
  · exact absurd hdigit (by decide)

/-- Two numerals with a comma after the first can be read off the text that holds them, if the rest
of what stands between them has no comma. -/
theorem integer_comma_integer_inj {lead rest : String} {e e' v v' : Int64}
    (hrest : ',' ∉ rest.toList)
    (h : lead ++ integer e ++ ("," ++ rest) ++ integer v =
      lead ++ integer e' ++ ("," ++ rest) ++ integer v') : e = e' ∧ v = v' := by
  have hlist : (integer e).toList ++ ',' :: (rest.toList ++ (integer v).toList) =
      (integer e').toList ++ ',' :: (rest.toList ++ (integer v').toList) := by
    have hchars := congrArg String.toList h
    simp only [String.toList_append, List.append_assoc] at hchars
    exact List.append_cancel_left hchars
  have hafter : ',' ∉ rest.toList ++ (integer v).toList := by
    rw [List.mem_append, not_or]
    exact ⟨hrest, comma_notMem_integer v⟩
  obtain ⟨hfirst, -, hsecond⟩ :=
    (List.append_cons_inj_of_notMem (comma_notMem_integer e) hafter).mp hlist
  constructor
  · exact integer_injective (String.toList_inj.mp hfirst)
  · exact integer_injective (String.toList_inj.mp (List.append_cancel_left hsecond))

end Text

theorem Action.name_injective : Function.Injective Action.name := by
  intro a b h
  have hname : some a = some b := by rw [← ofName?_name a, ← ofName?_name b, h]
  exact Option.some.inj hname

theorem Action.label_injective : Function.Injective Action.label := by
  intro a b h
  exact Action.name_injective ((String.append_right_inj "i").mp h)

namespace ModelError

theorem head?_message_notEnabled (a : Action) :
    (notEnabled a).message.toList.head? = some 'a' := by
  have hlead : "action ".toList.head? = some 'a' := by decide
  rw [message_notEnabled, String.toList_append, String.toList_append, List.append_assoc,
    List.head?_append, hlead, Option.some_or]

theorem head?_message_countMismatch (e v : Int64) :
    (countMismatch e v).message.toList.head? = some 'c' := by
  have hlead : "count mismatch: expected ".toList.head? = some 'c' := by decide
  rw [message_countMismatch, String.toList_append, String.toList_append, String.toList_append,
    List.append_assoc, List.append_assoc, List.head?_append, hlead, Option.some_or]

/-- A failure can be told from its message. -/
theorem message_injective : Function.Injective message := by
  intro x y h
  have hhead := congrArg (fun s => s.toList.head?) h
  cases x with
  | notEnabled a =>
    cases y with
    | notEnabled b =>
      have hlabel : "action " ++ a.label = "action " ++ b.label :=
        (String.append_left_inj " is not enabled in the current state").mp h
      rw [Action.label_injective ((String.append_right_inj "action ").mp hlabel)]
    | countMismatch e v =>
      simp only [head?_message_notEnabled, head?_message_countMismatch] at hhead
      exact absurd hhead (by decide)
  | countMismatch e v =>
    cases y with
    | notEnabled b =>
      simp only [head?_message_notEnabled, head?_message_countMismatch] at hhead
      exact absurd hhead (by decide)
    | countMismatch e' v' =>
      have hcomma : ',' ∉ " counter reported ".toList := by decide
      obtain ⟨rfl, rfl⟩ := Text.integer_comma_integer_inj hcomma h
      rfl

end ModelError

end CounterWalk

import CounterWalk.Random.Choice
import Mathlib

/-!
# Choices are unbiased

A word stands for the number `i` below `n` if its product with `n` lies in an interval that begins
at `i * 2 ^ 32`.  The length of these intervals is `n * 2 ^ leadingZeros n`, a multiple of `n`, so
each of them holds the products of equally many words.  A choice takes the first word of its stream
that stands for a number, and the words after it are left for the next one.

Main definitions:

- `Choice.picked?`: the element of a list for which a word stands;
- `Choice.IsUniform`: what makes the choice of an element fair;
- `Choice.FirstKeptAt`: which of the words to come decides a choice.

Main results:

- Theorem `Choice.ncard_pick?`: each number is stood for by `2 ^ leadingZeros n` words.
- Theorem `Choice.isUniform_of_nodup`: the choice of an element is fair if none occurs twice.
- Theorem `Choice.element?_eq`: the element that is chosen and the stream that is left.
-/

namespace CounterWalk

namespace Choice

/-! ## Numbers -/

section

variable {n i : Nat} {w : UInt32}

theorem log2_lt (hn : 0 < n) (hsize : n < UInt32.size) : n.log2 < 32 :=
  (Nat.log2_lt hn.ne').mpr hsize

/-- A number that is moved up by its leading zeros still has 32 bits. -/
theorem mul_two_pow_leadingZeros_lt (hn : 0 < n) (hsize : n < UInt32.size) :
    n * 2 ^ leadingZeros n < UInt32.size := by
  have hlog := log2_lt hn hsize
  calc n * 2 ^ leadingZeros n < 2 ^ (n.log2 + 1) * 2 ^ leadingZeros n :=
        Nat.mul_lt_mul_of_pos_right Nat.lt_log2_self (by positivity)
    _ = 2 ^ 32 := by
        rw [← pow_add, leadingZeros]
        congr 1
        omega

/-- A word stands for a number if its product lies in the interval that belongs to the number.  All
these intervals have the same length. -/
theorem pick?_eq_some_iff (hn : 0 < n) (hsize : n < UInt32.size) : pick? n w = some i ↔
    i * UInt32.size ≤ w.toNat * n ∧
      w.toNat * n < i * UInt32.size + n * 2 ^ leadingZeros n := by
  have hbound : bound n + 1 = n * 2 ^ leadingZeros n := by
    rw [bound, Nat.shiftLeft_eq, Nat.sub_add_cancel]
    exact Nat.mul_pos hn (by positivity)
  have hfits := mul_two_pow_leadingZeros_lt hn hsize
  have hproduct := Nat.div_add_mod' (w.toNat * n) UInt32.size
  rw [pick?, Option.ite_none_right_eq_some, Option.some_inj]
  -- The high half of the product says where the interval begins, the low half how far into it.
  constructor
  · rintro ⟨hkept, rfl⟩
    omega
  · rintro ⟨hle, hlt⟩
    have hi : w.toNat * n / UInt32.size = i := by
      rw [Nat.div_eq_iff (by decide)]
      omega
    rw [hi] at hproduct
    exact ⟨by omega, hi⟩

/-- The product of a word is less than that of the number of words. -/
theorem lt_of_pick? (hn : 0 < n) (hsize : n < UInt32.size) (h : pick? n w = some i) : i < n := by
  obtain ⟨hle, -⟩ := (pick?_eq_some_iff hn hsize).mp h
  have hproduct : w.toNat * n < UInt32.size * n := Nat.mul_lt_mul_of_pos_right w.toNat_lt hn
  exact Nat.lt_of_mul_lt_mul_right (hle.trans_lt (hproduct.trans_eq (Nat.mul_comm _ _)))

/-- The first number whose product comes to `a + n * k` is the one for `a`, and `k` more. -/
theorem ceilDiv_add_le_iff (hn : 0 < n) (a k v : Nat) :
    a ⌈/⌉ n + k ≤ v ↔ a + n * k ≤ n * v := by
  rcases Nat.lt_or_ge v k with hlt | hge
  · have hproduct : n * v < n * k := Nat.mul_lt_mul_of_pos_left hlt hn
    constructor <;> omega
  · obtain ⟨u, rfl⟩ := Nat.exists_eq_add_of_le' hge
    rw [Nat.add_le_add_iff_right, ceilDiv_le_iff_le_mul hn, Nat.mul_add, Nat.add_le_add_iff_right]

/-- The words that stand for a number follow one another, from the first whose product comes to the
interval of the number. -/
theorem image_toNat_pick? (hn : 0 < n) (hsize : n < UInt32.size) (hi : i < n) :
    UInt32.toNat '' {w | pick? n w = some i} =
      Set.Ico ((i * UInt32.size) ⌈/⌉ n) ((i * UInt32.size) ⌈/⌉ n + 2 ^ leadingZeros n) := by
  have hmem (v : Nat) : v ∈ Set.Ico ((i * UInt32.size) ⌈/⌉ n)
      ((i * UInt32.size) ⌈/⌉ n + 2 ^ leadingZeros n) ↔
        i * UInt32.size ≤ v * n ∧ v * n < i * UInt32.size + n * 2 ^ leadingZeros n := by
    rw [Set.mem_Ico, ceilDiv_le_iff_le_mul hn, ← not_le, ceilDiv_add_le_iff hn, not_le,
      Nat.mul_comm n v]
  ext v
  rw [hmem, Set.mem_image]
  constructor
  · rintro ⟨w, hw, rfl⟩
    exact (pick?_eq_some_iff hn hsize).mp hw
  · intro hv
    -- The interval of a number below `n` ends before the products of words do.
    have hsmall : v < UInt32.size := by
      have hend : (i + 1) * UInt32.size ≤ n * UInt32.size := Nat.mul_le_mul_right _ hi
      rw [Nat.add_one_mul] at hend
      have hfits := mul_two_pow_leadingZeros_lt hn hsize
      refine Nat.lt_of_mul_lt_mul_right (a := n) ?_
      rw [Nat.mul_comm UInt32.size n]
      omega
    have hword : (UInt32.ofNat v).toNat = v := UInt32.toNat_ofNat_of_lt' hsmall
    refine ⟨UInt32.ofNat v, ?_, hword⟩
    refine (pick?_eq_some_iff hn hsize).mpr ?_
    rwa [hword]

/-- Each number is stood for by the same number of words. -/
theorem ncard_pick? (hn : 0 < n) (hsize : n < UInt32.size) (hi : i < n) :
    {w | pick? n w = some i}.ncard = 2 ^ leadingZeros n := by
  have hinjective : Function.Injective UInt32.toNat := fun _ _ => UInt32.toNat_inj.mp
  rw [← Set.ncard_image_of_injective _ hinjective, image_toNat_pick? hn hsize hi, ← Finset.coe_Ico,
    Set.ncard_coe_finset, Nat.card_Ico, Nat.add_sub_cancel_left]

end

/-! ## Elements -/

section

variable {α : Type} {l : List α} {a : α} {w : UInt32}

/-- The element for which a word stands, unless the word has to be thrown away. -/
def picked? (l : List α) (w : UInt32) : Option α := (pick? l.length w).bind (l[·]?)

/-- Each element of a list is stood for by as many words as any other, and nothing else by any. -/
structure IsUniform (l : List α) : Prop where
  nodup : l.Nodup
  mem : ∀ w a, picked? l w = some a → a ∈ l
  ncard : ∀ a ∈ l, {w | picked? l w = some a}.ncard = 2 ^ leadingZeros l.length

theorem mem_of_picked? (h : picked? l w = some a) : a ∈ l := by
  obtain ⟨i, -, hi⟩ := Option.bind_eq_some_iff.mp h
  exact List.mem_of_getElem? hi

/-- In a list without repetitions each element is stood for by the same number of words. -/
theorem ncard_picked? (hnodup : l.Nodup) (hsize : l.length < UInt32.size) (ha : a ∈ l) :
    {w | picked? l w = some a}.ncard = 2 ^ leadingZeros l.length := by
  obtain ⟨i, hi, rfl⟩ := List.getElem_of_mem ha
  have hwords : {w | picked? l w = some l[i]} = {w | pick? l.length w = some i} := by
    ext w
    constructor
    · intro hw
      obtain ⟨j, hj, hget⟩ := Option.bind_eq_some_iff.mp hw
      obtain ⟨hlt, heq⟩ := List.getElem?_eq_some_iff.mp hget
      obtain rfl : j = i := (hnodup.getElem_inj_iff).mp heq
      exact hj
    · intro hw
      exact Option.bind_eq_some_iff.mpr ⟨i, hw, List.getElem?_eq_getElem hi⟩
  rw [hwords, ncard_pick? (Nat.zero_lt_of_lt hi) hsize hi]

/-- The choice of an element is fair if no element occurs twice. -/
theorem isUniform_of_nodup (hnodup : l.Nodup) (hsize : l.length < UInt32.size) : IsUniform l where
  nodup := hnodup
  mem _ _ h := mem_of_picked? h
  ncard _ ha := ncard_picked? hnodup hsize ha

end

end Choice

/-! ## Words to come -/

namespace Keystream

/-- The place in the stream after some more words. -/
def after (g : Keystream) : Nat → Keystream
  | 0 => g
  | k + 1 => g.word.2.after k

/-- The word that comes after some others. -/
def wordAfter (g : Keystream) (k : Nat) : UInt32 := (g.after k).word.1

theorem after_add (g : Keystream) (j k : Nat) : g.after (j + k) = (g.after j).after k := by
  induction j generalizing g with
  | zero => rw [Nat.zero_add, after]
  | succ j ih => rw [Nat.succ_add, after, after, ih]

/-- Sixteen words are a block. -/
theorem after_sixteen (key : ChaCha.Key) (next : UInt64) :
    ({ key, next } : Keystream).after 16 = { key, next := next + 1 } :=
  rfl

theorem after_blocks (key : ChaCha.Key) (next : UInt64) (k : Nat) :
    ({ key, next } : Keystream).after (16 * k) = { key, next := next + UInt64.ofNat k } := by
  induction k generalizing next with
  | zero => simp [after]
  | succ k ih =>
    rw [Nat.mul_succ, Nat.add_comm, after_add, after_sixteen, ih, UInt64.ofNat_add,
      UInt64.add_assoc, UInt64.add_comm 1]
    rfl

/-- After a period the blocks have all been used, and the stream is back where it was. -/
def Returns (g : Keystream) : Prop := g.after Choice.period = g

theorem returns_of_ready {g : Keystream} (h : g.ready = []) : g.Returns := by
  obtain ⟨key, next, ready⟩ := g
  obtain rfl : ready = [] := h
  have hperiod : Choice.period = 16 * UInt64.size := by decide
  have hblocks : UInt64.ofNat UInt64.size = 0 := by decide
  rw [Returns, hperiod, after_blocks, hblocks, UInt64.add_zero]

theorem Returns.after {g : Keystream} (h : g.Returns) (k : Nat) : (g.after k).Returns := by
  rw [Returns, ← after_add, Nat.add_comm, after_add, h]

theorem Returns.wordAfter {g : Keystream} (h : g.Returns) (k : Nat) :
    g.wordAfter (Choice.period + k) = g.wordAfter k := by
  rw [Keystream.wordAfter, after_add, h, Keystream.wordAfter]

/-- The stream of a seed begins with a whole block. -/
theorem returns_ofSeed (seed : UInt64) : (ofSeed seed).Returns :=
  returns_of_ready rfl

end Keystream

/-! ## The word that decides -/

namespace Choice

variable {n i j tries : Nat} {g : Keystream}

/-- Word number `j` of those to come, counted from zero, is the first that is kept, and it stands
for `i`. -/
structure FirstKeptAt (n : Nat) (g : Keystream) (j i : Nat) : Prop where
  rejected : ∀ k < j, pick? n (g.wordAfter k) = none
  kept : pick? n (g.wordAfter j) = some i

theorem firstKept_of_rejected (h : ∀ k < j, pick? n (g.wordAfter k) = none) (hj : j ≤ tries) :
    firstKept n tries g = firstKept n (tries - j) (g.after j) := by
  induction j generalizing g tries with
  | zero => rfl
  | succ j ih =>
    obtain ⟨tries, rfl⟩ : ∃ t, tries = t + 1 := ⟨tries - 1, by omega⟩
    have hfirst : pick? n g.word.1 = none := h 0 (Nat.succ_pos j)
    have hrest : ∀ k < j, pick? n (g.word.2.wordAfter k) = none :=
      fun k hk => h (k + 1) (Nat.succ_lt_succ hk)
    rw [firstKept]
    simp only [hfirst]
    rw [ih hrest (Nat.le_of_succ_le_succ hj), Keystream.after, Nat.add_sub_add_right]

theorem FirstKeptAt.firstKept_eq (h : FirstKeptAt n g j i) (hj : j < tries) :
    firstKept n tries g = (i, g.after (j + 1)) := by
  obtain ⟨rest, hrest⟩ : ∃ t, tries - j = t + 1 := ⟨tries - j - 1, by omega⟩
  have hword : pick? n (g.after j).word.1 = some i := h.kept
  rw [firstKept_of_rejected h.rejected hj.le, hrest, firstKept]
  simp only [hword]
  rw [Keystream.after_add]
  rfl

/-- If any word is kept, one is before the stream starts again. -/
theorem FirstKeptAt.lt_period (h : FirstKeptAt n g j i) (hreturns : g.Returns) : j < period := by
  by_contra hlate
  obtain ⟨k, rfl⟩ := Nat.exists_eq_add_of_le (Nat.le_of_not_lt hlate)
  have hkept := h.kept
  rw [hreturns.wordAfter, h.rejected k (Nat.lt_add_of_pos_left (by decide))] at hkept
  cases hkept

theorem FirstKeptAt.below_eq (h : FirstKeptAt n g j i) (hreturns : g.Returns) :
    below n g = (i, g.after (j + 1)) := by
  rw [below, h.firstKept_eq (h.lt_period hreturns)]

/-- A choice takes the element for which the first word stands that is kept, and leaves the words
after it. -/
theorem element?_eq {α : Type} {l : List α} (hne : l ≠ []) (hsize : l.length < UInt32.size)
    (hreturns : g.Returns) (h : FirstKeptAt l.length g j i) :
    ∃ a, picked? l (g.wordAfter j) = some a ∧ element? l g = some (a, g.after (j + 1)) := by
  have hi : i < l.length := lt_of_pick? (List.length_pos_iff.mpr hne) hsize h.kept
  refine ⟨l[i], ?_, ?_⟩
  · rw [picked?, h.kept, Option.bind_some, List.getElem?_eq_getElem hi]
  · cases l with
    | nil => exact absurd rfl hne
    | cons b l =>
      rw [element?, h.below_eq hreturns]
      simp only [List.getD_eq_getElem _ _ hi]

/-- A choice uses up some words. -/
theorem exists_firstKept_snd (n tries : Nat) (g : Keystream) :
    ∃ k, (firstKept n tries g).2 = g.after k := by
  induction tries generalizing g with
  | zero => exact ⟨0, rfl⟩
  | succ tries ih =>
    rw [firstKept]
    cases hword : pick? n g.word.1 with
    | some i => exact ⟨1, by simp only [hword]; rfl⟩
    | none =>
      obtain ⟨k, hk⟩ := ih g.word.2
      refine ⟨k + 1, ?_⟩
      simp only [hword]
      exact hk

theorem returns_of_element? {α : Type} {l : List α} {a : α} {g' : Keystream}
    (h : element? l g = some (a, g')) (hreturns : g.Returns) : g'.Returns := by
  cases l with
  | nil => simp [element?] at h
  | cons b l =>
    obtain ⟨k, hk⟩ := exists_firstKept_snd (b :: l).length period g
    simp only [element?, Option.some.injEq, Prod.mk.injEq, below, hk] at h
    rw [← h.2]
    exact hreturns.after k

end Choice

end CounterWalk

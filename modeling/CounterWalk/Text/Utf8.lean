/-!
# UTF-8

Bytes are read as characters one byte at a time. Bytes that cannot be part of a character are kept
apart: a run of bytes that begins a character and breaks off is one gap, and so is any other stray
byte.

Main results:

- `Text.Utf8.decode_encode`: the bytes of a text are read as that text, without gaps.
-/

namespace CounterWalk.Text.Utf8

/-- A character of which some bytes are still to come. -/
structure Pending where
  /-- The bits read so far. -/
  bits : Nat
  /-- The number of bytes to come after the next one. -/
  after : Nat
  /-- The least next byte. -/
  low : UInt8
  /-- The greatest next byte. -/
  high : UInt8
deriving DecidableEq, Repr

/-- What a first byte begins. -/
inductive Lead where
  | whole (c : Char)
  | pending (p : Pending)
  | stray

/-- What a byte begins. The bounds on the byte after it rule out longer forms than needed,
surrogates and code points beyond the last. -/
def lead (b : UInt8) : Lead :=
  if b < 0x80 then .whole (Char.ofNat b.toNat)
  else if b < 0xC2 then .stray
  else if b < 0xE0 then .pending ⟨b.toNat - 0xC0, 0, 0x80, 0xBF⟩
  else if b = 0xE0 then .pending ⟨0, 1, 0xA0, 0xBF⟩
  else if b = 0xED then .pending ⟨0xD, 1, 0x80, 0x9F⟩
  else if b < 0xF0 then .pending ⟨b.toNat - 0xE0, 1, 0x80, 0xBF⟩
  else if b = 0xF0 then .pending ⟨0, 2, 0x90, 0xBF⟩
  else if b < 0xF4 then .pending ⟨b.toNat - 0xF0, 2, 0x80, 0xBF⟩
  else if b = 0xF4 then .pending ⟨4, 2, 0x80, 0x8F⟩
  else .stray

/-- The characters of bytes, with `none` for each gap, when some character may be pending. -/
def decodeFrom : Option Pending → List UInt8 → List (Option Char)
  | none, [] => []
  | some _, [] => [none]
  | none, b :: rest =>
    match lead b with
    | .whole c => some c :: decodeFrom none rest
    | .pending p => decodeFrom (some p) rest
    | .stray => none :: decodeFrom none rest
  | some p, b :: rest =>
    if p.low ≤ b ∧ b ≤ p.high then
      let bits := 64 * p.bits + b.toNat % 64
      match p.after with
      | 0 => some (Char.ofNat bits) :: decodeFrom none rest
      | n + 1 => decodeFrom (some ⟨bits, n, 0x80, 0xBF⟩) rest
    else
      match lead b with
      | .whole c => none :: some c :: decodeFrom none rest
      | .pending p => none :: decodeFrom (some p) rest
      | .stray => none :: none :: decodeFrom none rest

/-- The characters of bytes, with `none` for each gap. -/
def decode (bytes : List UInt8) : List (Option Char) := decodeFrom none bytes

/-- The bytes of characters. -/
def encode (chars : List Char) : List UInt8 := chars.flatMap String.utf8EncodeChar

/-- The characters of bytes without gaps. -/
def decode? (bytes : List UInt8) : Option (List Char) := (decode bytes).mapM id

/-- The text of bytes, with a replacement character for each gap. -/
def lossy (bytes : List UInt8) : String :=
  String.ofList ((decode bytes).map (·.getD '\ufffd'))

/-! ## Reading what is written -/

theorem toNat_ofNat_of_lt {n : Nat} (h : n < 256) : (UInt8.ofNat n).toNat = n := by
  simp [UInt8.toNat_ofNat', Nat.mod_eq_of_lt h]

/-- A byte between the bounds of a pending character adds six bits to it. -/
theorem decodeFrom_pending {p : Pending} {n : Nat} (hn : n < 64) (hlow : p.low.toNat ≤ n + 128)
    (hhigh : n + 128 ≤ p.high.toNat) (rest : List UInt8) :
    decodeFrom (some p) (UInt8.ofNat (n + 128) :: rest) =
      match p.after with
      | 0 => some (Char.ofNat (64 * p.bits + n)) :: decodeFrom none rest
      | k + 1 => decodeFrom (some ⟨64 * p.bits + n, k, 0x80, 0xBF⟩) rest := by
  have hb : (UInt8.ofNat (n + 128)).toNat = n + 128 := toNat_ofNat_of_lt (by omega)
  have hin : p.low ≤ UInt8.ofNat (n + 128) ∧ UInt8.ofNat (n + 128) ≤ p.high := by
    simp only [UInt8.le_iff_toNat_le, hb]
    omega
  have hm : (n + 128) % 64 = n := by omega
  simp only [decodeFrom, hin, and_self, if_true, hb, hm]

theorem lead_one {n : Nat} (h : n < 0x80) : lead (UInt8.ofNat n) = .whole (Char.ofNat n) := by
  have hb : (UInt8.ofNat n).toNat = n := toNat_ofNat_of_lt (by omega)
  simp [lead, UInt8.lt_iff_toNat_lt, hb, h]

theorem lead_two {n : Nat} (h : 2 ≤ n) (h' : n < 32) :
    lead (UInt8.ofNat (n + 0xC0)) = .pending ⟨n, 0, 0x80, 0xBF⟩ := by
  have hb : (UInt8.ofNat (n + 0xC0)).toNat = n + 0xC0 := toNat_ofNat_of_lt (by omega)
  simp only [lead, UInt8.lt_iff_toNat_lt, hb]
  simp
  grind

theorem lead_three {n : Nat} (h : n < 16) :
    ∃ low high, lead (UInt8.ofNat (n + 0xE0)) = .pending ⟨n, 1, low, high⟩ ∧
      low.toNat = (if n = 0 then 0xA0 else 0x80) ∧ high.toNat = (if n = 13 then 0x9F else 0xBF) := by
  have hb : (UInt8.ofNat (n + 0xE0)).toNat = n + 0xE0 := toNat_ofNat_of_lt (by omega)
  simp only [lead, UInt8.lt_iff_toNat_lt, ← UInt8.toNat_inj, hb]
  simp
  grind

theorem lead_four {n : Nat} (h : n < 5) :
    ∃ low high, lead (UInt8.ofNat (n + 0xF0)) = .pending ⟨n, 2, low, high⟩ ∧
      low.toNat = (if n = 0 then 0x90 else 0x80) ∧ high.toNat = (if n = 4 then 0x8F else 0xBF) := by
  have hb : (UInt8.ofNat (n + 0xF0)).toNat = n + 0xF0 := toNat_ofNat_of_lt (by omega)
  simp only [lead, UInt8.lt_iff_toNat_lt, ← UInt8.toNat_inj, hb]
  simp
  grind

/-- The bytes of a character are read as that character. -/
theorem decodeFrom_encodeChar (c : Char) (rest : List UInt8) :
    decodeFrom none (String.utf8EncodeChar c ++ rest) = some c :: decodeFrom none rest := by
  have hv : c.val.toNat < 0xD800 ∨ (0xDFFF < c.val.toNat ∧ c.val.toNat < 0x110000) := c.valid
  have hc : Char.ofNat c.val.toNat = c := Char.ofNat_toNat c
  simp only [String.utf8EncodeChar]
  generalize c.val.toNat = v at *
  split
  · rw [List.cons_append, List.nil_append, decodeFrom, lead_one (by omega), hc]
  split
  · have hn : v / 64 % 32 = v / 64 := by omega
    rw [List.cons_append, List.cons_append, List.nil_append, decodeFrom, hn,
      lead_two (by omega) (by omega)]
    simp only
    rw [decodeFrom_pending (by omega) (by simp) (by simp; omega)]
    simp only
    rw [show 64 * (v / 64) + v % 64 = v by omega, hc]
  split
  · have hn : v / 4096 % 16 = v / 4096 := by omega
    obtain ⟨low, high, hlead, hlow, hhigh⟩ := lead_three (n := v / 4096) (by omega)
    simp only [List.cons_append, List.nil_append]
    rw [decodeFrom, hn, hlead]
    simp only
    rw [decodeFrom_pending (by omega) (by simp only [hlow]; split <;> omega)
      (by simp only [hhigh]; split <;> omega)]
    simp only
    rw [decodeFrom_pending (by omega) (by simp) (by simp; omega)]
    simp only
    rw [show 64 * (64 * (v / 4096) + v / 64 % 64) + v % 64 = v by omega, hc]
  · have hn : v / 262144 % 8 = v / 262144 := by omega
    obtain ⟨low, high, hlead, hlow, hhigh⟩ := lead_four (n := v / 262144) (by omega)
    simp only [List.cons_append, List.nil_append]
    rw [decodeFrom, hn, hlead]
    simp only
    rw [decodeFrom_pending (by omega) (by simp only [hlow]; split <;> omega)
      (by simp only [hhigh]; split <;> omega)]
    simp only
    rw [decodeFrom_pending (by omega) (by simp) (by simp; omega)]
    simp only
    rw [decodeFrom_pending (by omega) (by simp) (by simp; omega)]
    simp only
    rw [show 64 * (64 * (64 * (v / 262144) + v / 4096 % 64) + v / 64 % 64) + v % 64 = v by omega, hc]

/-- What is written is read back without gaps. -/
theorem decode_encode (chars : List Char) : decode (encode chars) = chars.map some := by
  induction chars with
  | nil => rfl
  | cons c rest ih =>
    rw [encode, List.flatMap_cons, decode, decodeFrom_encodeChar, List.map_cons]
    exact congrArg _ ih

theorem decode?_encode (chars : List Char) : decode? (encode chars) = some chars := by
  rw [decode?, decode_encode]
  induction chars with
  | nil => rfl
  | cons c rest ih => simp [ih]

end CounterWalk.Text.Utf8

import Mathlib.Data.String.Basic

/-!
# Texts as bytes

Texts are compared by their characters, and their UTF-8 forms by bytes; that comes to the same
(`Text.bytes_lt_bytes_iff`). UTF-8 is made for it. The forms of two characters part at a byte, and
there the smaller character has the smaller byte: the first byte grows with the character, and
characters with the same first byte have equally many bytes, which are their digits to the base 64.
-/

namespace Courier.Text

/-! ## UTF-8 forms -/

theorem toList_loop (bytes : ByteArray) (i : Nat) (done : List UInt8) :
    ByteArray.toList.loop bytes i done = done.reverse ++ bytes.data.toList.drop i := by
  induction i, done using ByteArray.toList.loop.induct bytes with
  | case1 i done hlt ih =>
    have hlength : i < bytes.data.toList.length := hlt
    have hget : bytes.get! i = bytes.data.toList[i] := by
      simp [ByteArray.get!, hlt]
    rw [ByteArray.toList.loop, if_pos hlt, ih, List.drop_eq_getElem_cons hlength, hget]
    simp
  | case2 i done hle =>
    have hlength : bytes.data.toList.length ≤ i := Nat.le_of_not_lt hle
    rw [ByteArray.toList.loop, if_neg hle, List.drop_eq_nil_of_le hlength, List.append_nil]

theorem toList_eq (bytes : ByteArray) : bytes.toList = bytes.data.toList :=
  toList_loop bytes 0 []

/-- The bytes of a text are those of its characters. -/
theorem toList_toUTF8 (text : String) :
    text.toUTF8.toList = text.toList.flatMap String.utf8EncodeChar := by
  have hbytes : text.toUTF8 = text.toList.utf8Encode := by
    rw [String.toUTF8_eq_toByteArray, ← String.toByteArray_ofList, String.ofList_toList]
  rw [toList_eq, hbytes, List.utf8Encode, List.toList_data_toByteArray]

/-- A text is read back from the bytes of its UTF-8 form. -/
theorem fromUTF8?_toList (text : String) :
    String.fromUTF8? ⟨text.toUTF8.toList.toArray⟩ = some text := by
  rw [toList_eq, Array.toArray_toList]
  exact dif_pos text.isValidUTF8

/-! ## Parting -/

/-- Two lists of bytes part at a byte, and there the first one has the smaller byte. -/
inductive PartsBelow : List UInt8 → List UInt8 → Prop
  | here {a b : UInt8} {as bs : List UInt8} (h : a < b) : PartsBelow (a :: as) (b :: bs)
  | later {a : UInt8} {as bs : List UInt8} (h : PartsBelow as bs) : PartsBelow (a :: as) (a :: bs)

/-- Where lists part decides about their order, whatever follows them. -/
theorem PartsBelow.append_lt {as bs : List UInt8} (h : PartsBelow as bs) (us vs : List UInt8) :
    as ++ us < bs ++ vs := by
  induction h with
  | here h => exact List.cons_lt_cons_iff.mpr (.inl h)
  | later _ ih => exact List.cons_lt_cons_iff.mpr (.inr ⟨rfl, ih⟩)

theorem ofNat_lt_ofNat {m n : Nat} (hn : n < 256) (h : m < n) : UInt8.ofNat m < UInt8.ofNat n :=
  (UInt8.ofNat_lt_iff_lt (h.trans hn) hn).mpr h

/-! ## Characters -/

/-- The first byte of a character. -/
def leadByte (v : Nat) : Nat :=
  if v ≤ 0x7f then v
  else if v ≤ 0x7ff then v / 64 + 0xc0
  else if v ≤ 0xffff then v / 64 ^ 2 + 0xe0
  else v / 64 ^ 3 + 0xf0

/-- The number of bytes of a character after its first one. -/
def tailLength (v : Nat) : Nat :=
  if v ≤ 0x7f then 0 else if v ≤ 0x7ff then 1 else if v ≤ 0xffff then 2 else 3

/-- The last digits of a number to the base 64, as bytes that continue a character. -/
def tailBytes : Nat → Nat → List UInt8
  | 0, _ => []
  | k + 1, v => UInt8.ofNat (v / 64 ^ k % 64 + 0x80) :: tailBytes k v

theorem toNat_lt (c : Char) : c.toNat < 0x110000 := by
  rcases c.valid with h | ⟨-, h⟩
  · exact h.trans (by decide)
  · exact h

/-- A character is written as its first byte and the digits that the first byte leaves out. -/
theorem utf8EncodeChar_eq (c : Char) :
    String.utf8EncodeChar c
      = UInt8.ofNat (leadByte c.toNat) :: tailBytes (tailLength c.toNat) c.toNat := by
  have hval : c.val.toNat = c.toNat := rfl
  have hrange := toNat_lt c
  unfold leadByte tailLength
  simp only [String.utf8EncodeChar, hval]
  -- the first byte has room for what is left of the character, so that nothing is cut off there
  split
  · rfl
  · split
    · have hlead : c.toNat / 64 % 32 = c.toNat / 64 := by omega
      simp [tailBytes, hlead]
    · split
      · have hlead : c.toNat / 4096 % 16 = c.toNat / 4096 := by omega
        simp [tailBytes, hlead]
      · have hlead : c.toNat / 262144 % 8 = c.toNat / 262144 := by omega
        simp [tailBytes, hlead]

theorem leadByte_lt (c : Char) : leadByte c.toNat < 256 := by
  have hrange := toNat_lt c
  unfold leadByte
  split_ifs <;> omega

/-- The first byte grows with the character. Characters with the same one have equally many bytes
and differ in the digits that the first byte leaves out. -/
theorem leadByte_lt_or_eq {v w : Nat} (h : v < w) :
    leadByte v < leadByte w ∨
      leadByte v = leadByte w ∧ tailLength v = tailLength w ∧
        v / 64 ^ tailLength v = w / 64 ^ tailLength v := by
  unfold leadByte tailLength
  split_ifs <;> omega

/-- Numbers that differ in their last digits only part at one of them. -/
theorem tailBytes_partsBelow {v w : Nat} (h : v < w) {k : Nat} (heq : v / 64 ^ k = w / 64 ^ k) :
    PartsBelow (tailBytes k v) (tailBytes k w) := by
  induction k with
  | zero =>
    simp only [pow_zero, Nat.div_one] at heq
    omega
  | succ k ih =>
    have hle : v / 64 ^ k ≤ w / 64 ^ k := Nat.div_le_div_right h.le
    rcases hle.lt_or_eq with hlt | hsame
    · rw [pow_succ, ← Nat.div_div_eq_div_mul, ← Nat.div_div_eq_div_mul] at heq
      exact .here (ofNat_lt_ofNat (by omega) (by omega))
    · rw [tailBytes, tailBytes, hsame]
      exact .later (ih hsame)

/-- The forms of two characters part at a byte, and the smaller character has the smaller one. -/
theorem utf8EncodeChar_partsBelow {c d : Char} (h : c < d) :
    PartsBelow (String.utf8EncodeChar c) (String.utf8EncodeChar d) := by
  have hlt : c.toNat < d.toNat := h
  rw [utf8EncodeChar_eq, utf8EncodeChar_eq]
  rcases leadByte_lt_or_eq hlt with hlead | ⟨hlead, hlength, hrest⟩
  · exact .here (ofNat_lt_ofNat (leadByte_lt d) hlead)
  · rw [hlead, ← hlength]
    exact .later (tailBytes_partsBelow hlt hrest)

/-! ## Texts -/

/-- The bytes of a text in its UTF-8 form. -/
def bytes (text : String) : List UInt8 := text.toUTF8.toList

theorem flatMap_utf8EncodeChar_lt {cs ds : List Char} (h : cs < ds) :
    cs.flatMap String.utf8EncodeChar < ds.flatMap String.utf8EncodeChar := by
  induction h with
  | nil =>
    rw [List.flatMap_cons, utf8EncodeChar_eq]
    exact List.Lex.nil
  | rel h => exact (utf8EncodeChar_partsBelow h).append_lt _ _
  | @cons c cs ds _ ih =>
    rw [List.flatMap_cons, List.flatMap_cons]
    induction String.utf8EncodeChar c with
    | nil => exact ih
    | cons byte rest ih => exact List.cons_lt_cons_iff.mpr (.inr ⟨rfl, ih⟩)

theorem bytes_lt_bytes {s t : String} (h : s < t) : bytes s < bytes t := by
  rw [bytes, bytes, toList_toUTF8, toList_toUTF8]
  exact flatMap_utf8EncodeChar_lt (String.lt_iff_toList_lt.mp h)

/-- **Texts are in the order of their bytes.** -/
theorem bytes_lt_bytes_iff {s t : String} : bytes s < bytes t ↔ s < t := by
  refine ⟨fun h => ?_, bytes_lt_bytes⟩
  rcases lt_trichotomy s t with hlt | rfl | hgt
  · exact hlt
  · exact absurd h (List.lt_irrefl (bytes s))
  · exact absurd h (List.lt_asymm (bytes_lt_bytes hgt))

end Courier.Text

import Courier.Http.Percent
import Courier.Proofs.Text.Bytes
import Mathlib.Data.List.Basic

/-!
# Percent encodings

A text encodes another one if it spells the bytes of its UTF-8 form, each by a character that stands
for itself or by an escape (`Percent.Encodes`). An encoding is decoded to what it encodes
(`Percent.Encodes.decode?`), it can stand in a path as one segment, and it is empty only for the empty
text. Every text has an encoding (`Percent.encodes_encode`).
-/

namespace Courier.Http.Percent

/-! ## Encodings -/

/-- The byte of an ASCII character. -/
def byteOf (c : Char) : UInt8 := UInt8.ofNat c.toNat

/-- Whether a character can stand for itself in a segment: an ASCII character that neither ends the
segment or the path nor begins an escape. -/
def isPlain (c : Char) : Bool :=
  c.toNat < 128 && c ≠ '/' && c ≠ '?' && c ≠ '#' && c ≠ '%'

/-- Characters spell bytes, each byte by a character that stands for itself or by an escape. -/
inductive Spells : List Char → List UInt8 → Prop
  | nil : Spells [] []
  | plain {c : Char} {cs : List Char} {bytes : List UInt8} (hc : isPlain c)
    (h : Spells cs bytes) : Spells (c :: cs) (byteOf c :: bytes)
  | escaped {high low : Char} {byte : UInt8} {cs : List Char} {bytes : List UInt8}
    (hhigh : high.isAlphanum) (hlow : low.isAlphanum)
    (hbyte : byte? (byteOf high) (byteOf low) = some byte) (h : Spells cs bytes) :
    Spells ('%' :: high :: low :: cs) (byte :: bytes)

/-- A text encodes another one. -/
def Encodes (text decoded : String) : Prop :=
  Spells text.toList decoded.toUTF8.toList

theorem lt_of_isAlphanum {c : Char} (h : c.isAlphanum) : c.toNat < 128 := by
  delta Char.isAlphanum Char.isAlpha Char.isUpper Char.isLower at h
  have hrange : ((65 ≤ c.toNat ∧ c.toNat ≤ 90) ∨ 97 ≤ c.toNat ∧ c.toNat ≤ 122) ∨
      48 ≤ c.toNat ∧ c.toNat ≤ 57 := by
    simpa [Char.isDigit, UInt32.le_iff_toNat_le] using h
  omega

theorem utf8EncodeChar_of_lt {c : Char} (h : c.toNat < 128) :
    String.utf8EncodeChar c = [byteOf c] := by
  have hval : c.val.toNat ≤ 127 := Nat.le_of_lt_succ h
  simp only [String.utf8EncodeChar]
  rw [if_pos hval]
  rfl

/-- A byte that is no percent sign stands for itself. -/
theorem decodeBytes_cons {byte : UInt8} (h : byte ≠ sign) (rest : List UInt8) :
    decodeBytes (byte :: rest) = byte :: decodeBytes rest := by
  match rest with
  | [] | [_] => rfl
  | b :: c :: rest => rw [decodeBytes, if_neg h]

theorem byteOf_ne_sign {c : Char} (h : isPlain c) : byteOf c ≠ sign := by
  simp only [isPlain, Bool.and_eq_true, decide_eq_true_eq] at h
  obtain ⟨⟨⟨⟨hlt, -⟩, -⟩, -⟩, hne⟩ := h
  intro hsign
  have hnat : c.toNat % 256 = 37 := congrArg UInt8.toNat hsign
  have hc : c.toNat = '%'.toNat := by
    rw [Nat.mod_eq_of_lt (by omega)] at hnat
    exact hnat
  exact hne (Char.toNat_inj.mp hc)

namespace Spells

variable {cs : List Char} {bytes : List UInt8}

/-- What is spelt is read back. -/
theorem decodeBytes_eq (h : Spells cs bytes) :
    decodeBytes (cs.flatMap String.utf8EncodeChar) = bytes := by
  induction h with
  | nil => rfl
  | @plain c cs bytes hc _ ih =>
    have hlt : c.toNat < 128 := by
      simp only [isPlain, Bool.and_eq_true, decide_eq_true_eq] at hc
      exact hc.1.1.1.1
    rw [List.flatMap_cons, utf8EncodeChar_of_lt hlt, List.singleton_append,
      decodeBytes_cons (byteOf_ne_sign hc), ih]
  | @escaped high low byte cs bytes hhigh hlow hbyte _ ih =>
    have hsign : String.utf8EncodeChar '%' = [sign] := by decide
    rw [List.flatMap_cons, List.flatMap_cons, List.flatMap_cons, hsign,
      utf8EncodeChar_of_lt (lt_of_isAlphanum hhigh), utf8EncodeChar_of_lt (lt_of_isAlphanum hlow)]
    simp only [List.singleton_append]
    rw [decodeBytes, if_pos rfl, hbyte]
    exact congrArg (byte :: ·) ih

/-- Nothing that is spelt has a slash in it, nor the mark of a query or a fragment. -/
theorem notMem (h : Spells cs bytes) {c : Char} (hc : c = '/' ∨ c = '?' ∨ c = '#') : c ∉ cs := by
  have hplain : isPlain c = false := by
    rcases hc with rfl | rfl | rfl <;> decide
  have hother : c ≠ '%' ∧ c.isAlphanum = false := by
    rcases hc with rfl | rfl | rfl <;> decide
  -- letters and digits are never such a mark, and neither are the two digits of an escape
  induction h with
  | nil => exact List.not_mem_nil
  | plain hd _ ih =>
    rintro (_ | ⟨_, hmem⟩)
    · rw [hplain] at hd
      cases hd
    · exact ih hmem
  | escaped hhigh hlow _ _ ih =>
    rintro (_ | ⟨_, _ | ⟨_, _ | ⟨_, hmem⟩⟩⟩)
    · exact hother.1 rfl
    · rw [hother.2] at hhigh
      cases hhigh
    · rw [hother.2] at hlow
      cases hlow
    · exact ih hmem

theorem nil_iff (h : Spells cs bytes) : cs = [] ↔ bytes = [] := by
  cases h <;> simp

theorem append {cs' : List Char} {bytes' : List UInt8} (h : Spells cs bytes)
    (h' : Spells cs' bytes') : Spells (cs ++ cs') (bytes ++ bytes') := by
  induction h with
  | nil => exact h'
  | plain hc _ ih => exact .plain hc ih
  | escaped hhigh hlow hbyte _ ih => exact .escaped hhigh hlow hbyte ih

end Spells

namespace Encodes

variable {text decoded : String}

/-- **An encoding is decoded** to the text that it encodes. -/
theorem decode?_eq (h : Encodes text decoded) : decode? text = some decoded := by
  rw [decode?, Text.toList_toUTF8, h.decodeBytes_eq, Text.fromUTF8?_toList]

theorem notMem (h : Encodes text decoded) {c : Char} (hc : c = '/' ∨ c = '?' ∨ c = '#') :
    c ∉ text.toList :=
  Spells.notMem h hc

/-- Only the empty text is encoded by nothing. -/
theorem eq_empty_iff (h : Encodes text decoded) : text = "" ↔ decoded = "" := by
  have hbytes : decoded.toUTF8.toList = [] ↔ decoded = "" := by
    rw [Text.toList_toUTF8, ← String.toList_eq_nil_iff]
    cases decoded.toList with
    | nil => simp
    | cons c cs =>
      refine iff_of_false ?_ nofun
      rw [List.flatMap_cons, List.append_eq_nil_iff, not_and_or]
      left
      simp only [String.utf8EncodeChar]
      split_ifs <;> nofun
  rw [← hbytes, ← h.nil_iff, String.toList_eq_nil_iff]

end Encodes

/-! ## The usual encoding -/

/-- Whether a character is left as it is in the usual encoding. -/
def isUnreserved (c : Char) : Bool :=
  c.isAlphanum || c = '-' || c = '.' || c = '_' || c = '~'

/-- A hexadecimal digit. -/
def hexDigit (n : Nat) : Char :=
  Char.ofNat (if n < 10 then 0x30 + n else 0x41 + (n - 10))

/-- A byte in the usual encoding. -/
def encodeByte (byte : UInt8) : List Char :=
  let c := Char.ofNat byte.toNat
  if isUnreserved c then [c] else ['%', hexDigit (byte.toNat / 16), hexDigit (byte.toNat % 16)]

/-- The usual encoding of a text: letters, digits and four marks stand for themselves, and all other
bytes are escaped. -/
def encode (text : String) : String :=
  String.ofList (text.toUTF8.toList.flatMap encodeByte)

theorem hexDigit_spec : ∀ n < 16, (hexDigit n).isAlphanum ∧
    hexValue? (byteOf (hexDigit n)) = some (UInt8.ofNat n) := by
  decide

theorem isPlain_of_isUnreserved {c : Char} (h : isUnreserved c) : isPlain c := by
  have hlt : c.toNat < 128 := by
    simp only [isUnreserved, Bool.or_eq_true, decide_eq_true_eq] at h
    rcases h with (((h | rfl) | rfl) | rfl) | rfl
    · exact lt_of_isAlphanum h
    all_goals decide
  have hne (d : Char) (hd : isUnreserved d = false) : c ≠ d := by
    rintro rfl
    rw [hd] at h
    cases h
  simp [isPlain, hlt, hne '/' (by decide), hne '?' (by decide), hne '#' (by decide),
    hne '%' (by decide)]

theorem toNat_ofNat {n : Nat} (h : n < 256) : (Char.ofNat n).toNat = n := by
  have hvalid : n.isValidChar := .inl (by omega)
  rw [Char.ofNat, dif_pos hvalid]
  rfl

/-- A byte is spelt by its usual encoding. -/
theorem spells_encodeByte (byte : UInt8) : Spells (encodeByte byte) [byte] := by
  have hlt : byte.toNat < 256 := byte.toNat_lt
  rw [encodeByte]
  split
  · rename_i hkept
    have hchar : (Char.ofNat byte.toNat).toNat = byte.toNat := toNat_ofNat hlt
    have hbyte : byteOf (Char.ofNat byte.toNat) = byte := by
      rw [byteOf, hchar, UInt8.ofNat_toNat]
    have hspells : Spells [Char.ofNat byte.toNat] [byteOf (Char.ofNat byte.toNat)] :=
      .plain (isPlain_of_isUnreserved hkept) .nil
    rwa [hbyte] at hspells
  · obtain ⟨hhigh, hhighValue⟩ := hexDigit_spec (byte.toNat / 16) (by omega)
    obtain ⟨hlow, hlowValue⟩ := hexDigit_spec (byte.toNat % 16) (by omega)
    refine .escaped hhigh hlow ?_ .nil
    rw [byte?, hhighValue, hlowValue]
    refine congrArg some (UInt8.toNat_inj.mp ?_)
    simp only [UInt8.toNat_add, UInt8.toNat_mul, UInt8.toNat_ofNat', UInt8.reduceToNat]
    omega

/-- **Every text has an encoding**, the usual one for instance. -/
theorem encodes_encode (text : String) : Encodes (encode text) text := by
  rw [Encodes, encode, String.toList_ofList]
  induction text.toUTF8.toList with
  | nil => exact .nil
  | cons byte rest ih => exact (spells_encodeByte byte).append ih

end Courier.Http.Percent

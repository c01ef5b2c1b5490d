import Courier.Proofs.Text.Trim
import Courier.Session.Recipient

/-!
# The numbers that are accepted

A text is accepted as a phone number exactly if, without the blanks at its ends and with a plus in
front, it is a plus, a digit from 1 to 9 and seven to fourteen more digits, and the number is that
text (`Recipient.parse_exact`). The further digits may be those of any script, so not everything
that is accepted is in the international form, which has the digits 0 to 9 only: it is exactly if
all its characters are ASCII. A number with Arabic digits is accepted and sent as it is
(`Recipient.arabicDigits_accepted`).
-/

namespace Courier

namespace Text

/-- A code point below all ranges is in none of them. -/
theorem inRanges_eq_false {code : Nat} {ranges : List CodeRange}
    (h : ∀ range ∈ ranges, code < range.1) : inRanges code ranges = false := by
  rw [inRanges, List.any_eq_false]
  intro range hrange
  have hlt := h range hrange
  simp only [Bool.and_eq_true, decide_eq_true_eq]
  omega

/-- Of the decimal digits of all scripts those from 0 to 9 are the ASCII ones. -/
theorem isAsciiDigit_iff {c : Char} : isAsciiDigit c = true ↔ isDigit c = true ∧ c.toNat < 128 := by
  have hascii : isAsciiDigit c = true ↔ 48 ≤ c.toNat ∧ c.toNat ≤ 57 := by
    simp only [isAsciiDigit, Bool.and_eq_true, decide_eq_true_eq]
    rfl
  -- the first range of the table are the ASCII digits, and the others are above 127
  have hothers : ∀ range ∈ digitRanges.tail, 128 ≤ range.1 := by decide
  have hdigit : isDigit c = true ↔
      (48 ≤ c.toNat ∧ c.toNat ≤ 57) ∨ inRanges c.toNat digitRanges.tail = true := by
    rw [isDigit, digitRanges, inRanges_cons]
    simp
  rw [hascii, hdigit]
  constructor
  · intro h
    exact ⟨.inl h, by omega⟩
  · rintro ⟨h | h, hlt⟩
    · exact h
    · have hnone : inRanges c.toNat digitRanges.tail = false :=
        inRanges_eq_false fun range hrange => Nat.lt_of_lt_of_le hlt (hothers range hrange)
      rw [hnone] at h
      cases h

end Text

namespace Recipient

/-- Whether a text is a plus, a digit from 1 to 9 and seven to fourteen more digits of a class. -/
def IsNumber (digit : Char → Bool) (text : String) : Prop :=
  ∃ first rest, text.toList = '+' :: first :: rest ∧ '1' ≤ first ∧ first ≤ '9' ∧
    (∀ c ∈ rest, digit c = true) ∧ 7 ≤ rest.length ∧ rest.length ≤ 14

/-- Whether a text is another one without the blanks at its ends, with a plus put in front unless it
begins with one. -/
def Normalizes (raw number : String) : Prop :=
  ∃ trimmed, Text.Trims raw trimmed ∧
    ((∃ rest, trimmed = "+" ++ rest) ∧ number = trimmed ∨
      (¬∃ rest, trimmed = "+" ++ rest) ∧ number = "+" ++ trimmed)

/-- The text that is checked. -/
def normal (raw : String) : String :=
  .ofList (withPlus (Text.trim raw).toList)

theorem isNumber_iff {text : String} :
    isNumber text.toList = true ↔ IsNumber Text.isDigit text := by
  rw [IsNumber]
  generalize text.toList = cs
  constructor
  · intro h
    rw [isNumber.eq_def] at h
    split at h
    · rename_i first rest
      simp only [Bool.and_eq_true, decide_eq_true_eq, List.all_eq_true] at h
      obtain ⟨⟨⟨⟨hlow, hhigh⟩, hrest⟩, hmin⟩, hmax⟩ := h
      exact ⟨first, rest, rfl, hlow, hhigh, hrest, hmin, hmax⟩
    · cases h
  · rintro ⟨first, rest, rfl, hlow, hhigh, hrest, hmin, hmax⟩
    simp [isNumber, hlow, hhigh, hmin, hmax]
    exact hrest

/-- A number has the digits 0 to 9 only exactly if it is ASCII. -/
theorem isNumber_isAsciiDigit_iff {text : String} :
    IsNumber Text.isAsciiDigit text ↔
      IsNumber Text.isDigit text ∧ ∀ c ∈ text.toList, c.toNat < 128 := by
  constructor
  · rintro ⟨first, rest, htext, hlow, hhigh, hrest, hlength⟩
    have hdigits (c : Char) (hc : c ∈ rest) := Text.isAsciiDigit_iff.mp (hrest c hc)
    refine ⟨⟨first, rest, htext, hlow, hhigh, fun c hc => (hdigits c hc).1, hlength⟩, ?_⟩
    rw [htext, List.forall_mem_cons, List.forall_mem_cons]
    exact ⟨by decide, Nat.lt_of_le_of_lt hhigh (by decide), fun c hc => (hdigits c hc).2⟩
  · rintro ⟨⟨first, rest, htext, hlow, hhigh, hrest, hlength⟩, hascii⟩
    refine ⟨first, rest, htext, hlow, hhigh, fun c hc => ?_, hlength⟩
    have hmem : c ∈ text.toList := by
      rw [htext]
      exact List.mem_cons_of_mem _ (List.mem_cons_of_mem _ hc)
    exact Text.isAsciiDigit_iff.mpr ⟨hrest c hc, hascii c hmem⟩

/-- The text that is checked is the only one that normalizes a text. -/
theorem normalizes_iff {raw number : String} : Normalizes raw number ↔ number = normal raw := by
  have hplus (text : String) : (∃ rest, text = "+" ++ rest) ↔ text.toList.head? = some '+' := by
    constructor
    · rintro ⟨rest, rfl⟩
      simp [String.toList_append]
    · intro h
      obtain ⟨rest, hrest⟩ := List.head?_eq_some_iff.mp h
      exact ⟨.ofList rest, String.toList_inj.mp (by simp [String.toList_append, hrest])⟩
  simp only [Normalizes, Text.trims_iff, exists_eq_left, hplus, normal, withPlus]
  by_cases h : (Text.trim raw).toList.head? = some '+'
  · simp only [h, true_and, not_true, false_and, or_false, if_true, String.ofList_toList]
  · have hcons : "+" ++ Text.trim raw = .ofList ('+' :: (Text.trim raw).toList) :=
      String.toList_inj.mp (by simp [String.toList_append])
    simp only [h, false_and, not_false_eq_true, true_and, false_or, if_false, hcons]

theorem parse_eq (raw : String) :
    parse raw = if h : isNumber (normal raw).toList = true then .ok ⟨normal raw, h⟩
      else .error (.invalidRecipient raw) := rfl

/-- **When a text is accepted as a phone number.** There is one text that normalizes it. If that is
a number with decimal digits of any script, the text is accepted and gives that number; otherwise it
is refused with an error that carries it unchanged. The number is in the international form, with
the digits 0 to 9 only, exactly if it is ASCII. -/
theorem parse_exact (raw : String) :
    ∃ number, (∀ other, Normalizes raw other ↔ other = number) ∧
      (IsNumber Text.isDigit number → ∃ r, parse raw = .ok r ∧ r.number = number) ∧
      (¬IsNumber Text.isDigit number → parse raw = .error (.invalidRecipient raw)) ∧
      (IsNumber Text.isAsciiDigit number ↔
        IsNumber Text.isDigit number ∧ ∀ c ∈ number.toList, c.toNat < 128) := by
  refine ⟨normal raw, fun other => normalizes_iff, fun h => ?_, fun h => ?_,
    isNumber_isAsciiDigit_iff⟩
  · rw [← isNumber_iff] at h
    exact ⟨⟨normal raw, h⟩, by rw [parse_eq, dif_pos h], rfl⟩
  · rw [← isNumber_iff] at h
    rw [parse_eq, dif_neg h]

/-- A number with Arabic digits behind the first is accepted as it is, and it is not in the
international form. -/
theorem arabicDigits_accepted :
    let raw := "+1\u0664\u0664\u0665\u0665\u0665\u0665\u0665\u0665"
    (∃ r, parse raw = .ok r ∧ r.number = raw) ∧ Normalizes raw raw ∧
      ¬IsNumber Text.isAsciiDigit raw := by
  intro raw
  have hnormal : raw = normal raw := by decide
  have hnumber : isNumber (normal raw).toList = true := by decide
  refine ⟨⟨⟨normal raw, hnumber⟩, by rw [parse_eq, dif_pos hnumber], hnormal.symm⟩,
    normalizes_iff.mpr hnormal, fun h => ?_⟩
  have hascii := (isNumber_isAsciiDigit_iff.mp h).2
  exact absurd (hascii '\u0664' (by decide)) (by decide)

end Recipient

end Courier

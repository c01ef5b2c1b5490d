import Courier.Proofs.Text.Digit
import Courier.Settings.Environment

/-!
# Texts from the environment

The value of a variable is read as a truth value, an integer or a floating-point number if it can
be, and it is written out again where a text is asked for. What comes out is the text that went in
exactly if the text is the one that its value is written as (`Environment.written_eq_self_iff`): a
word for a truth value has small letters, an integer has no plus and no superfluous zeros, and any
other number has its plain text. A text that is none of these is left alone.
-/

namespace Courier

namespace Environment

variable {text : String} {c : Char}

/-- A text in small letters, in which it is compared with words. -/
def word (text : String) : String :=
  String.ofList (text.toList.map Char.toLower)

/-- A text is one of the words for truth values, in letters of either case. -/
def IsTruth (text : String) : Prop :=
  word text = "true" ∨ word text = "false"

/-- What the value of a variable becomes where a text is asked for. -/
def written (text : String) : String :=
  ((value text).asText?).getD text

/-- A text is the one that its value is written as. -/
inductive Verbatim (text : String) : Prop where
  | truth (h : text = "true" ∨ text = "false")
  | integer (i : Int) (hfits : fitsSigned i = true) (h : text = (Number.int i).text)
  | float (x : Binary64) (htruth : ¬IsTruth text) (hinteger : integer? text = none)
    (hfloat : Binary64.parse? text = some x) (h : text = x.plainText)
  | text (htruth : ¬IsTruth text) (hinteger : integer? text = none)
    (hfloat : Binary64.parse? text = none)

/-! ## Values of variables -/

theorem value_of_not_isTruth (h : ¬IsTruth text) :
    value text = match integer? text, Binary64.parse? text with
      | some i, _ => .int i
      | none, some x => .float x
      | none, none => .text text := by
  obtain ⟨htrue, hfalse⟩ := not_or.mp h
  exact (if_neg htrue).trans (if_neg hfalse)

/-- Every value of a variable can be written as a text. -/
theorem asText?_value (text : String) : (value text).asText? = some (written text) := by
  have hsome : ((value text).asText?).isSome := by
    by_cases h : IsTruth text
    · rcases h with h | h
      · rw [show value text = .bool true from if_pos h]
        rfl
      · have htrue : word text ≠ "true" := by
          rw [h]
          decide
        rw [show value text = .bool false from (if_neg htrue).trans (if_pos h)]
        rfl
    · rw [value_of_not_isTruth h]
      split <;> rfl
  obtain ⟨s, hs⟩ := Option.isSome_iff_exists.mp hsome
  rw [written, hs, Option.getD_some]

/-! ## Integers -/

/-- An integer of 64 bits is read back from its text. -/
theorem integer?_text {i : Int} (h : fitsSigned i = true) :
    integer? (Number.int i).text = some i := by
  have hdigits : (Nat.toDigits 10 i.natAbs).all Text.isAsciiDigit = true :=
    List.all_eq_true.mpr fun _ => Text.isAsciiDigit_of_mem_toDigits
  have hsigned : Binary64.signed (Number.int i).text.toList
      = (decide (i < 0), Nat.toDigits 10 i.natAbs) := by
    rw [Number.text, String.toList_ofList, Json.printNumber, Json.printInt]
    by_cases hi : i < 0
    · rw [if_pos hi, decide_eq_true hi]
      rfl
    · rw [if_neg hi, decide_eq_false hi]
      -- a digit in front is no sign
      cases hcs : Nat.toDigits 10 i.natAbs with
      | nil => rfl
      | cons c cs =>
        rw [hcs] at hdigits
        have hc := (List.all_eq_true.mp hdigits) c List.mem_cons_self
        unfold Binary64.signed
        split
        · rename_i heq
          cases heq
          cases hc
        · rename_i heq
          cases heq
          cases hc
        · rfl
  have hvalue : (if decide (i < 0) = true then
      -(Text.digitsValue (Nat.toDigits 10 i.natAbs) : Int)
      else Text.digitsValue (Nat.toDigits 10 i.natAbs)) = i := by
    rw [Text.digitsValue_toDigits]
    split
    · rename_i hi
      have hneg := of_decide_eq_true hi
      omega
    · rename_i hi
      have hpos := of_decide_eq_false (eq_false_of_ne_true hi)
      omega
  rw [integer?, hsigned]
  dsimp only
  rw [if_pos ⟨Nat.toDigits_ne_nil, hdigits⟩, hvalue, if_pos h]

/-- What is read as an integer fits in 64 bits, and has digits behind its sign. -/
theorem digits_of_integer? {i : Int} (h : integer? text = some i) :
    fitsSigned i = true ∧ (Binary64.signed text.toList).2 ≠ [] ∧
      (Binary64.signed text.toList).2.all Text.isAsciiDigit = true := by
  rw [integer?] at h
  generalize Binary64.signed text.toList = signed at h
  obtain ⟨negative, digits⟩ := signed
  dsimp only at h
  split at h
  · rename_i hdigits
    obtain ⟨hfits, hi⟩ := Option.ite_none_right_eq_some.mp h
    exact ⟨Option.some.inj hi ▸ hfits, hdigits⟩
  · cases h

/-- What stands behind the sign is a part of the text. -/
theorem mem_of_mem_signed {cs : List Char} (h : c ∈ (Binary64.signed cs).2) : c ∈ cs := by
  unfold Binary64.signed at h
  split at h
  · exact List.mem_cons_of_mem _ h
  · exact List.mem_cons_of_mem _ h
  · exact h

/-- An integer is no word for a truth value. -/
theorem not_isTruth_of_integer? {i : Int} (h : integer? text = some i) : ¬IsTruth text := by
  obtain ⟨-, hne, hall⟩ := digits_of_integer? h
  obtain ⟨c, hc⟩ := List.exists_mem_of_ne_nil _ hne
  have hdigit := List.all_eq_true.mp hall c hc
  have hlower : c.toLower = c := by
    obtain ⟨hlow, hhigh⟩ := Text.isAsciiDigit_iff_toNat.mp hdigit
    refine dif_neg fun hupper => ?_
    have hletter : 65 ≤ c.toNat := hupper.1
    omega
  have hany : (word text).toList.any Text.isAsciiDigit = true := by
    rw [word, String.toList_ofList]
    exact List.any_eq_true.mpr ⟨c, List.mem_map.mpr ⟨c, mem_of_mem_signed hc, hlower⟩, hdigit⟩
  rintro (hword | hword)
  · rw [hword] at hany
    exact absurd hany (by decide)
  · rw [hword] at hany
    exact absurd hany (by decide)

/-! ## Texts that are written as they were -/

theorem written_of_truth (h : word text = "true") : written text = "true" := by
  rw [written, show value text = .bool true from if_pos h]
  rfl

theorem written_of_untruth (h : word text = "false") : written text = "false" := by
  have htrue : word text ≠ "true" := by
    rw [h]
    decide
  rw [written, show value text = .bool false from (if_neg htrue).trans (if_pos h)]
  rfl

theorem written_of_integer? {i : Int} (h : integer? text = some i) :
    written text = (Number.int i).text := by
  rw [written, value_of_not_isTruth (not_isTruth_of_integer? h), h]
  rfl

theorem written_of_parse? {x : Binary64} (htruth : ¬IsTruth text) (hinteger : integer? text = none)
    (hfloat : Binary64.parse? text = some x) : written text = x.plainText := by
  rw [written, value_of_not_isTruth htruth, hinteger, hfloat]
  rfl

theorem written_of_none (htruth : ¬IsTruth text) (hinteger : integer? text = none)
    (hfloat : Binary64.parse? text = none) : written text = text := by
  rw [written, value_of_not_isTruth htruth, hinteger, hfloat]
  rfl

/-- **A text stays as it is exactly if it is the one that its value is written as.** -/
theorem written_eq_self_iff : written text = text ↔ Verbatim text := by
  constructor
  · intro h
    -- a text is tried as a truth value, an integer and a float, in this order
    by_cases htruth : IsTruth text
    · rcases htruth with htrue | hfalse
      · exact .truth (.inl (h.symm.trans (written_of_truth htrue)))
      · exact .truth (.inr (h.symm.trans (written_of_untruth hfalse)))
    · cases hinteger : integer? text with
      | some i =>
        exact .integer i (digits_of_integer? hinteger).1
          (h.symm.trans (written_of_integer? hinteger))
      | none =>
        cases hfloat : Binary64.parse? text with
        | some x =>
          exact .float x htruth hinteger hfloat
            (h.symm.trans (written_of_parse? htruth hinteger hfloat))
        | none => exact .text htruth hinteger hfloat
  · intro h
    cases h with
    | truth h =>
      rcases h with rfl | rfl
      · exact written_of_truth (by decide)
      · exact written_of_untruth (by decide)
    | integer i hfits h =>
      have hread : integer? text = some i := by rw [h, integer?_text hfits]
      rw [written_of_integer? hread, h]
    | float x htruth hinteger hfloat h => rw [written_of_parse? htruth hinteger hfloat, h]
    | text htruth hinteger hfloat => exact written_of_none htruth hinteger hfloat

end Environment

end Courier

import Courier.Json.Printer
import Courier.Proofs.Text.Digit
import Courier.Proofs.Text.Trim

/-!
# Characters of numbers

The text of a number in a document is not empty and has digits, signs, points and the mark of an
exponent only (`Number.isNumeral_text`), whichever of its forms it has. So there are no blanks in
it, and trimming leaves it as it is.
-/

namespace Courier

namespace Decimal

/-- Whether a character may stand in the text of a number. -/
def inText (c : Char) : Bool :=
  Text.isAsciiDigit c || c = '-' || c = '+' || c = '.' || c = 'e'

theorem isBlank_of_inText {c : Char} (h : inText c = true) : Text.isBlank c = false := by
  simp only [inText, Bool.or_eq_true, decide_eq_true_eq] at h
  rcases h with (((h | rfl) | rfl) | rfl) | rfl
  · obtain ⟨hlow, hhigh⟩ := Text.isAsciiDigit_iff_toNat.mp h
    have hrange : Text.inRanges c.toNat [(48, 57)] = true := by
      simp [Text.inRanges, hlow, hhigh]
    exact Text.inRanges_eq_false_of_apart (by decide) hrange
  all_goals decide

/-- Whether characters can be the text of a number: there are some, and each of them may stand
there. -/
def IsNumeral (cs : List Char) : Prop :=
  cs ≠ [] ∧ ∀ c ∈ cs, inText c = true

variable {cs rest digits : List Char} {c : Char}

theorem IsNumeral.cons (hc : inText c = true) (h : ∀ c ∈ cs, inText c = true) :
    IsNumeral (c :: cs) :=
  ⟨List.cons_ne_nil _ _, List.forall_mem_cons.mpr ⟨hc, h⟩⟩

theorem IsNumeral.append (h : IsNumeral cs) (hrest : ∀ c ∈ rest, inText c = true) :
    IsNumeral (cs ++ rest) := by
  refine ⟨fun hnil => h.1 (List.append_eq_nil_iff.mp hnil).1, ?_⟩
  exact List.forall_mem_append.mpr ⟨h.2, hrest⟩

theorem isNumeral_toDigits (n : Nat) : IsNumeral (Nat.toDigits 10 n) := by
  refine ⟨Nat.toDigits_ne_nil, fun c hc => ?_⟩
  rw [inText, Text.isAsciiDigit_of_mem_toDigits hc]
  rfl

/-- Zeros may stand in a number. -/
theorem inText_of_mem_replicate {n : Nat} (h : c ∈ List.replicate n '0') : inText c = true := by
  rw [List.eq_of_mem_replicate h]
  decide

theorem isNumeral_positional (h : IsNumeral digits) (point : Int) :
    IsNumeral (positional digits point) := by
  rw [positional]
  split
  · refine .cons (by decide) (List.forall_mem_cons.mpr ⟨by decide, ?_⟩)
    exact List.forall_mem_append.mpr ⟨fun _ => inText_of_mem_replicate, h.2⟩
  · split
    · exact h.append fun _ => inText_of_mem_replicate
    · refine ⟨fun hnil => ?_, ?_⟩
      · exact List.cons_ne_nil _ _ (List.append_eq_nil_iff.mp hnil).2
      · rw [List.forall_mem_append, List.forall_mem_cons]
        exact ⟨fun c hc => h.2 c (List.mem_of_mem_take hc), by decide,
          fun c hc => h.2 c (List.mem_of_mem_drop hc)⟩

theorem isNumeral_scientific (h : IsNumeral digits) (exponent : Int) :
    IsNumeral (scientific digits exponent) := by
  have hsign : inText (if exponent < 0 then '-' else '+') = true := by
    split <;> decide
  unfold scientific
  dsimp only
  refine .append (.append ?_ ?_) (isNumeral_toDigits _).2
  · obtain ⟨hne, hdigits⟩ := h
    split
    · exact absurd rfl hne
    · exact ⟨hne, hdigits⟩
    · obtain ⟨hfirst, hrest⟩ := List.forall_mem_cons.mp hdigits
      exact .cons hfirst (List.forall_mem_cons.mpr ⟨by decide, hrest⟩)
  · exact List.forall_mem_cons.mpr ⟨by decide, List.forall_mem_cons.mpr ⟨hsign, nofun⟩⟩

end Decimal

open Decimal

theorem Binary64.isNumeral_documentText (x : Binary64) : IsNumeral x.documentText.toList := by
  unfold documentText
  generalize Decimal.ofBinary64 .toEven x = d
  have hdigits := isNumeral_toDigits d.digits
  dsimp only
  generalize hbody : (if x.isZero then _ else _ : List Char) = body
  have hnumeral : IsNumeral body := by
    rw [← hbody]
    split
    · exact .cons (by decide) (List.all_eq_true.mp rfl)
    · split
      · exact (isNumeral_positional hdigits _).append (List.all_eq_true.mp rfl)
      · split
        · exact isNumeral_positional hdigits _
        · exact isNumeral_scientific hdigits _
  rw [String.toList_ofList]
  split
  · exact .cons (by decide) hnumeral.2
  · exact hnumeral

/-- **The text of a number** has characters of numbers alone, and there are some. -/
theorem Number.isNumeral_text (n : Number) : IsNumeral n.text.toList := by
  rw [text, String.toList_ofList]
  cases n with
  | int value =>
    rw [Json.printNumber, Json.printInt]
    split
    · exact .cons (by decide) (isNumeral_toDigits _).2
    · exact isNumeral_toDigits _
  | float value => exact value.isNumeral_documentText

end Courier

import Courier.Text.Digit
import Mathlib.Data.List.Induction

/-!
# Numbers in decimal digits

The digits of a natural number have that number as their value (`Text.digitsValue_toDigits`), and
digits without a superfluous zero in front are the digits of their value
(`Text.toDigits_digitsValue`).
-/

namespace Courier.Text

theorem isAsciiDigit_iff_toNat {c : Char} :
    isAsciiDigit c = true ↔ 48 ≤ c.toNat ∧ c.toNat ≤ 57 := by
  rw [isAsciiDigit, Bool.and_eq_true, decide_eq_true_eq, decide_eq_true_eq]
  rfl

theorem isAsciiDigit_of_mem_toDigits {n : Nat} {c : Char} (h : c ∈ Nat.toDigits 10 n) :
    isAsciiDigit c = true := by
  have hc := Nat.isDigit_of_mem_toDigits (by decide) (by decide) h
  simpa [Char.isDigit, isAsciiDigit, Char.le_def] using hc

theorem digitValue_lt {c : Char} (h : isAsciiDigit c = true) : digitValue c < 10 := by
  obtain ⟨-, hhigh⟩ := isAsciiDigit_iff_toNat.mp h
  show c.toNat - 48 < 10
  omega

/-- A digit is what its value is written with. -/
theorem digitChar_digitValue {c : Char} (h : isAsciiDigit c = true) :
    (digitValue c).digitChar = c := by
  obtain ⟨hlow, -⟩ := isAsciiDigit_iff_toNat.mp h
  apply Char.toNat_inj.mp
  rw [Nat.toNat_digitChar_of_lt_ten (digitValue_lt h)]
  show 48 + (c.toNat - 48) = c.toNat
  omega

theorem digitsValue_toDigits (n : Nat) : digitsValue (Nat.toDigits 10 n) = n :=
  Nat.ofDigitChars_ten_toDigits

theorem digitsValue_concat (cs : List Char) (c : Char) :
    digitsValue (cs ++ [c]) = 10 * digitsValue cs + digitValue c := by
  rw [digitsValue, List.foldl_append]
  rfl

/-- Digits that do not begin with a zero have a positive value. -/
theorem digitsValue_pos {c : Char} {cs : List Char} (h : isAsciiDigit c = true) (hzero : c ≠ '0') :
    0 < digitsValue (c :: cs) := by
  induction cs using List.reverseRecOn with
  | nil =>
    obtain ⟨hlow, -⟩ := isAsciiDigit_iff_toNat.mp h
    have hne : c.toNat ≠ 48 := fun heq => hzero (Char.toNat_inj.mp heq)
    show 0 < 10 * 0 + (c.toNat - 48)
    omega
  | append_singleton cs d ih =>
    rw [← List.cons_append, digitsValue_concat]
    omega

/-- Digits without a superfluous zero in front are those of their value. -/
theorem toDigits_digitsValue {cs : List Char} (hdigits : ∀ c ∈ cs, isAsciiDigit c = true)
    (hne : cs ≠ []) (hzero : cs.head? ≠ some '0' ∨ cs.length = 1) :
    Nat.toDigits 10 (digitsValue cs) = cs := by
  -- the last digit is the one that the number leaves when it is divided by ten
  induction cs using List.reverseRecOn with
  | nil => exact absurd rfl hne
  | append_singleton cs c ih =>
    have hc : isAsciiDigit c = true := hdigits c (by simp)
    have hlast : Nat.toDigits 10 (digitValue c) = [c] := by
      rw [Nat.toDigits_of_lt_base (digitValue_lt hc), digitChar_digitValue hc]
    cases cs with
    | nil =>
      have hvalue : digitsValue ([] ++ [c]) = digitValue c := Nat.zero_add _
      rw [hvalue, hlast, List.nil_append]
    | cons first rest =>
      have hfirst : first ≠ '0' := by
        rintro rfl
        simp at hzero
      have hrest : ∀ d ∈ first :: rest, isAsciiDigit d = true := fun d hd =>
        hdigits d (List.mem_append_left _ hd)
      have hpos : 0 < digitsValue (first :: rest) :=
        digitsValue_pos (hrest first List.mem_cons_self) hfirst
      have hfront := ih hrest (List.cons_ne_nil _ _) (.inl (by simpa using hfirst))
      rw [digitsValue_concat, ← Nat.toDigits_append_toDigits (by decide) hpos (digitValue_lt hc),
        hfront, hlast]

end Courier.Text

import Courier.Proofs.Json.Run
import Courier.Proofs.Session.Recipient

/-!
# One form for a number

What is accepted as a phone number is put into one form, and parsing that form again changes nothing
(`Recipient.parse_canonical`). Blanks at the ends of a text do not count, because trimming takes them
away before anything else happens. The number itself has no blanks, so it is left as it is, and behind
its plus there is a digit, so that the plus can be left out but not put twice.
-/

namespace Courier.Recipient

variable {raw padded digits : String} {r s : Recipient}

/-- A text is accepted with the number that normalizes it. -/
theorem parse_ok_iff : parse raw = .ok r ↔ Normalizes raw r.number := by
  rw [normalizes_iff, parse_eq]
  generalize normal raw = number
  constructor
  · intro h
    split at h
    · injection h with h
      rw [← h]
    · cases h
  · rintro rfl
    rw [dif_pos r.valid]

/-! ## The number again -/

/-- The number of a recipient is a plus and a text without blanks that begins with no other plus. -/
theorem exists_digits (r : Recipient) :
    ∃ digits, r.number = "+" ++ digits ∧ (¬∃ rest, digits = "+" ++ rest) ∧
      ∀ c ∈ digits.toList, Text.isBlank c = false := by
  obtain ⟨first, rest, hnumber, hlow, hhigh, hrest, -⟩ := isNumber_iff.mp r.valid
  have hfirst : Text.isAsciiDigit first = true := by
    have hzero : '0' ≤ first := Char.le_trans (by decide) hlow
    simp [Text.isAsciiDigit, hzero, hhigh]
  have hdigits : ∀ c ∈ first :: rest, Text.isDigit c = true :=
    List.forall_mem_cons.mpr ⟨(Text.isAsciiDigit_iff.mp hfirst).1, hrest⟩
  refine ⟨.ofList (first :: rest), String.toList_inj.mp ?_, ?_, ?_⟩
  · simp [hnumber, String.toList_append]
  · rintro ⟨others, hothers⟩
    have hhead := congrArg String.toList hothers
    rw [String.toList_append, String.toList_ofList] at hhead
    obtain rfl : first = '+' := (List.cons.inj hhead).1
    exact absurd hlow (by decide)
  · rw [String.toList_ofList]
    intro c hc
    exact Text.isBlank_of_isDigit (hdigits c hc)

/-- The number of a recipient is in normal form. -/
theorem normalizes_number (r : Recipient) : Normalizes r.number r.number := by
  obtain ⟨digits, hnumber, -, hblank⟩ := r.exists_digits
  refine ⟨r.number, Text.trims_self ?_, .inl ⟨⟨digits, hnumber⟩, rfl⟩⟩
  rw [hnumber, String.toList_append]
  exact List.forall_mem_cons.mpr ⟨by decide, hblank⟩

/-- Without its plus it is put into normal form again. -/
theorem normalizes_digits (h : r.number = "+" ++ digits) : Normalizes digits r.number := by
  obtain ⟨others, hnumber, hplus, hblank⟩ := r.exists_digits
  obtain rfl : digits = others := (String.append_right_inj "+").mp (h.symm.trans hnumber)
  exact ⟨digits, Text.trims_self hblank, .inr ⟨hplus, hnumber⟩⟩

/-! ## Blanks around a number -/

/-- A text with blanks around it has the same normal form. -/
theorem normal_eq_of_pads (h : Text.Pads padded raw) : normal padded = normal raw := by
  have htrims : Text.Trims padded (Text.trim raw) := h.trims (Text.trims_iff.mpr rfl)
  rw [normal, normal, ← Text.trims_iff.mp htrims]

/-- Blanks around a text do not change the number that it gives. -/
theorem toOption_parse_of_pads (h : Text.Pads padded raw) :
    (parse padded).toOption = (parse raw).toOption := by
  rw [parse_eq, parse_eq, normal_eq_of_pads h]
  split <;> rfl

/-! ## The same number -/

/-- Two texts give one number exactly if, without the blanks at their ends, they are equal or one of
them has a plus in front of the other. -/
theorem eq_iff_of_normalizes {a b first second : String} (ha : Normalizes a r.number)
    (hb : Normalizes b s.number) (hfirst : Text.Trims a first) (hsecond : Text.Trims b second) :
    r = s ↔ first = second ∨ first = "+" ++ second ∨ second = "+" ++ first := by
  obtain ⟨trimmed, htrims, hr⟩ := ha
  obtain rfl : trimmed = first := (Text.trims_iff.mp htrims).trans (Text.trims_iff.mp hfirst).symm
  obtain ⟨trimmed', htrims', hs⟩ := hb
  obtain rfl : trimmed' = second :=
    (Text.trims_iff.mp htrims').trans (Text.trims_iff.mp hsecond).symm
  have hnumber : r = s ↔ r.number = s.number := by
    obtain ⟨number, _⟩ := r
    obtain ⟨number', _⟩ := s
    rw [Recipient.mk.injEq]
  rw [hnumber]
  -- a number with a second plus would not have been accepted
  have hsingle (t : Recipient) {text : String} (ht : t.number = "+" ++ text) :
      ¬∃ rest, text = "+" ++ rest := by
    obtain ⟨digits, hdigits, hplus, -⟩ := t.exists_digits
    obtain rfl : text = digits := (String.append_right_inj "+").mp (ht.symm.trans hdigits)
    exact hplus
  -- each of the two texts has its plus already, or gets it
  rcases hr with ⟨hplus, hr⟩ | ⟨hplus, hr⟩ <;> rcases hs with ⟨hplus', hs⟩ | ⟨hplus', hs⟩
  · rw [hr, hs]
    constructor
    · exact .inl
    · rintro (h | h | h)
      · exact h
      · exact absurd hplus' (hsingle r (hr.trans h))
      · exact absurd hplus (hsingle s (hs.trans h))
  · rw [hr, hs]
    constructor
    · exact fun h => .inr (.inl h)
    · rintro (h | h | h)
      · exact absurd (h ▸ hplus) hplus'
      · exact h
      · exact absurd ⟨_, h⟩ hplus'
  · rw [hr, hs]
    constructor
    · exact fun h => .inr (.inr h.symm)
    · rintro (h | h | h)
      · exact absurd (h ▸ hplus') hplus
      · exact absurd ⟨_, h⟩ hplus
      · exact h.symm
  · rw [hr, hs, String.append_right_inj]
    constructor
    · exact .inl
    · rintro (h | h | h)
      · exact h
      · exact absurd ⟨_, h⟩ hplus
      · exact absurd ⟨_, h⟩ hplus'

/-- **Numbers have one form.** Let a text be accepted. Its number and its number without the plus, with
any blanks around them or none, are accepted and give the same number. With blanks put around any text
it is accepted or not as before, and with the same number. Two accepted texts give one number exactly
if, without the blanks at their ends, they are equal or differ in a plus in front. -/
theorem parse_canonical :
    (∀ raw r, parse raw = .ok r → ∃ digits, r.number = "+" ++ digits ∧
      ∀ again, Text.Pads again r.number ∨ Text.Pads again digits → parse again = .ok r) ∧
    (∀ raw padded, Text.Pads padded raw → (parse padded).toOption = (parse raw).toOption) ∧
    ∀ a b r s, parse a = .ok r → parse b = .ok s →
      ∀ first second, Text.Trims a first → Text.Trims b second →
        (r = s ↔ first = second ∨ first = "+" ++ second ∨ second = "+" ++ first) := by
  refine ⟨?_, ?_, ?_⟩
  · intro raw r _
    obtain ⟨digits, hnumber, -⟩ := r.exists_digits
    refine ⟨digits, hnumber, ?_⟩
    rintro again (hpads | hpads)
    · rw [parse_ok_iff, normalizes_iff, normal_eq_of_pads hpads]
      exact normalizes_iff.mp r.normalizes_number
    · rw [parse_ok_iff, normalizes_iff, normal_eq_of_pads hpads]
      exact normalizes_iff.mp (normalizes_digits hnumber)
  · intro raw padded hpads
    exact toOption_parse_of_pads hpads
  · intro a b r s ha hb first second hfirst hsecond
    exact eq_iff_of_normalizes (parse_ok_iff.mp ha) (parse_ok_iff.mp hb) hfirst hsecond

/-- A number that is given without its plus and between blanks is the one that is given in full, or
with another blank behind it. -/
theorem spacedNumber_canonical :
    ∃ r, parse " 14155552671 " = .ok r ∧ parse "+14155552671" = .ok r ∧
      parse "14155552671\t" = .ok r := by
  have hvalid : isNumber "+14155552671".toList = true := by decide
  have hnormal : "+14155552671" = normal " 14155552671 " := by decide
  have hparse : parse " 14155552671 " = .ok ⟨"+14155552671", hvalid⟩ :=
    parse_ok_iff.mpr (normalizes_iff.mpr hnormal)
  obtain ⟨digits, hdigits, hagain⟩ := parse_canonical.1 _ _ hparse
  obtain rfl : digits = "14155552671" := (String.append_right_inj "+").mp hdigits.symm
  have hpads : Text.Pads "14155552671\t" "14155552671" :=
    ⟨"", "\t", rfl, nofun, List.all_eq_true.mp rfl⟩
  exact ⟨_, hparse, hagain _ (.inl (Text.pads_self _)), hagain _ (.inr hpads)⟩

end Courier.Recipient

import Courier.Text.Blank
import Courier.Text.Digit
import Mathlib.Data.List.DropRight
import Mathlib.Data.List.TakeWhile

/-!
# Trimmed texts

`Text.Trims` says what is left of a text when the blanks at its two ends are taken away: what is
taken away are blanks, and what is left neither begins nor ends with one. There is one such text for
every text, and it is what `Text.trim` gives (`Text.trims_iff`). Texts that differ in the blanks at
their ends alone (`Text.Pads`) have the same left of them, and a text without blanks is left as it
is.
-/

namespace Courier.Text

/-- Whether a text neither begins nor ends with a blank. -/
def Trimmed (cs : List Char) : Prop :=
  (∀ c, cs.head? = some c → isBlank c = false) ∧ ∀ c, cs.getLast? = some c → isBlank c = false

/-- Whether a text is what is left of another without the blanks at its ends. -/
def Trims (text trimmed : String) : Prop :=
  ∃ before after, text = before ++ trimmed ++ after ∧
    (∀ c ∈ before.toList, isBlank c = true) ∧ (∀ c ∈ after.toList, isBlank c = true) ∧
    Trimmed trimmed.toList

/-! ## One end -/

variable {cs blanks : List Char}

theorem trimStart_append (h : ∀ c ∈ blanks, isBlank c = true) :
    trimStart (blanks ++ cs) = trimStart cs :=
  List.dropWhile_append_of_pos h

theorem trimEnd_append (h : ∀ c ∈ blanks, isBlank c = true) :
    trimEnd (cs ++ blanks) = trimEnd cs := by
  rw [trimEnd, List.reverse_append, List.dropWhile_append_of_pos, trimEnd]
  intro c hc
  exact h c (List.mem_reverse.mp hc)

theorem trimStart_eq_self (h : ∀ c, cs.head? = some c → isBlank c = false) : trimStart cs = cs := by
  cases cs with
  | nil => rfl
  | cons c rest => exact List.dropWhile_cons_of_neg (by simp [h c rfl])

theorem trimEnd_eq_self (h : ∀ c, cs.getLast? = some c → isBlank c = false) : trimEnd cs = cs := by
  have hreverse : trimStart cs.reverse = cs.reverse := trimStart_eq_self (by simpa using h)
  rw [trimEnd, ← trimStart, hreverse, List.reverse_reverse]

/-- What is left at the end does not begin with a blank. -/
theorem head?_trimStart {c : Char} (h : (trimStart cs).head? = some c) : isBlank c = false := by
  have hhead := List.head?_dropWhile_not isBlank cs
  rw [trimStart] at h
  simpa [h] using hhead

/-! ## Both ends -/

/-- A text without the blanks at its ends is trimmed. -/
theorem trimmed_trimEnd_trimStart (cs : List Char) : Trimmed (trimEnd (trimStart cs)) := by
  constructor
  · intro c hc
    -- the characters that are taken away at the end leave the first one where it is
    obtain ⟨rest, hrest⟩ : trimEnd (trimStart cs) <+: trimStart cs := List.rdropWhile_prefix _ _
    have hhead : (trimStart cs).head? = some c := by
      rw [← hrest, List.head?_append, hc, Option.some_or]
    exact head?_trimStart hhead
  · intro c hc
    rw [trimEnd, List.getLast?_reverse] at hc
    exact head?_trimStart hc

/-- A text that is trimmed is what is left when blanks are put at its ends. -/
theorem trimEnd_trimStart_append {before after : List Char}
    (hbefore : ∀ c ∈ before, isBlank c = true) (hafter : ∀ c ∈ after, isBlank c = true)
    (h : Trimmed cs) : trimEnd (trimStart (before ++ cs ++ after)) = cs := by
  rw [List.append_assoc, trimStart_append hbefore]
  cases cs with
  | nil =>
    have hnil : trimStart after = [] := List.dropWhile_eq_nil_iff.mpr hafter
    rw [List.nil_append, hnil]
    rfl
  | cons c rest =>
    have hstart : trimStart (c :: rest ++ after) = c :: rest ++ after := trimStart_eq_self h.1
    rw [hstart, trimEnd_append hafter, trimEnd_eq_self h.2]

/-- **Trimming takes away the blanks at the ends of a text and nothing else.** -/
theorem trims_iff {text trimmed : String} : Trims text trimmed ↔ trimmed = trim text := by
  constructor
  · rintro ⟨before, after, rfl, hbefore, hafter, htrimmed⟩
    apply String.toList_inj.mp
    rw [trim, String.toList_ofList, String.toList_append, String.toList_append,
      trimEnd_trimStart_append hbefore hafter htrimmed]
  · rintro rfl
    have hstart : text.toList.takeWhile isBlank ++ trimStart text.toList = text.toList :=
      List.takeWhile_append_dropWhile
    have hend : trimEnd (trimStart text.toList) ++ (trimStart text.toList).rtakeWhile isBlank
        = trimStart text.toList := List.rdropWhile_append_rtakeWhile
    refine ⟨.ofList (text.toList.takeWhile isBlank),
      .ofList ((trimStart text.toList).rtakeWhile isBlank), ?_, ?_, ?_, ?_⟩
    · apply String.toList_inj.mp
      simp only [trim, String.toList_append, String.toList_ofList, List.append_assoc, hend, hstart]
    · rw [String.toList_ofList]
      exact fun c hc => List.mem_takeWhile_imp hc
    · rw [String.toList_ofList]
      exact fun c hc => List.mem_rtakeWhile_imp hc
    · rw [trim, String.toList_ofList]
      exact trimmed_trimEnd_trimStart _

/-! ## Blanks put at the ends -/

/-- Whether a text is another one with blanks at its ends, or with none. -/
def Pads (padded text : String) : Prop :=
  ∃ before after, padded = before ++ text ++ after ∧
    (∀ c ∈ before.toList, isBlank c = true) ∧ ∀ c ∈ after.toList, isBlank c = true

theorem pads_self (text : String) : Pads text text :=
  ⟨"", "", by simp, by simp, by simp⟩

/-- Blanks at the ends do not change what is left without them. -/
theorem Pads.trims {padded text trimmed : String} (h : Pads padded text) (ht : Trims text trimmed) :
    Trims padded trimmed := by
  obtain ⟨before, after, rfl, hbefore, hafter⟩ := h
  obtain ⟨start, stop, rfl, hstart, hstop, htrimmed⟩ := ht
  refine ⟨before ++ start, stop ++ after, ?_, ?_, ?_, htrimmed⟩
  · simp only [String.append_assoc]
  · intro c hc
    rw [String.toList_append, List.mem_append] at hc
    exact hc.elim (hbefore c) (hstart c)
  · intro c hc
    rw [String.toList_append, List.mem_append] at hc
    exact hc.elim (hstop c) (hafter c)

/-! ## Texts without blanks -/

/-- A text without blanks is left as it is. -/
theorem trims_self {text : String} (h : ∀ c ∈ text.toList, isBlank c = false) :
    Trims text text := by
  refine ⟨"", "", by simp, by simp, by simp, ?_, ?_⟩
  · intro c hc
    exact h c (List.mem_of_mem_head? hc)
  · intro c hc
    exact h c (List.mem_of_getLast? hc)

/-- No code point is in two lists of ranges that lie apart. -/
theorem inRanges_eq_false_of_apart {code : Nat} {ranges others : List CodeRange}
    (hapart : ∀ range ∈ ranges, ∀ other ∈ others, range.2 < other.1 ∨ other.2 < range.1)
    (h : inRanges code ranges = true) : inRanges code others = false := by
  rw [inRanges, List.any_eq_true] at h
  obtain ⟨range, hrange, hcode⟩ := h
  rw [inRanges, List.any_eq_false]
  intro other hother
  have hsides := hapart range hrange other hother
  simp only [Bool.and_eq_true, decide_eq_true_eq] at hcode ⊢
  omega

/-- Digits are no blanks. -/
theorem isBlank_of_isDigit {c : Char} (h : isDigit c = true) : isBlank c = false := by
  have hapart : ∀ range ∈ digitRanges, ∀ other ∈ blankRanges,
      range.2 < other.1 ∨ other.2 < range.1 := by decide
  rw [isDigit] at h
  exact inRanges_eq_false_of_apart hapart h

end Courier.Text

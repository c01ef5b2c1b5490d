import Courier.Template.Placeholder
import Mathlib.Data.List.TakeWhile

/-!
# Texts with a placeholder

A placeholder occurs in a text if its characters stand somewhere in it. Scanning finds one in every
text in which one occurs, and in no other: `Placeholder.first?_isSome_iff`. It may find another one,
since two occurrences can overlap; only that there is one is the same.
-/

namespace Courier

namespace Segment

/-! ## Placeholders at the front -/

variable {name cs rest : List Char}

/-- What is read behind two opening braces is a name and the two closing braces behind it. -/
theorem tokenBody?_eq_some_iff :
    tokenBody? cs = some name
      ↔ name ≠ [] ∧ '\x7d' ∉ name ∧ ∃ rest, cs = name ++ '\x7d' :: '\x7d' :: rest := by
  constructor
  · intro h
    rw [tokenBody?] at h
    split at h
    · rename_i tail htail
      split at h
      · cases h
      · rename_i hne
        cases h
        refine ⟨hne, fun hmem => ?_, tail, ?_⟩
        · simpa [inName] using List.mem_takeWhile_imp hmem
        · rw [← htail, List.takeWhile_append_dropWhile]
    · cases h
  · rintro ⟨hne, hfree, rest, rfl⟩
    have hname : ∀ c ∈ name, inName c = true := fun c hc =>
      decide_eq_true (ne_of_mem_of_not_mem hc hfree)
    -- a name has no brace, so it ends where the first one stands
    have htake : (name ++ '\x7d' :: '\x7d' :: rest).takeWhile inName = name := by
      rw [List.takeWhile_append_of_pos hname]
      simp [inName]
    have hdrop : (name ++ '\x7d' :: '\x7d' :: rest).dropWhile inName
        = '\x7d' :: '\x7d' :: rest := by
      rw [List.dropWhile_append_of_pos hname]
      simp [inName]
    rw [tokenBody?, htake, hdrop]
    exact if_neg hne

/-- A placeholder is read at the front of a text exactly if its characters stand there. -/
theorem tokenAt?_eq_some_iff :
    tokenAt? cs = some name
      ↔ name ≠ [] ∧ '\x7d' ∉ name ∧ ∃ rest, cs = render (.token name) ++ rest := by
  have hrender (rest : List Char) : render (.token name) ++ rest
      = '\x7b' :: '\x7b' :: (name ++ '\x7d' :: '\x7d' :: rest) := by
    simp [render]
  simp only [hrender]
  constructor
  · intro h
    rw [tokenAt?.eq_def] at h
    split at h
    · rename_i body
      obtain ⟨hne, hfree, rest, rfl⟩ := tokenBody?_eq_some_iff.mp h
      exact ⟨hne, hfree, rest, rfl⟩
    · cases h
  · rintro ⟨hne, hfree, rest, rfl⟩
    exact tokenBody?_eq_some_iff.mpr ⟨hne, hfree, rest, rfl⟩

/-! ## Placeholders anywhere -/

/-- A placeholder among the segments stands at the front of some end of the text. -/
theorem exists_suffix_of_mem_splitAfter {pending : Nat} (h : .token name ∈ splitAfter pending cs) :
    ∃ tail, tail <:+ cs ∧ tokenAt? tail = some name := by
  fun_induction splitAfter pending cs with
  | case1 => cases h
  | case2 pending c rest ih =>
    obtain ⟨tail, htail, htoken⟩ := ih h
    exact ⟨tail, htail.trans (List.suffix_cons c rest), htoken⟩
  | case3 c rest found hfound ih =>
    rcases List.mem_cons.mp h with hhead | hrest
    · cases hhead
      exact ⟨c :: rest, List.suffix_rfl, hfound⟩
    · obtain ⟨tail, htail, htoken⟩ := ih hrest
      exact ⟨tail, htail.trans (List.suffix_cons c rest), htoken⟩
  | case4 c rest hnone ih =>
    rcases List.mem_cons.mp h with hhead | hrest
    · cases hhead
    · obtain ⟨tail, htail, htoken⟩ := ih hrest
      exact ⟨tail, htail.trans (List.suffix_cons c rest), htoken⟩

/-- If a placeholder stands at the front of some end of a text, there is one among the segments. -/
theorem exists_token_mem_split_of_suffix {tail : List Char} (hsuffix : tail <:+ cs)
    (htoken : tokenAt? tail = some name) : ∃ found, .token found ∈ split cs := by
  induction cs with
  | nil =>
    rw [List.suffix_nil.mp hsuffix] at htoken
    cases htoken
  | cons c rest ih =>
    cases hfront : tokenAt? (c :: rest) with
    | some found => exact ⟨found, by simp [split, splitAfter, hfront]⟩
    | none =>
      -- no placeholder begins here, so the one that is given lies in what is scanned next
      rcases List.suffix_cons_iff.mp hsuffix with rfl | hrest
      · rw [hfront] at htoken
        cases htoken
      · obtain ⟨found, hmem⟩ := ih hrest
        exact ⟨found, by simpa [split, splitAfter, hfront] using hmem⟩

end Segment

namespace Placeholder

/-- Whether a placeholder stands somewhere in a text. -/
def Occurs (text : String) : Prop :=
  ∃ before p after, text = before ++ raw p ++ after ∧ p.name ≠ "" ∧ '\x7d' ∉ p.name.toList

/-- The characters of a placeholder. -/
theorem toList_raw (p : Placeholder) : p.raw.toList = Segment.render (.token p.name.toList) := by
  simp [raw, Segment.render, String.toList_append]

/-- A placeholder occurs in a text exactly if one stands at the front of some end of it. -/
theorem occurs_iff_suffix {text : String} :
    Occurs text ↔ ∃ tail name, tail <:+ text.toList ∧ Segment.tokenAt? tail = some name := by
  constructor
  · rintro ⟨before, p, after, rfl, hne, hfree⟩
    refine ⟨p.raw.toList ++ after.toList, p.name.toList, ?_, ?_⟩
    · exact ⟨before.toList, by simp [String.toList_append]⟩
    · refine Segment.tokenAt?_eq_some_iff.mpr ⟨?_, hfree, after.toList, by rw [toList_raw]⟩
      simpa using hne
  · rintro ⟨tail, name, ⟨before, hbefore⟩, htoken⟩
    obtain ⟨hne, hfree, after, rfl⟩ := Segment.tokenAt?_eq_some_iff.mp htoken
    have htext : text = .ofList before ++ raw ⟨.ofList name⟩ ++ .ofList after := by
      apply String.toList_inj.mp
      rw [String.toList_append, String.toList_append, toList_raw, ← hbefore]
      simp
    exact ⟨.ofList before, ⟨.ofList name⟩, .ofList after, htext, by simpa using hne,
      by simpa using hfree⟩

/-- Scanning finds a placeholder exactly if one occurs. -/
theorem scan_ne_nil_iff {text : String} : scan text ≠ [] ↔ Occurs text := by
  rw [occurs_iff_suffix]
  constructor
  · intro h
    obtain ⟨p, hp⟩ := List.exists_mem_of_ne_nil _ h
    obtain ⟨segment, hsegment, hp⟩ := List.mem_filterMap.mp hp
    cases segment with
    | plain c => cases hp
    | token name =>
      obtain ⟨tail, htail, htoken⟩ := Segment.exists_suffix_of_mem_splitAfter hsegment
      exact ⟨tail, name, htail, htoken⟩
  · rintro ⟨tail, name, htail, htoken⟩
    obtain ⟨found, hmem⟩ := Segment.exists_token_mem_split_of_suffix htail htoken
    exact List.ne_nil_of_mem (List.mem_filterMap.mpr ⟨_, hmem, rfl⟩)

/-- A text has a first placeholder exactly if one occurs in it. -/
theorem first?_isSome_iff {text : String} : (first? text).isSome ↔ Occurs text := by
  rw [← scan_ne_nil_iff, first?, List.isSome_head?]

/-- A text has distinct placeholders exactly if one occurs in it. -/
theorem all_ne_nil_iff {text : String} : all text ≠ [] ↔ Occurs text := by
  rw [← first?_isSome_iff, ← head?_all, List.isSome_head?]

end Placeholder

end Courier

import Courier.Template.SlotKey

/-!
# Slot ids name slot keys

`SlotKey.id_injective`: different keys have different ids, whatever characters the names hold. The
texts in front of the names tell the kinds of keys apart. An index is a run of digits and the
character behind it is none, so it ends at the same place in both of two equal ids.
-/

namespace Courier

/-! ## Indices -/

/-- The number of digits in front of two equal texts is the same, if both go on with a character
that is no digit. -/
theorem append_inj_of_all_digits {xs ys as bs : List Char} {a b : Char}
    (hxs : ∀ c ∈ xs, c.isDigit) (hys : ∀ c ∈ ys, c.isDigit)
    (ha : a.isDigit = false) (hb : b.isDigit = false)
    (h : xs ++ a :: as = ys ++ b :: bs) : xs = ys ∧ a :: as = b :: bs := by
  induction xs generalizing ys with
  | nil =>
    cases ys with
    | nil => exact ⟨rfl, h⟩
    | cons y ys =>
      obtain ⟨rfl, -⟩ := List.cons.inj h
      rw [hys a List.mem_cons_self] at ha
      cases ha
  | cons x xs ih =>
    cases ys with
    | nil =>
      obtain ⟨rfl, -⟩ := List.cons.inj h
      rw [hxs x List.mem_cons_self] at hb
      cases hb
    | cons y ys =>
      obtain ⟨rfl, htail⟩ := List.cons.inj h
      obtain ⟨rfl, hrest⟩ := ih (fun c hc => hxs c (List.mem_cons_of_mem _ hc))
        (fun c hc => hys c (List.mem_cons_of_mem _ hc)) htail
      exact ⟨rfl, hrest⟩

/-- Different indices are written differently. -/
theorem index_inj {i j : Nat} (h : Nat.toDigits 10 i = Nat.toDigits 10 j) : i = j := by
  have hvalue := congrArg (fun digits => Nat.ofDigitChars 10 digits 0) h
  simpa using hvalue

/-- An index and what comes behind it can be read off, as long as that starts with no digit. -/
theorem index_append_inj {i j : Nat} {as bs : List Char} {a b : Char}
    (ha : a.isDigit = false) (hb : b.isDigit = false)
    (h : Nat.toDigits 10 i ++ a :: as = Nat.toDigits 10 j ++ b :: bs) :
    i = j ∧ a :: as = b :: bs := by
  have hdigits (n : Nat) : ∀ c ∈ Nat.toDigits 10 n, c.isDigit := fun c hc =>
    Nat.isDigit_of_mem_toDigits (by decide) (by decide) hc
  obtain ⟨hij, hrest⟩ := append_inj_of_all_digits (hdigits i) (hdigits j) ha hb h
  exact ⟨index_inj hij, hrest⟩

/-! ## Ids -/

/-- Keys with equal ids are equal. -/
@[simp] theorem SlotKey.id_inj {a b : SlotKey} : a.id = b.id ↔ a = b := by
  refine ⟨fun h => ?_, congrArg SlotKey.id⟩
  have hchars := congrArg String.toList h
  -- ids of different kinds differ in the text in front, unless both are ids of buttons
  cases a <;> cases b <;> simp [SlotKey.id, String.toList_append] at hchars ⊢
  case body.body | header.header => exact String.toList_inj.mp hchars
  case flowToken.flowToken | flowActionData.flowActionData => exact index_inj hchars
  case buttonParam.buttonParam =>
    obtain ⟨hindex, hrest⟩ := index_append_inj rfl rfl hchars
    exact ⟨hindex, String.toList_inj.mp (by simpa using hrest)⟩
  all_goals
    obtain ⟨-, hrest⟩ := index_append_inj rfl rfl hchars
    simp at hrest

/-- **A slot id determines its key**, whatever characters the names hold: no name can be chosen so
that the value of one key is taken for another. -/
theorem SlotKey.id_injective : Function.Injective SlotKey.id :=
  fun _ _ h => SlotKey.id_inj.mp h

end Courier

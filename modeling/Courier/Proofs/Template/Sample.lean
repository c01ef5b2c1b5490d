import Courier.Proofs.Template.Keys
import Courier.Proofs.Template.Position
import Courier.Proofs.Text.Digit

/-!
# Samples of body slots

A body can have a sample for each of its numbered placeholders: rows of texts, which are counted
through from 1. A slot that is offered for a placeholder of a body has the sample of the first body
that mentions the placeholder, if the name of the placeholder is a number that has one there, and
its label ends in the sample (`Template.bodySample_exact`).

The number is read from the digits, and the index of the sample is one less. Each step of that can
be done in words of 64 bits and gives nothing where its exact result is no word; the samples that
are found so are the same (`Body.wordSample?_eq`).
-/

namespace Courier

/-! ## Words of 64 bits -/

namespace Text

/-- The product of two words, if it is a word. -/
def mulWord? (a b : UInt64) : Option UInt64 :=
  if a.toNat * b.toNat < twoTo 64 then some (a * b) else none

/-- The sum of two words, if it is a word. -/
def addWord? (a b : UInt64) : Option UInt64 :=
  if a.toNat + b.toNat < twoTo 64 then some (a + b) else none

/-- The difference of two words, if it is a word. -/
def subWord? (a b : UInt64) : Option UInt64 :=
  if b ≤ a then some (a - b) else none

/-- The word with one more digit behind its digits. -/
def pushDigit? (total : UInt64) (c : Char) : Option UInt64 := do
  let shifted ← mulWord? total 10
  addWord? shifted (UInt64.ofNat (digitValue c))

/-- The word that digits denote, read one after the other. -/
def wordValue? (cs : List Char) : Option UInt64 :=
  cs.foldlM pushDigit? 0

variable {a b w : UInt64} {cs : List Char}

theorem mulWord?_eq_some_iff : mulWord? a b = some w ↔ a.toNat * b.toNat = w.toNat := by
  rw [mulWord?]
  constructor
  · intro h
    split at h
    · rename_i hlt
      obtain rfl := Option.some.inj h
      rw [UInt64.toNat_mul]
      exact (Nat.mod_eq_of_lt hlt).symm
    · cases h
  · intro h
    have hlt : a.toNat * b.toNat < twoTo 64 := h ▸ w.toNat_lt
    rw [if_pos hlt, Option.some_inj, ← UInt64.toNat_inj, UInt64.toNat_mul, ← h]
    exact Nat.mod_eq_of_lt hlt

theorem addWord?_eq_some_iff : addWord? a b = some w ↔ a.toNat + b.toNat = w.toNat := by
  rw [addWord?]
  constructor
  · intro h
    split at h
    · rename_i hlt
      obtain rfl := Option.some.inj h
      rw [UInt64.toNat_add]
      exact (Nat.mod_eq_of_lt hlt).symm
    · cases h
  · intro h
    have hlt : a.toNat + b.toNat < twoTo 64 := h ▸ w.toNat_lt
    rw [if_pos hlt, Option.some_inj, ← UInt64.toNat_inj, UInt64.toNat_add, ← h]
    exact Nat.mod_eq_of_lt hlt

theorem subWord?_eq_some_iff : subWord? a b = some w ↔ a.toNat = w.toNat + b.toNat := by
  rw [subWord?]
  constructor
  · intro h
    split at h
    · rename_i hle
      obtain rfl := Option.some.inj h
      rw [UInt64.toNat_sub_of_le _ _ hle]
      have hnat := UInt64.le_iff_toNat_le.mp hle
      omega
    · cases h
  · intro h
    have hle : b ≤ a := UInt64.le_iff_toNat_le.mpr (by omega)
    rw [if_pos hle, Option.some_inj, ← UInt64.toNat_inj, UInt64.toNat_sub_of_le _ _ hle]
    omega

theorem pushDigit?_eq_some_iff {c : Char} (hc : isAsciiDigit c = true) :
    pushDigit? a c = some w ↔ 10 * a.toNat + digitValue c = w.toNat := by
  have hdigit : (UInt64.ofNat (digitValue c)).toNat = digitValue c := by
    have hlt := digitValue_lt hc
    exact Nat.mod_eq_of_lt (by omega)
  have hten : (10 : UInt64).toNat = 10 := rfl
  rw [pushDigit?, Option.bind_eq_bind, Option.bind_eq_some_iff]
  simp only [mulWord?_eq_some_iff, addWord?_eq_some_iff, hdigit, hten]
  constructor
  · rintro ⟨shifted, hshifted, hsum⟩
    omega
  · intro h
    -- what is a word with the digit behind it is a word without
    have hlt : 10 * a.toNat < twoTo 64 := by
      have hword : w.toNat < twoTo 64 := w.toNat_lt
      omega
    have hshifted : (UInt64.ofNat (10 * a.toNat)).toNat = 10 * a.toNat := Nat.mod_eq_of_lt hlt
    exact ⟨UInt64.ofNat (10 * a.toNat), by omega, by omega⟩

/-- **Digits are read in words as they are in all numbers**, and to nothing exactly if what they
denote is no word. -/
theorem wordValue?_eq_some_iff (h : ∀ c ∈ cs, isAsciiDigit c = true) :
    wordValue? cs = some w ↔ digitsValue cs = w.toNat := by
  induction cs using List.reverseRecOn generalizing w with
  | nil =>
    rw [wordValue?, List.foldlM_nil, Option.pure_def, Option.some_inj, ← UInt64.toNat_inj]
    rfl
  | append_singleton cs c ih =>
    have hcs : ∀ d ∈ cs, isAsciiDigit d = true := fun d hd => h d (List.mem_append_left _ hd)
    have hc : isAsciiDigit c = true := h c (by simp)
    have hstep : wordValue? (cs ++ [c]) = (wordValue? cs).bind (pushDigit? · c) := by
      rw [wordValue?, List.foldlM_append]
      simp [wordValue?]
    rw [hstep, Option.bind_eq_some_iff, digitsValue_concat]
    simp only [ih hcs, pushDigit?_eq_some_iff hc]
    constructor
    · rintro ⟨total, htotal, hsum⟩
      omega
    · intro hsum
      -- what is a word with the last digit is a word without
      have hlt : digitsValue cs < twoTo 64 := by
        have hword : w.toNat < twoTo 64 := w.toNat_lt
        omega
      have htotal : (UInt64.ofNat (digitsValue cs)).toNat = digitsValue cs := Nat.mod_eq_of_lt hlt
      exact ⟨UInt64.ofNat (digitsValue cs), htotal.symm, by omega⟩

end Text

/-! ## Samples by number -/

namespace Body

variable {body : Body} {name sample : String}

/-- Whether the text of a body has a placeholder with a name. -/
def Mentions (body : Body) (name : String) : Prop :=
  ∃ text, body.text = some text ∧ ⟨name⟩ ∈ Placeholder.scan text

/-- Whether a body has a sample for a name: the name is a positive number of 64 bits in ASCII
digits, and in all rows one after the other the text with this number, counted from 1, is there and
not empty. -/
structure HasSample (body : Body) (name sample : String) : Prop where
  digits : ∀ c ∈ name.toList, Text.isAsciiDigit c = true
  positive : 1 ≤ Text.digitsValue name.toList
  fits : Text.digitsValue name.toList < twoTo 64
  there : ∃ samples, body.samples = some samples ∧
    samples.rows.flatten[Text.digitsValue name.toList - 1]? = some sample
  nonempty : sample ≠ ""

/-- The sample of a name, with number and index in words of 64 bits. -/
def wordSample? (body : Body) (name : String) : Option String := do
  let samples ← body.samples
  let position ← Text.wordValue? name.toList
  let index ← Text.subWord? position 1
  samples.rows.flatten[index.toNat]?.filter (· ≠ "")

/-- The sample with a number is there exactly if the number is positive and the text at the index
before it is there and not empty. -/
theorem sampleAt?_eq_some_iff {position : Nat} :
    body.sampleAt? position = some sample ↔ 1 ≤ position ∧ (∃ samples,
      body.samples = some samples ∧ samples.rows.flatten[position - 1]? = some sample) ∧
      sample ≠ "" := by
  cases position with
  | zero => simp [sampleAt?]
  | succ index =>
    rw [sampleAt?.eq_def]
    cases body.samples with
    | none => simp
    | some samples => simp [Option.filter_eq_some_iff]

/-- A number is read from a name exactly if the name is a number of 64 bits in ASCII digits. -/
theorem position?_eq_some_iff {position : Nat} :
    (Placeholder.mk name).position? = some position ↔
      name ≠ "" ∧ (∀ c ∈ name.toList, Text.isAsciiDigit c = true) ∧
        Text.digitsValue name.toList < twoTo 64 ∧ Text.digitsValue name.toList = position := by
  rw [Placeholder.position?, Option.ite_none_right_eq_some, Option.some_inj]
  simp only [Placeholder.isPositional, Text.isAllDigits, List.all_eq_true]
  tauto

/-- What is found for a placeholder is the sample of its name. -/
theorem sample_eq_some_iff :
    (Placeholder.mk name).position?.bind body.sampleAt? = some sample ↔
      body.HasSample name sample := by
  rw [Option.bind_eq_some_iff]
  simp only [position?_eq_some_iff, sampleAt?_eq_some_iff]
  constructor
  · rintro ⟨_, ⟨-, hdigits, hfits, rfl⟩, hpositive, hthere, hnonempty⟩
    exact ⟨hdigits, hpositive, hfits, hthere, hnonempty⟩
  · rintro ⟨hdigits, hpositive, hfits, hthere, hnonempty⟩
    have hname : name ≠ "" := by
      rintro rfl
      exact absurd hpositive (by decide)
    exact ⟨_, ⟨hname, hdigits, hfits, rfl⟩, hpositive, hthere, hnonempty⟩

/-- **Words of 64 bits are enough**: no step of the way from digits to a sample goes beyond them
without being noticed. -/
theorem wordSample?_eq (hdigits : ∀ c ∈ name.toList, Text.isAsciiDigit c = true) :
    body.wordSample? name = (Placeholder.mk name).position?.bind body.sampleAt? := by
  apply Option.ext
  intro sample
  have hone : (1 : UInt64).toNat = 1 := rfl
  rw [sample_eq_some_iff]
  simp only [wordSample?, Option.bind_eq_bind, Option.bind_eq_some_iff,
    Text.wordValue?_eq_some_iff hdigits, Text.subWord?_eq_some_iff, hone,
    Option.filter_eq_some_iff, decide_eq_true_eq]
  constructor
  · rintro ⟨samples, hsamples, position, hposition, index, hindex, hthere, hnonempty⟩
    have hfits : position.toNat < twoTo 64 := position.toNat_lt
    have hlast : Text.digitsValue name.toList - 1 = index.toNat := by omega
    exact ⟨hdigits, by omega, by omega, ⟨samples, hsamples, hlast ▸ hthere⟩, hnonempty⟩
  · rintro ⟨-, hpositive, hfits, ⟨samples, hsamples, hthere⟩, hnonempty⟩
    have hword (n : Nat) (hn : n < twoTo 64) : (UInt64.ofNat n).toNat = n := Nat.mod_eq_of_lt hn
    have hposition := hword _ hfits
    have hindex := hword (Text.digitsValue name.toList - 1) (by omega)
    refine ⟨samples, hsamples, _, hposition.symm, _, ?_, hindex ▸ hthere, hnonempty⟩
    rw [hposition, hindex]
    omega

end Body

/-! ## Slots of bodies -/

/-- Only a body offers the key of a placeholder of a body. -/
theorem Piece.exists_body_of_mem_offered {piece : Piece} {name : String}
    (h : SlotKey.body name ∈ piece.offered) : ∃ body, piece = .body body := by
  cases piece with
  | body body => exact ⟨body, rfl⟩
  | header header =>
    cases header with
    | text | location | product | unknown => simp [offered] at h
    | media format samples =>
      rw [offered] at h
      split at h <;> simp at h
  | button index button => cases button <;> simp [offered, Button.offered, Button.flowKeys] at h

namespace Body

variable {body : Body} {name : String} {slot : Slot}

theorem id_slot (body : Body) (p : Placeholder) : (body.slot p).id = (SlotKey.body p.name).id := by
  rw [Body.slot]
  split <;> rfl

/-- A body mentions a name exactly if it offers a slot for the placeholder. -/
theorem mentions_iff : body.Mentions name ↔ ⟨name⟩ ∈ Placeholder.all (body.text.getD "") := by
  rw [Placeholder.mem_all, Mentions]
  cases body.text with
  | none =>
    have hempty : Placeholder.scan "" = [] := rfl
    simp [hempty]
  | some text => simp

/-- What a body offers under the id of a name is the slot of the placeholder, if it mentions the
name. -/
theorem find?_slots_eq_some_iff :
    body.slots.find? (·.id = (SlotKey.body name).id) = some slot ↔
      body.Mentions name ∧ slot = body.slot ⟨name⟩ := by
  have hsame (p : Placeholder) : (body.slot p).id = (SlotKey.body name).id ↔ p = ⟨name⟩ := by
    rw [id_slot, SlotKey.id_inj, SlotKey.body.injEq]
    exact ⟨fun h => congrArg Placeholder.mk h, fun h => congrArg Placeholder.name h⟩
  have hfind : (fun s : Slot => decide (s.id = (SlotKey.body name).id)) ∘ body.slot
      = fun p => decide (p = ⟨name⟩) := by
    funext p
    exact decide_eq_decide.mpr (hsame p)
  rw [slots, List.find?_map, hfind, Option.map_eq_some_iff, mentions_iff]
  constructor
  · rintro ⟨p, hp, rfl⟩
    obtain rfl : p = ⟨name⟩ := by simpa using List.find?_some hp
    exact ⟨List.mem_of_find?_eq_some hp, rfl⟩
  · rintro ⟨hmem, rfl⟩
    refine ⟨⟨name⟩, ?_, rfl⟩
    cases hp : (Placeholder.all (body.text.getD "")).find? (fun p => decide (p = ⟨name⟩)) with
    | none => exact absurd (decide_eq_true rfl) (List.find?_eq_none.mp hp _ hmem)
    | some p => exact congrArg some (by simpa using List.find?_some hp)

theorem sample_slot (body : Body) (p : Placeholder) :
    (body.slot p).sample = p.position?.bind body.sampleAt? := by
  rw [Body.slot]
  cases p.position?.bind body.sampleAt? <;> rfl

/-- The label of a slot ends in its sample. -/
theorem label_slot {body : Body} {p : Placeholder} {sample : String}
    (h : (body.slot p).sample = some sample) :
    (body.slot p).label = "Body Variable " ++ p.raw ++ ". Example: " ++ sample := by
  rw [sample_slot] at h
  rw [Body.slot, h]
  rfl

/-- The label of a slot without a sample names the placeholder alone. -/
theorem label_slot_of_none {body : Body} {p : Placeholder} (h : (body.slot p).sample = none) :
    (body.slot p).label = "Body Variable " ++ p.raw := by
  rw [sample_slot] at h
  rw [Body.slot, h]
  rfl

end Body

/-- Under the id of a name a component offers something only if it is a body, and then what the body
offers. -/
theorem Component.find?_slots_eq_some_iff {component : Component} {name : String} {slot : Slot} :
    component.slots.find? (·.id = (SlotKey.body name).id) = some slot ↔
      ∃ body, component = .body body ∧ body.Mentions name ∧ slot = body.slot ⟨name⟩ := by
  constructor
  · intro h
    have hid : slot.id = (SlotKey.body name).id := by simpa using List.find?_some h
    obtain ⟨piece, hpiece, hslot⟩ := List.mem_flatMap.mp
      (component.slots_eq_pieces ▸ List.mem_of_find?_eq_some h)
    -- the id of the slot is that of a key that the piece offers
    have hoffered : SlotKey.body name ∈ piece.offered := by
      have hmem := List.mem_map_of_mem (f := Slot.id) hslot
      rw [piece.map_id_slots, hid] at hmem
      obtain ⟨key, hkey, heq⟩ := List.mem_map.mp hmem
      exact SlotKey.id_inj.mp heq ▸ hkey
    obtain ⟨body, rfl⟩ := Piece.exists_body_of_mem_offered hoffered
    obtain rfl : component = .body body := by
      cases component <;> simp_all [pieces]
    exact ⟨body, rfl, Body.find?_slots_eq_some_iff.mp h⟩
  · rintro ⟨body, rfl, h⟩
    exact Body.find?_slots_eq_some_iff.mpr h

namespace Template

/-- **The sample of a body slot** is that of the first body with its placeholder. The slot has a
sample exactly if the name of the placeholder is a positive number of 64 bits in ASCII digits and
the rows of that body have a text with this number that is not empty; the sample is this text, and
the label ends in it. No step from the digits of a name to the text leaves the numbers of 64 bits:
with each step in words, and nothing where the result is no word, the samples are the same. -/
theorem bodySample_exact {template : Template} {name : String} {slot : Slot}
    (hslot : slot ∈ template.slots) (hid : slot.id = (SlotKey.body name).id) :
    ∃ before body after, template.components = before ++ .body body :: after ∧
      body.Mentions name ∧ (∀ other, .body other ∈ before → ¬ other.Mentions name) ∧
      (∀ sample, slot.sample = some sample ↔ body.HasSample name sample) ∧
      (∀ sample, slot.sample = some sample →
        slot.label = "Body Variable " ++ (Placeholder.mk name).raw ++ ". Example: " ++ sample) ∧
      (slot.sample = none → slot.label = "Body Variable " ++ (Placeholder.mk name).raw) ∧
      ((∀ c ∈ name.toList, Text.isAsciiDigit c = true) → slot.sample = body.wordSample? name) := by
  -- the slot is the first with its id, so it is offered by the first component that offers the id
  have hfirst := mem_distinctBy.mp hslot
  rw [hid, List.find?_flatMap] at hfirst
  obtain ⟨before, component, after, hsplit, hfound, hnone⟩ :=
    List.findSome?_eq_some_iff.mp hfirst
  obtain ⟨body, rfl, hmentions, rfl⟩ := Component.find?_slots_eq_some_iff.mp hfound
  refine ⟨before, body, after, hsplit, hmentions, fun other hother hmention => ?_,
    fun sample => ?_, fun _ => Body.label_slot, Body.label_slot_of_none, fun hdigits => ?_⟩
  · have hoffers := Component.find?_slots_eq_some_iff.mpr ⟨other, rfl, hmention, rfl⟩
    rw [hnone _ hother] at hoffers
    cases hoffers
  · rw [body.sample_slot, Body.sample_eq_some_iff]
  · rw [body.sample_slot, Body.wordSample?_eq hdigits]

/-- A template with a number in two of its bodies, written with a zero in front. -/
def invoice : Template :=
  let text := "No. \x7b\x7b03\x7d\x7d of \x7b\x7b0\x7d\x7d"
  { (default : Template) with
    components := [
      .body ⟨some "Dear \x7b\x7bname\x7d\x7d", none, some ⟨[["Ann", "Bob", "Cem"]], []⟩⟩,
      .body ⟨some text, none, some ⟨[["a"], [], ["b", "c"]], []⟩⟩,
      .body ⟨some text, none, some ⟨[["d", "e", "f"]], []⟩⟩] }

/-- The slot of the number. -/
def invoiceSlot : Slot :=
  ⟨"body_param_03", "Body Variable {{03}}. Example: c", true, some "c", true⟩

/-- The slot of the number has the third text of the rows in the first body that mentions it. -/
theorem invoice_bodySample :
    invoiceSlot ∈ invoice.slots ∧ invoiceSlot.id = (SlotKey.body "03").id ∧
      ∃ before body after, invoice.components = before ++ .body body :: after ∧
        body.Mentions "03" ∧ (∀ other, .body other ∈ before → ¬ other.Mentions "03") ∧
        body.HasSample "03" "c" ∧ body.wordSample? "03" = some "c" := by
  have hslot : invoiceSlot ∈ invoice.slots := by decide
  have hid : invoiceSlot.id = (SlotKey.body "03").id := rfl
  have hdigits : ∀ c ∈ "03".toList, Text.isAsciiDigit c = true := List.all_eq_true.mp rfl
  obtain ⟨before, body, after, hsplit, hmentions, hbefore, hsample, -, -, hword⟩ :=
    bodySample_exact hslot hid
  exact ⟨hslot, hid, before, body, after, hsplit, hmentions, hbefore, (hsample "c").mp rfl,
    (hword hdigits).symm⟩

end Template

end Courier

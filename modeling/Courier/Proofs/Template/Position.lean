import Courier.Proofs.Template.TextPart
import Mathlib.Data.List.Range

/-!
# Numbered placeholders

A numbered placeholder is sent without a name, so the receiver knows its parameter by the position
alone. Parameters stand in the order in which the placeholders occur first, which need not be the
order of the numbers: the parameters of a text whose placeholders are those from 1 to k stand at
their positions exactly if the numbers occur first in ascending order (`Template.positions_iff`). A
text that mentions the second before the first has their parameters in this order too
(`Template.textNotice_swapped`).
-/

namespace Courier

namespace Placeholder

/-- The placeholder with a number. -/
def numbered (n : Nat) : Placeholder := ⟨Nat.repr n⟩

/-- Whether the placeholders of a text are those with the numbers from 1 to k. -/
def NumberedTo (k : Nat) (text : String) : Prop :=
  ∀ p, p ∈ scan text ↔ ∃ n, 1 ≤ n ∧ n ≤ k ∧ p = numbered n

/-- Whether the placeholders with the numbers from 1 to k occur first in ascending order. -/
def Ascending (k : Nat) (text : String) : Prop :=
  ∀ m n, 1 ≤ m → m < n → n ≤ k →
    (scan text).findIdx (·.name = (numbered m).name)
      < (scan text).findIdx (·.name = (numbered n).name)

/-! ## The placeholders up to a number -/

/-- The placeholders with the numbers from 1 to k, in order. -/
def numbers (k : Nat) : List Placeholder :=
  (List.range k).map fun i => numbered (i + 1)

variable {k n : Nat} {p q : Placeholder} {text : String}

theorem numbered_injective : Function.Injective numbered := by
  intro m n h
  have hchars := congrArg (String.toList ∘ Placeholder.name) h
  exact index_inj (by simpa [numbered, Nat.repr] using hchars)

theorem mem_numbers : p ∈ numbers k ↔ ∃ n, 1 ≤ n ∧ n ≤ k ∧ p = numbered n := by
  rw [numbers, List.mem_map]
  constructor
  · rintro ⟨i, hi, rfl⟩
    exact ⟨i + 1, by omega, List.mem_range.mp hi, rfl⟩
  · rintro ⟨n, hpos, hle, rfl⟩
    exact ⟨n - 1, List.mem_range.mpr (by omega), by rw [Nat.sub_add_cancel hpos]⟩

/-- A text is numbered to k if it has the placeholders with these numbers and no others. -/
theorem numberedTo_iff :
    NumberedTo k text ↔ (∀ p ∈ scan text, p ∈ numbers k) ∧ ∀ p ∈ numbers k, p ∈ scan text := by
  simp only [NumberedTo, ← mem_numbers]
  exact ⟨fun h => ⟨fun p => (h p).mp, fun p => (h p).mpr⟩, fun h p => ⟨h.1 p, h.2 p⟩⟩

theorem getElem?_numbers (hpos : 1 ≤ n) (hle : n ≤ k) :
    (numbers k)[n - 1]? = some (numbered n) := by
  rw [numbers, List.getElem?_map, List.getElem?_range (by omega), Option.map_some,
    Nat.sub_add_cancel hpos]

theorem length_numbers (k : Nat) : (numbers k).length = k := by
  rw [numbers, List.length_map, List.length_range]

theorem nodup_numbers (k : Nat) : (numbers k).Nodup :=
  List.nodup_range.map fun _ _ h => Nat.succ.inj (numbered_injective h)

/-- The placeholders up to a number are ordered as soon as their numbers order them. -/
theorem pairwise_numbers_iff {R : Placeholder → Placeholder → Prop} :
    (numbers k).Pairwise R ↔ ∀ m n, 1 ≤ m → m < n → n ≤ k → R (numbered m) (numbered n) := by
  rw [numbers, List.pairwise_map]
  constructor
  · intro h m n hpos hlt hle
    have hm : m - 1 < (List.range k).length := by rw [List.length_range]; omega
    have hn : n - 1 < (List.range k).length := by rw [List.length_range]; omega
    have hR := List.pairwise_iff_getElem.mp h (m - 1) (n - 1) hm hn (by omega)
    rwa [List.getElem_range, List.getElem_range, Nat.sub_add_cancel hpos,
      Nat.sub_add_cancel (by omega)] at hR
  · intro h
    refine List.pairwise_lt_range.imp_of_mem fun {i j} _ hj hij => ?_
    exact h _ _ (by omega) (by omega) (List.mem_range.mp hj)

/-! ## Order -/

/-- A placeholder is its name, so the distinct placeholders of a text are all of them. -/
theorem mem_all : p ∈ all text ↔ p ∈ scan text := by
  have hname (items : List Placeholder) : (∃ q ∈ items, q.name = p.name) ↔ p ∈ items := by
    constructor
    · rintro ⟨q, hq, hname⟩
      rwa [show p = q from congrArg Placeholder.mk hname.symm]
    · intro hp
      exact ⟨p, hp, rfl⟩
  rw [← hname, ← hname, all, exists_mem_distinctBy]

/-- The distinct placeholders of a text that is numbered to k are in the order of their numbers
exactly if they occur first in that order. -/
theorem all_eq_numbers_iff (h : NumberedTo k text) : all text = numbers k ↔ Ascending k text := by
  rw [eq_comm, all, ← firstOccurrences_iff]
  constructor
  · intro hfirst
    exact pairwise_numbers_iff.mp hfirst.ordered
  · intro hascending
    refine ⟨fun p hp => ?_, pairwise_numbers_iff.mpr hascending, fun p hp => ?_⟩
    · exact mem_distinctBy.mp (mem_all.mpr ((h p).mpr (mem_numbers.mp hp)))
    · exact ⟨p, mem_numbers.mpr ((h p).mp hp), rfl⟩

/-- A text that is numbered to k has k distinct placeholders. -/
theorem length_all (h : NumberedTo k text) : (all text).length = k := by
  have hnodup : (all text).Nodup :=
    (firstOccurrences_distinctBy Placeholder.name (scan text)).nodup.of_map
  have hperm : (all text).Perm (numbers k) :=
    (List.perm_ext_iff_of_nodup hnodup (nodup_numbers k)).mpr fun p => by
      rw [mem_all, h p, mem_numbers]
  rw [hperm.length_eq, length_numbers]

/-- The distinct placeholders of a text that is numbered to k are in the order of their numbers
exactly if each of them has its number as its position. -/
theorem forall_getElem?_all_iff (h : NumberedTo k text) :
    (∀ n, 1 ≤ n → n ≤ k → (all text)[n - 1]? = some (numbered n)) ↔ Ascending k text := by
  rw [← all_eq_numbers_iff h]
  constructor
  · intro hplace
    refine List.ext_getElem? fun i => ?_
    by_cases hi : i < k
    · have hnumbers := getElem?_numbers (Nat.le_add_left 1 i) hi
      exact (hplace (i + 1) (Nat.le_add_left 1 i) hi).trans hnumbers.symm
    · have hall : (all text).length ≤ i := by rw [length_all h]; omega
      have hnumbers : (numbers k).length ≤ i := by rw [length_numbers]; omega
      rw [List.getElem?_eq_none hall, List.getElem?_eq_none hnumbers]
  · intro hall n hpos hle
    rw [hall, getElem?_numbers hpos hle]

theorem raw_injective : Function.Injective raw := by
  intro p q h
  have hchars := congrArg String.toList h
  rw [toList_raw, toList_raw] at hchars
  exact congrArg Placeholder.mk (String.toList_inj.mp (by simpa [Segment.render] using hchars))

/-- Without variables a placeholder is sent as it stands in the text, so it can be told from its
parameter. -/
theorem eq_of_sentAs_parameter {key : String → SlotKey}
    (h : q.SentAs .empty (key q.name) (p.parameter .empty key)) : p = q := by
  obtain ⟨⟨hget, -⟩ | ⟨-, hraw⟩, -⟩ := h
  · cases hget
  · exact raw_injective hraw

end Placeholder

/-! ## Parameters -/

/-- Whether the parameter at the position of a number is what the placeholder with that number is
sent as. -/
def CompiledComponent.InPlace (component : CompiledComponent) (values : Variables) (part : TextPart)
    (n : Nat) : Prop :=
  ∃ parameter, component.parameters[n - 1]? = some parameter ∧
    (Placeholder.numbered n).SentAs values (part.key (Placeholder.numbered n).name) parameter

/-- The parameters of a text are in place for a number, whatever the variables, exactly if the
placeholder with that number is at its position among the distinct ones. -/
theorem TextPart.forall_inPlace_iff {part : TextPart} {text : String} {n : Nat} :
    (∀ values, (CompiledComponent.mk part.kind none none
        (part.parameters values text)).InPlace values part n)
      ↔ (Placeholder.all text)[n - 1]? = some (Placeholder.numbered n) := by
  simp only [CompiledComponent.InPlace, TextPart.parameters, List.getElem?_map,
    Option.map_eq_some_iff]
  constructor
  · intro h
    obtain ⟨_, ⟨p, hp, rfl⟩, hsent⟩ := h .empty
    rw [hp, Placeholder.eq_of_sentAs_parameter hsent]
  · intro h values
    exact ⟨_, ⟨_, h, rfl⟩, Placeholder.sentAs_parameter values part.key _⟩

/-! ## Payloads -/

namespace Template

/-- **When numbered parameters are in place.** At the place of a component with a text whose
placeholders are numbered to k, a payload has one component. Its parameters are those of the
placeholders in the order in which these occur first, whatever the variables; so the one for a
number is in place exactly if that placeholder is at its position in this order, and all of them are
exactly if the numbers occur first in ascending order. -/
theorem positions_iff (template : Template) (front back : List Component) {component : Component}
    {part : TextPart} {text : String} {k : Nat}
    (hcomponents : template.components = front ++ component :: back)
    (htext : component.HasText part text) (hpos : 1 ≤ k) (hnumbered : Placeholder.NumberedTo k text)
    (sender recipient : String) :
    ∃ (own : Variables → CompiledComponent) (ps : List Placeholder),
      (∀ values,
        let compiled (components : List Component) :=
          ((template.withComponents components).compileWithReport
            sender recipient values).payload.template.components
        (template.compileWithReport sender recipient values).payload.template.components
          = compiled front ++ own values :: compiled back) ∧
      FirstOccurrences Placeholder.name (Placeholder.scan text) ps ∧
      (∀ values, List.Forall₂ (fun p => p.SentAs values (part.key p.name)) ps
        (own values).parameters) ∧
      (∀ n, (∀ values, (own values).InPlace values part n) ↔
        ps[n - 1]? = some (Placeholder.numbered n)) ∧
      ((∀ n, 1 ≤ n → n ≤ k → ∀ values, (own values).InPlace values part n) ↔
        Placeholder.Ascending k text) := by
  have hscan : Placeholder.scan text ≠ [] :=
    List.ne_nil_of_mem ((hnumbered _).mpr ⟨1, Nat.le_refl 1, hpos, rfl⟩)
  -- neither the component nor the order of its parameters depends on the variables
  refine ⟨fun values => ⟨part.kind, none, none, part.parameters values text⟩, Placeholder.all text,
    fun values => ?_, firstOccurrences_distinctBy .., fun values => ?_, fun n => ?_, ?_⟩
  · have hparts := template.components_fragment_of_eq_append hcomponents values
    rw [TextPart.fragment_eq_ofText htext, TextPart.components_ofText hscan, List.append_assoc]
      at hparts
    exact hparts
  · exact part.forall₂_parameters values text
  · exact TextPart.forall_inPlace_iff
  · simp only [TextPart.forall_inPlace_iff]
    exact Placeholder.forall_getElem?_all_iff hnumbered

/-- A notice that is a text only. -/
def textNotice (text : String) : Template :=
  { (default : Template) with components := [.body ⟨some text, none, none⟩] }

/-- A text with its numbers in ascending order, one of them twice, has its parameters in place. -/
theorem textNotice_inPlace :
    let text := "\x7b\x7b1\x7d\x7d, your parcel \x7b\x7b2\x7d\x7d is here. Bye \x7b\x7b1\x7d\x7d!"
    Placeholder.NumberedTo 2 text ∧ ∃ own : Variables → CompiledComponent,
      (∀ values,
        ((textNotice text).compileWithReport "a" "b" values).payload.template.components
          = [own values]) ∧
      ∀ n, 1 ≤ n → n ≤ 2 → ∀ values, (own values).InPlace values .body n := by
  intro text
  have hnumbered : Placeholder.NumberedTo 2 text := Placeholder.numberedTo_iff.mpr (by decide)
  have hascending : Placeholder.Ascending 2 text :=
    (Placeholder.all_eq_numbers_iff hnumbered).mp (by decide)
  obtain ⟨own, -, hpayload, -, -, -, hplace⟩ := (textNotice text).positions_iff [] [] rfl
    (.body rfl) (by decide) hnumbered "a" "b"
  exact ⟨hnumbered, own, hpayload, hplace.mpr hascending⟩

/-- A text that mentions the second placeholder first is sent with the value of the second first. -/
theorem textNotice_swapped :
    let text := "Code \x7b\x7b2\x7d\x7d for \x7b\x7b1\x7d\x7d"
    let values : Variables := ⟨[("body_param_1", "A"), ("body_param_2", "B")]⟩
    let own : CompiledComponent := ⟨.body, none, none, [.text "B" none, .text "A" none]⟩
    Placeholder.NumberedTo 2 text ∧
      ((textNotice text).compileWithReport "a" "b" values).payload.template.components = [own] ∧
      ¬own.InPlace values .body 1 ∧ ¬own.InPlace values .body 2 := by
  intro text values own
  refine ⟨Placeholder.numberedTo_iff.mpr (by decide), by decide, ?_, ?_⟩
  all_goals
    rintro ⟨parameter, hparameter, hsent⟩
    cases hparameter
    obtain ⟨⟨hget, -⟩ | ⟨hget | hget, -⟩, -⟩ := hsent
    all_goals exact absurd hget (by decide)

end Template

end Courier

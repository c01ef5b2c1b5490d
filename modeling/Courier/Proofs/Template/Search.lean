import Courier.Proofs.Distinct
import Courier.Proofs.Template.Keys
import Courier.Proofs.Template.Span

/-!
# Searching for placeholders

A text can be searched one placeholder at a time: `Segment.next?` goes on to the next placeholder,
stops there and hands back the characters behind it. Two searches are made of that step. One goes on
to the end and keeps a placeholder unless one of those it kept has its name
(`Placeholder.collect`); the other ends with the first step.

Each step gives the head of the placeholders that a scan finds, and leaves a text with the others
(`Segment.placeholders_eq`). So the first search goes through what is scanned, and it comes to the
same whether a placeholder is compared with those that were kept or with all that came before it
(`withoutRepeats_eq_distinctBy`). Slots are offered for what the first search finds, and a button
sends what the second one finds; `Placeholder.searches_agree` says that this is the first of the
placeholders that would be offered for the same text.
-/

namespace Courier

/-! ## One step -/

namespace Segment

/-- The next placeholder of a text and the characters behind it. The first of its four braces is the
character in front of the rest. -/
def next? : List Char → Option (Placeholder × List Char)
  | [] => none
  | c :: rest =>
    match tokenAt? (c :: rest) with
    | some name => some (⟨String.ofList name⟩, rest.drop (name.length + 3))
    | none => next? rest

/-- The placeholders that a scan finds among characters. -/
def placeholders (cs : List Char) : List Placeholder :=
  (split cs).filterMap placeholder?

variable {cs rest : List Char} {p : Placeholder}

/-- A step leaves fewer characters. -/
theorem length_lt_of_next? (h : next? cs = some (p, rest)) : rest.length < cs.length := by
  fun_induction next? cs with
  | case1 => cases h
  | case2 c tail name hname =>
    cases h
    rw [List.length_drop, List.length_cons]
    omega
  | case3 c tail hnone ih => exact Nat.lt_succ_of_lt (ih h)

/-- A step gives the first of the placeholders and leaves the others. -/
theorem placeholders_eq (cs : List Char) :
    placeholders cs = match next? cs with
      | some (p, rest) => p :: placeholders rest
      | none => [] := by
  fun_induction next? cs with
  | case1 => rfl
  | case2 c tail name hname =>
    rw [placeholders, split, splitAfter, hname]
    dsimp only
    rw [splitAfter_eq]
    rfl
  | case3 c tail hnone ih =>
    rw [← ih, placeholders, split, splitAfter, hnone]
    rfl

end Segment

/-! ## Two searches -/

namespace Placeholder

open Segment (next? placeholders placeholders_eq length_lt_of_next?)

/-- The search to the end of a text. A placeholder is kept unless one of those that were kept before
has its name. -/
def collect (kept : List Placeholder) (cs : List Char) : List Placeholder :=
  match _ : next? cs with
  | none => kept
  | some (p, rest) => collect (keepNew name kept p) rest
termination_by cs.length
decreasing_by exact length_lt_of_next? ‹_›

/-- The search to the end goes through the placeholders that are scanned. -/
theorem collect_eq_foldl (kept : List Placeholder) (cs : List Char) :
    collect kept cs = (placeholders cs).foldl (keepNew name) kept := by
  fun_induction collect kept cs with
  | case1 kept cs hnone => rw [placeholders_eq, hnone, List.foldl_nil]
  | case2 kept cs p rest hsome ih =>
    rw [ih, placeholders_eq cs, hsome, List.foldl_cons]

/-- The search to the end finds the distinct placeholders. -/
theorem collect_eq_all (text : String) : collect [] text.toList = all text := by
  rw [collect_eq_foldl, foldl_keepNew_nil]
  rfl

/-- The search that ends with the first step finds the first placeholder. -/
theorem map_fst_next? (text : String) : (next? text.toList).map Prod.fst = first? text := by
  have hhead : first? text = (placeholders text.toList).head? := rfl
  rw [hhead, placeholders_eq]
  cases next? text.toList with
  | none => rfl
  | some found => rfl

end Placeholder

/-! ## Buttons -/

namespace Button

/-- Whether a button sends a placeholder of a text, in a component of a kind. -/
inductive SendsFrom : Button → ButtonKind → String → Prop where
  /-- The text of a page button is its address. -/
  | url (b : UrlButton) : SendsFrom (.url b) .url b.url
  /-- That of a button for a code is its label, or its address if there is no label. -/
  | copyCode (b : CopyCodeButton) :
      SendsFrom (.copyCode b) .copyCode
        (if b.text.getD "" = "" then b.url.getD "" else b.text.getD "")

/-- What a button gives when placeholders are listed for its text: nothing if there are none, and
otherwise one parameter, for the first of them. The slot of that placeholder has the value; if it is
missing or empty, a fixed text is sent and reported. -/
inductive Gives (values : Variables) (index : Nat) (b : Button) (kind : ButtonKind) :
    List Placeholder → Fragment → Prop where
  | nothing : Gives values index b kind [] ⟨[], []⟩
  | value {p : Placeholder} {ps : List Placeholder} {text : String}
      (hget : values.get? (b.slot index p).id = some text) (hne : text ≠ "") :
      Gives values index b kind (p :: ps)
        ⟨[⟨.button, some kind, some index, [.text text p.parameterName?]⟩], []⟩
  | default {p : Placeholder} {ps : List Placeholder}
      (hlacks : values.get? (b.slot index p).id = none ∨
        values.get? (b.slot index p).id = some "") :
      Gives values index b kind (p :: ps)
        ⟨[⟨.button, some kind, some index, [.text "123456" p.parameterName?]⟩],
          [⟨(b.slot index p).id, .buttonPlaceholder⟩]⟩

variable {b : Button} {kind : ButtonKind} {text : String}

/-- A button with a text gives the first placeholder of that text. -/
theorem SendsFrom.fragment_eq_ofButton (h : b.SendsFrom kind text) (values : Variables)
    (index : Nat) : b.fragment values index = .ofButton values kind index text := by
  cases h with
  | url b => rfl
  | copyCode b => rw [fragment, firstNonEmpty_pair]

/-- A button with a text offers placeholders only. -/
theorem SendsFrom.slots_eq (h : b.SendsFrom kind text) (index : Nat) :
    b.slots index = (Placeholder.all b.slotText).map (b.slot index) := by
  cases h <;> exact List.append_nil _

/-- The first placeholder of a text is given, which is the head of the distinct ones. -/
theorem gives_ofButton (values : Variables) (index : Nat) (b : Button) (kind : ButtonKind)
    (text : String) :
    b.Gives values index kind (Placeholder.all text) (.ofButton values kind index text) := by
  rw [Fragment.ofButton, ← Placeholder.head?_all]
  cases Placeholder.all text with
  | nil => exact .nothing
  | cons p ps =>
    simp only [List.head?_cons, Variables.fallback?]
    cases hslot : values.slot? (.buttonParam index p.name) with
    | some value =>
      obtain ⟨hget, hne⟩ := Variables.slot?_eq_some_iff.mp hslot
      exact .value hget hne
    | none => exact .default (Variables.slot?_eq_none_iff.mp hslot)

end Button

/-! ## Payloads -/

/-- What pieces give, one after the other. -/
def Fragment.ofPieces (values : Variables) (pieces : List (Place × Piece)) : Fragment :=
  .join (pieces.map fun piece => piece.2.fragment values)

/-- Pieces can be cut anywhere. -/
theorem Fragment.ofPieces_append (values : Variables) (front back : List (Place × Piece)) :
    ofPieces values (front ++ back) = ofPieces values front ++ ofPieces values back := by
  rw [ofPieces, List.map_append]
  exact Fragment.ext List.flatMap_append List.flatMap_append

/-- A template gives what the pieces before one of them give, then what this one gives, and then
what those behind it give. -/
theorem Template.fragment_of_pieces_eq_append {template : Template} {place : Place} {piece : Piece}
    {front back : List (Place × Piece)}
    (h : template.pieces = front ++ (place, piece) :: back) (values : Variables) :
    template.fragment values
      = .ofPieces values front ++ (piece.fragment values ++ .ofPieces values back) := by
  have hpieces : template.fragment values = .ofPieces values template.pieces :=
    template.fragment_eq_pieces values
  rw [hpieces, h, Fragment.ofPieces_append]
  rfl

namespace Placeholder

/-- **The two searches agree with the scan.** The search to the end of a text lists what is scanned,
without what has the name of something scanned before. The list is in the order of the text, its
names are distinct, and every scanned name is there. The search that ends with the first step finds
the head of the list, and nothing exactly if the list is empty. A button that sends a placeholder
offers the list of the text in which its slots are looked for. It sends the head of the list of the
text from which it sends: where it stands in a template, the payload and the report have what it
gives for the slot of that placeholder, and nothing else of this button. -/
theorem searches_agree (text : String) :
    (collect [] text.toList = all text ∧
      (Segment.next? text.toList).map Prod.fst = first? text) ∧
    (all text = withoutRepeats name (scan text) ∧ (all text).Sublist (scan text) ∧
      ((all text).map name).Nodup ∧ ∀ p ∈ scan text, p.name ∈ (all text).map name) ∧
    (first? text = (all text).head? ∧ (first? text = none ↔ all text = [])) ∧
    ∀ (b : Button) (kind : ButtonKind), b.SendsFrom kind text →
      (∀ index, b.slots index = (all b.slotText).map (b.slot index)) ∧
      ∀ (template : Template) (front : List (Place × Piece)) (place : Place) (index : Nat)
        (back : List (Place × Piece)),
        template.pieces = front ++ (place, .button index b) :: back →
          ∀ sender recipient values, ∃ own, b.Gives values index kind (all text) own ∧
            let compilation := template.compileWithReport sender recipient values
            let before : Fragment := .ofPieces values front
            let behind : Fragment := .ofPieces values back
            compilation.payload.template.components
                = before.components ++ own.components ++ behind.components ∧
              compilation.fallbacks
                = before.fallbacks ++ own.fallbacks ++ behind.fallbacks := by
  have hnames : ∀ p ∈ scan text, p.name ∈ (all text).map name := fun p hp =>
    List.mem_map.mpr (exists_mem_distinctBy.mpr ⟨p, hp, rfl⟩)
  refine ⟨⟨collect_eq_all text, map_fst_next? text⟩, ⟨?_, distinctBy_sublist,
    nodup_map_distinctBy, hnames⟩, ⟨(head?_all text).symm, ?_⟩, fun b kind hsends => ?_⟩
  · exact (withoutRepeats_eq_distinctBy _).symm
  · rw [← head?_all, List.head?_eq_none_iff]
  · refine ⟨hsends.slots_eq, ?_⟩
    intro template front place index back hpieces sender recipient values
    -- the fragment of the button stands between those of the pieces around it
    have hfragment := Template.fragment_of_pieces_eq_append hpieces values
    refine ⟨b.fragment values index, ?_, ?_, ?_⟩
    · rw [hsends.fragment_eq_ofButton]
      exact b.gives_ofButton values index kind text
    · rw [List.append_assoc]
      exact congrArg Fragment.components hfragment
    · rw [List.append_assoc]
      exact congrArg Fragment.fallbacks hfragment

end Placeholder

namespace Template

/-- A button with an address that repeats a placeholder. -/
def shopButton : UrlButton :=
  ⟨"Open", "https://\x7b\x7bshop\x7d\x7d/\x7b\x7b1\x7d\x7d?from=\x7b\x7bshop\x7d\x7d", []⟩

/-- A button with a label that repeats a placeholder, and without an address. -/
def codeButton : CopyCodeButton :=
  ⟨some "\x7b\x7b2\x7d\x7d, \x7b\x7bcode\x7d\x7d, \x7b\x7b2\x7d\x7d", none, none⟩

/-- A notice with a text and these two buttons. -/
def shopNotice : Template :=
  { (default : Template) with
    components := [
      .body ⟨some "New in \x7b\x7bshop\x7d\x7d", none, none⟩,
      .buttons [.url shopButton, .copyCode codeButton]] }

/-- The address has three placeholders. Two are listed and offered, and the first of these is sent,
as is the first of the label. -/
theorem shopNotice_sends_first :
    let values : Variables := ⟨[("button_0_param_shop", "s"), ("button_0_param_1", "7")]⟩
    (Button.url shopButton).SendsFrom .url shopButton.url ∧
      Placeholder.scan shopButton.url = [⟨"shop"⟩, ⟨"1"⟩, ⟨"shop"⟩] ∧
      Placeholder.collect [] shopButton.url.toList = [⟨"shop"⟩, ⟨"1"⟩] ∧
      ((Button.url shopButton).slots 0).map Slot.id = ["button_0_param_shop", "button_0_param_1"] ∧
      (shopNotice.compileWithReport "a" "b" values).payload.template.components
        = [⟨.body, none, none, [.text "\x7b\x7bshop\x7d\x7d" (some "shop")]⟩]
          ++ [⟨.button, some .url, some 0, [.text "s" (some "shop")]⟩]
          ++ [⟨.button, some .copyCode, some 1, [.text "123456" none]⟩] := by
  intro values
  obtain ⟨⟨hcollect, -⟩, -, -, hbuttons⟩ := Placeholder.searches_agree shopButton.url
  obtain ⟨hslots, hplaced⟩ := hbuttons (.url shopButton) .url (.url shopButton)
  have hall : Placeholder.all shopButton.url = [⟨"shop"⟩, ⟨"1"⟩] := by decide
  refine ⟨.url shopButton, by decide, hcollect.trans hall, ?_, ?_⟩
  · rw [hslots]
    decide
  · -- the first of the listed placeholders has a value, so it is this that is given
    obtain ⟨own, hgives, hcomponents, -⟩ := hplaced shopNotice (shopNotice.pieces.take 1) ⟨1, 0⟩ 0
      (shopNotice.pieces.drop 2) rfl "a" "b" values
    rw [hall] at hgives
    cases hgives with
    | value hget hne =>
      obtain rfl := Option.some.inj ((by decide : some "s" = _).trans hget)
      exact hcomponents
    | default hlacks => exact absurd hlacks (by decide)

end Template

end Courier

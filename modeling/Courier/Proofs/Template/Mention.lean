import Courier.Proofs.Distinct
import Courier.Proofs.Template.Keys

/-!
# Mentions of slots

A template mentions a slot wherever it asks for its value: at every placeholder of a text, in a
header with media, twice in a flow button. A slot can be mentioned several times, within a text and
in several of them. `Template.mentions` lists all mentions in document order, and the slots that are
offered are those of the first mentions (`Template.slots_exact`). So no slot is offered twice, none
that is mentioned is left out, and what is said about a slot is true of its first mention.
-/

namespace Courier

/-- A mention of a slot. -/
inductive Mention where
  /-- A placeholder of a body, which may have a sample for it. -/
  | body (body : Body) (p : Placeholder)
  /-- A placeholder of a header. -/
  | header (p : Placeholder)
  /-- A header with media. -/
  | media (format : MediaFormat)
  /-- A placeholder of a button. -/
  | parameter (index : Nat) (button : Button) (p : Placeholder)
  | flowToken (index : Nat)
  | flowActionData (index : Nat)

namespace Mention

/-- The key of the slot that is mentioned. -/
def key : Mention → SlotKey
  | .body _ p => .body p.name
  | .header p => .header p.name
  | .media _ => .headerMedia
  | .parameter index _ p => .buttonParam index p.name
  | .flowToken index => .flowToken index
  | .flowActionData index => .flowActionData index

/-- The id of the slot that is mentioned. -/
def id (m : Mention) : String := m.key.id

/-- Only a placeholder of a body can have a sample. -/
def sample : Mention → Option String
  | .body b p => p.position?.bind b.sampleAt?
  | _ => none

/-- A sample as it is told at the end of a label. -/
def sampleNote : Option String → String
  | some sample => ". Example: " ++ sample
  | none => ""

/-- What a person is told who fills in the slot; people count buttons from 1. -/
def label : Mention → String
  | .body b p => "Body Variable " ++ p.raw ++ sampleNote (p.position?.bind b.sampleAt?)
  | .header p => "Header Variable " ++ p.raw
  | .media format => "Header " ++ format.name ++ " URL"
  | .parameter index button p =>
    "Button " ++ Nat.repr (index + 1) ++ " Variable " ++ p.raw ++ ". Type: " ++ button.kindName
  | .flowToken index => "Button " ++ Nat.repr (index + 1) ++ " Flow Token"
  | .flowActionData index => "Button " ++ Nat.repr (index + 1) ++ " Flow Action Data (JSON)"

/-- The slots of flows may stay empty. -/
def required : Mention → Bool
  | .flowToken _ | .flowActionData _ => false
  | _ => true

/-- A mentioned slot as it is described by this mention. -/
def slot (m : Mention) : Slot :=
  ⟨m.id, m.label, m.required, m.sample, true⟩

/-- A slot is required unless it is one of the two slots of a flow. -/
theorem required_slot_iff (m : Mention) :
    m.slot.required = true ↔ ∀ index, m.slot.id ≠ (SlotKey.flowToken index).id ∧
      m.slot.id ≠ (SlotKey.flowActionData index).id := by
  simp only [slot, id, ne_eq, SlotKey.id_inj]
  cases m <;> simp [required, key]

end Mention

namespace Piece

/-- The mentions in a piece, repeated ones included. In a page button and in a button for a code
they are looked for in the address, unless it is empty or not there, and then in the text. -/
def mentions : Piece → List Mention
  | .body b => (Placeholder.scan (b.text.getD "")).map (.body b)
  | .header (.text h) => (Placeholder.scan h.text).map .header
  | .header (.media .image _) => [.media .image]
  | .header (.media .video _) => [.media .video]
  | .header (.media .document _) => [.media .document]
  | .header (.media .audio _) => []
  | .header .location | .header .product | .header .unknown => []
  | .button index (.url b) =>
    (Placeholder.scan (if b.url = "" then b.text else b.url)).map (.parameter index (.url b))
  | .button index (.copyCode b) =>
    (Placeholder.scan (if b.url.getD "" = "" then b.text.getD "" else b.url.getD "")).map
      (.parameter index (.copyCode b))
  | .button index (.flow _) => [.flowToken index, .flowActionData index]
  | .button _ (.phoneNumber _) | .button _ (.label _ _) | .button _ (.otp _)
  | .button _ .unknown => []

/-- The slots of the distinct placeholders of a text are those of all of them, of several with one
id the first. -/
theorem map_all_eq_distinctBy {slot : Placeholder → Slot} {key : String → SlotKey}
    (hkey : Function.Injective key) (hslot : ∀ p, (slot p).id = (key p.name).id) (text : String) :
    (Placeholder.all text).map slot
      = distinctBy Slot.id ((Placeholder.scan text).map slot) := by
  have hsame (p q : Placeholder) : p.name = q.name ↔ (slot p).id = (slot q).id := by
    rw [hslot, hslot, SlotKey.id_inj, hkey.eq_iff]
  rw [Placeholder.all, distinctBy_map, distinctBy_congr hsame]

/-- The slots of a piece are those of its mentions, of several with one id the first. -/
theorem slots_eq_mentions (piece : Piece) :
    piece.slots = distinctBy Slot.id (piece.mentions.map Mention.slot) := by
  cases piece with
  | body b =>
    -- the label of a slot in the body ends with its sample, if there is one
    have hslot (p : Placeholder) : b.slot p = (Mention.body b p).slot := by
      have hlabel : (Mention.body b p).label = "Body Variable " ++ p.raw
          ++ Mention.sampleNote (p.position?.bind b.sampleAt?) := rfl
      rw [Mention.slot, hlabel, Mention.sample, Body.slot]
      cases p.position?.bind b.sampleAt? with
      | none =>
        rw [Mention.sampleNote, String.append_empty]
        rfl
      | some sample =>
        rw [Mention.sampleNote, ← String.append_assoc]
        rfl
    rw [mentions, List.map_map, ← map_all_eq_distinctBy (fun _ _ => SlotKey.body.inj) fun _ => rfl]
    exact List.map_congr_left fun p _ => hslot p
  | header header =>
    cases header with
    | text h =>
      rw [mentions, List.map_map,
        ← map_all_eq_distinctBy (fun _ _ => SlotKey.header.inj) fun _ => rfl]
      rfl
    | media format samples => cases format <;> rfl
    | location | product | unknown => rfl
  | button index b =>
    have hparam : Function.Injective (SlotKey.buttonParam index) :=
      fun _ _ h => (SlotKey.buttonParam.inj h).2
    cases b with
    | url b =>
      rw [mentions, List.map_map, ← map_all_eq_distinctBy hparam fun _ => rfl]
      simp only [slots, Button.slots, List.append_nil, Button.slotText, firstNonEmpty_pair]
      rfl
    | copyCode b =>
      rw [mentions, List.map_map, ← map_all_eq_distinctBy hparam fun _ => rfl]
      simp only [slots, Button.slots, List.append_nil, Button.slotText, firstNonEmpty_pair]
      rfl
    | flow b =>
      -- the two slots of a flow are apart, so none of them is left out
      have hne : (SlotKey.flowToken index).id ≠ (SlotKey.flowActionData index).id := by
        rw [ne_eq, SlotKey.id_inj]
        exact SlotKey.noConfusion
      rw [distinctBy_eq_self]
      · rfl
      · exact List.nodup_cons.mpr ⟨fun h => hne (List.mem_singleton.mp h), List.nodup_singleton _⟩
    | phoneNumber | label | otp | unknown => rfl

end Piece

namespace Template

variable (template : Template)

/-- All mentions of slots in a template, in document order. -/
def mentions : List Mention :=
  template.pieces.flatMap fun piece => piece.2.mentions

/-- The slots of a template are those of its first mentions. -/
theorem slots_eq_mentions :
    template.slots = (distinctBy Mention.id template.mentions).map Mention.slot := by
  calc template.slots
    _ = distinctBy Slot.id (template.pieces.flatMap fun piece =>
          distinctBy Slot.id (piece.2.mentions.map Mention.slot)) := by
      rw [slots_eq_pieces]
      congr 1
      exact List.flatMap_congr fun piece _ => piece.2.slots_eq_mentions
    _ = distinctBy Slot.id (template.mentions.map Mention.slot) := by
      rw [distinctBy_flatMap, mentions, List.map_flatMap]
    _ = (distinctBy Mention.id template.mentions).map Mention.slot := distinctBy_map _ _

/-- **The slots of a template are its first mentions.** Their ids are distinct, and they are those
of the mentions, in the order of the first mention of each. The first mention gives label, sample
and flags, and exactly the slots of flows may stay empty. -/
theorem slots_exact :
    (template.slots.map Slot.id).Nodup ∧
    (∃ firsts, FirstOccurrences Mention.id template.mentions firsts ∧
      template.slots = firsts.map Mention.slot) ∧
    ∀ s ∈ template.slots, s.required = true ↔ ∀ index,
      s.id ≠ (SlotKey.flowToken index).id ∧ s.id ≠ (SlotKey.flowActionData index).id := by
  have hslots := template.slots_eq_mentions
  refine ⟨nodup_map_distinctBy, ⟨_, firstOccurrences_distinctBy .., hslots⟩, fun s hs => ?_⟩
  rw [hslots] at hs
  obtain ⟨m, -, rfl⟩ := List.mem_map.mp hs
  exact m.required_slot_iff

/-- The second placeholder of a name and the second header with media are not offered again. -/
example :
    let text := "Hi \x7b\x7bname\x7d\x7d, bye \x7b\x7bname\x7d\x7d"
    let components : List Component :=
      [.body ⟨some text, none, none⟩, .header (.media .image none),
        .header (.media .video none)]
    { (default : Template) with components := components }.slots
      = [⟨"body_param_name", "Body Variable \x7b\x7bname\x7d\x7d", true, none, true⟩,
        ⟨"header_media_url", "Header IMAGE URL", true, none, true⟩] := by decide

end Template

end Courier

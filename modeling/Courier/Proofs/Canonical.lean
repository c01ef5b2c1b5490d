import Courier.Catalog.Listing
import Courier.Proofs.Decode.Image
import Courier.Proofs.Template.Wire
import Courier.Session.Message
import Courier.Template.Slot

/-!
# One document for each value

A value is read from many documents: from objects and from arrays, with null for what is missing,
with members that are not known, with an object in place of a name. What is written for a value that
was read is one of these documents, so reading and writing again changes nothing
(`Decoder.Canonicalizes`).

Of most types every value is read from what is written for it. Of summaries and payloads these are
the values with numbers that have their bits and without flow data of null, and there are no others
that a decoder gives (`LoadSummary.fits_of_gives`, `Payload.sound_of_gives`).
-/

namespace Courier

open Decoder

/-- What is read, from a value or from a text, is read again from what is written for it; `kept`
says of which values this holds. -/
structure Decoder.Canonicalizes {α : Type} (d : Decoder α) (write : α → Json) (kept : α → Prop) :
    Prop where
  run : ∀ value a, d.run value = .ok a → d.run (write a) = .ok a
  parse : ∀ text a, d.parse text = .ok a → d.run (write a) = .ok a
  restored : ∀ a, d.run (write a) = .ok a ↔ kept a

namespace Decoder.Canonicalizes

variable {α : Type} {d : Decoder α} {write : α → Json} {kept : α → Prop}

/-- It is enough that only such values are given, and that all of these are restored. -/
theorem of_gives (hgives : ∀ a, d.Gives a → kept a)
    (hrestores : ∀ a, kept a → d.Restores (write a) a) : d.Canonicalizes write kept where
  run _ a hread := hrestores a (hgives a (gives_of_run hread)) .plain
  parse _ a hread := hrestores a (hgives a (gives_of_parse hread)) .plain
  restored a := ⟨fun h => hgives a (gives_of_run h), fun h => hrestores a h .plain⟩

theorem of_restores (h : ∀ a, d.Restores (write a) a) : d.Canonicalizes write fun _ => True :=
  of_gives (fun _ _ => trivial) fun a _ => h a

/-- Reading and writing is idempotent. -/
theorem idempotent (h : d.Canonicalizes write kept) {value document : Json}
    (hwritten : (d.run value).map write = .ok document) :
    (d.run document).map write = .ok document := by
  obtain ⟨a, hread, rfl⟩ := map_eq_ok_iff.mp hwritten
  exact map_eq_ok_iff.mpr ⟨a, h.run value a hread, rfl⟩

end Decoder.Canonicalizes

/-! ## Types with all values restored -/

theorem TextMessage.restores (message : TextMessage) :
    TextMessage.decoder.Restores message.toJson message := by
  refine Fields.restores_object (by decide) rfl ?_ _
  refine ((((Fields.finds_make _).string rfl).string rfl).string rfl).required rfl
    (b := (message.body, message.previewUrl)) ?_
  refine Fields.restores_object (by decide) rfl ?_ _
  exact ((Fields.finds_make _).string rfl).bool rfl

theorem ReadReceipt.restores (receipt : ReadReceipt) :
    ReadReceipt.decoder.Restores receipt.toJson receipt := by
  refine Fields.restores_object (by decide) rfl ?_ _
  refine ((((Fields.finds_make _).string rfl).string rfl).string rfl).optional rfl
    fun kind _ => Restores.optional ?_ nofun
  refine Fields.restores_object (by decide) rfl ?_ _
  exact (Fields.finds_make _).string rfl

theorem StatusUpdate.restores (update : StatusUpdate) :
    StatusUpdate.decoder.Restores update.toJson update := by
  refine Fields.restores_object (by decide) rfl ?_ _
  exact ((Fields.finds_make _).string rfl).required rfl update.receipt.restores

theorem Slot.restores (slot : Slot) : Slot.decoder.Restores slot.toJson slot := by
  refine Fields.restores_object (by decide) rfl ?_ _
  exact (((((Fields.finds_make _).string rfl).string rfl).bool rfl).nullable rfl fun s _ =>
    (restores_string s).optional nofun).bool rfl

theorem Fallback.restores (fallback : Fallback) :
    Fallback.decoder.Restores fallback.toJson fallback := by
  have hkind : FallbackKind.enumeration.decoder.Restores (.str fallback.kind.name) fallback.kind :=
    restores_enumeration (by cases fallback.kind <;> rfl)
  refine Fields.restores_object (by decide) rfl ?_ _
  exact ((Fields.finds_make _).string rfl).required rfl hkind

/-! ## Summaries -/

/-- The counts of a summary have their bits. -/
def LoadSummary.Fits (summary : LoadSummary) : Prop :=
  summary.loaded < twoTo 64 ∧ summary.skipped < twoTo 64

theorem LoadSummary.restores (summary : LoadSummary) (h : summary.Fits) :
    LoadSummary.decoder.Restores summary.toJson summary := by
  refine Fields.restores_object (by decide) rfl ?_ _
  exact ((Fields.finds_make _).required rfl (restores_natural h.1 _)).required rfl
    (restores_natural h.2 _)

/-- A summary that was read has counts with their bits. -/
theorem LoadSummary.fits_of_gives {summary : LoadSummary}
    (h : LoadSummary.decoder.Gives summary) : summary.Fits := by
  obtain ⟨_, skipped, ⟨_, loaded, rfl, hloaded, rfl⟩, hskipped, rfl⟩ := Fields.gives_of_decoder h
  exact ⟨(hloaded.resolve_right nofun).lt_of_natural, (hskipped.resolve_right nofun).lt_of_natural⟩

/-! ## Payloads -/

/-- The flow data of a parameter are a value, and not null. -/
def Parameter.Sound (p : Parameter) : Prop :=
  p.Sendable ∧ p.withoutNull = p

/-- A component can be sent, and nothing of it is lost. -/
def CompiledComponent.Sound (c : CompiledComponent) : Prop :=
  c.Sendable ∧ c.withoutNull = c

/-- A payload can be sent, and nothing of it is lost. -/
def Payload.Sound (payload : Payload) : Prop :=
  ∀ c ∈ payload.template.components, c.Sound

theorem Payload.restores_of_sound (payload : Payload) (h : payload.Sound) :
    Payload.decoder.Restores payload.toJson payload := by
  have hsame : payload.withoutNull = payload :=
    Payload.withoutNull_eq_iff.mpr fun c hc => CompiledComponent.withoutNull_eq_iff.mp (h c hc).2
  have hrestores := payload.restores fun c hc => (h c hc).1
  rwa [hsame] at hrestores

/-- Flow data that were read are not null. -/
theorem Parameter.sound_of_gives {p : Parameter} (h : Parameter.tagged.decoder.Gives p) :
    p.Sound := by
  refine Tagged.Every.of_gives ?_ h
  have hmedia {format : MediaFormat} {noun : String} : ∀ value p,
      Tagged.part id (mediaDecoder format noun) value = .ok p → p.Sound :=
    Tagged.forall_part fun p hp => by
      obtain ⟨_, link, rfl, -, rfl⟩ := Fields.gives_of_decoder hp
      exact ⟨trivial, rfl⟩
  -- one part for each type, in the order of the table
  refine ⟨⟨Tagged.forall_part fun p hp => ?_, hmedia, hmedia, hmedia, hmedia,
    Tagged.forall_part fun p hp => ?_⟩, trivial⟩
  · obtain ⟨_, name, ⟨_, text, rfl, -, rfl⟩, -, rfl⟩ := Fields.gives_of_decoder hp
    exact ⟨trivial, rfl⟩
  · obtain ⟨_, p, rfl, hp, rfl⟩ := Fields.gives_of_decoder hp
    obtain ⟨_, data, ⟨_, token, rfl, -, rfl⟩, hdata, rfl⟩ :=
      Fields.gives_of_optional (Fields.gives_of_decoder (hp.resolve_right nofun))
    refine ⟨fun value hvalue => (hdata value hvalue).of_optionalJson.1,
      Parameter.withoutNull_eq_iff.mpr fun token heq => ?_⟩
    cases heq
    exact (hdata .null rfl).of_optionalJson.2 rfl

theorem CompiledComponent.sound_of_gives {c : CompiledComponent}
    (h : CompiledComponent.decoder.Gives c) : c.Sound := by
  obtain ⟨_, parameters, hbefore, hparameters, rfl⟩ := Fields.gives_of_decoder h
  obtain ⟨_, index, ⟨_, buttonKind, ⟨_, kind, rfl, -, rfl⟩, -, rfl⟩, hindex, rfl⟩ :=
    Fields.gives_of_optional hbefore
  have hsound (p : Parameter) (hp : p ∈ parameters) : p.Sound :=
    Parameter.sound_of_gives ((hparameters.resolve_right nofun).of_list p hp)
  refine ⟨⟨fun i hi => (hindex i hi).of_optional.lt_of_natural, fun p hp => (hsound p hp).1⟩, ?_⟩
  exact CompiledComponent.withoutNull_eq_iff.mpr fun token hmem =>
    Parameter.withoutNull_eq_iff.mp (hsound _ hmem).2 token rfl

/-- Nothing is lost of a payload that was read. -/
theorem Payload.sound_of_gives {payload : Payload} (h : Payload.decoder.Gives payload) :
    payload.Sound := by
  obtain ⟨_, template, ⟨_, messageType, ⟨_, recipient, ⟨_, sender, rfl, -, rfl⟩, -, rfl⟩, -, rfl⟩,
    htemplate, rfl⟩ := Fields.gives_of_decoder h
  obtain ⟨_, components, ⟨_, language, ⟨_, name, rfl, -, rfl⟩, -, rfl⟩, hcomponents, rfl⟩ :=
    Fields.gives_of_decoder (htemplate.resolve_right nofun)
  exact fun c hc =>
    CompiledComponent.sound_of_gives ((hcomponents.resolve_right nofun).of_list c hc)

/-! ## All types -/

/-- **What was read is read again from its own document**, in whatever form it was first given. Of
five types this holds of all values, of summaries of those with counts that have their bits, and of
payloads of those that nothing is lost of. -/
theorem decoders_canonicalize :
    Payload.decoder.Canonicalizes Payload.toJson Payload.Sound ∧
    Slot.decoder.Canonicalizes Slot.toJson (fun _ => True) ∧
    Fallback.decoder.Canonicalizes Fallback.toJson (fun _ => True) ∧
    LoadSummary.decoder.Canonicalizes LoadSummary.toJson LoadSummary.Fits ∧
    TextMessage.decoder.Canonicalizes TextMessage.toJson (fun _ => True) ∧
    ReadReceipt.decoder.Canonicalizes ReadReceipt.toJson (fun _ => True) ∧
    StatusUpdate.decoder.Canonicalizes StatusUpdate.toJson (fun _ => True) := by
  have hpayload : Payload.decoder.Canonicalizes Payload.toJson Payload.Sound :=
    .of_gives (fun _ => Payload.sound_of_gives) Payload.restores_of_sound
  have hsummary : LoadSummary.decoder.Canonicalizes LoadSummary.toJson LoadSummary.Fits :=
    .of_gives (fun _ => LoadSummary.fits_of_gives) LoadSummary.restores
  exact ⟨hpayload, .of_restores Slot.restores, .of_restores Fallback.restores, hsummary,
    .of_restores TextMessage.restores, .of_restores ReadReceipt.restores,
    .of_restores StatusUpdate.restores⟩

-- arrays in place of objects, an object in place of a name, and null for a number and for flow data
example :
    ((Payload.decoder.run (.arr [.str "+1", .str "+2", .str "template", .arr [.str "order",
      .str "en", .arr [.arr [.obj [("button", .null)], .str "flow", .null,
        .arr [.arr [.str "action", .arr [.str "start", .null]]]]]]])).map Payload.toJson).toOption
      = some (.object [("from", some (.str "+1")), ("to", some (.str "+2")),
          ("type", some (.str "template")), ("template", some (.object
            [("name", some (.str "order")), ("lang_code", some (.str "en")),
              ("components", some (.arr [.object
                [("type", some (.str "button")), ("sub_type", some (.str "flow")),
                  ("parameters", some (.arr [.object [("type", some (.str "action")),
                    ("action", some (.object [("flow_token", some (.str "start"))]))]]))]]))]))]) :=
  by decide +kernel

end Courier

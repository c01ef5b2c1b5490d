import Courier.Proofs.Decode.Level
import Courier.Proofs.Decode.Order
import Courier.Proofs.Decode.Text
import Courier.Template.Slot

/-!
# Reading a template from a text or from a value

A template can be read straight from a text, or from the value of the text. The decoder of templates
agrees on both (`Template.agrees_decoder`) and does not depend on the order of members
(`Template.steady_decoder`), so a text without repeated keys gives the same template either way
(`Template.parse_eq_ok_iff`).

Components are decoded level by level. A value needs no more levels than it is deep
(`Component.decoderAt_ofJson`), so the decoder of components is one in which the components of
carousel cards are read by itself (`Component.decoder_ofJson`).
-/

namespace Courier

open Decoder

/-! ## Levels -/

namespace Component

/-- The cards of a carousel, around the decoder of their components. -/
def cardsDecoder (inner : Decoder Component) : Decoder (List (List Component)) :=
  (Fields.make id |>.defaulted "cards"
    (list ((Fields.make id |>.defaulted "components" (list inner) []).decoder
      "struct CarouselCard")) []).decoder "struct CarouselComponent"

theorem sameBelow_cardsDecoder {n : Nat} {inner inner' : Decoder Component}
    (h : inner.SameBelow n inner') :
    (cardsDecoder inner).SameBelow (n + 1) (cardsDecoder inner') := by
  have hcard := Fields.sameBelow_decoder h.list (Fields.make id) "components" (.defaulted [])
    "struct CarouselCard"
  have hcards := Fields.sameBelow_decoder hcard.list (Fields.make id) "cards" (.defaulted [])
    "struct CarouselComponent"
  exact hcards.mono (by omega)

/-- The decoder of components reads one level more than that of the components of cards. -/
theorem sameBelow_tagged {n : Nat} {inner inner' : Decoder Component}
    (h : inner.SameBelow n inner') :
    (tagged inner).decoder.SameBelow (n + 1) (tagged inner').decoder := by
  have hparts : (fun value => if value.depth < n + 1 then
        Tagged.part carousel (cardsDecoder inner) value else .error (.missingField "type"))
      = fun value => if value.depth < n + 1 then
        Tagged.part carousel (cardsDecoder inner') value else .error (.missingField "type") := by
    funext value
    split
    · rename_i hvalue
      exact congrArg (Except.map carousel) (sameBelow_cardsDecoder h _ _ hvalue)
    · rfl
  refine Tagged.sameBelow_of_below ?_
  simp only [cardsDecoder] at hparts
  simp only [Tagged.below, Tagged.mapParts, tagged, List.map_cons, hparts]

theorem sameBelow_decoderAt (m n : Nat) :
    (decoderAt m).SameBelow (min m n + 1) (decoderAt n) := by
  induction m generalizing n with
  | zero =>
    cases n with
    | zero => exact fun _ _ _ => rfl
    | succ n =>
      rw [Nat.zero_min]
      exact sameBelow_tagged fun _ _ h => absurd h (Nat.not_lt_zero _)
  | succ m ih =>
    cases n with
    | zero =>
      rw [Nat.min_zero]
      exact sameBelow_tagged fun _ _ h => absurd h (Nat.not_lt_zero _)
    | succ n =>
      rw [Nat.succ_min_succ]
      exact sameBelow_tagged (ih n)

/-- A component that is not deeper than the levels of a decoder is decoded by it. -/
theorem decoderAt_ofJson {n : Nat} {value : Json} (h : value.depth ≤ n) (context : Context) :
    (decoderAt n).ofJson context value = decoder.ofJson context value :=
  sameBelow_decoderAt n value.depth context value (by omega)

/-- **The components of cards are decoded by the decoder of components itself.** -/
theorem decoder_ofJson (context : Context) (value : Json) :
    decoder.ofJson context value = (tagged decoder).decode context value := by
  have hinner : (decoderAt value.depth).SameBelow (value.depth + 1) decoder :=
    fun context inner hinner => decoderAt_ofJson (Nat.le_of_lt_succ hinner) context
  rw [← decoderAt_ofJson (Nat.le_succ value.depth)]
  exact sameBelow_tagged hinner context value (by omega)

end Component

/-! ## Agreement -/

theorem Component.agrees_decoder : Component.decoder.Agrees := by
  intro room cs value rest h
  rw [← Component.decoderAt_ofJson (Scan.depth_le_of_run?_tree h)]
  cases room with
  | zero => exact Tagged.agrees _ h
  | succ room => exact Tagged.agrees _ h

/-- **A template is read from a text as it is from the tree of the text.** -/
theorem Template.agrees_decoder : Template.decoder.Agrees := by
  refine Fields.Every.agrees ?_ _
  exact ⟨⟨⟨⟨⟨⟨⟨⟨⟨trivial, agrees_string.optional⟩, agrees_string⟩, agrees_string⟩,
    Enumeration.agrees _⟩, Enumeration.agrees _⟩, (agrees_natural _ _).optional⟩,
    (Enumeration.agrees _).optional⟩, agrees_string.optional⟩, Component.agrees_decoder.list⟩

/-! ## Order -/

theorem TextHeader.steady_decoder : TextHeader.decoder.Steady := by
  refine Fields.Every.steady ?_ (by decide) _
  refine ⟨⟨trivial, steady_string⟩, Steady.optional ?_⟩
  refine Fields.Every.steady ?_ (by decide) _
  exact ⟨trivial, steady_string.list⟩

theorem Header.steady_mediaDecoder : Header.mediaDecoder.Steady := by
  refine Fields.Every.steady ?_ (by decide) _
  refine ⟨trivial, Steady.optional ?_⟩
  refine Fields.Every.steady ?_ (by decide) _
  exact ⟨trivial, steady_string.list⟩

theorem Header.steady_tagged : Header.tagged.decoder.Steady := by
  have hmedia {format : MediaFormat} :
      Courier.Steady (Tagged.part (Header.media format) Header.mediaDecoder) :=
    Tagged.steady_part Header.steady_mediaDecoder
  exact Tagged.Every.steady ⟨⟨Tagged.steady_part TextHeader.steady_decoder, hmedia, hmedia, hmedia,
    hmedia, Tagged.steady_bare _, Tagged.steady_bare _, Tagged.steady_bare _⟩,
    Tagged.steady_bare _⟩

theorem NamedSample.steady_decoder : NamedSample.decoder.Steady := by
  refine Fields.Every.steady ?_ (by decide) _
  exact ⟨⟨trivial, steady_string⟩, steady_string⟩

theorem BodySamples.steady_decoder : BodySamples.decoder.Steady := by
  refine Fields.Every.steady ?_ (by decide) _
  exact ⟨⟨trivial, steady_string.list.list⟩, NamedSample.steady_decoder.list⟩

theorem Body.steady_decoder : Body.decoder.Steady := by
  refine Fields.Every.steady ?_ (by decide) _
  exact ⟨⟨⟨trivial, steady_string.optional⟩, steady_bool.optional⟩,
    BodySamples.steady_decoder.optional⟩

theorem Footer.steady_decoder : Footer.decoder.Steady := by
  refine Fields.Every.steady ?_ (by decide) _
  exact ⟨⟨trivial, steady_string.optional⟩, (steady_natural _ _).optional⟩

theorem LimitedTimeOffer.steady_componentDecoder : LimitedTimeOffer.componentDecoder.Steady := by
  refine Fields.Every.steady ?_ (by decide) _
  refine ⟨trivial, Steady.optional ?_⟩
  refine Fields.Every.steady ?_ (by decide) _
  exact ⟨⟨trivial, steady_string⟩, steady_bool.optional⟩

theorem UrlButton.steady_decoder : UrlButton.decoder.Steady := by
  refine Fields.Every.steady ?_ (by decide) _
  exact ⟨⟨⟨trivial, steady_string⟩, steady_string⟩, steady_string.list⟩

theorem PhoneNumberButton.steady_decoder : PhoneNumberButton.decoder.Steady := by
  refine Fields.Every.steady ?_ (by decide) _
  exact ⟨⟨trivial, steady_string⟩, steady_string⟩

theorem LabelKind.steady_textDecoder : LabelKind.textDecoder.Steady := by
  refine Fields.Every.steady ?_ (by decide) _
  exact ⟨trivial, steady_string⟩

theorem CopyCodeButton.steady_decoder : CopyCodeButton.decoder.Steady := by
  refine Fields.Every.steady ?_ (by decide) _
  exact ⟨⟨⟨trivial, steady_string.optional⟩, steady_string.optional⟩, steady_json.optional⟩

theorem FlowId.steady_decoder : FlowId.decoder.Steady :=
  fun _ => steady_of_refusal (fun _ => rfl) fun _ => rfl

theorem FlowButton.steady_decoder : FlowButton.decoder.Steady := by
  refine Fields.Every.steady ?_ (by decide) _
  exact ⟨⟨⟨⟨trivial, steady_string⟩, FlowId.steady_decoder.optional⟩, steady_string.optional⟩,
    steady_string.optional⟩

theorem SupportedApp.steady_decoder : SupportedApp.decoder.Steady := by
  refine Fields.Every.steady ?_ (by decide) _
  exact ⟨⟨trivial, steady_string⟩, steady_string⟩

theorem AutofillOtp.steady_decoder : AutofillOtp.decoder.Steady := by
  refine Fields.Every.steady ?_ (by decide) _
  exact ⟨⟨⟨⟨trivial, steady_string.optional⟩, steady_string.optional⟩, steady_bool.optional⟩,
    SupportedApp.steady_decoder.list⟩

theorem OtpButton.steady_tagged : OtpButton.tagged.decoder.Steady := by
  refine Tagged.Every.steady ⟨⟨Tagged.steady_part AutofillOtp.steady_decoder,
    Tagged.steady_part AutofillOtp.steady_decoder, Tagged.steady_part ?_⟩, trivial⟩
  refine Fields.Every.steady ?_ (by decide) _
  exact ⟨trivial, steady_string.optional⟩

theorem Button.steady_tagged : Button.tagged.decoder.Steady := by
  have hlabel {kind : LabelKind} :
      Courier.Steady (Tagged.part (Button.label kind) LabelKind.textDecoder) :=
    Tagged.steady_part LabelKind.steady_textDecoder
  exact Tagged.Every.steady ⟨⟨Tagged.steady_part UrlButton.steady_decoder,
    Tagged.steady_part PhoneNumberButton.steady_decoder, hlabel,
    Tagged.steady_part CopyCodeButton.steady_decoder,
    Tagged.steady_part FlowButton.steady_decoder, hlabel, hlabel, hlabel,
    Tagged.steady_part OtpButton.steady_tagged, Tagged.steady_bare _⟩, Tagged.steady_bare _⟩

namespace Component

theorem steady_cardsDecoder {inner : Decoder Component} (h : inner.Steady) :
    (cardsDecoder inner).Steady := by
  have hcard : ((Fields.make id |>.defaulted "components" (list inner) []).decoder
      "struct CarouselCard").Steady := by
    refine Fields.Every.steady ?_ ?_ _
    · exact ⟨trivial, h.list⟩
    · exact List.nodup_singleton _
  refine Fields.Every.steady ?_ ?_ _
  · exact ⟨trivial, hcard.list⟩
  · exact List.nodup_singleton _

theorem steady_tagged {inner : Decoder Component} (h : inner.Steady) :
    (tagged inner).decoder.Steady := by
  refine Tagged.Every.steady ⟨⟨Tagged.steady_part Header.steady_tagged,
    Tagged.steady_part Body.steady_decoder, Tagged.steady_part Footer.steady_decoder,
    Tagged.steady_part ?_, Tagged.steady_part (steady_cardsDecoder h),
    Tagged.steady_part LimitedTimeOffer.steady_componentDecoder, Tagged.steady_bare _,
    Tagged.steady_bare _⟩, Tagged.steady_bare _⟩
  refine Fields.Every.steady ?_ (by decide) _
  exact ⟨trivial, Button.steady_tagged.list⟩

theorem steady_decoderAt (n : Nat) : (decoderAt n).Steady := by
  induction n with
  | zero => exact steady_tagged fun _ => steady_of_refusal (fun _ => rfl) fun _ => rfl
  | succ n ih => exact steady_tagged ih

theorem steady_decoder : decoder.Steady := by
  intro context value hvalue
  rw [← decoderAt_ofJson (Json.depth_normalize_le value)]
  exact steady_decoderAt value.depth context hvalue

end Component

/-- **A template does not depend on the order of the members of its value.** -/
theorem Template.steady_decoder : Template.decoder.Steady := by
  refine Fields.Every.steady ?_ (by decide) _
  exact ⟨⟨⟨⟨⟨⟨⟨⟨⟨trivial, steady_string.optional⟩, steady_string⟩, steady_string⟩,
    Enumeration.steady _⟩, Enumeration.steady _⟩, (steady_natural _ _).optional⟩,
    (Enumeration.steady _).optional⟩, steady_string.optional⟩, Component.steady_decoder.list⟩

/-! ## Both ways of reading -/

/-- **Reading a text and reading its value give the same template**, and so the same slots, if no
object of the text has a key twice. -/
theorem Template.parse_eq_ok_iff {text : String} {tree : Json}
    (htree : Scan.document (Scan.tree Scan.maxDepth) text = .ok tree) (hkeys : tree.DistinctKeys) :
    Json.parse text = .ok tree.normalize ∧
      (∀ template, Template.decoder.parse text = .ok template ↔
        Template.decoder.run tree.normalize = .ok template) ∧
      Slot.ofText text = Slot.ofJson tree.normalize := by
  -- the text is read like its tree, and the tree like its normal form
  have hread : (Template.decoder.parse text).toOption
      = (Template.decoder.run tree.normalize).toOption :=
    (Template.agrees_decoder.toOption_parse htree).trans
      (Template.steady_decoder .plain hkeys).symm
  refine ⟨by rw [Json.parse, htree]; rfl, fun template => ?_, ?_⟩
  · rw [← toOption_eq_some_iff, hread, toOption_eq_some_iff]
  · rw [Slot.ofText, Slot.ofJson]
    cases hparse : Template.decoder.parse text with
    | error fault =>
      rw [hparse, toOption_error] at hread
      cases hrun : Template.decoder.run tree.normalize with
      | error m => rfl
      | ok template =>
        rw [hrun] at hread
        cases hread
    | ok template =>
      rw [hparse, toOption_ok] at hread
      rw [toOption_eq_some_iff.mp hread.symm]

/-- A template text with members out of order, one of them no part of a template. -/
theorem Template.parse_eq_ok_iff_unsorted :
    (Template.decoder.parse
      "\x7b\"name\": \"a\", \"language\": \"en\", \"extra\": [1]\x7d").toOption.isSome ∧
    ∀ template, Template.decoder.parse
        "\x7b\"name\": \"a\", \"language\": \"en\", \"extra\": [1]\x7d" = .ok template ↔
      Template.decoder.run (.obj [("extra", .arr [.num (.int 1)]), ("language", .str "en"),
        ("name", .str "a")]) = .ok template := by
  refine ⟨by decide +kernel, ?_⟩
  have htree : Scan.document (Scan.tree Scan.maxDepth)
      "\x7b\"name\": \"a\", \"language\": \"en\", \"extra\": [1]\x7d"
      = .ok (.obj [("name", .str "a"), ("language", .str "en"), ("extra", .arr [.num (.int 1)])]) :=
    toOption_eq_some_iff.mp (by decide +kernel)
  refine (Template.parse_eq_ok_iff htree ?_).2.1
  simp [Json.DistinctKeys, Json.DistinctKeysMembers, Json.DistinctKeysItems]

end Courier

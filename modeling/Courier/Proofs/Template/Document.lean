import Courier.Proofs.Decode.Image
import Courier.Proofs.Decode.Restore
import Courier.Proofs.Template.Reading

/-!
# Writing a template and reading it back

A template that was read is restored from its own document (`Template.run_toJson`). Documents hold
more than templates do: other names of a value, arrays for records, members that are not known,
null. None of it is kept, and what is kept is written in one way that is read back.

A template can hold what no document is read as: a number that does not fit its field, and a sample
of null, since null is read as no sample.
-/

namespace Courier

open Decoder

/-! ## Components at any depth -/

namespace Component

/-- A component of a list, or of a card at any depth in the carousels of the list. -/
inductive In (c : Component) : List Component → Prop where
  | here {cs : List Component} (h : c ∈ cs) : In c cs
  | card {cs : List Component} {cards : List (List Component)} {card : List Component}
    (hcarousel : carousel cards ∈ cs) (hcard : card ∈ cards) (h : In c card) : In c cs

/-- What holds of a carousel when it holds of the components of its cards holds of every
component, if it holds of all others. -/
@[elab_as_elim]
theorem induction {motive : Component → Prop}
    (carousel : ∀ cards, (∀ card ∈ cards, ∀ c ∈ card, motive c) → motive (.carousel cards))
    (other : ∀ c, (∀ cards, c ≠ .carousel cards) → motive c) (c : Component) : motive c :=
  @Component.rec motive (fun cards => ∀ card ∈ cards, ∀ c ∈ card, motive c)
    (fun card => ∀ c ∈ card, motive c)
    (fun _ => other _ nofun) (fun _ => other _ nofun) (fun _ => other _ nofun)
    (fun _ => other _ nofun) (fun cards h => carousel cards h) (fun _ => other _ nofun)
    (other _ nofun) (other _ nofun)
    (by simp) (fun _ _ hhead htail => List.forall_mem_cons.mpr ⟨hhead, htail⟩)
    (by simp) (fun _ _ hhead htail => List.forall_mem_cons.mpr ⟨hhead, htail⟩) c

theorem In.mono {c : Component} {cs cs' : List Component} (h : c.In cs) (hcs : cs ⊆ cs') :
    c.In cs' := by
  cases h with
  | here h => exact .here (hcs h)
  | card hcarousel hcard h => exact .card (hcs hcarousel) hcard h

/-- What is in a list is in one of its components. -/
theorem forall_in {P : Component → Prop} {cs : List Component} :
    (∀ part, In part cs → P part) ↔ ∀ c ∈ cs, ∀ part, In part [c] → P part := by
  constructor
  · exact fun h c hc part hpart => h part (hpart.mono (by simpa using hc))
  · intro h part hpart
    cases hpart with
    | here hmem => exact h part hmem part (.here List.mem_cons_self)
    | card hcarousel hcard hpart =>
      exact h _ hcarousel part (.card List.mem_cons_self hcard hpart)

/-- In a component that is no carousel there is only the component itself. -/
theorem forall_in_of_ne {P : Component → Prop} {c : Component} (hne : ∀ cards, c ≠ .carousel cards)
    (h : P c) : ∀ part, In part [c] → P part := by
  intro part hpart
  cases hpart with
  | here hmem => rwa [List.mem_singleton.mp hmem]
  | card hcarousel => exact absurd (List.mem_singleton.mp hcarousel).symm (hne _)

/-- In a carousel there is the carousel itself and what is in its cards. -/
theorem forall_in_carousel {P : Component → Prop} {cards : List (List Component)} :
    (∀ part, In part [carousel cards] → P part) ↔
      P (.carousel cards) ∧ ∀ card ∈ cards, ∀ part, In part card → P part := by
  constructor
  · exact fun h => ⟨h _ (.here List.mem_cons_self), fun card hcard part hpart =>
      h part (.card List.mem_cons_self hcard hpart)⟩
  · rintro ⟨hself, hcards⟩ part (hmem | ⟨hcarousel, hcard, hpart⟩)
    · rwa [List.mem_singleton.mp hmem]
    · cases List.mem_singleton.mp hcarousel
      exact hcards _ hcard part hpart

end Component

/-! ## Values that fit their fields -/

/-- The numbers of a button have their bits, and its sample is a value. -/
def Button.Fits : Button → Prop
  | .copyCode b => ∀ sample, b.sample = some sample → sample.IsValue
  | .flow b => ∀ n, b.flowId = some (.number n) → n < twoTo 64
  | .url _ | .phoneNumber _ | .label _ _ | .otp _ | .unknown => True

/-- The numbers of a component have their bits, and its samples are values. -/
def Component.Fits : Component → Prop
  | .footer f => ∀ n, f.codeExpirationMinutes = some n → n < twoTo 32
  | .buttons bs => ∀ b ∈ bs, b.Fits
  | .header _ | .body _ | .carousel _ | .limitedTimeOffer _ | .callPermissionRequest
  | .unknown => True

/-- The numbers of a template have their bits, and its samples are values. -/
structure Template.Fits (template : Template) : Prop where
  ttl : ∀ n, template.messageSendTtlSeconds = some n → n < twoTo 32
  components : ∀ c : Component, c.In template.components → c.Fits

/-- Whether a button that copies a code has null for a sample. -/
def Button.NullSample : Button → Prop
  | .copyCode b => b.sample = some .null
  | .url _ | .phoneNumber _ | .label _ _ | .flow _ | .otp _ | .unknown => False

/-- Whether a button of a component has null for a sample. -/
def Component.NullSample : Component → Prop
  | .buttons bs => ∃ b ∈ bs, b.NullSample
  | .header _ | .body _ | .footer _ | .carousel _ | .limitedTimeOffer _ | .callPermissionRequest
  | .unknown => False

/-- Whether no button of a template has null for a sample. -/
def Template.NoNullSample (template : Template) : Prop :=
  ∀ c : Component, c.In template.components → ¬ c.NullSample

/-- Whether the numbers of a button fit and its sample is not null. -/
def Button.Sound (b : Button) : Prop :=
  b.Fits ∧ ¬ b.NullSample

/-- Whether in a component, and in the cards of it, all numbers fit and no sample is null. -/
def Component.Sound (c : Component) : Prop :=
  ∀ part : Component, part.In [c] → part.Fits ∧ ¬ part.NullSample

/-! ## Reading back -/

/-- A list is left out when it is empty, which is its default. -/
theorem Fields.Finds.unlessEmpty {α β : Type} {lookup : String → Option Json}
    {before : Fields (List β → α)} {record : List β → α} (h : before.Finds lookup record)
    {name : String} {d : Decoder β} {write : β → Json} {bs : List β}
    (hname : lookup name = Json.unlessEmpty (bs.map write))
    (hvalue : ∀ b ∈ bs, d.Restores (write b) b) :
    (before.defaulted name (list d) []).Finds lookup (record bs) := by
  cases bs with
  | nil => exact h.absent hname []
  | cons b bs => exact h.field hname (restores_list hvalue) _

theorem restores_texts (texts : List String) : (list string).Restores (.ofTexts texts) texts :=
  restores_list fun s _ => restores_string s

theorem TextHeader.restores (h : TextHeader) :
    TextHeader.decoder.Restores (.object [("text", some (.str h.text)),
      ("example", h.samples.map fun s => .object [("header_text", some (.ofTexts s))])]) h := by
  refine Fields.restores_object (by decide) rfl ?_ _
  refine ((Fields.finds_make _).string rfl).optional rfl fun s _ => Restores.optional ?_ nofun
  refine Fields.restores_object (by decide) rfl ?_ _
  exact (Fields.finds_make _).defaulted rfl (restores_texts s)

theorem Header.restores_samples (samples : Option (List String)) :
    Header.mediaDecoder.Restores (.object [("example",
      samples.map fun s => .object [("header_handle", some (.ofTexts s))])]) samples := by
  refine Fields.restores_object (by decide) rfl ?_ _
  refine (Fields.finds_make _).optional rfl fun s _ => Restores.optional ?_ nofun
  refine Fields.restores_object (by decide) rfl ?_ _
  exact (Fields.finds_make _).defaulted rfl (restores_texts s)

theorem Header.restores (h : Header) : Header.tagged.decoder.Restores (.object h.members) h := by
  cases h with
  | text h => exact Tagged.restores_part rfl (by simp [tagged]) h.restores
  | media format samples =>
    cases format <;>
      exact Tagged.restores_part rfl (by simp [tagged]) (restores_samples samples)
  | location | product | unknown => exact Tagged.restores_bare rfl

theorem NamedSample.restores (s : NamedSample) : NamedSample.decoder.Restores s.toJson s := by
  refine Fields.restores_object (by decide) rfl ?_ _
  exact ((Fields.finds_make _).string rfl).string rfl

theorem BodySamples.restores (s : BodySamples) : BodySamples.decoder.Restores s.toJson s := by
  refine Fields.restores_object (by decide) rfl ?_ _
  exact ((Fields.finds_make _).defaulted rfl
    (restores_list fun row _ => restores_texts row)).unlessEmpty rfl fun s _ => s.restores

theorem Body.restores (b : Body) : Body.decoder.Restores (.object b.members) b := by
  refine Fields.restores_object (by decide) rfl ?_ _
  exact (((Fields.finds_make _).optionalString rfl).optionalBool rfl).optional rfl fun s _ =>
    s.restores.optional nofun

theorem Footer.restores (f : Footer) (h : (Component.footer f).Fits) :
    Footer.decoder.Restores (.object f.members) f := by
  refine Fields.restores_object (by decide) rfl ?_ _
  exact ((Fields.finds_make _).optionalString rfl).optional rfl fun n hn =>
    (restores_natural (h n hn) _).optional nofun

theorem LimitedTimeOffer.restores (offer : Option LimitedTimeOffer) :
    LimitedTimeOffer.componentDecoder.Restores
      (.object [("limited_time_offer", offer.map LimitedTimeOffer.toJson)]) offer := by
  refine Fields.restores_object (by decide) rfl ?_ _
  refine (Fields.finds_make _).optional rfl fun offer _ => Restores.optional ?_ nofun
  refine Fields.restores_object (by decide) rfl ?_ _
  exact ((Fields.finds_make _).string rfl).optionalBool rfl

theorem FlowId.restores (id : FlowId) (h : ∀ n, id = .number n → n < twoTo 64) :
    FlowId.decoder.Restores id.toJson id := by
  intro _
  cases id with
  | text s => rfl
  | number n =>
    have hn : (0 : Int) ≤ n ∧ (n : Int) < twoTo 64 :=
      ⟨Int.natCast_nonneg n, Int.ofNat_lt.mpr (h n rfl)⟩
    dsimp only [FlowId.decoder, whole, toJson, Json.ofNat]
    rw [if_pos hn, Int.toNat_natCast]

theorem SupportedApp.restores (app : SupportedApp) :
    SupportedApp.decoder.Restores app.toJson app := by
  refine Fields.restores_object (by decide) rfl ?_ _
  exact ((Fields.finds_make _).string rfl).string rfl

theorem AutofillOtp.restores (otp : AutofillOtp) :
    AutofillOtp.decoder.Restores (.object otp.members) otp := by
  refine Fields.restores_object (by decide) rfl ?_ _
  exact ((((Fields.finds_make _).optionalString rfl).optionalString rfl).optionalBool
    rfl).defaulted rfl (restores_list fun app _ => app.restores)

theorem OtpButton.restores (otp : OtpButton) :
    OtpButton.tagged.decoder.Restores (.object otp.members) otp := by
  cases otp with
  | oneTap otp | zeroTap otp =>
    exact Tagged.restores_part rfl (by simp [tagged, AutofillOtp.members]) otp.restores
  | copyCode text =>
    refine Tagged.restores_part rfl (by simp [tagged]) ?_
    refine Fields.restores_object (by decide) rfl ?_ _
    exact (Fields.finds_make _).optionalString rfl

namespace Button

theorem restores_url (b : UrlButton) :
    UrlButton.decoder.Restores (.object (members (.url b))) b := by
  refine Fields.restores_object (by decide) rfl ?_ _
  exact (((Fields.finds_make _).string rfl).string rfl).unlessEmpty rfl fun s _ =>
    restores_string s

theorem restores_phoneNumber (b : PhoneNumberButton) :
    PhoneNumberButton.decoder.Restores (.object (members (.phoneNumber b))) b := by
  refine Fields.restores_object (by decide) rfl ?_ _
  exact ((Fields.finds_make _).string rfl).string rfl

theorem restores_label (kind : LabelKind) (text : String) :
    LabelKind.textDecoder.Restores (.object (members (.label kind text))) text := by
  refine Fields.restores_object (by decide) rfl ?_ _
  exact (Fields.finds_make _).string rfl

/-- A sample of null is read as no sample. -/
theorem restores_copyCode (b : CopyCodeButton) (hfits : (copyCode b).Fits) :
    CopyCodeButton.decoder.Restores (.object (members (.copyCode b)))
      { b with sample := b.sample.filter (· ≠ .null) } := by
  refine Fields.restores_object (by decide) rfl ?_ _
  exact (((Fields.finds_make _).optionalString rfl).optionalString rfl).optionalJson rfl hfits

theorem filter_sample {b : CopyCodeButton} (hnull : ¬ (copyCode b).NullSample) :
    b.sample.filter (· ≠ .null) = b.sample := by
  cases hsample : b.sample with
  | none => rfl
  | some sample =>
    refine Option.filter_some_pos (decide_eq_true ?_)
    rintro rfl
    exact hnull hsample

theorem restores_flow (b : FlowButton) (hfits : (flow b).Fits) :
    FlowButton.decoder.Restores (.object (members (.flow b))) b := by
  refine Fields.restores_object (by decide) rfl ?_ _
  exact ((((Fields.finds_make _).string rfl).optional rfl fun id hid =>
    (id.restores fun n hn => hfits n (hid.trans (congrArg some hn))).optional (by
      cases id <;> nofun)).optionalString rfl).optionalString rfl

theorem restores (b : Button) (h : b.Sound) : tagged.decoder.Restores b.toJson b := by
  obtain ⟨hfits, hnull⟩ := h
  cases b with
  | url b => exact Tagged.restores_part rfl (by simp [tagged, members]) (restores_url b)
  | phoneNumber b =>
    exact Tagged.restores_part rfl (by simp [tagged, members]) (restores_phoneNumber b)
  | label kind text =>
    cases kind <;>
      exact Tagged.restores_part rfl (by simp [tagged, members]) (restores_label _ text)
  | copyCode b =>
    have hparts := restores_copyCode b hfits
    rw [filter_sample hnull] at hparts
    exact Tagged.restores_part rfl (by simp [tagged, members]) hparts
  | flow b =>
    exact Tagged.restores_part rfl (by simp [tagged, members]) (restores_flow b hfits)
  | otp b =>
    refine Tagged.restores_part rfl ?_ b.restores
    cases b <;> simp [tagged, members, OtpButton.members, AutofillOtp.members]
  | unknown => exact Tagged.restores_bare rfl

end Button

namespace Component

theorem listToJson_eq_map (cs : List Component) : listToJson cs = cs.map toJson := by
  induction cs with
  | nil => rfl
  | cons c cs ih => rw [listToJson, ih, List.map_cons]

theorem cardsToJson_eq_map (cards : List (List Component)) :
    cardsToJson cards
      = cards.map fun card => .object [("components", some (.arr (card.map toJson)))] := by
  induction cards with
  | nil => rfl
  | cons card cards ih => rw [cardsToJson, ih, listToJson_eq_map, List.map_cons]

/-- The alternatives of components, with the decoder of components itself for those of cards. -/
theorem restores_of_tagged {value : Json} {c : Component}
    (h : (tagged decoder).decoder.Restores value c) : decoder.Restores value c :=
  fun context => (decoder_ofJson context value).trans (h context)

theorem restores_carousel {cards : List (List Component)}
    (h : ∀ card ∈ cards, ∀ c ∈ card, decoder.Restores c.toJson c) :
    decoder.Restores (carousel cards).toJson (.carousel cards) := by
  refine restores_of_tagged (Tagged.restores_part rfl (by simp [tagged]) ?_)
  have hcard (card : List Component) (hcard : card ∈ cards) :
      ((Fields.make id |>.defaulted "components" (list decoder) []).decoder
        "struct CarouselCard").Restores
          (.object [("components", some (.arr (card.map toJson)))]) card := by
    refine Fields.restores_object ?_ rfl ?_ _
    · exact List.nodup_singleton _
    · exact (Fields.finds_make _).defaulted rfl (restores_list (h card hcard))
  rw [cardsToJson_eq_map]
  refine Fields.restores_object ?_ rfl ?_ _
  · exact List.nodup_singleton _
  · exact (Fields.finds_make _).defaulted rfl (restores_list hcard)

/-- A component is restored if all numbers in it fit and no sample in it is null. -/
theorem restores (c : Component) (h : c.Sound) : decoder.Restores c.toJson c := by
  induction c using induction with
  | carousel cards ih =>
    obtain ⟨-, hcards⟩ := forall_in_carousel.mp h
    exact restores_carousel fun card hcard c hc =>
      ih card hcard c hc (forall_in.mp (hcards card hcard) c hc)
  | other c hne =>
    obtain ⟨hfits, hnull⟩ := h c (.here List.mem_cons_self)
    refine restores_of_tagged ?_
    -- each kind of component by the law of its record, with the tag in front
    cases c with
    | carousel cards => exact absurd rfl (hne cards)
    | header header =>
      refine Tagged.restores_part rfl ?_ header.restores
      cases header <;> simp [tagged, Header.members]
    | body b => exact Tagged.restores_part rfl (by simp [tagged, Body.members]) b.restores
    | footer f =>
      exact Tagged.restores_part rfl (by simp [tagged, Footer.members]) (f.restores hfits)
    | buttons bs =>
      refine Tagged.restores_part rfl (by simp [tagged]) ?_
      refine Fields.restores_object (by decide) rfl ?_ _
      exact (Fields.finds_make _).defaulted rfl (restores_list fun b hb =>
        b.restores ⟨hfits b hb, fun hsample => hnull ⟨b, hb, hsample⟩⟩)
    | limitedTimeOffer offer =>
      exact Tagged.restores_part rfl (by simp [tagged]) (LimitedTimeOffer.restores offer)
    | callPermissionRequest | unknown => exact Tagged.restores_bare rfl

end Component

theorem Category.restores (c : Category) : Category.enumeration.decoder.Restores (.str c.name) c :=
  restores_enumeration (by cases c <;> rfl)

theorem Status.restores (s : Status) : Status.enumeration.decoder.Restores (.str s.name) s :=
  restores_enumeration (by cases s <;> rfl)

theorem ParameterFormat.restores (f : ParameterFormat) :
    ParameterFormat.enumeration.decoder.Restores (.str f.name) f :=
  restores_enumeration (by cases f <;> rfl)

/-- A template is restored if all numbers in it fit and no sample in it is null. -/
theorem Template.restores (t : Template) (hfits : t.Fits) (hnull : t.NoNullSample) :
    Template.decoder.Restores t.toJson t := by
  have hcomponents : (list Component.decoder).Restores
      (.arr (Component.listToJson t.components)) t.components := by
    rw [Component.listToJson_eq_map]
    refine restores_list fun c hc => c.restores ?_
    exact Component.forall_in.mp (fun part hpart => ⟨hfits.components part hpart,
      hnull part hpart⟩) c hc
  refine Fields.restores_object (by decide) rfl ?_ _
  exact (((((((((Fields.finds_make _).optionalString rfl).string rfl).string rfl).defaulted rfl
    t.category.restores).defaulted rfl t.status.restores).optional rfl fun n hn =>
    (restores_natural (hfits.ttl n hn) _).optional nofun).optional rfl fun f _ =>
    f.restores.optional nofun).optionalString rfl).defaulted rfl hcomponents

/-! ## What is read -/

theorem Footer.fits_of_gives {f : Footer} (h : Footer.decoder.Gives f) :
    (Component.footer f).Fits := by
  obtain ⟨record, minutes, ⟨_, text, rfl, -, rfl⟩, hminutes, rfl⟩ :=
    Fields.gives_of_optional (Fields.gives_of_decoder h)
  exact fun n hn => (hminutes n hn).of_optional.lt_of_natural

theorem FlowId.lt_of_gives {n : Nat} (h : FlowId.decoder.Gives (.number n)) : n < twoTo 64 := by
  obtain ⟨value, h⟩ := h.of_whole
  split at h
  · split at h
    · rename_i i hi
      cases h
      omega
    · cases h
  · cases h
  · cases h

namespace Button

/-- A sample that was read is a value and not null. -/
theorem sound_of_gives_copyCode {b : CopyCodeButton} (h : CopyCodeButton.decoder.Gives b) :
    (copyCode b).Sound := by
  obtain ⟨record, sample, ⟨_, url, ⟨_, text, rfl, -, rfl⟩, -, rfl⟩, hsample, rfl⟩ :=
    Fields.gives_of_optional (Fields.gives_of_decoder h)
  exact ⟨fun value hvalue => (hsample value hvalue).of_optionalJson.1,
    fun hnull => (hsample .null hnull).of_optionalJson.2 rfl⟩

/-- A flow id that was read has its bits. -/
theorem fits_of_gives_flow {b : FlowButton} (h : FlowButton.decoder.Gives b) : (flow b).Fits := by
  obtain ⟨_, screen, ⟨_, action, hbefore, -, rfl⟩, -, rfl⟩ := Fields.gives_of_decoder h
  obtain ⟨_, id, ⟨_, text, rfl, -, rfl⟩, hid, rfl⟩ := Fields.gives_of_optional hbefore
  exact fun n hn => FlowId.lt_of_gives (hid _ hn).of_optional

theorem sound_of_gives {b : Button} (h : tagged.decoder.Gives b) : b.Sound := by
  refine Tagged.Every.of_gives ?_ h
  have hlabel {kind : LabelKind} : ∀ value b,
      Tagged.part (Button.label kind) LabelKind.textDecoder value = .ok b → b.Sound :=
    Tagged.forall_part fun _ _ => ⟨trivial, not_false⟩
  have hunknown : ∀ value b, Tagged.bare Button.unknown value = .ok b → b.Sound :=
    Tagged.forall_bare ⟨trivial, not_false⟩
  -- one part for each kind, in the order of the table
  exact ⟨⟨Tagged.forall_part fun _ _ => ⟨trivial, not_false⟩,
    Tagged.forall_part fun _ _ => ⟨trivial, not_false⟩, hlabel,
    Tagged.forall_part fun _ hb => sound_of_gives_copyCode hb,
    Tagged.forall_part fun _ hb => ⟨fits_of_gives_flow hb, not_false⟩, hlabel, hlabel, hlabel,
    Tagged.forall_part fun _ _ => ⟨trivial, not_false⟩, hunknown⟩, hunknown⟩

end Button

namespace Component

/-- Components are sound, if the components of cards are. -/
theorem sound_of_gives_tagged {inner : Decoder Component}
    (hinner : ∀ c, inner.Gives c → c.Sound) {c : Component} (h : (tagged inner).decoder.Gives c) :
    c.Sound := by
  refine Tagged.Every.of_gives ?_ h
  have hplain {β : Type} {wrap : β → Component} {d : Decoder β}
      (hne : ∀ b cards, wrap b ≠ .carousel cards)
      (hwrap : ∀ b, d.Gives b → (wrap b).Fits ∧ ¬ (wrap b).NullSample) :
      ∀ value c, Tagged.part wrap d value = .ok c → c.Sound :=
    Tagged.forall_part fun b hb => forall_in_of_ne (hne b) (hwrap b hb)
  have hunknown : ∀ value c, Tagged.bare unknown value = .ok c → c.Sound :=
    Tagged.forall_bare (forall_in_of_ne nofun ⟨trivial, not_false⟩)
  -- one part for each kind, in the order of the table; only two of them have parts to look into
  refine ⟨⟨hplain nofun fun _ _ => ⟨trivial, not_false⟩,
    hplain nofun fun _ _ => ⟨trivial, not_false⟩,
    hplain nofun fun f hf => ⟨f.fits_of_gives hf, not_false⟩, hplain nofun ?_,
    Tagged.forall_part ?_, hplain nofun fun _ _ => ⟨trivial, not_false⟩,
    Tagged.forall_bare (forall_in_of_ne nofun ⟨trivial, not_false⟩), hunknown⟩, hunknown⟩
  · intro bs hbs
    obtain ⟨_, bs, rfl, hbs, rfl⟩ := Fields.gives_of_list (Fields.gives_of_decoder hbs)
    refine ⟨fun b hb => (Button.sound_of_gives (hbs b hb)).1, ?_⟩
    rintro ⟨b, hb, hnull⟩
    exact (Button.sound_of_gives (hbs b hb)).2 hnull
  · intro cards hcards
    obtain ⟨_, cards, rfl, hcards, rfl⟩ := Fields.gives_of_list (Fields.gives_of_decoder hcards)
    refine forall_in_carousel.mpr ⟨⟨trivial, not_false⟩, fun card hcard => ?_⟩
    obtain ⟨_, card, rfl, hinside, rfl⟩ :=
      Fields.gives_of_list (Fields.gives_of_decoder (hcards card hcard))
    exact forall_in.mpr fun c hc => hinner c (hinside c hc)

theorem sound_of_gives_decoderAt {n : Nat} {c : Component} (h : (decoderAt n).Gives c) :
    c.Sound := by
  induction n generalizing c with
  | zero =>
    refine sound_of_gives_tagged (fun c hc => ?_) h
    obtain ⟨value, hc⟩ := hc.of_whole
    cases hc
  | succ n ih => exact sound_of_gives_tagged (fun c hc => ih hc) h

theorem sound_of_gives {c : Component} (h : decoder.Gives c) : c.Sound := by
  cases h with
  | tree h => exact sound_of_gives_decoderAt (.tree h)
  | text h => exact sound_of_gives_decoderAt (.text h)

end Component

/-- In a template that was read all numbers fit and no sample is null. -/
theorem Template.sound_of_gives {t : Template} (h : Template.decoder.Gives t) :
    t.Fits ∧ t.NoNullSample := by
  -- of the fields only the components and the time to live can fail to fit
  obtain ⟨_, cs, hbefore, hcs, rfl⟩ := Fields.gives_of_list (Fields.gives_of_decoder h)
  obtain ⟨_, sub, ⟨_, format, htimed, -, rfl⟩, -, rfl⟩ := hbefore
  obtain ⟨_, ttl, hnamed, httl, rfl⟩ := Fields.gives_of_optional htimed
  obtain ⟨_, status, ⟨_, category, ⟨_, language, ⟨_, name, ⟨_, id, rfl, -, rfl⟩, -, rfl⟩, -, rfl⟩,
    -, rfl⟩, -, rfl⟩ := hnamed
  have hsound : ∀ c : Component, c.In cs → c.Fits ∧ ¬ c.NullSample :=
    Component.forall_in.mpr fun c hc => Component.sound_of_gives (hcs c hc)
  exact ⟨⟨fun n hn => (httl n hn).of_optional.lt_of_natural, fun c hc => (hsound c hc).1⟩,
    fun c hc => (hsound c hc).2⟩

/-! ## Round trips -/

/-- **A template is restored from its own document** exactly if its numbers fit and no sample in it
is null. So is every template that was read, from a value or from a text. -/
theorem Template.run_toJson :
    (∀ t : Template,
      Template.decoder.run t.toJson = .ok t ↔ t.Fits ∧ t.NoNullSample) ∧
    (∀ value t, Template.decoder.run value = .ok t →
      t.NoNullSample ∧ Template.decoder.run t.toJson = .ok t) ∧
    (∀ text t, Template.decoder.parse text = .ok t →
      t.NoNullSample ∧ Template.decoder.run t.toJson = .ok t) := by
  have hgives {t : Template} (h : Template.decoder.Gives t) :
      t.NoNullSample ∧ Template.decoder.run t.toJson = .ok t := by
    obtain ⟨hfits, hnull⟩ := Template.sound_of_gives h
    exact ⟨hnull, t.restores hfits hnull .plain⟩
  refine ⟨fun t => ⟨fun h => Template.sound_of_gives (gives_of_run h), ?_⟩,
    fun value t h => hgives (gives_of_run h), fun text t h => hgives (gives_of_parse h)⟩
  exact fun h => t.restores h.1 h.2 .plain

/-- A notice with a coupon on a card. -/
def Template.couponNotice : Template :=
  { (default : Template) with
    name := "coupon"
    language := "en"
    category := .unknown
    status := .unknown
    components := [.carousel [[.buttons [.copyCode ⟨some "Copy", none, some (.arr [.str "A1"])⟩]],
      [.unknown]]] }

/-- The notice with its card as an array, in another order, with null and with members that are not
known. -/
def Template.couponDocument : Json :=
  .obj [("components", .arr [.obj [("cards", .arr [.arr [.arr [.arr [.str "BUTTONS",
        .arr [.obj [("example", .arr [.str "A1"]), ("text", .str "Copy"),
          ("type", .str "COPY_CODE"), ("url", .null)]]]]],
      .obj [("components", .arr [.obj [("type", .str "POLL"), ("votes", .num (.int 3))]])]]),
      ("type", .str "CAROUSEL")]]),
    ("id", .null), ("language", .str "en"), ("name", .str "coupon"), ("status", .str "NEW")]

theorem Template.couponDocument_restored :
    Template.decoder.run couponDocument = .ok couponNotice ∧
      Template.decoder.run couponNotice.toJson = .ok couponNotice := by
  have hread : Template.decoder.run couponDocument = .ok couponNotice := rfl
  exact ⟨hread, (Template.run_toJson.2.1 _ _ hread).2⟩

end Courier

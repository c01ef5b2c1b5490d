import Courier.Proofs.Decode.Focus
import Courier.Proofs.Template.Document

/-!
# Documents of later versions

A template is still read when its document has grown: when there are members that are not known,
or kinds of components, headers and buttons, categories and statuses that are not known.
`Template.Change` lists these changes of a document with what becomes of the template, at any depth
of carousels, and `Template.run_of_changes` says that after any number of them the document is read
as exactly that.

One object at a time, a change is a matter of the keys that a decoder knows (`Component.tolerant`,
`Button.tolerant`, `Template.tolerant`) and of the alternative for unknown tags
(`Tagged.decode_put_tag`). Where the object lies in the document does not matter, because each
decoder reads a part into the same place of what it gives (`Component.Lies.focus`).
-/

namespace Courier

open Decoder
open Json (Step)

/-! ## Known keys and tags -/

/-- The keys that a header knows besides the type of its component: its format and what headers of
the format have. -/
def Header.keys (header : Header) : List String :=
  header.members.map Prod.fst

/-- The keys that a button for a one-time password knows besides its type. -/
def OtpButton.keys (button : OtpButton) : List String :=
  button.members.map Prod.fst

/-- The keys that a button knows: its type and what buttons of its kind have. -/
def Button.keys (button : Button) : List String :=
  "type" :: button.members.map Prod.fst

/-- The keys that a component knows: its type and what components of its kind have. -/
def Component.keys : Component → List String
  | .header h => "type" :: h.keys
  | .body b => "type" :: b.members.map Prod.fst
  | .footer f => "type" :: f.members.map Prod.fst
  | .buttons _ => ["type", "buttons"]
  | .carousel _ => ["type", "cards"]
  | .limitedTimeOffer _ => ["type", "limited_time_offer"]
  | .callPermissionRequest | .unknown => ["type"]

/-- The keys that a template knows. -/
def Template.keys : List String :=
  ["id", "name", "language", "category", "status", "message_send_ttl_seconds", "parameter_format",
    "sub_category", "components"]

/-- The types of components that are known. -/
def Component.types : List String :=
  (Component.tagged Component.decoder).named.map Prod.fst

/-- The formats of headers that are known. -/
def Header.formats : List String :=
  Header.tagged.named.map Prod.fst

/-- The types of buttons that are known. -/
def Button.types : List String :=
  Button.tagged.named.map Prod.fst

/-! ## Members that are not known -/

theorem Header.tolerant (context : Context) :
    Tolerant Header.keys (Header.tagged.decoder.ofJson context) := by
  have hmedia {format : MediaFormat} : Tolerant Header.keys
      (Tagged.part (Header.media format) Header.mediaDecoder) :=
    Tagged.tolerant_record Header.keys (by decide) (fun _ => rfl) _
  have hevery : Header.tagged.Every (Tolerant Header.keys) :=
    ⟨⟨Tagged.tolerant_record Header.keys (by decide) (fun _ => rfl) _, hmedia, hmedia, hmedia,
      hmedia, Tagged.tolerant_bare _, Tagged.tolerant_bare _, Tagged.tolerant_bare _⟩,
      Tagged.tolerant_bare _⟩
  exact hevery.tolerant (fun h => by cases h <;> exact List.mem_cons_self) context

theorem OtpButton.tolerant (context : Context) :
    Tolerant OtpButton.keys
      (OtpButton.tagged.decoder.ofJson context) := by
  have hevery : OtpButton.tagged.Every (Tolerant OtpButton.keys) :=
    ⟨⟨Tagged.tolerant_record OtpButton.keys (by decide) (fun _ => rfl) _,
      Tagged.tolerant_record OtpButton.keys (by decide) (fun _ => rfl) _,
      Tagged.tolerant_record OtpButton.keys (by decide) (fun _ => rfl) _⟩, trivial⟩
  exact hevery.tolerant (fun b => by cases b <;> exact List.mem_cons_self) context

/-- A button knows its type and what its kind has. -/
theorem Button.tolerant (context : Context) :
    Tolerant Button.keys (Button.tagged.decoder.ofJson context) := by
  have hlabel {kind : LabelKind} :
      Tolerant Button.keys (Tagged.part (Button.label kind) LabelKind.textDecoder) :=
    Tagged.tolerant_record Button.keys (by decide) (fun _ => rfl) _
  have hotp : Tolerant Button.keys (Tagged.part Button.otp OtpButton.tagged.decoder) :=
    Tagged.tolerant_part ((OtpButton.tolerant .tagged).mono fun _ => List.subset_cons_self _ _)
  have hevery : Button.tagged.Every (Tolerant Button.keys) :=
    ⟨⟨Tagged.tolerant_record Button.keys (by decide) (fun _ => rfl) _,
      Tagged.tolerant_record Button.keys (by decide) (fun _ => rfl) _, hlabel,
      Tagged.tolerant_record Button.keys (by decide) (fun _ => rfl) _,
      Tagged.tolerant_record Button.keys (by decide) (fun _ => rfl) _, hlabel, hlabel, hlabel, hotp,
      Tagged.tolerant_bare _⟩, Tagged.tolerant_bare _⟩
  exact hevery.tolerant (fun _ => List.mem_cons_self) context

/-- A component knows its type and what its kind has. -/
theorem Component.tolerant (context : Context) :
    Tolerant Component.keys (Component.decoder.ofJson context) := by
  have hheader : Tolerant Component.keys (Tagged.part Component.header Header.tagged.decoder) :=
    Tagged.tolerant_part ((Header.tolerant .tagged).mono fun _ => List.subset_cons_self _ _)
  have hevery : (tagged decoder).Every (Tolerant Component.keys) :=
    ⟨⟨hheader, Tagged.tolerant_record Component.keys (by decide) (fun _ => rfl) _,
      Tagged.tolerant_record Component.keys (by decide) (fun _ => rfl) _,
      Tagged.tolerant_record Component.keys (by decide) (fun _ => rfl) _,
      Tagged.tolerant_record Component.keys (by decide) (fun _ => rfl) _,
      Tagged.tolerant_record Component.keys (by decide) (fun _ => rfl) _, Tagged.tolerant_bare _,
      Tagged.tolerant_bare _⟩, Tagged.tolerant_bare _⟩
  have htagged := hevery.tolerant (fun c => by cases c <;> exact List.mem_cons_self) context
  intro members members' c hmembers hmembers' hread hsame
  rw [decoder_ofJson] at hread ⊢
  exact htagged hmembers hmembers' hread hsame

theorem Template.tolerant : Tolerant (fun _ => Template.keys) Template.decoder.run :=
  Fields.tolerant (by decide) (fun _ => List.Subset.refl _) _ _

/-! ## Places of components -/

/-- Where the components stand in the document of a template. -/
def Template.componentsStep : Step :=
  .field "components" 8

/-- The path from the document of a component to that of one of its buttons. -/
def Component.buttonPath (index : Nat) : List Step :=
  [.field "buttons" 1, .item index]

namespace Component

/-- A component lies in a list of components, or on a card at any depth of the carousels in it. The
path leads to its document in the document of the list, and `write` gives the list with another
component in its place. -/
inductive Lies (c : Component) :
    List Step → List Component → (Component → List Component) → Prop where
  | here {cs : List Component} {i : Nat} (hc : cs[i]? = some c) : Lies c [.item i] cs (cs.set i)
  | card {cs : List Component} {cards : List (List Component)} {card : List Component} {i j : Nat}
    {path : List Step} {write : Component → List Component}
    (hcarousel : cs[i]? = some (.carousel cards)) (hcard : cards[j]? = some card)
    (h : Lies c path card write) :
    Lies c (.item i :: .field "cards" 1 :: .item j :: .field "components" 0 :: path) cs
      fun c' => cs.set i (.carousel (cards.set j (write c')))

/-- What reads the parts of a component of a kind. -/
def alternative (inner : Decoder Component) : Component → Json → Except Misfit Component
  | .header _ => Tagged.part .header Header.tagged.decoder
  | .body _ => Tagged.part .body Body.decoder
  | .footer _ => Tagged.part .footer Footer.decoder
  | .buttons _ => Tagged.part .buttons
      ((Fields.make id |>.defaulted "buttons" (list Button.tagged.decoder) []).decoder
        "struct ButtonsComponent")
  | .carousel _ => Tagged.part .carousel (cardsDecoder inner)
  | .limitedTimeOffer _ => Tagged.part .limitedTimeOffer LimitedTimeOffer.componentDecoder
  | .callPermissionRequest => Tagged.bare .callPermissionRequest
  | .unknown => Tagged.bare .unknown

/-- A component is read by the alternative of its kind. -/
theorem eq_alternative (inner : Decoder Component) :
    (tagged inner).Every fun parts =>
      ∀ value c, parts value = .ok c → parts = alternative inner c :=
  ⟨⟨Tagged.forall_part fun _ _ => rfl, Tagged.forall_part fun _ _ => rfl,
    Tagged.forall_part fun _ _ => rfl, Tagged.forall_part fun _ _ => rfl,
    Tagged.forall_part fun _ _ => rfl, Tagged.forall_part fun _ _ => rfl, Tagged.forall_bare rfl,
    Tagged.forall_bare rfl⟩, Tagged.forall_bare rfl⟩

/-- A list among the parts of a component can be exchanged. -/
theorem focus_parts {β : Type} {d : Decoder β} {wrap : List β → Component} {name noun : String}
    (hname : name ≠ "type")
    (hwrap : ∀ bs, alternative decoder (wrap bs)
      = Tagged.part wrap ((Fields.make id |>.defaulted name (list d) []).decoder noun))
    (hinj : ∀ bs bs', wrap bs = wrap bs' → bs = bs')
    {context : Context} {value : Json} (hvalue : value.IsValue) {bs : List β} (hbs : bs ≠ [])
    (h : decoder.ofJson context value = .ok (wrap bs)) :
    Focus (decoder.ofJson context) ((list d).ofJson .tagged) [.field name 1] value bs wrap := by
  rw [decoder_ofJson] at h
  have hfocus : Focus ((tagged decoder).decode context) ((list d).ofJson .tagged)
      [.field name 1] value bs (wrap ∘ id) := by
    refine Tagged.focus hvalue h hname fun tag parts inside hparts hinside hread => ?_
    obtain rfl := ((eq_alternative decoder).of_choose hparts _ _ hread).trans (hwrap bs)
    obtain ⟨bs', hlist, heq⟩ := map_eq_ok_iff.mp hread
    obtain rfl := hinj _ _ heq
    exact (Fields.focus_list hinside hbs hlist).part wrap
  have hread : decoder.ofJson context = (tagged decoder).decode context :=
    funext fun value => decoder_ofJson context value
  rw [hread]
  exact hfocus

namespace Lies

variable {c : Component} {path : List Step} {cs : List Component}
  {write : Component → List Component}

theorem ne_nil (h : c.Lies path cs write) : cs ≠ [] := by
  cases h with
  | here hc => exact List.ne_nil_of_mem (List.mem_of_getElem? hc)
  | card hcarousel => exact List.ne_nil_of_mem (List.mem_of_getElem? hcarousel)

/-- Putting a component into its own place changes nothing. -/
theorem write_self (h : c.Lies path cs write) : write c = cs := by
  have hset {α : Type} {as : List α} {i : Nat} {a : α} (ha : as[i]? = some a) :
      as.set i a = as := by
    obtain ⟨hi, rfl⟩ := List.getElem?_eq_some_iff.mp ha
    exact List.set_getElem_self hi
  induction h with
  | here hc => exact hset hc
  | card hcarousel hcard _ ih =>
    beta_reduce
    rw [ih, hset hcard, hset hcarousel]

/-- **A component is read from the document that its path leads to**, and what another document
there is read as takes its place. -/
theorem focus (h : c.Lies path cs write) (context : Context) :
    ∃ context', ∀ value : Json, value.IsValue → (list decoder).ofJson context value = .ok cs →
      Focus ((list decoder).ofJson context) (decoder.ofJson context') path value c write := by
  induction h generalizing context with
  | here hc => exact ⟨context, fun value _ hread => focus_list hread hc⟩
  | card hcarousel hcard h ih =>
    obtain ⟨context', hinner⟩ := ih .tagged
    refine ⟨context', fun value hvalue hread => ?_⟩
    have hcards := List.ne_nil_of_mem (List.mem_of_getElem? hcard)
    -- to the carousel, to its cards, to the card, and to the components of the card
    refine (focus_list hread hcarousel).trans hvalue fun part hpart hwhole => ?_
    refine (focus_parts (by decide) (fun _ => rfl) (fun _ _ => carousel.inj) hpart hcards
      hwhole).trans hpart fun part hpart hlist => ?_
    refine (focus_list hlist hcard).trans hpart fun part hpart hcomponents => ?_
    exact (Fields.focus_list hpart h.ne_nil hcomponents).trans hpart hinner

/-- A button is read from its document in that of its component. -/
theorem focus_button {bs : List Button} (h : (buttons bs).Lies path cs write) {i : Nat} {b : Button}
    (hb : bs[i]? = some b) {context : Context} {value : Json} (hvalue : value.IsValue)
    (hread : (list decoder).ofJson context value = .ok cs) :
    Focus ((list decoder).ofJson context) (Button.tagged.decoder.ofJson .tagged)
      (path ++ buttonPath i) value b fun b' => write (.buttons (bs.set i b')) := by
  obtain ⟨context', hfocus⟩ := h.focus context
  refine (hfocus value hvalue hread).trans hvalue fun part hpart hbuttons => ?_
  refine (focus_parts (by decide) (fun _ => rfl) (fun _ _ => buttons.inj) hpart
    (List.ne_nil_of_mem (List.mem_of_getElem? hb)) hbuttons).trans hpart fun part hpart hlist => ?_
  exact focus_list hlist hb

end Lies

end Component

/-! ## Changes of one object -/

/-- What can change in the object of a component, and what the component becomes. -/
inductive Component.Change (members : List (String × Json)) (c : Component) :
    List (String × Json) → Component → Prop where
  | member {key : String} {extra : Json} (hkey : key ∉ c.keys) (hextra : extra.IsValue) :
    Change members c (Assoc.put key extra members) c
  | type {name : String} (hname : name ∉ Component.types) :
    Change members c (Assoc.put "type" (.str name) members) .unknown
  | format {header : Header} {name : String} (hheader : c = .header header)
    (hname : name ∉ Header.formats) :
    Change members c (Assoc.put "format" (.str name) members) (.header .unknown)

/-- What can change in the object of a button, and what the button becomes. -/
inductive Button.Change (members : List (String × Json)) (b : Button) :
    List (String × Json) → Button → Prop where
  | member {key : String} {extra : Json} (hkey : key ∉ b.keys) (hextra : extra.IsValue) :
    Change members b (Assoc.put key extra members) b
  | type {name : String} (hname : name ∉ Button.types) :
    Change members b (Assoc.put "type" (.str name) members) .unknown

section Objects

variable {members members' : List (String × Json)} {context : Context}

theorem Component.Change.isValue {c c' : Component} (h : Component.Change members c members' c')
    (hmembers : (Json.obj members).IsValue) : (Json.obj members').IsValue := by
  cases h with
  | member _ hextra => exact hmembers.put _ hextra
  | type | format => exact hmembers.put _ rfl

theorem Button.Change.isValue {b b' : Button} (h : Button.Change members b members' b')
    (hmembers : (Json.obj members).IsValue) : (Json.obj members').IsValue := by
  cases h with
  | member _ hextra => exact hmembers.put _ hextra
  | type => exact hmembers.put _ rfl

/-- A changed component is read as what it becomes. -/
theorem Component.Change.ofJson {c c' : Component} (h : Component.Change members c members' c')
    (hmembers : (Json.obj members).IsValue)
    (hread : Component.decoder.ofJson context (.obj members) = .ok c) :
    Component.decoder.ofJson context (.obj members') = .ok c' := by
  obtain ⟨hascending, -⟩ := Json.isValue_obj.mp hmembers
  cases h with
  | member hkey => exact (Component.tolerant context).put hascending hread hkey _
  | type hname =>
    rw [Component.decoder_ofJson]
    exact Tagged.decode_put_tag (t := tagged decoder) hascending rfl hname context
  | format hheader hname =>
    -- the type stays the same, so the parts are still read as a header
    subst hheader
    rw [Component.decoder_ofJson] at hread ⊢
    obtain ⟨tag, parts, htag, hparts, hread⟩ :=
      (Tagged.decode_obj_eq_ok_iff hascending.nodup).mp hread
    obtain rfl := (Component.eq_alternative decoder).of_choose hparts _ _ hread
    refine (Tagged.decode_obj_eq_ok_iff hascending.put.nodup).mpr ⟨tag, _, ?_, hparts, ?_⟩
    · rw [Assoc.find?_put, if_neg (by decide), htag]
    · rw [hascending.erase_put (by decide)]
      refine map_eq_ok_iff.mpr ⟨.unknown, ?_, rfl⟩
      exact Tagged.decode_put_tag (t := Header.tagged) hascending.erase rfl hname .tagged

/-- A changed button is read as what it becomes. -/
theorem Button.Change.ofJson {b b' : Button} (h : Button.Change members b members' b')
    (hmembers : (Json.obj members).IsValue)
    (hread : Button.tagged.decoder.ofJson context (.obj members) = .ok b) :
    Button.tagged.decoder.ofJson context (.obj members') = .ok b' := by
  obtain ⟨hascending, -⟩ := Json.isValue_obj.mp hmembers
  cases h with
  | member hkey => exact (Button.tolerant context).put hascending hread hkey _
  | type hname => exact Tagged.decode_put_tag (t := Button.tagged) hascending rfl hname context

end Objects

/-! ## Changes of a template -/

/-- What can change in the document of a template, and what the template becomes. -/
inductive Template.Change (value : Json) (t : Template) : Json → Template → Prop where
  /-- A member of the template that is not known. -/
  | member {members : List (String × Json)} {key : String} {extra : Json}
    (hobject : value = .obj members) (hkey : key ∉ Template.keys) (hextra : extra.IsValue) :
    Change value t (.obj (Assoc.put key extra members)) t
  /-- A category that is not known. -/
  | category {members : List (String × Json)} {name : String} (hobject : value = .obj members)
    (hname : name ∉ Category.enumeration.named.map Prod.fst) :
    Change value t (.obj (Assoc.put "category" (.str name) members)) { t with category := .unknown }
  /-- A status that is not known. -/
  | status {members : List (String × Json)} {name : String} (hobject : value = .obj members)
    (hname : name ∉ Status.enumeration.named.map Prod.fst) :
    Change value t (.obj (Assoc.put "status" (.str name) members)) { t with status := .unknown }
  /-- A change of a component, at any depth. -/
  | component {c c' : Component} {path : List Step} {write : Component → List Component}
    {members members' : List (String × Json)} (hlies : c.Lies path t.components write)
    (hobject : value.partAt? (componentsStep :: path) = some (.obj members))
    (hchange : Component.Change members c members' c') :
    Change value t (value.setAt (componentsStep :: path) (.obj members'))
      { t with components := write c' }
  /-- A change of a button of a component, at any depth. -/
  | button {bs : List Button} {path : List Step} {write : Component → List Component} {i : Nat}
    {b b' : Button} {members members' : List (String × Json)}
    (hlies : (Component.buttons bs).Lies path t.components write) (hbutton : bs[i]? = some b)
    (hobject : value.partAt? (componentsStep :: path ++ Component.buttonPath i)
      = some (.obj members))
    (hchange : Button.Change members b members' b') :
    Change value t (value.setAt (componentsStep :: path ++ Component.buttonPath i) (.obj members'))
      { t with components := write (.buttons (bs.set i b')) }

namespace Template

variable {value : Json} {t : Template}

/-- What the fields of a template find under their names. -/
structure Found (lookup : String → Option Json) (t : Template) : Prop where
  id : Fields.found .plain lookup "id" string.optional (.defaulted none) = some t.id
  name : Fields.found .plain lookup "name" string .refused = some t.name
  language : Fields.found .plain lookup "language" string .refused = some t.language
  category : Fields.found .plain lookup "category" Category.enumeration.decoder
    (.defaulted .unknown) = some t.category
  status : Fields.found .plain lookup "status" Status.enumeration.decoder
    (.defaulted .unknown) = some t.status
  ttl : Fields.found .plain lookup "message_send_ttl_seconds" natural32.optional
    (.defaulted none) = some t.messageSendTtlSeconds
  format : Fields.found .plain lookup "parameter_format"
    ParameterFormat.enumeration.decoder.optional (.defaulted none) = some t.parameterFormat
  subCategory : Fields.found .plain lookup "sub_category" string.optional
    (.defaulted none) = some t.subCategory
  components : Fields.found .plain lookup "components" (list Component.decoder)
    (.defaulted []) = some t.components

/-- A template is what its fields find under their names. -/
theorem run_obj_eq_ok_iff {members : List (String × Json)} (h : (members.map Prod.fst).Nodup) :
    Template.decoder.run (.obj members) = .ok t ↔ Found (Assoc.find? · members) t := by
  have hread : (Template.decoder.run (.obj members)).toOption = _ :=
    Fields.toOption_ofMembers (by decide) h
  rw [← toOption_eq_some_iff, hread]
  simp only [Fields.optional, Fields.required, Fields.defaulted, Fields.ofLookup_field_eq_some_iff]
  constructor
  · rintro ⟨_, cs, ⟨_, sub, ⟨_, format, ⟨_, ttl, ⟨_, status, ⟨_, category, ⟨_, language, ⟨_, name,
      ⟨_, id, hmake, hid, rfl⟩, hname, rfl⟩, hlanguage, rfl⟩, hcategory, rfl⟩, hstatus, rfl⟩, httl,
      rfl⟩, hformat, rfl⟩, hsub, rfl⟩, hcomponents, rfl⟩
    cases hmake
    exact ⟨hid, hname, hlanguage, hcategory, hstatus, httl, hformat, hsub, hcomponents⟩
  · rintro ⟨hid, hname, hlanguage, hcategory, hstatus, httl, hformat, hsub, hcomponents⟩
    exact ⟨_, _, ⟨_, _, ⟨_, _, ⟨_, _, ⟨_, _, ⟨_, _, ⟨_, _, ⟨_, _, ⟨_, _, rfl, hid, rfl⟩, hname,
      rfl⟩, hlanguage, rfl⟩, hcategory, rfl⟩, hstatus, rfl⟩, httl, rfl⟩, hformat, rfl⟩, hsub, rfl⟩,
      hcomponents, rfl⟩

/-- Another category or status leaves the other fields as they are. -/
theorem Found.congr {lookup lookup' : String → Option Json} (h : Found lookup t)
    (hsame : ∀ key, key ≠ "category" → key ≠ "status" → lookup' key = lookup key)
    {category : Category} (hcategory : Fields.found .plain lookup' "category"
      Category.enumeration.decoder (.defaulted .unknown) = some category)
    {status : Status} (hstatus : Fields.found .plain lookup' "status"
      Status.enumeration.decoder (.defaulted .unknown) = some status) :
    Found lookup' { t with category := category, status := status } where
  id := (Fields.found_congr (hsame _ (by decide) (by decide)) _ _).trans h.id
  name := (Fields.found_congr (hsame _ (by decide) (by decide)) _ _).trans h.name
  language := (Fields.found_congr (hsame _ (by decide) (by decide)) _ _).trans h.language
  category := hcategory
  status := hstatus
  ttl := (Fields.found_congr (hsame _ (by decide) (by decide)) _ _).trans h.ttl
  format := (Fields.found_congr (hsame _ (by decide) (by decide)) _ _).trans h.format
  subCategory := (Fields.found_congr (hsame _ (by decide) (by decide)) _ _).trans h.subCategory
  components := (Fields.found_congr (hsame _ (by decide) (by decide)) _ _).trans h.components

/-- The components of a template are read from what stands under their key. -/
theorem focus_components (hvalue : value.IsValue) (h : Template.decoder.run value = .ok t)
    (hne : t.components ≠ []) :
    Focus Template.decoder.run ((list Component.decoder).ofJson .plain) [componentsStep] value
      t.components fun cs => { t with components := cs } := by
  obtain ⟨record, cs, hrecord, rfl, hfound⟩ := Fields.exists_focus (by decide) hvalue h
  obtain ⟨_, sub, ⟨_, format, ⟨_, ttl, ⟨_, status, ⟨_, category, ⟨_, language, ⟨_, name,
    ⟨_, id, rfl, -, rfl⟩, -, rfl⟩, -, rfl⟩, -, rfl⟩, -, rfl⟩, -, rfl⟩, -, rfl⟩, -, rfl⟩ := hrecord
  rcases hfound with hdefault | hfocus
  · cases hdefault
    exact absurd rfl hne
  · exact hfocus

/-- A component of a template is read from the document that its path leads to. -/
theorem focus_component (hvalue : value.IsValue) (h : Template.decoder.run value = .ok t)
    {c : Component} {path : List Step} {write : Component → List Component}
    (hlies : c.Lies path t.components write) :
    ∃ context, Focus Template.decoder.run (Component.decoder.ofJson context)
      (componentsStep :: path) value c fun c' => { t with components := write c' } := by
  obtain ⟨context, hfocus⟩ := hlies.focus .plain
  exact ⟨context, (focus_components hvalue h hlies.ne_nil).trans hvalue hfocus⟩

/-- A button of a template is read from the document that its path leads to. -/
theorem focus_button (hvalue : value.IsValue) (h : Template.decoder.run value = .ok t)
    {bs : List Button} {path : List Step} {write : Component → List Component}
    (hlies : (Component.buttons bs).Lies path t.components write) {i : Nat} {b : Button}
    (hb : bs[i]? = some b) :
    Focus Template.decoder.run (Button.tagged.decoder.ofJson .tagged)
      (componentsStep :: path ++ Component.buttonPath i) value b
      fun b' => { t with components := write (.buttons (bs.set i b')) } :=
  (focus_components hvalue h hlies.ne_nil).trans hvalue fun _ hpart hread =>
    hlies.focus_button hb hpart hread

/-- A name that is not known is read as unknown, where that is allowed. -/
theorem found_put_name {α : Type} {e : Enumeration α} {unknown : α}
    (hother : e.other = some unknown) {name : String} (hname : name ∉ e.named.map Prod.fst)
    (members : List (String × Json)) (key : String) (absence : Absence α) :
    Fields.found .plain (Assoc.find? · (Assoc.put key (.str name) members)) key e.decoder absence
      = some unknown := by
  have hfind : e.find name = .ok unknown := by
    rw [Enumeration.find, show e.named.lookup name = none from Assoc.find?_eq_none hname, hother]
  rw [Fields.found, Assoc.find?_put, if_pos rfl]
  exact toOption_eq_some_iff.mpr hfind

/-- **A changed template is read as what it becomes.** -/
theorem run_of_change {value' : Json} {t' : Template} (hvalue : value.IsValue)
    (h : Template.decoder.run value = .ok t) (hchange : Change value t value' t') :
    value'.IsValue ∧ Template.decoder.run value' = .ok t' := by
  have hput {members : List (String × Json)} {key other : String} (extra : Json)
      (hne : other ≠ key) : Assoc.find? other (Assoc.put key extra members)
        = Assoc.find? other members := by
    rw [Assoc.find?_put, if_neg hne]
  cases hchange with
  | @member members key extra hobject hkey hextra =>
    subst hobject
    obtain ⟨hascending, -⟩ := Json.isValue_obj.mp hvalue
    exact ⟨hvalue.put key hextra, Template.tolerant.put hascending h hkey extra⟩
  | @category members name hobject hname =>
    subst hobject
    obtain ⟨hascending, -⟩ := Json.isValue_obj.mp hvalue
    have hfound := (run_obj_eq_ok_iff hascending.nodup).mp h
    refine ⟨hvalue.put _ rfl, (run_obj_eq_ok_iff hascending.put.nodup).mpr ?_⟩
    refine hfound.congr (fun key hkey _ => hput _ hkey) (found_put_name rfl hname _ _ _) ?_
    exact (Fields.found_congr (hput _ (by decide)) _ _).trans hfound.status
  | @status members name hobject hname =>
    subst hobject
    obtain ⟨hascending, -⟩ := Json.isValue_obj.mp hvalue
    have hfound := (run_obj_eq_ok_iff hascending.nodup).mp h
    refine ⟨hvalue.put _ rfl, (run_obj_eq_ok_iff hascending.put.nodup).mpr ?_⟩
    refine hfound.congr (fun key _ hkey => hput _ hkey) ?_ (found_put_name rfl hname _ _ _)
    exact (Fields.found_congr (hput _ (by decide)) _ _).trans hfound.category
  | component hlies hobject hchange =>
    -- the change lies inside a part that can be exchanged
    have hmembers := hvalue.of_partAt? hobject
    refine ⟨hvalue.setAt _ (hchange.isValue hmembers), ?_⟩
    obtain ⟨context, hfocus⟩ := focus_component hvalue h hlies
    obtain ⟨part, hpart, hread⟩ := hfocus.found
    obtain rfl := Option.some.inj (hpart.symm.trans hobject)
    exact hfocus.replaced _ _ (hchange.ofJson hmembers hread)
  | button hlies hbutton hobject hchange =>
    have hmembers := hvalue.of_partAt? hobject
    refine ⟨hvalue.setAt _ (hchange.isValue hmembers), ?_⟩
    have hfocus := focus_button hvalue h hlies hbutton
    obtain ⟨part, hpart, hread⟩ := hfocus.found
    obtain rfl := Option.some.inj (hpart.symm.trans hobject)
    exact hfocus.replaced _ _ (hchange.ofJson hmembers hread)

/-- Any number of changes of the document of a template, one after the other. -/
inductive Changes (value : Json) (t : Template) : Json → Template → Prop where
  | none : Changes value t value t
  | next {value₁ value₂ : Json} {t₁ t₂ : Template} (before : Changes value t value₁ t₁)
    (hchange : Change value₁ t₁ value₂ t₂) : Changes value t value₂ t₂

/-- **A template is still read when its document has grown.** Each of its components, at any depth,
has its place in the document, and so has each button; and after any number of changes, of any of
them or of the template itself, the document is read as the template with just what was changed
become unknown. -/
theorem run_of_changes (hvalue : value.IsValue) (h : Template.decoder.run value = .ok t) :
    (∀ (c : Component) (path : List Step) (write : Component → List Component),
      c.Lies path t.components write →
        write c = t.components ∧ (value.partAt? (componentsStep :: path)).isSome) ∧
    (∀ (bs : List Button) (path : List Step) (write : Component → List Component) (i : Nat),
      (Component.buttons bs).Lies path t.components write → i < bs.length →
        (value.partAt? (componentsStep :: path ++ Component.buttonPath i)).isSome) ∧
    ∀ (value' : Json) (t' : Template), Changes value t value' t' →
      value'.IsValue ∧ Template.decoder.run value' = .ok t' := by
  refine ⟨fun c path write hlies => ⟨hlies.write_self, ?_⟩,
    fun bs path write i hlies hi => ?_, fun value' t' hchanges => ?_⟩
  · obtain ⟨_, hfocus⟩ := focus_component hvalue h hlies
    obtain ⟨_, hpart, -⟩ := hfocus.found
    exact Option.isSome_of_eq_some hpart
  · obtain ⟨_, hpart, -⟩ := (focus_button hvalue h hlies (List.getElem?_eq_getElem hi)).found
    exact Option.isSome_of_eq_some hpart
  · induction hchanges with
    | none => exact ⟨hvalue, h⟩
    | next _ hchange ih => exact run_of_change ih.1 ih.2 hchange

/-- The notice with a coupon in the words of a later version: its button is of a kind that is not
known, its second card has another member, and so has the template. -/
def laterDocument : Json :=
  .obj [("components", .arr [.obj [("cards", .arr [.arr [.arr [.arr [.str "BUTTONS",
        .arr [.obj [("example", .arr [.str "A1"]), ("text", .str "Copy"),
          ("type", .str "SHARE"), ("url", .null)]]]]],
      .obj [("components", .arr [.obj [("options", .arr []), ("type", .str "POLL"),
        ("votes", .num (.int 3))]])]]),
      ("type", .str "CAROUSEL")]]),
    ("id", .null), ("language", .str "en"), ("name", .str "coupon"), ("status", .str "NEW"),
    ("version", .num (.int 2))]

/-- What the later notice is read as. -/
def laterNotice : Template :=
  { couponNotice with components := [.carousel [[.buttons [.unknown]], [.unknown]]] }

theorem changes_laterDocument : Changes couponDocument couponNotice laterDocument laterNotice := by
  have hbuttons : (Component.buttons [.copyCode ⟨some "Copy", none, some (.arr [.str "A1"])⟩]).Lies
      [.item 0, .field "cards" 1, .item 0, .field "components" 0, .item 0] couponNotice.components
      _ :=
    .card rfl rfl (.here rfl)
  have hpoll : Component.unknown.Lies
      [.item 0, .field "cards" 1, .item 1, .field "components" 0, .item 0] laterNotice.components
      _ :=
    .card rfl rfl (.here rfl)
  have hversion : "version" ∉ Template.keys := by decide
  have hshare : "SHARE" ∉ Button.types := by decide
  have hoptions : "options" ∉ Component.unknown.keys := by decide
  have hnumber : (Json.num (.int 2)).IsValue := rfl
  have hempty : (Json.arr []).IsValue := rfl
  have hbefore : Changes couponDocument couponNotice _ laterNotice :=
    .next (.next .none (.member rfl hversion hnumber))
      (.button hbuttons (i := 0) rfl rfl (.type hshare))
  exact .next hbefore (.component hpoll rfl (.member hoptions hempty))

theorem run_laterDocument :
    couponDocument.IsValue ∧ Template.decoder.run couponDocument = .ok couponNotice ∧
      Template.decoder.run laterDocument = .ok laterNotice := by
  have hvalue : couponDocument.IsValue := by decide +kernel
  have hread : Template.decoder.run couponDocument = .ok couponNotice := rfl
  exact ⟨hvalue, hread, ((run_of_changes hvalue hread).2.2 _ _ changes_laterDocument).2⟩

end Template

end Courier

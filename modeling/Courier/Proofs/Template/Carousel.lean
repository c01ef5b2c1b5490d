import Courier.Proofs.Decode.Tag
import Courier.Proofs.Http.Query
import Courier.Proofs.Template.Evolution

/-!
# Components in carousels

A component can stand in a template or on the card of a carousel, at any depth. Everything inside a
component is read among tagged parts, and so is a component on a card; only a component of the
template itself is read outside of them. So the two places read a component alike but for its own
tag: on a card the tag may be the number of a type, and then the component is read like one with
the name of that type (`Template.run_onCard_iff`).
-/

namespace Courier

open Decoder

section Singleton

variable {β : Type} {d : Decoder β} {context : Context} {item : Json}

/-- A list of one item is read as what the item is read as. -/
theorem Decoder.ofJson_list_singleton :
    d.list.ofJson context (.arr [item]) = (d.ofJson context item).map fun b => [b] := by
  show [item].mapM (d.ofJson context) = _
  rw [List.mapM_cons, List.mapM_nil]
  cases d.ofJson context item <;> rfl

/-- So is a record whose only field is such a list. -/
theorem Fields.ofJson_singleton {name noun : String} :
    (((make id).defaulted name d.list []).decoder noun).ofJson context
      (.obj [(name, .arr [item])]) = (d.ofJson context item).map fun b => [b] := by
  show ((make id).defaulted name d.list []).ofMembers context [(name, .arr [item])] = _
  rw [ofMembers, defaulted, List.foldlM_cons, fill, if_pos rfl, ofJson_list_singleton]
  cases d.ofJson context item <;> rfl

end Singleton

namespace Component

/-! ## Documents of carousels -/

/-- The document of a carousel of one card with one component. -/
def onCard (document : Json) : Json :=
  .obj [("cards", .arr [.obj [("components", .arr [document])]]), ("type", .str "CAROUSEL")]

/-- A carousel of one card with one component. -/
def asCard (c : Component) : Component :=
  .carousel [[c]]

/-- The document of a component says its type by a number. -/
def Numbered (document : Json) : Prop :=
  (tagged decoder).Numbered document

/-- The document of a component with its type spelled out, if it is a number. A number that is not
one of a type stands for an unknown one. -/
def spelled (document : Json) : Json :=
  (tagged decoder).spelled "UNKNOWN" document

variable {document : Json} {c : Component}

theorem isValue_onCard (h : document.IsValue) : (onCard document).IsValue := by
  have hitem {item : Json} (h : item.IsValue) : (Json.arr [item]).IsValue :=
    Json.isValue_arr.mpr fun _ hmem => List.mem_singleton.mp hmem ▸ h
  have hcard : (Json.obj [("components", .arr [document])]).IsValue :=
    Json.isValue_obj.mpr ⟨List.pairwise_singleton _ _,
      fun _ hmem => List.mem_singleton.mp hmem ▸ hitem h⟩
  have hkeys : "cards" < "type" := by decide
  refine Json.isValue_obj.mpr ⟨List.pairwise_pair.mpr hkeys, fun m hm => ?_⟩
  rcases List.mem_cons.mp hm with rfl | hm
  · exact hitem hcard
  · obtain rfl := List.mem_singleton.mp hm
    rfl

theorem isValue_onCard_iterate (h : document.IsValue) (n : Nat) :
    (onCard^[n] document).IsValue := by
  induction n with
  | zero => exact h
  | succ n ih =>
    rw [Function.iterate_succ_apply']
    exact isValue_onCard ih

/-- **A component on a card is read among tagged parts**, wherever the carousel stands. -/
theorem decoder_onCard (context : Context) (document : Json) :
    decoder.ofJson context (onCard document) = (decoder.ofJson .tagged document).map asCard := by
  rw [decoder_ofJson]
  show Tagged.part carousel (cardsDecoder decoder)
    (.obj [("cards", .arr [.obj [("components", .arr [document])]])]) = _
  rw [Tagged.part, cardsDecoder, Fields.ofJson_singleton, Fields.ofJson_singleton]
  cases decoder.ofJson .tagged document with
  | error m => rfl
  | ok c => rfl

/-- Through any number of carousels a component is read like one on the innermost card. -/
theorem decoder_onCard_iterate (context : Context) (document : Json) (n : Nat) :
    decoder.ofJson context (onCard^[n + 1] document)
      = (decoder.ofJson .tagged document).map asCard^[n + 1] := by
  induction n generalizing context with
  | zero => exact decoder_onCard context document
  | succ n ih =>
    rw [Function.iterate_succ_apply' onCard, decoder_onCard, ih]
    cases decoder.ofJson .tagged document with
    | error m => rfl
    | ok c => exact congrArg Except.ok (Function.iterate_succ_apply' asCard _ _).symm

theorem asCard_injective : Function.Injective asCard := by
  intro c c' h
  injection h with hcards
  injection hcards with hcard
  injection hcard

theorem decoder_onCard_eq_ok_iff {context : Context} {n : Nat} :
    decoder.ofJson context (onCard^[n + 1] document) = .ok (asCard^[n + 1] c) ↔
      decoder.ofJson .tagged document = .ok c := by
  rw [decoder_onCard_iterate]
  constructor
  · intro h
    obtain ⟨c', hread, hc⟩ := map_eq_ok_iff.mp h
    rw [hread, asCard_injective.iterate _ hc]
  · intro h
    rw [h]
    rfl

/-- Among tagged parts the number of a type is as good as its name. -/
theorem decoder_spelled (hdocument : document.IsValue) (context : Context) :
    decoder.ofJson context (spelled document) = .ok c ↔
      decoder.ofJson .tagged document = .ok c := by
  have hnames : ((tagged decoder).named.map Prod.fst).Nodup := by
    show ["HEADER", "BODY", "FOOTER", "BUTTONS", "CAROUSEL", "LIMITED_TIME_OFFER",
      "CALL_PERMISSION_REQUEST", "UNKNOWN"].Nodup
    decide
  rw [decoder_ofJson, decoder_ofJson]
  exact Tagged.decode_spelled hnames rfl rfl hdocument context

/-- Outside of tagged values a component is read alike, but not with a number for its type. -/
theorem decoder_plain_iff (hdocument : document.IsValue) :
    decoder.ofJson .plain document = .ok c ↔
      decoder.ofJson .tagged document = .ok c ∧ ¬Numbered document := by
  rw [decoder_ofJson, decoder_ofJson]
  exact Tagged.decode_plain_iff hdocument

end Component

/-! ## Templates around a component -/

namespace Template

open Component

variable {document item item' : Json} {t : Template} {x x' : Component}

/-- The document of a template with one component, of a document, in place of its components. -/
def withComponent (document item : Json) : Json :=
  componentsStep.setPart document (.arr [item])

/-- A template with one component in place of its components. -/
def ofComponent (t : Template) (x : Component) : Template :=
  { t with components := [x] }

theorem isValue_withComponent (hdocument : document.IsValue) (hitem : item.IsValue) :
    (withComponent document item).IsValue :=
  hdocument.setPart (Json.isValue_arr.mpr fun _ hmem => List.mem_singleton.mp hmem ▸ hitem)

/-- A step that leads somewhere leads to what is put there. -/
theorem part?_withComponent (hplace : (componentsStep.part? document).isSome) :
    componentsStep.part? (withComponent document item) = some (.arr [item]) := by
  cases document with
  | obj members =>
    show Assoc.find? "components" (Assoc.put "components" (.arr [item]) members) = _
    rw [Assoc.find?_put, if_pos rfl]
  | arr items =>
    obtain ⟨part, hpart⟩ := Option.isSome_iff_exists.mp hplace
    obtain ⟨hlt, -⟩ := List.getElem?_eq_some_iff.mp hpart
    exact List.getElem?_set_self hlt
  | null | bool | num | str => cases hplace

/-- What is put somewhere replaces what was put there before. -/
theorem withComponent_withComponent (hdocument : document.IsValue) :
    componentsStep.setPart (withComponent document item) (.arr [item'])
      = withComponent document item' := by
  cases document with
  | obj members =>
    obtain ⟨hascending, -⟩ := Json.isValue_obj.mp hdocument
    refine congrArg Json.obj (hascending.put.put.ext hascending.put fun key => ?_)
    rw [Assoc.find?_put, Assoc.find?_put, Assoc.find?_put]
    split <;> rfl
  | arr items => exact congrArg Json.arr (List.set_set ..)
  | null | bool | num | str => rfl

/-- A template is read around a component, and around any other component in its place. -/
theorem run_withComponent (hdocument : document.IsValue) (hitem : item.IsValue)
    (hplace : (componentsStep.part? document).isSome)
    (h : decoder.run (withComponent document item) = .ok (t.ofComponent x)) :
    Component.decoder.ofJson .plain item = .ok x ∧
      ∀ item' x', Component.decoder.ofJson .plain item' = .ok x' →
        decoder.run (withComponent document item') = .ok (t.ofComponent x') := by
  have hlist {item : Json} {x : Component} :
      (list Component.decoder).ofJson .plain (.arr [item]) = .ok [x] ↔
        Component.decoder.ofJson .plain item = .ok x := by
    rw [ofJson_list_singleton, map_eq_ok_iff]
    constructor
    · rintro ⟨x', hread, ⟨⟩⟩
      exact hread
    · exact fun hread => ⟨x, hread, rfl⟩
  have hfocus := focus_components (isValue_withComponent hdocument hitem) h (List.cons_ne_nil _ _)
  constructor
  · obtain ⟨part, hpart, hread⟩ := hfocus.found
    rw [Json.partAt?, part?_withComponent hplace] at hpart
    obtain rfl := Option.some.inj hpart
    exact hlist.mp hread
  · intro item' x' hitem'
    have hreplaced := hfocus.replaced _ _ (hlist.mpr hitem')
    rw [Json.setAt, part?_withComponent hplace] at hreplaced
    exact withComponent_withComponent hdocument ▸ hreplaced

/-- Two components are read alike in a template if they are read alike by themselves. -/
theorem run_withComponent_congr (hdocument : document.IsValue) (hitem : item.IsValue)
    (hitem' : item'.IsValue) (hplace : (componentsStep.part? document).isSome)
    (h : Component.decoder.ofJson .plain item = .ok x ↔
      Component.decoder.ofJson .plain item' = .ok x') :
    decoder.run (withComponent document item) = .ok (t.ofComponent x) ↔
      decoder.run (withComponent document item') = .ok (t.ofComponent x') := by
  constructor
  · intro hrun
    obtain ⟨hread, hothers⟩ := run_withComponent hdocument hitem hplace hrun
    exact hothers item' x' (h.mp hread)
  · intro hrun
    obtain ⟨hread, hothers⟩ := run_withComponent hdocument hitem' hplace hrun
    exact hothers item x (h.mpr hread)

/-- What is written in a text is read from the text as from the value. -/
theorem parse_written_iff {value : Json} {text : String} (htext : value.WrittenIn text) :
    decoder.parse text = .ok t ↔ decoder.run value = .ok t := by
  obtain ⟨tree, htree, hkeys, rfl⟩ := htext
  have hread : (decoder.parse text).toOption = (decoder.run tree.normalize).toOption :=
    (agrees_decoder.toOption_parse htree).trans (steady_decoder .plain hkeys).symm
  rw [← toOption_eq_some_iff, hread, toOption_eq_some_iff]

/-- **A component reads the same in a template as in carousels at any depth, if its type is not
said by a number.** A template with the component in place of its components is read as what a
template is read as that has the component on the card of a carousel, which may lie on a card again,
but for a component whose type is a number: it is read on cards only, and there like the component
with its type spelled out. The same holds of reading from texts. -/
theorem run_onCard_iff (hdocument : document.IsValue)
    (hplace : (componentsStep.part? document).isSome) (hitem : item.IsValue) (n : Nat) :
    (decoder.run (withComponent document item) = .ok (t.ofComponent x) ↔
      decoder.run (withComponent document (onCard^[n + 1] item))
          = .ok (t.ofComponent (asCard^[n + 1] x)) ∧
        ¬Numbered item) ∧
    (decoder.run (withComponent document (onCard^[n + 1] item))
        = .ok (t.ofComponent (asCard^[n + 1] x)) ↔
      decoder.run (withComponent document (spelled item)) = .ok (t.ofComponent x)) ∧
    ∀ text text', (withComponent document item).WrittenIn text →
      (withComponent document (onCard^[n + 1] item)).WrittenIn text' →
      (decoder.parse text = .ok (t.ofComponent x) ↔
        decoder.parse text' = .ok (t.ofComponent (asCard^[n + 1] x)) ∧ ¬Numbered item) := by
  have hcards := isValue_onCard_iterate hitem (n + 1)
  have hspelled : decoder.run (withComponent document (onCard^[n + 1] item))
        = .ok (t.ofComponent (asCard^[n + 1] x)) ↔
      decoder.run (withComponent document (spelled item)) = .ok (t.ofComponent x) :=
    run_withComponent_congr hdocument hcards (Tagged.isValue_spelled hitem) hplace
      (decoder_onCard_eq_ok_iff.trans (decoder_spelled hitem .plain).symm)
  have hplain : decoder.run (withComponent document item) = .ok (t.ofComponent x) ↔
      decoder.run (withComponent document (onCard^[n + 1] item))
          = .ok (t.ofComponent (asCard^[n + 1] x)) ∧ ¬Numbered item := by
    by_cases hnumbered : Numbered item
    · -- with a number for its type the component is not read by itself
      refine iff_of_false (fun hrun => ?_) fun h => h.2 hnumbered
      obtain ⟨hread, -⟩ := run_withComponent hdocument hitem hplace hrun
      exact ((decoder_plain_iff hitem).mp hread).2 hnumbered
    · have hsame : Component.decoder.ofJson .plain item = .ok x ↔
          Component.decoder.ofJson .plain (onCard^[n + 1] item) = .ok (asCard^[n + 1] x) := by
        rw [decoder_onCard_eq_ok_iff, decoder_plain_iff hitem, and_iff_left hnumbered]
      rw [and_iff_left hnumbered]
      exact run_withComponent_congr hdocument hitem hcards hplace hsame
  refine ⟨hplain, hspelled, fun text text' htext htext' => ?_⟩
  rw [parse_written_iff htext, parse_written_iff htext']
  exact hplain

/-- A greeting without its component. -/
def greetingDocument : Json :=
  .obj [("components", .arr []), ("language", .str "en"), ("name", .str "greeting")]

/-- What the greeting is read as, but for its component. -/
def greeting : Template :=
  { (default : Template) with
    name := "greeting", language := "en", category := .unknown, status := .unknown }

/-- The body of the greeting, with a type. -/
def greetingBody (type : Json) : Json :=
  .obj [("text", .str "Hi"), ("type", type)]

/-- The greeting with its body in the template itself. -/
def plainGreeting : Json :=
  withComponent greetingDocument (greetingBody (.str "BODY"))

/-- The greeting with its body on a card of a carousel on a card. -/
def nestedGreeting : Json :=
  withComponent greetingDocument (onCard (onCard (greetingBody (.str "BODY"))))

theorem run_greetings :
    ¬Numbered (greetingBody (.str "BODY")) ∧
    decoder.run plainGreeting = .ok (greeting.ofComponent (.body ⟨some "Hi", none, none⟩)) ∧
    decoder.run nestedGreeting
      = .ok (greeting.ofComponent (asCard (asCard (.body ⟨some "Hi", none, none⟩)))) ∧
    decoder.parse plainGreeting.text
      = .ok (greeting.ofComponent (.body ⟨some "Hi", none, none⟩)) ∧
    decoder.parse nestedGreeting.text
      = .ok (greeting.ofComponent (asCard (asCard (.body ⟨some "Hi", none, none⟩)))) := by
  have hdocument : greetingDocument.IsValue ∧ (greetingBody (.str "BODY")).IsValue := by
    decide +kernel
  have hvalue : plainGreeting.IsValue ∧ nestedGreeting.IsValue := by decide +kernel
  have hdepth : plainGreeting.depth ≤ Scan.maxDepth ∧ nestedGreeting.depth ≤ Scan.maxDepth := by
    decide +kernel
  have hintegral {item : Json} (h : item.Integral) :
      (withComponent greetingDocument item).Integral := by
    show (Json.obj [("components", .arr [item]), ("language", .str "en"),
      ("name", .str "greeting")]).Integral
    simp [Json.Integral, Json.IntegralItems, Json.IntegralMembers, h]
  have hitem : (greetingBody (.str "BODY")).Integral ∧
      (onCard (onCard (greetingBody (.str "BODY")))).Integral := by
    simp [greetingBody, onCard, Json.Integral, Json.IntegralItems, Json.IntegralMembers]
  have hplain := Json.writtenIn_text hvalue.1 (hintegral hitem.1) hdepth.1
  have hnested := Json.writtenIn_text hvalue.2 (hintegral hitem.2) hdepth.2
  -- the greeting lies on a card of a card
  obtain ⟨hiff, -, htexts⟩ := run_onCard_iff (t := greeting)
    (x := .body ⟨some "Hi", none, none⟩) hdocument.1 rfl hdocument.2 1
  have hrun : decoder.run plainGreeting
      = .ok (greeting.ofComponent (.body ⟨some "Hi", none, none⟩)) := rfl
  obtain ⟨hcards, hname⟩ := hiff.mp hrun
  have hparse := (parse_written_iff hplain).mpr hrun
  exact ⟨hname, hrun, hcards, hparse, ((htexts _ _ hplain hnested).mp hparse).1⟩

/-- A body with the number 1 for its type is read on a card, and refused by itself. -/
theorem numberedBody_differs :
    (∀ t, decoder.run (withComponent greetingDocument (greetingBody (.num (.int 1)))) ≠ .ok t) ∧
    decoder.run (withComponent greetingDocument (onCard (greetingBody (.num (.int 1)))))
      = .ok (greeting.ofComponent (asCard (.body ⟨some "Hi", none, none⟩))) := by
  constructor
  · intro t hrun
    cases hrun
  · rfl

end Template

end Courier

import Courier.Proofs.Assoc
import Courier.Proofs.Json.RoundTrip
import Courier.Proofs.Number.Decimal
import Courier.Session.StatusTarget

/-!
# Where the ids of a receipt come from

Each of the two ids is taken from the first source that gives one: what was asked for, and then the
places of the incoming event in their order (`StatusTarget.resolve_exact`). A source that gives none,
because nothing is there or something else than an id, does not end the search. An id that was found
has no blanks at its ends and is not empty, so nothing is left for the builder of the receipt to
refuse, and it does not change the id.
-/

namespace Courier

/-! ## Paths -/

/-- The step to an item is the decimal text of its number. -/
theorem itemIndex?_eq_some_iff {step : String} {index : Nat} :
    itemIndex? step = some index ↔ step = Nat.repr index := by
  rw [itemIndex?, ← String.toList_inj, Nat.repr_eq_ofList_toDigits, String.toList_ofList]
  generalize step.toList = cs
  simp only [Option.ite_none_right_eq_some, Option.some.injEq, List.all_eq_true]
  constructor
  · rintro ⟨⟨hne, hdigits, hzero⟩, rfl⟩
    exact (Text.toDigits_digitsValue hdigits hne hzero).symm
  · rintro rfl
    refine ⟨⟨Nat.toDigits_ne_nil, fun c => Text.isAsciiDigit_of_mem_toDigits, ?_⟩,
      Text.digitsValue_toDigits index⟩
    rcases Nat.eq_zero_or_pos index with rfl | hpos
    · exact .inr rfl
    · exact .inl (Scan.head?_toDigits_ne_zero hpos)

/-- A path leads from a value to a part of it. A step is the key of a member of an object, or the
decimal number of an item of an array. -/
inductive Json.LeadsTo : Json → List String → Json → Prop
  | here (value : Json) : LeadsTo value [] value
  | member {members : List (String × Json)} {key : String} {path : List String} {value part : Json}
    (hkey : Assoc.find? key members = some value) (hpart : LeadsTo value path part) :
    LeadsTo (.obj members) (key :: path) part
  | item {items : List Json} {index : Nat} {path : List String} {value part : Json}
    (hindex : items[index]? = some value) (hpart : LeadsTo value path part) :
    LeadsTo (.arr items) (Nat.repr index :: path) part

theorem Json.at?_eq_some_iff {value part : Json} {path : List String} :
    value.at? path = some part ↔ value.LeadsTo path part := by
  induction path generalizing value with
  | nil =>
    have hhere : value.at? [] = some value := by cases value <;> rfl
    rw [hhere, Option.some.injEq]
    constructor
    · rintro rfl
      exact .here value
    · rintro ⟨⟩
      rfl
  | cons step path ih =>
    -- a step is a key in an object and a number in an array, and leads nowhere else
    cases value with
    | obj members =>
      have hat : (Json.obj members).at? (step :: path)
          = (Assoc.find? step members).bind fun value => value.at? path := by
        rw [Json.at?, Assoc.find?]
        cases members.lookup step <;> rfl
      rw [hat, Option.bind_eq_some_iff]
      constructor
      · rintro ⟨value, hkey, hpart⟩
        exact .member hkey (ih.mp hpart)
      · rintro (_ | ⟨hkey, hpart⟩)
        exact ⟨_, hkey, ih.mpr hpart⟩
    | arr items =>
      have hat : (Json.arr items).at? (step :: path)
          = (itemIndex? step).bind fun index => items[index]?.bind fun value => value.at? path := by
        rw [Json.at?]
        cases itemIndex? step with
        | none => rfl
        | some index =>
          rw [Option.bind_some, Option.bind_some]
          cases items[index]? <;> rfl
      simp only [hat, Option.bind_eq_some_iff]
      constructor
      · rintro ⟨index, hstep, value, hindex, hpart⟩
        rw [itemIndex?_eq_some_iff.mp hstep]
        exact .item hindex (ih.mp hpart)
      · rintro (_ | _ | ⟨hindex, hpart⟩)
        exact ⟨_, itemIndex?_eq_some_iff.mpr rfl, _, hindex, ih.mpr hpart⟩
    | null | bool | num | str =>
      constructor
      · intro h
        cases h
      · rintro ⟨⟩

/-! ## Sources -/

/-- What an id can be taken from: what was given for it, or a place in an event. -/
inductive IdSource where
  | given (text : Option String)
  | place (path : List String)

namespace IdSource

variable {event : Option Json} {source : IdSource} {sources : List IdSource} {id : String}

/-- A source gives an id. A text gives what is left without the blanks at its ends, unless that is
nothing, and a number in an event gives its text. -/
inductive Gives (event : Option Json) : IdSource → String → Prop
  | given {text id : String} (htrims : Text.Trims text id) (hne : id ≠ "") :
    Gives event (.given (some text)) id
  | text {value : Json} {path : List String} {text id : String} (hevent : event = some value)
    (hplace : value.LeadsTo path (.str text)) (htrims : Text.Trims text id) (hne : id ≠ "") :
    Gives event (.place path) id
  | number {value : Json} {path : List String} {number : Number} (hevent : event = some value)
    (hplace : value.LeadsTo path (.num number)) : Gives event (.place path) (Json.num number).text

/-- The first of several sources to give an id gives this one. -/
def First (event : Option Json) (sources : List IdSource) (id : String) : Prop :=
  ∃ before source after, sources = before ++ source :: after ∧ source.Gives event id ∧
    ∀ earlier ∈ before, ∀ other, ¬earlier.Gives event other

/-- The id that is read from a source. -/
def id? (event : Option Json) : IdSource → Option String
  | .given text => text.bind idOfText?
  | .place path => event.bind fun event => (event.at? path).bind idOfJson?

theorem idOfText?_eq_some_iff {text : String} :
    idOfText? text = some id ↔ Text.Trims text id ∧ id ≠ "" := by
  rw [Text.trims_iff, idOfText?, Option.ite_none_left_eq_some, Option.some.injEq]
  constructor
  · rintro ⟨hne, rfl⟩
    exact ⟨rfl, hne⟩
  · rintro ⟨rfl, hne⟩
    exact ⟨hne, rfl⟩

theorem id?_eq_some_iff : source.id? event = some id ↔ source.Gives event id := by
  cases source with
  | given text =>
    rw [id?, Option.bind_eq_some_iff]
    constructor
    · rintro ⟨text, rfl, hid⟩
      obtain ⟨htrims, hne⟩ := idOfText?_eq_some_iff.mp hid
      exact .given htrims hne
    · rintro ⟨htrims, hne⟩
      exact ⟨_, rfl, idOfText?_eq_some_iff.mpr ⟨htrims, hne⟩⟩
  | place path =>
    simp only [id?, Option.bind_eq_some_iff, Json.at?_eq_some_iff]
    constructor
    · rintro ⟨value, hevent, part, hplace, hid⟩
      -- of what can stand at a place only texts and numbers are ids
      cases part with
      | str text =>
        obtain ⟨htrims, hne⟩ := idOfText?_eq_some_iff.mp hid
        exact .text hevent hplace htrims hne
      | num number =>
        obtain rfl : number.text = id := Option.some.inj hid
        exact .number hevent hplace
      | null | bool | arr | obj => cases hid
    · intro h
      cases h with
      | text hevent hplace htrims hne =>
        exact ⟨_, hevent, _, hplace, idOfText?_eq_some_iff.mpr ⟨htrims, hne⟩⟩
      | number hevent hplace => exact ⟨_, hevent, _, hplace, rfl⟩

theorem id?_eq_none_iff : source.id? event = none ↔ ∀ id, ¬source.Gives event id := by
  simp only [Option.eq_none_iff_forall_ne_some, ne_eq, id?_eq_some_iff]

/-- A search through sources finds the id of the first one that gives any. -/
theorem findSome?_eq_some_iff :
    sources.findSome? (id? event) = some id ↔ First event sources id := by
  simp only [List.findSome?_eq_some_iff, id?_eq_some_iff, id?_eq_none_iff, First]

/-- It finds none only if no source gives any. -/
theorem findSome?_eq_none_iff :
    sources.findSome? (id? event) = none ↔ ∀ source ∈ sources, ∀ id, ¬source.Gives event id := by
  simp only [List.findSome?_eq_none_iff, id?_eq_none_iff]

/-- An id is resolved by a search through what was given and the places. -/
theorem resolveId?_eq (given : Option String) (event : Option Json) (places : List (List String)) :
    resolveId? given event places
      = (.given given :: places.map .place).findSome? (id? event) := by
  have hplaces : (event.bind fun event => places.findSome? fun place =>
      (event.at? place).bind idOfJson?) = (places.map .place).findSome? (id? event) := by
    rw [List.findSome?_map]
    cases event with
    | none => exact (List.findSome?_eq_none_iff.mpr fun _ _ => rfl).symm
    | some value => rfl
  rw [resolveId?, List.findSome?_cons, ← hplaces, id?]
  cases given.bind idOfText? <;> rfl

/-- An id has no blanks at its ends, and it is not empty. -/
theorem Gives.trims (h : source.Gives event id) : Text.Trims id id ∧ id ≠ "" := by
  have hagain {text : String} (htrims : Text.Trims text id) : Text.Trims id id := by
    obtain ⟨before, after, -, -, -, htrimmed⟩ := htrims
    exact ⟨"", "", by simp, by simp, by simp, htrimmed⟩
  cases h with
  | given htrims hne | text _ _ htrims hne => exact ⟨hagain htrims, hne⟩
  | @number value path number _ _ =>
    have hnumeral : Decimal.IsNumeral (Json.num number).text.toList := number.isNumeral_text
    refine ⟨Text.trims_self fun c hc => Decimal.isBlank_of_inText (hnumeral.2 c hc), ?_⟩
    intro hempty
    exact hnumeral.1 (by rw [hempty]; rfl)

end IdSource

namespace StatusTarget

open IdSource

/-- The sources for the id of the phone number, in the order of the search. -/
def phoneNumberSources (given : Option String) : List IdSource :=
  [.given given, .place ["phoneNumberId"], .place ["phone_number_id"],
   .place ["entry", "0", "changes", "0", "value", "metadata", "phone_number_id"]]

/-- The sources for the id of the message, in the order of the search. -/
def messageSources (given : Option String) : List IdSource :=
  [.given given, .place ["messages", "0", "id"], .place ["message", "id"], .place ["message_id"],
   .place ["entry", "0", "changes", "0", "value", "messages", "0", "id"]]

variable {phoneNumberId messageId : Option String} {event : Option Json}

theorem resolve_eq (phoneNumberId messageId : Option String) (event : Option Json) :
    resolve phoneNumberId messageId event
      = match (phoneNumberSources phoneNumberId).findSome? (id? event) with
        | none => .error .unresolvedPhoneNumberId
        | some phoneNumber =>
          match (messageSources messageId).findSome? (id? event) with
          | none => .error .unresolvedMessageId
          | some message => .ok ⟨phoneNumber, message⟩ := by
  rw [resolve, resolveId?_eq, resolveId?_eq]
  rfl

theorem resolve_eq_ok_iff {target : StatusTarget} :
    resolve phoneNumberId messageId event = .ok target ↔
      First event (phoneNumberSources phoneNumberId) target.phoneNumberId ∧
        First event (messageSources messageId) target.messageId := by
  rw [resolve_eq, ← findSome?_eq_some_iff, ← findSome?_eq_some_iff]
  obtain ⟨phoneNumber, message⟩ := target
  cases (phoneNumberSources phoneNumberId).findSome? (id? event) with
  | none => simp
  | some first => cases (messageSources messageId).findSome? (id? event) <;> simp

theorem resolve_eq_unresolvedPhoneNumberId_iff :
    resolve phoneNumberId messageId event = .error .unresolvedPhoneNumberId ↔
      ∀ source ∈ phoneNumberSources phoneNumberId, ∀ id, ¬source.Gives event id := by
  rw [resolve_eq, ← findSome?_eq_none_iff]
  cases (phoneNumberSources phoneNumberId).findSome? (id? event) with
  | none => simp
  | some first => cases (messageSources messageId).findSome? (id? event) <;> simp

theorem resolve_eq_unresolvedMessageId_iff :
    resolve phoneNumberId messageId event = .error .unresolvedMessageId ↔
      (∃ source ∈ phoneNumberSources phoneNumberId, ∃ id, source.Gives event id) ∧
        ∀ source ∈ messageSources messageId, ∀ id, ¬source.Gives event id := by
  have hsome : (∃ source ∈ phoneNumberSources phoneNumberId, ∃ id, source.Gives event id) ↔
      (phoneNumberSources phoneNumberId).findSome? (id? event) ≠ none := by
    rw [ne_eq, findSome?_eq_none_iff]
    push Not
    rfl
  rw [resolve_eq, hsome, ← findSome?_eq_none_iff]
  cases (phoneNumberSources phoneNumberId).findSome? (id? event) with
  | none => simp
  | some first => cases (messageSources messageId).findSome? (id? event) <;> simp

/-! ## Building -/

/-- For an id that a source gave both receipts are built, and they have that id. -/
theorem builds {source : IdSource} {target : StatusTarget}
    (h : source.Gives event target.messageId) :
    target.markAsRead
        = .ok ⟨target.phoneNumberId, ⟨"whatsapp", "read", target.messageId, none⟩⟩ ∧
      target.showTyping
        = .ok ⟨target.phoneNumberId, ⟨"whatsapp", "read", target.messageId, some "text"⟩⟩ := by
  obtain ⟨htrims, hne⟩ := h.trims
  -- the builder trims the id again and refuses what is empty then
  have htrim : Text.trim target.messageId = target.messageId := (Text.trims_iff.mp htrims).symm
  have hreceipt : ReadReceipt.forMessage target.messageId
      = .ok ⟨"whatsapp", "read", target.messageId, none⟩ := by
    rw [ReadReceipt.forMessage, htrim, if_neg hne]
  rw [markAsRead, showTyping, ReadReceipt.withTyping, hreceipt]
  exact ⟨rfl, rfl⟩

/-- **How the ids of a receipt are resolved.** Each id is what the first source gives that gives any,
whatever the others hold. It fails for want of the phone number exactly if no source gives its id,
and for want of the message exactly if only the message is missing. From ids that were resolved both
receipts are built, and they carry these ids. -/
theorem resolve_exact (phoneNumberId messageId : Option String) (event : Option Json) :
    let phoneNumbers := phoneNumberSources phoneNumberId
    let messages := messageSources messageId
    let result := resolve phoneNumberId messageId event
    (∀ target, result = .ok target ↔
      First event phoneNumbers target.phoneNumberId ∧ First event messages target.messageId) ∧
    (result = .error .unresolvedPhoneNumberId ↔
      ∀ source ∈ phoneNumbers, ∀ id, ¬source.Gives event id) ∧
    (result = .error .unresolvedMessageId ↔
      (∃ source ∈ phoneNumbers, ∃ id, source.Gives event id) ∧
        ∀ source ∈ messages, ∀ id, ¬source.Gives event id) ∧
    ∀ target, result = .ok target →
      target.markAsRead
        = .ok ⟨target.phoneNumberId, ⟨"whatsapp", "read", target.messageId, none⟩⟩ ∧
      target.showTyping
        = .ok ⟨target.phoneNumberId, ⟨"whatsapp", "read", target.messageId, some "text"⟩⟩ := by
  intro phoneNumbers messages result
  refine ⟨fun target => resolve_eq_ok_iff, resolve_eq_unresolvedPhoneNumberId_iff,
    resolve_eq_unresolvedMessageId_iff, ?_⟩
  intro target htarget
  obtain ⟨-, -, source, -, -, hgives, -⟩ := resolve_eq_ok_iff.mp htarget
  exact builds hgives

-- blanks, null and an array without items are passed over, and a number is an id
example :
    let event : Json := .obj [("message_id", .str " m "), ("messages", .arr []),
      ("phoneNumberId", .null), ("phone_number_id", .num (.int 1066))]
    (resolve (some " ") none (some event)).toOption = some ⟨"1066", "m"⟩ := by decide

end StatusTarget

end Courier

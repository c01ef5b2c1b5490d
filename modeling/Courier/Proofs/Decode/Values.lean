import Courier.Proofs.Decode.Member

/-!
# What fields take

A record is determined by the values that the members of an object have under the names of its
fields (`Fields.ofValues`). What a field takes is said here for the fields that most records are
made of: a string that has to be there (`Fields.ofValues_string_iff`), and a part that may be
missing or null (`Fields.ofValues_optional_iff`).
-/

namespace Courier

variable {α β : Type} {context : Context} {values : String → List Json} {name : String} {a : α}

/-! ## Strings -/

theorem Decoder.string_ofJson_iff {value : Json} {s : String} :
    (string.ofJson context value).toOption = some s ↔ value = .str s := by
  cases value with
  | str t =>
    show some t = some s ↔ Json.str t = .str s
    rw [Option.some.injEq, Json.str.injEq]
  | _ =>
    constructor
    · intro h
      cases h
    · intro h
      cases h

/-- A field for a string has to be there once, with a string. -/
theorem Fields.ofValues_string_iff {before : Fields (String → α)} :
    (before.required name Decoder.string).ofValues context values = some a ↔
      ∃ record s, before.ofValues context values = some record ∧ values name = [.str s] ∧
        record s = a := by
  rw [required, ofValues, Option.bind_eq_some_iff]
  refine exists_congr fun record => ?_
  rcases values name with _ | ⟨value, _ | _⟩
  · simp
  · simp only [Option.map_eq_some_iff, Decoder.string_ofJson_iff, List.cons.injEq, and_true,
      exists_and_left]
  · simp

/-- In an array the next item has to be a string. -/
theorem Fields.ofItems_string_iff {before : Fields (String → α)} {expected : String}
    {items rest : List Json} :
    ((before.required name Decoder.string).ofItems context expected items).toOption
        = some (a, rest) ↔
      ∃ record s, (before.ofItems context expected items).toOption = some (record, .str s :: rest) ∧
        record s = a := by
  rw [required, ofItems, toOption_bind, Option.bind_eq_some_iff]
  constructor
  · rintro ⟨⟨record, items⟩, hbefore, hitem⟩
    cases items with
    | nil => cases hitem
    | cons item others =>
      simp only [toOption_bind, toOption_ok, Option.bind_eq_some_iff, Option.some.injEq,
        Prod.mk.injEq, Decoder.string_ofJson_iff] at hitem
      obtain ⟨s, rfl, rfl, rfl⟩ := hitem
      exact ⟨record, s, hbefore, rfl⟩
  · rintro ⟨record, s, hbefore, rfl⟩
    exact ⟨_, hbefore, rfl⟩

/-! ## Parts that may be missing -/

/-- A member that may be missing or null, which is the same, and is otherwise read as something. -/
inductive Optionally (Reads : Json → β → Prop) : Option Json → Option β → Prop
  | absent : Optionally Reads none none
  | null : Optionally Reads (some .null) none
  | present {value : Json} {b : β} (hnull : value ≠ .null) (h : Reads value b) :
    Optionally Reads (some value) (some b)

theorem Optionally.imp {Reads Reads' : Json → β → Prop} {value? : Option Json} {b? : Option β}
    (h : Optionally Reads value? b?) (himp : ∀ value b, Reads value b → Reads' value b) :
    Optionally Reads' value? b? := by
  cases h with
  | absent => exact .absent
  | null => exact .null
  | present hnull h => exact .present hnull (himp _ _ h)

/-- A field that is optional takes no member, null, or what its decoder takes. -/
theorem Fields.ofValues_optional_iff {before : Fields (Option β → α)} {d : Decoder β}
    {value? : Option Json} (hvalues : values name = value?.toList) :
    (before.optional name d).ofValues context values = some a ↔
      ∃ record b?, before.ofValues context values = some record ∧
        Optionally (fun value b => (d.ofJson context value).toOption = some b) value? b? ∧
        record b? = a := by
  rw [optional, ofValues, Option.bind_eq_some_iff, hvalues]
  refine exists_congr fun record => ?_
  cases value? with
  | none =>
    constructor
    · rintro ⟨hbefore, ha⟩
      exact ⟨none, hbefore, .absent, Option.some.inj ha⟩
    · rintro ⟨_, hbefore, ⟨⟩, rfl⟩
      exact ⟨hbefore, rfl⟩
  | some value =>
    show _ ∧ (d.optional.ofJson context value).toOption.map record = some a ↔ _
    -- null is read like a member that is missing
    by_cases hnull : value = .null
    · subst hnull
      constructor
      · rintro ⟨hbefore, ha⟩
        exact ⟨none, hbefore, .null, Option.some.inj ha⟩
      · rintro ⟨_, hbefore, ⟨⟩ | ⟨⟩ | ⟨hnull, -⟩, rfl⟩
        · exact ⟨hbefore, rfl⟩
        · exact absurd rfl hnull
    · rw [Decoder.optional_ofJson hnull, toOption_map, Option.map_map, Option.map_eq_some_iff]
      constructor
      · rintro ⟨hbefore, b, hb, rfl⟩
        exact ⟨some b, hbefore, .present hnull hb, rfl⟩
      · rintro ⟨_, hbefore, ⟨⟩ | ⟨⟩ | ⟨-, hb⟩, rfl⟩
        · exact absurd rfl hnull
        · exact ⟨hbefore, _, hb, rfl⟩

end Courier

import Courier.Decode.Enumeration
import Courier.Proofs.Decode.Member

/-!
# The order of members does not matter

A text keeps the members of an object in their order, a value has them sorted. In a tree without
repeated keys this makes no difference for what is decoded (`Decoder.Steady`), because a decoder
reads an object as a map. This is shown once for each way of building a decoder.
-/

namespace Courier

variable {α β : Type}

/-- Sorting the objects of a tree with distinct keys does not change what is read from it. -/
def Steady (read : Json → Except Misfit α) : Prop :=
  ∀ ⦃value : Json⦄, value.DistinctKeys → (read value.normalize).toOption = (read value).toOption

namespace Decoder

/-- Sorting the objects of a tree with distinct keys does not change what is decoded. -/
def Steady (d : Decoder α) : Prop :=
  ∀ context, Courier.Steady (d.ofJson context)

/-! ## Types without parts -/

theorem steady_of_refusal {read : Json → Except Misfit α}
    (harr : ∀ items, (read (.arr items)).toOption = none)
    (hobj : ∀ members, (read (.obj members)).toOption = none) : Courier.Steady read := by
  intro value _
  cases value with
  | arr items => rw [Json.normalize_arr, harr, harr]
  | obj members => rw [Json.normalize_obj, hobj, hobj]
  | _ => rfl

theorem steady_string : string.Steady :=
  fun _ => steady_of_refusal (fun _ => rfl) fun _ => rfl

theorem steady_bool : bool.Steady :=
  fun _ => steady_of_refusal (fun _ => rfl) fun _ => rfl

theorem steady_natural (bound : Nat) (noun : String) : (natural bound noun).Steady :=
  fun _ => steady_of_refusal (fun _ => rfl) fun _ => rfl

theorem steady_unit : unit.Steady :=
  fun _ => steady_of_refusal (fun _ => rfl) fun _ => rfl

/-! ## Types with parts -/

theorem steady_json : json.Steady := by
  intro _ value _
  show some value.normalize.normalize = some value.normalize
  rw [Json.normalize_normalize]

theorem Steady.optional {d : Decoder α} (hd : d.Steady) : d.optional.Steady := by
  intro context value hvalue
  by_cases hnull : value = .null
  · rw [hnull]
    rfl
  · rw [optional_ofJson (mt Json.normalize_eq_null_iff.mp hnull), optional_ofJson hnull,
      toOption_map, toOption_map, hd context hvalue]

theorem toOption_mapM_normalize {read : Json → Except Misfit α} (h : Courier.Steady read)
    {items : List Json} (hitems : ∀ item ∈ items, item.DistinctKeys) :
    ((items.map Json.normalize).mapM read).toOption = (items.mapM read).toOption := by
  induction items with
  | nil => rfl
  | cons item items ih =>
    obtain ⟨hitem, hrest⟩ := List.forall_mem_cons.mp hitems
    rw [List.map_cons, List.mapM_cons, List.mapM_cons, toOption_bind, toOption_bind, h hitem]
    simp only [toOption_bind, ih hrest]

theorem Steady.list {d : Decoder α} (hd : d.Steady) : d.list.Steady := by
  intro context value hvalue
  cases value with
  | arr items =>
    rw [Json.normalize_arr]
    exact toOption_mapM_normalize (hd context) (Json.distinctKeys_arr.mp hvalue)
  | obj members =>
    rw [Json.normalize_obj]
    rfl
  | _ => rfl

end Decoder

/-! ## Records -/

namespace Fields

/-- The record is the same if under every name the same is found, up to sorting. -/
theorem Every.ofLookup_normalize {fields : Fields α} (h : fields.Every Decoder.Steady)
    {context : Context} {lookup : String → Option Json}
    (hlookup : ∀ name value, lookup name = some value → value.DistinctKeys) :
    fields.ofLookup context (fun name => (lookup name).map Json.normalize)
      = fields.ofLookup context lookup := by
  induction fields with
  | make => rfl
  | field before name decoder absence ih =>
    rw [ofLookup, ofLookup, ih h.1]
    congr 1
    funext record
    cases hfound : lookup name with
    | none => rfl
    | some value =>
      show Option.map record (decoder.ofJson context value.normalize).toOption = _
      rw [h.2 context (hlookup name value hfound)]

/-- The fields that are read from items are the same after sorting the items. -/
theorem Every.toOption_ofItems {fields : Fields α} (h : fields.Every Decoder.Steady)
    (context : Context) (expected : String) {items : List Json}
    (hitems : ∀ item ∈ items, item.DistinctKeys) :
    (fields.ofItems context expected (items.map Json.normalize)).toOption
      = (fields.ofItems context expected items).toOption.map fun read =>
        (read.1, read.2.map Json.normalize) := by
  induction fields with
  | make => rfl
  | field before name decoder absence ih =>
    rw [ofItems, toOption_bind, ih h.1, ofItems, toOption_bind]
    cases hbefore : before.ofItems context expected items with
    | error m => rfl
    | ok read =>
      obtain ⟨record, left⟩ := read
      cases left with
      | nil => cases absence <;> rfl
      | cons item rest =>
        have hitem := hitems item ((suffix_of_ofItems hbefore).subset List.mem_cons_self)
        simp only [toOption_ok, Option.map_some, Option.bind_some, List.map_cons, toOption_bind,
          h.2 context hitem]
        cases (decoder.ofJson context item).toOption <;> rfl

/-- **Records are steady, if the decoders of their fields are.** -/
theorem Every.steady {fields : Fields α} (h : fields.Every Decoder.Steady)
    (hnames : fields.names.Nodup) (noun : String) : (fields.decoder noun).Steady := by
  intro context value hvalue
  cases value with
  | obj members =>
    obtain ⟨hkeys, hvalues⟩ := Json.distinctKeys_obj.mp hvalue
    dsimp only [decoder]
    rw [Json.normalize_obj, decode, decode, toOption_ofMembers hnames hkeys,
      toOption_ofMembers hnames Assoc.ascending_sort.nodup]
    simp only [Json.find?_sort_normalize hkeys]
    exact h.ofLookup_normalize fun name value hfound =>
      hvalues (name, value) (Assoc.mem_of_find? hfound)
  | arr items =>
    have hitems := Json.distinctKeys_arr.mp hvalue
    dsimp only [decoder]
    rw [Json.normalize_arr, decode, decode, toOption_bind, toOption_bind,
      h.toOption_ofItems context (fields.lengthNoun noun) hitems]
    cases (fields.ofItems context (fields.lengthNoun noun) items).toOption with
    | none => rfl
    | some read =>
      obtain ⟨record, _ | ⟨item, rest⟩⟩ := read <;> rfl
  | _ => rfl

end Fields

/-! ## Enumerations -/

namespace Enumeration

theorem steady (e : Enumeration α) : e.decoder.Steady := by
  intro context value hvalue
  cases value with
  | obj members =>
    obtain ⟨hkeys, hvalues⟩ := Json.distinctKeys_obj.mp hvalue
    rw [Json.normalize_obj]
    match members with
    | [] => rfl
    | [(name, value)] =>
      have hunit := Decoder.steady_unit context (hvalues _ List.mem_cons_self)
      show (do
        let found ← e.find name
        Decoder.unit.ofJson context value.normalize
        .ok found : Except Misfit α).toOption = (do
        let found ← e.find name
        Decoder.unit.ofJson context value
        .ok found : Except Misfit α).toOption
      simp only [toOption_bind, hunit]
    | first :: second :: rest =>
      -- an object with more members stays one when it is sorted
      have hnodup : (((first :: second :: rest).map fun m => (m.1, m.2.normalize)).map
          Prod.fst).Nodup := by rwa [List.map_map]
      have hlength := (Assoc.sort_perm hnodup).length_eq
      generalize Assoc.sort ((first :: second :: rest).map fun m => (m.1, m.2.normalize)) = sorted
        at hlength ⊢
      match sorted, hlength with
      | _ :: _ :: _, _ => rfl
  | arr items =>
    rw [Json.normalize_arr]
    rfl
  | _ => rfl

end Enumeration

/-! ## Tagged values -/

namespace Tagged

theorem steady_part {wrap : β → α} {d : Decoder β} (hd : d.Steady) :
    Courier.Steady (part wrap d) := by
  intro value hvalue
  rw [part, part, toOption_map, toOption_map, hd .tagged hvalue]

theorem steady_bare (value : α) : Courier.Steady (bare value) := by
  intro parts _
  cases parts with
  | arr items => cases items <;> rfl
  | obj members =>
    rw [Json.normalize_obj]
    rfl
  | _ => rfl

theorem steady_choose (t : Tagged α) (context : Context) : Courier.Steady (t.choose context) :=
  Decoder.steady_of_refusal (fun _ => rfl) fun _ => rfl

/-- **Tagged values are steady, if their alternatives are.** -/
theorem Every.steady {t : Tagged α} (h : t.Every Courier.Steady) : t.decoder.Steady := by
  intro context value hvalue
  show (t.decode context _).toOption = (t.decode context _).toOption
  cases value with
  | obj members =>
    obtain ⟨hkeys, hvalues⟩ := Json.distinctKeys_obj.mp hvalue
    rw [Json.normalize_obj, t.toOption_decode_obj hkeys,
      t.toOption_decode_obj Assoc.ascending_sort.nodup, Json.find?_sort_normalize hkeys]
    -- the tag is found in either order, and what is left of the members differs in the order alone
    cases hfound : Assoc.find? t.tag members with
    | none => rfl
    | some tag =>
      have htag := hvalues (t.tag, tag) (Assoc.mem_of_find? hfound)
      rw [Option.map_some, Option.bind_some, Option.bind_some, t.steady_choose context htag]
      cases hparts : (t.choose context tag).toOption with
      | none => rfl
      | some parts =>
        have hothers : (Json.obj (Assoc.erase t.tag members)).DistinctKeys :=
          Json.distinctKeys_obj.mpr ⟨Assoc.nodup_erase hkeys,
            fun m hm => hvalues m (List.mem_of_mem_filter hm)⟩
        rw [Option.bind_some, Option.bind_some, Assoc.erase_sort,
          ← h.of_choose (toOption_eq_some_iff.mp hparts) hothers, Json.normalize_obj,
          Assoc.erase_map]
  | arr items =>
    have hitems := Json.distinctKeys_arr.mp hvalue
    rw [Json.normalize_arr, t.toOption_decode_arr, t.toOption_decode_arr]
    cases items with
    | nil => rfl
    | cons tag rest =>
      obtain ⟨htag, hrest⟩ := List.forall_mem_cons.mp hitems
      rw [List.map_cons, List.head?_cons, List.head?_cons, Option.bind_some, Option.bind_some,
        t.steady_choose context htag, List.tail_cons, List.tail_cons]
      cases hparts : (t.choose context tag).toOption with
      | none => rfl
      | some parts =>
        rw [Option.bind_some, Option.bind_some,
          ← h.of_choose (toOption_eq_some_iff.mp hparts) (Json.distinctKeys_arr.mpr hrest),
          Json.normalize_arr]
  | _ => rfl

end Tagged

end Courier

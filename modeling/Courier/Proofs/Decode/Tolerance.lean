import Courier.Proofs.Decode.Flattened
import Courier.Proofs.Decode.Image
import Courier.Proofs.Json.Part

/-!
# Members that are not known

A decoder looks at an object under the keys that it knows. So an object is read as the same value
as long as nothing changes under these keys (`Tolerant`), in particular when a member with another
key is added (`Tolerant.put`). Which keys are known depends on what is read: those of a record are
the names of its fields, those of a tagged value are the tag and the keys of the alternative that
the tag names.

A tag that is not known names the alternative for all others, whatever members there are
(`Tagged.decode_put_tag`).
-/

namespace Courier

variable {α β : Type}

/-- An object is read as the same value as long as nothing changes under the keys of the value. -/
def Tolerant (keys : α → List String) (read : Json → Except Misfit α) : Prop :=
  ∀ ⦃members members' : List (String × Json)⦄ ⦃a : α⦄,
    (members.map Prod.fst).Nodup → (members'.map Prod.fst).Nodup →
    read (.obj members) = .ok a →
    (∀ key ∈ keys a, Assoc.find? key members' = Assoc.find? key members) →
    read (.obj members') = .ok a

namespace Tolerant

variable {keys more : α → List String} {read : Json → Except Misfit α}

theorem mono (h : Tolerant keys read) (hkeys : ∀ a, keys a ⊆ more a) : Tolerant more read :=
  fun _ _ a hmembers hmembers' hread hsame =>
    h hmembers hmembers' hread fun key hkey => hsame key (hkeys a hkey)

/-- A member with a key that is not known can be put into an object. -/
theorem put (h : Tolerant keys read) {members : List (String × Json)} {a : α}
    (hmembers : Assoc.Ascending members) (hread : read (.obj members) = .ok a) {key : String}
    (hkey : key ∉ keys a) (extra : Json) : read (.obj (Assoc.put key extra members)) = .ok a := by
  refine h hmembers.nodup hmembers.put.nodup hread fun other hother => ?_
  rw [Assoc.find?_put, if_neg (ne_of_mem_of_not_mem hother hkey)]

end Tolerant

/-- A record knows the names of its fields. -/
theorem Fields.tolerant {fields : Fields α} (hnames : fields.names.Nodup)
    {keys : α → List String} (hkeys : ∀ a, fields.names ⊆ keys a) (noun : String)
    (context : Context) : Tolerant keys ((fields.decoder noun).ofJson context) := by
  intro members members' a hmembers hmembers' hread hsame
  have hlookup : fields.ofLookup context (Assoc.find? · members')
      = fields.ofLookup context (Assoc.find? · members) :=
    ofLookup_congr fun name hname => hsame name (hkeys a hname)
  have hobject : (fields.ofMembers context members).toOption = some a :=
    toOption_eq_some_iff.mpr hread
  rw [toOption_ofMembers hnames hmembers, ← hlookup, ← toOption_ofMembers hnames hmembers']
    at hobject
  exact toOption_eq_some_iff.mp hobject

/-- What a field finds under its name, or has by default. -/
def Fields.found (context : Context) (lookup : String → Option Json) (name : String)
    (d : Decoder β) (absence : Absence β) : Option β :=
  match lookup name with
  | some value => (d.ofJson context value).toOption
  | none => absence.value?

theorem Fields.found_congr {context : Context} {lookup lookup' : String → Option Json}
    {name : String} (h : lookup' name = lookup name) (d : Decoder β) (absence : Absence β) :
    found context lookup' name d absence = found context lookup name d absence := by
  rw [found, found, h]

/-- One more field adds what it finds to the record of the fields before. -/
theorem Fields.ofLookup_field_eq_some_iff {context : Context} {lookup : String → Option Json}
    {before : Fields (β → α)} {name : String} {d : Decoder β} {absence : Absence β} {a : α} :
    (before.field name d absence).ofLookup context lookup = some a ↔
      ∃ record b, before.ofLookup context lookup = some record ∧
        found context lookup name d absence = some b ∧ record b = a := by
  have hfield : (before.field name d absence).ofLookup context lookup
      = (before.ofLookup context lookup).bind fun record =>
          (found context lookup name d absence).map record := by
    rw [ofLookup, found]
    congr 1
    funext record
    cases lookup name with
    | some value => rfl
    | none => cases absence <;> rfl
  rw [hfield]
  simp only [Option.bind_eq_some_iff, Option.map_eq_some_iff, exists_and_left]

namespace Tagged

variable {t : Tagged α} {keys : α → List String}

theorem tolerant_part {wrap : β → α} {d : Decoder β}
    (h : Tolerant (fun b => keys (wrap b)) (d.ofJson .tagged)) : Tolerant keys (part wrap d) := by
  intro members members' a hmembers hmembers' hread hsame
  obtain ⟨b, hb, rfl⟩ := map_eq_ok_iff.mp hread
  exact map_eq_ok_iff.mpr ⟨b, h hmembers hmembers' hb hsame, rfl⟩

/-- A record among the alternatives knows its tag and the names of its fields. -/
theorem tolerant_record (keys : α → List String) {wrap : β → α} {fields : Fields β} {tag : String}
    (hnames : fields.names.Nodup) (hkeys : ∀ b, keys (wrap b) = tag :: fields.names)
    (noun : String) : Tolerant keys (part wrap (fields.decoder noun)) :=
  tolerant_part (Fields.tolerant hnames (fun b => hkeys b ▸ List.subset_cons_self _ _) noun .tagged)

theorem tolerant_bare (a : α) : Tolerant keys (bare a) :=
  fun _ _ _ _ _ hread _ => hread

theorem decode_obj_eq_ok_iff {context : Context} {members : List (String × Json)}
    (hmembers : (members.map Prod.fst).Nodup) {a : α} :
    t.decode context (.obj members) = .ok a ↔ ∃ tag parts, Assoc.find? t.tag members = some tag ∧
      t.choose context tag = .ok parts ∧ parts (.obj (Assoc.erase t.tag members)) = .ok a := by
  rw [← toOption_eq_some_iff, t.toOption_decode_obj hmembers]
  simp only [Option.bind_eq_some_iff, toOption_eq_some_iff, exists_and_left]

/-- **A tagged value knows its tag and what its alternative knows.** -/
theorem Every.tolerant (h : t.Every (Tolerant keys)) (htag : ∀ a, t.tag ∈ keys a)
    (context : Context) : Tolerant keys (t.decode context) := by
  intro members members' a hmembers hmembers' hread hsame
  obtain ⟨tag, parts, hfound, hparts, hread⟩ := (decode_obj_eq_ok_iff hmembers).mp hread
  refine (decode_obj_eq_ok_iff hmembers').mpr ⟨tag, parts, ?_, hparts, ?_⟩
  · rw [hsame t.tag (htag a), hfound]
  · refine h.of_choose hparts (Assoc.nodup_erase hmembers) (Assoc.nodup_erase hmembers') hread
      fun key hkey => ?_
    rw [Assoc.find?_erase, Assoc.find?_erase, hsame key hkey]

/-- **A tag that is not known names the alternative for all others.** -/
theorem decode_put_tag {members : List (String × Json)} (hmembers : Assoc.Ascending members)
    {other : α} (hother : t.other = some (bare other)) {name : String}
    (hname : name ∉ t.named.map Prod.fst) (context : Context) :
    t.decode context (.obj (Assoc.put t.tag (.str name) members)) = .ok other := by
  refine (decode_obj_eq_ok_iff hmembers.put.nodup).mpr ⟨.str name, bare other, ?_, ?_, rfl⟩
  · rw [Assoc.find?_put, if_pos rfl]
  · have hnamed : t.named.lookup name = none := Assoc.find?_eq_none hname
    rw [choose, byName, hnamed, hother]

end Tagged

end Courier

import Courier.Decode.Enumeration
import Courier.Proofs.Decode.Member

/-!
# Reading back what was written

A value is written as a tree and read back by a decoder, wherever the tree stands
(`Decoder.Restores`). This is shown for each way of building a decoder, next to the way of writing
that goes with it: a field without a value is left out and read as its default, and the members of a
record are written under the names that its fields are read by.
-/

namespace Courier

variable {α β : Type}

namespace Decoder

/-- A decoder reads a tree as a value, in plain and in tagged values alike. -/
def Restores (d : Decoder α) (value : Json) (a : α) : Prop :=
  ∀ context, d.ofJson context value = .ok a

/-! ## Types without parts -/

theorem restores_string (s : String) : string.Restores (.str s) s :=
  fun _ => rfl

theorem restores_bool (b : Bool) : bool.Restores (.bool b) b :=
  fun _ => rfl

theorem restores_natural {bound n : Nat} (h : n < bound) (noun : String) :
    (natural bound noun).Restores (.ofNat n) n :=
  fun _ => if_pos ⟨Int.natCast_nonneg n, Int.ofNat_lt.mpr h⟩

theorem restores_enumeration {e : Enumeration α} {name : String} {a : α}
    (h : e.find name = .ok a) : e.decoder.Restores (.str name) a :=
  fun _ => h

/-! ## Types with parts -/

theorem restores_json {value : Json} (h : value.IsValue) : json.Restores value value :=
  fun _ => congrArg Except.ok h

theorem Restores.optional {d : Decoder α} {value : Json} {a : α} (h : d.Restores value a)
    (hnull : value ≠ .null) : d.optional.Restores value (some a) := by
  intro context
  rw [optional_ofJson hnull, h context]
  rfl

/-- A list is restored item by item. -/
theorem restores_list_map {γ : Type} {d : Decoder α} {write : γ → Json} {restored : γ → α}
    {items : List γ} (h : ∀ item ∈ items, d.Restores (write item) (restored item)) :
    d.list.Restores (.arr (items.map write)) (items.map restored) := by
  intro context
  show (items.map write).mapM (d.ofJson context) = .ok (items.map restored)
  induction items with
  | nil => rfl
  | cons item items ih =>
    obtain ⟨hitem, hitems⟩ := List.forall_mem_cons.mp h
    rw [List.map_cons, List.mapM_cons, hitem context, ih hitems]
    rfl

theorem restores_list {d : Decoder α} {write : α → Json} {as : List α}
    (h : ∀ a ∈ as, d.Restores (write a) a) : d.list.Restores (.arr (as.map write)) as := by
  have hrestored : d.list.Restores (.arr (as.map write)) (as.map fun a => a) :=
    restores_list_map h
  rwa [List.map_id'] at hrestored

end Decoder

open Decoder

/-! ## Records -/

namespace Fields

/-- The fields make a record of what is found under their names. -/
def Finds (fields : Fields α) (lookup : String → Option Json) (a : α) : Prop :=
  ∀ context, fields.ofLookup context lookup = some a

section Finds

variable {lookup : String → Option Json}

theorem finds_make (a : α) : (make a).Finds lookup a :=
  fun _ => rfl

section Field

variable {before : Fields (β → α)} {record : β → α} {name : String} {d : Decoder β}

/-- A field with a value is read from the value. -/
theorem Finds.field (h : before.Finds lookup record) {value : Json} {b : β}
    (hname : lookup name = some value) (hvalue : d.Restores value b) (absence : Absence β) :
    (before.field name d absence).Finds lookup (record b) := by
  intro context
  rw [ofLookup, h context, hname]
  exact congrArg (Option.map record) (toOption_eq_some_iff.mpr (hvalue context))

/-- A field that was left out has its default. -/
theorem Finds.absent (h : before.Finds lookup record) (hname : lookup name = none) (b : β) :
    (before.field name d (.defaulted b)).Finds lookup (record b) := by
  intro context
  rw [ofLookup, h context, hname]
  rfl

theorem Finds.required (h : before.Finds lookup record) {value : Json} {b : β}
    (hname : lookup name = some value) (hvalue : d.Restores value b) :
    (before.required name d).Finds lookup (record b) :=
  h.field hname hvalue _

theorem Finds.defaulted (h : before.Finds lookup record) {value : Json} {b default : β}
    (hname : lookup name = some value) (hvalue : d.Restores value b) :
    (before.defaulted name d default).Finds lookup (record b) :=
  h.field hname hvalue _

end Field

/-- A value that may be missing is left out or read from what was written for it. -/
theorem Finds.optional {before : Fields (Option β → α)} {record : Option β → α}
    (h : before.Finds lookup record) {name : String} {d : Decoder β} {write : β → Json}
    {value : Option β} (hname : lookup name = value.map write)
    (hvalue : ∀ b, value = some b → d.optional.Restores (write b) (some b)) :
    (before.optional name d).Finds lookup (record value) := by
  cases value with
  | none => exact h.absent hname none
  | some b => exact h.field hname (hvalue b rfl) _

theorem Finds.nullable {before : Fields (Option β → α)} {record : Option β → α}
    (h : before.Finds lookup record) {name : String} {d : Decoder β} {write : β → Json}
    {value : Option β} (hname : lookup name = value.map write)
    (hvalue : ∀ b, value = some b → d.optional.Restores (write b) (some b)) :
    (before.nullable name d).Finds lookup (record value) := by
  cases value with
  | none =>
    intro context
    rw [Fields.nullable, ofLookup, h context, hname]
    rfl
  | some b => exact h.field hname (hvalue b rfl) _

theorem Finds.string {before : Fields (String → α)} {record : String → α}
    (h : before.Finds lookup record) {name s : String} (hname : lookup name = some (.str s))
    {absence : Absence String} :
    (before.field name Decoder.string absence).Finds lookup (record s) :=
  h.field hname (restores_string s) absence

theorem Finds.optionalString {before : Fields (Option String → α)} {record : Option String → α}
    (h : before.Finds lookup record) {name : String} {value : Option String}
    (hname : lookup name = value.map .str) :
    (before.optional name Decoder.string).Finds lookup (record value) :=
  h.optional hname fun s _ => (restores_string s).optional nofun

theorem Finds.bool {before : Fields (Bool → α)} {record : Bool → α}
    (h : before.Finds lookup record) {name : String} {b : Bool}
    (hname : lookup name = some (.bool b)) {absence : Absence Bool} :
    (before.field name Decoder.bool absence).Finds lookup (record b) :=
  h.field hname (restores_bool b) absence

theorem Finds.optionalBool {before : Fields (Option Bool → α)} {record : Option Bool → α}
    (h : before.Finds lookup record) {name : String} {value : Option Bool}
    (hname : lookup name = value.map .bool) :
    (before.optional name Decoder.bool).Finds lookup (record value) :=
  h.optional hname fun b _ => (restores_bool b).optional nofun

/-- A tree that may be missing is read from itself, except that null is read as missing. -/
theorem Finds.optionalJson {before : Fields (Option Json → α)} {record : Option Json → α}
    (h : before.Finds lookup record) {name : String} {value : Option Json}
    (hname : lookup name = value) (hvalue : ∀ v, value = some v → v.IsValue) :
    (before.optional name json).Finds lookup (record (value.filter (· ≠ .null))) := by
  cases value with
  | none => exact h.absent hname none
  | some v =>
    by_cases hnull : v = .null
    · subst hnull
      exact h.field hname (fun _ => rfl) _
    · have hkept : (some v).filter (· ≠ Json.null) = some v := by simp [Option.filter, hnull]
      rw [hkept]
      exact h.field hname ((restores_json (hvalue v rfl)).optional hnull) _

end Finds

/-- **A record is restored if each of its fields is**, when the members are written under the names
of the fields. -/
theorem restores_object {fields : Fields α} {members : List (String × Option Json)} {a : α}
    (hnames : fields.names.Nodup) (hmembers : members.map Prod.fst = fields.names)
    (h : fields.Finds (fun key => (Assoc.find? key members).join) a) (noun : String) :
    (fields.decoder noun).Restores (.object members) a := by
  intro context
  rw [← toOption_eq_some_iff, ← h context]
  exact toOption_decode_object hnames (hmembers ▸ hnames) noun context

end Fields

/-! ## Tagged values -/

namespace Tagged

variable {t : Tagged α} {name : String}

/-- **A tagged value is restored if the parts of its alternative are.** -/
theorem restores_part {wrap : β → α} {d : Decoder β} (hname : t.byName name = .ok (part wrap d))
    {members : List (String × Option Json)} (hmembers : (t.tag :: members.map Prod.fst).Nodup)
    {b : β} (h : d.Restores (.object members) b) :
    t.decoder.Restores (.object ((t.tag, some (.str name)) :: members)) (wrap b) := by
  intro context
  dsimp only [decoder]
  rw [← toOption_eq_some_iff, t.toOption_decode_object hmembers, hname, toOption_ok,
    Option.bind_some, part, h .tagged]
  rfl

theorem restores_bare {a : α} (hname : t.byName name = .ok (bare a)) :
    t.decoder.Restores (.object [(t.tag, some (.str name))]) a := by
  intro context
  dsimp only [decoder]
  rw [← toOption_eq_some_iff, t.toOption_decode_object (List.nodup_singleton _), hname]
  rfl

end Tagged

end Courier

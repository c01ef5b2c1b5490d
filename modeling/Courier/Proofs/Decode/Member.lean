import Courier.Decode.Tagged
import Courier.Proofs.Json.Normal
import Courier.Proofs.Json.Run
import Mathlib.Data.List.Basic

/-!
# Objects as maps

An object with distinct keys is read as the map from its keys to their values: a record is what its
fields find under their names (`Fields.toOption_ofMembers`), a tagged value is the alternative that
is found under the tag, applied to the object without it (`Tagged.toOption_decode_obj`). How long
the reports of failures depend on the order of the members does not matter here, so the results are
taken without them.
-/

namespace Courier

variable {α : Type}

namespace Fields

/-- A property of the decoders of all fields. -/
def Every (P : {β : Type} → Decoder β → Prop) : {α : Type} → Fields α → Prop
  | _, .make _ => True
  | _, .field before _ decoder _ => before.Every P ∧ P decoder

theorem Every.imp {P Q : {β : Type} → Decoder β → Prop} {fields : Fields α} (h : fields.Every P)
    (himp : ∀ {β : Type} (d : Decoder β), P d → Q d) : fields.Every Q := by
  induction fields with
  | make => trivial
  | field _ _ decoder _ ih => exact ⟨ih h.1, himp decoder h.2⟩

/-- The fields after one more member of an object. -/
def visit (context : Context) (fields : Fields α) (slots : fields.Slots)
    (member : String × Json) : Except Misfit fields.Slots :=
  match fields.fill (m := Except Misfit) member.1
      (fun decoder => decoder.ofJson context member.2) (fun misfit => .error misfit) slots with
  | some filled => filled
  | none => pure slots

theorem ofMembers_eq (context : Context) (fields : Fields α) (members : List (String × Json)) :
    fields.ofMembers context members
      = members.foldlM (fields.visit context) fields.empty >>= fields.build := rfl

/-! ## Records -/

/-- The record of what is found under the names of the fields, with the defaults of the fields under
whose name nothing is found. -/
def ofLookup (context : Context) (lookup : String → Option Json) :
    {α : Type} → Fields α → Option α
  | _, .make value => some value
  | _, .field before name decoder absence =>
    (before.ofLookup context lookup).bind fun record =>
      match lookup name, absence with
      | some value, _ => (decoder.ofJson context value).toOption.map record
      | none, .defaulted value => some (record value)
      | none, .tolerated value => some (record value)
      | none, .refused => none

/-- Only a field with the name of a member is filled by it. -/
theorem visit_of_notMem {context : Context} {fields : Fields α} {slots : fields.Slots}
    {m : String × Json} (h : m.1 ∉ fields.names) : fields.visit context slots m = .ok slots := by
  have hfill : fields.fill (m := Except Misfit) m.1
      (fun decoder => decoder.ofJson context m.2) (fun misfit => .error misfit) slots = none := by
    induction fields with
    | make => rfl
    | field before name _ _ ih =>
      rw [names, List.mem_append, List.mem_singleton, not_or] at h
      rw [fill, if_neg h.2, ih h.1, Option.map_none]
  rw [visit, hfill]
  rfl

section Field

variable {β : Type} {context : Context} {before : Fields (β → α)} {name : String}
  {decoder : Decoder β} {absence : Absence β}

/-- The values of the fields before, and of one more field. -/
def Slots.snoc (slots : before.Slots) (value : Option β) :
    (before.field name decoder absence).Slots :=
  (slots, value)

/-- One more field takes the member of its name and leaves the others to the fields before. -/
theorem visit_snoc (slots : before.Slots) (value : Option β) (m : String × Json) :
    (before.field name decoder absence).visit context (slots.snoc value) m
      = if m.1 = name then
          match value with
          | some _ => .error (.duplicateField name)
          | none => (decoder.ofJson context m.2).map fun b => slots.snoc (some b)
        else (before.visit context slots m).map (·.snoc value) := by
  rw [visit, fill.eq_def]
  dsimp only [Slots.snoc]
  by_cases h : m.1 = name
  · rw [if_pos h, if_pos h]
    cases value with
    | some _ => rfl
    | none => cases decoder.ofJson context m.2 <;> rfl
  · rw [if_neg h, if_neg h, visit]
    cases before.fill (m := Except Misfit) m.1 _ _ slots with
    | none => rfl
    | some filled => cases filled <;> rfl

/-- Over members one more field takes the value of its name, of which there may be no second one, and
leaves the others to the fields before. -/
theorem toOption_foldlM_visit_snoc (hname : name ∉ before.names) (members : List (String × Json))
    (slots : before.Slots) (value : Option β) :
    (members.foldlM ((before.field name decoder absence).visit context) (slots.snoc value)).toOption
      = (members.foldlM (before.visit context) slots).toOption.bind fun slots =>
          match Assoc.valuesOf name members, value with
          | [], _ => some (slots.snoc value)
          | [found], none =>
            (decoder.ofJson context found).toOption.map fun b => slots.snoc (some b)
          | _, _ => none := by
  induction members generalizing slots value with
  | nil => rfl
  | cons m members ih =>
    obtain ⟨key, found⟩ := m
    rw [List.foldlM_cons, List.foldlM_cons, toOption_bind, toOption_bind, visit_snoc,
      Assoc.valuesOf_cons]
    by_cases h : key = name
    · subst h
      rw [if_pos rfl, if_pos rfl, visit_of_notMem hname]
      cases value with
      | some _ => simp
      | none =>
        cases hfound : (decoder.ofJson context found).toOption with
        | none => cases Assoc.valuesOf key members <;> simp [hfound]
        | some b =>
          -- the field is filled now, so that every further value is refused
          have hrest := ih slots (some b)
          cases hvalues : Assoc.valuesOf key members with
          | nil => simpa [hfound, hvalues] using hrest
          | cons => simpa [hfound, hvalues] using hrest
    · rw [if_neg h, if_neg h]
      cases before.visit context slots (key, found) with
      | error m => rfl
      | ok slots => exact ih slots value

/-- What one more field makes of the value that was found for it. -/
theorem toOption_build_snoc (slots : before.Slots) (value : Option β) :
    ((before.field name decoder absence).build (slots.snoc value)).toOption
      = (before.build slots).toOption.bind fun record =>
          match value, absence with
          | some b, _ => some (record b)
          | none, .defaulted b => some (record b)
          | none, .tolerated b => some (record b)
          | none, .refused => none := by
  rw [build, toOption_bind]
  congr 1
  funext record
  cases value <;> cases absence <;> rfl

end Field

/-- The record of the values of the names of the fields, none of which may have two. -/
def ofValues (context : Context) (values : String → List Json) :
    {α : Type} → Fields α → Option α
  | _, .make value => some value
  | _, .field before name decoder absence =>
    (before.ofValues context values).bind fun record =>
      match values name, absence with
      | [value], _ => (decoder.ofJson context value).toOption.map record
      | [], .defaulted value => some (record value)
      | [], .tolerated value => some (record value)
      | _, _ => none

/-- **A record is what its fields make of the values of their names**, whatever the order of the
members. -/
theorem toOption_ofMembers_eq {fields : Fields α} (hnames : fields.names.Nodup) (context : Context)
    (members : List (String × Json)) :
    (fields.ofMembers context members).toOption
      = fields.ofValues context (Assoc.valuesOf · members) := by
  rw [ofMembers_eq, toOption_bind]
  induction fields with
  | make value =>
    have hslots : (members.foldlM ((Fields.make value).visit context) ()).toOption = some () := by
      induction members with
      | nil => rfl
      | cons m members ih => exact ih
    rw [ofValues, show (Fields.make value).empty = () from rfl, hslots]
    rfl
  | field before name decoder absence ih =>
    rw [names, List.nodup_append] at hnames
    have hname : name ∉ before.names := fun h =>
      hnames.2.2 name h name (List.mem_singleton_self name) rfl
    rw [ofValues, ← ih hnames.1,
      show (before.field name decoder absence).empty = before.empty.snoc none from rfl,
      toOption_foldlM_visit_snoc hname]
    cases (members.foldlM (before.visit context) before.empty).toOption with
    | none => rfl
    | some slots =>
      rw [Option.bind_some, Option.bind_some]
      -- no value is the case of what is absent, and several are refused on both sides
      match Assoc.valuesOf name members with
      | [] =>
        refine (toOption_build_snoc slots none).trans ?_
        cases absence <;> rfl
      | [found] =>
        dsimp only
        cases (decoder.ofJson context found).toOption with
        | none => cases (before.build slots).toOption <;> rfl
        | some b =>
          refine (toOption_build_snoc slots (some b)).trans ?_
          cases absence <;> rfl
      | _ :: _ :: _ =>
        cases (before.build slots).toOption <;> rfl

/-- Where no name has two values, a record is what its fields find under their names. -/
theorem ofValues_toList {fields : Fields α} (context : Context) {values : String → List Json}
    {lookup : String → Option Json} (h : ∀ name, values name = (lookup name).toList) :
    fields.ofValues context values = fields.ofLookup context lookup := by
  induction fields with
  | make => rfl
  | field before name decoder absence ih =>
    rw [ofValues, ofLookup, ih, h]
    cases lookup name <;> cases absence <;> rfl

/-- **A record is what its fields find under their names**, if the members are distinct. -/
theorem toOption_ofMembers {fields : Fields α} (hnames : fields.names.Nodup) {context : Context}
    {members : List (String × Json)} (hmembers : (members.map Prod.fst).Nodup) :
    (fields.ofMembers context members).toOption
      = fields.ofLookup context (Assoc.find? · members) := by
  rw [toOption_ofMembers_eq hnames]
  exact ofValues_toList context fun name => Assoc.valuesOf_of_nodup hmembers

/-- The items behind the fields are the last ones. -/
theorem suffix_of_ofItems {fields : Fields α} {context : Context} {expected : String}
    {items left : List Json} {record : α}
    (h : fields.ofItems context expected items = .ok (record, left)) : left <:+ items := by
  induction fields generalizing left with
  | make =>
    cases h
    exact List.suffix_refl _
  | field before name decoder absence ih =>
    rw [ofItems] at h
    cases hbefore : before.ofItems context expected items with
    | error m =>
      rw [hbefore] at h
      cases h
    | ok read =>
      obtain ⟨record, items'⟩ := read
      have hsuffix := ih hbefore
      rw [hbefore] at h
      -- the field takes the first item that is left, if there is one
      cases items' with
      | nil =>
        cases absence <;> cases h
        exact List.nil_suffix
      | cons item rest =>
        change decoder.ofJson context item >>= _ = _ at h
        cases hvalue : decoder.ofJson context item with
        | error m =>
          rw [hvalue] at h
          cases h
        | ok value =>
          rw [hvalue] at h
          cases h
          exact (List.suffix_cons item _).trans hsuffix

end Fields

/-! ## Tagged values -/

namespace Tagged

/-- A property of what decodes the parts, under all tags. -/
def Every (P : (Json → Except Misfit α) → Prop) (t : Tagged α) : Prop :=
  t.named.Forall (fun entry => P entry.2) ∧ t.other.elim True P

section Every

variable {t : Tagged α} {P : (Json → Except Misfit α) → Prop} {parts : Json → Except Misfit α}

theorem Every.of_byName (h : t.Every P) {name : String} (hparts : t.byName name = .ok parts) :
    P parts := by
  unfold byName at hparts
  split at hparts
  · cases hparts
    exact List.forall_iff_forall_mem.mp h.1 _ (Assoc.mem_of_find? ‹_›)
  · rename_i hother
    cases hparts
    exact (congrArg (Option.elim · True P) hother).mp h.2
  · cases hparts

theorem Every.of_byNumber (h : t.Every P) {n : Nat} (hparts : t.byNumber n = .ok parts) :
    P parts := by
  unfold byNumber at hparts
  split at hparts
  · cases hparts
    exact List.forall_iff_forall_mem.mp h.1 _ (List.mem_of_getElem? ‹_›)
  · rename_i hother
    cases hparts
    exact (congrArg (Option.elim · True P) hother).mp h.2
  · cases hparts

/-- Whatever the tag is, it chooses parts with the property. -/
theorem Every.of_choose (h : t.Every P) {context : Context} {tag : Json}
    (hparts : t.choose context tag = .ok parts) : P parts := by
  unfold choose at hparts
  split at hparts
  · exact h.of_byName hparts
  · split at hparts
    · cases hparts
    · exact h.of_byNumber hparts
  · cases hparts

end Every

/-- With distinct members the tag is what is found under its key, and the other members keep their
order. -/
theorem toOption_split (t : Tagged α) {context : Context}
    {members : List (String × Json)} (hmembers : (members.map Prod.fst).Nodup)
    (found : Option (Json → Except Misfit α)) :
    (t.split context found members).toOption
      = match Assoc.find? t.tag members, found with
        | none, _ => some (found, Assoc.erase t.tag members)
        | some _, some _ => none
        | some value, none =>
          (t.choose context value).toOption.map fun parts =>
            (some parts, Assoc.erase t.tag members) := by
  induction members generalizing found with
  | nil => rfl
  | cons m members ih =>
    obtain ⟨key, value⟩ := m
    obtain ⟨hkey, hrest⟩ := List.nodup_cons.mp hmembers
    rw [split.eq_def, Assoc.find?_cons]
    dsimp only
    by_cases h : key = t.tag
    · -- the keys are distinct, so there is no second tag further on
      have hnone : Assoc.find? t.tag members = none := Assoc.find?_eq_none (h ▸ hkey)
      have herase : Assoc.erase t.tag ((key, value) :: members) = Assoc.erase t.tag members := by
        simp [Assoc.erase, h]
      rw [if_pos h, if_pos h.symm, herase]
      cases found with
      | some _ => rfl
      | none =>
        rw [toOption_bind]
        dsimp only
        cases (t.choose context value).toOption with
        | none => rfl
        | some parts =>
          rw [Option.bind_some, ih hrest, hnone]
          rfl
    · have herase : Assoc.erase t.tag ((key, value) :: members)
          = (key, value) :: Assoc.erase t.tag members := by
        simp [Assoc.erase, h]
      rw [if_neg h, if_neg (Ne.symm h), herase, toOption_bind, ih hrest]
      cases Assoc.find? t.tag members with
      | none => rfl
      | some tag =>
        cases found with
        | some _ => rfl
        | none =>
          dsimp only
          cases (t.choose context tag).toOption <;> rfl

/-- **A tagged value is the alternative under the tag, of the other members.** -/
theorem toOption_decode_obj (t : Tagged α) {context : Context}
    {members : List (String × Json)} (hmembers : (members.map Prod.fst).Nodup) :
    (t.decode context (.obj members)).toOption
      = (Assoc.find? t.tag members).bind fun tag =>
          (t.choose context tag).toOption.bind fun parts =>
            (parts (.obj (Assoc.erase t.tag members))).toOption := by
  rw [decode, toOption_bind, t.toOption_split hmembers]
  cases Assoc.find? t.tag members with
  | none => rfl
  | some tag =>
    rw [Option.bind_some]
    dsimp only
    cases (t.choose context tag).toOption <;> rfl

theorem toOption_decode_arr (t : Tagged α) {context : Context} (items : List Json) :
    (t.decode context (.arr items)).toOption
      = items.head?.bind fun tag =>
          (t.choose context tag).toOption.bind fun parts => (parts (.arr items.tail)).toOption := by
  cases items with
  | nil => rfl
  | cons tag rest =>
    rw [decode, toOption_bind]
    rfl

end Tagged

/-! ## Written objects -/

section Written

variable {members : List (String × Option Json)}

/-- The members that are written keep their order, and so their distinct keys. -/
theorem keys_filterMap_sublist (members : List (String × Option Json)) :
    ((members.filterMap fun m => m.2.map (m.1, ·)).map Prod.fst).Sublist
      (members.map Prod.fst) := by
  induction members with
  | nil => exact .slnil
  | cons m members ih =>
    obtain ⟨key, _ | value⟩ := m
    · exact ih.cons _
    · exact ih.cons_cons _

/-- A written object holds what was given for a key. -/
theorem find?_filterMap (hmembers : (members.map Prod.fst).Nodup) (key : String) :
    Assoc.find? key (members.filterMap fun m => m.2.map (m.1, ·))
      = (Assoc.find? key members).join := by
  induction members with
  | nil => rfl
  | cons m members ih =>
    obtain ⟨k, value⟩ := m
    obtain ⟨hkey, hrest⟩ := List.nodup_cons.mp hmembers
    rw [Assoc.find?_cons]
    by_cases h : key = k
    · subst h
      rw [if_pos rfl]
      cases value with
      | some value => simp [Assoc.find?]
      | none =>
        have hnone : Assoc.find? key members = none := Assoc.find?_eq_none hkey
        simpa [hnone] using ih hrest
    · rw [if_neg h, ← ih hrest]
      cases value with
      | none => rfl
      | some value =>
        show Assoc.find? key ((k, value) :: members.filterMap fun m => m.2.map (m.1, ·)) = _
        rw [Assoc.find?_cons, if_neg h]

/-- A search in a written object finds what was given for the key. -/
theorem Json.member?_object (hmembers : (members.map Prod.fst).Nodup) (key : String) :
    (Json.object members).member? key = (Assoc.find? key members).join := by
  rw [← find?_filterMap hmembers]
  exact Assoc.find?_sort_of_nodup ((keys_filterMap_sublist members).nodup hmembers)

/-- **A written record is what its fields find among the given members.** -/
theorem Fields.toOption_decode_object {fields : Fields α} (hnames : fields.names.Nodup)
    (hmembers : (members.map Prod.fst).Nodup) (noun : String) (context : Context) :
    (fields.decode noun context (.object members)).toOption
      = fields.ofLookup context fun key => (Assoc.find? key members).join := by
  rw [Json.object, decode, toOption_ofMembers hnames Assoc.ascending_sort.nodup]
  congr 1
  funext key
  rw [Assoc.find?_sort_of_nodup ((keys_filterMap_sublist members).nodup hmembers)]
  exact find?_filterMap hmembers key

/-- **A written tagged value is the alternative of its tag, of the other members.** -/
theorem Tagged.toOption_decode_object (t : Tagged α) {name : String}
    (hmembers : (t.tag :: members.map Prod.fst).Nodup) (context : Context) :
    (t.decode context (.object ((t.tag, some (.str name)) :: members))).toOption
      = (t.byName name).toOption.bind fun parts => (parts (.object members)).toOption := by
  obtain ⟨htag, hrest⟩ := List.nodup_cons.mp hmembers
  have hall : (((t.tag, some (.str name)) :: members).map Prod.fst).Nodup := hmembers
  have hkeys := (keys_filterMap_sublist ((t.tag, some (.str name)) :: members)).nodup hall
  have hfind : Assoc.find? t.tag (Assoc.sort (((t.tag, some (.str name)) :: members).filterMap
      fun m => m.2.map (m.1, ·))) = some (.str name) := by
    rw [Assoc.find?_sort_of_nodup hkeys, find?_filterMap hall, Assoc.find?_cons, if_pos rfl]
    rfl
  have herase : Assoc.erase t.tag (Assoc.sort (((t.tag, some (.str name)) :: members).filterMap
      fun m => m.2.map (m.1, ·))) = Assoc.sort (members.filterMap fun m => m.2.map (m.1, ·)) := by
    rw [Assoc.erase_sort]
    refine congrArg Assoc.sort (Assoc.erase_cons_self fun h => htag ?_)
    exact (keys_filterMap_sublist members).subset h
  rw [Json.object, t.toOption_decode_obj Assoc.ascending_sort.nodup, hfind, herase]
  rfl

end Written

end Courier

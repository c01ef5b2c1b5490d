import Courier.Decode.Enumeration
import Courier.Proofs.Decode.Text

/-!
# What decoders give

`Decoder.Gives` says that a decoder gives a value, for some tree or for some text. What it gives is
put together from what the decoders of its parts give: the value of a field is given by the decoder
of the field or is its default (`Fields.gives_of_decoder`), and a tagged value is given by one of
its alternatives (`Tagged.Every.of_gives`). So a property of everything that is decoded is shown
along the structure of the decoder, and for trees and texts at once.

Nothing is asked of the texts. A decoder skips what it does not want, so it gives values also for
texts that are not read as a tree.
-/

namespace Courier

open Scan

variable {α β σ : Type}

/-! ## What scans read -/

namespace Scan

/-- Whether a scan reads a value from some text. -/
def Reads (scan : Scan α) (a : α) : Prop :=
  ∃ cs rest, scan.run? cs = some (a, rest)

namespace Reads

variable {scan : Scan α} {a : α} {b : β}

theorem of_pure {a' : α} (h : Reads (pure a') a) : a = a' := by
  obtain ⟨cs, rest, h⟩ := h
  cases h
  rfl

/-- A sequence reads what its last part reads. -/
theorem of_bind {next : α → Scan β} (h : Reads (scan >>= next) b) :
    ∃ a, scan.Reads a ∧ (next a).Reads b := by
  obtain ⟨cs, rest, h⟩ := h
  rw [run?_bind, Option.bind_eq_some_iff] at h
  obtain ⟨⟨a, mid⟩, hscan, hnext⟩ := h
  exact ⟨a, ⟨cs, mid, hscan⟩, mid, rest, hnext⟩

theorem of_map {f : α → β} (h : Reads (f <$> scan) b) : ∃ a, scan.Reads a ∧ f a = b := by
  obtain ⟨cs, rest, h⟩ := h
  rw [run?_map, Option.map_eq_some_iff] at h
  obtain ⟨⟨a, rest⟩, hscan, heq⟩ := h
  cases heq
  exact ⟨a, ⟨cs, rest, hscan⟩, rfl⟩

theorem of_refuse {fault : TextFault} {bytes : Nat} (h : Reads (refuse fault bytes) a) : False := by
  obtain ⟨cs, rest, h⟩ := h
  cases h

theorem of_misfit {m : Misfit} (h : Reads (misfit m) a) : False := by
  obtain ⟨cs, rest, h⟩ := h
  cases h

theorem of_lift {result : Except Misfit α} (h : Reads (Decoder.lift result) a) :
    result = .ok a := by
  cases result with
  | error m => exact h.of_misfit.elim
  | ok a' => rw [h.of_pure]

theorem of_settled (h : Reads (settled scan) a) : scan.Reads a := by
  obtain ⟨cs, rest, h⟩ := h
  exact ⟨cs, rest, (run?_settled scan cs).symm.trans h⟩

theorem of_closedBy {close : Scan Unit} (h : Reads (closedBy close scan) a) : scan.Reads a := by
  obtain ⟨cs, rest, h⟩ := h
  rw [run?_closedBy, Option.bind_eq_some_iff] at h
  obtain ⟨⟨a, mid⟩, hscan, h⟩ := h
  rw [Option.map_eq_some_iff] at h
  obtain ⟨closed, -, heq⟩ := h
  cases heq
  exact ⟨cs, mid, hscan⟩

theorem of_array (h : Reads (array scan) a) : scan.Reads a := by
  obtain ⟨-, -, h⟩ := h.of_bind
  exact h.of_closedBy

theorem of_object (h : Reads (object scan) a) : scan.Reads a := by
  obtain ⟨-, -, h⟩ := h.of_bind
  exact h.of_closedBy

theorem of_nested {bracketed : Nat → Scan α} {room : Nat} (h : Reads (nested room bracketed) a) :
    ∃ room, (bracketed room).Reads a := by
  cases room with
  | zero => exact h.of_refuse.elim
  | succ room => exact ⟨room, h⟩

theorem of_valueOf {key : String} (h : Reads (valueOf key scan) a) : scan.Reads a := by
  obtain ⟨cs, rest, h⟩ := h
  rw [run?_valueOf, Option.bind_eq_some_iff] at h
  obtain ⟨⟨_, mid⟩, -, h⟩ := h
  exact ⟨mid, rest, h⟩

theorem of_nextItem {index : Nat} (h : Reads (nextItem index scan) (some a)) : scan.Reads a := by
  obtain ⟨cs, rest, h⟩ := h
  rw [run?_nextItem] at h
  split at h
  · cases h
  · obtain ⟨start, -, h⟩ := Option.bind_eq_some_iff.mp h
    obtain ⟨⟨a', mid⟩, hread, heq⟩ := Option.map_eq_some_iff.mp h
    cases heq
    exact ⟨start, mid, hread⟩

/-- The items that are read are each read by the reader of items. -/
theorem of_items {index : Nat} {as : List α} (h : Reads (items index scan) as) :
    ∀ a ∈ as, scan.Reads a := by
  obtain ⟨cs, rest, h⟩ := h
  have hfrom (fuel : Nat) : Reads (itemsFrom scan fuel index) as → ∀ a ∈ as, scan.Reads a := by
    clear h
    intro h
    induction fuel generalizing index as with
    | zero =>
      rw [h.of_pure]
      simp
    | succ fuel ih =>
      obtain ⟨found, hfound, h⟩ := h.of_bind
      cases found with
      | none =>
        rw [h.of_pure]
        simp
      | some a =>
        obtain ⟨others, hothers, rfl⟩ := h.of_map
        exact List.forall_mem_cons.mpr ⟨hfound.of_nextItem, ih hothers⟩
  exact hfrom _ ⟨cs, rest, h⟩

/-- What every step over a member preserves holds of the state behind all members. -/
theorem of_members {P : σ → Prop} {step : σ → String → Scan σ} {state state' : σ}
    (hstep : ∀ ⦃state key state'⦄, P state → (step state key).Reads state' → P state')
    (hstate : P state) (h : Reads (members step state) state') : P state' := by
  obtain ⟨cs, rest, h⟩ := h
  have hfrom (fuel : Nat) (first : Bool) :
      Reads (membersFrom step fuel first state) state' → P state' := by
    clear h
    intro h
    induction fuel generalizing first state with
    | zero => rwa [h.of_pure]
    | succ fuel ih =>
      obtain ⟨key, -, h⟩ := h.of_bind
      cases key with
      | none => rwa [h.of_pure]
      | some key =>
        obtain ⟨next, hnext, h⟩ := h.of_bind
        exact ih (hstep hstate hnext) false h
  exact hfrom _ _ ⟨cs, rest, h⟩

end Reads

end Scan

/-! ## What decoders give -/

namespace Decoder

/-- Whether a decoder gives a value, for a tree or for a text. -/
inductive Gives (d : Decoder α) (a : α) : Prop where
  | tree {context : Context} {value : Json} (h : d.ofJson context value = .ok a)
  | text {room : Nat} (h : (d.ofText room).Reads a)

theorem gives_of_run {d : Decoder α} {value : Json} {a : α} (h : d.run value = .ok a) :
    d.Gives a :=
  .tree h

theorem gives_of_parse {d : Decoder α} {text : String} {a : α} (h : d.parse text = .ok a) :
    d.Gives a := by
  have hread := toOption_eq_some_iff.mpr h
  rw [parse, Scan.toOption_document, Option.bind_eq_some_iff] at hread
  obtain ⟨⟨a', rest⟩, hread, hrest⟩ := hread
  split at hrest
  · cases hrest
    exact .text ⟨_, _, hread⟩
  · cases hrest

theorem reads_scalar {decode : Json → Except Misfit α} {room : Nat} {a : α}
    (h : ((scalar decode).ofText room).Reads a) : ∃ value, decode value = .ok a := by
  obtain ⟨value, -, h⟩ := h.of_settled.of_bind
  exact ⟨value, h.of_lift⟩

theorem Gives.of_scalar {decode : Json → Except Misfit α} {a : α} (h : (scalar decode).Gives a) :
    ∃ value, decode value = .ok a := by
  cases h with
  | tree h => exact ⟨_, h⟩
  | text h => exact reads_scalar h

theorem Gives.of_whole {decode : Json → Except Misfit α} {a : α} (h : (whole decode).Gives a) :
    ∃ value, decode value = .ok a := by
  cases h with
  | tree h => exact ⟨_, h⟩
  | text h =>
    obtain ⟨value, -, h⟩ := h.of_bind
    exact ⟨value, h.of_lift⟩

/-- A natural number is below the bound of its decoder. -/
theorem Gives.lt_of_natural {bound : Nat} {noun : String} {n : Nat}
    (h : (natural bound noun).Gives n) : n < bound := by
  obtain ⟨value, h⟩ := h.of_scalar
  split at h
  · split at h
    · rename_i i hi
      cases h
      omega
    · cases h
  · cases h

/-- What is not null in a text is read by the decoder of the value, and does not start like null. -/
theorem exists_of_run?_optional {d : Decoder α} {room : Nat} {cs rest : List Char} {a : α}
    (h : (d.optional.ofText room).run? cs = some (some a, rest)) :
    (cs.dropWhile isSpace).head? ≠ some 'n' ∧
      (d.ofText room).run? (cs.dropWhile isSpace) = some (a, rest) := by
  simp only [Decoder.optional, run?_bind, run?_next?, Option.bind_some] at h
  split at h
  · rw [run?_bind, run?_skip, Option.bind_some, run?_bind] at h
    obtain ⟨_, -, h⟩ := Option.bind_eq_some_iff.mp h
    cases h
  · rename_i hhead
    rw [run?_map, Option.map_eq_some_iff] at h
    obtain ⟨⟨a', mid⟩, h, heq⟩ := h
    cases heq
    exact ⟨hhead, h⟩

/-- A value that may be null is given by the decoder of the value. -/
theorem Gives.of_optional {d : Decoder α} {a : α} (h : d.optional.Gives (some a)) : d.Gives a := by
  cases h with
  | @tree context value h =>
    by_cases hnull : value = .null
    · subst hnull
      cases h
    · rw [optional_ofJson hnull, map_eq_ok_iff] at h
      obtain ⟨a', h, heq⟩ := h
      cases heq
      exact .tree h
  | text h =>
    obtain ⟨cs, rest, h⟩ := h
    exact .text ⟨_, rest, (exists_of_run?_optional h).2⟩

/-- A tree that may be null is normal, and it is not null. -/
theorem Gives.of_optionalJson {value : Json} (h : json.optional.Gives (some value)) :
    value.IsValue ∧ value ≠ .null := by
  cases h with
  | @tree context tree h =>
    by_cases hnull : tree = .null
    · subst hnull
      cases h
    · rw [optional_ofJson hnull] at h
      cases h
      exact ⟨Json.isValue_normalize tree, mt Json.normalize_eq_null_iff.mp hnull⟩
  | @text room h =>
    obtain ⟨cs, rest, h⟩ := h
    obtain ⟨hhead, hread⟩ := exists_of_run?_optional h
    rw [json, run?_map, Option.map_eq_some_iff] at hread
    obtain ⟨⟨tree, mid⟩, htree, heq⟩ := hread
    cases heq
    refine ⟨Json.isValue_normalize tree, mt Json.normalize_eq_null_iff.mp ?_⟩
    -- null is the only value that starts with its letter
    rintro rfl
    have hwritten := written_of_run?_tree htree
    rw [dropWhile_isSpace_idem] at hwritten
    generalize cs.dropWhile isSpace = text at hwritten hhead
    cases hwritten with
    | scalar h =>
      cases h
      exact hhead rfl

/-- A tree that is read as it is, is normal. -/
theorem Gives.isValue {value : Json} (h : json.Gives value) : value.IsValue := by
  cases h with
  | @tree _ tree h =>
    cases h
    exact Json.isValue_normalize tree
  | text h =>
    obtain ⟨tree, -, rfl⟩ := h.of_map
    exact Json.isValue_normalize tree

/-- The values of an array are given by the decoder of its items. -/
theorem Gives.of_list {d : Decoder α} {as : List α} (h : d.list.Gives as) :
    ∀ a ∈ as, d.Gives a := by
  cases h with
  | @tree context value h =>
    cases value with
    | arr items =>
      change items.mapM (d.ofJson context) = .ok as at h
      induction items generalizing as with
      | nil =>
        cases h
        simp
      | cons item items ih =>
        rw [List.mapM_cons] at h
        obtain ⟨a, ha, h⟩ := bind_eq_ok_iff.mp h
        obtain ⟨as, has, h⟩ := bind_eq_ok_iff.mp h
        cases h
        exact List.forall_mem_cons.mpr ⟨.tree ha, ih has⟩
    | null | bool | num | str | obj => cases h
  | text h =>
    -- from a text the items are read one by one; what starts no array is no list
    obtain ⟨c, -, h⟩ := h.of_bind
    split at h
    · obtain ⟨room, h⟩ := h.of_nested
      exact fun a ha => .text (h.of_array.of_items a ha)
    · obtain ⟨value, h⟩ := reads_scalar h
      cases h

end Decoder

/-! ## Records -/

/-- The value of a field that is not there, if that is allowed. -/
def Absence.value? {β : Type} : Absence β → Option β
  | .refused => none
  | .tolerated value | .defaulted value => some value

namespace Fields

/-- Whether a record is made of what the decoders of its fields give and of defaults. -/
def Gives : {α : Type} → Fields α → α → Prop
  | _, .make value, a => a = value
  | _, .field before _ decoder absence, a => ∃ record b, before.Gives record ∧
      (decoder.Gives b ∨ absence.value? = some b) ∧ a = record b

/-- Whether every value so far is given by the decoder of its field. -/
def Given : {α : Type} → (fields : Fields α) → fields.Slots → Prop
  | _, .make _, _ => True
  | _, .field before _ decoder _, slots =>
    before.Given slots.1 ∧ ∀ b, slots.2 = some b → decoder.Gives b

theorem given_empty (fields : Fields α) : fields.Given fields.empty := by
  induction fields with
  | make => trivial
  | field before _ decoder _ ih => exact ⟨ih, nofun⟩

theorem gives_of_build {fields : Fields α} {slots : fields.Slots} {a : α}
    (hslots : fields.Given slots) (h : fields.build slots = .ok a) : fields.Gives a := by
  induction fields with
  | make =>
    cases h
    rfl
  | field before name decoder absence ih =>
    obtain ⟨others, value⟩ := slots
    obtain ⟨record, hrecord, h⟩ := bind_eq_ok_iff.mp h
    refine ⟨record, ?_⟩
    cases value with
    | some b =>
      cases h
      exact ⟨b, ih hslots.1 hrecord, .inl (hslots.2 b rfl), rfl⟩
    | none =>
      cases absence with
      | refused => cases h
      | tolerated b | defaulted b =>
        cases h
        exact ⟨b, ih hslots.1 hrecord, .inr rfl, rfl⟩

theorem given_visit {context : Context} {fields : Fields α} {slots slots' : fields.Slots}
    {m : String × Json} (hslots : fields.Given slots)
    (h : fields.visit context slots m = .ok slots') : fields.Given slots' := by
  induction fields with
  | make =>
    cases h
    trivial
  | field before name decoder absence ih =>
    obtain ⟨others, value⟩ := slots
    change (before.field name decoder absence).visit context (Slots.snoc others value) m = _ at h
    rw [visit_snoc] at h
    -- either this field is filled and was empty, or one of the fields before
    split at h
    · cases value with
      | some _ => cases h
      | none =>
        obtain ⟨b, hb, rfl⟩ := map_eq_ok_iff.mp h
        refine ⟨hslots.1, fun b' heq => ?_⟩
        cases heq
        exact .tree hb
    · obtain ⟨others', hothers, rfl⟩ := map_eq_ok_iff.mp h
      exact ⟨ih hslots.1 hothers, hslots.2⟩

theorem given_foldlM_visit {context : Context} {fields : Fields α} {slots slots' : fields.Slots}
    {members : List (String × Json)} (hslots : fields.Given slots)
    (h : members.foldlM (fields.visit context) slots = .ok slots') : fields.Given slots' := by
  induction members generalizing slots with
  | nil =>
    cases h
    exact hslots
  | cons m members ih =>
    rw [List.foldlM_cons] at h
    obtain ⟨next, hnext, h⟩ := bind_eq_ok_iff.mp h
    exact ih (given_visit hslots hnext) h

theorem gives_of_ofMembers {context : Context} {fields : Fields α}
    {members : List (String × Json)} {a : α} (h : fields.ofMembers context members = .ok a) :
    fields.Gives a := by
  rw [ofMembers_eq] at h
  obtain ⟨slots, hslots, h⟩ := bind_eq_ok_iff.mp h
  exact gives_of_build (given_foldlM_visit fields.given_empty hslots) h

theorem gives_of_ofItems {context : Context} {expected : String} {fields : Fields α}
    {items left : List Json} {a : α}
    (h : fields.ofItems context expected items = .ok (a, left)) : fields.Gives a := by
  induction fields generalizing left with
  | make =>
    cases h
    rfl
  | field before name decoder absence ih =>
    obtain ⟨⟨record, others⟩, hrecord, h⟩ := bind_eq_ok_iff.mp h
    refine ⟨record, ?_⟩
    cases others with
    | cons item rest =>
      obtain ⟨b, hb, h⟩ := bind_eq_ok_iff.mp h
      cases h
      exact ⟨b, ih hrecord, .inl (.tree hb), rfl⟩
    | nil =>
      cases absence with
      | refused | tolerated => cases h
      | defaulted b =>
        cases h
        exact ⟨b, ih hrecord, .inr rfl, rfl⟩

theorem gives_of_scanItems {room : Nat} {expected : String} {fields : Fields α} {a : α}
    (h : (fields.scanItems room expected).Reads a) : fields.Gives a := by
  induction fields with
  | make => exact h.of_pure
  | field before name decoder absence ih =>
    obtain ⟨record, hrecord, h⟩ := h.of_bind
    obtain ⟨found, hfound, h⟩ := h.of_bind
    refine ⟨record, ?_⟩
    cases found with
    | some b => exact ⟨b, ih hrecord, .inl (.text hfound.of_nextItem), h.of_pure⟩
    | none =>
      cases absence with
      | refused | tolerated => exact h.of_misfit.elim
      | defaulted b => exact ⟨b, ih hrecord, .inr rfl, h.of_pure⟩

/-- Reading a member fills the field of its name with what the decoder of the field gives. -/
theorem given_fill {room : Nat} {fields : Fields α} {slots slots' : fields.Slots} {key : String}
    {filled : Scan fields.Slots} (hslots : fields.Given slots)
    (hfilled : fields.fill (m := Scan) key (fun decoder => valueOf key (decoder.ofText room))
      (fun misfit => Scan.misfit misfit) slots = some filled)
    (h : filled.Reads slots') : fields.Given slots' := by
  induction fields with
  | make => cases hfilled
  | field before name decoder absence ih =>
    rw [fill.eq_def] at hfilled
    dsimp only at hfilled
    split at hfilled
    · cases hfilled
      split at h
      · exact h.of_misfit.elim
      · obtain ⟨b, hb, h⟩ := h.of_bind
        rw [h.of_pure]
        refine ⟨hslots.1, fun b' heq => ?_⟩
        cases heq
        exact .text hb.of_valueOf
    · obtain ⟨others, hothers, rfl⟩ := Option.map_eq_some_iff.mp hfilled
      obtain ⟨next, hnext, h⟩ := h.of_bind
      rw [h.of_pure]
      exact ⟨ih hslots.1 hothers hnext, hslots.2⟩

theorem given_visitText {room : Nat} {fields : Fields α} {slots slots' : fields.Slots}
    {key : String} (hslots : fields.Given slots)
    (h : (fields.visitText room slots key).Reads slots') : fields.Given slots' := by
  unfold visitText at h
  split at h
  · rename_i hfilled
    exact given_fill hslots hfilled h
  · obtain ⟨-, -, h⟩ := h.of_bind
    rwa [h.of_pure]

theorem gives_of_scanMembers {room : Nat} {fields : Fields α} {a : α}
    (h : (fields.scanMembers room).Reads a) : fields.Gives a := by
  rw [scanMembers_eq] at h
  obtain ⟨slots, hslots, h⟩ := h.of_bind
  refine gives_of_build ?_ h.of_lift
  exact hslots.of_members (fun _ _ _ hstate hstep => given_visitText hstate hstep)
    fields.given_empty

/-- **A record is made of what the decoders of its fields give and of defaults.** -/
theorem gives_of_decoder {fields : Fields α} {noun : String} {a : α}
    (h : (fields.decoder noun).Gives a) : fields.Gives a := by
  cases h with
  | @tree context value h =>
    cases value with
    | obj members => exact gives_of_ofMembers h
    | arr items =>
      obtain ⟨⟨record, left⟩, hrecord, h⟩ := bind_eq_ok_iff.mp h
      dsimp only at h
      split at h
      · cases h
        exact gives_of_ofItems hrecord
      · cases h
    | null | bool | num | str => cases h
  | text h =>
    -- a text starts an object, an array or a scalar, and no record is read from a scalar
    obtain ⟨c, -, h⟩ := h.of_bind
    split at h
    · obtain ⟨room, h⟩ := h.of_nested
      exact gives_of_scanMembers h.of_object
    · obtain ⟨room, h⟩ := h.of_nested
      exact gives_of_scanItems h.of_array
    · obtain ⟨value, h⟩ := Decoder.reads_scalar h
      cases h

/-- A value that may be missing is given by its decoder if it is there. -/
theorem gives_of_optional {before : Fields (Option β → α)} {name : String} {d : Decoder β} {a : α}
    (h : (before.optional name d).Gives a) : ∃ record value, before.Gives record ∧
      (∀ b, value = some b → d.optional.Gives (some b)) ∧ a = record value := by
  obtain ⟨record, value, hrecord, hvalue, rfl⟩ := h
  refine ⟨record, value, hrecord, fun b hb => ?_, rfl⟩
  subst hb
  exact hvalue.resolve_right nofun

/-- The values of a list that may be missing are given by the decoder of its items. -/
theorem gives_of_list {before : Fields (List β → α)} {name : String} {d : Decoder β} {a : α}
    (h : (before.defaulted name d.list []).Gives a) : ∃ record bs, before.Gives record ∧
      (∀ b ∈ bs, d.Gives b) ∧ a = record bs := by
  obtain ⟨record, bs, hrecord, hbs | hbs, rfl⟩ := h
  · exact ⟨record, bs, hrecord, hbs.of_list, rfl⟩
  · cases hbs
    exact ⟨record, [], hrecord, by simp, rfl⟩

end Fields

/-! ## Tagged values -/

namespace Tagged

/-- What holds of the values of its parts holds of an alternative. -/
theorem forall_part {P : α → Prop} {wrap : β → α} {d : Decoder β} (h : ∀ b, d.Gives b → P (wrap b))
    (value : Json) (a : α) (ha : part wrap d value = .ok a) : P a := by
  obtain ⟨b, hb, rfl⟩ := map_eq_ok_iff.mp ha
  exact h b (.tree hb)

theorem forall_bare {P : α → Prop} {alone : α} (h : P alone) (value : Json) (a : α)
    (ha : bare alone value = .ok a) : P a := by
  unfold bare at ha
  split at ha
  · cases ha
    exact h
  · cases ha
  · cases ha
    exact h

section Chosen

variable {t : Tagged α} {P : (Json → Except Misfit α) → Prop} {room : Nat}
  {parts : Json → Except Misfit α} {value : Json}

theorem Every.of_tag (ht : t.Every P)
    (h : ((Decoder.scalar (t.choose .plain)).ofText room).Reads parts) : P parts := by
  obtain ⟨tag, h⟩ := Decoder.reads_scalar h
  exact ht.of_choose h

theorem Every.of_split (ht : t.Every P) {context : Context}
    {found chosen : Option (Json → Except Misfit α)} {members others : List (String × Json)}
    (hfound : ∀ parts, found = some parts → P parts)
    (h : t.split context found members = .ok (chosen, others)) :
    ∀ parts, chosen = some parts → P parts := by
  induction members generalizing found others with
  | nil =>
    cases h
    exact hfound
  | cons m members ih =>
    obtain ⟨key, value⟩ := m
    rw [split.eq_def] at h
    dsimp only at h
    split at h
    · cases found with
      | some _ => cases h
      | none =>
        obtain ⟨parts, hparts, h⟩ := bind_eq_ok_iff.mp h
        refine ih (fun parts' heq => ?_) h
        cases heq
        exact ht.of_choose hparts
    · obtain ⟨⟨chosen', others'⟩, hrest, h⟩ := bind_eq_ok_iff.mp h
      cases h
      exact ih hfound hrest

theorem Every.of_scanMembers (ht : t.Every P) (h : (t.scanMembers room).Reads (parts, value)) :
    P parts := by
  rw [scanMembers_eq] at h
  obtain ⟨⟨found, others⟩, hfound, h⟩ := h.of_bind
  have hchosen : ∀ parts, found = some parts → P parts := by
    refine hfound.of_members
      (P := fun state : Gathered α => ∀ parts, state.1 = some parts → P parts) ?_ (by simp)
    intro state key state' hstate hstep
    obtain ⟨chosen, done⟩ := state
    unfold gatherText at hstep
    -- only the tag chooses parts, and no other member changes the choice
    split at hstep
    · cases chosen with
      | some _ => exact hstep.of_misfit.elim
      | none =>
        obtain ⟨parts, hparts, hstep⟩ := hstep.of_bind
        rw [hstep.of_pure]
        intro parts' heq
        cases heq
        exact ht.of_tag hparts.of_valueOf
    · obtain ⟨value, -, hstep⟩ := hstep.of_bind
      rw [hstep.of_pure]
      exact hstate
  cases found with
  | none => exact h.of_misfit.elim
  | some parts' =>
    cases h.of_pure
    exact hchosen parts rfl

theorem Every.of_scanItems (ht : t.Every P) (h : (t.scanItems room).Reads (parts, value)) :
    P parts := by
  obtain ⟨found, hfound, h⟩ := h.of_bind
  cases found with
  | none => exact h.of_misfit.elim
  | some parts' =>
    obtain ⟨rest, -, h⟩ := h.of_bind
    cases h.of_pure
    exact ht.of_tag hfound.of_nextItem

end Chosen

/-- **A tagged value is given by one of its alternatives.** -/
theorem Every.of_gives {t : Tagged α} {P : α → Prop}
    (ht : t.Every fun parts => ∀ value a, parts value = .ok a → P a) {a : α}
    (h : t.decoder.Gives a) : P a := by
  cases h with
  | @tree context value h =>
    cases value with
    | obj members =>
      obtain ⟨⟨chosen, others⟩, hchosen, h⟩ := bind_eq_ok_iff.mp h
      cases chosen with
      | none => cases h
      | some parts => exact ht.of_split (by simp) hchosen parts rfl _ _ h
    | arr items =>
      cases items with
      | nil => cases h
      | cons first rest =>
        obtain ⟨parts, hparts, h⟩ := bind_eq_ok_iff.mp h
        exact ht.of_choose hparts _ _ h
    | null | bool | num | str => cases h
  | text h =>
    -- from a text the alternative is chosen along the way, and reads what was set aside
    obtain ⟨c, -, h⟩ := h.of_bind
    split at h
    · obtain ⟨⟨parts, value⟩, hparts, h⟩ := h.of_bind
      obtain ⟨room, hparts⟩ := hparts.of_nested
      exact ht.of_scanMembers hparts.of_object value a h.of_lift
    · obtain ⟨⟨parts, value⟩, hparts, h⟩ := h.of_bind
      obtain ⟨room, hparts⟩ := hparts.of_nested
      exact ht.of_scanItems hparts.of_array value a h.of_lift
    · obtain ⟨_, hparts, -⟩ := h.of_bind
      obtain ⟨value, h⟩ := Decoder.reads_scalar hparts
      cases h

end Tagged

end Courier

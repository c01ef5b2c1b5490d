import Courier.Proofs.Decode.Tolerance

/-!
# Changing a part of what is read

A decoder reads the parts of a value and puts together what it gets for them. `Focus` names one part
by its path and says what becomes of the whole when the part is exchanged: what the new part is read
as stands where the old one stood, and nothing else changes. There is one rule for each way of
building a decoder, and one for going on from a part to a part of it (`Focus.trans`).
-/

namespace Courier

open Json (Step)

variable {α β γ : Type}

/-- The part of a value under a path is read as `b`, and with another part in its place the value is
read as what `write` makes of the other part. -/
structure Focus (read : Json → Except Misfit α) (inner : Json → Except Misfit β) (path : List Step)
    (value : Json) (b : β) (write : β → α) : Prop where
  found : ∃ part, value.partAt? path = some part ∧ inner part = .ok b
  replaced : ∀ part b', inner part = .ok b' → read (value.setAt path part) = .ok (write b')

namespace Focus

variable {read : Json → Except Misfit α} {inner : Json → Except Misfit β} {path : List Step}
  {value : Json} {b : β} {write : β → α}

/-- **A part of a part is a part**, and it is changed inside the part that it is in. -/
theorem trans {innermost : Json → Except Misfit γ} {rest : List Step} {c : γ} {write' : γ → β}
    (h : Focus read inner path value b write) (hvalue : value.IsValue)
    (h' : ∀ part, part.IsValue → inner part = .ok b → Focus inner innermost rest part c write') :
    Focus read innermost (path ++ rest) value c (write ∘ write') := by
  obtain ⟨part, hpart, hb⟩ := h.found
  have hinside := h' part (hvalue.of_partAt? hpart) hb
  constructor
  · obtain ⟨part', hpart', hc⟩ := hinside.found
    refine ⟨part', ?_, hc⟩
    rw [Json.partAt?_append, hpart, Option.bind_some, hpart']
  · intro part' c' hc'
    rw [Json.setAt_append hpart]
    exact h.replaced _ _ (hinside.replaced part' c' hc')

/-- What is read of a part is read of it also when it is wrapped. -/
theorem part {d : Decoder α} (h : Focus (d.ofJson .tagged) inner path value b write)
    (wrap : α → γ) : Focus (Tagged.part wrap d) inner path value b (wrap ∘ write) :=
  ⟨h.found, fun part b' hb' => map_eq_ok_iff.mpr ⟨_, h.replaced part b' hb', rfl⟩⟩

/-- A part that one step leads to. -/
theorem of_step {step : Step} (hfound : ∃ part, step.part? value = some part ∧ inner part = .ok b)
    (hreplaced : ∀ part b', inner part = .ok b' →
      read (step.setPart value part) = .ok (write b')) :
    Focus read inner [step] value b write := by
  obtain ⟨part, hpart, hb⟩ := hfound
  constructor
  · exact ⟨part, by rw [Json.partAt?, hpart]; rfl, hb⟩
  · intro part' b' hb'
    rw [Json.setAt, hpart]
    exact hreplaced part' b' hb'

end Focus

/-! ## Lists -/

/-- Reading items one by one, one of them can be exchanged. -/
theorem mapM_set {read : Json → Except Misfit α} {items : List Json} {as : List α}
    (h : items.mapM read = .ok as) {i : Nat} {a : α} (ha : as[i]? = some a) :
    (∃ item, items[i]? = some item ∧ read item = .ok a) ∧
      ∀ item' a', read item' = .ok a' → (items.set i item').mapM read = .ok (as.set i a') := by
  induction items generalizing as i with
  | nil =>
    cases h
    cases ha
  | cons item items ih =>
    rw [List.mapM_cons] at h
    obtain ⟨first, hfirst, h⟩ := bind_eq_ok_iff.mp h
    obtain ⟨rest, hrest, h⟩ := bind_eq_ok_iff.mp h
    cases h
    cases i with
    | zero =>
      cases ha
      refine ⟨⟨item, rfl, hfirst⟩, fun item' a' ha' => ?_⟩
      rw [List.set_cons_zero, List.mapM_cons, ha', hrest]
      rfl
    | succ i =>
      obtain ⟨hfound, hset⟩ := ih hrest ha
      refine ⟨hfound, fun item' a' ha' => ?_⟩
      rw [List.set_cons_succ, List.mapM_cons, hfirst, hset item' a' ha']
      rfl

/-- **An item of a list can be exchanged.** -/
theorem Decoder.focus_list {d : Decoder α} {context : Context} {value : Json} {as : List α}
    (h : d.list.ofJson context value = .ok as) {i : Nat} {a : α} (ha : as[i]? = some a) :
    Focus (d.list.ofJson context) (d.ofJson context) [.item i] value a (as.set i) := by
  cases value with
  | arr items =>
    obtain ⟨hfound, hset⟩ := mapM_set h ha
    exact .of_step hfound hset
  | null | bool | num | str | obj => cases h

/-! ## Records -/

namespace Fields

/-- The items behind the fields do not matter for the record, as long as there are some: the fields
take as many items as there are fields. -/
theorem exists_prefix_of_ofItems {fields : Fields α} {context : Context} {expected : String}
    {items left : List Json} {record : α}
    (h : fields.ofItems context expected items = .ok (record, left)) (hleft : left ≠ []) :
    ∃ taken, items = taken ++ left ∧ taken.length = fields.size ∧
      ∀ left', fields.ofItems context expected (taken ++ left') = .ok (record, left') := by
  induction fields generalizing left with
  | make =>
    cases h
    exact ⟨[], rfl, rfl, fun _ => rfl⟩
  | field before name decoder absence ih =>
    obtain ⟨⟨others, items'⟩, hothers, h⟩ := bind_eq_ok_iff.mp h
    cases items' with
    | nil =>
      -- nothing is left for this field, and so nothing behind it
      cases absence with
      | refused | tolerated => cases h
      | defaulted b =>
        cases h
        exact absurd rfl hleft
    | cons item rest =>
      obtain ⟨b, hb, h⟩ := bind_eq_ok_iff.mp h
      cases h
      obtain ⟨taken, rfl, hlength, htaken⟩ := ih hothers (List.cons_ne_nil _ _)
      refine ⟨taken ++ [item], by simp, by simp [size, hlength], fun left' => ?_⟩
      rw [List.append_assoc, List.singleton_append, ofItems, htaken]
      show (decoder.ofJson context item >>= fun value => Except.ok (others value, left')) = _
      rw [hb]
      rfl

section LastField

variable {before : Fields (β → α)} {name : String} {d : Decoder β} {absence : Absence β}
  {noun : String} {context : Context} {a : α}

/-- The last field is exchanged in an object by putting another member under its name. -/
theorem exists_focus_obj (hnames : (before.field name d absence).names.Nodup)
    {members : List (String × Json)} (hmembers : Assoc.Ascending members)
    (h : (before.field name d absence).ofMembers context members = .ok a) :
    ∃ record b, before.Gives record ∧ a = record b ∧ (absence.value? = some b ∨
      Focus (((before.field name d absence).decoder noun).ofJson context) (d.ofJson context)
        [.field name before.size] (.obj members) b record) := by
  have hbefore : before.names.Nodup ∧ name ∉ before.names := by
    rw [names, List.nodup_append] at hnames
    exact ⟨hnames.1, fun hmem => hnames.2.2 name hmem name (List.mem_singleton_self name) rfl⟩
  have hread := toOption_eq_some_iff.mpr h
  rw [toOption_ofMembers hnames hmembers.nodup, ofLookup] at hread
  obtain ⟨record, hrecord, hlast⟩ := Option.bind_eq_some_iff.mp hread
  have hgives : before.Gives record := by
    rw [← toOption_ofMembers hbefore.1 hmembers.nodup] at hrecord
    exact gives_of_ofMembers (toOption_eq_some_iff.mp hrecord)
  cases hfound : Assoc.find? name members with
  | none =>
    rw [hfound] at hlast
    cases absence with
    | refused => cases hlast
    | tolerated b | defaulted b =>
      cases hlast
      exact ⟨record, b, hgives, rfl, .inl rfl⟩
  | some part =>
    rw [hfound] at hlast
    obtain ⟨b, hb, rfl⟩ := Option.map_eq_some_iff.mp hlast
    refine ⟨record, b, hgives, rfl, .inr (.of_step ⟨part, hfound, toOption_eq_some_iff.mp hb⟩ ?_)⟩
    intro part' b' hb'
    -- the fields before do not see the other member
    have hsame : before.ofLookup context (Assoc.find? · (Assoc.put name part' members))
        = before.ofLookup context (Assoc.find? · members) :=
      ofLookup_congr fun other hother => by
        rw [Assoc.find?_put, if_neg (ne_of_mem_of_not_mem hother hbefore.2)]
    show (before.field name d absence).ofMembers context (Assoc.put name part' members) = _
    rw [← toOption_eq_some_iff, toOption_ofMembers hnames hmembers.put.nodup, ofLookup, hsame,
      hrecord, Option.bind_some, Assoc.find?_put, if_pos rfl]
    exact congrArg (Option.map record) (toOption_eq_some_iff.mpr hb')

/-- The last field is exchanged in an array by putting another item at its number. -/
theorem exists_focus_arr {items : List Json}
    (h : ((before.field name d absence).decoder noun).ofJson context (.arr items) = .ok a) :
    ∃ record b, before.Gives record ∧ a = record b ∧ (absence.value? = some b ∨
      Focus (((before.field name d absence).decoder noun).ofJson context) (d.ofJson context)
        [.field name before.size] (.arr items) b record) := by
  obtain ⟨⟨a', left⟩, hread, hleft⟩ := bind_eq_ok_iff.mp h
  dsimp only at hleft
  split at hleft
  case isFalse => cases hleft
  rename_i hempty
  cases hleft
  obtain rfl := List.isEmpty_iff.mp hempty
  obtain ⟨⟨record, others⟩, hrecord, hread⟩ := bind_eq_ok_iff.mp hread
  refine ⟨record, ?_⟩
  -- either no item is left and the field has its default, or the item is the last one taken
  cases others with
  | nil =>
    cases absence with
    | refused | tolerated => cases hread
    | defaulted b =>
      cases hread
      exact ⟨b, gives_of_ofItems hrecord, rfl, .inl rfl⟩
  | cons item rest =>
    obtain ⟨b, hb, hread⟩ := bind_eq_ok_iff.mp hread
    cases hread
    obtain ⟨taken, rfl, hlength, htaken⟩ :=
      exists_prefix_of_ofItems hrecord (List.cons_ne_nil _ _)
    refine ⟨b, gives_of_ofItems hrecord, rfl, .inr (.of_step ⟨item, ?_, hb⟩ ?_)⟩
    · show (taken ++ [item])[before.size]? = some item
      rw [← hlength, List.getElem?_concat_length]
    · intro part' b' hb'
      -- the fields before read the same items, so only the last value is another
      have hset : (taken ++ [item]).set before.size part' = taken ++ [part'] := by
        rw [← hlength, List.set_append_right _ _ (Nat.le_refl _), Nat.sub_self,
          List.set_cons_zero]
      have hread' : (before.field name d absence).ofItems context
          ((before.field name d absence).lengthNoun noun) (taken ++ [part'])
          = .ok (record b', []) := by
        rw [ofItems, htaken]
        show (d.ofJson context part' >>= fun value => Except.ok (record value, [])) = _
        rw [hb']
        rfl
      show (before.field name d absence).decode noun context
        (.arr ((taken ++ [item]).set before.size part')) = _
      rw [hset, decode, hread']
      rfl

/-- **The last field of a record can be exchanged**, if it is not left out. -/
theorem exists_focus (hnames : (before.field name d absence).names.Nodup) {value : Json}
    (hvalue : value.IsValue)
    (h : ((before.field name d absence).decoder noun).ofJson context value = .ok a) :
    ∃ record b, before.Gives record ∧ a = record b ∧ (absence.value? = some b ∨
      Focus (((before.field name d absence).decoder noun).ofJson context) (d.ofJson context)
        [.field name before.size] value b record) := by
  cases value with
  | obj members => exact exists_focus_obj hnames (Json.isValue_obj.mp hvalue).1 h
  | arr items => exact exists_focus_arr h
  | null | bool | num | str => cases h

end LastField

/-- A list that is the only field of a record can be exchanged, if it is not empty. -/
theorem focus_list {d : Decoder β} {name noun : String} {context : Context} {value : Json}
    (hvalue : value.IsValue) {bs : List β} (hbs : bs ≠ [])
    (h : (((make id).defaulted name d.list []).decoder noun).ofJson context value = .ok bs) :
    Focus ((((make id).defaulted name d.list []).decoder noun).ofJson context)
      (d.list.ofJson context) [.field name 0] value bs id := by
  have hnames : ((make id).defaulted name d.list []).names.Nodup := List.nodup_singleton name
  obtain ⟨record, b, hrecord, rfl, hdefault | hfocus⟩ := exists_focus hnames hvalue h
  · cases hrecord
    cases hdefault
    exact absurd rfl hbs
  · cases hrecord
    exact hfocus

end Fields

/-! ## Tagged values -/

/-- **A part of the alternative of a tagged value can be exchanged.** In an array the tag is in
front of the items of the alternative. -/
theorem Tagged.focus {t : Tagged α} {context : Context} {value : Json} (hvalue : value.IsValue)
    {a : α} (h : t.decode context value = .ok a) {inner : Json → Except Misfit β} {name : String}
    (hname : name ≠ t.tag) {index : Nat} {b : β} {write : β → α}
    (hparts : ∀ tag parts inside, t.choose context tag = .ok parts → inside.IsValue →
      parts inside = .ok a → Focus parts inner [.field name index] inside b write) :
    Focus (t.decode context) inner [.field name (index + 1)] value b write := by
  -- the path has one step inside the alternative: what the focus says, for that step alone
  have hstep {parts : Json → Except Misfit α} {inside : Json}
      (hfocus : Focus parts inner [.field name index] inside b write) :
      (∃ part, (Step.field name index).part? inside = some part ∧ inner part = .ok b) ∧
        ∀ part b', inner part = .ok b' →
          parts ((Step.field name index).setPart inside part) = .ok (write b') := by
    obtain ⟨part, hpart, hb⟩ := hfocus.found
    obtain ⟨part', hpart', hnil⟩ := Option.bind_eq_some_iff.mp hpart
    cases hnil
    refine ⟨⟨part, hpart', hb⟩, fun part' b' hb' => ?_⟩
    have hset := hfocus.replaced part' b' hb'
    rwa [Json.setAt, hpart'] at hset
  cases value with
  | obj members =>
    obtain ⟨hascending, hvalues⟩ := Json.isValue_obj.mp hvalue
    obtain ⟨tag, parts, htag, hchoose, hread⟩ := (decode_obj_eq_ok_iff hascending.nodup).mp h
    have hinside : (Json.obj (Assoc.erase t.tag members)).IsValue :=
      Json.isValue_obj.mpr ⟨hascending.erase, fun m hm => hvalues m (List.mem_of_mem_filter hm)⟩
    obtain ⟨⟨part, hpart, hb⟩, hset⟩ := hstep (hparts tag parts _ hchoose hinside hread)
    refine .of_step ⟨part, ?_, hb⟩ fun part' b' hb' => ?_
    · have hkept : Assoc.find? name (Assoc.erase t.tag members) = some part := hpart
      rwa [Assoc.find?_erase, if_neg hname] at hkept
    · refine (decode_obj_eq_ok_iff hascending.put.nodup).mpr ⟨tag, parts, ?_, hchoose, ?_⟩
      · rw [Assoc.find?_put, if_neg hname.symm, htag]
      · rw [hascending.erase_put hname.symm]
        exact hset part' b' hb'
  | arr items =>
    cases items with
    | nil => cases h
    | cons tag rest =>
      obtain ⟨parts, hchoose, hread⟩ := bind_eq_ok_iff.mp h
      have hinside : (Json.arr rest).IsValue :=
        Json.isValue_arr.mpr fun item hitem =>
          Json.isValue_arr.mp hvalue item (List.mem_cons_of_mem _ hitem)
      obtain ⟨hfound, hset⟩ := hstep (hparts tag parts _ hchoose hinside hread)
      refine .of_step hfound fun part' b' hb' => ?_
      show t.decode context (.arr (tag :: rest.set index part')) = _
      rw [decode, hchoose]
      exact hset part' b' hb'
  | null | bool | num | str => cases h

end Courier

import Courier.Http.Content
import Courier.Proofs.Decode.Order
import Courier.Proofs.Decode.Restore
import Courier.Proofs.Decode.Text

/-!
# Two records in one object

A record with fields of its own and the fields of another record in one object obeys the laws of
decoders: it is read from a text as from its tree (`Fields.Every.agrees_flattened`), the order of the
members does not matter (`Fields.Every.steady_flattened`), and it is read back from an object that
was written (`Fields.restores_flattened`). All three come down to parting the members by the names of
the own fields, because then each record finds its own members.
-/

namespace Courier

open Scan

variable {α β : Type}

namespace Decoder

/-! ## Values, objects and functions -/

theorem agrees_json : json.Agrees := by
  intro room cs value rest h
  show (Json.normalize <$> tree room).run? cs = _
  rw [run?_map, h]
  rfl

/-- A value without parts is not read where an object is asked for. -/
theorem run?_object_of_starts {cs rest : List Char} {value : Json}
    (h : Starts (cs.dropWhile isSpace) (some value) rest) (object : Scan α) (noun : String)
    (room : Nat) :
    run? (do
      match ← next? with
      | some '\x7b' => object
      | _ => (scalar fun value => wrongType value noun).ofText room) cs = none := by
  obtain ⟨c, after, htext, -, hc, -⟩ := h.exists_head
  rw [run?_bind, run?_next?, Option.bind_some, htext, List.head?_cons]
  dsimp only
  split
  · rename_i hhead
    exact absurd (Option.some.inj hhead) hc
  · exact run?_scalar_wrongType ..

/-- An object is read as a tree. -/
theorem agrees_object : object.Agrees := by
  refine agrees_of_written (fun {_ _ value _} h => ?_) (fun htext _ => ?_)
    (fun {room _ inner members rest} htext hmembers => ?_)
  · have hvalue : (object.ofJson .plain value).toOption = none := by
      cases value with
      | obj members => exact absurd rfl (h.ne_obj members)
      | _ => rfl
    rw [hvalue]
    exact run?_object_of_starts h ..
  · simp [object, htext]
  · have htree : (tree (room + 1)).run? ('\x7b' :: inner) = some (.obj members, rest) :=
      run?_tree_eq_some_iff.mpr (.obj hmembers)
    simp only [object, run?_bind, run?_next?, htext, Option.bind_some, List.head?_cons, htree]
    rfl

/-- Sorting an object that is sorted already changes nothing. -/
theorem steady_object : object.Steady := by
  intro context value _
  cases value with
  | obj members =>
    have hsorted := Json.normalize_normalize (.obj members)
    simp only [Json.normalize, Json.obj.injEq] at hsorted
    exact congrArg some hsorted
  | arr items =>
    rw [Json.normalize_arr]
    rfl
  | _ => rfl

theorem restores_object (members : List (String × Json)) :
    object.Restores (.obj members) (Assoc.sort (Json.normalizeMembers members)) :=
  fun _ => rfl

section Map

variable {d : Decoder α} (f : α → β)

theorem Agrees.map (h : d.Agrees) : (d.map f).Agrees := by
  intro room cs value rest hread
  show (f <$> d.ofText room).run? cs = ((d.ofJson .plain value).map f).toOption.map (·, rest)
  rw [run?_map, h hread, toOption_map]
  cases (d.ofJson .plain value).toOption <;> rfl

theorem Steady.map (h : d.Steady) : (d.map f).Steady := by
  intro context value hvalue
  show ((d.ofJson context value.normalize).map f).toOption
    = ((d.ofJson context value).map f).toOption
  rw [toOption_map, toOption_map, h context hvalue]

theorem Restores.map {value : Json} {a : α} (h : d.Restores value a) :
    (d.map f).Restores value (f a) := by
  intro context
  show (d.ofJson context value).map f = .ok (f a)
  rw [h context]
  rfl

end Map

end Decoder

namespace Fields

/-! ## Parting the members -/

/-- A field is filled exactly if there is one with the name. -/
theorem isSome_fill {m : Type → Type} [Monad m] (key : String)
    (read : {β : Type} → Decoder β → m β) (refuse : {β : Type} → Misfit → m β)
    (fields : Fields α) (slots : fields.Slots) :
    (fields.fill key read refuse slots).isSome = fields.names.contains key := by
  induction fields with
  | make => rfl
  | field before name decoder _ ih =>
    rw [fill]
    by_cases h : key = name
    · simp [h, names]
    · rw [if_neg h, Option.isSome_map, ih]
      simp [h, names]

/-- The values of the own fields and the other members so far, the last one in front. -/
abbrev Parted (own : Fields α) : Type :=
  own.Slots × List (String × Json)

/-- The own fields and the other members after one more member of an object. -/
def part (context : Context) (own : Fields α) (state : own.Parted) (member : String × Json) :
    Except Misfit own.Parted :=
  if own.names.contains member.1 then
    (own.visit context state.1 member).map fun slots => (slots, state.2)
  else .ok (state.1, member :: state.2)

/-- The own fields and the other members after one more member of an object in a text, behind its
key. -/
def partText (room : Nat) (own : Fields α) (state : own.Parted) (key : String) :
    Scan own.Parted :=
  if own.names.contains key then do
    let slots ← own.visitText room state.1 key
    pure (slots, state.2)
  else do
    let value ← Scan.valueOf key (Scan.tree room)
    pure (state.1, (key, value) :: state.2)

theorem scanFlattened_eq (room : Nat) (own : Fields α) (others : Fields β) :
    own.scanFlattened room others = (do
      let state ← Scan.members (own.partText room) (own.empty, [])
      let a ← Decoder.lift (own.build state.1)
      let b ← Decoder.lift (others.ofMembers .tagged state.2.reverse)
      pure (a, b)) := by
  rw [scanFlattened]
  congr 2
  funext ⟨slots, others⟩ key
  have hsome := own.isSome_fill (m := Scan) key
    (fun decoder => Scan.valueOf key (decoder.ofText room)) (fun misfit => Scan.misfit misfit) slots
  rw [partText, visitText, ← hsome]
  dsimp only
  cases own.fill (m := Scan) key _ _ slots <;> rfl

/-- Parting the members one by one fills the own fields with all of them and keeps those that are
none of these. -/
theorem foldlM_part (context : Context) (own : Fields α) (members : List (String × Json))
    (state : own.Parted) :
    members.foldlM (own.part context) state
      = (members.foldlM (own.visit context) state.1).map fun slots =>
          (slots, (members.filter fun m => !own.names.contains m.1).reverse ++ state.2) := by
  induction members generalizing state with
  | nil => rfl
  | cons m members ih =>
    -- a member that is no own field is visited without effect, so both folds go on in step
    rw [List.foldlM_cons, List.foldlM_cons, part]
    by_cases h : own.names.contains m.1
    · rw [if_pos h, List.filter_cons_of_neg (by simpa using h)]
      cases own.visit context state.1 m with
      | error misfit => rfl
      | ok slots => exact ih (slots, state.2)
    · have hvisit : own.visit context state.1 m = .ok state.1 :=
        visit_of_notMem (by simpa using h)
      rw [if_neg h, List.filter_cons_of_pos (by simpa using h), hvisit, List.reverse_cons,
        List.append_assoc]
      exact ih (state.1, m :: state.2)

/-! ## Agreement -/

/-- One member of a text is parted as the member of its tree is. -/
theorem run?_partText {own : Fields α} (h : own.Every Decoder.Agrees) {room : Nat}
    {cs inner rest : List Char} {value : Json} (state : own.Parted) (key : String)
    (hcolon : cs.dropWhile isSpace = ':' :: inner)
    (hvalue : (tree room).run? inner = some (value, rest)) :
    (own.partText room state key).run? cs
      = (own.part .plain state (key, value)).toOption.map (·, rest) := by
  rw [partText, part]
  split
  · rw [run?_bind, run?_visitText h state.1 key hcolon hvalue, toOption_map]
    cases (own.visit .plain state.1 (key, value)).toOption <;> rfl
  · rw [run?_bind, run?_valueOf, run?_colon_eq_some_iff.mpr hcolon, Option.bind_some, hvalue]
    rfl

/-- The members of a text are parted as those of its tree are. -/
theorem run?_members_partText {own : Fields α} (h : own.Every Decoder.Agrees) {room : Nat}
    {cs rest : List Char} {members : List (String × Json)}
    (hmembers : Members (tree room) true cs members rest) :
    (Scan.members (own.partText room) (own.empty, [])).run? cs
      = (members.foldlM (own.visit .plain) own.empty).toOption.map fun slots =>
          ((slots, (members.filter fun m => !own.names.contains m.1).reverse), '\x7d' :: rest) := by
  have hread : (Scan.members (own.partText room) (own.empty, [])).run? cs
      = (members.foldlM (fun state m => (own.part .plain state m).toOption) (own.empty, [])).map
          (·, '\x7d' :: rest) :=
    hmembers.run?_members length_lt_of_run?_tree (fun state key => run?_partText h state key) _
  rw [hread, ← toOption_foldlM, foldlM_part, toOption_map, Option.map_map, List.append_nil]
  rfl

theorem run?_scanFlattened {own : Fields α} (h : own.Every Decoder.Agrees) (others : Fields β)
    {room : Nat} {cs rest : List Char} {members : List (String × Json)}
    (hmembers : Members (tree room) true cs members rest) :
    (own.scanFlattened room others).run? cs
      = (own.ofFlattened .plain others members).toOption.map (·, '\x7d' :: rest) := by
  rw [scanFlattened_eq, run?_bind, run?_members_partText h hmembers, ofFlattened, toOption_bind,
    ofMembers_eq, toOption_bind]
  cases (members.foldlM (own.visit .plain) own.empty).toOption with
  | none => rfl
  | some slots =>
    simp only [Option.map_some, Option.bind_some, run?_bind, Decoder.run?_lift,
      List.reverse_reverse, toOption_bind]
    cases (own.build slots).toOption with
    | none => rfl
    | some a =>
      cases (others.ofMembers .tagged
        (members.filter fun m => !own.names.contains m.1)).toOption <;> rfl

/-- **Two records in one object agree**, if the decoders of the own fields do. The other fields are
read from the tree anyway. -/
theorem Every.agrees_flattened {own : Fields α} (h : own.Every Decoder.Agrees) (others : Fields β)
    (noun : String) : (own.flattened noun others).Agrees := by
  refine Decoder.agrees_of_written (fun {_ _ value _} h => ?_) (fun htext _ => ?_)
    (fun htext hmembers => ?_)
  · have hvalue : ((own.flattened noun others).ofJson .plain value).toOption = none := by
      cases value with
      | obj members => exact absurd rfl (h.ne_obj members)
      | _ => rfl
    rw [hvalue]
    exact Decoder.run?_object_of_starts h ..
  · simp [flattened, htext]
  · simp only [flattened, run?_bind, run?_next?, htext, Option.bind_some, List.head?_cons, nested,
      run?_object (run?_scanFlattened h others hmembers)]

/-! ## Order -/

/-- Fields look at their own names only. -/
theorem ofLookup_congr {fields : Fields α} {context : Context}
    {lookup lookup' : String → Option Json}
    (h : ∀ name ∈ fields.names, lookup name = lookup' name) :
    fields.ofLookup context lookup = fields.ofLookup context lookup' := by
  induction fields with
  | make => rfl
  | field before name decoder absence ih =>
    rw [names] at h
    have hname := h name (List.mem_append_right _ (List.mem_singleton_self name))
    rw [ofLookup, ofLookup, hname, ih fun other hother => h other (List.mem_append_left _ hother)]

section Lookup

variable {own : Fields α} {others : Fields β} {members : List (String × Json)}

/-- **Two records in one object are what their fields find under their names**, if all names are
different. -/
theorem toOption_ofFlattened (hnames : (own.names ++ others.names).Nodup) (context : Context)
    (hmembers : (members.map Prod.fst).Nodup) :
    (own.ofFlattened context others members).toOption
      = (own.ofLookup context (Assoc.find? · members)).bind fun a =>
          (others.ofLookup .tagged (Assoc.find? · members)).map fun b => (a, b) := by
  obtain ⟨hown, hothers, hapart⟩ := List.nodup_append.mp hnames
  have hrest : ((members.filter fun m => !own.names.contains m.1).map Prod.fst).Nodup :=
    (List.filter_sublist.map _).nodup hmembers
  have hfound : others.ofLookup .tagged
      (Assoc.find? · (members.filter fun m => !own.names.contains m.1))
      = others.ofLookup .tagged (Assoc.find? · members) := by
    refine ofLookup_congr fun name hname => ?_
    refine Assoc.find?_filter (fun key => !own.names.contains key) ?_
    simpa using fun hmem => hapart name hmem name hname rfl
  rw [ofFlattened, toOption_bind, toOption_ofMembers hown hmembers]
  simp only [toOption_bind, toOption_ofMembers hothers hrest, hfound, toOption_ok,
    Option.map_eq_bind, Function.comp_def]

/-- **Two records in one object are steady**, if the decoders of all fields are. -/
theorem Every.steady_flattened (hown : own.Every Decoder.Steady)
    (hothers : others.Every Decoder.Steady) (hnames : (own.names ++ others.names).Nodup)
    (noun : String) : (own.flattened noun others).Steady := by
  intro context value hvalue
  cases value with
  | obj members =>
    obtain ⟨hkeys, hvalues⟩ := Json.distinctKeys_obj.mp hvalue
    have hfound : ∀ name value, Assoc.find? name members = some value → value.DistinctKeys :=
      fun name value hfound => hvalues (name, value) (Assoc.mem_of_find? hfound)
    rw [Json.normalize_obj]
    show (own.ofFlattened context others _).toOption = (own.ofFlattened context others _).toOption
    rw [toOption_ofFlattened hnames context hkeys,
      toOption_ofFlattened hnames context Assoc.ascending_sort.nodup]
    simp only [Json.find?_sort_normalize hkeys, hown.ofLookup_normalize hfound,
      hothers.ofLookup_normalize hfound]
  | arr items =>
    rw [Json.normalize_arr]
    rfl
  | _ => rfl

end Lookup

/-! ## Reading back -/

/-- **Two records are restored from one object if the fields of both are**, when the members are
written under names of fields. -/
theorem restores_flattened {own : Fields α} {others : Fields β}
    {members : List (String × Option Json)} {a : α} {b : β}
    (hnames : (own.names ++ others.names).Nodup) (hmembers : (members.map Prod.fst).Nodup)
    (ha : own.Finds (fun key => (Assoc.find? key members).join) a)
    (hb : others.Finds (fun key => (Assoc.find? key members).join) b) (noun : String) :
    (own.flattened noun others).Restores (.object members) (a, b) := by
  intro context
  have hfound : ∀ key, Assoc.find? key (Assoc.sort (members.filterMap fun m => m.2.map (m.1, ·)))
      = (Assoc.find? key members).join := Json.member?_object hmembers
  show own.ofFlattened context others _ = .ok (a, b)
  rw [← toOption_eq_some_iff, toOption_ofFlattened hnames context Assoc.ascending_sort.nodup]
  simp only [hfound]
  rw [ha context, hb .tagged]
  rfl

end Fields

end Courier

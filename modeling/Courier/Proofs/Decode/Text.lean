import Courier.Decode.Enumeration
import Courier.Proofs.Decode.Member
import Courier.Proofs.Json.Ignored

/-!
# Decoding a text and decoding its tree

A decoder reads a text without making its tree, but it accepts the text exactly if it accepts the
tree, and gives the same (`Decoder.Agrees`). This is shown once for each way of building a decoder,
under the condition that the decoders of the parts agree. No condition is put on the tree: also of a
repeated key and of a key that no field has, both ways make the same.
-/

namespace Courier

open Scan

variable {α β γ : Type}

namespace Decoder

/-! ## Agreement -/

/-- Wherever a tree can be read, the decoder reads from the text what it makes of the tree, up to
the same place. -/
def Agrees (d : Decoder α) : Prop :=
  ∀ ⦃room cs value rest⦄, (tree room).run? cs = some (value, rest) →
    (d.ofText room).run? cs = (d.ofJson .plain value).toOption.map (·, rest)

@[simp] theorem run?_lift (result : Except Misfit α) (cs : List Char) :
    (lift result : Scan α).run? cs = result.toOption.map (·, cs) := by
  cases result <;> rfl

@[simp] theorem toOption_wrongType (value : Json) (noun : String) :
    (wrongType value noun : Except Misfit α).toOption = none := rfl

/-- How a text starts tells whether its tree has parts. -/
theorem agrees_of_written {d : Decoder α}
    (hscalar : ∀ {room cs value rest}, Starts (cs.dropWhile isSpace) (some value) rest →
      (d.ofText room).run? cs = (d.ofJson .plain value).toOption.map (·, rest))
    (harr : ∀ {room cs inner items rest}, cs.dropWhile isSpace = '[' :: inner →
      Items (tree room) 0 inner items rest →
      (d.ofText (room + 1)).run? cs = (d.ofJson .plain (.arr items)).toOption.map (·, rest))
    (hobj : ∀ {room cs inner members rest}, cs.dropWhile isSpace = '\x7b' :: inner →
      Members (tree room) true inner members rest →
      (d.ofText (room + 1)).run? cs = (d.ofJson .plain (.obj members)).toOption.map (·, rest)) :
    d.Agrees := by
  intro room cs value rest h
  have hwritten := written_of_run?_tree h
  generalize htext : cs.dropWhile isSpace = text at hwritten
  cases hwritten with
  | scalar h => exact hscalar (htext ▸ h)
  | arr h => exact harr htext h
  | obj h => exact hobj htext h

/-- A whole text is decoded as its tree is. -/
theorem Agrees.toOption_parse {d : Decoder α} (h : d.Agrees) {text : String} {value : Json}
    (hvalue : Scan.document (tree maxDepth) text = .ok value) :
    (d.parse text).toOption = (d.run value).toOption := by
  have hread := toOption_eq_some_iff.mpr hvalue
  rw [toOption_document, Option.bind_eq_some_iff] at hread
  obtain ⟨⟨value', rest⟩, hread, hrest⟩ := hread
  split at hrest
  · rename_i hspace
    cases hrest
    dsimp only at hspace ⊢
    rw [parse, toOption_document, h hread, run]
    cases (d.ofJson .plain value').toOption with
    | none => rfl
    | some a => exact if_pos hspace
  · cases hrest

/-! ## Types without parts -/

theorem run?_outline_arr {cs inner : List Char} (h : cs.dropWhile isSpace = '[' :: inner) :
    outline.run? cs = some (.arr [], '[' :: inner) := by
  have hscalar : scalar?.run? cs = some (none, '[' :: inner) :=
    run?_scalar?_eq_some_iff.mpr (h ▸ Starts.arr)
  rw [outline, run?_bind, hscalar]
  rfl

theorem run?_outline_obj {cs inner : List Char} (h : cs.dropWhile isSpace = '\x7b' :: inner) :
    outline.run? cs = some (.obj [], '\x7b' :: inner) := by
  have hscalar : scalar?.run? cs = some (none, '\x7b' :: inner) :=
    run?_scalar?_eq_some_iff.mpr (h ▸ Starts.obj)
  rw [outline, run?_bind, hscalar]
  rfl

theorem run?_outline_of_some {cs rest : List Char} {value : Json}
    (h : Starts (cs.dropWhile isSpace) (some value) rest) :
    outline.run? cs = some (value, rest) := by
  rw [outline, run?_bind, run?_scalar?_eq_some_iff.mpr h]
  rfl

theorem run?_scalar (decode : Json → Except Misfit α) (room : Nat) (cs : List Char) :
    ((scalar decode).ofText room).run? cs
      = (outline.run? cs).bind fun read => (decode read.1).toOption.map (·, read.2) := by
  rw [scalar, run?_settled, run?_bind]
  simp only [run?_lift]

/-- A decoder that refuses arrays and objects need not enter them. -/
theorem agrees_scalar {decode : Json → Except Misfit α}
    (harr : ∀ items, (decode (.arr items)).toOption = none)
    (hobj : ∀ members, (decode (.obj members)).toOption = none) : (scalar decode).Agrees := by
  refine agrees_of_written (fun h => ?_) (fun htext _ => ?_) (fun htext _ => ?_)
  · rw [run?_scalar, run?_outline_of_some h]
    rfl
  · simp [run?_outline_arr htext, scalar, harr]
  · simp [run?_outline_obj htext, scalar, hobj]

/-- A decoder that accepts no value at all. -/
@[simp] theorem run?_scalar_wrongType (noun : String) (room : Nat) (cs : List Char) :
    ((scalar fun value => (wrongType value noun : Except Misfit α)).ofText room).run? cs
      = none := by
  rw [run?_scalar]
  cases outline.run? cs <;> rfl

/-- A value without parts starts with no bracket. -/
theorem run?_of_starts {cs rest : List Char} {value : Json}
    (h : Starts (cs.dropWhile isSpace) (some value) rest) (object array other : Scan α) :
    run? (do
      match ← next? with
      | some '\x7b' => object
      | some '[' => array
      | _ => other) cs = other.run? (cs.dropWhile isSpace) := by
  obtain ⟨c, after, htext, harr, hobj, -⟩ := h.exists_head
  rw [run?_bind, run?_next?, Option.bind_some, htext, List.head?_cons]
  dsimp only
  split
  · rename_i hhead
    exact absurd (Option.some.inj hhead) hobj
  · rename_i hhead
    exact absurd (Option.some.inj hhead) harr
  · rfl

theorem agrees_string : string.Agrees :=
  agrees_scalar (fun _ => rfl) (fun _ => rfl)

theorem agrees_natural (bound : Nat) (noun : String) : (natural bound noun).Agrees :=
  agrees_scalar (fun _ => rfl) (fun _ => rfl)

theorem agrees_unit : unit.Agrees :=
  agrees_scalar (fun _ => rfl) (fun _ => rfl)

/-! ## Types with parts -/

theorem Agrees.optional {d : Decoder α} (hd : d.Agrees) : d.optional.Agrees := by
  intro room cs value rest h
  have hwritten := written_of_run?_tree h
  simp only [Decoder.optional, run?_bind, run?_next?, Option.bind_some]
  have hdrop := hd ((run?_tree_dropWhile room cs).trans h)
  generalize cs.dropWhile isSpace = text at hwritten hdrop ⊢
  by_cases hvalue : value = .null
  · subst hvalue
    cases hwritten with
    | scalar h =>
      cases h
      rfl
  · -- of all values null alone starts with its first letter
    have hhead : text.head? ≠ some 'n' := by
      cases hwritten with
      | scalar h =>
        obtain ⟨c, after, rfl, -, -, hnull, -⟩ := h.exists_head
        simpa [hnull]
      | arr | obj => simp
    split
    · contradiction
    · split
      · contradiction
      · rw [run?_map, hdrop, toOption_map]
        cases (d.ofJson .plain value).toOption <;> rfl

theorem Agrees.list {d : Decoder α} (hd : d.Agrees) : d.list.Agrees := by
  refine agrees_of_written (fun {_ _ value _} h => ?_) (fun htext h => ?_) (fun htext h => ?_)
  · obtain ⟨c, after, htext, hc, -⟩ := h.exists_head
    have hvalue : (d.list.ofJson .plain value).toOption = none := by
      cases value with
      | arr items => exact absurd rfl (h.ne_arr items)
      | _ => rfl
    rw [hvalue]
    simp only [Decoder.list, run?_bind, run?_next?, htext, Option.bind_some, List.head?_cons]
    split
    · rename_i hhead
      exact absurd (Option.some.inj hhead) hc
    · rw [run?_scalar_wrongType]
      rfl
  · have hitems := h.run?_items length_lt_of_run?_tree fun hread => hd hread
    simp only [Decoder.list, run?_bind, run?_next?, htext, Option.bind_some, List.head?_cons,
      nested, run?_array hitems, toOption_mapM]
  · simp [Decoder.list, htext]

end Decoder

/-! ## Records -/

namespace Fields

/-- A field is filled from the text as it is from the tree. -/
theorem run?_fill (key : String) {readText : {β : Type} → Decoder β → Scan β}
    {readTree : {β : Type} → Decoder β → Except Misfit β} {cs rest : List Char}
    (fields : Fields α)
    (h : fields.Every fun d => (readText d).run? cs = (readTree d).toOption.map (·, rest))
    (slots : fields.Slots) :
    (fields.fill key readText (fun m => Scan.misfit m) slots).map (·.run? cs)
      = (fields.fill key readTree (fun m => .error m) slots).map fun filled =>
          filled.toOption.map (·, rest) := by
  induction fields with
  | make => rfl
  | field before name decoder _ ih =>
    rw [fill, fill]
    split
    · rcases slots with ⟨others, _ | value⟩
      · simp only [Option.map_some, run?_bind, h.2, toOption_bind]
        cases (readTree decoder).toOption <;> rfl
      · rfl
    · -- a field before this one is filled, and the slot of this one is carried along
      have hbefore := congrArg
        (Option.map (Option.map fun read : before.Slots × List Char => ((read.1, slots.2), read.2)))
        (ih h.1 slots.1)
      rw [Option.map_map, Option.map_map] at hbefore
      rw [Option.map_map, Option.map_map]
      refine Eq.trans ?_ (hbefore.trans ?_)
      · congr 1
        funext filled
        simp only [Function.comp_apply, run?_bind]
        cases filled.run? cs <;> rfl
      · congr 1
        funext filled
        cases filled <;> rfl

/-- The fields after one more member of an object in a text, behind its key. -/
def visitText (room : Nat) (fields : Fields α) (slots : fields.Slots) (key : String) :
    Scan fields.Slots :=
  match fields.fill (m := Scan) key
      (fun decoder => Scan.valueOf key (decoder.ofText room)) (fun misfit => Scan.misfit misfit)
      slots with
  | some filled => filled
  | none => do
    Scan.valueOf key Scan.ignored
    pure slots

theorem scanMembers_eq (room : Nat) (fields : Fields α) :
    fields.scanMembers room = (do
      let slots ← Scan.members (fields.visitText room) fields.empty
      Decoder.lift (fields.build slots)) := rfl

/-- A member of a text fills the field that the member of its tree does; a member without a field
is skipped. -/
theorem run?_visitText {fields : Fields α} (h : fields.Every Decoder.Agrees) {room : Nat}
    {cs inner rest : List Char} {value : Json} (slots : fields.Slots) (key : String)
    (hcolon : cs.dropWhile isSpace = ':' :: inner)
    (hvalue : (tree room).run? inner = some (value, rest)) :
    (fields.visitText room slots key).run? cs
      = (fields.visit .plain slots (key, value)).toOption.map (·, rest) := by
  have hread {β : Type} (scan : Scan β) : (valueOf key scan).run? cs = scan.run? inner := by
    rw [run?_valueOf, run?_colon_eq_some_iff.mpr hcolon, Option.bind_some]
  have hfill := fields.run?_fill key (h.imp fun d hd => (hread _).trans (hd hvalue)) slots
  unfold visitText visit
  generalize fields.fill (m := Scan) key _ _ slots = text at hfill ⊢
  generalize fields.fill (m := Except Misfit) key _ _ slots = tree at hfill ⊢
  cases text <;> cases tree
  · simp [hread, run?_ignored hvalue]
  · cases hfill
  · cases hfill
  · exact Option.some.inj hfill

/-- The fields are read from the members of a text as from the members of its tree. -/
theorem run?_scanMembers {fields : Fields α} (h : fields.Every Decoder.Agrees) {room : Nat}
    {cs rest : List Char} {members : List (String × Json)}
    (hmembers : Members (tree room) true cs members rest) :
    (fields.scanMembers room).run? cs
      = (fields.ofMembers .plain members).toOption.map (·, '\x7d' :: rest) := by
  have hslots : (Scan.members (fields.visitText room) fields.empty).run? cs
      = (members.foldlM (fun slots m => (fields.visit .plain slots m).toOption) fields.empty).map
          (·, '\x7d' :: rest) :=
    hmembers.run?_members length_lt_of_run?_tree (fun slots key => run?_visitText h slots key) _
  rw [scanMembers_eq, ofMembers_eq, run?_bind, toOption_bind, toOption_foldlM, hslots]
  cases members.foldlM (fun slots m => (fields.visit .plain slots m).toOption) fields.empty with
  | none => rfl
  | some slots => exact Decoder.run?_lift ..

/-- The fields are read from the items of a text as from the items of its tree. -/
theorem run?_scanItems {fields : Fields α} (h : fields.Every Decoder.Agrees) {room : Nat}
    {cs rest : List Char} {items : List Json} (expected : String)
    (hitems : Items (tree room) 0 cs items rest) :
    ((fields.ofItems .plain expected items).toOption = none ∧
      (fields.scanItems room expected).run? cs = none) ∨
    ∃ record left mid, (fields.ofItems .plain expected items).toOption = some (record, left) ∧
      (fields.scanItems room expected).run? cs = some (record, mid) ∧
      Items (tree room) fields.size mid left rest := by
  induction fields with
  | make value => exact .inr ⟨value, items, cs, rfl, rfl, hitems⟩
  | field before name decoder absence ih =>
    rw [ofItems, toOption_bind, scanItems, run?_bind]
    rcases ih h.1 with ⟨hnone, hscan⟩ | ⟨record, left, mid, hsome, hscan, hleft⟩
    · rw [hnone, hscan]
      exact .inl ⟨rfl, rfl⟩
    rw [hsome, hscan]
    simp only [Option.bind_some, run?_bind]
    -- the array may end in front of this field, which then needs a default
    cases hleft with
    | nil hclose =>
      rw [run?_nextItem_of_close hclose]
      cases absence with
      | defaulted value => exact .inr ⟨_, _, _, rfl, rfl, .nil rfl⟩
      | refused | tolerated => exact .inl ⟨rfl, rfl⟩
    | @cons _ _ _ mid _ item items hstart hread hrest =>
      rw [run?_nextItem_of_start hstart, h.2 hread]
      cases hitem : (decoder.ofJson .plain item).toOption with
      | none =>
        refine .inl ?_
        simp [hitem]
      | some value =>
        refine .inr ⟨record value, items, mid, ?_, ?_, hrest⟩
        · simp [hitem]
        · rfl

/-- **Records agree, if the decoders of their fields do.** -/
theorem Every.agrees {fields : Fields α} (h : fields.Every Decoder.Agrees) (noun : String) :
    (fields.decoder noun).Agrees := by
  -- scalars, arrays and objects, as the text starts
  refine Decoder.agrees_of_written (fun {_ _ value _} h => ?_)
    (fun {_ _ _ items _} htext hitems => ?_) (fun htext hmembers => ?_)
  · have hvalue : (fields.decode noun .plain value).toOption = none := by
      cases value with
      | arr items => exact absurd rfl (h.ne_arr items)
      | obj members => exact absurd rfl (h.ne_obj members)
      | _ => rfl
    refine (Decoder.run?_of_starts h _ _ _).trans ?_
    rw [Decoder.run?_scalar_wrongType]
    exact (congrArg (Option.map _) hvalue).symm
  · simp only [decoder, run?_bind, run?_next?, htext, Option.bind_some, List.head?_cons, nested,
      array, run?_skip, List.drop_one, List.tail_cons, run?_closedBy, decode, toOption_bind]
    rcases run?_scanItems h (fields.lengthNoun noun) hitems with
      ⟨hnone, hscan⟩ | ⟨record, left, mid, hsome, hscan, hleft⟩
    · rw [hnone, hscan]
      rfl
    · rw [hsome, hscan]
      cases hleft with
      | nil hclose =>
        simp [run?_arrayEnd_eq_some_iff.mpr hclose]
      | cons hstart =>
        simp [run?_arrayEnd_of_start hstart]
  · simp only [decoder, run?_bind, run?_next?, htext, Option.bind_some, List.head?_cons, nested,
      run?_object (run?_scanMembers h hmembers), decode]

end Fields

/-! ## Enumerations -/

namespace Enumeration

theorem agrees (e : Enumeration α) : e.decoder.Agrees := by
  have hname : (Decoder.scalar e.ofName).Agrees := Decoder.agrees_scalar (fun _ => rfl) fun _ => rfl
  refine Decoder.agrees_of_written (fun {room cs value rest} h => ?_) (fun htext h => ?_)
    (fun {room cs inner members rest} htext h => ?_)
  · have hdrop : ((Decoder.scalar e.ofName).ofText room).run? (cs.dropWhile isSpace)
        = (e.ofName value).toOption.map (·, rest) := by
      have htree : (tree room).run? (cs.dropWhile isSpace) = some (value, rest) :=
        (run?_tree_dropWhile room cs).trans (run?_tree_eq_some_iff.mpr (.scalar h))
      exact hname htree
    obtain ⟨c, after, htext, harr, hobj, -, hstr⟩ := h.exists_head
    simp only [decoder, run?_bind, run?_next?, htext, Option.bind_some, List.head?_cons] at hdrop ⊢
    by_cases hvalue : ∃ s, value = .str s
    · obtain ⟨s, rfl⟩ := hvalue
      obtain rfl := hstr.mpr ⟨s, rfl⟩
      exact hdrop
    · have hnone : (e.decode .plain value).toOption = none := by
        cases value with
        | str s => exact absurd ⟨s, rfl⟩ hvalue
        | obj members => exact absurd rfl (h.ne_obj members)
        | _ => rfl
      rw [hnone]
      split
      · contradiction
      · rename_i hhead
        exact absurd (hstr.mp (Option.some.inj hhead)) hvalue
      · rename_i hhead
        exact absurd (Option.some.inj hhead) hobj
      · rfl
  · simp [decoder, htext, decode]
  · simp only [decoder, run?_bind, run?_next?, htext, Option.bind_some, List.head?_cons, nested,
      run?_skip, List.drop_one, List.tail_cons]
    cases h with
    | nil hclose =>
      rw [run?_nextKey_of_close hclose]
      rfl
    | @cons _ _ _ _ _ mid _ key value _ hstart hkey hcolon hread hrest =>
      rw [run?_nextKey_of_start hstart hkey]
      have hunit := Decoder.agrees_unit hread
      simp only [Option.bind_some, run?_bind, run?_settled, Decoder.run?_lift, Option.bind_map,
        Function.comp_def, run?_colon_eq_some_iff.mpr hcolon, hunit, run?_next?]
      cases hrest with
      | nil hclose =>
        simp only [hclose, List.head?_cons, decode, toOption_bind]
        cases (e.find key).toOption with
        | none => rfl
        | some found => cases (Decoder.unit.ofJson .plain value).toOption <;> rfl
      | cons hnext =>
        -- behind the value there is a comma, and not the end that is asked for
        have hhead := head?_ne_of_keyStart? hnext
        cases (e.find key).toOption with
        | none => rfl
        | some found =>
          cases (Decoder.unit.ofJson .plain value).toOption with
          | none => rfl
          | some _ =>
            show run? _ _ = none
            split
            · exact absurd ‹_› hhead
            · rfl
            · rfl

end Enumeration

/-! ## Tagged values -/

namespace Tagged

/-- The tag, if it was found, and the other members, the last one in front. -/
abbrev Gathered (α : Type) : Type :=
  Option (Json → Except Misfit α) × List (String × Json)

/-- The tag and the other members after one more member of an object. -/
def gather (t : Tagged α) (context : Context) (state : Gathered α) (member : String × Json) :
    Except Misfit (Gathered α) :=
  if member.1 = t.tag then
    match state.1 with
    | some _ => .error (.duplicateField t.tag)
    | none => (t.choose context member.2).map fun chosen => (some chosen, state.2)
  else .ok (state.1, member :: state.2)

/-- The tag and the other members after one more member of an object in a text, behind its key. -/
def gatherText (t : Tagged α) (room : Nat) (state : Gathered α) (key : String) :
    Scan (Gathered α) :=
  if key = t.tag then
    match state.1 with
    | some _ => Scan.misfit (.duplicateField t.tag)
    | none => do
      let chosen ← Scan.valueOf key ((Decoder.scalar (t.choose .plain)).ofText room)
      pure (some chosen, state.2)
  else do
    let value ← Scan.valueOf key (Scan.tree room)
    pure (state.1, (key, value) :: state.2)

theorem scanMembers_eq (t : Tagged α) (room : Nat) :
    t.scanMembers room = (do
      let (found, others) ← Scan.members (t.gatherText room) (none, [])
      match found with
      | some parts => pure (parts, .obj others.reverse)
      | none => Scan.misfit (.missingField t.tag)) := rfl

/-- Gathering the members one by one splits off the tag. -/
theorem foldlM_gather (t : Tagged α) (context : Context) (members : List (String × Json))
    (state : Gathered α) :
    members.foldlM (t.gather context) state
      = (t.split context state.1 members).map fun read => (read.1, read.2.reverse ++ state.2) := by
  induction members generalizing state with
  | nil => rfl
  | cons m members ih =>
    obtain ⟨key, value⟩ := m
    obtain ⟨found, done⟩ := state
    rw [List.foldlM_cons, split.eq_def, gather]
    dsimp only
    by_cases hkey : key = t.tag
    · rw [if_pos hkey, if_pos hkey]
      cases found with
      | some _ => rfl
      | none =>
        cases t.choose context value with
        | error m => rfl
        | ok chosen => exact ih _
    · rw [if_neg hkey, if_neg hkey]
      -- members are gathered at the front, so they come out in the opposite order
      refine (ih _).trans ?_
      cases t.split context found members with
      | error m => rfl
      | ok read =>
        refine congrArg Except.ok (Prod.ext rfl ?_)
        simp

/-- The tag is read without its parts, if it has any. -/
theorem agrees_tag (t : Tagged α) : (Decoder.scalar (t.choose .plain)).Agrees :=
  Decoder.agrees_scalar (fun _ => rfl) fun _ => rfl

/-- One member is gathered from a text as from its tree. -/
theorem run?_gatherText (t : Tagged α) {room : Nat} {cs inner rest : List Char} {value : Json}
    (state : Gathered α) (key : String) (hcolon : cs.dropWhile isSpace = ':' :: inner)
    (hvalue : (tree room).run? inner = some (value, rest)) :
    (t.gatherText room state key).run? cs
      = (t.gather .plain state (key, value)).toOption.map (·, rest) := by
  obtain ⟨found, done⟩ := state
  rw [gatherText, gather]
  dsimp only
  split
  · cases found with
    | some _ => rfl
    | none =>
      simp only [run?_bind, run?_valueOf, run?_colon_eq_some_iff.mpr hcolon, Option.bind_some,
        t.agrees_tag hvalue, toOption_map]
      show Option.bind (((t.choose .plain value).toOption).map _) _ = _
      cases (t.choose .plain value).toOption <;> rfl
  · simp [run?_valueOf, run?_colon_eq_some_iff.mpr hcolon, hvalue]

theorem run?_scanMembers (t : Tagged α) {room : Nat} {cs rest : List Char}
    {members : List (String × Json)} (hmembers : Members (tree room) true cs members rest) :
    (t.scanMembers room).run? cs
      = ((t.split .plain none members).toOption.bind fun read =>
          read.1.map fun parts => (parts, Json.obj read.2)).map (·, '\x7d' :: rest) := by
  have hread : (Scan.members (t.gatherText room) (none, [])).run? cs
      = (members.foldlM (fun state m => (t.gather .plain state m).toOption) (none, [])).map
          (·, '\x7d' :: rest) :=
    hmembers.run?_members length_lt_of_run?_tree (fun state key => t.run?_gatherText state key) _
  rw [scanMembers_eq, run?_bind, hread, ← toOption_foldlM, foldlM_gather, toOption_map]
  cases (t.split .plain none members).toOption with
  | none => rfl
  | some read =>
    obtain ⟨_ | parts, others⟩ := read
    · rfl
    · simp

theorem run?_scanItems (t : Tagged α) {room : Nat} {cs rest : List Char} {items : List Json}
    (hitems : Items (tree room) 0 cs items rest) :
    (t.scanItems room).run? cs
      = (items.head?.bind fun first =>
          (t.choose .plain first).toOption.map fun parts => (parts, Json.arr items.tail)).map
        (·, ']' :: rest) := by
  rw [scanItems, run?_bind]
  cases hitems with
  | nil hclose =>
    rw [run?_nextItem_of_close hclose]
    rfl
  | @cons _ _ _ _ _ first others hstart hread hrest =>
    rw [run?_nextItem_of_start hstart, t.agrees_tag hread]
    rw [List.head?_cons, Option.bind_some, List.tail_cons]
    show ((((t.choose .plain first).toOption.map _).map _).bind _) = _
    cases (t.choose .plain first).toOption with
    | none => rfl
    | some parts =>
      show (do
        let rest ← Scan.items 1 (Scan.tree room)
        pure (parts, Json.arr rest) : Scan _).run? _ = _
      rw [run?_bind, hrest.run?_items_self length_lt_of_run?_tree]
      rfl

/-- **Tagged values agree, whatever their parts are:** these are set aside as a tree. -/
theorem agrees (t : Tagged α) : t.decoder.Agrees := by
  refine Decoder.agrees_of_written (fun {_ _ value _} h => ?_) (fun {_ _ _ items _} htext h => ?_)
    (fun {_ _ _ members _} htext h => ?_)
  · have hvalue : (t.decode .plain value).toOption = none := by
      cases value with
      | arr items => exact absurd rfl (h.ne_arr items)
      | obj members => exact absurd rfl (h.ne_obj members)
      | _ => rfl
    refine (Decoder.run?_of_starts h _ _ _).trans ?_
    rw [run?_bind, Decoder.run?_scalar_wrongType]
    exact (congrArg (Option.map _) hvalue).symm
  · simp only [decoder, run?_bind, run?_next?, htext, Option.bind_some, List.head?_cons, nested,
      run?_array (t.run?_scanItems h), Decoder.run?_lift]
    cases items with
    | nil => rfl
    | cons first others =>
      simp only [List.head?_cons, Option.bind_some, List.tail_cons, decode, toOption_bind]
      cases (t.choose .plain first).toOption <;> rfl
  · simp only [decoder, run?_bind, run?_next?, htext, Option.bind_some, List.head?_cons, nested,
      run?_object (t.run?_scanMembers h), Decoder.run?_lift, decode, toOption_bind]
    cases (t.split .plain none members).toOption with
    | none => rfl
    | some read => obtain ⟨_ | parts, others⟩ := read <;> rfl

end Tagged

end Courier

import Courier.Proofs.Decode.Member

/-!
# Decoders of nested types

The parts of a value are less deep than the value. So two decoders that are built in the same way
around two others agree on values of one more level than these do (`Decoder.SameBelow`), which is
what a decoder that calls itself needs: how many levels it is unrolled does not matter as long as
there are enough of them.
-/

namespace Courier

variable {α β : Type}

namespace Decoder

/-- Two decoders decode values below a depth alike. -/
def SameBelow (n : Nat) (d d' : Decoder α) : Prop :=
  ∀ context value, value.depth < n → d.ofJson context value = d'.ofJson context value

theorem SameBelow.mono {m n : Nat} {d d' : Decoder α} (h : d.SameBelow n d') (hmn : m ≤ n) :
    d.SameBelow m d' :=
  fun context value hvalue => h context value (hvalue.trans_le hmn)

theorem SameBelow.list {n : Nat} {d d' : Decoder α} (h : d.SameBelow n d') :
    d.list.SameBelow (n + 1) d'.list := by
  intro context value hvalue
  cases value with
  | arr items =>
    have hitems (item : Json) (hitem : item ∈ items) : item.depth < n :=
      (Json.depth_lt_arr hitem).trans_le (Nat.le_of_lt_succ hvalue)
    show items.mapM (d.ofJson context) = items.mapM (d'.ofJson context)
    clear hvalue
    induction items with
    | nil => rfl
    | cons item items ih =>
      obtain ⟨hitem, hrest⟩ := List.forall_mem_cons.mp hitems
      rw [List.mapM_cons, List.mapM_cons, h context item hitem, ih hrest]
  | _ => rfl

end Decoder

namespace Fields

section LastField

variable {d d' : Decoder β} {before : Fields (β → α)} {name : String} {absence : Absence β}
  {context : Context}

theorem ofMembers_congr {members : List (String × Json)}
    (h : ∀ m ∈ members, d.ofJson context m.2 = d'.ofJson context m.2) :
    (before.field name d absence).ofMembers context members
      = (before.field name d' absence).ofMembers context members := by
  -- for the induction the fold starts from any slots, and the field may have been read already
  have hfrom (slots : before.Slots) (value : Option β) :
      members.foldlM ((before.field name d absence).visit context) (slots.snoc value)
          >>= (before.field name d absence).build
        = members.foldlM ((before.field name d' absence).visit context) (slots.snoc value)
          >>= (before.field name d' absence).build := by
    induction members generalizing slots value with
    | nil => rfl
    | cons m members ih =>
      obtain ⟨hm, hrest⟩ := List.forall_mem_cons.mp h
      rw [List.foldlM_cons, List.foldlM_cons, bind_assoc, bind_assoc, visit_snoc, visit_snoc, hm]
      split
      · cases value with
        | some _ => rfl
        | none =>
          cases d'.ofJson context m.2 with
          | error m => rfl
          | ok b => exact ih hrest slots (some b)
      · cases before.visit context slots m with
        | error m => rfl
        | ok slots => exact ih hrest slots value
  exact hfrom before.empty none

theorem ofItems_congr {items : List Json} (expected : String)
    (h : ∀ item ∈ items, d.ofJson context item = d'.ofJson context item) :
    (before.field name d absence).ofItems context expected items
      = (before.field name d' absence).ofItems context expected items := by
  rw [ofItems, ofItems]
  cases hbefore : before.ofItems context expected items with
  | error m => rfl
  | ok read =>
    obtain ⟨record, _ | ⟨item, rest⟩⟩ := read
    · cases absence <;> rfl
    · show (do
        let value ← d.ofJson context item
        .ok (record value, rest) : Except Misfit (α × List Json)) = (do
        let value ← d'.ofJson context item
        .ok (record value, rest))
      rw [h item ((suffix_of_ofItems hbefore).subset List.mem_cons_self)]

end LastField

/-- Records whose last fields are decoded alike are decoded alike. -/
theorem sameBelow_decoder {n : Nat} {d d' : Decoder β} (h : d.SameBelow n d')
    (before : Fields (β → α)) (name : String) (absence : Absence β) (noun : String) :
    ((before.field name d absence).decoder noun).SameBelow (n + 1)
      ((before.field name d' absence).decoder noun) := by
  intro context value hvalue
  have hvalue := Nat.le_of_lt_succ hvalue
  cases value with
  | obj members =>
    exact ofMembers_congr fun m hm => h _ _ ((Json.depth_lt_obj hm).trans_le hvalue)
  | arr items =>
    have hitems : (before.field name d absence).ofItems context
        ((before.field name d absence).lengthNoun noun) items
        = (before.field name d' absence).ofItems context
          ((before.field name d absence).lengthNoun noun) items :=
      ofItems_congr _ fun item hitem => h _ _ ((Json.depth_lt_arr hitem).trans_le hvalue)
    dsimp only [decoder]
    rw [decode, decode, hitems]
    rfl
  | _ => rfl

end Fields

namespace Tagged

/-- The same tags with other parts. -/
def mapParts (t : Tagged α) (f : (Json → Except Misfit α) → Json → Except Misfit α) : Tagged α :=
  { t with named := t.named.map fun entry => (entry.1, f entry.2), other := t.other.map f }

section MapParts

variable (t : Tagged α) (f : (Json → Except Misfit α) → Json → Except Misfit α)

theorem byName_mapParts (name : String) :
    (t.mapParts f).byName name = (t.byName name).map f := by
  have hnamed : (t.mapParts f).named.lookup name = (t.named.lookup name).map f :=
    Assoc.find?_map f
  have hother : (t.mapParts f).other = t.other.map f := rfl
  have hnames : (t.mapParts f).named.map Prod.fst = t.named.map Prod.fst :=
    List.map_map
  rw [byName, hnamed, hother, hnames, byName]
  cases t.named.lookup name <;> cases t.other <;> rfl

theorem byNumber_mapParts (n : Nat) : (t.mapParts f).byNumber n = (t.byNumber n).map f := by
  have hnamed : (t.mapParts f).named[n]? = t.named[n]?.map fun entry => (entry.1, f entry.2) :=
    List.getElem?_map
  have hother : (t.mapParts f).other = t.other.map f := rfl
  have hlength : (t.mapParts f).named.length = t.named.length := List.length_map _
  rw [byNumber, hnamed, hother, hlength, byNumber]
  cases t.named[n]? <;> cases t.other <;> rfl

theorem choose_mapParts (context : Context) (tag : Json) :
    (t.mapParts f).choose context tag = (t.choose context tag).map f := by
  unfold choose
  split
  · exact t.byName_mapParts f _
  · split
    · rfl
    · exact t.byNumber_mapParts f _
  · rfl

theorem split_mapParts (context : Context) (found : Option (Json → Except Misfit α))
    (members : List (String × Json)) :
    (t.mapParts f).split context (found.map f) members
      = (t.split context found members).map fun read => (read.1.map f, read.2) := by
  induction members generalizing found with
  | nil => rfl
  | cons m members ih =>
    obtain ⟨key, value⟩ := m
    rw [split.eq_def, split.eq_def]
    dsimp only
    rw [show (t.mapParts f).tag = t.tag from rfl]
    split
    · cases found with
      | some _ => rfl
      | none =>
        rw [Option.map_none, choose_mapParts]
        dsimp only
        cases t.choose context value with
        | error m => rfl
        | ok parts => exact ih (some parts)
    · rw [ih]
      cases t.split context found members <;> rfl

/-- The members besides the tag are some of all members. -/
theorem sublist_of_split {t : Tagged α} {context : Context}
    {found chosen : Option (Json → Except Misfit α)} {members others : List (String × Json)}
    (h : t.split context found members = .ok (chosen, others)) : others.Sublist members := by
  induction members generalizing found chosen others with
  | nil =>
    cases h
    exact .slnil
  | cons m members ih =>
    obtain ⟨key, value⟩ := m
    rw [split.eq_def] at h
    dsimp only at h
    -- the tag is left out, every other member is kept
    split at h
    · cases found with
      | some _ => cases h
      | none =>
        dsimp only at h
        cases hchoose : t.choose context value with
        | error m =>
          rw [hchoose] at h
          cases h
        | ok parts =>
          rw [hchoose] at h
          exact (ih h).cons _
    · cases hsplit : t.split context found members with
      | error m =>
        rw [hsplit] at h
        cases h
      | ok read =>
        rw [hsplit] at h
        cases h
        exact (ih hsplit).cons_cons _

end MapParts

/-- Only values below a depth have parts. -/
def below (n : Nat) (t : Tagged α) : Tagged α :=
  t.mapParts fun parts value =>
    if value.depth < n then parts value else .error (.missingField t.tag)

/-- Of a value below a depth the parts are below it too. -/
theorem decode_below (t : Tagged α) (context : Context) {n : Nat} {value : Json}
    (h : value.depth < n) : (t.below n).decode context value = t.decode context value := by
  cases value with
  | obj members =>
    have hsplit := t.split_mapParts (fun parts value =>
      if value.depth < n then parts value else .error (.missingField t.tag)) context none members
    rw [Option.map_none] at hsplit
    rw [decode, decode, below, hsplit]
    cases hothers : t.split context none members with
    | error m => rfl
    | ok read =>
      -- the other members are some of those of the value, so they lie no deeper
      obtain ⟨_ | parts, others⟩ := read
      · rfl
      · exact if_pos ((Json.depth_obj_mono (sublist_of_split hothers).subset).trans_lt h)
  | arr items =>
    cases items with
    | nil => rfl
    | cons first rest =>
      rw [decode, decode, below, choose_mapParts]
      cases t.choose context first with
      | error m => rfl
      | ok parts =>
        exact if_pos ((Json.depth_arr_mono (List.subset_cons_self first rest)).trans_lt h)
  | _ => rfl

/-- Tagged values with alike parts are decoded alike. -/
theorem sameBelow_of_below {n : Nat} {t t' : Tagged α} (h : t.below n = t'.below n) :
    t.decoder.SameBelow n t'.decoder := by
  intro context value hvalue
  show t.decode context value = t'.decode context value
  rw [← t.decode_below context hvalue, h, t'.decode_below context hvalue]

end Tagged

end Courier

import Courier.Proofs.Decode.Flattened

/-!
# JSON of the wrong shape

A text that is refused is either no JSON or JSON of the wrong shape, and the service answers these with
different statuses. Where two records are read from one object of a text, the fields of the second one
are looked at when the text of the object is read already. So if the text can be read as a tree and the
first record is there, nothing but the shape of the second one can be wrong
(`Fields.parse_flattened_eq_error`).
-/

namespace Courier

open Scan

variable {α β : Type}

/-! ## Causes of failures -/

namespace Scan

/-- A scan of a text fails for a cause. -/
def Fails (scan : Scan α) (cs : List Char) (cause : Cause) : Prop :=
  ∃ fault, scan cs = .error fault ∧ fault.cause = cause

variable {scan : Scan α} {cs rest : List Char} {cause : Cause}

theorem fails_misfit (misfit : Misfit) (cs : List Char) :
    (Scan.misfit misfit : Scan α).Fails cs (.inShape misfit) :=
  ⟨_, rfl, rfl⟩

theorem Fails.bind (h : scan.Fails cs cause) (next : α → Scan β) : (scan >>= next).Fails cs cause := by
  obtain ⟨fault, hfault, hcause⟩ := h
  refine ⟨fault, ?_, hcause⟩
  show (scan cs >>= fun read => next read.1 read.2) = _
  rw [hfault]
  rfl

/-- A scan that succeeds passes on the failure of the next one. -/
theorem Fails.after {a : α} {next : α → Scan β} (h : (next a).Fails rest cause)
    (hread : scan.run? cs = some (a, rest)) : (scan >>= next).Fails cs cause := by
  obtain ⟨fault, hfault, hcause⟩ := h
  refine ⟨fault, ?_, hcause⟩
  show (scan cs >>= fun read => next read.1 read.2) = _
  rw [toOption_eq_some_iff.mp hread]
  exact hfault

/-- The search for the closing bracket does not change why the inside failed. -/
theorem Fails.closedBy (h : scan.Fails cs cause) (close : Scan Unit) :
    (closedBy close scan).Fails cs cause := by
  obtain ⟨fault, hfault, hcause⟩ := h
  rw [Fails, Scan.closedBy, hfault]
  exact ⟨_, rfl, hcause⟩

theorem Fails.object (h : scan.Fails cs cause) : (object scan).Fails ('\x7b' :: cs) cause :=
  h.closedBy objectEnd

theorem document_eq (scan : Scan α) (text : String) :
    document scan text
      = (scan text.toList).bind fun read => (finished read.2).map fun _ => read.1 := by
  have hscan (cs : List Char) : (do let a ← scan; finished; pure a : Scan α) cs
      = (scan cs).bind fun read => (finished read.2).bind fun done => .ok (read.1, done.2) := rfl
  rw [document, hscan]
  cases scan text.toList with
  | error fault => rfl
  | ok read =>
    rw [Except.bind, Except.bind]
    cases finished read.2 <;> rfl

theorem Fails.document {text : String} (h : scan.Fails text.toList cause) :
    ∃ fault, Scan.document scan text = .error fault ∧ fault.cause = cause := by
  obtain ⟨fault, hfault, hcause⟩ := h
  exact ⟨fault, by rw [document_eq, hfault]; rfl, hcause⟩

end Scan

/-- Applying a function to what is decoded does not change why a text is refused. -/
theorem Decoder.parse_map (d : Decoder α) (f : α → β) (text : String) :
    (d.map f).parse text = (d.parse text).map f := by
  have hmap : (d.map f).ofText maxDepth text.toList
      = (d.ofText maxDepth text.toList).map fun read => (f read.1, read.2) := rfl
  rw [parse, parse, document_eq, document_eq, hmap]
  cases d.ofText maxDepth text.toList with
  | error fault => rfl
  | ok read =>
    show (finished read.2).map _ = ((finished read.2).map _).map f
    cases finished read.2 <;> rfl

/-! ## Two records in one object -/

namespace Fields

variable {own : Fields α} {others : Fields β} {members : List (String × Json)} {a : α} {b : β}

/-- The members that are left for other fields. -/
abbrev left (own : Fields α) (members : List (String × Json)) : List (String × Json) :=
  members.filter fun member => !own.names.contains member.1

/-- The values of a name that is no own field are those among the members that are left. -/
theorem valuesOf_left {name : String} (h : name ∉ own.names) :
    Assoc.valuesOf name (own.left members) = Assoc.valuesOf name members :=
  Assoc.valuesOf_filter (fun key => !own.names.contains key) (by simpa using h)

/-- A text of an object with own fields is refused for the shape of the others. -/
theorem fails_scanFlattened (h : own.Every Decoder.Agrees) {room : Nat} {cs rest : List Char}
    {misfit : Misfit} (hmembers : Members (tree room) true cs members rest)
    (hown : own.ofMembers .plain members = .ok a)
    (hothers : others.ofMembers .tagged (own.left members) = .error misfit) :
    (own.scanFlattened room others).Fails cs (.inShape misfit) := by
  obtain ⟨slots, hslots, hbuild⟩ := bind_eq_ok_iff.mp (ofMembers_eq .plain own members ▸ hown)
  have hread : (Scan.members (own.partText room) (own.empty, [])).run? cs
      = some ((slots, (own.left members).reverse), '\x7d' :: rest) := by
    rw [run?_members_partText h hmembers, hslots]
    rfl
  rw [scanFlattened_eq]
  refine Fails.after ?_ hread
  refine Fails.after (a := a) ?_ (by rw [Decoder.run?_lift, hbuild]; rfl)
  rw [List.reverse_reverse, hothers]
  exact (fails_misfit misfit _).bind _

/-- A text that is the tree of an object is the object between braces. -/
theorem exists_members_of_document {text : String}
    (h : Scan.document (tree maxDepth) text = .ok (.obj members)) :
    ∃ inner rest, text.toList.dropWhile isSpace = '\x7b' :: inner ∧
      Members (tree (maxDepth - 1)) true inner members rest := by
  have hread := toOption_eq_some_iff.mpr h
  rw [toOption_document, Option.bind_eq_some_iff] at hread
  obtain ⟨⟨value, rest⟩, hread, hrest⟩ := hread
  obtain rfl : value = .obj members := by
    split at hrest
    · exact Option.some.inj hrest
    · cases hrest
  have hwritten := written_of_run?_tree hread
  generalize text.toList.dropWhile isSpace = start at hwritten
  cases hwritten with
  | scalar h => exact absurd rfl (h.ne_obj members)
  | obj h => exact ⟨_, _, rfl, h⟩

section Parse

variable {text : String} (h : own.Every Decoder.Agrees)
  (htext : Scan.document (tree maxDepth) text = .ok (.obj members))
  (hown : own.ofMembers .plain members = .ok a)
include h htext hown

/-- A text of an object with both records is read as both. -/
theorem parse_flattened_eq_ok (hothers : others.ofMembers .tagged (own.left members) = .ok b)
    (noun : String) : (own.flattened noun others).parse text = .ok (a, b) := by
  rw [← toOption_eq_some_iff, (h.agrees_flattened others noun).toOption_parse htext]
  show (own.ofFlattened .plain others members).toOption = _
  rw [toOption_eq_some_iff, ofFlattened, bind_eq_ok_iff]
  refine ⟨a, hown, bind_eq_ok_iff.mpr ⟨b, hothers, rfl⟩⟩

/-- **A text of an object with the first record is refused for the shape of the second one**, if that
is refused. -/
theorem parse_flattened_eq_error {misfit : Misfit}
    (hothers : others.ofMembers .tagged (own.left members) = .error misfit) (noun : String) :
    ∃ fault, (own.flattened noun others).parse text = .error fault ∧
      fault.cause = .inShape misfit := by
  obtain ⟨inner, rest, hbrace, hmembers⟩ := exists_members_of_document htext
  refine Fails.document (Fails.after ?_ (run?_next? _))
  rw [hbrace, List.head?_cons]
  exact (fails_scanFlattened h hmembers hown hothers).object

end Parse

end Fields

end Courier

import Courier.Proofs.Json.Normal
import Courier.Proofs.Json.Scalar

/-!
# Arrays and objects in a text

How arrays and objects are written, apart from what reads their parts: `Scan.Items` and
`Scan.Members` say which stretches of a text hold the parts. A tree is read by these rules
(`Scan.run?_tree_eq_some_iff`), and whoever reads the parts of an array or object in another way
finds them in the same stretches (`Scan.Items.run?_items`, `Scan.Members.run?_members`), so two
readers agree on arrays and objects as soon as they agree on the parts.
-/

namespace Courier.Scan

variable {α β σ : Type}

/-! ## White space -/

@[simp] theorem dropWhile_isSpace_idem (cs : List Char) :
    (cs.dropWhile isSpace).dropWhile isSpace = cs.dropWhile isSpace :=
  List.dropWhile_idempotent isSpace cs

/-! ## The parts of an array -/

/-- Where the item with an index starts, behind the comma if it is not the first; none if the array
ends in front of it or no item can start there. -/
def itemStart? (index : Nat) (cs : List Char) : Option (List Char) :=
  match cs.dropWhile isSpace with
  | [] => none
  | c :: rest =>
    if c = ']' then none
    else if index = 0 then some (c :: rest)
    else if c = ',' then
      match rest.dropWhile isSpace with
      | [] => none
      | d :: after => if d = ']' then none else some (d :: after)
    else none

/-- The next item of an array is none in front of the bracket, and otherwise what is read where it
starts. -/
theorem run?_nextItem (index : Nat) (item : Scan α) (cs : List Char) :
    (nextItem index item).run? cs
      = if (cs.dropWhile isSpace).head? = some ']' then some (none, cs.dropWhile isSpace)
        else (itemStart? index cs).bind fun start =>
          (item.run? start).map fun read => (some read.1, read.2) := by
  rw [nextItem, run?_within, run?_bind, run?_next?, Option.bind_some, itemStart?]
  generalize cs.dropWhile isSpace = text
  cases text with
  | nil => rfl
  | cons c rest =>
    simp only [List.head?_cons, Option.some.injEq]
    by_cases hclose : c = ']'
    · subst hclose
      rfl
    rw [if_neg hclose, if_neg hclose]
    split
    · contradiction
    · rename_i hc
      exact absurd (Option.some.inj hc) hclose
    rename_i hc
    cases hc
    -- only the first item stands without a comma in front of it
    by_cases hfirst : index = 0
    · rw [if_pos hfirst, if_pos hfirst, run?_map]
      rfl
    rw [if_neg hfirst, if_neg hfirst]
    by_cases hcomma : c = ','
    · rw [if_pos hcomma, if_pos hcomma, run?_bind, run?_skip, Option.bind_some, run?_bind,
        run?_next?, Option.bind_some, List.drop_one, List.tail_cons]
      -- a bracket behind the comma is refused
      cases rest.dropWhile isSpace with
      | nil => rfl
      | cons d after =>
        dsimp only [List.head?_cons]
        by_cases hclosing : d = ']'
        · subst hclosing
          rfl
        · rw [if_neg hclosing]
          split
          · rename_i hd
            exact absurd (Option.some.inj hd) hclosing
          · rw [run?_map]
            rfl
          · contradiction
    · rw [if_neg hcomma, if_neg hcomma]
      rfl

/-- The bracket behind the items. -/
theorem run?_arrayEnd_eq_some_iff {cs rest : List Char} :
    arrayEnd.run? cs = some ((), rest) ↔ cs.dropWhile isSpace = ']' :: rest := by
  rw [arrayEnd, run?_bind, run?_next?, Option.bind_some]
  cases cs.dropWhile isSpace with
  | nil => simp
  | cons c after =>
    dsimp only [List.head?_cons]
    split
    · rename_i hc
      cases hc
      simp
    · rename_i hc
      cases hc
      rw [run?_bind, run?_skip, Option.bind_some, run?_bind, run?_next?, Option.bind_some]
      dsimp only
      split <;> simp
    · rename_i hclose hcomma hc
      simp only [run?_refuse, reduceCtorEq, List.cons.injEq, false_iff, not_and]
      rintro rfl
      exact (hclose (Option.some.inj hc).symm).elim
    · contradiction

/-- An array whose inside is read up to the closing bracket. -/
theorem run?_array {inside : Scan α} {inner rest : List Char} {result : Option α}
    (h : inside.run? inner = result.map (·, ']' :: rest)) :
    (array inside).run? ('[' :: inner) = result.map (·, rest) := by
  rw [array, run?_bind, run?_skip, Option.bind_some, run?_closedBy, List.drop_one, List.tail_cons,
    h]
  cases result <;> rfl

/-- Behind the inside of an array is its closing bracket. -/
theorem exists_of_run?_array {inside : Scan α} {inner rest : List Char} {a : α}
    (h : (array inside).run? ('[' :: inner) = some (a, rest)) :
    ∃ mid, inside.run? inner = some (a, mid) ∧ arrayEnd.run? mid = some ((), rest) := by
  rw [array, run?_bind, run?_skip, Option.bind_some, run?_closedBy, Option.bind_eq_some_iff] at h
  obtain ⟨⟨a, mid⟩, hinside, h⟩ := h
  rw [Option.map_eq_some_iff] at h
  obtain ⟨⟨⟨⟩, _⟩, hend, h⟩ := h
  cases h
  exact ⟨mid, hinside, hend⟩

/-- A text that holds the items of an array from an index on, each where `part` reads it, up to the
closing bracket; behind the bracket is the rest. -/
inductive Items (part : Scan α) : Nat → List Char → List α → List Char → Prop where
  | nil {index : Nat} {cs rest : List Char} (h : cs.dropWhile isSpace = ']' :: rest) :
    Items part index cs [] rest
  | cons {index : Nat} {cs start mid rest : List Char} {a : α} {as : List α}
    (hstart : itemStart? index cs = some start) (hread : part.run? start = some (a, mid))
    (h : Items part (index + 1) mid as rest) : Items part index cs (a :: as) rest

/-- An item takes the place of the closing bracket. -/
theorem head?_ne_of_itemStart? {index : Nat} {cs start : List Char}
    (h : itemStart? index cs = some start) : (cs.dropWhile isSpace).head? ≠ some ']' := by
  rw [itemStart?] at h
  split at h
  · cases h
  · rename_i hcs
    split at h
    · cases h
    · simpa [hcs]

/-- What is read where an item starts is the next item. -/
theorem run?_nextItem_of_start {index : Nat} {cs start : List Char}
    (h : itemStart? index cs = some start) (item : Scan α) :
    (nextItem index item).run? cs = (item.run? start).map fun read => (some read.1, read.2) := by
  rw [run?_nextItem, if_neg (head?_ne_of_itemStart? h), h, Option.bind_some]

/-- Where an item starts, the array does not end. -/
theorem run?_arrayEnd_of_start {index : Nat} {cs start : List Char}
    (h : itemStart? index cs = some start) : arrayEnd.run? cs = none := by
  refine Option.eq_none_iff_forall_not_mem.mpr fun ⟨⟨⟩, rest⟩ hend => ?_
  have hclose := run?_arrayEnd_eq_some_iff.mp hend
  exact head?_ne_of_itemStart? h (by rw [hclose, List.head?_cons])

/-- In front of the closing bracket there is no next item. -/
theorem run?_nextItem_of_close {index : Nat} {cs rest : List Char}
    (h : cs.dropWhile isSpace = ']' :: rest) (item : Scan α) :
    (nextItem index item).run? cs = some (none, ']' :: rest) := by
  rw [run?_nextItem, h, List.head?_cons, if_pos rfl]

theorem length_le_of_itemStart? {index : Nat} {cs start : List Char}
    (h : itemStart? index cs = some start) : start.length ≤ cs.length := by
  have hcs := List.length_dropWhile_le isSpace cs
  rw [itemStart?] at h
  split at h
  · cases h
  rename_i c rest hrest
  have hrest' := List.length_dropWhile_le isSpace rest
  rw [hrest, List.length_cons] at hcs
  split at h
  · cases h
  split at h
  · cases h
    exact hcs
  split at h
  · split at h
    · cases h
    · rename_i hafter
      split at h <;> cases h
      rw [hafter] at hrest'
      omega
  · cases h

/-- The items that are read up to a closing bracket are held by the text. -/
theorem items_of_run?_itemsFrom {part : Scan α} {fuel index : Nat} {cs mid rest : List Char}
    {as : List α} (h : run? (itemsFrom part fuel index) cs = some (as, mid))
    (hend : arrayEnd.run? mid = some ((), rest)) : Items part index cs as rest := by
  induction fuel generalizing index cs as with
  | zero =>
    cases h
    exact .nil (run?_arrayEnd_eq_some_iff.mp hend)
  | succ fuel ih =>
    rw [itemsFrom, run?_bind, run?_nextItem, Option.bind_eq_some_iff] at h
    obtain ⟨⟨found, after⟩, hnext, h⟩ := h
    -- the bracket is next, or an item with all the others behind it
    split at hnext
    · cases hnext
      cases h
      rw [run?_arrayEnd_eq_some_iff, dropWhile_isSpace_idem] at hend
      exact .nil hend
    · obtain ⟨start, hstart, hread⟩ := Option.bind_eq_some_iff.mp hnext
      rw [Option.map_eq_some_iff] at hread
      obtain ⟨⟨a, behind⟩, hread, hfound⟩ := hread
      cases hfound
      dsimp only at h
      rw [run?_map, Option.map_eq_some_iff] at h
      obtain ⟨⟨others, last⟩, hothers, hread'⟩ := h
      cases hread'
      exact .cons hstart hread (ih hothers)

namespace Items

variable {part : Scan β} {index : Nat} {cs rest : List Char} {bs : List β}

/-- The items and the bracket take characters of the text, if each item does. -/
theorem length_lt
    (hpart : ∀ {cs rest b}, part.run? cs = some (b, rest) → rest.length < cs.length)
    (h : Items part index cs bs rest) : bs.length + rest.length < cs.length := by
  induction h with
  | @nil _ cs _ hclose =>
    have hcs := List.length_dropWhile_le isSpace cs
    rw [hclose, List.length_cons] at hcs
    rw [List.length_nil]
    omega
  | cons hstart hread _ ih =>
    have hstart := length_le_of_itemStart? hstart
    have hread := hpart hread
    rw [List.length_cons]
    omega

/-- Every item of an array was read somewhere. -/
theorem exists_of_mem (h : Items part index cs bs rest) {b : β} (hb : b ∈ bs) :
    ∃ start mid, part.run? start = some (b, mid) := by
  induction h with
  | nil => cases hb
  | cons _ hread _ ih =>
    rcases List.mem_cons.mp hb with rfl | hb
    · exact ⟨_, _, hread⟩
    · exact ih hb

/-- **Whoever reads every item of an array reads the array.** -/
theorem run?_itemsFrom {item : Scan α} {f : β → Option α}
    (hitem : ∀ {cs rest b}, part.run? cs = some (b, rest) →
      item.run? cs = (f b).map (·, rest)) (h : Items part index cs bs rest) {fuel : Nat}
    (hfuel : bs.length < fuel) :
    run? (itemsFrom item fuel index) cs = (bs.mapM f).map (·, ']' :: rest) := by
  induction h generalizing fuel with
  | nil hclose =>
    obtain ⟨fuel, rfl⟩ := Nat.exists_eq_add_one_of_ne_zero (Nat.ne_zero_of_lt hfuel)
    rw [itemsFrom, run?_bind, run?_nextItem_of_close hclose]
    rfl
  | @cons _ _ _ _ _ b _ hstart hread _ ih =>
    obtain ⟨fuel, rfl⟩ := Nat.exists_eq_add_one_of_ne_zero (Nat.ne_zero_of_lt hfuel)
    rw [itemsFrom, run?_bind, run?_nextItem_of_start hstart, hitem hread, List.mapM_cons]
    cases f b with
    | none => rfl
    | some a =>
      simp only [Option.map_some, Option.bind_some, run?_map, ih (Nat.lt_of_succ_lt_succ hfuel)]
      cases List.mapM f _ <;> rfl

/-- The items of an array, up to the closing bracket. -/
theorem run?_items {item : Scan α} {f : β → Option α}
    (hlength : ∀ {cs rest b}, part.run? cs = some (b, rest) → rest.length < cs.length)
    (hitem : ∀ {cs rest b}, part.run? cs = some (b, rest) →
      item.run? cs = (f b).map (·, rest)) (h : Items part index cs bs rest) :
    (items index item).run? cs = (bs.mapM f).map (·, ']' :: rest) := by
  have hlt := h.length_lt hlength
  exact h.run?_itemsFrom hitem (by omega)

/-- The items are read by the reader that they were read by. -/
theorem run?_items_self
    (hlength : ∀ {cs rest b}, part.run? cs = some (b, rest) → rest.length < cs.length)
    (h : Items part index cs bs rest) : (items index part).run? cs = some (bs, ']' :: rest) := by
  have hall : bs.mapM some = some bs :=
    (List.mapM_pure (f := id)).trans (congrArg some (List.map_id bs))
  have hitems : (items index part).run? cs = (bs.mapM some).map (·, ']' :: rest) :=
    h.run?_items hlength fun hread => hread
  rw [hitems, hall, Option.map_some]

end Items

/-! ## The parts of an object -/

/-- Where the characters of the next key start, behind its opening quote; none if the object ends in
front of it or no key can start there. -/
def keyStart? (first : Bool) (cs : List Char) : Option (List Char) :=
  match cs.dropWhile isSpace with
  | '"' :: rest => if first then some rest else none
  | ',' :: rest =>
    if first then none
    else
      match rest.dropWhile isSpace with
      | '"' :: after => some after
      | _ => none
  | _ => none

/-- The next key of an object is none in front of the brace, and otherwise the string that is read
where the key starts. -/
theorem run?_nextKey (first : Bool) (cs : List Char) :
    (nextKey first).run? cs
      = if (cs.dropWhile isSpace).head? = some '\x7d' then some (none, cs.dropWhile isSpace)
        else (keyStart? first cs).bind fun start =>
          (string.run? start).map fun read => (some read.1, read.2) := by
  rw [nextKey, run?_within, run?_bind, run?_next?, Option.bind_some, keyStart?]
  generalize cs.dropWhile isSpace = text
  cases text with
  | nil => rfl
  | cons c rest =>
    simp only [List.head?_cons, Option.some.injEq]
    by_cases hclose : c = '\x7d'
    · subst hclose
      rfl
    rw [if_neg hclose]
    split
    · contradiction
    · rename_i hc
      exact absurd (Option.some.inj hc) hclose
    rename_i hc
    cases hc
    -- only the first key stands without a comma in front of it
    cases first with
    | true =>
      rw [if_pos rfl]
      by_cases hquote : c = '"'
      · subst hquote
        rw [if_pos rfl, run?_bind, run?_skip, Option.bind_some, run?_map]
        rfl
      · rw [if_neg hquote]
        split <;> simp_all
    | false =>
      rw [if_neg (by decide)]
      by_cases hcomma : c = ','
      · subst hcomma
        simp only [if_pos, Bool.false_eq_true, if_false, run?_bind, run?_skip, Option.bind_some,
          run?_next?, List.drop_one, List.tail_cons]
        cases rest.dropWhile isSpace with
        | nil => rfl
        | cons d after =>
          by_cases hquote : d = '"'
          · subst hquote
            show run? (do skip; some <$> string) _ = _
            rw [run?_bind, run?_skip, Option.bind_some, run?_map]
            rfl
          · dsimp only [List.head?_cons]
            split <;> split <;> simp_all
      · rw [if_neg hcomma]
        split <;> simp_all

/-- The brace behind the members. -/
theorem run?_objectEnd_eq_some_iff {cs rest : List Char} :
    objectEnd.run? cs = some ((), rest) ↔ cs.dropWhile isSpace = '\x7d' :: rest := by
  rw [objectEnd, run?_bind, run?_next?, Option.bind_some]
  cases cs.dropWhile isSpace with
  | nil => simp
  | cons c after =>
    dsimp only [List.head?_cons]
    split <;> simp_all

/-- An object whose inside is read up to the closing brace. -/
theorem run?_object {inside : Scan α} {inner rest : List Char} {result : Option α}
    (h : inside.run? inner = result.map (·, '\x7d' :: rest)) :
    (object inside).run? ('\x7b' :: inner) = result.map (·, rest) := by
  rw [object, run?_bind, run?_skip, Option.bind_some, run?_closedBy, List.drop_one, List.tail_cons,
    h]
  cases result <;> rfl

/-- Behind the inside of an object is its closing brace. -/
theorem exists_of_run?_object {inside : Scan α} {inner rest : List Char} {a : α}
    (h : (object inside).run? ('\x7b' :: inner) = some (a, rest)) :
    ∃ mid, inside.run? inner = some (a, mid) ∧ objectEnd.run? mid = some ((), rest) := by
  rw [object, run?_bind, run?_skip, Option.bind_some, run?_closedBy, Option.bind_eq_some_iff] at h
  obtain ⟨⟨a, mid⟩, hinside, h⟩ := h
  rw [Option.map_eq_some_iff] at h
  obtain ⟨⟨⟨⟩, _⟩, hend, h⟩ := h
  cases h
  exact ⟨mid, hinside, hend⟩

/-- The colon behind a key. -/
theorem run?_colon_eq_some_iff {cs rest : List Char} :
    colon.run? cs = some ((), rest) ↔ cs.dropWhile isSpace = ':' :: rest := by
  rw [colon, run?_bind, run?_next?, Option.bind_some]
  cases cs.dropWhile isSpace with
  | nil => simp
  | cons c after =>
    dsimp only [List.head?_cons]
    split <;> simp_all

/-- A text that holds the members of an object, each value where `part` reads it, up to the closing
brace; behind the brace is the rest. -/
inductive Members (part : Scan α) : Bool → List Char → List (String × α) → List Char → Prop where
  | nil {first : Bool} {cs rest : List Char} (h : cs.dropWhile isSpace = '\x7d' :: rest) :
    Members part first cs [] rest
  | cons {first : Bool} {cs start behind inner mid rest : List Char} {key : String} {a : α}
    {ms : List (String × α)} (hstart : keyStart? first cs = some start)
    (hkey : string.run? start = some (key, behind))
    (hcolon : behind.dropWhile isSpace = ':' :: inner)
    (hread : part.run? inner = some (a, mid)) (h : Members part false mid ms rest) :
    Members part first cs ((key, a) :: ms) rest

/-- The reader of members that keeps them all, the last one in front. -/
def keepMember (part : Scan α) (done : List (String × α)) (key : String) :
    Scan (List (String × α)) := do
  let value ← valueOf key part
  pure ((key, value) :: done)

theorem run?_valueOf (key : String) (value : Scan α) (cs : List Char) :
    run? (valueOf key value) cs = (colon.run? cs).bind fun read => value.run? read.2 := by
  rw [valueOf, run?_within, run?_bind]

/-- A key takes the place of the closing brace. -/
theorem head?_ne_of_keyStart? {first : Bool} {cs start : List Char}
    (h : keyStart? first cs = some start) : (cs.dropWhile isSpace).head? ≠ some '\x7d' := by
  rw [keyStart?] at h
  split at h
  · rename_i hcs
    simp [hcs]
  · rename_i hcs
    simp [hcs]
  · cases h

/-- What is read where a key starts is the next key. -/
theorem run?_nextKey_of_start {first : Bool} {cs start behind : List Char} {key : String}
    (hstart : keyStart? first cs = some start) (hkey : string.run? start = some (key, behind)) :
    (nextKey first).run? cs = some (some key, behind) := by
  rw [run?_nextKey, if_neg (head?_ne_of_keyStart? hstart), hstart, Option.bind_some, hkey]
  rfl

/-- In front of the closing brace there is no next key. -/
theorem run?_nextKey_of_close {first : Bool} {cs rest : List Char}
    (h : cs.dropWhile isSpace = '\x7d' :: rest) :
    (nextKey first).run? cs = some (none, '\x7d' :: rest) := by
  rw [run?_nextKey, h, List.head?_cons, if_pos rfl]

theorem length_lt_of_keyStart? {first : Bool} {cs start : List Char}
    (h : keyStart? first cs = some start) : start.length < cs.length := by
  have hcs := List.length_dropWhile_le isSpace cs
  rw [keyStart?] at h
  split at h
  · rename_i hrest
    rw [hrest, List.length_cons] at hcs
    split at h <;> cases h
    exact hcs
  · rename_i rest hrest
    have hrest' := List.length_dropWhile_le isSpace rest
    rw [hrest, List.length_cons] at hcs
    split at h
    · cases h
    split at h <;> cases h
    rename_i hafter
    rw [hafter, List.length_cons] at hrest'
    omega
  · cases h

/-- The members that are read up to a closing brace are held by the text. -/
theorem members_of_run?_membersFrom {part : Scan α} {fuel : Nat} {first : Bool}
    {done all : List (String × α)} {cs mid rest : List Char}
    (h : run? (membersFrom (keepMember part) fuel first done) cs = some (all, mid))
    (hend : objectEnd.run? mid = some ((), rest)) :
    ∃ ms, all = ms.reverse ++ done ∧ Members part first cs ms rest := by
  induction fuel generalizing first done cs with
  | zero =>
    cases h
    exact ⟨[], rfl, .nil (run?_objectEnd_eq_some_iff.mp hend)⟩
  | succ fuel ih =>
    rw [membersFrom, run?_bind, run?_nextKey, Option.bind_eq_some_iff] at h
    obtain ⟨⟨found, behind⟩, hnext, h⟩ := h
    split at hnext
    · cases hnext
      cases h
      rw [run?_objectEnd_eq_some_iff, dropWhile_isSpace_idem] at hend
      exact ⟨[], rfl, .nil hend⟩
    · rw [Option.bind_eq_some_iff] at hnext
      obtain ⟨start, hstart, hread⟩ := hnext
      rw [Option.map_eq_some_iff] at hread
      obtain ⟨⟨key, _⟩, hkey, hfound⟩ := hread
      cases hfound
      dsimp only at h
      -- behind the key come the colon, the value and the other members
      rw [run?_bind, keepMember, run?_bind, run?_valueOf, Option.bind_eq_some_iff] at h
      obtain ⟨⟨_, after⟩, hvalue, h⟩ := h
      rw [Option.bind_eq_some_iff] at hvalue
      obtain ⟨⟨a, _⟩, hvalue, hdone⟩ := hvalue
      cases hdone
      rw [Option.bind_eq_some_iff] at hvalue
      obtain ⟨⟨⟨⟩, inner⟩, hcolon, hvalue⟩ := hvalue
      obtain ⟨ms, hall, hms⟩ := ih h
      refine ⟨(key, a) :: ms, ?_, .cons hstart hkey (run?_colon_eq_some_iff.mp hcolon) hvalue hms⟩
      rw [hall, List.reverse_cons, List.append_assoc, List.singleton_append]

namespace Members

variable {part : Scan β} {first : Bool} {cs rest : List Char} {ms : List (String × β)}

/-- The members and the brace take characters of the text. -/
theorem length_lt
    (hpart : ∀ {cs rest b}, part.run? cs = some (b, rest) → rest.length < cs.length)
    (h : Members part first cs ms rest) : ms.length + rest.length < cs.length := by
  induction h with
  | @nil _ cs _ hclose =>
    have hcs := List.length_dropWhile_le isSpace cs
    rw [hclose, List.length_cons] at hcs
    rw [List.length_nil]
    omega
  | @cons _ _ _ behind _ _ _ _ _ _ hstart hkey hcolon hread _ ih =>
    have hstart := length_lt_of_keyStart? hstart
    have hkey := length_lt_of_run?_string hkey
    have hbehind := List.length_dropWhile_le isSpace behind
    have hread := hpart hread
    rw [hcolon, List.length_cons] at hbehind
    rw [List.length_cons]
    omega

/-- The value of every member of an object was read somewhere. -/
theorem exists_of_mem (h : Members part first cs ms rest) {m : String × β} (hm : m ∈ ms) :
    ∃ start mid, part.run? start = some (m.2, mid) := by
  induction h with
  | nil => cases hm
  | cons _ _ _ hread _ ih =>
    rcases List.mem_cons.mp hm with rfl | hm
    · exact ⟨_, _, hread⟩
    · exact ih hm

/-- **Whoever reads the value behind every key reads the object.** -/
theorem run?_membersFrom {step : σ → String → Scan σ} {next : σ → String × β → Option σ}
    (hstep : ∀ {cs inner rest b} (state key), cs.dropWhile isSpace = ':' :: inner →
      part.run? inner = some (b, rest) →
      (step state key).run? cs = (next state (key, b)).map (·, rest))
    (h : Members part first cs ms rest) {fuel : Nat} (hfuel : ms.length < fuel) (state : σ) :
    run? (membersFrom step fuel first state) cs
      = (ms.foldlM next state).map (·, '\x7d' :: rest) := by
  induction h generalizing fuel state with
  | nil hclose =>
    obtain ⟨fuel, rfl⟩ := Nat.exists_eq_add_one_of_ne_zero (Nat.ne_zero_of_lt hfuel)
    rw [membersFrom, run?_bind, run?_nextKey_of_close hclose]
    rfl
  | @cons _ _ _ _ _ _ _ key b _ hstart hkey hcolon hread _ ih =>
    obtain ⟨fuel, rfl⟩ := Nat.exists_eq_add_one_of_ne_zero (Nat.ne_zero_of_lt hfuel)
    rw [membersFrom, run?_bind, run?_nextKey_of_start hstart hkey, Option.bind_some, run?_bind,
      hstep state key hcolon hread, List.foldlM_cons]
    cases next state (key, b) with
    | none => rfl
    | some state => exact ih (Nat.lt_of_succ_lt_succ hfuel) state

/-- The members of an object, up to the closing brace. -/
theorem run?_members {step : σ → String → Scan σ} {next : σ → String × β → Option σ}
    (hlength : ∀ {cs rest b}, part.run? cs = some (b, rest) → rest.length < cs.length)
    (hstep : ∀ {cs inner rest b} (state key), cs.dropWhile isSpace = ':' :: inner →
      part.run? inner = some (b, rest) →
      (step state key).run? cs = (next state (key, b)).map (·, rest))
    (h : Members part true cs ms rest) (state : σ) :
    (members step state).run? cs = (ms.foldlM next state).map (·, '\x7d' :: rest) := by
  have hlt := h.length_lt hlength
  exact h.run?_membersFrom hstep (by omega) state

end Members

/-! ## Trees -/

/-- How a value is written, from its first character on. -/
inductive Written : Nat → List Char → Json → List Char → Prop where
  | scalar {room : Nat} {text rest : List Char} {value : Json}
    (h : Starts text (some value) rest) : Written room text value rest
  | arr {room : Nat} {text rest : List Char} {items : List Json}
    (h : Items (tree room) 0 text items rest) : Written (room + 1) ('[' :: text) (.arr items) rest
  | obj {room : Nat} {text rest : List Char} {members : List (String × Json)}
    (h : Members (tree room) true text members rest) :
    Written (room + 1) ('\x7b' :: text) (.obj members) rest

theorem run?_scalarOr (compound : Scan Json) (cs : List Char) :
    run? (scalarOr compound) cs
      = (scalar?.run? cs).bind fun read =>
          match read.1 with
          | some value => some (value, read.2)
          | none => compound.run? read.2 := by
  rw [scalarOr, run?_bind]
  congr 1
  funext read
  cases read.1 <;> rfl

theorem run?_compound_arr (part : Scan Json) (inner : List Char) :
    (compound part).run? ('[' :: inner)
      = ((array (items 0 part)).run? ('[' :: inner)).map fun read => (.arr read.1, read.2) :=
  run?_map Json.arr _ _

theorem run?_compound_obj (part : Scan Json) (inner : List Char) :
    (compound part).run? ('\x7b' :: inner)
      = ((object (members (keepMember part) [])).run? ('\x7b' :: inner)).map fun read =>
          (.obj read.1.reverse, read.2) :=
  run?_map (fun done : List (String × Json) => Json.obj done.reverse) _ _

/-- What is read as a tree is written as one. -/
theorem written_of_run?_tree {room : Nat} {cs rest : List Char} {value : Json}
    (h : (tree room).run? cs = some (value, rest)) :
    Written room (cs.dropWhile isSpace) value rest := by
  cases room with
  | zero =>
    rw [tree, run?_scalarOr, Option.bind_eq_some_iff] at h
    obtain ⟨⟨found, mid⟩, hscalar, h⟩ := h
    rw [run?_scalar?_eq_some_iff] at hscalar
    cases found with
    | none => cases h
    | some value =>
      cases h
      exact .scalar hscalar
  | succ room =>
    rw [tree, run?_scalarOr, Option.bind_eq_some_iff] at h
    obtain ⟨⟨found, mid⟩, hscalar, h⟩ := h
    rw [run?_scalar?_eq_some_iff] at hscalar
    cases found with
    | some value =>
      cases h
      exact .scalar hscalar
    | none =>
      dsimp only at h
      generalize cs.dropWhile isSpace = text at hscalar ⊢
      -- what starts no scalar starts an array or an object
      cases hscalar with
      | arr =>
        rw [run?_compound_arr, Option.map_eq_some_iff] at h
        obtain ⟨⟨as, _⟩, hread, hvalue⟩ := h
        cases hvalue
        obtain ⟨mid, hitems, hend⟩ := exists_of_run?_array hread
        exact .arr (items_of_run?_itemsFrom hitems hend)
      | obj =>
        rw [run?_compound_obj, Option.map_eq_some_iff] at h
        obtain ⟨⟨all, _⟩, hread, hvalue⟩ := h
        cases hvalue
        obtain ⟨mid, hmembers, hend⟩ := exists_of_run?_object hread
        obtain ⟨ms, rfl, hms⟩ := members_of_run?_membersFrom hmembers hend
        rw [List.append_nil, List.reverse_reverse]
        exact .obj hms

/-- A tree takes at least one character. -/
theorem length_lt_of_run?_tree {room : Nat} {cs rest : List Char} {value : Json}
    (h : (tree room).run? cs = some (value, rest)) : rest.length < cs.length := by
  have hcs := List.length_dropWhile_le isSpace cs
  induction room generalizing cs rest value with
  | zero =>
    cases written_of_run?_tree h with
    | scalar h => exact h.length_lt.trans_le hcs
  | succ room ih =>
    have ih {cs rest : List Char} {value : Json} (h : (tree room).run? cs = some (value, rest)) :
        rest.length < cs.length := ih h (List.length_dropWhile_le ..)
    generalize htext : cs.dropWhile isSpace = text at hcs
    cases htext ▸ written_of_run?_tree h with
    | scalar h => exact h.length_lt.trans_le hcs
    | arr h =>
      have := h.length_lt ih
      rw [List.length_cons] at hcs
      omega
    | obj h =>
      have := h.length_lt ih
      rw [List.length_cons] at hcs
      omega

/-- A tree that is read is not nested deeper than there was room for. -/
theorem depth_le_of_run?_tree {room : Nat} {cs rest : List Char} {value : Json}
    (h : (tree room).run? cs = some (value, rest)) : value.depth ≤ room := by
  have hscalar {text rest : List Char} {value : Json} (h : Starts text (some value) rest) :
      value.depth = 0 := by
    cases h <;> rfl
  induction room generalizing cs rest value with
  | zero =>
    cases written_of_run?_tree h with
    | scalar h => exact (hscalar h).le
  | succ room ih =>
    have hwritten := written_of_run?_tree h
    generalize cs.dropWhile isSpace = text at hwritten
    cases hwritten with
    | scalar h => exact (hscalar h).le.trans (Nat.zero_le _)
    | arr h =>
      refine Json.depth_arr_le_iff.mpr fun item hitem => ?_
      obtain ⟨_, _, hread⟩ := h.exists_of_mem hitem
      exact ih hread
    | obj h =>
      refine Json.depth_obj_le_iff.mpr fun m hm => ?_
      obtain ⟨_, _, hread⟩ := h.exists_of_mem hm
      exact ih hread

/-- **A tree is read exactly if it is written.** -/
theorem run?_tree_eq_some_iff {room : Nat} {cs rest : List Char} {value : Json} :
    (tree room).run? cs = some (value, rest) ↔ Written room (cs.dropWhile isSpace) value rest := by
  refine ⟨written_of_run?_tree, fun h => ?_⟩
  generalize htext : cs.dropWhile isSpace = text at h
  cases h with
  | scalar h =>
    have hscalar := run?_scalar?_eq_some_iff.mpr (htext ▸ h)
    cases room <;> rw [tree, run?_scalarOr, hscalar] <;> rfl
  | @arr room inner _ values h =>
    have hscalar : scalar?.run? cs = some (none, '[' :: inner) :=
      run?_scalar?_eq_some_iff.mpr (htext ▸ .arr)
    rw [tree, run?_scalarOr, hscalar, Option.bind_some]
    dsimp only
    have harray : (array (items 0 (tree room))).run? ('[' :: inner) = (some values).map (·, rest) :=
      run?_array (h.run?_items_self length_lt_of_run?_tree)
    rw [run?_compound_arr, harray]
    rfl
  | @obj room inner _ ms h =>
    have hscalar : scalar?.run? cs = some (none, '\x7b' :: inner) :=
      run?_scalar?_eq_some_iff.mpr (htext ▸ .obj)
    rw [tree, run?_scalarOr, hscalar, Option.bind_some]
    dsimp only
    -- the fold over the members keeps each of them, the last one in front
    have hmembers : run? (members (keepMember (tree room)) []) inner
        = (ms.foldlM (fun done m => some (m :: done)) []).map (·, '\x7d' :: rest) := by
      refine h.run?_members length_lt_of_run?_tree (fun done key hcolon hread => ?_) []
      rw [keepMember, run?_bind, run?_valueOf, run?_colon_eq_some_iff.mpr hcolon,
        Option.bind_some, hread]
      rfl
    have hall : ms.foldlM (fun done m => some (m :: done)) [] = some ms.reverse :=
      List.foldlM_pure.trans (congrArg some (by simp))
    rw [run?_compound_obj, run?_object hmembers, hall]
    simp

end Courier.Scan

import Courier.Json.Printer
import Courier.Proofs.Json.Nesting
import Mathlib.Tactic.IntervalCases

/-!
# Printing and reading back

The compact text of a tree whose numbers are integers is read as that tree
(`Json.parse_text`): no character of a string is lost or added by its escape, an integer of 64 bits
is not taken for a floating-point number, and the items and members come back in their order.
Floating-point numbers are left out: their text is rounded when it is read.
-/

namespace Courier

/-! ## Trees of integers -/

/-- Whether a number is an integer of 64 bits, with or without a sign. -/
def Number.IsInteger : Number → Prop
  | .int value => -(twoTo 63 : Int) ≤ value ∧ value < twoTo 64
  | .float _ => False

namespace Json

mutual

/-- Every number of a tree is an integer of 64 bits. -/
def Integral : Json → Prop
  | .num n => n.IsInteger
  | .arr items => IntegralItems items
  | .obj members => IntegralMembers members
  | _ => True

/-- Every number in the items is an integer of 64 bits. -/
def IntegralItems : List Json → Prop
  | [] => True
  | item :: rest => item.Integral ∧ IntegralItems rest

/-- Every number in the values of the members is an integer of 64 bits. -/
def IntegralMembers : List (String × Json) → Prop
  | [] => True
  | (_, value) :: rest => value.Integral ∧ IntegralMembers rest

end

theorem integral_arr {items : List Json} :
    (arr items).Integral ↔ ∀ item ∈ items, item.Integral := by
  rw [Integral]
  induction items with
  | nil => simp [IntegralItems]
  | cons item rest ih => rw [IntegralItems, ih, List.forall_mem_cons]

theorem integral_obj {members : List (String × Json)} :
    (obj members).Integral ↔ ∀ m ∈ members, m.2.Integral := by
  rw [Integral]
  induction members with
  | nil => simp [IntegralMembers]
  | cons m rest ih => rw [IntegralMembers, ih, List.forall_mem_cons]

theorem printChar_ne_nil (c : Char) : printChar c ≠ [] := by
  unfold printChar controlEscape
  repeat' split
  all_goals exact List.cons_ne_nil _ _

end Json

namespace Scan

/-! ## Strings -/

theorem hexValue?_digitChar : ∀ d < 16, hexValue? (Nat.digitChar d) = some d := by
  decide

/-- A control character is escaped by its number. -/
theorem run?_unicodeEscape_controlEscape {code : Nat} (h : code < 0x20) (rest : List Char) :
    unicodeEscape.run? ((Json.controlEscape code).drop 2 ++ rest)
      = some (Char.ofNat code, rest) := by
  have hfour : fourHex.run? ((Json.controlEscape code).drop 2 ++ rest) = some (code, rest) := by
    have hzero : hexValue? '0' = some 0 := rfl
    have hhigh := hexValue?_digitChar (code / 16) (by omega)
    have hlow := hexValue?_digitChar (code % 16) (by omega)
    rw [Json.controlEscape, Nat.toDigits_of_lt_base (by omega), Nat.toDigits_of_lt_base (by omega)]
    simp only [List.cons_append, List.nil_append, List.drop_succ_cons, List.drop_zero, run?,
      fourHex, hzero, hhigh, hlow, toOption_ok, Option.some.injEq, Prod.mk.injEq, and_true]
    omega
  have htrailing : isTrailing code = false := by
    simp [isTrailing]
    omega
  have hleading : isLeading code = false := by
    simp [isLeading]
    omega
  rw [unicodeEscape, run?_bind, hfour, Option.bind_some]
  dsimp only
  rw [htrailing, hleading]
  rfl

/-- One printed character is read as itself. -/
theorem run?_stringFrom_printChar (fuel : Nat) (done : List Char) (c : Char) (rest : List Char) :
    run? (stringFrom (fuel + 1) done) (Json.printChar c ++ rest)
      = run? (stringFrom fuel (c :: done)) rest := by
  unfold Json.printChar
  -- the cases of the printer: seven short escapes, other control characters, and all the rest
  split
  · subst_vars; rfl
  split
  · subst_vars; rfl
  split
  · subst_vars; rfl
  split
  · subst_vars; rfl
  split
  · subst_vars; rfl
  split
  · rename_i h
    rw [← Char.ofNat_toNat c, h]
    rfl
  split
  · rename_i h
    rw [← Char.ofNat_toNat c, h]
    rfl
  split
  · rename_i h
    have hescape := run?_unicodeEscape_controlEscape h rest
    rw [Char.ofNat_toNat] at hescape
    have htext : Json.controlEscape c.toNat ++ rest
        = '\\' :: 'u' :: ((Json.controlEscape c.toNat).drop 2 ++ rest) := rfl
    rw [htext, run?_stringFrom_cons, if_neg (by decide), if_pos rfl, run?_escape_cons, if_pos rfl,
      hescape, Option.bind_some]
  · rename_i hquote hslash _ _ _ _ _ hcontrol
    rw [List.singleton_append, run?_stringFrom_cons, if_neg hquote, if_neg hslash, if_neg hcontrol]

/-- **The characters of a string, printed and read, are the same.** -/
theorem run?_string_printString (text : String) (rest : List Char) :
    string.run? (text.toList.flatMap Json.printChar ++ '"' :: rest) = some (text, rest) := by
  -- the induction is on the characters still to come; those that were read are turned around
  have hfrom (cs done : List Char) {fuel : Nat} (hfuel : cs.length < fuel) :
      run? (stringFrom fuel done) (cs.flatMap Json.printChar ++ '"' :: rest)
        = some (String.ofList (done.reverse ++ cs), rest) := by
    induction cs generalizing done fuel with
    | nil =>
      obtain ⟨fuel, rfl⟩ := Nat.exists_eq_add_one_of_ne_zero (Nat.ne_zero_of_lt hfuel)
      rw [List.append_nil]
      rfl
    | cons c cs ih =>
      obtain ⟨fuel, rfl⟩ := Nat.exists_eq_add_one_of_ne_zero (Nat.ne_zero_of_lt hfuel)
      rw [List.flatMap_cons, List.append_assoc, run?_stringFrom_printChar,
        ih _ (Nat.lt_of_succ_lt_succ hfuel), List.reverse_cons, List.append_assoc,
        List.singleton_append]
  -- the length of the text serves as fuel: no character is printed as nothing
  have hlength (cs : List Char) : cs.length ≤ (cs.flatMap Json.printChar).length := by
    induction cs with
    | nil => exact Nat.zero_le _
    | cons c cs ih =>
      have hpos := List.length_pos_iff.mpr (Json.printChar_ne_nil c)
      rw [List.flatMap_cons, List.length_cons, List.length_append]
      omega
  refine (hfrom text.toList [] ?_).trans ?_
  · have htext := hlength text.toList
    rw [List.length_append]
    omega
  · rw [List.reverse_nil, List.nil_append, String.ofList_toList]

/-! ## Integers -/

/-- Whether a text that is left does not go on with a number. -/
def EndsNumber (rest : List Char) : Prop :=
  ∀ c, rest.head? = some c → isDigit c = false ∧ c ≠ '.' ∧ c ≠ 'e' ∧ c ≠ 'E'

theorem isDigit_of_mem_toDigits {n : Nat} {c : Char} (h : c ∈ Nat.toDigits 10 n) : isDigit c := by
  have hc := Nat.isDigit_of_mem_toDigits (by decide) (by decide) h
  simpa [Char.isDigit, isDigit, Char.le_def] using hc

/-- A natural number other than zero is written without a zero in front. -/
theorem head?_toDigits_ne_zero {n : Nat} (h : 0 < n) : (Nat.toDigits 10 n).head? ≠ some '0' := by
  induction n using Nat.strong_induction_on with
  | h n ih =>
    rw [Nat.toDigits_eq_if (by decide)]
    split
    · rename_i hn
      interval_cases n <;> decide
    · rename_i hn
      rw [List.head?_append_of_ne_nil _ Nat.toDigits_ne_nil]
      exact ih (n / 10) (by omega) (by omega)

/-- Digits that fit are all gathered. -/
theorem gather_eq {significand : Nat} {digits : List Char}
    (h : Nat.ofDigitChars 10 digits significand < significandBound) :
    gather significand digits = (Nat.ofDigitChars 10 digits significand, []) := by
  induction digits generalizing significand with
  | nil => rfl
  | cons c digits ih =>
    rw [Nat.ofDigitChars_cons] at h
    have hnext : 10 * significand + (c.toNat - '0'.toNat) < significandBound := by
      rw [Nat.ofDigitChars_eq_ofDigitChars_zero] at h
      have hle := Nat.le_mul_of_pos_left (10 * significand + (c.toNat - '0'.toNat))
        (Nat.pow_pos (n := digits.length) (show 0 < 10 by decide))
      omega
    rw [gather, Nat.ofDigitChars_cons, Nat.mul_comm significand]
    exact (if_pos hnext).trans (ih h)

/-- **The digits of a natural number of 64 bits are read as it.** -/
theorem run?_number_toDigits (negative : Bool) {n : Nat} (h : n < twoTo 64) {rest : List Char}
    (hrest : EndsNumber rest) :
    run? (number negative) (Nat.toDigits 10 n ++ rest) = some (integer negative n, rest) := by
  have hall (c : Char) (hc : c ∈ Nat.toDigits 10 n) : isDigit c := isDigit_of_mem_toDigits hc
  have hends : rest.dropWhile isDigit = rest ∧ rest.takeWhile isDigit = [] := by
    cases rest with
    | nil => exact ⟨rfl, rfl⟩
    | cons c rest =>
      have hc := (hrest c rfl).1
      exact ⟨List.dropWhile_cons_of_neg (by simp [hc]), List.takeWhile_cons_of_neg (by simp [hc])⟩
  have htake : (Nat.toDigits 10 n ++ rest).takeWhile isDigit = Nat.toDigits 10 n := by
    rw [List.takeWhile_append_of_pos hall, hends.2, List.append_nil]
  have hdrop : (Nat.toDigits 10 n ++ rest).dropWhile isDigit = rest := by
    rw [List.dropWhile_append_of_pos hall, hends.1]
  have hgather : gather 0 (Nat.toDigits 10 n) = (n, []) := by
    have hvalue : Nat.ofDigitChars 10 (Nat.toDigits 10 n) 0 = n := Nat.ofDigitChars_ten_toDigits
    rw [gather_eq (hvalue.symm ▸ h), hvalue]
  -- a zero in front would have to be followed by nothing else
  have hzero : ∀ c after, Nat.toDigits 10 n = c :: after →
      ¬ (c = '0' ∧ (after ++ rest).head?.any isDigit) := by
    rintro c after hdigits ⟨rfl, hafter⟩
    rcases Nat.eq_zero_or_pos n with rfl | hpos
    · rw [Nat.toDigits_zero] at hdigits
      obtain rfl := (List.cons.inj hdigits).2
      cases rest with
      | nil => cases hafter
      | cons c rest => simp [(hrest c rfl).1] at hafter
    · exact head?_toDigits_ne_zero hpos (by rw [hdigits, List.head?_cons])
  obtain ⟨c, after, hdigits⟩ := List.exists_cons_of_ne_nil (Nat.toDigits_ne_nil (n := n) (b := 10))
  rw [hdigits] at htake hdrop hgather ⊢
  unfold run? number
  rw [List.cons_append] at htake hdrop ⊢
  dsimp only
  rw [if_neg (not_not.mpr (hall c (by rw [hdigits]; exact List.mem_cons_self))),
    if_neg (hzero c after hdigits), htake, hdrop, hgather]
  dsimp only
  cases rest with
  | nil => rfl
  | cons c rest =>
    obtain ⟨-, hpoint, he, hE⟩ := hrest c rfl
    split
    · rename_i heq
      exact absurd (List.cons.inj heq).1 hpoint
    · rw [if_pos List.isEmpty_nil]
      split
      · rename_i heq
        exact absurd (List.cons.inj heq).1 he
      · rename_i heq
        exact absurd (List.cons.inj heq).1 hE
      · rfl

/-- An integer of 64 bits is how its text starts. -/
theorem starts_printNumber {n : Number} (h : n.IsInteger) {rest : List Char}
    (hrest : EndsNumber rest) : Starts (Json.printNumber n ++ rest) (some (.num n)) rest := by
  cases n with
  | float => cases h
  | int value =>
    obtain ⟨hlow, hhigh⟩ := h
    have h63 : twoTo 63 < twoTo 64 := by decide
    rw [Json.printNumber, Json.printInt]
    by_cases hneg : value < 0
    · rw [if_pos hneg, List.cons_append]
      refine .negative ?_
      rw [run?_number_toDigits true (by omega) hrest, integer, if_pos rfl, if_neg (by omega)]
      have hvalue : -(value.natAbs : Int) = value := by omega
      rw [hvalue]
    · rw [if_neg hneg]
      refine .positive ?_
      have hvalue : (value.natAbs : Int) = value := by omega
      rw [run?_number_toDigits false (by omega) hrest, integer, if_neg (by decide), hvalue]

/-! ## Values -/

/-- Behind an item or a member there is a comma or a closing bracket, and no more of a number. -/
theorem endsNumber_cons {c : Char} (h : c = ',' ∨ c = ']' ∨ c = '\x7d') (rest : List Char) :
    EndsNumber (c :: rest) := by
  rintro d hd
  cases hd
  rcases h with rfl | rfl | rfl <;> decide

/-- The text of a value starts with neither white space nor a closing bracket. -/
theorem exists_print_eq_cons {value : Json} (h : value.Integral) :
    ∃ c cs, value.print = c :: cs ∧ isSpace c = false ∧ c ≠ ']' := by
  cases value with
  | null => exact ⟨_, _, rfl, by decide⟩
  | bool b => cases b <;> exact ⟨_, _, rfl, by decide⟩
  | num n =>
    cases n with
    | float => cases h
    | int value =>
      -- a number starts with a sign or a digit
      rw [Json.print, Json.printNumber, Json.printInt]
      split
      · exact ⟨_, _, rfl, by decide⟩
      · obtain ⟨c, cs, hdigits⟩ := List.exists_cons_of_ne_nil (Nat.toDigits_ne_nil
          (n := value.natAbs) (b := 10))
        have hc : isDigit c := isDigit_of_mem_toDigits (hdigits ▸ List.mem_cons_self)
        refine ⟨c, cs, hdigits, ?_, ?_⟩
        · cases hspace : isSpace c with
          | false => rfl
          | true =>
            simp only [isSpace, Bool.or_eq_true, decide_eq_true_eq] at hspace
            rcases hspace with ((rfl | rfl) | rfl) | rfl <;> exact absurd hc (by decide)
        · rintro rfl
          exact absurd hc (by decide)
  | str s => exact ⟨_, _, rfl, by decide⟩
  | arr items => exact ⟨_, _, rfl, by decide⟩
  | obj members => exact ⟨_, _, rfl, by decide⟩

/-- A value is read back from its text. -/
def ReadsBack (room : Nat) (value : Json) : Prop :=
  ∀ rest, EndsNumber rest → (tree room).run? (value.print ++ rest) = some (value, rest)

theorem dropWhile_print {value : Json} (h : value.Integral) (rest : List Char) :
    (value.print ++ rest).dropWhile isSpace = value.print ++ rest := by
  obtain ⟨c, cs, hprint, hc, -⟩ := exists_print_eq_cons h
  rw [hprint, List.cons_append, List.dropWhile_cons_of_neg (by simp [hc])]

/-- The items behind the first, each with its comma. -/
def printedItems (items : List Json) : List Char :=
  items.flatMap fun item => ',' :: item.print

theorem printItems_cons (item : Json) (items : List Json) :
    Json.printItems (item :: items) = item.print ++ printedItems items := by
  induction items generalizing item with
  | nil => exact (List.append_nil _).symm
  | cons next items ih =>
    rw [Json.printItems, ih, printedItems, printedItems, List.flatMap_cons, List.cons_append]
    exact nofun

/-- Behind an item there is a comma or the closing bracket. -/
theorem endsNumber_printedItems (items : List Json) (rest : List Char) :
    EndsNumber (printedItems items ++ ']' :: rest) := by
  cases items with
  | nil => exact endsNumber_cons (.inr (.inl rfl)) rest
  | cons item items => exact endsNumber_cons (.inl rfl) _

theorem printedItems_cons (item : Json) (items : List Json) (rest : List Char) :
    printedItems (item :: items) ++ rest = ',' :: (item.print ++ (printedItems items ++ rest)) := by
  rw [printedItems, List.flatMap_cons, List.cons_append, List.cons_append, List.append_assoc,
    printedItems]

theorem itemStart?_print {item : Json} (h : item.Integral) (rest : List Char) :
    itemStart? 0 (item.print ++ rest) = some (item.print ++ rest) := by
  have hdrop := dropWhile_print h rest
  obtain ⟨c, cs, hprint, -, hclose⟩ := exists_print_eq_cons h
  rw [hprint, List.cons_append] at hdrop ⊢
  rw [itemStart?, hdrop]
  exact (if_neg hclose).trans (if_pos rfl)

theorem itemStart?_printedItems {item : Json} (h : item.Integral) (index : Nat)
    (rest : List Char) :
    itemStart? (index + 1) (',' :: (item.print ++ rest)) = some (item.print ++ rest) := by
  have hdrop := dropWhile_print h rest
  obtain ⟨c, cs, hprint, -, hclose⟩ := exists_print_eq_cons h
  rw [hprint, List.cons_append] at hdrop ⊢
  rw [itemStart?, List.dropWhile_cons_of_neg (by decide)]
  dsimp only
  rw [if_neg (by decide), if_neg (Nat.succ_ne_zero index), if_pos rfl, hdrop]
  exact if_neg hclose

section Items

variable {room : Nat} {items : List Json}

theorem items_printedItems (hitems : ∀ item ∈ items, item.Integral)
    (hread : ∀ item ∈ items, ReadsBack room item) (index : Nat) (rest : List Char) :
    Items (tree room) (index + 1) (printedItems items ++ ']' :: rest) items rest := by
  induction items generalizing index with
  | nil => exact .nil rfl
  | cons item items ih =>
    obtain ⟨hitem, hitems⟩ := List.forall_mem_cons.mp hitems
    obtain ⟨hfirst, hread⟩ := List.forall_mem_cons.mp hread
    rw [printedItems_cons]
    exact .cons (itemStart?_printedItems hitem index _)
      (hfirst _ (endsNumber_printedItems items rest)) (ih hitems hread (index + 1))

/-- Printed items are held by their text. -/
theorem items_printItems (hitems : ∀ item ∈ items, item.Integral)
    (hread : ∀ item ∈ items, ReadsBack room item) (rest : List Char) :
    Items (tree room) 0 (Json.printItems items ++ ']' :: rest) items rest := by
  cases items with
  | nil => exact .nil rfl
  | cons item items =>
    obtain ⟨hitem, hitems⟩ := List.forall_mem_cons.mp hitems
    obtain ⟨hfirst, hread⟩ := List.forall_mem_cons.mp hread
    rw [printItems_cons, List.append_assoc]
    exact .cons (itemStart?_print hitem _) (hfirst _ (endsNumber_printedItems items rest))
      (items_printedItems hitems hread 0 rest)

end Items

/-! ## Members -/

/-- A member. -/
def printedMember (m : String × Json) : List Char :=
  Json.printString m.1 ++ ':' :: m.2.print

/-- The members behind the first, each with its comma. -/
def printedMembers (members : List (String × Json)) : List Char :=
  members.flatMap fun m => ',' :: printedMember m

theorem printMembers_cons (m : String × Json) (members : List (String × Json)) :
    Json.printMembers (m :: members) = printedMember m ++ printedMembers members := by
  induction members generalizing m with
  | nil => exact (List.append_nil _).symm
  | cons next members ih =>
    obtain ⟨key, value⟩ := m
    rw [Json.printMembers, ih, printedMembers, printedMembers, List.flatMap_cons]
    · simp [printedMember]
    · exact nofun

/-- Behind a member there is a comma or the closing brace. -/
theorem endsNumber_printedMembers (members : List (String × Json)) (rest : List Char) :
    EndsNumber (printedMembers members ++ '\x7d' :: rest) := by
  cases members with
  | nil => exact endsNumber_cons (.inr (.inr rfl)) rest
  | cons item members => exact endsNumber_cons (.inl rfl) _

section Members

variable {room : Nat} {members : List (String × Json)}

/-- A printed member is the next one, wherever its key starts. -/
theorem members_cons {first : Bool} {cs rest : List Char} {m : String × Json}
    (hcs : keyStart? first cs = some (m.1.toList.flatMap Json.printChar
      ++ '"' :: ':' :: (m.2.print ++ (printedMembers members ++ '\x7d' :: rest))))
    (hread : ReadsBack room m.2)
    (h : Members (tree room) false (printedMembers members ++ '\x7d' :: rest) members rest) :
    Members (tree room) first cs (m :: members) rest :=
  .cons hcs (run?_string_printString _ _) rfl (hread _ (endsNumber_printedMembers members rest)) h

theorem members_printedMembers (hread : ∀ m ∈ members, ReadsBack room m.2) (rest : List Char) :
    Members (tree room) false (printedMembers members ++ '\x7d' :: rest) members rest := by
  induction members with
  | nil => exact .nil rfl
  | cons m members ih =>
    obtain ⟨hfirst, hread⟩ := List.forall_mem_cons.mp hread
    refine members_cons ?_ hfirst (ih hread)
    simp [printedMembers, printedMember, Json.printString, keyStart?, isSpace]

/-- Printed members are held by their text. -/
theorem members_printMembers (hread : ∀ m ∈ members, ReadsBack room m.2) (rest : List Char) :
    Members (tree room) true (Json.printMembers members ++ '\x7d' :: rest) members rest := by
  cases members with
  | nil => exact .nil rfl
  | cons m members =>
    obtain ⟨hfirst, hread⟩ := List.forall_mem_cons.mp hread
    rw [printMembers_cons]
    refine members_cons ?_ hfirst (members_printedMembers hread rest)
    simp [printedMember, Json.printString, keyStart?, isSpace]

end Members

/-! ## Trees -/

theorem run?_tree_of_starts {room : Nat} {value : Json} {rest : List Char} (hvalue : value.Integral)
    (h : Starts (value.print ++ rest) (some value) rest) :
    (tree room).run? (value.print ++ rest) = some (value, rest) := by
  rw [run?_tree_eq_some_iff, dropWhile_print hvalue]
  exact .scalar h

/-- **A printed tree of integers is read back**, if there is room for its nesting. -/
theorem readsBack {value : Json} (hvalue : value.Integral) {room : Nat}
    (hroom : value.depth ≤ room) : ReadsBack room value := by
  intro rest hrest
  induction value using Json.induction generalizing room rest with
  | null => exact run?_tree_of_starts hvalue .null
  | bool b =>
    cases b with
    | false => exact run?_tree_of_starts hvalue .no
    | true => exact run?_tree_of_starts hvalue .yes
  | num n => exact run?_tree_of_starts hvalue (starts_printNumber hvalue hrest)
  | str s =>
    refine run?_tree_of_starts hvalue ?_
    have htext : (Json.str s).print ++ rest
        = '"' :: (s.toList.flatMap Json.printChar ++ '"' :: rest) := by
      simp [Json.print, Json.printString]
    rw [htext]
    exact .str (run?_string_printString s rest)
  | arr items ih =>
    -- the brackets take one level of the room, and the items need no more than what is left
    obtain ⟨room, rfl⟩ := Nat.exists_eq_add_one_of_ne_zero (Nat.ne_zero_of_lt hroom)
    have hitems := Json.integral_arr.mp hvalue
    have hdepth := Json.depth_arr_le_iff.mp hroom
    have htext : (Json.arr items).print ++ rest
        = '[' :: (Json.printItems items ++ ']' :: rest) := by
      simp [Json.print]
    rw [run?_tree_eq_some_iff, dropWhile_print hvalue, htext]
    exact .arr (items_printItems hitems (fun item hitem rest hrest =>
      ih item hitem (hitems item hitem) (hdepth item hitem) rest hrest) rest)
  | obj members ih =>
    obtain ⟨room, rfl⟩ := Nat.exists_eq_add_one_of_ne_zero (Nat.ne_zero_of_lt hroom)
    have hmembers := Json.integral_obj.mp hvalue
    have hdepth := Json.depth_obj_le_iff.mp hroom
    have htext : (Json.obj members).print ++ rest
        = '\x7b' :: (Json.printMembers members ++ '\x7d' :: rest) := by
      simp [Json.print]
    rw [run?_tree_eq_some_iff, dropWhile_print hvalue, htext]
    exact .obj (members_printMembers (fun m hm rest hrest =>
      ih m hm (hmembers m hm) (hdepth m hm) rest hrest) rest)

end Scan

/-- The text of a tree of integers is read as that tree, member by member. -/
theorem Scan.document_text {value : Json} (hvalue : value.Integral)
    (hdepth : value.depth ≤ Scan.maxDepth) :
    Scan.document (Scan.tree Scan.maxDepth) value.text = .ok value := by
  have hread := Scan.readsBack hvalue hdepth [] nofun
  rw [List.append_nil] at hread
  rw [← toOption_eq_some_iff, Scan.toOption_document, Json.text, String.toList_ofList, hread]
  rfl

/-- **The text of a tree of integers is read as that tree**, sorted. -/
theorem Json.parse_text {value : Json} (hvalue : value.Integral)
    (hdepth : value.depth ≤ Scan.maxDepth) : Json.parse value.text = .ok value.normalize := by
  rw [Json.parse, Scan.document_text hvalue hdepth]
  rfl

end Courier

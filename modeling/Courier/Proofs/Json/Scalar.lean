import Courier.Proofs.Json.Run
import Mathlib.Data.List.DropRight

/-!
# Strings, numbers and words

A value without parts is read in two ways, for its value (`Scan.scalar?`) and to be skipped. The
second way is the more lenient one: whatever is read for its value is skipped up to the same place.
-/

namespace Courier.Scan

/-! ## Hexadecimal digits -/

/-- Four digits are taken from the text. -/
theorem exists_of_run?_fourHex {cs rest : List Char} {code : Nat}
    (h : fourHex.run? cs = some (code, rest)) : ∃ a b c d, cs = a :: b :: c :: d :: rest := by
  unfold run? fourHex at h
  split at h
  · split at h
    · cases h
      exact ⟨_, _, _, _, rfl⟩
    · cases h
  · split at h <;> cases h

/-! ## Strings -/

/-- One step through a string. -/
theorem run?_stringFrom_cons (fuel : Nat) (done : List Char) (c : Char) (rest : List Char) :
    run? (stringFrom (fuel + 1) done) (c :: rest) =
      if c = '"' then some (String.ofList done.reverse, rest)
      else if c = '\\' then
        (escape.run? rest).bind fun read => run? (stringFrom fuel (read.1 :: done)) read.2
      else if c.toNat < 0x20 then none
      else run? (stringFrom fuel (c :: done)) rest := by
  by_cases hquote : c = '"'
  · subst hquote
    rfl
  by_cases hslash : c = '\\'
  · subst hslash
    simp only [run?, stringFrom]
    cases escape rest <;> rfl
  · rw [if_neg hquote, if_neg hslash]
    simp only [run?, stringFrom]
    split <;> rfl

/-- One step through a string that is skipped. -/
theorem run?_ignoredStringFrom_cons (fuel : Nat) (c : Char) (rest : List Char) :
    run? (ignoredStringFrom (fuel + 1)) (c :: rest) =
      if c = '"' then some ((), rest)
      else if c = '\\' then
        match rest with
        | [] => none
        | d :: rest =>
          if d = 'u' then
            (fourHex.run? rest).bind fun read => run? (ignoredStringFrom fuel) read.2
          else (shortEscape? d).bind fun _ => run? (ignoredStringFrom fuel) rest
      else if c.toNat < 0x20 then none
      else run? (ignoredStringFrom fuel) rest := by
  by_cases hquote : c = '"'
  · subst hquote
    rfl
  by_cases hslash : c = '\\'
  · subst hslash
    cases rest with
    | nil => rfl
    | cons d rest =>
      by_cases hu : d = 'u'
      · subst hu
        simp only [run?, ignoredStringFrom]
        cases fourHex rest <;> rfl
      · simp only [run?, ignoredStringFrom, if_neg hu]
        cases shortEscape? d <;> rfl
  · rw [if_neg hquote, if_neg hslash]
    simp only [run?, ignoredStringFrom]
    split
    case h_6 heq =>
      cases heq
      split <;> rfl
    all_goals simp_all

/-! ## Escapes -/

theorem run?_pairMark_eq_some_iff {expected : Char} {cs rest : List Char} :
    run? (pairMark expected) cs = some ((), rest) ↔ cs = expected :: rest := by
  cases cs with
  | nil => simp [pairMark, run?, refuse]
  | cons c cs =>
    by_cases h : c = expected <;> simp [pairMark, run?, refuse, h]

/-- A `\u` escape is four digits, or four digits and another `\u` escape. -/
theorem exists_of_run?_unicodeEscape {cs rest : List Char} {c : Char}
    (h : unicodeEscape.run? cs = some (c, rest)) :
    ∃ code mid, fourHex.run? cs = some (code, mid) ∧
      (mid = rest ∨ ∃ second after, mid = '\\' :: 'u' :: after ∧
        fourHex.run? after = some (second, rest)) := by
  rw [unicodeEscape, run?_bind, Option.bind_eq_some_iff] at h
  obtain ⟨⟨code, mid⟩, hfirst, h⟩ := h
  refine ⟨code, mid, hfirst, ?_⟩
  dsimp only at h
  split at h
  · cases h
  split at h
  · -- half of a pair wants the other half behind it
    right
    rw [run?_bind, Option.bind_eq_some_iff] at h
    obtain ⟨⟨⟨⟩, after⟩, hslash, h⟩ := h
    rw [run?_bind, Option.bind_eq_some_iff] at h
    obtain ⟨⟨⟨⟩, after'⟩, hu, h⟩ := h
    rw [run?_bind, Option.bind_eq_some_iff] at h
    obtain ⟨⟨second, last⟩, hsecond, h⟩ := h
    rw [run?_pairMark_eq_some_iff] at hslash hu
    dsimp only at hslash hu hsecond h
    subst hslash hu
    by_cases htrailing : isTrailing second
    · rw [if_pos htrailing, run?_pure] at h
      obtain ⟨-, rfl⟩ := Prod.mk.inj (Option.some.inj h)
      exact ⟨second, after', rfl, hsecond⟩
    · rw [if_neg htrailing] at h
      cases h
  · left
    cases h
    rfl

/-- An escape after its backslash: by number, or by one character. -/
theorem run?_escape_cons (c : Char) (rest : List Char) :
    escape.run? (c :: rest)
      = if c = 'u' then unicodeEscape.run? rest else (shortEscape? c).map (·, rest) := by
  by_cases hu : c = 'u'
  · subst hu
    rfl
  · rw [if_neg hu]
    simp only [run?, escape]
    cases shortEscape? c <;> rfl

/-! ## Skipping strings -/

/-- A string that is read can be skipped. -/
theorem run?_ignoredStringFrom {fuel : Nat} {done cs rest : List Char} {text : String}
    (h : run? (stringFrom fuel done) cs = some (text, rest)) {bound : Nat}
    (hbound : cs.length < bound) : run? (ignoredStringFrom bound) cs = some ((), rest) := by
  induction fuel generalizing done cs bound with
  | zero => cases h
  | succ fuel ih =>
    cases cs with
    | nil => cases h
    | cons c cs =>
      obtain ⟨bound, rfl⟩ := Nat.exists_eq_add_one_of_ne_zero (Nat.ne_zero_of_lt hbound)
      rw [List.length_cons] at hbound
      rw [run?_stringFrom_cons] at h
      rw [run?_ignoredStringFrom_cons]
      split at h
      · cases h
        rw [if_pos ‹_›]
      rw [if_neg ‹_›]
      split at h
      · rw [if_pos ‹_›]
        rw [Option.bind_eq_some_iff] at h
        obtain ⟨⟨d, mid⟩, hescape, h⟩ := h
        dsimp only at h
        cases cs with
        | nil => cases hescape
        | cons e cs =>
          rw [run?_escape_cons] at hescape
          dsimp only
          rw [List.length_cons] at hbound
          split at hescape
          · rw [if_pos ‹_›]
            obtain ⟨code, after, hfirst, hafter⟩ := exists_of_run?_unicodeEscape hescape
            obtain ⟨a₁, a₂, a₃, a₄, rfl⟩ := exists_of_run?_fourHex hfirst
            rw [hfirst, Option.bind_some]
            simp only [List.length_cons] at hbound ⊢
            rcases hafter with rfl | ⟨second, last, rfl, hsecond⟩
            · exact ih h (by omega)
            · -- the second half of a pair is an escape of its own for the reader that skips
              obtain ⟨bound, rfl⟩ := Nat.exists_eq_add_one_of_ne_zero (show bound ≠ 0 by omega)
              obtain ⟨b₁, b₂, b₃, b₄, rfl⟩ := exists_of_run?_fourHex hsecond
              simp only [List.length_cons] at hbound
              rw [run?_ignoredStringFrom_cons, if_neg (by decide), if_pos rfl]
              dsimp only
              rw [if_pos rfl, hsecond, Option.bind_some]
              exact ih h (by omega)
          · rw [if_neg ‹_›]
            obtain ⟨d', hshort, hread⟩ := Option.map_eq_some_iff.mp hescape
            cases hread
            rw [hshort, Option.bind_some]
            exact ih h (by omega)
      · rw [if_neg ‹_›]
        split at h
        · cases h
        · rw [if_neg ‹_›]
          exact ih h (by omega)

theorem run?_ignoredString {cs rest : List Char} {text : String}
    (h : string.run? cs = some (text, rest)) : ignoredString.run? cs = some ((), rest) :=
  run?_ignoredStringFrom h (Nat.lt_succ_self _)

/-- Skipping a string takes at least its closing quote. -/
theorem length_lt_of_run?_ignoredStringFrom {fuel : Nat} {cs rest : List Char}
    (h : run? (ignoredStringFrom fuel) cs = some ((), rest)) : rest.length < cs.length := by
  induction fuel generalizing cs with
  | zero => cases h
  | succ fuel ih =>
    cases cs with
    | nil => cases h
    | cons c cs =>
      rw [run?_ignoredStringFrom_cons] at h
      rw [List.length_cons]
      split at h
      · cases h
        exact Nat.lt_succ_self _
      split at h
      · -- an escape takes two characters, or six
        cases cs with
        | nil => cases h
        | cons d cs =>
          rw [List.length_cons]
          dsimp only at h
          split at h
          · rw [Option.bind_eq_some_iff] at h
            obtain ⟨⟨code, mid⟩, hfour, h⟩ := h
            obtain ⟨a₁, a₂, a₃, a₄, rfl⟩ := exists_of_run?_fourHex hfour
            have hmid := ih h
            simp only [List.length_cons]
            dsimp only at hmid
            omega
          · rw [Option.bind_eq_some_iff] at h
            obtain ⟨-, -, h⟩ := h
            have hrest := ih h
            omega
      · split at h
        · cases h
        · have hrest := ih h
          omega

theorem length_lt_of_run?_string {cs rest : List Char} {text : String}
    (h : string.run? cs = some (text, rest)) : rest.length < cs.length :=
  length_lt_of_run?_ignoredStringFrom (run?_ignoredString h)

/-! ## Skipping numbers -/

/-- The exponent of a number that is skipped, if it has one. -/
def ignoredTail : Scan Unit := fun cs =>
  match cs with
  | 'e' :: rest | 'E' :: rest => ignoredExponent rest
  | rest => .ok ((), rest)

theorem drop_length_takeWhile (p : Char → Bool) (cs : List Char) :
    cs.drop (cs.takeWhile p).length = cs.dropWhile p := by
  have hsplit := congrArg (List.drop (cs.takeWhile p).length)
    (List.takeWhile_append_dropWhile (p := p) (l := cs))
  rw [List.drop_left] at hsplit
  exact hsplit.symm

theorem rest_of_run?_finish {negative : Bool} {significand : Nat} {exponent : Int}
    {cs rest : List Char} {n : Number}
    (h : run? (finish negative significand exponent) cs = some (n, rest)) : rest = cs := by
  rw [finish] at h
  split at h
  · cases h
    rfl
  · cases h

/-- The digits of an exponent are all taken, also if they are too many to matter. -/
theorem rest_of_run?_exponentDigits {negative raised : Bool} {significand : Nat} {start : Int}
    {value : Nat} {digits cs rest : List Char} {n : Number}
    (h : run? (exponentDigits negative raised significand start value digits) cs = some (n, rest)) :
    rest = cs.drop digits.length := by
  induction digits generalizing value cs with
  | nil => exact rest_of_run?_finish h
  | cons c digits ih =>
    unfold run? exponentDigits at h
    dsimp only at h
    split at h
    · rw [ih h, List.drop_drop, List.length_cons, Nat.add_comm]
    · split at h
      · cases h
      · cases h
        rfl

/-- An exponent that is read can be skipped. -/
theorem run?_ignoredExponent {negative : Bool} {significand : Nat} {start : Int}
    {cs rest : List Char} {n : Number}
    (h : run? (exponent negative significand start) cs = some (n, rest)) :
    ignoredExponent.run? cs = some ((), rest) := by
  unfold run? exponent at h
  split at h
  rename_i raised after hsign
  -- behind the sign there are digits, and all of them are taken
  obtain ⟨c, digits, rfl, hc, hrest⟩ :
      ∃ c digits, after = c :: digits ∧ isDigit c ∧ digits.dropWhile isDigit = rest := by
    split at h
    · cases h
    · rename_i c digits
      split at h
      · rename_i hc
        refine ⟨c, digits, rfl, hc, ?_⟩
        rw [rest_of_run?_exponentDigits h, drop_length_takeWhile, List.dropWhile_cons, if_pos hc]
      · cases h
  unfold run? ignoredExponent
  split at hsign <;> cases hsign
  · simp [hc, hrest]
  · simp [hc, hrest]
  · dsimp only
    split <;> simp_all

theorem run?_ignoredTail_of_ne {cs : List Char} (he : ∀ rest, cs ≠ 'e' :: rest)
    (hE : ∀ rest, cs ≠ 'E' :: rest) : ignoredTail.run? cs = some ((), cs) := by
  unfold run? ignoredTail
  split
  · exact absurd rfl (he _)
  · exact absurd rfl (hE _)
  · rfl

theorem run?_ignoredTail {negative : Bool} {significand : Nat} {start : Int}
    {cs rest : List Char} {n : Number}
    (h : run? (maybeExponent negative significand start) cs = some (n, rest)) :
    ignoredTail.run? cs = some ((), rest) := by
  unfold run? maybeExponent at h
  split at h
  · exact run?_ignoredExponent h
  · exact run?_ignoredExponent h
  · rename_i he hE
    rw [rest_of_run?_finish h]
    exact run?_ignoredTail_of_ne he hE

/-- A fraction has a digit, and behind its digits there may be an exponent. -/
theorem run?_ignoredTail_of_fraction {negative : Bool} {significand : Nat} {start : Int}
    {cs rest : List Char} {n : Number}
    (h : run? (fraction negative significand start) cs = some (n, rest)) :
    cs.head?.any isDigit ∧ ignoredTail.run? (cs.dropWhile isDigit) = some ((), rest) := by
  unfold run? fraction at h
  dsimp only at h
  split at h
  · split at h <;> cases h
  · rename_i hdigits
    refine ⟨?_, run?_ignoredTail h⟩
    cases cs with
    | nil => exact absurd rfl hdigits
    | cons c cs => cases hc : isDigit c <;> simp_all

/-- A number has digits, perhaps a point and more digits, and perhaps an exponent. -/
theorem exists_of_run?_number {negative : Bool} {cs rest : List Char} {n : Number}
    (h : run? (number negative) cs = some (n, rest)) :
    ∃ c after, cs = c :: after ∧ isDigit c ∧ ¬ (c = '0' ∧ after.head?.any isDigit) ∧
      ((∃ frac, cs.dropWhile isDigit = '.' :: frac ∧ frac.head?.any isDigit ∧
        ignoredTail.run? (frac.dropWhile isDigit) = some ((), rest)) ∨
      (∀ frac, cs.dropWhile isDigit ≠ '.' :: frac) ∧
        ignoredTail.run? (cs.dropWhile isDigit) = some ((), rest)) := by
  unfold run? number at h
  split at h
  · cases h
  rename_i c after
  refine ⟨c, after, rfl, ?_⟩
  split at h
  · cases h
  rename_i hc
  split at h
  · cases h
  rename_i hzero
  refine ⟨not_not.mp hc, hzero, ?_⟩
  dsimp only at h
  split at h
  · rename_i frac hpoint
    exact .inl ⟨frac, hpoint, run?_ignoredTail_of_fraction h⟩
  · rename_i hpoint
    refine .inr ⟨hpoint, ?_⟩
    split at h
    · split at h
      · rename_i hrest
        rw [hrest]
        exact run?_ignoredExponent h
      · rename_i hrest
        rw [hrest]
        exact run?_ignoredExponent h
      · rename_i he hE
        cases h
        exact run?_ignoredTail_of_ne he hE
    · exact run?_ignoredTail h

/-- A number that is read can be skipped. -/
theorem run?_ignoredNumber {negative : Bool} {cs rest : List Char} {n : Number}
    (h : run? (number negative) cs = some (n, rest)) : ignoredNumber.run? cs = some ((), rest) := by
  obtain ⟨c, after, rfl, hc, hzero, hrest⟩ := exists_of_run?_number h
  unfold run? ignoredNumber
  dsimp only
  rw [if_neg (not_not.mpr hc), if_neg hzero]
  rcases hrest with ⟨frac, hpoint, hdigit, htail⟩ | ⟨hpoint, htail⟩
  · simp only [hpoint]
    rw [if_pos hdigit]
    exact htail
  · generalize (c :: after).dropWhile isDigit = tail at hpoint htail ⊢
    split
    · exact absurd rfl (hpoint _)
    · exact htail
    · exact htail
    · rename_i he hE
      rw [run?_ignoredTail_of_ne he hE] at htail
      exact htail

theorem length_le_of_run?_ignoredExponent {cs rest : List Char}
    (h : ignoredExponent.run? cs = some ((), rest)) : rest.length ≤ cs.length := by
  have hdigits {c : Char} {after : List Char}
      (h : (if isDigit c then .ok ((), after.dropWhile isDigit)
        else refuse .badNumber 1 (c :: after) : Except Fault (Unit × List Char)).toOption
          = some ((), rest)) : rest.length ≤ after.length := by
    split at h
    · cases h
      exact List.length_dropWhile_le _ _
    · cases h
  unfold run? ignoredExponent at h
  dsimp only at h
  split at h
  · rename_i c after hsign
    have hrest := hdigits (hsign ▸ h)
    split at hsign <;> simp_all <;> omega
  · cases h

theorem length_le_of_run?_ignoredTail {cs rest : List Char}
    (h : ignoredTail.run? cs = some ((), rest)) : rest.length ≤ cs.length := by
  unfold run? ignoredTail at h
  split at h
  · exact Nat.le_succ_of_le (length_le_of_run?_ignoredExponent h)
  · exact Nat.le_succ_of_le (length_le_of_run?_ignoredExponent h)
  · cases h
    exact Nat.le_refl _

/-- A number takes at least its first digit. -/
theorem length_lt_of_run?_number {negative : Bool} {cs rest : List Char} {n : Number}
    (h : run? (number negative) cs = some (n, rest)) : rest.length < cs.length := by
  obtain ⟨c, after, rfl, hc, -, hrest⟩ := exists_of_run?_number h
  have hdigits : ((c :: after).dropWhile isDigit).length ≤ after.length := by
    rw [List.dropWhile_cons, if_pos hc]
    exact List.length_dropWhile_le _ _
  rw [List.length_cons]
  rcases hrest with ⟨frac, hpoint, -, htail⟩ | ⟨-, htail⟩
  · have htail := length_le_of_run?_ignoredTail htail
    have hfrac := List.length_dropWhile_le isDigit frac
    rw [hpoint, List.length_cons] at hdigits
    omega
  · have htail := length_le_of_run?_ignoredTail htail
    omega

/-! ## Values without parts -/

/-- How a text without space in front starts: with a value without parts, which ends where the rest
begins, or with an opening bracket, of which nothing is taken. -/
inductive Starts : List Char → Option Json → List Char → Prop where
  | null {rest : List Char} : Starts ('n' :: 'u' :: 'l' :: 'l' :: rest) (some .null) rest
  | yes {rest : List Char} : Starts ('t' :: 'r' :: 'u' :: 'e' :: rest) (some (.bool true)) rest
  | no {rest : List Char} :
    Starts ('f' :: 'a' :: 'l' :: 's' :: 'e' :: rest) (some (.bool false)) rest
  | str {text rest : List Char} {s : String} (h : string.run? text = some (s, rest)) :
    Starts ('"' :: text) (some (.str s)) rest
  | negative {text rest : List Char} {n : Number} (h : run? (number true) text = some (n, rest)) :
    Starts ('-' :: text) (some (.num n)) rest
  | positive {text rest : List Char} {n : Number} (h : run? (number false) text = some (n, rest)) :
    Starts text (some (.num n)) rest
  | arr {text : List Char} : Starts ('[' :: text) none ('[' :: text)
  | obj {text : List Char} : Starts ('\x7b' :: text) none ('\x7b' :: text)

section Scalar

variable {cs rest : List Char}

/-- A number without a minus starts with a digit. -/
theorem exists_digit_of_run?_number {n : Number} (h : run? (number false) cs = some (n, rest)) :
    ∃ c text, cs = c :: text ∧ isDigit c := by
  obtain ⟨c, text, rfl, hc, -⟩ := exists_of_run?_number h
  exact ⟨c, text, rfl, hc⟩

/-- A word behind its first character. -/
theorem run?_skip_word_eq_some_iff {α : Type} {word' : List Char} {value found : α} {c : Char} :
    run? (do skip; word word'; pure value) (c :: cs) = some (found, rest)
      ↔ cs = word' ++ rest ∧ value = found := by
  rw [run?_bind, run?_skip, Option.bind_some, run?_bind, Option.bind_eq_some_iff]
  constructor
  · rintro ⟨⟨⟨⟩, after⟩, hword, hread⟩
    cases hread
    exact ⟨run?_word_eq_some_iff.mp hword, rfl⟩
  · rintro ⟨hword, rfl⟩
    exact ⟨((), rest), run?_word_eq_some_iff.mpr hword, rfl⟩

/-- **A value without parts is read exactly if the text starts with it.** -/
theorem run?_scalar?_eq_some_iff {found : Option Json} :
    scalar?.run? cs = some (found, rest) ↔ Starts (cs.dropWhile isSpace) found rest := by
  unfold scalar?
  rw [run?_bind, run?_next?, Option.bind_some]
  generalize cs.dropWhile isSpace = text
  constructor
  · intro h
    cases text with
    | nil => cases h
    | cons c text =>
      dsimp only [List.head?_cons] at h
      split at h
      · cases h
      · cases ‹some c = _›
        obtain ⟨rfl, rfl⟩ := run?_skip_word_eq_some_iff.mp h
        exact .null
      · cases ‹some c = _›
        obtain ⟨rfl, rfl⟩ := run?_skip_word_eq_some_iff.mp h
        exact .yes
      · cases ‹some c = _›
        obtain ⟨rfl, rfl⟩ := run?_skip_word_eq_some_iff.mp h
        exact .no
      · cases ‹some c = _›
        rw [run?_bind, run?_skip, Option.bind_some, run?_map, Option.map_eq_some_iff] at h
        obtain ⟨⟨s, after⟩, hstring, hread⟩ := h
        cases hread
        exact .str hstring
      · cases ‹some c = _›
        rw [run?_bind, run?_skip, Option.bind_some, run?_map, Option.map_eq_some_iff] at h
        obtain ⟨⟨n, after⟩, hnumber, hread⟩ := h
        cases hread
        exact .negative hnumber
      · cases ‹some c = _›
        cases h
        exact .arr
      · cases ‹some c = _›
        cases h
        exact .obj
      · split at h
        · rw [run?_map, Option.map_eq_some_iff] at h
          obtain ⟨⟨n, after⟩, hnumber, hread⟩ := h
          cases hread
          exact .positive hnumber
        · cases h
  · intro h
    cases h with
    | null | yes | no | arr | obj => rfl
    | str h => simp [h]
    | negative h => simp [h]
    | positive h =>
      obtain ⟨c, text, rfl, hc⟩ := exists_digit_of_run?_number h
      dsimp only [List.head?_cons]
      -- a digit starts none of the other kinds of value
      split
      case h_9 =>
        cases ‹some c = _›
        rw [if_pos hc, run?_map, h]
        rfl
      all_goals cases ‹some c = _› <;> exact absurd hc (by decide)

theorem Starts.ne_arr {text : List Char} {value : Json} (h : Starts text (some value) rest)
    (items : List Json) : value ≠ .arr items := by
  cases h <;> exact nofun

theorem Starts.ne_obj {text : List Char} {value : Json} (h : Starts text (some value) rest)
    (members : List (String × Json)) : value ≠ .obj members := by
  cases h <;> exact nofun

/-- The first character of a value without parts tells null, strings and the rest apart. -/
theorem Starts.exists_head {text : List Char} {value : Json} (h : Starts text (some value) rest) :
    ∃ c after, text = c :: after ∧ c ≠ '[' ∧ c ≠ '\x7b' ∧ (c = 'n' ↔ value = .null) ∧
      (c = '"' ↔ ∃ s, value = .str s) := by
  cases h with
  | null | yes | no | str | negative => exact ⟨_, _, rfl, by simp⟩
  | positive h =>
    obtain ⟨c, after, rfl, hc⟩ := exists_digit_of_run?_number h
    have hne (d : Char) (hd : isDigit d = false) : c ≠ d := by
      rintro rfl
      rw [hc] at hd
      cases hd
    exact ⟨c, after, rfl, hne _ rfl, hne _ rfl, by simp [hne 'n' rfl], by simp [hne '"' rfl]⟩

/-- A value without parts is skipped in one step. -/
theorem Starts.ignoredStep {value : Json} (opened : List Bracket)
    (h : Starts (cs.dropWhile isSpace) (some value) rest) :
    run? (ignoredStep (.value opened)) cs = some (some (.afterValue opened), rest) := by
  unfold Scan.ignoredStep
  rw [run?_bind, run?_next?, Option.bind_some]
  generalize cs.dropWhile isSpace = text at h
  cases h with
  | null | yes | no => rfl
  | str h => simp [run?_ignoredString h]
  | negative h => simp [run?_ignoredNumber h]
  | positive h =>
    obtain ⟨c, text, rfl, hc⟩ := exists_digit_of_run?_number h
    dsimp only [List.head?_cons]
    split
    case h_9 =>
      cases ‹some c = _›
      rw [if_pos hc, run?_bind, run?_ignoredNumber h]
      rfl
    all_goals cases ‹some c = _› <;> exact absurd hc (by decide)

/-- A value without parts takes at least one character. -/
theorem Starts.length_lt {text : List Char} {value : Json} (h : Starts text (some value) rest) :
    rest.length < text.length := by
  cases h with
  | null | yes | no =>
    simp only [List.length_cons]
    omega
  | str h => exact Nat.lt_succ_of_lt (length_lt_of_run?_string h)
  | negative h => exact Nat.lt_succ_of_lt (length_lt_of_run?_number h)
  | positive h => exact length_lt_of_run?_number h

end Scalar

end Courier.Scan

import Courier.Proofs.Json.Nesting

/-!
# Skipping a value

A value that can be read as a tree can also be skipped, and skipping it ends at the same place
(`Scan.run?_ignored`). The scan that skips is a machine with a stack of open brackets and a bound
on the number of its steps. A way through it (`Scan.Skips`) takes at most two steps for a character:
only opening a bracket and seeing that something is in it take two steps over one character.
-/

namespace Courier.Scan

/-! ## Steps -/

/-- The step that a state is ahead of its text: a bracket that was opened has still to be looked
into. -/
def Skipping.ahead : Skipping → Nat
  | .afterOpening _ _ => 1
  | .value _ | .afterValue _ => 0

/-- A skipping scan comes from one state and text to another, in no more steps than the characters
in between allow. -/
def Skips (state : Skipping) (cs : List Char) (after : Skipping) (rest : List Char) : Prop :=
  ∃ steps, steps + 2 * rest.length + after.ahead ≤ 2 * cs.length + state.ahead ∧
    ∀ fuel, run? (ignoredFrom (steps + fuel) state) cs = run? (ignoredFrom fuel after) rest

theorem run?_ignoredFrom_succ (fuel : Nat) (state : Skipping) (cs : List Char) :
    run? (ignoredFrom (fuel + 1) state) cs
      = (run? (ignoredStep state) cs).bind fun read =>
          match read.1 with
          | none => some ((), read.2)
          | some state => run? (ignoredFrom fuel state) read.2 := by
  simp only [run?, ignoredFrom]
  rcases ignoredStep state cs with _ | ⟨_ | _, _⟩ <;> rfl

theorem Skips.of_step {state after : Skipping} {cs rest : List Char}
    (h : run? (ignoredStep state) cs = some (some after, rest))
    (hlength : 1 + 2 * rest.length + after.ahead ≤ 2 * cs.length + state.ahead) :
    Skips state cs after rest :=
  ⟨1, hlength, fun fuel => by rw [Nat.add_comm, run?_ignoredFrom_succ, h, Option.bind_some]⟩

theorem Skips.trans {first second third : Skipping} {cs mid rest : List Char}
    (h : Skips first cs second mid) (h' : Skips second mid third rest) :
    Skips first cs third rest := by
  obtain ⟨m, hm, hfirst⟩ := h
  obtain ⟨n, hn, hsecond⟩ := h'
  refine ⟨m + n, by omega, fun fuel => ?_⟩
  rw [Nat.add_assoc, hfirst, hsecond]

/-! ## Brackets -/

/-- The state inside a bracket: behind the opening bracket, or behind a part. -/
def Bracket.inside (bracket : Bracket) (opened : List Bracket) : Bool → Skipping
  | true => .afterOpening bracket opened
  | false => .afterValue (bracket :: opened)

/-- Whether a bracket was opened or a part of it has ended, the closing bracket ends its value. -/
theorem Bracket.skips_closing (bracket : Bracket) (opened : List Bracket) (first : Bool)
    {cs rest : List Char} (h : cs.dropWhile isSpace = bracket.closing :: rest) :
    Skips (bracket.inside opened first) cs (.afterValue opened) rest := by
  have hcs := List.length_dropWhile_le isSpace cs
  rw [h, List.length_cons] at hcs
  refine .of_step ?_ (by simp only [Skipping.ahead]; omega)
  cases first with
  | true =>
    rw [inside, ignoredStep, run?_bind, run?_next?, Option.bind_some, h]
    simp
  | false =>
    rw [inside, ignoredStep, run?_bind, run?_next?, Option.bind_some, h]
    cases bracket <;> rfl

theorem Bracket.skips_opening (bracket : Bracket) (opened : List Bracket) {cs inner : List Char}
    (h : cs.dropWhile isSpace = (match bracket with | .array => '[' | .object => '\x7b') :: inner) :
    Skips (.value opened) cs (bracket.inside opened true) inner := by
  have hcs := List.length_dropWhile_le isSpace cs
  rw [h, List.length_cons] at hcs
  refine .of_step ?_ (by simp only [inside, Skipping.ahead]; omega)
  rw [ignoredStep, run?_bind, run?_next?, Option.bind_some, h]
  cases bracket <;> rfl

theorem run?_tree_dropWhile (room : Nat) (cs : List Char) :
    (tree room).run? (cs.dropWhile isSpace) = (tree room).run? cs := by
  refine Option.ext fun read => ?_
  rw [run?_tree_eq_some_iff, run?_tree_eq_some_iff, dropWhile_isSpace_idem]

/-- In front of an item there is at most a comma to skip. -/
theorem skips_item {opened : List Bracket} {index : Nat} {cs start : List Char}
    (h : itemStart? index cs = some start) :
    ∃ mid, mid.dropWhile isSpace = start ∧
      Skips (Bracket.array.inside opened (index = 0)) cs (.value (.array :: opened)) mid := by
  have hcs := List.length_dropWhile_le isSpace cs
  rw [itemStart?] at h
  split at h
  · cases h
  rename_i c rest hrest
  split at h
  · cases h
  rename_i hclose
  by_cases hfirst : index = 0
  · subst hfirst
    cases h
    -- the first item stands right behind the bracket
    refine ⟨c :: rest, by rw [← hrest, dropWhile_isSpace_idem], .of_step ?_ ?_⟩
    · show run? (ignoredStep (.afterOpening .array opened)) cs = _
      rw [ignoredStep, run?_bind, run?_next?, Option.bind_some, hrest]
      simp [Bracket.closing, hclose, ignoredKey]
    · simp only [Bracket.inside, Skipping.ahead, decide_true, ← hrest]
      omega
  · rw [if_neg hfirst] at h
    split at h
    · rename_i hcomma
      subst hcomma
      split at h
      · cases h
      · rename_i d after hafter
        split at h
        · cases h
        cases h
        rw [hrest, List.length_cons] at hcs
        -- any other item stands behind a comma, which is taken with this step
        refine ⟨rest, hafter, .of_step ?_ ?_⟩
        · rw [decide_eq_false hfirst]
          show run? (ignoredStep (.afterValue (.array :: opened))) cs = _
          rw [ignoredStep, run?_bind, run?_next?, Option.bind_some, hrest]
          simp [ignoredKey]
        · rw [decide_eq_false hfirst]
          simp only [Bracket.inside, Skipping.ahead]
          omega
    · cases h

/-- A key and its colon are skipped, and a value comes next. -/
theorem run?_ignoredKey {opened : List Bracket} {cs start behind inner : List Char} {key : String}
    (hquote : cs.dropWhile isSpace = '"' :: start) (hkey : string.run? start = some (key, behind))
    (hcolon : behind.dropWhile isSpace = ':' :: inner) :
    run? (ignoredKey (.object :: opened)) cs = some (.value (.object :: opened), inner) := by
  simp [ignoredKey, hquote, run?_ignoredString hkey, run?_colon_eq_some_iff.mpr hcolon]

/-- In front of the value of a member there are a key and a colon to skip. -/
theorem skips_key {opened : List Bracket} {first : Bool} {cs start behind inner : List Char}
    {key : String} (hstart : keyStart? first cs = some start)
    (hkey : string.run? start = some (key, behind))
    (hcolon : behind.dropWhile isSpace = ':' :: inner) :
    Skips (Bracket.object.inside opened first) cs (.value (.object :: opened)) inner := by
  have hlength : inner.length < cs.length := by
    have hstart := length_lt_of_keyStart? hstart
    have hkey := length_lt_of_run?_string hkey
    have hbehind := List.length_dropWhile_le isSpace behind
    rw [hcolon, List.length_cons] at hbehind
    omega
  refine .of_step ?_ (by simp only [Skipping.ahead]; omega)
  -- the first key stands right behind the brace, any other one behind a comma
  rw [keyStart?] at hstart
  split at hstart
  · rename_i rest hrest
    split at hstart <;> cases hstart
    rename_i hfirst
    subst hfirst
    rw [Bracket.inside, ignoredStep, run?_bind, run?_next?, Option.bind_some, hrest]
    have hquote : ('"' :: start).dropWhile isSpace = '"' :: start := rfl
    simp [Bracket.closing, run?_ignoredKey hquote hkey hcolon]
  · rename_i rest hrest
    split at hstart
    · cases hstart
    rename_i hfirst
    rw [Bool.not_eq_true] at hfirst
    subst hfirst
    split at hstart <;> cases hstart
    rename_i hquote
    rw [Bracket.inside, ignoredStep, run?_bind, run?_next?, Option.bind_some, hrest]
    simp [run?_ignoredKey hquote hkey hcolon]
  · cases hstart

/-! ## Values -/

section Parts

variable {part : Scan Json} {opened : List Bracket} {cs rest : List Char}

/-- The items of an array are skipped, if each of them is. -/
theorem Items.skips {index : Nat} {items : List Json}
    (hpart : ∀ {cs mid rest value} (opened : List Bracket), part.run? mid = some (value, rest) →
      cs.dropWhile isSpace = mid → Skips (.value opened) cs (.afterValue opened) rest)
    (h : Items part index cs items rest) :
    Skips (Bracket.array.inside opened (index = 0)) cs (.afterValue opened) rest := by
  induction h with
  | nil hclose => exact Bracket.array.skips_closing opened _ hclose
  | cons hstart hread _ ih =>
    obtain ⟨mid, hmid, hskips⟩ := skips_item hstart
    rw [decide_eq_false (Nat.succ_ne_zero _)] at ih
    exact hskips.trans ((hpart _ hread hmid).trans ih)

/-- The members of an object are skipped, if each value is. -/
theorem Members.skips {first : Bool} {members : List (String × Json)}
    (hpart : ∀ {cs rest value} (opened : List Bracket), part.run? cs = some (value, rest) →
      Skips (.value opened) cs (.afterValue opened) rest)
    (h : Members part first cs members rest) :
    Skips (Bracket.object.inside opened first) cs (.afterValue opened) rest := by
  induction h with
  | nil hclose => exact Bracket.object.skips_closing opened _ hclose
  | cons hstart hkey hcolon hread _ ih =>
    exact (skips_key hstart hkey hcolon).trans ((hpart _ hread).trans ih)

end Parts

/-- What is read as a tree is skipped, whatever brackets are open. -/
theorem skips_of_run?_tree {room : Nat} {cs rest : List Char} {value : Json}
    (h : (tree room).run? cs = some (value, rest)) (opened : List Bracket) :
    Skips (.value opened) cs (.afterValue opened) rest := by
  induction room generalizing cs rest value opened with
  | zero =>
    have hlength := length_lt_of_run?_tree h
    cases written_of_run?_tree h with
    | scalar h => exact .of_step (h.ignoredStep opened) (by simp only [Skipping.ahead]; omega)
  | succ room ih =>
    have hlength := length_lt_of_run?_tree h
    generalize htext : cs.dropWhile isSpace = text
    cases htext ▸ written_of_run?_tree h with
    | scalar h =>
      exact .of_step ((htext ▸ h).ignoredStep opened) (by simp only [Skipping.ahead]; omega)
    | arr h =>
      refine (Bracket.array.skips_opening opened htext).trans (h.skips fun opened hread hmid => ?_)
      rw [← hmid, run?_tree_dropWhile] at hread
      exact ih hread opened
    | obj h =>
      exact (Bracket.object.skips_opening opened htext).trans
        (h.skips fun opened hread => ih hread opened)

/-- **A value that can be read can be skipped, up to the same place.** -/
theorem run?_ignored {room : Nat} {cs rest : List Char} {value : Json}
    (h : (tree room).run? cs = some (value, rest)) : ignored.run? cs = some ((), rest) := by
  obtain ⟨steps, hsteps, hrun⟩ := skips_of_run?_tree h []
  simp only [Skipping.ahead, Nat.add_zero] at hsteps
  obtain ⟨more, hmore⟩ := Nat.exists_eq_add_of_le (show steps + 1 ≤ 2 * cs.length + 2 by omega)
  show run? (ignoredFrom (2 * cs.length + 2) (.value [])) cs = _
  rw [hmore, Nat.add_assoc, hrun, Nat.add_comm 1, run?_ignoredFrom_succ]
  rfl

end Courier.Scan

import Courier.Json.Reader

/-!
# Scans that succeed

What a scan reads and what it leaves, without the report of a failure: `Scan.run?`. In this form a
scan is a plain reader of a list of characters, and the wrappers that only add to a report, such as
`Scan.within`, disappear.
-/

namespace Courier

/-! ## Results without reports -/

section Results

variable {ε α β : Type}

@[simp] theorem toOption_ok (a : α) : (Except.ok a : Except ε α).toOption = some a := rfl

@[simp] theorem toOption_error (e : ε) : (Except.error e : Except ε α).toOption = none := rfl

theorem toOption_eq_some_iff {x : Except ε α} {a : α} : x.toOption = some a ↔ x = .ok a := by
  cases x <;> simp

@[simp] theorem toOption_pure (a : α) : (pure a : Except ε α).toOption = some a := rfl

@[simp] theorem toOption_bind (x : Except ε α) (f : α → Except ε β) :
    (x >>= f).toOption = x.toOption.bind fun a => (f a).toOption := by
  cases x <;> rfl

@[simp] theorem toOption_map (f : α → β) (x : Except ε α) :
    (x.map f).toOption = x.toOption.map f := by
  cases x <;> rfl

@[simp] theorem toOption_mapError {δ : Type} (f : ε → δ) (x : Except ε α) :
    (x.mapError f).toOption = x.toOption := by
  cases x <;> rfl

/-- Changing the report of a failure does not change a success. -/
theorem mapError_eq_ok_iff {δ : Type} {f : ε → δ} {x : Except ε α} {a : α} :
    x.mapError f = .ok a ↔ x = .ok a := by
  rw [← toOption_eq_some_iff, toOption_mapError, toOption_eq_some_iff]

theorem map_eq_ok_iff {f : α → β} {x : Except ε α} {b : β} :
    x.map f = .ok b ↔ ∃ a, x = .ok a ∧ f a = b := by
  rw [← toOption_eq_some_iff, toOption_map, Option.map_eq_some_iff]
  simp only [toOption_eq_some_iff]

theorem bind_eq_ok_iff {f : α → Except ε β} {x : Except ε α} {b : β} :
    x >>= f = .ok b ↔ ∃ a, x = .ok a ∧ f a = .ok b := by
  rw [← toOption_eq_some_iff, toOption_bind, Option.bind_eq_some_iff]
  simp only [toOption_eq_some_iff]

theorem toOption_mapM (f : α → Except ε β) (items : List α) :
    (items.mapM f).toOption = items.mapM fun a => (f a).toOption := by
  induction items with
  | nil => rfl
  | cons a rest ih =>
    rw [List.mapM_cons, List.mapM_cons, toOption_bind]
    simp only [toOption_bind, ih, toOption_pure]
    rfl

theorem toOption_foldlM (f : β → α → Except ε β) (items : List α) (state : β) :
    (items.foldlM f state).toOption = items.foldlM (fun state a => (f state a).toOption) state := by
  induction items generalizing state with
  | nil => rfl
  | cons a items ih =>
    rw [List.foldlM_cons, List.foldlM_cons, toOption_bind]
    simp only [ih]
    rfl

end Results

namespace Scan

variable {α β : Type}

/-- What a scan reads from a text and what it leaves of it, if it succeeds. -/
def run? (scan : Scan α) (cs : List Char) : Option (α × List Char) :=
  (scan cs).toOption

/-! ## Sequences -/

@[simp] theorem run?_pure (a : α) (cs : List Char) : run? (pure a) cs = some (a, cs) := rfl

@[simp] theorem run?_bind (scan : Scan α) (next : α → Scan β) (cs : List Char) :
    run? (scan >>= next) cs = (scan.run? cs).bind fun read => (next read.1).run? read.2 :=
  toOption_bind (scan cs) _

@[simp] theorem run?_map (f : α → β) (scan : Scan α) (cs : List Char) :
    run? (f <$> scan) cs = (scan.run? cs).map fun read => (f read.1, read.2) := by
  show (do let read ← scan cs; pure (f read.1, read.2)).toOption = _
  rw [toOption_bind]
  exact Option.map_eq_bind.symm

/-! ## Failures -/

@[simp] theorem run?_refuse (fault : TextFault) (bytes : Nat) (cs : List Char) :
    run? (refuse fault bytes : Scan α) cs = none := rfl

@[simp] theorem run?_within (step : TrailStep) (scan : Scan α) (cs : List Char) :
    run? (within step scan) cs = scan.run? cs := by
  rw [run?, run?, within]
  cases scan cs <;> rfl

@[simp] theorem run?_settled (scan : Scan α) (cs : List Char) :
    run? (settled scan) cs = scan.run? cs := by
  rw [run?, run?, settled]
  cases scan cs <;> rfl

@[simp] theorem run?_closedBy (close : Scan Unit) (inside : Scan α) (cs : List Char) :
    run? (closedBy close inside) cs
      = (inside.run? cs).bind fun read => (close.run? read.2).map fun closed =>
          (read.1, closed.2) := by
  rw [run?, run?, closedBy]
  cases inside cs with
  | error fault => rfl
  | ok read => exact toOption_map ..

/-! ## Characters -/

@[simp] theorem run?_next? (cs : List Char) :
    run? next? cs = some ((cs.dropWhile isSpace).head?, cs.dropWhile isSpace) := rfl

@[simp] theorem run?_skip (cs : List Char) : run? skip cs = some ((), cs.drop 1) := rfl

@[simp] theorem run?_word_nil (cs : List Char) : run? (word []) cs = some ((), cs) := rfl

theorem run?_word_eq_some_iff {text cs rest : List Char} :
    run? (word text) cs = some ((), rest) ↔ cs = text ++ rest := by
  induction text generalizing cs with
  | nil => simp
  | cons c text ih =>
    cases cs with
    | nil => simp [word, run?, refuse]
    | cons d cs =>
      by_cases h : c = d
      · subst h
        have hword : run? (word (c :: text)) (c :: cs) = run? (word text) cs := by
          simp [word, run?]
        rw [hword, ih, List.cons_append, List.cons_inj_right]
      · simp [word, run?, refuse, h, Ne.symm h]

/-! ## Documents -/

theorem run?_finished (cs : List Char) :
    finished.run? cs = if cs.dropWhile isSpace = [] then some ((), []) else none := by
  rw [finished, run?_bind, run?_next?, Option.bind_some]
  cases cs.dropWhile isSpace <;> rfl

/-- A document is what its scan reads, if only white space is left. -/
theorem toOption_document (scan : Scan α) (text : String) :
    (document scan text).toOption
      = (scan.run? text.toList).bind fun read =>
          if read.2.dropWhile isSpace = [] then some read.1 else none := by
  have hdocument : (document scan text).toOption
      = (run? (do let a ← scan; finished; pure a) text.toList).map Prod.fst := by
    rw [document, run?]
    split <;> rename_i h <;> rw [h] <;> rfl
  rw [hdocument, run?_bind, Option.map_bind]
  congr 1
  funext read
  rw [Function.comp_apply, run?_bind, run?_finished]
  split <;> rfl

end Scan

end Courier

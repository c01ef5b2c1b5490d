import Courier.Proofs.Template.Occurrence

/-!
# Where placeholders are found

The segments before a placeholder say at which character of the text it was found, so a scan finds
spans and not only names (`Placeholder.spans`). `Placeholder.Exact` says what a search from left to
right has to find, without saying how it goes on: the spans are disjoint and ascend, each one reads
a placeholder, and wherever a placeholder begins in the text, it begins in one of the spans.

These conditions leave no choice (`Placeholder.scan_exact`). The first place at or behind a position
where a placeholder begins has to lie in a span, no span begins before it, and where a span begins
its name is known. So the conditions from a position on are those from the next position on, or one
span and the conditions from its end on, which is how the text is split.
-/

namespace Courier

/-- A placeholder and the number of characters in front of it. -/
structure Span where
  start : Nat
  placeholder : Placeholder
  deriving DecidableEq, Repr

/-- The number of the character behind a span. -/
def Span.stop (s : Span) : Nat :=
  s.start + s.placeholder.raw.length

/-- A placeholder has characters, so its span is not empty. -/
theorem Span.start_lt_stop (s : Span) : s.start < s.stop := by
  have hlength : 0 < s.placeholder.raw.length := by
    rw [← String.length_toList, Placeholder.toList_raw]
    simp [Segment.render]
  rw [Span.stop]
  omega

/-- The placeholders among segments, where the number says how many characters are in front of the
segments. -/
def Segment.spansFrom : Nat → List Segment → List Span
  | _, [] => []
  | n, .plain c :: rest => spansFrom (n + (render (.plain c)).length) rest
  | n, .token name :: rest =>
    ⟨n, ⟨String.ofList name⟩⟩ :: spansFrom (n + (render (.token name)).length) rest

namespace Placeholder

/-- All placeholders of a text with their places, in order. -/
def spans (text : String) : List Span :=
  Segment.spansFrom 0 (Segment.split text.toList)

/-- Whether a placeholder begins behind a number of characters of a text. -/
def StandsAt (p : Placeholder) (text : String) (start : Nat) : Prop :=
  p.name ≠ "" ∧ '\x7d' ∉ p.name.toList ∧
    ∃ before after, text = before ++ p.raw ++ after ∧ before.length = start

/-- What a search for placeholders has to find in a text. -/
structure Exact (text : String) (found : List Span) : Prop where
  stands : ∀ s ∈ found, s.placeholder.StandsAt text s.start
  ordered : found.Pairwise fun s t => s.stop ≤ t.start
  covers : ∀ p start, StandsAt p text start → ∃ s ∈ found, s.start ≤ start ∧ start < s.stop

/-! ## Places in a list of characters -/

theorem standsAt_iff {p : Placeholder} {text : String} {start : Nat} :
    p.StandsAt text start ↔ Segment.tokenAt? (text.toList.drop start) = some p.name.toList := by
  rw [Segment.tokenAt?_eq_some_iff]
  constructor
  · rintro ⟨hne, hfree, before, after, rfl, rfl⟩
    refine ⟨by simpa using hne, hfree, after.toList, ?_⟩
    rw [String.toList_append, String.toList_append, List.append_assoc, ← String.length_toList,
      List.drop_left, toList_raw]
  · rintro ⟨hne, hfree, rest, hrest⟩
    refine ⟨by simpa using hne, hfree, .ofList (text.toList.take start), .ofList rest, ?_, ?_⟩
    · apply String.toList_inj.mp
      rw [String.toList_append, String.toList_append, toList_raw, String.toList_ofList,
        String.toList_ofList, List.append_assoc, ← hrest, List.take_append_drop]
    · -- there is something behind the place, so the text is long enough
      have hlt : start < text.toList.length := by
        by_contra hle
        rw [List.drop_eq_nil_of_le (Nat.le_of_not_lt hle)] at hrest
        simp [Segment.render] at hrest
      simp only [String.length_ofList, List.length_take]
      omega

end Placeholder

namespace Segment

variable {cs : List Char} {n : Nat} {found : List Span}

theorem splitAfter_eq (pending : Nat) (cs : List Char) :
    splitAfter pending cs = split (cs.drop pending) := by
  induction cs generalizing pending with
  | nil =>
    rw [List.drop_nil, split, splitAfter, splitAfter]
  | cons c rest ih =>
    cases pending with
    | zero => rfl
    | succ pending => exact ih pending

theorem map_placeholder_spansFrom (n : Nat) (segments : List Segment) :
    (spansFrom n segments).map Span.placeholder = segments.filterMap placeholder? := by
  induction segments generalizing n with
  | nil => rfl
  | cons segment rest ih =>
    cases segment with
    | plain c => exact ih _
    | token name => exact congrArg _ (ih _)

/-- What a search that begins behind a number of characters has to find. -/
structure ExactFrom (cs : List Char) (n : Nat) (found : List Span) : Prop where
  stands : ∀ s ∈ found, n ≤ s.start ∧
    tokenAt? (cs.drop s.start) = some s.placeholder.name.toList
  ordered : found.Pairwise fun s t => s.stop ≤ t.start
  covers : ∀ start, n ≤ start → (tokenAt? (cs.drop start)).isSome →
    ∃ s ∈ found, s.start ≤ start ∧ start < s.stop

/-- Where no placeholder begins the search goes on with the next character. -/
theorem exactFrom_of_none (h : tokenAt? (cs.drop n) = none) :
    ExactFrom cs n found ↔ ExactFrom cs (n + 1) found := by
  constructor
  · intro hfound
    refine ⟨fun s hs => ?_, hfound.ordered, fun start hstart => hfound.covers start (by omega)⟩
    obtain ⟨hle, htoken⟩ := hfound.stands s hs
    have hne : s.start ≠ n := by
      intro heq
      rw [heq, h] at htoken
      cases htoken
    exact ⟨by omega, htoken⟩
  · intro hfound
    refine ⟨fun s hs => ?_, hfound.ordered, fun start hstart htoken => ?_⟩
    · obtain ⟨hle, htoken⟩ := hfound.stands s hs
      exact ⟨by omega, htoken⟩
    · have hne : start ≠ n := by
        intro heq
        rw [heq, h] at htoken
        cases htoken
      exact hfound.covers start (by omega) htoken

/-- Where a placeholder begins there is its span, and the search goes on behind it. -/
theorem exactFrom_of_some {name : List Char} (h : tokenAt? (cs.drop n) = some name) :
    ExactFrom cs n found ↔
      ∃ rest, found = ⟨n, ⟨String.ofList name⟩⟩ :: rest ∧
        ExactFrom cs (n + (render (.token name)).length) rest := by
  have hstop : (Span.mk n ⟨String.ofList name⟩).stop = n + (render (.token name)).length := by
    rw [Span.stop, ← String.length_toList, Placeholder.toList_raw, String.toList_ofList]
  constructor
  · intro hfound
    obtain ⟨s, hs, hle, hlt⟩ := hfound.covers n (Nat.le_refl n) (by rw [h]; rfl)
    obtain ⟨hstart, htoken⟩ := hfound.stands s hs
    obtain rfl : s = ⟨n, ⟨String.ofList name⟩⟩ := by
      obtain ⟨start, ⟨text⟩⟩ := s
      obtain rfl : start = n := Nat.le_antisymm hle hstart
      rw [h, Option.some.injEq] at htoken
      rw [htoken, String.ofList_toList]
    cases found with
    | nil => cases hs
    | cons first rest =>
      obtain ⟨hfirst, hrest⟩ := List.pairwise_cons.mp hfound.ordered
      -- a span in front of this one would end where the search begins, or before
      obtain rfl : first = ⟨n, ⟨String.ofList name⟩⟩ := by
        rcases List.mem_cons.mp hs with heq | hs
        · exact heq.symm
        · have hbegin := (hfound.stands first List.mem_cons_self).1
          have hend : first.stop ≤ n := hfirst _ hs
          have hsize := first.start_lt_stop
          omega
      refine ⟨rest, rfl, fun t ht => ⟨?_, (hfound.stands t (List.mem_cons_of_mem _ ht)).2⟩, hrest,
        fun start hstart htoken => ?_⟩
      · rw [← hstop]
        exact hfirst t ht
      · obtain ⟨t, ht, hbegin, hend⟩ := hfound.covers start (by omega) htoken
        rcases List.mem_cons.mp ht with rfl | ht
        · omega
        · exact ⟨t, ht, hbegin, hend⟩
  · rintro ⟨rest, rfl, hrest⟩
    refine ⟨List.forall_mem_cons.mpr ⟨⟨Nat.le_refl n, ?_⟩, fun t ht => ?_⟩,
      List.pairwise_cons.mpr ⟨fun t ht => ?_, hrest.ordered⟩, fun start hstart htoken => ?_⟩
    · rw [h, String.toList_ofList]
    · obtain ⟨hle, htoken⟩ := hrest.stands t ht
      exact ⟨by omega, htoken⟩
    · rw [hstop]
      exact (hrest.stands t ht).1
    · by_cases hinside : start < n + (render (.token name)).length
      · exact ⟨_, List.mem_cons_self, hstart, hstop ▸ hinside⟩
      · obtain ⟨t, ht, hbegin, hend⟩ := hrest.covers start (by omega) htoken
        exact ⟨t, List.mem_cons_of_mem _ ht, hbegin, hend⟩

/-- A character outside every placeholder moves the spans behind it by one. -/
theorem spansFrom_drop_of_none (h : tokenAt? (cs.drop n) = none) (hn : n < cs.length) :
    spansFrom n (split (cs.drop n)) = spansFrom (n + 1) (split (cs.drop (n + 1))) := by
  rw [List.drop_eq_getElem_cons hn] at h ⊢
  rw [split, splitAfter, h]
  rfl

/-- A placeholder is the first span, and the others are those behind it. -/
theorem spansFrom_drop_of_some {name : List Char} (h : tokenAt? (cs.drop n) = some name)
    (hn : n < cs.length) :
    spansFrom n (split (cs.drop n))
      = ⟨n, ⟨String.ofList name⟩⟩ :: spansFrom (n + (render (.token name)).length)
          (split (cs.drop (n + (render (.token name)).length))) := by
  have hlength : n + 1 + (name.length + 3) = n + (render (.token name)).length := by
    simp [render]
    omega
  rw [List.drop_eq_getElem_cons hn] at h ⊢
  rw [split, splitAfter, h]
  dsimp only
  rw [splitAfter_eq, List.drop_drop, hlength, spansFrom]

/-- The spans of the segments are the only ones that a search can find. -/
theorem exactFrom_iff : ExactFrom cs n found ↔ found = spansFrom n (split (cs.drop n)) := by
  induction hlength : cs.length - n using Nat.strongRecOn generalizing n found with
  | ind m ih =>
    subst hlength
    by_cases hn : n < cs.length
    · cases htoken : tokenAt? (cs.drop n) with
      | none =>
        rw [exactFrom_of_none htoken, ih _ (by omega) rfl, spansFrom_drop_of_none htoken hn]
      | some name =>
        have hshorter : cs.length - (n + (render (.token name)).length) < cs.length - n := by
          simp only [render, List.length_append, List.length_cons, List.length_nil]
          omega
        rw [exactFrom_of_some htoken, spansFrom_drop_of_some htoken hn]
        simp only [ih _ hshorter rfl, exists_eq_right]
    · -- behind the end of the text there are no placeholders
      have hnone (start : Nat) (hstart : n ≤ start) : tokenAt? (cs.drop start) = none := by
        rw [List.drop_eq_nil_of_le (by omega)]
        rfl
      rw [List.drop_eq_nil_of_le (by omega), split, splitAfter, spansFrom]
      constructor
      · intro hfound
        rw [List.eq_nil_iff_forall_not_mem]
        intro s hs
        obtain ⟨hle, htoken⟩ := hfound.stands s hs
        rw [hnone _ hle] at htoken
        cases htoken
      · rintro rfl
        refine ⟨List.forall_mem_nil _, .nil, fun start hstart htoken => ?_⟩
        rw [hnone start hstart] at htoken
        cases htoken

end Segment

namespace Placeholder

theorem exact_iff_exactFrom {text : String} {found : List Span} :
    Exact text found ↔ Segment.ExactFrom text.toList 0 found := by
  constructor
  · rintro ⟨hstands, hordered, hcovers⟩
    refine ⟨fun s hs => ⟨Nat.zero_le _, standsAt_iff.mp (hstands s hs)⟩, hordered,
      fun start _ htoken => ?_⟩
    obtain ⟨name, hname⟩ := Option.isSome_iff_exists.mp htoken
    refine hcovers ⟨String.ofList name⟩ start (standsAt_iff.mpr ?_)
    rw [hname, String.toList_ofList]
  · rintro ⟨hstands, hordered, hcovers⟩
    refine ⟨fun s hs => standsAt_iff.mpr (hstands s hs).2, hordered, fun p start hp => ?_⟩
    exact hcovers start (Nat.zero_le _) (by rw [standsAt_iff.mp hp]; rfl)

/-- **A scan finds exactly the placeholders that a search from left to right has to find.** There is
one list of spans that satisfies the conditions, and what a scan reports are the placeholders of
these spans. -/
theorem scan_exact (text : String) :
    (∀ found, Exact text found ↔ found = spans text) ∧
      scan text = (spans text).map Span.placeholder := by
  constructor
  · intro found
    rw [exact_iff_exactFrom, Segment.exactFrom_iff]
    rfl
  · exact (Segment.map_placeholder_spansFrom 0 _).symm

/-- An opening brace too many in front belongs to the name, one too few swallows the next name. -/
example : spans "\x7b\x7b\x7ba\x7d\x7d \x7b\x7bb \x7b\x7bc\x7d\x7d\x7d"
    = [⟨0, ⟨"\x7ba"⟩⟩, ⟨7, ⟨"b \x7b\x7bc"⟩⟩] := by decide +kernel

end Placeholder

end Courier

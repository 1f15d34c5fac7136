import Mathlib.Data.List.Basic
import Mathlib.Data.List.Infix
import Mathlib.Tactic.ByContra

/-!
# First occurrence of a pattern in a list

`find` is the substring search every text protocol is built on: the smallest
offset at which one list occurs inside another.  The lemmas characterise the
result by the occurrence itself, say how a prefix that contains no occurrence
is skipped, and specialise the search to a single element.

Nothing here fixes the element type: any type with decidable equality will do.
-/

namespace MinimalSip.Lib.Search

variable {α : Type*} [DecidableEq α]

/-- Offset of the first occurrence of `pattern`. -/
def find (pattern : List α) : List α → Option Nat
  | [] => if pattern = [] then some 0 else none
  | head :: tail =>
      if pattern.isPrefixOf (head :: tail) then some 0
      else (find pattern tail).map (· + 1)

/-- Offset of the first occurrence of `pattern` at or after `start`. -/
def findFrom (pattern text : List α) (start : Nat) : Option Nat :=
  if start ≤ text.length then
    (find pattern (text.drop start)).map (· + start)
  else none

theorem find_of_starts
    {pattern text : List α}
    (occurs : pattern <+: text) :
    find pattern text = some 0 := by
  cases text with
  | nil => simp [find, List.prefix_nil.mp occurs]
  | cons head tail =>
      simp [find, List.isPrefixOf_iff_prefix.mpr occurs]

theorem find_cons_of_not_starts
    {pattern tail : List α} {head : α}
    (absent : ¬ pattern <+: head :: tail) :
    find pattern (head :: tail) = (find pattern tail).map (· + 1) := by
  have notPrefix : pattern.isPrefixOf (head :: tail) = false := by
    simpa [← List.isPrefixOf_iff_prefix] using absent
  simp [find, notPrefix]

/-- A stretch of text in which no occurrence starts is skipped. -/
theorem find_append_of_no_start
    {pattern : List α} (skipped rest : List α)
    (noStart : ∀ offset < skipped.length,
      ¬ pattern <+: (skipped ++ rest).drop offset) :
    find pattern (skipped ++ rest) =
      (find pattern rest).map (· + skipped.length) := by
  induction skipped with
  | nil => simp
  | cons head tail ih =>
      have atHead : ¬ pattern <+: head :: (tail ++ rest) := by
        simpa using noStart 0 (by simp)
      have atTail : ∀ offset < tail.length,
          ¬ pattern <+: (tail ++ rest).drop offset := by
        intro offset bound
        simpa using noStart (offset + 1) (by simpa using bound)
      rw [List.cons_append, find_cons_of_not_starts atHead, ih atTail,
        Option.map_map]
      rfl

/-- The result of a search is an occurrence, and no earlier one exists. -/
theorem find_spec
    {pattern text : List α} {offset : Nat}
    (found : find pattern text = some offset) :
    offset ≤ text.length ∧ pattern <+: text.drop offset ∧
      ∀ earlier < offset, ¬ pattern <+: text.drop earlier := by
  induction text generalizing offset with
  | nil =>
      by_cases empty : pattern = []
      · simp only [find, empty, if_pos, Option.some.injEq] at found
        subst offset
        simp [empty]
      · simp [find, empty] at found
  | cons head tail ih =>
      by_cases occurs : pattern <+: head :: tail
      · rw [find_of_starts occurs, Option.some.injEq] at found
        subst offset
        exact ⟨Nat.zero_le _, by simpa using occurs, by simp⟩
      · rw [find_cons_of_not_starts occurs, Option.map_eq_some_iff] at found
        obtain ⟨inner, innerFound, rfl⟩ := found
        obtain ⟨bound, atOffset, minimal⟩ := ih innerFound
        refine ⟨by simpa using bound, by simpa using atOffset, ?_⟩
        intro earlier below
        cases earlier with
        | zero => simpa using occurs
        | succ previous =>
            simpa using minimal previous (by omega)

/-- A found occurrence lies inside the text, pattern included. -/
theorem find_add_length_le
    {pattern text : List α} {offset : Nat}
    (found : find pattern text = some offset) :
    offset + pattern.length ≤ text.length := by
  obtain ⟨bound, occurs, -⟩ := find_spec found
  have fits := occurs.length_le
  rw [List.length_drop] at fits
  omega

/-- The text splits at the occurrence that the search reports. -/
theorem find_split
    {pattern text : List α} {offset : Nat}
    (found : find pattern text = some offset) :
    text = text.take offset ++ pattern ++
      text.drop (offset + pattern.length) := by
  obtain ⟨-, occurs, -⟩ := find_spec found
  obtain ⟨rest, equal⟩ := occurs
  have restEqual : rest = text.drop (offset + pattern.length) := by
    rw [← List.drop_drop, ← equal, List.drop_left]
  rw [List.append_assoc, ← restEqual, equal, List.take_append_drop]

theorem find_isSome_iff
    {pattern text : List α} :
    (find pattern text).isSome ↔ pattern <:+: text := by
  constructor
  · intro present
    obtain ⟨offset, found⟩ := Option.isSome_iff_exists.mp present
    exact ⟨text.take offset, text.drop (offset + pattern.length),
      (find_split found).symm⟩
  · rintro ⟨before, after, rfl⟩
    induction before with
    | nil =>
        rw [List.nil_append, find_of_starts (List.prefix_append _ _)]
        rfl
    | cons head tail ih =>
        by_cases occurs : pattern <+: head :: (tail ++ pattern ++ after)
        · simp only [List.cons_append]
          rw [find_of_starts occurs]
          rfl
        · simp only [List.cons_append]
          rw [find_cons_of_not_starts occurs, Option.isSome_map]
          exact ih

theorem find_eq_none_iff
    {pattern text : List α} :
    find pattern text = none ↔ ¬ pattern <:+: text := by
  rw [← find_isSome_iff, Bool.not_eq_true, Option.isSome_eq_false_iff,
    Option.isNone_iff_eq_none]

omit [DecidableEq α] in
/-- A stretch of text without the pattern's head starts no occurrence. -/
theorem not_starts_of_not_mem
    {head : α} {pattern skipped : List α}
    (absent : head ∉ skipped) (rest : List α)
    {offset : Nat} (inside : offset < skipped.length) :
    ¬ head :: pattern <+: (skipped ++ rest).drop offset := by
  intro occurs
  rw [List.drop_append_of_le_length inside.le,
    List.drop_eq_getElem_cons inside, List.cons_append,
    List.cons_prefix_cons] at occurs
  exact absent (occurs.1 ▸ List.getElem_mem inside)

theorem find_append_of_not_mem
    {head : α} {pattern skipped : List α}
    (absent : head ∉ skipped) (rest : List α) :
    find (head :: pattern) (skipped ++ rest) =
      (find (head :: pattern) rest).map (· + skipped.length) :=
  find_append_of_no_start skipped rest
    (fun _ inside => not_starts_of_not_mem absent rest inside)

/-! ## Occurrences beside a separator -/

omit [DecidableEq α] in
/-- An occurrence does not reach over an element that it does not contain. -/
theorem prefix_append_cons_iff
    {pattern before after : List α} {separator : α}
    (absent : separator ∉ pattern) :
    pattern <+: before ++ separator :: after ↔ pattern <+: before := by
  constructor
  · intro starts
    rcases List.prefix_or_prefix_of_prefix starts
        (List.prefix_append before _) with inside | ⟨rest, rfl⟩
    · exact inside
    · rw [List.prefix_append_right_inj] at starts
      cases rest with
      | nil => exact (List.append_nil before).symm ▸ List.prefix_rfl
      | cons head tail =>
          obtain ⟨rfl, -⟩ := List.cons_prefix_cons.mp starts
          simp at absent
  · intro inside
    exact inside.trans (List.prefix_append before _)

omit [DecidableEq α] in
theorem infix_cons_iff_of_ne
    {pattern after : List α} {first : α}
    (different : pattern.head? ≠ some first) :
    pattern <:+: first :: after ↔ pattern <:+: after := by
  rw [List.infix_cons_iff, or_iff_right_of_imp]
  intro starts
  cases pattern with
  | nil => exact List.nil_infix
  | cons head tail =>
      obtain ⟨rfl, -⟩ := List.cons_prefix_cons.mp starts
      simp at different

omit [DecidableEq α] in
/-- What occurs in two texts with a separator occurs in one of them. -/
theorem infix_append_cons_iff
    {pattern before after : List α} {separator : α}
    (absent : separator ∉ pattern) :
    pattern <:+: before ++ separator :: after ↔
      pattern <:+: before ∨ pattern <:+: after := by
  induction before with
  | nil =>
      have starts : pattern <+: [] ++ separator :: after ↔ pattern <+: [] :=
        prefix_append_cons_iff absent
      rw [List.nil_append] at starts ⊢
      rw [List.infix_cons_iff, starts, List.prefix_nil, List.infix_nil]
  | cons head tail ih =>
      rw [List.cons_append, List.infix_cons_iff, List.infix_cons_iff, ih,
        ← List.cons_append, prefix_append_cons_iff absent, or_assoc]

/--
The search in two texts with a separator: what the first text has comes
first, and no occurrence reaches over the separator.
-/
theorem find_append_cons
    {pattern : List α} {separator : α}
    (absent : separator ∉ pattern) (before after : List α) :
    find pattern (before ++ separator :: after) =
      (find pattern before).or
        ((find pattern after).map (· + (before.length + 1))) := by
  induction before with
  | nil =>
      cases pattern with
      | nil => rfl
      | cons first others =>
          have notStarts : ¬ first :: others <+: separator :: after := by
            intro starts
            obtain ⟨rfl, -⟩ := List.cons_prefix_cons.mp starts
            simp at absent
          rw [List.nil_append, find_cons_of_not_starts notStarts]
          simp [find]
  | cons head tail ih =>
      by_cases starts : pattern <+: head :: tail
      · have whole : pattern <+: head :: tail ++ separator :: after :=
          (prefix_append_cons_iff absent).mpr starts
        rw [find_of_starts starts, find_of_starts whole, Option.some_or]
      · have later : ¬ pattern <+: head :: (tail ++ separator :: after) :=
          fun whole => starts ((prefix_append_cons_iff absent).mp whole)
        rw [List.cons_append, find_cons_of_not_starts later,
          find_cons_of_not_starts starts, ih]
        cases find pattern tail with
        | some position => rfl
        | none => cases find pattern after <;> rfl

/-! ## Searching for one element -/

omit [DecidableEq α] in
theorem singleton_prefix_cons
    {element head : α} {tail : List α} :
    [element] <+: head :: tail ↔ element = head := by
  simp [List.cons_prefix_cons]

/-- The search for one element stops at its first appearance. -/
theorem find_singleton_append
    {element : α} {before : List α}
    (absent : element ∉ before) (after : List α) :
    find [element] (before ++ element :: after) = some before.length := by
  rw [find_append_of_not_mem absent,
    find_of_starts (singleton_prefix_cons.mpr rfl), Option.map_some,
    Nat.zero_add]

@[simp]
theorem find_singleton_eq_none_iff
    {element : α} {text : List α} :
    find [element] text = none ↔ element ∉ text := by
  rw [find_eq_none_iff, List.singleton_infix_iff]

/-- A text without the element is taken as a whole. -/
theorem takeWhile_ne_append
    {element : α} {before : List α}
    (absent : element ∉ before) (after : List α) :
    (before ++ after).takeWhile (fun other => other ≠ element) =
      before ++ after.takeWhile (fun other => other ≠ element) := by
  apply List.takeWhile_append_of_pos
  intro other member
  have differs : other ≠ element := fun same => absent (same ▸ member)
  simpa using differs

theorem takeWhile_ne_append_cons
    {element : α} {before : List α}
    (absent : element ∉ before) (after : List α) :
    (before ++ element :: after).takeWhile (fun other => other ≠ element) =
      before := by
  rw [takeWhile_ne_append absent]
  simp

end MinimalSip.Lib.Search

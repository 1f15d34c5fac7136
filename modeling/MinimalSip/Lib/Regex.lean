import MinimalSip.Lib.CppString
import Mathlib.Data.List.Forall2

/-!
# Regular expressions with leftmost search

A backtracking engine tries the ways to match a pattern at one place in a
fixed order: the left alternative first, and a repetition first with as many
symbols as it can take.  `attempts` lists the matches in this order, so the
match that the engine reports is the first one at the leftmost place that has
any.

`Matches` is the meaning of a pattern without any order: the texts that it
matches, each with what its groups capture.  Every reported match has this
meaning.  Repetition is over a class of symbols only, and the groups of the
alternative that was not taken are not listed.
-/

namespace MinimalSip.Lib.Regex

open MinimalSip.Lib.Cpp

inductive Pattern (α : Type u) where
  | empty
  | one (symbol : α → Bool)
  | many (symbol : α → Bool)
  | seq (first second : Pattern α)
  | alt (first second : Pattern α)
  | group (inner : Pattern α)

/-- One way to match the beginning of a text. -/
structure Attempt (α : Type u) where
  matched : List α := []
  groups : List (List α) := []
  rest : List α
deriving DecidableEq

variable {α : Type u}

/-! ## The engine -/

/-- A repetition gives back one symbol after the other. -/
def longestFirst (symbol : α → Bool) : List α → List (Attempt α)
  | [] => [{ rest := [] }]
  | head :: tail =>
      if symbol head then
        (longestFirst symbol tail).map (fun attempt =>
          { attempt with matched := head :: attempt.matched }) ++
        [{ rest := head :: tail }]
      else [{ rest := head :: tail }]

/-- The attempts at the beginning of a text, in the order of backtracking. -/
def attempts : Pattern α → List α → List (Attempt α)
  | .empty, text => [{ rest := text }]
  | .one _, [] => []
  | .one symbol, head :: tail =>
      if symbol head then [{ matched := [head], rest := tail }] else []
  | .many symbol, text => longestFirst symbol text
  | .seq first second, text =>
      (attempts first text).flatMap (fun before =>
        (attempts second before.rest).map (fun after =>
          { matched := before.matched ++ after.matched
            groups := before.groups ++ after.groups
            rest := after.rest }))
  | .alt first second, text => attempts first text ++ attempts second text
  | .group inner, text =>
      (attempts inner text).map (fun attempt =>
        { attempt with groups := attempt.matched :: attempt.groups })

/-- `regex_search`: the first attempt at the leftmost place that has one. -/
def search (pattern : Pattern α) : List α → Option (Attempt α)
  | [] => (attempts pattern []).head?
  | head :: tail =>
      match (attempts pattern (head :: tail)).head? with
      | some attempt => some attempt
      | none => search pattern tail

/-- What the first group of the reported match captures. -/
def firstGroup (pattern : Pattern α) (text : List α) : Option (List α) :=
  (search pattern text).bind (fun attempt => attempt.groups.head?)

/-! ## The meaning of a pattern -/

/-- The texts that a pattern matches, with the captures of its groups. -/
def Matches : Pattern α → List α → List (List α) → Prop
  | .empty, text, groups => text = [] ∧ groups = []
  | .one symbol, text, groups =>
      (∃ head, symbol head = true ∧ text = [head]) ∧ groups = []
  | .many symbol, text, groups =>
      (∀ head ∈ text, symbol head = true) ∧ groups = []
  | .seq first second, text, groups =>
      ∃ before beforeGroups after afterGroups,
        Matches first before beforeGroups ∧
        Matches second after afterGroups ∧
        text = before ++ after ∧ groups = beforeGroups ++ afterGroups
  | .alt first second, text, groups =>
      Matches first text groups ∨ Matches second text groups
  | .group inner, text, groups =>
      ∃ innerGroups, Matches inner text innerGroups ∧
        groups = text :: innerGroups

theorem longestFirst_sound
    {symbol : α → Bool} {text : List α} {attempt : Attempt α}
    (tried : attempt ∈ longestFirst symbol text) :
    Matches (.many symbol) attempt.matched attempt.groups := by
  induction text generalizing attempt with
  | nil =>
      rw [longestFirst, List.mem_singleton] at tried
      subst tried
      simp [Matches]
  | cons head tail ih =>
      by_cases taken : symbol head = true
      · rw [longestFirst, if_pos taken, List.mem_append] at tried
        rcases tried with longer | stopped
        · obtain ⟨shorter, member, rfl⟩ := List.mem_map.mp longer
          obtain ⟨inClass, noGroups⟩ := ih member
          exact ⟨List.forall_mem_cons.mpr ⟨taken, inClass⟩, noGroups⟩
        · rw [List.mem_singleton] at stopped
          subst stopped
          simp [Matches]
      · rw [longestFirst, if_neg taken, List.mem_singleton] at tried
        subst tried
        simp [Matches]

theorem longestFirst_split
    {symbol : α → Bool} {text : List α} {attempt : Attempt α}
    (tried : attempt ∈ longestFirst symbol text) :
    text = attempt.matched ++ attempt.rest := by
  induction text generalizing attempt with
  | nil =>
      rw [longestFirst, List.mem_singleton] at tried
      subst tried
      rfl
  | cons head tail ih =>
      by_cases taken : symbol head = true
      · rw [longestFirst, if_pos taken, List.mem_append] at tried
        rcases tried with longer | stopped
        · obtain ⟨shorter, member, rfl⟩ := List.mem_map.mp longer
          exact congrArg (List.cons head) (ih member)
        · rw [List.mem_singleton] at stopped
          subst stopped
          rfl
      · rw [longestFirst, if_neg taken, List.mem_singleton] at tried
        subst tried
        rfl

/-- The engine only makes attempts that the pattern allows. -/
theorem attempts_sound
    {pattern : Pattern α} {text : List α} {attempt : Attempt α}
    (tried : attempt ∈ attempts pattern text) :
    Matches pattern attempt.matched attempt.groups := by
  induction pattern generalizing text attempt with
  | empty =>
      rw [attempts, List.mem_singleton] at tried
      subst tried
      exact ⟨rfl, rfl⟩
  | one symbol =>
      cases text with
      | nil => simp [attempts] at tried
      | cons head tail =>
          by_cases taken : symbol head = true
          · rw [attempts, if_pos taken, List.mem_singleton] at tried
            subst tried
            exact ⟨⟨head, taken, rfl⟩, rfl⟩
          · simp [attempts, taken] at tried
  | many symbol => exact longestFirst_sound tried
  | seq first second ihFirst ihSecond =>
      rw [attempts, List.mem_flatMap] at tried
      obtain ⟨before, beforeTried, joined⟩ := tried
      obtain ⟨after, afterTried, rfl⟩ := List.mem_map.mp joined
      exact ⟨_, _, _, _, ihFirst beforeTried, ihSecond afterTried, rfl, rfl⟩
  | alt first second ihFirst ihSecond =>
      rw [attempts, List.mem_append] at tried
      exact tried.imp ihFirst ihSecond
  | group inner ih =>
      obtain ⟨shorter, member, rfl⟩ := List.mem_map.mp tried
      exact ⟨shorter.groups, ih member, rfl⟩

theorem search_sound
    {pattern : Pattern α} {text : List α} {attempt : Attempt α}
    (found : search pattern text = some attempt) :
    Matches pattern attempt.matched attempt.groups := by
  induction text with
  | nil => exact attempts_sound (List.mem_of_head? found)
  | cons head tail ih =>
      cases here : (attempts pattern (head :: tail)).head? with
      | some first =>
          rw [search, here, Option.some.injEq] at found
          subst found
          exact attempts_sound (List.mem_of_head? here)
      | none =>
          rw [search, here] at found
          exact ih found

/-- An attempt takes the beginning of the text. -/
theorem attempts_split
    {pattern : Pattern α} {text : List α} {attempt : Attempt α}
    (tried : attempt ∈ attempts pattern text) :
    text = attempt.matched ++ attempt.rest := by
  induction pattern generalizing text attempt with
  | empty =>
      rw [attempts, List.mem_singleton] at tried
      subst tried
      rfl
  | one symbol =>
      cases text with
      | nil => simp [attempts] at tried
      | cons head tail =>
          by_cases taken : symbol head = true
          · rw [attempts, if_pos taken, List.mem_singleton] at tried
            subst tried
            rfl
          · simp [attempts, taken] at tried
  | many symbol => exact longestFirst_split tried
  | seq first second ihFirst ihSecond =>
      rw [attempts, List.mem_flatMap] at tried
      obtain ⟨before, beforeTried, joined⟩ := tried
      obtain ⟨after, afterTried, rfl⟩ := List.mem_map.mp joined
      have split := ihFirst beforeTried
      rw [ihSecond afterTried] at split
      rw [split, List.append_assoc]
  | alt first second ihFirst ihSecond =>
      rw [attempts, List.mem_append] at tried
      exact tried.elim ihFirst ihSecond
  | group inner ih =>
      obtain ⟨shorter, member, rfl⟩ := List.mem_map.mp tried
      exact @ih text shorter member

/-- A captured text comes from a match of the pattern. -/
theorem firstGroup_sound
    {pattern : Pattern α} {text captured : List α}
    (found : firstGroup pattern text = some captured) :
    ∃ matched others, Matches pattern matched (captured :: others) := by
  obtain ⟨attempt, searched, head⟩ := Option.bind_eq_some_iff.mp found
  have sound := search_sound searched
  obtain ⟨others, split⟩ := List.head?_eq_some_iff.mp head
  rw [split] at sound
  exact ⟨_, others, sound⟩

/-! ## The attempt that is reported -/

/--
The engine asked at the beginning of the text reports this attempt.  The rules
below find it where the engine never has to go back.
-/
def Reports (pattern : Pattern α) (text : List α) (attempt : Attempt α) :
    Prop :=
  (attempts pattern text).head? = some attempt

theorem search_of_reports
    {pattern : Pattern α} {text : List α} {attempt : Attempt α}
    (reports : Reports pattern text attempt) :
    search pattern text = some attempt := by
  cases text with
  | nil => exact reports
  | cons head tail =>
      rw [search, show (attempts pattern (head :: tail)).head? = some attempt
        from reports]

/-- The search goes on behind a beginning at which nothing matches. -/
theorem search_skip
    {pattern : Pattern α} (before : List α) {after : List α}
    (nothing : ∀ suffix, suffix <:+ before → suffix ≠ [] →
      attempts pattern (suffix ++ after) = []) :
    search pattern (before ++ after) = search pattern after := by
  induction before with
  | nil => rfl
  | cons head tail ih =>
      have here := nothing (head :: tail) List.suffix_rfl (by simp)
      rw [List.cons_append] at here
      rw [List.cons_append, search, here]
      exact ih (fun suffix ends =>
        nothing suffix (ends.trans (List.suffix_cons head tail)))

theorem reports_one
    {symbol : α → Bool} {head : α} {tail : List α}
    (taken : symbol head = true) :
    Reports (.one symbol) (head :: tail)
      { matched := [head], rest := tail } := by
  rw [Reports, attempts, if_pos taken]
  rfl

/-- A repetition takes all it can, and the rest of the text is left. -/
theorem reports_many
    {symbol : α → Bool} {taken rest : List α}
    (inside : ∀ head ∈ taken, symbol head = true)
    (outside : ∀ head ∈ rest.head?, symbol head = false) :
    Reports (.many symbol) (taken ++ rest)
      { matched := taken, rest := rest } := by
  unfold Reports attempts
  induction taken with
  | nil =>
      cases rest with
      | nil => rfl
      | cons head tail =>
          have stops := outside head rfl
          simp [longestFirst, stops]
  | cons head tail ih =>
      obtain ⟨here, later⟩ := List.forall_mem_cons.mp inside
      rw [List.cons_append, longestFirst, if_pos here, List.head?_append,
        List.head?_map, ih later]
      rfl

theorem reports_seq
    {first second : Pattern α} {text : List α} {before after : Attempt α}
    (begins : Reports first text before)
    (continues : Reports second before.rest after) :
    Reports (.seq first second) text
      { matched := before.matched ++ after.matched
        groups := before.groups ++ after.groups
        rest := after.rest } := by
  unfold Reports at begins continues ⊢
  obtain ⟨others, split⟩ := List.head?_eq_some_iff.mp begins
  rw [attempts, split, List.flatMap_cons, List.head?_append, List.head?_map,
    continues]
  rfl

theorem reports_group
    {inner : Pattern α} {text : List α} {attempt : Attempt α}
    (reports : Reports inner text attempt) :
    Reports (.group inner) text
      { attempt with groups := attempt.matched :: attempt.groups } := by
  unfold Reports at reports ⊢
  rw [attempts, List.head?_map, reports]
  rfl

theorem reports_left
    {first second : Pattern α} {text : List α} {attempt : Attempt α}
    (reports : Reports first text attempt) :
    Reports (.alt first second) text attempt := by
  unfold Reports at reports ⊢
  rw [attempts, List.head?_append, reports]
  rfl

/-! ## Readers -/

/--
A reader says for every text what the first group captures if the pattern
matches at its beginning, and nothing if the pattern does not match there.
-/
def Agrees (pattern : Pattern α) (read : List α → Option (List α)) : Prop :=
  ∀ text, (attempts pattern text).head?.map (fun attempt =>
    attempt.groups.head?) = (read text).map some

/-- What a reader reads at the first place where it reads something. -/
def firstOf {β : Type v} (read : List α → Option β) : List α → Option β
  | [] => read []
  | head :: tail => (read (head :: tail)).or (firstOf read tail)

/-- The search captures what the reader reads first. -/
theorem Agrees.firstGroup_eq
    {pattern : Pattern α} {read : List α → Option (List α)}
    (agrees : Agrees pattern read) (text : List α) :
    firstGroup pattern text = firstOf read text := by
  induction text with
  | nil =>
      have here := agrees []
      rw [firstGroup, search, firstOf]
      cases first : (attempts pattern []).head? with
      | none =>
          rw [first] at here
          exact (Option.map_eq_none_iff.mp here.symm).symm
      | some attempt =>
          rw [first, Option.map_some] at here
          obtain ⟨captured, read, same⟩ := Option.map_eq_some_iff.mp here.symm
          rw [Option.bind_some, ← same, read]
  | cons head tail ih =>
      have here := agrees (head :: tail)
      rw [firstGroup, search, firstOf]
      cases first : (attempts pattern (head :: tail)).head? with
      | none =>
          rw [first] at here
          rw [Option.map_eq_none_iff.mp here.symm, Option.none_or]
          exact ih
      | some attempt =>
          rw [first, Option.map_some] at here
          obtain ⟨captured, read, same⟩ := Option.map_eq_some_iff.mp here.symm
          dsimp only
          rw [Option.bind_some, ← same, read, Option.some_or]

/-- Read behind as many symbols of a class as allow it. -/
def skipping {β : Type v} (symbol : α → Bool) (read : List α → Option β) :
    List α → Option β
  | [] => read []
  | head :: tail =>
      if symbol head then (skipping symbol read tail).or (read (head :: tail))
      else read (head :: tail)

/-- Read behind what a pattern matches, trying its matches in their order. -/
def behind {β : Type v} : Pattern α → (List α → Option β) → List α → Option β
  | .empty, read, text => read text
  | .one _, _, [] => none
  | .one symbol, read, head :: tail => if symbol head then read tail else none
  | .many symbol, read, text => skipping symbol read text
  | .seq first second, read, text => behind first (behind second read) text
  | .alt first second, read, text =>
      (behind first read text).or (behind second read text)
  | .group inner, read, text => behind inner read text

/-- A pattern without groups. -/
def Groupless : Pattern α → Prop
  | .empty => True
  | .one _ => True
  | .many _ => True
  | .seq first second => Groupless first ∧ Groupless second
  | .alt first second => Groupless first ∧ Groupless second
  | .group _ => False

section Readers

variable {first second third inner : Pattern α}
  {read : List α → Option (List α)}

theorem attempts_seq_assoc (text : List α) :
    attempts (.seq (.seq first second) third) text =
      attempts (.seq first (.seq second third)) text := by
  simp only [attempts, List.flatMap_assoc, List.flatMap_map,
    List.map_flatMap, List.map_map]
  congr 1
  funext one
  congr 1
  funext two
  congr 1
  funext three
  simp

theorem attempts_seq_alt (text : List α) :
    attempts (.seq (.alt first second) third) text =
      attempts (.seq first third) text ++
        attempts (.seq second third) text := by
  simp only [attempts, List.flatMap_append]

/-- A repetition that takes a symbol can take more or give it back. -/
theorem attempts_many_cons
    {symbol : α → Bool} {head : α} (tail : List α)
    (taken : symbol head = true) :
    attempts (.seq (.many symbol) inner) (head :: tail) =
      (attempts (.seq (.many symbol) inner) tail).map (fun attempt =>
          { attempt with matched := head :: attempt.matched }) ++
        attempts inner (head :: tail) := by
  simp only [attempts, longestFirst, if_pos taken, List.flatMap_append,
    List.flatMap_map, List.map_flatMap, List.map_map]
  congr 1
  simp

theorem attempts_many_stop
    {symbol : α → Bool} {text : List α}
    (stops : ∀ head ∈ text.head?, symbol head = false) :
    attempts (.seq (.many symbol) inner) text = attempts inner text := by
  cases text with
  | nil => simp [attempts, longestFirst]
  | cons head tail => simp [attempts, longestFirst, stops head rfl]

theorem agrees_many (symbol : α → Bool) (agrees : Agrees inner read) :
    Agrees (.seq (.many symbol) inner) (skipping symbol read) := by
  intro text
  induction text with
  | nil =>
      rw [attempts_many_stop (by simp), skipping]
      exact agrees []
  | cons head tail ih =>
      rw [skipping]
      split_ifs with taken
      · rw [attempts_many_cons tail taken, List.head?_append, List.head?_map,
          Option.map_or, Option.map_or, ← ih, ← agrees (head :: tail),
          Option.map_map]
        rfl
      · rw [attempts_many_stop (by simpa using taken)]
        exact agrees (head :: tail)

/-- A pattern in front of an inner one reads behind its own matches. -/
theorem Agrees.behind
    (agrees : Agrees inner read) (groupless : Groupless first) :
    Agrees (.seq first inner) (behind first read) := by
  induction first generalizing inner read with
  | empty =>
      intro text
      simpa [attempts, Regex.behind] using agrees text
  | one symbol =>
      intro text
      cases text with
      | nil => simp [attempts, Regex.behind]
      | cons head tail =>
          by_cases taken : symbol head = true
          · simpa [attempts, Regex.behind, taken, Function.comp_def] using
              agrees tail
          · simp [attempts, Regex.behind, taken]
  | many symbol => exact agrees_many symbol agrees
  | seq one two ihOne ihTwo =>
      intro text
      rw [attempts_seq_assoc]
      exact ihOne (ihTwo agrees groupless.2) groupless.1 text
  | alt one two ihOne ihTwo =>
      intro text
      rw [attempts_seq_alt, List.head?_append, Option.map_or,
        ihOne agrees groupless.1, ihTwo agrees groupless.2, Regex.behind,
        Option.map_or]
  | group inner => exact groupless.elim

/-- As many symbols of a class as there are, if there is one. -/
def longestRun (symbol : α → Bool) (text : List α) : Option (List α) :=
  match text.takeWhile symbol with
  | [] => none
  | head :: tail => some (head :: tail)

theorem longestRun_eq (symbol : α → Bool) (text : List α) :
    longestRun symbol text =
      if text.takeWhile symbol = [] then none
      else some (text.takeWhile symbol) := by
  rw [longestRun]
  cases text.takeWhile symbol with
  | nil => rfl
  | cons head tail => rfl

theorem longestRun_of_not
    {symbol : α → Bool} {head : α} (tail : List α)
    (other : symbol head = false) :
    longestRun symbol (head :: tail) = none := by
  rw [longestRun, List.takeWhile_cons_of_neg (by simp [other])]

theorem longestRun_cons
    {symbol : α → Bool} {head : α} (tail : List α)
    (taken : symbol head = true) :
    longestRun symbol (head :: tail) =
      some (head :: tail.takeWhile symbol) := by
  rw [longestRun, List.takeWhile_cons_of_pos taken]

theorem mem_longestRun
    {symbol : α → Bool} {text run : List α}
    (reads : longestRun symbol text = some run) :
    ∀ head ∈ run, symbol head = true := by
  unfold longestRun at reads
  split at reads
  · cases reads
  next head tail taken =>
    obtain rfl := Option.some.inj reads
    intro other member
    rw [← taken] at member
    exact List.mem_takeWhile_imp member

theorem exists_of_skipping
    {β : Type v} {symbol : α → Bool} {read : List α → Option β}
    {text : List α} {value : β}
    (reads : skipping symbol read text = some value) :
    ∃ rest, read rest = some value := by
  induction text with
  | nil => exact ⟨[], reads⟩
  | cons head tail ih =>
      rw [skipping] at reads
      split_ifs at reads
      · rcases Option.or_eq_some_iff.mp reads with later | ⟨-, here⟩
        · exact ih later
        · exact ⟨head :: tail, here⟩
      · exact ⟨head :: tail, reads⟩

theorem longestRun_ne_nil
    {symbol : α → Bool} {text run : List α}
    (reads : longestRun symbol text = some run) : run ≠ [] := by
  unfold longestRun at reads
  split at reads
  · cases reads
  · obtain rfl := Option.some.inj reads
    exact List.cons_ne_nil _ _

/-- What is read first is read at some place of the text. -/
theorem exists_of_firstOf
    {β : Type v} {read : List α → Option β} {text : List α} {value : β}
    (first : firstOf read text = some value) :
    ∃ rest, rest <:+ text ∧ read rest = some value := by
  induction text with
  | nil => exact ⟨[], List.suffix_rfl, first⟩
  | cons head tail ih =>
      rw [firstOf] at first
      rcases Option.or_eq_some_iff.mp first with here | ⟨-, later⟩
      · exact ⟨head :: tail, List.suffix_rfl, here⟩
      · obtain ⟨rest, ends, reads⟩ := ih later
        exact ⟨rest, ends.trans (List.suffix_cons head tail), reads⟩

theorem firstOf_of_read
    {β : Type v} {read : List α → Option β} {text : List α} {value : β}
    (reads : read text = some value) : firstOf read text = some value := by
  cases text with
  | nil => exact reads
  | cons head tail => rw [firstOf, reads, Option.some_or]

/-- Where every place can be read the first place is read. -/
theorem firstOf_bind
    {β : Type v} {tail : List α → Option (List α)} {read : List α → Option β}
    {text rest : List α} {value : β}
    (first : firstOf tail text = some rest)
    (reads : read rest = some value) :
    firstOf (fun text => (tail text).bind read) text = some value := by
  induction text with
  | nil =>
      rw [firstOf] at first ⊢
      rw [first, Option.bind_some, reads]
  | cons head others ih =>
      rw [firstOf] at first ⊢
      cases here : tail (head :: others) with
      | none =>
          rw [here, Option.none_or] at first
          rw [Option.bind_none, Option.none_or]
          exact ih first
      | some found =>
          rw [here, Option.some_or, Option.some.injEq] at first
          rw [Option.bind_some, first, reads, Option.some_or]

/-- A run can be read wherever one of its symbols is left. -/
theorem exists_skipping_run
    {symbol taken : α → Bool} {text : List α}
    (others : ∀ head, symbol head = false → taken head = true)
    (left : ∃ head ∈ text, taken head = true) :
    ∃ run, skipping symbol (longestRun taken) text = some run := by
  induction text with
  | nil =>
      obtain ⟨head, member, -⟩ := left
      cases member
  | cons head tail ih =>
      rw [skipping]
      split_ifs with skipped
      · by_cases more : ∃ other ∈ tail, taken other = true
        · obtain ⟨run, reads⟩ := ih more
          exact ⟨run, by rw [reads, Option.some_or]⟩
        · obtain ⟨one, member, isTaken⟩ := left
          rcases List.mem_cons.mp member with rfl | inTail
          · rw [longestRun_cons tail isTaken]
            cases skipping symbol (longestRun taken) tail with
            | none => exact ⟨_, Option.none_or⟩
            | some run => exact ⟨run, Option.some_or⟩
          · exact absurd ⟨one, inTail, isTaken⟩ more
      · exact ⟨_, longestRun_cons tail
          (others head (Bool.eq_false_iff.mpr skipped))⟩

/-- Skipping what cannot be read skips all of it. -/
theorem skipping_eq_dropWhile
    {β : Type v} {symbol : α → Bool} {read : List α → Option β}
    (refused : ∀ head tail, symbol head = true → read (head :: tail) = none)
    (text : List α) :
    skipping symbol read text = read (text.dropWhile symbol) := by
  induction text with
  | nil => rfl
  | cons head tail ih =>
      rw [skipping]
      split_ifs with taken
      · rw [refused head tail taken, Option.or_none, ih,
          List.dropWhile_cons_of_pos taken]
      · rw [List.dropWhile_cons_of_neg taken]

theorem firstOf_map
    {β : Type v} {γ : Type w} (image : β → γ) (read : List α → Option β)
    (text : List α) :
    firstOf (fun text => (read text).map image) text =
      (firstOf read text).map image := by
  induction text with
  | nil => rfl
  | cons head tail ih => rw [firstOf, firstOf, ih, Option.map_or]

end Readers

/-! ## Characters -/

/-- A fixed text, compared by a relation on its symbols. -/
def literal (same : α → α → Bool) : List α → Pattern α
  | [] => .empty
  | head :: tail => .seq (.one (same head)) (literal same tail)

/-- One or more symbols of a class. -/
def oneOrMore (symbol : α → Bool) : Pattern α :=
  .seq (.one symbol) (.many symbol)

/-- A fixed text captures nothing. -/
theorem groups_of_literal
    {same : α → α → Bool} {expected text : List α} {groups : List (List α)}
    (matched : Matches (literal same expected) text groups) :
    groups = [] := by
  induction expected generalizing text groups with
  | nil => exact matched.2
  | cons head tail ih =>
      obtain ⟨_, _, _, _, first, rest, -, rfl⟩ := matched
      rw [first.2, ih rest]
      rfl

theorem reports_oneOrMore
    {symbol : α → Bool} {taken rest : List α}
    (nonempty : taken ≠ [])
    (inside : ∀ head ∈ taken, symbol head = true)
    (outside : ∀ head ∈ rest.head?, symbol head = false) :
    Reports (oneOrMore symbol) (taken ++ rest)
      { matched := taken, rest := rest } := by
  obtain ⟨head, tail, rfl⟩ := List.exists_cons_of_ne_nil nonempty
  obtain ⟨here, later⟩ := List.forall_mem_cons.mp inside
  exact reports_seq (reports_one here) (reports_many later outside)

theorem reports_literal
    {same : α → α → Bool} {expected text : List α} (rest : List α)
    (alike : List.Forall₂ (fun one other => same one other = true) expected
      text) :
    Reports (literal same expected) (text ++ rest)
      { matched := text, rest := rest } := by
  induction alike with
  | nil => rfl
  | cons here _ ih => exact reports_seq (reports_one here) ih

theorem alike_of_literal
    {same : α → α → Bool} {expected text : List α} {groups : List (List α)}
    (matched : Matches (literal same expected) text groups) :
    List.Forall₂ (fun one other => same one other = true) expected text := by
  induction expected generalizing text groups with
  | nil =>
      obtain ⟨rfl, -⟩ := matched
      exact List.Forall₂.nil
  | cons head tail ih =>
      obtain ⟨_, _, after, _, ⟨⟨char, taken, rfl⟩, -⟩, rest, rfl, -⟩ :=
        matched
      exact List.Forall₂.cons taken (ih rest)

theorem matches_oneOrMore_iff
    {symbol : α → Bool} {text : List α} {groups : List (List α)} :
    Matches (oneOrMore symbol) text groups ↔
      text ≠ [] ∧ (∀ head ∈ text, symbol head = true) ∧ groups = [] := by
  constructor
  · rintro ⟨_, _, tail, _, ⟨⟨head, taken, rfl⟩, rfl⟩, ⟨inClass, rfl⟩, rfl, rfl⟩
    exact ⟨by simp, List.forall_mem_cons.mpr ⟨taken, inClass⟩, rfl⟩
  · rintro ⟨nonempty, inClass, rfl⟩
    obtain ⟨head, tail, rfl⟩ := List.exists_cons_of_ne_nil nonempty
    obtain ⟨taken, rest⟩ := List.forall_mem_cons.mp inClass
    exact ⟨[head], [], tail, [], ⟨⟨head, taken, rfl⟩, rfl⟩, ⟨rest, rfl⟩,
      rfl, rfl⟩

theorem agrees_run (symbol : α → Bool) :
    Agrees (.group (oneOrMore symbol)) (longestRun symbol) := by
  intro text
  unfold longestRun
  cases text with
  | nil => rfl
  | cons head tail =>
      by_cases taken : symbol head = true
      · have reports := reports_group (@reports_oneOrMore _ symbol
          ((head :: tail).takeWhile symbol) ((head :: tail).dropWhile symbol)
          (by simp [taken]) (fun other member =>
            List.mem_takeWhile_imp member) (by
              intro other first
              have kept := List.head?_dropWhile_not symbol (head :: tail)
              rw [Option.mem_def.mp first] at kept
              exact kept))
        rw [List.takeWhile_append_dropWhile] at reports
        rw [show (attempts _ (head :: tail)).head? = _ from reports]
        simp [taken]
      · simp [attempts, oneOrMore, taken]

/-- A repetition in front of what cannot begin with its symbols. -/
theorem longestFirst_flatMap
    {β : Type v} {symbol : α → Bool} {image : Attempt α → List β}
    (refused : ∀ attempt head tail, attempt.rest = head :: tail →
      symbol head = true → image attempt = [])
    (text : List α) :
    (longestFirst symbol text).flatMap image =
      image { matched := text.takeWhile symbol
              rest := text.dropWhile symbol } := by
  induction text generalizing image with
  | nil => simp [longestFirst]
  | cons head tail ih =>
      rw [longestFirst]
      split_ifs with taken
      · have shorter := @ih (fun attempt =>
            image { attempt with matched := head :: attempt.matched })
          (fun attempt next rest left isTaken =>
            refused _ next rest left isTaken)
        rw [List.flatMap_append, List.flatMap_singleton,
          refused _ head tail rfl taken, List.append_nil, List.flatMap_map,
          shorter, List.takeWhile_cons_of_pos taken,
          List.dropWhile_cons_of_pos taken]
      · rw [List.flatMap_singleton, List.takeWhile_cons_of_neg taken,
          List.dropWhile_cons_of_neg taken]

theorem Agrees.attempts_eq_nil_iff
    {pattern : Pattern α} {read : List α → Option (List α)}
    (agrees : Agrees pattern read) (text : List α) :
    attempts pattern text = [] ↔ read text = none := by
  rw [← List.head?_eq_none_iff, ← Option.map_eq_none_iff, agrees text,
    Option.map_eq_none_iff]

/-- Capturing does not change where a pattern matches. -/
theorem attempts_seq_group_eq_nil_iff
    {first inner : Pattern α} (text : List α) :
    attempts (.seq first (.group inner)) text = [] ↔
      attempts (.seq first inner) text = [] := by
  simp only [attempts, List.flatMap_eq_nil_iff, List.map_eq_nil_iff]

/-- A captured run in front of what cannot begin with its symbols. -/
theorem agrees_run_before
    {β : Type v} {symbol : α → Bool} {after : Pattern α}
    {tail : List α → Option β}
    (matchesAt : ∀ text, attempts after text = [] ↔ tail text = none)
    (refused : ∀ head rest, symbol head = true → tail (head :: rest) = none) :
    Agrees (.seq (.group (oneOrMore symbol)) after)
      (fun text => (tail (text.dropWhile symbol)).bind
        (fun _ => longestRun symbol text)) := by
  intro text
  dsimp only
  cases text with
  | nil => simp [attempts, oneOrMore, longestRun]
  | cons head rest =>
      by_cases taken : symbol head = true
      · have whole : attempts (.seq (.group (oneOrMore symbol)) after)
            (head :: rest) =
            (attempts after (rest.dropWhile symbol)).map (fun attempt =>
              { matched := head :: rest.takeWhile symbol ++ attempt.matched
                groups := (head :: rest.takeWhile symbol) :: attempt.groups
                rest := attempt.rest }) := by
          have shorter := @longestFirst_flatMap _ _ symbol
            (fun run => (attempts after run.rest).map (fun attempt =>
              ({ matched := head :: run.matched ++ attempt.matched
                 groups := (head :: run.matched) :: run.groups ++
                   attempt.groups
                 rest := attempt.rest } : Attempt α)))
            (fun run next others left isTaken => by
              rw [left, (matchesAt _).mpr (refused next others isTaken),
                List.map_nil]) rest
          simpa [attempts, oneOrMore, taken, List.flatMap_map] using shorter
        rw [whole, List.dropWhile_cons_of_pos taken,
          longestRun_cons rest taken]
        cases found : tail (rest.dropWhile symbol) with
        | none => rw [(matchesAt _).mpr found]; rfl
        | some value =>
            have matched : attempts after (rest.dropWhile symbol) ≠ [] := by
              rw [Ne, matchesAt, found]
              exact Option.some_ne_none value
            obtain ⟨attempt, others, split⟩ :=
              List.exists_cons_of_ne_nil matched
            rw [split]
            rfl
      · rw [longestRun_of_not rest (Bool.eq_false_iff.mpr taken)]
        simp [attempts, oneOrMore, taken]

/-- Reading behind one or more symbols, if their next one is not read. -/
theorem behind_oneOrMore
    {β : Type v} {symbol : α → Bool} {read : List α → Option β}
    (refused : ∀ head tail, symbol head = true → read (head :: tail) = none)
    (text : List α) :
    behind (oneOrMore symbol) read text =
      if text.takeWhile symbol = [] then none
      else read (text.dropWhile symbol) := by
  rw [oneOrMore, behind]
  cases text with
  | nil => rfl
  | cons head tail =>
      rw [behind, behind]
      by_cases taken : symbol head = true
      · rw [if_pos taken, skipping_eq_dropWhile refused,
          List.takeWhile_cons_of_pos taken, if_neg (List.cons_ne_nil _ _),
          List.dropWhile_cons_of_pos taken]
      · rw [if_neg taken, List.takeWhile_cons_of_neg taken, if_pos rfl]

/-- A fixed text, compared by a key of its symbols, in front of a reader. -/
theorem behind_literal
    {β : Type v} {γ : Type w} [DecidableEq γ] (key : α → γ)
    (expected : List α) (read : List α → Option β) (text : List α) :
    behind (literal (fun one other => decide (key one = key other)) expected)
        read text =
      if (text.take expected.length).map key = expected.map key
      then read (text.drop expected.length) else none := by
  induction expected generalizing text with
  | nil => simp [literal, behind]
  | cons one rest ih =>
      cases text with
      | nil => simp [literal, behind]
      | cons head tail =>
          rw [literal, behind, behind, ih]
          by_cases same : key one = key head
          · simp [same]
          · simp [same, Ne.symm same]

theorem groupless_literal (same : α → α → Bool) (expected : List α) :
    Groupless (literal same expected) := by
  induction expected with
  | nil => trivial
  | cons head tail ih => exact ⟨trivial, ih⟩

/-- A fixed text up to `std::tolower`, as under `std::regex::icase`. -/
def noCase (text : CppString) : Pattern Char :=
  literal (fun expected char => expected.toLower = char.toLower) text

theorem map_toLower_of_noCase
    {word text : CppString} {groups : List CppString}
    (matched : Matches (noCase word) text groups) :
    text.map Char.toLower = word.map Char.toLower := by
  have alike := alike_of_literal matched
  clear matched
  induction alike with
  | nil => rfl
  | cons here _ ih =>
      rw [List.map_cons, List.map_cons, ih, ← of_decide_eq_true here]

/-- A word is read as it is written. -/
theorem reports_noCase (word rest : CppString) :
    Reports (noCase word) (word ++ rest)
      { matched := word, rest := rest } :=
  reports_literal rest (List.forall₂_same.mpr (fun char _ => by simp))

/-- `\s*` -/
def blanks : Pattern Char :=
  .many isSpace

/-- `\w` -/
def isWord (char : Char) : Bool :=
  char.isAlphanum || char = '_'

/-- `.`, which does not match the ends of a line. -/
def inLine (char : Char) : Bool :=
  char ≠ '\n' && char ≠ '\r'

/-- `[^…]` -/
def noneOf (set : CppString) (char : Char) : Bool :=
  !set.contains char

/-- The characters that count as blank. -/
theorem mem_of_space {char : Char} (space : isSpace char = true) :
    char ∈ " \t\n\x0b\x0c\r".toList := by
  rw [isSpace, Bool.or_eq_true, Bool.and_eq_true, decide_eq_true_eq,
    decide_eq_true_eq, decide_eq_true_eq] at space
  rcases space with rfl | ⟨low, high⟩
  · decide
  · have controls : ∀ code < 14, 9 ≤ code →
        Char.ofNat code ∈ " \t\n\x0b\x0c\r".toList := by
      decide
    rw [← Char.ofNat_toNat char]
    exact controls char.toNat (by omega) low

theorem not_space_of_word
    {char : Char} (word : isWord char = true) : isSpace char = false := by
  by_contra space
  rw [Bool.not_eq_false] at space
  have blank : char ∈ " \t\n\x0b\x0c\r".toList := mem_of_space space
  have noWord : ∀ char ∈ " \t\n\x0b\x0c\r".toList,
      isWord char = false := by
    decide
  rw [noWord char blank] at word
  cases word

theorem isSpace_of_digit
    {char : Char} (digit : char.isDigit = true) : isSpace char = false :=
  not_space_of_word (by simp [isWord, Char.isAlphanum, digit])

theorem isDigit_of_space
    {char : Char} (space : isSpace char = true) : char.isDigit = false := by
  refine Bool.eq_false_iff.mpr (fun digit => ?_)
  rw [isSpace_of_digit digit] at space
  cases space

end MinimalSip.Lib.Regex

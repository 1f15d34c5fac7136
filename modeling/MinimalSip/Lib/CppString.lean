import MinimalSip.Lib.Search
import Mathlib.Data.List.TakeWhile
import Mathlib.Tactic.SplitIfs

/-!
# The `std::string` operations

A `std::string` is a finite sequence of `char`s, modelled by a list of
characters: byte `b` is the character with code `b`, and no operation below
looks at a character except through equality and the ASCII classes.

Two conventions replace the sentinel `npos`.  A search returns an option, with
`none` for `npos`; and an optional count stands for the count argument of
`substr`, with `none` for a count that reaches the end of the string.  The
throwing operations return in `Except StdException`.
-/

namespace MinimalSip.Lib.Cpp

open MinimalSip.Lib.Search

abbrev CppString := List Char

instance : Coe String CppString := ⟨String.toList⟩

/-- A statement about every character of a text is tried on that text only. -/
instance (priority := 2000) decidableForallMem
    {test : Char → Prop}
    [DecidablePred test]
    (text : CppString) :
    Decidable (∀ char ∈ text, test char) :=
  List.decidableBAll test text

/-- A statement about some character of a text is tried on that text only. -/
instance (priority := 2000) decidableExistsMem
    {test : Char → Prop}
    [DecidablePred test]
    (text : CppString) :
    Decidable (∃ char ∈ text, test char) :=
  List.decidableBEx test text

/-- The same for the first or last character of a text, when there is one. -/
instance (priority := 2000) decidableForallMemOption
    {test : Char → Prop}
    [DecidablePred test]
    (end? : Option Char) :
    Decidable (∀ char ∈ end?, test char) :=
  Option.decidableForallMem end?

/-- The standard exceptions that string operations raise. -/
inductive StdException where
  | invalidArgument
  | outOfRange
deriving DecidableEq, Repr

@[simp]
theorem ok_bind {α β : Type u}
    (value : α) (next : α → Except StdException β) :
    (Except.ok value >>= next) = next value :=
  rfl

@[simp]
theorem error_bind {α β : Type u}
    (thrown : StdException) (next : α → Except StdException β) :
    (Except.error thrown >>= next) = Except.error thrown :=
  rfl

@[simp]
theorem pure_eq_ok {α : Type u} (value : α) :
    (pure value : Except StdException α) = .ok value :=
  rfl

/-- Every result of a successful `mapM` comes from an item. -/
theorem mapM_ok_mem
    {α β : Type} {f : α → Except StdException β}
    {items : List α} {results : List β}
    (mapped : items.mapM f = .ok results) :
    ∀ result ∈ results, ∃ item ∈ items, f item = .ok result := by
  induction items generalizing results with
  | nil =>
      cases mapped
      simp
  | cons item rest ih =>
      rw [List.mapM_cons] at mapped
      cases first : f item with
      | error thrown =>
          rw [first] at mapped
          cases mapped
      | ok head =>
          cases others : rest.mapM f with
          | error thrown =>
              rw [first, ok_bind, others] at mapped
              cases mapped
          | ok tail =>
              rw [first, ok_bind, others] at mapped
              cases mapped
              intro result member
              rcases List.mem_cons.mp member with rfl | inTail
              · exact ⟨item, by simp, first⟩
              · obtain ⟨source, inRest, read⟩ := ih others result inTail
                exact ⟨source, by simp [inRest], read⟩

/-! ## Substrings -/

/-- `text.substr(start, count)`; a start beyond the end throws. -/
def substr (text : CppString) (start : Nat) (count : Option Nat) :
    Except StdException CppString :=
  if start ≤ text.length then
    match count with
    | none => .ok (text.drop start)
    | some count => .ok ((text.drop start).take count)
  else .error .outOfRange

theorem substr_none
    {text : CppString} {start : Nat}
    (inside : start ≤ text.length) :
    substr text start none = .ok (text.drop start) := by
  simp [substr, inside]

theorem substr_some
    {text : CppString} {start : Nat}
    (inside : start ≤ text.length) (count : Nat) :
    substr text start (some count) =
      .ok ((text.drop start).take count) := by
  simp [substr, inside]

theorem substr_isOk
    {text : CppString} {start : Nat}
    (inside : start ≤ text.length) (count : Option Nat) :
    ∃ part, substr text start count = .ok part := by
  cases count with
  | none => exact ⟨_, substr_none inside⟩
  | some count => exact ⟨_, substr_some inside count⟩

/-- `position + 1` on a search result; `npos + 1` wraps around to zero. -/
def next : Option Nat → Nat
  | none => 0
  | some position => position + 1

/--
`stop - start - 1` on two search results, as a count.  With `start = npos` the
subtraction wraps to `stop`; with `stop = npos` it reaches past every end.
-/
def gap : (start stop : Option Nat) → Option Nat
  | _, none => none
  | none, some stop => some stop
  | some start, some stop => some (stop - start - 1)

/-- `text.find(pattern, start)` with `start` itself a search result. -/
def findAfter (pattern text : CppString) : Option Nat → Option Nat
  | none => none
  | some start => findFrom pattern text start

theorem next_find_le
    {pattern text : CppString} (nonempty : pattern ≠ []) :
    next (find pattern text) ≤ text.length := by
  cases found : find pattern text with
  | none => exact Nat.zero_le _
  | some position =>
      have fits := find_add_length_le found
      have positive := List.length_pos_iff.mpr nonempty
      simp only [next]
      omega

theorem findFrom_add_length_le
    {pattern text : CppString} {start position : Nat}
    (found : findFrom pattern text start = some position) :
    start ≤ position ∧ position + pattern.length ≤ text.length := by
  unfold findFrom at found
  split_ifs at found with inside
  obtain ⟨inner, innerFound, rfl⟩ := Option.map_eq_some_iff.mp found
  have fits := find_add_length_le innerFound
  rw [List.length_drop] at fits
  omega

theorem next_findAfter_le
    {pattern text : CppString} (nonempty : pattern ≠ [])
    (start : Option Nat) :
    next (findAfter pattern text start) ≤ text.length := by
  cases start with
  | none => exact Nat.zero_le _
  | some start =>
      cases found : findAfter pattern text (some start) with
      | none => exact Nat.zero_le _
      | some position =>
          have fits := (findFrom_add_length_le found).2
          have positive := List.length_pos_iff.mpr nonempty
          simp only [next]
          omega

/-- `field.find(text) != npos`. -/
def contains (field text : CppString) : Bool :=
  (find text field).isSome

theorem contains_iff {field text : CppString} :
    contains field text = true ↔ text <:+: field :=
  find_isSome_iff

/-! ## Character sets -/

/-- `text.find_first_not_of(set)`. -/
def findFirstNotOf (set text : CppString) : Option Nat :=
  text.findIdx? (fun char => !set.contains char)

/-- `text.find_last_not_of(set)`. -/
def findLastNotOf (set text : CppString) : Option Nat :=
  (text.reverse.findIdx? (fun char => !set.contains char)).map
    (fun fromEnd => text.length - 1 - fromEnd)

/-- Neither the first nor the last character belongs to the set. -/
structure Bare (set text : CppString) : Prop where
  first : ∀ char ∈ text.head?, char ∉ set
  last : ∀ char ∈ text.getLast?, char ∉ set

instance (set text : CppString) : Decidable (Bare set text) :=
  decidable_of_iff
    (text.head?.all (fun char => !set.contains char) = true ∧
      text.getLast?.all (fun char => !set.contains char) = true)
    (by
      simp only [Option.all_eq_true, Bool.not_eq_true',
        List.contains_eq_mem, decide_eq_false_iff_not]
      exact ⟨fun both => ⟨both.1, both.2⟩,
        fun bare => ⟨bare.first, bare.last⟩⟩)

theorem findIdx?_skip
    {set : CppString} (skipped rest : CppString)
    (member : ∀ char ∈ skipped, char ∈ set)
    (stop : ∀ char ∈ rest.head?, char ∉ set) :
    (skipped ++ rest).findIdx? (fun char => !set.contains char) =
      if rest = [] then none else some skipped.length := by
  induction skipped with
  | nil =>
      cases rest with
      | nil => rfl
      | cons head tail =>
          have outside : head ∉ set := stop head rfl
          simp [List.findIdx?_cons, outside]
  | cons head tail ih =>
      have inside : head ∈ set := member head (by simp)
      have tailIndex := ih (fun char mem => member char (by simp [mem]))
      rw [List.cons_append, List.findIdx?_cons, tailIndex]
      split_ifs with outside empty
      · simp [inside] at outside
      · simp [inside] at outside
      · rfl
      · rfl

theorem findFirstNotOf_eq
    {set : CppString} (leading core trailing : CppString)
    (leadingMember : ∀ char ∈ leading, char ∈ set)
    (bare : Bare set core) (nonempty : core ≠ []) :
    findFirstNotOf set (leading ++ core ++ trailing) =
      some leading.length := by
  rw [findFirstNotOf, List.append_assoc,
    findIdx?_skip leading (core ++ trailing) leadingMember]
  · simp [nonempty]
  · intro char first
    rw [List.head?_append_of_ne_nil _ nonempty] at first
    exact bare.first char first

theorem findLastNotOf_eq
    {set : CppString} (leading core trailing : CppString)
    (trailingMember : ∀ char ∈ trailing, char ∈ set)
    (bare : Bare set core) (nonempty : core ≠ []) :
    findLastNotOf set (leading ++ core ++ trailing) =
      some (leading.length + core.length - 1) := by
  have reversed : (leading ++ core ++ trailing).reverse =
      trailing.reverse ++ (core.reverse ++ leading.reverse) := by
    simp
  rw [findLastNotOf, reversed, findIdx?_skip]
  · have positive := List.length_pos_iff.mpr nonempty
    simp only [List.append_eq_nil_iff, List.reverse_eq_nil_iff, nonempty,
      false_and, if_false, Option.map_some, List.length_append,
      List.length_reverse, Option.some.injEq]
    omega
  · simpa using trailingMember
  · intro char first
    rw [List.head?_append_of_ne_nil _ (by simpa using nonempty),
      List.head?_reverse] at first
    exact bare.last char first

theorem findFirstNotOf_eq_none
    {set text : CppString}
    (member : ∀ char ∈ text, char ∈ set) :
    findFirstNotOf set text = none := by
  simpa [findFirstNotOf] using findIdx?_skip text [] member (by simp)

/-- The text without the characters of the set at its two ends. -/
def strip (set text : CppString) : CppString :=
  ((text.dropWhile set.contains).reverse.dropWhile set.contains).reverse

theorem dropWhile_head?_not_mem (set text : CppString) :
    ∀ char ∈ (text.dropWhile set.contains).head?, char ∉ set := by
  intro char first member
  have kept := List.head?_dropWhile_not set.contains text
  rw [Option.mem_def.mp first] at kept
  simp [member] at kept

/-- A stripped text is bare, and only characters of the set were removed. -/
theorem strip_split (set text : CppString) :
    Bare set (strip set text) ∧
      ∃ leading trailing, text = leading ++ strip set text ++ trailing ∧
        (∀ char ∈ leading, char ∈ set) ∧
        ∀ char ∈ trailing, char ∈ set := by
  have restSplit : text.dropWhile set.contains = strip set text ++
      ((text.dropWhile set.contains).reverse.takeWhile
        set.contains).reverse := by
    rw [strip, ← List.reverse_append, List.takeWhile_append_dropWhile,
      List.reverse_reverse]
  refine ⟨⟨?_, ?_⟩, text.takeWhile set.contains,
    ((text.dropWhile set.contains).reverse.takeWhile set.contains).reverse,
    ?_, ?_, ?_⟩
  · intro char first
    have nonempty : strip set text ≠ [] := by
      intro empty
      rw [empty] at first
      cases first
    apply dropWhile_head?_not_mem set text char
    rw [restSplit, List.head?_append_of_ne_nil _ nonempty]
    exact first
  · intro char last
    rw [strip, List.getLast?_reverse] at last
    exact dropWhile_head?_not_mem set _ char last
  · rw [List.append_assoc, ← restSplit, List.takeWhile_append_dropWhile]
  · intro char member
    simpa using List.mem_takeWhile_imp member
  · intro char member
    rw [List.mem_reverse] at member
    simpa using List.mem_takeWhile_imp member

theorem mem_of_mem_strip
    {set text : CppString} {char : Char} (member : char ∈ strip set text) :
    char ∈ text := by
  obtain ⟨-, leading, trailing, split, -, -⟩ := strip_split set text
  rw [split]
  exact List.mem_append_left _ (List.mem_append_right _ member)

theorem length_strip_le (set text : CppString) :
    (strip set text).length ≤ text.length := by
  obtain ⟨-, leading, trailing, split, -, -⟩ := strip_split set text
  have sizes := congrArg List.length split
  simp only [List.length_append] at sizes
  omega

theorem dropWhile_contains_of_bare_first
    {set text : CppString} (leading : CppString)
    (member : ∀ char ∈ leading, char ∈ set)
    (first : ∀ char ∈ text.head?, char ∉ set) :
    (leading ++ text).dropWhile set.contains = text := by
  rw [List.dropWhile_append_of_pos (by simpa using member)]
  cases text with
  | nil => rfl
  | cons head tail =>
      have outside : head ∉ set := first head rfl
      simp [outside]

@[simp]
theorem strip_of_bare
    {set text : CppString} (bare : Bare set text) :
    strip set text = text := by
  have front : ([] ++ text).dropWhile set.contains = text :=
    dropWhile_contains_of_bare_first [] (by simp) bare.first
  have back : ([] ++ text.reverse).dropWhile set.contains = text.reverse :=
    dropWhile_contains_of_bare_first [] (by simp) (by simpa using bare.last)
  rw [List.nil_append] at front back
  rw [strip, front, back, List.reverse_reverse]

/-- A character of the set in front of the text is stripped away. -/
theorem strip_cons_of_mem
    {set : CppString} {char : Char} (member : char ∈ set)
    (text : CppString) :
    strip set (char :: text) = strip set text := by
  simp [strip, member]

theorem strip_append_of_mem
    {set leading : CppString} (member : ∀ char ∈ leading, char ∈ set)
    (text : CppString) :
    strip set (leading ++ text) = strip set text := by
  induction leading with
  | nil => rfl
  | cons char rest ih =>
      rw [List.cons_append, strip_cons_of_mem (member char List.mem_cons_self)]
      exact ih (fun other inRest => member other
        (List.mem_cons_of_mem _ inRest))

/-- In front of the first character outside the set are only members. -/
theorem mem_of_mem_take_findFirstNotOf
    {set text : CppString} {position : Nat}
    (found : findFirstNotOf set text = some position) :
    ∀ char ∈ text.take position, char ∈ set := by
  obtain ⟨inside, -, earlier⟩ := List.findIdx?_eq_some_iff_getElem.mp found
  intro char member
  obtain ⟨index, below, rfl⟩ := List.mem_take_iff_getElem.mp member
  simpa using earlier index (by omega)

/-- Stripping commutes with a change that respects the set. -/
theorem strip_map
    {set : CppString} {change : Char → Char}
    (respects : ∀ char, change char ∈ set ↔ char ∈ set)
    (text : CppString) :
    strip set (text.map change) = (strip set text).map change := by
  have same : set.contains ∘ change = set.contains := by
    funext char
    rw [Function.comp_apply, List.contains_eq_mem, List.contains_eq_mem,
      decide_eq_decide]
    exact respects char
  rw [strip, strip, List.dropWhile_map, same, ← List.map_reverse,
    List.dropWhile_map, same, List.map_reverse]

/-- The text under `std::tolower`. -/
def lower (text : CppString) : CppString :=
  text.map Char.toLower

/-- Only small letters are lower case of anything else. -/
theorem eq_of_toLower
    {char target : Char} (notLower : target.isLower = false)
    (lowered : char.toLower = target) : char = target := by
  unfold Char.toLower at lowered
  split at lowered
  · rename_i upper
    have outside : (decide ('a'.val ≤ target.val) &&
        decide (target.val ≤ 'z'.val)) = false := notLower
    subst lowered
    obtain ⟨first, last⟩ := upper
    rw [ge_iff_le, UInt32.le_iff_toNat_le] at first
    rw [UInt32.le_iff_toNat_le] at last
    have distance : ('a'.val - 'A'.val).toNat = 32 := by decide
    have largest : 'Z'.val.toNat = 90 := by decide
    have smallest : 'A'.val.toNat = 65 := by decide
    have lastLower : 'z'.val.toNat = 122 := by decide
    have firstLower : 'a'.val.toNat = 97 := by decide
    simp only [Bool.and_eq_false_iff, decide_eq_false_iff_not,
      UInt32.le_iff_toNat_le, UInt32.toNat_add, distance] at outside
    omega
  · exact lowered

/-! ## Numerals -/

/-- `std::to_string` of an integer. -/
def stdToString (value : Int) : CppString :=
  if value < 0 then '-' :: Nat.toDigits 10 value.natAbs
  else Nat.toDigits 10 value.natAbs

@[simp]
theorem stdToString_natCast (value : Nat) :
    stdToString (value : Int) = Nat.toDigits 10 value := by
  simp [stdToString]

/-- `isspace` in the C locale. -/
def isSpace (char : Char) : Bool :=
  char = ' ' || (9 ≤ char.toNat && char.toNat ≤ 13)

/--
`std::stoi(text)`: leading blanks, an optional sign, then the longest run of
digits.  No digit is `invalid_argument`, a value outside `int` is
`out_of_range`; whatever follows the digits is ignored.
-/
def stoi (text : CppString) : Except StdException Int :=
  let unblanked := text.dropWhile isSpace
  let unsigned :=
    if unblanked.head? = some '-' ∨ unblanked.head? = some '+'
    then unblanked.tail else unblanked
  let digits := unsigned.takeWhile Char.isDigit
  if digits = [] then .error .invalidArgument
  else
    let magnitude : Int := Nat.ofDigitChars 10 digits 0
    let value := if unblanked.head? = some '-' then -magnitude else magnitude
    if -2147483648 ≤ value ∧ value ≤ 2147483647 then .ok value
    else .error .outOfRange

theorem isDigit_of_mem_toDigits
    {value : Nat} {char : Char}
    (member : char ∈ Nat.toDigits 10 value) :
    char.isDigit = true :=
  Nat.isDigit_of_mem_toDigits (by decide) (by decide) member

theorem isDigit_bounds
    {char : Char} (digit : char.isDigit = true) :
    48 ≤ char.toNat ∧ char.toNat ≤ 57 := by
  simp only [Char.isDigit, Bool.and_eq_true, decide_eq_true_eq,
    ge_iff_le, UInt32.le_iff_toNat_le] at digit
  exact digit

theorem not_mem_toDigits
    {char : Char} (other : char.isDigit = false) (value : Nat) :
    char ∉ Nat.toDigits 10 value := by
  intro member
  rw [isDigit_of_mem_toDigits member] at other
  cases other

/-- Different integers are written differently. -/
theorem stdToString_inj
    {one other : Int} (same : stdToString one = stdToString other) :
    one = other := by
  have read : ∀ {left right : Nat},
      Nat.toDigits 10 left = Nat.toDigits 10 right → left = right := by
    intro left right digits
    have values :=
      congrArg (fun digits => Nat.ofDigitChars 10 digits 0) digits
    simpa only [Nat.ofDigitChars_ten_toDigits] using values
  have noMinus : ∀ value rest, Nat.toDigits 10 value ≠ '-' :: rest := by
    intro value rest split
    refine @not_mem_toDigits '-' (by decide) value ?_
    rw [split]
    exact List.mem_cons_self
  unfold stdToString at same
  split_ifs at same
  · have magnitudes := read (List.cons.inj same).2
    omega
  · exact absurd same.symm (noMinus _ _)
  · exact absurd same (noMinus _ _)
  · have magnitudes := read same
    omega

theorem takeWhile_isDigit_append
    {digits : CppString}
    (allDigits : ∀ char ∈ digits, char.isDigit = true)
    (rest : CppString)
    (stop : ∀ char ∈ rest.head?, char.isDigit = false) :
    (digits ++ rest).takeWhile Char.isDigit = digits := by
  rw [List.takeWhile_append_of_pos allDigits]
  cases rest with
  | nil => simp
  | cons head tail =>
      have halted : head.isDigit = false := stop head rfl
      simp [halted]

/-- Digits are read whatever other text follows them. -/
theorem stoi_digits_append
    {digits : CppString} (nonempty : digits ≠ [])
    (allDigits : ∀ char ∈ digits, char.isDigit = true)
    (rest : CppString)
    (stop : ∀ char ∈ rest.head?, char.isDigit = false) :
    stoi (digits ++ rest) =
      if Nat.ofDigitChars 10 digits 0 ≤ 2147483647
      then .ok (Nat.ofDigitChars 10 digits 0 : Int)
      else .error .outOfRange := by
  obtain ⟨head, tail, split⟩ : ∃ head tail, digits = head :: tail :=
    List.exists_cons_of_ne_nil nonempty
  have headDigit : head.isDigit = true :=
    allDigits head (by simp [split])
  have bounds := isDigit_bounds headDigit
  have notSpace : isSpace head = false := by
    have notBlank : head ≠ ' ' := by
      rintro rfl
      revert headDigit
      decide
    simp only [isSpace, notBlank, decide_false, Bool.false_or,
      Bool.and_eq_false_iff, decide_eq_false_iff_not]
    omega
  have notMinus : head ≠ '-' := by
    rintro rfl
    revert headDigit
    decide
  have notPlus : head ≠ '+' := by
    rintro rfl
    revert headDigit
    decide
  have unblanked : (digits ++ rest).dropWhile isSpace = digits ++ rest := by
    rw [split, List.cons_append,
      List.dropWhile_cons_of_neg (by simp [notSpace])]
  have first : (digits ++ rest).head? = some head := by
    rw [split]
    rfl
  have unsignedHead :
      ¬ (some head = some '-' ∨ some head = some '+') := by
    simp [notMinus, notPlus]
  have positive : ¬ (some head = some '-') := by
    simp [notMinus]
  simp only [stoi, unblanked, first, if_neg unsignedHead, if_neg positive,
    takeWhile_isDigit_append allDigits rest stop, if_neg nonempty]
  split_ifs <;> first | rfl | omega

/-- Blanks in front of a number are skipped. -/
theorem stoi_append_of_space
    {space : CppString} (blank : ∀ char ∈ space, isSpace char = true)
    (text : CppString) : stoi (space ++ text) = stoi text := by
  rw [stoi, stoi, List.dropWhile_append_of_pos blank]

/-- A decimal numeral is read back whatever non-digit text follows it. -/
theorem stoi_toDigits_append
    (value : Nat) (rest : CppString)
    (stop : ∀ char ∈ rest.head?, char.isDigit = false) :
    stoi (Nat.toDigits 10 value ++ rest) =
      if value ≤ 2147483647 then .ok (value : Int)
      else .error .outOfRange := by
  rw [stoi_digits_append Nat.toDigits_ne_nil
    (fun char => isDigit_of_mem_toDigits) rest stop,
    Nat.ofDigitChars_ten_toDigits]

/-- Few digits make a small number. -/
theorem ofDigitChars_lt
    {digits : CppString}
    (allDigits : ∀ char ∈ digits, char.isDigit = true) :
    Nat.ofDigitChars 10 digits 0 < Nat.pow 10 digits.length := by
  induction digits using List.reverseRecOn with
  | nil => exact Nat.one_pos
  | append_singleton digits last ih =>
      have earlier := ih (fun char member => allDigits char (by simp [member]))
      have bounds := isDigit_bounds (allDigits last (by simp))
      have zero : '0'.toNat = 48 := rfl
      rw [Nat.ofDigitChars_append, Nat.ofDigitChars_cons,
        Nat.ofDigitChars_nil, List.length_append, List.length_singleton,
        zero]
      show 10 * Nat.ofDigitChars 10 digits 0 + (last.toNat - 48) <
        Nat.pow 10 digits.length * 10
      omega

/-- A short text that starts with a digit is read without an exception. -/
theorem stoi_isOk_of_short
    {head : Char} {tail : CppString} (digit : head.isDigit = true)
    (short : tail.length ≤ 8) :
    ∃ value, stoi (head :: tail) = .ok value := by
  have allDigits : ∀ char ∈ (head :: tail).takeWhile Char.isDigit,
      char.isDigit = true := fun _ => List.mem_takeWhile_imp
  have nonempty : (head :: tail).takeWhile Char.isDigit ≠ [] := by
    simp [digit]
  have stop : ∀ char ∈ ((head :: tail).dropWhile Char.isDigit).head?,
      char.isDigit = false := by
    intro char first
    have halted := List.head?_dropWhile_not Char.isDigit (head :: tail)
    rwa [Option.mem_def.mp first] at halted
  have read := stoi_digits_append nonempty allDigits _ stop
  rw [List.takeWhile_append_dropWhile] at read
  have few : ((head :: tail).takeWhile Char.isDigit).length ≤ 9 :=
    (List.takeWhile_sublist _).length_le.trans (Nat.succ_le_succ short)
  have small := ofDigitChars_lt allDigits
  have bound : Nat.pow 10 ((head :: tail).takeWhile Char.isDigit).length ≤
      1000000000 := Nat.pow_le_pow_right (by decide) few
  rw [if_pos (by omega)] at read
  exact ⟨_, read⟩

/-! ## Lines -/

/--
The lines that repeated `std::getline` reads: the text is cut at every line
feed, and a line feed at the very end opens no further line.
-/
def getlines : CppString → List CppString
  | [] => []
  | head :: tail =>
      if head = '\n' then [] :: getlines tail
      else
        match getlines tail with
        | [] => [[head]]
        | line :: lines => (head :: line) :: lines

theorem getlines_cons_of_ne
    {head : Char} (tail : CppString) (other : head ≠ '\n') :
    getlines (head :: tail) =
      (head :: (getlines tail).headD []) :: (getlines tail).tail := by
  simp only [getlines, if_neg other]
  cases getlines tail <;> rfl

theorem getlines_of_no_newline
    {line : CppString} (unbroken : '\n' ∉ line) (nonempty : line ≠ []) :
    getlines line = [line] := by
  induction line with
  | nil => exact absurd rfl nonempty
  | cons head tail ih =>
      simp only [List.mem_cons, not_or] at unbroken
      rw [getlines_cons_of_ne tail (Ne.symm unbroken.1)]
      by_cases empty : tail = []
      · subst tail
        rfl
      · rw [ih unbroken.2 empty]
        rfl

theorem getlines_append_newline
    {line : CppString} (unbroken : '\n' ∉ line) (rest : CppString) :
    getlines (line ++ '\n' :: rest) = line :: getlines rest := by
  induction line with
  | nil => simp [getlines]
  | cons head tail ih =>
      simp only [List.mem_cons, not_or] at unbroken
      rw [List.cons_append,
        getlines_cons_of_ne _ (Ne.symm unbroken.1), ih unbroken.2]
      rfl

theorem not_mem_newline_of_mem_getlines
    {text line : CppString} (member : line ∈ getlines text) :
    '\n' ∉ line := by
  induction text generalizing line with
  | nil => simp [getlines] at member
  | cons head tail ih =>
      by_cases newline : head = '\n'
      · simp only [getlines, if_pos newline, List.mem_cons] at member
        rcases member with rfl | inTail
        · simp
        · exact ih inTail
      · rw [getlines_cons_of_ne tail newline, List.mem_cons] at member
        rcases member with rfl | inTail
        · cases lines : getlines tail with
          | nil => simpa using Ne.symm newline
          | cons line others =>
              have unbroken : '\n' ∉ line := ih (by simp [lines])
              simp [Ne.symm newline, unbroken]
        · exact ih (List.mem_of_mem_tail inTail)

/-- `if (!line.empty() && line.back() == '\r') line.pop_back();` -/
def popCarriageReturn (line : CppString) : CppString :=
  if line.getLast? = some '\r' then line.dropLast else line

theorem popCarriageReturn_append (line : CppString) :
    popCarriageReturn (line ++ ['\r']) = line := by
  simp [popCarriageReturn]

theorem popCarriageReturn_of_ne
    {line : CppString} (other : line.getLast? ≠ some '\r') :
    popCarriageReturn line = line := by
  simp [popCarriageReturn, other]

end MinimalSip.Lib.Cpp

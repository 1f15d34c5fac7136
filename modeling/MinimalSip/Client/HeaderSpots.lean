import MinimalSip.Client.Readers

/-!
# Where the client's expressions find a header

An expression such as `To\s*:\s*(.+)` knows nothing of header lines.  It
matches wherever the name stands in any case, be it the end of another name
or part of a value, with white space, line ends included, and a colon behind.
What it captures is what stands there the first time.

`headerTail` is the text behind such a place, and `firstOf` finds the first.
-/

namespace MinimalSip.Client

open MinimalSip.Lib.Cpp
open MinimalSip.Lib.Regex
open MinimalSip.Common
open MinimalSip.Common.SIPMessage

/-! ## The first place -/

/-- Behind the first of two colons stands what is behind the second. -/
theorem suffix_of_first_colon
    {front whole rest after : CppString}
    (noColon : ':' ∉ front)
    (same : front ++ ':' :: rest = whole ++ ':' :: after) :
    after <:+ rest := by
  rcases List.append_eq_append_iff.mp same with
    ⟨more, rfl, split⟩ | ⟨more, rfl, split⟩
  · cases more with
    | nil =>
        obtain ⟨-, rfl⟩ := List.cons.inj split
        exact List.suffix_rfl
    | cons head others =>
        obtain ⟨-, rfl⟩ := List.cons.inj split
        exact ⟨others ++ [':'], by simp⟩
  · cases more with
    | nil =>
        obtain ⟨-, rfl⟩ := List.cons.inj split
        exact List.suffix_rfl
    | cons head others =>
        obtain ⟨rfl, -⟩ := List.cons.inj split
        simp at noColon

/-- A place begins with a text without a colon, the colon and what is read. -/
def UpToColon (tail : CppString → Option CppString) : Prop :=
  ∀ text rest, tail text = some rest →
    ∃ word, text = word ++ ':' :: rest ∧ ':' ∉ word

theorem headerTail_upToColon
    {name : CppString} (noColon : ':' ∉ name) :
    UpToColon (headerTail name) := by
  intro text rest found
  obtain ⟨word, space, split, named, blank⟩ := headerTail_split found
  refine ⟨word ++ space, by rw [split, List.append_assoc], ?_⟩
  rw [List.mem_append, not_or]
  constructor
  · intro inWord
    have lowered : ':' ∈ lower name := by
      rw [← named]
      exact List.mem_map.mpr ⟨':', inWord, rfl⟩
    obtain ⟨char, inName, isColon⟩ := List.mem_map.mp lowered
    exact noColon (eq_of_toLower (by decide) isColon ▸ inName)
  · exact fun inSpace => absurd (blank ':' inSpace) (by decide)

/-- The first place of a text is not behind a place that is there. -/
theorem exists_first
    {tail : CppString → Option CppString} (upToColon : UpToColon tail)
    {own after : CppString} (reads : tail own = some after)
    (front : CppString) :
    ∃ rest, firstOf tail (front ++ own) = some rest ∧ after <:+ rest := by
  induction front with
  | nil => exact ⟨after, firstOf_of_read reads, List.suffix_rfl⟩
  | cons head others ih =>
      rw [List.cons_append, firstOf]
      cases here : tail (head :: (others ++ own)) with
      | none =>
          rw [Option.none_or]
          exact ih
      | some rest =>
          refine ⟨rest, Option.some_or, ?_⟩
          obtain ⟨ownWord, rfl, -⟩ := upToColon own after reads
          obtain ⟨word, split, noColon⟩ := upToColon _ rest here
          refine @suffix_of_first_colon word (head :: (others ++ ownWord)) _ _
            noColon ?_
          rw [← split]
          simp

/-! ## What is read behind a place -/

theorem inLine_of_not_space
    {char : Char} (solid : isSpace char = false) : inLine char = true := by
  rw [inLine, Bool.and_eq_true, decide_eq_true_eq, decide_eq_true_eq]
  constructor
  · rintro rfl
    exact absurd solid (by decide)
  · rintro rfl
    exact absurd solid (by decide)

theorem exists_lineBehind
    {text : CppString} (left : ∃ char ∈ text, inLine char = true) :
    ∃ line, lineBehind text = some line :=
  exists_skipping_run (fun _ => inLine_of_not_space) left

theorem exists_wordBehind
    {text : CppString} (left : ∃ char ∈ text, isSpace char = false) :
    ∃ word, wordBehind text = some word :=
  exists_skipping_run (fun _ solid => by simp [solid]) (by simpa using left)

/-! ## The text of a message -/

/-- A header that is there stands on its line in the text. -/
theorem serialize_at_header
    {message : SIPMessage} {name : CppString}
    (present : message.getHeader name ≠ [])
    (other : name ≠ "Content-Length".toList) :
    ∃ front more, message.serialize = front ++ (name ++ ':' ::
      (' ' :: (message.getHeader name ++ '\r' :: '\n' :: more))) := by
  have kept : ⟨name, message.getHeader name⟩ ∈
      message.updateContentLength.headers :=
    mem_assignFirst_of_ne (mem_of_getHeader_ne_nil present) other
  obtain ⟨earlier, later, split⟩ := List.append_of_mem kept
  refine ⟨message.startLine ++ "\r\n".toList ++ earlier.flatMap
      (fun header => headerLine header ++ "\r\n".toList),
    later.flatMap (fun header => headerLine header ++ "\r\n".toList) ++
      "\r\n".toList ++ message.body, ?_⟩
  unfold serialize
  dsimp only
  rw [split]
  simp [headerLine]

/-- The first place of a header that is there is at its line or earlier. -/
theorem exists_first_of_header
    {message : SIPMessage} {name : CppString}
    (present : message.getHeader name ≠ [])
    (other : name ≠ "Content-Length".toList) (noColon : ':' ∉ name) :
    ∃ rest, firstOf (headerTail name) message.serialize = some rest ∧
      ∀ char ∈ ' ' :: message.getHeader name, char ∈ rest := by
  obtain ⟨front, more, split⟩ := serialize_at_header present other
  have own := @headerTail_append name name []
    (' ' :: (message.getHeader name ++ '\r' :: '\n' :: more)) rfl
      (List.forall_mem_nil _)
  obtain ⟨rest, first, ends⟩ :=
    exists_first (headerTail_upToColon noColon) own front
  refine ⟨rest, split ▸ first, fun char member => ends.subset ?_⟩
  rw [← List.cons_append]
  exact List.mem_append_left _ member

theorem inLine_of_lineBehind
    {text line : CppString} (reads : lineBehind text = some line) :
    ∀ char ∈ line, inLine char = true := by
  obtain ⟨rest, run⟩ := exists_of_skipping reads
  exact mem_longestRun run

theorem inLine_of_headerOf (raw name : CppString) :
    ∀ char ∈ SIPMessageFactory.headerOf raw name, inLine char = true := by
  rw [headerOf_eq]
  cases first : firstOf (fun text =>
      (headerTail name text).bind lineBehind) raw with
  | none => exact List.forall_mem_nil _
  | some line =>
      obtain ⟨text, -, found⟩ := exists_of_firstOf first
      obtain ⟨rest, -, reads⟩ := Option.bind_eq_some_iff.mp found
      exact inLine_of_lineBehind reads

/-- What `get_header` of `build_response` reads. -/
theorem headerOf_of_first
    {raw name rest line : CppString}
    (first : firstOf (headerTail name) raw = some rest)
    (reads : lineBehind rest = some line) :
    SIPMessageFactory.headerOf raw name = line := by
  rw [headerOf_eq, firstOf_bind first reads]
  rfl

end MinimalSip.Client

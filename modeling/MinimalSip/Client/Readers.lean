import MinimalSip.Client.SipClientState

/-!
# The client's expressions as readers

Each expression of the client is a reader: a function that says what is
captured at a place of a text, if the expression matches there.  The search
captures what its reader reads first.
-/

namespace MinimalSip.Client

open MinimalSip.Lib.Cpp
open MinimalSip.Lib.Regex
open MinimalSip.Common

/-! ## Places that read like a header -/

/-- What stands behind white space and a colon. -/
def colonTail (text : CppString) : Option CppString :=
  match text.dropWhile isSpace with
  | [] => none
  | head :: rest => if head = ':' then some rest else none

/-- What stands behind the name, white space and a colon. -/
def headerTail (name text : CppString) : Option CppString :=
  if lower (text.take name.length) = lower name
  then colonTail (text.drop name.length) else none

/-- What a reader reads behind white space and a colon. -/
theorem behind_colon
    {β : Type} (read : CppString → Option β) (text : CppString) :
    behind blanks (behind (.one (· = ':')) read) text =
      (colonTail text).bind read := by
  have refused : ∀ head tail, isSpace head = true →
      behind (.one (· = ':')) read (head :: tail) = none := by
    intro head tail space
    have other : head ≠ ':' := by
      rintro rfl
      exact absurd space (by decide)
    rw [behind, if_neg (by simpa using other)]
  rw [blanks, behind, skipping_eq_dropWhile refused, colonTail]
  cases text.dropWhile isSpace with
  | nil => rfl
  | cons head rest =>
      by_cases colon : head = ':'
      · simp [behind, colon]
      · simp [behind, colon]

theorem behind_header
    {β : Type} (name : CppString) (read : CppString → Option β)
    (text : CppString) :
    behind (noCase name) (behind blanks (behind (.one (· = ':')) read)) text =
      (headerTail name text).bind read := by
  rw [noCase, behind_literal Char.toLower, headerTail, lower, lower]
  by_cases named : (text.take name.length).map Char.toLower =
      name.map Char.toLower
  · rw [if_pos named, if_pos named]
    exact behind_colon read _
  · rw [if_neg named, if_neg named]
    rfl

theorem headerTail_append
    {name front space : CppString} (rest : CppString)
    (named : lower front = lower name)
    (blank : ∀ char ∈ space, isSpace char = true) :
    headerTail name (front ++ (space ++ ':' :: rest)) = some rest := by
  have sizes : name.length = front.length := by
    simpa [lower] using (congrArg List.length named).symm
  have colon : colonTail (space ++ ':' :: rest) = some rest := by
    rw [colonTail, List.dropWhile_append_of_pos blank,
      List.dropWhile_cons_of_neg (by decide)]
    simp
  rw [headerTail, sizes, List.take_left, List.drop_left, if_pos named, colon]

theorem headerTail_split
    {name text rest : CppString} (found : headerTail name text = some rest) :
    ∃ front space, text = front ++ (space ++ ':' :: rest) ∧
      lower front = lower name ∧ ∀ char ∈ space, isSpace char = true := by
  unfold headerTail at found
  split_ifs at found with named
  unfold colonTail at found
  split at found
  · cases found
  next head tail dropped =>
    split_ifs at found with colon
    obtain rfl := Option.some.inj found
    refine ⟨_, (text.drop name.length).takeWhile isSpace, ?_, named,
      fun char member => List.mem_takeWhile_imp member⟩
    rw [← colon, ← dropped, List.takeWhile_append_dropWhile,
      List.take_append_drop]

/-! ## What is read behind a place -/

/-- The rest of a line, behind as much white space as leaves some of it. -/
def lineBehind : CppString → Option CppString :=
  skipping isSpace (longestRun inLine)

/-- The word behind white space. -/
def wordBehind : CppString → Option CppString :=
  skipping isSpace (longestRun (fun char => !isSpace char))

section Agreement

variable {inner : Pattern Char} {read : CppString → Option CppString}

theorem groupless_noCase (name : CppString) : Groupless (noCase name) :=
  groupless_literal _ name

/-- A name, blanks and a colon in front of what a reader agrees with. -/
theorem agrees_header (agrees : Agrees inner read) (name : CppString) :
    Agrees (.seq (noCase name) (.seq blanks (.seq (.one (· = ':')) inner)))
      (fun text => (headerTail name text).bind read) := by
  have colon : Agrees (.seq (.one (· = ':')) inner) _ := agrees.behind trivial
  have spaced : Agrees (.seq blanks (.seq (.one (· = ':')) inner)) _ :=
    colon.behind trivial
  have named := spaced.behind (groupless_noCase name)
  intro text
  dsimp only
  rw [← behind_header]
  exact named text

theorem agrees_line :
    Agrees (.seq blanks (.group (oneOrMore inLine))) lineBehind :=
  agrees_many isSpace (agrees_run inLine)

theorem agrees_word :
    Agrees (.seq blanks (.group (oneOrMore (fun char => !isSpace char))))
      wordBehind :=
  agrees_many isSpace (agrees_run _)

end Agreement

theorem headerOf_eq (raw name : CppString) :
    SIPMessageFactory.headerOf raw name =
      (firstOf (fun text => (headerTail name text).bind lineBehind)
        raw).getD [] := by
  have agrees : Agrees (SIPMessageFactory.headerPattern name) _ :=
    agrees_header agrees_line name
  rw [SIPMessageFactory.headerOf, agrees.firstGroup_eq]

/-! ## The expressions for responses -/

/-- What stands behind a Call-ID or its short form. -/
def callIdTail (text : CppString) : Option CppString :=
  (headerTail "Call-ID" text).or (headerTail "i" text)

/-- What stands behind a number and white space, if it begins with a word. -/
def numberTail (text : CppString) : Option CppString :=
  let number := text.dropWhile isSpace
  let gap := number.dropWhile Char.isDigit
  let rest := gap.dropWhile isSpace
  if number.takeWhile Char.isDigit = [] ∨ gap.takeWhile isSpace = [] ∨
      rest.takeWhile isWord = [] then none
  else some rest

/-- What stands behind a CSeq and its number. -/
def cseqTail (text : CppString) : Option CppString :=
  (headerTail "CSeq" text).bind numberTail

/-- The number in front of what `numberTail` leaves. -/
def numberBehind (text : CppString) : Option CppString :=
  (numberTail text).map
    (fun _ => (text.dropWhile isSpace).takeWhile Char.isDigit)

/-- The number behind a CSeq, if a word follows. -/
def numberAt (text : CppString) : Option CppString :=
  (headerTail "CSeq" text).bind numberBehind

/-- Three digits. -/
def threeDigits : CppString → Option CppString
  | first :: second :: third :: _ =>
      if first.isDigit && second.isDigit && third.isDigit
      then some [first, second, third] else none
  | _ => none

/-- Behind the version and white space stand three digits. -/
def codeAt (text : CppString) : Option CppString :=
  if "SIP/2.0".toList <+: text then
    let gap := text.drop 7
    if gap.takeWhile isSpace = [] then none
    else threeDigits (gap.dropWhile isSpace)
  else none

section Readers

theorem headerTail_i_of_callId
    {text rest : CppString} (found : headerTail "Call-ID" text = some rest) :
    headerTail "i" text = none := by
  obtain ⟨front, space, rfl, named, -⟩ := headerTail_split found
  cases front with
  | nil => exact absurd named (by decide)
  | cons head others =>
      have first : head.toLower = 'c' := (List.cons.inj named).1
      refine if_neg (fun short => ?_)
      have second : head.toLower = 'i' := (List.cons.inj short).1
      rw [first] at second
      exact absurd second (by decide)

theorem agrees_callId :
    Agrees callIdPattern (fun text => (callIdTail text).bind wordBehind) := by
  have colon : Agrees (.seq (.one (· = ':')) (.seq blanks
      (.group (oneOrMore (fun char => !isSpace char))))) _ :=
    agrees_word.behind trivial
  have spaced : Agrees (.seq blanks (.seq (.one (· = ':')) (.seq blanks
      (.group (oneOrMore (fun char => !isSpace char)))))) _ :=
    colon.behind trivial
  have named := spaced.behind (show Groupless
    (.alt (noCase "Call-ID") (noCase "i")) from
      ⟨groupless_noCase _, groupless_noCase _⟩)
  intro text
  have read := named text
  rw [behind, behind_header, behind_header] at read
  rw [callIdPattern, read]
  congr 1
  dsimp only
  rw [callIdTail]
  cases long : headerTail "Call-ID" text with
  | none => rfl
  | some rest =>
      rw [headerTail_i_of_callId long]
      simp

/-- No word begins at white space. -/
theorem no_word_at_space
    (head : Char) (tail : CppString) (space : isSpace head = true) :
    longestRun isWord (head :: tail) = none := by
  refine longestRun_of_not tail (Bool.eq_false_iff.mpr (fun word => ?_))
  rw [not_space_of_word word] at space
  cases space

/-- No word stands behind white space where a digit stands. -/
theorem no_gap_at_digit
    (head : Char) (tail : CppString) (digit : head.isDigit = true) :
    behind (oneOrMore isSpace) (longestRun isWord) (head :: tail) =
      none := by
  have solid := isSpace_of_digit digit
  rw [behind_oneOrMore no_word_at_space,
    List.takeWhile_cons_of_neg (by simp [solid]), if_pos rfl]

theorem behind_number (text : CppString) :
    behind blanks (behind (oneOrMore Char.isDigit)
        (behind (oneOrMore isSpace) (longestRun isWord))) text =
      (numberTail text).map (List.takeWhile isWord) := by
  have noNumber : ∀ head tail, isSpace head = true →
      behind (oneOrMore Char.isDigit)
        (behind (oneOrMore isSpace) (longestRun isWord)) (head :: tail) =
          none := by
    intro head tail space
    rw [behind_oneOrMore no_gap_at_digit, List.takeWhile_cons_of_neg
      (by simp [isDigit_of_space space]), if_pos rfl]
  rw [blanks, behind, skipping_eq_dropWhile noNumber,
    behind_oneOrMore no_gap_at_digit, behind_oneOrMore no_word_at_space,
    longestRun_eq, numberTail]
  by_cases number : (text.dropWhile isSpace).takeWhile Char.isDigit = []
  · rw [if_pos number, if_pos (Or.inl number), Option.map_none]
  rw [if_neg number]
  by_cases gap : ((text.dropWhile isSpace).dropWhile
      Char.isDigit).takeWhile isSpace = []
  · rw [if_pos gap, if_pos (Or.inr (Or.inl gap)), Option.map_none]
  rw [if_neg gap]
  by_cases word : (((text.dropWhile isSpace).dropWhile
      Char.isDigit).dropWhile isSpace).takeWhile isWord = []
  · rw [if_pos word, if_pos (Or.inr (Or.inr word)), Option.map_none]
  · rw [if_neg word, if_neg (not_or.mpr ⟨number, not_or.mpr ⟨gap, word⟩⟩),
      Option.map_some]

theorem agrees_cseqMethod :
    Agrees cseqMethodPattern
      (fun text => (cseqTail text).map (List.takeWhile isWord)) := by
  have gap : Agrees (.seq (oneOrMore isSpace)
      (.group (oneOrMore isWord))) _ :=
    (agrees_run isWord).behind ⟨trivial, trivial⟩
  have number : Agrees (.seq (oneOrMore Char.isDigit) (.seq
      (oneOrMore isSpace) (.group (oneOrMore isWord)))) _ :=
    gap.behind ⟨trivial, trivial⟩
  have spaced : Agrees (.seq blanks (.seq (oneOrMore Char.isDigit) (.seq
      (oneOrMore isSpace) (.group (oneOrMore isWord))))) _ :=
    number.behind trivial
  rw [funext behind_number] at spaced
  have whole := agrees_header spaced "CSeq"
  intro text
  dsimp only
  rw [cseqTail, Option.map_bind]
  exact whole text

/-- A number is captured if white space and a word stand behind it. -/
theorem agrees_number :
    Agrees (.seq blanks (.seq (.group (oneOrMore Char.isDigit))
      (.seq (oneOrMore isSpace) (oneOrMore isWord)))) numberBehind := by
  have gap : Agrees (.seq (oneOrMore isSpace) (.group (oneOrMore isWord)))
      (fun text => behind (oneOrMore isSpace) (longestRun isWord) text) :=
    (agrees_run isWord).behind ⟨trivial, trivial⟩
  have matchesAt : ∀ text,
      attempts (.seq (oneOrMore isSpace) (oneOrMore isWord)) text = [] ↔
        behind (oneOrMore isSpace) (longestRun isWord) text = none :=
    fun text => (attempts_seq_group_eq_nil_iff text).symm.trans
      (gap.attempts_eq_nil_iff text)
  have number := agrees_many isSpace
    (agrees_run_before matchesAt no_gap_at_digit)
  have noNumber : ∀ head tail, isSpace head = true →
      (behind (oneOrMore isSpace) (longestRun isWord)
          ((head :: tail).dropWhile Char.isDigit)).bind
        (fun _ => longestRun Char.isDigit (head :: tail)) = none := by
    intro head tail space
    rw [longestRun_of_not tail (isDigit_of_space space)]
    exact Option.bind_fun_none _
  intro text
  refine (number text).trans (congrArg (Option.map some) ?_)
  rw [skipping_eq_dropWhile noNumber, behind_oneOrMore no_word_at_space,
    longestRun_eq, longestRun_eq, numberBehind, numberTail]
  by_cases digits : (text.dropWhile isSpace).takeWhile Char.isDigit = []
  · simp [digits]
  by_cases spaced : ((text.dropWhile isSpace).dropWhile
      Char.isDigit).takeWhile isSpace = []
  · simp [spaced]
  by_cases word : (((text.dropWhile isSpace).dropWhile
      Char.isDigit).dropWhile isSpace).takeWhile isWord = []
  · simp [word]
  · simp [digits, spaced, word]

theorem agrees_cseqNumber :
    Agrees SIPMessageFactory.cseqNumberPattern numberAt :=
  agrees_header agrees_number "CSeq"

theorem agrees_threeDigits :
    Agrees (.group (.seq (.one Char.isDigit) (.seq (.one Char.isDigit)
      (.one Char.isDigit)))) threeDigits := by
  intro text
  rcases text with - | ⟨first, - | ⟨second, - | ⟨third, rest⟩⟩⟩
  · rfl
  · by_cases one : first.isDigit = true <;>
      simp [attempts, threeDigits, one]
  · by_cases one : first.isDigit = true <;>
      by_cases two : second.isDigit = true <;>
        simp [attempts, threeDigits, one, two]
  · by_cases one : first.isDigit = true <;>
      by_cases two : second.isDigit = true <;>
        by_cases three : third.isDigit = true <;>
          simp [attempts, threeDigits, one, two, three]

theorem agrees_statusCode : Agrees statusCodePattern codeAt := by
  have noDigits : ∀ head tail, isSpace head = true →
      threeDigits (head :: tail) = none := by
    intro head tail space
    have noDigit : head.isDigit = false := isDigit_of_space space
    rcases tail with - | ⟨second, - | ⟨third, rest⟩⟩
    · rfl
    · rfl
    · simp [threeDigits, noDigit]
  have gap : Agrees (.seq (oneOrMore isSpace) (.group (.seq
      (.one Char.isDigit) (.seq (.one Char.isDigit)
        (.one Char.isDigit))))) _ :=
    agrees_threeDigits.behind ⟨trivial, trivial⟩
  have whole : Agrees statusCodePattern _ :=
    gap.behind (groupless_literal _ "SIP/2.0".toList)
  intro text
  have read := behind_literal (id : Char → Char) "SIP/2.0".toList
    (behind (oneOrMore isSpace) threeDigits) text
  refine (whole text).trans (congrArg (Option.map some) (read.trans ?_))
  rw [codeAt]
  have starts : (text.take "SIP/2.0".toList.length).map id =
      "SIP/2.0".toList.map id ↔ "SIP/2.0".toList <+: text := by
    rw [List.map_id, List.map_id, List.prefix_iff_eq_take]
    exact eq_comm
  by_cases version : "SIP/2.0".toList <+: text
  · rw [if_pos (starts.mpr version), if_pos version,
      behind_oneOrMore noDigits]
    rfl
  · rw [if_neg (mt starts.mp version), if_neg version]

theorem extractCallId_eq (raw : CppString) :
    extractCallId raw =
      (firstOf (fun text => (callIdTail text).bind wordBehind) raw).getD
        [] := by
  rw [extractCallId, agrees_callId.firstGroup_eq]

theorem extractCseqMethod_eq (raw : CppString) :
    extractCseqMethod raw =
      ((firstOf cseqTail raw).map
        (fun rest => toUpper (rest.takeWhile isWord))).getD [] := by
  rw [extractCseqMethod, agrees_cseqMethod.firstGroup_eq, firstOf_map,
    Option.map_map]
  rfl

theorem extractStatusCode_eq (raw : CppString) :
    extractStatusCode raw =
      match firstOf codeAt raw with
      | some digits => stoi digits
      | none => .ok 0 := by
  rw [extractStatusCode, agrees_statusCode.firstGroup_eq]
  rfl

theorem cseqNumber_eq (raw : CppString) :
    SIPMessageFactory.cseqNumber raw =
      match firstOf numberAt raw with
      | some digits => stoi digits
      | none => .ok 0 := by
  rw [SIPMessageFactory.cseqNumber, agrees_cseqNumber.firstGroup_eq]
  rfl

end Readers

/-! ## Status codes -/

/-- A status code of three digits. -/
structure ThreeDigits (digits : CppString) : Prop where
  three : digits.length = 3
  allDigits : ∀ char ∈ digits, char.isDigit = true

theorem threeDigits_split
    {text digits : CppString} (reads : threeDigits text = some digits) :
    ThreeDigits digits ∧ ∃ rest, text = digits ++ rest := by
  rcases text with - | ⟨first, - | ⟨second, - | ⟨third, rest⟩⟩⟩
  · cases reads
  · cases reads
  · cases reads
  · rw [threeDigits] at reads
    split_ifs at reads with digit
    obtain rfl := Option.some.inj reads
    simp only [Bool.and_eq_true] at digit
    exact ⟨⟨rfl, by simp [digit]⟩, rest, rfl⟩

/-- A code that is read stands behind the version and white space. -/
theorem codeAt_split
    {text digits : CppString} (reads : codeAt text = some digits) :
    ThreeDigits digits ∧ ∃ gap rest,
      text = "SIP/2.0".toList ++ (gap ++ (digits ++ rest)) ∧
        gap ≠ [] ∧ ∀ char ∈ gap, isSpace char = true := by
  unfold codeAt at reads
  split_ifs at reads with version
  obtain ⟨after, rfl⟩ := version
  have dropped : ("SIP/2.0".toList ++ after).drop 7 = after :=
    List.drop_left' rfl
  rw [dropped] at reads
  dsimp only at reads
  split_ifs at reads with spaced
  obtain ⟨code, rest, behindGap⟩ := threeDigits_split reads
  refine ⟨code, after.takeWhile isSpace, rest, ?_, spaced,
    fun char member => List.mem_takeWhile_imp member⟩
  rw [← behindGap, List.takeWhile_append_dropWhile]

/-- The expression finds a code behind the exact version. -/
theorem ThreeDigits.codeAt
    {digits gap : CppString} (code : ThreeDigits digits) (rest : CppString)
    (nonempty : gap ≠ []) (blank : ∀ char ∈ gap, isSpace char = true) :
    Client.codeAt ("SIP/2.0".toList ++ (gap ++ (digits ++ rest))) =
      some digits := by
  obtain ⟨first, second, third, rfl⟩ := List.length_eq_three.mp code.three
  have allDigits := code.allDigits
  simp only [List.forall_mem_cons] at allDigits
  obtain ⟨isFirst, isSecond, isThird, -⟩ := allDigits
  have behindGap : (gap ++ ([first, second, third] ++ rest)).dropWhile
      isSpace = first :: second :: third :: rest := by
    rw [List.dropWhile_append_of_pos blank, List.cons_append,
      List.dropWhile_cons_of_neg (by simp [isSpace_of_digit isFirst])]
    rfl
  have dropped : ("SIP/2.0".toList ++ (gap ++ ([first, second, third] ++
      rest))).drop 7 = gap ++ ([first, second, third] ++ rest) :=
    List.drop_left' rfl
  have spaced : (gap ++ ([first, second, third] ++ rest)).takeWhile
      isSpace ≠ [] := by
    obtain ⟨head, others, rfl⟩ := List.exists_cons_of_ne_nil nonempty
    rw [List.cons_append,
      List.takeWhile_cons_of_pos (blank head List.mem_cons_self)]
    exact List.cons_ne_nil _ _
  rw [Client.codeAt, if_pos (List.prefix_append _ _), dropped]
  dsimp only
  rw [if_neg spaced, behindGap, threeDigits, isFirst, isSecond, isThird]
  rfl

end MinimalSip.Client

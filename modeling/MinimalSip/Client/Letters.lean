import MinimalSip.Client.BuiltRequests
import MinimalSip.Client.Readers

/-!
# What the client reads in a written message

The client reads a text with regular expressions that look for a header name
before a colon, wherever that colon stands.  In a message with plain values a
colon stands after a header name, after `sip`, or after a host; so the
expressions find the header and nothing before it.

A `Letter` is such a message.  The proxy parses its text back, and each
expression of the client captures what `getHeader` returns.
-/

namespace MinimalSip.Client

open MinimalSip.Lib.Cpp
open MinimalSip.Lib.Search
open MinimalSip.Lib.Regex
open MinimalSip.Common
open MinimalSip.Common.SIPMessage
open MinimalSip.Proxy
open MinimalSip.Proxy.SIPParser (OneLine WellFormedHeader WellFormedMessage)

/-! ## Colons -/

/-- Every colon stands after an allowed symbol; `previous` precedes the text. -/
def ColonsAfter (allowed : Char → Bool) : Char → CppString → Bool
  | _, [] => true
  | previous, char :: rest =>
      (char ≠ ':' || allowed previous) && ColonsAfter allowed char rest

section Colons

variable {allowed : Char → Bool} {previous : Char}

theorem colonsAfter_append (before after : CppString) :
    ColonsAfter allowed previous (before ++ after) =
      (ColonsAfter allowed previous before &&
        ColonsAfter allowed (before.getLastD previous) after) := by
  induction before generalizing previous with
  | nil => simp [ColonsAfter]
  | cons head tail ih =>
      rw [List.cons_append, ColonsAfter, ih, ColonsAfter, Bool.and_assoc,
        List.getLastD_cons]

theorem colonsAfter_of_noColon
    {text : CppString} (noColon : ':' ∉ text) :
    ColonsAfter allowed previous text = true := by
  induction text generalizing previous with
  | nil => rfl
  | cons head tail ih =>
      rw [List.mem_cons, not_or] at noColon
      simp [ColonsAfter, ih noColon.2, Ne.symm noColon.1]

theorem allowed_of_colonsAfter
    {before after : CppString} {char : Char}
    (colons : ColonsAfter allowed previous
      (before ++ char :: ':' :: after) = true) :
    allowed char = true := by
  rw [colonsAfter_append] at colons
  simp only [ColonsAfter, Bool.and_eq_true, Bool.or_eq_true] at colons
  simpa using colons.2.2.1

theorem colonsAfter_imp
    {other : Char → Bool} {text : CppString}
    (colons : ColonsAfter allowed previous text = true)
    (weaker : ∀ char, allowed char = true → other char = true) :
    ColonsAfter other previous text = true := by
  induction text generalizing previous with
  | nil => rfl
  | cons head tail ih =>
      simp only [ColonsAfter, Bool.and_eq_true, Bool.or_eq_true] at colons ⊢
      exact ⟨colons.1.imp_right (weaker previous), ih colons.2⟩

end Colons

/-! ## Patterns that look for a name before a colon -/

/-- The pattern begins with one of the words, blanks and a colon. -/
def Led (words : List CppString) (pattern : Pattern Char) : Prop :=
  ∀ text, attempts pattern text ≠ [] → ∃ front space rest,
    text = front ++ space ++ ':' :: rest ∧
    (∃ word ∈ words, front.map Char.toLower = word.map Char.toLower) ∧
    ∀ char ∈ space, isSpace char = true

/-- A symbol that neither is blank nor ends one of the words. -/
def apart (words : List CppString) (char : Char) : Bool :=
  !isSpace char && words.all (fun word =>
    word.getLast?.map Char.toLower ≠ some char.toLower)

/-- The text before the first colon is determined. -/
theorem eq_of_first_colon
    {before before' after after' : CppString}
    (noColon : ':' ∉ before) (noColon' : ':' ∉ before')
    (same : before ++ ':' :: after = before' ++ ':' :: after') :
    before = before' := by
  rw [← takeWhile_ne_append_cons noColon after, same,
    takeWhile_ne_append_cons noColon']

/-- The words that a pattern can begin with. -/
structure Words (words : List CppString) : Prop where
  nonempty : ∀ word ∈ words, word ≠ []
  noColon : ∀ word ∈ words, ':' ∉ word.map Char.toLower

/-- What ends a match before its colon does not stand apart. -/
theorem not_apart_of_led
    {words : List CppString} {front space : CppString} {last : Char}
    (found : ∃ word ∈ words, front.map Char.toLower = word.map Char.toLower)
    (blank : ∀ char ∈ space, isSpace char = true)
    (ends : (front ++ space).getLast? = some last) :
    apart words last = false := by
  by_contra stands
  simp only [apart, Bool.not_eq_false, Bool.and_eq_true, Bool.not_eq_true',
    List.all_eq_true, decide_eq_true_eq] at stands
  obtain ⟨notBlank, differs⟩ := stands
  rw [List.getLast?_append] at ends
  cases spaced : space.getLast? with
  | some char =>
      rw [spaced, Option.some_or, Option.some.injEq] at ends
      subst ends
      have isBlank := blank char (List.mem_of_getLast? spaced)
      rw [notBlank] at isBlank
      cases isBlank
  | none =>
      rw [spaced, Option.none_or] at ends
      obtain ⟨word, member, same⟩ := found
      apply differs word member
      rw [← List.getLast?_map, ← same, List.getLast?_map, ends]
      rfl

/--
Before a name that is as long as the words, with colons that stand apart, the
pattern matches nowhere.
-/
theorem Led.search_at
    {words : List CppString} {pattern : Pattern Char}
    (led : Led words pattern) (wordy : Words words)
    {before name after : CppString}
    (colons : ColonsAfter (apart words) previous before = true)
    (noColon : ':' ∉ name) (bare : ∀ char ∈ name.getLast?, isSpace char = false)
    (longest : ∀ word ∈ words, word.length ≤ name.length) :
    search pattern (before ++ (name ++ ':' :: after)) =
      search pattern (name ++ ':' :: after) := by
  refine search_skip before (fun suffix ends nonempty => ?_)
  by_contra tried
  obtain ⟨front, space, rest, split, found, blank⟩ := led _ tried
  obtain ⟨word, member, same⟩ := found
  have noColonFront : ':' ∉ front ++ space := by
    rw [List.mem_append, not_or]
    constructor
    · intro inFront
      apply wordy.noColon word member
      rw [← same]
      exact List.mem_map.mpr ⟨':', inFront, rfl⟩
    · intro inSpace
      exact absurd (blank ':' inSpace) (by decide)
  have frontNonempty : front ≠ [] := by
    rintro rfl
    exact wordy.nonempty word member (List.map_eq_nil_iff.mp same.symm)
  by_cases inside : ':' ∈ suffix
  · -- The match would need a colon that stands apart.
    obtain ⟨first, second, rfl, noColonFirst⟩ :=
      List.eq_append_cons_of_mem inside
    rw [List.append_assoc, List.cons_append] at split
    have whole := eq_of_first_colon noColonFirst noColonFront split
    obtain rfl | ⟨init, last, rfl⟩ := List.eq_nil_or_concat first
    · exact frontNonempty (List.append_eq_nil_iff.mp whole.symm).1
    obtain ⟨earlier, rfl⟩ := ends
    have stands : apart words last = true := by
      apply @allowed_of_colonsAfter _ previous (earlier ++ init) second
      simpa using colons
    have ended : (front ++ space).getLast? = some last := by
      rw [← whole]
      simp
    rw [not_apart_of_led ⟨word, member, same⟩ blank ended] at stands
    cases stands
  · -- The match would need a longer word.
    have noColonAll : ':' ∉ suffix ++ name := by
      simp [inside, noColon]
    rw [← List.append_assoc] at split
    have whole := eq_of_first_colon noColonAll noColonFront split
    have long := longest word member
    have length : front.length = word.length := by
      simpa using congrArg List.length same
    have positive := List.length_pos_iff.mpr (wordy.nonempty word member)
    have gapless : space = [] := by
      obtain rfl | ⟨init, last, rfl⟩ := List.eq_nil_or_concat space
      · rfl
      · obtain rfl | ⟨others, final, rfl⟩ := List.eq_nil_or_concat name
        · rw [List.length_nil] at long
          omega
        have lasts := congrArg List.getLast? whole
        simp only [List.concat_eq_append, ← List.append_assoc,
          List.getLast?_concat, Option.some.injEq] at lasts
        have isBlank := blank last (by simp)
        rw [← lasts, bare final (by simp)] at isBlank
        cases isBlank
    subst gapless
    have lengths := congrArg List.length whole
    simp only [List.length_append, List.length_nil, Nat.add_zero] at lengths
    exact nonempty (List.length_eq_zero_iff.mp (by omega))

/-- A word, blanks and a colon lead a pattern. -/
theorem led_seq
    {words : List CppString} {lead rest : Pattern Char}
    (leads : ∀ matched groups, Matches lead matched groups →
      ∃ word ∈ words, matched.map Char.toLower = word.map Char.toLower) :
    Led words (.seq lead (.seq blanks (.seq (.one (· = ':')) rest))) := by
  intro text tried
  obtain ⟨attempt, member⟩ := List.exists_mem_of_ne_nil _ tried
  obtain ⟨front, _, _, _, word, ⟨space, _, _, _, ⟨blank, -⟩,
    ⟨colon, _, after, _, ⟨⟨char, isColon, rfl⟩, -⟩, -, rfl, -⟩, rfl, -⟩, whole,
      -⟩ := attempts_sound member
  obtain rfl : char = ':' := of_decide_eq_true isColon
  refine ⟨front, space, after ++ attempt.rest, ?_, leads _ _ word, blank⟩
  rw [attempts_split member, whole]
  simp

theorem led_noCase (word : CppString) (rest : Pattern Char) :
    Led [word] (.seq (noCase word)
      (.seq blanks (.seq (.one (· = ':')) rest))) :=
  led_seq (fun _ _ matched =>
    ⟨word, List.mem_singleton_self word, map_toLower_of_noCase matched⟩)

/-! ## Letters -/

/-- The headers that the clients and the proxy write. -/
def letterNames : List CppString :=
  frameNames ++ ["Content-Length".toList]

/-- What stands before a colon inside a plain value: `sip`, a host, a digit. -/
def beforePort (char : Char) : Bool :=
  ("0123456789.pl" : CppString).contains char

structure PlainValue (value : CppString) : Prop where
  nonempty : value ≠ []
  oneLine : OneLine value
  first : ∀ char ∈ value.head?, isSpace char = false
  last : ∀ char ∈ value.getLast?, isSpace char = false
  colons : ColonsAfter beforePort ' ' value = true

structure PlainHeader (header : SIPHeader) : Prop where
  name : header.name ∈ letterNames
  value : PlainValue header.value

/-- A message with plain headers, one of which states its empty body. -/
structure Letter (message : SIPMessage) : Prop where
  startLine_nonempty : message.startLine ≠ []
  startLine_oneLine : OneLine message.startLine
  startLine_colons : ColonsAfter beforePort ' ' message.startLine = true
  headers : ∀ header ∈ message.headers, PlainHeader header
  body : message.body = []
  sized : message.updateContentLength = message

theorem letterNames_wellFormed :
    ∀ name ∈ letterNames, name ≠ [] ∧ ':' ∉ name ∧ '\r' ∉ name ∧
      '\n' ∉ name ∧ Bare SIPParser.blanks name := by
  decide

theorem letterNames_last :
    ∀ name ∈ letterNames, ∀ char ∈ name.getLast?, isSpace char = false := by
  decide

theorem not_mem_blanks_of_not_space
    {char : Char} (other : isSpace char = false) :
    char ∉ SIPParser.blanks := by
  intro blank
  have both : ∀ char ∈ SIPParser.blanks, isSpace char = true := by decide
  rw [both char blank] at other
  cases other

theorem PlainHeader.wellFormed
    {header : SIPHeader} (plain : PlainHeader header) :
    WellFormedHeader header := by
  obtain ⟨nonempty, noColon, noCr, noLf, bare⟩ :=
    letterNames_wellFormed header.name plain.name
  exact
    { name_nonempty := nonempty
      name_noColon := noColon
      name_oneLine := ⟨noCr, noLf⟩
      name_bare := bare
      value_oneLine := plain.value.oneLine
      value_bare :=
        ⟨fun char first =>
            not_mem_blanks_of_not_space (plain.value.first char first),
          fun char last =>
            not_mem_blanks_of_not_space (plain.value.last char last)⟩ }

namespace Letter

variable {message : SIPMessage}

/-- The proxy reads a letter as it was written. -/
theorem parse (letter : Letter message) :
    SIPParser.parse message.serialize = .ok message := by
  have read := SIPParser.parse_serialize
    { message with
      startLine_nonempty := letter.startLine_nonempty
      startLine_oneLine := letter.startLine_oneLine
      headers_wellFormed := fun header member =>
        (letter.headers header member).wellFormed }
  rwa [letter.sized] at read

theorem serialize_eq (letter : Letter message) :
    message.serialize = message.startLine ++ "\r\n".toList ++
      message.headers.flatMap
        (fun header => headerLine header ++ "\r\n".toList) ++
      "\r\n".toList := by
  rw [serialize, letter.sized, letter.body, List.append_nil]

end Letter

/-- A header that is there splits the list at its first occurrence. -/
theorem split_at_header
    {headers : List SIPHeader} {name : CppString}
    (present : name ∈ headers.map SIPHeader.name) :
    ∃ front back, headers = front ++ ⟨name, valueIn headers name⟩ :: back ∧
      ∀ header ∈ front, header.name ≠ name := by
  induction headers with
  | nil => cases present
  | cons header rest ih =>
      rw [valueIn_cons]
      by_cases same : header.name = name
      · refine ⟨[], rest, ?_, by simp⟩
        subst same
        simp
      · obtain ⟨front, back, split, others⟩ :=
          ih ((List.mem_cons.mp present).resolve_left (Ne.symm same))
        refine ⟨header :: front, back, ?_, ?_⟩
        · rw [if_neg same, List.cons_append, ← split]
        · exact List.forall_mem_cons.mpr ⟨same, others⟩

section Lines

variable {words : List CppString}

/-- The words do not end like the text before a port, nor like these names. -/
structure Distinct (words names : List CppString) : Prop where
  ports : ∀ char ∈ ("0123456789.pl" : CppString), apart words char = true
  names : ∀ name ∈ names, ∀ last ∈ name.getLast?, apart words last = true

theorem Distinct.beforePort
    {names : List CppString} (distinct : Distinct words names)
    (char : Char) (safe : beforePort char = true) :
    apart words char = true :=
  distinct.ports char (by simpa [Client.beforePort] using safe)

/-- The colons of a header line stand apart from the words. -/
theorem line_colons
    {names : List CppString} (distinct : Distinct words names)
    {header : SIPHeader} (plain : PlainHeader header)
    (named : header.name ∈ names) (previous : Char) :
    ColonsAfter (apart words) previous
      (headerLine header ++ "\r\n".toList) = true := by
  obtain ⟨nonempty, noColon, -⟩ := letterNames_wellFormed _ plain.name
  have stands : apart words (header.name.getLastD previous) = true := by
    obtain empty | ⟨init, last, split⟩ := List.eq_nil_or_concat header.name
    · exact absurd empty nonempty
    · have ends : header.name.getLast? = some last := by
        simp [split]
      rw [List.getLastD_eq_getLast?, ends]
      exact distinct.names _ named last ends
  have values := colonsAfter_imp plain.value.colons distinct.beforePort
  have separator : ColonsAfter (apart words)
      (header.name.getLastD previous) ": ".toList = true := by
    simpa [ColonsAfter] using stands
  have after : ((header.name ++ ": ".toList).getLastD previous) = ' ' := by
    rw [List.getLastD_eq_getLast?, List.getLast?_append]
    rfl
  unfold headerLine
  rw [colonsAfter_append, colonsAfter_append, colonsAfter_append,
    colonsAfter_of_noColon noColon, separator, after, values,
    colonsAfter_of_noColon (by decide)]
  rfl

theorem lines_colons
    {names : List CppString} (distinct : Distinct words names)
    {headers : List SIPHeader}
    (plain : ∀ header ∈ headers, PlainHeader header)
    (named : ∀ header ∈ headers, header.name ∈ names) (previous : Char) :
    ColonsAfter (apart words) previous (headers.flatMap
      (fun header => headerLine header ++ "\r\n".toList)) = true := by
  induction headers generalizing previous with
  | nil => rfl
  | cons header rest ih =>
      obtain ⟨here, later⟩ := List.forall_mem_cons.mp plain
      obtain ⟨first, others⟩ := List.forall_mem_cons.mp named
      rw [List.flatMap_cons, colonsAfter_append,
        line_colons distinct here first, ih later others]
      rfl

/--
The search in a letter ends up at the header of the name, if the words that the
pattern looks for are no longer than the name and end differently from the
other names.
-/
theorem Letter.search_header
    {message : SIPMessage} (letter : Letter message)
    {name : CppString} {pattern : Pattern Char}
    (led : Led words pattern) (wordy : Words words)
    (distinct : Distinct words (letterNames.filter (· ≠ name)))
    (longest : ∀ word ∈ words, word.length ≤ name.length)
    (present : name ∈ message.headers.map SIPHeader.name) :
    PlainValue (message.getHeader name) ∧ ∃ more,
      search pattern message.serialize =
        search pattern (name ++ ':' :: ' ' ::
          (message.getHeader name ++ '\r' :: '\n' :: more)) := by
  obtain ⟨front, back, split, others⟩ := split_at_header present
  have same : valueIn message.headers name = message.getHeader name := rfl
  rw [same] at split
  have plain := letter.headers
  rw [split] at plain
  have here := plain ⟨name, message.getHeader name⟩ (by simp)
  have earlier : ∀ header ∈ front, PlainHeader header :=
    fun header member => plain header (List.mem_append_left _ member)
  have named : ∀ header ∈ front,
      header.name ∈ letterNames.filter (· ≠ name) := by
    intro header member
    rw [List.mem_filter]
    exact ⟨(earlier header member).name, by simpa using others header member⟩
  refine ⟨here.value, back.flatMap
    (fun header => headerLine header ++ "\r\n".toList) ++ "\r\n".toList, ?_⟩
  have shape : message.serialize = (message.startLine ++ "\r\n".toList ++
      front.flatMap (fun header => headerLine header ++ "\r\n".toList)) ++
        (name ++ ':' :: ' ' :: (message.getHeader name ++ '\r' :: '\n' ::
          (back.flatMap
            (fun header => headerLine header ++ "\r\n".toList) ++
              "\r\n".toList))) := by
    rw [letter.serialize_eq, split]
    simp [headerLine]
  have colons : ColonsAfter (apart words) ' ' (message.startLine ++
      "\r\n".toList ++ front.flatMap
        (fun header => headerLine header ++ "\r\n".toList)) = true := by
    rw [colonsAfter_append, colonsAfter_append,
      colonsAfter_imp letter.startLine_colons distinct.beforePort,
      colonsAfter_of_noColon (by decide), lines_colons distinct earlier named]
    rfl
  obtain ⟨-, noColon, -⟩ := letterNames_wellFormed name here.name
  rw [shape]
  exact led.search_at wordy colons noColon
    (letterNames_last name here.name) longest

end Lines

/-! ## The expressions -/

/-- What is captured behind a name, a colon and a blank. -/
theorem firstGroup_value
    {lead inner : Pattern Char} {name value tail : CppString}
    {attempt : Attempt Char}
    (leads : ∀ rest, Reports lead (name ++ rest)
      { matched := name, rest := rest })
    (plain : PlainValue value)
    (captures : Reports inner (value ++ tail) attempt) :
    firstGroup (.seq lead (.seq blanks (.seq (.one (· = ':'))
        (.seq blanks inner)))) (name ++ ':' :: ' ' :: (value ++ tail)) =
      attempt.groups.head? := by
  have starts : ∀ char ∈ (value ++ tail).head?, isSpace char = false := by
    obtain ⟨head, rest, split⟩ := List.exists_cons_of_ne_nil plain.nonempty
    rw [split, List.cons_append, List.head?_cons]
    intro char first
    exact plain.first char (by rw [split]; exact first)
  have behind : Reports blanks (' ' :: (value ++ tail))
      { matched := [' '], rest := value ++ tail } :=
    @reports_many _ isSpace [' '] (value ++ tail) (by decide) starts
  have front : Reports blanks (':' :: ' ' :: (value ++ tail))
      { matched := [], rest := ':' :: ' ' :: (value ++ tail) } :=
    @reports_many _ isSpace [] (':' :: ' ' :: (value ++ tail)) (by simp)
      (by simp; decide)
  have colon : Reports (.one (· = ':')) (':' :: ' ' :: (value ++ tail))
      { matched := [':'], rest := ' ' :: (value ++ tail) } :=
    reports_one (by decide)
  have whole := reports_seq (leads (':' :: ' ' :: (value ++ tail)))
    (reports_seq front (reports_seq colon (reports_seq behind captures)))
  rw [firstGroup, search_of_reports whole]
  simp

theorem inLine_of_oneLine
    {text : CppString} (oneLine : OneLine text) :
    ∀ char ∈ text, inLine char = true := by
  intro char member
  have notLf : char ≠ '\n' := fun same => oneLine.noLf (same ▸ member)
  have notCr : char ≠ '\r' := fun same => oneLine.noCr (same ▸ member)
  simp [inLine, notLf, notCr]

section Readings

variable {message : SIPMessage} {name : CppString}

/-- The search of a text in a letter and at the header are the same. -/
theorem Letter.firstGroup_header
    {words : List CppString} {pattern : Pattern Char}
    (letter : Letter message)
    (led : Led words pattern) (wordy : Words words)
    (distinct : Distinct words (letterNames.filter (· ≠ name)))
    (longest : ∀ word ∈ words, word.length ≤ name.length)
    (present : name ∈ message.headers.map SIPHeader.name) :
    PlainValue (message.getHeader name) ∧ ∃ more,
      firstGroup pattern message.serialize =
        firstGroup pattern (name ++ ':' :: ' ' ::
          (message.getHeader name ++ '\r' :: '\n' :: more)) := by
  obtain ⟨plain, more, found⟩ :=
    letter.search_header led wordy distinct longest present
  exact ⟨plain, more, by rw [firstGroup, found]; rfl⟩

theorem distinct_echoed :
    ∀ name ∈ SIPMessageFactory.echoedHeaders,
      (∀ char ∈ ("0123456789.pl" : CppString), apart [name] char = true) ∧
      (∀ other ∈ letterNames.filter (· ≠ name), ∀ last ∈ other.getLast?,
        apart [name] last = true) ∧
      name ≠ [] ∧ ':' ∉ name.map Char.toLower := by
  decide

/-- `get_header` of `build_response` reads what `getHeader` returns. -/
theorem Letter.headerOf
    (letter : Letter message)
    (echoed : name ∈ SIPMessageFactory.echoedHeaders)
    (present : name ∈ message.headers.map SIPHeader.name) :
    SIPMessageFactory.headerOf message.serialize name =
      message.getHeader name := by
  obtain ⟨ports, names, nonempty, noColon⟩ := distinct_echoed name echoed
  have led : Led [name] (SIPMessageFactory.headerPattern name) :=
    led_noCase name _
  obtain ⟨plain, more, found⟩ := letter.firstGroup_header led
    ⟨by simpa using nonempty, by simpa using noColon⟩ ⟨ports, names⟩
    (by simp) present
  have line := @reports_oneOrMore _ inLine _ ('\r' :: '\n' :: more)
    plain.nonempty (inLine_of_oneLine plain.oneLine) (by simp; decide)
  have captures := firstGroup_value (reports_noCase name) plain
    (reports_group line)
  rw [SIPMessageFactory.headerOf, found]
  unfold SIPMessageFactory.headerPattern
  rw [captures]
  rfl

/-- The Call-ID, if no blank ends it early. -/
theorem Letter.extractCallId
    (letter : Letter message)
    (present : "Call-ID".toList ∈ message.headers.map SIPHeader.name)
    (solid : ∀ char ∈ message.getHeader "Call-ID", isSpace char = false) :
    Client.extractCallId message.serialize = message.getHeader "Call-ID" := by
  have leads : ∀ matched groups,
      Matches (.alt (noCase "Call-ID") (noCase "i")) matched groups →
        ∃ word ∈ ["Call-ID".toList, "i".toList],
          matched.map Char.toLower = word.map Char.toLower := by
    rintro matched groups (long | short)
    · exact ⟨_, by simp, map_toLower_of_noCase long⟩
    · exact ⟨_, by simp, map_toLower_of_noCase short⟩
  have led : Led ["Call-ID".toList, "i".toList] callIdPattern :=
    led_seq leads
  obtain ⟨plain, more, found⟩ := letter.firstGroup_header led
    ⟨by decide, by decide⟩ ⟨by decide, by decide⟩ (by decide) present
  have text := @reports_oneOrMore _ (fun char => !isSpace char) _
    ('\r' :: '\n' :: more) plain.nonempty
    (fun char member => by simp [solid char member]) (by simp; decide)
  have named : ∀ rest, Reports (.alt (noCase "Call-ID") (noCase "i"))
      ("Call-ID".toList ++ rest) { matched := "Call-ID", rest := rest } :=
    fun rest => reports_left (reports_noCase "Call-ID" rest)
  have captures := firstGroup_value named plain (reports_group text)
  rw [Client.extractCallId, found]
  unfold callIdPattern
  rw [captures]
  rfl

/-- How the number and the method of a CSeq are read. -/
theorem reports_cseqValue
    {digits method : CppString}
    (number : digits ≠ []) (digit : ∀ char ∈ digits, char.isDigit = true)
    (named : method ≠ []) (word : ∀ char ∈ method, isWord char = true)
    (more : CppString) :
    Reports (oneOrMore Char.isDigit)
        (digits ++ ' ' :: (method ++ '\r' :: '\n' :: more))
        { matched := digits
          rest := ' ' :: (method ++ '\r' :: '\n' :: more) } ∧
      Reports (oneOrMore isSpace) (' ' :: (method ++ '\r' :: '\n' :: more))
        { matched := [' '], rest := method ++ '\r' :: '\n' :: more } ∧
      Reports (oneOrMore isWord) (method ++ '\r' :: '\n' :: more)
        { matched := method, rest := '\r' :: '\n' :: more } := by
  have starts : ∀ head ∈ (method ++ '\r' :: '\n' :: more).head?,
      isSpace head = false := by
    obtain ⟨head, tail, rfl⟩ := List.exists_cons_of_ne_nil named
    have first := not_space_of_word (word head List.mem_cons_self)
    simpa using first
  refine ⟨reports_oneOrMore number digit (by simp), ?_,
    reports_oneOrMore named word (by simp; decide)⟩
  exact @reports_oneOrMore _ isSpace [' '] _ (by simp) (by decide) starts

/-- A letter with a CSeq has a line for it. -/
theorem cseq_present
    {value method : CppString}
    (split : message.getHeader "CSeq" = value ++ ' ' :: method) :
    "CSeq".toList ∈ message.headers.map SIPHeader.name := by
  have filled : message.getHeader "CSeq" ≠ [] := by
    rw [split]
    simp
  exact List.mem_map.mpr ⟨_, mem_of_getHeader_ne_nil filled, rfl⟩

/-- The method of a CSeq with a number in front. -/
theorem Letter.extractCseqMethod
    (letter : Letter message)
    (present : "CSeq".toList ∈ message.headers.map SIPHeader.name)
    {digits method : CppString}
    (split : message.getHeader "CSeq" = digits ++ ' ' :: method)
    (number : digits ≠ []) (digit : ∀ char ∈ digits, char.isDigit = true)
    (named : method ≠ []) (word : ∀ char ∈ method, isWord char = true) :
    Client.extractCseqMethod message.serialize = toUpper method := by
  have led : Led ["CSeq".toList] cseqMethodPattern := led_noCase "CSeq" _
  obtain ⟨plain, more, found⟩ := letter.firstGroup_header led
    ⟨by decide, by decide⟩ ⟨by decide, by decide⟩ (by decide) present
  rw [split] at plain found
  obtain ⟨digitsRead, spaceRead, methodRead⟩ :=
    reports_cseqValue number digit named word more
  have valueRead := reports_seq digitsRead
    (reports_seq spaceRead (reports_group methodRead))
  have shape : digits ++ ' ' :: (method ++ '\r' :: '\n' :: more) =
      (digits ++ ' ' :: method) ++ '\r' :: '\n' :: more := by
    simp
  rw [shape] at valueRead
  have captures := firstGroup_value (reports_noCase "CSeq") plain valueRead
  rw [Client.extractCseqMethod, found]
  unfold cseqMethodPattern
  rw [captures]
  rfl

/-- The number of a CSeq is found in its own line. -/
theorem Letter.firstOf_numberAt
    (letter : Letter message) {digits method : CppString}
    (split : message.getHeader "CSeq" = digits ++ ' ' :: method)
    (number : digits ≠ []) (digit : ∀ char ∈ digits, char.isDigit = true)
    (named : method ≠ []) (word : ∀ char ∈ method, isWord char = true) :
    firstOf numberAt message.serialize = some digits := by
  have led : Led ["CSeq".toList] SIPMessageFactory.cseqNumberPattern :=
    led_noCase "CSeq" _
  obtain ⟨plain, more, found⟩ := letter.firstGroup_header led
    ⟨by decide, by decide⟩ ⟨by decide, by decide⟩ (by decide)
    (cseq_present split)
  rw [split] at plain found
  obtain ⟨digitsRead, spaceRead, methodRead⟩ :=
    reports_cseqValue number digit named word more
  have valueRead := reports_seq (reports_group digitsRead)
    (reports_seq spaceRead methodRead)
  have shape : digits ++ ' ' :: (method ++ '\r' :: '\n' :: more) =
      (digits ++ ' ' :: method) ++ '\r' :: '\n' :: more := by
    simp
  rw [shape] at valueRead
  have captures := firstGroup_value (reports_noCase "CSeq") plain valueRead
  rw [← agrees_cseqNumber.firstGroup_eq, found]
  exact captures

/-- A name without blanks and without what separates names. -/
structure PlainName (text : CppString) : Prop where
  nonempty : text ≠ []
  solid : ∀ char ∈ text, isSpace char = false
  plain : ∀ char ∈ (":/@<>;" : CppString), char ∉ text

theorem PlainName.noneOf
    {text : CppString} (plain : PlainName text) (set : CppString)
    (separators : ∀ char ∈ set, char ∈ (":/@<>;" : CppString)) :
    ∀ char ∈ text, noneOf set char = true := by
  intro char member
  have other : char ∉ set := fun inSet =>
    plain.plain char (separators char inSet) member
  simpa [Lib.Regex.noneOf] using other

theorem led_from : Led ["From".toList] fromPattern := by
  intro text tried
  obtain ⟨attempt, member⟩ := List.exists_mem_of_ne_nil _ tried
  obtain ⟨front, _, after, _, word, -, whole, -⟩ := attempts_sound member
  have lowered := map_toLower_of_noCase word
  obtain rfl | ⟨init, last, rfl⟩ := List.eq_nil_or_concat front
  · cases lowered
  · rw [List.concat_eq_append] at lowered whole
    have split : init.map Char.toLower = "From".toList.map Char.toLower ∧
        [last].map Char.toLower = [':'].map Char.toLower := by
      apply List.append_inj'
      · simpa using lowered
      · rfl
    obtain rfl := eq_of_toLower (by decide)
      (List.cons.inj split.2).1
    refine ⟨init, [], after ++ attempt.rest, ?_, ⟨_, by simp, split.1⟩,
      by simp⟩
    rw [attempts_split member, whole]
    simp

/-- The two parts of the URI of a plain identity. -/
theorem splitSipUri_identity
    {user domain : CppString}
    (plainUser : PlainName user) (plainDomain : PlainName domain) :
    splitSipUri ("sip:".toList ++ identity user domain) = (user, domain) := by
  have hostClass : ∀ char ∈ domain,
      (noneOf ">;" char && !isSpace char) = true := by
    intro char member
    rw [plainDomain.noneOf ">;" (by decide) char member,
      plainDomain.solid char member]
    rfl
  have host := @reports_oneOrMore _
    (fun char => noneOf ">;" char && !isSpace char) domain []
    plainDomain.nonempty hostClass (by simp)
  have name := @reports_oneOrMore _ (noneOf "@>") user ('@' :: (domain ++ []))
    plainUser.nonempty (plainUser.noneOf "@>" (by decide)) (by simp; decide)
  have atSign : Reports (.one (· = '@')) ('@' :: (domain ++ []))
      { matched := ['@'], rest := domain ++ [] } :=
    reports_one (by decide)
  have whole := reports_seq (reports_noCase "sip:" _)
    (reports_seq (reports_group name)
      (reports_seq atSign (reports_group host)))
  have shape : "sip:".toList ++ identity user domain =
      "sip:".toList ++ (user ++ '@' :: (domain ++ [])) := by
    simp [identity]
  rw [splitSipUri, shape]
  unfold sipUriPattern
  rw [search_of_reports whole]
  rfl

/-- The caller named in a From header. -/
theorem Letter.callerOf
    (letter : Letter message)
    (present : "From".toList ∈ message.headers.map SIPHeader.name)
    {user domain : CppString}
    (plainUser : PlainName user) (plainDomain : PlainName domain)
    (split : message.getHeader "From" = bracketed user domain) :
    Client.callerOf message.serialize = identity user domain := by
  obtain ⟨-, more, found⟩ := letter.search_header led_from
    ⟨by decide, by decide⟩ ⟨by decide, by decide⟩ (by decide) present
  generalize tailed : '>' :: '\r' :: '\n' :: more = tail
  have closed : Reports (.one (· = '>')) tail
      { matched := ['>'], rest := '\r' :: '\n' :: more } :=
    tailed ▸ reports_one (by decide)
  have closes : ∀ char ∈ tail.head?, noneOf ">" char = false := by
    subst tailed
    simp
    decide
  have host := reports_seq (reports_group (reports_oneOrMore
    plainDomain.nonempty (plainDomain.noneOf ">" (by decide)) closes)) closed
  have atSign := reports_seq
    (@reports_one _ (· = '@') '@' (domain ++ tail) (by decide)) host
  have name := reports_seq (reports_group (@reports_oneOrMore _ (noneOf "@")
    user ('@' :: (domain ++ tail)) plainUser.nonempty
    (plainUser.noneOf "@" (by decide)) (by simp; decide))) atSign
  have uri := reports_seq
    (reports_noCase "<sip:" (user ++ '@' :: (domain ++ tail))) name
  have space : Reports blanks
      (' ' :: ("<sip:".toList ++ (user ++ '@' :: (domain ++ tail))))
      { matched := [' ']
        rest := "<sip:".toList ++ (user ++ '@' :: (domain ++ tail)) } :=
    @reports_many _ isSpace [' '] _ (by decide) (by simp; decide)
  have whole := reports_seq (reports_noCase "From:" _)
    (reports_seq space uri)
  have shape : "From".toList ++ ':' :: ' ' ::
      (bracketed user domain ++ '\r' :: '\n' :: more) =
        "From:".toList ++ ' ' :: ("<sip:".toList ++ (user ++
          '@' :: (domain ++ tail))) := by
    have colon : "From:".toList = "From".toList ++ [':'] := by decide
    rw [colon, ← tailed]
    unfold bracketed
    simp only [List.append_assoc]
    rfl
  rw [Client.callerOf, found, split, shape]
  unfold fromPattern
  rw [search_of_reports whole]
  rfl

/-- The status code at the beginning of a response. -/
theorem extractStatusCode_of_response
    {first second third : Char}
    (digits : ∀ char ∈ [first, second, third], char.isDigit = true)
    (rest : CppString) :
    Client.extractStatusCode
        ("SIP/2.0".toList ++ ' ' :: first :: second :: third :: rest) =
      stoi [first, second, third] := by
  have code : ThreeDigits [first, second, third] := ⟨rfl, digits⟩
  have reads := @ThreeDigits.codeAt _ [' '] code rest (by simp) (by decide)
  have found := firstOf_of_read reads
  simp only [List.cons_append, List.nil_append] at found
  rw [extractStatusCode_eq, found]

/-! ### A text without a status code -/

/-- Behind a slash follow `2.0`, blanks and a digit. -/
def CodeAhead (text : CppString) : Prop :=
  ∃ space digit rest, text = "2.0".toList ++ space ++ digit :: rest ∧
    (∀ char ∈ space, isSpace char = true) ∧ space ≠ [] ∧
    digit.isDigit = true

/-- No slash has a status code behind it. -/
def Codeless (text : CppString) : Prop :=
  ∀ before after, text = before ++ '/' :: after → ¬ CodeAhead after

theorem codeless_cons
    {char : Char} {text : CppString}
    (harmless : char ≠ '/' ∨ ¬ CodeAhead text) (codeless : Codeless text) :
    Codeless (char :: text) := by
  intro before after split
  cases before with
  | nil =>
      obtain ⟨rfl, rfl⟩ := List.cons.inj split
      exact harmless.resolve_left (fun other => other rfl)
  | cons head tail =>
      exact codeless tail after (List.cons.inj split).2

theorem codeless_append
    {front back : CppString} (noSlash : '/' ∉ front)
    (codeless : Codeless back) : Codeless (front ++ back) := by
  induction front with
  | nil => exact codeless
  | cons head tail ih =>
      rw [List.mem_cons, not_or] at noSlash
      exact codeless_cons (Or.inl (Ne.symm noSlash.1)) (ih noSlash.2)

theorem codeless_slash
    {text : CppString} (ahead : ¬ CodeAhead text)
    (codeless : Codeless text) : Codeless ('/' :: text) :=
  codeless_cons (Or.inr ahead) codeless

theorem codeless_of_noSlash
    {text : CppString} (noSlash : '/' ∉ text) : Codeless text := by
  rintro before after rfl
  exact absurd (by simp) noSlash

/-- The version is followed by blanks and something else than a digit. -/
theorem not_codeAhead
    {space : CppString} {char : Char} (rest : CppString)
    (blank : ∀ char ∈ space, isSpace char = true)
    (notSpace : isSpace char = false) (notDigit : char.isDigit = false) :
    ¬ CodeAhead ("2.0".toList ++ space ++ char :: rest) := by
  rintro ⟨space', digit, rest', same, blank', -, isDigit⟩
  have digitSolid : isSpace digit = false :=
    isSpace_of_digit isDigit
  have solid : ∀ {space : CppString} {char : Char} {rest : CppString},
      (∀ char ∈ space, isSpace char = true) → isSpace char = false →
        (space ++ char :: rest).dropWhile isSpace = char :: rest := by
    intro space char rest blank solid
    rw [List.dropWhile_append_of_pos blank, List.dropWhile_cons_of_neg]
    simp [solid]
  rw [List.append_assoc, List.append_assoc] at same
  have behind := congrArg (List.dropWhile isSpace)
    (List.append_cancel_left same)
  rw [solid blank notSpace, solid blank' digitSolid] at behind
  rw [(List.cons.inj behind).1, isDigit] at notDigit
  cases notDigit

theorem extractStatusCode_of_codeless
    {text : CppString} (codeless : Codeless text) :
    Client.extractStatusCode text = .ok 0 := by
  rw [extractStatusCode_eq]
  cases first : firstOf codeAt text with
  | none => rfl
  | some digits =>
      obtain ⟨_, ⟨earlier, rfl⟩, reads⟩ := exists_of_firstOf first
      obtain ⟨code, space, rest, rfl, nonempty, blank⟩ := codeAt_split reads
      obtain ⟨digit, others, rfl⟩ := List.exists_cons_of_ne_nil
        (List.ne_nil_of_length_eq_add_one code.three)
      exfalso
      refine codeless (earlier ++ "SIP".toList)
        ("2.0".toList ++ space ++ digit :: (others ++ rest)) ?_
        ⟨space, digit, _, rfl, blank, nonempty,
          code.allDigits digit List.mem_cons_self⟩
      simp

end Readings

end MinimalSip.Client
import MinimalSip.Proxy.SipParserRoundTrip

/-!
# Line ends and a second reading

The parser accepts LF for CRLF, but looks for CRLF CRLF in the whole text
first.  A message framed with LF therefore reads like the one framed with CRLF
exactly if its body does not contain CRLF CRLF.

It removes one CR at the end of every line, also of the last one, whose own
CRLF belongs to the separator.  What it read therefore survives being written
and read again exactly if the value written last does not end in CR.
-/

namespace MinimalSip.Proxy.SIPParser

open MinimalSip.Lib.Search
open MinimalSip.Lib.Cpp
open MinimalSip.Common
open MinimalSip.Common.SIPMessage

/-! ## What the parser can return -/

@[simp]
theorem parseBody_headers (message : SIPMessage) (rawBody : CppString) :
    (parseBody message rawBody).headers = message.headers := by
  unfold parseBody
  dsimp only
  split_ifs <;> rfl

@[simp]
theorem parseBody_startLine (message : SIPMessage) (rawBody : CppString) :
    (parseBody message rawBody).startLine = message.startLine := by
  unfold parseBody
  dsimp only
  split_ifs <;> rfl

theorem length_parseBody_le (message : SIPMessage) (rawBody : CppString) :
    (parseBody message rawBody).body.length ≤ rawBody.length := by
  unfold parseBody
  dsimp only
  split_ifs
  · exact Nat.zero_le _
  · exact le_rfl
  · exact (List.take_prefix _ _).length_le

/-- A start line and headers as the parser collects them. -/
structure Collected (message : SIPMessage) : Prop where
  startLine : '\n' ∉ message.startLine
  headers : ∀ header ∈ message.headers, Readable header

theorem Collected.parseHeaderLine
    {message next : SIPMessage} {line : CppString}
    (collected : Collected message) (unbroken : '\n' ∉ line)
    (parsed : SIPParser.parseHeaderLine message line = .ok next) :
    Collected next := by
  by_cases colon : ':' ∈ line
  swap
  · have notFound : find ":" line = none :=
      find_singleton_eq_none_iff.mpr colon
    simp only [SIPParser.parseHeaderLine, notFound] at parsed
    cases parsed
    exact collected
  obtain ⟨name, rest, rfl, noColon⟩ := List.eq_append_cons_of_mem colon
  rw [parseHeaderLine_eq message rest noColon] at parsed
  split_ifs at parsed with empty
  · cases parsed
    exact collected
  · cases parsed
    refine ⟨collected.startLine, ?_⟩
    intro header member
    rcases List.mem_append.mp member with old | new
    · exact collected.headers header old
    · obtain rfl := List.mem_singleton.mp new
      have nameUnbroken : '\n' ∉ name :=
        fun broken => unbroken (List.mem_append_left _ broken)
      have restUnbroken : '\n' ∉ rest := fun broken =>
        unbroken (List.mem_append_right _ (List.mem_cons_of_mem _ broken))
      exact
        { noColon := fun inside => noColon (mem_of_mem_strip inside)
          name_unbroken := fun inside =>
            nameUnbroken (mem_of_mem_strip inside)
          value_unbroken := fun inside =>
            restUnbroken (mem_of_mem_strip inside)
          name_nonempty := empty
          name_bare := (strip_split blanks name).1
          value_bare := (strip_split blanks rest).1 }

theorem not_mem_popCarriageReturn
    {line : CppString} {char : Char} (absent : char ∉ line) :
    char ∉ popCarriageReturn line := by
  unfold popCarriageReturn
  split_ifs
  · exact fun inside => absent (List.mem_of_mem_dropLast inside)
  · exact absent

theorem Collected.parseLines
    {message next : SIPMessage} {firstLine : Bool} {lines : List CppString}
    (collected : Collected message) (unbroken : ∀ line ∈ lines, '\n' ∉ line)
    (parsed : SIPParser.parseLines message firstLine lines = .ok next) :
    Collected next := by
  induction lines generalizing message firstLine with
  | nil =>
      cases parsed
      exact collected
  | cons rawLine rest ih =>
      have later : ∀ line ∈ rest, '\n' ∉ line :=
        fun line member => unbroken line (List.mem_cons_of_mem _ member)
      have here : '\n' ∉ popCarriageReturn rawLine :=
        not_mem_popCarriageReturn (unbroken rawLine List.mem_cons_self)
      unfold SIPParser.parseLines at parsed
      dsimp only at parsed
      split_ifs at parsed with empty first
      · exact ih collected later parsed
      · refine ih ?_ later parsed
        rw [parseStartLine, if_neg empty]
        exact ⟨here, collected.headers⟩
      · obtain ⟨middle, headerParsed⟩ := parseHeaderLine_total message
          (popCarriageReturn rawLine)
        rw [headerParsed, ok_bind] at parsed
        exact ih (collected.parseHeaderLine here headerParsed) later parsed

/-- Whatever was parsed has a start line and headers without line feeds. -/
theorem collected_of_parse
    {raw : CppString} {message : SIPMessage}
    (parsed : parse raw = .ok message) : Collected message := by
  have empty : Collected {} := ⟨by simp, by simp⟩
  have read : ∀ text headers, SIPParser.parseLines {} true (getlines text) =
      .ok headers → ∀ rawBody, Collected (parseBody headers rawBody) := by
    intro text headers linesRead rawBody
    have collected := empty.parseLines
      (fun _ member => not_mem_newline_of_mem_getlines member) linesRead
    exact ⟨by simpa using collected.startLine,
      by simpa using collected.headers⟩
  unfold parse at parsed
  split at parsed
  · obtain ⟨headers, linesRead⟩ := parseLines_total {} true (getlines raw)
    rw [linesRead] at parsed
    cases parsed
    exact read raw headers linesRead []
  · rename_i separatorPos separatorLength found
    obtain ⟨headers, linesRead⟩ := parseLines_total {} true
      (getlines (raw.take separatorPos))
    rw [substr_none (separator_inside found), ok_bind, linesRead] at parsed
    cases parsed
    exact read _ headers linesRead _

/-! ## Messages framed with LF -/

/-- Lines joined by LF. -/
def joinLinesLf (first : CppString) (rest : List CppString) : CppString :=
  first ++ rest.flatMap (fun line => '\n' :: line)

/-- What `serialize` writes, with LF for every CRLF outside the body. -/
def serializeLf (message : SIPMessage) : CppString :=
  let messageCopy := message.updateContentLength
  messageCopy.startLine ++ "\n".toList ++
    messageCopy.headers.flatMap
      (fun header => headerLine header ++ "\n".toList) ++
    "\n".toList ++ messageCopy.body

theorem lf_flatMap_headerLine (headers : List SIPHeader) :
    "\n".toList ++ headers.flatMap
        (fun header => headerLine header ++ "\n".toList) =
      (headers.map headerLine).flatMap (fun line => '\n' :: line) ++
        "\n".toList := by
  induction headers with
  | nil => rfl
  | cons header rest ih =>
      rw [List.flatMap_cons, List.map_cons, List.flatMap_cons,
        List.append_assoc, ← List.append_assoc, ← List.append_assoc,
        List.append_assoc _ "\n".toList, ih]
      simp

theorem serializeLf_eq (message : SIPMessage) :
    serializeLf message =
      joinLinesLf message.startLine
          (message.updateContentLength.headers.map headerLine) ++
        "\n\n".toList ++ message.body := by
  have lineEnds := lf_flatMap_headerLine message.updateContentLength.headers
  simp only [serializeLf, joinLinesLf, updateContentLength_startLine,
    updateContentLength_body]
  rw [List.append_assoc message.startLine, lineEnds]
  simp

theorem joinLinesLf_cons
    (first line : CppString) (rest : List CppString) :
    joinLinesLf first (line :: rest) =
      first ++ '\n' :: joinLinesLf line rest := by
  simp [joinLinesLf]

/-- Reading joined lines gives the lines back. -/
theorem getlines_joinLinesLf
    {first : CppString} {rest : List CppString}
    (lines : ∀ line ∈ first :: rest, LineText line) :
    getlines (joinLinesLf first rest) = first :: rest := by
  have firstLine := lines first List.mem_cons_self
  induction rest generalizing first with
  | nil =>
      rw [joinLinesLf, List.flatMap_nil, List.append_nil,
        getlines_of_no_newline firstLine.unbroken firstLine.nonempty]
  | cons line others ih =>
      have nextLines : ∀ text ∈ line :: others, LineText text :=
        fun text member => lines text (List.mem_cons_of_mem _ member)
      rw [joinLinesLf_cons, getlines_append_newline firstLine.unbroken,
        ih nextLines (nextLines line List.mem_cons_self)]

/-- The first empty line is the one after the last written line. -/
theorem find_separatorLf
    {first : CppString} {rest : List CppString}
    (lines : ∀ line ∈ first :: rest, LineText line) (body : CppString) :
    find "\n\n" (joinLinesLf first rest ++ "\n\n".toList ++ body) =
      some (joinLinesLf first rest).length := by
  have firstLine := lines first List.mem_cons_self
  have pattern : "\n\n".toList = ['\n', '\n'] := rfl
  induction rest generalizing first with
  | nil =>
      rw [joinLinesLf, List.flatMap_nil, List.append_nil, List.append_assoc,
        pattern, find_append_of_not_mem firstLine.unbroken,
        find_of_starts (List.prefix_append _ _), Option.map_some,
        Nat.zero_add]
  | cons line others ih =>
      have nextLines : ∀ text ∈ line :: others, LineText text :=
        fun text member => lines text (List.mem_cons_of_mem _ member)
      have nextLine := nextLines line List.mem_cons_self
      have found := ih nextLines nextLine
      obtain ⟨head, tail, split⟩ := List.exists_cons_of_ne_nil
        nextLine.nonempty
      have other : '\n' ≠ head := fun same =>
        nextLine.unbroken (split ▸ same ▸ List.mem_cons_self)
      have notHere : ¬ ['\n', '\n'] <+: '\n' :: (joinLinesLf line others ++
          "\n\n".toList ++ body) := by
        rw [joinLinesLf, split]
        intro occurs
        exact other (List.cons_prefix_cons.mp
          (List.cons_prefix_cons.mp occurs).2).1
      rw [joinLinesLf_cons, List.append_assoc, List.append_assoc,
        List.cons_append, ← List.append_assoc, pattern,
        find_append_of_not_mem firstLine.unbroken, ← pattern]
      rw [pattern] at notHere found ⊢
      rw [find_cons_of_not_starts notHere, found]
      simp only [Option.map_some, Option.some.injEq, List.length_append,
        List.length_cons]
      omega

theorem not_mem_joinLinesLf
    {first : CppString} {headers : List SIPHeader}
    (firstLine : OneLine first)
    (wellFormed : ∀ header ∈ headers, WellFormedHeader header) :
    '\r' ∉ joinLinesLf first (headers.map headerLine) ++ "\n\n".toList := by
  simp only [joinLinesLf, List.mem_append, List.mem_flatMap, List.mem_map,
    List.mem_cons, not_or, not_exists, not_and]
  refine ⟨⟨firstLine.noCr, ?_⟩, by decide⟩
  rintro line ⟨header, member, rfl⟩
  have oneLine := wellFormed header member
  refine ⟨by decide, ?_⟩
  simp [headerLine, oneLine.name_oneLine.noCr, oneLine.value_oneLine.noCr]

section Framed

variable {first : CppString} {headers : List SIPHeader}

/-- CRLF CRLF can only be found in the body. -/
theorem find_crlf_lf
    (firstLine : OneLine first)
    (wellFormed : ∀ header ∈ headers, WellFormedHeader header)
    (body : CppString) :
    find "\r\n\r\n" (joinLinesLf first (headers.map headerLine) ++
        "\n\n".toList ++ body) =
      (find "\r\n\r\n" body).map
        (· + (joinLinesLf first (headers.map headerLine) ++
          "\n\n".toList).length) :=
  find_append_of_not_mem (not_mem_joinLinesLf firstLine wellFormed) body

/-- Without CRLF CRLF in the body, the LF framing is read as it was meant. -/
theorem parse_lf
    (nonempty : first ≠ []) (firstLine : OneLine first)
    (wellFormed : ∀ header ∈ headers, WellFormedHeader header)
    {body : CppString} (plain : ¬ "\r\n\r\n".toList <:+: body) :
    parse (joinLinesLf first (headers.map headerLine) ++ "\n\n".toList ++
        body) =
      .ok (parseBody { startLine := first, headers := headers } body) := by
  have texts : ∀ header ∈ headers, HeaderText header :=
    fun header member => (wellFormed header member).headerText
  have text : LineText first := ⟨nonempty, firstLine.noLf⟩
  have lines := lineText_of_written text texts
  have found : separator (joinLinesLf first (headers.map headerLine) ++
      "\n\n".toList ++ body) =
        (some (joinLinesLf first (headers.map headerLine)).length, 2) := by
    have noCrlf := find_crlf_lf firstLine wellFormed body
    rw [find_eq_none_iff.mpr plain, Option.map_none] at noCrlf
    simp only [separator, noCrlf, find_separatorLf lines body]
  have bare : ∀ line ∈ first :: headers.map headerLine,
      popCarriageReturn line = line := by
    intro line member
    apply popCarriageReturn_of_ne
    intro last
    have cr := List.mem_of_getLast? last
    rcases List.mem_cons.mp member with rfl | isHeader
    · exact firstLine.noCr cr
    · obtain ⟨header, inHeaders, rfl⟩ := List.mem_map.mp isHeader
      have oneLine := wellFormed header inHeaders
      simp [headerLine, oneLine.name_oneLine.noCr,
        oneLine.value_oneLine.noCr] at cr
  have cleaned : (getlines (joinLinesLf first
      (headers.map headerLine))).map popCarriageReturn =
        first :: headers.map headerLine := by
    rw [getlines_joinLinesLf lines, List.map_congr_left bare, List.map_id']
  have read := parseLines_cleaned cleaned text texts
  rw [filterMap_readHeader
    (fun header member => (wellFormed header member).readable)] at read
  exact parse_split found read

/-- With CRLF CRLF in the body, only what follows it can be read as body. -/
theorem parse_lf_cut
    (firstLine : OneLine first)
    (wellFormed : ∀ header ∈ headers, WellFormedHeader header)
    {body : CppString} (holds : "\r\n\r\n".toList <:+: body) :
    ∃ message, parse (joinLinesLf first (headers.map headerLine) ++
        "\n\n".toList ++ body) = .ok message ∧
      message.body.length < body.length := by
  obtain ⟨position, inBody⟩ :=
    Option.isSome_iff_exists.mp (find_isSome_iff.mpr holds)
  have fits := find_add_length_le inBody
  have split := find_split inBody
  have found := find_crlf_lf firstLine wellFormed body
  rw [inBody, Option.map_some] at found
  have four : "\r\n\r\n".toList.length = 4 := rfl
  rw [four] at fits split
  have front : (joinLinesLf first (headers.map headerLine) ++
      "\n\n".toList ++ body.take position).length =
        position + (joinLinesLf first (headers.map headerLine) ++
          "\n\n".toList).length := by
    rw [List.length_append, List.length_take, Nat.add_comm,
      Nat.min_eq_left (by omega)]
  have whole : joinLinesLf first (headers.map headerLine) ++
      "\n\n".toList ++ body =
        (joinLinesLf first (headers.map headerLine) ++ "\n\n".toList ++
          body.take position) ++ "\r\n\r\n".toList ++
            body.drop (position + 4) := by
    conv_lhs => rw [split]
    simp only [List.append_assoc]
  obtain ⟨read, parsed⟩ := parseLines_total {} true
    (getlines (joinLinesLf first (headers.map headerLine) ++
      "\n\n".toList ++ body.take position))
  have cut : separator ((joinLinesLf first (headers.map headerLine) ++
      "\n\n".toList ++ body.take position) ++ "\r\n\r\n".toList ++
        body.drop (position + 4)) =
      (some (joinLinesLf first (headers.map headerLine) ++
        "\n\n".toList ++ body.take position).length, 4) := by
    rw [← whole, front]
    simp only [separator, found]
  refine ⟨_, whole ▸ parse_split cut parsed, ?_⟩
  have short := length_parseBody_le read (body.drop (position + 4))
  rw [List.length_drop] at short
  omega

end Framed

/--
A well-formed message framed with LF parses like the one framed with CRLF
exactly if its body does not contain CRLF CRLF.
-/
theorem parse_serializeLf_iff (message : WellFormedMessage) :
    parse (serializeLf message.toSIPMessage) = parse message.serialize ↔
      ¬ "\r\n\r\n".toList <:+: message.body := by
  have wellFormed := updateContentLength_headers_wellFormed message
  rw [parse_serialize, serializeLf_eq]
  constructor
  · intro same holds
    obtain ⟨read, parsed, short⟩ :=
      parse_lf_cut message.startLine_oneLine wellFormed holds
    rw [parsed, Except.ok.injEq] at same
    rw [same, updateContentLength_body] at short
    exact lt_irrefl _ short
  · intro plain
    rw [parse_lf message.startLine_nonempty message.startLine_oneLine
      wellFormed plain, parseBody_of_contentLength]
    · rfl
    · simp [updateContentLength, setHeader]

/-- A body with an empty line in it. -/
def twoParts : WellFormedMessage where
  startLine := "NOTE".toList
  headers := [⟨"To", "bob"⟩]
  body := "a\r\n\r\nb".toList
  startLine_nonempty := by decide
  startLine_oneLine := ⟨by decide, by decide⟩
  headers_wellFormed := by decide

/-- The front of the body is taken for a header part. -/
theorem twoParts_cut :
    parse (serializeLf twoParts.toSIPMessage) ≠ parse twoParts.serialize ∧
      parse (serializeLf twoParts.toSIPMessage) =
        .ok { twoParts.updateContentLength with body := "b".toList } := by
  decide

/-! ## Reading what was read and written again -/

/-- Written lines are read back, the last one without a CR at its end. -/
theorem getlines_joinLines_cr
    {first last : CppString} {rest : List CppString}
    (lines : ∀ line ∈ first :: rest, LineText line)
    (lastUnbroken : '\n' ∉ last) :
    (getlines (joinLines first (rest ++ [last ++ ['\r']]))).map
        popCarriageReturn =
      first :: rest ++ [last] := by
  have firstLine := lines first List.mem_cons_self
  have unbroken : '\n' ∉ first ++ ['\r'] := by
    simp [firstLine.unbroken]
  induction rest generalizing first with
  | nil =>
      have lastLine : '\n' ∉ last ++ ['\r'] := by simp [lastUnbroken]
      have split : joinLines first ([] ++ [last ++ ['\r']]) =
          (first ++ ['\r']) ++ '\n' :: (last ++ ['\r']) := by
        simp [joinLines]
      rw [split, getlines_append_newline unbroken,
        getlines_of_no_newline lastLine (by simp)]
      simp [popCarriageReturn_append]
  | cons line others ih =>
      have nextLines : ∀ text ∈ line :: others, LineText text :=
        fun text member => lines text (List.mem_cons_of_mem _ member)
      have nextLine := nextLines line List.mem_cons_self
      have nextUnbroken : '\n' ∉ line ++ ['\r'] := by
        simp [nextLine.unbroken]
      have split : joinLines first (line :: others ++ [last ++ ['\r']]) =
          (first ++ ['\r']) ++
            '\n' :: joinLines line (others ++ [last ++ ['\r']]) := by
        simp [joinLines]
      rw [split, getlines_append_newline unbroken, List.map_cons,
        popCarriageReturn_append, ih nextLines nextLine nextUnbroken]
      simp

/-- A CR at the end of the last value is lost. -/
theorem parse_written_cr
    {first : CppString} {headers : List SIPHeader} {last : SIPHeader}
    (firstLine : LineText first)
    (readable : ∀ header ∈ headers, Readable header)
    (lastText : HeaderText last) (body : CppString) :
    parse (written first
        (headers ++ [{ last with value := last.value ++ ['\r'] }]) body) =
      .ok (parseBody
        { startLine := first
          headers := headers ++ (readHeader last).toList } body) := by
  generalize lost : { last with value := last.value ++ ['\r'] } = ended
  have lastLine : headerLine ended = headerLine last ++ ['\r'] := by
    simp [← lost, headerLine]
  have endedText : HeaderText ended := by
    subst lost
    exact { lastText with value_unbroken := by simp [lastText.value_unbroken] }
  have texts : ∀ extra, HeaderText extra →
      ∀ header ∈ headers ++ [extra], HeaderText header := by
    intro extra extraText header member
    rcases List.mem_append.mp member with inHeaders | isExtra
    · exact (readable header inHeaders).toHeaderText
    · rw [List.mem_singleton.mp isExtra]
      exact extraText
  have found : separator (written first (headers ++ [ended]) body) =
      (some (joinLines first
        ((headers ++ [ended]).map headerLine)).length, 4) := by
    simp only [separator, written, find_separator
      (lineText_of_written firstLine (texts ended endedText)) body]
  have cleaned : (getlines (joinLines first
      ((headers ++ [ended]).map headerLine))).map popCarriageReturn =
        first :: (headers ++ [last]).map headerLine := by
    rw [List.map_append, List.map_append, List.map_singleton,
      List.map_singleton, lastLine]
    exact getlines_joinLines_cr
      (lineText_of_written firstLine
        (fun header member => (readable header member).toHeaderText))
      lastText.lineText.unbroken
  have read := parseLines_cleaned cleaned firstLine (texts last lastText)
  have one : List.filterMap readHeader [last] =
      (readHeader last).toList := by
    cases seen : readHeader last <;> simp [seen]
  rw [List.filterMap_append, filterMap_readHeader readable, one] at read
  exact parse_split found read

/-- The headers that are written are readable, whatever was read. -/
theorem Collected.updateContentLength
    {message : SIPMessage} (collected : Collected message) :
    ∀ header ∈ message.updateContentLength.headers, Readable header := by
  intro header member
  rcases mem_assignFirst member with old | rfl
  · exact collected.headers header old
  · exact (contentLength_wellFormed message.body.length).readable

/--
What was parsed survives being written and parsed again, with its
Content-Length set, exactly if the value written last does not end in CR.
-/
theorem reparse_iff
    (raw : CppString) (message : SIPMessage)
    (parsed : parse raw = .ok message) (started : message.startLine ≠ []) :
    parse message.serialize = .ok message.updateContentLength ↔
      ∀ header ∈ message.updateContentLength.headers.getLast?,
        header.value.getLast? ≠ some '\r' := by
  have collected := collected_of_parse parsed
  have readable := collected.updateContentLength
  have firstLine : LineText message.startLine :=
    ⟨started, collected.startLine⟩
  have stated : getHeader
      { startLine := message.startLine
        headers := message.updateContentLength.headers } "Content-Length" =
      Nat.toDigits 10 message.body.length := by
    simp [SIPMessage.updateContentLength, setHeader]
  rw [serialize_eq_written]
  constructor
  · rintro again ⟨name, value⟩ isLast endsCr
    obtain ⟨headers, split⟩ := List.getLast?_eq_some_iff.mp isLast
    obtain ⟨front, rfl⟩ := List.getLast?_eq_some_iff.mp endsCr
    rw [split] at again readable
    have last := readable ⟨name, front ++ ['\r']⟩ (by simp)
    have frontText : HeaderText ⟨name, front⟩ :=
      { last.toHeaderText with
        value_unbroken := fun broken =>
          last.value_unbroken (List.mem_append_left _ broken) }
    have cut := parse_written_cr firstLine
      (fun header member => readable header (List.mem_append_left _ member))
      frontText message.body
    rw [cut, Except.ok.injEq] at again
    have sameHeaders := congrArg SIPMessage.headers again
    rw [parseBody_headers, split] at sameHeaders
    have sameLast := List.append_cancel_left sameHeaders
    have shorter := length_strip_le blanks front
    have bareName : strip blanks name = name := strip_of_bare last.name_bare
    rw [readHeader, bareName, if_neg last.name_nonempty] at sameLast
    have sameValue : strip blanks front = front ++ ['\r'] := by
      simpa using sameLast
    rw [sameValue, List.length_append, List.length_singleton] at shorter
    omega
  · intro noCr
    rw [parse_written message.body firstLine
      (fun header member => (readable header member).toHeaderText)
      (assignFirst_ne_nil _ _ _) noCr, filterMap_readHeader readable,
      parseBody_of_contentLength stated]
    rfl

/-- A stray CR in front of a line that is no header. -/
def strayCr : CppString :=
  "PING\r\nContent-Length: 0\r\nX: a\r\r\njunk\r\n\r\n".toList

/-- The value ends in CR when it is read first, and no more after that. -/
theorem strayCr_lost :
    ∃ message, parse strayCr = .ok message ∧ message.startLine ≠ [] ∧
      message.getHeader "X" = "a\r".toList ∧
      parse message.serialize ≠ .ok message.updateContentLength := by
  refine ⟨{ startLine := "PING"
            headers := [⟨"Content-Length", "0"⟩, ⟨"X", "a\r"⟩] }, ?_⟩
  decide

/-- The same stray CR does no harm in front of another header. -/
theorem reparse_iff_stray :
    ∃ message,
      parse "PING\nX: a\r\r\n: no name\n\nbody".toList = .ok message ∧
      parse message.serialize = .ok message.updateContentLength := by
  have read : parse "PING\nX: a\r\r\n: no name\n\nbody".toList = .ok
      { startLine := "PING", headers := [⟨"X", "a\r"⟩], body := "body" } := by
    decide
  exact ⟨_, read, (reparse_iff _ _ read (by decide)).mpr (by decide)⟩

end MinimalSip.Proxy.SIPParser

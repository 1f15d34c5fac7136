import MinimalSip.Proxy.SipParser

/-!
# Reading back what was written

A written message is a start line, header lines, a blank line and a body, with
CRLF line ends.  `parse_written` computes what the parser makes of any such
text whose lines contain no line feed: the blank line that the writer put is
the one the reader finds, whatever the body holds, and every header line
becomes its stripped name and value.

For a well-formed message nothing is stripped, so parsing inverts
serialization up to the Content-Length that the serializer sets.
-/

namespace MinimalSip.Proxy.SIPParser

open MinimalSip.Lib.Search
open MinimalSip.Lib.Cpp
open MinimalSip.Common
open MinimalSip.Common.SIPMessage

/-! ## Lines and the blank line -/

/-- A text that can stand on a line of its own. -/
structure LineText (line : CppString) : Prop where
  nonempty : line ≠ []
  unbroken : '\n' ∉ line

/-- Lines joined by CRLF. -/
def joinLines (first : CppString) (rest : List CppString) : CppString :=
  first ++ rest.flatMap (fun line => '\r' :: '\n' :: line)

/-- The text of a start line, header lines, the blank line and a body. -/
def written
    (first : CppString) (headers : List SIPHeader) (body : CppString) :
    CppString :=
  joinLines first (headers.map headerLine) ++ "\r\n\r\n".toList ++ body

theorem joinLines_cons
    (first line : CppString) (rest : List CppString) :
    joinLines first (line :: rest) =
      (first ++ ['\r', '\n']) ++ joinLines line rest := by
  simp [joinLines]

/-- Inside a line no blank line starts. -/
theorem not_blank_line_prefix_of_unbroken
    {line : CppString} (unbroken : '\n' ∉ line) (rest : CppString)
    {offset : Nat} (inside : offset < line.length) :
    ¬ "\r\n".toList <+: (line ++ '\r' :: rest).drop offset := by
  rw [List.drop_append_of_le_length inside.le,
    List.drop_eq_getElem_cons inside]
  intro occurs
  have second : ['\n'] <+: line.drop (offset + 1) ++ '\r' :: rest :=
    (List.cons_prefix_cons.mp occurs).2
  cases remaining : line.drop (offset + 1) with
  | nil =>
      rw [remaining] at second
      exact absurd (List.cons_prefix_cons.mp second).1 (by decide)
  | cons head tail =>
      rw [remaining] at second
      have isNewline : '\n' = head := (List.cons_prefix_cons.mp second).1
      apply unbroken
      rw [isNewline]
      exact List.mem_of_mem_drop (remaining ▸ List.mem_cons_self)

theorem not_separator_prefix_of_unbroken
    {line : CppString} (unbroken : '\n' ∉ line) (rest : CppString)
    {offset : Nat} (inside : offset < line.length) :
    ¬ "\r\n\r\n".toList <+: (line ++ '\r' :: rest).drop offset := by
  intro occurs
  exact not_blank_line_prefix_of_unbroken unbroken rest inside
    ((List.prefix_append "\r\n".toList "\r\n".toList).trans occurs)

theorem joinLines_starts
    {line : CppString} (text : LineText line) (rest : List CppString)
    (after : CppString) :
    ¬ "\r\n".toList <+: joinLines line rest ++ '\r' :: after := by
  have inside : 0 < line.length := List.length_pos_iff.mpr text.nonempty
  cases rest with
  | nil =>
      simpa [joinLines] using
        not_blank_line_prefix_of_unbroken text.unbroken after inside
  | cons next others =>
      simpa [joinLines] using
        not_blank_line_prefix_of_unbroken text.unbroken
          ('\n' :: (joinLines next others ++ '\r' :: after)) inside

/-- The first blank line is the one after the last written line. -/
theorem find_separator
    {first : CppString} {rest : List CppString}
    (lines : ∀ line ∈ first :: rest, LineText line) (body : CppString) :
    find "\r\n\r\n" (joinLines first rest ++ "\r\n\r\n".toList ++ body) =
      some (joinLines first rest).length := by
  induction rest generalizing first with
  | nil =>
      have firstLine := lines first (by simp)
      have skipped := find_append_of_no_start first
        ("\r\n\r\n".toList ++ body)
        (fun offset inside => not_separator_prefix_of_unbroken
          firstLine.unbroken ('\n' :: '\r' :: '\n' :: body) inside)
      rw [find_of_starts (List.prefix_append _ _)] at skipped
      simpa [joinLines] using skipped
  | cons line others ih =>
      have firstLine := lines first (by simp)
      have nextLine := lines line (by simp)
      have nextLines : ∀ text ∈ line :: others, LineText text :=
        fun text member => lines text (by simp_all)
      have found := ih nextLines
      have noStart : ∀ offset < (first ++ ['\r', '\n']).length,
          ¬ "\r\n\r\n".toList <+:
            ((first ++ ['\r', '\n']) ++ (joinLines line others ++
              "\r\n\r\n".toList ++ body)).drop offset := by
        intro offset inside occurs
        simp only [List.length_append, List.length_cons,
          List.length_nil] at inside
        rcases Nat.lt_or_ge offset first.length with inFirst | atEnd
        · apply not_separator_prefix_of_unbroken firstLine.unbroken _ inFirst
          simpa using occurs
        · rw [List.append_assoc, List.drop_append,
            List.drop_eq_nil_of_le atEnd, List.nil_append] at occurs
          -- only the two characters of the line end are left
          have cases : offset - first.length = 0 ∨
              offset - first.length = 1 := by omega
          rcases cases with atCr | atLf
          · rw [atCr] at occurs
            apply joinLines_starts nextLine others
              ('\n' :: '\r' :: '\n' :: body)
            simpa [List.cons_prefix_cons] using occurs
          · rw [atLf] at occurs
            simp [List.cons_prefix_cons] at occurs
      have skipped := find_append_of_no_start _ _ noStart
      rw [joinLines_cons, List.append_assoc, List.append_assoc,
        ← List.append_assoc (joinLines line others), skipped, found]
      simp only [Option.map_some, Option.some.injEq, List.length_append,
        List.length_cons, List.length_nil]
      omega

/-- Reading joined lines gives the lines back. -/
theorem getlines_joinLines
    {first : CppString} {rest : List CppString}
    (lines : ∀ line ∈ first :: rest, LineText line)
    (lastLine : ∀ line ∈ (first :: rest).getLast?,
      line.getLast? ≠ some '\r') :
    (getlines (joinLines first rest)).map popCarriageReturn =
      first :: rest := by
  induction rest generalizing first with
  | nil =>
      have firstLine := lines first (by simp)
      have bare : first.getLast? ≠ some '\r' := lastLine first (by simp)
      simp [joinLines,
        getlines_of_no_newline firstLine.unbroken firstLine.nonempty,
        popCarriageReturn_of_ne bare]
  | cons line others ih =>
      have firstLine := lines first (by simp)
      have unbroken : '\n' ∉ first ++ ['\r'] := by
        simp [firstLine.unbroken]
      have nextLines : ∀ text ∈ line :: others, LineText text :=
        fun text member => lines text (by simp_all)
      have restLines := ih nextLines (by simpa using lastLine)
      have split : joinLines first (line :: others) =
          (first ++ ['\r']) ++ '\n' :: joinLines line others := by
        simp [joinLines]
      rw [split, getlines_append_newline unbroken, List.map_cons,
        popCarriageReturn_append, restLines]

/-- Past the start line, the loop is a fold over the cleaned lines. -/
theorem parseLines_headers
    {rawLines lines : List CppString}
    (cleaned : rawLines.map popCarriageReturn = lines)
    (nonempty : ∀ line ∈ lines, line ≠ []) (message : SIPMessage) :
    parseLines message false rawLines =
      lines.foldlM parseHeaderLine message := by
  induction rawLines generalizing lines message with
  | nil =>
      subst lines
      rfl
  | cons rawLine rest ih =>
      subst lines
      have present : popCarriageReturn rawLine ≠ [] :=
        nonempty _ (by simp)
      simp only [parseLines, if_neg present, Bool.false_eq_true, if_false,
        List.map_cons, List.foldlM_cons]
      congr 1
      funext next
      exact ih rfl (fun line member => nonempty line (by simp_all)) next

/-! ## Header lines -/

/-- A header that the reader can tell apart on its line. -/
structure HeaderText (header : SIPHeader) : Prop where
  noColon : ':' ∉ header.name
  name_unbroken : '\n' ∉ header.name
  value_unbroken : '\n' ∉ header.value

theorem HeaderText.lineText
    {header : SIPHeader} (text : HeaderText header) :
    LineText (headerLine header) where
  nonempty := by simp [headerLine]
  unbroken := by
    simp [headerLine, text.name_unbroken, text.value_unbroken]

/-- What the reader makes of a written header. -/
def readHeader (header : SIPHeader) : Option SIPHeader :=
  if strip blanks header.name = [] then none
  else some ⟨strip blanks header.name, strip blanks header.value⟩

/-- A header that the reader returns as it stands. -/
structure Readable (header : SIPHeader) : Prop extends HeaderText header where
  name_nonempty : header.name ≠ []
  name_bare : Bare blanks header.name
  value_bare : Bare blanks header.value

theorem Readable.readHeader_eq
    {header : SIPHeader} (readable : Readable header) :
    readHeader header = some header := by
  simp [readHeader, strip_of_bare readable.name_bare,
    strip_of_bare readable.value_bare, readable.name_nonempty]

theorem filterMap_readHeader
    {headers : List SIPHeader}
    (readable : ∀ header ∈ headers, Readable header) :
    headers.filterMap readHeader = headers := by
  rw [List.filterMap_congr (fun header member =>
    (readable header member).readHeader_eq), List.filterMap_some]

theorem parseHeaderLine_headerLine
    (message : SIPMessage) {header : SIPHeader}
    (text : HeaderText header) :
    parseHeaderLine message (headerLine header) =
      .ok { message with
        headers := message.headers ++ (readHeader header).toList } := by
  have split : headerLine header =
      header.name ++ ':' :: ' ' :: header.value := by
    simp [headerLine]
  have blank : strip blanks (' ' :: header.value) =
      strip blanks header.value :=
    strip_cons_of_mem (by decide) _
  rw [split, parseHeaderLine_eq message _ text.noColon, blank]
  unfold readHeader
  split
  · simp
  · rfl

theorem foldlM_parseHeaderLine
    (message : SIPMessage) {headers : List SIPHeader}
    (texts : ∀ header ∈ headers, HeaderText header) :
    (headers.map headerLine).foldlM parseHeaderLine message =
      .ok { message with
        headers := message.headers ++ headers.filterMap readHeader } := by
  induction headers generalizing message with
  | nil => simp
  | cons header rest ih =>
      rw [List.map_cons, List.foldlM_cons,
        parseHeaderLine_headerLine message (texts header (by simp)),
        ok_bind, ih _ (fun other member => texts other (by simp [member]))]
      cases seen : readHeader header <;> simp [seen]

/-- A header line ends as its value does, or in a blank. -/
theorem headerLine_getLast?
    {header : SIPHeader} (notCr : header.value.getLast? ≠ some '\r') :
    (headerLine header).getLast? ≠ some '\r' := by
  cases value : header.value.getLast? with
  | none =>
      have empty : header.value = [] := by simpa using value
      simp [headerLine, empty]
  | some char =>
      have otherChar : char ≠ '\r' := by
        rintro rfl
        exact notCr value
      rw [headerLine, List.getLast?_append, value]
      simpa using otherChar

/-- The parser on a text whose separator is known. -/
theorem parse_split
    {front between body : CppString} {read : SIPMessage}
    (found : separator (front ++ between ++ body) =
      (some front.length, between.length))
    (parsed : parseLines {} true (getlines front) = .ok read) :
    parse (front ++ between ++ body) = .ok (parseBody read body) := by
  have inside := separator_inside found
  have headerPart : (front ++ between ++ body).take front.length = front := by
    rw [List.append_assoc, List.take_left]
  have bodyPart : (front ++ between ++ body).drop
      (front.length + between.length) = body := by
    rw [← List.length_append, List.drop_left]
  simp only [parse, found, substr_none inside, headerPart, bodyPart, parsed,
    ok_bind]
  rfl

section Written

variable {first : CppString} {headers : List SIPHeader}

theorem lineText_of_written
    (firstLine : LineText first)
    (texts : ∀ header ∈ headers, HeaderText header) :
    ∀ line ∈ first :: headers.map headerLine, LineText line := by
  intro line member
  rcases List.mem_cons.mp member with rfl | isHeader
  · exact firstLine
  · obtain ⟨header, inHeaders, rfl⟩ := List.mem_map.mp isHeader
    exact (texts header inHeaders).lineText

/-- Lines that are clean are read as start line and headers. -/
theorem parseLines_cleaned
    {rawLines : List CppString}
    (cleaned : rawLines.map popCarriageReturn =
      first :: headers.map headerLine)
    (firstLine : LineText first)
    (texts : ∀ header ∈ headers, HeaderText header) :
    parseLines {} true rawLines =
      .ok { startLine := first, headers := headers.filterMap readHeader } := by
  cases rawLines with
  | nil => cases cleaned
  | cons rawFirst rawRest =>
      rw [List.map_cons, List.cons.injEq] at cleaned
      have headerLines : ∀ line ∈ headers.map headerLine, line ≠ [] := by
        intro line member
        obtain ⟨header, inHeaders, rfl⟩ := List.mem_map.mp member
        exact (texts header inHeaders).lineText.nonempty
      simp only [parseLines, cleaned.1, if_neg firstLine.nonempty, if_true]
      rw [parseLines_headers cleaned.2 headerLines,
        foldlM_parseHeaderLine _ texts]
      simp [parseStartLine, firstLine.nonempty]

/-- The lines of a written text are read as start line and headers. -/
theorem parseLines_joinLines
    (firstLine : LineText first)
    (texts : ∀ header ∈ headers, HeaderText header)
    (present : headers ≠ [])
    (lastValue : ∀ header ∈ headers.getLast?,
      header.value.getLast? ≠ some '\r') :
    parseLines {} true
        (getlines (joinLines first (headers.map headerLine))) =
      .ok { startLine := first, headers := headers.filterMap readHeader } := by
  have lines := lineText_of_written firstLine texts
  have lastLine : ∀ line ∈ (first :: headers.map headerLine).getLast?,
      line.getLast? ≠ some '\r' := by
    intro line last
    rw [List.getLast?_cons, List.getLast?_map] at last
    obtain ⟨header, isLast⟩ :=
      Option.isSome_iff_exists.mp (List.getLast?_isSome.mpr present)
    rw [isLast] at last
    obtain rfl : headerLine header = line := by simpa using last
    exact headerLine_getLast? (lastValue header isLast)
  exact parseLines_cleaned (getlines_joinLines lines lastLine) firstLine texts

/-- The parser on any written text whose lines are lines. -/
theorem parse_written
    (body : CppString)
    (firstLine : LineText first)
    (texts : ∀ header ∈ headers, HeaderText header)
    (present : headers ≠ [])
    (lastValue : ∀ header ∈ headers.getLast?,
      header.value.getLast? ≠ some '\r') :
    parse (written first headers body) =
      .ok (parseBody
        { startLine := first, headers := headers.filterMap readHeader }
        body) := by
  have found : separator (written first headers body) =
      (some (joinLines first (headers.map headerLine)).length, 4) := by
    simp only [separator, written,
      find_separator (lineText_of_written firstLine texts) body]
  exact parse_split found
    (parseLines_joinLines firstLine texts present lastValue)

end Written

/-! ## Well-formed messages -/

/-- A text without line-end characters. -/
structure OneLine (text : CppString) : Prop where
  noCr : '\r' ∉ text
  noLf : '\n' ∉ text

structure WellFormedHeader (header : SIPHeader) : Prop where
  name_nonempty : header.name ≠ []
  name_noColon : ':' ∉ header.name
  name_oneLine : OneLine header.name
  name_bare : Bare blanks header.name
  value_oneLine : OneLine header.value
  value_bare : Bare blanks header.value

instance (text : CppString) : Decidable (OneLine text) :=
  decidable_of_iff ('\r' ∉ text ∧ '\n' ∉ text)
    ⟨fun both => ⟨both.1, both.2⟩, fun one => ⟨one.noCr, one.noLf⟩⟩

instance (header : SIPHeader) : Decidable (WellFormedHeader header) :=
  decidable_of_iff
    (header.name ≠ [] ∧ ':' ∉ header.name ∧ OneLine header.name ∧
      Bare blanks header.name ∧ OneLine header.value ∧
      Bare blanks header.value)
    ⟨fun ⟨nonempty, noColon, nameLine, nameBare, valueLine, valueBare⟩ =>
        ⟨nonempty, noColon, nameLine, nameBare, valueLine, valueBare⟩,
      fun header => ⟨header.name_nonempty, header.name_noColon,
        header.name_oneLine, header.name_bare, header.value_oneLine,
        header.value_bare⟩⟩

/-- A message whose start line and headers survive on lines of their own. -/
structure WellFormedMessage extends SIPMessage where
  startLine_nonempty : startLine ≠ []
  startLine_oneLine : OneLine startLine
  headers_wellFormed : ∀ header ∈ headers, WellFormedHeader header

theorem WellFormedHeader.headerText
    {header : SIPHeader} (wellFormed : WellFormedHeader header) :
    HeaderText header where
  noColon := wellFormed.name_noColon
  name_unbroken := wellFormed.name_oneLine.noLf
  value_unbroken := wellFormed.value_oneLine.noLf

theorem WellFormedHeader.readable
    {header : SIPHeader} (wellFormed : WellFormedHeader header) :
    Readable header where
  toHeaderText := wellFormed.headerText
  name_nonempty := wellFormed.name_nonempty
  name_bare := wellFormed.name_bare
  value_bare := wellFormed.value_bare

theorem contentLength_wellFormed (size : Nat) :
    WellFormedHeader ⟨"Content-Length", stdToString size⟩ := by
  have digit : ∀ char ∈ Nat.toDigits 10 size, char ∉ blanks := by
    intro char member blank
    have isDigit := isDigit_of_mem_toDigits member
    simp only [blanks, String.reduceToList, List.mem_cons,
      List.not_mem_nil, or_false] at blank
    rcases blank with rfl | rfl <;> revert isDigit <;> decide
  have name : "Content-Length".toList ≠ [] ∧
      ':' ∉ "Content-Length".toList ∧ '\r' ∉ "Content-Length".toList ∧
      '\n' ∉ "Content-Length".toList ∧
      Bare blanks "Content-Length".toList := by
    decide
  obtain ⟨nonempty, noColon, noCr, noLf, bare⟩ := name
  refine ⟨nonempty, noColon, ⟨noCr, noLf⟩, bare, ?_, ?_⟩
  · rw [stdToString_natCast]
    exact ⟨not_mem_toDigits (by decide) size,
      not_mem_toDigits (by decide) size⟩
  · rw [stdToString_natCast]
    exact ⟨fun char first => digit char (List.mem_of_mem_head? first),
      fun char last => digit char (List.mem_of_mem_getLast? last)⟩

theorem updateContentLength_headers_wellFormed
    (message : WellFormedMessage) :
    ∀ header ∈ message.updateContentLength.headers,
      WellFormedHeader header := by
  intro header member
  rcases mem_assignFirst member with old | rfl
  · exact message.headers_wellFormed header old
  · exact contentLength_wellFormed message.body.length

theorem crlf_flatMap_headerLine (headers : List SIPHeader) :
    "\r\n".toList ++ headers.flatMap
        (fun header => headerLine header ++ "\r\n".toList) =
      (headers.map headerLine).flatMap
        (fun line => '\r' :: '\n' :: line) ++ "\r\n".toList := by
  induction headers with
  | nil => rfl
  | cons header rest ih =>
      rw [List.flatMap_cons, List.map_cons, List.flatMap_cons,
        List.append_assoc, ← List.append_assoc, ← List.append_assoc,
        List.append_assoc _ "\r\n".toList, ih]
      simp

/-- Start line, header lines, blank line and body, as they are streamed. -/
theorem stream_eq_written
    (first : CppString) (headers : List SIPHeader) (body : CppString) :
    first ++ "\r\n".toList ++
        headers.flatMap (fun header => headerLine header ++ "\r\n".toList) ++
        "\r\n".toList ++ body =
      written first headers body := by
  have lineEnds := crlf_flatMap_headerLine headers
  simp only [written, joinLines]
  rw [List.append_assoc first, lineEnds]
  simp

/-- The serializer writes the start line, the headers and the body. -/
theorem serialize_eq_written (message : SIPMessage) :
    message.serialize =
      written message.startLine message.updateContentLength.headers
        message.body :=
  stream_eq_written _ _ _

/-- A Content-Length that states the size leaves the body as it is. -/
theorem parseBody_of_contentLength
    {message : SIPMessage} {body : CppString}
    (stated : message.getHeader "Content-Length" =
      Nat.toDigits 10 body.length) :
    parseBody message body = { message with body := body } := by
  by_cases empty : body = []
  · simp [parseBody, empty]
  · have read := stoi_toDigits_append body.length [] (by simp)
    rw [List.append_nil] at read
    by_cases fits : body.length ≤ 2147483647
    · have size : getContentLength message = body.length := by
        simp only [getContentLength, stated, if_neg Nat.toDigits_ne_nil,
          read, if_pos fits]
      have nonnegative : ¬ ((body.length : Int) < 0) := by omega
      simp only [parseBody, if_neg empty, size, if_neg nonnegative,
        Int.toNat_natCast, Nat.min_self, List.take_length]
    · -- beyond `int` the conversion throws and the whole rest is the body
      have unknown : getContentLength message = -1 := by
        simp only [getContentLength, stated, if_neg Nat.toDigits_ne_nil,
          read, if_neg fits]
      simp [parseBody, empty, unknown]

/--
Parsing a serialized well-formed message gives the message back, with its
first Content-Length set to the size of the body.
-/
theorem parse_serialize (message : WellFormedMessage) :
    parse message.serialize = .ok message.updateContentLength := by
  have wellFormed := updateContentLength_headers_wellFormed message
  have read := parse_written message.body
    ⟨message.startLine_nonempty, message.startLine_oneLine.noLf⟩
    (fun header member => (wellFormed header member).headerText)
    (assignFirst_ne_nil _ _ _)
    (fun header last isCr => (wellFormed header
      (List.mem_of_mem_getLast? last)).value_oneLine.noCr
        (List.mem_of_getLast? isCr))
  rw [serialize_eq_written, read, filterMap_readHeader
    (fun header member => (wellFormed header member).readable),
    parseBody_of_contentLength]
  · rfl
  · simp [updateContentLength, setHeader]

end MinimalSip.Proxy.SIPParser

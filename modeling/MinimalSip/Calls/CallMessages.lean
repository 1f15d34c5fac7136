import MinimalSip.Client.Letters
import MinimalSip.Proxy.Transparency

/-!
# The messages of a call

All messages of a call have the same block of headers: Via lines, the two
parties, the Call-ID, the CSeq, and Content-Length.  This module shows what
the factories of the clients and the proxy do to such a block, and that plain
values make it a letter.
-/

namespace MinimalSip.Calls

open MinimalSip.Lib.Cpp
open MinimalSip.Lib.Search
open MinimalSip.Lib.Regex
open MinimalSip.Common
open MinimalSip.Common.SIPMessage
open MinimalSip.Client
open MinimalSip.Proxy
open MinimalSip.Proxy.SIPParser (OneLine)
open MinimalSip.Proxy.SIPRouter

/-! ## The header block -/

structure CallMessage where
  startLine : CppString
  vias : List CppString
  sender : CppString
  target : CppString
  callId : CppString
  cseq : CppString
  contacts : List CppString := []

namespace CallMessage

variable (call : CallMessage)

def tail : List SIPHeader :=
  call.contacts.map (fun value => ⟨"Contact", value⟩) ++
    [⟨"Content-Length", "0"⟩]

def headers : List SIPHeader :=
  call.vias.map (fun value => ⟨"Via", value⟩) ++
    ⟨"From", call.sender⟩ :: ⟨"To", call.target⟩ ::
      ⟨"Call-ID", call.callId⟩ :: ⟨"CSeq", call.cseq⟩ :: call.tail

def message : SIPMessage where
  startLine := call.startLine
  headers := call.headers

def text : CppString :=
  call.message.serialize

end CallMessage

variable {call : CallMessage}

theorem valueIn_map_of_ne
    {name other : CppString} (different : name ≠ other)
    (values : List CppString) (rest : List SIPHeader) :
    valueIn (values.map (fun value => ⟨name, value⟩) ++ rest) other =
      valueIn rest other := by
  induction values with
  | nil => rfl
  | cons value values ih =>
      rw [List.map_cons, List.cons_append, valueIn_cons, if_neg different, ih]

theorem getHeader_via :
    call.message.getHeader "Via" = call.vias.headD [] := by
  change valueIn call.headers "Via" = call.vias.headD []
  unfold CallMessage.headers
  cases call.vias with
  | nil =>
      rw [List.map_nil, List.nil_append]
      have contacts := @valueIn_map_of_ne "Contact" "Via" (by decide)
        call.contacts [⟨"Content-Length", "0"⟩]
      exact contacts
  | cons via rest => rfl

theorem getHeader_from :
    call.message.getHeader "From" = call.sender :=
  valueIn_map_of_ne (by decide) call.vias _

theorem getHeader_to :
    call.message.getHeader "To" = call.target :=
  valueIn_map_of_ne (by decide) call.vias _

theorem getHeader_callId :
    call.message.getHeader "Call-ID" = call.callId :=
  valueIn_map_of_ne (by decide) call.vias _

theorem getHeader_cseq :
    call.message.getHeader "CSeq" = call.cseq :=
  valueIn_map_of_ne (by decide) call.vias _

/-- The headers that a client repeats are all there. -/
theorem echoed_present (some : call.vias ≠ []) :
    ∀ name ∈ SIPMessageFactory.echoedHeaders,
      name ∈ call.message.headers.map SIPHeader.name := by
  obtain ⟨via, rest, split⟩ := List.exists_cons_of_ne_nil some
  intro name echoed
  unfold CallMessage.message CallMessage.headers
  rw [split]
  simp only [SIPMessageFactory.echoedHeaders, List.mem_cons,
    List.not_mem_nil, or_false] at echoed
  rcases echoed with rfl | rfl | rfl | rfl | rfl
  all_goals simp [-String.reduceToList]

theorem assignFirst_map_of_ne
    {name other : CppString} (different : name ≠ other) (value : CppString)
    (values : List CppString) (rest : List SIPHeader) :
    assignFirst other value (values.map (fun value => ⟨name, value⟩) ++ rest) =
      values.map (fun value => ⟨name, value⟩) ++
        assignFirst other value rest := by
  induction values with
  | nil => rfl
  | cons first values ih =>
      rw [List.map_cons, List.cons_append, assignFirst, if_neg different, ih]
      rfl

/-- The header block states the size of the empty body. -/
theorem sized : call.message.updateContentLength = call.message := by
  have last : assignFirst "Content-Length" "0" call.tail = call.tail := by
    unfold CallMessage.tail
    rw [assignFirst_map_of_ne (by decide)]
    rfl
  have whole : assignFirst "Content-Length" "0" call.headers =
      call.headers := by
    unfold CallMessage.headers
    rw [assignFirst_map_of_ne (by decide)]
    have block : ∀ rest : List SIPHeader,
        assignFirst "Content-Length" "0" (⟨"From", call.sender⟩ ::
          ⟨"To", call.target⟩ :: ⟨"Call-ID", call.callId⟩ ::
            ⟨"CSeq", call.cseq⟩ :: rest) =
          ⟨"From", call.sender⟩ :: ⟨"To", call.target⟩ ::
            ⟨"Call-ID", call.callId⟩ :: ⟨"CSeq", call.cseq⟩ ::
              assignFirst "Content-Length" "0" rest :=
      fun rest => rfl
    rw [block, last]
  have size : stdToString call.message.body.length = "0".toList := by
    change stdToString 0 = _
    decide
  rw [updateContentLength, setHeader, size]
  exact congrArg (fun headers =>
    ({ startLine := call.startLine, headers := headers } : SIPMessage)) whole

/-- A call message whose values are plain. -/
structure CallMessage.Plain (call : CallMessage) : Prop where
  startLine_nonempty : call.startLine ≠ []
  startLine_oneLine : OneLine call.startLine
  startLine_colons : ColonsAfter beforePort ' ' call.startLine = true
  vias : ∀ value ∈ call.vias, PlainValue value
  sender : PlainValue call.sender
  target : PlainValue call.target
  callId : PlainValue call.callId
  cseq : PlainValue call.cseq
  contacts : ∀ value ∈ call.contacts, PlainValue value

theorem plainValue_zero : PlainValue "0" := by
  refine ⟨by decide, ⟨by decide, by decide⟩, by decide, by decide, by decide⟩

theorem CallMessage.Plain.letter (plain : call.Plain) :
    Letter call.message where
  startLine_nonempty := plain.startLine_nonempty
  startLine_oneLine := plain.startLine_oneLine
  startLine_colons := plain.startLine_colons
  headers := by
    intro header member
    simp only [CallMessage.message, CallMessage.headers, CallMessage.tail,
      List.mem_append, List.mem_map, List.mem_cons, List.not_mem_nil,
      or_false] at member
    rcases member with ⟨via, isVia, rfl⟩ | rfl | rfl | rfl | rfl |
      ⟨contact, isContact, rfl⟩ | rfl
    · exact ⟨show "Via".toList ∈ letterNames by decide, plain.vias via isVia⟩
    · exact ⟨show "From".toList ∈ letterNames by decide, plain.sender⟩
    · exact ⟨show "To".toList ∈ letterNames by decide, plain.target⟩
    · exact ⟨show "Call-ID".toList ∈ letterNames by decide, plain.callId⟩
    · exact ⟨show "CSeq".toList ∈ letterNames by decide, plain.cseq⟩
    · exact ⟨show "Contact".toList ∈ letterNames by decide,
        plain.contacts contact isContact⟩
    · exact ⟨show "Content-Length".toList ∈ letterNames by decide,
        plainValue_zero⟩
  body := rfl
  sized := sized

/-! ## What the factories write -/

theorem serialize_eq_text :
    SIPMessageFactory.serialize call.message = call.text := by
  unfold CallMessage.text SIPMessage.serialize
  rw [sized]
  rfl

namespace CallMessage

/-- A request of a factory, without extra header lines. -/
def request (factory : SIPMessageFactory)
    (method fromUser fromDomain toUser toDomain callId : CppString) :
    CallMessage where
  startLine := method ++ " ".toList ++
    ("sip:".toList ++ toUser ++ "@".toList ++ toDomain) ++
    " SIP/2.0".toList
  vias := [factory.makeVia]
  sender := bracketed fromUser fromDomain
  target := bracketed toUser toDomain
  callId := callId
  cseq := stdToString factory.cseq ++ " ".toList ++ method
  contacts :=
    if method = "INVITE".toList then
      [bracketed fromUser factory.localAddress]
    else []

/-- The ACK for a failed call. -/
def errorAck (factory : SIPMessageFactory)
    (fromUser fromDomain toUser toDomain callId : CppString)
    (cseqNum : Int) : CallMessage where
  startLine := "ACK".toList ++ " ".toList ++
    ("sip:".toList ++ toUser ++ "@".toList ++ toDomain) ++
    " SIP/2.0".toList
  vias := [factory.makeVia]
  sender := bracketed fromUser fromDomain
  target := bracketed toUser toDomain
  callId := callId
  cseq := stdToString cseqNum ++ " ".toList ++ "ACK".toList

/-- What a client answers to a text. -/
def answer (call : CallMessage) (code : Int) (reason : CppString) :
    CallMessage where
  startLine := "SIP/2.0 ".toList ++ stdToString code ++ " ".toList ++ reason
  vias := [call.vias.headD []]
  sender := call.sender
  target := call.target
  callId := call.callId
  cseq := call.cseq

/-- The message with the proxy's Via for the next hop. -/
def forwarded (call : CallMessage) (via : CppString) : CallMessage :=
  { call with vias := via :: call.vias }

end CallMessage

variable {factory : SIPMessageFactory}
variable {fromUser fromDomain toUser toDomain callId : CppString}

/-- The methods of the requests of a call. -/
def callMethods : List CppString :=
  ["INVITE".toList, "ACK".toList, "BYE".toList]

theorem request_eq
    {method : CppString} (known : method ∈ callMethods) :
    factory.request method fromUser fromDomain toUser toDomain callId [] =
      (CallMessage.request factory method fromUser fromDomain toUser toDomain
        callId).message := by
  simp only [callMethods, List.mem_cons, List.not_mem_nil, or_false] at known
  rcases known with rfl | rfl | rfl
  · rfl
  · rfl
  · rfl

theorem errorAck_eq (cseqNum : Int) :
    factory.errorAck fromUser fromDomain toUser toDomain callId cseqNum =
      (CallMessage.errorAck factory fromUser fromDomain toUser toDomain callId
        cseqNum).message := by
  have method : "ACK ".toList = "ACK".toList ++ " ".toList := by decide
  have number : " ACK".toList = " ".toList ++ "ACK".toList := by decide
  have target : "<".toList ++ ("sip:".toList ++ toUser ++ "@".toList ++
      toDomain) ++ ">".toList = bracketed toUser toDomain := by
    have opened : "<sip:".toList = "<".toList ++ "sip:".toList := by decide
    unfold bracketed
    rw [opened]
    simp only [List.append_assoc]
  unfold SIPMessageFactory.errorAck
  dsimp only
  rw [method, number, target, ← List.append_assoc (stdToString cseqNum)]
  rfl

/-- A client repeats the headers of the text that it answers. -/
theorem buildResponse_eq
    (plain : call.Plain) (some : call.vias ≠ []) (code : Int)
    (reason : CppString) :
    SIPMessageFactory.buildResponse code reason call.text [] =
      (call.answer code reason).text := by
  have echo : SIPMessageFactory.echoedHeaders.map
      (fun name => (⟨name, SIPMessageFactory.headerOf call.text name⟩ :
        SIPHeader)) =
      [⟨"Via", call.vias.headD []⟩, ⟨"From", call.sender⟩,
        ⟨"To", call.target⟩, ⟨"Call-ID", call.callId⟩,
        ⟨"CSeq", call.cseq⟩] := by
    rw [← getHeader_via, ← getHeader_from, ← getHeader_to,
      ← getHeader_callId, ← getHeader_cseq]
    have read : SIPMessageFactory.echoedHeaders.map
        (fun name => (⟨name, SIPMessageFactory.headerOf call.text name⟩ :
          SIPHeader)) =
        SIPMessageFactory.echoedHeaders.map
          (fun name => ⟨name, call.message.getHeader name⟩) := by
      refine List.map_congr_left (fun name echoed => ?_)
      rw [← plain.letter.headerOf echoed (echoed_present some name echoed)]
      rfl
    exact read
  have headers : (call.answer code reason).message.headers =
      SIPMessageFactory.echoedHeaders.map
        (fun name => ⟨name, SIPMessageFactory.headerOf call.text name⟩) ++
          [⟨"Content-Length", "0"⟩] := by
    rw [echo]
    rfl
  have last : "Content-Length: 0\r\n\r\n".toList =
      headerLine ⟨"Content-Length", "0"⟩ ++ "\r\n".toList ++
        "\r\n".toList := by
    decide
  have built : SIPMessageFactory.buildResponse code reason call.text [] =
      (call.answer code reason).startLine ++ "\r\n".toList ++
        SIPMessageFactory.echoedHeaders.flatMap (fun name =>
          headerLine ⟨name, SIPMessageFactory.headerOf call.text name⟩ ++
            "\r\n".toList) ++
        (headerLine ⟨"Content-Length", "0"⟩ ++ "\r\n".toList ++
          "\r\n".toList) := by
    rw [← last]
    exact congrArg (fun front => front ++ "Content-Length: 0\r\n\r\n".toList)
      (List.append_nil _)
  rw [built, ← @serialize_eq_text (call.answer code reason),
    SIPMessageFactory.serialize, headers, List.flatMap_append,
    List.flatMap_map, List.flatMap_singleton]
  change _ = (call.answer code reason).startLine ++ _ ++ _ ++ _ ++ []
  rw [List.append_nil, ← List.append_assoc]
  exact congrArg (fun front => front ++ "\r\n".toList)
    (List.append_assoc _ _ _)

/-- The proxy takes its own Via off again. -/
theorem stripProxyVia_eq
    {via : CppString} {rest : List CppString}
    (first : call.vias = via :: rest) (proxy : namesProxy via = true) :
    stripProxyVia call.message = { call with vias := rest }.message := by
  have isProxy : isProxyVia ⟨"Via", via⟩ = true := by
    rw [isProxyVia, proxy, Bool.and_true]
    exact decide_eq_true rfl
  unfold stripProxyVia CallMessage.message CallMessage.headers
  rw [first, List.map_cons, List.cons_append, List.eraseP_cons_of_pos isProxy]
  rfl

/-- The answer of the proxy itself. -/
def CallMessage.refused (call : CallMessage) (status : CppString) :
    CallMessage where
  startLine := status
  vias := [call.vias.headD []]
  sender := call.sender
  target := call.target
  callId := call.callId
  cseq := call.cseq

theorem localResponse_eq
    (plain : call.Plain) (some : call.vias ≠ []) (status : CppString) :
    localResponse status call.message = (call.refused status).message := by
  obtain ⟨via, rest, split⟩ := List.exists_cons_of_ne_nil some
  have viaNonempty : via ≠ [] := (plain.vias via (by simp [split])).nonempty
  unfold localResponse
  simp only [getHeader_via, getHeader_from, getHeader_to, getHeader_callId,
    getHeader_cseq, split, List.headD_cons, addNonempty, if_neg viaNonempty,
    if_neg plain.sender.nonempty, if_neg plain.target.nonempty,
    if_neg plain.callId.nonempty, if_neg plain.cseq.nonempty]
  unfold CallMessage.refused
  rw [split]
  rfl

/-- Stored headers that are all standard add nothing. -/
theorem addStoredHeaders_of_standard
    (config : RouterConfig) {stored : HeaderMap}
    (standard : ∀ entry ∈ stored.entries, entry.name ∈ standardHeaders)
    (message : SIPMessage) :
    addStoredHeaders (config.iterate stored) message = message := by
  have none : (config.iterate stored).filter (isMissing message) = [] := by
    rw [List.filter_eq_nil_iff]
    intro header member
    have known := standard header
      ((config.iterate_perm stored).mem_iff.mp member)
    rw [isMissing_iff]
    exact fun missing => missing.1 known
  rw [addStoredHeaders_eq (names_iterate config stored), none,
    List.append_nil]

/-- A call message leaves only standard headers behind. -/
theorem standard_stored {entry : SIPHeader}
    (member : entry ∈
      ((∅ : HeaderMap).assignAll call.message.headers).entries) :
    entry.name ∈ standardHeaders := by
  rcases HeaderMap.mem_assignAll member with none | own
  · cases none
  · simp only [CallMessage.message, CallMessage.headers, CallMessage.tail,
      List.mem_append, List.mem_map, List.mem_cons, List.not_mem_nil,
      or_false] at own
    rcases own with ⟨_, -, rfl⟩ | rfl | rfl | rfl | rfl | ⟨_, -, rfl⟩ | rfl
    · exact show "Via".toList ∈ standardHeaders by decide
    · exact show "From".toList ∈ standardHeaders by decide
    · exact show "To".toList ∈ standardHeaders by decide
    · exact show "Call-ID".toList ∈ standardHeaders by decide
    · exact show "CSeq".toList ∈ standardHeaders by decide
    · exact show "Contact".toList ∈ standardHeaders by decide
    · exact show "Content-Length".toList ∈ standardHeaders by decide

/-! ## Plain values -/

/-- A part of a plain value: one line whose colons are in order. -/
structure Piece (text : CppString) : Prop where
  oneLine : OneLine text
  colons : ∀ previous, ColonsAfter beforePort previous text = true

theorem Piece.append
    {first second : CppString} (one : Piece first) (other : Piece second) :
    Piece (first ++ second) where
  oneLine :=
    { noCr := by simp [one.oneLine.noCr, other.oneLine.noCr]
      noLf := by simp [one.oneLine.noLf, other.oneLine.noLf] }
  colons := by
    intro previous
    rw [colonsAfter_append, one.colons, other.colons]
    rfl

theorem Piece.plainValue
    {text : CppString} (piece : Piece text) {first last : Char}
    (starts : text.head? = some first) (ends : text.getLast? = some last)
    (solidFirst : isSpace first = false) (solidLast : isSpace last = false) :
    PlainValue text where
  nonempty := by
    rintro rfl
    cases starts
  oneLine := piece.oneLine
  first := by
    intro char found
    rw [starts] at found
    exact Option.some.inj found ▸ solidFirst
  last := by
    intro char found
    rw [ends] at found
    exact Option.some.inj found ▸ solidLast
  colons := piece.colons ' '

/-- A text without colons and line ends. -/
theorem piece_of_noColon
    {text : CppString} (oneLine : OneLine text) (noColon : ':' ∉ text) :
    Piece text :=
  ⟨oneLine, fun _ => colonsAfter_of_noColon noColon⟩

theorem piece_name
    {text : CppString} (plain : PlainName text) : Piece text := by
  refine piece_of_noColon ⟨?_, ?_⟩ (plain.plain ':' (by decide))
  · intro member
    exact absurd (plain.solid _ member) (by decide)
  · intro member
    exact absurd (plain.solid _ member) (by decide)

theorem not_mem_stdToString
    {char : Char} (notDigit : char.isDigit = false) (notMinus : char ≠ '-')
    (number : Int) : char ∉ stdToString number := by
  have digits := not_mem_toDigits notDigit number.natAbs
  unfold stdToString
  split_ifs
  · simp [notMinus, digits]
  · exact digits

theorem piece_stdToString (value : Int) : Piece (stdToString value) :=
  piece_of_noColon
    ⟨not_mem_stdToString (by decide) (by decide) value,
      not_mem_stdToString (by decide) (by decide) value⟩
    (not_mem_stdToString (by decide) (by decide) value)

/-- The text of an IPv4 address. -/
structure PlainHost (text : CppString) : Prop where
  nonempty : text ≠ []
  numeric : ∀ char ∈ text, char.isDigit = true ∨ char = '.'

theorem beforePort_of_numeric
    {char : Char} (numeric : char.isDigit = true ∨ char = '.') :
    beforePort char = true := by
  rcases numeric with digit | rfl
  · obtain ⟨lower, upper⟩ := isDigit_bounds digit
    rw [← Char.ofNat_toNat char]
    generalize char.toNat = code at lower upper
    have known : code = 48 ∨ code = 49 ∨ code = 50 ∨ code = 51 ∨ code = 52 ∨
        code = 53 ∨ code = 54 ∨ code = 55 ∨ code = 56 ∨ code = 57 := by
      omega
    rcases known with rfl | rfl | rfl | rfl | rfl | rfl | rfl | rfl | rfl | rfl
    all_goals decide
  · decide

theorem PlainHost.piece
    {text : CppString} (plain : PlainHost text) : Piece text := by
  have other : ∀ char : Char, char.isDigit = false → char ≠ '.' →
      char ∉ text := by
    intro char notDigit notDot member
    rcases plain.numeric char member with digit | dot
    · rw [notDigit] at digit
      cases digit
    · exact notDot dot
  exact piece_of_noColon
    ⟨other _ (by decide) (by decide), other _ (by decide) (by decide)⟩
    (other _ (by decide) (by decide))

/-- A host and a port. -/
theorem Piece.port
    {host port : CppString} {last : Char} (one : Piece host)
    (other : Piece port) (ends : host.getLast? = some last)
    (stands : beforePort last = true) :
    Piece (host ++ ":".toList ++ port) where
  oneLine :=
    { noCr := by simp [one.oneLine.noCr, other.oneLine.noCr]
      noLf := by simp [one.oneLine.noLf, other.oneLine.noLf] }
  colons := by
    intro previous
    have colon : ColonsAfter beforePort (host.getLastD previous) ":".toList =
        true := by
      rw [List.getLastD_eq_getLast?, ends]
      simp [ColonsAfter, stands]
    rw [colonsAfter_append, colonsAfter_append, one.colons, colon,
      other.colons]
    rfl

theorem PlainHost.ends
    {text : CppString} (plain : PlainHost text) :
    ∃ last, text.getLast? = some last ∧ beforePort last = true ∧
      isSpace last = false := by
  obtain ⟨last, ends⟩ := Option.isSome_iff_exists.mp
    (List.getLast?_isSome.mpr plain.nonempty)
  have numeric := plain.numeric last (List.mem_of_getLast? ends)
  refine ⟨last, ends, beforePort_of_numeric numeric, ?_⟩
  rcases numeric with digit | rfl
  · exact isSpace_of_digit digit
  · decide

theorem stdToString_first (value : Int) :
    ∃ first, (stdToString value).head? = some first ∧
      isSpace first = false := by
  obtain ⟨first, rest, split⟩ := List.exists_cons_of_ne_nil
    (@Nat.toDigits_ne_nil value.natAbs 10)
  have digit : first.isDigit = true :=
    @isDigit_of_mem_toDigits value.natAbs first (by simp [split])
  unfold stdToString
  split_ifs
  · exact ⟨'-', rfl, by decide⟩
  · exact ⟨first, by rw [split]; rfl, isSpace_of_digit digit⟩

theorem stdToString_last (value : Int) :
    ∃ last, (stdToString value).getLast? = some last ∧
      isSpace last = false := by
  obtain ⟨last, ends⟩ := Option.isSome_iff_exists.mp
    (List.getLast?_isSome.mpr (@Nat.toDigits_ne_nil value.natAbs 10))
  have digit : last.isDigit = true :=
    isDigit_of_mem_toDigits (List.mem_of_getLast? ends)
  refine ⟨last, ?_, isSpace_of_digit digit⟩
  unfold stdToString
  split_ifs
  · rw [List.getLast?_cons, ends]
    rfl
  · exact ends

/-- A fixed text is tested for being a piece. -/
theorem piece_literal
    (text : CppString)
    (tested : text.head? ≠ some ':' ∧
      ColonsAfter beforePort ' ' text = true ∧
      '\r' ∉ text ∧ '\n' ∉ text) :
    Piece text := by
  obtain ⟨starts, colons, noCr, noLf⟩ := tested
  refine ⟨⟨noCr, noLf⟩, fun previous => ?_⟩
  cases text with
  | nil => rfl
  | cons head tail =>
      have notColon : head ≠ ':' := fun same => starts (by rw [same]; rfl)
      simp only [ColonsAfter, Bool.and_eq_true] at colons ⊢
      exact ⟨by simp [notColon], colons.2⟩

theorem starts_append
    {text : CppString} {first : Char} (starts : text.head? = some first)
    (rest : CppString) : (text ++ rest).head? = some first := by
  rw [List.head?_append, starts]
  rfl

theorem ends_append
    {text : CppString} {last : Char} (ends : text.getLast? = some last)
    (before : CppString) : (before ++ text).getLast? = some last := by
  rw [List.getLast?_append, ends]
  rfl

theorem nonempty_append
    {text : CppString} (nonempty : text ≠ []) (rest : CppString) :
    text ++ rest ≠ [] :=
  fun empty => nonempty (List.append_eq_nil_iff.mp empty).1

theorem piece_method
    {method : CppString} (known : method ∈ callMethods) : Piece method := by
  simp only [callMethods, List.mem_cons, List.not_mem_nil, or_false] at known
  rcases known with rfl | rfl | rfl
  · exact piece_literal "INVITE" (by decide)
  · exact piece_literal "ACK" (by decide)
  · exact piece_literal "BYE" (by decide)

section Values

variable {host : PlainHost factory.localIp}

theorem localAddress_piece (host : PlainHost factory.localIp) :
    Piece factory.localAddress := by
  obtain ⟨last, ends, stands, -⟩ := host.ends
  exact host.piece.port (piece_stdToString _) ends stands

theorem localAddress_last :
    ∃ last, factory.localAddress.getLast? = some last ∧
      isSpace last = false := by
  obtain ⟨last, ends, solid⟩ := stdToString_last factory.localPort
  exact ⟨last, ends_append ends _, solid⟩

theorem plainValue_via (host : PlainHost factory.localIp) :
    PlainValue factory.makeVia := by
  obtain ⟨last, ends, solid⟩ := @localAddress_last factory
  have protocol : Piece factory.transportProtocol := by
    rcases factory.transportProtocol_known with udp | tcp
    · rw [udp]
      exact piece_literal "UDP" (by decide)
    · rw [tcp]
      exact piece_literal "TCP" (by decide)
  have piece : Piece factory.makeVia :=
    (((piece_literal "SIP/2.0/" (by decide)).append protocol).append
      (piece_literal " " (by decide))).append (localAddress_piece host)
  have starts : "SIP/2.0/".toList.head? = some 'S' := by decide
  exact piece.plainValue
    (starts_append (starts_append (starts_append starts _) _) _)
    (ends_append ends _) (by decide) solid

theorem plainValue_bracketed
    {user host : CppString} (plainUser : Piece user) (plainHost : Piece host) :
    PlainValue (bracketed user host) := by
  have piece : Piece (bracketed user host) :=
    ((((piece_literal "<sip:" (by decide)).append plainUser).append
      (piece_literal "@" (by decide))).append plainHost).append
        (piece_literal ">" (by decide))
  have starts : "<sip:".toList.head? = some '<' := by decide
  have ends : ">".toList.getLast? = some '>' := by decide
  exact piece.plainValue (starts_append (starts_append
      (starts_append (starts_append starts _) _) _) _)
    (ends_append ends _) (by decide) (by decide)

theorem plainValue_callId (host : PlainHost factory.localIp)
    (drawn : UInt64) :
    PlainValue (factory.newCallId drawn) := by
  obtain ⟨first, starts, solidFirst⟩ := stdToString_first drawn.toNat
  obtain ⟨last, ends, -, solidLast⟩ := host.ends
  have piece : Piece (factory.newCallId drawn) :=
    ((piece_stdToString drawn.toNat).append
      (piece_literal "@" (by decide))).append host.piece
  exact piece.plainValue (starts_append (starts_append starts _) _)
    (ends_append ends _) solidFirst solidLast

theorem plainValue_cseq
    {method : CppString} (known : method ∈ callMethods) (number : Int) :
    PlainValue (stdToString number ++ " ".toList ++ method) := by
  obtain ⟨first, starts, solidFirst⟩ := stdToString_first number
  have methods : ∀ method ∈ callMethods, ∃ last,
      method.getLast? = some last ∧ isSpace last = false := by
    simp only [callMethods, List.forall_mem_cons]
    exact ⟨⟨'E', by decide, by decide⟩, ⟨'K', by decide, by decide⟩,
      ⟨'E', by decide, by decide⟩, by simp⟩
  obtain ⟨last, ends, solidLast⟩ := methods method known
  have whole : Piece (stdToString number ++ " ".toList ++ method) :=
    ((piece_stdToString number).append
      (piece_literal " " (by decide))).append (piece_method known)
  exact whole.plainValue (starts_append (starts_append starts _) _)
    (ends_append ends _) solidFirst solidLast

theorem plainValue_proxyVia (transport : TransportType) (port : UInt16) :
    PlainValue (buildProxyVia transport port) := by
  obtain ⟨last, ends, solid⟩ := stdToString_last port.toNat
  have front : ∀ protocol : CppString, Piece protocol →
      Piece ("SIP/2.0/".toList ++ protocol ++ " proxy.local:".toList) :=
    fun protocol piece => ((piece_literal "SIP/2.0/" (by decide)).append
      piece).append (piece_literal " proxy.local:" (by decide))
  have starts : "SIP/2.0/".toList.head? = some 'S' := by decide
  have via : ∀ protocol : CppString, Piece protocol →
      PlainValue ("SIP/2.0/".toList ++ protocol ++ " proxy.local:".toList ++
        stdToString port.toNat) :=
    fun protocol piece =>
      ((front protocol piece).append
        (piece_stdToString port.toNat)).plainValue
        (starts_append (starts_append (starts_append starts _) _) _)
        (ends_append ends _) (by decide) solid
  cases transport with
  | tcp => exact via "TCP".toList (piece_literal "TCP" (by decide))
  | udp => exact via "UDP".toList (piece_literal "UDP" (by decide))

end Values

/-! ## Plain messages -/

theorem method_nonempty :
    ∀ method ∈ callMethods, method ≠ [] := by
  decide

/-- A user that can be called: a plain name in a plain domain. -/
structure Party where
  user : CppString
  domain : CppString
  plainUser : PlainName user
  plainDomain : PlainName domain

namespace Party

def identity (party : Party) : CppString :=
  Client.identity party.user party.domain

/-- The party as it is written in From and To. -/
def address (party : Party) : CppString :=
  bracketed party.user party.domain

end Party

section Requests

variable {sender target : Party} {method : CppString}

theorem requestLine_piece
    (known : method ∈ callMethods) :
    Piece (method ++ " ".toList ++ ("sip:".toList ++ target.user ++
      "@".toList ++ target.domain) ++ " SIP/2.0".toList) := by
  have user := piece_name target.plainUser
  have domain := piece_name target.plainDomain
  exact (((piece_method known).append (piece_literal " " (by decide))).append
    ((((piece_literal "sip:" (by decide)).append user).append
      (piece_literal "@" (by decide))).append domain)).append
        (piece_literal " SIP/2.0" (by decide))

theorem plainValue_address (party : Party) :
    PlainValue party.address :=
  plainValue_bracketed (piece_name party.plainUser)
    (piece_name party.plainDomain)

theorem plain_request
    (known : method ∈ callMethods) (host : PlainHost factory.localIp)
    (callIdPlain : PlainValue callId) :
    (CallMessage.request factory method sender.user sender.domain target.user
      target.domain callId).Plain where
  startLine_nonempty :=
    nonempty_append (nonempty_append
      (nonempty_append (method_nonempty method known) _) _) _
  startLine_oneLine := (requestLine_piece known).oneLine
  startLine_colons := (requestLine_piece known).colons ' '
  vias := by
    intro value member
    rw [List.mem_singleton.mp member]
    exact plainValue_via host
  sender := plainValue_address sender
  target := plainValue_address target
  callId := callIdPlain
  cseq := plainValue_cseq known _
  contacts := by
    intro value member
    simp only [CallMessage.request] at member
    split_ifs at member
    · rw [List.mem_singleton.mp member]
      exact plainValue_bracketed (piece_name sender.plainUser)
        (localAddress_piece host)
    · cases member

theorem plain_errorAck
    (host : PlainHost factory.localIp) (callIdPlain : PlainValue callId)
    (cseqNum : Int) :
    (CallMessage.errorAck factory sender.user sender.domain target.user
      target.domain callId cseqNum).Plain := by
  have known : "ACK".toList ∈ callMethods := by decide
  have line := @requestLine_piece target _ known
  have request := @plain_request _ _ sender target _ known host callIdPlain
  exact
    { request with
      startLine_oneLine := line.oneLine
      startLine_colons := line.colons ' '
      cseq := plainValue_cseq known cseqNum
      contacts := fun value member => nomatch member }

end Requests

theorem plain_answer
    (plain : call.Plain) (some : call.vias ≠ []) (code : Int)
    {reason : CppString} (reasonPiece : Piece reason) :
    (call.answer code reason).Plain := by
  have line : Piece ("SIP/2.0 ".toList ++ stdToString code ++ " ".toList ++
      reason) :=
    (((piece_literal "SIP/2.0 " (by decide)).append
      (piece_stdToString code)).append
        (piece_literal " " (by decide))).append reasonPiece
  have nonempty : (call.answer code reason).startLine ≠ [] :=
    nonempty_append (nonempty_append (nonempty_append (by decide) _) _) _
  obtain ⟨via, rest, split⟩ := List.exists_cons_of_ne_nil some
  exact
    { plain with
      startLine_nonempty := nonempty
      startLine_oneLine := line.oneLine
      startLine_colons := line.colons ' '
      vias := by
        intro value member
        rw [List.mem_singleton.mp member, split]
        exact plain.vias via (by simp [split])
      contacts := fun value member => nomatch member }

theorem plain_forwarded
    (plain : call.Plain) {via : CppString} (viaPlain : PlainValue via) :
    (call.forwarded via).Plain :=
  { plain with
    vias := List.forall_mem_cons.mpr ⟨viaPlain, plain.vias⟩ }

theorem plain_refused
    (plain : call.Plain) (some : call.vias ≠ []) {status : CppString}
    (nonempty : status ≠ []) (piece : Piece status) :
    (call.refused status).Plain := by
  obtain ⟨via, rest, split⟩ := List.exists_cons_of_ne_nil some
  exact
    { plain with
      startLine_nonempty := nonempty
      startLine_oneLine := piece.oneLine
      startLine_colons := piece.colons ' '
      vias := by
        intro value member
        rw [List.mem_singleton.mp member, split]
        exact plain.vias via (by simp [split])
      contacts := fun value member => nomatch member }

end MinimalSip.Calls

import MinimalSip.Common.SipMessage
import MinimalSip.Lib.Regex

/-!
# The client's message factory

The factory writes requests for one local address.  All of them are the same
list of headers with the method filled in; extra header lines, given as text,
overwrite a header of the same name (compared without case) or are appended
before Content-Length.

Responses and the ACK for a failed call answer a received text, from which the
factory takes what it needs with regular expressions.
-/

namespace MinimalSip.Client

open MinimalSip.Lib.Cpp
open MinimalSip.Lib.Search
open MinimalSip.Lib.Regex
open MinimalSip.Common
open MinimalSip.Common.SIPMessage

/--
The factory's fields.  `registerCallId` is drawn once for the local address,
and the transport is one of the two names that the client sets.
-/
structure SIPMessageFactory where
  localIp : CppString
  localPort : Int
  cseq : Int := 1
  registerCallId : CppString
  transportProtocol : CppString := "UDP".toList
  registerCallId_drawn : ∃ drawn : UInt64,
    registerCallId = stdToString drawn.toNat ++ "@".toList ++ localIp
  transportProtocol_known : transportProtocol = "UDP".toList ∨
    transportProtocol = "TCP".toList := by decide

namespace SIPMessageFactory

/-- The constructor, with the random number that it draws. -/
def create (localIp : CppString) (localPort : Int) (drawn : UInt64) :
    SIPMessageFactory where
  localIp := localIp
  localPort := localPort
  registerCallId := stdToString drawn.toNat ++ "@".toList ++ localIp
  registerCallId_drawn := ⟨drawn, rfl⟩

def setLocalPort (factory : SIPMessageFactory) (port : UInt16) :
    SIPMessageFactory :=
  { factory with localPort := port.toNat }

def setTransportProtocol (factory : SIPMessageFactory)
    (protocol : CppString)
    (known : protocol = "UDP".toList ∨ protocol = "TCP".toList) :
    SIPMessageFactory :=
  { factory with
    transportProtocol := protocol, transportProtocol_known := known }

/-- `local_ip_ + ":" + std::to_string(local_port_)` -/
def localAddress (factory : SIPMessageFactory) : CppString :=
  factory.localIp ++ ":".toList ++ stdToString factory.localPort

def makeVia (factory : SIPMessageFactory) : CppString :=
  "SIP/2.0/".toList ++ factory.transportProtocol ++ " ".toList ++
    factory.localAddress

/-- Names of one length that agree under `std::tolower`. -/
def sameName (left right : CppString) : Bool :=
  left.length = right.length && left.map Char.toLower = right.map Char.toLower

/-- Overwrite the first header of that name, else append. -/
def assignMatching (name value : CppString) :
    List SIPHeader → List SIPHeader
  | [] => [⟨name, value⟩]
  | header :: rest =>
      if sameName header.name name then ⟨header.name, value⟩ :: rest
      else header :: assignMatching name value rest

/-- The name and the value on an extra header line, if it has a colon. -/
def extraHeader (rawLine : CppString) : Option SIPHeader :=
  let line := popCarriageReturn rawLine
  match find ":" line with
  | none => none
  | some colon =>
      let value := line.drop (colon + 1)
      let value :=
        match findFirstNotOf " " value with
        | some vstart => value.drop vstart
        | none => value
      some ⟨line.take colon, value⟩

/-- The body of the loop over the lines of `extra_headers`. -/
def addExtraHeader (headers : List SIPHeader) (rawLine : CppString) :
    List SIPHeader :=
  match extraHeader rawLine with
  | none => headers
  | some header => assignMatching header.name header.value headers

def addExtraHeaders (extraHeaders : CppString) (headers : List SIPHeader) :
    List SIPHeader :=
  (getlines extraHeaders).foldl addExtraHeader headers

/-- The headers that every request starts with. -/
def baseHeaders (factory : SIPMessageFactory)
    (method fromUsername fromDomain toUsername toDomain callId :
      CppString) : List SIPHeader :=
  let effectiveCallId :=
    if method = "REGISTER".toList then factory.registerCallId else callId
  [⟨"Via", factory.makeVia⟩,
    ⟨"From", "<sip:".toList ++ fromUsername ++ "@".toList ++ fromDomain ++
      ">".toList⟩,
    ⟨"To", "<sip:".toList ++ toUsername ++ "@".toList ++ toDomain ++
      ">".toList⟩,
    ⟨"Call-ID", effectiveCallId⟩,
    ⟨"CSeq", stdToString factory.cseq ++ " ".toList ++ method⟩] ++
  if method = "REGISTER".toList ∨ method = "INVITE".toList then
    [⟨"Contact", "<sip:".toList ++ fromUsername ++ "@".toList ++
      factory.localAddress ++ ">".toList⟩]
  else []

/-- The factory's own `serialize`, which does not touch Content-Length. -/
def serialize (message : SIPMessage) : CppString :=
  message.startLine ++ "\r\n".toList ++
    message.headers.flatMap
      (fun header => headerLine header ++ "\r\n".toList) ++
    "\r\n".toList ++ message.body

/-- `build`: the text of the request and the factory with the next CSeq. -/
def build (factory : SIPMessageFactory)
    (method fromUsername fromDomain toUsername toDomain callId body
      extraHeaders : CppString) :
    Except StdException (CppString × SIPMessageFactory) :=
  if method = [] then .error .invalidArgument
  else
    let toUri := "sip:".toList ++ toUsername ++ "@".toList ++ toDomain
    let headers := addExtraHeaders extraHeaders
      (factory.baseHeaders method fromUsername fromDomain toUsername toDomain
        callId)
    let message : SIPMessage :=
      { startLine := method ++ " ".toList ++ toUri ++ " SIP/2.0".toList
        headers := headers ++ [⟨"Content-Length", stdToString body.length⟩]
        body := body }
    .ok (serialize message, { factory with cseq := factory.cseq + 1 })

def buildRegister (factory : SIPMessageFactory)
    (username domain extraHeaders : CppString) :
    Except StdException (CppString × SIPMessageFactory) :=
  factory.build "REGISTER" username domain username domain [] [] extraHeaders

def buildInvite (factory : SIPMessageFactory)
    (fromUser fromDomain toUser toDomain callId extraHeaders : CppString) :
    Except StdException (CppString × SIPMessageFactory) :=
  factory.build "INVITE" fromUser fromDomain toUser toDomain callId []
    extraHeaders

/-- `std::to_string(dist(rng_)) + "@" + local_ip_`, with the number drawn. -/
def newCallId (factory : SIPMessageFactory) (drawn : UInt64) : CppString :=
  stdToString drawn.toNat ++ "@".toList ++ factory.localIp

/-! ## Requests as messages -/

/-- The message that `build` writes for a method, without a body. -/
def request (factory : SIPMessageFactory)
    (method fromUsername fromDomain toUsername toDomain callId
      extraHeaders : CppString) : SIPMessage where
  startLine := method ++ " ".toList ++
    ("sip:".toList ++ toUsername ++ "@".toList ++ toDomain) ++
    " SIP/2.0".toList
  headers := addExtraHeaders extraHeaders
      (factory.baseHeaders method fromUsername fromDomain toUsername toDomain
        callId) ++
    [⟨"Content-Length", "0"⟩]

/-- The factory after a request: `cseq_++`. -/
def advance (factory : SIPMessageFactory) : SIPMessageFactory :=
  { factory with cseq := factory.cseq + 1 }

/-- A named method is written as the text of its request. -/
theorem build_eq_request
    (factory : SIPMessageFactory) {method : CppString}
    (named : method ≠ [])
    (fromUsername fromDomain toUsername toDomain callId extraHeaders :
      CppString) :
    factory.build method fromUsername fromDomain toUsername toDomain callId []
        extraHeaders =
      .ok (serialize (factory.request method fromUsername fromDomain
          toUsername toDomain callId extraHeaders), factory.advance) := by
  rw [build, if_neg named]
  rfl

/-! ## Answers to a received text -/

/-- `CSeq\s*:\s*(\d+)\s+\w+` -/
def cseqNumberPattern : Pattern Char :=
  .seq (noCase "CSeq") (.seq blanks (.seq (.one (· = ':')) (.seq blanks
    (.seq (.group (oneOrMore Char.isDigit))
      (.seq (oneOrMore isSpace) (oneOrMore isWord))))))

/-- The CSeq number of a text, zero if there is none. -/
def cseqNumber (raw : CppString) : Except StdException Int :=
  match firstGroup cseqNumberPattern raw with
  | some digits => stoi digits
  | none => .ok 0

/-- The ACK for a failed call, with the number of its INVITE. -/
def errorAck (factory : SIPMessageFactory)
    (fromUser fromDomain toUser toDomain callId : CppString)
    (cseqNum : Int) : SIPMessage :=
  let toUri := "sip:".toList ++ toUser ++ "@".toList ++ toDomain
  { startLine := "ACK ".toList ++ toUri ++ " SIP/2.0".toList
    headers :=
      [⟨"Via", factory.makeVia⟩,
        ⟨"From", "<sip:".toList ++ fromUser ++ "@".toList ++ fromDomain ++
          ">".toList⟩,
        ⟨"To", "<".toList ++ toUri ++ ">".toList⟩,
        ⟨"Call-ID", callId⟩,
        ⟨"CSeq", stdToString cseqNum ++ " ACK".toList⟩,
        ⟨"Content-Length", "0"⟩] }

def buildAckForError (factory : SIPMessageFactory)
    (fromUser fromDomain toUser toDomain callId errorResponseRaw :
      CppString) : Except StdException CppString := do
  let cseqNum ← cseqNumber errorResponseRaw
  pure (serialize (factory.errorAck fromUser fromDomain toUser toDomain callId
    cseqNum))

/-- `name\s*:\s*(.+)` -/
def headerPattern (name : CppString) : Pattern Char :=
  .seq (noCase name) (.seq blanks (.seq (.one (· = ':')) (.seq blanks
    (.group (oneOrMore inLine)))))

/-- `get_header` of `build_response`. -/
def headerOf (requestRaw name : CppString) : CppString :=
  (firstGroup (headerPattern name) requestRaw).getD []

/-- The lines of `extra_headers` that a response carries. -/
def extraLines (extraHeaders : CppString) : List CppString :=
  ((getlines extraHeaders).map popCarriageReturn).filter (· ≠ [])

/-- The headers of its request that a response repeats. -/
def echoedHeaders : List CppString :=
  ["Via".toList, "From".toList, "To".toList, "Call-ID".toList, "CSeq".toList]

def buildResponse (code : Int)
    (reason requestRaw extraHeaders : CppString) : CppString :=
  "SIP/2.0 ".toList ++ stdToString code ++ " ".toList ++ reason ++
    "\r\n".toList ++
    echoedHeaders.flatMap (fun name =>
      headerLine ⟨name, headerOf requestRaw name⟩ ++ "\r\n".toList) ++
    (extraLines extraHeaders).flatMap (fun line => line ++ "\r\n".toList) ++
    "Content-Length: 0\r\n\r\n".toList

end SIPMessageFactory

end MinimalSip.Client

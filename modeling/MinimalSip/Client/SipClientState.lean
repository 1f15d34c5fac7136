import MinimalSip.Client.SipMessageFactory

/-!
# The state of the client

The client keeps its call state in `SIPClientStateManager`, the reply to its
REGISTER in the receive handler, and the text of an INVITE that waits for the
user's answer in the invite handler.  The three are updated by different
handlers, which this module does not yet contain.

The handlers see a received message only through the questions of `Wire`.
`ω` is `CppString` for the program itself, whose questions are regular
expressions and searches on the raw text.
-/

namespace MinimalSip.Client

open MinimalSip.Lib.Cpp
open MinimalSip.Lib.Search
open MinimalSip.Lib.Regex
open MinimalSip.Common

/-! ## Reading and writing messages -/

/-- What the handlers ask of a received message, and how they write one. -/
class Wire (ω : Type) where
  /-- `upper.rfind(word, 0) != npos`, on the text in upper case. -/
  beginsWith : CppString → ω → Bool
  /-- `upper.find(word) != npos`. -/
  mentions : CppString → ω → Bool
  /-- `response.find("SIP/2.0 200 OK") != npos`, case and all. -/
  saysOk : ω → Bool
  extractCallId : ω → CppString
  extractStatusCode : ω → Except StdException Int
  extractCseqMethod : ω → CppString
  /-- The caller named in From, or `unknown`. -/
  callerOf : ω → CppString
  /-- What the error callback is told about a message. -/
  callError : ω → Except StdException (Option (Int × CppString))
  ofRequest : SIPMessage → ω
  buildResponse : Int → CppString → ω → CppString → ω
  buildAckForError : SIPMessageFactory →
    (fromUser fromDomain toUser toDomain callId : CppString) → ω →
      Except StdException ω

/-! ## The state manager -/

inductive State where
  | idle
  | registering
  | registered
  | calling
  | ringing
  | inCall
  | failed
deriving DecidableEq, Repr

structure SIPClientStateManager where
  state : State := .idle
  registeredUser : CppString := []
  activeCallId : CppString := []
  activeRemoteUri : CppString := []
  isIncomingCall : Bool := false
deriving DecidableEq

namespace SIPClientStateManager

def isRegistered (manager : SIPClientStateManager) : Bool :=
  manager.state = .registered

def isInCall (manager : SIPClientStateManager) : Bool :=
  manager.state = .inCall

def isBusy (manager : SIPClientStateManager) : Bool :=
  manager.state = .calling || manager.state = .ringing ||
    manager.state = .inCall

def transitionTo (manager : SIPClientStateManager) (state : State) :
    SIPClientStateManager :=
  { manager with state := state }

def onRegistering (manager : SIPClientStateManager) :
    SIPClientStateManager :=
  manager.transitionTo .registering

def onRegisterSuccess (manager : SIPClientStateManager)
    (username domain : CppString) : SIPClientStateManager :=
  { manager with
    registeredUser := username ++ "@".toList ++ domain
    state := .registered }

def onRegisterFailed (manager : SIPClientStateManager) :
    SIPClientStateManager :=
  manager.transitionTo .failed

def onCalling (manager : SIPClientStateManager)
    (callId remoteUri : CppString) : SIPClientStateManager :=
  { manager with
    activeCallId := callId
    activeRemoteUri := remoteUri
    isIncomingCall := false
    state := .calling }

def onIncomingCall (manager : SIPClientStateManager)
    (callId remoteUri : CppString) : SIPClientStateManager :=
  { manager with
    activeCallId := callId
    activeRemoteUri := remoteUri
    isIncomingCall := true
    state := .ringing }

def onRinging (manager : SIPClientStateManager) : SIPClientStateManager :=
  manager.transitionTo .ringing

def onCallEstablished (manager : SIPClientStateManager) :
    SIPClientStateManager :=
  manager.transitionTo .inCall

def onCallTerminated (manager : SIPClientStateManager) :
    SIPClientStateManager :=
  { manager with
    activeCallId := []
    activeRemoteUri := []
    isIncomingCall := false
    state := .registered }

end SIPClientStateManager

/-! ## The client -/

/-- A call of `handle_register` that has not returned yet. -/
structure Registration (ω : Type) where
  username : CppString
  domain : CppString
  message : ω
  attempts : Nat

/--
The fields of the client and its handlers.  The receive handler's flag and
text are set and cleared together, so one option stands for both, and so does
one for `pending_invite_`, whose text is empty exactly if no INVITE waits.
Whether the UI has installed its error callback does not change later.
-/
structure SIPClient (ω : Type) where
  factory : SIPMessageFactory
  state : SIPClientStateManager := {}
  registerResponse : Option ω := none
  pendingInvite : Option ω := none
  pendingHeaders : CppString → CppString := fun _ => []
  registration : Option (Registration ω) := none
  errorCallback : Bool := false

namespace SIPClient

variable {ω : Type}

def setPendingHeaders (client : SIPClient ω) (method headers : CppString) :
    SIPClient ω :=
  { client with
    pendingHeaders := fun other =>
      if other = method then headers else client.pendingHeaders other }

end SIPClient

/-! ## The raw text -/

/-- `std::transform(…, ::toupper)` -/
def toUpper (text : CppString) : CppString :=
  text.map Char.toUpper

/-- `(?:Call-ID|i)\s*:\s*(\S+)` -/
def callIdPattern : Pattern Char :=
  .seq (.alt (noCase "Call-ID") (noCase "i")) (.seq blanks
    (.seq (.one (· = ':')) (.seq blanks
      (.group (oneOrMore (fun char => !isSpace char))))))

def extractCallId (raw : CppString) : CppString :=
  (firstGroup callIdPattern raw).getD []

/-- `SIP/2\.0\s+(\d{3})`, the only pattern that minds the case. -/
def statusCodePattern : Pattern Char :=
  .seq (literal (fun expected char => expected = char) "SIP/2.0".toList)
    (.seq (oneOrMore isSpace)
      (.group (.seq (.one Char.isDigit)
        (.seq (.one Char.isDigit) (.one Char.isDigit)))))

def extractStatusCode (raw : CppString) : Except StdException Int :=
  match firstGroup statusCodePattern raw with
  | some digits => stoi digits
  | none => .ok 0

/-- `CSeq\s*:\s*\d+\s+(\w+)` -/
def cseqMethodPattern : Pattern Char :=
  .seq (noCase "CSeq") (.seq blanks (.seq (.one (· = ':')) (.seq blanks
    (.seq (oneOrMore Char.isDigit)
      (.seq (oneOrMore isSpace) (.group (oneOrMore isWord)))))))

def extractCseqMethod (raw : CppString) : CppString :=
  ((firstGroup cseqMethodPattern raw).map toUpper).getD []

/-- `From:\s*<sip:([^@]+)@([^>]+)>` -/
def fromPattern : Pattern Char :=
  .seq (noCase "From:") (.seq blanks (.seq (noCase "<sip:")
    (.seq (.group (oneOrMore (noneOf "@")))
      (.seq (.one (· = '@'))
        (.seq (.group (oneOrMore (noneOf ">"))) (.one (· = '>')))))))

def callerOf (raw : CppString) : CppString :=
  match (search fromPattern raw).map Attempt.groups with
  | some [user, domain] => user ++ "@".toList ++ domain
  | _ => "unknown".toList

/-- `sip:([^@>]+)@([^>;>\s]+)` -/
def sipUriPattern : Pattern Char :=
  .seq (noCase "sip:") (.seq (.group (oneOrMore (noneOf "@>")))
    (.seq (.one (· = '@')) (.group (oneOrMore (fun char =>
      noneOf ">;" char && !isSpace char)))))

def splitSipUri (uri : CppString) : CppString × CppString :=
  match (search sipUriPattern uri).map Attempt.groups with
  | some [user, domain] => (user, domain)
  | _ => ([], [])

/-- `data.substr(0, data.find("\r\n"))` -/
def firstLine (data : CppString) : CppString :=
  match find "\r\n" data with
  | some lineEnd => data.take lineEnd
  | none => data

/-- What the client tells its error callback, if it is a failure at all. -/
def callError (data : CppString) :
    Except StdException (Option (Int × CppString)) :=
  if "SIP/2.0 4".toList <+: data then do
    let line := firstLine data
    let code ← stoi (← substr line 8 (some 3))
    let reason ← substr line 12 none
    pure (some (code, reason))
  else pure none

instance : Wire CppString where
  beginsWith word raw := word.isPrefixOf (toUpper raw)
  mentions word raw := contains (toUpper raw) word
  saysOk raw := contains raw "SIP/2.0 200 OK"
  extractCallId := extractCallId
  extractStatusCode := extractStatusCode
  extractCseqMethod := extractCseqMethod
  callerOf := callerOf
  callError := callError
  ofRequest := SIPMessageFactory.serialize
  buildResponse code reason raw extraHeaders :=
    SIPMessageFactory.buildResponse code reason raw extraHeaders
  buildAckForError factory := factory.buildAckForError

end MinimalSip.Client

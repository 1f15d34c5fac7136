import MinimalSip.Proxy.CallSession

/-!
# Registration and metrics

The registration table maps an identity to the contact and the transport of
its last accepted REGISTER.  The register handler checks the values that the
router has found present, writes the table and steps the gauge.

`std::atomic<int64_t>` counters are integers here: no run is long enough to
wrap them.
-/

namespace MinimalSip.Proxy

open MinimalSip.Lib.Cpp
open MinimalSip.Lib.Search
open MinimalSip.Common
open MinimalSip.Common.SIPMessage

structure ContactEntry where
  contact : CppString
  transport : TransportType := .udp
deriving DecidableEq

/-- `registrations_`. -/
abbrev RegistrationTable := TextMap ContactEntry

namespace RegistrationTable

def registerUser
    (table : RegistrationTable) (user contact : CppString)
    (transport : TransportType) : RegistrationTable :=
  table.insert user ⟨contact, transport⟩

def getContactEntry (table : RegistrationTable) (user : CppString) :
    Option ContactEntry :=
  table.lookup user

def getContact (table : RegistrationTable) (user : CppString) :
    Option CppString :=
  (table.getContactEntry user).map ContactEntry.contact

end RegistrationTable

structure MetricsCollector where
  messagesReceived : Int := 0
  messagesSent : Int := 0
  activeCalls : Int := 0
  registeredUsers : Int := 0
deriving DecidableEq

namespace MetricsCollector

def incMessagesReceived (metrics : MetricsCollector) : MetricsCollector :=
  { metrics with messagesReceived := metrics.messagesReceived + 1 }

def incMessagesSent (metrics : MetricsCollector) : MetricsCollector :=
  { metrics with messagesSent := metrics.messagesSent + 1 }

def incActiveCalls (metrics : MetricsCollector) : MetricsCollector :=
  { metrics with activeCalls := metrics.activeCalls + 1 }

/-- The gauge is clamped at zero. -/
def decActiveCalls (metrics : MetricsCollector) : MetricsCollector :=
  if metrics.activeCalls > 0 then
    { metrics with activeCalls := metrics.activeCalls - 1 }
  else metrics

def incRegisteredUsers (metrics : MetricsCollector) : MetricsCollector :=
  { metrics with registeredUsers := metrics.registeredUsers + 1 }

end MetricsCollector

/-! ## Identities -/

/--
The identity in a From or To value: the text between the first `sip:` and the
next `>`, or the end of the value.  Router and register handler each have a
copy of this function.
-/
def identityAfterSip (header : CppString) :
    Except StdException CppString :=
  match find "sip:" header with
  | none => .ok []
  | some sipPos =>
      let start := sipPos + 4
      let stop :=
        match findFrom ">" header start with
        | none => header.length
        | some stop => stop
      substr header start (some (stop - start))

/-- The identity that `identityAfterSip` computes. -/
def sipIdentity (header : CppString) : CppString :=
  match find "sip:" header with
  | none => []
  | some sipPos => (header.drop (sipPos + 4)).takeWhile (fun char => char ≠ '>')

theorem take_find_singleton
    (char : Char) (text : CppString) :
    text.take ((find [char] text).getD text.length) =
      text.takeWhile (fun other => other ≠ char) := by
  by_cases present : char ∈ text
  · obtain ⟨before, after, rfl, absent⟩ :=
      List.eq_append_cons_of_mem present
    rw [find_singleton_append absent, Option.getD_some, List.take_left,
      takeWhile_ne_append_cons absent]
  · have whole := takeWhile_ne_append present []
    rw [List.append_nil, List.takeWhile_nil, List.append_nil] at whole
    rw [find_singleton_eq_none_iff.mpr present, Option.getD_none,
      List.take_length, whole]

theorem find_sip_bracket (after : CppString) :
    find "sip:" ('<' :: ("sip:".toList ++ after)) = some 1 := by
  have notHere : ¬ "sip:".toList <+: '<' :: ("sip:".toList ++ after) := by
    intro starts
    exact absurd (List.cons_prefix_cons.mp starts).1 (by decide)
  rw [find_cons_of_not_starts notHere,
    find_of_starts (List.prefix_append _ _)]
  rfl

/-- Up to the closing bracket stands the identity. -/
theorem sipIdentity_bracket
    {identity : CppString} (noClose : '>' ∉ identity) (after : CppString) :
    sipIdentity ('<' :: ("sip:".toList ++ (identity ++ '>' :: after))) =
      identity := by
  rw [sipIdentity, find_sip_bracket]
  exact takeWhile_ne_append_cons noClose after

/-- Extracting an identity never throws. -/
theorem identityAfterSip_eq (header : CppString) :
    identityAfterSip header = .ok (sipIdentity header) := by
  unfold identityAfterSip sipIdentity
  cases found : find "sip:" header with
  | none => rfl
  | some sipPos =>
      have inside : sipPos + 4 ≤ header.length := find_add_length_le found
      have stop : (match findFrom ">" header (sipPos + 4) with
          | none => header.length
          | some stop => stop) - (sipPos + 4) =
            (find ['>'] (header.drop (sipPos + 4))).getD
              (header.drop (sipPos + 4)).length := by
        rw [findFrom, if_pos inside, show ">".toList = ['>'] from rfl]
        cases find ['>'] (header.drop (sipPos + 4)) with
        | none => simp
        | some inner => simp
      dsimp only
      rw [substr_some inside, stop, take_find_singleton]

/-! ## The register handler -/

/-- `if (!value.empty()) response.add_header(name, value);` -/
def addNonempty (message : SIPMessage) (name value : CppString) :
    SIPMessage :=
  if value = [] then message else message.addHeader name value

/--
The local answer to a request: the first non-empty value of each echoed
header, and no body.  Router and register handler each have a copy.
-/
def localResponse (status : CppString) (request : SIPMessage) : SIPMessage :=
  let response : SIPMessage := { startLine := status }
  let response := addNonempty response "Via" (request.getHeader "Via")
  let response := addNonempty response "From" (request.getHeader "From")
  let response := addNonempty response "To" (request.getHeader "To")
  let response := addNonempty response "Call-ID" (request.getHeader "Call-ID")
  let response := addNonempty response "CSeq" (request.getHeader "CSeq")
  response.addHeader "Content-Length" "0"

@[simp]
theorem addNonempty_startLine
    (message : SIPMessage) (name value : CppString) :
    (addNonempty message name value).startLine = message.startLine := by
  unfold addNonempty
  split_ifs <;> rfl

/-- A local answer has the start line that it is built with. -/
@[simp]
theorem localResponse_startLine (status : CppString) (request : SIPMessage) :
    (localResponse status request).startLine = status := by
  simp only [localResponse, addHeader, addNonempty_startLine]

theorem localResponse_getStatusCode
    (status : CppString) (request : SIPMessage) :
    (localResponse status request).getStatusCode =
      getStatusCode { startLine := status } :=
  getStatusCode_eq_of_startLine (localResponse_startLine status request)

namespace RegisterHandler

def extractSipIdentity (headerValue : CppString) :
    Except StdException CppString :=
  identityAfterSip headerValue

@[simp]
theorem extractSipIdentity_eq (headerValue : CppString) :
    extractSipIdentity headerValue = .ok (sipIdentity headerValue) :=
  identityAfterSip_eq headerValue

def makeResponse (status : CppString) (request : SIPMessage) : SIPMessage :=
  localResponse status request

/-- `RegisterHandler::handle` on the table and the gauges. -/
def handle
    (table : RegistrationTable) (metrics : MetricsCollector)
    (message : SIPMessage) (transport : TransportType) :
    Except StdException
      (SIPMessage × RegistrationTable × MetricsCollector) :=
  if ¬ ("REGISTER".toList <+: message.startLine) then
    .ok (makeResponse "SIP/2.0 400 Bad Request" message, table, metrics)
  else
    let from' := message.getHeader "From"
    let contact := message.getHeader "Contact"
    if from' = [] ∨ contact = [] then
      .ok (makeResponse "SIP/2.0 400 Bad Request" message, table, metrics)
    else do
      let userIdentity ← extractSipIdentity from'
      if userIdentity = [] then
        pure (makeResponse "SIP/2.0 400 Bad Request" message, table, metrics)
      else
        pure (makeResponse "SIP/2.0 200 OK" message,
          table.registerUser userIdentity contact transport,
          metrics.incRegisteredUsers)

end RegisterHandler

end MinimalSip.Proxy

import MinimalSip.Proxy.Registration

/-!
# The router

`route` classifies a message and hands it to one of five handlers.  The state
is explicit: the registration table, the call registry, the stored call
contexts and the metrics.  Handlers return in `Except`: an exception that
escapes one ends the proxy, so no state follows it.

Logging and locking are left out; every handler runs to completion here.
-/

namespace MinimalSip.Proxy

open MinimalSip.Lib.Cpp
open MinimalSip.Lib.Search
open MinimalSip.Common
open MinimalSip.Common.SIPMessage

/-! ## Data -/

/--
The stored headers of one party, an `std::unordered_map`: one entry for each
name, in the order in which the names were first inserted.
-/
structure HeaderMap where
  entries : List SIPHeader
  distinct : (entries.map SIPHeader.name).Nodup
deriving DecidableEq

instance : EmptyCollection HeaderMap :=
  ⟨⟨[], List.nodup_nil⟩⟩

theorem names_assignFirst
    (name value : CppString) (headers : List SIPHeader) :
    (assignFirst name value headers).map SIPHeader.name =
      if name ∈ headers.map SIPHeader.name
      then headers.map SIPHeader.name
      else headers.map SIPHeader.name ++ [name] := by
  induction headers with
  | nil => simp [assignFirst]
  | cons header rest ih =>
      by_cases same : header.name = name
      · simp [assignFirst, same]
      · simp only [assignFirst, if_neg same, List.map_cons, ih,
          List.mem_cons, Ne.symm same, false_or]
        split_ifs <;> rfl

/-- `stored[name] = value`. -/
def HeaderMap.assign (stored : HeaderMap) (name value : CppString) :
    HeaderMap where
  entries := assignFirst name value stored.entries
  distinct := by
    rw [names_assignFirst]
    split_ifs with known
    · exact stored.distinct
    · simpa using stored.distinct.concat known

/-- Assign every header of a list, the last one of a name winning. -/
def HeaderMap.assignAll (stored : HeaderMap) (headers : List SIPHeader) :
    HeaderMap :=
  headers.foldl (fun stored header => stored.assign header.name header.value)
    stored

/-- What is stored after assigning a list was stored or is in the list. -/
theorem HeaderMap.mem_assignAll
    {stored : HeaderMap} {headers : List SIPHeader} {header : SIPHeader}
    (member : header ∈ (stored.assignAll headers).entries) :
    header ∈ stored.entries ∨ header ∈ headers := by
  induction headers generalizing stored with
  | nil => exact Or.inl member
  | cons first rest ih =>
      rcases ih member with assigned | inRest
      · rcases mem_assignFirst assigned with kept | rfl
        · exact Or.inl kept
        · exact Or.inr List.mem_cons_self
      · exact Or.inr (List.mem_cons_of_mem _ inRest)

/--
What is fixed before the first message: the ports that the proxy writes into
its Via, and the order in which a stored header map is iterated, about which
the standard only says that every entry comes up once.
-/
structure RouterConfig where
  proxyUdpPort : UInt16
  proxyTcpPort : UInt16
  iterate : HeaderMap → List SIPHeader
  iterate_perm : ∀ stored, (iterate stored).Perm stored.entries

inductive RoutingAction where
  | respondLocally
  | forwardRequest
  | forwardResponse
  | ignore
deriving DecidableEq, Repr

structure RoutingResult where
  action : RoutingAction := .ignore
  response : SIPMessage := {}
  message : SIPMessage := {}
  contact : Option CppString := none
  ip : CppString := []
  port : UInt16 := 0
  user : CppString := []
  calleeTransport : TransportType := .udp
deriving DecidableEq

structure CallContext where
  caller : CppString
  callee : CppString
  callerIp : CppString
  callerPort : UInt16
  calleeContact : CppString
  calleeIp : CppString
  calleePort : UInt16
  callerStoredHeaders : HeaderMap
  calleeStoredHeaders : HeaderMap
  callerTransport : TransportType
  calleeTransport : TransportType
deriving DecidableEq

structure SIPRouter where
  table : RegistrationTable := ∅
  registry : CallRegistry := ∅
  callContexts : TextMap CallContext := ∅
  metrics : MetricsCollector := {}

/-- One call of `route`. -/
structure Received where
  message : SIPMessage
  senderIp : CppString
  senderPort : UInt16
  transport : TransportType
deriving DecidableEq

namespace Received

def method (received : Received) : CppString :=
  received.message.getMethod

def callId (received : Received) : CppString :=
  received.message.getHeader "Call-ID"

/-- The identity in the From header. -/
def sender (received : Received) : CppString :=
  sipIdentity (received.message.getHeader "From")

/-- The identity in the To header. -/
def target (received : Received) : CppString :=
  sipIdentity (received.message.getHeader "To")

theorem getMethod_eq (received : Received) :
    received.message.getMethod = received.method :=
  rfl

theorem getHeader_callId (received : Received) :
    received.message.getHeader "Call-ID" = received.callId :=
  rfl

theorem sipIdentity_from (received : Received) :
    sipIdentity (received.message.getHeader "From") = received.sender :=
  rfl

theorem sipIdentity_to (received : Received) :
    sipIdentity (received.message.getHeader "To") = received.target :=
  rfl

end Received

namespace SIPRouter

/-! ## Pieces of the handlers -/

def extractSipIdentity (header : CppString) :
    Except StdException CppString :=
  identityAfterSip header

@[simp]
theorem extractSipIdentity_eq (header : CppString) :
    extractSipIdentity header = .ok (sipIdentity header) :=
  identityAfterSip_eq header

def makeErrorResponse (status : CppString) (request : SIPMessage) :
    SIPMessage :=
  localResponse status request

/-- A local answer together with the user that it concerns. -/
def respondLocally (status : CppString) (request : SIPMessage)
    (user : CppString) : RoutingResult :=
  { action := .respondLocally
    response := makeErrorResponse status request
    user := user }

def hasRequiredRegisterHeaders (message : SIPMessage) : Bool :=
  message.hasHeader "Via" && message.hasHeader "From" &&
    message.hasHeader "To" && message.hasHeader "Call-ID" &&
    message.hasHeader "CSeq" && message.hasHeader "Contact" &&
    message.hasHeader "Content-Length"

def hasRequiredInviteHeaders (message : SIPMessage) : Bool :=
  message.hasHeader "Via" && message.hasHeader "From" &&
    message.hasHeader "To" && message.hasHeader "Call-ID" &&
    message.hasHeader "CSeq" && message.hasHeader "Content-Length"

def buildProxyVia (transport : TransportType) (port : UInt16) : CppString :=
  let protocol : CppString :=
    match transport with
    | .tcp => "TCP".toList
    | .udp => "UDP".toList
  "SIP/2.0/".toList ++ protocol ++ " proxy.local:".toList ++
    stdToString port.toNat

/-- The proxy port that belongs to a transport. -/
def proxyPort (config : RouterConfig) (transport : TransportType) : UInt16 :=
  if transport = .tcp then config.proxyTcpPort else config.proxyUdpPort

/-- The request with the proxy's own Via for the next hop in front. -/
def withProxyVia (config : RouterConfig) (transport : TransportType)
    (message : SIPMessage) : SIPMessage :=
  message.prependHeader "Via"
    (buildProxyVia transport (proxyPort config transport))

def getCallContext (router : SIPRouter) (callId : CppString) :
    Option CallContext :=
  router.callContexts.lookup callId

/-- The conversion of an `int` to `uint16_t`. -/
def toUInt16 (value : Int) : UInt16 :=
  UInt16.ofNat (value % 65536).toNat

/--
The callee address that `store_call_context` reads off the contact.  A contact
without `@` or without a later colon gives no address; a port that `stoi`
rejects throws.
-/
def calleeAddress (calleeContact : CppString) :
    Except StdException (CppString × UInt16) :=
  let posAt := find "@" calleeContact
  let posColon := findAfter ":" calleeContact posAt
  match posAt, posColon with
  | some posAt, some posColon => do
      let calleeIp ← substr calleeContact (posAt + 1)
        (some (posColon - posAt - 1))
      let calleePort ← stoi (← substr calleeContact (posColon + 1) none)
      pure (calleeIp, toUInt16 calleePort)
  | _, _ => pure ([], 0)

/-- `store_call_context`; the stored map is keyed by the Call-ID. -/
def storeCallContext (router : SIPRouter) (message : SIPMessage)
    (caller callee calleeContact callerIp : CppString)
    (callerPort : UInt16)
    (callerTransport calleeTransport : TransportType) :
    Except StdException SIPRouter := do
  let callId := message.getHeader "Call-ID"
  let (calleeIp, calleePort) ← calleeAddress calleeContact
  let calleeStoredHeaders : HeaderMap :=
    match router.table.getContact callee with
    | some registered => (∅ : HeaderMap).assign "Contact" registered
    | none => {}
  pure { router with
    callContexts := router.callContexts.insert callId
      { caller := caller
        callee := callee
        callerIp := callerIp
        callerPort := callerPort
        calleeContact := calleeContact
        calleeIp := calleeIp
        calleePort := calleePort
        callerStoredHeaders := (∅ : HeaderMap).assignAll message.headers
        calleeStoredHeaders := calleeStoredHeaders
        callerTransport := callerTransport
        calleeTransport := calleeTransport } }

/-- `value.find(proxy_host) != npos` -/
def namesProxy (value : CppString) : Bool :=
  contains value "proxy.local"

/-- A Via that mentions the proxy host. -/
def isProxyVia (header : SIPHeader) : Bool :=
  header.name = "Via".toList && namesProxy header.value

/-- Remove the first Via that mentions the proxy host. -/
def stripProxyVia (message : SIPMessage) : SIPMessage :=
  { message with headers := message.headers.eraseP isProxyVia }

def standardHeaders : List CppString :=
  ["Via".toList, "From".toList, "To".toList, "Call-ID".toList,
    "CSeq".toList, "Contact".toList, "Content-Length".toList,
    "Content-Type".toList]

/-- The loop that adds stored non-standard headers a response lacks. -/
def addStoredHeaders (stored : List SIPHeader) (message : SIPMessage) :
    SIPMessage :=
  stored.foldl (fun forwarded header =>
    if header.name ∉ standardHeaders ∧ ¬ forwarded.hasHeader header.name then
      forwarded.addHeader header.name header.value
    else forwarded) message

/-! ## The handlers -/

def handleRegister (router : SIPRouter) (message : SIPMessage)
    (transport : TransportType) :
    Except StdException (RoutingResult × SIPRouter) :=
  if ¬ hasRequiredRegisterHeaders message then
    .ok (respondLocally "SIP/2.0 400 Bad Request" message [], router)
  else do
    let (response, table, metrics) ←
      RegisterHandler.handle router.table router.metrics message transport
    pure ({ action := .respondLocally, response := response },
      { router with table := table, metrics := metrics })

def handleInvite (config : RouterConfig) (router : SIPRouter)
    (message : SIPMessage) (senderIp : CppString) (senderPort : UInt16)
    (transport : TransportType) :
    Except StdException (RoutingResult × SIPRouter) :=
  let callId := message.getHeader "Call-ID"
  if ¬ hasRequiredInviteHeaders message then
    .ok (respondLocally "SIP/2.0 400 Bad Request" message [], router)
  else do
    let caller ← extractSipIdentity (message.getHeader "From")
    let callee ← extractSipIdentity (message.getHeader "To")
    if caller = [] ∨ callee = [] then
      pure (respondLocally "SIP/2.0 400 Bad Request" message [], router)
    else if caller = callee then
      pure (respondLocally "SIP/2.0 400 Bad Request" message caller, router)
    else
      match router.table.getContactEntry callee with
      | none =>
          pure (respondLocally "SIP/2.0 404 Not Found" message callee, router)
      | some calleeEntry =>
          if calleeEntry.transport ≠ transport then
            pure (respondLocally "SIP/2.0 404 Different protocol" message
              callee, router)
          else
            match router.registry.createCall callId caller callee with
            | none =>
                pure (respondLocally "SIP/2.0 400 Bad Request" message callee,
                  router)
            | some registry => do
                let router ← storeCallContext
                  { router with registry := registry } message caller callee
                  calleeEntry.contact senderIp senderPort transport
                  calleeEntry.transport
                pure
                  ({ action := .forwardRequest
                     message := withProxyVia config calleeEntry.transport
                       message
                     contact := some calleeEntry.contact
                     user := callee
                     calleeTransport := calleeEntry.transport },
                    { router with
                      registry := router.registry.modify callId
                        (fun session => session.onRequest message)
                      metrics := router.metrics.incActiveCalls })

/-- Where an in-call request goes: callee contact or caller address. -/
def inCallResult (config : RouterConfig) (context : CallContext)
    (sender : CppString) (message : SIPMessage) : RoutingResult :=
  if sender = context.caller then
    { action := .forwardRequest
      message := withProxyVia config context.calleeTransport message
      contact := some context.calleeContact
      user := context.callee
      calleeTransport := context.calleeTransport }
  else
    { action := .forwardRequest
      message := withProxyVia config context.callerTransport message
      ip := context.callerIp
      port := context.callerPort
      user := context.caller
      calleeTransport := context.callerTransport }

/-- The removal after an ACK that finds its session terminated. -/
def removeTerminated (router : SIPRouter) (callId : CppString) : SIPRouter :=
  match router.registry.findCall callId with
  | some session =>
      if session.isTerminated then
        { router with
          registry := router.registry.removeCall callId
          callContexts := router.callContexts.erase callId }
      else router
  | none => router

def handleAck (config : RouterConfig) (router : SIPRouter)
    (message : SIPMessage) :
    Except StdException (RoutingResult × SIPRouter) :=
  let callId := message.getHeader "Call-ID"
  match router.getCallContext callId with
  | none => .ok (respondLocally "SIP/2.0 400 Bad Request" message [], router)
  | some context => do
      let sender ← extractSipIdentity (message.getHeader "From")
      let registry := router.registry.modify callId
        (fun session => session.onRequest message)
      pure (inCallResult config context sender message,
        removeTerminated { router with registry := registry } callId)

def handleBye (config : RouterConfig) (router : SIPRouter)
    (message : SIPMessage) :
    Except StdException (RoutingResult × SIPRouter) :=
  let callId := message.getHeader "Call-ID"
  match router.getCallContext callId with
  | none => .ok (respondLocally "SIP/2.0 400 Bad Request" message [], router)
  | some context => do
      let sender ← extractSipIdentity (message.getHeader "From")
      let registry := router.registry.modify callId
        (fun session => session.onRequest message)
      pure (inCallResult config context sender message,
        { router with registry := registry })

/-- Keep the callee's headers after a 200 to the INVITE. -/
def storeCalleeHeaders (router : SIPRouter) (callId : CppString)
    (forwarded : SIPMessage) : SIPRouter :=
  { router with
    callContexts := router.callContexts.modify callId (fun context =>
      { context with
        calleeStoredHeaders :=
          context.calleeStoredHeaders.assignAll forwarded.headers }) }

/-- Drop session and context and step the gauge down. -/
def releaseCall (router : SIPRouter) (callId : CppString) : SIPRouter :=
  { router with
    registry := router.registry.removeCall callId
    callContexts := router.callContexts.erase callId
    metrics := router.metrics.decActiveCalls }

/-- The state changes of `handle_response`, in the order of its branches. -/
def applyResponse (router : SIPRouter) (callId : CppString)
    (forwarded : SIPMessage) : SIPRouter :=
  let statusCode := forwarded.getStatusCode
  let cseq := forwarded.getHeader "CSeq"
  let router := { router with
    registry := router.registry.modify callId
      (fun session => session.onResponse forwarded) }
  let router :=
    if statusCode = 200 ∧ contains cseq "INVITE" then
      storeCalleeHeaders router callId forwarded
    else router
  let router :=
    if statusCode = 603 ∧ contains cseq "INVITE" then
      { router with metrics := router.metrics.decActiveCalls }
    else router
  let router :=
    if statusCode = 200 ∧ contains cseq "BYE" then releaseCall router callId
    else router
  if statusCode = 486 ∧ contains cseq "INVITE" then releaseCall router callId
  else router

/-- The text by which a Via is recognised as the caller's. -/
def callerViaToken (context : CallContext) : CppString :=
  context.callerIp ++ ":".toList ++ stdToString context.callerPort.toNat

/-- `response_from_caller`, decided by the Via left after stripping. -/
def responseFromCaller (context : CallContext) (topVia : CppString) : Bool :=
  context.callerIp ≠ [] && contains topVia (callerViaToken context)

/-- Where a response goes, and with which stored headers added. -/
def responseResult (config : RouterConfig) (context : CallContext)
    (forwarded : SIPMessage) : RoutingResult :=
  let fromCaller := responseFromCaller context (forwarded.getHeader "Via")
  let stored :=
    if fromCaller then context.calleeStoredHeaders
    else context.callerStoredHeaders
  let message := addStoredHeaders (config.iterate stored) forwarded
  if fromCaller ∧ context.calleeIp ≠ [] then
    { action := .forwardResponse
      message := message
      ip := context.calleeIp
      port := context.calleePort
      user := context.callee }
  else
    { action := .forwardResponse
      message := message
      ip := context.callerIp
      port := context.callerPort
      user := context.caller }

def handleResponse (config : RouterConfig) (router : SIPRouter)
    (message : SIPMessage) : RoutingResult × SIPRouter :=
  let callId := message.getHeader "Call-ID"
  match router.getCallContext callId with
  | none => ({}, router)
  | some context =>
      let forwarded := stripProxyVia message
      (responseResult config context forwarded,
        applyResponse router callId forwarded)

def route (config : RouterConfig) (router : SIPRouter)
    (message : SIPMessage) (senderIp : CppString) (senderPort : UInt16)
    (transport : TransportType) :
    Except StdException (RoutingResult × SIPRouter) :=
  if message.isResponse then .ok (handleResponse config router message)
  else if ¬ message.isRequest then .ok ({}, router)
  else
    let method := message.getMethod
    if method = "REGISTER".toList then handleRegister router message transport
    else if method = "INVITE".toList then
      handleInvite config router message senderIp senderPort transport
    else if method = "ACK".toList then handleAck config router message
    else if method = "BYE".toList then handleBye config router message
    else
      .ok (respondLocally "SIP/2.0 501 Not Implemented" message [], router)

/-- `route` as a step on received messages. -/
def step (config : RouterConfig) (router : SIPRouter)
    (received : Received) :
    Except StdException (RoutingResult × SIPRouter) :=
  route config router received.message received.senderIp
    received.senderPort received.transport

/-- The router before the first message. -/
def initial : SIPRouter := {}

end SIPRouter

end MinimalSip.Proxy

import MinimalSip.Proxy.SipRouter

/-!
# What one routed message can do

`route` has many branches but few effects: reply to the message or ignore it
without touching the state, register a user, open a call, forward an ACK, a
BYE or a response of a held call.  `Outcome` lists them and `step_cases` shows
that every step is one of them, or an INVITE whose callee contact has a port
that cannot be read.  Later modules argue about `Outcome` and do not unfold
the handlers again.
-/

namespace MinimalSip.Proxy

open MinimalSip.Lib.Cpp
open MinimalSip.Lib.Search
open MinimalSip.Common
open MinimalSip.Common.SIPMessage

namespace SIPRouter

/-! ## The effects -/

/-- A REGISTER that is answered with 200. -/
structure Registers (received : Received) : Prop where
  method : received.method = "REGISTER".toList
  headers : hasRequiredRegisterHeaders received.message = true
  fromHeader : received.message.getHeader "From" ≠ []
  contact : received.message.getHeader "Contact" ≠ []
  user : received.sender ≠ []

/-- An INVITE that is in order, for a callee registered as `entry`. -/
structure ValidInvite
    (router : SIPRouter) (received : Received) (entry : ContactEntry) :
    Prop where
  method : received.method = "INVITE".toList
  headers : hasRequiredInviteHeaders received.message = true
  caller : received.sender ≠ []
  callee : received.target ≠ []
  distinct : received.sender ≠ received.target
  registered : router.table.lookup received.target = some entry
  sameTransport : entry.transport = received.transport

/-- A valid INVITE whose Call-ID is not in use. -/
structure Admissible
    (router : SIPRouter) (received : Received) (entry : ContactEntry) :
    Prop extends ValidInvite router received entry where
  fresh : received.callId ∉ router.registry

/-- The router after an accepted REGISTER. -/
def register (router : SIPRouter) (received : Received) : SIPRouter :=
  { router with
    table := router.table.registerUser received.sender
      (received.message.getHeader "Contact") received.transport
    metrics := router.metrics.incRegisteredUsers }

/-- The context that a forwarded INVITE leaves behind. -/
def openedContext
    (received : Received) (entry : ContactEntry)
    (address : CppString × UInt16) : CallContext where
  caller := received.sender
  callee := received.target
  callerIp := received.senderIp
  callerPort := received.senderPort
  calleeContact := entry.contact
  calleeIp := address.1
  calleePort := address.2
  callerStoredHeaders := (∅ : HeaderMap).assignAll received.message.headers
  calleeStoredHeaders := (∅ : HeaderMap).assign "Contact" entry.contact
  callerTransport := received.transport
  calleeTransport := entry.transport

/-- The session that a forwarded INVITE leaves behind. -/
def openedSession (received : Received) : CallSession where
  callId := received.callId
  caller := received.sender
  callee := received.target
  state := .trying

/-- The router after a forwarded INVITE. -/
def openCall
    (router : SIPRouter) (received : Received) (entry : ContactEntry)
    (address : CppString × UInt16) : SIPRouter :=
  { router with
    registry := router.registry.insert received.callId
      (openedSession received)
    callContexts := router.callContexts.insert received.callId
      (openedContext received entry address)
    metrics := router.metrics.incActiveCalls }

/-- What `route` returns for an admissible INVITE. -/
def inviteResult
    (config : RouterConfig) (received : Received) (entry : ContactEntry) :
    RoutingResult :=
  { action := .forwardRequest
    message := withProxyVia config entry.transport received.message
    contact := some entry.contact
    user := received.target
    calleeTransport := entry.transport }

/-- The router once its session has seen an in-call request. -/
def noteRequest (router : SIPRouter) (received : Received) : SIPRouter :=
  { router with
    registry := router.registry.modify received.callId
      (fun session => session.onRequest received.message) }

/--
Two routers agree on a call if they have the same registrations and hold the
same session and context for it.
-/
structure Agree (callId : CppString) (first second : SIPRouter) : Prop where
  table : first.table = second.table
  session : first.registry.lookup callId = second.registry.lookup callId
  context :
    first.callContexts.lookup callId = second.callContexts.lookup callId

namespace Agree

theorem refl (callId : CppString) (router : SIPRouter) :
    Agree callId router router :=
  ⟨rfl, rfl, rfl⟩

theorem mem_registry_iff
    {callId : CppString} {first second : SIPRouter}
    (agree : Agree callId first second) :
    callId ∈ first.registry ↔ callId ∈ second.registry := by
  rw [← Finmap.lookup_isSome, ← Finmap.lookup_isSome, agree.session]

end Agree

/--
The effects of one routed message, each with its conditions.  A reply is the
same in every router that agrees on the call of the message.
-/
inductive Outcome
    (config : RouterConfig) (router : SIPRouter) (received : Received) :
    RoutingResult → SIPRouter → Prop where
  | replied (result : RoutingResult)
      (here : result.action = .ignore ∨ result.action = .respondLocally)
      (stable : ∀ other, Agree received.callId router other →
        step config other received = .ok (result, other)) :
      Outcome config router received result router
  | registered (accepted : Registers received) :
      Outcome config router received
        { action := .respondLocally
          response := RegisterHandler.makeResponse "SIP/2.0 200 OK"
            received.message }
        (router.register received)
  | invited (entry : ContactEntry) (address : CppString × UInt16)
      (accepted : Admissible router received entry)
      (parsed : calleeAddress entry.contact = .ok address) :
      Outcome config router received
        (inviteResult config received entry)
        (router.openCall received entry address)
  | acked (context : CallContext)
      (method : received.method = "ACK".toList)
      (held : router.callContexts.lookup received.callId = some context) :
      Outcome config router received
        (inCallResult config context received.sender received.message)
        (removeTerminated (router.noteRequest received) received.callId)
  | byed (context : CallContext)
      (method : received.method = "BYE".toList)
      (held : router.callContexts.lookup received.callId = some context) :
      Outcome config router received
        (inCallResult config context received.sender received.message)
        (router.noteRequest received)
  | responded (context : CallContext)
      (response : received.message.isResponse = true)
      (held : router.callContexts.lookup received.callId = some context) :
      Outcome config router received
        (responseResult config context (stripProxyVia received.message))
        (applyResponse router received.callId
          (stripProxyVia received.message))

/-! ## The handlers compute these effects -/

section Handlers

variable {config : RouterConfig} {router : SIPRouter} {received : Received}

/-- A request is routed by its method. -/
theorem step_request
    (request : received.message.isRequest = true) :
    step config router received =
      (if received.method = "REGISTER".toList then
        handleRegister router received.message received.transport
      else if received.method = "INVITE".toList then
        handleInvite config router received.message received.senderIp
          received.senderPort received.transport
      else if received.method = "ACK".toList then
        handleAck config router received.message
      else if received.method = "BYE".toList then
        handleBye config router received.message
      else
        .ok (respondLocally "SIP/2.0 501 Not Implemented" received.message [],
          router)) := by
  simp only [step, route, request, isResponse_of_isRequest request]
  rfl

theorem isRequest_of_method
    {method : CppString}
    (named : received.method = method) (nonempty : method ≠ []) :
    received.message.isRequest = true :=
  isRequest_of_getMethod (by rwa [received.getMethod_eq, named])

theorem step_response_held
    {context : CallContext}
    (response : received.message.isResponse = true)
    (held : router.callContexts.lookup received.callId = some context) :
    step config router received =
      .ok (responseResult config context (stripProxyVia received.message),
        applyResponse router received.callId
          (stripProxyVia received.message)) := by
  simp only [step, route, response, if_true, handleResponse,
    getCallContext, received.getHeader_callId, held]

theorem step_ack_held
    {context : CallContext}
    (method : received.method = "ACK".toList)
    (held : router.callContexts.lookup received.callId = some context) :
    step config router received =
      .ok (inCallResult config context received.sender received.message,
        removeTerminated (router.noteRequest received) received.callId) := by
  rw [step_request (isRequest_of_method method (by decide)), method]
  simp only [handleAck, getCallContext, received.getHeader_callId, held,
    extractSipIdentity_eq, ok_bind]
  rfl

theorem step_bye_held
    {context : CallContext}
    (method : received.method = "BYE".toList)
    (held : router.callContexts.lookup received.callId = some context) :
    step config router received =
      .ok (inCallResult config context received.sender received.message,
        router.noteRequest received) := by
  rw [step_request (isRequest_of_method method (by decide)), method]
  simp only [handleBye, getCallContext, received.getHeader_callId, held,
    extractSipIdentity_eq, ok_bind]
  rfl

theorem replied_outcome
    {result : RoutingResult}
    (here : result.action = .ignore ∨ result.action = .respondLocally)
    (stable : ∀ other, Agree received.callId router other →
      step config other received = .ok (result, other)) :
    ∃ result next, step config router received = .ok (result, next) ∧
      Outcome config router received result next :=
  ⟨result, router, stable router (Agree.refl _ _),
    Outcome.replied result here stable⟩

theorem step_response_unknown
    (response : received.message.isResponse = true)
    (unknown : router.callContexts.lookup received.callId = none) :
    step config router received = .ok ({}, router) := by
  simp only [step, route, response, if_true, handleResponse,
    getCallContext, received.getHeader_callId, unknown]

/-- An in-call request without context is answered locally. -/
theorem step_unknown
    (method : received.method = "ACK".toList ∨
      received.method = "BYE".toList)
    (unknown : router.callContexts.lookup received.callId = none) :
    step config router received =
      .ok (respondLocally "SIP/2.0 400 Bad Request" received.message [],
        router) := by
  rcases method with ack | bye
  · rw [step_request (isRequest_of_method ack (by decide)), ack]
    simp only [handleAck, getCallContext, received.getHeader_callId, unknown]
    rfl
  · rw [step_request (isRequest_of_method bye (by decide)), bye]
    simp only [handleBye, getCallContext, received.getHeader_callId, unknown]
    rfl

theorem step_registers
    (accepted : Registers received) :
    step config router received =
      .ok ({ action := .respondLocally
             response := RegisterHandler.makeResponse "SIP/2.0 200 OK"
               received.message }, router.register received) := by
  have starts : "REGISTER".toList <+: received.message.startLine :=
    accepted.method ▸ getMethod_starts received.message
  have present : ¬ (received.message.getHeader "From" = [] ∨
      received.message.getHeader "Contact" = []) :=
    not_or.mpr ⟨accepted.fromHeader, accepted.contact⟩
  rw [step_request (isRequest_of_method accepted.method (by decide)),
    if_pos accepted.method]
  simp only [handleRegister, if_neg (not_not.mpr accepted.headers),
    RegisterHandler.handle, if_neg (not_not.mpr starts), if_neg present,
    RegisterHandler.extractSipIdentity_eq, ok_bind,
    received.sipIdentity_from, if_neg accepted.user]
  rfl

/-- A REGISTER is accepted, or refused whatever the state is. -/
theorem step_register
    (method : received.method = "REGISTER".toList) :
    Registers received ∨
      ∀ other : SIPRouter, step config other received =
        .ok (respondLocally "SIP/2.0 400 Bad Request" received.message [],
          other) := by
  have starts : "REGISTER".toList <+: received.message.startLine :=
    method ▸ getMethod_starts received.message
  simp only [step_request (isRequest_of_method method (by decide)),
    if_pos method, handleRegister, RegisterHandler.handle,
    if_neg (not_not.mpr starts)]
  by_cases headers : hasRequiredRegisterHeaders received.message = true
  swap
  · exact Or.inr (fun other => if_pos headers)
  simp only [if_neg (not_not.mpr headers)]
  by_cases missing : received.message.getHeader "From" = [] ∨
      received.message.getHeader "Contact" = []
  · simp only [if_pos missing]
    exact Or.inr (fun other => rfl)
  simp only [if_neg missing, RegisterHandler.extractSipIdentity_eq, ok_bind,
    received.sipIdentity_from]
  rw [not_or] at missing
  by_cases user : received.sender = []
  · simp only [if_pos user]
    exact Or.inr (fun other => rfl)
  · exact Or.inl ⟨method, headers, missing.1, missing.2, user⟩

/-- Storing the context of an admissible INVITE only depends on the contact. -/
theorem step_admissible
    {entry : ContactEntry} (accepted : Admissible router received entry) :
    step config router received =
      (calleeAddress entry.contact).map (fun address =>
        (inviteResult config received entry,
          router.openCall received entry address)) := by
  have request := isRequest_of_method accepted.method (by decide)
  have created : router.registry.createCall received.callId received.sender
      received.target = some (router.registry.insert received.callId
        { callId := received.callId
          caller := received.sender
          callee := received.target }) := by
    rw [CallRegistry.createCall, if_neg accepted.fresh]
  have noted : CallSession.onRequest
      { callId := received.callId
        caller := received.sender
        callee := received.target } received.message =
          openedSession received := by
    simp only [CallSession.onRequest, received.getMethod_eq, accepted.method]
    rfl
  have registered : router.table.getContactEntry received.target =
      some entry := accepted.registered
  have contact : router.table.getContact received.target =
      some entry.contact := by
    rw [RegistrationTable.getContact, registered, Option.map_some]
  have nonempty : ¬ (received.sender = [] ∨ received.target = []) :=
    not_or.mpr ⟨accepted.caller, accepted.callee⟩
  rw [step_request request, if_neg (by rw [accepted.method]; decide),
    if_pos accepted.method]
  unfold handleInvite
  rw [if_neg (not_not.mpr accepted.headers)]
  simp only [extractSipIdentity_eq, ok_bind, received.sipIdentity_from,
    received.sipIdentity_to, received.getHeader_callId,
    if_neg nonempty, if_neg accepted.distinct, registered, created,
    if_neg (not_not.mpr accepted.sameTransport), storeCallContext]
  cases calleeAddress entry.contact with
  | error thrown => rfl
  | ok address =>
      simp only [ok_bind, pure_eq_ok, TextMap.modify_insert, noted,
        contact]
      rfl

theorem step_opened
    {entry : ContactEntry} {address : CppString × UInt16}
    (accepted : Admissible router received entry)
    (parsed : calleeAddress entry.contact = .ok address) :
    step config router received =
      .ok (inviteResult config received entry,
        router.openCall received entry address) := by
  rw [step_admissible accepted, parsed]
  rfl

/-- The status lines with which an INVITE is refused. -/
def inviteRefusals : List CppString :=
  ["SIP/2.0 400 Bad Request".toList, "SIP/2.0 404 Not Found".toList,
    "SIP/2.0 404 Different protocol".toList]

/-- An INVITE is admissible for some entry, or refused. -/
theorem step_invite
    (method : received.method = "INVITE".toList) :
    (∃ entry, Admissible router received entry) ∨
      ∃ status ∈ inviteRefusals, ∃ user, ∀ other,
        Agree received.callId router other →
          step config other received =
            .ok (respondLocally status received.message user, other) := by
  have request := isRequest_of_method method (by decide)
  have notRegister : received.method ≠ "REGISTER".toList := by
    rw [method]
    decide
  have badRequest : "SIP/2.0 400 Bad Request".toList ∈ inviteRefusals :=
    List.mem_cons_self
  simp only [step_request request, if_neg notRegister, if_pos method,
    handleInvite]
  by_cases headers : hasRequiredInviteHeaders received.message = true
  swap
  · exact Or.inr ⟨_, badRequest, [], fun other agree => if_pos headers⟩
  simp only [if_neg (not_not.mpr headers), extractSipIdentity_eq, ok_bind,
    received.sipIdentity_from, received.sipIdentity_to,
    received.getHeader_callId]
  by_cases empty : received.sender = [] ∨ received.target = []
  · exact Or.inr ⟨_, badRequest, [], fun other agree => if_pos empty⟩
  simp only [if_neg empty]
  by_cases same : received.sender = received.target
  · exact Or.inr ⟨_, badRequest, _, fun other agree => if_pos same⟩
  simp only [if_neg same, RegistrationTable.getContactEntry]
  cases registered : router.table.lookup received.target with
  | none =>
      have notFound : "SIP/2.0 404 Not Found".toList ∈ inviteRefusals :=
        List.mem_cons_of_mem _ List.mem_cons_self
      refine Or.inr ⟨_, notFound, received.target, fun other agree => ?_⟩
      rw [← agree.table, registered]
      rfl
  | some entry =>
      by_cases sameTransport : entry.transport = received.transport
      swap
      · have different :
            "SIP/2.0 404 Different protocol".toList ∈ inviteRefusals :=
          List.mem_cons_of_mem _ (List.mem_cons_of_mem _ List.mem_cons_self)
        refine Or.inr ⟨_, different, received.target, fun other agree => ?_⟩
        rw [← agree.table, registered]
        exact if_pos sameTransport
      by_cases known : received.callId ∈ router.registry
      · refine Or.inr ⟨_, badRequest, received.target, fun other agree => ?_⟩
        have duplicate := agree.mem_registry_iff.mp known
        simp only [← agree.table, registered,
          if_neg (not_not.mpr sameTransport), CallRegistry.createCall,
          if_pos duplicate]
        rfl
      · rw [not_or] at empty
        exact Or.inl ⟨entry,
          { method := method
            headers := headers
            caller := empty.1
            callee := empty.2
            distinct := same
            registered := registered
            sameTransport := sameTransport
            fresh := known }⟩

/-- A step has one of the listed effects, or throws on a callee contact. -/
theorem step_cases (config : RouterConfig) (router : SIPRouter)
    (received : Received) :
    (∃ result next, step config router received = .ok (result, next) ∧
      Outcome config router received result next) ∨
    ∃ entry thrown, Admissible router received entry ∧
      calleeAddress entry.contact = .error thrown ∧
      step config router received = .error thrown := by
  by_cases response : received.message.isResponse = true
  · left
    cases held : router.callContexts.lookup received.callId with
    | none =>
        exact replied_outcome (Or.inl rfl) (fun other agree =>
          step_response_unknown response (agree.context ▸ held))
    | some context =>
        exact ⟨_, _, step_response_held response held,
          Outcome.responded context response held⟩
  by_cases request : received.message.isRequest = true
  swap
  · left
    have ignored : ∀ other : SIPRouter,
        step config other received = .ok ({}, other) := by
      intro other
      simp only [step, route, response, request]
      rfl
    exact replied_outcome (Or.inl rfl) (fun other agree => ignored other)
  by_cases register : received.method = "REGISTER".toList
  · left
    rcases step_register register with accepted | done
    · exact ⟨_, _, step_registers accepted, Outcome.registered accepted⟩
    · exact replied_outcome (Or.inr rfl) (fun other agree => done other)
  by_cases invite : received.method = "INVITE".toList
  · rcases step_invite invite with
      ⟨entry, accepted⟩ | ⟨status, -, user, done⟩
    · cases parsed : calleeAddress entry.contact with
      | error thrown =>
          refine Or.inr ⟨entry, thrown, accepted, parsed, ?_⟩
          rw [step_admissible accepted, parsed]
          rfl
      | ok address =>
          exact Or.inl ⟨_, _, step_opened accepted parsed,
            Outcome.invited entry address accepted parsed⟩
    · exact Or.inl (replied_outcome (Or.inr rfl) done)
  left
  by_cases inCall : received.method = "ACK".toList ∨
      received.method = "BYE".toList
  · cases held : router.callContexts.lookup received.callId with
    | none =>
        exact replied_outcome (Or.inr rfl) (fun other agree =>
          step_unknown inCall (agree.context ▸ held))
    | some context =>
        rcases inCall with ack | bye
        · exact ⟨_, _, step_ack_held ack held,
            Outcome.acked context ack held⟩
        · exact ⟨_, _, step_bye_held bye held,
            Outcome.byed context bye held⟩
  · rw [not_or] at inCall
    have unsupported : ∀ other : SIPRouter, step config other received =
        .ok (respondLocally "SIP/2.0 501 Not Implemented" received.message [],
          other) := by
      intro other
      rw [step_request request, if_neg register, if_neg invite,
        if_neg inCall.1, if_neg inCall.2]
    exact replied_outcome (Or.inr rfl) (fun other agree => unsupported other)

/-- Every successful step has one of the listed effects. -/
theorem outcome_of_step
    {result : RoutingResult} {next : SIPRouter}
    (stepped : step config router received = .ok (result, next)) :
    Outcome config router received result next := by
  rcases step_cases config router received with
    ⟨result', next', done, outcome⟩ | ⟨entry, thrown, -, -, failed⟩
  · rw [stepped] at done
    cases done
    exact outcome
  · rw [stepped] at failed
    cases failed

end Handlers

end SIPRouter

end MinimalSip.Proxy

import MinimalSip.Lib.Concurrent
import MinimalSip.Proxy.CallEffects

/-!
# The handlers as sequences of atomic operations

Each map of the router has a mutex of its own, and so has each session.  A
handler is a program whose operations are the critical sections, in the order
of the source.  Sessions are shared: a handler that has found a session keeps
its reference when another one removes the call, so sessions live in a heap
and the registry maps Call-IDs to references.

Run alone, the program of a message does what `step` does.
-/

namespace MinimalSip.Proxy

open MinimalSip.Lib.Cpp
open MinimalSip.Lib.Search
open MinimalSip.Lib.Concurrent
open MinimalSip.Common
open MinimalSip.Common.SIPMessage

/-! ## Shared state and operations -/

/-- A position in the heap of sessions. -/
abbrev SessionRef := Nat

structure Shared where
  table : RegistrationTable := ∅
  heap : List CallSession := []
  registry : TextMap SessionRef := ∅
  callContexts : TextMap CallContext := ∅
  metrics : MetricsCollector := {}

/-- The critical sections and atomic accesses of the handlers. -/
inductive Operation : Type → Type where
  | getContactEntry (user : CppString) : Operation (Option ContactEntry)
  | getContact (user : CppString) : Operation (Option CppString)
  | registerUser (user contact : CppString) (transport : TransportType) :
      Operation Unit
  | createCall (callId caller callee : CppString) :
      Operation (Option SessionRef)
  | findCall (callId : CppString) : Operation (Option SessionRef)
  | removeCall (callId : CppString) : Operation Unit
  | applyEvent (session : SessionRef) (event : CallEvent) : Operation Unit
  | isTerminated (session : SessionRef) : Operation Bool
  | getCallContext (callId : CppString) : Operation (Option CallContext)
  | storeCallContext (callId : CppString) (context : CallContext) :
      Operation Unit
  | storeCalleeHeaders (callId : CppString) (headers : List SIPHeader) :
      Operation Unit
  | eraseCallContext (callId : CppString) : Operation Unit
  | incActiveCalls : Operation Unit
  | readActiveCalls : Operation Int
  | decrementActiveCalls : Operation Unit
  | incRegisteredUsers : Operation Unit

namespace Operation

def apply : {β : Type} → Operation β → Shared → β × Shared
  | _, .getContactEntry user, shared =>
      (shared.table.getContactEntry user, shared)
  | _, .getContact user, shared => (shared.table.getContact user, shared)
  | _, .registerUser user contact transport, shared =>
      ((), { shared with
        table := shared.table.registerUser user contact transport })
  | _, .createCall callId caller callee, shared =>
      if callId ∈ shared.registry then (none, shared)
      else
        (some shared.heap.length,
          { shared with
            heap := shared.heap ++
              [{ callId := callId, caller := caller, callee := callee }]
            registry := shared.registry.insert callId shared.heap.length })
  | _, .findCall callId, shared => (shared.registry.lookup callId, shared)
  | _, .removeCall callId, shared =>
      ((), { shared with registry := shared.registry.erase callId })
  | _, .applyEvent session event, shared =>
      ((), { shared with
        heap := shared.heap.modify session
          (fun session => session.applyEvent event) })
  | _, .isTerminated session, shared =>
      (shared.heap[session]?.any CallSession.isTerminated, shared)
  | _, .getCallContext callId, shared =>
      (shared.callContexts.lookup callId, shared)
  | _, .storeCallContext callId context, shared =>
      ((), { shared with
        callContexts := shared.callContexts.insert callId context })
  | _, .storeCalleeHeaders callId headers, shared =>
      ((), { shared with
        callContexts := shared.callContexts.modify callId (fun context =>
          { context with
            calleeStoredHeaders :=
              context.calleeStoredHeaders.assignAll headers }) })
  | _, .eraseCallContext callId, shared =>
      ((), { shared with callContexts := shared.callContexts.erase callId })
  | _, .incActiveCalls, shared =>
      ((), { shared with metrics := shared.metrics.incActiveCalls })
  | _, .readActiveCalls, shared => (shared.metrics.activeCalls, shared)
  | _, .decrementActiveCalls, shared =>
      ((), { shared with
        metrics := { shared.metrics with
          activeCalls := shared.metrics.activeCalls - 1 } })
  | _, .incRegisteredUsers, shared =>
      ((), { shared with metrics := shared.metrics.incRegisteredUsers })

end Operation

/-! ## The handlers -/

namespace Worker

/-- A piece of a handler, as a program of its operations. -/
abbrev Handler (α : Type) := Program StdException Operation α

/-- The event that `on_request` applies, if any. -/
def requestEvent (message : SIPMessage) : Option CallEvent :=
  let method := message.getMethod
  if method = "INVITE".toList then some .invite
  else if method = "ACK".toList then some .ack
  else if method = "BYE".toList then some .bye
  else none

/-- The event that `on_response` applies, if any. -/
def responseEvent (message : SIPMessage) : Option CallEvent :=
  let statusCode := message.getStatusCode
  let cseq := message.getHeader "CSeq"
  if statusCode = 100 then some .trying100
  else if statusCode = 180 then some .ringing180
  else if statusCode = 200 ∧ contains cseq "INVITE" then some .ok200
  else none

def applyIfAny (session : SessionRef) : Option CallEvent → Handler Unit
  | some event => .operate (.applyEvent session event)
  | none => .pure ()

/-- `find_call`, and the event on the session if there is one. -/
def noteEvent (callId : CppString) (event : Option CallEvent) :
    Handler Unit := do
  match ← .operate (.findCall callId) with
  | some session => applyIfAny session event
  | none => .pure ()

/-- The gauge is read and stepped down in two atomic accesses. -/
def decActiveCalls : Handler Unit := do
  let calls ← .operate .readActiveCalls
  if calls > 0 then .operate .decrementActiveCalls else .pure ()

/-- `RegisterHandler::handle` -/
def registerUser (message : SIPMessage) (transport : TransportType) :
    Handler SIPMessage :=
  if ¬ ("REGISTER".toList <+: message.startLine) then
    .pure (RegisterHandler.makeResponse "SIP/2.0 400 Bad Request" message)
  else
    let from' := message.getHeader "From"
    let contact := message.getHeader "Contact"
    if from' = [] ∨ contact = [] then
      .pure (RegisterHandler.makeResponse "SIP/2.0 400 Bad Request" message)
    else do
      let userIdentity ← .lift (RegisterHandler.extractSipIdentity from')
      if userIdentity = [] then
        .pure (RegisterHandler.makeResponse "SIP/2.0 400 Bad Request" message)
      else do
        .operate (.registerUser userIdentity contact transport)
        .operate .incRegisteredUsers
        .pure (RegisterHandler.makeResponse "SIP/2.0 200 OK" message)

def handleRegister (message : SIPMessage) (transport : TransportType) :
    Handler RoutingResult :=
  if ¬ SIPRouter.hasRequiredRegisterHeaders message then
    .pure (SIPRouter.respondLocally "SIP/2.0 400 Bad Request" message [])
  else do
    let response ← registerUser message transport
    .pure { action := .respondLocally, response := response }

/-- The context that `store_call_context` builds before it takes the lock. -/
def callContext (received : Received) (caller callee : CppString)
    (calleeEntry : ContactEntry) (address : CppString × UInt16)
    (registered : Option CppString) : CallContext where
  caller := caller
  callee := callee
  callerIp := received.senderIp
  callerPort := received.senderPort
  calleeContact := calleeEntry.contact
  calleeIp := address.1
  calleePort := address.2
  callerStoredHeaders := (∅ : HeaderMap).assignAll received.message.headers
  calleeStoredHeaders :=
    match registered with
    | some registered => (∅ : HeaderMap).assign "Contact" registered
    | none => {}
  callerTransport := received.transport
  calleeTransport := calleeEntry.transport

def storeCallContext (received : Received) (caller callee : CppString)
    (calleeEntry : ContactEntry) : Handler Unit := do
  let address ← .lift (SIPRouter.calleeAddress calleeEntry.contact)
  let registered ← .operate (.getContact callee)
  .operate (.storeCallContext received.callId
    (callContext received caller callee calleeEntry address registered))

/-- What follows a successful `create_call`. -/
def openCall (config : RouterConfig) (received : Received)
    (caller callee : CppString) (calleeEntry : ContactEntry)
    (session : SessionRef) : Handler RoutingResult := do
  let message := received.message
  storeCallContext received caller callee calleeEntry
  applyIfAny session (requestEvent message)
  .operate .incActiveCalls
  .pure
    { action := .forwardRequest
      message := SIPRouter.withProxyVia config calleeEntry.transport message
      contact := some calleeEntry.contact
      user := callee
      calleeTransport := calleeEntry.transport }

def handleInvite (config : RouterConfig) (received : Received) :
    Handler RoutingResult :=
  let message := received.message
  let callId := message.getHeader "Call-ID"
  if ¬ SIPRouter.hasRequiredInviteHeaders message then
    .pure (SIPRouter.respondLocally "SIP/2.0 400 Bad Request" message [])
  else do
    let caller ← .lift
      (SIPRouter.extractSipIdentity (message.getHeader "From"))
    let callee ← .lift
      (SIPRouter.extractSipIdentity (message.getHeader "To"))
    if caller = [] ∨ callee = [] then
      .pure (SIPRouter.respondLocally "SIP/2.0 400 Bad Request" message [])
    else if caller = callee then
      .pure (SIPRouter.respondLocally "SIP/2.0 400 Bad Request" message
        caller)
    else do
      match ← .operate (.getContactEntry callee) with
      | none =>
          .pure (SIPRouter.respondLocally "SIP/2.0 404 Not Found" message
            callee)
      | some calleeEntry =>
          if calleeEntry.transport ≠ received.transport then
            .pure (SIPRouter.respondLocally "SIP/2.0 404 Different protocol"
              message callee)
          else do
            match ← .operate (.createCall callId caller callee) with
            | none =>
                .pure (SIPRouter.respondLocally "SIP/2.0 400 Bad Request"
                  message callee)
            | some session =>
                openCall config received caller callee calleeEntry session

/-- The end of `handle_ack`: drop a call whose session is terminated. -/
def removeTerminated (callId : CppString) : Handler Unit := do
  match ← .operate (.findCall callId) with
  | some session =>
      if ← .operate (.isTerminated session) then do
        .operate (.removeCall callId)
        .operate (.eraseCallContext callId)
      else .pure ()
  | none => .pure ()

def handleAck (config : RouterConfig) (message : SIPMessage) :
    Handler RoutingResult := do
  let callId := message.getHeader "Call-ID"
  match ← .operate (.getCallContext callId) with
  | none =>
      .pure (SIPRouter.respondLocally "SIP/2.0 400 Bad Request" message [])
  | some context => do
      let sender ← .lift
        (SIPRouter.extractSipIdentity (message.getHeader "From"))
      noteEvent callId (requestEvent message)
      removeTerminated callId
      .pure (SIPRouter.inCallResult config context sender message)

def handleBye (config : RouterConfig) (message : SIPMessage) :
    Handler RoutingResult := do
  let callId := message.getHeader "Call-ID"
  match ← .operate (.getCallContext callId) with
  | none =>
      .pure (SIPRouter.respondLocally "SIP/2.0 400 Bad Request" message [])
  | some context => do
      let sender ← .lift
        (SIPRouter.extractSipIdentity (message.getHeader "From"))
      noteEvent callId (requestEvent message)
      .pure (SIPRouter.inCallResult config context sender message)

/-- Run a piece of a handler under a condition. -/
def onlyIf (condition : Prop) [Decidable condition] (piece : Handler Unit) :
    Handler Unit :=
  if condition then piece else .pure ()

/-- Session first, gauge last. -/
def releaseAfterBye (callId : CppString) : Handler Unit := do
  .operate (.removeCall callId)
  .operate (.eraseCallContext callId)
  decActiveCalls

/-- The gauge between session and context. -/
def releaseAfterBusy (callId : CppString) : Handler Unit := do
  .operate (.removeCall callId)
  decActiveCalls
  .operate (.eraseCallContext callId)

/-- The state changes of `handle_response`, in the order of its branches. -/
def applyResponse (callId : CppString) (forwarded : SIPMessage) :
    Handler Unit := do
  let statusCode := forwarded.getStatusCode
  let cseq := forwarded.getHeader "CSeq"
  noteEvent callId (responseEvent forwarded)
  onlyIf (statusCode = 200 ∧ contains cseq "INVITE")
    (.operate (.storeCalleeHeaders callId forwarded.headers))
  onlyIf (statusCode = 603 ∧ contains cseq "INVITE") decActiveCalls
  onlyIf (statusCode = 200 ∧ contains cseq "BYE") (releaseAfterBye callId)
  onlyIf (statusCode = 486 ∧ contains cseq "INVITE")
    (releaseAfterBusy callId)

def handleResponse (config : RouterConfig) (message : SIPMessage) :
    Handler RoutingResult := do
  let callId := message.getHeader "Call-ID"
  match ← .operate (.getCallContext callId) with
  | none => .pure {}
  | some context => do
      let forwarded := SIPRouter.stripProxyVia message
      applyResponse callId forwarded
      .pure (SIPRouter.responseResult config context forwarded)

/-- `route` as the program of one message. -/
def route (config : RouterConfig) (received : Received) :
    Handler RoutingResult :=
  let message := received.message
  if message.isResponse then handleResponse config message
  else if ¬ message.isRequest then .pure {}
  else
    let method := message.getMethod
    if method = "REGISTER".toList then
      handleRegister message received.transport
    else if method = "INVITE".toList then handleInvite config received
    else if method = "ACK".toList then handleAck config message
    else if method = "BYE".toList then handleBye config message
    else
      .pure (SIPRouter.respondLocally "SIP/2.0 501 Not Implemented" message
        [])

end Worker

/-! ## A program alone does what the handler does -/

/-- The heap and the references into it hold the sessions of the registry. -/
structure Represents (shared : Shared) (router : SIPRouter) : Prop where
  table : shared.table = router.table
  contexts : shared.callContexts = router.callContexts
  metrics : shared.metrics = router.metrics
  sessions : ∀ callId, router.registry.lookup callId =
    (shared.registry.lookup callId).bind (fun session =>
      shared.heap[session]?)
  allocated : ∀ callId session,
    shared.registry.lookup callId = some session →
      session < shared.heap.length
  unshared : ∀ callId other session,
    shared.registry.lookup callId = some session →
    shared.registry.lookup other = some session → callId = other

namespace Represents

variable {shared : Shared} {router : SIPRouter}

theorem initial : Represents {} SIPRouter.initial where
  table := rfl
  contexts := rfl
  metrics := rfl
  sessions := fun _ => rfl
  allocated := by
    intro callId session held
    cases held
  unshared := by
    intro callId other session held
    cases held

theorem lookup_held
    (represents : Represents shared router)
    {callId : CppString} {session : SessionRef}
    (held : shared.registry.lookup callId = some session) :
    router.registry.lookup callId = shared.heap[session]? := by
  rw [represents.sessions callId, held, Option.bind_some]

theorem lookup_unknown
    (represents : Represents shared router) {callId : CppString}
    (unknown : shared.registry.lookup callId = none) :
    router.registry.lookup callId = none := by
  rw [represents.sessions callId, unknown, Option.bind_none]

theorem mem_registry_iff
    (represents : Represents shared router) (callId : CppString) :
    callId ∈ shared.registry ↔ callId ∈ router.registry := by
  rw [← Finmap.lookup_isSome, ← Finmap.lookup_isSome]
  cases held : shared.registry.lookup callId with
  | none =>
      rw [represents.lookup_unknown held]
      rfl
  | some session =>
      have inHeap := represents.allocated callId session held
      rw [represents.lookup_held held, List.getElem?_eq_getElem inHeap]
      rfl

theorem applyEvent
    (represents : Represents shared router)
    {callId : CppString} {session : SessionRef}
    (held : shared.registry.lookup callId = some session)
    (event : CallEvent) :
    Represents
      { shared with
        heap := shared.heap.modify session
          (fun session => session.applyEvent event) }
      { router with
        registry := router.registry.modify callId
          (fun session => session.applyEvent event) } where
  table := represents.table
  contexts := represents.contexts
  metrics := represents.metrics
  sessions := by
    intro other
    rw [TextMap.lookup_modify]
    split_ifs with same
    · subst same
      rw [represents.lookup_held held, held, Option.bind_some,
        List.getElem?_modify_eq]
      rfl
    · rw [represents.sessions other]
      cases elsewhere : shared.registry.lookup other with
      | none => rfl
      | some session' =>
          have apart : session ≠ session' := by
            rintro rfl
            exact same (represents.unshared other callId _ elsewhere held)
          rw [Option.bind_some, Option.bind_some,
            List.getElem?_modify_ne _ _ apart]
  allocated := by
    intro other session' elsewhere
    rw [List.length_modify]
    exact represents.allocated other session' elsewhere
  unshared := represents.unshared

theorem createCall
    (represents : Represents shared router)
    {callId : CppString} (fresh : callId ∉ shared.registry)
    (session : CallSession) :
    Represents
      { shared with
        heap := shared.heap ++ [session]
        registry := shared.registry.insert callId shared.heap.length }
      { router with registry := router.registry.insert callId session } where
  table := represents.table
  contexts := represents.contexts
  metrics := represents.metrics
  sessions := by
    intro other
    by_cases same : other = callId
    · subst same
      rw [Finmap.lookup_insert, Finmap.lookup_insert, Option.bind_some,
        List.getElem?_concat_length]
    · rw [Finmap.lookup_insert_of_ne _ same,
        Finmap.lookup_insert_of_ne _ same, represents.sessions other]
      cases elsewhere : shared.registry.lookup other with
      | none => rfl
      | some session' =>
          have inHeap := represents.allocated other session' elsewhere
          rw [Option.bind_some, Option.bind_some,
            List.getElem?_append_left inHeap]
  allocated := by
    intro other session' elsewhere
    rw [List.length_append, List.length_singleton]
    by_cases same : other = callId
    · subst same
      rw [Finmap.lookup_insert, Option.some.injEq] at elsewhere
      exact elsewhere ▸ Nat.lt_succ_self _
    · rw [Finmap.lookup_insert_of_ne _ same] at elsewhere
      exact Nat.lt_succ_of_lt (represents.allocated other session' elsewhere)
  unshared := by
    have older : ∀ other, other ≠ callId →
        (shared.registry.insert callId shared.heap.length).lookup other ≠
          some shared.heap.length := by
      intro other distinct new
      rw [Finmap.lookup_insert_of_ne _ distinct] at new
      exact Nat.lt_irrefl _ (represents.allocated other _ new)
    intro first second session' heldFirst heldSecond
    by_cases sameFirst : first = callId <;>
      by_cases sameSecond : second = callId
    · exact sameFirst.trans sameSecond.symm
    · subst sameFirst
      rw [Finmap.lookup_insert, Option.some.injEq] at heldFirst
      subst heldFirst
      exact absurd heldSecond (older second sameSecond)
    · subst sameSecond
      rw [Finmap.lookup_insert, Option.some.injEq] at heldSecond
      subst heldSecond
      exact absurd heldFirst (older first sameFirst)
    · rw [Finmap.lookup_insert_of_ne _ sameFirst] at heldFirst
      rw [Finmap.lookup_insert_of_ne _ sameSecond] at heldSecond
      exact represents.unshared first second session' heldFirst heldSecond

theorem removeCall
    (represents : Represents shared router) (callId : CppString) :
    Represents
      { shared with registry := shared.registry.erase callId }
      { router with registry := router.registry.erase callId } where
  table := represents.table
  contexts := represents.contexts
  metrics := represents.metrics
  sessions := by
    intro other
    by_cases same : other = callId
    · subst same
      rw [Finmap.lookup_erase, Finmap.lookup_erase]
      rfl
    · rw [Finmap.lookup_erase_ne same, Finmap.lookup_erase_ne same]
      exact represents.sessions other
  allocated := by
    intro other session held
    by_cases same : other = callId
    · subst same
      rw [Finmap.lookup_erase] at held
      cases held
    · rw [Finmap.lookup_erase_ne same] at held
      exact represents.allocated other session held
  unshared := by
    have before : ∀ other session,
        (shared.registry.erase callId).lookup other = some session →
          shared.registry.lookup other = some session := by
      intro other session held
      by_cases same : other = callId
      · subst same
        rw [Finmap.lookup_erase] at held
        cases held
      · rwa [Finmap.lookup_erase_ne same] at held
    intro first second session heldFirst heldSecond
    exact represents.unshared first second session
      (before first session heldFirst) (before second session heldSecond)

/-- Tables, contexts and gauges may change alike on both sides. -/
theorem change
    (represents : Represents shared router)
    {shared' : Shared} {router' : SIPRouter}
    (heap : shared'.heap = shared.heap)
    (registry : shared'.registry = shared.registry)
    (registry' : router'.registry = router.registry)
    (table : shared'.table = router'.table)
    (contexts : shared'.callContexts = router'.callContexts)
    (metrics : shared'.metrics = router'.metrics) :
    Represents shared' router' := by
  refine ⟨table, contexts, metrics, ?_, ?_, ?_⟩
  · rw [registry', registry, heap]
    exact represents.sessions
  · rw [registry, heap]
    exact represents.allocated
  · rw [registry]
    exact represents.unshared

end Represents

/--
Run alone, a piece of a handler ends with the value and in the state of a
sequential computation, or throws the same exception.
-/
def Matches (piece : Worker.Handler α) (shared : Shared) :
    Except StdException (α × SIPRouter) → Prop
  | .ok (value, router) =>
      ∃ after, piece.runAlone Operation.apply shared = .ok (value, after) ∧
        Represents after router
  | .error thrown =>
      piece.runAlone Operation.apply shared = .error thrown

namespace Matches

variable {shared : Shared} {router next : SIPRouter}

theorem value
    (represents : Represents shared router) (value : α) :
    Matches (.pure value) shared (.ok (value, router)) :=
  ⟨shared, rfl, represents⟩

theorem bind
    {piece : Worker.Handler α} {continuation : α → Worker.Handler β}
    {value : α} {outcome : Except StdException (β × SIPRouter)}
    (first : Matches piece shared (.ok (value, next)))
    (second : ∀ after, Represents after next →
      Matches (continuation value) after outcome) :
    Matches (piece >>= continuation) shared outcome := by
  obtain ⟨after, ran, represents⟩ := first
  have rest := second after represents
  cases outcome with
  | error thrown =>
      rw [Matches, Program.runAlone_bind, ran]
      exact rest
  | ok result =>
      rw [Matches, Program.runAlone_bind, ran]
      exact rest

/-- A single operation. -/
theorem operate
    (operation : Operation α)
    (represents : Represents (operation.apply shared).2 next) :
    Matches (.operate operation) shared
      (.ok ((operation.apply shared).1, next)) :=
  ⟨_, rfl, represents⟩

theorem applyIfAny
    (represents : Represents shared router)
    {callId : CppString} {session : SessionRef}
    (held : shared.registry.lookup callId = some session)
    (event : Option CallEvent) :
    Matches (Worker.applyIfAny session event) shared
      (.ok ((), { router with
        registry := router.registry.modify callId (fun session =>
          event.elim session session.applyEvent) })) := by
  cases event with
  | none =>
      rw [show (fun session : CallSession => (none : Option CallEvent).elim
        session session.applyEvent) = fun session => session from rfl,
        TextMap.modify_self]
      exact value represents ()
  | some event => exact operate _ (represents.applyEvent held event)

/-- The first operation of a piece. -/
theorem bind_operate
    {operation : Operation α} {continuation : α → Worker.Handler β}
    {outcome : Except StdException (β × SIPRouter)}
    (rest : Matches (continuation (operation.apply shared).1)
      (operation.apply shared).2 outcome) :
    Matches (.operate operation >>= continuation) shared outcome := by
  cases outcome with
  | ok result => exact rest
  | error thrown => exact rest

/-- An event on the session that `find_call` may find. -/
theorem noteEvent
    (represents : Represents shared router)
    (callId : CppString) (event : Option CallEvent) :
    Matches (Worker.noteEvent callId event) shared
      (.ok ((), { router with
        registry := router.registry.modify callId (fun session =>
          event.elim session session.applyEvent) })) := by
  apply bind_operate
  dsimp only [Operation.apply]
  cases held : shared.registry.lookup callId with
  | some session => exact applyIfAny represents held event
  | none =>
      have absent := represents.lookup_unknown held
      have same : router.registry.modify callId (fun session =>
          event.elim session session.applyEvent) = router.registry := by
        rw [TextMap.modify, absent]
      rw [same]
      exact value represents ()

theorem onRequest_eq (message : SIPMessage) :
    (fun session : CallSession => session.onRequest message) =
      fun session => (Worker.requestEvent message).elim session
        session.applyEvent := by
  funext session
  unfold CallSession.onRequest Worker.requestEvent
  dsimp only
  split_ifs <;> rfl

theorem onResponse_eq (message : SIPMessage) :
    (fun session : CallSession => session.onResponse message) =
      fun session => (Worker.responseEvent message).elim session
        session.applyEvent := by
  funext session
  unfold CallSession.onResponse Worker.responseEvent
  dsimp only
  split_ifs <;> rfl

theorem decActiveCalls (represents : Represents shared router) :
    Matches Worker.decActiveCalls shared (.ok ((), router.stepDown)) := by
  apply bind_operate
  dsimp only [Operation.apply]
  have gauge : shared.metrics.activeCalls = router.metrics.activeCalls := by
    rw [represents.metrics]
  by_cases positive : shared.metrics.activeCalls > 0
  · have down : router.metrics.decActiveCalls =
        { shared.metrics with
          activeCalls := shared.metrics.activeCalls - 1 } := by
      rw [MetricsCollector.decActiveCalls, if_pos (gauge ▸ positive),
        represents.metrics]
    rw [if_pos positive, SIPRouter.stepDown, down]
    apply operate
    exact represents.change rfl rfl rfl represents.table represents.contexts
      rfl
  · have kept : router.metrics.decActiveCalls = router.metrics := by
      rw [MetricsCollector.decActiveCalls, if_neg (gauge ▸ positive)]
    rw [if_neg positive, SIPRouter.stepDown, kept]
    exact value represents ()

theorem handleRegister
    (represents : Represents shared router)
    (message : SIPMessage) (transport : TransportType) :
    Matches (Worker.handleRegister message transport) shared
      (router.handleRegister message transport) := by
  unfold Worker.handleRegister SIPRouter.handleRegister
    Worker.registerUser RegisterHandler.handle
  by_cases headers : SIPRouter.hasRequiredRegisterHeaders message = true
  swap
  · rw [if_pos headers, if_pos headers]
    exact value represents _
  rw [if_neg (not_not.mpr headers), if_neg (not_not.mpr headers)]
  by_cases starts : "REGISTER".toList <+: message.startLine
  swap
  · rw [if_pos starts, if_pos starts]
    exact value represents _
  rw [if_neg (not_not.mpr starts), if_neg (not_not.mpr starts)]
  by_cases missing : message.getHeader "From" = [] ∨
      message.getHeader "Contact" = []
  · simp only [if_pos missing]
    exact value represents _
  simp only [if_neg missing, RegisterHandler.extractSipIdentity_eq, ok_bind,
    Program.lift, Program.bind_pure]
  by_cases user : sipIdentity (message.getHeader "From") = []
  · simp only [if_pos user]
    exact value represents _
  simp only [if_neg user, pure_eq_ok, ok_bind]
  refine ⟨_, rfl, ?_⟩
  exact represents.change rfl rfl rfl
    (congrArg (fun table : RegistrationTable =>
      table.registerUser _ _ transport) represents.table)
    represents.contexts
    (congrArg MetricsCollector.incRegisteredUsers represents.metrics)

/-- Storing the context of a call, on the router. -/
theorem storeCallContext_eq
    (router : SIPRouter) (received : Received)
    (caller callee : CppString) (calleeEntry : ContactEntry) :
    router.storeCallContext received.message caller callee
        calleeEntry.contact received.senderIp received.senderPort
        received.transport calleeEntry.transport =
      (SIPRouter.calleeAddress calleeEntry.contact).map (fun address =>
        { router with
          callContexts := router.callContexts.insert received.callId
            (Worker.callContext received caller callee calleeEntry address
              (router.table.getContact callee)) }) := by
  unfold SIPRouter.storeCallContext
  cases SIPRouter.calleeAddress calleeEntry.contact with
  | error thrown => rfl
  | ok address => rfl

/-- What follows when the context of a new call is stored. -/
theorem noteOpened
    {shared : Shared} (router : SIPRouter)
    (represents : Represents shared router)
    {callId : CppString} {session : SessionRef}
    (held : shared.registry.lookup callId = some session)
    (message : SIPMessage) (result : RoutingResult) :
    Matches
      (do
        Worker.applyIfAny session (Worker.requestEvent message)
        .operate .incActiveCalls
        .pure result) shared
      (.ok (result, { router with
        registry := router.registry.modify callId
          (fun session => session.onRequest message)
        metrics := router.metrics.incActiveCalls })) := by
  rw [onRequest_eq]
  apply bind (applyIfAny represents held _)
  intro after noted
  refine ⟨_, rfl, ?_⟩
  exact noted.change rfl rfl rfl noted.table noted.contexts
    (congrArg MetricsCollector.incActiveCalls noted.metrics)

theorem openCall
    (config : RouterConfig) (received : Received)
    (caller callee : CppString) (calleeEntry : ContactEntry)
    (represents : Represents shared router)
    {session : SessionRef}
    (held : shared.registry.lookup received.callId = some session) :
    Matches
      (Worker.openCall config received caller callee calleeEntry session)
      shared
      (do
        let router ← router.storeCallContext received.message caller callee
          calleeEntry.contact received.senderIp received.senderPort
          received.transport calleeEntry.transport
        pure
          ({ action := .forwardRequest
             message := SIPRouter.withProxyVia config calleeEntry.transport
               received.message
             contact := some calleeEntry.contact
             user := callee
             calleeTransport := calleeEntry.transport },
            { router with
              registry := router.registry.modify received.callId
                (fun session => session.onRequest received.message)
              metrics := router.metrics.incActiveCalls })) := by
  rw [storeCallContext_eq]
  unfold Worker.openCall Worker.storeCallContext
  cases SIPRouter.calleeAddress calleeEntry.contact with
  | error thrown => exact rfl
  | ok address =>
      simp only [Program.lift, Program.bind_pure]
      apply bind_operate
      apply bind_operate
      dsimp only [Operation.apply]
      have stored : Represents
          { shared with
            callContexts := shared.callContexts.insert received.callId
              (Worker.callContext received caller callee calleeEntry address
                (shared.table.getContact callee)) }
          { router with
            callContexts := router.callContexts.insert received.callId
              (Worker.callContext received caller callee calleeEntry address
                (router.table.getContact callee)) } :=
        represents.change rfl rfl rfl represents.table
          (by rw [represents.contexts, represents.table]) represents.metrics
      exact noteOpened _ stored held received.message _

theorem handleInvite
    (config : RouterConfig) (represents : Represents shared router)
    (received : Received) :
    Matches (Worker.handleInvite config received) shared
      (router.handleInvite config received.message received.senderIp
        received.senderPort received.transport) := by
  unfold Worker.handleInvite SIPRouter.handleInvite
  by_cases headers :
      SIPRouter.hasRequiredInviteHeaders received.message = true
  swap
  · rw [if_pos headers, if_pos headers]
    exact value represents _
  rw [if_neg (not_not.mpr headers), if_neg (not_not.mpr headers)]
  simp only [SIPRouter.extractSipIdentity_eq, ok_bind, Program.lift,
    Program.bind_pure, received.sipIdentity_from, received.sipIdentity_to,
    received.getHeader_callId]
  by_cases empty : received.sender = [] ∨ received.target = []
  · rw [if_pos empty, if_pos empty]
    exact value represents _
  rw [if_neg empty, if_neg empty]
  by_cases same : received.sender = received.target
  · rw [if_pos same, if_pos same]
    exact value represents _
  rw [if_neg same, if_neg same]
  apply bind_operate
  dsimp only [Operation.apply]
  rw [represents.table]
  cases router.table.getContactEntry received.target with
  | none => exact value represents _
  | some calleeEntry =>
      dsimp only
      by_cases sameTransport : calleeEntry.transport = received.transport
      swap
      · rw [if_pos sameTransport, if_pos sameTransport]
        exact value represents _
      rw [if_neg (not_not.mpr sameTransport),
        if_neg (not_not.mpr sameTransport)]
      apply bind_operate
      dsimp only [Operation.apply]
      by_cases known : received.callId ∈ router.registry
      · rw [CallRegistry.createCall, if_pos known,
          if_pos ((represents.mem_registry_iff _).mpr known)]
        exact value represents _
      · have fresh : received.callId ∉ shared.registry :=
          fun held => known ((represents.mem_registry_iff _).mp held)
        rw [CallRegistry.createCall, if_neg known, if_neg fresh]
        exact openCall config received received.sender received.target
          calleeEntry (represents.createCall fresh _)
          (Finmap.lookup_insert _)

theorem removeTerminated
    (represents : Represents shared router) (callId : CppString) :
    Matches (Worker.removeTerminated callId) shared
      (.ok ((), SIPRouter.removeTerminated router callId)) := by
  apply bind_operate
  dsimp only [Operation.apply]
  unfold SIPRouter.removeTerminated CallRegistry.findCall
  cases held : shared.registry.lookup callId with
  | none =>
      rw [represents.lookup_unknown held]
      exact value represents ()
  | some session =>
      have inHeap := represents.allocated callId session held
      rw [represents.lookup_held held, List.getElem?_eq_getElem inHeap]
      apply bind_operate
      dsimp only [Operation.apply]
      rw [List.getElem?_eq_getElem inHeap, Option.any_some]
      by_cases terminated : shared.heap[session].isTerminated = true
      · rw [if_pos terminated, if_pos terminated]
        refine ⟨_, rfl, ?_⟩
        exact (represents.removeCall callId).change rfl rfl rfl
          represents.table
          (congrArg (Finmap.erase callId) represents.contexts)
          represents.metrics
      · rw [if_neg terminated, if_neg terminated]
        exact value represents ()

theorem handleAck
    (config : RouterConfig) (represents : Represents shared router)
    (message : SIPMessage) :
    Matches (Worker.handleAck config message) shared
      (router.handleAck config message) := by
  unfold Worker.handleAck SIPRouter.handleAck SIPRouter.getCallContext
  apply bind_operate
  dsimp only [Operation.apply]
  rw [represents.contexts]
  cases router.callContexts.lookup (message.getHeader "Call-ID") with
  | none => exact value represents _
  | some context =>
      simp only [SIPRouter.extractSipIdentity_eq, ok_bind, Program.lift,
        Program.bind_pure, onRequest_eq]
      refine bind (noteEvent represents _ _) ?_
      intro after noted
      refine bind (removeTerminated noted _) ?_
      intro after removed
      exact value removed _

theorem handleBye
    (config : RouterConfig) (represents : Represents shared router)
    (message : SIPMessage) :
    Matches (Worker.handleBye config message) shared
      (router.handleBye config message) := by
  unfold Worker.handleBye SIPRouter.handleBye SIPRouter.getCallContext
  apply bind_operate
  dsimp only [Operation.apply]
  rw [represents.contexts]
  cases router.callContexts.lookup (message.getHeader "Call-ID") with
  | none => exact value represents _
  | some context =>
      simp only [SIPRouter.extractSipIdentity_eq, ok_bind, Program.lift,
        Program.bind_pure, onRequest_eq]
      refine bind (noteEvent represents _ _) ?_
      intro after noted
      exact value noted _

theorem onlyIf
    {condition : Prop} [Decidable condition] {piece : Worker.Handler Unit}
    (represents : Represents shared router)
    (met : Matches piece shared (.ok ((), next))) :
    Matches (Worker.onlyIf condition piece) shared
      (.ok ((), if condition then next else router)) := by
  unfold Worker.onlyIf
  split_ifs
  · exact met
  · exact value represents ()

theorem storeCalleeHeaders
    (represents : Represents shared router)
    (callId : CppString) (forwarded : SIPMessage) :
    Matches (.operate (.storeCalleeHeaders callId forwarded.headers)) shared
      (.ok ((), SIPRouter.storeCalleeHeaders router callId forwarded)) := by
  refine ⟨_, rfl, ?_⟩
  have contexts : ((Operation.storeCalleeHeaders callId
      forwarded.headers).apply shared).2.callContexts =
        (SIPRouter.storeCalleeHeaders router callId forwarded).callContexts := by
    simp only [Operation.apply, SIPRouter.storeCalleeHeaders,
      represents.contexts]
  exact represents.change rfl rfl rfl represents.table contexts
    represents.metrics

/-- Both orders of the three removals end in the same state. -/
theorem releaseCall
    (represents : Represents shared router) (callId : CppString) :
    Matches (Worker.releaseAfterBye callId) shared
        (.ok ((), SIPRouter.releaseCall router callId)) ∧
      Matches (Worker.releaseAfterBusy callId) shared
        (.ok ((), SIPRouter.releaseCall router callId)) := by
  have removed := represents.removeCall callId
  constructor
  · apply bind_operate
    apply bind_operate
    have erased : Represents
        { shared with
          registry := shared.registry.erase callId
          callContexts := shared.callContexts.erase callId }
        (router.dropCall callId) :=
      removed.change rfl rfl rfl represents.table
        (congrArg (Finmap.erase callId) represents.contexts)
        represents.metrics
    exact decActiveCalls erased
  · apply bind_operate
    refine bind (decActiveCalls removed) ?_
    intro after stepped
    refine ⟨_, rfl, ?_⟩
    exact stepped.change rfl rfl rfl stepped.table
      (congrArg (Finmap.erase callId) stepped.contexts) stepped.metrics

theorem applyResponse
    (represents : Represents shared router)
    (callId : CppString) (forwarded : SIPMessage) :
    Matches (Worker.applyResponse callId forwarded) shared
      (.ok ((), SIPRouter.applyResponse router callId forwarded)) := by
  unfold Worker.applyResponse SIPRouter.applyResponse
  rw [onResponse_eq]
  refine bind (noteEvent represents _ _) ?_
  intro after noted
  refine bind (onlyIf noted (storeCalleeHeaders noted _ _)) ?_
  intro after stored
  refine bind (onlyIf stored (decActiveCalls stored)) ?_
  intro after declined
  refine bind (onlyIf declined (releaseCall declined _).1) ?_
  intro after released
  exact onlyIf released (releaseCall released _).2

theorem handleResponse
    (config : RouterConfig) (represents : Represents shared router)
    (message : SIPMessage) :
    Matches (Worker.handleResponse config message) shared
      (.ok (router.handleResponse config message)) := by
  unfold Worker.handleResponse SIPRouter.handleResponse
    SIPRouter.getCallContext
  apply bind_operate
  dsimp only [Operation.apply]
  rw [represents.contexts]
  cases router.callContexts.lookup (message.getHeader "Call-ID") with
  | none => exact value represents _
  | some context =>
      refine bind (applyResponse represents _ _) ?_
      intro after applied
      exact value applied _

/-- Run alone, the program of a message does what `step` does. -/
theorem route
    (config : RouterConfig) (represents : Represents shared router)
    (received : Received) :
    Matches (Worker.route config received) shared
      (SIPRouter.step config router received) := by
  unfold Worker.route SIPRouter.step SIPRouter.route
  dsimp only
  split_ifs
  · exact handleResponse config represents received.message
  · exact handleRegister represents received.message received.transport
  · exact handleInvite config represents received
  · exact handleAck config represents received.message
  · exact handleBye config represents received.message
  · exact value represents _
  · exact value represents _

end Matches

end MinimalSip.Proxy

import MinimalSip.Calls.CallRelation
import MinimalSip.Proxy.CallEffects

/-!
# What the proxy does in the call

The proxy handles a text for a signal as the abstract relay does: its router
stores the session that the relay leaves, and the packet that it sends, if any,
arrives at the client to which the relay passes a signal.
-/

namespace MinimalSip.Calls

open MinimalSip.Lib.Cpp
open MinimalSip.Lib.Search
open MinimalSip.Common
open MinimalSip.Common.SIPMessage
open MinimalSip.Client
open MinimalSip.Proxy
open MinimalSip.Proxy.SIPProxy
open MinimalSip.Proxy.SIPRouter

variable {setup : Setup} {sender target : Party} {endpoint : Endpoint}
variable {router next : SIPRouter} {session : Option CallState}
variable {state : CallState} {context : CallContext} {sent : Option Sent}
variable {method text data : CppString} {status : Status} {call : CallMessage}

/-! ## Packets of the proxy -/

/-- The texts of the relay are what the packet puts on the links. -/
def Passes (setup : Setup) (relay : Relay) (sent : Option Sent) : Prop :=
  ∃ toCallee toCaller,
    List.Forall₂ (ToCallee.Text setup) relay.toCallee toCallee ∧
    List.Forall₂ (ToCaller.Text setup) relay.toCaller toCaller ∧
    ∀ system : System, setup.post system sent =
      { system with
        toCallee := system.toCallee ++ toCallee
        toCaller := system.toCaller ++ toCaller }

/-- A packet of the proxy on the transport of the call. -/
def sentTo (setup : Setup) (endpoint : Endpoint) (data : CppString) : Sent where
  data := data
  ip := endpoint.ip
  port := endpoint.port
  transport := setup.transport

theorem passes_nothing : Passes setup { session := session } none := by
  refine ⟨[], [], List.Forall₂.nil, List.Forall₂.nil, fun system => ?_⟩
  rw [List.append_nil, List.append_nil]
  rfl

theorem passes_toCaller
    {signal : ToCaller} (carried : ToCaller.Text setup signal data) :
    Passes setup { session := session, toCaller := [signal] }
      (some (sentTo setup setup.callerEnd data)) := by
  refine ⟨[], [data], List.Forall₂.nil,
    List.Forall₂.cons carried List.Forall₂.nil, fun system => ?_⟩
  rw [List.append_nil]
  exact (if_neg (not_not.mpr rfl)).trans (if_pos rfl)

theorem passes_toCallee
    {signal : ToCallee} (carried : ToCallee.Text setup signal data) :
    Passes setup { session := session, toCallee := [signal] }
      (some (sentTo setup setup.calleeEnd data)) := by
  refine ⟨[data], [], List.Forall₂.cons carried List.Forall₂.nil,
    List.Forall₂.nil, fun system => ?_⟩
  rw [List.append_nil]
  exact (if_neg (not_not.mpr rfl)).trans
    ((if_neg setup.apart.symm).trans (if_pos rfl))

/-- TCP is used for the call only if the proxy has it enabled. -/
theorem Setup.transport_eq (setup : Setup) :
    (if setup.config.tcpEnabled = true ∧ setup.transport = .tcp then
      TransportType.tcp else .udp) = setup.transport := by
  have enabled := setup.enabled
  cases transport : setup.transport with
  | tcp => exact if_pos ⟨enabled transport, rfl⟩
  | udp => exact if_neg (fun tcp => absurd tcp.2 (by decide))

theorem sent_of_response
    (delivered : (Except.ok (sendResponse setup.config router data endpoint.ip
      endpoint.port setup.transport) : Except StdException _) =
        .ok (sent, next)) :
    sent = some (sentTo setup endpoint data) := by
  have same := congrArg Prod.fst (Except.ok.inj delivered)
  have transport := congrArg (fun transport => some
    (⟨data, endpoint.ip, endpoint.port, transport⟩ : Sent))
      setup.transport_eq
  exact same.symm.trans transport

/-! ## The router's memory of the call -/

theorem RouterIs.congr
    (held : RouterIs setup session router)
    (table : next.table = router.table)
    (registry : next.registry = router.registry)
    (contexts : next.callContexts = router.callContexts) :
    RouterIs setup session next where
  entered := by
    rw [table]
    exact held.entered
  stored := by
    have stored := held.stored
    cases session with
    | none =>
        rw [Stored, registry, contexts]
        exact stored
    | some state =>
        rw [Stored, registry, contexts]
        exact stored

theorem RouterIs.dropped (held : RouterIs setup session router) :
    RouterIs setup none (router.dropCall setup.callId) where
  entered := held.entered
  stored := ⟨Finmap.lookup_erase _ _, Finmap.lookup_erase _ _⟩

/-- The session notes an event, and the context keeps routing the call. -/
theorem RouterIs.updated
    (held : RouterIs setup (some state) router)
    {note : CallSession → CallSession} {after : CallState}
    (noted : ∀ session, session.state = state → (note session).state = after)
    (keep : CallContext → CallContext)
    (kept : ∀ context, Routes setup context → Routes setup (keep context)) :
    RouterIs setup (some after) { router with
      registry := router.registry.modify setup.callId note
      callContexts := router.callContexts.modify setup.callId keep } where
  entered := held.entered
  stored := by
    obtain ⟨session, context, registered, same, stored, routes⟩ := held.stored
    refine ⟨note session, keep context, ?_, noted session same, ?_,
      kept context routes⟩
    · rw [TextMap.lookup_modify, if_pos rfl, registered]
      rfl
    · rw [TextMap.lookup_modify, if_pos rfl, stored]
      rfl

theorem RouterIs.opened
    (held : RouterIs setup none router) {received : Received}
    {entry : ContactEntry} {address : CppString × UInt16}
    (own : received.callId = setup.callId)
    (routes : Routes setup (openedContext received entry address)) :
    RouterIs setup (some .trying) (router.openCall received entry address) where
  entered := held.entered
  stored := by
    refine ⟨openedSession received, openedContext received entry address, ?_,
      rfl, ?_, routes⟩
    · rw [openCall, own]
      exact Finmap.lookup_insert _
    · rw [openCall, own]
      exact Finmap.lookup_insert _

theorem RouterIs.byed
    (held : RouterIs setup (some state) router) {received : Received}
    (own : received.callId = setup.callId)
    (bye : received.method = "BYE".toList) :
    RouterIs setup (noted state .bye) (router.noteRequest received) := by
  have notes : ∀ session : CallSession, session.state = state →
      (session.onRequest received.message).state =
        CallStateMachine.handleEvent state .bye := by
    rintro session rfl
    simp only [CallSession.onRequest, received.getMethod_eq, bye]
    rfl
  have updated := held.updated notes id (fun _ routes => routes)
  refine updated.congr rfl ?_ ?_
  · rw [noteRequest, own]
  · exact (TextMap.modify_self _ _).symm

theorem RouterIs.acked
    (held : RouterIs setup (some state) router) {received : Received}
    (own : received.callId = setup.callId)
    (ack : received.method = "ACK".toList) :
    RouterIs setup (if state = .terminated then none else some state)
      (removeTerminated (router.noteRequest received) received.callId) := by
  obtain ⟨session, context, registered, rfl, stored, routes⟩ := held.stored
  rw [noteRequest_ack ack, own]
  split_ifs with ended
  · rw [removeTerminated_of_terminated ⟨session, registered, ended⟩]
    exact held.dropped
  · have running : ¬ Terminated router setup.callId := by
      rintro ⟨other, found, terminated⟩
      rw [registered] at found
      cases found
      exact ended terminated
    rw [removeTerminated_of_not_terminated running]
    exact held

/-- Handling a parsed packet is routing and then delivering. -/
theorem handled_cases
    {result : RoutingResult} {middle : SIPRouter}
    (plain : call.Plain)
    (routed : SIPRouter.step setup.config.router (counted router)
      (received (setup.packet endpoint call.text) call.message) =
        .ok (result, middle))
    (handled : handlePacket setup.config router
      (setup.packet endpoint call.text) = .ok (sent, next)) :
    deliver setup.config (setup.packet endpoint call.text) result middle =
      .ok (sent, next) := by
  have parsed : SIPParser.parse (setup.packet endpoint call.text).data =
      .ok call.message := plain.letter.parse
  rw [handlePacket_eq parsed, routed, ok_bind] at handled
  exact handled

/-! ## Requests -/

/-- An ACK or BYE of a call that the proxy does not know is refused. -/
theorem proxy_refuses
    (held : RouterIs setup none router)
    (known : method = "ACK".toList ∨ method = "BYE".toList)
    (written : Written setup method sender target text)
    (handled : handlePacket setup.config router
      (setup.packet endpoint text) = .ok (sent, next)) :
    RouterIs setup none next ∧ ∃ data,
      sent = some (sentTo setup endpoint data) ∧ Refusing setup data := by
  obtain ⟨call, request, rfl⟩ := written
  have named : (received (setup.packet endpoint call.text)
      call.message).method = method := request.getMethod
  have unknown : (counted router).callContexts.lookup
      (received (setup.packet endpoint call.text) call.message).callId =
        none := by
    have callId : call.message.getHeader "Call-ID" = setup.callId :=
      getHeader_callId.trans request.callId
    rw [Received.callId, received, callId]
    exact held.stored.2
  have routed := @step_unknown setup.config.router _ _ (named.symm ▸ known)
    unknown
  have delivered := handled_cases request.plain routed handled
  obtain ⟨table, registry, contexts⟩ := deliver_state delivered
  have response : localResponse "SIP/2.0 400 Bad Request" call.message =
      (call.refused "SIP/2.0 400 Bad Request").message :=
    localResponse_eq request.plain request.sent _
  have arrives := @sent_of_response setup endpoint _ _ _ _ delivered
  refine ⟨held.congr table registry contexts, _, arrives, ?_⟩
  refine ⟨method, _, request.refused, ?_⟩
  exact congrArg SIPMessage.serialize response

/-- A request of the caller goes to the registered contact of the callee. -/
theorem inCall_toCallee
    {packet : RawPacket} (routes : Routes setup context)
    (delivered : deliver setup.config packet (inCallResult setup.config.router
      context setup.callerParty.identity call.message) router =
        .ok (sent, next)) :
    sent = some (sentTo setup setup.calleeEnd
      (call.forwarded setup.proxyVia).text) := by
  rw [inCallResult, if_pos routes.caller.symm] at delivered
  simp only [deliver, routes.calleeContact, setup.leads, ok_bind, pure_eq_ok,
    routes.calleeTransport] at delivered
  exact sent_of_response delivered

/-- A request of the callee goes to where the INVITE came from. -/
theorem inCall_toCaller
    {packet : RawPacket} (routes : Routes setup context)
    (delivered : deliver setup.config packet (inCallResult setup.config.router
      context setup.calleeParty.identity call.message) router =
        .ok (sent, next)) :
    sent = some (sentTo setup setup.callerEnd
      (call.forwarded setup.proxyVia).text) := by
  have other : setup.calleeParty.identity ≠ context.caller := by
    rw [routes.caller]
    exact setup.distinct.symm
  rw [inCallResult, if_neg other] at delivered
  simp only [deliver, routes.callerIp, routes.callerPort,
    routes.callerTransport] at delivered
  exact sent_of_response delivered

/-- The session after an ACK or a BYE of the held call. -/
def afterRequest (state : CallState) (method : CppString) :
    Option CallState :=
  if method = "BYE".toList then noted state .bye
  else if state = .terminated then none
  else some state

/-- An ACK or BYE of the held call is noted and goes to the other party. -/
theorem inCall_handled
    (held : RouterIs setup (some state) router)
    (request : IsRequest setup.dialog method sender target call)
    (known : method = "ACK".toList ∨ method = "BYE".toList)
    (handled : handlePacket setup.config router
      (setup.packet endpoint call.text) = .ok (sent, next)) :
    RouterIs setup (afterRequest state method) next ∧
    ∃ context middle, Routes setup context ∧
      deliver setup.config (setup.packet endpoint call.text) (inCallResult
        setup.config.router context sender.identity call.message) middle =
          .ok (sent, next) := by
  obtain ⟨session, context, -, -, stored, routes⟩ := held.stored
  have named : (received (setup.packet endpoint call.text)
      call.message).method = method := request.getMethod
  have own : (received (setup.packet endpoint call.text)
      call.message).callId = setup.callId :=
    getHeader_callId.trans request.callId
  have who : (received (setup.packet endpoint call.text)
      call.message).sender = sender.identity := request.getSender
  have found : (counted router).callContexts.lookup
      (received (setup.packet endpoint call.text) call.message).callId =
        some context := by
    rw [own]
    exact stored
  have heldCounted : RouterIs setup (some state) (counted router) :=
    held.congr rfl rfl rfl
  rw [← who]
  rcases known with rfl | rfl
  · have delivered := handled_cases request.plain
      (@step_ack_held setup.config.router _ _ _ named found) handled
    obtain ⟨table, registry, contexts⟩ := deliver_state delivered
    exact ⟨(heldCounted.acked own named).congr table registry contexts,
      context, _, routes, delivered⟩
  · have delivered := handled_cases request.plain
      (@step_bye_held setup.config.router _ _ _ named found) handled
    obtain ⟨table, registry, contexts⟩ := deliver_state delivered
    exact ⟨(heldCounted.byed own named).congr table registry contexts,
      context, _, routes, delivered⟩

theorem hasHeader_of_mem
    {message : SIPMessage} {name : CppString}
    (present : name ∈ message.headers.map SIPHeader.name) :
    message.hasHeader name = true := by
  obtain ⟨header, member, rfl⟩ := List.mem_map.mp present
  exact List.any_eq_true.mpr ⟨header, member, decide_eq_true rfl⟩

theorem hasRequiredInviteHeaders_of_sent
    (sent : call.vias ≠ []) : hasRequiredInviteHeaders call.message = true := by
  have echoed := fun name member =>
    hasHeader_of_mem (echoed_present sent name member)
  have size : "Content-Length".toList ∈
      call.message.headers.map SIPHeader.name := by
    unfold CallMessage.message CallMessage.headers CallMessage.tail
    simp [-String.reduceToList]
  simp only [SIPMessageFactory.echoedHeaders, List.forall_mem_cons] at echoed
  obtain ⟨via, sender, target, callId, cseq, -⟩ := echoed
  simp only [hasRequiredInviteHeaders, via, sender, target, callId, cseq,
    hasHeader_of_mem size, Bool.and_self]

theorem admissible_invite
    (held : RouterIs setup none router)
    (request : IsRequest setup.dialog "INVITE" setup.callerParty
      setup.calleeParty call) :
    Admissible (counted router) (received (setup.packet endpoint call.text)
      call.message) ⟨setup.contact, setup.transport⟩ := by
  have own : (received (setup.packet endpoint call.text)
      call.message).callId = setup.callId :=
    getHeader_callId.trans request.callId
  have sender : (received (setup.packet endpoint call.text)
      call.message).sender = setup.callerParty.identity := request.getSender
  have target : (received (setup.packet endpoint call.text)
      call.message).target = setup.calleeParty.identity := request.getTarget
  exact
    { method := request.getMethod
      headers := hasRequiredInviteHeaders_of_sent request.sent
      caller := sender ▸ identity_nonempty _ _
      callee := target ▸ identity_nonempty _ _
      distinct := by
        rw [sender, target]
        exact setup.distinct
      registered := by
        rw [target]
        exact held.entered
      sameTransport := rfl
      fresh := by
        rw [own]
        exact Finmap.lookup_eq_none.mp held.stored.1 }

/-- The INVITE of the call is accepted and goes to the callee. -/
theorem proxy_opens
    (held : RouterIs setup none router)
    (request : IsRequest setup.dialog "INVITE" setup.callerParty
      setup.calleeParty call)
    (handled : handlePacket setup.config router
      (setup.packet setup.callerEnd call.text) = .ok (sent, next)) :
    RouterIs setup (some .trying) next ∧
      sent = some (sentTo setup setup.calleeEnd
        (call.forwarded setup.proxyVia).text) := by
  have accepted := @admissible_invite _ setup.callerEnd _ _ held request
  obtain ⟨address, parsed⟩ := calleeAddress_of_dialable
    ((contactDestination_isOk_iff _).mp ⟨_, setup.leads⟩)
  have delivered := handled_cases request.plain
    (@step_opened setup.config.router _ _ _ _ accepted parsed) handled
  obtain ⟨table, registry, contexts⟩ := deliver_state delivered
  have own : (received (setup.packet setup.callerEnd call.text)
      call.message).callId = setup.callId :=
    getHeader_callId.trans request.callId
  have routes : Routes setup (openedContext
      (received (setup.packet setup.callerEnd call.text) call.message)
        ⟨setup.contact, setup.transport⟩ address) :=
    { caller := request.getSender
      callerIp := rfl
      callerPort := rfl
      callerTransport := rfl
      calleeContact := rfl
      calleeTransport := rfl
      stored := fun header member => standard_stored member }
  have heldCounted : RouterIs setup none (counted router) :=
    held.congr rfl rfl rfl
  have opened := heldCounted.opened own routes
  refine ⟨opened.congr table registry contexts, ?_⟩
  simp only [deliver, inviteResult, setup.leads, ok_bind, pure_eq_ok]
    at delivered
  exact sent_of_response delivered

/-! ## Responses -/

/-- The session after a response to a request of the held call. -/
def afterResponse (state : CallState) (status : Status)
    (method : CppString) : Option CallState :=
  match status with
  | .trying => noted state .trying100
  | .ringing => noted state .ringing180
  | .ok =>
      if method = "BYE".toList then none
      else if method = "INVITE".toList then noted state .ok200
      else some state
  | .decline => some state
  | .badRequest => some state

theorem releases_iff (response : IsResponse setup.dialog status method call) :
    Releases call.message ↔ status = .ok ∧ method = "BYE".toList := by
  have code := @getStatusCode_of_line _ call.message response.line
  have bye := response.cseq.contains_iff response.known
    (show "BYE".toList ∈ _ by decide)
  rw [Releases, code, getHeader_cseq, bye]
  cases status <;> simp [Status.code]

theorem onResponse_state
    (response : IsResponse setup.dialog status method call)
    (going : ¬ (status = .ok ∧ method = "BYE".toList))
    {session : CallSession} (same : session.state = state) :
    some (session.onResponse call.message).state =
      afterResponse state status method := by
  have code := @getStatusCode_of_line _ call.message response.line
  have invite := response.cseq.contains_iff response.known
    (show "INVITE".toList ∈ _ by decide)
  subst same
  have event : session.onResponse call.message =
      (if status.code = 100 then session.applyEvent .trying100
      else if status.code = 180 then session.applyEvent .ringing180
      else if status.code = 200 ∧ method = "INVITE".toList then
        session.applyEvent .ok200
      else session) := by
    simp only [CallSession.onResponse, code, getHeader_cseq, invite]
  rw [event]
  cases status with
  | trying => rfl
  | ringing => rfl
  | decline => rfl
  | badRequest => rfl
  | ok =>
      have notBye : ¬ method = "BYE".toList := fun bye => going ⟨rfl, bye⟩
      rw [afterResponse, if_neg notBye]
      by_cases opens : method = "INVITE".toList
      · rw [if_pos opens]
        subst opens
        rfl
      · have other : ¬ (Status.ok.code = 200 ∧ method = "INVITE".toList) :=
          fun both => opens both.2
        rw [if_neg opens, if_neg (by decide), if_neg (by decide),
          if_neg other]

/-- What the router remembers of the call when a response has passed. -/
theorem RouterIs.responded
    (held : RouterIs setup (some state) router)
    (response : IsResponse setup.dialog status method call) :
    RouterIs setup (afterResponse state status method)
      (applyResponse router setup.callId call.message) := by
  rw [applyResponse_eq]
  by_cases ends : status = .ok ∧ method = "BYE".toList
  · rw [if_pos ((releases_iff response).mpr ends)]
    obtain ⟨rfl, rfl⟩ := ends
    exact held.dropped.congr rfl rfl rfl
  rw [if_neg (mt (releases_iff response).mp ends)]
  have kept : ∀ context, Routes setup context → Routes setup
      (if call.message.getStatusCode = 200 ∧
          contains (call.message.getHeader "CSeq") "INVITE" = true then
        { context with
          calleeStoredHeaders :=
            context.calleeStoredHeaders.assignAll call.message.headers }
      else context) := by
    intro context routes
    split_ifs
    · exact { routes with }
    · exact routes
  have noted : RouterIs setup (afterResponse state status method)
      (router.noteResponse setup.callId call.message) := by
    obtain ⟨session, -, -, same, -⟩ := held.stored
    have after := onResponse_state response ends same
    rw [← after]
    refine held.updated (fun other equal => ?_) _ kept
    have other' := onResponse_state response ends equal
    exact Option.some.inj (other'.trans after.symm)
  split_ifs
  · exact noted.congr rfl rfl rfl
  · exact noted

theorem namesProxy_proxyVia : namesProxy setup.proxyVia = true := by
  have named : "proxy.local".toList <:+: " proxy.local:".toList := by decide
  exact contains_iff.mpr (named.trans
    ((List.suffix_append _ _).isInfix.trans (List.prefix_append _ _).isInfix))

/-- A response without a Via of the clients goes to the caller. -/
theorem responseResult_eq
    (routes : Routes setup context) (bare : call.vias = []) :
    responseResult setup.config.router context call.message =
      { action := .forwardResponse
        message := call.message
        ip := setup.callerEnd.ip
        port := setup.callerEnd.port
        user := context.caller } := by
  have via : call.message.getHeader "Via" = [] := by
    rw [getHeader_via, bare]
    rfl
  have token : ∀ port : CppString,
      contains [] (context.callerIp ++ ":".toList ++ port) = false := by
    intro port
    rw [Bool.eq_false_iff]
    intro inside
    have empty := List.infix_nil.mp (contains_iff.mp inside)
    simp at empty
  have other : responseFromCaller context [] = false := by
    rw [responseFromCaller, callerViaToken, token, Bool.and_false]
  simp only [responseResult, via, other, Bool.false_eq_true, if_false,
    false_and, addStoredHeaders_of_standard setup.config.router routes.stored,
    routes.callerIp, routes.callerPort]

/-- A response for an unknown call is dropped. -/
theorem proxy_drops
    (held : RouterIs setup none router)
    (answering : Answering setup status method text)
    (handled : handlePacket setup.config router
      (setup.packet endpoint text) = .ok (sent, next)) :
    RouterIs setup none next ∧ sent = none := by
  obtain ⟨call, response, -, rfl⟩ := answering
  have own : (received (setup.packet endpoint call.text)
      call.message).callId = setup.callId :=
    getHeader_callId.trans response.callId
  have unknown : (counted router).callContexts.lookup
      (received (setup.packet endpoint call.text) call.message).callId =
        none := by
    rw [own]
    exact held.stored.2
  have delivered := handled_cases response.plain
    (@step_response_unknown setup.config.router _ _
      (isResponse_of_line response.line) unknown) handled
  obtain ⟨table, registry, contexts⟩ := deliver_state delivered
  obtain ⟨nothing, -⟩ := Prod.mk.inj (Except.ok.inj delivered)
  exact ⟨held.congr table registry contexts, nothing.symm⟩

/-- A response in the held call is noted and returned to the caller. -/
theorem proxy_returns
    (held : RouterIs setup (some state) router)
    (answering : Answering setup status method text)
    (handled : handlePacket setup.config router
      (setup.packet endpoint text) = .ok (sent, next)) :
    RouterIs setup (afterResponse state status method) next ∧ ∃ data,
      sent = some (sentTo setup setup.callerEnd data) ∧
      Returned setup status method data := by
  obtain ⟨call, response, vias, rfl⟩ := answering
  obtain ⟨session, context, -, -, stored, routes⟩ := held.stored
  have own : (received (setup.packet endpoint call.text)
      call.message).callId = setup.callId :=
    getHeader_callId.trans response.callId
  have found : (counted router).callContexts.lookup
      (received (setup.packet endpoint call.text) call.message).callId =
        some context := by
    rw [own]
    exact stored
  have heldCounted : RouterIs setup (some state) (counted router) :=
    held.congr rfl rfl rfl
  have bare : IsResponse setup.dialog status method
      { call with vias := [] } := response.stripped (List.nil_subset _)
  have delivered := handled_cases response.plain
    (@step_response_held setup.config.router _ _ _
      (isResponse_of_line response.line) found) handled
  have stripped := stripProxyVia_eq vias (@namesProxy_proxyVia setup)
  rw [own] at delivered
  change deliver _ _ (responseResult _ _ (stripProxyVia call.message))
    (applyResponse _ _ (stripProxyVia call.message)) = _ at delivered
  rw [stripped, responseResult_eq routes rfl] at delivered
  obtain ⟨table, registry, contexts⟩ := deliver_state delivered
  exact ⟨(heldCounted.responded bare).congr table registry contexts, _,
    sent_of_response delivered, _, bare, rfl⟩

/-! ## The relay -/

/-- The proxy handles the caller's texts as the relay its signals. -/
theorem proxy_fromCaller
    {signal : FromCaller} (held : RouterIs setup session router)
    (carried : FromCaller.Text setup signal text)
    (inTurn : signal = .invite → session = none)
    (handled : handlePacket setup.config router
      (setup.packet setup.callerEnd text) = .ok (sent, next)) :
    RouterIs setup (relayCaller session signal).session next ∧
      Passes setup (relayCaller session signal) sent := by
  cases signal with
  | invite =>
      obtain rfl := inTurn rfl
      obtain ⟨call, request, rfl⟩ := carried
      obtain ⟨after, rfl⟩ := proxy_opens held request handled
      exact ⟨after, @passes_toCallee _ _ _ .invite ⟨call, request, rfl⟩⟩
  | ack =>
      cases session with
      | none =>
          obtain ⟨after, data, rfl, refusing⟩ :=
            proxy_refuses held (Or.inl rfl) carried handled
          exact ⟨after, @passes_toCaller _ _ _ .refusal refusing⟩
      | some state =>
          obtain ⟨call, request, rfl⟩ := carried
          obtain ⟨after, context, middle, routes, delivered⟩ :=
            inCall_handled held request (Or.inl rfl) handled
          obtain rfl := inCall_toCallee routes delivered
          have ended : afterRequest state "ACK" =
              if state = .terminated then none else some state :=
            if_neg (by decide)
          rw [ended] at after
          exact ⟨after, @passes_toCallee _ _ _ .ack ⟨call, request, rfl⟩⟩
  | bye =>
      cases session with
      | none =>
          obtain ⟨after, data, rfl, refusing⟩ :=
            proxy_refuses held (Or.inr rfl) carried handled
          exact ⟨after, @passes_toCaller _ _ _ .refusal refusing⟩
      | some state =>
          obtain ⟨call, request, rfl⟩ := carried
          obtain ⟨after, context, middle, routes, delivered⟩ :=
            inCall_handled held request (Or.inr rfl) handled
          obtain rfl := inCall_toCallee routes delivered
          exact ⟨after, @passes_toCallee _ _ _ .bye ⟨call, request, rfl⟩⟩
  | okBye =>
      cases session with
      | none =>
          obtain ⟨after, rfl⟩ := proxy_drops held carried handled
          exact ⟨after, passes_nothing⟩
      | some state =>
          obtain ⟨after, data, rfl, returned⟩ :=
            proxy_returns held carried handled
          exact ⟨after, @passes_toCaller _ _ _ .okBye returned⟩

/-- A response of the callee to the INVITE is passed on as it is. -/
theorem proxy_fromCallee_response
    {signal : FromCallee} (held : RouterIs setup session router)
    (answering : Answering setup status "INVITE" text)
    (returns : ∀ data, Returned setup status "INVITE" data →
      ToCaller.Text setup signal.passed data)
    (drops : relayCallee none signal = { session := none })
    (notes : ∀ state, relayCallee (some state) signal =
      { session := afterResponse state status "INVITE"
        toCaller := [signal.passed] })
    (handled : handlePacket setup.config router
      (setup.packet setup.calleeEnd text) = .ok (sent, next)) :
    RouterIs setup (relayCallee session signal).session next ∧
      Passes setup (relayCallee session signal) sent := by
  cases session with
  | none =>
      obtain ⟨after, rfl⟩ := proxy_drops held answering handled
      rw [drops]
      exact ⟨after, passes_nothing⟩
  | some state =>
      obtain ⟨after, data, rfl, returned⟩ :=
        proxy_returns held answering handled
      rw [notes]
      exact ⟨after, passes_toCaller (returns data returned)⟩

/-- The proxy handles the callee's texts as the relay its signals. -/
theorem proxy_fromCallee
    {signal : FromCallee} (held : RouterIs setup session router)
    (carried : FromCallee.Text setup signal text)
    (handled : handlePacket setup.config router
      (setup.packet setup.calleeEnd text) = .ok (sent, next)) :
    RouterIs setup (relayCallee session signal).session next ∧
      Passes setup (relayCallee session signal) sent := by
  cases signal with
  | trying =>
      exact proxy_fromCallee_response held carried (fun _ returned => returned)
        rfl (fun _ => rfl) handled
  | ringing =>
      exact proxy_fromCallee_response held carried (fun _ returned => returned)
        rfl (fun _ => rfl) handled
  | ok =>
      exact proxy_fromCallee_response held carried (fun _ returned => returned)
        rfl (fun _ => rfl) handled
  | decline =>
      exact proxy_fromCallee_response held carried (fun _ returned => returned)
        rfl (fun _ => rfl) handled
  | bye =>
      cases session with
      | none =>
          obtain ⟨after, data, rfl, refusing⟩ :=
            proxy_refuses held (Or.inr rfl) carried handled
          exact ⟨after, @passes_toCallee _ _ _ .refusal refusing⟩
      | some state =>
          obtain ⟨call, request, rfl⟩ := carried
          obtain ⟨after, context, middle, routes, delivered⟩ :=
            inCall_handled held request (Or.inr rfl) handled
          obtain rfl := inCall_toCaller routes delivered
          exact ⟨after, @passes_toCaller _ _ _ .bye ⟨call, request, rfl⟩⟩
  | okBye =>
      cases session with
      | none =>
          obtain ⟨after, rfl⟩ := proxy_drops held carried handled
          exact ⟨after, passes_nothing⟩
      | some state =>
          obtain ⟨after, data, rfl, returned⟩ :=
            proxy_returns held carried handled
          exact ⟨after, @passes_toCaller _ _ _ .okBye returned⟩

end MinimalSip.Calls

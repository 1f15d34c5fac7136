import MinimalSip.Proxy.CallBookkeeping

/-!
# Forwarding is transparent

A forwarded request is the received one with one Via in front.  A forwarded
response is the received one without the proxy's Via, and with headers added
that the party behind it has sent before in the same call.  The second half is
a statement about the run: the stored header maps hold what was received since
the INVITE that opened the call.
-/

namespace MinimalSip.Proxy.SIPRouter

open MinimalSip.Lib.Cpp
open MinimalSip.Lib.Machine
open MinimalSip.Common
open MinimalSip.Common.SIPMessage

variable {config : RouterConfig} {router next : SIPRouter}
variable {received : Received} {result : RoutingResult}

/-! ## The added headers -/

/-- A non-standard header of a name that the message lacks. -/
def isMissing (message : SIPMessage) (header : SIPHeader) : Bool :=
  !standardHeaders.contains header.name && !message.hasHeader header.name

theorem isMissing_iff {message : SIPMessage} {header : SIPHeader} :
    isMissing message header = true ↔
      header.name ∉ standardHeaders ∧
        ¬ message.hasHeader header.name = true := by
  rw [isMissing, Bool.and_eq_true, Bool.not_eq_true', Bool.not_eq_true',
    Bool.not_eq_true, List.contains_eq_mem, decide_eq_false_iff_not]

theorem hasHeader_addHeader
    (message : SIPMessage) (name value other : CppString) :
    (message.addHeader name value).hasHeader other =
      (message.hasHeader other || decide (name = other)) := by
  simp [hasHeader, addHeader]

theorem isMissing_addHeader
    {message : SIPMessage} {name value : CppString} {header : SIPHeader}
    (other : name ≠ header.name) :
    isMissing (message.addHeader name value) header =
      isMissing message header := by
  simp [isMissing, hasHeader_addHeader, other, -String.reduceToList]

/-- The loop adds exactly the stored headers that the message lacks. -/
theorem addStoredHeaders_eq
    {stored : List SIPHeader} {message : SIPMessage}
    (distinct : (stored.map SIPHeader.name).Nodup) :
    addStoredHeaders stored message =
      { message with
        headers := message.headers ++ stored.filter (isMissing message) } := by
  induction stored generalizing message with
  | nil => simp [addStoredHeaders]
  | cons header rest ih =>
      rw [List.map_cons, List.nodup_cons] at distinct
      have step : addStoredHeaders (header :: rest) message =
          addStoredHeaders rest
            (if isMissing message header = true then
              message.addHeader header.name header.value
            else message) := by
        simp only [isMissing_iff]
        rfl
      rw [step]
      split_ifs with missing
      · have others : rest.filter
            (isMissing (message.addHeader header.name header.value)) =
              rest.filter (isMissing message) := by
          apply List.filter_congr
          intro other member
          apply isMissing_addHeader
          intro same
          exact distinct.1 (List.mem_map.mpr ⟨other, member, same.symm⟩)
        rw [ih distinct.2, others, List.filter_cons_of_pos missing]
        simp [addHeader]
      · rw [ih distinct.2, List.filter_cons_of_neg missing]

theorem hasHeader_stripProxyVia
    {message : SIPMessage} {name : CppString}
    (present : message.hasHeader name = true) (other : name ≠ "Via".toList) :
    (stripProxyVia message).hasHeader name = true := by
  obtain ⟨header, member, named⟩ := List.any_eq_true.mp present
  have kept : ¬ isProxyVia header = true := by
    intro proxy
    rw [isProxyVia, Bool.and_eq_true, decide_eq_true_iff] at proxy
    exact other ((of_decide_eq_true named).symm.trans proxy.1)
  exact List.any_eq_true.mpr
    ⟨header, (List.mem_eraseP_of_neg kept).mpr member, named⟩

/-! ## What the current call has received -/

/-- Note one more message of the call; a forwarded INVITE starts it anew. -/
def noteCallMessage
    (callId : CppString) (received : List Received)
    (entry : Received × RoutingResult) : List Received :=
  if entry.1.callId = callId then
    if entry.1.method = "INVITE".toList ∧ entry.2.action = .forwardRequest
    then [entry.1]
    else received ++ [entry.1]
  else received

/-- The messages of a call since the latest forwarded INVITE. -/
def callMessages
    (callId : CppString) (history : List (Received × RoutingResult)) :
    List Received :=
  history.foldl (noteCallMessage callId) []

theorem callMessages_snoc
    (callId : CppString) (history : List (Received × RoutingResult))
    (entry : Received × RoutingResult) :
    callMessages callId (history ++ [entry]) =
      noteCallMessage callId (callMessages callId history) entry := by
  simp [callMessages, List.foldl_append]

/-- Only a forwarded INVITE of the call forgets messages. -/
theorem callMessages_subset
    {callId : CppString} (history : List (Received × RoutingResult))
    (other : ¬ (received.callId = callId ∧
      received.method = "INVITE".toList ∧
      result.action = .forwardRequest)) :
    callMessages callId history ⊆
      callMessages callId (history ++ [(received, result)]) := by
  intro earlier member
  rw [callMessages_snoc, noteCallMessage]
  split_ifs with own invited
  · exact absurd ⟨own, invited⟩ other
  · exact List.mem_append_left _ member
  · exact member

theorem mem_callMessages_self
    (history : List (Received × RoutingResult)) :
    received ∈
      callMessages received.callId (history ++ [(received, result)]) := by
  rw [callMessages_snoc, noteCallMessage, if_pos rfl]
  split_ifs <;> simp

/-- The header was received in the current call. -/
def HeardIn
    (callId : CppString) (history : List (Received × RoutingResult))
    (header : SIPHeader) : Prop :=
  ∃ earlier ∈ callMessages callId history,
    header ∈ earlier.message.headers

/-- Non-standard entries of the stored maps were received in their call. -/
def Sourced
    (history : List (Received × RoutingResult)) (router : SIPRouter) :
    Prop :=
  ∀ callId context, router.callContexts.lookup callId = some context →
    ∀ header, header ∈ context.callerStoredHeaders.entries ∨
        header ∈ context.calleeStoredHeaders.entries →
      header.name ∉ standardHeaders → HeardIn callId history header

theorem openedContext_sourced
    {entry : ContactEntry} {address : CppString × UInt16}
    {header : SIPHeader}
    (stored : header ∈
        (openedContext received entry address).callerStoredHeaders.entries ∨
      header ∈
        (openedContext received entry address).calleeStoredHeaders.entries)
    (special : header.name ∉ standardHeaders) :
    header ∈ received.message.headers := by
  rcases stored with caller | callee
  · rcases HeaderMap.mem_assignAll caller with old | new
    · cases old
    · exact new
  · have contact : header = ⟨"Contact", entry.contact⟩ := by
      rcases mem_assignFirst callee with old | new
      · cases old
      · exact new
    have standard : "Contact".toList ∈ standardHeaders := by decide
    rw [contact] at special
    exact absurd standard special

theorem Sourced.step
    {past : List (Received × RoutingResult)}
    (stepped : step config router received = .ok (result, next))
    (sourced : Sourced past router) :
    Sourced (past ++ [(received, result)]) next := by
  have outcome := outcome_of_step stepped
  intro callId context' held' header stored special
  by_cases invited : received.callId = callId ∧
      received.method = "INVITE".toList ∧ result.action = .forwardRequest
  · obtain ⟨rfl, method, forwarded⟩ := invited
    obtain ⟨entry, address, accepted, parsed, rfl, rfl⟩ :=
      outcome.invite_forwarded method forwarded
    rw [openCall, Finmap.lookup_insert, Option.some.injEq] at held'
    subst held'
    exact ⟨received, mem_callMessages_self past,
      openedContext_sourced stored special⟩
  have grows := callMessages_subset past invited
  have remembered : ∀ context,
      router.callContexts.lookup callId = some context →
      header ∈ context.callerStoredHeaders.entries ∨
        header ∈ context.calleeStoredHeaders.entries →
      HeardIn callId (past ++ [(received, result)]) header := by
    intro context held before
    obtain ⟨earlier, member, inEarlier⟩ :=
      sourced callId context held header before special
    exact ⟨earlier, grows member, inEarlier⟩
  cases outcome.change callId with
  | unchanged session context =>
      exact remembered context' (context ▸ held') stored
  | opened entry address own accepted parsed session context =>
      rw [step_opened accepted parsed] at stepped
      cases stepped
      exact absurd ⟨own, accepted.method, rfl⟩ invited
  | updated note keep own forwards learns session context =>
      rw [context, Option.map_eq_some_iff] at held'
      obtain ⟨before, held, rfl⟩ := held'
      subst own
      rcases stored with caller | callee
      · exact remembered before held (Or.inl caller)
      · rcases learns _ _ callee with known | learnt
        · exact remembered before held (Or.inr known)
        · exact ⟨received, mem_callMessages_self past, learnt⟩
  | removed own session context =>
      rw [context] at held'
      cases held'

/-! ## Forwarded requests and responses -/

/-- The request with the Via for its own next hop in front. -/
structure RelaysRequest
    (config : RouterConfig) (message : SIPMessage) (result : RoutingResult) :
    Prop where
  startLine : result.message.startLine = message.startLine
  body : result.message.body = message.body
  headers : result.message.headers =
    ⟨"Via", buildProxyVia result.calleeTransport
      (proxyPort config result.calleeTransport)⟩ :: message.headers

/-- The response without the proxy's Via and with headers from the call. -/
structure RelaysResponse
    (callId : CppString) (history : List (Received × RoutingResult))
    (message forwarded : SIPMessage) (added : List SIPHeader) : Prop where
  startLine : forwarded.startLine = message.startLine
  body : forwarded.body = message.body
  headers : forwarded.headers =
    message.headers.eraseP isProxyVia ++ added
  distinct : (added.map SIPHeader.name).Nodup
  special : ∀ header ∈ added, header.name ∉ standardHeaders
  absent : ∀ header ∈ added, message.hasHeader header.name = false
  heard : ∀ header ∈ added, HeardIn callId history header

theorem relaysRequest_inCallResult
    (context : CallContext) (sender : CppString) (message : SIPMessage) :
    RelaysRequest config message
      (inCallResult config context sender message) := by
  unfold inCallResult
  split_ifs
  · exact ⟨rfl, rfl, rfl⟩
  · exact ⟨rfl, rfl, rfl⟩

theorem Outcome.relaysRequest
    (outcome : Outcome config router received result next)
    (forwarded : result.action = .forwardRequest) :
    RelaysRequest config received.message result := by
  cases outcome with
  | replied _ here =>
      rw [forwarded] at here
      rcases here with other | other <;> cases other
  | registered => cases forwarded
  | invited => exact ⟨rfl, rfl, rfl⟩
  | acked context => exact relaysRequest_inCallResult context _ _
  | byed context => exact relaysRequest_inCallResult context _ _
  | responded =>
      rw [responseResult_action] at forwarded
      cases forwarded

/-- The message of a forwarded response, with the map that it draws on. -/
theorem responseResult_message
    (config : RouterConfig) (context : CallContext) (forwarded : SIPMessage) :
    ∃ stored, (stored = context.callerStoredHeaders ∨
        stored = context.calleeStoredHeaders) ∧
      (responseResult config context forwarded).message =
        addStoredHeaders (config.iterate stored) forwarded := by
  unfold responseResult
  dsimp only
  by_cases fromCaller : responseFromCaller context
      (forwarded.getHeader "Via") = true
  · refine ⟨context.calleeStoredHeaders, Or.inr rfl, ?_⟩
    rw [if_pos fromCaller]
    split_ifs <;> rfl
  · refine ⟨context.callerStoredHeaders, Or.inl rfl, ?_⟩
    rw [if_neg fromCaller, if_neg (not_and_of_not_left _ fromCaller)]

theorem names_iterate (config : RouterConfig) (stored : HeaderMap) :
    ((config.iterate stored).map SIPHeader.name).Nodup :=
  ((config.iterate_perm stored).map SIPHeader.name).nodup_iff.mpr
    stored.distinct

theorem relaysResponse_of_held
    {history : List (Received × RoutingResult)} {context : CallContext}
    (sourced : Sourced history router)
    (held : router.callContexts.lookup received.callId = some context) :
    ∃ added, RelaysResponse received.callId history received.message
      (responseResult config context (stripProxyVia received.message)).message
      added := by
  obtain ⟨stored, origin, message⟩ := responseResult_message config context
    (stripProxyVia received.message)
  have names := names_iterate config stored
  rw [message, addStoredHeaders_eq names]
  refine ⟨(config.iterate stored).filter
    (isMissing (stripProxyVia received.message)), ?_⟩
  have missing : ∀ header ∈ (config.iterate stored).filter
      (isMissing (stripProxyVia received.message)),
      header ∈ stored.entries ∧ header.name ∉ standardHeaders ∧
        ¬ (stripProxyVia received.message).hasHeader header.name = true := by
    intro header member
    obtain ⟨iterated, lacking⟩ := List.mem_filter.mp member
    exact ⟨(config.iterate_perm stored).mem_iff.mp iterated,
      isMissing_iff.mp lacking⟩
  constructor
  case startLine => rfl
  case body => rfl
  case headers => rfl
  case distinct =>
    exact names.sublist (List.filter_sublist.map SIPHeader.name)
  case special =>
    intro header member
    exact (missing header member).2.1
  case absent =>
    intro header member
    obtain ⟨-, special, lacking⟩ := missing header member
    rw [← Bool.not_eq_true]
    intro present
    have notVia : header.name ≠ "Via".toList := by
      intro via
      have standard : "Via".toList ∈ standardHeaders := by decide
      exact special (via ▸ standard)
    exact lacking (hasHeader_stripProxyVia present notVia)
  case heard =>
    intro header member
    obtain ⟨inStored, special, -⟩ := missing header member
    apply sourced received.callId context held header _ special
    rcases origin with rfl | rfl
    · exact Or.inl inStored
    · exact Or.inr inStored

theorem Outcome.response_held
    (outcome : Outcome config router received result next)
    (forwarded : result.action = .forwardResponse) :
    ∃ context, router.callContexts.lookup received.callId = some context ∧
      result =
        responseResult config context (stripProxyVia received.message) := by
  cases outcome with
  | replied _ here =>
      rw [forwarded] at here
      rcases here with other | other <;> cases other
  | registered => cases forwarded
  | invited => cases forwarded
  | acked context =>
      unfold inCallResult at forwarded
      split_ifs at forwarded
  | byed context =>
      unfold inCallResult at forwarded
      split_ifs at forwarded
  | responded context response held => exact ⟨context, held, rfl⟩

/--
Forwarding is transparent.  After any run, a forwarded request is the received
one behind one Via that names the transport and port of its next hop; a
forwarded response is the received one without the first Via that mentions the
proxy, followed by non-standard headers that it lacks, each received before in
the same call.
-/
theorem forwarding_transparent
    {inputs : List Received} {history : List (Received × RoutingResult)}
    (ran : run (step config) initial inputs = .ok (history, router))
    (stepped : step config router received = .ok (result, next)) :
    (result.action = .forwardRequest →
      RelaysRequest config received.message result) ∧
    (result.action = .forwardResponse →
      ∃ added, RelaysResponse received.callId history received.message
        result.message added) := by
  have outcome := outcome_of_step stepped
  constructor
  · intro forwarded
    exact outcome.relaysRequest forwarded
  · intro forwarded
    have empty : Sourced [] SIPRouter.initial := by
      intro callId context held
      cases held
    have sourced : Sourced ([] ++ history) router :=
      run_history_invariant (fun stepped => Sourced.step stepped) ran empty
    obtain ⟨context, held, rfl⟩ := outcome.response_held forwarded
    exact relaysResponse_of_held sourced held

/-- Bob accepts with a header of his own. -/
def acceptingServer : Received :=
  { accepting with
    message := accepting.message.addHeader "Server" "phone" }

theorem forwarding_transparent_server :
    ∃ history router result next added,
      run (step plainConfig) initial
        [registerBob, inviteBob, acceptingServer] = .ok (history, router) ∧
      step plainConfig router accepting = .ok (result, next) ∧
      RelaysResponse accepting.callId history accepting.message
        result.message added ∧
      ⟨"Server", "phone"⟩ ∈ result.message.headers := by
  have tested : succeedsWith
      (run (step plainConfig) initial
        [registerBob, inviteBob, acceptingServer])
      (fun value => succeedsWith (step plainConfig value.2 accepting)
        (fun value => decide (value.1.action = .forwardResponse ∧
          ⟨"Server", "phone"⟩ ∈ value.1.message.headers))) = true := by
    decide
  obtain ⟨⟨history, router⟩, ran, answered⟩ := exists_of_succeedsWith tested
  obtain ⟨⟨result, next⟩, stepped, both⟩ := exists_of_succeedsWith answered
  have both := of_decide_eq_true both
  obtain ⟨added, relays⟩ := (forwarding_transparent ran stepped).2 both.1
  exact ⟨history, router, result, next, added, ran, stepped, relays, both.2⟩

end MinimalSip.Proxy.SIPRouter

import MinimalSip.Proxy.CallBookkeeping

/-!
# The way back of responses

Requests are directed by the identity in From, responses by the Via that is
on top once the proxy's own Via is gone.  That Via names the party which sent
the request; `handle_response` takes it for the party which sent the response.
`response_returns_iff` says when a response nevertheless reaches the sender of
its request.
-/

namespace MinimalSip.Proxy.SIPRouter

open MinimalSip.Lib.Cpp
open MinimalSip.Lib.Search
open MinimalSip.Lib.Machine
open MinimalSip.Common
open MinimalSip.Common.SIPMessage

/-! ## Via lists -/

theorem getHeaders_prependHeader
    (message : SIPMessage) (name value : CppString) :
    (message.prependHeader name value).getHeaders name =
      value :: message.getHeaders name := by
  simp [getHeaders, prependHeader]

/-- Stripping removes the first Via value that names the proxy. -/
theorem getHeaders_stripProxyVia (message : SIPMessage) :
    (stripProxyVia message).getHeaders "Via" =
      (message.getHeaders "Via").eraseP namesProxy := by
  obtain ⟨startLine, headers, body⟩ := message
  generalize viaName : "Via".toList = via
  have proxyVia : ∀ header, isProxyVia header =
      (decide (header.name = via) && namesProxy header.value) :=
    fun header => viaName ▸ rfl
  simp only [stripProxyVia, getHeaders]
  induction headers with
  | nil => rfl
  | cons header rest ih =>
      by_cases named : header.name = via
      · cases proxy : namesProxy header.value <;>
          simp [proxyVia, named, proxy, ih]
      · simp [proxyVia, named, ih]

theorem namesProxy_buildProxyVia
    (transport : TransportType) (port : UInt16) :
    namesProxy (buildProxyVia transport port) = true := by
  rw [namesProxy, contains_iff]
  cases transport with
  | udp =>
      exact ⟨"SIP/2.0/UDP ".toList, ':' :: stdToString port.toNat, rfl⟩
  | tcp =>
      exact ⟨"SIP/2.0/TCP ".toList, ':' :: stdToString port.toNat, rfl⟩

/-! ## Requests and their responses -/

/-- The two parties of a call. -/
inductive Party where
  | caller
  | callee
deriving DecidableEq

namespace Party

def identity (context : CallContext) : Party → CppString
  | .caller => context.caller
  | .callee => context.callee

def address (context : CallContext) : Party → CppString × UInt16
  | .caller => (context.callerIp, context.callerPort)
  | .callee => (context.calleeIp, context.calleePort)

/-- The address as it is written in a Via. -/
def viaToken (context : CallContext) (party : Party) : CppString :=
  (party.address context).1 ++ ":".toList ++
    stdToString (party.address context).2.toNat

end Party

/--
A request that `party` sent and `route` forwarded, and a response to it that
arrives while the call is still held.  The response carries back some or all
of the Vias of the forwarded request, at least the first.
-/
structure Exchange
    (config : RouterConfig) (party : Party) (context : CallContext)
    (request response : Received) (router : SIPRouter) : Prop where
  forwarded : ∃ earlier later requestResult inputs history,
    Reachable (step config) initial earlier ∧
    step config earlier request = .ok (requestResult, later) ∧
    requestResult.action = .forwardRequest ∧
    later.callContexts.lookup request.callId = some context ∧
    run (step config) later inputs = .ok (history, router) ∧
    Throughout (step config)
      (fun state => request.callId ∈ state.registry) later inputs ∧
    response.message.getHeaders "Via" <+:
      requestResult.message.getHeaders "Via"
  sender : request.sender = party.identity context
  via : contains (request.message.getHeader "Via")
    (party.viaToken context) = true
  isResponse : response.message.isResponse = true
  sameCall : response.callId = request.callId
  nonempty : response.message.getHeaders "Via" ≠ []

/-- When a response reaches the sender of its request. -/
def Returns (party : Party) (context : CallContext)
    (request response : Received) : Prop :=
  Party.caller.address context = Party.callee.address context ∨
    match party with
    | .caller =>
        (response.message.getHeaders "Via").length = 1 ∨
          context.callerIp = [] ∨ context.calleeIp = []
    | .callee =>
        (response.message.getHeaders "Via").length ≠ 1 ∧
          context.callerIp ≠ [] ∧ context.calleeIp ≠ [] ∧
          contains (request.message.getHeader "Via")
            (Party.caller.viaToken context) = true

variable {config : RouterConfig} {router next : SIPRouter}
variable {received request response : Received} {result : RoutingResult}
variable {party : Party} {context : CallContext}

/-- A forwarded request carries the proxy's Via on top of its own. -/
theorem Outcome.forwarded_vias
    (outcome : Outcome config router received result next)
    (forwarded : result.action = .forwardRequest) :
    ∃ proxyVia, namesProxy proxyVia = true ∧
      result.message.getHeaders "Via" =
        proxyVia :: received.message.getHeaders "Via" := by
  have withVia : ∀ transport,
      ∃ proxyVia, namesProxy proxyVia = true ∧
        (withProxyVia config transport received.message).getHeaders "Via" =
          proxyVia :: received.message.getHeaders "Via" :=
    fun transport => ⟨_, namesProxy_buildProxyVia transport _,
      getHeaders_prependHeader _ _ _⟩
  have inCall : ∀ context, ∃ proxyVia, namesProxy proxyVia = true ∧
      (inCallResult config context received.sender
        received.message).message.getHeaders "Via" =
          proxyVia :: received.message.getHeaders "Via" := by
    intro context
    unfold inCallResult
    split_ifs
    · exact withVia _
    · exact withVia _
  cases outcome with
  | replied _ here =>
      rw [forwarded] at here
      rcases here with other | other <;> cases other
  | registered => cases forwarded
  | invited entry => exact withVia entry.transport
  | acked context => exact inCall context
  | byed context => exact inCall context
  | responded context =>
      rw [responseResult_action] at forwarded
      cases forwarded

/-- The Via that decides is the one of the request, or none. -/
theorem Exchange.topVia
    (exchange : Exchange config party context request response router) :
    (stripProxyVia response.message).getHeader "Via" =
      if (response.message.getHeaders "Via").length = 1 then []
      else request.message.getHeader "Via" := by
  obtain ⟨earlier, later, requestResult, -, -, -, stepped, action, -, -, -,
    echoed⟩ := exchange.forwarded
  obtain ⟨proxyVia, proxy, vias⟩ :=
    (outcome_of_step stepped).forwarded_vias action
  rw [getHeader_eq_headD, getHeader_eq_headD, getHeaders_stripProxyVia]
  rw [vias] at echoed
  cases values : response.message.getHeaders "Via" with
  | nil => exact absurd values exchange.nonempty
  | cons first others =>
      rw [values] at echoed
      obtain ⟨rfl, rest⟩ := List.cons_prefix_cons.mp echoed
      rw [List.eraseP_cons_of_pos proxy]
      cases others with
      | nil => rfl
      | cons second more =>
          obtain ⟨tail, split⟩ := rest
          rw [← split]
          simp

/-- The context is still there, up to the callee's stored headers. -/
theorem Exchange.held
    (exchange : Exchange config party context request response router) :
    ∃ headers, router.callContexts.lookup response.callId =
      some { context with calleeStoredHeaders := headers } := by
  obtain ⟨earlier, later, requestResult, inputs, history, -, -, -, held, ran,
    throughout, -⟩ := exchange.forwarded
  rw [exchange.sameCall]
  exact (continues_of_throughout ran throughout).context context held

/-- Whether `handle_response` sends a response to the callee. -/
def GoesToCallee (context : CallContext) (topVia : CppString) : Prop :=
  context.callerIp ≠ [] ∧ context.calleeIp ≠ [] ∧
    contains topVia (Party.caller.viaToken context) = true

instance (context : CallContext) (topVia : CppString) :
    Decidable (GoesToCallee context topVia) :=
  inferInstanceAs (Decidable (_ ∧ _))

/-- The address that `handle_response` picks. -/
theorem responseResult_address
    (config : RouterConfig) (context : CallContext) (headers : HeaderMap)
    (forwarded : SIPMessage) (result : RoutingResult)
    (computed : responseResult config
      { context with calleeStoredHeaders := headers } forwarded = result) :
    (result.ip, result.port) =
      if GoesToCallee context (forwarded.getHeader "Via")
      then Party.callee.address context
      else Party.caller.address context := by
  subst computed
  have decides : (responseFromCaller
      { context with calleeStoredHeaders := headers }
        (forwarded.getHeader "Via") = true ∧ context.calleeIp ≠ []) ↔
      GoesToCallee context (forwarded.getHeader "Via") := by
    rw [responseFromCaller, Bool.and_eq_true, decide_eq_true_eq,
      and_right_comm, and_assoc]
    rfl
  unfold responseResult
  simp only [decides]
  split_ifs <;> rfl

/-- An empty Via names nobody. -/
theorem not_goesToCallee_nil (context : CallContext) :
    ¬ GoesToCallee context [] := by
  rintro ⟨-, -, named⟩
  rw [contains_iff, List.infix_nil] at named
  simp [Party.viaToken] at named

/-- The picked address is the sender's exactly in the listed cases. -/
theorem address_eq_iff_returns
    (via : contains (request.message.getHeader "Via")
      (party.viaToken context) = true) :
    (if GoesToCallee context
        (if (response.message.getHeaders "Via").length = 1 then []
          else request.message.getHeader "Via")
      then Party.callee.address context
      else Party.caller.address context) = party.address context ↔
      Returns party context request response := by
  unfold Returns
  by_cases single : (response.message.getHeaders "Via").length = 1
  · rw [if_pos single, if_neg (not_goesToCallee_nil context)]
    cases party with
    | caller => exact ⟨fun _ => Or.inr (Or.inl single), fun _ => rfl⟩
    | callee =>
        exact ⟨Or.inl, fun returns =>
          returns.elim id (fun crossed => absurd single crossed.1)⟩
  · rw [if_neg single]
    cases party with
    | caller =>
        split_ifs with crossed
        · constructor
          · exact fun same => Or.inl same.symm
          · rintro (same | echoed | missing | missing)
            · exact same.symm
            · exact absurd echoed single
            · exact absurd missing crossed.1
            · exact absurd missing crossed.2.1
        · refine ⟨fun _ => Or.inr (Or.inr ?_), fun _ => rfl⟩
          by_contra present
          rw [not_or] at present
          exact crossed ⟨present.1, present.2, via⟩
    | callee =>
        split_ifs with crossed
        · exact ⟨fun _ => Or.inr
            ⟨single, crossed.1, crossed.2.1, crossed.2.2⟩, fun _ => rfl⟩
        · exact ⟨Or.inl, fun returns => returns.elim id (fun callee =>
            absurd ⟨callee.2.1, callee.2.2.1, callee.2.2.2⟩ crossed)⟩

/--
The way back.  A response is forwarded to the sender of its request if and
only if both parties share one address, or the caller sent the request and
the caller's Via was not echoed or an address is missing, or the callee sent
it, its Via was echoed and happens to name the caller's address too.
-/
theorem response_returns_iff
    (exchange : Exchange config party context request response router) :
    (∃ result next, step config router response = .ok (result, next) ∧
      result.action = .forwardResponse ∧
      (result.ip, result.port) = party.address context) ↔
      Returns party context request response := by
  obtain ⟨headers, held⟩ := exchange.held
  have address := responseResult_address config context headers
    (stripProxyVia response.message) _ rfl
  rw [exchange.topVia] at address
  rw [← address_eq_iff_returns exchange.via,
    step_response_held exchange.isResponse held]
  constructor
  · rintro ⟨result, next, stepped, -, reached⟩
    cases stepped
    exact address.symm.trans reached
  · intro reached
    exact ⟨_, _, rfl, responseResult_action _ _ _, address.trans reached⟩

/-! Alice's INVITE, answered by bob with all Vias echoed. -/

def aliceContext : CallContext :=
  openedContext inviteBob ⟨"<sip:bob@10.0.0.2:5080>", .udp⟩
    ("10.0.0.2", 5080)

theorem alice_exchange :
    ∃ router,
      Exchange plainConfig .caller aliceContext inviteBob accepting router ∧
      succeedsWith (step plainConfig router accepting) (fun answer =>
        (answer.1.ip, answer.1.port) = Party.callee.address aliceContext) =
        true := by
  have tested : succeedsWith (run (step plainConfig) initial [registerBob])
      (fun earlier =>
        succeedsWith (step plainConfig earlier.2 inviteBob) (fun later =>
          decide (later.1.action = .forwardRequest ∧
            later.2.callContexts.lookup aliceCall = some aliceContext ∧
            (later.2.registry.lookup aliceCall).isSome = true ∧
            accepting.message.getHeaders "Via" <+:
              later.1.message.getHeaders "Via") &&
          succeedsWith (step plainConfig later.2 accepting) (fun answer =>
            (answer.1.ip, answer.1.port) =
              Party.callee.address aliceContext))) = true := by
    decide
  obtain ⟨⟨past, earlier⟩, ran, requested⟩ := exists_of_succeedsWith tested
  obtain ⟨⟨requestResult, later⟩, stepped, checked⟩ :=
    exists_of_succeedsWith requested
  rw [Bool.and_eq_true, decide_eq_true_eq] at checked
  obtain ⟨⟨forwarded, held, live, echoed⟩, answered⟩ := checked
  exact ⟨later,
    { forwarded := ⟨earlier, later, requestResult, [], [], ⟨_, _, ran⟩,
        stepped, forwarded, held, rfl, Finmap.lookup_isSome.mp live, echoed⟩
      sender := by decide
      via := by decide
      isResponse := by decide
      sameCall := by decide
      nonempty := by decide }, answered⟩

theorem response_returns_iff_alice :
    ∃ router,
      Exchange plainConfig .caller aliceContext inviteBob accepting router ∧
      ((∃ result next,
          step plainConfig router accepting = .ok (result, next) ∧
          result.action = .forwardResponse ∧
          (result.ip, result.port) = Party.caller.address aliceContext) ↔
        Returns .caller aliceContext inviteBob accepting) := by
  obtain ⟨router, exchange, -⟩ := alice_exchange
  exact ⟨router, exchange, response_returns_iff exchange⟩

/-- Bob's answer to alice's INVITE is sent back to bob. -/
theorem response_misrouted :
    ∃ router,
      Exchange plainConfig .caller aliceContext inviteBob accepting router ∧
      ¬ ∃ result next,
        step plainConfig router accepting = .ok (result, next) ∧
        result.action = .forwardResponse ∧
        (result.ip, result.port) = Party.caller.address aliceContext := by
  obtain ⟨router, exchange, answered⟩ := alice_exchange
  refine ⟨router, exchange, ?_⟩
  obtain ⟨⟨result, next⟩, stepped, toCallee⟩ :=
    exists_of_succeedsWith answered
  rintro ⟨result', next', stepped', -, toCaller⟩
  rw [stepped] at stepped'
  cases stepped'
  have differs : Party.callee.address aliceContext ≠
      Party.caller.address aliceContext := by decide
  exact differs ((of_decide_eq_true toCallee).symm.trans toCaller)

end MinimalSip.Proxy.SIPRouter

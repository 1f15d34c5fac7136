import MinimalSip.Proxy.CallBookkeeping

/-!
# Messages that are turned away

A local answer other than a 200, or none at all, means that the step has not
touched the state: every check of every handler comes before the first write.

No check asks whether an in-call request comes from one of the two parties.
The handlers compare the sender with the caller and take everyone else for the
callee, so an ACK or a BYE of a stranger is forwarded to the caller like one of
the callee, and acts on the session like it.
-/

namespace MinimalSip.Proxy.SIPRouter

open MinimalSip.Lib.Cpp
open MinimalSip.Lib.Machine
open MinimalSip.Common
open MinimalSip.Common.SIPMessage

variable {config : RouterConfig} {router next : SIPRouter}
variable {received : Received} {result : RoutingResult}

/-! ## Rejections -/

/-- Ignored, or answered locally with another status than 200. -/
def Rejects (result : RoutingResult) : Prop :=
  result.action = .ignore ∨
    (result.action = .respondLocally ∧
      result.response.getStatusCode ≠ 200)

theorem not_rejects_of_registered (request : SIPMessage) :
    ¬ Rejects
      { action := .respondLocally
        response := RegisterHandler.makeResponse "SIP/2.0 200 OK" request } := by
  have okay : getStatusCode { startLine := "SIP/2.0 200 OK".toList } = 200 := by
    decide
  rintro (ignored | ⟨-, other⟩)
  · cases ignored
  · apply other
    rw [RegisterHandler.makeResponse, localResponse_getStatusCode, okay]

theorem getStatusCode_inviteRefusals :
    ∀ status ∈ inviteRefusals,
      getStatusCode { startLine := status } ≠ 200 := by
  decide

theorem rejects_inviteRefusal
    {status : CppString} (refusal : status ∈ inviteRefusals)
    (request : SIPMessage) (user : CppString) :
    Rejects (respondLocally status request user) := by
  refine Or.inr ⟨rfl, ?_⟩
  show (localResponse status request).getStatusCode ≠ 200
  rw [localResponse_getStatusCode]
  exact getStatusCode_inviteRefusals status refusal

/-- A step that rejects its message leaves the router as it is. -/
theorem Outcome.unchanged_of_rejects
    (outcome : Outcome config router received result next)
    (rejects : Rejects result) : next = router := by
  cases outcome with
  | replied => rfl
  | registered accepted =>
      exact absurd rejects (not_rejects_of_registered received.message)
  | invited =>
      rcases rejects with other | ⟨other, -⟩ <;> cases other
  | acked context =>
      unfold inCallResult at rejects
      split_ifs at rejects <;>
        rcases rejects with other | ⟨other, -⟩ <;> cases other
  | byed context =>
      unfold inCallResult at rejects
      split_ifs at rejects <;>
        rcases rejects with other | ⟨other, -⟩ <;> cases other
  | responded context =>
      rcases rejects with other | ⟨other, -⟩ <;>
        rw [responseResult_action] at other <;> cases other

/-- An INVITE with a Call-ID in use is rejected. -/
theorem step_duplicate
    (config : RouterConfig)
    (method : received.method = "INVITE".toList)
    (live : received.callId ∈ router.registry) :
    ∃ result, step config router received = .ok (result, router) ∧
      Rejects result := by
  rcases @step_invite config router received method with
    ⟨entry, accepted⟩ | ⟨status, refusal, user, refused⟩
  · exact absurd live accepted.fresh
  · exact ⟨_, refused router (Agree.refl _ _),
      rejects_inviteRefusal refusal received.message user⟩

/--
Rejection is atomic.  A step that ignores its message or answers it locally
with anything but a 200 leaves the whole router as it is.  A second INVITE of
a live call is always rejected so.
-/
theorem rejection_atomic
    (config : RouterConfig) (router : SIPRouter) (received : Received) :
    (∀ result next, step config router received = .ok (result, next) →
      Rejects result → next = router) ∧
    (received.method = "INVITE".toList → received.callId ∈ router.registry →
      ∃ result, step config router received = .ok (result, router) ∧
        Rejects result) := by
  constructor
  · intro result next stepped rejects
    exact (outcome_of_step stepped).unchanged_of_rejects rejects
  · intro method live
    exact step_duplicate config method live

/-! ## Strangers -/

/-- The message is in the call of neither party that the context records. -/
structure Stranger (context : CallContext) (received : Received) : Prop where
  notCaller : received.sender ≠ context.caller
  notCallee : received.sender ≠ context.callee

/-- The step changes neither the call of its message nor a gauge. -/
structure LeavesCall
    (router : SIPRouter) (received : Received) (next : SIPRouter) :
    Prop where
  session : next.registry.lookup received.callId =
    router.registry.lookup received.callId
  context : next.callContexts.lookup received.callId =
    router.callContexts.lookup received.callId
  activeCalls : next.metrics.activeCalls = router.metrics.activeCalls
  registeredUsers :
    next.metrics.registeredUsers = router.metrics.registeredUsers

/-- The message is not forwarded and has no effect on its call. -/
def KeptOut
    (config : RouterConfig) (router : SIPRouter) (received : Received) :
    Prop :=
  ∃ result next, step config router received = .ok (result, next) ∧
    result.action ≠ .forwardRequest ∧ LeavesCall router received next

/-- The session state that the request of a stranger moves. -/
def Moves (received : Received) (session : CallSession) : Prop :=
  (received.method = "BYE".toList ∧ session.state = .established) ∨
    (received.method = "ACK".toList ∧ session.state = .terminated)

/-- Whoever is not the caller is sent on to the caller. -/
theorem inCallResult_of_notCaller
    {context : CallContext} {sender : CppString}
    (notCaller : sender ≠ context.caller) (message : SIPMessage) :
    inCallResult config context sender message =
      { action := .forwardRequest
        message := withProxyVia config context.callerTransport message
        ip := context.callerIp
        port := context.callerPort
        user := context.caller
        calleeTransport := context.callerTransport } :=
  if_neg notCaller

/-- A BYE moves a session from ESTABLISHED only. -/
theorem onRequest_bye_eq_self_iff
    (session : CallSession) (method : received.method = "BYE".toList) :
    session.onRequest received.message = session ↔
      session.state ≠ .established := by
  have noted : session.onRequest received.message =
      session.applyEvent .bye := by
    simp only [CallSession.onRequest, received.getMethod_eq, method]
    rfl
  have moves : ∀ state : CallState,
      CallStateMachine.handleEvent state .bye = state ↔
        state ≠ .established := by
    intro state
    cases state <;> decide
  rw [noted, ← moves session.state]
  constructor
  · intro same
    exact congrArg CallSession.state same
  · intro same
    rw [CallSession.applyEvent, same]

theorem leavesCall_noteRequest_iff
    {session : CallSession}
    (method : received.method = "BYE".toList)
    (held : router.registry.lookup received.callId = some session) :
    LeavesCall router received (router.noteRequest received) ↔
      ¬ Moves received session := by
  have session' : (router.noteRequest received).registry.lookup
      received.callId = some (session.onRequest received.message) := by
    simp only [noteRequest, TextMap.lookup_modify, if_true, held,
      Option.map_some]
  have kept : session.onRequest received.message = session ↔
      ¬ Moves received session := by
    rw [onRequest_bye_eq_self_iff session method, Moves, method]
    simp
  rw [← kept]
  constructor
  · intro leaves
    have same := leaves.session
    rw [session', held] at same
    exact Option.some.inj same
  · intro same
    exact ⟨by rw [session', held, same], rfl, rfl, rfl⟩

theorem leavesCall_removeTerminated_iff
    {session : CallSession}
    (method : received.method = "ACK".toList)
    (held : router.registry.lookup received.callId = some session) :
    LeavesCall router received
        (removeTerminated router received.callId) ↔
      ¬ Moves received session := by
  have terminated_iff : Terminated router received.callId ↔
      Moves received session := by
    simp [Terminated, Moves, held, method]
  rw [← terminated_iff]
  by_cases terminated : Terminated router received.callId
  · rw [removeTerminated_of_terminated terminated]
    constructor
    · intro leaves
      have gone : (router.dropCall received.callId).registry.lookup
          received.callId = none := Finmap.lookup_erase _ _
      rw [leaves.session, held] at gone
      cases gone
    · exact fun running => absurd terminated running
  · rw [removeTerminated_of_not_terminated terminated]
    exact ⟨fun _ => terminated, fun _ => ⟨rfl, rfl, rfl, rfl⟩⟩

/--
What the ACK or BYE of a stranger does: it goes to the caller, and it leaves
the call alone unless it moves the session.
-/
theorem stranger_forwarded
    (config : RouterConfig)
    {context : CallContext} {session : CallSession}
    (method : received.method = "ACK".toList ∨
      received.method = "BYE".toList)
    (stored : router.callContexts.lookup received.callId = some context)
    (held : router.registry.lookup received.callId = some session)
    (stranger : Stranger context received) :
    ∃ next, step config router received =
        .ok ({ action := .forwardRequest
               message := withProxyVia config context.callerTransport
                 received.message
               ip := context.callerIp
               port := context.callerPort
               user := context.caller
               calleeTransport := context.callerTransport }, next) ∧
      (LeavesCall router received next ↔ ¬ Moves received session) := by
  rw [← inCallResult_of_notCaller stranger.notCaller]
  rcases method with ack | bye
  · refine ⟨_, step_ack_held ack stored, ?_⟩
    rw [noteRequest_ack ack]
    exact leavesCall_removeTerminated_iff ack held
  · exact ⟨_, step_bye_held bye stored, leavesCall_noteRequest_iff bye held⟩

/--
Strangers are not kept out: an ACK or BYE of a live call whose sender is
neither recorded party is forwarded, whatever the state of the call is.
-/
theorem stranger_not_keptOut
    (reachable : Reachable (step config) initial router)
    (method : received.method = "ACK".toList ∨
      received.method = "BYE".toList)
    (live : received.callId ∈ router.registry)
    (stranger : ∀ context,
      router.callContexts.lookup received.callId = some context →
        Stranger context received) :
    ¬ KeptOut config router received := by
  obtain ⟨session, held⟩ := Finmap.mem_iff.mp live
  have recorded : (router.callContexts.lookup received.callId).isSome := by
    rw [← (Coherent.of_reachable reachable).held_iff, held]
    rfl
  obtain ⟨context, stored⟩ := Option.isSome_iff_exists.mp recorded
  obtain ⟨next, forwarded, -⟩ := stranger_forwarded config method stored
    held (stranger context stored)
  rintro ⟨result, next', stepped, here, -⟩
  rw [forwarded] at stepped
  cases stepped
  exact here rfl

/-! A run in which mallory hangs up for alice and bob. -/

/-- A BYE in alice's call whose From names neither alice nor bob. -/
def byeMallory : Received where
  message :=
    (fromAlice "BYE sip:bob@local SIP/2.0" "1 BYE").message.setHeader "From"
      "<sip:mallory@local>"
  senderIp := "10.0.0.9"
  senderPort := 5090
  transport := .udp

/-- The established call of alice and bob. -/
def IsEstablished (router : SIPRouter) : Prop :=
  (router.callContexts.lookup aliceCall).map
      (fun context => (context.caller, context.callee)) =
    some ("alice@local".toList, "bob@local".toList) ∧
  (router.registry.lookup aliceCall).map CallSession.state =
    some .established

instance (router : SIPRouter) : Decidable (IsEstablished router) :=
  inferInstanceAs (Decidable (_ ∧ _))

theorem IsEstablished.stranger
    (established : IsEstablished router) :
    ∀ context, router.callContexts.lookup aliceCall = some context →
      Stranger context byeMallory := by
  intro context stored
  have parties := established.1
  rw [stored, Option.map_some, Option.some.injEq, Prod.mk.injEq] at parties
  constructor
  · rw [parties.1]
    decide
  · rw [parties.2]
    decide

theorem IsEstablished.live
    (established : IsEstablished router) : aliceCall ∈ router.registry := by
  obtain ⟨session, held, -⟩ := Option.map_eq_some_iff.mp established.2
  exact Finmap.mem_of_lookup_eq_some held

theorem run_established :
    ∃ history router,
      run (step plainConfig) initial
        [registerBob, inviteBob, ringing, accepting] =
          .ok (history, router) ∧ IsEstablished router := by
  have tested : succeedsWith
      (run (step plainConfig) initial
        [registerBob, inviteBob, ringing, accepting])
      (fun value => decide (IsEstablished value.2)) = true := by
    decide
  obtain ⟨⟨history, router⟩, ran, established⟩ :=
    exists_of_succeedsWith tested
  exact ⟨history, router, ran, of_decide_eq_true established⟩

theorem stranger_ends_call :
    ∃ router, Reachable (step plainConfig) initial router ∧
      aliceCall ∈ router.registry ∧
      (∀ context, router.callContexts.lookup aliceCall = some context →
        Stranger context byeMallory) ∧
      ¬ KeptOut plainConfig router byeMallory ∧
      ∃ result next,
        step plainConfig router byeMallory = .ok (result, next) ∧
        result.action = .forwardRequest ∧ Terminated next aliceCall := by
  obtain ⟨history, router, ran, established⟩ := run_established
  obtain ⟨session, held, state⟩ := Option.map_eq_some_iff.mp established.2
  obtain ⟨context, stored, -⟩ := Option.map_eq_some_iff.mp established.1
  have stepped : step plainConfig router byeMallory =
      .ok (inCallResult plainConfig context byeMallory.sender
        byeMallory.message, router.noteRequest byeMallory) :=
    step_bye_held (by decide) stored
  have forwarded : (inCallResult plainConfig context byeMallory.sender
      byeMallory.message).action = .forwardRequest := by
    rw [inCallResult_of_notCaller (established.stranger context stored).1]
  refine ⟨router, ⟨_, _, ran⟩, established.live, established.stranger, ?_,
    _, _, stepped, forwarded, ?_⟩
  · rintro ⟨result, next, other, here, -⟩
    rw [stepped] at other
    cases other
    exact here forwarded
  · obtain ⟨callId, caller, callee, _⟩ := session
    cases state
    refine ⟨{ callId := callId, caller := caller, callee := callee,
              state := .terminated }, ?_, rfl⟩
    rw [noteRequest, TextMap.lookup_modify]
    have own : aliceCall = byeMallory.callId := by decide
    rw [if_pos own, ← own, held]
    rfl

theorem stranger_not_keptOut_mallory :
    ∃ router, Reachable (step plainConfig) initial router ∧
      byeMallory.callId ∈ router.registry ∧
      ¬ KeptOut plainConfig router byeMallory := by
  obtain ⟨history, router, ran, established⟩ := run_established
  have own : byeMallory.callId = aliceCall := by decide
  have live : byeMallory.callId ∈ router.registry := own ▸ established.live
  refine ⟨router, ⟨_, _, ran⟩, live, ?_⟩
  exact stranger_not_keptOut ⟨_, _, ran⟩ (Or.inr (by decide)) live
    (own ▸ established.stranger)

end MinimalSip.Proxy.SIPRouter

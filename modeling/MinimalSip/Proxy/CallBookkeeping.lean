import MinimalSip.Lib.Machine
import MinimalSip.Proxy.CallEffects

/-!
# Bookkeeping over whole runs

Session and context of a call are kept in two maps that different statements
update.  `Coherent` is the invariant that ties them together; every step of
the router preserves it.  With the history of the run at hand, a stored
context is the one left by the latest forwarded INVITE of its call, which is
why requests inside a call follow the path of that INVITE.
-/

namespace MinimalSip.Proxy.SIPRouter

open MinimalSip.Lib.Cpp
open MinimalSip.Lib.Machine
open MinimalSip.Common
open MinimalSip.Common.SIPMessage

variable {config : RouterConfig} {router next : SIPRouter}
variable {received : Received} {result : RoutingResult}

/-! ## Coherence of the two maps -/

/-- What holds of registry and contexts between two messages. -/
structure Coherent (router : SIPRouter) : Prop where
  sameCalls : router.registry.keys = router.callContexts.keys
  pastInit : ∀ callId session,
    router.registry.lookup callId = some session → session.state ≠ .init
  parties : ∀ callId context,
    router.callContexts.lookup callId = some context →
      context.caller ≠ [] ∧ context.callee ≠ [] ∧
        context.caller ≠ context.callee ∧
          context.callerTransport = context.calleeTransport

theorem Coherent.initial : Coherent initial where
  sameCalls := rfl
  pastInit := by
    intro callId session held
    cases held
  parties := by
    intro callId context held
    cases held

theorem Coherent.held_iff
    (coherent : Coherent router) (callId : CppString) :
    (router.registry.lookup callId).isSome =
      (router.callContexts.lookup callId).isSome := by
  rw [Bool.eq_iff_iff, Finmap.lookup_isSome, Finmap.lookup_isSome,
    ← Finmap.mem_keys, ← Finmap.mem_keys, coherent.sameCalls]

/-- What is at or above a state past INIT is past INIT. -/
theorem ne_init_of_le
    {earlier later : CallState}
    (started : earlier ≠ .init) (forwards : earlier ≤ later) :
    later ≠ .init := by
  rintro rfl
  cases earlier with
  | init => exact started rfl
  | _ => exact absurd forwards (by decide)

theorem Coherent.outcome
    (outcome : Outcome config router received result next)
    (coherent : Coherent router) :
    Coherent next where
  sameCalls := by
    ext callId
    have held := coherent.held_iff callId
    rw [Finmap.mem_keys, Finmap.mem_keys, ← Finmap.lookup_isSome,
      ← Finmap.lookup_isSome]
    cases outcome.change callId with
    | unchanged session context => rw [session, context, held]
    | opened entry address own accepted parsed session context =>
        rw [session, context]
        rfl
    | updated note keep own forwards learns session context =>
        rw [session, context, Option.isSome_map, Option.isSome_map, held]
    | removed own session context =>
        rw [session, context]
        rfl
  pastInit := by
    intro callId session' held'
    cases outcome.change callId with
    | unchanged session context =>
        exact coherent.pastInit callId session' (session ▸ held')
    | opened entry address own accepted parsed session context =>
        rw [session, Option.some.injEq] at held'
        subst held'
        exact CallState.noConfusion
    | updated note keep own forwards learns session context =>
        rw [session, Option.map_eq_some_iff] at held'
        obtain ⟨before, held, rfl⟩ := held'
        exact ne_init_of_le (coherent.pastInit callId before held)
          (forwards before)
    | removed own session context =>
        rw [session] at held'
        cases held'
  parties := by
    intro callId context' held'
    cases outcome.change callId with
    | unchanged session context =>
        exact coherent.parties callId context' (context ▸ held')
    | opened entry address own accepted parsed session context =>
        rw [context, Option.some.injEq] at held'
        subst held'
        exact ⟨accepted.caller, accepted.callee, accepted.distinct,
          accepted.sameTransport.symm⟩
    | updated note keep own forwards learns session context =>
        rw [context, Option.map_eq_some_iff] at held'
        obtain ⟨before, held, rfl⟩ := held'
        exact coherent.parties callId before held
    | removed own session context =>
        rw [context] at held'
        cases held'

/-- Every reachable router is coherent. -/
theorem Coherent.of_reachable
    (reachable : Reachable (step config) SIPRouter.initial router) :
    Coherent router :=
  reachable.invariant
    (fun stepped coherent => coherent.outcome (outcome_of_step stepped))
    Coherent.initial

/-! ## Held calls -/

/--
The call goes on: its session has not moved backwards and its context has
only changed in the stored headers of the callee.
-/
structure Continues (callId : CppString) (before after : SIPRouter) :
    Prop where
  session : ∀ session, before.registry.lookup callId = some session →
    ∃ session', after.registry.lookup callId = some session' ∧
      session.state ≤ session'.state
  context : ∀ context, before.callContexts.lookup callId = some context →
    ∃ headers, after.callContexts.lookup callId =
      some { context with calleeStoredHeaders := headers }

namespace Continues

theorem refl (callId : CppString) (router : SIPRouter) :
    Continues callId router router where
  session := fun session held => ⟨session, held, CallState.le_refl _⟩
  context := fun context held => ⟨context.calleeStoredHeaders, held⟩

theorem trans
    {callId : CppString} {first second third : SIPRouter}
    (left : Continues callId first second)
    (right : Continues callId second third) :
    Continues callId first third where
  session := by
    intro session held
    obtain ⟨middle, heldMiddle, forwards⟩ := left.session session held
    obtain ⟨last, heldLast, further⟩ := right.session middle heldMiddle
    exact ⟨last, heldLast, CallState.le_trans forwards further⟩
  context := by
    intro context held
    obtain ⟨headers, heldMiddle⟩ := left.context context held
    obtain ⟨headers', heldLast⟩ := right.context _ heldMiddle
    exact ⟨headers', heldLast⟩

end Continues

/-- A call that is held before and after a step goes on. -/
theorem Outcome.continues
    (outcome : Outcome config router received result next)
    {callId : CppString}
    (before : callId ∈ router.registry) (after : callId ∈ next.registry) :
    Continues callId router next := by
  cases outcome.change callId with
  | unchanged session context =>
      constructor
      · intro earlier held
        exact ⟨earlier, session.trans held, CallState.le_refl _⟩
      · intro earlier held
        exact ⟨earlier.calleeStoredHeaders, context.trans held⟩
  | opened entry address own accepted parsed session context =>
      subst own
      exact absurd before accepted.fresh
  | updated note keep own forwards learns session context =>
      constructor
      · intro earlier held
        rw [held] at session
        exact ⟨note earlier, session, forwards earlier⟩
      · intro earlier held
        rw [held] at context
        exact ⟨keep earlier.calleeStoredHeaders, context⟩
  | removed own session context =>
      rw [← Finmap.lookup_isSome, session] at after
      cases after

/-- A call that is held throughout a run goes on from end to end. -/
theorem continues_of_throughout
    {callId : CppString} {inputs : List Received}
    {history : List (Received × RoutingResult)}
    (ran : run (step config) router inputs = .ok (history, next))
    (held : Throughout (step config)
      (fun state => callId ∈ state.registry) router inputs) :
    Continues callId router next :=
  run_related (Continues.refl callId) Continues.trans
    (fun stepped before after =>
      (outcome_of_step stepped).continues before after)
    ran held

/-- Only an admissible INVITE is forwarded as an INVITE. -/
theorem Outcome.invite_forwarded
    (outcome : Outcome config router received result next)
    (method : received.method = "INVITE".toList)
    (forwarded : result.action = .forwardRequest) :
    ∃ entry address, Admissible router received entry ∧
      calleeAddress entry.contact = .ok address ∧
      result = inviteResult config received entry ∧
      next = router.openCall received entry address := by
  cases outcome with
  | replied _ here =>
      rw [forwarded] at here
      rcases here with other | other <;> cases other
  | registered => cases forwarded
  | invited entry address accepted parsed =>
      exact ⟨entry, address, accepted, parsed, rfl, rfl⟩
  | acked context other =>
      rw [method] at other
      exact absurd other (by decide)
  | byed context other =>
      rw [method] at other
      exact absurd other (by decide)
  | responded context response =>
      rw [responseResult_action] at forwarded
      cases forwarded

/--
The bookkeeping of calls in every run: registry and contexts hold the same
calls, sessions are past INIT, parties and transports are as they should be,
an INVITE is only forwarded with a Call-ID that neither map holds, and a held
session never moves backwards.
-/
theorem calls_coherent
    {inputs : List Received} {history : List (Received × RoutingResult)}
    (ran : run (step config) initial inputs = .ok (history, router)) :
    Coherent router ∧
    (∀ received result next,
      step config router received = .ok (result, next) →
      received.method = "INVITE".toList →
      result.action = .forwardRequest →
        received.callId ∉ router.registry ∧
          received.callId ∉ router.callContexts) ∧
    ∀ callId later laterHistory final session session',
      run (step config) router later = .ok (laterHistory, final) →
      Throughout (step config) (fun state => callId ∈ state.registry)
        router later →
      router.registry.lookup callId = some session →
      final.registry.lookup callId = some session' →
        session.state ≤ session'.state := by
  have coherent : Coherent router := Coherent.of_reachable ⟨_, _, ran⟩
  refine ⟨coherent, ?_, ?_⟩
  · intro received result next stepped method forwarded
    obtain ⟨entry, address, accepted, -⟩ :=
      (outcome_of_step stepped).invite_forwarded method forwarded
    have fresh := accepted.fresh
    refine ⟨fresh, ?_⟩
    rwa [← Finmap.mem_keys, ← coherent.sameCalls, Finmap.mem_keys]
  · intro callId later laterHistory final session session' laterRan
      throughout held held'
    obtain ⟨last, heldLast, forwards⟩ :=
      (continues_of_throughout laterRan throughout).session session held
    rw [held', Option.some.injEq] at heldLast
    rwa [heldLast]

/-! A run in which alice calls bob. -/

/-- Header maps iterated in the order of their insertions. -/
def plainConfig : RouterConfig where
  proxyUdpPort := 5060
  proxyTcpPort := 5061
  iterate := HeaderMap.entries
  iterate_perm := fun _ => List.Perm.refl _

def registerBob : Received where
  message :=
    { startLine := "REGISTER sip:bob@local SIP/2.0"
      headers :=
        [⟨"Via", "SIP/2.0/UDP 10.0.0.2:5080"⟩, ⟨"From", "<sip:bob@local>"⟩,
          ⟨"To", "<sip:bob@local>"⟩, ⟨"Call-ID", "r1"⟩,
          ⟨"CSeq", "1 REGISTER"⟩, ⟨"Contact", "<sip:bob@10.0.0.2:5080>"⟩,
          ⟨"Content-Length", "0"⟩] }
  senderIp := "10.0.0.2"
  senderPort := 5080
  transport := .udp

/-- The Call-ID of alice's call to bob. -/
def aliceCall : CppString := "c1"

/-- A message of alice in her call to bob. -/
def fromAlice (startLine cseq : String) : Received where
  message :=
    { startLine := startLine
      headers :=
        [⟨"Via", "SIP/2.0/UDP 10.0.0.1:5070"⟩, ⟨"From", "<sip:alice@local>"⟩,
          ⟨"To", "<sip:bob@local>"⟩, ⟨"Call-ID", aliceCall⟩, ⟨"CSeq", cseq⟩,
          ⟨"Content-Length", "0"⟩] }
  senderIp := "10.0.0.1"
  senderPort := 5070
  transport := .udp

def inviteBob : Received :=
  fromAlice "INVITE sip:bob@local SIP/2.0" "1 INVITE"

def ackBob : Received := fromAlice "ACK sip:bob@local SIP/2.0" "1 ACK"

/-- A response of bob to alice. -/
def fromBob (startLine cseq : String) : Received where
  message :=
    { startLine := startLine
      headers :=
        [⟨"Via", "SIP/2.0/UDP proxy.local:5060"⟩,
          ⟨"Via", "SIP/2.0/UDP 10.0.0.1:5070"⟩, ⟨"From", "<sip:alice@local>"⟩,
          ⟨"To", "<sip:bob@local>"⟩, ⟨"Call-ID", aliceCall⟩, ⟨"CSeq", cseq⟩,
          ⟨"Content-Length", "0"⟩] }
  senderIp := "10.0.0.2"
  senderPort := 5080
  transport := .udp

def ringing : Received := fromBob "SIP/2.0 180 Ringing" "1 INVITE"

def accepting : Received := fromBob "SIP/2.0 200 OK" "1 INVITE"

def busy : Received := fromBob "SIP/2.0 486 Busy Here" "1 INVITE"

def declining : Received := fromBob "SIP/2.0 603 Decline" "1 INVITE"

theorem calls_coherent_ringing :
    ∃ history router,
      run (step plainConfig) initial
        [registerBob, inviteBob, ringing] = .ok (history, router) ∧
      router.registry.keys.card = 1 ∧ Coherent router := by
  have tested : succeedsWith
      (run (step plainConfig) initial
        [registerBob, inviteBob, ringing])
      (fun value => decide (value.2.registry.keys.card = 1)) = true := by
    decide
  obtain ⟨⟨history, router⟩, ran, one⟩ := exists_of_succeedsWith tested
  exact ⟨history, router, ran, by simpa using one, (calls_coherent ran).1⟩

/-! ## Requests inside a call -/

/-- The entry of the latest forwarded INVITE of a call. -/
def latestForwardedInvite (callId : CppString)
    (history : List (Received × RoutingResult)) :
    Option (Received × RoutingResult) :=
  history.reverse.find? (fun entry =>
    entry.1.callId = callId ∧ entry.1.method = "INVITE".toList ∧
      entry.2.action = .forwardRequest)

theorem latestForwardedInvite_snoc_of_forwarded
    {history : List (Received × RoutingResult)}
    (method : received.method = "INVITE".toList)
    (forwarded : result.action = .forwardRequest) :
    latestForwardedInvite received.callId
      (history ++ [(received, result)]) = some (received, result) := by
  simp only [latestForwardedInvite, List.reverse_append,
    List.reverse_singleton, List.singleton_append]
  exact List.find?_cons_of_pos (by simp [method, forwarded])

theorem latestForwardedInvite_snoc_of_other
    {history : List (Received × RoutingResult)} {callId : CppString}
    (other : ¬ (received.callId = callId ∧
      received.method = "INVITE".toList ∧
      result.action = .forwardRequest)) :
    latestForwardedInvite callId (history ++ [(received, result)]) =
      latestForwardedInvite callId history := by
  simp only [latestForwardedInvite, List.reverse_append,
    List.reverse_singleton, List.singleton_append]
  exact List.find?_cons_of_neg
    (by simpa [-String.reduceToList] using other)

/-- A stored context agrees with an INVITE and what `route` returned for it. -/
structure LeftBy (context : CallContext)
    (invite : Received) (result : RoutingResult) : Prop where
  caller : context.caller = invite.sender
  callerIp : context.callerIp = invite.senderIp
  callerPort : context.callerPort = invite.senderPort
  callerTransport : context.callerTransport = invite.transport
  contact : some context.calleeContact = result.contact
  callee : context.callee = result.user
  calleeTransport : context.calleeTransport = result.calleeTransport

/-- Every stored context was left by the latest forwarded INVITE. -/
def Remembers (history : List (Received × RoutingResult))
    (router : SIPRouter) : Prop :=
  ∀ callId context, router.callContexts.lookup callId = some context →
    ∃ invite inviteResult,
      latestForwardedInvite callId history = some (invite, inviteResult) ∧
      LeftBy context invite inviteResult

theorem Remembers.step
    {past : List (Received × RoutingResult)}
    (stepped : step config router received = .ok (result, next))
    (remembers : Remembers past router) :
    Remembers (past ++ [(received, result)]) next := by
  have outcome := outcome_of_step stepped
  intro callId context' held'
  by_cases invited : received.callId = callId ∧
      received.method = "INVITE".toList ∧ result.action = .forwardRequest
  · obtain ⟨rfl, method, forwarded⟩ := invited
    obtain ⟨entry, address, accepted, parsed, rfl, rfl⟩ :=
      outcome.invite_forwarded method forwarded
    refine ⟨received, _,
      latestForwardedInvite_snoc_of_forwarded method forwarded, ?_⟩
    rw [openCall, Finmap.lookup_insert, Option.some.injEq] at held'
    subst held'
    exact ⟨rfl, rfl, rfl, rfl, rfl, rfl, rfl⟩
  · rw [latestForwardedInvite_snoc_of_other invited]
    cases outcome.change callId with
    | unchanged session context =>
        exact remembers callId context' (context ▸ held')
    | opened entry address own accepted parsed session context =>
        rw [step_opened accepted parsed] at stepped
        cases stepped
        exact absurd ⟨own, accepted.method, rfl⟩ invited
    | updated note keep own forwards learns session context =>
        rw [context, Option.map_eq_some_iff] at held'
        obtain ⟨before, held, rfl⟩ := held'
        obtain ⟨invite, inviteResult, latest, left⟩ :=
          remembers callId before held
        exact ⟨invite, inviteResult, latest, left.caller, left.callerIp,
          left.callerPort, left.callerTransport, left.contact, left.callee,
          left.calleeTransport⟩
    | removed own session context =>
        rw [context] at held'
        cases held'

/-- A forwarded ACK or BYE belongs to a held call and goes through it. -/
theorem Outcome.inCall_forwarded
    (outcome : Outcome config router received result next)
    (method : received.method = "ACK".toList ∨
      received.method = "BYE".toList)
    (forwarded : result.action = .forwardRequest) :
    ∃ context, router.callContexts.lookup received.callId = some context ∧
      result = inCallResult config context received.sender
        received.message := by
  cases outcome with
  | replied _ here =>
      rw [forwarded] at here
      rcases here with other | other <;> cases other
  | registered => cases forwarded
  | invited entry address accepted parsed =>
      rw [accepted.method] at method
      exact absurd method (by decide)
  | acked context _ held => exact ⟨context, held, rfl⟩
  | byed context _ held => exact ⟨context, held, rfl⟩
  | responded context response =>
      rw [responseResult_action] at forwarded
      cases forwarded

/--
In-call requests follow the path of their INVITE.  Whenever an ACK or BYE is
forwarded after a run, the run contains a forwarded INVITE of its call; with
the latest of these, the request either goes where that INVITE went or back
to where it came from.
-/
theorem inCall_follows_invite
    {inputs : List Received} {history : List (Received × RoutingResult)}
    (ran : run (step config) initial inputs = .ok (history, router))
    (stepped : step config router received = .ok (result, next))
    (method : received.method = "ACK".toList ∨
      received.method = "BYE".toList)
    (forwarded : result.action = .forwardRequest) :
    ∃ invite inviteResult,
      latestForwardedInvite received.callId history =
        some (invite, inviteResult) ∧
      if received.sender = invite.sender then
        result.contact = inviteResult.contact ∧
          result.user = inviteResult.user ∧
          result.calleeTransport = inviteResult.calleeTransport
      else
        result.contact = none ∧ result.ip = invite.senderIp ∧
          result.port = invite.senderPort ∧
          result.calleeTransport = invite.transport ∧
          result.user = invite.sender := by
  have empty : Remembers [] SIPRouter.initial := by
    intro callId context held
    cases held
  have remembers : Remembers ([] ++ history) router :=
    run_history_invariant (fun stepped => Remembers.step stepped) ran empty
  obtain ⟨context, held, rfl⟩ :=
    (outcome_of_step stepped).inCall_forwarded method forwarded
  obtain ⟨invite, inviteResult, latest, left⟩ :=
    remembers received.callId context held
  refine ⟨invite, inviteResult, latest, ?_⟩
  unfold inCallResult
  rw [left.caller]
  split_ifs with fromCaller
  · exact ⟨left.contact, left.callee, left.calleeTransport⟩
  · exact ⟨rfl, left.callerIp, left.callerPort, left.callerTransport, rfl⟩

theorem inCall_follows_invite_ack :
    ∃ history router result next,
      run (step plainConfig) initial
        [registerBob, inviteBob, accepting] = .ok (history, router) ∧
      step plainConfig router ackBob = .ok (result, next) ∧
      ∃ invite inviteResult,
        latestForwardedInvite aliceCall history = some (invite, inviteResult) ∧
        if ackBob.sender = invite.sender then
          result.contact = inviteResult.contact ∧
            result.user = inviteResult.user ∧
            result.calleeTransport = inviteResult.calleeTransport
        else
          result.contact = none ∧ result.ip = invite.senderIp ∧
            result.port = invite.senderPort ∧
            result.calleeTransport = invite.transport ∧
            result.user = invite.sender := by
  have tested : succeedsWith
      (run (step plainConfig) initial
        [registerBob, inviteBob, accepting])
      (fun value => succeedsWith (step plainConfig value.2 ackBob)
        (fun value => decide (value.1.action = .forwardRequest))) = true := by
    decide
  obtain ⟨⟨history, router⟩, ran, acked⟩ := exists_of_succeedsWith tested
  obtain ⟨⟨result, next⟩, stepped, forwarded⟩ := exists_of_succeedsWith acked
  exact ⟨history, router, result, next, ran, stepped,
    inCall_follows_invite ran stepped (by decide) (by simpa using forwarded)⟩

end MinimalSip.Proxy.SIPRouter

import MinimalSip.Proxy.CallBookkeeping

/-!
# The active-calls gauge and the release of calls

The gauge is stepped in four branches of the router and the two maps change
in a different set of branches.  The gauge is exact as long as no step takes
a branch that belongs to one set only: the 603 that steps the gauge down and
keeps the call, and the ACK that drops a terminated call and keeps the gauge.
The same hand-written branches decide which final responses release a call.
-/

namespace MinimalSip.Proxy

open MinimalSip.Lib.Cpp
open MinimalSip.Lib.Machine
open MinimalSip.Common
open MinimalSip.Common.SIPMessage

theorem TextMap.keys_insert
    {β : Type} (map : TextMap β) (key : CppString) (value : β) :
    (map.insert key value).keys = insert key map.keys := by
  ext other
  simp only [Finmap.mem_keys, Finmap.mem_insert, Finset.mem_insert]

/-- A gauge above zero is really stepped down. -/
theorem MetricsCollector.activeCalls_decActiveCalls
    {metrics : MetricsCollector} (positive : 0 < metrics.activeCalls) :
    metrics.decActiveCalls.activeCalls = metrics.activeCalls - 1 := by
  rw [decActiveCalls, if_pos positive]

namespace SIPRouter

variable {config : RouterConfig} {router next : SIPRouter}
variable {received : Received} {result : RoutingResult}

/-! ## The gauge -/

/-- The gauge is the number of calls in either map. -/
structure GaugeExact (router : SIPRouter) : Prop where
  registry : router.metrics.activeCalls = router.registry.keys.card
  contexts : router.metrics.activeCalls = router.callContexts.keys.card

/-- The steps that change only one of gauge and maps. -/
def Drifts (router : SIPRouter) (received : Received) : Prop :=
  received.callId ∈ router.callContexts ∧
    (Declines received.message ∨
      (received.method = "ACK".toList ∧
        Terminated router received.callId))

/-- In a coherent router one of the two counts is enough. -/
theorem Coherent.gaugeExact_iff (coherent : Coherent router) :
    GaugeExact router ↔
      router.metrics.activeCalls = router.registry.keys.card := by
  constructor
  · exact GaugeExact.registry
  · intro exact
    exact ⟨exact, coherent.sameCalls ▸ exact⟩

theorem Coherent.mem_registry_of_lookup
    (coherent : Coherent router)
    {callId : CppString} {context : CallContext}
    (held : router.callContexts.lookup callId = some context) :
    callId ∈ router.registry := by
  rw [← Finmap.lookup_isSome, coherent.held_iff, held]
  rfl

/-! What the effects do to the number of held calls. -/

theorem card_openCall
    (fresh : received.callId ∉ router.registry)
    (entry : ContactEntry) (address : CppString × UInt16) :
    (router.openCall received entry address).registry.keys.card =
      router.registry.keys.card + 1 := by
  have freshKey : received.callId ∉ router.registry.keys :=
    fun known => fresh (Finmap.mem_keys.mp known)
  rw [openCall, TextMap.keys_insert, Finset.card_insert_of_notMem freshKey]

theorem card_dropCall
    {callId : CppString} (held : callId ∈ router.registry) :
    (router.dropCall callId).registry.keys.card + 1 =
      router.registry.keys.card := by
  have key : callId ∈ router.registry.keys := Finmap.mem_keys.mpr held
  rw [dropCall, Finmap.keys_erase, Finset.card_erase_add_one key]

@[simp]
theorem card_noteRequest :
    (router.noteRequest received).registry.keys.card =
      router.registry.keys.card := by
  rw [noteRequest, TextMap.keys_modify]

@[simp]
theorem card_noteResponse (callId : CppString) (forwarded : SIPMessage) :
    (router.noteResponse callId forwarded).registry.keys.card =
      router.registry.keys.card := by
  rw [noteResponse, TextMap.keys_modify]

theorem card_pos
    {callId : CppString} (held : callId ∈ router.registry) :
    0 < router.registry.keys.card :=
  Finset.card_pos.mpr ⟨callId, Finmap.mem_keys.mpr held⟩

theorem isResponse_of_declines
    {message : SIPMessage} (declines : Declines message) :
    message.isResponse = true :=
  isResponse_of_getStatusCode (by rw [declines.1]; decide)

/-- A step that drifts leaves an exact gauge wrong. -/
theorem not_gaugeExact_of_drifts
    (coherent : Coherent router) (exact : GaugeExact router)
    (drifts : Drifts router received)
    (stepped : step config router received = .ok (result, next)) :
    ¬ GaugeExact next := by
  obtain ⟨context, held⟩ := Finmap.mem_iff.mp drifts.1
  have known := coherent.mem_registry_of_lookup held
  have positive := card_pos known
  have gauge := exact.registry
  intro after
  have gaugeAfter := after.registry
  rcases drifts.2 with declines | ⟨method, terminated⟩
  · have response := isResponse_of_declines declines
    have kept : ¬ Releases received.message := fun releases => by
      have code := declines.1
      rcases releases with released | released <;> omega
    rw [step_response_held response held, applyResponse_eq,
      if_neg (mt (releases_stripProxyVia _).mp kept),
      if_pos ((declines_stripProxyVia _).mpr declines)] at stepped
    cases stepped
    have stepDown : (router.noteResponse received.callId
        (stripProxyVia received.message)).stepDown.metrics.activeCalls =
          router.metrics.activeCalls - 1 :=
      MetricsCollector.activeCalls_decActiveCalls
        (show 0 < router.metrics.activeCalls by omega)
    have sameCalls : (router.noteResponse received.callId
        (stripProxyVia received.message)).stepDown.registry.keys.card =
          router.registry.keys.card :=
      card_noteResponse _ _
    omega
  · rw [step_ack_held method held, noteRequest_ack method,
      removeTerminated_of_terminated terminated] at stepped
    cases stepped
    have dropped := card_dropCall known
    have sameGauge : (router.dropCall received.callId).metrics.activeCalls =
        router.metrics.activeCalls := rfl
    omega

/-- A step that does not drift keeps an exact gauge exact. -/
theorem gaugeExact_of_not_drifts
    (coherent : Coherent router) (exact : GaugeExact router)
    (steady : ¬ Drifts router received)
    (outcome : Outcome config router received result next) :
    GaugeExact next := by
  rw [(coherent.outcome outcome).gaugeExact_iff]
  have gauge := exact.registry
  cases outcome with
  | replied => exact gauge
  | registered => exact gauge
  | invited entry address accepted parsed =>
      have opened := card_openCall accepted.fresh entry address
      have stepUp : (router.openCall received entry
          address).metrics.activeCalls = router.metrics.activeCalls + 1 := rfl
      omega
  | acked context method held =>
      have running : ¬ Terminated router received.callId :=
        fun terminated => steady
          ⟨Finmap.mem_of_lookup_eq_some held, Or.inr ⟨method, terminated⟩⟩
      rw [noteRequest_ack method, removeTerminated_of_not_terminated running]
      exact gauge
  | byed context method held =>
      rw [card_noteRequest]
      exact gauge
  | responded context response held =>
      have known := coherent.mem_registry_of_lookup held
      have positive := card_pos known
      have accepts : ¬ Declines (stripProxyVia received.message) :=
        fun declines => steady
          ⟨Finmap.mem_of_lookup_eq_some held,
            Or.inl ((declines_stripProxyVia _).mp declines)⟩
      rw [applyResponse_eq]
      split_ifs with releases
      · have dropped := card_dropCall known
        have sameCalls :
            (router.dropCall received.callId).stepDown.registry =
              (router.dropCall received.callId).registry := rfl
        have stepDown : (router.dropCall
            received.callId).stepDown.metrics.activeCalls =
              router.metrics.activeCalls - 1 :=
          MetricsCollector.activeCalls_decActiveCalls
            (show 0 < router.metrics.activeCalls by omega)
        rw [sameCalls]
        omega
      · rw [card_noteResponse]
        exact gauge

/--
The gauge over whole runs: it equals the number of held calls after every
step if and only if no step of the run drifts.
-/
theorem gauge_exact_iff (config : RouterConfig) (inputs : List Received) :
    Throughout (step config) GaugeExact initial inputs ↔
      Along (step config)
        (fun router received => ¬ Drifts router received)
        initial inputs := by
  have empty : GaugeExact initial := ⟨rfl, rfl⟩
  refine throughout_iff_along
    (fun stepped coherent => coherent.outcome (outcome_of_step stepped))
    ?_ ?_ Coherent.initial empty
  · intro router received result next stepped coherent exact
    constructor
    · intro after drifts
      exact not_gaugeExact_of_drifts coherent exact drifts stepped after
    · intro steady
      exact gaugeExact_of_not_drifts coherent exact steady
        (outcome_of_step stepped)
  · intro router received thrown failed drifts
    obtain ⟨context, held⟩ := Finmap.mem_iff.mp drifts.1
    rcases drifts.2 with declines | ⟨method, -⟩
    · rw [step_response_held (isResponse_of_declines declines) held] at failed
      cases failed
    · rw [step_ack_held method held] at failed
      cases failed

instance (router : SIPRouter) : Decidable (GaugeExact router) :=
  decidable_of_iff
    (router.metrics.activeCalls = router.registry.keys.card ∧
      router.metrics.activeCalls = router.callContexts.keys.card)
    ⟨fun both => ⟨both.1, both.2⟩,
      fun exact => ⟨exact.registry, exact.contexts⟩⟩

/-- The callee declines: the gauge goes to zero while the call is held. -/
theorem gauge_wrong_after_decline :
    ∃ history router,
      run (step plainConfig) initial
        [registerBob, inviteBob, declining] = .ok (history, router) ∧
      ¬ GaugeExact router := by
  have tested : succeedsWith
      (run (step plainConfig) initial
        [registerBob, inviteBob, declining])
      (fun value => decide (¬ GaugeExact value.2)) = true := by
    decide
  obtain ⟨⟨history, router⟩, ran, wrong⟩ := exists_of_succeedsWith tested
  exact ⟨history, router, ran, by simpa using wrong⟩

/-! ## Released calls -/

/-- A final failure response to the INVITE, or a 200 to the BYE. -/
def FinalResponse (message : SIPMessage) : Prop :=
  (300 ≤ message.getStatusCode ∧
    contains (message.getHeader "CSeq") "INVITE" = true) ∨
  (message.getStatusCode = 200 ∧
    contains (message.getHeader "CSeq") "BYE" = true)

/--
A released call: neither map holds it, and until an INVITE opens it anew, a
valid INVITE that reuses its Call-ID is forwarded.
-/
structure Released
    (config : RouterConfig) (callId : CppString) (router : SIPRouter) :
    Prop where
  session : callId ∉ router.registry
  context : callId ∉ router.callContexts
  reusable : ∀ inputs history later invite entry address,
    run (step config) router inputs = .ok (history, later) →
    (∀ received ∈ inputs, ¬ (received.callId = callId ∧
      received.method = "INVITE".toList)) →
    invite.callId = callId → ValidInvite later invite entry →
    calleeAddress entry.contact = .ok address →
      ∃ result next, step config later invite = .ok (result, next) ∧
        result.action = .forwardRequest

/-- Only an INVITE of the call brings it back. -/
theorem Outcome.absent
    (outcome : Outcome config router received result next)
    {callId : CppString}
    (noInvite : ¬ (received.callId = callId ∧
      received.method = "INVITE".toList))
    (absent : callId ∉ router.registry) :
    callId ∉ next.registry := by
  rw [← Finmap.lookup_eq_none] at absent ⊢
  cases outcome.change callId with
  | unchanged session context => rw [session, absent]
  | opened entry address own accepted =>
      exact absurd ⟨own, accepted.method⟩ noInvite
  | updated note keep own forwards learns session context =>
      rw [session, absent]
      rfl
  | removed own session context => exact session

theorem Released.of_absent
    {callId : CppString}
    (session : callId ∉ router.registry)
    (context : callId ∉ router.callContexts) :
    Released config callId router where
  session := session
  context := context
  reusable := by
    intro inputs history later invite entry address ran noInvite own valid
      parsed
    have preserved : ∀ {state received result next},
        step config state received = .ok (result, next) →
        ¬ (received.callId = callId ∧
          received.method = "INVITE".toList) →
        callId ∉ state.registry → callId ∉ next.registry :=
      fun stepped here absent => (outcome_of_step stepped).absent here absent
    have absent := run_invariant_on preserved ran noInvite session
    subst own
    exact ⟨_, _, step_opened ⟨valid, absent⟩ parsed, rfl⟩

/--
Which final responses release their call: exactly the 486 to the INVITE and
the 200 to the BYE.
-/
theorem released_iff
    (reachable : Reachable (step config) initial router)
    (live : received.callId ∈ router.registry)
    (final : FinalResponse received.message) :
    (∃ result next, step config router received = .ok (result, next) ∧
      Released config received.callId next) ↔
      received.message.getStatusCode = 486 ∨
        (received.message.getStatusCode = 200 ∧
          contains (received.message.getHeader "CSeq") "BYE" = true) := by
  have coherent := Coherent.of_reachable reachable
  have response : received.message.isResponse = true := by
    apply isResponse_of_getStatusCode
    rcases final with ⟨code, -⟩ | ⟨code, -⟩ <;> omega
  have known : received.callId ∈ router.callContexts := by
    rwa [← Finmap.mem_keys, ← coherent.sameCalls, Finmap.mem_keys]
  obtain ⟨context, held⟩ := Finmap.mem_iff.mp known
  rw [step_response_held response held, applyResponse_eq]
  constructor
  · rintro ⟨result, next, stepped, released⟩
    by_contra other
    have kept : ¬ Releases received.message := fun releases => by
      rcases releases with bye | busy
      · exact other (Or.inr bye)
      · exact other (Or.inl busy.1)
    rw [if_neg (mt (releases_stripProxyVia _).mp kept)] at stepped
    cases stepped
    have absent := released.session
    split_ifs at absent
    · exact absent ((TextMap.mem_modify _ _ _ _).mpr live)
    · exact absent ((TextMap.mem_modify _ _ _ _).mpr live)
  · intro code
    have releases : Releases received.message := by
      rcases code with busy | bye
      · rcases final with ⟨-, invite⟩ | ⟨ok, -⟩
        · exact Or.inr ⟨busy, invite⟩
        · omega
      · exact Or.inl bye
    rw [if_pos ((releases_stripProxyVia _).mpr releases)]
    exact ⟨_, _, rfl, Released.of_absent Finmap.notMem_erase_self
      Finmap.notMem_erase_self⟩

theorem released_iff_busy :
    ∃ router, Reachable (step plainConfig) initial router ∧
      aliceCall ∈ router.registry ∧
      ((∃ result next, step plainConfig router busy = .ok (result, next) ∧
          Released plainConfig aliceCall next) ↔
        busy.message.getStatusCode = 486 ∨
          (busy.message.getStatusCode = 200 ∧
            contains (busy.message.getHeader "CSeq") "BYE" = true)) := by
  have tested : succeedsWith
      (run (step plainConfig) initial [registerBob, inviteBob])
      (fun value => (value.2.registry.lookup aliceCall).isSome) = true := by
    decide
  obtain ⟨⟨history, router⟩, ran, live⟩ := exists_of_succeedsWith tested
  have reachable : Reachable (step plainConfig) initial router :=
    ⟨_, _, ran⟩
  exact ⟨router, reachable, Finmap.lookup_isSome.mp live,
    released_iff reachable (Finmap.lookup_isSome.mp live)
      (Or.inl ⟨by decide, by decide⟩)⟩

/-- A declined call stays held, and a new INVITE for it is refused. -/
theorem declined_call_kept :
    ∃ router result next reply,
      Reachable (step plainConfig) initial router ∧
      aliceCall ∈ router.registry ∧
      FinalResponse declining.message ∧
      step plainConfig router declining = .ok (result, next) ∧
      aliceCall ∈ next.registry ∧ aliceCall ∈ next.callContexts ∧
      step plainConfig next inviteBob = .ok reply ∧
      reply.1.action = .respondLocally := by
  have tested : succeedsWith
      (run (step plainConfig) initial [registerBob, inviteBob])
      (fun value =>
        (value.2.registry.lookup aliceCall).isSome &&
          succeedsWith (step plainConfig value.2 declining) (fun answer =>
            (answer.2.registry.lookup aliceCall).isSome &&
              (answer.2.callContexts.lookup aliceCall).isSome &&
              succeedsWith (step plainConfig answer.2 inviteBob)
                (fun reply => reply.1.action = .respondLocally))) =
        true := by
    decide
  obtain ⟨⟨history, router⟩, ran, live⟩ := exists_of_succeedsWith tested
  rw [Bool.and_eq_true] at live
  obtain ⟨⟨result, next⟩, declined, kept⟩ := exists_of_succeedsWith live.2
  rw [Bool.and_eq_true, Bool.and_eq_true] at kept
  obtain ⟨reply, again, refused⟩ := exists_of_succeedsWith kept.2
  exact ⟨router, result, next, reply, ⟨_, _, ran⟩,
    Finmap.lookup_isSome.mp live.1, Or.inl ⟨by decide, by decide⟩, declined,
    Finmap.lookup_isSome.mp kept.1.1, Finmap.lookup_isSome.mp kept.1.2,
    again, by simpa using refused⟩

end SIPRouter

end MinimalSip.Proxy

import MinimalSip.Proxy.CallBookkeeping

/-!
# How a call becomes established

The responses to an accepted INVITE drive its session from `trying` through
`ringing` to `established`, and a response that has no transition in the
current state is ignored.  So a 200 establishes the call only behind a 180.

`noted` is what a session has seen after a sequence of responses; the router
holds exactly that session, unless a response released the call.
-/

namespace MinimalSip.Proxy

open MinimalSip.Lib.Cpp
open MinimalSip.Lib.Machine
open MinimalSip.Common
open MinimalSip.Common.SIPMessage

/-! ## Sequences of responses -/

/-- A 1xx response. -/
def Provisional (message : SIPMessage) : Prop :=
  100 ≤ message.getStatusCode ∧ message.getStatusCode ≤ 199

/-- A 200 whose CSeq names INVITE. -/
def AcceptsInvite (message : SIPMessage) : Prop :=
  message.getStatusCode = 200 ∧
    contains (message.getHeader "CSeq") "INVITE" = true

instance (message : SIPMessage) : Decidable (Provisional message) :=
  inferInstanceAs (Decidable (_ ∧ _))

instance (message : SIPMessage) : Decidable (AcceptsInvite message) :=
  inferInstanceAs (Decidable (_ ∧ _))

/-- A 1xx response or an acceptance for a call. -/
structure RespondsTo (callId : CppString) (received : Received) : Prop where
  response : received.message.isResponse = true
  call : received.callId = callId
  kind : Provisional received.message ∨ AcceptsInvite received.message

/-- Some 180 comes before some 200. -/
def RingsThenAccepts (responses : List Received) : Prop :=
  ∃ before ringing later, responses = before ++ ringing :: later ∧
    ringing.message.getStatusCode = 180 ∧
    ∃ answer ∈ later, answer.message.getStatusCode = 200

theorem RingsThenAccepts.cons
    {responses : List Received}
    (rings : RingsThenAccepts responses) (first : Received) :
    RingsThenAccepts (first :: responses) := by
  obtain ⟨before, ringing, later, rfl, code, answered⟩ := rings
  exact ⟨first :: before, ringing, later, rfl, code, answered⟩

theorem ringsThenAccepts_cons_iff
    {first : Received} {responses : List Received} :
    RingsThenAccepts (first :: responses) ↔
      (first.message.getStatusCode = 180 ∧
          ∃ answer ∈ responses, answer.message.getStatusCode = 200) ∨
        RingsThenAccepts responses := by
  constructor
  · rintro ⟨before, ringing, later, split, code, answered⟩
    cases before with
    | nil =>
        obtain ⟨rfl, rfl⟩ := List.cons.inj split
        exact Or.inl ⟨code, answered⟩
    | cons head tail =>
        obtain ⟨-, rest⟩ := List.cons.inj split
        exact Or.inr ⟨tail, ringing, later, rest, code, answered⟩
  · rintro (⟨code, answered⟩ | rings)
    · exact ⟨[], first, responses, rfl, code, answered⟩
    · exact rings.cons first

namespace CallSession

/-- The session after it has seen these responses. -/
def noted (session : CallSession) (responses : List Received) :
    CallSession :=
  responses.foldl (fun session received =>
    session.onResponse received.message) session

variable {session : CallSession} {message : SIPMessage}

theorem handleEvent_trying100 (state : CallState) :
    CallStateMachine.handleEvent state .trying100 = state := by
  cases state <;> rfl

theorem onResponse_ringing
    (code : message.getStatusCode = 180) :
    (session.onResponse message).state =
      CallStateMachine.handleEvent session.state .ringing180 := by
  unfold onResponse
  rw [if_neg (by omega), if_pos code]
  rfl

theorem onResponse_accepts
    (accepts : AcceptsInvite message) :
    (session.onResponse message).state =
      CallStateMachine.handleEvent session.state .ok200 := by
  have code := accepts.1
  have both : message.getStatusCode = 200 ∧
      contains (message.getHeader "CSeq") "INVITE" = true := accepts
  unfold onResponse
  rw [if_neg (by omega), if_neg (by omega), if_pos both]
  rfl

/-- Another provisional response than 180 changes nothing. -/
theorem onResponse_provisional
    (provisional : Provisional message)
    (other : message.getStatusCode ≠ 180) :
    (session.onResponse message).state = session.state := by
  have notAccepted : ¬ (message.getStatusCode = 200 ∧
      contains (message.getHeader "CSeq") "INVITE" = true) := by
    have below := provisional.2
    omega
  unfold onResponse
  dsimp only
  rw [if_neg other, if_neg notAccepted]
  split_ifs
  · exact handleEvent_trying100 session.state
  · rfl

section Phases

variable {callId : CppString} {responses : List Received}

/-- An established session stays established. -/
theorem noted_of_established
    (established : session.state = .established)
    (responds : ∀ received ∈ responses, RespondsTo callId received) :
    (session.noted responses).state = .established := by
  induction responses generalizing session with
  | nil => exact established
  | cons received rest ih =>
      have later : ∀ other ∈ rest, RespondsTo callId other :=
        fun other member => responds other (List.mem_cons_of_mem _ member)
      have same : (session.onResponse received.message).state =
          .established := by
        rcases (responds received List.mem_cons_self).kind with
          provisional | accepts
        · by_cases rings : received.message.getStatusCode = 180
          · rw [onResponse_ringing rings, established]
            rfl
          · rw [onResponse_provisional provisional rings, established]
        · rw [onResponse_accepts accepts, established]
          rfl
      exact ih same later

/-- A ringing session waits for a 200. -/
theorem noted_of_ringing
    (ringing : session.state = .ringing)
    (responds : ∀ received ∈ responses, RespondsTo callId received) :
    (session.noted responses).state = .established ↔
      ∃ answer ∈ responses, answer.message.getStatusCode = 200 := by
  induction responses generalizing session with
  | nil => simp [noted, ringing]
  | cons received rest ih =>
      have later : ∀ other ∈ rest, RespondsTo callId other :=
        fun other member => responds other (List.mem_cons_of_mem _ member)
      rcases (responds received List.mem_cons_self).kind with
        provisional | accepts
      · have same : (session.onResponse received.message).state =
            .ringing := by
          by_cases rings : received.message.getStatusCode = 180
          · rw [onResponse_ringing rings, ringing]
            rfl
          · rw [onResponse_provisional provisional rings, ringing]
        have other : received.message.getStatusCode ≠ 200 := by
          have below := provisional.2
          omega
        rw [List.exists_mem_cons_iff, or_iff_right other]
        exact ih same later
      · have answered : (session.onResponse received.message).state =
            .established := by
          rw [onResponse_accepts accepts, ringing]
          rfl
        have kept : ((session.onResponse received.message).noted
            rest).state = .established := noted_of_established answered later
        exact iff_of_true kept ⟨received, List.mem_cons_self, accepts.1⟩

/-- A new session waits for a 180, and then for a 200. -/
theorem noted_of_trying
    (trying : session.state = .trying)
    (responds : ∀ received ∈ responses, RespondsTo callId received) :
    (session.noted responses).state = .established ↔
      RingsThenAccepts responses := by
  induction responses generalizing session with
  | nil =>
      refine iff_of_false (by simp [noted, trying]) ?_
      rintro ⟨before, ringing, later, split, -⟩
      exact List.cons_ne_nil _ _ (List.append_eq_nil_iff.mp split.symm).2
  | cons received rest ih =>
      have later : ∀ other ∈ rest, RespondsTo callId other :=
        fun other member => responds other (List.mem_cons_of_mem _ member)
      rw [ringsThenAccepts_cons_iff]
      by_cases rings : received.message.getStatusCode = 180
      · have ringing : (session.onResponse received.message).state =
            .ringing := by
          rw [onResponse_ringing rings, trying]
          rfl
        rw [and_iff_right rings, or_iff_left_of_imp]
        · exact noted_of_ringing ringing later
        · rintro ⟨before, _, after, rfl, -, answer, member, code⟩
          exact ⟨answer, List.mem_append_right before
            (List.mem_cons_of_mem _ member), code⟩
      · have same : (session.onResponse received.message).state =
            .trying := by
          rcases (responds received List.mem_cons_self).kind with
            provisional | accepts
          · rw [onResponse_provisional provisional rings, trying]
          · rw [onResponse_accepts accepts, trying]
            rfl
        rw [or_iff_right (fun both => rings both.1)]
        exact ih same later

end Phases

end CallSession

namespace SIPRouter

/-! ## The session that the router holds -/

theorem onResponse_stripProxyVia
    (session : CallSession) (message : SIPMessage) :
    session.onResponse (stripProxyVia message) =
      session.onResponse message := by
  have cseq := stripProxyVia_getHeader message
    (show "CSeq".toList ≠ "Via".toList by decide)
  simp only [CallSession.onResponse, stripProxyVia_getStatusCode, cseq]

/-- The router holds this session and a context for the call. -/
structure Holds
    (router : SIPRouter) (callId : CppString) (session : CallSession) :
    Prop where
  session : router.registry.lookup callId = some session
  context : ∃ context, router.callContexts.lookup callId = some context

/-- The router holds nothing for the call. -/
structure HoldsNothing (router : SIPRouter) (callId : CppString) : Prop where
  session : router.registry.lookup callId = none
  context : router.callContexts.lookup callId = none

section Steps

variable {router next : SIPRouter} {callId : CppString}
  {session : CallSession} {received : Received}

/-- One response is noted in the session, or it releases the call. -/
theorem Holds.respond
    (holds : Holds router callId session) (config : RouterConfig)
    (responds : RespondsTo callId received) :
    ∃ result next, step config router received = .ok (result, next) ∧
      (Releases received.message → HoldsNothing next callId) ∧
      (¬ Releases received.message →
        Holds next callId (session.onResponse received.message)) := by
  obtain ⟨context, stored⟩ := holds.context
  have own := responds.call
  subst callId
  have notDeclined : ¬ Declines (stripProxyVia received.message) := by
    rw [declines_stripProxyVia]
    rintro ⟨code, -⟩
    rcases responds.kind with provisional | accepts
    · have below := provisional.2
      omega
    · have accepted := accepts.1
      omega
  refine ⟨_, _, step_response_held responds.response stored, ?_, ?_⟩
  · intro releases
    rw [applyResponse_eq, if_pos ((releases_stripProxyVia _).mpr releases)]
    exact ⟨Finmap.lookup_erase _ _, Finmap.lookup_erase _ _⟩
  · intro keeps
    rw [applyResponse_eq,
      if_neg (fun releases => keeps ((releases_stripProxyVia _).mp releases)),
      if_neg notDeclined]
    constructor
    · rw [noteResponse, TextMap.lookup_modify, if_pos rfl, holds.session,
        Option.map_some, onResponse_stripProxyVia]
    · rw [noteResponse, TextMap.lookup_modify, if_pos rfl, stored]
      exact ⟨_, rfl⟩

/-- A response of a call that is not held changes nothing. -/
theorem HoldsNothing.respond
    (nothing : HoldsNothing router callId) (config : RouterConfig)
    (responds : RespondsTo callId received) :
    step config router received = .ok ({}, router) :=
  step_response_unknown responds.response
    (responds.call.symm ▸ nothing.context)

theorem HoldsNothing.run
    {responses : List Received}
    (nothing : HoldsNothing router callId) (config : RouterConfig)
    (responds : ∀ received ∈ responses, RespondsTo callId received) :
    ∃ history, run (step config) router responses =
      .ok (history, router) := by
  induction responses with
  | nil => exact ⟨[], rfl⟩
  | cons received rest ih =>
      obtain ⟨history, ran⟩ := ih
        (fun other member => responds other (List.mem_cons_of_mem _ member))
      exact ⟨_, run_cons_ok_iff.mpr ⟨{}, router, history,
        nothing.respond config (responds received List.mem_cons_self), ran, rfl⟩⟩

/-- The router notes the responses in the session as long as it has one. -/
theorem Holds.run
    {responses : List Received}
    (holds : Holds router callId session) (config : RouterConfig)
    (responds : ∀ received ∈ responses, RespondsTo callId received) :
    ∃ history final,
      run (step config) router responses = .ok (history, final) ∧
      ((∃ received ∈ responses, Releases received.message) →
        HoldsNothing final callId) ∧
      ((∀ received ∈ responses, ¬ Releases received.message) →
        Holds final callId (session.noted responses)) := by
  induction responses generalizing router session with
  | nil => exact ⟨[], router, rfl, by simp, fun _ => holds⟩
  | cons received rest ih =>
      have later : ∀ other ∈ rest, RespondsTo callId other :=
        fun other member => responds other (List.mem_cons_of_mem _ member)
      obtain ⟨result, next, stepped, dropped, noted⟩ :=
        holds.respond config (responds received List.mem_cons_self)
      by_cases releases : Releases received.message
      · have nothing := dropped releases
        obtain ⟨history, ran⟩ := nothing.run config later
        refine ⟨_, next, run_cons_ok_iff.mpr
          ⟨result, next, history, stepped, ran, rfl⟩, fun _ => nothing, ?_⟩
        exact fun none =>
          absurd releases (none received List.mem_cons_self)
      · obtain ⟨history, final, ran, gone, kept⟩ := ih (noted releases) later
        refine ⟨_, final, run_cons_ok_iff.mpr
          ⟨result, next, history, stepped, ran, rfl⟩, ?_, ?_⟩
        · rintro ⟨other, member, released⟩
          rcases List.mem_cons.mp member with rfl | inRest
          · exact absurd released releases
          · exact gone ⟨other, inRest, released⟩
        · exact fun none => kept (fun other member =>
            none other (List.mem_cons_of_mem _ member))

/-- The call's session is ESTABLISHED. -/
def Established (router : SIPRouter) (callId : CppString) : Prop :=
  ∃ session, router.registry.lookup callId = some session ∧
    session.state = .established

instance (router : SIPRouter) (callId : CppString) :
    Decidable (Established router callId) :=
  decidable_of_iff
    ((router.registry.lookup callId).map CallSession.state =
      some .established)
    Option.map_eq_some_iff

/-- An accepted INVITE leaves a session that is trying. -/
theorem holds_of_invite
    {config : RouterConfig} {result : RoutingResult}
    (stepped : step config router received = .ok (result, next))
    (method : received.method = "INVITE".toList)
    (forwarded : result.action = .forwardRequest) :
    Holds next received.callId (openedSession received) := by
  obtain ⟨entry, address, -, -, -, rfl⟩ :=
    (outcome_of_step stepped).invite_forwarded method forwarded
  exact ⟨Finmap.lookup_insert _, _, Finmap.lookup_insert _⟩

/-- A BYE ends an established call. -/
theorem Holds.hangUp
    (holds : Holds router callId session) (config : RouterConfig)
    (established : session.state = .established)
    (bye : received.method = "BYE".toList) (own : received.callId = callId) :
    ∃ result next, step config router received = .ok (result, next) ∧
      Terminated next callId := by
  obtain ⟨context, stored⟩ := holds.context
  subst own
  refine ⟨_, _, step_bye_held bye stored,
    session.onRequest received.message, ?_, ?_⟩
  · rw [noteRequest, TextMap.lookup_modify, if_pos rfl, holds.session]
    rfl
  · have noted : session.onRequest received.message =
        session.applyEvent .bye := by
      simp only [CallSession.onRequest, received.getMethod_eq, bye]
      rfl
    rw [noted, CallSession.applyEvent, established]
    rfl

end Steps

/-! ## Establishment -/

/--
After an accepted INVITE and any sequence of 1xx responses and 200s to it, the
session is ESTABLISHED exactly if some 180 came before some 200 and no 200 was
also an answer to a BYE.  Then a BYE of the call terminates the session.
-/
theorem established_iff_rung
    {config : RouterConfig} {router opened : SIPRouter} {invite : Received}
    {result : RoutingResult}
    (accepted : step config router invite = .ok (result, opened))
    (method : invite.method = "INVITE".toList)
    (forwarded : result.action = .forwardRequest)
    (responses : List Received)
    (responds : ∀ received ∈ responses, RespondsTo invite.callId received) :
    ∃ history final,
      run (step config) opened responses = .ok (history, final) ∧
      (Established final invite.callId ↔
        RingsThenAccepts responses ∧
          ∀ received ∈ responses, ¬ Releases received.message) ∧
      (Established final invite.callId →
        ∀ bye : Received, bye.method = "BYE".toList →
          bye.callId = invite.callId →
            ∃ answer next, step config final bye = .ok (answer, next) ∧
              Terminated next invite.callId) := by
  have holds := holds_of_invite accepted method forwarded
  obtain ⟨history, final, ran, gone, kept⟩ :=
    holds.run config responds
  refine ⟨history, final, ran, ?_⟩
  by_cases released : ∃ received ∈ responses, Releases received.message
  · have absent : ¬ Established final invite.callId := by
      rintro ⟨session, held, -⟩
      rw [(gone released).session] at held
      cases held
    refine ⟨iff_of_false absent ?_, fun established =>
      absurd established absent⟩
    rintro ⟨-, none⟩
    obtain ⟨received, member, releases⟩ := released
    exact none received member releases
  · have none : ∀ received ∈ responses, ¬ Releases received.message :=
      fun received member releases => released ⟨received, member, releases⟩
    have holdsFinal := kept none
    have trying : (openedSession invite).state = .trying := rfl
    constructor
    · rw [and_iff_left none,
        ← CallSession.noted_of_trying trying responds]
      constructor
      · rintro ⟨session, held, established⟩
        rw [holdsFinal.session, Option.some.injEq] at held
        exact held ▸ established
      · exact fun established => ⟨_, holdsFinal.session, established⟩
    · rintro ⟨session, held, established⟩ bye isBye own
      rw [holdsFinal.session, Option.some.injEq] at held
      exact holdsFinal.hangUp config (held ▸ established) isBye own

/-! Bob's answer, before and behind his 180. -/

theorem ringing_respondsTo : RespondsTo aliceCall ringing :=
  ⟨by decide, by decide, Or.inl (by decide)⟩

theorem accepting_respondsTo : RespondsTo aliceCall accepting :=
  ⟨by decide, by decide, Or.inr (by decide)⟩

/-- Alice's INVITE is accepted, and the call reaches a state by responses. -/
def reaches (responses : List Received) (test : SIPRouter → Bool) : Bool :=
  succeedsWith (run (step plainConfig) initial [registerBob]) (fun before =>
    succeedsWith (step plainConfig before.2 inviteBob) (fun invited =>
      decide (invited.1.action = .forwardRequest) &&
        succeedsWith (run (step plainConfig) invited.2 responses)
          (fun value => test value.2)))

theorem exists_of_reaches
    {responses : List Received} {test : SIPRouter → Bool}
    (tested : reaches responses test = true) :
    ∃ router result opened history final,
      step plainConfig router inviteBob = .ok (result, opened) ∧
      result.action = .forwardRequest ∧
      run (step plainConfig) opened responses = .ok (history, final) ∧
      test final = true := by
  obtain ⟨⟨before, router⟩, -, invited⟩ := exists_of_succeedsWith tested
  obtain ⟨⟨result, opened⟩, accepted, rest⟩ := exists_of_succeedsWith invited
  obtain ⟨forwarded, ran⟩ := (Bool.and_eq_true _ _).mp rest
  obtain ⟨⟨history, final⟩, done, holds⟩ := exists_of_succeedsWith ran
  exact ⟨router, result, opened, history, final, accepted,
    of_decide_eq_true forwarded, done, holds⟩

/-- A 200 that overtakes the 180 does not establish the call. -/
theorem overtaking_answer_lost :
    ∃ router result opened history final,
      step plainConfig router inviteBob = .ok (result, opened) ∧
      result.action = .forwardRequest ∧
      (∀ received ∈ [accepting, ringing],
        RespondsTo inviteBob.callId received) ∧
      (∃ received ∈ [accepting, ringing],
        AcceptsInvite received.message) ∧
      run (step plainConfig) opened [accepting, ringing] =
        .ok (history, final) ∧
      ¬ Established final inviteBob.callId := by
  have tested : reaches [accepting, ringing]
      (fun final => decide (¬ Established final inviteBob.callId)) = true := by
    decide
  obtain ⟨router, result, opened, history, final, accepted, forwarded, ran,
    holds⟩ := exists_of_reaches tested
  exact ⟨router, result, opened, history, final, accepted, forwarded,
    List.forall_mem_cons.mpr ⟨accepting_respondsTo,
      List.forall_mem_singleton.mpr ringing_respondsTo⟩,
    ⟨accepting, List.mem_cons_self, by decide⟩, ran,
    of_decide_eq_true holds⟩

theorem established_iff_rung_bob :
    ∃ opened history final,
      run (step plainConfig) opened [ringing, accepting] =
        .ok (history, final) ∧
      Established final inviteBob.callId := by
  have tested : reaches [ringing, accepting] (fun _ => true) = true := by
    decide
  obtain ⟨router, result, opened, -, -, accepted, forwarded, -, -⟩ :=
    exists_of_reaches tested
  obtain ⟨history, final, ran, established, -⟩ :=
    established_iff_rung accepted (by decide) forwarded [ringing, accepting]
      (List.forall_mem_cons.mpr ⟨ringing_respondsTo,
        List.forall_mem_singleton.mpr accepting_respondsTo⟩)
  refine ⟨opened, history, final, ran, established.mpr ⟨?_, by decide⟩⟩
  exact ⟨[], ringing, [accepting], rfl, by decide, accepting,
    List.mem_singleton_self _, by decide⟩

end SIPRouter

end MinimalSip.Proxy

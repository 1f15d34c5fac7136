import MinimalSip.Calls.CallRelation

/-!
# What the clients do in the call

A client in some phase that handles a text for a signal, or an action of its
user, is afterwards in the phase of the abstract reaction and has sent texts
for the abstract answers.
-/

namespace MinimalSip.Calls

open MinimalSip.Lib.Cpp
open MinimalSip.Lib.Search
open MinimalSip.Common
open MinimalSip.Client
open MinimalSip.Proxy

variable {setup : Setup} {sender target : Party} {host : CppString}
variable {client next : SIPClient CppString} {effects : Effects CppString}
variable {method text raw : CppString} {status : Status}

/-! ## What a client writes -/

/-- The user and the domain that a client splits its identity into. -/
theorem splitLocal_identity (party : Party) :
    SIPClient.splitLocal party.identity = .ok (party.user, party.domain) := by
  have noAt : '@' ∉ party.user := party.plainUser.plain '@' (by decide)
  have shape : party.identity = party.user ++ '@' :: party.domain := by
    unfold Party.identity Client.identity
    rw [List.append_assoc]
    rfl
  have found : find "@" party.identity = some party.user.length := by
    rw [shape]
    exact find_singleton_append noAt party.domain
  have start : 0 ≤ party.identity.length := Nat.zero_le _
  have inside : next (some party.user.length) ≤ party.identity.length := by
    rw [shape, next, List.length_append, List.length_cons]
    omega
  have user : (party.identity.drop 0).take party.user.length =
      party.user := by
    rw [shape, List.drop_zero, List.take_left]
  have domain : party.identity.drop (next (some party.user.length)) =
      party.domain := by
    rw [shape, next]
    simp
  rw [SIPClient.splitLocal, found, substr_some start, user, ok_bind,
    substr_none inside, domain]
  rfl

theorem remoteParts (party : Party) :
    splitSipUri ("sip:".toList ++ party.identity) =
      (party.user, party.domain) :=
  splitSipUri_identity party.plainUser party.plainDomain

theorem written_request
    (known : method ∈ callMethods) (belongs : Belongs sender host client) :
    Written setup method sender target (Wire.ofRequest
      (client.factory.request method sender.user sender.domain target.user
        target.domain setup.callId (client.pendingHeaders method))) := by
  have plainHost : PlainHost client.factory.localIp :=
    belongs.localIp ▸ belongs.plainHost
  refine ⟨_, isRequest_request known plainHost belongs.counted, ?_⟩
  rw [belongs.noHeaders, request_eq known]
  exact serialize_eq_text

theorem written_errorAck
    (belongs : Belongs sender host client)
    (built : Wire.buildAckForError client.factory sender.user sender.domain
      target.user target.domain setup.callId raw = .ok text) :
    Written setup "ACK" sender target text := by
  have plainHost : PlainHost client.factory.localIp :=
    belongs.localIp ▸ belongs.plainHost
  change client.factory.buildAckForError _ _ _ _ _ raw = _ at built
  unfold SIPMessageFactory.buildAckForError at built
  cases number : SIPMessageFactory.cseqNumber raw with
  | error thrown =>
      rw [number] at built
      cases built
  | ok cseqNum =>
      rw [number] at built
      cases built
      refine ⟨_, isRequest_errorAck plainHost cseqNum, ?_⟩
      rw [errorAck_eq]
      exact serialize_eq_text

/-- The answer to a forwarded request goes back by the proxy's Via. -/
theorem answering_relayed
    {code : Int} {reason : CppString}
    (relayed : Relayed setup method sender target raw)
    (answers : status.Answers code reason) :
    Answering setup status method (Wire.buildResponse code reason raw []) := by
  obtain ⟨call, request, rfl⟩ := relayed
  have forwarded := request.forwarded setup.transport
    (SIPRouter.proxyPort setup.config.router setup.transport)
  refine ⟨_, forwarded.answer answers, rfl, ?_⟩
  exact buildResponse_eq forwarded.plain forwarded.sent code reason

theorem answers_trying : Status.Answers .trying 100 "Trying" where
  line := by decide
  piece := piece_literal "Trying" (by decide)

theorem answers_ringing : Status.Answers .ringing 180 "Ringing" where
  line := by decide
  piece := piece_literal "Ringing" (by decide)

theorem answers_ok : Status.Answers .ok 200 "OK" where
  line := by decide
  piece := piece_literal "OK" (by decide)

theorem answers_decline : Status.Answers .decline 603 "Decline" where
  line := by decide
  piece := piece_literal "Decline" (by decide)

theorem remoteUri_eq (party : Party) :
    "sip:".toList ++ party.user ++ "@".toList ++ party.domain =
      "sip:".toList ++ party.identity := by
  unfold Party.identity Client.identity
  simp only [List.append_assoc]

/-! ## What a client keeps -/

/-- A request was sent, and the state may have changed. -/
theorem Belongs.advanced
    (belongs : Belongs sender host client)
    {manager : SIPClientStateManager}
    (same : manager.registeredUser = client.state.registeredUser) :
    Belongs sender host { client with
      state := manager, factory := client.factory.advance } :=
  { belongs with
    registeredUser := same.trans belongs.registeredUser
    counted := Int.add_nonneg belongs.counted (by decide) }

theorem Belongs.changed
    (belongs : Belongs sender host client)
    (manager : SIPClientStateManager)
    (same : manager.registeredUser = client.state.registeredUser)
    (invite : Option CppString) :
    Belongs sender host { client with
      state := manager, pendingInvite := invite } :=
  { belongs with registeredUser := same.trans belongs.registeredUser }

theorem Belongs.setPendingHeaders
    (belongs : Belongs sender host client) (method : CppString) :
    Belongs sender host (client.setPendingHeaders method []) :=
  { belongs with
    noHeaders := fun other => by
      unfold SIPClient.setPendingHeaders
      dsimp only
      split_ifs
      · rfl
      · exact belongs.noHeaders other }

/-- The handler for a received text starts from an equal client. -/
theorem Belongs.handleReceive
    (belongs : Belongs sender host client) (text : CppString) :
    Belongs sender host (client.handleReceive text) := by
  unfold SIPClient.handleReceive
  dsimp only
  split_ifs
  · exact { belongs with }
  · exact belongs

/-! ## Actions of the users -/

theorem callerIs_place
    (phase : CallerIs setup .idle client)
    (stepped : client.step (.doInvite setup.drawn setup.callerParty.user
      setup.callerParty.domain setup.calleeParty.user
        setup.calleeParty.domain) = .ok (effects, next)) :
    CallerIs setup .waiting next ∧
      List.Forall₂ (FromCaller.Text setup) [.invite] effects.sent := by
  obtain ⟨belongs, free⟩ := phase
  have registered : client.state.isRegistered = true := by
    simp [SIPClientStateManager.isRegistered, free.state]
  have idle : client.state.isBusy = false := by
    simp [SIPClientStateManager.isBusy, free.state]
  have known : client.factory.newCallId setup.drawn = setup.callId := by
    unfold SIPMessageFactory.newCallId Setup.callId
      SIPMessageFactory.newCallId
    rw [belongs.localIp]
  simp only [SIPClient.step, SIPClient.handleInvite, registered, idle, known,
    Except.ok.injEq, not_true_eq_false, Bool.false_eq_true, if_false]
    at stepped
  cases stepped
  have engaged : Engaged setup setup.calleeParty (client.state.onCalling
      setup.callId ("sip:".toList ++ setup.calleeParty.user ++ "@".toList ++
        setup.calleeParty.domain)) :=
    ⟨rfl, remoteUri_eq setup.calleeParty⟩
  refine ⟨⟨belongs.advanced rfl, Or.inl rfl, engaged⟩, ?_⟩
  exact List.Forall₂.cons (written_request (by decide) belongs)
    List.Forall₂.nil

/-- A hang up in the call sends a BYE. -/
theorem step_bye_inCall
    (belongs : Belongs sender host client)
    (inCall : client.state.state = .inCall)
    (engaged : Engaged setup target client.state)
    (stepped : client.step (.doBye []) = .ok (effects, next)) :
    (∃ text, effects.sent = [text] ∧
      Written setup "BYE" sender target text) ∧
    Belongs sender host next ∧ Free next.state ∧
      next.pendingInvite = client.pendingInvite := by
  have belongs' := belongs.setPendingHeaders "BYE"
  have active : (client.setPendingHeaders "BYE" []).state.isInCall = true := by
    change decide (client.state.state = .inCall) = true
    exact decide_eq_true inCall
  have registeredUser :
      (client.setPendingHeaders "BYE" []).state.registeredUser =
        sender.identity := belongs.registeredUser
  have callId : (client.setPendingHeaders "BYE" []).state.activeCallId =
      setup.callId := engaged.callId
  have remoteUri : (client.setPendingHeaders "BYE" []).state.activeRemoteUri =
      "sip:".toList ++ target.identity := engaged.remoteUri
  simp only [SIPClient.step, SIPClient.handleBye, active, registeredUser,
    callId, remoteUri, remoteParts, splitLocal_identity, ok_bind,
    pure_eq_ok, not_true_eq_false, if_false, Except.map, SIPClient.quiet,
    Except.ok.injEq] at stepped
  cases stepped
  exact ⟨⟨_, rfl, written_request (by decide) belongs'⟩,
    belongs'.advanced rfl, ⟨rfl, rfl⟩, rfl⟩

/-- Out of the call it does nothing. -/
theorem step_bye_other
    (belongs : Belongs sender host client)
    (other : client.state.state ≠ .inCall)
    (stepped : client.step (.doBye []) = .ok (effects, next)) :
    effects.sent = [] ∧ Belongs sender host next ∧
      next.state = client.state ∧
      next.pendingInvite = client.pendingInvite := by
  have inactive :
      (client.setPendingHeaders "BYE" []).state.isInCall = false := by
    change decide (client.state.state = .inCall) = false
    exact decide_eq_false other
  simp only [SIPClient.step, SIPClient.handleBye, inactive,
    Bool.false_eq_true, not_false_eq_true, if_true, Except.map,
    SIPClient.quiet, Except.ok.injEq] at stepped
  cases stepped
  exact ⟨rfl, belongs.setPendingHeaders "BYE", rfl, rfl⟩

theorem callerIs_hangsUp
    (phase : CallerIs setup .talking client)
    (stepped : client.step (.doBye []) = .ok (effects, next)) :
    CallerIs setup .hungUp next ∧
      List.Forall₂ (FromCaller.Text setup) [.bye] effects.sent := by
  obtain ⟨belongs, inCall, engaged⟩ := phase
  obtain ⟨⟨text, sent, written⟩, belongs', free, -⟩ :=
    step_bye_inCall belongs inCall engaged stepped
  refine ⟨⟨belongs', free⟩, ?_⟩
  rw [sent]
  exact List.Forall₂.cons written List.Forall₂.nil

theorem callerIs_hangsUp_other
    {phase : CallerPhase} (shown : CallerIs setup phase client)
    (other : phase ≠ .talking)
    (stepped : client.step (.doBye []) = .ok (effects, next)) :
    CallerIs setup phase next ∧ effects.sent = [] := by
  obtain ⟨sent, belongs, sameState, -⟩ := step_bye_other shown.belongs
    (fun inCall => other (shown.inCall_iff.mp inCall)) stepped
  exact ⟨⟨belongs, sameState ▸ shown.shown⟩, sent⟩

theorem calleeIs_hangsUp
    (phase : CalleeIs setup .talking client)
    (stepped : client.step (.doBye []) = .ok (effects, next)) :
    CalleeIs setup .hungUp next ∧
      List.Forall₂ (FromCallee.Text setup) [.bye] effects.sent := by
  obtain ⟨belongs, inCall, engaged, noInvite⟩ := phase
  obtain ⟨⟨text, sent, written⟩, belongs', free, invite⟩ :=
    step_bye_inCall belongs inCall engaged stepped
  refine ⟨⟨belongs', free, invite.trans noInvite⟩, ?_⟩
  rw [sent]
  exact List.Forall₂.cons written List.Forall₂.nil

/-- What a phase shows depends on the state and the waiting INVITE only. -/
theorem CalleePhase.Shown.congr
    {phase : CalleePhase} (shown : phase.Shown setup client)
    (state : next.state = client.state)
    (invite : next.pendingInvite = client.pendingInvite) :
    phase.Shown setup next := by
  cases phase <;>
    simpa only [CalleePhase.Shown, state, invite] using shown

theorem calleeIs_hangsUp_other
    {phase : CalleePhase} (shown : CalleeIs setup phase client)
    (other : phase ≠ .talking)
    (stepped : client.step (.doBye []) = .ok (effects, next)) :
    CalleeIs setup phase next ∧ effects.sent = [] := by
  obtain ⟨sent, belongs, sameState, invite⟩ := step_bye_other shown.belongs
    (fun inCall => other (shown.inCall_iff.mp inCall)) stepped
  exact ⟨⟨belongs, shown.shown.congr sameState invite⟩, sent⟩

theorem calleeIs_answers
    (phase : CalleeIs setup .ringing client)
    (stepped : client.step .doAnswer = .ok (effects, next)) :
    CalleeIs setup .talking next ∧
      List.Forall₂ (FromCallee.Text setup) [.ok] effects.sent := by
  obtain ⟨belongs, ringing, engaged, invite, pending, relayed⟩ := phase
  simp only [SIPClient.step, SIPClient.handleAnswer, pending,
    belongs.noHeaders, Except.ok.injEq] at stepped
  cases stepped
  have kept : Engaged setup setup.callerParty client.state.onCallEstablished :=
    ⟨engaged.callId, engaged.remoteUri⟩
  refine ⟨⟨belongs.changed client.state.onCallEstablished rfl none,
    rfl, kept, rfl⟩, ?_⟩
  exact List.Forall₂.cons (answering_relayed relayed answers_ok)
    List.Forall₂.nil

theorem calleeIs_rejects
    (phase : CalleeIs setup .ringing client)
    (stepped : client.step .doReject = .ok (effects, next)) :
    CalleeIs setup .ended next ∧
      List.Forall₂ (FromCallee.Text setup) [.decline] effects.sent := by
  obtain ⟨belongs, ringing, engaged, invite, pending, relayed⟩ := phase
  simp only [SIPClient.step, SIPClient.handleReject, pending,
    Except.ok.injEq] at stepped
  cases stepped
  refine ⟨⟨belongs.changed client.state.onCallTerminated rfl none,
    ⟨rfl, rfl⟩, rfl⟩, ?_⟩
  exact List.Forall₂.cons (answering_relayed relayed answers_decline)
    List.Forall₂.nil

/-- Without a waiting INVITE there is nothing to answer or to reject. -/
theorem calleeIs_decides_other
    {phase : CalleePhase} (shown : CalleeIs setup phase client)
    (other : phase ≠ .ringing) {event : Event CppString}
    (decides : event = .doAnswer ∨ event = .doReject)
    (stepped : client.step event = .ok (effects, next)) :
    next = client ∧ effects.sent = [] := by
  have none := shown.pendingInvite_of_other other
  rcases decides with rfl | rfl
  · simp only [SIPClient.step, SIPClient.handleAnswer, none,
      Except.ok.injEq] at stepped
    cases stepped
    exact ⟨rfl, rfl⟩
  · simp only [SIPClient.step, SIPClient.handleReject, none,
      Except.ok.injEq] at stepped
    cases stepped
    exact ⟨rfl, rfl⟩

/-! ## Received texts -/

/-- A received text that the handlers read. -/
theorem onMessage_of_received
    (stepped : client.step (.received text) = .ok (effects, next)) :
    (client.handleReceive text).onMessage text = .ok (effects.sent, next) :=
  (SIPClient.onPacketReceived_ok_iff.mp stepped).1

theorem CallerIs.handleReceive
    {phase : CallerPhase} (shown : CallerIs setup phase client)
    (text : CppString) :
    CallerIs setup phase (client.handleReceive text) where
  belongs := shown.belongs.handleReceive text
  shown := (SIPClient.handleReceive_state client text).1 ▸ shown.shown

theorem CalleeIs.handleReceive
    {phase : CalleePhase} (shown : CalleeIs setup phase client)
    (text : CppString) :
    CalleeIs setup phase (client.handleReceive text) where
  belongs := shown.belongs.handleReceive text
  shown := by
    obtain ⟨state, invite⟩ := SIPClient.handleReceive_state client text
    exact shown.shown.congr state invite

theorem Relayed.written
    (relayed : Relayed setup method sender target text) :
    Written setup method sender target text := by
  obtain ⟨call, request, rfl⟩ := relayed
  exact ⟨_, request.forwarded setup.transport _, rfl⟩

theorem Written.extractCallId
    (written : Written setup method sender target text) :
    Wire.extractCallId text = setup.callId := by
  obtain ⟨call, request, rfl⟩ := written
  exact extractCallId_of_plain request.plain request.callId

theorem Written.onMessage_bye
    (written : Written setup "BYE" sender target text)
    (client : SIPClient CppString) :
    client.onMessage text = .ok (client.handleIncomingBye text) := by
  obtain ⟨call, request, rfl⟩ := written
  refine SIPClient.onMessage_bye ?_ (request.isBye_iff.mpr rfl)
  rw [request.isInvite_iff]
  decide

theorem Written.onMessage_invite
    (written : Written setup "INVITE" sender target text)
    (client : SIPClient CppString) :
    client.onMessage text = .ok (client.handleIncomingInvite text) := by
  obtain ⟨call, request, rfl⟩ := written
  exact SIPClient.onMessage_invite (request.isInvite_iff.mpr rfl)

theorem callId_nonempty (setup : Setup) : setup.callId ≠ [] :=
  setup.dialog.callIdPlain.nonempty

/-- A BYE for the active call is confirmed and ends it. -/
theorem onMessage_bye_active
    (relayed : Relayed setup "BYE" sender target text)
    (belongs : Belongs target host client)
    (active : client.state.activeCallId = setup.callId)
    (handled : client.onMessage text = .ok (effects.sent, next)) :
    (∃ answer, effects.sent = [answer] ∧
      Answering setup .ok "BYE" answer) ∧
    Belongs target host next ∧ Free next.state ∧
      next.pendingInvite = client.pendingInvite := by
  have callId := relayed.written.extractCallId
  rw [relayed.written.onMessage_bye, SIPClient.handleIncomingBye, callId,
    if_neg (callId_nonempty setup), if_neg (not_not.mpr active.symm),
    belongs.noHeaders, Except.ok.injEq, Prod.mk.injEq] at handled
  obtain ⟨sent, rfl⟩ := handled
  exact ⟨⟨_, sent.symm, answering_relayed relayed answers_ok⟩,
    belongs.changed client.state.onCallTerminated rfl client.pendingInvite,
    ⟨rfl, rfl⟩, rfl⟩

/-- A BYE for another call does nothing. -/
theorem onMessage_bye_other
    (relayed : Relayed setup "BYE" sender target text)
    (other : client.state.activeCallId ≠ setup.callId) :
    client.onMessage text = .ok ([], client) := by
  rw [relayed.written.onMessage_bye, SIPClient.handleIncomingBye,
    relayed.written.extractCallId, if_neg (callId_nonempty setup),
    if_pos other.symm]

theorem Returned.onMessage_other
    (returned : Returned setup status method text)
    (other : client.state.activeCallId ≠ setup.callId) :
    client.onMessage text = .ok ([], client) := by
  obtain ⟨call, response, rfl⟩ := returned
  rw [response.onMessage]
  exact if_neg other

theorem Returned.onMessage_active
    (returned : Returned setup status method text)
    (active : client.state.activeCallId = setup.callId) :
    client.onMessage text = client.handleStatus text status.code := by
  obtain ⟨call, response, rfl⟩ := returned
  rw [response.onMessage]
  exact if_pos active

/-! ### The caller -/

/-- A caller that is not in the call ignores every text of it. -/
theorem onMessage_of_inactive
    {signal : ToCaller} (text_of : ToCaller.Text setup signal text)
    (other : client.state.activeCallId ≠ setup.callId) :
    client.onMessage text = .ok ([], client) := by
  cases signal with
  | trying => exact Returned.onMessage_other text_of other
  | ringing => exact Returned.onMessage_other text_of other
  | ok => exact Returned.onMessage_other text_of other
  | decline => exact Returned.onMessage_other text_of other
  | bye => exact onMessage_bye_other text_of other
  | okBye => exact Returned.onMessage_other text_of other
  | refusal =>
      obtain ⟨method, returned⟩ := text_of
      exact returned.onMessage_other other

theorem CallerIs.engaged
    {phase : CallerPhase} (shown : CallerIs setup phase client)
    (active : phase.Active) :
    Engaged setup setup.calleeParty client.state := by
  rcases active with rfl | rfl
  · exact shown.shown.2
  · exact shown.shown.2

theorem callerIs_hears200
    (belongs : Belongs setup.callerParty setup.caller.factory.localIp client)
    (engaged : Engaged setup setup.calleeParty client.state)
    (handled : client.handle200OkInvite = .ok (effects.sent, next)) :
    CallerIs setup .talking next ∧
      List.Forall₂ (FromCaller.Text setup) [.ack] effects.sent := by
  simp only [SIPClient.handle200OkInvite, belongs.registeredUser,
    splitLocal_identity, engaged.callId, engaged.remoteUri, remoteParts,
    ok_bind, pure_eq_ok, Except.ok.injEq, Prod.mk.injEq] at handled
  obtain ⟨sent, rfl⟩ := handled
  have kept : Engaged setup setup.calleeParty client.state.onCallEstablished :=
    ⟨engaged.callId, engaged.remoteUri⟩
  refine ⟨⟨belongs.advanced rfl, rfl, kept⟩, ?_⟩
  rw [← sent]
  exact List.Forall₂.cons (written_request (by decide) belongs)
    List.Forall₂.nil

theorem callerIs_hearsError
    (belongs : Belongs setup.callerParty setup.caller.factory.localIp client)
    (engaged : Engaged setup setup.calleeParty client.state)
    (handled : client.handleError text = .ok (effects.sent, next)) :
    CallerIs setup .ended next ∧
      List.Forall₂ (FromCaller.Text setup) [.ack] effects.sent := by
  simp only [SIPClient.handleError, belongs.registeredUser,
    splitLocal_identity, engaged.callId, engaged.remoteUri, remoteParts,
    ok_bind, pure_eq_ok] at handled
  cases built : (Wire.buildAckForError client.factory setup.callerParty.user
      setup.callerParty.domain setup.calleeParty.user setup.calleeParty.domain
        setup.callId text : Except StdException CppString) with
  | error thrown =>
      rw [built] at handled
      cases handled
  | ok ack =>
      rw [built, ok_bind, Except.ok.injEq, Prod.mk.injEq] at handled
      obtain ⟨sent, rfl⟩ := handled
      refine ⟨⟨belongs.changed client.state.onCallTerminated rfl
        client.pendingInvite, rfl, rfl⟩, ?_⟩
      rw [← sent]
      exact List.Forall₂.cons (written_errorAck belongs built)
        List.Forall₂.nil

/-- A caller in the call reacts as its phase does. -/
theorem callerIs_hears
    {phase : CallerPhase} {signal : ToCaller}
    (shown : CallerIs setup phase client) (active : phase.Active)
    (carried : ToCaller.Text setup signal text)
    (handled : client.onMessage text = .ok (effects.sent, next)) :
    CallerIs setup (phase.receive signal).1 next ∧
      List.Forall₂ (FromCaller.Text setup) (phase.receive signal).2
        effects.sent := by
  have belongs := shown.belongs
  have engaged := shown.engaged active
  have own := engaged.callId
  unfold CallerPhase.receive
  rw [if_pos active]
  cases signal with
  | trying =>
      rw [Returned.onMessage_active carried own] at handled
      obtain ⟨sent, rfl⟩ := Prod.mk.inj (Except.ok.inj handled)
      rw [← sent]
      have kept : Engaged setup setup.calleeParty
          (client.state.transitionTo .calling) :=
        ⟨engaged.callId, engaged.remoteUri⟩
      exact ⟨⟨belongs.changed (client.state.transitionTo .calling) rfl
        client.pendingInvite, Or.inl rfl, kept⟩, List.Forall₂.nil⟩
  | ringing =>
      rw [Returned.onMessage_active carried own] at handled
      obtain ⟨sent, rfl⟩ := Prod.mk.inj (Except.ok.inj handled)
      rw [← sent]
      have kept : Engaged setup setup.calleeParty client.state.onRinging :=
        ⟨engaged.callId, engaged.remoteUri⟩
      exact ⟨⟨belongs.changed client.state.onRinging rfl
        client.pendingInvite, Or.inr rfl, kept⟩, List.Forall₂.nil⟩
  | ok =>
      have invite : Wire.extractCseqMethod text = "INVITE".toList := by
        obtain ⟨call, response, rfl⟩ := carried
        exact response.extractCseqMethod (by decide)
      have notBye : ¬ Wire.extractCseqMethod text = "BYE".toList := by
        rw [invite]
        decide
      rw [Returned.onMessage_active carried own] at handled
      have read : client.handleStatus text Status.ok.code =
          client.handle200OkInvite := if_neg notBye
      exact callerIs_hears200 belongs engaged (read.symm.trans handled)
  | decline =>
      rw [Returned.onMessage_active carried own] at handled
      exact callerIs_hearsError belongs engaged handled
  | refusal =>
      obtain ⟨method, returned⟩ := carried
      rw [returned.onMessage_active own] at handled
      exact callerIs_hearsError belongs engaged handled
  | bye =>
      obtain ⟨⟨answer, sent, answering⟩, belongs', free, -⟩ :=
        onMessage_bye_active carried belongs own handled
      rw [sent]
      exact ⟨⟨belongs', free⟩, List.Forall₂.cons answering List.Forall₂.nil⟩
  | okBye =>
      have bye : Wire.extractCseqMethod text = "BYE".toList := by
        obtain ⟨call, response, rfl⟩ := carried
        exact response.extractCseqMethod (by decide)
      rw [Returned.onMessage_active carried own] at handled
      have read : client.handleStatus text Status.ok.code =
          .ok client.handle200OkBye := if_pos bye
      obtain ⟨sent, rfl⟩ :=
        Prod.mk.inj (Except.ok.inj (read.symm.trans handled))
      rw [← sent]
      exact ⟨⟨belongs.changed client.state.onCallTerminated rfl
        client.pendingInvite, rfl, rfl⟩, List.Forall₂.nil⟩

theorem callerIs_receives
    {phase : CallerPhase} {signal : ToCaller}
    (shown : CallerIs setup phase client)
    (carried : ToCaller.Text setup signal text)
    (stepped : client.step (.received text) = .ok (effects, next)) :
    CallerIs setup (phase.receive signal).1 next ∧
      List.Forall₂ (FromCaller.Text setup) (phase.receive signal).2
        effects.sent := by
  have handled := onMessage_of_received stepped
  have kept := shown.handleReceive text
  by_cases active : phase.Active
  · exact callerIs_hears kept active carried handled
  · have other := mt kept.active_iff.mp active
    rw [onMessage_of_inactive carried other] at handled
    obtain ⟨sent, rfl⟩ := Prod.mk.inj (Except.ok.inj handled)
    unfold CallerPhase.receive
    rw [if_neg active, ← sent]
    exact ⟨kept, List.Forall₂.nil⟩

/-! ### The callee -/

/-- An INVITE makes a free callee ring. -/
theorem calleeIs_rings
    (shown : CalleeIs setup .idle client)
    (relayed : Relayed setup "INVITE" setup.callerParty setup.calleeParty
      text)
    (handled : client.onMessage text = .ok (effects.sent, next)) :
    CalleeIs setup .ringing next ∧
      List.Forall₂ (FromCallee.Text setup) [.trying, .ringing]
        effects.sent := by
  obtain ⟨belongs, free, noInvite⟩ := shown
  have callId := relayed.written.extractCallId
  have idle : client.state.isBusy = false := by
    simp [SIPClientStateManager.isBusy, free.state]
  have caller : Wire.callerOf text = setup.callerParty.identity := by
    obtain ⟨call, request, rfl⟩ := relayed.written
    exact request.callerOf
  simp only [relayed.written.onMessage_invite, SIPClient.handleIncomingInvite,
    callId, if_neg (callId_nonempty setup), idle, Bool.false_eq_true,
    if_false, belongs.noHeaders, caller, Except.ok.injEq, Prod.mk.injEq]
    at handled
  obtain ⟨sent, rfl⟩ := handled
  rw [← sent]
  have belongs' := belongs.changed (client.state.onIncomingCall setup.callId
    ("sip:".toList ++ setup.callerParty.identity)) rfl (some text)
  exact ⟨⟨belongs', rfl, ⟨rfl, rfl⟩, text, rfl, relayed⟩,
    List.Forall₂.cons (answering_relayed relayed answers_trying)
      (List.Forall₂.cons (answering_relayed relayed answers_ringing)
        List.Forall₂.nil)⟩

/-- When the client of the callee reacts to a text as its phase does. -/
def ToCallee.InTurn (phase : CalleePhase) : ToCallee → Prop
  | .invite => phase = .idle
  | .ack => True
  | .bye => phase ≠ .ringing
  | .refusal => ¬ phase.Active

theorem calleeIs_receives
    {phase : CalleePhase} {signal : ToCallee}
    (shown : CalleeIs setup phase client)
    (carried : ToCallee.Text setup signal text)
    (inTurn : ToCallee.InTurn phase signal)
    (stepped : client.step (.received text) = .ok (effects, next)) :
    CalleeIs setup (phase.receive signal).1 next ∧
      List.Forall₂ (FromCallee.Text setup) (phase.receive signal).2
        effects.sent := by
  have handled := onMessage_of_received stepped
  have kept := shown.handleReceive text
  have ignores : (client.handleReceive text).onMessage text =
      .ok ([], client.handleReceive text) →
        CalleeIs setup phase next ∧
          List.Forall₂ (FromCallee.Text setup) [] effects.sent := by
    intro ignored
    rw [ignored] at handled
    obtain ⟨sent, rfl⟩ := Prod.mk.inj (Except.ok.inj handled)
    rw [← sent]
    exact ⟨kept, List.Forall₂.nil⟩
  cases signal with
  | invite =>
      obtain rfl : phase = .idle := inTurn
      exact calleeIs_rings kept carried handled
  | ack =>
      refine ignores ?_
      obtain ⟨call, request, rfl⟩ := Relayed.written carried
      exact request.onMessage_ack _
  | bye =>
      by_cases active : phase.Active
      swap
      · rw [CalleePhase.receive, if_neg active]
        exact ignores (onMessage_bye_other carried
          (mt kept.active_iff.mp active))
      obtain ⟨⟨answer, sent, answering⟩, belongs, free, invite⟩ :=
        onMessage_bye_active carried kept.belongs
          (kept.active_iff.mpr active) handled
      rw [CalleePhase.receive, if_pos active, sent]
      have noInvite := kept.pendingInvite_of_other inTurn
      exact ⟨⟨belongs, free, invite.trans noInvite⟩,
        List.Forall₂.cons answering List.Forall₂.nil⟩
  | refusal =>
      obtain ⟨method, returned⟩ := carried
      exact ignores (returned.onMessage_other (mt kept.active_iff.mp inTurn))

end MinimalSip.Calls

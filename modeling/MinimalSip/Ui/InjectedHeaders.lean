import MinimalSip.Ui.WindowState

/-!
# Extra headers for requests and for responses

The handlers for the user's actions ask the widget whether its box is ticked.
The extra headers for responses are handed to the client beforehand, each time
the widget changes while its box is ticked; nothing takes them back when the
box is unticked.
-/

namespace MinimalSip.Ui

open MinimalSip.Lib.Cpp
open MinimalSip.Lib.Machine
open MinimalSip.Client

namespace SipQtApp

variable {ω : Type} [Wire ω] {app next : SipQtApp ω} {event : Event ω}
  {shown : Shown ω}

/-- The responses for which the widget has an editor. -/
def responses : List CppString :=
  ["100".toList, "180".toList, "200".toList]

theorem responses_other :
    ∀ method ∈ responses, method ≠ "REGISTER".toList ∧
      method ≠ "INVITE".toList ∧ method ≠ "ACK".toList ∧
      method ≠ "BYE".toList := by
  decide

omit [Wire ω] in
theorem pendingHeaders_set
    (client : SIPClient ω) (method headers : CppString) :
    (client.setPendingHeaders method headers).pendingHeaders method =
      headers :=
  if_pos rfl

omit [Wire ω] in
theorem pendingHeaders_other
    {client : SIPClient ω} {method other : CppString} (headers : CppString)
    (different : method ≠ other) :
    (client.setPendingHeaders other headers).pendingHeaders method =
      client.pendingHeaders method :=
  if_neg different

/-- The client's headers for responses are those in the editors. -/
def Mirrors (app : SipQtApp ω) : Prop :=
  ∀ method ∈ responses, app.client.pendingHeaders method =
    app.window.headerInjection.headersFor method

omit [Wire ω] in
/-- While the box is ticked, the widget hands its texts on. -/
theorem mirrors_onHeadersChanged
    (ticked : app.window.headerInjection.toggle = true) :
    Mirrors app.onHeadersChanged := by
  rw [onHeadersChanged]
  simp only [HeaderInjectionWidget.isEnabled, ticked, not_true_eq_false,
    if_false]
  intro method member
  simp only [responses, List.mem_cons, List.not_mem_nil, or_false] at member
  obtain rfl | rfl | rfl := member <;>
    simp [SIPClient.setPendingHeaders]

omit [Wire ω] in
/-- While it is not, the texts cannot be edited either. -/
theorem Mirrors.unticked
    {widget : HeaderInjectionWidget}
    (mirrors : Mirrors app)
    (unticked : widget.toggle = false)
    (sameTexts : widget.editors = app.window.headerInjection.editors) :
    Mirrors (app.setHeaderInjection widget).onHeadersChanged := by
  rw [onHeadersChanged]
  simp only [setHeaderInjection, setWindow, HeaderInjectionWidget.isEnabled,
    unticked, Bool.false_eq_true, not_false_eq_true, if_true]
  intro method member
  rw [mirrors method member, HeaderInjectionWidget.headersFor,
    HeaderInjectionWidget.headersFor, sameTexts]

omit [Wire ω] in
/-- What changes neither the headers nor the texts does not matter. -/
theorem Mirrors.keeps
    (mirrors : Mirrors app)
    (sameHeaders : ∀ method ∈ responses,
      next.client.pendingHeaders method = app.client.pendingHeaders method)
    (sameWidget : next.window.headerInjection =
      app.window.headerInjection) :
    Mirrors next := by
  intro method member
  rw [sameHeaders method member, sameWidget]
  exact mirrors method member

theorem Mirrors.move
    (mirrors : Mirrors app) (moved : Move app event shown next) :
    Mirrors next := by
  cases moved with
  | stays event dialog => exact mirrors
  | registersUser username domain given =>
      refine mirrors.keeps (fun method member => ?_) rfl
      exact SIPClient.doRegister_pendingHeaders _ _ _ _
        (responses_other method member).1
  | shows free => exact mirrors.keeps (fun _ _ => rfl) rfl
  | edits event username domain callee =>
      exact mirrors.keeps (fun _ _ => rfl) rfl
  | changesHeaders event widget hidden =>
      cases ticked : widget.toggle with
      | true => exact mirrors_onHeadersChanged ticked
      | false =>
          refine mirrors.unticked ticked (hidden.resolve_left ?_)
          rw [ticked]
          exact Bool.false_ne_true
  | registers username domain looping enabled =>
      refine mirrors.keeps (fun method member => ?_) rfl
      exact SIPClient.doRegister_pendingHeaders _ _ _ _
        (responses_other method member).1
  | calls drawn fromUser fromDomain toUser toDomain looping enabled =>
      refine mirrors.keeps (fun method member => ?_) rfl
      obtain ⟨-, notInvite, notAck, -⟩ := responses_other method member
      have kept := (SIPClient.handleInvite_changesCall app.callingClient
        drawn fromUser fromDomain toUser toDomain).pendingHeaders
      calc (app.callingClient.handleInvite drawn fromUser fromDomain toUser
              toDomain).2.pendingHeaders method
          = app.callingClient.pendingHeaders method := congrFun kept method
        _ = (app.client.setPendingHeaders "INVITE" _).pendingHeaders method :=
            pendingHeaders_other _ notAck
        _ = app.client.pendingHeaders method :=
            pendingHeaders_other _ notInvite
  | hangsUp sent client looping enabled handled =>
      refine mirrors.keeps (fun method member => ?_) rfl
      have kept := (SIPClient.handleBye_changesCall handled).pendingHeaders
      exact (congrFun kept method).trans
        (pendingHeaders_other _ (responses_other method member).2.2.2)
  | answers looping enabled =>
      exact mirrors.keeps (fun method _ => congrFun
        (SIPClient.handleAnswer_changesCall app.client).pendingHeaders
        method) rfl
  | rejects looping enabled =>
      exact mirrors.keeps (fun method _ => congrFun
        (SIPClient.handleReject_changesCall app.client).pendingHeaders
        method) rfl
  | delivers signal rest looping waiting =>
      exact mirrors.keeps (fun _ _ => rfl) (slot_headerInjection _ _ _)
  | waits =>
      exact mirrors.keeps (fun method _ => congrFun
        (SIPClient.registerWaited_settings app.client).pendingHeaders
        method) rfl
  | receives data sent client idle handled =>
      exact mirrors.keeps (fun method _ => congrFun
        ((SIPClient.handleReceive_settings app.client data).trans
          (SIPClient.onMessage_changesCall
            handled).toKeepsSettings).pendingHeaders method) rfl
  | reports data error outstanding reported =>
      exact mirrors.keeps (fun _ _ => rfl) rfl

omit [Wire ω] in
theorem mirrors_initial
    (factory : SIPMessageFactory)
    (autoRegister : Option (CppString × CppString)) :
    Mirrors (initial (ω := ω) factory autoRegister) := by
  intro method member
  have empty : trimmed [] = [] := rfl
  simp [initial, SIPClient.initial, HeaderInjectionWidget.headersFor, empty]

/-! ## What is sent -/

/-- The responses to a request, with the headers that the editors hold. -/
inductive AnswersWith (widget : HeaderInjectionWidget) (raw : ω) :
    ω → Prop where
  | busy :
      AnswersWith widget raw (Wire.buildResponse 486 "Busy Here" raw [])
  | trying :
      AnswersWith widget raw
        (Wire.buildResponse 100 "Trying" raw (widget.headersFor "100"))
  | ringing :
      AnswersWith widget raw
        (Wire.buildResponse 180 "Ringing" raw (widget.headersFor "180"))
  | ok :
      AnswersWith widget raw
        (Wire.buildResponse 200 "OK" raw (widget.headersFor "200"))

theorem answersWith_of_onMessage
    {client left : SIPClient ω} {widget : HeaderInjectionWidget} {raw : ω}
    {sent : List ω}
    (mirrors : ∀ method ∈ responses,
      client.pendingHeaders method = widget.headersFor method)
    (request : SIPClient.IsInvite raw ∨ SIPClient.IsBye raw)
    (handled : client.onMessage raw = .ok (sent, left)) :
    ∀ message ∈ sent, AnswersWith widget raw message := by
  by_cases invite : SIPClient.IsInvite raw
  · have result := Except.ok.inj
      ((SIPClient.onMessage_invite invite).symm.trans handled)
    obtain rfl : (client.handleIncomingInvite raw).1 = sent :=
      congrArg Prod.fst result
    unfold SIPClient.handleIncomingInvite
    dsimp only
    rw [mirrors "100".toList (by decide), mirrors "180".toList (by decide)]
    split_ifs
    · exact fun _ member => nomatch member
    · exact List.forall_mem_singleton.mpr .busy
    · exact List.forall_mem_cons.mpr
        ⟨.trying, List.forall_mem_singleton.mpr .ringing⟩
  · have result := Except.ok.inj ((SIPClient.onMessage_bye invite
      (request.resolve_left invite)).symm.trans handled)
    obtain rfl : (client.handleIncomingBye raw).1 = sent :=
      congrArg Prod.fst result
    unfold SIPClient.handleIncomingBye
    dsimp only
    rw [mirrors "200".toList (by decide)]
    split_ifs
    · exact fun _ member => nomatch member
    · exact fun _ member => nomatch member
    · exact List.forall_mem_singleton.mpr .ok

theorem answersWith_of_handleAnswer
    {client : SIPClient ω} {widget : HeaderInjectionWidget} {message : ω}
    (mirrors : ∀ method ∈ responses,
      client.pendingHeaders method = widget.headersFor method)
    (member : message ∈ client.handleAnswer.1) :
    ∃ invite, client.pendingInvite = some invite ∧
      AnswersWith widget invite message := by
  unfold SIPClient.handleAnswer at member
  cases pending : client.pendingInvite with
  | none =>
      rw [pending] at member
      cases member
  | some invite =>
      rw [pending] at member
      dsimp only at member
      rw [mirrors "200".toList (by decide)] at member
      rw [List.mem_singleton.mp member]
      exact ⟨invite, rfl, .ok⟩

/-- A BYE carries the extra headers that are pending for it. -/
theorem bye_of_handleBye
    {client left : SIPClient ω} {sent : List ω} {message : ω}
    (handled : client.handleBye = .ok (sent, left))
    (member : message ∈ sent) :
    ∃ fromUser fromDomain toUser toDomain,
      message = Wire.ofRequest (client.factory.request "BYE" fromUser
        fromDomain toUser toDomain client.state.activeCallId
        (client.pendingHeaders "BYE")) := by
  obtain ⟨parts, split⟩ :=
    SIPClient.splitLocal_total client.state.registeredUser
  unfold SIPClient.handleBye at handled
  rw [split] at handled
  split_ifs at handled
  · cases handled
    exact ⟨_, _, _, _, List.mem_singleton.mp member⟩
  · cases handled
    cases member

/--
Whether or not the box is ticked, a response to a request carries the headers
in the editor for its code; a BYE carries those in the editor for BYE if the
box is ticked, and none otherwise.
-/
theorem responses_ignore_box
    (factory : SIPMessageFactory)
    (autoRegister : Option (CppString × CppString))
    (inputs : List (Event ω)) {history : List (Event ω × Shown ω)}
    (ran : run step (initial factory autoRegister) inputs =
      .ok (history, app)) :
    (∀ raw shown next, SIPClient.IsInvite raw ∨ SIPClient.IsBye raw →
      app.step (.packetReceived raw) = .ok (shown, next) →
        ∀ message ∈ shown.sent,
          AnswersWith app.window.headerInjection raw message) ∧
    (∀ shown next, app.step .clickAnswer = .ok (shown, next) →
      ∀ message ∈ shown.sent, ∃ invite,
        app.client.pendingInvite = some invite ∧
          AnswersWith app.window.headerInjection invite message) ∧
    ∀ shown next, app.step .clickHangup = .ok (shown, next) →
      ∀ message ∈ shown.sent, ∃ fromUser fromDomain toUser toDomain,
        message = Wire.ofRequest (app.client.factory.request "BYE" fromUser
          fromDomain toUser toDomain app.client.state.activeCallId
          (if app.window.headerInjection.toggle
            then app.window.headerInjection.headersFor "BYE" else [])) := by
  have mirrors : Mirrors app :=
    run_invariant
      (fun stepped mirrors => Mirrors.move mirrors (move_of_step stepped))
      ran (mirrors_initial factory autoRegister)
  refine ⟨fun raw shown next request stepped => ?_,
    fun shown next stepped message member => ?_,
    fun shown next stepped message member => ?_⟩
  · cases move_of_step stepped with
    | receives _ sent client idle handled =>
        refine answersWith_of_onMessage (fun method among => ?_) request
          handled
        rw [(SIPClient.handleReceive_settings app.client raw).pendingHeaders]
        exact mirrors method among
    | _ => exact fun _ member => nomatch member
  · cases move_of_step stepped with
    | answers looping enabled =>
        exact answersWith_of_handleAnswer mirrors member
    | _ => cases member
  · cases move_of_step stepped with
    | hangsUp sent client looping enabled handled =>
        obtain ⟨fromUser, fromDomain, toUser, toDomain, rfl⟩ :=
          bye_of_handleBye handled member
        refine ⟨fromUser, fromDomain, toUser, toDomain, ?_⟩
        rw [hangingUpClient, pendingHeaders_set]
        rfl
    | _ => cases member

/-- Bob unticks the box, and alice still gets his headers. -/
theorem responses_ignore_box_unticked :
    ∃ history app,
      run step bobApp (registeredSession ++
          [.toggleInjection, .typeHeaders "180".toList "X-Bob: 1".toList,
            .toggleInjection]) = .ok (history, app) ∧
        app.window.headerInjection.toggle = false ∧
        app.window.headerInjection.headersFor "180".toList =
          "X-Bob: 1".toList ∧
        ∃ shown next,
          app.step (.packetReceived SIPClient.incomingInvite) =
            .ok (shown, next) ∧ shown.sent.length = 2 ∧
          ∀ message ∈ shown.sent, AnswersWith app.window.headerInjection
            SIPClient.incomingInvite message := by
  have tested : succeedsWith
      (run step bobApp (registeredSession ++
        [.toggleInjection, .typeHeaders "180".toList "X-Bob: 1".toList,
          .toggleInjection]))
      (fun result => decide
          (result.2.window.headerInjection.toggle = false ∧
            result.2.window.headerInjection.headersFor "180".toList =
              "X-Bob: 1".toList) &&
        succeedsWith
          (result.2.step (.packetReceived SIPClient.incomingInvite))
          (fun answered => answered.1.sent.length = 2)) = true := by
    decide +kernel
  obtain ⟨⟨history, app⟩, ran, both⟩ := exists_of_succeedsWith tested
  obtain ⟨typed, goesOn⟩ := (Bool.and_eq_true _ _).mp both
  obtain ⟨unticked, text⟩ := of_decide_eq_true typed
  obtain ⟨⟨shown, next⟩, stepped, two⟩ := exists_of_succeedsWith goesOn
  have request : SIPClient.IsInvite SIPClient.incomingInvite := by
    unfold SIPClient.IsInvite
    decide +kernel
  exact ⟨history, app, ran, unticked, text, shown, next, stepped,
    of_decide_eq_true two, (responses_ignore_box _ _ _ ran).1 _ _ _
      (Or.inl request) stepped⟩

end SipQtApp

end MinimalSip.Ui

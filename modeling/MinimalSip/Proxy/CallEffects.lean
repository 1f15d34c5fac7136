import MinimalSip.Proxy.RouterSteps

/-!
# What a step does to one call

For a fixed Call-ID, a step leaves session and context alone, opens the call,
updates both in place, or removes both.  `Outcome.change` says so for every
effect of the router; coherence, history and isolation results are case
analyses over these four.
-/

namespace MinimalSip.Proxy

open MinimalSip.Lib.Cpp
open MinimalSip.Lib.Search
open MinimalSip.Common
open MinimalSip.Common.SIPMessage

namespace TextMap

theorem erase_modify
    {β : Type} (map : TextMap β) (key : CppString) (change : β → β) :
    Finmap.erase key (map.modify key change) = Finmap.erase key map := by
  apply Finmap.ext_lookup
  intro other
  by_cases same : other = key
  · subst other
    rw [Finmap.lookup_erase, Finmap.lookup_erase]
  · rw [Finmap.lookup_erase_ne same, Finmap.lookup_erase_ne same,
      lookup_modify, if_neg same]

theorem modify_self
    {β : Type} (map : TextMap β) (key : CppString) :
    map.modify key (fun value => value) = map := by
  apply Finmap.ext_lookup
  intro other
  rw [lookup_modify, Option.map_id']
  split_ifs with same
  · rw [same]
  · rfl

end TextMap

namespace SIPRouter

/-! ## Responses -/

@[simp]
theorem stripProxyVia_getStatusCode (message : SIPMessage) :
    (stripProxyVia message).getStatusCode = message.getStatusCode :=
  rfl

/-- Stripping a Via hides no other header. -/
theorem stripProxyVia_getHeader
    (message : SIPMessage) {name : CppString} (other : name ≠ "Via".toList) :
    (stripProxyVia message).getHeader name = message.getHeader name := by
  obtain ⟨startLine, headers, body⟩ := message
  induction headers with
  | nil => rfl
  | cons header rest ih =>
      cases proxy : isProxyVia header with
      | true =>
          have via : header.name = "Via".toList := by
            simp only [isProxyVia, Bool.and_eq_true,
              decide_eq_true_eq] at proxy
            exact proxy.1
          simp only [stripProxyVia, List.eraseP_cons_of_pos proxy,
            getHeader_cons, via, if_neg other.symm]
      | false =>
          have kept : ¬ isProxyVia header = true := by simp [proxy]
          simp only [stripProxyVia, List.eraseP_cons_of_neg kept,
            getHeader_cons]
          split_ifs with same
          · rfl
          · exact ih

/-- The responses on which the router drops the call. -/
def Releases (message : SIPMessage) : Prop :=
  (message.getStatusCode = 200 ∧
    contains (message.getHeader "CSeq") "BYE" = true) ∨
  (message.getStatusCode = 486 ∧
    contains (message.getHeader "CSeq") "INVITE" = true)

/-- The response on which only the gauge is stepped down. -/
def Declines (message : SIPMessage) : Prop :=
  message.getStatusCode = 603 ∧
    contains (message.getHeader "CSeq") "INVITE" = true

instance (message : SIPMessage) : Decidable (Releases message) :=
  inferInstanceAs (Decidable (_ ∨ _))

instance (message : SIPMessage) : Decidable (Declines message) :=
  inferInstanceAs (Decidable (_ ∧ _))

theorem releases_stripProxyVia (message : SIPMessage) :
    Releases (stripProxyVia message) ↔ Releases message := by
  have cseq := stripProxyVia_getHeader message
    (show "CSeq".toList ≠ "Via".toList by decide)
  simp only [Releases, stripProxyVia_getStatusCode, cseq]

theorem declines_stripProxyVia (message : SIPMessage) :
    Declines (stripProxyVia message) ↔ Declines message := by
  have cseq := stripProxyVia_getHeader message
    (show "CSeq".toList ≠ "Via".toList by decide)
  simp only [Declines, stripProxyVia_getStatusCode, cseq]

@[simp]
theorem responseResult_action
    (config : RouterConfig) (context : CallContext) (forwarded : SIPMessage) :
    (responseResult config context forwarded).action = .forwardResponse := by
  unfold responseResult
  dsimp only
  split_ifs <;> rfl

/-- The session has seen the response, a 200 to INVITE left its headers. -/
def noteResponse
    (router : SIPRouter) (callId : CppString) (forwarded : SIPMessage) :
    SIPRouter :=
  { router with
    registry := router.registry.modify callId
      (fun session => session.onResponse forwarded)
    callContexts := router.callContexts.modify callId (fun context =>
      if forwarded.getStatusCode = 200 ∧
          contains (forwarded.getHeader "CSeq") "INVITE" = true then
        { context with
          calleeStoredHeaders :=
            context.calleeStoredHeaders.assignAll forwarded.headers }
      else context) }

/-- The router without a call. -/
def dropCall (router : SIPRouter) (callId : CppString) : SIPRouter :=
  { router with
    registry := router.registry.erase callId
    callContexts := router.callContexts.erase callId }

/-- The router with the gauge stepped down. -/
def stepDown (router : SIPRouter) : SIPRouter :=
  { router with metrics := router.metrics.decActiveCalls }

/-- Dropping the call forgets what the response changed in it. -/
theorem releaseCall_noteResponse
    (router : SIPRouter) (callId : CppString) (forwarded : SIPMessage) :
    releaseCall (router.noteResponse callId forwarded) callId =
      (router.dropCall callId).stepDown := by
  simp only [releaseCall, CallRegistry.removeCall, noteResponse, dropCall,
    stepDown, TextMap.erase_modify]

theorem storeCalleeHeaders_eq_noteResponse
    (router : SIPRouter) (callId : CppString) (forwarded : SIPMessage) :
    (if forwarded.getStatusCode = 200 ∧
        contains (forwarded.getHeader "CSeq") "INVITE" = true then
      storeCalleeHeaders { router with
        registry := router.registry.modify callId
          (fun session => session.onResponse forwarded) } callId forwarded
    else { router with
        registry := router.registry.modify callId
          (fun session => session.onResponse forwarded) }) =
      router.noteResponse callId forwarded := by
  unfold noteResponse storeCalleeHeaders
  split_ifs with answered
  · rfl
  · rw [TextMap.modify_self]

/-- The branches of `handle_response` exclude each other. -/
theorem applyResponse_eq
    (router : SIPRouter) (callId : CppString) (forwarded : SIPMessage) :
    applyResponse router callId forwarded =
      if Releases forwarded then (router.dropCall callId).stepDown
      else if Declines forwarded then
        (router.noteResponse callId forwarded).stepDown
      else router.noteResponse callId forwarded := by
  have unfolded : applyResponse router callId forwarded =
      (let router := router.noteResponse callId forwarded
       let router := if Declines forwarded then router.stepDown else router
       let router :=
         if forwarded.getStatusCode = 200 ∧
             contains (forwarded.getHeader "CSeq") "BYE" = true
         then releaseCall router callId else router
       if forwarded.getStatusCode = 486 ∧
           contains (forwarded.getHeader "CSeq") "INVITE" = true
       then releaseCall router callId else router) := by
    rw [← storeCalleeHeaders_eq_noteResponse]
    rfl
  rw [unfolded]
  by_cases decline : Declines forwarded
  · have code := decline.1
    have notBye : ¬ (forwarded.getStatusCode = 200 ∧
        contains (forwarded.getHeader "CSeq") "BYE" = true) := by omega
    have notBusy : ¬ (forwarded.getStatusCode = 486 ∧
        contains (forwarded.getHeader "CSeq") "INVITE" = true) := by omega
    have kept : ¬ Releases forwarded := not_or.mpr ⟨notBye, notBusy⟩
    simp only [if_pos decline, if_neg notBye, if_neg notBusy, if_neg kept]
  · simp only [if_neg decline]
    by_cases bye : forwarded.getStatusCode = 200 ∧
        contains (forwarded.getHeader "CSeq") "BYE" = true
    · have code := bye.1
      have notBusy : ¬ (forwarded.getStatusCode = 486 ∧
          contains (forwarded.getHeader "CSeq") "INVITE" = true) := by omega
      have released : Releases forwarded := Or.inl bye
      rw [if_pos bye, if_neg notBusy, if_pos released,
        releaseCall_noteResponse]
    · rw [if_neg bye]
      by_cases busy : forwarded.getStatusCode = 486 ∧
          contains (forwarded.getHeader "CSeq") "INVITE" = true
      · have released : Releases forwarded := Or.inr busy
        rw [if_pos busy, if_pos released, releaseCall_noteResponse]
      · have kept : ¬ Releases forwarded := not_or.mpr ⟨bye, busy⟩
        rw [if_neg busy, if_neg kept]

/-! ## Requests -/

/-- The call's session has seen its BYE. -/
def Terminated (router : SIPRouter) (callId : CppString) : Prop :=
  ∃ session, router.registry.lookup callId = some session ∧
    session.state = .terminated

/-- An ACK leaves the session as it is. -/
theorem noteRequest_ack
    {router : SIPRouter} {received : Received}
    (method : received.method = "ACK".toList) :
    router.noteRequest received = router := by
  have note : (fun session : CallSession =>
      session.onRequest received.message) = fun session => session := by
    funext session
    simp only [CallSession.onRequest, received.getMethod_eq, method]
    exact session.applyEvent_ack
  rw [noteRequest, note, TextMap.modify_self]

theorem removeTerminated_of_terminated
    {router : SIPRouter} {callId : CppString}
    (terminated : Terminated router callId) :
    removeTerminated router callId = router.dropCall callId := by
  obtain ⟨session, held, ended⟩ := terminated
  simp only [removeTerminated, CallRegistry.findCall, held,
    CallSession.isTerminated, ended]
  rfl

theorem removeTerminated_of_not_terminated
    {router : SIPRouter} {callId : CppString}
    (running : ¬ Terminated router callId) :
    removeTerminated router callId = router := by
  unfold removeTerminated CallRegistry.findCall
  cases held : router.registry.lookup callId with
  | none => rfl
  | some session =>
      have going : session.isTerminated = false := by
        rw [CallSession.isTerminated, decide_eq_false_iff_not]
        exact fun ended => running ⟨session, held, ended⟩
      dsimp only
      rw [going]
      rfl

/-! ## The effect on one call -/

/-- The four things that can happen to a call in one step. -/
inductive CallChange
    (router : SIPRouter) (received : Received) (next : SIPRouter)
    (callId : CppString) : Prop where
  | unchanged
      (session : next.registry.lookup callId = router.registry.lookup callId)
      (context : next.callContexts.lookup callId =
        router.callContexts.lookup callId)
  | opened (entry : ContactEntry) (address : CppString × UInt16)
      (own : received.callId = callId)
      (accepted : Admissible router received entry)
      (parsed : calleeAddress entry.contact = .ok address)
      (session : next.registry.lookup callId = some (openedSession received))
      (context : next.callContexts.lookup callId =
        some (openedContext received entry address))
  | updated (note : CallSession → CallSession)
      (keep : HeaderMap → HeaderMap)
      (own : received.callId = callId)
      (forwards : ∀ session, session.state ≤ (note session).state)
      (learns : ∀ stored header, header ∈ (keep stored).entries →
        header ∈ stored.entries ∨ header ∈ received.message.headers)
      (session : next.registry.lookup callId =
        (router.registry.lookup callId).map note)
      (context : next.callContexts.lookup callId =
        (router.callContexts.lookup callId).map (fun context =>
          { context with
            calleeStoredHeaders := keep context.calleeStoredHeaders }))
  | removed
      (own : received.callId = callId)
      (session : next.registry.lookup callId = none)
      (context : next.callContexts.lookup callId = none)

section Changes

variable {router next : SIPRouter} {received : Received}

theorem dropCall_change (callId : CppString) :
    CallChange router received (router.dropCall received.callId) callId := by
  by_cases own : received.callId = callId
  · subst callId
    exact CallChange.removed rfl (Finmap.lookup_erase _ _)
      (Finmap.lookup_erase _ _)
  · exact CallChange.unchanged (Finmap.lookup_erase_ne (Ne.symm own))
      (Finmap.lookup_erase_ne (Ne.symm own))

theorem openCall_change
    {entry : ContactEntry} {address : CppString × UInt16}
    (accepted : Admissible router received entry)
    (parsed : calleeAddress entry.contact = .ok address)
    (callId : CppString) :
    CallChange router received (router.openCall received entry address)
      callId := by
  by_cases own : received.callId = callId
  · subst callId
    exact CallChange.opened entry address rfl accepted parsed
      (Finmap.lookup_insert _) (Finmap.lookup_insert _)
  · exact CallChange.unchanged
      (Finmap.lookup_insert_of_ne _ (Ne.symm own))
      (Finmap.lookup_insert_of_ne _ (Ne.symm own))

theorem noteRequest_change (callId : CppString) :
    CallChange router received (router.noteRequest received) callId := by
  by_cases own : received.callId = callId
  · subst callId
    refine CallChange.updated
      (fun session => session.onRequest received.message) id rfl
      (fun session => session.le_onRequest received.message)
      (fun stored header member => Or.inl member) ?_ ?_
    · simp [noteRequest]
    · simp [noteRequest]
  · refine CallChange.unchanged ?_ rfl
    simp [noteRequest, Ne.symm own]

theorem noteResponse_change
    {forwarded : SIPMessage}
    (part : forwarded.headers ⊆ received.message.headers)
    (callId : CppString) :
    CallChange router received
      (router.noteResponse received.callId forwarded) callId := by
  by_cases own : received.callId = callId
  · subst callId
    refine CallChange.updated
      (fun session => session.onResponse forwarded)
      (fun stored =>
        if forwarded.getStatusCode = 200 ∧
            contains (forwarded.getHeader "CSeq") "INVITE" = true then
          stored.assignAll forwarded.headers
        else stored) rfl
      (fun session => session.le_onResponse forwarded) ?_ ?_ ?_
    · intro stored header member
      split_ifs at member
      · exact (HeaderMap.mem_assignAll member).imp_right (fun inForwarded =>
          part inForwarded)
      · exact Or.inl member
    · simp [noteResponse, -String.reduceToList]
    · simp only [noteResponse, TextMap.lookup_modify, if_true]
      congr 1
      funext context
      split_ifs <;> rfl
  · refine CallChange.unchanged ?_ ?_
    · simp [noteResponse, Ne.symm own, -String.reduceToList]
    · simp [noteResponse, Ne.symm own, -String.reduceToList]

/-- Stepping the gauge changes no call. -/
theorem CallChange.stepDown
    {callId : CppString}
    (change : CallChange router received next callId) :
    CallChange router received next.stepDown callId := by
  cases change with
  | unchanged session context => exact .unchanged session context
  | opened entry address own accepted parsed session context =>
      exact .opened entry address own accepted parsed session context
  | updated note keep own forwards learns session context =>
      exact .updated note keep own forwards learns session context
  | removed own session context => exact .removed own session context

/-- Every effect of the router is one of the four on every call. -/
theorem Outcome.change
    {config : RouterConfig} {result : RoutingResult}
    (outcome : Outcome config router received result next)
    (callId : CppString) :
    CallChange router received next callId := by
  cases outcome with
  | replied => exact .unchanged rfl rfl
  | registered => exact .unchanged rfl rfl
  | invited entry address accepted parsed =>
      exact openCall_change accepted parsed callId
  | acked context method held =>
      rw [noteRequest_ack method]
      by_cases terminated : Terminated router received.callId
      · rw [removeTerminated_of_terminated terminated]
        exact dropCall_change callId
      · rw [removeTerminated_of_not_terminated terminated]
        exact .unchanged rfl rfl
  | byed context method held => exact noteRequest_change callId
  | responded context response held =>
      have part : (stripProxyVia received.message).headers ⊆
          received.message.headers := List.eraseP_subset
      rw [applyResponse_eq]
      split_ifs
      · exact (dropCall_change callId).stepDown
      · exact (noteResponse_change part callId).stepDown
      · exact noteResponse_change part callId

end Changes

end SIPRouter

end MinimalSip.Proxy

import MinimalSip.Client.BuiltRequests
import MinimalSip.Client.Drafts

/-!
# The requests that a client builds

A client that keeps its requests as drafts can note them.  `Logged` holds, next
to the client, every request that it has built, each ACK with the text that it
answers.  A step builds nothing, one request with the next number, or what a
received text calls for: the ACK of an accepted call with the next number, or
the ACK of a failed one with the number that is read in the text.
-/

namespace MinimalSip.Client

open MinimalSip.Lib.Cpp
open MinimalSip.Lib.Machine
open MinimalSip.Common
open MinimalSip.Common.SIPMessage

/-! ## The number of a request -/

/-- The CSeq of a request is this number and its method. -/
def NumberedAs (message : SIPMessage) (number : Int) : Prop :=
  message.getHeader "CSeq" =
    stdToString number ++ " ".toList ++ message.getMethod

def SameCall (one other : SIPMessage) : Prop :=
  one.getHeader "Call-ID" = other.getHeader "Call-ID"

section Numbers

variable {message : SIPMessage} {one other : Int}

theorem NumberedAs.unique
    (numbered : NumberedAs message one) (again : NumberedAs message other) :
    one = other := by
  have same := numbered.symm.trans again
  rw [List.append_assoc, List.append_assoc] at same
  exact stdToString_inj (List.append_cancel_right same)

variable {factory : SIPMessageFactory}
variable {fromUser fromDomain toUser toDomain callId : CppString}

/-- A request without extra lines as the handlers build it. -/
structure Request (message : SIPMessage) (method : CppString) (number : Int) :
    Prop where
  method : message.getMethod = method
  numbered : NumberedAs message number

theorem request_request
    {method : CppString} (known : method ∈ builtMethods) :
    Request (factory.request method fromUser fromDomain toUser toDomain
      callId []) method factory.cseq := by
  have named : (factory.request method fromUser fromDomain toUser toDomain
      callId []).getMethod = method := getMethod_of_built known _ _ _
  refine ⟨named, ?_⟩
  rw [NumberedAs, named]
  rfl

theorem request_errorAck (number : Int) :
    Request (factory.errorAck fromUser fromDomain toUser toDomain callId
      number) "ACK" number := by
  have start : "ACK ".toList = "ACK".toList ++ " ".toList := by decide
  have tail : " ACK".toList = " ".toList ++ "ACK".toList := by decide
  have named : (factory.errorAck fromUser fromDomain toUser toDomain callId
      number).getMethod = "ACK".toList := by
    rw [SIPMessageFactory.errorAck, start]
    exact getMethod_of_built (by decide) _ _ _
  refine ⟨named, ?_⟩
  rw [NumberedAs, named, List.append_assoc, ← tail]
  rfl

end Numbers

/-! ## Built requests -/

/-- A built request and, if it is an ACK, the text that it answers. -/
structure Built where
  message : SIPMessage
  answers : Option CppString := none

/-- The event adds no header lines. -/
def Headerless : Event CppString → Prop
  | .doRegister _ _ extraHeaders => extraHeaders = []
  | .doBye extraHeaders => extraHeaders = []
  | .setPendingHeaders _ headers => headers = []
  | _ => True

/-- An event without extra header lines. -/
def HeaderlessEvent : Type :=
  { event : Event CppString // Headerless event }

/-- The text that a handler answers. -/
def answeredText : Event CppString → Option CppString
  | .received raw => some raw
  | _ => none

/-- The requests that an event builds: all that it sends, but no retry. -/
def builtOn (event : Event CppString) (sent : List Draft) : List Built :=
  match event with
  | .registerWaited => []
  | _ => (sent.filterMap Draft.message?).map
      (fun message => ⟨message, answeredText event⟩)

namespace SIPClient

/-- A client and the requests that it has built, the first one in front. -/
structure Logged where
  client : SIPClient Draft
  built : List Built := []

/-- A step of the client on texts, noting what it builds. -/
def loggedStep (logged : Logged) (event : HeaderlessEvent) :
    Except StdException (Effects CppString × Logged) :=
  (logged.client.step (event.val.map .text)).map (fun result =>
    (result.1.map Draft.written,
      { client := result.2
        built := logged.built ++ builtOn event.val result.1.sent }))

theorem loggedStep_ok_iff
    {logged next : Logged} {event : HeaderlessEvent}
    {effects : Effects CppString} :
    loggedStep logged event = .ok (effects, next) ↔
      ∃ drafts, logged.client.step (event.val.map .text) =
          .ok (drafts, next.client) ∧
        effects = drafts.map Draft.written ∧
        next.built = logged.built ++ builtOn event.val drafts.sent := by
  obtain ⟨client, built⟩ := next
  unfold loggedStep
  cases logged.client.step (event.val.map .text) with
  | error thrown =>
      constructor
      · intro stepped
        cases stepped
      · rintro ⟨drafts, stepped, -⟩
        cases stepped
  | ok result =>
      obtain ⟨drafts, client'⟩ := result
      constructor
      · intro stepped
        cases stepped
        exact ⟨drafts, rfl, rfl, rfl⟩
      · rintro ⟨drafts', stepped, rfl, rfl⟩
        cases stepped
        rfl

theorem map_text_written (event : Event CppString) :
    (event.map .text).map Draft.written = event := by
  cases event <;> rfl

/-- Noting the requests does not change what the client does. -/
theorem run_logged (logged : Logged) (events : List HeaderlessEvent) :
    run step (logged.client.map Draft.written) (events.map Subtype.val) =
      (run loggedStep logged events).map (Prod.map
        (List.map (Prod.map Subtype.val id))
        (fun final => final.client.map Draft.written)) := by
  refine run_map (fun logged : Logged => logged.client.map Draft.written)
    Subtype.val id (fun logged event => ?_) logged events
  have erased := step_map Draft.written_wireMap logged.client
    (event.val.map .text)
  rw [map_text_written] at erased
  rw [erased]
  unfold loggedStep
  cases logged.client.step (event.val.map .text) with
  | error thrown => rfl
  | ok result => rfl

/-! ## What a step builds -/

section Taken

variable {ω : Type} [Wire ω]

/-- The client takes the text for a 200 to the INVITE of its call. -/
structure AcceptsCall (client : SIPClient ω) (raw : ω) : Prop where
  concerns : client.Concerns raw
  ok : Wire.extractStatusCode raw = .ok 200
  notBye : Wire.extractCseqMethod raw ≠ "BYE".toList

/-- The client takes the text for a failure of its call. -/
structure FailsCall (client : SIPClient ω) (raw : ω) : Prop where
  concerns : client.Concerns raw
  failure : ∃ code, Wire.extractStatusCode raw = .ok code ∧ 400 ≤ code

theorem acceptsCall_handleReceive {client : SIPClient ω} {raw : ω} :
    (client.handleReceive raw).AcceptsCall raw ↔ client.AcceptsCall raw := by
  constructor
  · intro accepts
    exact { accepts with
      concerns := handleReceive_concerns.mp accepts.concerns }
  · intro accepts
    exact { accepts with
      concerns := handleReceive_concerns.mpr accepts.concerns }

theorem failsCall_handleReceive {client : SIPClient ω} {raw : ω} :
    (client.handleReceive raw).FailsCall raw ↔ client.FailsCall raw := by
  constructor
  · intro fails
    exact { fails with
      concerns := handleReceive_concerns.mp fails.concerns }
  · intro fails
    exact { fails with
      concerns := handleReceive_concerns.mpr fails.concerns }

end Taken

/-- What a received text makes the client build. -/
inductive Reacts
    (client : SIPClient Draft) (raw : CppString)
    (messages : List SIPMessage) (next : SIPClient Draft) : Prop where
  | nothing (none : messages = [])
      (sameCseq : next.factory.cseq = client.factory.cseq)
      (notAccepted : ¬ client.AcceptsCall (.text raw))
      (notFailed : ¬ client.FailsCall (.text raw))
  | accepted (message : SIPMessage) (only : messages = [message])
      (taken : client.AcceptsCall (.text raw))
      (request : Request message "ACK" client.factory.cseq)
      (callId : message.getHeader "Call-ID" = client.state.activeCallId)
      (nextCseq : next.factory.cseq = client.factory.cseq + 1)
  | failed (message : SIPMessage) (only : messages = [message])
      (taken : client.FailsCall (.text raw)) (number : Int)
      (read : SIPMessageFactory.cseqNumber raw = .ok number)
      (request : Request message "ACK" number)
      (callId : message.getHeader "Call-ID" = client.state.activeCallId)
      (sameCseq : next.factory.cseq = client.factory.cseq)

section Received

variable {client next : SIPClient Draft} {raw : CppString}
  {sent : List Draft}

theorem answered_of_handleStatus
    {code : Int} (concerns : client.Concerns (.text raw))
    (read : Wire.extractStatusCode (Draft.text raw) = .ok code)
    (headerless : client.pendingHeaders "ACK" = [])
    (handled : client.handleStatus (.text raw) code = .ok (sent, next)) :
    Reacts client raw (sent.filterMap Draft.message?) next := by
  obtain ⟨parts, split⟩ := splitLocal_total client.state.registeredUser
  have other : ∀ {code' : Int},
      Wire.extractStatusCode (Draft.text raw) = .ok code' → code' = code := by
    intro code' again
    exact Except.ok.inj (again.symm.trans read)
  have neither : (code = 200 →
        Wire.extractCseqMethod (Draft.text raw) = "BYE".toList) →
      ¬ 400 ≤ code → sent.filterMap Draft.message? = [] →
      next.factory.cseq = client.factory.cseq →
        Reacts client raw (sent.filterMap Draft.message?) next := by
    intro bye small none sameCseq
    refine .nothing none sameCseq ?_ ?_
    · exact fun accepts => accepts.notBye (bye (other accepts.ok).symm)
    · rintro ⟨-, code', again, failure⟩
      exact small (other again ▸ failure)
  unfold handleStatus at handled
  split_ifs at handled with trying ringing ok bye failure
  · cases handled
    exact neither (by omega) (by omega) rfl rfl
  · cases handled
    exact neither (by omega) (by omega) rfl rfl
  · cases handled
    exact neither (fun _ => bye) (by omega) rfl rfl
  · rw [handle200OkInvite, split, headerless] at handled
    cases handled
    exact .accepted _ rfl ⟨concerns, ok ▸ read, bye⟩
      (request_request (by decide)) rfl rfl
  · rw [handleError, split, ok_bind] at handled
    dsimp only [Wire.buildAckForError, Draft.written] at handled
    cases number : SIPMessageFactory.cseqNumber raw with
    | error thrown =>
        rw [number] at handled
        cases handled
    | ok cseqNum =>
        rw [number] at handled
        cases handled
        exact .failed _ rfl ⟨concerns, code, read, failure⟩ cseqNum number
          (request_errorAck cseqNum) rfl rfl
  · cases handled
    exact neither (fun same => absurd same ok) failure rfl rfl

theorem answered_of_onMessage
    (headerless : client.pendingHeaders "ACK" = [])
    (handled : client.onMessage (.text raw) = .ok (sent, next)) :
    Reacts client raw (sent.filterMap Draft.message?) next := by
  by_cases invite : IsInvite (Draft.text raw)
  · have result := Except.ok.inj
      ((onMessage_invite invite).symm.trans handled)
    have unanswered : ∀ concerns : client.Concerns (.text raw), False :=
      fun concerns => concerns.notInvite invite
    unfold handleIncomingInvite at result
    dsimp only at result
    split_ifs at result <;> cases result <;>
      exact .nothing rfl rfl (fun accepts => unanswered accepts.concerns)
        (fun fails => unanswered fails.concerns)
  by_cases bye : IsBye (Draft.text raw)
  · have result := Except.ok.inj
      ((onMessage_bye invite bye).symm.trans handled)
    have unanswered : ∀ concerns : client.Concerns (.text raw), False :=
      fun concerns => concerns.notBye bye
    unfold handleIncomingBye at result
    dsimp only at result
    split_ifs at result <;> cases result <;>
      exact .nothing rfl rfl (fun accepts => unanswered accepts.concerns)
        (fun fails => unanswered fails.concerns)
  by_cases concerns : client.Concerns (.text raw)
  · rw [onMessage_concerns concerns] at handled
    cases read : Wire.extractStatusCode (Draft.text raw) with
    | error thrown =>
        rw [read] at handled
        cases handled
    | ok code =>
        rw [read, ok_bind] at handled
        exact answered_of_handleStatus concerns read headerless handled
  · rw [onMessage_other invite bye concerns] at handled
    cases handled
    exact .nothing rfl rfl (fun accepts => concerns accepts.concerns)
      (fun fails => concerns fails.concerns)

/-- Keeping a reply changes nothing that the answer depends on. -/
theorem Reacts.of_handleReceive
    {messages : List SIPMessage}
    (answered : Reacts (client.handleReceive (.text raw)) raw messages
      next) :
    Reacts client raw messages next := by
  have sameState := (handleReceive_state client (.text raw)).1
  have sameFactory : (client.handleReceive (.text raw)).factory =
      client.factory := by
    unfold handleReceive
    dsimp only
    split_ifs <;> rfl
  cases answered with
  | nothing none sameCseq notAccepted notFailed =>
      rw [sameFactory] at sameCseq
      exact .nothing none sameCseq
        (mt acceptsCall_handleReceive.mpr notAccepted)
        (mt failsCall_handleReceive.mpr notFailed)
  | accepted message only taken request callId nextCseq =>
      rw [sameFactory] at request nextCseq
      rw [sameState] at callId
      exact .accepted message only (acceptsCall_handleReceive.mp taken)
        request callId nextCseq
  | failed message only taken number read request callId sameCseq =>
      rw [sameFactory] at sameCseq
      rw [sameState] at callId
      exact .failed message only (failsCall_handleReceive.mp taken) number
        read request callId sameCseq

end Received

/-- What an event makes the client build. -/
inductive Builds
    (logged next : Logged) (event : HeaderlessEvent) : Prop where
  | nothing (user : answeredText event.val = none)
      (same : next.built = logged.built)
      (sameCseq : next.client.factory.cseq = logged.client.factory.cseq)
  | request (user : answeredText event.val = none)
      (message : SIPMessage) (method : CppString)
      (other : method ≠ "ACK".toList)
      (request : Request message method logged.client.factory.cseq)
      (one : next.built = logged.built ++ [⟨message, none⟩])
      (nextCseq : next.client.factory.cseq =
        logged.client.factory.cseq + 1)
  | answer (raw : CppString) (received : event.val = .received raw)
      (messages : List SIPMessage)
      (answered : Reacts logged.client raw messages next.client)
      (added : next.built = logged.built ++
        messages.map (fun message => ⟨message, some raw⟩))

/-- No header lines wait for any method. -/
def Plain (client : SIPClient Draft) : Prop :=
  ∀ method, client.pendingHeaders method = []

section Steps

variable {logged next : Logged} {event : HeaderlessEvent}
  {effects : Effects CppString}

theorem Plain.setPendingHeaders
    {client : SIPClient Draft} (plain : client.Plain) (method : CppString) :
    (client.setPendingHeaders method []).Plain := by
  intro other
  unfold SIPClient.setPendingHeaders
  dsimp only
  split_ifs
  · rfl
  · exact plain other

theorem Plain.onMessage
    {client next : SIPClient Draft} {raw : Draft} {sent : List Draft}
    (plain : client.Plain)
    (handled : client.onMessage raw = .ok (sent, next)) : next.Plain := by
  cases messageEffect_of_onMessage handled <;> exact plain

theorem Plain.handleReceive
    {client : SIPClient Draft} (plain : client.Plain) (data : Draft) :
    (client.handleReceive data).Plain := by
  unfold SIPClient.handleReceive
  dsimp only
  split_ifs
  · exact plain
  · exact plain

/-- Every step builds nothing, one request, or the answer to a text. -/
theorem builds_of_step
    (plain : logged.client.Plain)
    (stepped : loggedStep logged event = .ok (effects, next)) :
    Builds logged next event ∧ next.client.Plain := by
  obtain ⟨drafts, taken, -, noted⟩ := loggedStep_ok_iff.mp stepped
  obtain ⟨client', built'⟩ := next
  obtain ⟨event, headerless⟩ := event
  dsimp only at taken noted
  subst noted
  have noneAdded : logged.built ++ [] = logged.built := List.append_nil _
  cases event with
  | doRegister username domain extraHeaders =>
      obtain rfl : extraHeaders = [] := headerless
      cases taken
      have kept := plain.setPendingHeaders "REGISTER"
      unfold SIPClient.doRegister
      cases logged.client.registration with
      | some registration => exact ⟨.nothing rfl noneAdded rfl, plain⟩
      | none =>
          dsimp only [quiet]
          rw [kept]
          exact ⟨.request rfl _ "REGISTER" (by decide)
            (request_request (by decide)) rfl rfl, kept⟩
  | registerWaited =>
      cases taken
      unfold SIPClient.registerWaited
      cases logged.client.registration with
      | none => exact ⟨.nothing rfl noneAdded rfl, plain⟩
      | some registration =>
          dsimp only [quiet]
          split_ifs
          · exact ⟨.nothing rfl noneAdded rfl, plain⟩
          · exact ⟨.nothing rfl noneAdded rfl, plain⟩
  | doInvite drawn fromUser fromDomain toUser toDomain =>
      cases taken
      unfold SIPClient.handleInvite
      dsimp only [quiet]
      split_ifs
      · exact ⟨.nothing rfl noneAdded rfl, plain⟩
      · dsimp only
        rw [plain]
        exact ⟨.request rfl _ "INVITE" (by decide)
          (request_request (by decide)) rfl rfl, plain⟩
      · exact ⟨.nothing rfl noneAdded rfl, plain⟩
  | doBye extraHeaders =>
      obtain rfl : extraHeaders = [] := headerless
      have kept := plain.setPendingHeaders "BYE"
      obtain ⟨parts, split⟩ :=
        splitLocal_total logged.client.state.registeredUser
      have sameUser : (logged.client.setPendingHeaders "BYE"
          []).state.registeredUser = logged.client.state.registeredUser := rfl
      simp only [Event.map, SIPClient.step, SIPClient.handleBye, sameUser,
        split, kept "BYE"] at taken
      split_ifs at taken
      · cases taken
        exact ⟨.request rfl _ "BYE" (by decide)
          (request_request (by decide)) rfl rfl, kept⟩
      · cases taken
        exact ⟨.nothing rfl noneAdded rfl, kept⟩
  | doAnswer =>
      cases taken
      unfold SIPClient.handleAnswer
      cases logged.client.pendingInvite with
      | none => exact ⟨.nothing rfl noneAdded rfl, plain⟩
      | some invite => exact ⟨.nothing rfl noneAdded rfl, plain⟩
  | doReject =>
      cases taken
      unfold SIPClient.handleReject
      cases logged.client.pendingInvite with
      | none => exact ⟨.nothing rfl noneAdded rfl, plain⟩
      | some invite => exact ⟨.nothing rfl noneAdded rfl, plain⟩
  | setPendingHeaders method headers =>
      obtain rfl : headers = [] := headerless
      cases taken
      exact ⟨.nothing rfl noneAdded rfl, plain.setPendingHeaders method⟩
  | received raw =>
      have handled := (onPacketReceived_ok_iff.mp taken).1
      have kept := plain.handleReceive (.text raw)
      exact ⟨.answer raw rfl _
        (answered_of_onMessage (kept "ACK") handled).of_handleReceive rfl,
        kept.onMessage handled⟩

end Steps

end SIPClient

end MinimalSip.Client

import MinimalSip.Client.SipClient

/-!
# Requests before they are written

A text no longer tells which message the factory has written in it: a user
name with a line end inside reads like a header.  The handlers ask of a
message only the questions of `Wire`, so a client does the same when every
request that it builds keeps its message.

`WireMap` is a change of messages that no question of `Wire` can see, and a
run before it corresponds to the run behind it.  A `Draft` is a text or a
request as it was built, and `written` is such a change.
-/

namespace MinimalSip.Client

open MinimalSip.Lib.Cpp
open MinimalSip.Lib.Machine
open MinimalSip.Common

/-! ## Changes of messages -/

variable {α β : Type}

/-- A change of messages with the same answers to every question. -/
structure WireMap [Wire α] [Wire β] (write : α → β) : Prop where
  beginsWith : ∀ word raw,
    Wire.beginsWith word (write raw) = Wire.beginsWith word raw
  mentions : ∀ word raw,
    Wire.mentions word (write raw) = Wire.mentions word raw
  saysOk : ∀ raw, Wire.saysOk (write raw) = Wire.saysOk raw
  extractCallId : ∀ raw,
    Wire.extractCallId (write raw) = Wire.extractCallId raw
  extractStatusCode : ∀ raw,
    Wire.extractStatusCode (write raw) = Wire.extractStatusCode raw
  extractCseqMethod : ∀ raw,
    Wire.extractCseqMethod (write raw) = Wire.extractCseqMethod raw
  callerOf : ∀ raw, Wire.callerOf (write raw) = Wire.callerOf raw
  callError : ∀ raw, Wire.callError (write raw) = Wire.callError raw
  ofRequest : ∀ message, write (Wire.ofRequest message) =
    Wire.ofRequest message
  buildResponse : ∀ code reason raw extraHeaders,
    write (Wire.buildResponse code reason raw extraHeaders) =
      Wire.buildResponse code reason (write raw) extraHeaders
  buildAckForError : ∀ factory fromUser fromDomain toUser toDomain callId raw,
    (Wire.buildAckForError factory fromUser fromDomain toUser toDomain callId
        raw).map write =
      Wire.buildAckForError factory fromUser fromDomain toUser toDomain callId
        (write raw)

def Registration.map
    (write : α → β) (registration : Registration α) : Registration β where
  username := registration.username
  domain := registration.domain
  message := write registration.message
  attempts := registration.attempts

def Event.map (write : α → β) : Event α → Event β
  | .doRegister username domain extraHeaders =>
      .doRegister username domain extraHeaders
  | .registerWaited => .registerWaited
  | .doInvite drawn fromUser fromDomain toUser toDomain =>
      .doInvite drawn fromUser fromDomain toUser toDomain
  | .doBye extraHeaders => .doBye extraHeaders
  | .doAnswer => .doAnswer
  | .doReject => .doReject
  | .setPendingHeaders method headers => .setPendingHeaders method headers
  | .received data => .received (write data)

def Effects.map (write : α → β) (effects : Effects α) : Effects β where
  sent := effects.sent.map write
  error := effects.error

namespace SIPClient

def map (write : α → β) (client : SIPClient α) : SIPClient β where
  factory := client.factory
  state := client.state
  registerResponse := client.registerResponse.map write
  pendingInvite := client.pendingInvite.map write
  pendingHeaders := client.pendingHeaders
  registration := client.registration.map (Registration.map write)
  errorCallback := client.errorCallback

@[simp]
theorem map_state (write : α → β) (client : SIPClient α) :
    (client.map write).state = client.state :=
  rfl

@[simp]
theorem map_pendingInvite (write : α → β) (client : SIPClient α) :
    (client.map write).pendingInvite = client.pendingInvite.map write :=
  rfl

@[simp]
theorem map_registerResponse (write : α → β) (client : SIPClient α) :
    (client.map write).registerResponse =
      client.registerResponse.map write :=
  rfl

@[simp]
theorem map_registration (write : α → β) (client : SIPClient α) :
    (client.map write).registration =
      client.registration.map (Registration.map write) :=
  rfl

/-- What a handler sends and leaves, behind a change of messages. -/
def mapResult (write : α → β) :
    List α × SIPClient α → List β × SIPClient β :=
  Prod.map (List.map write) (map write)

/-! ## The handlers -/

section Handlers

variable [Wire α] [Wire β] {write : α → β}

theorem handleInvite_map
    (same : WireMap write) (client : SIPClient α) (drawn : UInt64)
    (fromUser fromDomain toUser toDomain : CppString) :
    (client.map write).handleInvite drawn fromUser fromDomain toUser
        toDomain =
      mapResult write
        (client.handleInvite drawn fromUser fromDomain toUser toDomain) := by
  unfold handleInvite
  rw [map_state]
  split_ifs
  · rfl
  · dsimp only [mapResult, Prod.map, List.map]
    rw [same.ofRequest]
    rfl
  · rfl

theorem handleBye_map (same : WireMap write) (client : SIPClient α) :
    (client.map write).handleBye =
      client.handleBye.map (mapResult write) := by
  obtain ⟨parts, split⟩ := splitLocal_total client.state.registeredUser
  unfold handleBye
  rw [map_state, split]
  split_ifs
  · dsimp only [ok_bind, pure_eq_ok, Except.map, mapResult, Prod.map,
      List.map]
    rw [same.ofRequest]
    rfl
  · rfl

theorem handleAnswer_map (same : WireMap write) (client : SIPClient α) :
    (client.map write).handleAnswer =
      mapResult write client.handleAnswer := by
  unfold handleAnswer
  rw [map_pendingInvite]
  cases client.pendingInvite with
  | none => rfl
  | some invite =>
      dsimp only [Option.map, mapResult, Prod.map, List.map]
      rw [same.buildResponse]
      rfl

theorem handleReject_map (same : WireMap write) (client : SIPClient α) :
    (client.map write).handleReject =
      mapResult write client.handleReject := by
  unfold handleReject
  rw [map_pendingInvite]
  cases client.pendingInvite with
  | none => rfl
  | some invite =>
      dsimp only [Option.map, mapResult, Prod.map, List.map]
      rw [same.buildResponse]
      rfl

theorem handleIncomingInvite_map
    (same : WireMap write) (client : SIPClient α) (raw : α) :
    (client.map write).handleIncomingInvite (write raw) =
      mapResult write (client.handleIncomingInvite raw) := by
  unfold handleIncomingInvite
  rw [same.extractCallId, same.callerOf, map_state]
  dsimp only
  split_ifs
  · rfl
  · dsimp only [mapResult, Prod.map, List.map]
    rw [same.buildResponse]
  · dsimp only [mapResult, Prod.map, List.map]
    rw [same.buildResponse, same.buildResponse]
    rfl

theorem handleIncomingBye_map
    (same : WireMap write) (client : SIPClient α) (raw : α) :
    (client.map write).handleIncomingBye (write raw) =
      mapResult write (client.handleIncomingBye raw) := by
  unfold handleIncomingBye
  rw [same.extractCallId, map_state]
  dsimp only
  split_ifs
  · rfl
  · rfl
  · dsimp only [mapResult, Prod.map, List.map]
    rw [same.buildResponse]
    rfl

theorem handle200OkInvite_map
    (same : WireMap write) (client : SIPClient α) :
    (client.map write).handle200OkInvite =
      client.handle200OkInvite.map (mapResult write) := by
  obtain ⟨parts, split⟩ := splitLocal_total client.state.registeredUser
  unfold handle200OkInvite
  rw [map_state, split]
  dsimp only [ok_bind, pure_eq_ok, Except.map, mapResult, Prod.map, List.map]
  rw [same.ofRequest]
  rfl

theorem handleError_map
    (same : WireMap write) (client : SIPClient α) (raw : α) :
    (client.map write).handleError (write raw) =
      (client.handleError raw).map (mapResult write) := by
  obtain ⟨parts, split⟩ := splitLocal_total client.state.registeredUser
  unfold handleError
  rw [map_state, split]
  dsimp only [ok_bind]
  rw [← same.buildAckForError]
  change Except.bind (Except.map write (Wire.buildAckForError client.factory
    parts.1 parts.2 _ _ _ raw)) _ = _
  cases Wire.buildAckForError client.factory parts.1 parts.2
      (splitSipUri client.state.activeRemoteUri).1
      (splitSipUri client.state.activeRemoteUri).2
      client.state.activeCallId raw with
  | error thrown => rfl
  | ok ack => rfl

theorem handleStatus_map
    (same : WireMap write) (client : SIPClient α) (raw : α) (code : Int) :
    (client.map write).handleStatus (write raw) code =
      (client.handleStatus raw code).map (mapResult write) := by
  unfold handleStatus
  rw [same.extractCseqMethod]
  split_ifs
  · rfl
  · rfl
  · rfl
  · exact handle200OkInvite_map same client
  · exact handleError_map same client raw
  · rfl

theorem onMessage_map
    (same : WireMap write) (client : SIPClient α) (raw : α) :
    (client.map write).onMessage (write raw) =
      (client.onMessage raw).map (mapResult write) := by
  unfold onMessage
  rw [same.beginsWith, same.beginsWith, same.beginsWith, same.mentions,
    same.extractCallId, same.extractStatusCode, map_state]
  dsimp only
  split_ifs
  · exact congrArg Except.ok (handleIncomingInvite_map same client raw)
  · exact congrArg Except.ok (handleIncomingBye_map same client raw)
  · rfl
  · rfl
  · cases Wire.extractStatusCode raw with
    | error thrown => rfl
    | ok code => exact handleStatus_map same client raw code
  · rfl

/-! ## The client -/

theorem doRegister_map
    (same : WireMap write) (client : SIPClient α)
    (username domain extraHeaders : CppString) :
    (client.map write).doRegister username domain extraHeaders =
      mapResult write (client.doRegister username domain extraHeaders) := by
  unfold doRegister
  rw [map_registration]
  cases client.registration with
  | some registration => rfl
  | none =>
      dsimp only [Option.map, mapResult, Prod.map, List.map,
        setPendingHeaders, map, Registration.map]
      rw [same.ofRequest]

theorem registerOutcome_map
    (same : WireMap write) (client : SIPClient α)
    (registration : Registration α) :
    (client.map write).registerOutcome (registration.map write) =
      client.registerOutcome registration := by
  unfold registerOutcome
  rw [map_registerResponse]
  cases client.registerResponse with
  | none => rfl
  | some response =>
      dsimp only [Option.map]
      rw [same.saysOk]
      rfl

theorem registerWaited_map
    (same : WireMap write) (client : SIPClient α) :
    (client.map write).registerWaited =
      mapResult write client.registerWaited := by
  unfold registerWaited
  rw [map_registration, map_registerResponse, Option.isNone_map]
  cases client.registration with
  | none => rfl
  | some registration =>
      have attempts : (registration.map write).attempts =
          registration.attempts := rfl
      dsimp only [Option.map]
      rw [registerOutcome_map same, attempts]
      split_ifs
      · rfl
      · rfl

theorem handleReceive_map
    (same : WireMap write) (client : SIPClient α) (data : α) :
    (client.map write).handleReceive (write data) =
      (client.handleReceive data).map write := by
  unfold handleReceive
  simp only [same.mentions]
  split_ifs
  · rfl
  · rfl

theorem onPacketReceived_map
    (same : WireMap write) (client : SIPClient α) (data : α) :
    (client.map write).onPacketReceived (write data) =
      (client.onPacketReceived data).map
        (Prod.map (Effects.map write) (map write)) := by
  have reported : ∀ other : SIPClient α,
      (other.map write).reportError (write data) =
        other.reportError data := by
    intro other
    rw [reportError, reportError, same.callError]
    rfl
  unfold onPacketReceived
  rw [handleReceive_map same, onMessage_map same]
  cases (client.handleReceive data).onMessage data with
  | error thrown => rfl
  | ok result =>
      obtain ⟨sent, next⟩ := result
      dsimp only [Except.map, mapResult, Prod.map]
      rw [ok_bind, ok_bind]
      dsimp only
      rw [reported]
      cases next.reportError data with
      | error thrown => rfl
      | ok error => rfl

/-- No step of the client can see the change of messages. -/
theorem step_map
    (same : WireMap write) (client : SIPClient α) (event : Event α) :
    (client.map write).step (event.map write) =
      (client.step event).map
        (Prod.map (Effects.map write) (map write)) := by
  cases event with
  | doRegister username domain extraHeaders =>
      exact congrArg (fun result => Except.ok (quiet result))
        (doRegister_map same client username domain extraHeaders)
  | registerWaited =>
      exact congrArg (fun result => Except.ok (quiet result))
        (registerWaited_map same client)
  | doInvite drawn fromUser fromDomain toUser toDomain =>
      exact congrArg (fun result => Except.ok (quiet result))
        (handleInvite_map same client drawn fromUser fromDomain toUser
          toDomain)
  | doBye extraHeaders =>
      have ended := handleBye_map same
        (client.setPendingHeaders "BYE" extraHeaders)
      refine (congrArg (Except.map quiet) ended).trans ?_
      rw [step]
      cases (client.setPendingHeaders "BYE" extraHeaders).handleBye with
      | error thrown => rfl
      | ok result => rfl
  | doAnswer =>
      exact congrArg (fun result => Except.ok (quiet result))
        (handleAnswer_map same client)
  | doReject =>
      exact congrArg (fun result => Except.ok (quiet result))
        (handleReject_map same client)
  | setPendingHeaders method headers => rfl
  | received data => exact onPacketReceived_map same client data

end Handlers

end SIPClient

/-! ## Drafts -/

/-- A text, or a request with the message from which it is written. -/
inductive Draft where
  | text (raw : CppString)
  | request (message : SIPMessage)

namespace Draft

/-- The text that goes over the wire. -/
def written : Draft → CppString
  | text raw => raw
  | request message => SIPMessageFactory.serialize message

/-- The message of a request. -/
def message? : Draft → Option SIPMessage
  | text _ => none
  | request message => some message

/-- Every question is answered by the text; requests are not written yet. -/
instance : Wire Draft where
  beginsWith word raw := Wire.beginsWith word raw.written
  mentions word raw := Wire.mentions word raw.written
  saysOk raw := Wire.saysOk raw.written
  extractCallId raw := Wire.extractCallId raw.written
  extractStatusCode raw := Wire.extractStatusCode raw.written
  extractCseqMethod raw := Wire.extractCseqMethod raw.written
  callerOf raw := Wire.callerOf raw.written
  callError raw := Wire.callError raw.written
  ofRequest := request
  buildResponse code reason raw extraHeaders :=
    text (Wire.buildResponse code reason raw.written extraHeaders)
  buildAckForError factory fromUser fromDomain toUser toDomain callId raw :=
    (SIPMessageFactory.cseqNumber raw.written).map (fun cseqNum =>
      request (factory.errorAck fromUser fromDomain toUser toDomain callId
        cseqNum))

/-- The program itself only sees what is written. -/
theorem written_wireMap : WireMap written where
  beginsWith := fun _ _ => rfl
  mentions := fun _ _ => rfl
  saysOk := fun _ => rfl
  extractCallId := fun _ => rfl
  extractStatusCode := fun _ => rfl
  extractCseqMethod := fun _ => rfl
  callerOf := fun _ => rfl
  callError := fun _ => rfl
  ofRequest := fun _ => rfl
  buildResponse := fun _ _ _ _ => rfl
  buildAckForError := by
    intro factory fromUser fromDomain toUser toDomain callId raw
    dsimp only [Wire.buildAckForError, SIPMessageFactory.buildAckForError]
    cases SIPMessageFactory.cseqNumber raw.written with
    | error thrown => rfl
    | ok number => rfl

end Draft

end MinimalSip.Client

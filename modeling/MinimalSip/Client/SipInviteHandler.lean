import MinimalSip.Client.SipClientState

/-!
# The client's call handlers

The handlers of `SIPInviteHandler`, each with the messages that it sends to the
proxy and the client that it leaves.  Output for the user and the log is left
out.  A handler that takes a substring or reads a number returns in `Except`.

None of the handlers for a received message looks at the state before it acts:
`on_message` only compares Call-IDs.
-/

namespace MinimalSip.Client

open MinimalSip.Lib.Cpp
open MinimalSip.Lib.Search
open MinimalSip.Common

namespace SIPClient

variable {ω : Type} [Wire ω]

/-- `local.substr(0, at)` and `local.substr(at + 1)`. -/
def splitLocal (registeredUser : CppString) :
    Except StdException (CppString × CppString) := do
  let position := find "@" registeredUser
  let user ← substr registeredUser 0 position
  let domain ← substr registeredUser (next position) none
  pure (user, domain)

/-! ## The user's actions -/

/-- `handle_invite`, with the random number that `new_call_id` draws. -/
def handleInvite (client : SIPClient ω) (drawn : UInt64)
    (fromUser fromDomain toUser toDomain : CppString) :
    List ω × SIPClient ω :=
  if ¬ client.state.isRegistered then ([], client)
  else if client.state.isBusy then ([], client)
  else
    let callId := client.factory.newCallId drawn
    let remoteUri := "sip:".toList ++ toUser ++ "@".toList ++ toDomain
    let message := client.factory.request "INVITE" fromUser fromDomain toUser
      toDomain callId (client.pendingHeaders "INVITE")
    ([Wire.ofRequest message],
      { client with
        state := client.state.onCalling callId remoteUri
        factory := client.factory.advance })

def handleBye (client : SIPClient ω) :
    Except StdException (List ω × SIPClient ω) :=
  if ¬ client.state.isInCall then .ok ([], client)
  else do
    let callId := client.state.activeCallId
    let (fromUser, fromDomain) ← splitLocal client.state.registeredUser
    let (toUser, toDomain) := splitSipUri client.state.activeRemoteUri
    let message := client.factory.request "BYE" fromUser fromDomain toUser
      toDomain callId (client.pendingHeaders "BYE")
    pure ([Wire.ofRequest message],
      { client with
        state := client.state.onCallTerminated
        factory := client.factory.advance })

def handleAnswer (client : SIPClient ω) : List ω × SIPClient ω :=
  match client.pendingInvite with
  | none => ([], client)
  | some invite =>
      ([Wire.buildResponse 200 "OK" invite (client.pendingHeaders "200")],
        { client with
          state := client.state.onCallEstablished
          pendingInvite := none })

def handleReject (client : SIPClient ω) : List ω × SIPClient ω :=
  match client.pendingInvite with
  | none => ([], client)
  | some invite =>
      ([Wire.buildResponse 603 "Decline" invite []],
        { client with
          state := client.state.onCallTerminated
          pendingInvite := none })

/-! ## Received requests -/

def handleIncomingInvite (client : SIPClient ω) (raw : ω) :
    List ω × SIPClient ω :=
  let callId := Wire.extractCallId raw
  if callId = [] then ([], client)
  else if client.state.isBusy then
    ([Wire.buildResponse 486 "Busy Here" raw []], client)
  else
    let remoteUri := "sip:".toList ++ Wire.callerOf raw
    ([Wire.buildResponse 100 "Trying" raw (client.pendingHeaders "100"),
        Wire.buildResponse 180 "Ringing" raw (client.pendingHeaders "180")],
      { client with
        state := client.state.onIncomingCall callId remoteUri
        pendingInvite := some raw })

/-- The pending INVITE is left as it is. -/
def handleIncomingBye (client : SIPClient ω) (raw : ω) :
    List ω × SIPClient ω :=
  let callId := Wire.extractCallId raw
  if callId = [] then ([], client)
  else if callId ≠ client.state.activeCallId then ([], client)
  else
    ([Wire.buildResponse 200 "OK" raw (client.pendingHeaders "200")],
      { client with state := client.state.onCallTerminated })

/-! ## Received responses -/

def handle100 (client : SIPClient ω) : List ω × SIPClient ω :=
  ([], { client with state := client.state.transitionTo .calling })

def handle180 (client : SIPClient ω) : List ω × SIPClient ω :=
  ([], { client with state := client.state.onRinging })

def handle200OkInvite (client : SIPClient ω) :
    Except StdException (List ω × SIPClient ω) := do
  let callId := client.state.activeCallId
  let (fromUser, fromDomain) ← splitLocal client.state.registeredUser
  let (toUser, toDomain) := splitSipUri client.state.activeRemoteUri
  let message := client.factory.request "ACK" fromUser fromDomain toUser
    toDomain callId (client.pendingHeaders "ACK")
  pure ([Wire.ofRequest message],
    { client with
      state := client.state.onCallEstablished
      factory := client.factory.advance })

def handle200OkBye (client : SIPClient ω) : List ω × SIPClient ω :=
  ([], { client with state := client.state.onCallTerminated })

/-- The code only chooses the text that is shown to the user. -/
def handleError (client : SIPClient ω) (raw : ω) :
    Except StdException (List ω × SIPClient ω) := do
  let callId := client.state.activeCallId
  let (fromUser, fromDomain) ← splitLocal client.state.registeredUser
  let (toUser, toDomain) := splitSipUri client.state.activeRemoteUri
  let ack ← Wire.buildAckForError client.factory fromUser fromDomain toUser
    toDomain callId raw
  pure ([ack], { client with state := client.state.onCallTerminated })

/-- The `switch` on the status code of a response to the active call. -/
def handleStatus (client : SIPClient ω) (raw : ω) (code : Int) :
    Except StdException (List ω × SIPClient ω) :=
  if code = 100 then .ok (handle100 client)
  else if code = 180 then .ok (handle180 client)
  else if code = 200 then
    if Wire.extractCseqMethod raw = "BYE".toList then
      .ok (handle200OkBye client)
    else handle200OkInvite client
  else if 400 ≤ code then handleError client raw
  else .ok ([], client)

def onMessage (client : SIPClient ω) (raw : ω) :
    Except StdException (List ω × SIPClient ω) :=
  let isResponse := Wire.beginsWith "SIP/2.0" raw
  if ¬ isResponse ∧ Wire.beginsWith "INVITE" raw then
    .ok (handleIncomingInvite client raw)
  else if ¬ isResponse ∧ Wire.beginsWith "BYE" raw then
    .ok (handleIncomingBye client raw)
  else if ¬ Wire.mentions "SIP/2.0" raw then .ok ([], client)
  else
    let callId := Wire.extractCallId raw
    if callId = [] then .ok ([], client)
    else if callId ≠ client.state.activeCallId then .ok ([], client)
    else do
      let code ← Wire.extractStatusCode raw
      handleStatus client raw code

/-! ## The branches of `on_message` -/

/-- A message that is handled as an incoming INVITE. -/
def IsInvite (raw : ω) : Prop :=
  ¬ Wire.beginsWith "SIP/2.0" raw ∧ Wire.beginsWith "INVITE" raw

/-- A message that is handled as an incoming BYE, unless it is an INVITE. -/
def IsBye (raw : ω) : Prop :=
  ¬ Wire.beginsWith "SIP/2.0" raw ∧ Wire.beginsWith "BYE" raw

/-- Any other message for the active call, which reaches the `switch`. -/
structure Concerns (client : SIPClient ω) (raw : ω) : Prop where
  notInvite : ¬ IsInvite raw
  notBye : ¬ IsBye raw
  mentions : Wire.mentions "SIP/2.0" raw
  nonempty : Wire.extractCallId raw ≠ []
  active : Wire.extractCallId raw = client.state.activeCallId

section Branches

variable {client : SIPClient ω} {raw : ω}

theorem onMessage_invite (invite : IsInvite raw) :
    client.onMessage raw = .ok (client.handleIncomingInvite raw) :=
  if_pos invite

theorem onMessage_bye (notInvite : ¬ IsInvite raw) (bye : IsBye raw) :
    client.onMessage raw = .ok (client.handleIncomingBye raw) :=
  (if_neg notInvite).trans (if_pos bye)

theorem onMessage_concerns (concerns : client.Concerns raw) :
    client.onMessage raw =
      Wire.extractStatusCode raw >>= client.handleStatus raw := by
  refine (if_neg concerns.notInvite).trans
    ((if_neg concerns.notBye).trans ?_)
  rw [if_neg (not_not.mpr concerns.mentions)]
  dsimp only
  rw [if_neg concerns.nonempty, if_neg (not_not.mpr concerns.active)]

theorem onMessage_other
    (notInvite : ¬ IsInvite raw) (notBye : ¬ IsBye raw)
    (other : ¬ client.Concerns raw) :
    client.onMessage raw = .ok ([], client) := by
  refine (if_neg notInvite).trans ((if_neg notBye).trans ?_)
  by_cases mentions : Wire.mentions "SIP/2.0" raw
  swap
  · exact if_pos mentions
  rw [if_neg (not_not.mpr mentions)]
  dsimp only
  by_cases empty : Wire.extractCallId raw = []
  · exact if_pos empty
  rw [if_neg empty]
  by_cases active : Wire.extractCallId raw = client.state.activeCallId
  · exact absurd ⟨notInvite, notBye, mentions, empty, active⟩ other
  · exact if_pos active

/-- The identity of the user can always be split. -/
theorem splitLocal_total (registeredUser : CppString) :
    ∃ parts, splitLocal registeredUser = .ok parts := by
  have inside : next (find "@" registeredUser) ≤ registeredUser.length :=
    next_find_le (by decide)
  obtain ⟨user, userRead⟩ :=
    substr_isOk (Nat.zero_le registeredUser.length) (find "@" registeredUser)
  refine ⟨(user, registeredUser.drop (next (find "@" registeredUser))), ?_⟩
  simp only [splitLocal, userRead, substr_none inside, ok_bind, pure_eq_ok]

/-! ## What one message does -/

/--
The effects of one message that is handled without an exception, each with
its conditions.
-/
inductive MessageEffect (client : SIPClient ω) (raw : ω) :
    SIPClient ω → Prop where
  | refused (invite : IsInvite raw)
      (reason : Wire.extractCallId raw = [] ∨ client.state.isBusy = true) :
      MessageEffect client raw client
  | alerted (invite : IsInvite raw) (named : Wire.extractCallId raw ≠ [])
      (idle : client.state.isBusy = false) :
      MessageEffect client raw
        { client with
          state := client.state.onIncomingCall (Wire.extractCallId raw)
            ("sip:".toList ++ Wire.callerOf raw)
          pendingInvite := some raw }
  | hungUp (notInvite : ¬ IsInvite raw) (bye : IsBye raw)
      (named : Wire.extractCallId raw ≠ [])
      (active : Wire.extractCallId raw = client.state.activeCallId) :
      MessageEffect client raw
        { client with state := client.state.onCallTerminated }
  | otherBye (notInvite : ¬ IsInvite raw) (bye : IsBye raw)
      (other : Wire.extractCallId raw = [] ∨
        Wire.extractCallId raw ≠ client.state.activeCallId) :
      MessageEffect client raw client
  | ignored (notInvite : ¬ IsInvite raw) (notBye : ¬ IsBye raw)
      (other : ¬ client.Concerns raw) :
      MessageEffect client raw client
  | tried (concerns : client.Concerns raw)
      (read : Wire.extractStatusCode raw = .ok 100) :
      MessageEffect client raw
        { client with state := client.state.transitionTo .calling }
  | rung (concerns : client.Concerns raw)
      (read : Wire.extractStatusCode raw = .ok 180) :
      MessageEffect client raw
        { client with state := client.state.onRinging }
  | accepted (concerns : client.Concerns raw)
      (read : Wire.extractStatusCode raw = .ok 200)
      (notBye : Wire.extractCseqMethod raw ≠ "BYE".toList) :
      MessageEffect client raw
        { client with
          state := client.state.onCallEstablished
          factory := client.factory.advance }
  | ended (concerns : client.Concerns raw)
      (read : Wire.extractStatusCode raw = .ok 200)
      (bye : Wire.extractCseqMethod raw = "BYE".toList) :
      MessageEffect client raw
        { client with state := client.state.onCallTerminated }
  | failed (concerns : client.Concerns raw) (code : Int)
      (read : Wire.extractStatusCode raw = .ok code)
      (failure : 400 ≤ code) :
      MessageEffect client raw
        { client with state := client.state.onCallTerminated }
  | passed (concerns : client.Concerns raw) (code : Int)
      (read : Wire.extractStatusCode raw = .ok code)
      (other : code ≠ 100 ∧ code ≠ 180 ∧ code ≠ 200 ∧ ¬ 400 ≤ code) :
      MessageEffect client raw client

theorem messageEffect_of_handleStatus
    {sent : List ω} {next : SIPClient ω} {code : Int}
    (concerns : client.Concerns raw)
    (read : Wire.extractStatusCode raw = .ok code)
    (handled : client.handleStatus raw code = .ok (sent, next)) :
    MessageEffect client raw next := by
  obtain ⟨parts, split⟩ := splitLocal_total client.state.registeredUser
  unfold handleStatus at handled
  split_ifs at handled with trying ringing ok bye failure
  · cases handled
    exact .tried concerns (trying ▸ read)
  · cases handled
    exact .rung concerns (ringing ▸ read)
  · cases handled
    exact .ended concerns (ok ▸ read) bye
  · rw [handle200OkInvite, split] at handled
    cases handled
    exact .accepted concerns (ok ▸ read) bye
  · rw [handleError, split, ok_bind] at handled
    dsimp only at handled
    cases acked : Wire.buildAckForError client.factory parts.1 parts.2
        (splitSipUri client.state.activeRemoteUri).1
        (splitSipUri client.state.activeRemoteUri).2
        client.state.activeCallId raw with
    | error thrown =>
        rw [acked] at handled
        cases handled
    | ok ack =>
        rw [acked] at handled
        cases handled
        exact .failed concerns code read failure
  · cases handled
    exact .passed concerns code read ⟨trying, ringing, ok, failure⟩

/-- Every message that is handled has one of these effects. -/
theorem messageEffect_of_onMessage
    {sent : List ω} {next : SIPClient ω}
    (handled : client.onMessage raw = .ok (sent, next)) :
    MessageEffect client raw next := by
  by_cases invite : IsInvite raw
  · have result := Except.ok.inj ((onMessage_invite invite).symm.trans handled)
    obtain rfl : (client.handleIncomingInvite raw).2 = next :=
      congrArg Prod.snd result
    unfold handleIncomingInvite
    dsimp only
    split_ifs with empty busy
    · exact .refused invite (Or.inl empty)
    · exact .refused invite (Or.inr busy)
    · exact .alerted invite empty (Bool.eq_false_iff.mpr busy)
  by_cases bye : IsBye raw
  · have result := Except.ok.inj
      ((onMessage_bye invite bye).symm.trans handled)
    obtain rfl : (client.handleIncomingBye raw).2 = next :=
      congrArg Prod.snd result
    unfold handleIncomingBye
    dsimp only
    split_ifs with empty other
    · exact .otherBye invite bye (Or.inl empty)
    · exact .otherBye invite bye (Or.inr other)
    · exact .hungUp invite bye empty (not_not.mp other)
  by_cases concerns : client.Concerns raw
  · rw [onMessage_concerns concerns] at handled
    cases read : Wire.extractStatusCode raw with
    | error thrown =>
        rw [read] at handled
        cases handled
    | ok code =>
        rw [read, ok_bind] at handled
        exact messageEffect_of_handleStatus concerns read handled
  · rw [onMessage_other invite bye concerns] at handled
    cases handled
    exact .ignored invite bye concerns

end Branches

end SIPClient

end MinimalSip.Client

import MinimalSip.Client.SipClient

/-!
# What the client tells its user interface

Some handlers call `notify_call_state_changed` once they have changed the
state, and `on_packet_received` calls the same callback after every packet.
The handlers for the user's answer and rejection do not, nor does the one for
the response to a BYE, nor does the registration handler.

No handler changes the state between its notification and its end, so a
notification shows the state that the handler leaves.
-/

namespace MinimalSip.Client

open MinimalSip.Lib.Cpp

/-- `SIPClientStateManager::state_name` -/
def stateName : State → CppString
  | .idle => "Idle"
  | .registering => "Registering"
  | .registered => "Registered"
  | .calling => "Calling"
  | .ringing => "Ringing"
  | .inCall => "InCall"
  | .failed => "Failed"

namespace SIPClient

variable {ω : Type} [Wire ω]

/-! ## Which calls notify -/

/-- Whether `handle_invite` gets past its two checks. -/
def inviteNotifies (client : SIPClient ω) : Bool :=
  client.state.isRegistered && !client.state.isBusy

def byeNotifies (client : SIPClient ω) : Bool :=
  client.state.isInCall

def incomingInviteNotifies (client : SIPClient ω) (raw : ω) : Bool :=
  Wire.extractCallId raw ≠ [] && !client.state.isBusy

def incomingByeNotifies (client : SIPClient ω) (raw : ω) : Bool :=
  Wire.extractCallId raw ≠ [] &&
    Wire.extractCallId raw = client.state.activeCallId

/-- The `switch` of `on_message`; the response to a BYE is not notified. -/
def statusNotifies (raw : ω) (code : Int) : Bool :=
  if code = 100 then true
  else if code = 180 then true
  else if code = 200 then Wire.extractCseqMethod raw ≠ "BYE".toList
  else 400 ≤ code

/-- Whether `on_message` calls `notify_call_state_changed`. -/
def messageNotifies (client : SIPClient ω) (raw : ω) : Bool :=
  let isResponse := Wire.beginsWith "SIP/2.0" raw
  if ¬ isResponse ∧ Wire.beginsWith "INVITE" raw then
    client.incomingInviteNotifies raw
  else if ¬ isResponse ∧ Wire.beginsWith "BYE" raw then
    client.incomingByeNotifies raw
  else if ¬ Wire.mentions "SIP/2.0" raw then false
  else
    let callId := Wire.extractCallId raw
    if callId = [] then false
    else if callId ≠ client.state.activeCallId then false
    else
      match Wire.extractStatusCode raw with
      | .ok code => statusNotifies raw code
      | .error _ => false

/-! ## What changes without a notification -/

theorem handleInvite_quiet
    {client : SIPClient ω} (quiet : client.inviteNotifies = false)
    (drawn : UInt64) (fromUser fromDomain toUser toDomain : CppString) :
    client.handleInvite drawn fromUser fromDomain toUser toDomain =
      ([], client) := by
  by_cases registered : client.state.isRegistered = true
  swap
  · exact if_pos registered
  have busy : client.state.isBusy = true := by
    simpa [inviteNotifies, registered] using quiet
  exact (if_neg (not_not.mpr registered)).trans (if_pos busy)

theorem handleBye_quiet
    {client : SIPClient ω} (quiet : client.byeNotifies = false) :
    client.handleBye = .ok ([], client) :=
  if_pos (by simpa [byeNotifies] using quiet)

/-! ## What the handlers for calls leave alone -/

/-- What the user interface has set stays as it is. -/
structure KeepsSettings (client next : SIPClient ω) : Prop where
  pendingHeaders : next.pendingHeaders = client.pendingHeaders
  errorCallback : next.errorCallback = client.errorCallback

/-- A change that concerns calls only, and no registration or setting. -/
structure ChangesCall (client next : SIPClient ω) : Prop
    extends KeepsSettings client next where
  registration : next.registration = client.registration
  registerResponse : next.registerResponse = client.registerResponse
  registeredUser : next.state.registeredUser = client.state.registeredUser
  localIp : next.factory.localIp = client.factory.localIp

theorem handleInvite_changesCall
    (client : SIPClient ω) (drawn : UInt64)
    (fromUser fromDomain toUser toDomain : CppString) :
    ChangesCall client (client.handleInvite drawn fromUser fromDomain toUser
      toDomain).2 := by
  unfold handleInvite
  split_ifs
  · exact ⟨⟨rfl, rfl⟩, rfl, rfl, rfl, rfl⟩
  · exact ⟨⟨rfl, rfl⟩, rfl, rfl, rfl, rfl⟩
  · exact ⟨⟨rfl, rfl⟩, rfl, rfl, rfl, rfl⟩

theorem handleBye_changesCall
    {client next : SIPClient ω} {sent : List ω}
    (handled : client.handleBye = .ok (sent, next)) :
    ChangesCall client next := by
  obtain ⟨parts, split⟩ := splitLocal_total client.state.registeredUser
  unfold handleBye at handled
  rw [split] at handled
  split_ifs at handled
  · cases handled
    exact ⟨⟨rfl, rfl⟩, rfl, rfl, rfl, rfl⟩
  · cases handled
    exact ⟨⟨rfl, rfl⟩, rfl, rfl, rfl, rfl⟩

theorem handleAnswer_changesCall (client : SIPClient ω) :
    ChangesCall client client.handleAnswer.2 := by
  unfold handleAnswer
  split
  · exact ⟨⟨rfl, rfl⟩, rfl, rfl, rfl, rfl⟩
  · exact ⟨⟨rfl, rfl⟩, rfl, rfl, rfl, rfl⟩

theorem handleReject_changesCall (client : SIPClient ω) :
    ChangesCall client client.handleReject.2 := by
  unfold handleReject
  split
  · exact ⟨⟨rfl, rfl⟩, rfl, rfl, rfl, rfl⟩
  · exact ⟨⟨rfl, rfl⟩, rfl, rfl, rfl, rfl⟩

theorem onMessage_changesCall
    {client next : SIPClient ω} {data : ω} {sent : List ω}
    (handled : client.onMessage data = .ok (sent, next)) :
    ChangesCall client next := by
  cases messageEffect_of_onMessage handled <;>
    exact ⟨⟨rfl, rfl⟩, rfl, rfl, rfl, rfl⟩

/-- Only the kept reply can change. -/
theorem handleReceive_eq (client : SIPClient ω) (data : ω) :
    ∃ reply, client.handleReceive data =
      { client with registerResponse := reply } := by
  unfold handleReceive
  dsimp only
  split_ifs
  · exact ⟨some data, rfl⟩
  · exact ⟨client.registerResponse, rfl⟩

theorem handleReceive_settings (client : SIPClient ω) (data : ω) :
    KeepsSettings client (client.handleReceive data) := by
  obtain ⟨reply, kept⟩ := handleReceive_eq client data
  rw [kept]
  exact ⟨rfl, rfl⟩

omit [Wire ω] in
theorem KeepsSettings.trans
    {first second third : SIPClient ω}
    (before : KeepsSettings first second)
    (after : KeepsSettings second third) :
    KeepsSettings first third where
  pendingHeaders := after.pendingHeaders.trans before.pendingHeaders
  errorCallback := after.errorCallback.trans before.errorCallback

/-! ## What the registration leaves alone -/

theorem registerWaited_settings (client : SIPClient ω) :
    KeepsSettings client client.registerWaited.2 := by
  unfold registerWaited
  split
  · exact ⟨rfl, rfl⟩
  · split_ifs
    · exact ⟨rfl, rfl⟩
    · exact ⟨rfl, rfl⟩

theorem registerWaited_registerResponse (client : SIPClient ω) :
    client.registerWaited.2.registerResponse = client.registerResponse := by
  unfold registerWaited
  split
  · rfl
  · split_ifs
    · rfl
    · rfl

theorem registerWaited_idle
    {client : SIPClient ω} (idle : client.registration = none) :
    client.registerWaited = ([], client) := by
  rw [registerWaited, idle]

/-- Only the extra headers of a REGISTER are set. -/
theorem doRegister_pendingHeaders
    (client : SIPClient ω) (username domain extraHeaders : CppString)
    {method : CppString} (other : method ≠ "REGISTER".toList) :
    (client.doRegister username domain extraHeaders).2.pendingHeaders
      method = client.pendingHeaders method := by
  unfold doRegister
  split
  · rfl
  · exact if_neg other

theorem doRegister_errorCallback
    (client : SIPClient ω) (username domain extraHeaders : CppString) :
    (client.doRegister username domain extraHeaders).2.errorCallback =
      client.errorCallback := by
  unfold doRegister
  split
  · rfl
  · rfl

/-- A new registration forgets the reply to the last one. -/
theorem doRegister_registerResponse
    {client : SIPClient ω} (idle : client.registration = none)
    (username domain extraHeaders : CppString) :
    (client.doRegister username domain extraHeaders).2.registerResponse =
      none := by
  rw [doRegister, idle]

end SIPClient

end MinimalSip.Client

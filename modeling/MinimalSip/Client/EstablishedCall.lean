import MinimalSip.Client.CallState
import MinimalSip.Client.PacketHandling

/-!
# Messages during an established call

A client that is in a call refuses every INVITE and keeps its state.  The
handlers for responses look at the Call-ID and the status code only, so a 100
or a 180 that comes late, or a second time, moves the client out of the call
as if it had just been placed.

`Disturbs` lists what moves a client out of its call, and
`staysInCall_iff` shows that nothing else does.
-/

namespace MinimalSip.Client

open MinimalSip.Lib.Cpp
open MinimalSip.Lib.Machine
open MinimalSip.Common

namespace SIPClient

/-- The client is in this call. -/
structure InCallWith (callId : CppString) (client : SIPClient CppString) :
    Prop where
  inCall : client.state.state = .inCall
  active : client.state.activeCallId = callId

/-- What the client takes for a BYE of the call. -/
structure HangsUp (callId data : CppString) : Prop where
  notInvite : ¬ IsInvite data
  bye : IsBye data
  nonempty : extractCallId data ≠ []
  own : extractCallId data = callId

/-- What the client takes for a response of the call with this code. -/
structure RespondsWith (callId data : CppString) (code : Int) : Prop where
  notInvite : ¬ IsInvite data
  notBye : ¬ IsBye data
  mentions : Wire.mentions "SIP/2.0" data
  nonempty : extractCallId data ≠ []
  own : extractCallId data = callId
  read : extractStatusCode data = .ok code

/-- A response on which a handler leaves the established state. -/
def LeavesCall (data : CppString) (code : Int) : Prop :=
  code = 100 ∨ code = 180 ∨
    (code = 200 ∧ extractCseqMethod data = "BYE".toList) ∨ 400 ≤ code

instance (data : CppString) (code : Int) : Decidable (LeavesCall data code) :=
  inferInstanceAs (Decidable (_ ∨ _))

/-- A message that moves a client out of the call. -/
def Disturbs (callId data : CppString) : Prop :=
  HangsUp callId data ∨
    ∃ code, RespondsWith callId data code ∧ LeavesCall data code

section Messages

variable {client next : SIPClient CppString} {callId data : CppString}
  {sent : List CppString}

theorem InCallWith.busy
    (talking : client.InCallWith callId) : client.state.isBusy = true := by
  simp [SIPClientStateManager.isBusy, talking.inCall]

/-- A busy client refuses an INVITE and is left as it is. -/
theorem handleIncomingInvite_of_busy
    (busy : client.state.isBusy = true) (data : CppString) :
    (client.handleIncomingInvite data).2 = client := by
  unfold handleIncomingInvite
  dsimp only
  rw [if_pos busy]
  split_ifs
  · rfl
  · rfl

theorem InCallWith.respondsWith
    (talking : client.InCallWith callId) (concerns : client.Concerns data)
    {code : Int} (read : extractStatusCode data = .ok code) :
    RespondsWith callId data code where
  notInvite := concerns.notInvite
  notBye := concerns.notBye
  mentions := concerns.mentions
  nonempty := concerns.nonempty
  own := concerns.active.trans talking.active
  read := read

theorem InCallWith.concerns
    {code : Int} (talking : client.InCallWith callId)
    (responds : RespondsWith callId data code) : client.Concerns data where
  notInvite := responds.notInvite
  notBye := responds.notBye
  mentions := responds.mentions
  nonempty := responds.nonempty
  active := responds.own.trans talking.active.symm

/-- A message disturbs the call if its code, once read, does. -/
theorem InCallWith.disturbs_iff
    (talking : client.InCallWith callId) (concerns : client.Concerns data)
    {code : Int} (read : extractStatusCode data = .ok code) :
    Disturbs callId data ↔ LeavesCall data code := by
  constructor
  · rintro (hangsUp | ⟨code', responds, leaves⟩)
    · exact absurd hangsUp.bye concerns.notBye
    · have same := responds.read
      rw [read] at same
      cases same
      exact leaves
  · exact fun leaves =>
      Or.inr ⟨code, talking.respondsWith concerns read, leaves⟩

/-- One message leaves the client in its call unless it disturbs it. -/
theorem InCallWith.onMessage_iff
    (talking : client.InCallWith callId)
    (handled : client.onMessage data = .ok (sent, next)) :
    next.InCallWith callId ↔ ¬ Disturbs callId data := by
  have left : ∀ other : SIPClient CppString, other.state.state ≠ .inCall →
      Disturbs callId data →
        (other.InCallWith callId ↔ ¬ Disturbs callId data) :=
    fun other away disturbs => iff_of_false
      (fun still => away still.inCall) (not_not.mpr disturbs)
  cases messageEffect_of_onMessage handled with
  | refused invite reason =>
      refine iff_of_true talking ?_
      rintro (hangsUp | ⟨code, responds, -⟩)
      · exact hangsUp.notInvite invite
      · exact responds.notInvite invite
  | alerted invite named idle =>
      rw [talking.busy] at idle
      cases idle
  | hungUp notInvite bye named active =>
      exact left _ (fun same => nomatch same)
        (Or.inl ⟨notInvite, bye, named, active.trans talking.active⟩)
  | otherBye notInvite bye other =>
      refine iff_of_true talking ?_
      rintro (hangsUp | ⟨code, responds, -⟩)
      · rcases other with empty | other
        · exact hangsUp.nonempty empty
        · exact other (hangsUp.own.trans talking.active.symm)
      · exact responds.notBye bye
  | ignored notInvite notBye other =>
      refine iff_of_true talking ?_
      rintro (hangsUp | ⟨code, responds, -⟩)
      · exact notBye hangsUp.bye
      · exact other (talking.concerns responds)
  | tried concerns read =>
      exact left _ (fun same => nomatch same)
        ((talking.disturbs_iff concerns read).mpr (Or.inl rfl))
  | rung concerns read =>
      exact left _ (fun same => nomatch same)
        ((talking.disturbs_iff concerns read).mpr (Or.inr (Or.inl rfl)))
  | accepted concerns read notBye =>
      rw [talking.disturbs_iff concerns read]
      refine iff_of_true ⟨rfl, talking.active⟩ ?_
      rintro (late | late | ⟨-, bye⟩ | late)
      · cases late
      · cases late
      · exact notBye bye
      · omega
  | ended concerns read bye =>
      exact left _ (fun same => nomatch same)
        ((talking.disturbs_iff concerns read).mpr
          (Or.inr (Or.inr (Or.inl ⟨rfl, bye⟩))))
  | failed concerns code read failure =>
      exact left _ (fun same => nomatch same)
        ((talking.disturbs_iff concerns read).mpr
          (Or.inr (Or.inr (Or.inr failure))))
  | passed concerns code read other =>
      rw [talking.disturbs_iff concerns read]
      refine iff_of_true talking ?_
      rintro (late | late | ⟨late, -⟩ | late)
      · exact other.1 late
      · exact other.2.1 late
      · exact other.2.2.1 late
      · exact other.2.2.2 late

/-- A message that does not disturb the call is handled to the end. -/
theorem InCallWith.acknowledgeable
    (talking : client.InCallWith callId) (calm : ¬ Disturbs callId data) :
    ¬ client.Unacknowledgeable data := by
  rintro ⟨concerns, ⟨code, read, failed⟩, -⟩
  exact calm (Or.inr ⟨code, talking.respondsWith concerns read,
    Or.inr (Or.inr (Or.inr failed))⟩)

theorem InCallWith.handleReceive
    (talking : client.InCallWith callId) (data : CppString) :
    (client.handleReceive data).InCallWith callId := by
  obtain ⟨sameState, -⟩ := handleReceive_state client data
  exact ⟨sameState ▸ talking.inCall, sameState ▸ talking.active⟩

/-- A packet on which the error callback throws. -/
def BreaksCallback (client : SIPClient CppString) (data : CppString) :
    Prop :=
  client.errorCallback = true ∧ CutShort data

/-- A packet is handled and the client stays in its call. -/
theorem InCallWith.onPacketReceived_iff
    (talking : client.InCallWith callId) :
    (∃ effects next, client.onPacketReceived data = .ok (effects, next) ∧
        next.InCallWith callId) ↔
      ¬ Disturbs callId data ∧ ¬ client.BreaksCallback data := by
  constructor
  · rintro ⟨effects, next, handled, still⟩
    obtain ⟨messaged, -⟩ := onPacketReceived_ok_iff.mp handled
    exact ⟨((talking.handleReceive data).onMessage_iff messaged).mp still,
      ((onPacketReceived_isOk_iff client data).mp ⟨_, handled⟩).2⟩
  · rintro ⟨calm, readable⟩
    obtain ⟨⟨effects, next⟩, handled⟩ :=
      (onPacketReceived_isOk_iff client data).mpr
        ⟨talking.acknowledgeable calm, readable⟩
    obtain ⟨messaged, -⟩ := onPacketReceived_ok_iff.mp handled
    exact ⟨effects, next, handled,
      ((talking.handleReceive data).onMessage_iff messaged).mpr calm⟩

theorem onPacketReceived_errorCallback
    {effects : Effects CppString}
    (handled : client.onPacketReceived data = .ok (effects, next)) :
    next.errorCallback = client.errorCallback :=
  (onMessage_errorCallback (onPacketReceived_ok_iff.mp handled).1).trans
    (handleReceive_errorCallback client data)

/-- An INVITE that reaches a client in a call leaves its state alone. -/
theorem InCallWith.refuses
    (talking : client.InCallWith callId) (invite : IsInvite data) :
    ∃ effects next, client.onPacketReceived data = .ok (effects, next) ∧
      next.state = client.state := by
  have sound : ¬ CutShort data := by
    rintro ⟨failure, -⟩
    apply invite.1
    have upper := failure.map Char.toUpper
    have version : "SIP/2.0".toList <+: "SIP/2.0 4".toList.map Char.toUpper :=
      by decide
    exact List.isPrefixOf_iff_prefix.mpr (version.trans upper)
  have calm : ¬ client.Unacknowledgeable data :=
    fun failed => failed.concerns.notInvite invite
  obtain ⟨⟨effects, next⟩, handled⟩ :=
    (onPacketReceived_isOk_iff client data).mpr
      ⟨calm, fun both => sound both.2⟩
  have messaged := (onPacketReceived_ok_iff.mp handled).1
  have result := Except.ok.inj
    ((onMessage_invite invite).symm.trans messaged)
  have same : ((client.handleReceive data).handleIncomingInvite data).2 =
      next := congrArg Prod.snd result
  rw [handleIncomingInvite_of_busy (talking.handleReceive data).busy] at same
  exact ⟨effects, next, handled,
    same ▸ (handleReceive_state client data).1⟩

end Messages

/-! ## Sequences of messages -/

/-- The client takes in these messages and is in the call all the time. -/
def StaysInCall (callId : CppString) (client : SIPClient CppString)
    (messages : List CppString) : Prop :=
  (∃ result, run step client (messages.map .received) = .ok result) ∧
    Throughout step (InCallWith callId) client (messages.map .received)

theorem staysInCall_cons_iff
    {callId data : CppString} {client : SIPClient CppString}
    {rest : List CppString} (talking : client.InCallWith callId) :
    StaysInCall callId client (data :: rest) ↔
      ∃ effects next, client.onPacketReceived data = .ok (effects, next) ∧
        StaysInCall callId next rest := by
  constructor
  · rintro ⟨⟨⟨history, final⟩, ran⟩, -, throughout⟩
    obtain ⟨effects, next, later, stepped, restRan, -⟩ :=
      run_cons_ok_iff.mp ran
    exact ⟨effects, next, stepped, ⟨_, restRan⟩,
      throughout effects next stepped⟩
  · rintro ⟨effects, next, handled, ⟨⟨history, final⟩, ran⟩, throughout⟩
    refine ⟨⟨_, run_cons_ok_iff.mpr
      ⟨effects, next, history, handled, ran, rfl⟩⟩, talking, ?_⟩
    intro effects' next' stepped
    have same : Except.ok (effects, next) = .ok (effects', next') :=
      handled.symm.trans stepped
    cases same
    exact throughout

/--
A client in a call takes in a sequence of messages and stays in the call
exactly if none of them disturbs it or breaks the error callback.  An INVITE
changes nothing in its state.
-/
theorem staysInCall_iff
    (callId : CppString) (client : SIPClient CppString)
    (talking : client.InCallWith callId) (messages : List CppString) :
    (StaysInCall callId client messages ↔
        ∀ data ∈ messages, ¬ Disturbs callId data ∧
          ¬ client.BreaksCallback data) ∧
      ∀ data, IsInvite data →
        ∃ effects next, client.onPacketReceived data = .ok (effects, next) ∧
          next.state = client.state := by
  refine ⟨?_, fun data invite => talking.refuses invite⟩
  induction messages generalizing client with
  | nil => exact iff_of_true ⟨⟨_, rfl⟩, talking⟩ (by simp)
  | cons data rest ih =>
      rw [staysInCall_cons_iff talking, List.forall_mem_cons,
        ← talking.onPacketReceived_iff]
      constructor
      · rintro ⟨effects, next, handled, stays⟩
        have still : next.InCallWith callId := stays.2.first
        have sameCallback := onPacketReceived_errorCallback handled
        refine ⟨⟨effects, next, handled, still⟩, ?_⟩
        simpa only [BreaksCallback, sameCallback] using
          (ih next still).mp stays
      · rintro ⟨⟨effects, next, handled, still⟩, calm⟩
        have sameCallback := onPacketReceived_errorCallback handled
        refine ⟨effects, next, handled, (ih next still).mpr ?_⟩
        simpa only [BreaksCallback, sameCallback] using calm

/-! Alice's call is answered, and the 180 comes a second time. -/

def callerFactory : SIPMessageFactory :=
  .create "127.0.0.1" 5070 1

/-- The Call-ID of alice's call. -/
def placedCall : CppString := "7@127.0.0.1"

/-- A response to the INVITE of alice. -/
def responseToInvite (statusLine : String) : CppString :=
  (statusLine ++ "\r\nVia: SIP/2.0/UDP 127.0.0.1:5070\r\n" ++
    "From: <sip:alice@local>\r\nTo: <sip:bob@local>\r\n" ++
    "Call-ID: 7@127.0.0.1\r\nCSeq: 2 INVITE\r\n" ++
    "Content-Length: 0\r\n\r\n").toList

/-- Alice registers and places a call, which rings and is answered. -/
def answeredCall : List (Event CppString) :=
  [.doRegister "alice" "local" [],
    .received "SIP/2.0 200 OK\r\nCSeq: 1 REGISTER\r\n\r\n".toList,
    .registerWaited,
    .doInvite 7 "alice" "local" "bob" "local",
    .received (responseToInvite "SIP/2.0 180 Ringing"),
    .received (responseToInvite "SIP/2.0 200 OK")]

theorem exists_answeredCall :
    ∃ client : SIPClient CppString,
      Reachable step (initial callerFactory false) client ∧
      client.InCallWith placedCall ∧ client.errorCallback = false ∧
      ∃ effects next,
        client.onPacketReceived (responseToInvite "SIP/2.0 180 Ringing") =
          .ok (effects, next) ∧ next.state.state = .ringing := by
  have tested : succeedsWith
      (run step (initial callerFactory false) answeredCall)
      (fun result => decide (result.2.state.state = .inCall ∧
          result.2.state.activeCallId = placedCall ∧
          result.2.errorCallback = false) &&
        succeedsWith (result.2.onPacketReceived
            (responseToInvite "SIP/2.0 180 Ringing"))
          (fun rung => decide (rung.2.state.state = .ringing))) = true := by
    decide +kernel
  obtain ⟨⟨history, client⟩, ran, both⟩ := exists_of_succeedsWith tested
  obtain ⟨talking, handled⟩ := (Bool.and_eq_true _ _).mp both
  obtain ⟨inCall, active, noCallback⟩ := of_decide_eq_true talking
  obtain ⟨⟨effects, next⟩, received, rings⟩ := exists_of_succeedsWith handled
  exact ⟨client, ⟨_, history, ran⟩, ⟨inCall, active⟩, noCallback, effects,
    next, received, of_decide_eq_true rings⟩

/-- The late 180 takes alice out of her call: she can no longer hang up. -/
theorem lateRinging_undoes_call :
    ∃ client : SIPClient CppString,
      Reachable step (initial callerFactory false) client ∧
      client.InCallWith placedCall ∧
      "SIP/2.0 180".toList <+: responseToInvite "SIP/2.0 180 Ringing" ∧
      extractCseqMethod (responseToInvite "SIP/2.0 180 Ringing") =
        "INVITE".toList ∧
      ∃ effects next,
        client.onPacketReceived (responseToInvite "SIP/2.0 180 Ringing") =
          .ok (effects, next) ∧
        next.state.state = .ringing ∧
        ¬ StaysInCall placedCall client
          [responseToInvite "SIP/2.0 180 Ringing"] := by
  obtain ⟨client, reachable, talking, -, effects, next, received, rings⟩ :=
    exists_answeredCall
  refine ⟨client, reachable, talking, by decide +kernel,
    by decide +kernel, effects, next, received, rings, ?_⟩
  rintro ⟨-, -, throughout⟩
  have still : next.InCallWith placedCall :=
    throughout effects next received
  rw [still.inCall] at rings
  cases rings

/-- A 200 that is sent once more does alice's call no harm. -/
theorem staysInCall_iff_answer :
    ∃ client : SIPClient CppString,
      client.InCallWith placedCall ∧
      StaysInCall placedCall client [responseToInvite "SIP/2.0 200 OK"] := by
  obtain ⟨client, -, talking, quiet, -⟩ := exists_answeredCall
  refine ⟨client, talking, (staysInCall_iff placedCall client talking
    [responseToInvite "SIP/2.0 200 OK"]).1.mpr ?_⟩
  refine List.forall_mem_singleton.mpr ⟨?_, ?_⟩
  · have read : extractStatusCode (responseToInvite "SIP/2.0 200 OK") =
        .ok 200 := by
      decide +kernel
    rintro (hangsUp | ⟨code, responds, leaves⟩)
    · exact hangsUp.bye.1 (by decide +kernel)
    · have same := responds.read
      rw [read] at same
      cases same
      exact absurd leaves (by decide +kernel)
  · simp [BreaksCallback, quiet]

end SIPClient

end MinimalSip.Client

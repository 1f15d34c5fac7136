import MinimalSip.Client.SipClient

/-!
# Coherence of the client's call state

The state, the active call and the pending INVITE are updated by different
handlers.  `CallCoherent` says how they should fit together.  Placing, ending,
answering and rejecting a call keep them together.  They come apart when a
registration begins or ends during a call, and when a message other than a 180
moves a call on whose INVITE still waits for an answer: no handler of a
received message clears the pending INVITE.
-/

namespace MinimalSip.Client

open MinimalSip.Lib.Cpp
open MinimalSip.Lib.Machine
open MinimalSip.Common

namespace SIPClient

variable {ω : Type} [Wire ω]

/--
The client is busy exactly if it has an active call, and a pending INVITE is
the one of the incoming call that is ringing now.
-/
structure CallCoherent
    (manager : SIPClientStateManager) (pendingInvite : Option ω) : Prop where
  busy_iff : manager.isBusy = true ↔ manager.activeCallId ≠ []
  ringing : ∀ invite ∈ pendingInvite, manager.state = .ringing
  incoming : ∀ invite ∈ pendingInvite, manager.isIncomingCall = true
  sameCall : ∀ invite ∈ pendingInvite,
    Wire.extractCallId invite = manager.activeCallId

def Coherent (client : SIPClient ω) : Prop :=
  CallCoherent client.state client.pendingInvite

/-! ## The condition on one event -/

/-- A status code on which a handler leaves the ringing state. -/
def LeavesRinging (code : Int) : Prop :=
  code = 100 ∨ code = 200 ∨ 400 ≤ code

/-- A message that moves the active call out of the ringing state. -/
def MovesOn (client : SIPClient ω) (data : ω) : Prop :=
  (¬ IsInvite data ∧ IsBye data ∧ client.state.activeCallId ≠ [] ∧
    Wire.extractCallId data = client.state.activeCallId) ∨
  (client.Concerns data ∧ ∃ code, Wire.extractStatusCode data = .ok code ∧
    LeavesRinging code)

/-- The next return of `wait_for_response` ends the registration. -/
def RegisterEnds (client : SIPClient ω) : Prop :=
  ∃ registration ∈ client.registration,
    client.registerResponse.isSome ∨ maxAttempts ≤ registration.attempts

/--
A registration neither begins nor ends during a call, and no packet that is
handled without an exception moves on a call whose INVITE is pending.
-/
def KeepsCoherent (client : SIPClient ω) : Event ω → Prop
  | .doRegister _ _ _ =>
      client.registration.isNone → client.state.activeCallId = []
  | .registerWaited => client.RegisterEnds → client.state.activeCallId = []
  | .received data =>
      (∃ result, client.onPacketReceived data = .ok result) →
        client.MovesOn data → client.pendingInvite = none
  | _ => True

/-- What holds anyway needs no reason that does not apply. -/
theorem iff_imp_of_not {claim reason duty : Prop}
    (holds : claim) (notApply : ¬ reason) : claim ↔ (reason → duty) :=
  ⟨fun _ applies => absurd applies notApply, fun _ => holds⟩

/-! ## State changes -/

variable {manager : SIPClientStateManager} {pendingInvite : Option ω}

/-- Outside the ringing state no INVITE may be pending. -/
theorem callCoherent_iff_of_ne_ringing (other : manager.state ≠ .ringing) :
    CallCoherent manager pendingInvite ↔
      (manager.isBusy = true ↔ manager.activeCallId ≠ []) ∧
        pendingInvite = none := by
  constructor
  · intro coherent
    refine ⟨coherent.busy_iff, Option.eq_none_iff_forall_not_mem.mpr ?_⟩
    intro invite pending
    exact other (coherent.ringing invite pending)
  · rintro ⟨busy_iff, rfl⟩
    exact
      { busy_iff := busy_iff
        ringing := by simp
        incoming := by simp
        sameCall := by simp }

/-- No INVITE is pending without an active call. -/
theorem CallCoherent.pendingInvite_eq_none
    (coherent : CallCoherent manager pendingInvite)
    (idle : manager.activeCallId = []) : pendingInvite = none := by
  apply Option.eq_none_iff_forall_not_mem.mpr
  intro invite pending
  have busy : manager.isBusy = true := by
    simp [SIPClientStateManager.isBusy, coherent.ringing invite pending]
  exact coherent.busy_iff.mp busy idle

theorem callCoherent_onCallTerminated :
    CallCoherent manager.onCallTerminated pendingInvite ↔
      pendingInvite = none := by
  rw [callCoherent_iff_of_ne_ringing
    (by simp [SIPClientStateManager.onCallTerminated])]
  simp [SIPClientStateManager.onCallTerminated,
    SIPClientStateManager.isBusy]

/-- Entering a busy state other than ringing, with an active call. -/
theorem callCoherent_transitionTo_busy
    {state : State} (busy : state = .calling ∨ state = .inCall)
    (active : manager.activeCallId ≠ []) :
    CallCoherent (manager.transitionTo state) pendingInvite ↔
      pendingInvite = none := by
  rcases busy with rfl | rfl <;>
    simp [callCoherent_iff_of_ne_ringing, SIPClientStateManager.transitionTo,
      SIPClientStateManager.isBusy, active]

theorem CallCoherent.onRinging
    (coherent : CallCoherent manager pendingInvite)
    (active : manager.activeCallId ≠ []) :
    CallCoherent manager.onRinging pendingInvite where
  busy_iff := by
    simp [SIPClientStateManager.onRinging, SIPClientStateManager.isBusy,
      SIPClientStateManager.transitionTo, active]
  ringing := fun _ _ => rfl
  incoming := coherent.incoming
  sameCall := coherent.sameCall

/-- The states of a registration are coherent without an active call. -/
theorem CallCoherent.notBusy_iff
    (coherent : CallCoherent manager pendingInvite)
    {next : SIPClientStateManager} (notBusy : next.isBusy = false)
    (sameCall : next.activeCallId = manager.activeCallId) :
    CallCoherent next pendingInvite ↔ manager.activeCallId = [] := by
  have other : next.state ≠ .ringing := by
    intro ringing
    simp [SIPClientStateManager.isBusy, ringing] at notBusy
  rw [callCoherent_iff_of_ne_ringing other, notBusy, sameCall]
  constructor
  · rintro ⟨busy_iff, -⟩
    simpa using busy_iff
  · intro idle
    exact ⟨by simp [idle], coherent.pendingInvite_eq_none idle⟩

theorem newCallId_nonempty (factory : SIPMessageFactory) (drawn : UInt64) :
    factory.newCallId drawn ≠ [] := by
  simp [SIPMessageFactory.newCallId]

/-! ## The user's actions -/

variable {client : SIPClient ω}

theorem Coherent.handleInvite
    (coherent : client.Coherent) (drawn : UInt64)
    (fromUser fromDomain toUser toDomain : CppString) :
    (client.handleInvite drawn fromUser fromDomain toUser toDomain).2.Coherent
    := by
  unfold SIPClient.handleInvite
  split_ifs with registered busy
  · exact coherent
  · have idle : client.state.activeCallId = [] := by
      by_contra active
      exact busy (coherent.busy_iff.mpr active)
    apply (callCoherent_iff_of_ne_ringing
      (by simp [SIPClientStateManager.onCalling])).mpr
    exact ⟨by simp [SIPClientStateManager.onCalling,
      SIPClientStateManager.isBusy, newCallId_nonempty],
      coherent.pendingInvite_eq_none idle⟩
  · exact coherent

theorem Coherent.handleBye
    (coherent : client.Coherent)
    {sent : List ω} {next : SIPClient ω}
    (ended : client.handleBye = .ok (sent, next)) : next.Coherent := by
  unfold SIPClient.handleBye at ended
  obtain ⟨parts, split⟩ := splitLocal_total client.state.registeredUser
  rw [split] at ended
  split_ifs at ended with inCall
  · have talking : client.state.state = .inCall := by
      simpa [SIPClientStateManager.isInCall] using inCall
    cases ended
    exact callCoherent_onCallTerminated.mpr
      ((callCoherent_iff_of_ne_ringing (by simp [talking])).mp coherent).2
  · cases ended
    exact coherent

theorem Coherent.handleAnswer (coherent : client.Coherent) :
    client.handleAnswer.2.Coherent := by
  unfold SIPClient.handleAnswer
  cases pending : client.pendingInvite with
  | none => exact coherent
  | some invite =>
      have busy : client.state.isBusy = true := by
        simp [SIPClientStateManager.isBusy,
          coherent.ringing invite pending]
      exact (callCoherent_transitionTo_busy (Or.inr rfl)
        (coherent.busy_iff.mp busy)).mpr rfl

theorem Coherent.handleReject (coherent : client.Coherent) :
    client.handleReject.2.Coherent := by
  unfold SIPClient.handleReject
  cases pending : client.pendingInvite with
  | none => exact coherent
  | some invite => exact callCoherent_onCallTerminated.mpr rfl

/-! ## Registration -/

theorem Coherent.doRegister_iff
    (coherent : client.Coherent) (username domain extraHeaders : CppString) :
    (client.doRegister username domain extraHeaders).2.Coherent ↔
      (client.registration.isNone → client.state.activeCallId = []) := by
  unfold SIPClient.doRegister
  cases client.registration with
  | some registration => exact iff_imp_of_not coherent Bool.false_ne_true
  | none =>
      rw [Option.isNone_none, imp_iff_right rfl]
      exact coherent.notBusy_iff rfl rfl

/-- The end of a registration is no busy state and keeps the active call. -/
theorem registerOutcome_state
    (client : SIPClient ω) (registration : Registration ω) :
    (client.registerOutcome registration).isBusy = false ∧
      (client.registerOutcome registration).activeCallId =
        client.state.activeCallId := by
  unfold registerOutcome
  cases client.registerResponse with
  | none => exact ⟨rfl, rfl⟩
  | some response =>
      dsimp only
      split_ifs
      · exact ⟨rfl, rfl⟩
      · exact ⟨rfl, rfl⟩

theorem Coherent.registerWaited_iff (coherent : client.Coherent) :
    client.registerWaited.2.Coherent ↔
      (client.RegisterEnds → client.state.activeCallId = []) := by
  unfold SIPClient.registerWaited
  cases pending : client.registration with
  | none => exact iff_imp_of_not coherent (by simp [RegisterEnds, pending])
  | some registration =>
      dsimp only
      split_ifs with retries
      · obtain ⟨unanswered, early⟩ := retries
        have goesOn : ¬ client.RegisterEnds := by
          rintro ⟨registration', found, answered | late⟩
          · rw [Option.isNone_iff_eq_none.mp unanswered] at answered
            cases answered
          · rw [pending] at found
            cases found
            exact absurd early (not_lt.mpr late)
        exact iff_imp_of_not coherent goesOn
      · have ends : client.RegisterEnds := by
          rw [not_and_or, not_lt] at retries
          exact ⟨registration, pending,
            retries.imp_left (by simp [Option.isSome_iff_ne_none])⟩
        obtain ⟨notBusy, sameCall⟩ :=
          registerOutcome_state client registration
        rw [imp_iff_right ends]
        exact coherent.notBusy_iff notBusy sameCall

/-! ## Received packets -/

section Received

variable {data : ω} {sent : List ω} {next : SIPClient ω}

theorem callCoherent_onIncomingCall
    {callId remoteUri : CppString} (named : callId ≠ [])
    (same : Wire.extractCallId data = callId) :
    CallCoherent (manager.onIncomingCall callId remoteUri) (some data) where
  busy_iff := by
    simp [SIPClientStateManager.onIncomingCall,
      SIPClientStateManager.isBusy, named]
  ringing := fun _ _ => rfl
  incoming := fun _ _ => rfl
  sameCall := by
    rintro invite ⟨⟩
    exact same

/-- The message of a response moves the call on if its code does. -/
theorem Concerns.movesOn_iff
    (concerns : client.Concerns data) {code : Int}
    (read : Wire.extractStatusCode data = .ok code) :
    client.MovesOn data ↔ LeavesRinging code := by
  constructor
  · rintro (⟨-, bye, -⟩ | ⟨-, code', same, leaves⟩)
    · exact absurd bye concerns.notBye
    · rw [read] at same
      cases same
      exact leaves
  · exact fun leaves => Or.inr ⟨concerns, code, read, leaves⟩

theorem Coherent.onMessage_iff
    (coherent : client.Coherent)
    (handled : client.onMessage data = .ok (sent, next)) :
    next.Coherent ↔ (client.MovesOn data → client.pendingInvite = none) := by
  cases messageEffect_of_onMessage handled with
  | refused invite reason =>
      apply iff_imp_of_not coherent
      rintro (⟨notInvite, -⟩ | ⟨concerns, -⟩)
      · exact notInvite invite
      · exact concerns.notInvite invite
  | alerted invite named idle =>
      apply iff_imp_of_not (callCoherent_onIncomingCall named rfl)
      rintro (⟨notInvite, -⟩ | ⟨concerns, -⟩)
      · exact notInvite invite
      · exact concerns.notInvite invite
  | hungUp notInvite bye named active =>
      have moves : client.MovesOn data :=
        Or.inl ⟨notInvite, bye, active ▸ named, active⟩
      rw [imp_iff_right moves]
      exact callCoherent_onCallTerminated
  | otherBye notInvite bye other =>
      apply iff_imp_of_not coherent
      rintro (⟨-, -, active, same⟩ | ⟨concerns, -⟩)
      · rcases other with empty | other
        · exact active (same.symm.trans empty)
        · exact other same
      · exact concerns.notBye bye
  | ignored notInvite notBye other =>
      apply iff_imp_of_not coherent
      rintro (⟨-, bye, -⟩ | ⟨concerns, -⟩)
      · exact notBye bye
      · exact other concerns
  | tried concerns read =>
      rw [imp_iff_right ((concerns.movesOn_iff read).mpr (Or.inl rfl))]
      exact callCoherent_transitionTo_busy (Or.inl rfl)
        (concerns.active ▸ concerns.nonempty)
  | rung concerns read =>
      refine iff_imp_of_not (CallCoherent.onRinging coherent
        (concerns.active ▸ concerns.nonempty)) ?_
      rw [concerns.movesOn_iff read]
      simp [LeavesRinging]
  | accepted concerns read notBye =>
      rw [imp_iff_right
        ((concerns.movesOn_iff read).mpr (Or.inr (Or.inl rfl)))]
      exact callCoherent_transitionTo_busy (Or.inr rfl)
        (concerns.active ▸ concerns.nonempty)
  | ended concerns read bye =>
      rw [imp_iff_right
        ((concerns.movesOn_iff read).mpr (Or.inr (Or.inl rfl)))]
      exact callCoherent_onCallTerminated
  | failed concerns code read failure =>
      rw [imp_iff_right
        ((concerns.movesOn_iff read).mpr (Or.inr (Or.inr failure)))]
      exact callCoherent_onCallTerminated
  | passed concerns code read other =>
      apply iff_imp_of_not coherent
      rw [concerns.movesOn_iff read]
      rintro (late | late | late)
      · exact other.1 late
      · exact other.2.2.1 late
      · exact other.2.2.2 late

end Received

/-! ## Runs -/

theorem Coherent.onPacketReceived_iff
    {data : ω} {effects : Effects ω} {next : SIPClient ω}
    (coherent : client.Coherent)
    (handled : client.onPacketReceived data = .ok (effects, next)) :
    next.Coherent ↔ (client.MovesOn data → client.pendingInvite = none) := by
  obtain ⟨sameState, samePending⟩ := handleReceive_state client data
  have kept : (client.handleReceive data).Coherent := by
    rw [Coherent, sameState, samePending]
    exact coherent
  rw [kept.onMessage_iff (onPacketReceived_ok_iff.mp handled).1,
    MovesOn, MovesOn, handleReceive_concerns, sameState, samePending]

/-- An event keeps a coherent state coherent exactly under the condition. -/
theorem Coherent.step_iff
    {event : Event ω} {effects : Effects ω} {next : SIPClient ω}
    (coherent : client.Coherent)
    (stepped : client.step event = .ok (effects, next)) :
    next.Coherent ↔ client.KeepsCoherent event := by
  cases event with
  | doRegister username domain extraHeaders =>
      cases stepped
      exact coherent.doRegister_iff username domain extraHeaders
  | registerWaited =>
      cases stepped
      exact coherent.registerWaited_iff
  | doInvite drawn fromUser fromDomain toUser toDomain =>
      cases stepped
      exact iff_of_true
        (coherent.handleInvite drawn fromUser fromDomain toUser toDomain)
        trivial
  | doBye extraHeaders =>
      rw [step] at stepped
      cases ended : (client.setPendingHeaders "BYE" extraHeaders).handleBye with
      | error thrown =>
          rw [ended] at stepped
          cases stepped
      | ok result =>
          rw [ended] at stepped
          cases stepped
          have kept : (client.setPendingHeaders "BYE" extraHeaders).Coherent :=
            coherent
          exact iff_of_true (kept.handleBye ended) trivial
  | doAnswer =>
      cases stepped
      exact iff_of_true coherent.handleAnswer trivial
  | doReject =>
      cases stepped
      exact iff_of_true coherent.handleReject trivial
  | setPendingHeaders method headers =>
      cases stepped
      exact iff_of_true coherent trivial
  | received data =>
      rw [coherent.onPacketReceived_iff stepped]
      exact (imp_iff_right ⟨_, stepped⟩).symm

/-- Only the handling of a packet can throw, and then no state follows. -/
theorem keepsCoherent_of_error
    {event : Event ω} {thrown : StdException}
    (failed : client.step event = .error thrown) :
    client.KeepsCoherent event := by
  cases event with
  | doRegister _ _ _ => cases failed
  | registerWaited => cases failed
  | doInvite _ _ _ _ _ => cases failed
  | doBye _ => trivial
  | doAnswer => trivial
  | doReject => trivial
  | setPendingHeaders _ _ => trivial
  | received data =>
      rintro ⟨result, handled⟩
      rw [step, handled] at failed
      cases failed

theorem initial_coherent
    (factory : SIPMessageFactory) (errorCallback : Bool) :
    (initial factory errorCallback : SIPClient ω).Coherent where
  busy_iff := by
    simp [initial, SIPClientStateManager.isBusy]
  ringing := by simp [initial]
  incoming := by simp [initial]
  sameCall := by simp [initial]

/--
In every run from the initial state, the call state is coherent after every
event exactly if no registration begins or ends during a call and no received
message moves on a call whose INVITE is pending.
-/
theorem callState_coherent_iff
    (factory : SIPMessageFactory) (errorCallback : Bool)
    (events : List (Event CppString)) :
    Throughout step Coherent (initial factory errorCallback) events ↔
      Along step KeepsCoherent (initial factory errorCallback) events :=
  throughout_iff_along (fun _ _ => trivial)
    (fun stepped _ coherent => coherent.step_iff stepped)
    keepsCoherent_of_error trivial (initial_coherent factory errorCallback)

/-! ## A call that is answered after its end -/

def calleeFactory : SIPMessageFactory :=
  .create "127.0.0.1" 5080 1

/-- An INVITE as the proxy forwards it. -/
def incomingInvite : CppString :=
  ("INVITE sip:bob@local SIP/2.0\r\n" ++
    "Via: SIP/2.0/UDP proxy.local:5060\r\n" ++
    "Via: SIP/2.0/UDP 127.0.0.1:5070\r\n" ++
    "From: <sip:alice@local>\r\nTo: <sip:bob@local>\r\n" ++
    "Call-ID: c1\r\nCSeq: 1 INVITE\r\nContent-Length: 0\r\n\r\n").toList

/-- The BYE with which the caller gives up. -/
def incomingBye : CppString :=
  ("BYE sip:bob@local SIP/2.0\r\n" ++
    "Via: SIP/2.0/UDP proxy.local:5060\r\n" ++
    "Via: SIP/2.0/UDP 127.0.0.1:5070\r\n" ++
    "From: <sip:alice@local>\r\nTo: <sip:bob@local>\r\n" ++
    "Call-ID: c1\r\nCSeq: 2 BYE\r\nContent-Length: 0\r\n\r\n").toList

/-- The user still answers, and is in a call without a Call-ID. -/
theorem answered_after_bye :
    ¬ Throughout step Coherent (initial calleeFactory false)
      [.received incomingInvite, .received incomingBye, .doAnswer] := by
  intro throughout
  have answered : succeedsWith
      (run step (initial calleeFactory false)
        [.received incomingInvite, .received incomingBye, .doAnswer])
      (fun result => result.2.state.isBusy &&
        result.2.state.activeCallId = []) = true := by
    decide +kernel
  obtain ⟨⟨history, final⟩, ran, tested⟩ := exists_of_succeedsWith answered
  simp only [Bool.and_eq_true, decide_eq_true_eq] at tested
  exact (throughout.last ran).busy_iff.mp tested.1 tested.2

end SIPClient

end MinimalSip.Client

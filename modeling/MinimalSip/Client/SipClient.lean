import MinimalSip.Client.SipInviteHandler
import MinimalSip.Lib.Machine

/-!
# The client

`SIPClient` passes the user's actions and every received packet on to its
handlers.  The client is a step machine over these events.

`do_register` blocks its caller while packets keep coming in, so it is several
events: the call itself, which sends the first attempt, and each return of
`wait_for_response`, which either sends the next attempt or ends the call.
A second `do_register` cannot begin in between.
-/

namespace MinimalSip.Client

open MinimalSip.Lib.Cpp
open MinimalSip.Common

/-- What leaves the client: messages, and a call of the error callback. -/
structure Effects (ω : Type) where
  sent : List ω := []
  error : Option (Int × CppString) := none

/-- What can happen to a client. -/
inductive Event (ω : Type) where
  | doRegister (username domain extraHeaders : CppString)
  | registerWaited
  | doInvite (drawn : UInt64) (fromUser fromDomain toUser toDomain : CppString)
  | doBye (extraHeaders : CppString)
  | doAnswer
  | doReject
  | setPendingHeaders (method headers : CppString)
  | received (data : ω)

namespace SIPClient

variable {ω : Type} [Wire ω]

/-! ## Registration -/

/-- `handle_register` up to its first `wait_for_register_response`. -/
def doRegister (client : SIPClient ω)
    (username domain extraHeaders : CppString) : List ω × SIPClient ω :=
  match client.registration with
  | some _ => ([], client)
  | none =>
      let client := client.setPendingHeaders "REGISTER" extraHeaders
      let message := Wire.ofRequest (client.factory.request "REGISTER"
        username domain username domain [] (client.pendingHeaders "REGISTER"))
      ([message],
        { client with
          state := client.state.onRegistering
          registerResponse := none
          factory := client.factory.advance
          registration := some
            { username := username
              domain := domain
              message := message
              attempts := 1 } })

def maxAttempts : Nat := 5

/-- The end of `handle_register`, with the snapshot that it takes. -/
def registerOutcome (client : SIPClient ω) (registration : Registration ω) :
    SIPClientStateManager :=
  match client.registerResponse with
  | none => client.state.onRegisterFailed
  | some response =>
      if Wire.saysOk response then
        client.state.onRegisterSuccess registration.username
          registration.domain
      else client.state.onRegisterFailed

/-- `wait_for_register_response` returns, with or without a response. -/
def registerWaited (client : SIPClient ω) : List ω × SIPClient ω :=
  match client.registration with
  | none => ([], client)
  | some registration =>
      if client.registerResponse.isNone ∧
          registration.attempts < maxAttempts then
        ([registration.message],
          { client with
            registration := some
              { registration with attempts := registration.attempts + 1 } })
      else
        ([], { client with
          state := client.registerOutcome registration
          registration := none })

/-! ## Received packets -/

/-- `handle_receive`: keep what looks like the reply to a REGISTER. -/
def handleReceive (client : SIPClient ω) (data : ω) : SIPClient ω :=
  let isSipResponse := Wire.mentions "SIP/2.0" data
  let isRegisterReply :=
    (Wire.mentions "200 OK" data || Wire.mentions "401" data) &&
      Wire.mentions "REGISTER" data
  if isSipResponse && isRegisterReply then
    { client with registerResponse := some data }
  else client

theorem handleReceive_state (client : SIPClient ω) (data : ω) :
    (client.handleReceive data).state = client.state ∧
      (client.handleReceive data).pendingInvite = client.pendingInvite := by
  unfold handleReceive
  dsimp only
  split_ifs
  · exact ⟨rfl, rfl⟩
  · exact ⟨rfl, rfl⟩

theorem handleReceive_concerns {client : SIPClient ω} {data : ω} :
    (client.handleReceive data).Concerns data ↔ client.Concerns data := by
  obtain ⟨sameState, -⟩ := handleReceive_state client data
  constructor
  · intro held
    exact { held with active := sameState ▸ held.active }
  · intro held
    exact { held with active := sameState.symm ▸ held.active }

/-- What the error callback is told, if the UI has installed it. -/
def reportError (client : SIPClient ω) (data : ω) :
    Except StdException (Option (Int × CppString)) :=
  if client.errorCallback then Wire.callError data else .ok none

def onPacketReceived (client : SIPClient ω) (data : ω) :
    Except StdException (Effects ω × SIPClient ω) := do
  let (sent, client) ← (client.handleReceive data).onMessage data
  let error ← client.reportError data
  pure ({ sent := sent, error := error }, client)

theorem onPacketReceived_ok_iff
    {client next : SIPClient ω} {data : ω} {effects : Effects ω} :
    client.onPacketReceived data = .ok (effects, next) ↔
      (client.handleReceive data).onMessage data =
          .ok (effects.sent, next) ∧
        next.reportError data = .ok effects.error := by
  unfold onPacketReceived
  cases messaged : (client.handleReceive data).onMessage data with
  | error thrown => simp
  | ok result =>
      obtain ⟨sent, left⟩ := result
      rw [ok_bind]
      dsimp only
      cases reported : left.reportError data with
      | error thrown =>
          simp only [error_bind, reduceCtorEq, false_iff, not_and,
            Except.ok.injEq, Prod.mk.injEq]
          rintro ⟨-, rfl⟩
          simp [reported]
      | ok error =>
          simp only [ok_bind, pure_eq_ok, Except.ok.injEq, Prod.mk.injEq]
          constructor
          · rintro ⟨rfl, rfl⟩
            exact ⟨⟨rfl, rfl⟩, reported⟩
          · rintro ⟨⟨rfl, rfl⟩, same⟩
            rw [reported, Except.ok.injEq] at same
            subst same
            exact ⟨rfl, rfl⟩

/-! ## The machine -/

/-- A result without a call of the error callback. -/
def quiet (result : List ω × SIPClient ω) : Effects ω × SIPClient ω :=
  ({ sent := result.1 }, result.2)

def step (client : SIPClient ω) :
    Event ω → Except StdException (Effects ω × SIPClient ω)
  | .doRegister username domain extraHeaders =>
      .ok (quiet (client.doRegister username domain extraHeaders))
  | .registerWaited => .ok (quiet client.registerWaited)
  | .doInvite drawn fromUser fromDomain toUser toDomain =>
      .ok (quiet (client.handleInvite drawn fromUser fromDomain toUser
        toDomain))
  | .doBye extraHeaders =>
      (client.setPendingHeaders "BYE" extraHeaders).handleBye.map quiet
  | .doAnswer => .ok (quiet client.handleAnswer)
  | .doReject => .ok (quiet client.handleReject)
  | .setPendingHeaders method headers =>
      .ok ({}, client.setPendingHeaders method headers)
  | .received data => client.onPacketReceived data

/-- The client before the first event. -/
def initial (factory : SIPMessageFactory) (errorCallback : Bool) :
    SIPClient ω where
  factory := factory
  errorCallback := errorCallback

end SIPClient

end MinimalSip.Client

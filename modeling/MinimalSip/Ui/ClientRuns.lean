import MinimalSip.Client.CallState
import MinimalSip.Ui.SipQtApp

/-!
# The window only runs the client

Whatever the user does and however the two threads take turns, the client
inside the program goes through one of the runs of the client machine, and the
messages that leave the program are those of that run.  What holds of every
run of a client holds of the client behind the window.
-/

namespace MinimalSip.Ui

open MinimalSip.Lib.Cpp
open MinimalSip.Lib.Machine
open MinimalSip.Client

namespace SipQtApp

variable {ω : Type} [Wire ω]

/-! ## Runs of the client -/

/-- The client goes through some run in which it sends these messages. -/
def ClientRuns (client next : SIPClient ω) (sent : List ω) : Prop :=
  Produces SIPClient.step Effects.sent (fun _ => True) client next sent

theorem ClientRuns.step
    {client next : SIPClient ω} (event : Client.Event ω)
    {effects : Effects ω}
    (stepped : SIPClient.step client event = .ok (effects, next)) :
    ClientRuns client next effects.sent :=
  Produces.one event stepped trivial

theorem ClientRuns.setPendingHeaders
    (client : SIPClient ω) (method headers : CppString) :
    ClientRuns client (client.setPendingHeaders method headers) [] :=
  .step (.setPendingHeaders method headers) rfl

theorem ClientRuns.doRegister
    (client : SIPClient ω) (username domain extraHeaders : CppString) :
    ClientRuns client (client.doRegister username domain extraHeaders).2
      (client.doRegister username domain extraHeaders).1 :=
  .step (.doRegister username domain extraHeaders) rfl

/-! ## One event -/

section Moves

variable {app next : SipQtApp ω} {event : Event ω} {shown : Shown ω}

theorem clientRuns_callingClient (app : SipQtApp ω) :
    ClientRuns app.client app.callingClient [] :=
  Produces.trans (ClientRuns.setPendingHeaders _ _ _)
    (ClientRuns.setPendingHeaders _ _ _)

theorem clientRuns_onHeadersChanged (app : SipQtApp ω) :
    ClientRuns app.client app.onHeadersChanged.client [] := by
  unfold onHeadersChanged
  dsimp only
  split_ifs
  · exact Produces.trans
      (Produces.trans (ClientRuns.setPendingHeaders _ _ _)
        (ClientRuns.setPendingHeaders _ _ _))
      (ClientRuns.setPendingHeaders _ _ _)
  · exact Produces.refl app.client

/-- Each event is a run of the client, once its report goes through. -/
theorem clientRuns_of_move
    (moved : Move app event shown next)
    (reportable : ∀ data, next.reporting = some data →
      ∃ error, next.client.reportError data = .ok error) :
    ClientRuns app.client next.client shown.sent := by
  cases moved with
  | stays event dialog => exact Produces.refl _
  | registersUser username domain given => exact .doRegister _ _ _ _
  | shows free => exact Produces.refl _
  | edits event username domain callee => exact Produces.refl _
  | changesHeaders event widget hidden =>
      exact clientRuns_onHeadersChanged (app.setHeaderInjection widget)
  | registers username domain looping enabled =>
      exact .doRegister _ _ _ _
  | calls drawn fromUser fromDomain toUser toDomain looping enabled =>
      exact Produces.trans (clientRuns_callingClient app)
        (ClientRuns.step (.doInvite drawn fromUser fromDomain toUser toDomain)
          rfl)
  | hangsUp sent client looping enabled handled =>
      have stepped : SIPClient.step app.client
          (.doBye (app.window.headerInjection.injected "BYE")) =
            .ok ({ sent := sent }, client) := by
        rw [SIPClient.step, ← hangingUpClient, handled]
        rfl
      exact .step _ stepped
  | answers looping enabled => exact .step .doAnswer rfl
  | rejects looping enabled => exact .step .doReject rfl
  | delivers signal rest looping waiting => exact Produces.refl _
  | waits => exact .step .registerWaited rfl
  | receives data sent client idle handled =>
      obtain ⟨error, reported⟩ := reportable data rfl
      have stepped : SIPClient.step app.client (.received data) =
          .ok ({ sent := sent, error := error }, client) :=
        SIPClient.onPacketReceived_ok_iff.mpr ⟨handled, reported⟩
      exact .step _ stepped
  | reports data error outstanding reported => exact Produces.refl _

theorem Move.errorCallback (moved : Move app event shown next) :
    next.client.errorCallback = app.client.errorCallback := by
  cases moved with
  | stays event dialog => rfl
  | registersUser username domain given =>
      exact SIPClient.doRegister_errorCallback _ _ _ _
  | shows free => rfl
  | edits event username domain callee => rfl
  | changesHeaders event widget hidden =>
      obtain ⟨headers, changed⟩ :=
        onHeadersChanged_eq (app.setHeaderInjection widget)
      rw [changed]
      rfl
  | registers username domain looping enabled =>
      exact SIPClient.doRegister_errorCallback _ _ _ _
  | calls drawn fromUser fromDomain toUser toDomain looping enabled =>
      exact (SIPClient.handleInvite_changesCall app.callingClient drawn
        fromUser fromDomain toUser toDomain).errorCallback
  | hangsUp sent client looping enabled handled =>
      exact (SIPClient.handleBye_changesCall handled).errorCallback
  | answers looping enabled =>
      exact (SIPClient.handleAnswer_changesCall app.client).errorCallback
  | rejects looping enabled =>
      exact (SIPClient.handleReject_changesCall app.client).errorCallback
  | delivers signal rest looping waiting => rfl
  | waits => exact (SIPClient.registerWaited_settings app.client).errorCallback
  | receives data sent client idle handled =>
      exact (SIPClient.onMessage_changesCall handled).errorCallback.trans
        (SIPClient.handleReceive_settings app.client data).errorCallback
  | reports data error outstanding reported => rfl

/-- No exception waits to be thrown by the receiving thread. -/
def Reportable (app : SipQtApp ω) : Prop :=
  ∀ data, app.reporting = some data →
    ∃ error, Wire.callError data = .ok error

/-- A report that would fail is never got rid of. -/
theorem Reportable.before
    (moved : Move app event shown next)
    (installed : app.client.errorCallback = true)
    (reportable : Reportable next) :
    Reportable app := by
  cases moved with
  | receives data sent client idle handled =>
      intro other waiting
      rw [idle] at waiting
      cases waiting
  | reports data error outstanding reported =>
      intro other waiting
      rw [outstanding] at waiting
      cases waiting
      exact ⟨error, by rwa [SIPClient.reportError, if_pos installed]
        at reported⟩
  | changesHeaders event widget hidden =>
      obtain ⟨headers, changed⟩ :=
        onHeadersChanged_eq (app.setHeaderInjection widget)
      rw [changed] at reportable
      exact reportable
  | _ => exact reportable

/-- What may be sent is sent by a run of the client, unless a report fails. -/
def Follows (start : SIPClient ω) (past : List (Event ω × Shown ω))
    (app : SipQtApp ω) : Prop :=
  app.client.errorCallback = true ∧
    (Reportable app →
      ClientRuns start app.client (past.flatMap (fun entry => entry.2.sent)))

theorem Follows.move
    {start : SIPClient ω} {past : List (Event ω × Shown ω)}
    (follows : Follows start past app)
    (moved : Move app event shown next) :
    Follows start (past ++ [(event, shown)]) next := by
  obtain ⟨installed, ran⟩ := follows
  have still : next.client.errorCallback = true :=
    moved.errorCallback.trans installed
  refine ⟨still, fun reportable => ?_⟩
  have goesOn : ClientRuns app.client next.client shown.sent := by
    refine clientRuns_of_move moved (fun data waiting => ?_)
    rw [SIPClient.reportError, if_pos still]
    exact reportable data waiting
  have whole : ClientRuns start next.client (_ ++ shown.sent) :=
    Produces.trans (ran (.before moved installed reportable)) goesOn
  simpa using whole

end Moves

/-! ## Every run -/

/-- Bob is registered from the command line, and the window is told. -/
def registeredSession : List (Event CppString) :=
  [.autoRegister,
    .packetReceived "SIP/2.0 200 OK\r\nCSeq: 1 REGISTER\r\n\r\n".toList,
    .packetReported, .registerWaited, .showEvent, .deliverSignal,
    .deliverSignal]

/-- Alice calls bob, and the window shows it. -/
def callingSession : List (Event CppString) :=
  [.packetReceived SIPClient.incomingInvite, .packetReported, .deliverSignal,
    .deliverSignal, .deliverSignal]

/-- The program of bob. -/
def bobApp : SipQtApp CppString :=
  initial SIPClient.calleeFactory (some ("bob".toList, "local".toList))

end SipQtApp

end MinimalSip.Ui

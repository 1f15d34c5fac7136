import MinimalSip.Ui.ClientRuns

/-!
# What the window shows

The slots read the state of the client when they run, not when the signal was
sent, so the window is right as soon as every change of the state is followed
by a signal that is still to be delivered.  The handlers for the user's answer
and rejection break this, and so does the registration.
-/

namespace MinimalSip.Ui

open MinimalSip.Lib.Cpp
open MinimalSip.Lib.Machine
open MinimalSip.Client

/-! ## Slots and buttons -/

/-- A signal whose slot calls `update_button_states`. -/
def Signal.updates {ω : Type} : Signal ω → Bool
  | .registerResponseReceived success _ => success
  | .callStateChanged _ _ _ => true
  | .incomingCallSignal _ _ => true
  | .callErrorSignal _ _ => true

/-- A signal whose slot enables the Register button. -/
def Signal.enablesRegister {ω : Type} : Signal ω → Bool
  | .registerResponseReceived _ _ => true
  | .callStateChanged _ _ _ => false
  | .incomingCallSignal _ _ => false
  | .callErrorSignal _ _ => false

namespace SipQtApp

variable {ω : Type}

section Slots

variable (window : MainWindow) (state : SIPClientStateManager)
  (signal : Signal ω)

theorem slot_updates (updates : signal.updates = true) :
    (slot window state signal).2.buttons =
      MainWindow.buttonsFor (slot window state signal).2.registered
        state := by
  cases signal with
  | registerResponseReceived success raw =>
      have same : success = true := updates
      subst same
      rfl
  | callStateChanged name callId remoteUri => rfl
  | incomingCallSignal callId caller => rfl
  | callErrorSignal code reason =>
      unfold slot MainWindow.onCallError
      dsimp only
      split_ifs <;> rfl

theorem slot_keeps (silent : signal.updates = false) :
    (slot window state signal).2.buttons = window.buttons ∧
      (slot window state signal).2.registered = window.registered := by
  cases signal with
  | registerResponseReceived success raw =>
      have same : success = false := silent
      subst same
      exact ⟨rfl, rfl⟩
  | callStateChanged name callId remoteUri => cases silent
  | incomingCallSignal callId caller => cases silent
  | callErrorSignal code reason => cases silent

theorem slot_registerEnabled :
    (slot window state signal).2.registerEnabled =
      (window.registerEnabled || signal.enablesRegister) := by
  cases signal with
  | registerResponseReceived success raw =>
      unfold slot MainWindow.onRegisterResponse
      dsimp only
      split_ifs <;> simp [MainWindow.setCallSectionLocked,
        MainWindow.updateButtonStates, Signal.enablesRegister]
  | callStateChanged name callId remoteUri =>
      unfold slot MainWindow.onCallStateChanged
      dsimp only
      split_ifs <;> simp [MainWindow.updateButtonStates,
        Signal.enablesRegister]
  | incomingCallSignal callId caller =>
      simp [slot, MainWindow.onIncomingCall, MainWindow.updateButtonStates,
        Signal.enablesRegister]
  | callErrorSignal code reason =>
      unfold slot MainWindow.onCallError
      dsimp only
      split_ifs <;> simp [MainWindow.updateButtonStates,
        Signal.enablesRegister]

theorem slot_headerInjection :
    (slot window state signal).2.headerInjection =
      window.headerInjection := by
  cases signal with
  | registerResponseReceived success raw =>
      unfold slot MainWindow.onRegisterResponse
      dsimp only
      split_ifs <;> rfl
  | callStateChanged name callId remoteUri =>
      unfold slot MainWindow.onCallStateChanged
      dsimp only
      split_ifs <;> rfl
  | incomingCallSignal callId caller => rfl
  | callErrorSignal code reason =>
      unfold slot MainWindow.onCallError
      dsimp only
      split_ifs <;> rfl

end Slots

variable [Wire ω] {app next : SipQtApp ω} {event : Event ω}
  {shown : Shown ω}

/-! ## The call buttons -/

/-- The call buttons are those that the state of the client allows. -/
def Agrees (app : SipQtApp ω) : Prop :=
  app.window.buttons =
    MainWindow.buttonsFor app.window.registered app.client.state

/-- The actions whose handlers change the state without a notification. -/
def changesSilently : Event ω → Bool
  | .autoRegister => true
  | .clickRegister => true
  | .clickAnswer => true
  | .clickReject => true
  | _ => false

/-- The buttons agree, or a signal that brings them up to date is due. -/
inductive Settling (app : SipQtApp ω) : Prop where
  | reporting (data : ω) (outstanding : app.reporting = some data)
  | signalled (signal : Signal ω) (waiting : signal ∈ app.signals)
      (updates : signal.updates = true)
  | settled (looping : app.isLooping = true) (agrees : Agrees app)

/-- What the invariant looks at. -/
structure SameDisplay (app next : SipQtApp ω) : Prop where
  reporting : next.reporting = app.reporting
  signals : next.signals = app.signals
  looping : next.isLooping = app.isLooping
  buttons : next.window.buttons = app.window.buttons
  registered : next.window.registered = app.window.registered
  state : next.client.state = app.client.state

omit [Wire ω] in
theorem Settling.same
    (settling : Settling app) (same : SameDisplay app next) :
    Settling next := by
  cases settling with
  | reporting data outstanding =>
      exact .reporting data (same.reporting.trans outstanding)
  | signalled signal waiting updates =>
      exact .signalled signal (same.signals ▸ waiting) updates
  | settled looping agrees =>
      refine .settled (same.looping.trans looping) ?_
      rw [Agrees, same.buttons, same.registered, same.state]
      exact agrees

omit [Wire ω] in
/-- More signals do no harm, as long as the rest stays the same. -/
theorem Settling.notified
    {client : SIPClient ω} {notifies : Bool}
    (settling : Settling app)
    (quiet : notifies = false →
      client.state = app.client.state ∧
        client.registration = app.client.registration) :
    Settling { app with
      client := client
      signals := app.signals ++ notifiedIf notifies client } := by
  cases notifies with
  | true =>
      exact .signalled (callStateSignal client)
        (List.mem_append_right _ List.mem_cons_self) rfl
  | false =>
      obtain ⟨state, registration⟩ := quiet rfl
      refine settling.same ⟨rfl, List.append_nil _, ?_, rfl, rfl, state⟩
      simp only [isLooping, registration]

omit [Wire ω] in
theorem Settling.delivered
    {signal : Signal ω} {rest : List (Signal ω)}
    (settling : Settling app)
    (looping : app.isLooping = true)
    (waiting : app.signals = signal :: rest) :
    Settling { app with
      window := (slot app.window app.client.state signal).2
      signals := rest } := by
  cases updates : signal.updates with
  | true =>
      exact .settled looping
        (slot_updates app.window app.client.state signal updates)
  | false =>
      obtain ⟨buttons, registered⟩ :=
        slot_keeps app.window app.client.state signal updates
      cases settling with
      | reporting data outstanding => exact .reporting data outstanding
      | signalled other member updatesToo =>
          rw [waiting] at member
          rcases List.mem_cons.mp member with rfl | later
          · rw [updates] at updatesToo
            cases updatesToo
          · exact .signalled other later updatesToo
      | settled _ agrees =>
          refine .settled looping ?_
          unfold Agrees
          rw [buttons, registered]
          exact agrees

theorem Settling.waited
    (settling : Settling app) :
    Settling { app with client := app.client.registerWaited.2 } := by
  cases settling with
  | reporting data outstanding => exact .reporting data outstanding
  | signalled signal waiting updates =>
      exact .signalled signal waiting updates
  | settled looping agrees =>
      have idle : app.client.registration = none :=
        Option.isNone_iff_eq_none.mp (Bool.and_eq_true_iff.mp looping).2
      rw [SIPClient.registerWaited_idle idle]
      exact .settled looping agrees

theorem Settling.move
    (settling : Settling app)
    (moved : Move app event shown next)
    (loud : changesSilently event = false) :
    Settling next := by
  cases moved with
  | stays event dialog => exact settling
  | registersUser username domain given => cases loud
  | shows free =>
      exact .settled (by simp [isLooping, free]) rfl
  | edits event username domain callee =>
      exact settling.same ⟨rfl, rfl, rfl, rfl, rfl, rfl⟩
  | changesHeaders event widget hidden =>
      obtain ⟨headers, changed⟩ :=
        onHeadersChanged_eq (app.setHeaderInjection widget)
      rw [changed]
      exact settling.same ⟨rfl, rfl, rfl, rfl, rfl, rfl⟩
  | registers username domain looping enabled => cases loud
  | calls drawn fromUser fromDomain toUser toDomain looping enabled =>
      refine settling.notified (fun quiet => ?_)
      rw [SIPClient.handleInvite_quiet quiet]
      exact ⟨rfl, rfl⟩
  | hangsUp sent client looping enabled handled =>
      refine settling.notified (fun quiet => ?_)
      rw [SIPClient.handleBye_quiet quiet] at handled
      cases handled
      exact ⟨rfl, rfl⟩
  | answers looping enabled => cases loud
  | rejects looping enabled => cases loud
  | delivers signal rest looping waiting =>
      exact settling.delivered looping waiting
  | waits => exact settling.waited
  | receives data sent client idle handled => exact .reporting data rfl
  | reports data error outstanding reported =>
      refine .signalled (callStateSignal app.client) ?_ rfl
      exact List.mem_append_right _
        (List.mem_append_left _ (List.mem_append_right _ List.mem_cons_self))

/-- A packet that is received has its report outstanding. -/
theorem reporting_of_packet
    {data : ω} (stepped : app.step (.packetReceived data) = .ok (shown, next)) :
    ∃ other, next.reporting = some other := by
  cases busy : app.reporting with
  | some other =>
      rw [step, busy] at stepped
      cases stepped
      exact ⟨other, busy⟩
  | none =>
      rw [step, busy] at stepped
      dsimp only at stepped
      rw [SipQtApp.packetReceived] at stepped
      cases handled : (app.client.handleReceive data).onMessage data with
      | error thrown =>
          rw [handled] at stepped
          cases stepped
      | ok result =>
          rw [handled] at stepped
          cases stepped
          exact ⟨data, rfl⟩

/-- What happens without the network and without a new registration. -/
def isLocal : Event ω → Bool
  | .autoRegister => false
  | .showEvent => false
  | .clickRegister => false
  | .packetReceived _ => false
  | _ => true

/-- The call is answered, and the window does not know. -/
structure Overlooked (app : SipQtApp ω) : Prop where
  looping : app.isLooping = true
  reported : app.reporting = none
  delivered : app.signals = []
  buttons : app.window.buttons = { answer := true, reject := true }
  answered : app.client.pendingInvite = none
  inCall : app.client.state.state = .inCall

theorem Overlooked.move
    (overlooked : Overlooked app)
    (moved : Move app event shown next)
    (here : isLocal event = true) :
    Overlooked next := by
  have pressed : app.client.handleAnswer = ([], app.client) ∧
      app.client.handleReject = ([], app.client) := by
    rw [SIPClient.handleAnswer, SIPClient.handleReject, overlooked.answered]
    exact ⟨rfl, rfl⟩
  have idle : app.client.registration = none :=
    Option.isNone_iff_eq_none.mp
      (Bool.and_eq_true_iff.mp overlooked.looping).2
  cases moved with
  | stays event dialog => exact overlooked
  | registersUser username domain given => cases here
  | shows free => cases here
  | edits event username domain callee =>
      exact { overlooked with }
  | changesHeaders event widget hidden =>
      obtain ⟨headers, changed⟩ :=
        onHeadersChanged_eq (app.setHeaderInjection widget)
      rw [changed]
      exact { overlooked with }
  | registers username domain looping enabled => cases here
  | calls drawn fromUser fromDomain toUser toDomain looping enabled =>
      rw [overlooked.buttons] at enabled
      cases enabled
  | hangsUp sent client looping enabled handled =>
      rw [overlooked.buttons] at enabled
      cases enabled
  | answers looping enabled =>
      rw [pressed.1]
      exact overlooked
  | rejects looping enabled =>
      rw [pressed.2]
      exact overlooked
  | delivers signal rest looping waiting =>
      rw [overlooked.delivered] at waiting
      cases waiting
  | waits =>
      rw [SIPClient.registerWaited_idle idle]
      exact overlooked
  | receives data sent client idle handled => cases here
  | reports data error outstanding reported =>
      rw [overlooked.reported] at outstanding
      cases outstanding

omit [Wire ω] in
/-- The window offers to answer exactly while a call comes in. -/
theorem Agrees.buttons_of_answer
    (agrees : Agrees app) (enabled : app.window.buttons.answer = true) :
    app.window.buttons = { answer := true, reject := true } ∧
      app.client.state.state = .ringing := by
  rw [agrees] at enabled ⊢
  simp only [MainWindow.buttonsFor, Bool.and_eq_true,
    decide_eq_true_eq] at enabled
  obtain ⟨registered, ⟨ringing, active⟩, incoming⟩ := enabled
  refine ⟨?_, ringing⟩
  simp [MainWindow.buttonsFor, registered, ringing, active, incoming]

/--
A call that is answered in a window at rest cannot be hung up: Hang Up stays
disabled, and Answer enabled, until another packet comes in, whatever the user
does short of registering again.
-/
theorem answered_cannot_hangUp
    {invite : ω} {inputs : List (Event ω)}
    {history : List (Event ω × Shown ω)} {app final : SipQtApp ω}
    (looping : app.isLooping = true) (reported : app.reporting = none)
    (delivered : app.signals = []) (agrees : Agrees app)
    (enabled : app.window.buttons.answer = true)
    (pending : app.client.pendingInvite = some invite)
    (ran : run step app (.clickAnswer :: inputs) = .ok (history, final))
    (here : ∀ event ∈ inputs, isLocal event = true) :
    final.client.state.state = .inCall ∧
      final.window.buttons = { answer := true, reject := true } := by
  obtain ⟨output, middle, rest, stepped, restRan, rfl⟩ :=
    run_cons_ok_iff.mp ran
  obtain ⟨buttons, -⟩ := agrees.buttons_of_answer enabled
  have start : Overlooked middle := by
    rw [step, whenLooping, looping, enabled] at stepped
    simp only [Bool.and_self, if_true, onAnswerClicked,
      SIPClient.handleAnswer, pending] at stepped
    cases stepped
    exact ⟨looping, reported, delivered, buttons, rfl, rfl⟩
  have overlooked : Overlooked final :=
    run_invariant_on
      (fun {_ event _ _} stepped (here : isLocal event = true) overlooked =>
        overlooked.move (move_of_step stepped) here)
      restRan here start
  exact ⟨overlooked.inCall, overlooked.buttons⟩

/-- Bob answers alice and tries in vain to hang up. -/
theorem answered_cannot_hangUp_bob :
    ∃ history final,
      run step bobApp (registeredSession ++ callingSession ++
          [.clickAnswer, .clickHangup, .clickReject, .deliverSignal]) =
        .ok (history, final) ∧
      final.client.state.state = .inCall ∧
      final.window.buttons.hangup = false := by
  have tested : succeedsWith
      (run step bobApp (registeredSession ++ callingSession))
      (fun result => decide (result.2.isLooping = true ∧
          result.2.reporting = none ∧ result.2.signals.isEmpty = true ∧
          result.2.window.buttons = MainWindow.buttonsFor
            result.2.window.registered result.2.client.state ∧
          result.2.window.buttons.answer = true ∧
          result.2.client.pendingInvite = some SIPClient.incomingInvite) &&
        succeedsWith (run step result.2
          [.clickAnswer, .clickHangup, .clickReject, .deliverSignal])
          (fun _ => true)) = true := by
    decide +kernel
  obtain ⟨⟨history, app⟩, ran, both⟩ := exists_of_succeedsWith tested
  obtain ⟨ready, goesOn⟩ := (Bool.and_eq_true _ _).mp both
  obtain ⟨looping, reported, empty, agrees, enabled, pending⟩ :=
    of_decide_eq_true ready
  obtain ⟨⟨later, final⟩, answered, -⟩ := exists_of_succeedsWith goesOn
  obtain ⟨inCall, buttons⟩ := answered_cannot_hangUp looping reported
    (List.isEmpty_iff.mp empty) agrees enabled pending answered (by decide)
  exact ⟨history ++ later, final, run_append ran answered, inCall,
    by rw [buttons]⟩

end SipQtApp

end MinimalSip.Ui

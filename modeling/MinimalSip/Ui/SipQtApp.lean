import MinimalSip.Lib.Machine
import MinimalSip.Ui.MainWindow

/-!
# The program with a window

The client runs in two threads.  One receives packets, lets the handlers
work on each, and reports what came of it.  The other owns the window: it runs
the event loop, which carries out what the user does and the slots of the
signals that wait in its queue.  Every notification of the client is such a
signal, whichever thread it comes from, so between a change of the client and
the slot that shows it anything may happen.

`do_register` runs in the thread of the window and blocks it.  Before the
event loop begins, `main` registers the user given on the command line.
-/

namespace MinimalSip.Ui

open MinimalSip.Lib.Cpp
open MinimalSip.Lib.Search
open MinimalSip.Client

/-- The signals of `SipQtApp`, all connected through the queue. -/
inductive Signal (ω : Type) where
  | registerResponseReceived (success : Bool) (raw : ω)
  | callStateChanged (state callId remoteUri : CppString)
  | incomingCallSignal (callId caller : CppString)
  | callErrorSignal (code : Int) (reason : CppString)

/-- What leaves the program: messages and message boxes. -/
structure Shown (ω : Type) where
  sent : List ω := []
  dialog : Option (Dialog ω) := none

/--
`reporting` is the packet whose handlers have returned and whose outcome has
not been reported yet.
-/
structure SipQtApp (ω : Type) where
  client : SIPClient ω
  window : MainWindow := {}
  signals : List (Signal ω) := []
  reporting : Option ω := none
  autoRegister : Option (CppString × CppString) := none
  executing : Bool := false

/-- What can happen to the program. -/
inductive Event (ω : Type) where
  | autoRegister
  | showEvent
  | typeUsername (text : CppString)
  | typeDomain (text : CppString)
  | typeCallee (text : CppString)
  | typeHeaders (method text : CppString)
  | toggleInjection
  | clickRegister
  | clickCall (drawn : UInt64)
  | clickHangup
  | clickAnswer
  | clickReject
  | deliverSignal
  | registerWaited
  | packetReceived (data : ω)
  | packetReported

namespace SipQtApp

variable {ω : Type} [Wire ω]

/-! ## Notifications -/

/-- `notify_call_state_changed` -/
def callStateSignal (client : SIPClient ω) : Signal ω :=
  .callStateChanged (stateName client.state.state) client.state.activeCallId
    client.state.activeRemoteUri

def notifiedIf (notifies : Bool) (client : SIPClient ω) :
    List (Signal ω) :=
  if notifies then [callStateSignal client] else []

/-- The callback for registrations, called after every packet. -/
def registerSignals (client : SIPClient ω) : List (Signal ω) :=
  match client.registerResponse with
  | none => []
  | some response =>
      [.registerResponseReceived (Wire.saysOk response) response]

/-- The callbacks for calls, called after every packet. -/
def callSignals (client : SIPClient ω) (error : Option (Int × CppString)) :
    List (Signal ω) :=
  (error.map (fun reported =>
      Signal.callErrorSignal reported.1 reported.2)).toList ++
    [callStateSignal client]

/-- The end of `on_packet_received`. -/
def reportSignals (client : SIPClient ω) (error : Option (Int × CppString)) :
    List (Signal ω) :=
  callSignals client error ++ registerSignals client

/-- The slot that is connected to a signal. -/
def slot (window : MainWindow) (state : SIPClientStateManager) :
    Signal ω → Option (Dialog ω) × MainWindow
  | .registerResponseReceived success raw =>
      window.onRegisterResponse state success raw
  | .callStateChanged name callId remoteUri =>
      (none, window.onCallStateChanged state name callId remoteUri)
  | .incomingCallSignal callId caller =>
      (none, window.onIncomingCall state callId caller)
  | .callErrorSignal code reason => window.onCallError state code reason

/-! ## The user's actions -/

def onRegisterClicked (app : SipQtApp ω) : Shown ω × SipQtApp ω :=
  let username := trimmed app.window.usernameEdit
  let domain := trimmed app.window.domainEdit
  if username = [] || domain = [] then
    ({ dialog := some (.warning "Input error"
        "Username and domain must not be empty.") }, app)
  else
    let (sent, client) := app.client.doRegister username domain
      (app.window.headerInjection.injected "REGISTER")
    ({ sent := sent },
      { app with
        client := client
        window := { app.window with
          registerEnabled := false
          statusLabel := "Registering…" } })

def onCallClicked (app : SipQtApp ω) (drawn : UInt64) :
    Except StdException (Shown ω × SipQtApp ω) :=
  let callee := trimmed app.window.calleeEdit
  if callee = [] then
    .ok ({ dialog := some (.warning "Input error"
        "Callee must not be empty.") }, app)
  else
    match find "@" callee with
    | none => .ok ({ dialog := some (.warning "Input error"
        "Callee must be in user@domain format.") }, app)
    | some position =>
        if position < 1 || position = callee.length - 1 then
          .ok ({ dialog := some (.warning "Input error"
            "Callee must be in user@domain format.") }, app)
        else do
          let toUser := callee.take position
          let toDomain := callee.drop (position + 1)
          let (fromUser, fromDomain) ←
            SIPClient.splitLocal app.client.state.registeredUser
          let widget := app.window.headerInjection
          let client := (app.client.setPendingHeaders "INVITE"
            (widget.injected "INVITE")).setPendingHeaders "ACK"
              (widget.injected "ACK")
          let (sent, next) := client.handleInvite drawn fromUser fromDomain
            toUser toDomain
          pure ({ sent := sent },
            { app with
              client := next
              signals := app.signals ++
                notifiedIf client.inviteNotifies next })

def onHangupClicked (app : SipQtApp ω) :
    Except StdException (Shown ω × SipQtApp ω) := do
  let client := app.client.setPendingHeaders "BYE"
    (app.window.headerInjection.injected "BYE")
  let (sent, next) ← client.handleBye
  pure ({ sent := sent },
    { app with
      client := next
      signals := app.signals ++ notifiedIf client.byeNotifies next })

def onAnswerClicked (app : SipQtApp ω) : Shown ω × SipQtApp ω :=
  let (sent, client) := app.client.handleAnswer
  ({ sent := sent }, { app with client := client })

def onRejectClicked (app : SipQtApp ω) : Shown ω × SipQtApp ω :=
  let (sent, client) := app.client.handleReject
  ({ sent := sent }, { app with client := client })

/-- Follows every edit of the extra headers and every click on the box. -/
def onHeadersChanged (app : SipQtApp ω) : SipQtApp ω :=
  let widget := app.window.headerInjection
  if ¬ widget.isEnabled then app
  else
    { app with
      client := ((app.client.setPendingHeaders "100"
        (widget.headersFor "100")).setPendingHeaders "180"
          (widget.headersFor "180")).setPendingHeaders "200"
            (widget.headersFor "200") }

/-! ## The receiving thread -/

/-- The part of `on_packet_received` up to the return of `on_message`. -/
def packetReceived (app : SipQtApp ω) (data : ω) :
    Except StdException (Shown ω × SipQtApp ω) := do
  let client := app.client.handleReceive data
  let (sent, next) ← client.onMessage data
  pure ({ sent := sent },
    { app with
      client := next
      signals := app.signals ++ notifiedIf (client.messageNotifies data) next
      reporting := some data })

/-- The part of `on_packet_received` that calls the callbacks. -/
def packetReported (app : SipQtApp ω) (data : ω) :
    Except StdException (Shown ω × SipQtApp ω) := do
  let error ← app.client.reportError data
  pure ({},
    { app with
      signals := app.signals ++ reportSignals app.client error
      reporting := none })

/-! ## The machine -/

def setWindow (app : SipQtApp ω) (window : MainWindow) : SipQtApp ω :=
  { app with window := window }

def setHeaderInjection (app : SipQtApp ω) (widget : HeaderInjectionWidget) :
    SipQtApp ω :=
  app.setWindow { app.window with headerInjection := widget }

/-- The event loop runs, and no slot or handler blocks it. -/
def isLooping (app : SipQtApp ω) : Bool :=
  app.executing && app.client.registration.isNone

/-- What the event loop does, if it runs and the widget is enabled. -/
def whenLooping (app : SipQtApp ω) (enabled : Bool)
    (result : Except StdException (Shown ω × SipQtApp ω)) :
    Except StdException (Shown ω × SipQtApp ω) :=
  if app.isLooping && enabled then result else .ok ({}, app)

def step (app : SipQtApp ω) :
    Event ω → Except StdException (Shown ω × SipQtApp ω)
  | .autoRegister =>
      match app.autoRegister with
      | none => .ok ({}, app)
      | some (username, domain) =>
          let (sent, client) := app.client.doRegister username domain []
          .ok ({ sent := sent },
            { app with client := client, autoRegister := none })
  | .showEvent =>
      if app.autoRegister.isNone && app.client.registration.isNone then
        .ok ({}, { app with
          window := app.window.updateButtonStates app.client.state
          executing := true })
      else .ok ({}, app)
  | .typeUsername text => app.whenLooping true
      (.ok ({}, app.setWindow { app.window with usernameEdit := text }))
  | .typeDomain text => app.whenLooping true
      (.ok ({}, app.setWindow { app.window with domainEdit := text }))
  | .typeCallee text => app.whenLooping (!app.window.callSectionLocked)
      (.ok ({}, app.setWindow { app.window with calleeEdit := text }))
  | .typeHeaders method text =>
      app.whenLooping (app.window.headerInjection.isEnabled &&
          HeaderInjectionWidget.methods.contains method)
        (.ok ({}, (app.setHeaderInjection
          (app.window.headerInjection.setPlainText method
            text)).onHeadersChanged))
  | .toggleInjection => app.whenLooping true
      (.ok ({}, (app.setHeaderInjection
        { app.window.headerInjection with
          toggle := !app.window.headerInjection.toggle }).onHeadersChanged))
  | .clickRegister => app.whenLooping app.window.registerEnabled
      (.ok app.onRegisterClicked)
  | .clickCall drawn => app.whenLooping app.window.buttons.call
      (app.onCallClicked drawn)
  | .clickHangup => app.whenLooping app.window.buttons.hangup
      app.onHangupClicked
  | .clickAnswer => app.whenLooping app.window.buttons.answer
      (.ok app.onAnswerClicked)
  | .clickReject => app.whenLooping app.window.buttons.reject
      (.ok app.onRejectClicked)
  | .deliverSignal => app.whenLooping true
      (match app.signals with
      | [] => .ok ({}, app)
      | signal :: rest =>
          let (dialog, window) := slot app.window app.client.state signal
          .ok ({ dialog := dialog },
            { app with window := window, signals := rest }))
  | .registerWaited =>
      let (sent, client) := app.client.registerWaited
      .ok ({ sent := sent }, { app with client := client })
  | .packetReceived data =>
      match app.reporting with
      | none => app.packetReceived data
      | some _ => .ok ({}, app)
  | .packetReported =>
      match app.reporting with
      | none => .ok ({}, app)
      | some data => app.packetReported data

/-- The program once its callbacks are installed. -/
def initial (factory : SIPMessageFactory)
    (autoRegister : Option (CppString × CppString)) : SipQtApp ω where
  client := SIPClient.initial factory true
  autoRegister := autoRegister

/-! ## What one event does -/

/-- The client as `on_call_clicked` hands it to `do_invite`. -/
def callingClient (app : SipQtApp ω) : SIPClient ω :=
  (app.client.setPendingHeaders "INVITE"
    (app.window.headerInjection.injected "INVITE")).setPendingHeaders "ACK"
      (app.window.headerInjection.injected "ACK")

/-- The client as `do_bye` hands it to `handle_bye`. -/
def hangingUpClient (app : SipQtApp ω) : SIPClient ω :=
  app.client.setPendingHeaders "BYE"
    (app.window.headerInjection.injected "BYE")

/-- The effects of one event, each with its conditions. -/
inductive Move (app : SipQtApp ω) :
    Event ω → Shown ω → SipQtApp ω → Prop where
  | stays (event : Event ω) (dialog : Option (Dialog ω)) :
      Move app event { dialog := dialog } app
  | registersUser (username domain : CppString)
      (given : app.autoRegister = some (username, domain)) :
      Move app .autoRegister
        { sent := (app.client.doRegister username domain []).1 }
        { app with
          client := (app.client.doRegister username domain []).2
          autoRegister := none }
  | shows (free : app.client.registration = none) :
      Move app .showEvent {}
        { app with
          window := app.window.updateButtonStates app.client.state
          executing := true }
  | edits (event : Event ω) (username domain callee : CppString) :
      Move app event {}
        (app.setWindow { app.window with
          usernameEdit := username
          domainEdit := domain
          calleeEdit := callee })
  | changesHeaders (event : Event ω) (widget : HeaderInjectionWidget)
      (hidden : widget.toggle = true ∨
        widget.editors = app.window.headerInjection.editors) :
      Move app event {} (app.setHeaderInjection widget).onHeadersChanged
  | registers (username domain : CppString)
      (looping : app.isLooping = true)
      (enabled : app.window.registerEnabled = true) :
      Move app .clickRegister
        { sent := (app.client.doRegister username domain
            (app.window.headerInjection.injected "REGISTER")).1 }
        { app with
          client := (app.client.doRegister username domain
            (app.window.headerInjection.injected "REGISTER")).2
          window := { app.window with
            registerEnabled := false
            statusLabel := "Registering…" } }
  | calls (drawn : UInt64) (fromUser fromDomain toUser toDomain : CppString)
      (looping : app.isLooping = true)
      (enabled : app.window.buttons.call = true) :
      Move app (.clickCall drawn)
        { sent := (app.callingClient.handleInvite drawn fromUser fromDomain
            toUser toDomain).1 }
        { app with
          client := (app.callingClient.handleInvite drawn fromUser fromDomain
            toUser toDomain).2
          signals := app.signals ++ notifiedIf
            app.callingClient.inviteNotifies
            (app.callingClient.handleInvite drawn fromUser fromDomain toUser
              toDomain).2 }
  | hangsUp (sent : List ω) (client : SIPClient ω)
      (looping : app.isLooping = true)
      (enabled : app.window.buttons.hangup = true)
      (handled : app.hangingUpClient.handleBye = .ok (sent, client)) :
      Move app .clickHangup { sent := sent }
        { app with
          client := client
          signals := app.signals ++
            notifiedIf app.hangingUpClient.byeNotifies client }
  | answers (looping : app.isLooping = true)
      (enabled : app.window.buttons.answer = true) :
      Move app .clickAnswer { sent := app.client.handleAnswer.1 }
        { app with client := app.client.handleAnswer.2 }
  | rejects (looping : app.isLooping = true)
      (enabled : app.window.buttons.reject = true) :
      Move app .clickReject { sent := app.client.handleReject.1 }
        { app with client := app.client.handleReject.2 }
  | delivers (signal : Signal ω) (rest : List (Signal ω))
      (looping : app.isLooping = true)
      (waiting : app.signals = signal :: rest) :
      Move app .deliverSignal
        { dialog := (slot app.window app.client.state signal).1 }
        { app with
          window := (slot app.window app.client.state signal).2
          signals := rest }
  | waits :
      Move app .registerWaited { sent := app.client.registerWaited.1 }
        { app with client := app.client.registerWaited.2 }
  | receives (data : ω) (sent : List ω) (client : SIPClient ω)
      (idle : app.reporting = none)
      (handled : (app.client.handleReceive data).onMessage data =
        .ok (sent, client)) :
      Move app (.packetReceived data) { sent := sent }
        { app with
          client := client
          signals := app.signals ++ notifiedIf
            ((app.client.handleReceive data).messageNotifies data) client
          reporting := some data }
  | reports (data : ω) (error : Option (Int × CppString))
      (outstanding : app.reporting = some data)
      (reported : app.client.reportError data = .ok error) :
      Move app .packetReported {}
        { app with
          signals := app.signals ++ reportSignals app.client error
          reporting := none }

omit [Wire ω] in
/-- The extra headers for responses are all that a change of them touches. -/
theorem onHeadersChanged_eq (app : SipQtApp ω) :
    ∃ headers, app.onHeadersChanged =
      { app with client :=
        { app.client with pendingHeaders := headers } } := by
  unfold onHeadersChanged
  dsimp only
  split_ifs
  · exact ⟨_, rfl⟩
  · exact ⟨app.client.pendingHeaders, rfl⟩

variable {app next : SipQtApp ω} {shown : Shown ω}

omit [Wire ω] in
theorem whenLooping_ok
    {enabled : Bool}
    {result : Except StdException (Shown ω × SipQtApp ω)}
    (stepped : app.whenLooping enabled result = .ok (shown, next)) :
    (app.isLooping = true ∧ enabled = true ∧ result = .ok (shown, next)) ∨
      (shown = {} ∧ next = app) := by
  unfold whenLooping at stepped
  split_ifs at stepped with free
  · obtain ⟨looping, allowed⟩ := Bool.and_eq_true_iff.mp free
    exact Or.inl ⟨looping, allowed, stepped⟩
  · cases stepped
    exact Or.inr ⟨rfl, rfl⟩

theorem move_of_onRegisterClicked
    (looping : app.isLooping = true)
    (enabled : app.window.registerEnabled = true) :
    Move app .clickRegister app.onRegisterClicked.1
      app.onRegisterClicked.2 := by
  unfold onRegisterClicked
  dsimp only
  split_ifs with empty
  · exact .stays _ _
  · exact .registers _ _ looping enabled

theorem move_of_onCallClicked
    {drawn : UInt64}
    (looping : app.isLooping = true)
    (enabled : app.window.buttons.call = true)
    (clicked : app.onCallClicked drawn = .ok (shown, next)) :
    Move app (.clickCall drawn) shown next := by
  unfold onCallClicked at clicked
  dsimp only at clicked
  split_ifs at clicked with empty
  · cases clicked
    exact .stays _ _
  cases found : find "@" (trimmed app.window.calleeEdit) with
  | none =>
      rw [found] at clicked
      cases clicked
      exact .stays _ _
  | some position =>
      rw [found] at clicked
      dsimp only at clicked
      split_ifs at clicked with misplaced
      · cases clicked
        exact .stays _ _
      obtain ⟨⟨fromUser, fromDomain⟩, split⟩ :=
        SIPClient.splitLocal_total app.client.state.registeredUser
      rw [split, ok_bind] at clicked
      cases clicked
      exact .calls drawn fromUser fromDomain _ _ looping enabled

theorem move_of_onHangupClicked
    (looping : app.isLooping = true)
    (enabled : app.window.buttons.hangup = true)
    (clicked : app.onHangupClicked = .ok (shown, next)) :
    Move app .clickHangup shown next := by
  unfold onHangupClicked at clicked
  dsimp only at clicked
  cases handled : app.hangingUpClient.handleBye with
  | error thrown =>
      rw [← hangingUpClient, handled] at clicked
      cases clicked
  | ok result =>
      rw [← hangingUpClient, handled] at clicked
      cases clicked
      exact .hangsUp _ _ looping enabled handled

/-- Every event that is handled has one of these effects. -/
theorem move_of_step
    {event : Event ω} (stepped : app.step event = .ok (shown, next)) :
    Move app event shown next := by
  cases event with
  | autoRegister =>
      rw [step] at stepped
      split at stepped
      · cases stepped
        exact .stays _ none
      · rename_i username domain given
        cases stepped
        exact .registersUser username domain given
  | showEvent =>
      rw [step] at stepped
      split_ifs at stepped with free
      · cases stepped
        have idle := (Bool.and_eq_true_iff.mp free).2
        exact .shows (Option.isNone_iff_eq_none.mp idle)
      · cases stepped
        exact .stays _ none
  | typeUsername text =>
      obtain ⟨-, -, typed⟩ | ⟨rfl, rfl⟩ := whenLooping_ok stepped
      · cases typed
        exact .edits _ text _ _
      · exact .stays _ none
  | typeDomain text =>
      obtain ⟨-, -, typed⟩ | ⟨rfl, rfl⟩ := whenLooping_ok stepped
      · cases typed
        exact .edits _ _ text _
      · exact .stays _ none
  | typeCallee text =>
      obtain ⟨-, -, typed⟩ | ⟨rfl, rfl⟩ := whenLooping_ok stepped
      · cases typed
        exact .edits _ _ _ text
      · exact .stays _ none
  | typeHeaders method text =>
      obtain ⟨-, visible, typed⟩ | ⟨rfl, rfl⟩ := whenLooping_ok stepped
      · cases typed
        exact .changesHeaders _ _
          (Or.inl (Bool.and_eq_true_iff.mp visible).1)
      · exact .stays _ none
  | toggleInjection =>
      obtain ⟨-, -, toggled⟩ | ⟨rfl, rfl⟩ := whenLooping_ok stepped
      · cases toggled
        exact .changesHeaders _ _ (Or.inr rfl)
      · exact .stays _ none
  | clickRegister =>
      obtain ⟨looping, enabled, clicked⟩ | ⟨rfl, rfl⟩ :=
        whenLooping_ok stepped
      · have moved := move_of_onRegisterClicked looping enabled
        rwa [Except.ok.inj clicked] at moved
      · exact .stays _ none
  | clickCall drawn =>
      obtain ⟨looping, enabled, clicked⟩ | ⟨rfl, rfl⟩ :=
        whenLooping_ok stepped
      · exact move_of_onCallClicked looping enabled clicked
      · exact .stays _ none
  | clickHangup =>
      obtain ⟨looping, enabled, clicked⟩ | ⟨rfl, rfl⟩ :=
        whenLooping_ok stepped
      · exact move_of_onHangupClicked looping enabled clicked
      · exact .stays _ none
  | clickAnswer =>
      obtain ⟨looping, enabled, clicked⟩ | ⟨rfl, rfl⟩ :=
        whenLooping_ok stepped
      · cases clicked
        exact .answers looping enabled
      · exact .stays _ none
  | clickReject =>
      obtain ⟨looping, enabled, clicked⟩ | ⟨rfl, rfl⟩ :=
        whenLooping_ok stepped
      · cases clicked
        exact .rejects looping enabled
      · exact .stays _ none
  | deliverSignal =>
      obtain ⟨looping, -, delivered⟩ | ⟨rfl, rfl⟩ := whenLooping_ok stepped
      · split at delivered
        · cases delivered
          exact .stays _ none
        · rename_i signal rest waiting
          cases delivered
          exact .delivers signal rest looping waiting
      · exact .stays _ none
  | registerWaited =>
      cases stepped
      exact .waits
  | packetReceived data =>
      rw [step] at stepped
      split at stepped
      · rename_i idle
        rw [packetReceived] at stepped
        cases handled :
            (app.client.handleReceive data).onMessage data with
        | error thrown =>
            rw [handled] at stepped
            cases stepped
        | ok result =>
            rw [handled] at stepped
            cases stepped
            exact .receives data _ _ idle handled
      · cases stepped
        exact .stays _ none
  | packetReported =>
      rw [step] at stepped
      split at stepped
      · cases stepped
        exact .stays _ none
      · rename_i data outstanding
        rw [packetReported] at stepped
        cases reported : app.client.reportError data with
        | error thrown =>
            rw [reported] at stepped
            cases stepped
        | ok error =>
            rw [reported] at stepped
            cases stepped
            exact .reports data error outstanding reported

end SipQtApp

end MinimalSip.Ui

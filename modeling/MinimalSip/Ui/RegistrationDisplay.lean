import MinimalSip.Ui.WindowState

/-!
# How the window shows the registration

The reply to a REGISTER is kept until the next REGISTER, and every packet that
is received meanwhile announces it once more.  So the Register button, which a
click disables, comes back with the first packet after the reply and never
without one; and the label, which every announcement overwrites, ends up with
the registration whatever the packet was about.
-/

namespace MinimalSip.Ui

open MinimalSip.Lib.Cpp
open MinimalSip.Lib.Machine
open MinimalSip.Client

namespace SipQtApp

variable {ω : Type} [Wire ω] {app next : SipQtApp ω} {event : Event ω}
  {shown : Shown ω}

/-! ## What a signal queue gains -/

omit [Wire ω] in
theorem notifiedIf_silent
    {notifies : Bool} {client : SIPClient ω} {signal : Signal ω}
    (posted : signal ∈ notifiedIf notifies client) :
    signal.enablesRegister = false := by
  cases notifies with
  | true =>
      rw [List.mem_singleton.mp posted]
      rfl
  | false => cases posted

theorem mem_reportSignals
    {client : SIPClient ω} {error : Option (Int × CppString)} {reply : ω}
    (kept : client.registerResponse = some reply) :
    Signal.registerResponseReceived (Wire.saysOk reply) reply ∈
      reportSignals client error := by
  refine List.mem_append_right _ ?_
  rw [registerSignals, kept]
  exact List.mem_cons_self

/-! ## The Register button -/

/-- With a reply at hand, the button is enabled or is about to be. -/
inductive Offers (app : SipQtApp ω) : Prop where
  | unanswered (noReply : app.client.registerResponse = none)
  | reporting (data : ω) (outstanding : app.reporting = some data)
  | signalled (signal : Signal ω) (waiting : signal ∈ app.signals)
      (enables : signal.enablesRegister = true)
  | enabled (free : app.window.registerEnabled = true)

omit [Wire ω] in
/-- What does not concern the registration does not matter. -/
theorem Offers.mono
    (offers : Offers app)
    (sameReply : next.client.registerResponse =
      app.client.registerResponse)
    (sameReport : next.reporting = app.reporting)
    (queued : ∀ signal ∈ app.signals, signal ∈ next.signals)
    (sameButton : next.window.registerEnabled =
      app.window.registerEnabled) :
    Offers next := by
  cases offers with
  | unanswered noReply => exact .unanswered (sameReply.trans noReply)
  | reporting data outstanding =>
      exact .reporting data (sameReport.trans outstanding)
  | signalled signal waiting enables =>
      exact .signalled signal (queued signal waiting) enables
  | enabled free => exact .enabled (sameButton.trans free)

omit [Wire ω] in
theorem Offers.delivered
    {signal : Signal ω} {rest : List (Signal ω)}
    (offers : Offers app) (waiting : app.signals = signal :: rest) :
    Offers { app with
      window := (slot app.window app.client.state signal).2
      signals := rest } := by
  have button := slot_registerEnabled app.window app.client.state signal
  cases offers with
  | unanswered noReply => exact .unanswered noReply
  | reporting data outstanding => exact .reporting data outstanding
  | signalled other member enables =>
      rw [waiting] at member
      rcases List.mem_cons.mp member with rfl | later
      · exact .enabled (by rw [button, enables, Bool.or_true])
      · exact .signalled other later enables
  | enabled free => exact .enabled (by rw [button, free, Bool.true_or])

theorem Offers.move
    (offers : Offers app) (moved : Move app event shown next) :
    Offers next := by
  cases moved with
  | stays event dialog => exact offers
  | registersUser username domain given =>
      cases waiting : app.client.registration with
      | none =>
          exact .unanswered
            (SIPClient.doRegister_registerResponse waiting _ _ _)
      | some registration =>
          refine offers.mono ?_ rfl (fun _ member => member) rfl
          rw [SIPClient.doRegister, waiting]
  | shows free => exact offers.mono rfl rfl (fun _ member => member) rfl
  | edits event username domain callee =>
      exact offers.mono rfl rfl (fun _ member => member) rfl
  | changesHeaders event widget hidden =>
      obtain ⟨headers, changed⟩ :=
        onHeadersChanged_eq (app.setHeaderInjection widget)
      rw [changed]
      exact offers.mono rfl rfl (fun _ member => member) rfl
  | registers username domain looping enabled =>
      have idle : app.client.registration = none :=
        Option.isNone_iff_eq_none.mp (Bool.and_eq_true_iff.mp looping).2
      exact .unanswered (SIPClient.doRegister_registerResponse idle _ _ _)
  | calls drawn fromUser fromDomain toUser toDomain looping enabled =>
      exact offers.mono
        (SIPClient.handleInvite_changesCall app.callingClient drawn fromUser
          fromDomain toUser toDomain).registerResponse rfl
        (fun _ member => List.mem_append_left _ member) rfl
  | hangsUp sent client looping enabled handled =>
      exact offers.mono
        (SIPClient.handleBye_changesCall handled).registerResponse rfl
        (fun _ member => List.mem_append_left _ member) rfl
  | answers looping enabled =>
      exact offers.mono
        (SIPClient.handleAnswer_changesCall app.client).registerResponse rfl
        (fun _ member => member) rfl
  | rejects looping enabled =>
      exact offers.mono
        (SIPClient.handleReject_changesCall app.client).registerResponse rfl
        (fun _ member => member) rfl
  | delivers signal rest looping waiting => exact offers.delivered waiting
  | waits =>
      exact offers.mono (SIPClient.registerWaited_registerResponse app.client)
        rfl (fun _ member => member) rfl
  | receives data sent client idle handled => exact .reporting data rfl
  | reports data error outstanding reported =>
      cases kept : app.client.registerResponse with
      | none => exact .unanswered kept
      | some reply =>
          exact .signalled _
            (List.mem_append_right _ (mem_reportSignals kept)) rfl

/-- No reply has come, and nothing is left that could enable the button. -/
structure Stuck (app : SipQtApp ω) : Prop where
  noReply : app.client.registerResponse = none
  reported : app.reporting = none
  silent : ∀ signal ∈ app.signals, signal.enablesRegister = false
  disabled : app.window.registerEnabled = false

omit [Wire ω] in
theorem Stuck.keeps
    {client : SIPClient ω}
    (stuck : Stuck app)
    (sameReply : client.registerResponse = app.client.registerResponse) :
    Stuck { app with client := client } :=
  { stuck with noReply := sameReply.trans stuck.noReply }

omit [Wire ω] in
theorem Stuck.posted
    {client : SIPClient ω} {notifies : Bool}
    (stuck : Stuck app)
    (sameReply : client.registerResponse = app.client.registerResponse) :
    Stuck { app with
      client := client
      signals := app.signals ++ notifiedIf notifies client } where
  noReply := sameReply.trans stuck.noReply
  reported := stuck.reported
  silent := by
    intro signal member
    rcases List.mem_append.mp member with old | posted
    · exact stuck.silent signal old
    · exact notifiedIf_silent posted
  disabled := stuck.disabled

/-- A packet comes in. -/
def isPacket : Event ω → Bool
  | .packetReceived _ => true
  | _ => false

theorem Stuck.move
    (stuck : Stuck app) (moved : Move app event shown next)
    (noPacket : isPacket event = false) :
    Stuck next := by
  cases moved with
  | stays event dialog => exact stuck
  | registersUser username domain given =>
      refine { stuck with noReply := ?_ }
      cases waiting : app.client.registration with
      | none => exact SIPClient.doRegister_registerResponse waiting _ _ _
      | some registration =>
          rw [SIPClient.doRegister, waiting]
          exact stuck.noReply
  | shows free => exact { stuck with }
  | edits event username domain callee => exact { stuck with }
  | changesHeaders event widget hidden =>
      obtain ⟨headers, changed⟩ :=
        onHeadersChanged_eq (app.setHeaderInjection widget)
      rw [changed]
      exact { stuck with }
  | registers username domain looping enabled =>
      rw [stuck.disabled] at enabled
      cases enabled
  | calls drawn fromUser fromDomain toUser toDomain looping enabled =>
      exact stuck.posted (SIPClient.handleInvite_changesCall
        app.callingClient drawn fromUser fromDomain toUser
          toDomain).registerResponse
  | hangsUp sent client looping enabled handled =>
      exact stuck.posted
        (SIPClient.handleBye_changesCall handled).registerResponse
  | answers looping enabled =>
      exact stuck.keeps
        (SIPClient.handleAnswer_changesCall app.client).registerResponse
  | rejects looping enabled =>
      exact stuck.keeps
        (SIPClient.handleReject_changesCall app.client).registerResponse
  | delivers signal rest looping waiting =>
      have silent : signal.enablesRegister = false :=
        stuck.silent signal (waiting ▸ List.mem_cons_self)
      refine { stuck with silent := ?_, disabled := ?_ }
      · intro other member
        exact stuck.silent other (waiting ▸ List.mem_cons_of_mem _ member)
      · rw [slot_registerEnabled, stuck.disabled, silent]
        rfl
  | waits =>
      exact stuck.keeps
        (SIPClient.registerWaited_registerResponse app.client)
  | receives data sent client idle handled => cases noPacket
  | reports data error outstanding reported =>
      rw [stuck.reported] at outstanding
      cases outstanding

/-- The label that the announcement of a reply leaves. -/
def LabelledFor (reply : ω) (label : CppString) : Prop :=
  if Wire.saysOk reply then "✓ Registered as ".toList <+: label
  else label = "✗ Registration failed".toList

theorem labelledFor_slot
    (window : MainWindow) (state : SIPClientStateManager) (reply : ω) :
    LabelledFor reply (slot window state
      (.registerResponseReceived (Wire.saysOk reply) reply)).2.statusLabel :=
    by
  unfold LabelledFor slot MainWindow.onRegisterResponse
  dsimp only
  split_ifs
  · exact List.prefix_append _ _
  · rfl

/-- The actions that overwrite the label, now or by a signal. -/
def relabels : Event ω → Bool
  | .autoRegister => true
  | .clickRegister => true
  | .clickCall _ => true
  | .clickHangup => true
  | _ => false

/-- The label shows the last reply, or the last signal will make it so. -/
inductive Labels (app : SipQtApp ω) : Prop where
  | unanswered (noReply : app.client.registerResponse = none)
  | reporting (data : ω) (outstanding : app.reporting = some data)
  | signalled (reply : ω) (kept : app.client.registerResponse = some reply)
      (earlier : List (Signal ω))
      (waiting : app.signals = earlier ++
        [.registerResponseReceived (Wire.saysOk reply) reply])
  | labelled (reply : ω) (kept : app.client.registerResponse = some reply)
      (delivered : app.signals = [])
      (label : LabelledFor reply app.window.statusLabel)

theorem Labels.keeps
    (labels : Labels app)
    (sameReply : next.client.registerResponse =
      app.client.registerResponse)
    (sameReport : next.reporting = app.reporting)
    (sameSignals : next.signals = app.signals)
    (sameLabel : next.window.statusLabel = app.window.statusLabel) :
    Labels next := by
  cases labels with
  | unanswered noReply => exact .unanswered (sameReply.trans noReply)
  | reporting data outstanding =>
      exact .reporting data (sameReport.trans outstanding)
  | signalled reply kept earlier waiting =>
      exact .signalled reply (sameReply.trans kept) earlier
        (sameSignals.trans waiting)
  | labelled reply kept delivered label =>
      exact .labelled reply (sameReply.trans kept)
        (sameSignals.trans delivered) (sameLabel ▸ label)

theorem Labels.delivered
    {signal : Signal ω} {rest : List (Signal ω)}
    (labels : Labels app) (waiting : app.signals = signal :: rest) :
    Labels { app with
      window := (slot app.window app.client.state signal).2
      signals := rest } := by
  cases labels with
  | unanswered noReply => exact .unanswered noReply
  | reporting data outstanding => exact .reporting data outstanding
  | signalled reply kept earlier queued =>
      rw [waiting] at queued
      cases earlier with
      | nil =>
          obtain ⟨rfl, rfl⟩ := List.cons_eq_cons.mp queued
          exact .labelled reply kept rfl
            (labelledFor_slot app.window app.client.state reply)
      | cons first others =>
          obtain ⟨rfl, rfl⟩ := List.cons_eq_cons.mp queued
          exact .signalled reply kept others rfl
  | labelled reply kept delivered label =>
      rw [delivered] at waiting
      cases waiting

theorem Labels.move
    (labels : Labels app) (moved : Move app event shown next)
    (other : relabels event = false) :
    Labels next := by
  cases moved with
  | stays event dialog => exact labels
  | registersUser username domain given => cases other
  | shows free => exact labels.keeps rfl rfl rfl rfl
  | edits event username domain callee => exact labels.keeps rfl rfl rfl rfl
  | changesHeaders event widget hidden =>
      obtain ⟨headers, changed⟩ :=
        onHeadersChanged_eq (app.setHeaderInjection widget)
      rw [changed]
      exact labels.keeps rfl rfl rfl rfl
  | registers username domain looping enabled => cases other
  | calls drawn fromUser fromDomain toUser toDomain looping enabled =>
      cases other
  | hangsUp sent client looping enabled handled => cases other
  | answers looping enabled =>
      exact labels.keeps
        (SIPClient.handleAnswer_changesCall app.client).registerResponse rfl
        rfl rfl
  | rejects looping enabled =>
      exact labels.keeps
        (SIPClient.handleReject_changesCall app.client).registerResponse rfl
        rfl rfl
  | delivers signal rest looping waiting => exact labels.delivered waiting
  | waits =>
      exact labels.keeps
        (SIPClient.registerWaited_registerResponse app.client) rfl rfl rfl
  | receives data sent client idle handled => exact .reporting data rfl
  | reports data error outstanding reported =>
      cases kept : app.client.registerResponse with
      | none => exact .unanswered kept
      | some reply =>
          refine .signalled reply kept
            (app.signals ++ callSignals app.client error) ?_
          simp only [reportSignals, registerSignals, kept, List.append_assoc]

end SipQtApp

end MinimalSip.Ui

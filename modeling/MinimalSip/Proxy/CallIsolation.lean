import MinimalSip.Proxy.CallBookkeeping

/-!
# Calls do not interfere

A call sees the router through the registrations and its own session and
context.  Messages of other calls do not change that view, and messages of
the call, like every REGISTER, are answered the same in routers that give the
same view.  Deleting the messages of all other calls from a run is therefore
invisible to the call.
-/

namespace MinimalSip.Proxy.SIPRouter

open MinimalSip.Lib.Cpp
open MinimalSip.Lib.Machine
open MinimalSip.Common
open MinimalSip.Common.SIPMessage

variable {config : RouterConfig} {router next : SIPRouter}
variable {received : Received} {result : RoutingResult}

/-! ## The view of one call -/

theorem CallChange.others
    {callId : CppString}
    (change : CallChange router received next callId)
    (other : received.callId ≠ callId) :
    next.registry.lookup callId = router.registry.lookup callId ∧
      next.callContexts.lookup callId =
        router.callContexts.lookup callId := by
  cases change with
  | unchanged session context => exact ⟨session, context⟩
  | opened entry address own => exact absurd own other
  | updated note keep own => exact absurd own other
  | removed own => exact absurd own other

@[simp]
theorem applyResponse_table
    (router : SIPRouter) (callId : CppString) (forwarded : SIPMessage) :
    (applyResponse router callId forwarded).table = router.table := by
  rw [applyResponse_eq]
  split_ifs <;> rfl

@[simp]
theorem removeTerminated_table (router : SIPRouter) (callId : CppString) :
    (removeTerminated router callId).table = router.table := by
  by_cases terminated : Terminated router callId
  · rw [removeTerminated_of_terminated terminated]
    rfl
  · rw [removeTerminated_of_not_terminated terminated]

/-- Only an accepted REGISTER writes the registration table. -/
theorem Outcome.table
    (outcome : Outcome config router received result next) :
    (next.table = router.table) ∨
      Registers received ∧ next.table = (router.register received).table := by
  cases outcome with
  | registered accepted => exact Or.inr ⟨accepted, rfl⟩
  | acked => exact Or.inl (removeTerminated_table _ _)
  | responded => exact Or.inl (applyResponse_table _ _ _)
  | _ => exact Or.inl rfl

/-- The messages that concern a call: its own and every REGISTER. -/
def concerns (callId : CppString) (received : Received) : Bool :=
  received.method = "REGISTER".toList || received.callId = callId

/-- A message that does not concern a call leaves its view alone. -/
theorem agree_of_unconcerned
    {callId : CppString} {imagined : SIPRouter}
    (unconcerned : concerns callId received = false)
    (agree : Agree callId router imagined)
    (stepped : step config router received = .ok (result, next)) :
    Agree callId next imagined := by
  have outcome := outcome_of_step stepped
  simp only [concerns, Bool.or_eq_false_iff,
    decide_eq_false_iff_not] at unconcerned
  obtain ⟨notRegister, other⟩ := unconcerned
  obtain ⟨session, context⟩ := (outcome.change callId).others other
  have table : next.table = router.table := by
    rcases outcome.table with same | ⟨accepted, -⟩
    · exact same
    · exact absurd accepted.method notRegister
  exact ⟨table.trans agree.table, session.trans agree.session,
    context.trans agree.context⟩

namespace Agree

variable {callId : CppString} {first second : SIPRouter}

theorem register
    (agree : Agree callId first second) (received : Received) :
    Agree callId (first.register received) (second.register received) :=
  ⟨by simp only [SIPRouter.register, agree.table], agree.session,
    agree.context⟩

theorem openCall
    (agree : Agree received.callId first second)
    (entry : ContactEntry) (address : CppString × UInt16) :
    Agree received.callId (first.openCall received entry address)
      (second.openCall received entry address) where
  table := agree.table
  session := by
    simp only [SIPRouter.openCall, Finmap.lookup_insert]
  context := by
    simp only [SIPRouter.openCall, Finmap.lookup_insert]

theorem noteRequest
    (agree : Agree received.callId first second) :
    Agree received.callId (first.noteRequest received)
      (second.noteRequest received) where
  table := agree.table
  session := by
    simp only [SIPRouter.noteRequest, TextMap.lookup_modify, if_true,
      agree.session]
  context := agree.context

theorem noteResponse
    (agree : Agree callId first second) (forwarded : SIPMessage) :
    Agree callId (first.noteResponse callId forwarded)
      (second.noteResponse callId forwarded) where
  table := agree.table
  session := by
    simp only [SIPRouter.noteResponse, TextMap.lookup_modify, if_true,
      agree.session]
  context := by
    simp only [SIPRouter.noteResponse, TextMap.lookup_modify, if_true,
      agree.context]

theorem dropCall (agree : Agree callId first second) :
    Agree callId (first.dropCall callId) (second.dropCall callId) where
  table := agree.table
  session := by
    simp only [SIPRouter.dropCall, Finmap.lookup_erase]
  context := by
    simp only [SIPRouter.dropCall, Finmap.lookup_erase]

theorem stepDown (agree : Agree callId first second) :
    Agree callId first.stepDown second.stepDown :=
  ⟨agree.table, agree.session, agree.context⟩

theorem applyResponse
    (agree : Agree callId first second) (forwarded : SIPMessage) :
    Agree callId (SIPRouter.applyResponse first callId forwarded)
      (SIPRouter.applyResponse second callId forwarded) := by
  rw [applyResponse_eq, applyResponse_eq]
  split_ifs
  · exact agree.dropCall.stepDown
  · exact (agree.noteResponse forwarded).stepDown
  · exact agree.noteResponse forwarded

theorem terminated_iff (agree : Agree callId first second) :
    Terminated first callId ↔ Terminated second callId := by
  rw [Terminated, Terminated, agree.session]

theorem removeTerminated (agree : Agree callId first second) :
    Agree callId (SIPRouter.removeTerminated first callId)
      (SIPRouter.removeTerminated second callId) := by
  by_cases terminated : Terminated first callId
  · rw [removeTerminated_of_terminated terminated,
      removeTerminated_of_terminated (agree.terminated_iff.mp terminated)]
    exact agree.dropCall
  · rw [removeTerminated_of_not_terminated terminated,
      removeTerminated_of_not_terminated
        (fun other => terminated (agree.terminated_iff.mpr other))]
    exact agree

theorem admissible
    {entry : ContactEntry}
    (agree : Agree received.callId first second)
    (accepted : Admissible first received entry) :
    Admissible second received entry :=
  { accepted with
    registered := agree.table ▸ accepted.registered
    fresh := fun known => accepted.fresh (agree.mem_registry_iff.mpr known) }

end Agree

/-- A message of the call is handled alike in routers with the same view. -/
theorem agree_of_own
    {imagined : SIPRouter}
    (agree : Agree received.callId router imagined)
    (stepped : step config router received = .ok (result, next)) :
    ∃ next', step config imagined received = .ok (result, next') ∧
      Agree received.callId next next' := by
  cases outcome_of_step stepped with
  | replied _ here stable =>
      exact ⟨imagined, stable imagined agree, agree⟩
  | registered accepted =>
      exact ⟨_, step_registers accepted, agree.register received⟩
  | invited entry address accepted parsed =>
      exact ⟨_, step_opened (agree.admissible accepted) parsed,
        agree.openCall entry address⟩
  | acked context method held =>
      exact ⟨_, step_ack_held method (agree.context ▸ held),
        agree.noteRequest.removeTerminated⟩
  | byed context method held =>
      exact ⟨_, step_bye_held method (agree.context ▸ held),
        agree.noteRequest⟩
  | responded context response held =>
      exact ⟨_, step_response_held response (agree.context ▸ held),
        agree.applyResponse _⟩

/-- A REGISTER is handled alike whatever calls are held. -/
theorem agree_of_register
    {callId : CppString} {imagined : SIPRouter}
    (method : received.method = "REGISTER".toList)
    (agree : Agree callId router imagined)
    (stepped : step config router received = .ok (result, next)) :
    ∃ next', step config imagined received = .ok (result, next') ∧
      Agree callId next next' := by
  rcases step_register method with accepted | refused
  · rw [step_registers accepted] at stepped
    cases stepped
    exact ⟨_, step_registers accepted, agree.register received⟩
  · rw [refused router] at stepped
    cases stepped
    exact ⟨imagined, refused imagined, agree⟩

/--
Calls are isolated.  Deleting from a run every message that is neither a
REGISTER nor carries the Call-ID leaves a run in which the remaining messages
have the same results and which ends with the same session and context of
that call.
-/
theorem calls_isolated
    (callId : CppString)
    {inputs : List Received} {history : List (Received × RoutingResult)}
    (ran : run (step config) initial inputs = .ok (history, router)) :
    ∃ imagined,
      run (step config) initial (inputs.filter (concerns callId)) =
        .ok (history.filter (fun entry => concerns callId entry.1),
          imagined) ∧
      Agree callId router imagined := by
  refine run_filter agree_of_unconcerned ?_ ran (Agree.refl callId initial)
  intro state imagined input output next concerned agree stepped
  simp only [concerns, Bool.or_eq_true, decide_eq_true_eq] at concerned
  rcases concerned with register | own
  · exact agree_of_register register agree stepped
  · subst own
    exact agree_of_own agree stepped

/-- The INVITE of alice once more, as a call of its own. -/
def inviteBobAgain : Received :=
  { inviteBob with
    message := inviteBob.message.setHeader "Call-ID" "c2" }

theorem calls_isolated_two_calls :
    ∃ history router imagined,
      run (step plainConfig) initial
        [registerBob, inviteBob, inviteBobAgain, ringing] =
          .ok (history, router) ∧
      run (step plainConfig) initial [registerBob, inviteBob, ringing] =
        .ok (history.filter (fun entry => concerns aliceCall entry.1),
          imagined) ∧
      Agree aliceCall router imagined := by
  have tested : succeedsWith
      (run (step plainConfig) initial
        [registerBob, inviteBob, inviteBobAgain, ringing])
      (fun value => decide (value.2.registry.keys.card = 2)) = true := by
    decide
  obtain ⟨⟨history, router⟩, ran, -⟩ := exists_of_succeedsWith tested
  obtain ⟨imagined, projected, agree⟩ := calls_isolated aliceCall ran
  exact ⟨history, router, imagined, ran, projected, agree⟩

end MinimalSip.Proxy.SIPRouter

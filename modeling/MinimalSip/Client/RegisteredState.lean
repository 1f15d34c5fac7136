import MinimalSip.Client.CallState

/-!
# What the state Registered says

A registration attempt that succeeds sets the state Registered.  So does the
end of every call, and a client takes calls in every state but the busy ones.

`Recorded` keeps, beside the client, how the last completed attempt ended.
The state Registered is backed by a successful attempt throughout a run
exactly if no call ends without one.
-/

namespace MinimalSip.Client

open MinimalSip.Lib.Cpp
open MinimalSip.Lib.Machine
open MinimalSip.Common

namespace SIPClient

variable {ω : Type} [Wire ω]

/-! ## The last registration attempt -/

/-- Whether a registration attempt that this event completes succeeded. -/
def attemptResult (client : SIPClient ω) : Event ω → Option Bool
  | .registerWaited =>
      match client.registration with
      | none => none
      | some registration =>
          if client.registerResponse.isNone ∧
              registration.attempts < maxAttempts then none
          else some (client.registerResponse.any Wire.saysOk)
  | _ => none

/-- A client and the result of its last completed registration attempt. -/
structure Recorded (ω : Type) where
  client : SIPClient ω
  lastAttempt : Option Bool := none

/-- A step of the client, noting what it completes. -/
def recordedStep (recorded : Recorded ω) (event : Event ω) :
    Except StdException (Effects ω × Recorded ω) :=
  (recorded.client.step event).map (fun result =>
    (result.1,
      { client := result.2
        lastAttempt := (recorded.client.attemptResult event).or
          recorded.lastAttempt }))

theorem recordedStep_ok_iff
    {recorded next : Recorded ω} {event : Event ω} {effects : Effects ω} :
    recordedStep recorded event = .ok (effects, next) ↔
      recorded.client.step event = .ok (effects, next.client) ∧
        next.lastAttempt = (recorded.client.attemptResult event).or
          recorded.lastAttempt := by
  obtain ⟨client, lastAttempt⟩ := next
  unfold recordedStep
  cases recorded.client.step event with
  | error thrown =>
      constructor
      · intro stepped
        cases stepped
      · rintro ⟨stepped, -⟩
        cases stepped
  | ok result =>
      obtain ⟨effects', client'⟩ := result
      constructor
      · intro stepped
        cases stepped
        exact ⟨rfl, rfl⟩
      · rintro ⟨stepped, rfl⟩
        cases stepped
        rfl

/-- Recording does not change what the client does. -/
theorem run_recorded_iff
    {client final : SIPClient ω} {events : List (Event ω)}
    {history : List (Event ω × Effects ω)} (lastAttempt : Option Bool) :
    run step client events = .ok (history, final) ↔
      ∃ last, run recordedStep ⟨client, lastAttempt⟩ events =
        .ok (history, ⟨final, last⟩) := by
  induction events generalizing client history lastAttempt with
  | nil =>
      constructor
      · intro ran
        cases ran
        exact ⟨lastAttempt, rfl⟩
      · rintro ⟨last, ran⟩
        cases ran
        rfl
  | cons event rest ih =>
      constructor
      · intro ran
        obtain ⟨effects, middle, later, stepped, restRan, rfl⟩ :=
          run_cons_ok_iff.mp ran
        obtain ⟨last, recordedRan⟩ :=
          (ih ((client.attemptResult event).or lastAttempt)).mp restRan
        exact ⟨last, run_cons_ok_iff.mpr ⟨effects, ⟨middle, _⟩, later,
          recordedStep_ok_iff.mpr ⟨stepped, rfl⟩, recordedRan, rfl⟩⟩
      · rintro ⟨last, ran⟩
        obtain ⟨effects, ⟨middle, middleLast⟩, later, stepped, restRan,
          rfl⟩ := run_cons_ok_iff.mp ran
        exact run_cons_ok_iff.mpr ⟨effects, middle, later,
          (recordedStep_ok_iff.mp stepped).1,
          (ih middleLast).mpr ⟨last, restRan⟩, rfl⟩

/-! ## Ends of calls -/

/-- A message on which a handler ends the active call. -/
def Terminates (client : SIPClient ω) (data : ω) : Prop :=
  (¬ IsInvite data ∧ IsBye data ∧ Wire.extractCallId data ≠ [] ∧
    Wire.extractCallId data = client.state.activeCallId) ∨
  (client.Concerns data ∧ ∃ code, Wire.extractStatusCode data = .ok code ∧
    ((code = 200 ∧ Wire.extractCseqMethod data = "BYE".toList) ∨
      400 ≤ code))

/-- An event that ends a call, if it is handled without an exception. -/
def EndsCall (client : SIPClient ω) : Event ω → Prop
  | .doBye _ => client.state.isInCall = true
  | .doReject => client.pendingInvite.isSome = true
  | .received data => client.Terminates data
  | _ => False

/-- What a step does to the state Registered and to the registered user. -/
inductive RegisteredChange
    (client : SIPClient ω) (event : Event ω) (next : SIPClient ω) :
    Prop where
  | ended (ends : client.EndsCall event)
      (noAttempt : client.attemptResult event = none)
      (registered : next.state.state = .registered)
      (user : next.state.registeredUser = client.state.registeredUser)
  | kept (ends : ¬ client.EndsCall event)
      (noAttempt : client.attemptResult event = none)
      (registered : next.state.state = .registered →
        client.state.state = .registered)
      (user : next.state.registeredUser = client.state.registeredUser)
  | succeeded (ends : ¬ client.EndsCall event)
      (attempt : client.attemptResult event = some true)
      (user : next.state.registeredUser ≠ [])
  | failed (ends : ¬ client.EndsCall event)
      (attempt : client.attemptResult event = some false)
      (notRegistered : next.state.state ≠ .registered)

section Steps

variable {client next : SIPClient ω} {event : Event ω}

theorem Concerns.terminates_iff
    {data : ω} (concerns : client.Concerns data) {code : Int}
    (read : Wire.extractStatusCode data = .ok code) :
    client.Terminates data ↔
      (code = 200 ∧ Wire.extractCseqMethod data = "BYE".toList) ∨
        400 ≤ code := by
  constructor
  · rintro (⟨-, bye, -⟩ | ⟨-, code', same, ends⟩)
    · exact absurd bye concerns.notBye
    · rw [read] at same
      cases same
      exact ends
  · exact fun ends => Or.inr ⟨concerns, code, read, ends⟩

theorem registerWaited_change :
    RegisteredChange client .registerWaited client.registerWaited.2 := by
  have noEnd : ¬ client.EndsCall .registerWaited := fun ends => ends
  unfold SIPClient.registerWaited
  cases pending : client.registration with
  | none =>
      have noAttempt : client.attemptResult .registerWaited = none := by
        simp only [attemptResult, pending]
      exact .kept noEnd noAttempt id rfl
  | some registration =>
      dsimp only
      split_ifs with retries
      · have noAttempt : client.attemptResult .registerWaited = none := by
          simp only [attemptResult, pending, if_pos retries]
        exact .kept noEnd noAttempt id rfl
      · have attempt : client.attemptResult .registerWaited =
            some (client.registerResponse.any Wire.saysOk) := by
          simp only [attemptResult, pending, if_neg retries]
        cases reply : client.registerResponse with
        | none =>
            rw [reply] at attempt
            refine .failed noEnd attempt ?_
            simp only [registerOutcome, reply]
            exact fun same => nomatch same
        | some response =>
            cases accepts : Wire.saysOk response with
            | true =>
                rw [reply, Option.any_some, accepts] at attempt
                refine .succeeded noEnd attempt ?_
                simp [registerOutcome, reply, accepts,
                  SIPClientStateManager.onRegisterSuccess]
            | false =>
                rw [reply, Option.any_some, accepts] at attempt
                refine .failed noEnd attempt ?_
                simp [registerOutcome, reply, accepts,
                  SIPClientStateManager.onRegisterFailed,
                  SIPClientStateManager.transitionTo]

theorem handleBye_change
    {sent : List ω} {extraHeaders : CppString}
    (ended : (client.setPendingHeaders "BYE" extraHeaders).handleBye =
      .ok (sent, next)) :
    RegisteredChange client (.doBye extraHeaders) next := by
  unfold SIPClient.handleBye at ended
  obtain ⟨parts, split⟩ := splitLocal_total client.state.registeredUser
  have sameUser : (client.setPendingHeaders "BYE"
      extraHeaders).state.registeredUser = client.state.registeredUser := rfl
  rw [sameUser, split] at ended
  split_ifs at ended with inCall
  · cases ended
    exact .ended inCall rfl rfl rfl
  · cases ended
    exact .kept inCall rfl id rfl

theorem onMessage_change
    {data : ω} {sent : List ω}
    (handled : client.onMessage data = .ok (sent, next)) :
    RegisteredChange client (.received data) next := by
  have ended : ∀ other : SIPClient ω, client.Terminates data →
      other.state = client.state.onCallTerminated →
        RegisteredChange client (.received data) other := by
    intro other terminates same
    exact .ended terminates rfl (by rw [same]; rfl) (by rw [same]; rfl)
  have kept : ∀ other : SIPClient ω, ¬ client.Terminates data →
      (other.state.state = .registered → client.state.state = .registered) →
      other.state.registeredUser = client.state.registeredUser →
        RegisteredChange client (.received data) other :=
    fun other goesOn registered user => .kept goesOn rfl registered user
  cases messageEffect_of_onMessage handled with
  | refused invite reason =>
      refine kept _ ?_ id rfl
      rintro (⟨notInvite, -⟩ | ⟨concerns, -⟩)
      · exact notInvite invite
      · exact concerns.notInvite invite
  | alerted invite named idle =>
      refine kept _ ?_ (fun same => nomatch same) rfl
      rintro (⟨notInvite, -⟩ | ⟨concerns, -⟩)
      · exact notInvite invite
      · exact concerns.notInvite invite
  | hungUp notInvite bye named active =>
      exact ended _ (Or.inl ⟨notInvite, bye, named, active⟩) rfl
  | otherBye notInvite bye other =>
      refine kept _ ?_ id rfl
      rintro (⟨-, -, named, active⟩ | ⟨concerns, -⟩)
      · exact other.elim named (fun away => away active)
      · exact concerns.notBye bye
  | ignored notInvite notBye other =>
      refine kept _ ?_ id rfl
      rintro (⟨-, bye, -⟩ | ⟨concerns, -⟩)
      · exact notBye bye
      · exact other concerns
  | tried concerns read =>
      refine kept _ ?_ (fun same => nomatch same) rfl
      rw [concerns.terminates_iff read]
      omega
  | rung concerns read =>
      refine kept _ ?_ (fun same => nomatch same) rfl
      rw [concerns.terminates_iff read]
      omega
  | accepted concerns read notBye =>
      refine kept _ ?_ (fun same => nomatch same) rfl
      rw [concerns.terminates_iff read]
      rintro (⟨-, bye⟩ | failure)
      · exact notBye bye
      · omega
  | ended concerns read bye =>
      exact ended _ ((concerns.terminates_iff read).mpr (Or.inl ⟨rfl, bye⟩))
        rfl
  | failed concerns code read failure =>
      exact ended _ ((concerns.terminates_iff read).mpr (Or.inr failure)) rfl
  | passed concerns code read other =>
      refine kept _ ?_ id rfl
      rw [concerns.terminates_iff read]
      rintro (⟨ok, -⟩ | failure)
      · exact other.2.2.1 ok
      · exact other.2.2.2 failure

theorem terminates_handleReceive {data : ω} :
    (client.handleReceive data).Terminates data ↔
      client.Terminates data := by
  rw [Terminates, Terminates, handleReceive_concerns,
    (handleReceive_state client data).1]

/-- Keeping a reply changes nothing in the call state. -/
theorem RegisteredChange.of_handleReceive
    {data : ω}
    (change : RegisteredChange (client.handleReceive data) (.received data)
      next) :
    RegisteredChange client (.received data) next := by
  have same := (handleReceive_state client data).1
  cases change with
  | ended ends noAttempt registered user =>
      exact .ended (terminates_handleReceive.mp ends) rfl registered
        (same ▸ user)
  | kept ends noAttempt registered user =>
      exact .kept (fun terminates =>
          ends (terminates_handleReceive.mpr terminates)) rfl
        (same ▸ registered) (same ▸ user)
  | succeeded ends attempt user => cases attempt
  | failed ends attempt notRegistered => cases attempt

/-- Every step changes the registered state in one of the four ways. -/
theorem registeredChange_of_step
    {effects : Effects ω}
    (stepped : client.step event = .ok (effects, next)) :
    RegisteredChange client event next := by
  cases event with
  | doRegister username domain extraHeaders =>
      cases stepped
      unfold SIPClient.doRegister
      cases client.registration with
      | some registration => exact .kept id rfl id rfl
      | none => exact .kept id rfl (fun same => by cases same) rfl
  | registerWaited =>
      cases stepped
      exact registerWaited_change
  | doInvite drawn fromUser fromDomain toUser toDomain =>
      cases stepped
      unfold SIPClient.handleInvite
      dsimp only [quiet]
      split_ifs
      · exact .kept id rfl id rfl
      · exact .kept id rfl (fun same => by cases same) rfl
      · exact .kept id rfl id rfl
  | doBye extraHeaders =>
      rw [step] at stepped
      cases ended : (client.setPendingHeaders "BYE"
          extraHeaders).handleBye with
      | error thrown =>
          rw [ended] at stepped
          cases stepped
      | ok result =>
          rw [ended] at stepped
          cases stepped
          exact handleBye_change ended
  | doAnswer =>
      cases stepped
      unfold SIPClient.handleAnswer
      cases client.pendingInvite with
      | none => exact .kept id rfl id rfl
      | some invite => exact .kept id rfl (fun same => by cases same) rfl
  | doReject =>
      cases stepped
      unfold SIPClient.handleReject
      cases pending : client.pendingInvite with
      | none =>
          exact .kept (by simp [EndsCall, pending]) rfl id rfl
      | some invite =>
          exact .ended (by simp [EndsCall, pending]) rfl rfl rfl
  | setPendingHeaders method headers =>
      cases stepped
      exact .kept id rfl id rfl
  | received data =>
      exact (onMessage_change
        (onPacketReceived_ok_iff.mp stepped).1).of_handleReceive

end Steps

/-! ## Runs -/

/-- Registered only after a successful attempt, and no failed one since. -/
def Backed (recorded : Recorded ω) : Prop :=
  recorded.client.state.state = .registered →
    recorded.lastAttempt = some true ∧
      recorded.client.state.registeredUser ≠ []

/-- A call that is ended without an exception ends in a backed client. -/
def EndsBacked (recorded : Recorded ω) (event : Event ω) : Prop :=
  (∃ result, recordedStep recorded event = .ok result) →
    recorded.client.EndsCall event → recorded.lastAttempt = some true

/-- A successful attempt leaves the name of the user. -/
def NamesUser (recorded : Recorded ω) : Prop :=
  recorded.lastAttempt = some true →
    recorded.client.state.registeredUser ≠ []

section Runs

variable {recorded next : Recorded ω} {event : Event ω}
  {effects : Effects ω}

theorem NamesUser.step
    (stepped : recordedStep recorded event = .ok (effects, next))
    (names : NamesUser recorded) : NamesUser next := by
  obtain ⟨taken, noted⟩ := recordedStep_ok_iff.mp stepped
  unfold NamesUser
  cases registeredChange_of_step taken with
  | ended ends noAttempt registered user =>
      rw [noted, noAttempt, Option.none_or, user]
      exact names
  | kept ends noAttempt registered user =>
      rw [noted, noAttempt, Option.none_or, user]
      exact names
  | succeeded ends attempt user => exact fun _ => user
  | failed ends attempt notRegistered =>
      rw [noted, attempt, Option.some_or]
      exact fun same => nomatch same

/-- A step keeps the client backed exactly under the condition. -/
theorem Backed.step_iff
    (stepped : recordedStep recorded event = .ok (effects, next))
    (names : NamesUser recorded) (backed : Backed recorded) :
    Backed next ↔ EndsBacked recorded event := by
  obtain ⟨taken, noted⟩ := recordedStep_ok_iff.mp stepped
  have namesNext := names.step stepped
  have goes : ∃ result, recordedStep recorded event = .ok result :=
    ⟨_, stepped⟩
  unfold Backed EndsBacked
  rw [imp_iff_right goes]
  cases registeredChange_of_step taken with
  | ended ends noAttempt registered user =>
      rw [imp_iff_right registered, imp_iff_right ends]
      have same : next.lastAttempt = recorded.lastAttempt := by
        rw [noted, noAttempt, Option.none_or]
      rw [← same]
      exact and_iff_left_of_imp namesNext
  | kept ends noAttempt registered user =>
      have same : next.lastAttempt = recorded.lastAttempt := by
        rw [noted, noAttempt, Option.none_or]
      refine iff_of_true ?_ (fun ended => absurd ended ends)
      intro stillRegistered
      rw [same, user]
      exact backed (registered stillRegistered)
  | succeeded ends attempt user =>
      refine iff_of_true (fun _ => ?_) (fun ended => absurd ended ends)
      exact ⟨by rw [noted, attempt, Option.some_or], user⟩
  | failed ends attempt notRegistered =>
      exact iff_of_true (fun registered => absurd registered notRegistered)
        (fun ended => absurd ended ends)

theorem endsBacked_of_error
    {thrown : StdException}
    (failed : recordedStep recorded event = .error thrown) :
    EndsBacked recorded event := by
  rintro ⟨result, stepped⟩
  rw [failed] at stepped
  cases stepped

end Runs

/-- The client before the first event, which has completed no attempt. -/
def recordedInitial (factory : SIPMessageFactory) (errorCallback : Bool) :
    Recorded ω where
  client := initial factory errorCallback

/--
In every run from the initial state, the state Registered is backed by the
last registration attempt after every event exactly if no call ends when the
last attempt failed or there was none.  Recording the attempts changes nothing
in the run.
-/
theorem registered_backed_iff
    (factory : SIPMessageFactory) (errorCallback : Bool)
    (events : List (Event CppString)) :
    (Throughout recordedStep Backed
        (recordedInitial factory errorCallback) events ↔
      Along recordedStep EndsBacked
        (recordedInitial factory errorCallback) events) ∧
      ∀ history final,
        run step (initial factory errorCallback) events =
            .ok (history, final) ↔
          ∃ last, run recordedStep (recordedInitial factory errorCallback)
            events = .ok (history, ⟨final, last⟩) := by
  refine ⟨?_, fun history final => run_recorded_iff none⟩
  exact throughout_iff_along (fun stepped names => names.step stepped)
    (fun stepped names backed => backed.step_iff stepped names)
    endsBacked_of_error (fun attempted => nomatch attempted)
    (fun registered => nomatch registered)

/-- A call that comes before any registration, and is rejected. -/
theorem rejected_unregistered :
    ¬ Throughout recordedStep Backed (recordedInitial calleeFactory false)
        [.received incomingInvite, .doReject] ∧
      succeedsWith
        (run step (initial calleeFactory false)
          [.received incomingInvite, .doReject])
        (fun result => result.2.state.isRegistered &&
          result.2.state.registeredUser = []) = true := by
  have ran : succeedsWith
      (run recordedStep (recordedInitial calleeFactory false)
        [.received incomingInvite, .doReject])
      (fun result => result.2.client.state.isRegistered &&
        result.2.client.state.registeredUser = []) = true := by
    decide +kernel
  refine ⟨?_, by decide +kernel⟩
  intro throughout
  obtain ⟨⟨history, final⟩, ended, tested⟩ := exists_of_succeedsWith ran
  simp only [Bool.and_eq_true, decide_eq_true_eq] at tested
  have registered : final.client.state.state = .registered :=
    of_decide_eq_true tested.1
  exact (throughout.last ended registered).2 tested.2

end SIPClient

end MinimalSip.Client

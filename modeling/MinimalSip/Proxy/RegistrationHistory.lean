import MinimalSip.Proxy.CallIsolation

/-!
# The registration table and the history of REGISTERs

The table is written at one point of the register handler, behind the header
check of the router and the value checks of the handler.  After any run it
maps every identity to the contact and transport of the last REGISTER of that
identity that was answered with 200.
-/

namespace MinimalSip.Proxy.SIPRouter

open MinimalSip.Lib.Cpp
open MinimalSip.Lib.Machine
open MinimalSip.Common
open MinimalSip.Common.SIPMessage

variable {config : RouterConfig} {router next : SIPRouter}
variable {received : Received} {result : RoutingResult}

/-- Answered locally with `200 OK`. -/
def AnswersOk (result : RoutingResult) : Prop :=
  result.action = .respondLocally ∧
    result.response.startLine = "SIP/2.0 200 OK".toList

instance (result : RoutingResult) : Decidable (AnswersOk result) :=
  inferInstanceAs (Decidable (_ ∧ _))

/-- A REGISTER of the user that was answered with 200. -/
def isRegistrationOf
    (user : CppString) (entry : Received × RoutingResult) : Bool :=
  entry.1.method = "REGISTER".toList && decide (AnswersOk entry.2) &&
    entry.1.sender = user

/-- Contact and transport of the last accepted REGISTER of a user. -/
def lastRegistration
    (user : CppString) (history : List (Received × RoutingResult)) :
    Option ContactEntry :=
  (history.reverse.find? (isRegistrationOf user)).map (fun entry =>
    ⟨entry.1.message.getHeader "Contact", entry.1.transport⟩)

theorem lastRegistration_snoc
    (user : CppString) (history : List (Received × RoutingResult))
    (entry : Received × RoutingResult) :
    lastRegistration user (history ++ [entry]) =
      if isRegistrationOf user entry then
        some ⟨entry.1.message.getHeader "Contact", entry.1.transport⟩
      else lastRegistration user history := by
  simp only [lastRegistration, List.reverse_append, List.reverse_singleton,
    List.singleton_append, List.find?_cons]
  cases isRegistrationOf user entry <;> rfl

/-! ## Which REGISTERs are answered with 200 -/

theorem answersOk_registered (request : SIPMessage) :
    AnswersOk
      { action := .respondLocally
        response := RegisterHandler.makeResponse "SIP/2.0 200 OK" request } :=
  ⟨rfl, localResponse_startLine _ _⟩

theorem not_answersOk_badRequest (request : SIPMessage) (user : CppString) :
    ¬ AnswersOk (respondLocally "SIP/2.0 400 Bad Request" request user) := by
  rintro ⟨-, okay⟩
  have status : (respondLocally "SIP/2.0 400 Bad Request" request
      user).response.startLine = "SIP/2.0 400 Bad Request".toList :=
    localResponse_startLine _ _
  rw [status] at okay
  exact absurd okay (by decide)

/-- A REGISTER is answered with 200 exactly if it passes every check. -/
theorem answersOk_iff_registers
    (method : received.method = "REGISTER".toList)
    (stepped : step config router received = .ok (result, next)) :
    AnswersOk result ↔ Registers received := by
  rcases step_register method with accepted | refused
  · rw [step_registers accepted] at stepped
    cases stepped
    exact ⟨fun _ => accepted, fun _ => answersOk_registered _⟩
  · constructor
    · intro okay
      rw [refused router] at stepped
      cases stepped
      exact absurd okay (not_answersOk_badRequest _ _)
    · intro accepted
      rw [step_registers accepted] at stepped
      cases stepped
      exact answersOk_registered _

/-! ## What a step writes -/

/-- A step that is no accepted REGISTER leaves the table as it is. -/
theorem table_eq_of_not_accepted
    (stepped : step config router received = .ok (result, next))
    (other : ¬ (received.method = "REGISTER".toList ∧ AnswersOk result)) :
    next.table = router.table := by
  rcases (outcome_of_step stepped).table with same | ⟨accepted, -⟩
  · exact same
  · have okay := (answersOk_iff_registers accepted.method stepped).mpr accepted
    exact absurd ⟨accepted.method, okay⟩ other

theorem lookup_register (user : CppString) :
    (router.register received).table.lookup user =
      if received.sender = user then
        some ⟨received.message.getHeader "Contact", received.transport⟩
      else router.table.lookup user := by
  show (router.table.insert _ _).lookup user = _
  split_ifs with same
  · rw [same, Finmap.lookup_insert]
  · rw [Finmap.lookup_insert_of_ne _ (Ne.symm same)]

/-- The table is what the history says. -/
def Recorded
    (history : List (Received × RoutingResult)) (router : SIPRouter) :
    Prop :=
  ∀ user, router.table.lookup user = lastRegistration user history

theorem Recorded.step
    {past : List (Received × RoutingResult)}
    (stepped : step config router received = .ok (result, next))
    (recorded : Recorded past router) :
    Recorded (past ++ [(received, result)]) next := by
  intro user
  rw [lastRegistration_snoc, ← recorded user]
  by_cases accepted :
      received.method = "REGISTER".toList ∧ AnswersOk result
  · have registers := (answersOk_iff_registers accepted.1 stepped).mp accepted.2
    rw [step_registers registers] at stepped
    cases stepped
    rw [lookup_register, isRegistrationOf, decide_eq_true accepted.1,
      decide_eq_true accepted.2]
    simp only [Bool.true_and, decide_eq_true_eq]
  · have kept := table_eq_of_not_accepted stepped accepted
    have ignored : isRegistrationOf user (received, result) = false := by
      rw [isRegistrationOf, Bool.and_eq_false_iff, Bool.and_eq_false_iff,
        decide_eq_false_iff_not, decide_eq_false_iff_not]
      exact Or.inl (not_and_or.mp accepted)
    rw [kept, ignored]
    rfl

/--
The registration table refines the history.  After a run it maps every user
to the last accepted REGISTER of that user; a REGISTER is accepted exactly if
it has the required headers, a From and a Contact that are not empty and an
identity in its From; and nothing but an accepted REGISTER changes the table.
-/
theorem table_refines_history
    {inputs : List Received} {history : List (Received × RoutingResult)}
    (ran : run (step config) initial inputs = .ok (history, router)) :
    (∀ user, router.table.lookup user = lastRegistration user history) ∧
    (∀ received, received.method = "REGISTER".toList →
      ((∃ result next, step config router received = .ok (result, next) ∧
          AnswersOk result) ↔
        hasRequiredRegisterHeaders received.message = true ∧
          received.message.getHeader "From" ≠ [] ∧
          received.message.getHeader "Contact" ≠ [] ∧
          received.sender ≠ [])) ∧
    (∀ received result next,
      step config router received = .ok (result, next) →
      ¬ (received.method = "REGISTER".toList ∧ AnswersOk result) →
        next.table = router.table) := by
  have empty : Recorded [] SIPRouter.initial := fun user => rfl
  have recorded : Recorded ([] ++ history) router :=
    run_history_invariant (fun stepped => Recorded.step stepped) ran empty
  refine ⟨recorded, ?_, ?_⟩
  · intro received method
    constructor
    · rintro ⟨result, next, stepped, okay⟩
      have accepted := (answersOk_iff_registers method stepped).mp okay
      exact ⟨accepted.headers, accepted.fromHeader, accepted.contact,
        accepted.user⟩
    · rintro ⟨headers, fromHeader, contact, user⟩
      exact ⟨_, _,
        step_registers ⟨method, headers, fromHeader, contact, user⟩,
        answersOk_registered _⟩
  · intro received result next stepped other
    exact table_eq_of_not_accepted stepped other

/-- Bob moves to another address. -/
def registerBobAgain : Received where
  message :=
    registerBob.message.setHeader "Contact" "<sip:bob@10.0.0.3:5080>"
  senderIp := "10.0.0.3"
  senderPort := 5080
  transport := .tcp

theorem table_refines_history_bob :
    ∃ history router,
      run (step plainConfig) initial
        [registerBob, inviteBob, registerBobAgain] = .ok (history, router) ∧
      router.table.lookup "bob@local".toList =
        lastRegistration "bob@local" history ∧
      lastRegistration "bob@local" history =
        some ⟨"<sip:bob@10.0.0.3:5080>", .tcp⟩ := by
  have tested : succeedsWith
      (run (step plainConfig) initial
        [registerBob, inviteBob, registerBobAgain])
      (fun value => decide (lastRegistration "bob@local" value.1 =
        some ⟨"<sip:bob@10.0.0.3:5080>", .tcp⟩)) = true := by
    decide
  obtain ⟨⟨history, router⟩, ran, last⟩ := exists_of_succeedsWith tested
  exact ⟨history, router, ran, (table_refines_history ran).1 _,
    of_decide_eq_true last⟩

end MinimalSip.Proxy.SIPRouter

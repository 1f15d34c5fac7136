import MinimalSip.Proxy.ActiveCalls
import MinimalSip.Proxy.RegistrationHistory

/-!
# The gauge of registered users

The table is keyed by identity and a REGISTER overwrites the entry of its
user; the gauge beside it is stepped for every accepted REGISTER and never
stepped down.  The two agree until a user registers who is in the table
already.
-/

namespace MinimalSip.Proxy.SIPRouter

open MinimalSip.Lib.Cpp
open MinimalSip.Lib.Machine
open MinimalSip.Common
open MinimalSip.Common.SIPMessage

variable {config : RouterConfig} {router next : SIPRouter}
variable {received : Received} {result : RoutingResult}

/-- The gauge is the number of identities in the table. -/
def CountsUsers (router : SIPRouter) : Prop :=
  router.metrics.registeredUsers = router.table.keys.card

instance : DecidablePred CountsUsers := fun router =>
  inferInstanceAs (Decidable
    (router.metrics.registeredUsers = (router.table.keys.card : Int)))

/-- The message is no accepted REGISTER of a user who is in the table. -/
def RegistersOnce (router : SIPRouter) (received : Received) : Prop :=
  Registers received → received.sender ∉ router.table

/-! ## What a step does to the two counts -/

@[simp]
theorem MetricsCollector.registeredUsers_decActiveCalls
    (metrics : MetricsCollector) :
    metrics.decActiveCalls.registeredUsers = metrics.registeredUsers := by
  unfold MetricsCollector.decActiveCalls
  split_ifs <;> rfl

@[simp]
theorem applyResponse_registeredUsers
    (router : SIPRouter) (callId : CppString) (forwarded : SIPMessage) :
    (applyResponse router callId forwarded).metrics.registeredUsers =
      router.metrics.registeredUsers := by
  rw [applyResponse_eq]
  split_ifs <;> first
    | rfl
    | exact MetricsCollector.registeredUsers_decActiveCalls _

@[simp]
theorem removeTerminated_registeredUsers
    (router : SIPRouter) (callId : CppString) :
    (removeTerminated router callId).metrics.registeredUsers =
      router.metrics.registeredUsers := by
  by_cases terminated : Terminated router callId
  · rw [removeTerminated_of_terminated terminated]
    rfl
  · rw [removeTerminated_of_not_terminated terminated]

/-- Only an accepted REGISTER touches the table or the gauge. -/
theorem Outcome.kept_of_not_registers
    (outcome : Outcome config router received result next)
    (other : ¬ Registers received) :
    next.table = router.table ∧
      next.metrics.registeredUsers = router.metrics.registeredUsers := by
  cases outcome with
  | replied => exact ⟨rfl, rfl⟩
  | registered accepted => exact absurd accepted other
  | invited => exact ⟨rfl, rfl⟩
  | acked =>
      exact ⟨removeTerminated_table _ _,
        removeTerminated_registeredUsers _ _⟩
  | byed => exact ⟨rfl, rfl⟩
  | responded =>
      exact ⟨applyResponse_table _ _ _, applyResponse_registeredUsers _ _ _⟩

theorem registeredUsers_register :
    (router.register received).metrics.registeredUsers =
      router.metrics.registeredUsers + 1 :=
  rfl

theorem keys_register :
    (router.register received).table.keys =
      insert received.sender router.table.keys :=
  TextMap.keys_insert _ _ _

/-- From equal counts, a REGISTER leads to equal counts for a new user only. -/
theorem countsUsers_register_iff (counted : CountsUsers router) :
    CountsUsers (router.register received) ↔
      received.sender ∉ router.table := by
  unfold CountsUsers at counted ⊢
  rw [registeredUsers_register, keys_register, counted]
  by_cases known : received.sender ∈ router.table
  · rw [Finset.insert_eq_of_mem (Finmap.mem_keys.mpr known)]
    exact iff_of_false (by omega) (fun fresh => fresh known)
  · have freshKey : received.sender ∉ router.table.keys :=
      fun member => known (Finmap.mem_keys.mp member)
    rw [Finset.card_insert_of_notMem freshKey]
    exact iff_of_true (by omega) known

theorem countsUsers_step_iff
    (stepped : step config router received = .ok (result, next))
    (counted : CountsUsers router) :
    CountsUsers next ↔ RegistersOnce router received := by
  by_cases accepted : Registers received
  · rw [step_registers accepted] at stepped
    cases stepped
    exact (countsUsers_register_iff counted).trans
      ⟨fun fresh _ => fresh, fun once => once accepted⟩
  · obtain ⟨sameTable, sameGauge⟩ :=
      (outcome_of_step stepped).kept_of_not_registers accepted
    have kept : CountsUsers next := by
      rw [CountsUsers, sameTable, sameGauge]
      exact counted
    exact iff_of_true kept (fun registers => absurd registers accepted)

/-! ## Whole runs -/

/--
The gauge is exact after every step of a run exactly if no user registers a
second time: the first accepted REGISTER of a user who is in the table
already, be it a retransmission, leaves the gauge one too high.
-/
theorem registeredUsers_exact_iff
    (config : RouterConfig) (inputs : List Received) :
    Throughout (step config) CountsUsers initial inputs ↔
      Along (step config) RegistersOnce initial inputs := by
  have counted : CountsUsers initial := by decide
  have preserved : ∀ {router received result next},
      step config router received = .ok (result, next) → True → True :=
    fun _ _ => trivial
  refine throughout_iff_along preserved ?_ ?_ trivial counted
  · intro router received result next stepped _ before
    exact countsUsers_step_iff stepped before
  · intro router received thrown failed accepted
    rw [step_registers accepted] at failed
    cases failed

/-- Bob's client sends its REGISTER again and Bob is counted twice. -/
theorem registeredUsers_bob_twice :
    (∃ history router,
      run (step plainConfig) initial [registerBob, registerBob] =
        .ok (history, router) ∧
      router.metrics.registeredUsers = 2 ∧
      router.table.keys = {"bob@local".toList}) ∧
    ¬ ∀ (config : RouterConfig) (inputs : List Received),
      Throughout (step config) CountsUsers initial inputs := by
  have tested : succeedsWith
      (run (step plainConfig) initial [registerBob, registerBob])
      (fun value => decide (value.2.metrics.registeredUsers = 2 ∧
        value.2.table.keys = {"bob@local".toList})) = true := by
    decide
  obtain ⟨⟨history, router⟩, ran, outcome⟩ := exists_of_succeedsWith tested
  obtain ⟨gauge, keys⟩ := of_decide_eq_true outcome
  refine ⟨⟨history, router, ran, gauge, keys⟩, ?_⟩
  intro claimed
  have counted := (claimed plainConfig [registerBob, registerBob]).last ran
  have single : router.table.keys.card = 1 := by
    rw [show router.table.keys = _ from keys]
    exact Finset.card_singleton _
  rw [CountsUsers, single, show router.metrics.registeredUsers = 2 from gauge]
    at counted
  exact absurd counted (by decide)

end MinimalSip.Proxy.SIPRouter

import MinimalSip.Proxy.RouterPrograms
import Mathlib.Data.Fintype.Basic

/-!
# The gauge of active calls under interleavings

`dec_active_calls` is a load with a comparison and, in a separate atomic
access, the decrement.  Between the two a worker stands behind the guard with
a value that others may step down before it.  The gauge stays out of the
negative as long as no worker passes the guard on a value that the workers
behind it will use up.
-/

namespace MinimalSip.Proxy

open MinimalSip.Lib.Concurrent
open MinimalSip.Lib.Machine
open MinimalSip.Lib.Cpp

/-! ## Workers that step the gauge -/

/-- The two ways in which a handler steps the gauge. -/
inductive GaugeCall where
  | incActiveCalls
  | decActiveCalls
deriving DecidableEq

namespace GaugeCall

def program : GaugeCall → Worker.Handler Unit
  | .incActiveCalls => .operate .incActiveCalls
  | .decActiveCalls => Worker.decActiveCalls

/-- Behind the guard: the load has given a positive value. -/
def observe (_ : Bool) : {β : Type} → Operation β → β → Bool
  | _, .readActiveCalls, calls => decide (calls > 0)
  | _, _, _ => false

/-- The decrement is for workers behind the guard and all they may do. -/
def allows (behind : Bool) : {β : Type} → Operation β → Prop
  | _, .incActiveCalls => behind = false
  | _, .readActiveCalls => behind = false
  | _, .decrementActiveCalls => behind = true
  | _, _ => False

def rules : Rules Operation Bool where
  fresh := false
  observe := observe
  allows := allows
  mayReturn := fun behind => behind = false
  mayThrow := fun _ => False

theorem obeys (call : GaugeCall) :
    call.program.Obeys rules (fun behind _ => rules.mayReturn behind)
      rules.fresh := by
  cases call with
  | incActiveCalls => exact ⟨rfl, fun _ => rfl⟩
  | decActiveCalls =>
      refine ⟨rfl, fun calls => ?_⟩
      show Program.Obeys rules _
        (rules.observe rules.fresh Operation.readActiveCalls calls)
        (if calls > 0 then Program.operate Operation.decrementActiveCalls
          else Program.pure ())
      by_cases positive : calls > 0
      · have passed : rules.observe rules.fresh Operation.readActiveCalls
            calls = true := decide_eq_true positive
        rw [passed, if_pos positive]
        exact ⟨rfl, fun _ => rfl⟩
      · have stopped : rules.observe rules.fresh Operation.readActiveCalls
            calls = false := decide_eq_false positive
        rw [stopped, if_neg positive]
        rfl

end GaugeCall

/-- Any number of workers, each in any sequence of the two calls. -/
def gaugeWorkers :
    System GaugeCall StdException Operation Unit Bool Shared where
  program := GaugeCall.program
  apply := Operation.apply
  rules := fun _ => GaugeCall.rules
  obeys := GaugeCall.obeys

abbrev GaugePool (ω : Type) :=
  Pool ω GaugeCall StdException Operation Unit Bool Shared

namespace GaugePool

variable {ω : Type}

/-- The pool before the first call. -/
def initial : GaugePool ω :=
  Pool.initial {}

def activeCalls (pool : GaugePool ω) : Int :=
  pool.shared.metrics.activeCalls

def NonNegative (pool : GaugePool ω) : Prop :=
  0 ≤ pool.activeCalls

instance (pool : GaugePool ω) : Decidable pool.NonNegative :=
  inferInstanceAs (Decidable (0 ≤ pool.activeCalls))

/-- The worker has passed the guard and has yet to decrement. -/
def Behind (pool : GaugePool ω) (worker : ω) : Prop :=
  (pool.workers worker).any Task.note = true

instance (pool : GaugePool ω) : DecidablePred pool.Behind := fun worker =>
  inferInstanceAs (Decidable ((pool.workers worker).any Task.note = true))

variable [Fintype ω]

/-- The workers behind the guard. -/
def behind (pool : GaugePool ω) : Finset ω :=
  Finset.univ.filter pool.Behind

theorem mem_behind {pool : GaugePool ω} {worker : ω} :
    worker ∈ pool.behind ↔ pool.Behind worker := by
  simp [behind]

/-- The operation passes the guard on a value that is used up already. -/
def OverdrawsBy (pool : GaugePool ω) : {β : Type} → Operation β → Prop
  | _, .readActiveCalls =>
      0 < pool.activeCalls ∧ pool.activeCalls ≤ pool.behind.card
  | _, _ => False

/-- The event is such an operation. -/
def Overdraws (pool : GaugePool ω) : Event ω GaugeCall → Prop
  | .advance worker =>
      match pool.workers worker with
      | some task =>
          match task.rest with
          | .perform operation _ => pool.OverdrawsBy operation
          | _ => False
      | none => False
  | _ => False

/-- The gauge covers the decrements that are sure to come. -/
def Covered (pool : GaugePool ω) : Prop :=
  (pool.behind.card : Int) ≤ pool.activeCalls

theorem behind_initial : (initial : GaugePool ω).behind = ∅ := by
  ext worker
  rw [mem_behind]
  exact iff_of_false (by simp [Behind, initial, Pool.initial]) (by simp)

theorem Covered.initial : (initial : GaugePool ω).Covered := by
  unfold Covered
  rw [behind_initial, Finset.card_empty]
  exact le_refl _

theorem not_mem_behind_of_note
    {pool : GaugePool ω} {worker : ω}
    {task : Task GaugeCall StdException Operation Unit Bool}
    (busy : pool.workers worker = some task) (front : task.note = false) :
    worker ∉ pool.behind := by
  rw [mem_behind, Behind, busy]
  simp [front]

theorem mem_behind_of_note
    {pool : GaugePool ω} {worker : ω}
    {task : Task GaugeCall StdException Operation Unit Bool}
    (busy : pool.workers worker = some task) (passed : task.note = true) :
    worker ∈ pool.behind := by
  rw [mem_behind, Behind, busy]
  simp [passed]

theorem not_mem_behind_of_idle
    {pool : GaugePool ω} {worker : ω}
    (idle : pool.workers worker = none) :
    worker ∉ pool.behind := by
  rw [mem_behind, Behind, idle]
  simp

/-! ## What one event does to the workers behind the guard -/

variable [DecidableEq ω] {pool next : GaugePool ω}
variable {event : Event ω GaugeCall} {worker : ω}
variable {task : Task GaugeCall StdException Operation Unit Bool}

/-- A worker that is given a task joins or leaves by its note. -/
theorem behind_assign
    (pool : GaugePool ω) (worker : ω)
    (task : Option (Task GaugeCall StdException Operation Unit Bool)) :
    behind (pool.assign worker task) =
      if task.any Task.note = true then insert worker pool.behind
      else pool.behind.erase worker := by
  have self : Behind (pool.assign worker task) worker ↔
      task.any Task.note = true := by
    rw [Behind, Pool.assign_workers_self]
  have others : ∀ other, other ≠ worker →
      (Behind (pool.assign worker task) other ↔ pool.Behind other) := by
    intro other distinct
    rw [Behind, Pool.assign_workers_of_ne _ _ distinct, Behind]
  ext other
  by_cases own : other = worker
  · subst own
    rw [mem_behind, self]
    split_ifs with noted <;> simp [noted]
  · rw [mem_behind, others other own, ← mem_behind]
    split_ifs <;> simp [own]

/-- Before and after the guarded piece a worker changes nothing. -/
theorem behind_assign_of_front
    (outside : worker ∉ pool.behind) (front : task.note = false) :
    behind (pool.assign worker (some task)) = pool.behind := by
  have noted : ¬ (some task).any Task.note = true := by
    simp [front]
  rw [behind_assign, if_neg noted, Finset.erase_eq_of_notMem outside]

theorem behind_assign_none (outside : worker ∉ pool.behind) :
    behind (pool.assign worker none) = pool.behind := by
  have noted : ¬ (none : Option (Task GaugeCall StdException Operation Unit
      Bool)).any Task.note = true := by
    simp
  rw [behind_assign, if_neg noted, Finset.erase_eq_of_notMem outside]

/-! ## What one operation does to the gauge -/

/-- An increment covers one decrement more. -/
theorem covered_incremented
    (busy : pool.workers worker = some task)
    (front : task.note = false)
    (following : Unit → Worker.Handler Unit)
    (covered : pool.Covered) :
    Covered (gaugeWorkers.advanced pool worker task
      Operation.incActiveCalls following) := by
  have outside := not_mem_behind_of_note busy front
  have sameBehind : behind (gaugeWorkers.advanced pool worker task
      Operation.incActiveCalls following) = pool.behind :=
    behind_assign_of_front outside rfl
  have stepped : activeCalls (gaugeWorkers.advanced pool worker task
      Operation.incActiveCalls following) =
        pool.activeCalls + 1 := rfl
  unfold Covered at covered ⊢
  rw [sameBehind, stepped]
  omega

/-- A decrement uses up the cover of the worker that does it. -/
theorem behind_decremented
    (following : Unit → Worker.Handler Unit) :
    behind (gaugeWorkers.advanced pool worker task
      Operation.decrementActiveCalls following) =
        pool.behind.erase worker := by
  have noted : ¬ (some
      { input := task.input
        note := false
        rest := following () : Task GaugeCall StdException Operation Unit
          Bool }).any Task.note = true := by
    simp
  exact (behind_assign _ _ _).trans (if_neg noted)

theorem covered_decremented
    (busy : pool.workers worker = some task)
    (passed : task.note = true)
    (following : Unit → Worker.Handler Unit)
    (covered : pool.Covered) :
    Covered (gaugeWorkers.advanced pool worker task
      Operation.decrementActiveCalls following) := by
  have inside := mem_behind_of_note busy passed
  have stepped : activeCalls (gaugeWorkers.advanced pool worker task
      Operation.decrementActiveCalls following) =
        pool.activeCalls - 1 := rfl
  have fewer := Finset.card_erase_add_one inside
  unfold Covered at covered ⊢
  rw [behind_decremented, stepped]
  omega

/-- The load keeps the cover unless it overdraws the gauge. -/
theorem covered_loaded_iff
    (busy : pool.workers worker = some task)
    (front : task.note = false)
    (following : Int → Worker.Handler Unit)
    (covered : pool.Covered) :
    Covered (gaugeWorkers.advanced pool worker task
        Operation.readActiveCalls following) ↔
      ¬ pool.OverdrawsBy Operation.readActiveCalls := by
  have outside := not_mem_behind_of_note busy front
  have sameGauge : activeCalls (gaugeWorkers.advanced pool worker task
      Operation.readActiveCalls following) =
        pool.activeCalls := rfl
  unfold Covered at covered ⊢
  rw [sameGauge, OverdrawsBy]
  by_cases positive : 0 < pool.activeCalls
  · have passed : (some
        { input := task.input
          note := decide (pool.activeCalls > 0)
          rest := following pool.activeCalls : Task GaugeCall StdException
            Operation Unit Bool }).any Task.note = true :=
      decide_eq_true positive
    have joined : behind (gaugeWorkers.advanced pool worker task
        Operation.readActiveCalls following) = insert worker pool.behind :=
      (behind_assign _ _ _).trans (if_pos passed)
    rw [joined, Finset.card_insert_of_notMem outside]
    omega
  · have sameBehind : behind (gaugeWorkers.advanced pool worker task
        Operation.readActiveCalls following) = pool.behind :=
      behind_assign_of_front outside (decide_eq_false positive)
    rw [sameBehind]
    omega

/-- The cover is lost by an overdrawing event and by no other. -/
theorem covered_steps_iff
    (steps : gaugeWorkers.Steps pool event next)
    (disciplined : gaugeWorkers.Disciplined pool)
    (covered : pool.Covered) :
    next.Covered ↔ ¬ pool.Overdraws event := by
  cases steps with
  | started worker call idle =>
      have sameBehind : behind (pool.assign worker
          (some (gaugeWorkers.begin call))) = pool.behind :=
        behind_assign_of_front (not_mem_behind_of_idle idle) rfl
      have kept : Covered (pool.assign worker
          (some (gaugeWorkers.begin call))) := by
        rw [Covered, sameBehind]
        exact covered
      exact iff_of_true kept id
  | advanced worker task operation following busy here =>
      have obeys := disciplined worker task busy
      rw [here] at obeys
      have overdraws : pool.Overdraws (.advance worker) ↔
          pool.OverdrawsBy operation := by
        simp only [Overdraws, busy, here]
      rw [overdraws]
      have allowed : GaugeCall.allows task.note operation := obeys.1
      cases operation with
      | incActiveCalls =>
          exact iff_of_true (covered_incremented busy allowed _ covered) id
      | readActiveCalls => exact covered_loaded_iff busy allowed _ covered
      | decrementActiveCalls =>
          exact iff_of_true (covered_decremented busy allowed _ covered) id
      | _ => exact absurd allowed id
  | finished worker task result busy here =>
      have obeys := disciplined worker task busy
      rw [here] at obeys
      have sameBehind : behind (pool.assign worker none) = pool.behind :=
        behind_assign_none (not_mem_behind_of_note busy obeys)
      have kept : Covered (pool.assign worker none) := by
        rw [Covered, sameBehind]
        exact covered
      exact iff_of_true kept id

theorem not_overdraws_of_error
    {refused : Disabled}
    (failed : gaugeWorkers.step pool event = .error refused) :
    ¬ pool.Overdraws event := by
  cases event with
  | start worker call => exact id
  | finish worker => exact id
  | advance worker =>
      cases busy : pool.workers worker with
      | none => simp [Overdraws, busy]
      | some task =>
          cases here : task.rest with
          | pure result => simp [Overdraws, busy, here]
          | throw thrown => simp [Overdraws, busy, here]
          | perform operation next =>
              simp [System.step, busy, here] at failed

/-! ## Letting the workers behind the guard go on -/

/-- A worker behind the guard can do nothing but decrement. -/
theorem step_behind
    (disciplined : gaugeWorkers.Disciplined pool)
    (passed : worker ∈ pool.behind) :
    ∃ next : GaugePool ω,
      gaugeWorkers.step pool (.advance worker) = .ok (none, next) ∧
      next.behind = pool.behind.erase worker ∧
      next.activeCalls = pool.activeCalls - 1 := by
  rw [mem_behind, Behind, Option.any_eq_true] at passed
  obtain ⟨task, busy, noted⟩ := passed
  have obeys := disciplined worker task busy
  rw [noted] at obeys
  cases here : task.rest with
  | pure result =>
      rw [here] at obeys
      have front : true = false := obeys
      cases front
  | throw thrown =>
      rw [here] at obeys
      exact absurd obeys id
  | perform operation following =>
      rw [here] at obeys
      have allowed : GaugeCall.allows true operation := obeys.1
      cases operation with
      | decrementActiveCalls =>
          refine ⟨gaugeWorkers.advanced pool worker task
            Operation.decrementActiveCalls following, ?_,
            behind_decremented following, rfl⟩
          simp only [System.step, busy, here]
      | incActiveCalls => cases allowed
      | readActiveCalls => cases allowed
      | _ => exact absurd allowed id

/-- What the gauge comes down to when some of them go on. -/
theorem nonNegative_settling_iff
    {workers : List ω}
    (disciplined : gaugeWorkers.Disciplined pool)
    (distinct : workers.Nodup)
    (passed : ∀ worker ∈ workers, worker ∈ pool.behind) :
    Throughout gaugeWorkers.step NonNegative pool
        (workers.map Event.advance) ↔
      (workers.length : Int) ≤ pool.activeCalls := by
  induction workers generalizing pool with
  | nil => exact Iff.rfl
  | cons worker others ih =>
      obtain ⟨next, stepped, fewer, stepDown⟩ :=
        step_behind disciplined (passed worker List.mem_cons_self)
      have disciplinedNext : gaugeWorkers.Disciplined next :=
        disciplined.steps (System.steps_of_step stepped)
      have stillBehind : ∀ other ∈ others, other ∈ behind next := by
        intro other member
        rw [fewer, Finset.mem_erase]
        refine ⟨?_, passed other (List.mem_cons_of_mem _ member)⟩
        rintro rfl
        exact (List.nodup_cons.mp distinct).1 member
      have later := ih disciplinedNext (List.nodup_cons.mp distinct).2
        stillBehind
      rw [stepDown] at later
      constructor
      · rintro ⟨-, rest⟩
        have settled := later.mp (rest none next stepped)
        rw [List.length_cons]
        omega
      · intro enough
        rw [List.length_cons] at enough
        refine ⟨show 0 ≤ pool.activeCalls by omega, ?_⟩
        intro output next' taken
        rw [stepped] at taken
        cases taken
        exact later.mpr (by omega)

/--
The gauge is not negative and stays so, whichever workers behind the guard go
on next and in whichever order.
-/
def Settles (pool : GaugePool ω) : Prop :=
  ∀ workers : List ω, workers.Nodup →
    (∀ worker ∈ workers, worker ∈ pool.behind) →
      Throughout gaugeWorkers.step NonNegative pool
        (workers.map Event.advance)

theorem settles_iff_covered
    (disciplined : gaugeWorkers.Disciplined pool) :
    pool.Settles ↔ pool.Covered := by
  constructor
  · intro settles
    have all := settles pool.behind.toList pool.behind.nodup_toList
      (fun worker member => Finset.mem_toList.mp member)
    rw [nonNegative_settling_iff disciplined pool.behind.nodup_toList
      (fun worker member => Finset.mem_toList.mp member),
      Finset.length_toList] at all
    exact all
  · intro covered workers distinct passed
    rw [nonNegative_settling_iff disciplined distinct passed]
    have fits : workers.length ≤ pool.behind.card :=
      (List.Nodup.subperm distinct
        (fun worker member => Finset.mem_toList.mpr
          (passed worker member))).length_le.trans_eq
            (Finset.length_toList _)
    unfold Covered at covered
    omega

/-! ## Whole runs -/

/--
The gauge never goes negative in a run in which no worker passes the guard on
a value that is used up already.  The condition is exact: it holds of a run
if and only if at no point of the run the workers behind the guard could go
on and take the gauge below zero.
-/
theorem activeCalls_nonNegative
    (events : List (Event ω GaugeCall)) :
    (Along gaugeWorkers.step (fun pool event => ¬ Overdraws pool event)
        (initial : GaugePool ω) events →
      Throughout gaugeWorkers.step NonNegative (initial : GaugePool ω)
        events) ∧
    (Throughout gaugeWorkers.step Settles (initial : GaugePool ω) events ↔
      Along gaugeWorkers.step (fun pool event => ¬ Overdraws pool event)
        (initial : GaugePool ω) events) := by
  have disciplined : gaugeWorkers.Disciplined (initial : GaugePool ω) :=
    System.Disciplined.initial _
  have exact : Throughout gaugeWorkers.step Settles (initial : GaugePool ω)
      events ↔ Along gaugeWorkers.step
        (fun pool event => ¬ Overdraws pool event)
        (initial : GaugePool ω) events := by
    refine throughout_iff_along ?preserved ?exactStep ?failing disciplined
      ((settles_iff_covered disciplined).mpr Covered.initial)
    case preserved =>
      intro pool event result next stepped obeys
      exact obeys.steps (System.steps_of_step stepped)
    case exactStep =>
      intro pool event result next stepped obeys settles
      have steps := System.steps_of_step stepped
      exact (settles_iff_covered (obeys.steps steps)).trans
        (covered_steps_iff steps obeys
          ((settles_iff_covered obeys).mp settles))
    case failing =>
      intro pool event refused failed
      exact not_overdraws_of_error failed
  refine ⟨fun kept => ?_, exact⟩
  apply (exact.mpr kept).mono
  intro pool settles
  exact settles [] List.nodup_nil (fun _ none => absurd none List.not_mem_nil)

/-- Two workers find one active call and both step the gauge down. -/
def bothDecrement : List (Event Bool GaugeCall) :=
  [.start true .incActiveCalls, .advance true, .finish true,
    .start true .decActiveCalls, .start false .decActiveCalls,
    .advance true, .advance false, .advance true, .advance false]

theorem activeCalls_negative_bothDecrement :
    (∃ history pool,
      run gaugeWorkers.step (initial : GaugePool Bool) bothDecrement =
        .ok (history, pool) ∧
      activeCalls pool = -1) ∧
    ¬ ∀ events : List (Event Bool GaugeCall),
      Throughout gaugeWorkers.step NonNegative (initial : GaugePool Bool)
        events := by
  have tested : succeedsWith
      (run gaugeWorkers.step (initial : GaugePool Bool) bothDecrement)
      (fun value => decide (activeCalls value.2 = -1)) = true := by
    decide
  obtain ⟨⟨history, pool⟩, ran, gauge⟩ := exists_of_succeedsWith tested
  have negative : activeCalls pool = -1 := of_decide_eq_true gauge
  refine ⟨⟨history, pool, ran, negative⟩, ?_⟩
  intro claimed
  have kept : 0 ≤ activeCalls pool := (claimed bothDecrement).last ran
  rw [negative] at kept
  exact absurd kept (by decide)

end GaugePool

end MinimalSip.Proxy

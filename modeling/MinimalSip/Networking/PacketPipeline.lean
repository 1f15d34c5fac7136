import MinimalSip.Networking.Shutdown
import Mathlib.Algebra.Order.BigOperators.Group.Finset
import Mathlib.Data.Fintype.BigOperators
import Mathlib.Tactic.Ring

/-!
# Progress and order of the packets

The queues of the proxy hold no thread up for ever: a packet costs at most six
steps of the threads, and `stop` returns whatever the scheduler does.

The workers may finish in any order, but none of them holds more than one
packet, so a packet is overtaken by less than one packet for each worker.
-/

namespace MinimalSip.Networking.ProxyThreads

open MinimalSip.Lib.Machine
open MinimalSip.Common

variable {ω π : Type} {event : ThreadEvent ω π}

/-! ## Progress -/

/-- A step of the dispatcher, a worker or `stop`. -/
def isInner : ThreadEvent ω π → Bool
  | .push _ _ => false
  | .dispatcher => true
  | .worker _ => true
  | .stopper => true

theorem not_push_of_isInner (inner : isInner event = true) :
    ∀ transport packet, event ≠ .push transport packet := by
  rintro transport packet rfl
  cases inner

theorem sum_map_ite
    (test : ThreadEvent ω π → Bool) (events : List (ThreadEvent ω π))
    (each : Nat) :
    (events.map (fun event => if test event then each else 0)).sum =
      each * events.countP test := by
  induction events with
  | nil => rfl
  | cons event events ih =>
      rw [List.map_cons, List.sum_cons, ih, List.countP_cons]
      split_ifs
      · ring
      · ring

section Progress

variable [Fintype ω] {threads next : ProxyThreads ω π}

theorem weight_push
    {transport : TransportType} {packet : π}
    (stepped : threads.pushStep transport packet = .ok next) :
    next.weight = threads.weight + 6 := by
  unfold pushStep at stepped
  split_ifs at stepped
  cases stepped
  simp only [weight, ThreadSafeQueue.push, List.length_append,
    List.length_singleton]
  omega

theorem weight_started (tcpEnabled : Bool) :
    (started tcpEnabled : ProxyThreads ω π).weight = Fintype.card ω + 11 := by
  simp only [weight, started, ThreadSafeQueue.empty, dispatcherWeight,
    workerWeight, stopperWeight, List.length_nil,
    ← Fintype.card_eq_sum_ones]
  omega

variable [DecidableEq ω]

/-- No thread goes on unless a transport brings a packet. -/
def Stuck (threads : ProxyThreads ω π) : Prop :=
  ∀ event next, isInner event = true → threads.advance event ≠ .ok next

theorem advance_of_step
    {output : Unit} (stepped : threads.step event = .ok (output, next)) :
    threads.advance event = .ok next := by
  unfold ProxyThreads.step at stepped
  cases advanced : threads.advance event with
  | error refused =>
      rw [advanced] at stepped
      cases stepped
  | ok result =>
      rw [advanced] at stepped
      cases stepped
      rfl

/-- A packet pays for six steps, and every other step is paid for. -/
theorem weight_paid
    {output : Unit} (stepped : threads.step event = .ok (output, next)) :
    next.weight + (if isInner event then 1 else 0) ≤
      threads.weight + (if isInner event then 0 else 6) := by
  have advanced := advance_of_step stepped
  cases event with
  | push transport packet => exact (weight_push advanced).le
  | dispatcher => exact weight_step (not_push_of_isInner rfl) advanced
  | worker worker => exact weight_step (not_push_of_isInner rfl) advanced
  | stopper => exact weight_step (not_push_of_isInner rfl) advanced

/-- Once `stop` has returned, all threads are gone. -/
theorem Orderly.stuck_of_returned
    [Nonempty ω] (orderly : Orderly threads)
    (returned : threads.stopper = .returned) : Stuck threads := by
  have exited : ∀ worker, threads.workers worker = .exited := by
    have reached := orderly.atPoint
    rwa [AtPoint, returned] at reached
  have stopped := (orderly.finished (Classical.arbitrary ω) (exited _)).1
  have ended := orderly.poolDown (orderly.tasksDown stopped)
  intro event next inner
  cases event with
  | push transport packet => cases inner
  | dispatcher =>
      simp [advance, dispatcherStep, ended]
  | worker worker =>
      simp [advance, workerStep, exited worker]
  | stopper =>
      simp [advance, stopperStep, returned]

theorem Orderly.returned_of_stuck
    (orderly : Orderly threads) (stuck : Stuck threads) :
    threads.stopper = .returned := by
  by_contra waiting
  rcases orderly.not_stuck waiting with
    ⟨next, stepped⟩ | ⟨worker, next, stepped⟩ | ⟨next, stepped⟩
  · exact stuck .dispatcher next rfl stepped
  · exact stuck (.worker worker) next rfl stepped
  · exact stuck .stopper next rfl stepped

end Progress

/-! ## Order -/

/--
The packet that is handled at some place was pushed before it, or at most as
many places behind as there are further workers.
-/
def InTurn [Fintype ω] (threads : ProxyThreads ω π) : Prop :=
  ∀ place < threads.handled.length,
    (threads.handled.take (place + 1) : Multiset π) ≤
      threads.packets.pushed.take (place + Fintype.card ω)

section Order

variable [Fintype ω] {threads next : ProxyThreads ω π}

theorem inTurn_started (tcpEnabled : Bool) :
    InTurn (started tcpEnabled : ProxyThreads ω π) := by
  intro place inside
  cases inside

/-- New packets stand behind the others. -/
theorem InTurn.mono
    (inTurn : InTurn threads) (handled : next.handled = threads.handled)
    (pushed : threads.packets.pushed <+: next.packets.pushed) :
    InTurn next := by
  intro place inside
  rw [handled] at inside ⊢
  refine (inTurn place inside).trans ?_
  exact Multiset.coe_le.mpr (pushed.take _).sublist.subperm

/-- The packets that the workers have taken, and still hold or not. -/
theorem Orderly.card_taken_le (orderly : Orderly threads) :
    threads.tasks.taken.length ≤
      threads.handled.length + Fintype.card ω := by
  have hands := congrArg Multiset.card orderly.hands
  rw [Multiset.card_add, Multiset.coe_card, Multiset.coe_card,
    Multiset.card_sum] at hands
  have each : ∑ worker, Multiset.card (threads.workers worker).inHand ≤
      ∑ _worker : ω, 1 := by
    refine Finset.sum_le_sum (fun worker _ => ?_)
    cases threads.workers worker <;> simp [WorkerThread.inHand]
  rw [← Fintype.card_eq_sum_ones] at each
  omega

/-- What the workers have taken stands at the beginning of what was pushed. -/
theorem Orderly.taken_starts (orderly : Orderly threads) :
    threads.tasks.taken <+: threads.packets.pushed := by
  refine threads.tasks.taken_starts_pushed.trans
    (List.IsPrefix.trans ?_ threads.packets.taken_starts_pushed)
  rw [orderly.transit]
  exact List.prefix_append _ _

theorem inTurn_dispatcher
    (inTurn : InTurn threads)
    (stepped : threads.dispatcherStep = .ok next) : InTurn next := by
  unfold dispatcherStep at stepped
  split at stepped
  · split at stepped
    · cases stepped
    · cases stepped
      exact inTurn
    · rename_i packet rest popped
      cases stepped
      have pushed := (ThreadSafeQueue.pop_item popped).2.2.1
      exact inTurn.mono rfl (by rw [pushed])
  · split_ifs at stepped
    · cases stepped
      exact inTurn
    · cases stepped
      exact inTurn
  · cases stepped
    exact inTurn
  · cases stepped

theorem inTurn_stopper
    (inTurn : InTurn threads)
    (stepped : threads.stopperStep = .ok next) : InTurn next := by
  unfold stopperStep at stepped
  split at stepped
  case h_1 | h_7 | h_10 =>
    split_ifs at stepped <;> cases stepped <;> exact inTurn
  case h_11 => cases stepped
  all_goals
    cases stepped
    exact inTurn

variable [DecidableEq ω]

/-- A worker calls the handler on a packet that it has taken. -/
theorem Orderly.inTurn_calling
    (orderly : Orderly threads) (inTurn : InTurn threads)
    {worker : ω} {packet : π}
    (calling : threads.workers worker = .calling packet) :
    InTurn ({ threads with
      handled := threads.handled ++ [packet] }.setWorker worker
        .handling) := by
  intro place inside
  change place < (threads.handled ++ [packet]).length at inside
  change ((threads.handled ++ [packet]).take (place + 1) : Multiset π) ≤
    threads.packets.pushed.take (place + Fintype.card ω)
  rw [List.length_append, List.length_singleton] at inside
  rcases Nat.lt_succ_iff_lt_or_eq.mp inside with earlier | rfl
  · rw [List.take_append_of_le_length earlier]
    exact inTurn place earlier
  · have held : ({packet} : Multiset π) ≤
        ∑ other, (threads.workers other).inHand := by
      have own := Finset.single_le_sum
        (f := fun other => (threads.workers other).inHand)
        (fun _ _ => Multiset.zero_le _) (Finset.mem_univ worker)
      rwa [calling] at own
    have taken : (threads.handled ++ [packet] : Multiset π) ≤
        threads.tasks.taken := by
      rw [orderly.hands, ← Multiset.coe_add, Multiset.coe_singleton]
      exact add_le_add le_rfl held
    rw [List.take_of_length_le (by simp)]
    refine taken.trans (Multiset.coe_le.mpr ?_)
    exact (List.prefix_take_iff.mpr ⟨orderly.taken_starts,
      orderly.card_taken_le⟩).sublist.subperm

theorem Orderly.inTurn_worker
    (orderly : Orderly threads) (inTurn : InTurn threads) {worker : ω}
    (stepped : threads.workerStep worker = .ok next) : InTurn next := by
  unfold workerStep at stepped
  split at stepped
  · split at stepped
    · cases stepped
    · cases stepped
      exact inTurn
    · cases stepped
      exact inTurn
  · rename_i packet calling
    cases stepped
    exact orderly.inTurn_calling inTurn calling
  · cases stepped
    exact inTurn
  · cases stepped

/-- Threads that follow the discipline, so far in turn. -/
structure Queued (threads : ProxyThreads ω π) : Prop where
  orderly : Orderly threads
  inTurn : InTurn threads

theorem Queued.step
    {output : Unit} (stepped : threads.step event = .ok (output, next))
    (queued : Queued threads) : Queued next where
  orderly := Orderly.step stepped queued.orderly
  inTurn := by
    have advanced := advance_of_step stepped
    cases event with
    | push transport packet =>
        change threads.pushStep transport packet = .ok next at advanced
        unfold pushStep at advanced
        split_ifs at advanced
        cases advanced
        exact queued.inTurn.mono rfl (List.prefix_append _ _)
    | dispatcher => exact inTurn_dispatcher queued.inTurn advanced
    | worker worker =>
        exact queued.orderly.inTurn_worker queued.inTurn advanced
    | stopper => exact inTurn_stopper queued.inTurn advanced

theorem queued_of_reachable
    {tcpEnabled : Bool}
    (reachable : Reachable step (started tcpEnabled) threads) :
    Queued threads :=
  reachable.invariant Queued.step
    ⟨Orderly.started tcpEnabled, inTurn_started tcpEnabled⟩

/--
Bounded overtaking.  However the threads are scheduled, the first packets that
are handled, up to any place, are among the packets that were pushed up to
that place and as many further ones as there are further workers.
-/
theorem handled_inTurn
    {tcpEnabled : Bool}
    (reachable : Reachable step (started tcpEnabled) threads) :
    InTurn threads :=
  (queued_of_reachable reachable).inTurn

/-- The second packet overtakes the first. -/
theorem handled_inTurn_busy :
    ∃ threads : ProxyThreads Bool Nat,
      threads.handled = [2, 1] ∧ InTurn threads := by
  have tested : succeedsWith
      (run step (started true : ProxyThreads Bool Nat) busyShutdown)
      (fun value => decide (value.2.handled = [2, 1])) = true := by
    decide
  obtain ⟨⟨history, threads⟩, ran, handled⟩ := exists_of_succeedsWith tested
  have reachable : Reachable step (started true) threads := ⟨_, _, ran⟩
  exact ⟨threads, of_decide_eq_true handled, handled_inTurn reachable⟩

/-! ## One worker -/

/-- Lists whose beginnings are permutations of each other are equal. -/
theorem prefix_of_take_perm
    {first second : List π}
    (perm : ∀ place < first.length,
      (first.take (place + 1)).Perm (second.take (place + 1))) :
    first <+: second := by
  have same : ∀ count ≤ first.length,
      first.take count = second.take count := by
    intro count
    induction count with
    | zero => exact fun _ => by rw [List.take_zero, List.take_zero]
    | succ count ih =>
        intro inside
        have earlier := ih (Nat.le_of_succ_le inside)
        have permuted := perm count inside
        have there : count < second.length := by
          have lengths := permuted.length_eq
          rw [List.length_take, List.length_take] at lengths
          omega
        rw [List.take_succ_eq_append_getElem inside,
          List.take_succ_eq_append_getElem there, earlier] at permuted ⊢
        rw [List.perm_append_left_iff, List.singleton_perm_singleton]
          at permuted
        rw [permuted]
  have whole := same first.length (Nat.le_refl _)
  rw [List.take_length] at whole
  rw [whole]
  exact List.take_prefix _ _

omit [DecidableEq ω] in
/-- A single worker handles the packets in the order of their arrival. -/
theorem Queued.handled_starts
    (queued : Queued threads) (single : Fintype.card ω = 1) :
    threads.handled <+: threads.packets.pushed := by
  refine prefix_of_take_perm (fun place inside => ?_)
  have inTurn := queued.inTurn place inside
  rw [single] at inTurn
  have sub : (threads.handled.take (place + 1)).Subperm
      (threads.packets.pushed.take (place + 1)) := Multiset.coe_le.mp inTurn
  refine sub.perm_of_length_le ?_
  rw [List.length_take, List.length_take]
  omega

end Order

end MinimalSip.Networking.ProxyThreads

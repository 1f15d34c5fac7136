import Mathlib.Data.List.Basic

/-!
# The blocking queue

`ThreadSafeQueue` is a queue with a stop flag.  Every method holds the mutex,
so it is one atomic step; `pop` waits until there is an item or the queue is
stopped, and fails only when it is stopped and empty.

The queue carries a record of what was ever pushed and what was ever taken.
The code keeps no such record; it is what the results speak about.
-/

namespace MinimalSip.Common

structure ThreadSafeQueue (τ : Type) where
  items : List τ
  stopped : Bool
  pushed : List τ
  taken : List τ
  ordered : pushed = taken ++ items

namespace ThreadSafeQueue

variable {τ : Type}

def empty : ThreadSafeQueue τ where
  items := []
  stopped := false
  pushed := []
  taken := []
  ordered := rfl

/-- A stopped queue still accepts items. -/
def push (queue : ThreadSafeQueue τ) (item : τ) : ThreadSafeQueue τ where
  items := queue.items ++ [item]
  stopped := queue.stopped
  pushed := queue.pushed ++ [item]
  taken := queue.taken
  ordered := by rw [queue.ordered, List.append_assoc]

def stop (queue : ThreadSafeQueue τ) : ThreadSafeQueue τ :=
  { queue with stopped := true }

/-- What a call of `pop` can meet. -/
inductive Popped (τ : Type) where
  | blocked
  | refused
  | item (item : τ) (rest : ThreadSafeQueue τ)

def pop (queue : ThreadSafeQueue τ) : Popped τ :=
  match held : queue.items with
  | [] => if queue.stopped then .refused else .blocked
  | first :: rest =>
      .item first
        { items := rest
          stopped := queue.stopped
          pushed := queue.pushed
          taken := queue.taken ++ [first]
          ordered := by
            rw [queue.ordered, held, List.append_assoc]
            rfl }

/-- `pop` fails only on a queue that is stopped and empty. -/
theorem pop_refused
    {queue : ThreadSafeQueue τ} (refused : queue.pop = .refused) :
    queue.stopped = true ∧ queue.items = [] := by
  unfold pop at refused
  split at refused
  · rename_i drained
    split_ifs at refused with stopped
    exact ⟨stopped, drained⟩
  · cases refused

/-- `pop` takes the first item and leaves the rest as it is. -/
theorem pop_item
    {queue rest : ThreadSafeQueue τ} {first : τ}
    (popped : queue.pop = .item first rest) :
    queue.items = first :: rest.items ∧ rest.stopped = queue.stopped ∧
      rest.pushed = queue.pushed ∧ rest.taken = queue.taken ++ [first] := by
  unfold pop at popped
  split at popped
  · split_ifs at popped
  · rename_i head tail held
    injection popped with same others
    subst same others
    exact ⟨held, rfl, rfl, rfl⟩

/-- A stopped queue never blocks. -/
theorem pop_ne_blocked
    {queue : ThreadSafeQueue τ} (stopped : queue.stopped = true) :
    queue.pop ≠ .blocked := by
  intro blocked
  unfold pop at blocked
  split at blocked
  · rw [if_pos stopped] at blocked
    cases blocked
  · cases blocked

/-- What was taken is what was pushed first. -/
theorem taken_starts_pushed (queue : ThreadSafeQueue τ) :
    queue.taken <+: queue.pushed :=
  ⟨queue.items, queue.ordered.symm⟩

/-- An empty queue has handed out everything that was pushed. -/
theorem taken_eq_pushed
    {queue : ThreadSafeQueue τ} (drained : queue.items = []) :
    queue.taken = queue.pushed := by
  rw [queue.ordered, drained, List.append_nil]

end ThreadSafeQueue

end MinimalSip.Common

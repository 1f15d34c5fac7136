import MinimalSip.Common.SipMessage
import MinimalSip.Common.ThreadSafeQueue
import MinimalSip.Lib.Machine
import Mathlib.Algebra.BigOperators.Group.Finset.Basic
import Mathlib.Algebra.Order.Group.Multiset
import Mathlib.Tactic.Abel

/-!
# From the transports to the handler, and the shutdown of both queues

The receive threads push packets into the dispatcher queue.  The dispatcher
thread moves them, one at a time, into the task queue of the thread pool, and
the workers take them from there and call the handler.  `SIPProxy::stop` runs
beside all of them.

An event is the next atomic step of one thread.  The handler is a step of its
own that ends; what it does to the packet is no matter here.
-/

namespace MinimalSip.Networking

open MinimalSip.Lib.Machine
open MinimalSip.Common

/-! ## The threads -/

/-- `Dispatcher::loop`; `enqueue` loads the flag before it pushes. -/
inductive DispatcherThread (π : Type) where
  | popping
  | enqueuing (packet : π)
  | pushing (packet : π)
  | exited

/-- `ThreadPool::workerLoop`. -/
inductive WorkerThread (π : Type) where
  | popping
  | calling (packet : π)
  | handling
  | exited

/-- The statements of `SIPProxy::stop`, and of what it calls, in order. -/
inductive StopPoint where
  | checkRunning
  | clearRunning
  | stopUdp
  | stopTcp
  | clearDispatcherRunning
  | stopPackets
  | joinDispatcher
  | clearPoolRunning
  | stopTasks
  | joinWorkers
  | returned
deriving DecidableEq

/-- `π` are the packets, and there is one worker for each element of `ω`. -/
structure ProxyThreads (ω π : Type) where
  running : Bool
  udpOpen : Bool
  tcpOpen : Bool
  packets : ThreadSafeQueue π
  dispatcherRunning : Bool
  dispatcher : DispatcherThread π
  tasks : ThreadSafeQueue π
  poolRunning : Bool
  workers : ω → WorkerThread π
  stopper : StopPoint
  handled : List π

inductive ThreadEvent (ω π : Type) where
  | push (transport : TransportType) (packet : π)
  | dispatcher
  | worker (worker : ω)
  | stopper
deriving DecidableEq

/-- Raised for a step of a thread that is blocked or has ended. -/
inductive Blocked where
  | blocked
deriving DecidableEq

namespace ProxyThreads

variable {ω π : Type}

/-- A started proxy; the TCP transport is optional. -/
def started (tcpEnabled : Bool) : ProxyThreads ω π where
  running := true
  udpOpen := true
  tcpOpen := tcpEnabled
  packets := .empty
  dispatcherRunning := true
  dispatcher := .popping
  tasks := .empty
  poolRunning := true
  workers := fun _ => .popping
  stopper := .checkRunning
  handled := []

/-- A transport pushes only until it is stopped. -/
def isOpen (threads : ProxyThreads ω π) : TransportType → Bool
  | .udp => threads.udpOpen
  | .tcp => threads.tcpOpen

def pushStep (threads : ProxyThreads ω π) (transport : TransportType)
    (packet : π) : Except Blocked (ProxyThreads ω π) :=
  if threads.isOpen transport then
    .ok { threads with packets := threads.packets.push packet }
  else .error .blocked

/-- With the flag cleared, `enqueue` drops the packet. -/
def dispatcherStep (threads : ProxyThreads ω π) :
    Except Blocked (ProxyThreads ω π) :=
  match threads.dispatcher with
  | .popping =>
      match threads.packets.pop with
      | .blocked => .error .blocked
      | .refused => .ok { threads with dispatcher := .exited }
      | .item packet rest =>
          .ok { threads with
            packets := rest
            dispatcher := .enqueuing packet }
  | .enqueuing packet =>
      if threads.poolRunning then
        .ok { threads with dispatcher := .pushing packet }
      else .ok { threads with dispatcher := .popping }
  | .pushing packet =>
      .ok { threads with
        tasks := threads.tasks.push packet
        dispatcher := .popping }
  | .exited => .error .blocked

/-- With the packet queue stopped, the dispatcher does not wait. -/
theorem dispatcherStep_isOk
    {threads : ProxyThreads ω π}
    (running : threads.dispatcher ≠ .exited)
    (stopped : threads.packets.stopped = true) :
    ∃ next, threads.dispatcherStep = .ok next := by
  unfold dispatcherStep
  cases thread : threads.dispatcher with
  | popping =>
      cases popped : threads.packets.pop with
      | blocked => exact absurd popped (ThreadSafeQueue.pop_ne_blocked stopped)
      | refused => exact ⟨_, rfl⟩
      | item packet rest => exact ⟨_, rfl⟩
  | enqueuing packet =>
      dsimp only
      split_ifs
      · exact ⟨_, rfl⟩
      · exact ⟨_, rfl⟩
  | pushing packet => exact ⟨_, rfl⟩
  | exited => exact absurd thread running

/-- The end of a thread, for which `join` waits. -/
def dispatcherExited (threads : ProxyThreads ω π) : Bool :=
  match threads.dispatcher with
  | .exited => true
  | _ => false

def workerExited (threads : ProxyThreads ω π) (worker : ω) : Bool :=
  match threads.workers worker with
  | .exited => true
  | _ => false

theorem exited_of_dispatcherExited
    {threads : ProxyThreads ω π}
    (exited : threads.dispatcherExited = true) :
    threads.dispatcher = .exited := by
  unfold dispatcherExited at exited
  split at exited
  · assumption
  · cases exited

theorem exited_of_workerExited
    {threads : ProxyThreads ω π} {worker : ω}
    (exited : threads.workerExited worker = true) :
    threads.workers worker = .exited := by
  unfold workerExited at exited
  split at exited
  · assumption
  · cases exited

variable [DecidableEq ω]

def setWorker (threads : ProxyThreads ω π) (worker : ω)
    (thread : WorkerThread π) : ProxyThreads ω π :=
  { threads with workers := Function.update threads.workers worker thread }

@[simp]
theorem setWorker_workers_self
    (threads : ProxyThreads ω π) (worker : ω) (thread : WorkerThread π) :
    (threads.setWorker worker thread).workers worker = thread := by
  simp only [setWorker, Function.update_self]

theorem setWorker_workers_of_ne
    (threads : ProxyThreads ω π) {worker other : ω}
    (thread : WorkerThread π) (distinct : other ≠ worker) :
    (threads.setWorker worker thread).workers other =
      threads.workers other := by
  simp only [setWorker, Function.update_of_ne distinct]

def workerStep (threads : ProxyThreads ω π) (worker : ω) :
    Except Blocked (ProxyThreads ω π) :=
  match threads.workers worker with
  | .popping =>
      match threads.tasks.pop with
      | .blocked => .error .blocked
      | .refused => .ok (threads.setWorker worker .exited)
      | .item packet rest =>
          .ok ({ threads with tasks := rest }.setWorker worker
            (.calling packet))
  | .calling packet =>
      .ok ({ threads with handled := threads.handled ++ [packet] }.setWorker
        worker .handling)
  | .handling => .ok (threads.setWorker worker .popping)
  | .exited => .error .blocked

/-- With the task queue stopped, no worker waits. -/
theorem workerStep_isOk
    {threads : ProxyThreads ω π} {worker : ω}
    (running : threads.workers worker ≠ .exited)
    (stopped : threads.tasks.stopped = true) :
    ∃ next, threads.workerStep worker = .ok next := by
  unfold workerStep
  cases thread : threads.workers worker with
  | popping =>
      cases popped : threads.tasks.pop with
      | blocked => exact absurd popped (ThreadSafeQueue.pop_ne_blocked stopped)
      | refused => exact ⟨_, rfl⟩
      | item packet rest => exact ⟨_, rfl⟩
  | calling packet => exact ⟨_, rfl⟩
  | handling => exact ⟨_, rfl⟩
  | exited => exact absurd thread running

variable [Fintype ω]

/-- The next statement of `stop`. -/
def stopperStep (threads : ProxyThreads ω π) :
    Except Blocked (ProxyThreads ω π) :=
  match threads.stopper with
  | .checkRunning =>
      if threads.running then
        .ok { threads with stopper := .clearRunning }
      else .ok { threads with stopper := .returned }
  | .clearRunning =>
      .ok { threads with running := false, stopper := .stopUdp }
  | .stopUdp =>
      .ok { threads with udpOpen := false, stopper := .stopTcp }
  | .stopTcp =>
      .ok { threads with
        tcpOpen := false
        stopper := .clearDispatcherRunning }
  | .clearDispatcherRunning =>
      .ok { threads with
        dispatcherRunning := false
        stopper := .stopPackets }
  | .stopPackets =>
      .ok { threads with
        packets := threads.packets.stop
        stopper := .joinDispatcher }
  | .joinDispatcher =>
      if threads.dispatcherExited then
        .ok { threads with stopper := .clearPoolRunning }
      else .error .blocked
  | .clearPoolRunning =>
      .ok { threads with poolRunning := false, stopper := .stopTasks }
  | .stopTasks =>
      .ok { threads with
        tasks := threads.tasks.stop
        stopper := .joinWorkers }
  | .joinWorkers =>
      if ∀ worker, threads.workerExited worker = true then
        .ok { threads with stopper := .returned }
      else .error .blocked
  | .returned => .error .blocked

def advance (threads : ProxyThreads ω π) :
    ThreadEvent ω π → Except Blocked (ProxyThreads ω π)
  | .push transport packet => threads.pushStep transport packet
  | .dispatcher => threads.dispatcherStep
  | .worker worker => threads.workerStep worker
  | .stopper => threads.stopperStep

/-- One atomic step of some thread. -/
def step (threads : ProxyThreads ω π) (event : ThreadEvent ω π) :
    Except Blocked (Unit × ProxyThreads ω π) :=
  (threads.advance event).map (fun next => ((), next))

end ProxyThreads

/-! ## The invariant -/

/-- The packet that the dispatcher has taken and not yet passed on. -/
def DispatcherThread.inTransit {π : Type} : DispatcherThread π → List π
  | .enqueuing packet => [packet]
  | .pushing packet => [packet]
  | _ => []

/-- The packet that a worker has taken and not yet passed on. -/
def WorkerThread.inHand {π : Type} : WorkerThread π → Multiset π
  | .calling packet => {packet}
  | _ => 0

namespace ProxyThreads

variable {ω π : Type}

/-- What `stop` has achieved when it reaches a statement. -/
def AtPoint (threads : ProxyThreads ω π) : Prop :=
  match threads.stopper with
  | .checkRunning => threads.running = true
  | .clearRunning | .stopUdp => True
  | .stopTcp => threads.udpOpen = false
  | .clearDispatcherRunning | .stopPackets =>
      threads.udpOpen = false ∧ threads.tcpOpen = false
  | .joinDispatcher => threads.packets.stopped = true
  | .clearPoolRunning => threads.dispatcher = .exited
  | .stopTasks => threads.poolRunning = false
  | .joinWorkers => threads.tasks.stopped = true
  | .returned => ∀ worker, threads.workers worker = .exited

/-- What `stop` has achieved lasts. -/
theorem AtPoint.mono
    {threads next : ProxyThreads ω π} (reached : threads.AtPoint)
    (stopper : next.stopper = threads.stopper)
    (running : next.running = threads.running)
    (udp : next.udpOpen = threads.udpOpen)
    (tcp : next.tcpOpen = threads.tcpOpen)
    (packets : next.packets.stopped = threads.packets.stopped)
    (dispatcher : threads.dispatcher = .exited → next.dispatcher = .exited)
    (pool : next.poolRunning = threads.poolRunning)
    (tasks : next.tasks.stopped = threads.tasks.stopped)
    (workers : (∀ worker, threads.workers worker = .exited) →
      ∀ worker, next.workers worker = .exited) :
    next.AtPoint := by
  unfold AtPoint at reached ⊢
  rw [stopper, running, udp, tcp, packets, pool, tasks]
  cases point : threads.stopper with
  | clearPoolRunning =>
      rw [point] at reached
      exact dispatcher reached
  | returned =>
      rw [point] at reached
      exact workers reached
  | _ =>
      rw [point] at reached
      exact reached

/--
The shutdown goes down the pipeline: each queue is stopped when nobody pushes
any more, and left when it is empty.  No packet is lost or doubled on its way.
-/
structure Orderly [Fintype ω] (threads : ProxyThreads ω π) : Prop where
  atPoint : threads.AtPoint
  quiet : threads.packets.stopped = true →
    threads.udpOpen = false ∧ threads.tcpOpen = false
  drained : threads.dispatcher = .exited →
    threads.packets.stopped = true ∧ threads.packets.items = []
  poolDown : threads.poolRunning = false → threads.dispatcher = .exited
  tasksDown : threads.tasks.stopped = true → threads.poolRunning = false
  finished : ∀ worker, threads.workers worker = .exited →
    threads.tasks.stopped = true ∧ threads.tasks.items = []
  transit : threads.packets.taken =
    threads.tasks.pushed ++ threads.dispatcher.inTransit
  hands : (threads.tasks.taken : Multiset π) =
    threads.handled + ∑ worker, (threads.workers worker).inHand

theorem Orderly.started [Fintype ω] (tcpEnabled : Bool) :
    Orderly (started tcpEnabled : ProxyThreads ω π) where
  atPoint := rfl
  quiet := by
    intro stopped
    cases stopped
  drained := by
    intro exited
    cases exited
  poolDown := by
    intro down
    cases down
  tasksDown := by
    intro stopped
    cases stopped
  finished := by
    intro worker exited
    cases exited
  transit := rfl
  hands := by
    simp [ProxyThreads.started, WorkerThread.inHand, ThreadSafeQueue.empty]

section Steps

variable [Fintype ω] {threads next : ProxyThreads ω π}

/-- As long as a transport is open, the packet queue is not stopped. -/
theorem Orderly.not_stopped_of_isOpen
    (orderly : Orderly threads) {transport : TransportType}
    (isOpen : threads.isOpen transport = true) :
    threads.packets.stopped = false := by
  rw [← Bool.not_eq_true]
  intro stopped
  obtain ⟨udp, tcp⟩ := orderly.quiet stopped
  cases transport with
  | udp =>
      rw [ProxyThreads.isOpen, udp] at isOpen
      cases isOpen
  | tcp =>
      rw [ProxyThreads.isOpen, tcp] at isOpen
      cases isOpen

theorem Orderly.push
    (orderly : Orderly threads) {transport : TransportType} {packet : π}
    (stepped : threads.pushStep transport packet = .ok next) :
    Orderly next := by
  unfold pushStep at stepped
  split_ifs at stepped with isOpen
  cases stepped
  have running := orderly.not_stopped_of_isOpen isOpen
  exact
    { atPoint := orderly.atPoint
      quiet := orderly.quiet
      drained := by
        intro exited
        have stopped := (orderly.drained exited).1
        rw [running] at stopped
        cases stopped
      poolDown := orderly.poolDown
      tasksDown := orderly.tasksDown
      finished := orderly.finished
      transit := orderly.transit
      hands := orderly.hands }

/-- Before the dispatcher thread has ended, the pool accepts tasks. -/
theorem Orderly.pool_running
    (orderly : Orderly threads) (running : threads.dispatcher ≠ .exited) :
    threads.poolRunning = true := by
  by_contra down
  exact running (orderly.poolDown (Bool.eq_false_iff.mpr down))

theorem Orderly.tasks_open
    (orderly : Orderly threads) (running : threads.dispatcher ≠ .exited) :
    threads.tasks.stopped = false := by
  rw [← Bool.not_eq_true]
  intro stopped
  have down := orderly.tasksDown stopped
  rw [orderly.pool_running running] at down
  cases down

theorem Orderly.dispatcher
    (orderly : Orderly threads)
    (stepped : threads.dispatcherStep = .ok next) :
    Orderly next := by
  unfold dispatcherStep at stepped
  split at stepped
  · rename_i popping
    have transit := orderly.transit
    rw [popping] at transit
    split at stepped
    · cases stepped
    · rename_i refused
      cases stepped
      have ended := ThreadSafeQueue.pop_refused refused
      exact
        { atPoint := orderly.atPoint.mono rfl rfl rfl rfl rfl (fun _ => rfl)
            rfl rfl id
          quiet := orderly.quiet
          drained := fun _ => ended
          poolDown := fun _ => rfl
          tasksDown := orderly.tasksDown
          finished := orderly.finished
          transit := transit
          hands := orderly.hands }
    · rename_i packet rest popped
      cases stepped
      obtain ⟨-, stopped, -, taken⟩ := ThreadSafeQueue.pop_item popped
      have running : threads.dispatcher ≠ .exited := by
        rw [popping]
        exact nofun
      have pool := orderly.pool_running running
      exact
        { atPoint := orderly.atPoint.mono rfl rfl rfl rfl stopped
            (fun exited => absurd exited running) rfl rfl id
          quiet := by
            intro stoppedRest
            exact orderly.quiet (stopped.symm.trans stoppedRest)
          drained := by
            intro exited
            cases exited
          poolDown := by
            intro down
            rw [pool] at down
            cases down
          tasksDown := orderly.tasksDown
          finished := orderly.finished
          transit := by
            rw [taken, transit]
            simp [DispatcherThread.inTransit]
          hands := orderly.hands }
  · rename_i packet enqueuing
    have running : threads.dispatcher ≠ .exited := by
      rw [enqueuing]
      exact nofun
    have pool := orderly.pool_running running
    rw [if_pos pool] at stepped
    cases stepped
    exact
      { atPoint := orderly.atPoint.mono rfl rfl rfl rfl rfl
          (fun exited => absurd exited running) rfl rfl id
        quiet := orderly.quiet
        drained := by
          intro exited
          cases exited
        poolDown := by
          intro down
          rw [pool] at down
          cases down
        tasksDown := orderly.tasksDown
        finished := orderly.finished
        transit := by
          rw [orderly.transit, enqueuing]
          rfl
        hands := orderly.hands }
  · rename_i packet pushing
    have running : threads.dispatcher ≠ .exited := by
      rw [pushing]
      exact nofun
    have pool := orderly.pool_running running
    have tasks := orderly.tasks_open running
    cases stepped
    exact
      { atPoint := orderly.atPoint.mono rfl rfl rfl rfl rfl
          (fun exited => absurd exited running) rfl rfl id
        quiet := orderly.quiet
        drained := by
          intro exited
          cases exited
        poolDown := by
          intro down
          rw [pool] at down
          cases down
        tasksDown := orderly.tasksDown
        finished := by
          intro worker exited
          have stopped := (orderly.finished worker exited).1
          rw [tasks] at stopped
          cases stopped
        transit := by
          rw [orderly.transit, pushing]
          simp [DispatcherThread.inTransit, ThreadSafeQueue.push]
        hands := orderly.hands }
  · cases stepped

theorem Orderly.stopper
    (orderly : Orderly threads)
    (stepped : threads.stopperStep = .ok next) :
    Orderly next := by
  have reached := orderly.atPoint
  unfold AtPoint at reached
  unfold stopperStep at stepped
  cases point : threads.stopper <;>
    simp only [point] at reached stepped
  case checkRunning =>
    rw [if_pos reached] at stepped
    cases stepped
    exact { orderly with atPoint := trivial }
  case clearRunning =>
    cases stepped
    exact { orderly with atPoint := trivial }
  case stopUdp =>
    cases stepped
    exact
      { orderly with
        atPoint := rfl
        quiet := fun stopped => ⟨rfl, (orderly.quiet stopped).2⟩ }
  case stopTcp =>
    cases stepped
    exact
      { orderly with
        atPoint := ⟨reached, rfl⟩
        quiet := fun stopped => ⟨(orderly.quiet stopped).1, rfl⟩ }
  case clearDispatcherRunning =>
    cases stepped
    exact { orderly with atPoint := reached }
  case stopPackets =>
    cases stepped
    exact
      { orderly with
        atPoint := rfl
        quiet := fun _ => reached
        drained := fun exited => ⟨rfl, (orderly.drained exited).2⟩ }
  case joinDispatcher =>
    split_ifs at stepped with exited
    cases stepped
    exact { orderly with atPoint := exited_of_dispatcherExited exited }
  case clearPoolRunning =>
    cases stepped
    exact
      { orderly with
        atPoint := rfl
        poolDown := fun _ => reached
        tasksDown := fun _ => rfl }
  case stopTasks =>
    cases stepped
    exact
      { orderly with
        atPoint := rfl
        tasksDown := fun _ => reached
        finished := fun worker exited =>
          ⟨rfl, (orderly.finished worker exited).2⟩ }
  case joinWorkers =>
    split_ifs at stepped with exited
    cases stepped
    exact
      { orderly with
        atPoint := fun worker => exited_of_workerExited (exited worker) }
  case returned => cases stepped

variable [DecidableEq ω]

/-- A sum over the workers changes with the worker that moves. -/
theorem sum_setWorker
    {M : Type} [AddCommMonoid M] (value : WorkerThread π → M)
    (threads : ProxyThreads ω π) (worker : ω) (thread : WorkerThread π) :
    ∑ other, value ((threads.setWorker worker thread).workers other) +
        value (threads.workers worker) =
      ∑ other, value (threads.workers other) + value thread := by
  have others :
      ∑ other ∈ Finset.univ.erase worker,
          value ((threads.setWorker worker thread).workers other) =
        ∑ other ∈ Finset.univ.erase worker,
          value (threads.workers other) := by
    apply Finset.sum_congr rfl
    intro other member
    rw [threads.setWorker_workers_of_ne thread
      (Finset.ne_of_mem_erase member)]
  rw [← Finset.add_sum_erase _ _ (Finset.mem_univ worker),
    ← Finset.add_sum_erase _ (fun other => value (threads.workers other))
      (Finset.mem_univ worker), others, setWorker_workers_self]
  abel

/--
The step of a worker that has not ended.  What it takes from the queue, holds
and hands to the handler must balance.
-/
theorem Orderly.setWorker
    (orderly : Orderly threads) {worker : ω} {thread : WorkerThread π}
    {tasks : ThreadSafeQueue π} {handled : List π}
    (running : threads.workers worker ≠ .exited)
    (stopped : tasks.stopped = threads.tasks.stopped)
    (pushed : tasks.pushed = threads.tasks.pushed)
    (drained : threads.tasks.items = [] → tasks.items = [])
    (ends : thread = .exited → tasks.stopped = true ∧ tasks.items = [])
    (balance : (tasks.taken : Multiset π) + threads.handled +
        (threads.workers worker).inHand =
      threads.tasks.taken + handled + thread.inHand) :
    Orderly ({ threads with tasks := tasks, handled := handled }.setWorker
      worker thread) where
  atPoint := orderly.atPoint.mono rfl rfl rfl rfl rfl id rfl stopped
    (fun exited => absurd (exited worker) running)
  quiet := orderly.quiet
  drained := orderly.drained
  poolDown := orderly.poolDown
  tasksDown := fun down => orderly.tasksDown (stopped.symm.trans down)
  finished := by
    intro other exited
    by_cases same : other = worker
    · subst same
      rw [setWorker_workers_self] at exited
      exact ends exited
    · rw [setWorker_workers_of_ne _ thread same] at exited
      obtain ⟨down, empty⟩ := orderly.finished other exited
      exact ⟨stopped.trans down, drained empty⟩
  transit := orderly.transit.trans (by rw [← pushed]; rfl)
  hands := by
    have moved := sum_setWorker WorkerThread.inHand
      { threads with tasks := tasks, handled := handled } worker thread
    have before := orderly.hands
    have same : (tasks.taken : Multiset π) +
          (threads.handled + (threads.workers worker).inHand) =
        handled + ∑ other, (({ threads with
            tasks := tasks
            handled := handled }.setWorker worker thread).workers
              other).inHand +
          (threads.handled + (threads.workers worker).inHand) :=
      calc (tasks.taken : Multiset π) +
            (threads.handled + (threads.workers worker).inHand)
        _ = threads.tasks.taken + handled + thread.inHand := by
            rw [← balance, add_assoc]
        _ = handled + threads.handled +
              (∑ other, (threads.workers other).inHand +
                thread.inHand) := by
            rw [before]
            abel
        _ = _ := by
            rw [← moved]
            abel
    exact add_right_cancel same

theorem Orderly.worker
    (orderly : Orderly threads) {worker : ω}
    (stepped : threads.workerStep worker = .ok next) :
    Orderly next := by
  unfold workerStep at stepped
  split at stepped
  · rename_i popping
    have running : threads.workers worker ≠ .exited := by
      rw [popping]
      exact nofun
    split at stepped
    · cases stepped
    · rename_i refused
      cases stepped
      apply orderly.setWorker running rfl rfl id
      · exact fun _ => ThreadSafeQueue.pop_refused refused
      · rw [popping]
        rfl
    · rename_i packet rest popped
      cases stepped
      obtain ⟨items, stopped, pushed, taken⟩ :=
        ThreadSafeQueue.pop_item popped
      apply orderly.setWorker running stopped pushed
      · intro empty
        rw [items] at empty
        cases empty
      · exact nofun
      · rw [popping, taken, ← Multiset.coe_add]
        simp only [WorkerThread.inHand, Multiset.coe_singleton]
        abel
  · rename_i packet calling
    have running : threads.workers worker ≠ .exited := by
      rw [calling]
      exact nofun
    cases stepped
    apply orderly.setWorker running rfl rfl id
    · exact nofun
    · rw [calling, ← Multiset.coe_add]
      simp only [WorkerThread.inHand, Multiset.coe_singleton]
      abel
  · rename_i handling
    have running : threads.workers worker ≠ .exited := by
      rw [handling]
      exact nofun
    cases stepped
    apply orderly.setWorker running rfl rfl id
    · exact nofun
    · rw [handling]
      rfl
  · cases stepped

theorem Orderly.step
    {event : ThreadEvent ω π} {output : Unit}
    (stepped : threads.step event = .ok (output, next))
    (orderly : Orderly threads) : Orderly next := by
  have advanced : threads.advance event = .ok next := by
    unfold ProxyThreads.step at stepped
    cases result : threads.advance event with
    | error refused =>
        rw [result] at stepped
        cases stepped
    | ok next' =>
        rw [result] at stepped
        cases stepped
        rfl
  cases event with
  | push transport packet => exact orderly.push advanced
  | dispatcher => exact orderly.dispatcher advanced
  | worker worker => exact orderly.worker advanced
  | stopper => exact orderly.stopper advanced

end Steps

/-! ## The shutdown ends -/

/-- A bound on the steps of the dispatcher apart from new packets. -/
def dispatcherWeight : DispatcherThread π → Nat
  | .popping => 1
  | .enqueuing _ => 6
  | .pushing _ => 5
  | .exited => 0

/-- A bound on the steps of a worker apart from new tasks. -/
def workerWeight : WorkerThread π → Nat
  | .popping => 1
  | .calling _ => 3
  | .handling => 2
  | .exited => 0

/-- The statements of `stop` that are left. -/
def stopperWeight : StopPoint → Nat
  | .checkRunning => 10
  | .clearRunning => 9
  | .stopUdp => 8
  | .stopTcp => 7
  | .clearDispatcherRunning => 6
  | .stopPackets => 5
  | .joinDispatcher => 4
  | .clearPoolRunning => 3
  | .stopTasks => 2
  | .joinWorkers => 1
  | .returned => 0

/-- A bound on the steps of all threads if nothing more is pushed. -/
def weight [Fintype ω] (threads : ProxyThreads ω π) : Nat :=
  6 * threads.packets.items.length + dispatcherWeight threads.dispatcher +
    3 * threads.tasks.items.length +
    ∑ worker, workerWeight (threads.workers worker) +
    stopperWeight threads.stopper

section Termination

variable [Fintype ω] {threads next : ProxyThreads ω π}

theorem weight_dispatcher
    (stepped : threads.dispatcherStep = .ok next) :
    next.weight < threads.weight := by
  unfold dispatcherStep at stepped
  split at stepped
  · rename_i popping
    split at stepped
    · cases stepped
    · cases stepped
      simp only [weight, popping, dispatcherWeight]
      omega
    · rename_i packet rest popped
      cases stepped
      have items := (ThreadSafeQueue.pop_item popped).1
      simp only [weight, popping, items, dispatcherWeight, List.length_cons]
      omega
  · rename_i packet enqueuing
    split_ifs at stepped
    · cases stepped
      simp only [weight, enqueuing, dispatcherWeight]
      omega
    · cases stepped
      simp only [weight, enqueuing, dispatcherWeight]
      omega
  · rename_i packet pushing
    cases stepped
    simp only [weight, pushing, dispatcherWeight, ThreadSafeQueue.push,
      List.length_append, List.length_singleton]
    omega
  · cases stepped

theorem weight_stopper
    (stepped : threads.stopperStep = .ok next) :
    next.weight < threads.weight := by
  unfold stopperStep at stepped
  split at stepped <;> rename_i point
  case h_1 | h_7 | h_10 =>
    split_ifs at stepped <;> cases stepped <;>
      simp only [weight, point, stopperWeight] <;> omega
  case h_11 => cases stepped
  all_goals
    cases stepped
    simp only [weight, point, stopperWeight, ThreadSafeQueue.stop]
    omega

variable [DecidableEq ω]

/-- A worker's step gets lighter if queue and worker together do. -/
theorem weight_setWorker
    {worker : ω} {thread : WorkerThread π}
    (tasks : ThreadSafeQueue π) (handled : List π)
    (lighter : 3 * tasks.items.length + workerWeight thread <
      3 * threads.tasks.items.length +
        workerWeight (threads.workers worker)) :
    weight ({ threads with tasks := tasks, handled := handled }.setWorker
      worker thread) < threads.weight := by
  have moved := sum_setWorker workerWeight
    { threads with tasks := tasks, handled := handled } worker thread
  unfold weight
  simp only [setWorker] at moved ⊢
  omega

theorem weight_worker
    {worker : ω} (stepped : threads.workerStep worker = .ok next) :
    next.weight < threads.weight := by
  unfold workerStep at stepped
  split at stepped
  · rename_i popping
    split at stepped
    · cases stepped
    · cases stepped
      apply weight_setWorker threads.tasks threads.handled
      rw [popping]
      exact Nat.lt_succ_self _
    · rename_i packet rest popped
      cases stepped
      have items := (ThreadSafeQueue.pop_item popped).1
      apply weight_setWorker rest threads.handled
      rw [popping, items, List.length_cons]
      simp only [workerWeight]
      omega
  · rename_i packet calling
    cases stepped
    apply weight_setWorker threads.tasks (threads.handled ++ [packet])
    rw [calling]
    exact Nat.lt_succ_self _
  · rename_i handling
    cases stepped
    apply weight_setWorker threads.tasks threads.handled
    rw [handling]
    exact Nat.lt_succ_self _
  · cases stepped

/-- Every step of a thread other than a transport makes the rest shorter. -/
theorem weight_step
    {event : ThreadEvent ω π}
    (inside : ∀ transport packet, event ≠ .push transport packet)
    (advanced : threads.advance event = .ok next) :
    next.weight < threads.weight := by
  cases event with
  | push transport packet => exact absurd rfl (inside transport packet)
  | dispatcher => exact weight_dispatcher advanced
  | worker worker => exact weight_worker advanced
  | stopper => exact weight_stopper advanced

/--
Until `stop` has returned, some thread other than a transport can go on: a
`join` waits for threads whose queue is stopped.
-/
theorem Orderly.not_stuck
    (orderly : Orderly threads) (waiting : threads.stopper ≠ .returned) :
    (∃ next, threads.dispatcherStep = .ok next) ∨
      (∃ worker next, threads.workerStep worker = .ok next) ∨
      ∃ next, threads.stopperStep = .ok next := by
  have reached := orderly.atPoint
  unfold AtPoint at reached
  unfold stopperStep
  cases point : threads.stopper with
  | checkRunning =>
      rw [point] at reached
      exact Or.inr (Or.inr ⟨_, if_pos reached⟩)
  | joinDispatcher =>
      rw [point] at reached
      by_cases exited : threads.dispatcherExited = true
      · exact Or.inr (Or.inr ⟨_, if_pos exited⟩)
      · apply Or.inl
        apply dispatcherStep_isOk _ reached
        intro ended
        exact exited (by rw [dispatcherExited, ended])
  | joinWorkers =>
      rw [point] at reached
      by_cases exited : ∀ worker, threads.workerExited worker = true
      · exact Or.inr (Or.inr ⟨_, if_pos exited⟩)
      · rw [not_forall] at exited
        obtain ⟨worker, running⟩ := exited
        refine Or.inr (Or.inl ⟨worker, workerStep_isOk ?_ reached⟩)
        intro ended
        exact running (by rw [workerExited, ended])
  | returned => exact absurd point waiting
  | _ => exact Or.inr (Or.inr ⟨_, rfl⟩)

theorem step_of_advance
    {event : ThreadEvent ω π} (advanced : threads.advance event = .ok next) :
    threads.step event = .ok ((), next) := by
  rw [step, advanced]
  rfl

/-- The threads can always go on until `stop` has returned. -/
theorem Orderly.can_return (orderly : Orderly threads) :
    ∃ events history final,
      run ProxyThreads.step threads events = .ok (history, final) ∧
      final.stopper = .returned := by
  induction bound : threads.weight using Nat.strong_induction_on
    generalizing threads with
  | _ total ih =>
      by_cases returned : threads.stopper = .returned
      · exact ⟨[], [], threads, rfl, returned⟩
      · have goes : ∃ event next,
            (∀ transport packet, event ≠ .push transport packet) ∧
              threads.advance event = .ok next := by
          rcases orderly.not_stuck returned with
            ⟨next, advanced⟩ | ⟨worker, next, advanced⟩ | ⟨next, advanced⟩
          · exact ⟨.dispatcher, next, nofun, advanced⟩
          · exact ⟨.worker worker, next, nofun, advanced⟩
          · exact ⟨.stopper, next, nofun, advanced⟩
        obtain ⟨event, next, inside, advanced⟩ := goes
        have lighter := weight_step inside advanced
        have stepped := step_of_advance advanced
        obtain ⟨events, history, final, ran, returned⟩ :=
          ih next.weight (bound ▸ lighter) (Orderly.step stepped orderly) rfl
        exact ⟨event :: events, _, final,
          run_cons_ok_iff.mpr ⟨(), next, history, stepped, ran, rfl⟩,
          returned⟩

end Termination

/-! ## The shutdown loses nothing -/

variable [Fintype ω]

/-- What holds when `stop` has returned. -/
structure AllHandled (threads : ProxyThreads ω π) : Prop where
  handled : (threads.handled).Perm threads.packets.pushed
  packets : threads.packets.taken = threads.packets.pushed
  tasks : threads.tasks.taken = threads.packets.pushed

/-- With everybody gone, both queues are empty and no packet is on its way. -/
theorem Orderly.allHandled
    [Nonempty ω] {threads : ProxyThreads ω π}
    (orderly : Orderly threads) (returned : threads.stopper = .returned) :
    AllHandled threads := by
  have exited : ∀ worker, threads.workers worker = .exited := by
    have reached := orderly.atPoint
    rwa [AtPoint, returned] at reached
  obtain ⟨stopped, noTasks⟩ :=
    orderly.finished (Classical.arbitrary ω) (exited _)
  have ended := orderly.poolDown (orderly.tasksDown stopped)
  have packets := ThreadSafeQueue.taken_eq_pushed (orderly.drained ended).2
  have tasks := ThreadSafeQueue.taken_eq_pushed noTasks
  have moved : threads.packets.taken = threads.tasks.pushed := by
    rw [orderly.transit, ended]
    exact List.append_nil _
  have nobody : ∑ worker, (threads.workers worker).inHand = 0 := by
    apply Finset.sum_eq_zero
    intro worker _
    rw [exited worker]
    rfl
  have hands := orderly.hands
  rw [nobody, add_zero, tasks, ← moved, packets, Multiset.coe_eq_coe] at hands
  exact ⟨hands.symm, packets, tasks.trans (moved.symm.trans packets)⟩

variable [DecidableEq ω]

/--
Graceful shutdown.  In every interleaving of the transports, the dispatcher,
at least one worker and `stop`, packets are taken from either queue in the
order in which they were pushed; and when `stop` has returned, every pushed
packet has been passed to the handler exactly once.
-/
theorem shutdown_handles_all
    [Nonempty ω] {tcpEnabled : Bool} {threads : ProxyThreads ω π}
    (reachable : Reachable step (started tcpEnabled) threads) :
    threads.packets.taken <+: threads.packets.pushed ∧
    threads.tasks.taken <+: threads.tasks.pushed ∧
    threads.tasks.pushed <+: threads.packets.pushed ∧
    (threads.stopper = .returned → AllHandled threads) := by
  have orderly : Orderly threads :=
    reachable.invariant Orderly.step (Orderly.started tcpEnabled)
  have packets := threads.packets.taken_starts_pushed
  refine ⟨packets, threads.tasks.taken_starts_pushed, ?_,
    orderly.allHandled⟩
  apply List.IsPrefix.trans _ packets
  rw [orderly.transit]
  exact List.prefix_append _ _

/-! Two packets, two workers, and a shutdown with both packets on their way. -/

/-- The second packet is handled first. -/
def busyShutdown : List (ThreadEvent Bool Nat) :=
  [.push .udp 1, .push .tcp 2, .dispatcher] ++
    List.replicate 6 .stopper ++
    [.dispatcher, .dispatcher, .worker false, .dispatcher, .dispatcher,
      .dispatcher, .dispatcher, .stopper, .stopper, .stopper, .worker true,
      .worker true, .worker false, .worker true, .worker true,
      .worker false, .worker false, .stopper]

theorem shutdown_handles_all_busy :
    ∃ threads : ProxyThreads Bool Nat,
      Reachable step (started true) threads ∧
      threads.stopper = .returned ∧ threads.handled = [2, 1] ∧
      AllHandled threads := by
  have tested : succeedsWith
      (run step (started true : ProxyThreads Bool Nat) busyShutdown)
      (fun value => decide (value.2.stopper = .returned ∧
        value.2.handled = [2, 1])) = true := by
    decide
  obtain ⟨⟨history, threads⟩, ran, found⟩ := exists_of_succeedsWith tested
  obtain ⟨returned, handled⟩ := of_decide_eq_true found
  have reachable : Reachable step (started true) threads := ⟨_, _, ran⟩
  exact ⟨threads, reachable, returned, handled,
    (shutdown_handles_all reachable).2.2.2 returned⟩

end ProxyThreads

end MinimalSip.Networking

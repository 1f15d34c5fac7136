import MinimalSip.Networking.Shutdown
import MinimalSip.Proxy.Registration

/-!
# The metrics server

One thread accepts a connection, reads once from it, answers with the counters
whatever was read, and closes it.  `stop` clears the flag and joins the thread.
Nothing wakes a thread that waits in `accept` or in `recv`, so `stop`, which
runs at the end of `main`, waits for one more connection.

An event is the next atomic step of one thread or the return of a blocking
call.  The four counters are loaded one by one while the workers go on, so the
values on a page are an input.
-/

namespace MinimalSip.Proxy

open MinimalSip.Lib.Cpp
open MinimalSip.Lib.Machine
open MinimalSip.Networking (Blocked)

namespace MetricsCollector

def dashes : CppString :=
  List.replicate 38 '-' ++ "\n".toList

/-- One counter on the page. -/
def counterText (name : CppString) (value : Int) : CppString :=
  dashes ++ name ++ ": ".toList ++ stdToString value ++ "\n".toList

def toString (metrics : MetricsCollector) : CppString :=
  counterText "SIP_messages_received" metrics.messagesReceived ++
    counterText "SIP_messages_sent" metrics.messagesSent ++
    counterText "SIP_active_calls" metrics.activeCalls ++
    counterText "SIP_registered_users" metrics.registeredUsers

end MetricsCollector

/-! ## The threads -/

/-- `server_loop`; the descriptor is that of the connection in hand. -/
inductive ServerThread where
  | opening
  | checking
  | accepting
  | receiving (clientFd : Nat)
  | sending (clientFd : Nat)
  | closing (clientFd : Nat)
  | exited

inductive ServerStop where
  | notCalled
  | joining
  | returned
deriving DecidableEq

structure MetricsServer where
  running : Bool
  thread : ServerThread
  stopper : ServerStop

inductive MetricsEvent where
  | opens (succeeds : Bool)
  | checks
  | accepts (result : Option Nat)
  | receives
  | sends (metrics : MetricsCollector)
  | closes
  | clearsRunning
  | joins

/-- What a step does to a connection. -/
inductive MetricsEffect where
  | none
  | accepted (clientFd : Nat)
  | sent (clientFd : Nat) (response : CppString)
  | closed (clientFd : Nat)

namespace MetricsServer

/-- The server right after `start`. -/
def started : MetricsServer where
  running := true
  thread := .opening
  stopper := .notCalled

def response (metrics : MetricsCollector) : CppString :=
  let body := metrics.toString
  "HTTP/1.1 200 OK\r\n".toList ++
    "Content-Type: text/plain\r\n".toList ++
    "Content-Length: ".toList ++ stdToString body.length ++ "\r\n".toList ++
    "\r\n".toList ++ body

/-- `clearsRunning` and `joins` are the statements of `stop`. -/
def step (server : MetricsServer) (event : MetricsEvent) :
    Except Blocked (MetricsEffect × MetricsServer) :=
  match event, server.thread with
  | .opens succeeds, .opening =>
      if succeeds then .ok (.none, { server with thread := .checking })
      else .ok (.none, { server with thread := .exited })
  | .checks, .checking =>
      if server.running then .ok (.none, { server with thread := .accepting })
      else .ok (.none, { server with thread := .exited })
  | .accepts result, .accepting =>
      match result with
      | none => .ok (.none, { server with thread := .checking })
      | some clientFd =>
          .ok (.accepted clientFd,
            { server with thread := .receiving clientFd })
  | .receives, .receiving clientFd =>
      .ok (.none, { server with thread := .sending clientFd })
  | .sends metrics, .sending clientFd =>
      .ok (.sent clientFd (response metrics),
        { server with thread := .closing clientFd })
  | .closes, .closing clientFd =>
      .ok (.closed clientFd, { server with thread := .checking })
  | .clearsRunning, _ =>
      if server.stopper = .notCalled then
        .ok (.none, { server with running := false, stopper := .joining })
      else .error .blocked
  | .joins, .exited =>
      if server.stopper = .joining then
        .ok (.none, { server with stopper := .returned })
      else .error .blocked
  | _, _ => .error .blocked

/-! ## What one step can do -/

/-- One step of the server thread. -/
inductive Round (running : Bool) :
    ServerThread → MetricsEvent → MetricsEffect → ServerThread → Prop where
  | opened : Round running .opening (.opens true) .none .checking
  | failed : Round running .opening (.opens false) .none .exited
  | goesOn (on : running = true) :
      Round running .checking .checks .none .accepting
  | leaves (off : running = false) :
      Round running .checking .checks .none .exited
  | refused : Round running .accepting (.accepts none) .none .checking
  | accepted (clientFd : Nat) :
      Round running .accepting (.accepts (some clientFd)) (.accepted clientFd)
        (.receiving clientFd)
  | received (clientFd : Nat) :
      Round running (.receiving clientFd) .receives .none (.sending clientFd)
  | sent (clientFd : Nat) (metrics : MetricsCollector) :
      Round running (.sending clientFd) (.sends metrics)
        (.sent clientFd (response metrics)) (.closing clientFd)
  | closed (clientFd : Nat) :
      Round running (.closing clientFd) .closes (.closed clientFd) .checking

/-- One step of either thread. -/
inductive Moves (server : MetricsServer) :
    MetricsEvent → MetricsEffect → MetricsServer → Prop where
  | serves {event : MetricsEvent} {effect : MetricsEffect}
      {thread : ServerThread}
      (round : Round server.running server.thread event effect thread) :
      Moves server event effect { server with thread := thread }
  | clears (first : server.stopper = .notCalled) :
      Moves server .clearsRunning .none
        { server with running := false, stopper := .joining }
  | joined (finished : server.thread = .exited)
      (waiting : server.stopper = .joining) :
      Moves server .joins .none { server with stopper := .returned }

variable {server next : MetricsServer} {event : MetricsEvent}
variable {effect : MetricsEffect}

theorem moves_of_step
    (stepped : step server event = .ok (effect, next)) :
    Moves server event effect next := by
  obtain ⟨running, thread, stopper⟩ := server
  cases event with
  | opens succeeds =>
      cases thread with
      | opening =>
          cases succeeds with
          | true =>
              cases stepped
              exact .serves .opened
          | false =>
              cases stepped
              exact .serves .failed
      | _ => cases stepped
  | checks =>
      cases thread with
      | checking =>
          cases running with
          | true =>
              cases stepped
              exact .serves (.goesOn rfl)
          | false =>
              cases stepped
              exact .serves (.leaves rfl)
      | _ => cases stepped
  | accepts result =>
      cases thread with
      | accepting =>
          cases result with
          | none =>
              cases stepped
              exact .serves .refused
          | some clientFd =>
              cases stepped
              exact .serves (.accepted clientFd)
      | _ => cases stepped
  | receives =>
      cases thread with
      | receiving clientFd =>
          cases stepped
          exact .serves (.received clientFd)
      | _ => cases stepped
  | sends metrics =>
      cases thread with
      | sending clientFd =>
          cases stepped
          exact .serves (.sent clientFd metrics)
      | _ => cases stepped
  | closes =>
      cases thread with
      | closing clientFd =>
          cases stepped
          exact .serves (.closed clientFd)
      | _ => cases stepped
  | clearsRunning =>
      cases stopper with
      | notCalled =>
          cases stepped
          exact .clears rfl
      | _ => cases stepped
  | joins =>
      cases thread with
      | exited =>
          cases stopper with
          | joining =>
              cases stepped
              exact .joined rfl rfl
          | _ => cases stepped
      | _ => cases stepped

/-! ## How `stop` ends -/

/-- What `stop` has done so far. -/
structure Sound (server : MetricsServer) : Prop where
  flag : server.stopper ≠ .notCalled → server.running = false
  finished : server.stopper = .returned → server.thread = .exited

theorem Sound.moves
    (moves : Moves server event effect next) (sound : Sound server) :
    Sound next := by
  cases moves with
  | serves round =>
      constructor
      · exact sound.flag
      · intro returned
        rw [sound.finished returned] at round
        cases round
  | clears first =>
      constructor
      · exact fun _ => rfl
      · intro returned
        cases returned
  | joined finished waiting =>
      constructor
      · intro _
        apply sound.flag
        rw [waiting]
        exact ServerStop.noConfusion
      · exact fun _ => finished

theorem sound_started : Sound started where
  flag := fun called => absurd rfl called
  finished := by
    intro returned
    cases returned

theorem Sound.of_reachable
    (reachable : Reachable step started server) : Sound server :=
  reachable.invariant
    (fun stepped sound => sound.moves (moves_of_step stepped)) sound_started

/-- How many steps the thread takes at most once the flag is cleared. -/
def threadWeight : ServerThread → Nat
  | .exited => 0
  | .checking => 1
  | .opening | .closing _ => 2
  | .sending _ => 3
  | .receiving _ => 4
  | .accepting => 5

def stopWeight : ServerStop → Nat
  | .returned => 0
  | .joining => 1
  | .notCalled => 2

def weight (server : MetricsServer) : Nat :=
  threadWeight server.thread + stopWeight server.stopper

theorem Round.weight_lt
    {running : Bool} {thread after : ServerThread}
    (round : Round running thread event effect after)
    (off : running = false) : threadWeight after < threadWeight thread := by
  cases round with
  | goesOn on =>
      rw [off] at on
      cases on
  | _ => simp [threadWeight]

theorem weight_lt
    (moves : Moves server event effect next) (off : server.running = false) :
    next.running = false ∧ next.weight < server.weight := by
  cases moves with
  | serves round => exact ⟨off, Nat.add_lt_add_right (round.weight_lt off) _⟩
  | clears first =>
      refine ⟨rfl, Nat.add_lt_add_left ?_ _⟩
      rw [first]
      exact Nat.lt_succ_self 1
  | joined finished waiting =>
      refine ⟨off, Nat.add_lt_add_left ?_ _⟩
      rw [waiting]
      exact Nat.lt_succ_self 0

/-- A connection is accepted. -/
def isConnection : MetricsEvent → Bool
  | .accepts (some _) => true
  | _ => false

/-- The thread waits in a blocking call. -/
def isWaiting : ServerThread → Bool
  | .accepting | .receiving _ => true
  | _ => false

/-- The return of the call in which the thread waits. -/
def isReturn : ServerThread → MetricsEvent → Bool
  | .accepting, .accepts _ => true
  | .receiving _, .receives => true
  | _, _ => false

/-- Nothing but the return of the call gets the thread on. -/
theorem thread_eq_of_waiting
    (moves : Moves server event effect next)
    (waiting : isWaiting server.thread = true)
    (other : isReturn server.thread event = false) :
    next.thread = server.thread := by
  obtain ⟨running, thread, stopper⟩ := server
  cases moves with
  | serves round =>
      cases round with
      | refused => cases other
      | accepted clientFd => cases other
      | received clientFd => cases other
      | _ => cases waiting
  | clears first => rfl
  | joined finished joining => rfl

/-- Until `stop` has returned, some step is possible. -/
theorem exists_step
    (going : server.stopper ≠ .returned) :
    ∃ event result, step server event = .ok result := by
  obtain ⟨running, thread, stopper⟩ := server
  cases thread with
  | opening => exact ⟨.opens false, _, rfl⟩
  | checking =>
      cases running with
      | true => exact ⟨.checks, _, rfl⟩
      | false => exact ⟨.checks, _, rfl⟩
  | accepting => exact ⟨.accepts none, _, rfl⟩
  | receiving clientFd => exact ⟨.receives, _, rfl⟩
  | sending clientFd => exact ⟨.sends {}, _, rfl⟩
  | closing clientFd => exact ⟨.closes, _, rfl⟩
  | exited =>
      cases stopper with
      | notCalled => exact ⟨.clearsRunning, _, rfl⟩
      | joining => exact ⟨.joins, _, rfl⟩
      | returned => exact absurd rfl going

/-- What is left to happen once the flag is cleared. -/
structure Ends (server : MetricsServer) : Prop where
  goesOn : server.stopper ≠ .returned →
    ∃ event result, step server event = .ok result
  bounded : ∀ {events history final},
    run step server events = .ok (history, final) → events.length ≤ 6
  connections : ∀ {events history final},
    run step server events = .ok (history, final) →
      events.countP isConnection ≤ 1
  waits : ∀ {events history final},
    run step server events = .ok (history, final) →
      final.stopper = .returned → isWaiting server.thread = true →
        ∃ event ∈ events, isReturn server.thread event = true

theorem length_le
    {events : List MetricsEvent}
    {history : List (MetricsEvent × MetricsEffect)} {final : MetricsServer}
    (off : server.running = false)
    (ran : run step server events = .ok (history, final)) :
    events.length ≤ server.weight := by
  have spent : ∀ {budget server event effect next},
      step server event = .ok (effect, next) → True →
        server.running = false ∧ server.weight ≤ budget →
          ∃ left, (next.running = false ∧ next.weight ≤ left) ∧
            left + (if true then 1 else 0) ≤ budget := by
    intro budget server event effect next stepped _ enough
    obtain ⟨still, fewer⟩ := weight_lt (moves_of_step stepped) enough.1
    exact ⟨next.weight, ⟨still, le_rfl⟩, fewer.trans_le enough.2⟩
  have bound := run_countP_le spent ran
    (along_of_forall (fun _ _ => trivial) server events) ⟨off, le_rfl⟩
  rwa [List.countP_true] at bound

/-- With the flag cleared, only a thread inside `accept` takes one more. -/
def mayAccept : ServerThread → Nat
  | .accepting => 1
  | _ => 0

theorem Round.mayAccept
    {running : Bool} {thread after : ServerThread}
    (round : Round running thread event effect after)
    (off : running = false) :
    mayAccept after + (if isConnection event then 1 else 0) ≤
      MetricsServer.mayAccept thread := by
  cases round with
  | goesOn on =>
      rw [off] at on
      cases on
  | _ => simp [MetricsServer.mayAccept, isConnection]

theorem mayAccept_moves
    (moves : Moves server event effect next) (off : server.running = false) :
    mayAccept next.thread + (if isConnection event then 1 else 0) ≤
      mayAccept server.thread := by
  cases moves with
  | serves round => exact round.mayAccept off
  | clears first => exact le_rfl
  | joined finished waiting => exact le_rfl

theorem countP_isConnection_le
    {events : List MetricsEvent}
    {history : List (MetricsEvent × MetricsEffect)} {final : MetricsServer}
    (off : server.running = false)
    (ran : run step server events = .ok (history, final)) :
    events.countP isConnection ≤ mayAccept server.thread := by
  have spent : ∀ {budget server event effect next},
      step server event = .ok (effect, next) → True →
        server.running = false ∧ mayAccept server.thread ≤ budget →
          ∃ left, (next.running = false ∧ mayAccept next.thread ≤ left) ∧
            left + (if isConnection event then 1 else 0) ≤ budget := by
    intro budget server event effect next stepped _ enough
    have moves := moves_of_step stepped
    exact ⟨mayAccept next.thread, ⟨(weight_lt moves enough.1).1, le_rfl⟩,
      (mayAccept_moves moves enough.1).trans enough.2⟩
  exact run_countP_le spent ran
    (along_of_forall (fun _ _ => trivial) server events) ⟨off, le_rfl⟩

theorem weight_le
    (server : MetricsServer) (called : server.stopper ≠ .notCalled) :
    server.weight ≤ 6 := by
  obtain ⟨running, thread, stopper⟩ := server
  cases stopper with
  | notCalled => exact absurd rfl called
  | _ => cases thread <;> simp [weight, threadWeight, stopWeight]

/--
How `stop` of the metrics server ends.  From every reachable state in which it
has cleared the flag, at most six more steps are taken and at most one more
connection is accepted; but if the thread waits in `accept` or `recv`, `stop`
returns only in runs in which that call does.
-/
theorem stop_ends
    (reachable : Reachable step started server)
    (called : server.stopper ≠ .notCalled) : Ends server := by
  have sound := Sound.of_reachable reachable
  have off := sound.flag called
  constructor
  case goesOn => exact exists_step
  case bounded =>
    intro events history final ran
    have spent := length_le off ran
    have most := weight_le server called
    omega
  case connections =>
    intro events history final ran
    have few := countP_isConnection_le off ran
    have most : mayAccept server.thread ≤ 1 := by
      cases server.thread <;> simp [mayAccept]
    exact few.trans most
  case waits =>
    intro events history final ran returned waiting
    by_contra never
    have silent : ∀ event ∈ events, isReturn server.thread event = false := by
      intro event member
      rw [← Bool.not_eq_true]
      exact fun returns => never ⟨event, member, returns⟩
    have stays : final.thread = server.thread :=
      run_invariant_on
        (fun stepped quiet (same : _ = server.thread) => by
          rw [← same] at quiet waiting ⊢
          exact thread_eq_of_waiting (moves_of_step stepped) waiting quiet)
        ran silent rfl
    have ended : Sound final :=
      run_invariant (fun stepped sound => sound.moves (moves_of_step stepped))
        ran sound
    rw [← stays, ended.finished returned] at waiting
    cases waiting

/-- The flag is cleared while the thread waits for a connection. -/
def stoppedInAccept : MetricsServer where
  running := false
  thread := .accepting
  stopper := .joining

theorem stop_ends_accept :
    Ends stoppedInAccept ∧ isWaiting stoppedInAccept.thread = true :=
  ⟨stop_ends ⟨[.opens true, .checks, .clearsRunning], _, rfl⟩ (by decide),
    rfl⟩

/-! ## The connections -/

def acceptedFd : MetricsEffect → List Nat
  | .accepted clientFd => [clientFd]
  | _ => []

def answeredFd : MetricsEffect → List Nat
  | .sent clientFd _ => [clientFd]
  | _ => []

def closedFd : MetricsEffect → List Nat
  | .closed clientFd => [clientFd]
  | _ => []

/-- The connection that waits for its response. -/
def unanswered : ServerThread → List Nat
  | .receiving clientFd | .sending clientFd => [clientFd]
  | _ => []

/-- The connection that has been answered and not yet closed. -/
def unclosed : ServerThread → List Nat
  | .closing clientFd => [clientFd]
  | _ => []

theorem Round.answers
    {running : Bool} {thread after : ServerThread}
    (round : Round running thread event effect after) :
    unanswered thread ++ acceptedFd effect =
      answeredFd effect ++ unanswered after := by
  cases round <;> rfl

theorem Round.closes
    {running : Bool} {thread after : ServerThread}
    (round : Round running thread event effect after) :
    unclosed thread ++ answeredFd effect =
      closedFd effect ++ unclosed after := by
  cases round <;> rfl

/-- Descriptors of a kind, in the order of a history. -/
def descriptors (kind : MetricsEffect → List Nat)
    (history : List (MetricsEvent × MetricsEffect)) : List Nat :=
  history.flatMap (fun entry => kind entry.2)

theorem descriptors_snoc
    (kind : MetricsEffect → List Nat)
    (history : List (MetricsEvent × MetricsEffect)) :
    descriptors kind (history ++ [(event, effect)]) =
      descriptors kind history ++ kind effect := by
  simp [descriptors]

/-- Every connection is answered, and then closed, in the order of arrival. -/
structure Accounted (history : List (MetricsEvent × MetricsEffect))
    (server : MetricsServer) : Prop where
  answers : descriptors acceptedFd history =
    descriptors answeredFd history ++ unanswered server.thread
  closes : descriptors answeredFd history =
    descriptors closedFd history ++ unclosed server.thread

theorem Accounted.moves
    {past : List (MetricsEvent × MetricsEffect)}
    (moves : Moves server event effect next)
    (accounted : Accounted past server) :
    Accounted (past ++ [(event, effect)]) next := by
  constructor
  case answers =>
    rw [descriptors_snoc, descriptors_snoc, accounted.answers]
    cases moves with
    | serves round => rw [List.append_assoc, List.append_assoc, round.answers]
    | clears first => simp [acceptedFd, answeredFd]
    | joined finished waiting => simp [acceptedFd, answeredFd]
  case closes =>
    rw [descriptors_snoc, descriptors_snoc, accounted.closes]
    cases moves with
    | serves round => rw [List.append_assoc, List.append_assoc, round.closes]
    | clears first => simp [answeredFd, closedFd]
    | joined finished waiting => simp [answeredFd, closedFd]

/--
Over every run, the metrics server has sent one response to each connection it
has accepted, in their order, but for the one in its hand, and has closed each
that it has answered, but for the one in its hand; once `stop` has returned,
all of them.
-/
theorem connections_accounted
    {events : List MetricsEvent}
    {history : List (MetricsEvent × MetricsEffect)}
    (ran : run step started events = .ok (history, server)) :
    Accounted history server ∧
      (server.stopper = .returned →
        descriptors closedFd history = descriptors acceptedFd history) := by
  have accounted : Accounted ([] ++ history) server :=
    run_history_invariant
      (fun stepped accounted => accounted.moves (moves_of_step stepped))
      ran ⟨rfl, rfl⟩
  refine ⟨accounted, ?_⟩
  intro returned
  have finished := (Sound.of_reachable ⟨events, history, ran⟩).finished returned
  obtain ⟨answers, closes⟩ := accounted
  rw [List.nil_append, finished] at answers closes
  rw [answers, closes]
  simp [unanswered, unclosed]

end MetricsServer

end MinimalSip.Proxy

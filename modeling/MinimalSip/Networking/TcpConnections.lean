import MinimalSip.Networking.Shutdown
import MinimalSip.Proxy.CallSession

/-!
# The threads of a TCP transport in server mode

The accept thread inserts each connection into `connections_` and starts a
receive loop for it; each loop, once its stream has ended, erases its key and
closes its descriptor; `stop` runs beside them.  An event is the next atomic
step of one thread, the outcome of a blocking call, or the end of a stream.

Two things are said about the kernel.  `accept` returns a descriptor that is
not open, and a connection from a peer whose last one is over: the peer has
ended it, or the descriptor is closed.
-/

namespace MinimalSip.Networking.TcpTransport

open MinimalSip.Lib.Cpp
open MinimalSip.Lib.Machine
open MinimalSip.Common
open MinimalSip.Proxy (TextMap)

/-! ## The threads -/

/-- `receiveLoop` of one connection. -/
inductive ReceiveThread where
  | notStarted
  | checking
  | receiving
  | leaving
  | exited
deriving DecidableEq

/-- A connection that `accept` has returned. -/
structure Connection where
  ip : CppString
  port : UInt16
  descriptor : Nat
  ended : Bool := false
  thread : ReceiveThread := .notStarted
deriving DecidableEq

/--
`acceptLoop`, with the connection that it has in hand: an index into the list
of accepted connections, or none if `accept` has failed.
-/
inductive AcceptThread where
  | checking
  | accepting
  | returned (connection : Option Nat)
  | inserting (connection : Nat)
  | spawning (connection : Nat)
  | exited (connection : Option Nat)
deriving DecidableEq

/-- The statements of `stop` in order. -/
inductive ServerStop where
  | checkRunning
  | clearRunning
  | shutdownListener
  | joinAcceptor
  | closeConnections
  | joinReceivers
  | returned
deriving DecidableEq

structure ServerThreads where
  running : Bool
  listening : Bool
  acceptor : AcceptThread
  stopper : ServerStop
  accepted : List Connection
  connections : TextMap Nat
  closedByLoops : Multiset Nat
  closedByStop : Multiset Nat

inductive ServerEvent where
  | acceptor
  | accept (connection : Option Connection)
  | ends (connection : Nat)
  | receives (connection : Nat)
  | receiver (connection : Nat)
  | stopper
deriving DecidableEq

def connectionKey (ip : CppString) (port : UInt16) : CppString :=
  ip ++ ":".toList ++ stdToString port.toNat

def Connection.key (connection : Connection) : CppString :=
  connectionKey connection.ip connection.port

/-- The peer has not ended the stream and the descriptor is not closed. -/
def Connection.Live (connection : Connection) : Prop :=
  connection.ended = false ∧ connection.thread ≠ .exited

instance : DecidablePred Connection.Live := fun connection =>
  inferInstanceAs (Decidable
    (connection.ended = false ∧ connection.thread ≠ .exited))

namespace ServerThreads

/-- After `start`. -/
def started : ServerThreads where
  running := true
  listening := true
  acceptor := .checking
  stopper := .checkRunning
  accepted := []
  connections := ∅
  closedByLoops := 0
  closedByStop := 0

/-- The descriptors that `accept` has returned. -/
def acceptedDescriptors (threads : ServerThreads) : Multiset Nat :=
  (threads.accepted.map Connection.descriptor : List Nat)

/-- The descriptors passed to `closeClient`. -/
def closed (threads : ServerThreads) : Multiset Nat :=
  threads.closedByLoops + threads.closedByStop

/-- A descriptor is open after `accept` until it is closed. -/
def IsOpen (threads : ServerThreads) (descriptor : Nat) : Prop :=
  threads.closed.count descriptor <
    threads.acceptedDescriptors.count descriptor

instance (threads : ServerThreads) : DecidablePred threads.IsOpen :=
  fun descriptor => inferInstanceAs (Decidable
    (threads.closed.count descriptor <
      threads.acceptedDescriptors.count descriptor))

/-- What the kernel may return from `accept`. -/
structure Offers (threads : ServerThreads) (connection : Connection) :
    Prop where
  listening : threads.listening = true
  fresh : ¬ threads.IsOpen connection.descriptor
  peer : ∀ other ∈ threads.accepted, other.Live →
    ¬ (other.ip = connection.ip ∧ other.port = connection.port)
  new : connection.ended = false ∧ connection.thread = .notStarted

instance (threads : ServerThreads) (connection : Connection) :
    Decidable (threads.Offers connection) :=
  decidable_of_iff
    (threads.listening = true ∧ ¬ threads.IsOpen connection.descriptor ∧
      (∀ other ∈ threads.accepted, other.Live →
        ¬ (other.ip = connection.ip ∧ other.port = connection.port)) ∧
      (connection.ended = false ∧ connection.thread = .notStarted))
    ⟨fun ⟨listening, fresh, peer, new⟩ => ⟨listening, fresh, peer, new⟩,
      fun ⟨listening, fresh, peer, new⟩ => ⟨listening, fresh, peer, new⟩⟩

def setThread (threads : ServerThreads) (index : Nat)
    (thread : ReceiveThread) : ServerThreads :=
  { threads with
    accepted := threads.accepted.modify index
      (fun connection => { connection with thread := thread }) }

/-- The peer ends its stream. -/
def endStream (threads : ServerThreads) (index : Nat) : ServerThreads :=
  { threads with
    accepted := threads.accepted.modify index
      (fun connection => { connection with ended := true }) }

/-- `connections_[connectionKey(ip, port)] = client_fd` -/
def insertConnection (threads : ServerThreads) (connection : Connection) :
    ServerThreads :=
  { threads with
    connections :=
      threads.connections.insert connection.key connection.descriptor }

/-- The end of `receiveLoop`, under the lock of the map. -/
def cleanUp (threads : ServerThreads) (connection : Connection) :
    ServerThreads :=
  { threads with
    connections := threads.connections.erase connection.key
    closedByLoops := connection.descriptor ::ₘ threads.closedByLoops }

/-- The descriptors in the map. -/
def mapped (threads : ServerThreads) : Multiset Nat :=
  threads.connections.entries.map Sigma.snd

def acceptorStep (threads : ServerThreads) :
    Except Blocked ServerThreads :=
  match threads.acceptor with
  | .checking =>
      .ok { threads with
        acceptor := if threads.running then .accepting else .exited none }
  | .accepting => .error .blocked
  | .returned connection =>
      if threads.running then
        match connection with
        | none => .ok { threads with acceptor := .checking }
        | some index => .ok { threads with acceptor := .inserting index }
      else .ok { threads with acceptor := .exited connection }
  | .inserting index =>
      match threads.accepted[index]? with
      | some connection =>
          .ok { threads.insertConnection connection with
            acceptor := .spawning index }
      | none => .error .blocked
  | .spawning index =>
      .ok { threads.setThread index .checking with acceptor := .checking }
  | .exited _ => .error .blocked

/-- `accept` returns. -/
def acceptStep (threads : ServerThreads) (connection : Option Connection) :
    Except Blocked ServerThreads :=
  match threads.acceptor, connection with
  | .accepting, none => .ok { threads with acceptor := .returned none }
  | .accepting, some connection =>
      if threads.Offers connection then
        .ok { threads with
          accepted := threads.accepted ++ [connection]
          acceptor := .returned (some threads.accepted.length) }
      else .error .blocked
  | _, _ => .error .blocked

def endsStep (threads : ServerThreads) (index : Nat) :
    Except Blocked ServerThreads :=
  if index < threads.accepted.length then .ok (threads.endStream index)
  else .error .blocked

/-- `recv` returns data, which goes to the callback. -/
def receivesStep (threads : ServerThreads) (index : Nat) :
    Except Blocked ServerThreads :=
  match threads.accepted[index]? with
  | some connection =>
      if connection.thread = .receiving then
        .ok (threads.setThread index .checking)
      else .error .blocked
  | none => .error .blocked

/--
The other steps of a receive loop.  `recv` returns nothing more once the
stream has ended or `stop` has closed the descriptor.
-/
def receiverStep (threads : ServerThreads) (index : Nat) :
    Except Blocked ServerThreads :=
  match threads.accepted[index]? with
  | some connection =>
      match connection.thread with
      | .notStarted => .error .blocked
      | .checking =>
          .ok (threads.setThread index
            (if threads.running then .receiving else .leaving))
      | .receiving =>
          if connection.ended = true ∨
              connection.descriptor ∈ threads.closedByStop then
            .ok (threads.setThread index .leaving)
          else .error .blocked
      | .leaving =>
          .ok ((threads.cleanUp connection).setThread index .exited)
      | .exited => .error .blocked
  | none => .error .blocked

def acceptorExited (threads : ServerThreads) : Bool :=
  match threads.acceptor with
  | .exited _ => true
  | _ => false

/-- The next statement of `stop`. -/
def stopperStep (threads : ServerThreads) :
    Except Blocked ServerThreads :=
  match threads.stopper with
  | .checkRunning =>
      .ok { threads with
        stopper := if threads.running then .clearRunning else .returned }
  | .clearRunning =>
      .ok { threads with running := false, stopper := .shutdownListener }
  | .shutdownListener =>
      .ok { threads with listening := false, stopper := .joinAcceptor }
  | .joinAcceptor =>
      if threads.acceptorExited then
        .ok { threads with stopper := .closeConnections }
      else .error .blocked
  | .closeConnections =>
      .ok { threads with
        closedByStop := threads.closedByStop + threads.mapped
        connections := ∅
        stopper := .joinReceivers }
  | .joinReceivers =>
      if ∀ connection ∈ threads.accepted,
          connection.thread = .notStarted ∨ connection.thread = .exited then
        .ok { threads with stopper := .returned }
      else .error .blocked
  | .returned => .error .blocked

def advance (threads : ServerThreads) :
    ServerEvent → Except Blocked ServerThreads
  | .acceptor => threads.acceptorStep
  | .accept connection => threads.acceptStep connection
  | .ends index => threads.endsStep index
  | .receives index => threads.receivesStep index
  | .receiver index => threads.receiverStep index
  | .stopper => threads.stopperStep

/-- One atomic step of some thread. -/
def step (threads : ServerThreads) (event : ServerEvent) :
    Except Blocked (Unit × ServerThreads) :=
  (threads.advance event).map (fun next => ((), next))

/-- The descriptor that `send` writes to, if it knows the peer. -/
def sendDescriptor (threads : ServerThreads) (remoteIp : CppString)
    (remotePort : UInt16) : Option Nat :=
  threads.connections.lookup (connectionKey remoteIp remotePort)

end ServerThreads

/-! ## What one step can do -/

/-- The steps of `acceptLoop` that touch nothing but the thread. -/
inductive AcceptTurn (running : Bool) :
    AcceptThread → AcceptThread → Prop where
  | enter (up : running = true) : AcceptTurn running .checking .accepting
  | leave (down : running = false) :
      AcceptTurn running .checking (.exited none)
  | retry (up : running = true) :
      AcceptTurn running (.returned none) .checking
  | keep (index : Nat) (up : running = true) :
      AcceptTurn running (.returned (some index)) (.inserting index)
  | drop (connection : Option Nat) (down : running = false) :
      AcceptTurn running (.returned connection) (.exited connection)

/-- The steps of `receiveLoop` that touch nothing but the thread. -/
inductive ReceiveTurn
    (threads : ServerThreads) (connection : Connection) :
    ReceiveThread → ReceiveThread → Prop where
  | enter (up : threads.running = true) :
      ReceiveTurn threads connection .checking .receiving
  | stop (down : threads.running = false) :
      ReceiveTurn threads connection .checking .leaving
  | data : ReceiveTurn threads connection .receiving .checking
  | finish (finished : connection.ended = true ∨
        connection.descriptor ∈ threads.closedByStop) :
      ReceiveTurn threads connection .receiving .leaving

/-- The statements of `stop` that only test and wait. -/
inductive StopTurn (threads : ServerThreads) :
    ServerStop → ServerStop → Prop where
  | proceed (up : threads.running = true) :
      StopTurn threads .checkRunning .clearRunning
  | skip (down : threads.running = false) :
      StopTurn threads .checkRunning .returned
  | acceptorJoined (exited : threads.acceptorExited = true) :
      StopTurn threads .joinAcceptor .closeConnections
  | receiversJoined
      (exited : ∀ connection ∈ threads.accepted,
        connection.thread = .notStarted ∨ connection.thread = .exited) :
      StopTurn threads .joinReceivers .returned

/-- The steps, with what holds before each and the state after it. -/
inductive Moves (threads : ServerThreads) :
    ServerEvent → ServerThreads → Prop where
  | acceptorTurned (turn : AcceptThread)
      (turns : AcceptTurn threads.running threads.acceptor turn) :
      Moves threads .acceptor { threads with acceptor := turn }
  | acceptFailed (here : threads.acceptor = .accepting) :
      Moves threads (.accept none) { threads with acceptor := .returned none }
  | accepted (connection : Connection)
      (here : threads.acceptor = .accepting)
      (offers : threads.Offers connection) :
      Moves threads (.accept (some connection))
        { threads with
          accepted := threads.accepted ++ [connection]
          acceptor := .returned (some threads.accepted.length) }
  | inserted (index : Nat) (connection : Connection)
      (here : threads.acceptor = .inserting index)
      (known : threads.accepted[index]? = some connection) :
      Moves threads .acceptor
        { threads.insertConnection connection with
          acceptor := .spawning index }
  | spawned (index : Nat)
      (here : threads.acceptor = .spawning index) :
      Moves threads .acceptor
        { threads.setThread index .checking with acceptor := .checking }
  | ended (index : Nat) :
      Moves threads (.ends index) (threads.endStream index)
  | receiverTurned (event : ServerEvent) (index : Nat)
      (connection : Connection) (turn : ReceiveThread)
      (known : threads.accepted[index]? = some connection)
      (turns : ReceiveTurn threads connection connection.thread turn)
      (either : event = .receives index ∨ event = .receiver index) :
      Moves threads event (threads.setThread index turn)
  | cleaned (index : Nat) (connection : Connection)
      (known : threads.accepted[index]? = some connection)
      (here : connection.thread = .leaving) :
      Moves threads (.receiver index)
        ((threads.cleanUp connection).setThread index .exited)
  | stopperTurned (turn : ServerStop)
      (turns : StopTurn threads threads.stopper turn) :
      Moves threads .stopper { threads with stopper := turn }
  | runningCleared (here : threads.stopper = .clearRunning) :
      Moves threads .stopper
        { threads with running := false, stopper := .shutdownListener }
  | listenerShut (here : threads.stopper = .shutdownListener) :
      Moves threads .stopper
        { threads with listening := false, stopper := .joinAcceptor }
  | connectionsClosed (here : threads.stopper = .closeConnections) :
      Moves threads .stopper
        { threads with
          closedByStop := threads.closedByStop + threads.mapped
          connections := ∅
          stopper := .joinReceivers }

namespace ServerThreads

variable {threads next : ServerThreads} {event : ServerEvent}

theorem moves_of_acceptorStep
    (stepped : threads.acceptorStep = .ok next) :
    Moves threads .acceptor next := by
  unfold acceptorStep at stepped
  cases here : threads.acceptor with
  | checking =>
      rw [here] at stepped
      by_cases up : threads.running = true
      · simp only [if_pos up] at stepped
        cases stepped
        exact Moves.acceptorTurned _ (by rw [here]; exact .enter up)
      · simp only [if_neg up] at stepped
        cases stepped
        have down := eq_false_of_ne_true up
        exact Moves.acceptorTurned _ (by rw [here]; exact .leave down)
  | accepting =>
      rw [here] at stepped
      cases stepped
  | returned connection =>
      rw [here] at stepped
      by_cases up : threads.running = true
      · cases connection with
        | none =>
            simp only [if_pos up] at stepped
            cases stepped
            exact Moves.acceptorTurned _ (by rw [here]; exact .retry up)
        | some index =>
            simp only [if_pos up] at stepped
            cases stepped
            exact Moves.acceptorTurned _ (by rw [here]; exact .keep _ up)
      · simp only [if_neg up] at stepped
        cases stepped
        have down := eq_false_of_ne_true up
        exact Moves.acceptorTurned _ (by rw [here]; exact .drop _ down)
  | inserting index =>
      rw [here] at stepped
      cases known : threads.accepted[index]? with
      | none =>
          simp only [known] at stepped
          cases stepped
      | some connection =>
          simp only [known] at stepped
          cases stepped
          exact Moves.inserted index connection here known
  | spawning index =>
      rw [here] at stepped
      cases stepped
      exact Moves.spawned index here
  | exited connection =>
      rw [here] at stepped
      cases stepped

theorem moves_of_acceptStep
    {connection : Option Connection}
    (stepped : threads.acceptStep connection = .ok next) :
    Moves threads (.accept connection) next := by
  unfold acceptStep at stepped
  split at stepped
  · rename_i here
    cases stepped
    exact Moves.acceptFailed here
  · rename_i offered here
    split_ifs at stepped with offers
    cases stepped
    exact Moves.accepted _ here offers
  · cases stepped

theorem moves_of_receivesStep
    {index : Nat} (stepped : threads.receivesStep index = .ok next) :
    Moves threads (.receives index) next := by
  unfold receivesStep at stepped
  split at stepped
  · rename_i connection known
    split_ifs at stepped with here
    cases stepped
    exact Moves.receiverTurned _ index connection _ known
      (by rw [here]; exact .data) (Or.inl rfl)
  · cases stepped

theorem moves_of_receiverStep
    {index : Nat} (stepped : threads.receiverStep index = .ok next) :
    Moves threads (.receiver index) next := by
  unfold receiverStep at stepped
  split at stepped
  · rename_i connection known
    cases here : connection.thread with
    | notStarted =>
        rw [here] at stepped
        cases stepped
    | checking =>
        rw [here] at stepped
        by_cases up : threads.running = true
        · simp only [if_pos up] at stepped
          cases stepped
          exact Moves.receiverTurned _ index connection _ known
            (by rw [here]; exact .enter up) (Or.inr rfl)
        · simp only [if_neg up] at stepped
          cases stepped
          exact Moves.receiverTurned _ index connection _ known
            (by rw [here]; exact .stop (eq_false_of_ne_true up)) (Or.inr rfl)
    | receiving =>
        rw [here] at stepped
        dsimp only at stepped
        split_ifs at stepped with finished
        cases stepped
        exact Moves.receiverTurned _ index connection _ known
          (by rw [here]; exact .finish finished) (Or.inr rfl)
    | leaving =>
        rw [here] at stepped
        cases stepped
        exact Moves.cleaned index connection known here
    | exited =>
        rw [here] at stepped
        cases stepped
  · cases stepped

theorem moves_of_stopperStep
    (stepped : threads.stopperStep = .ok next) :
    Moves threads .stopper next := by
  unfold stopperStep at stepped
  cases here : threads.stopper with
  | checkRunning =>
      rw [here] at stepped
      by_cases up : threads.running = true
      · simp only [if_pos up] at stepped
        cases stepped
        exact Moves.stopperTurned _ (by rw [here]; exact .proceed up)
      · simp only [if_neg up] at stepped
        cases stepped
        have down := eq_false_of_ne_true up
        exact Moves.stopperTurned _ (by rw [here]; exact .skip down)
  | clearRunning =>
      rw [here] at stepped
      cases stepped
      exact Moves.runningCleared here
  | shutdownListener =>
      rw [here] at stepped
      cases stepped
      exact Moves.listenerShut here
  | joinAcceptor =>
      rw [here] at stepped
      dsimp only at stepped
      split_ifs at stepped with exited
      cases stepped
      exact Moves.stopperTurned _ (by rw [here]; exact .acceptorJoined exited)
  | closeConnections =>
      rw [here] at stepped
      cases stepped
      exact Moves.connectionsClosed here
  | joinReceivers =>
      rw [here] at stepped
      dsimp only at stepped
      split_ifs at stepped with exited
      cases stepped
      exact Moves.stopperTurned _
        (by rw [here]; exact .receiversJoined exited)
  | returned =>
      rw [here] at stepped
      cases stepped

/-- Every step is one of the moves. -/
theorem moves_of_step
    {output : Unit}
    (stepped : threads.step event = .ok (output, next)) :
    Moves threads event next := by
  unfold step at stepped
  cases advanced : threads.advance event with
  | error thrown =>
      rw [advanced] at stepped
      cases stepped
  | ok state =>
      rw [advanced] at stepped
      cases stepped
      cases event with
      | acceptor => exact moves_of_acceptorStep advanced
      | accept connection => exact moves_of_acceptStep advanced
      | ends index =>
          simp only [advance, endsStep] at advanced
          split_ifs at advanced with known
          cases advanced
          exact Moves.ended index
      | receives index => exact moves_of_receivesStep advanced
      | receiver index => exact moves_of_receiverStep advanced
      | stopper => exact moves_of_stopperStep advanced

end ServerThreads

end MinimalSip.Networking.TcpTransport

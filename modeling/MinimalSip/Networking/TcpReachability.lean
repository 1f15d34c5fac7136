import MinimalSip.Networking.TcpConnections

/-!
# Every live connection can be sent to

`send` finds a connection by the address of its peer, and cleaning up a
connection erases the entry of that address.  By then a new connection from
the same peer may have taken the entry over.
-/

namespace MinimalSip.Networking.TcpTransport

open MinimalSip.Lib.Cpp
open MinimalSip.Lib.Machine

/-! ## Keys -/

/-- The last colon separates address and port. -/
theorem eq_of_append_cons_eq
    {char : Char} {before before' after after' : CppString}
    (same : before ++ char :: after = before' ++ char :: after')
    (absent : char ∉ after) (absent' : char ∉ after') :
    before = before' ∧ after = after' := by
  rcases List.append_eq_append_iff.mp same with
    ⟨gap, rfl, split⟩ | ⟨gap, rfl, split⟩
  · cases gap with
    | nil => simpa using split
    | cons first rest =>
        obtain ⟨rfl, rfl⟩ := List.cons.inj split
        simp at absent
  · cases gap with
    | nil => simpa using split.symm
    | cons first rest =>
        obtain ⟨rfl, rfl⟩ := List.cons.inj split
        simp at absent'

theorem connectionKey_eq (ip : CppString) (port : UInt16) :
    connectionKey ip port = ip ++ ':' :: Nat.toDigits 10 port.toNat := by
  rw [connectionKey, stdToString_natCast, List.append_assoc]
  rfl

/-- Peers with different addresses or ports have different keys. -/
theorem connectionKey_inj
    {ip ip' : CppString} {port port' : UInt16}
    (same : connectionKey ip port = connectionKey ip' port') :
    ip = ip' ∧ port = port' := by
  rw [connectionKey_eq, connectionKey_eq] at same
  have noColon : ∀ value : Nat, ':' ∉ Nat.toDigits 10 value :=
    fun value => not_mem_toDigits (by decide) value
  obtain ⟨sameIp, sameDigits⟩ :=
    eq_of_append_cons_eq same (noColon _) (noColon _)
  have sameNat := congrArg (fun digits => Nat.ofDigitChars 10 digits 0)
    sameDigits
  simp only [Nat.ofDigitChars_ten_toDigits] at sameNat
  exact ⟨sameIp, UInt16.toNat_inj.mp sameNat⟩

/-! ## What becomes of a connection -/

/-- A connection keeps peer and descriptor, and what is over stays over. -/
structure Follows (earlier later : Connection) : Prop where
  ip : later.ip = earlier.ip
  port : later.port = earlier.port
  descriptor : later.descriptor = earlier.descriptor
  ended : earlier.ended = true → later.ended = true
  exited : earlier.thread = .exited → later.thread = .exited

namespace Follows

theorem refl (connection : Connection) : Follows connection connection :=
  ⟨rfl, rfl, rfl, id, id⟩

variable {earlier later : Connection}

theorem key (follows : Follows earlier later) : later.key = earlier.key := by
  rw [Connection.key, Connection.key, follows.ip, follows.port]

theorem live (follows : Follows earlier later) (live : later.Live) :
    earlier.Live := by
  refine ⟨?_, fun exited => live.2 (follows.exited exited)⟩
  rw [← Bool.not_eq_true]
  intro ended
  have after := follows.ended ended
  rw [live.1] at after
  cases after

end Follows

theorem getElem?_modify_cases
    {α : Type} {items : List α} {change : α → α}
    {index other : Nat} {item : α}
    (known : (items.modify index change)[other]? = some item) :
    ∃ earlier, items[other]? = some earlier ∧
      (index = other ∧ item = change earlier ∨
        index ≠ other ∧ item = earlier) := by
  rw [List.getElem?_modify] at known
  obtain ⟨earlier, before, rfl⟩ := Option.map_eq_some_iff.mp known
  refine ⟨earlier, before, ?_⟩
  by_cases same : index = other
  · exact Or.inl ⟨same, by rw [if_pos same]⟩
  · exact Or.inr ⟨same, by rw [if_neg same]⟩

theorem getElem?_append_singleton_cases
    {α : Type} {items : List α} {last item : α} {index : Nat}
    (known : (items ++ [last])[index]? = some item) :
    items[index]? = some item ∨ index = items.length ∧ last = item := by
  rw [List.getElem?_append] at known
  split_ifs at known with inside
  · exact Or.inl known
  · obtain ⟨bound, same⟩ := List.getElem?_eq_some_iff.mp known
    rw [List.length_singleton] at bound
    exact Or.inr ⟨by omega, by simpa using same⟩

namespace ServerThreads

variable {threads next : ServerThreads} {event : ServerEvent}
variable {index : Nat} {connection : Connection}

theorem follows_setThread
    {changed : Nat} {thread : ReceiveThread}
    (known : (threads.setThread changed thread).accepted[index]? =
      some connection)
    (running : ∀ earlier, threads.accepted[changed]? = some earlier →
      earlier.thread ≠ .exited ∨ thread = .exited) :
    ∃ earlier, threads.accepted[index]? = some earlier ∧
      Follows earlier connection := by
  obtain ⟨earlier, before, ⟨rfl, rfl⟩ | ⟨-, rfl⟩⟩ :=
    getElem?_modify_cases known
  · refine ⟨earlier, before, rfl, rfl, rfl, id, fun exited => ?_⟩
    rcases running earlier before with other | same
    · exact absurd exited other
    · exact same
  · exact ⟨_, before, Follows.refl _⟩

end ServerThreads

/-! ## The connection in the hand of the accept thread -/

/-- The connection between its acceptance and its receive loop. -/
def AcceptThread.inHand : AcceptThread → Option Nat
  | .returned connection => connection
  | .inserting connection => some connection
  | .spawning connection => some connection
  | .exited connection => connection
  | _ => none

theorem AcceptTurn.inHand
    {running : Bool} {thread turn : AcceptThread}
    (turns : AcceptTurn running thread turn) :
    turn.inHand = thread.inHand := by
  cases turns <;> rfl

theorem ReceiveTurn.started
    {threads : ServerThreads} {connection : Connection}
    {thread turn : ReceiveThread}
    (turns : ReceiveTurn threads connection thread turn) :
    thread ≠ .notStarted ∧ turn ≠ .notStarted ∧
      thread ≠ .exited ∧ turn ≠ .exited := by
  cases turns <;> decide

/-- Exactly the connection in hand has no receive loop. -/
structure Handed (threads : ServerThreads) : Prop where
  notStarted : ∀ index connection,
    threads.accepted[index]? = some connection →
      (connection.thread = .notStarted ↔
        threads.acceptor.inHand = some index)
  last : ∀ index, threads.acceptor.inHand = some index →
    index + 1 = threads.accepted.length

namespace Handed

variable {threads next : ServerThreads} {event : ServerEvent}

/-- The connection in hand is there and waits for its loop. -/
theorem exists_waiting
    (handed : Handed threads)
    {index : Nat} (inHand : threads.acceptor.inHand = some index) :
    ∃ connection, threads.accepted[index]? = some connection ∧
      connection.thread = .notStarted := by
  have last := handed.last index inHand
  have known := List.getElem?_eq_getElem
    (show index < threads.accepted.length by omega)
  exact ⟨_, known, (handed.notStarted index _ known).mpr inHand⟩

theorem started : Handed .started where
  notStarted := by
    intro index connection known
    cases known
  last := by
    intro index inHand
    cases inHand

/-- Loops that are started and go on leave the hand as it is. -/
theorem setThread
    (handed : Handed threads) {index : Nat} {connection : Connection}
    {thread : ReceiveThread}
    (known : threads.accepted[index]? = some connection)
    (before : connection.thread ≠ .notStarted)
    (after : thread ≠ .notStarted) :
    Handed (threads.setThread index thread) where
  notStarted := by
    intro other later found
    obtain ⟨earlier, was, ⟨rfl, rfl⟩ | ⟨-, rfl⟩⟩ :=
      getElem?_modify_cases found
    · rw [known] at was
      cases was
      have notInHand : threads.acceptor.inHand ≠ some index :=
        fun inHand => before ((handed.notStarted index _ known).mpr inHand)
      exact iff_of_false after notInHand
    · exact handed.notStarted other later was
  last := by
    intro other inHand
    have last := handed.last other inHand
    rwa [ServerThreads.setThread, List.length_modify]

theorem moves
    (moves : Moves threads event next) (handed : Handed threads) :
    Handed next := by
  cases moves with
  | acceptorTurned turn turns =>
      refine ⟨fun index connection known => ?_, fun index inHand => ?_⟩
      · rw [turns.inHand]
        exact handed.notStarted index connection known
      · rw [turns.inHand] at inHand
        exact handed.last index inHand
  | acceptFailed here =>
      have free : threads.acceptor.inHand = none :=
        congrArg AcceptThread.inHand here
      refine ⟨fun index connection known => ?_, fun index inHand => ?_⟩
      · rw [handed.notStarted index connection known, free]
        rfl
      · cases inHand
  | accepted offered here offers =>
      have free : threads.acceptor.inHand = none :=
        congrArg AcceptThread.inHand here
      refine ⟨fun index connection known => ?_, fun index inHand => ?_⟩
      · rcases getElem?_append_singleton_cases known with
          before | ⟨rfl, rfl⟩
        · have inside := (List.getElem?_eq_some_iff.mp before).1
          rw [handed.notStarted index connection before, free]
          refine iff_of_false (fun inHand => by cases inHand)
            (fun same => ?_)
          have last := Option.some.inj same
          omega
        · exact iff_of_true offers.new.2 rfl
      · cases inHand
        simp
  | inserted index connection here known =>
      have inHand : threads.acceptor.inHand = some index :=
        congrArg AcceptThread.inHand here
      refine ⟨fun other found => ?_, fun other found => ?_⟩
      · have unchanged := handed.notStarted other found
        rwa [inHand] at unchanged
      · cases found
        exact handed.last index inHand
  | spawned index here =>
      have inHand : threads.acceptor.inHand = some index :=
        congrArg AcceptThread.inHand here
      refine ⟨fun other later found => ?_, fun other found => ?_⟩
      · obtain ⟨earlier, was, ⟨rfl, rfl⟩ | ⟨different, rfl⟩⟩ :=
          getElem?_modify_cases found
        · exact iff_of_false (fun waiting => by cases waiting)
            (fun inHand => by cases inHand)
        · rw [handed.notStarted other later was, inHand]
          refine iff_of_false (fun same => ?_)
            (fun inHand => by cases inHand)
          exact different (Option.some.inj same)
      · cases found
  | ended index =>
      refine ⟨fun other later found => ?_, fun other inHand => ?_⟩
      · obtain ⟨earlier, was, ⟨rfl, rfl⟩ | ⟨-, rfl⟩⟩ :=
          getElem?_modify_cases found
        · exact handed.notStarted index earlier was
        · exact handed.notStarted other later was
      · have last := handed.last other inHand
        rwa [ServerThreads.endStream, List.length_modify]
  | receiverTurned event index connection turn known turns =>
      exact handed.setThread known turns.started.1 turns.started.2.1
  | cleaned index connection known here =>
      have cleanedUp : Handed (threads.cleanUp connection) :=
        ⟨handed.notStarted, handed.last⟩
      exact cleanedUp.setThread known (by rw [here]; decide) (by decide)
  | stopperTurned => exact ⟨handed.notStarted, handed.last⟩
  | runningCleared => exact ⟨handed.notStarted, handed.last⟩
  | listenerShut => exact ⟨handed.notStarted, handed.last⟩
  | connectionsClosed => exact ⟨handed.notStarted, handed.last⟩

end Handed

/-- A connection was there before a step, or has just been accepted. -/
theorem Moves.origin
    {threads next : ServerThreads} {event : ServerEvent}
    {index : Nat} {connection : Connection}
    (moves : Moves threads event next) (handed : Handed threads)
    (known : next.accepted[index]? = some connection) :
    (∃ earlier, threads.accepted[index]? = some earlier ∧
      Follows earlier connection) ∨
    index = threads.accepted.length ∧ threads.acceptor = .accepting ∧
      threads.Offers connection := by
  cases moves with
  | accepted offered here offers =>
      rcases getElem?_append_singleton_cases known with before | ⟨rfl, rfl⟩
      · exact Or.inl ⟨connection, before, Follows.refl _⟩
      · exact Or.inr ⟨rfl, here, offers⟩
  | spawned spawned here =>
      refine Or.inl (ServerThreads.follows_setThread known
        (fun earlier before => Or.inl ?_))
      have inHand : threads.acceptor.inHand = some spawned :=
        congrArg AcceptThread.inHand here
      rw [(handed.notStarted spawned earlier before).mpr inHand]
      decide
  | ended ended =>
      obtain ⟨earlier, before, ⟨rfl, rfl⟩ | ⟨-, rfl⟩⟩ :=
        getElem?_modify_cases known
      · exact Or.inl ⟨earlier, before, rfl, rfl, rfl, fun _ => rfl, id⟩
      · exact Or.inl ⟨_, before, Follows.refl _⟩
  | receiverTurned event turned subject turn before turns =>
      refine Or.inl (ServerThreads.follows_setThread known
        (fun earlier found => Or.inl ?_))
      rw [before] at found
      cases found
      exact turns.started.2.2.1
  | cleaned =>
      exact Or.inl (ServerThreads.follows_setThread known
        (fun _ _ => Or.inr rfl))
  | acceptorTurned => exact Or.inl ⟨connection, known, Follows.refl _⟩
  | acceptFailed => exact Or.inl ⟨connection, known, Follows.refl _⟩
  | inserted => exact Or.inl ⟨connection, known, Follows.refl _⟩
  | stopperTurned => exact Or.inl ⟨connection, known, Follows.refl _⟩
  | runningCleared => exact Or.inl ⟨connection, known, Follows.refl _⟩
  | listenerShut => exact Or.inl ⟨connection, known, Follows.refl _⟩
  | connectionsClosed => exact Or.inl ⟨connection, known, Follows.refl _⟩

/-! ## What `stop` has achieved -/

/-- No receive loop that was started is left. -/
def ReceiversDone (threads : ServerThreads) : Prop :=
  ∀ (index : Nat) (connection : Connection),
    threads.accepted[index]? = some connection →
      connection.thread = .notStarted ∨ connection.thread = .exited

/-- What holds when `stop` stands at a statement. -/
def AtStop (threads : ServerThreads) : Prop :=
  match threads.stopper with
  | .checkRunning | .clearRunning =>
      threads.running = true ∧ threads.closedByStop = 0
  | .shutdownListener | .joinAcceptor =>
      threads.running = false ∧ threads.closedByStop = 0
  | .closeConnections =>
      threads.running = false ∧ threads.closedByStop = 0 ∧
        threads.acceptorExited = true
  | .joinReceivers =>
      threads.running = false ∧ threads.acceptorExited = true
  | .returned =>
      threads.running = false ∧ threads.acceptorExited = true ∧
        ReceiversDone threads

namespace AtStop

variable {threads next : ServerThreads} {event : ServerEvent}

/-- As long as the transport runs, `stop` has closed nothing. -/
theorem closedByStop_of_running
    (reached : AtStop threads) (up : threads.running = true) :
    threads.closedByStop = 0 := by
  unfold AtStop at reached
  split at reached
  · exact reached.2
  · exact reached.2
  · exact reached.2
  · exact reached.2
  · exact reached.2.1
  · rw [up] at reached
    cases reached.1
  · rw [up] at reached
    cases reached.1

/-- As long as the accept thread is there, `stop` has closed nothing. -/
theorem closedByStop_of_accepting
    (reached : AtStop threads) (present : threads.acceptorExited = false) :
    threads.closedByStop = 0 := by
  unfold AtStop at reached
  split at reached
  · exact reached.2
  · exact reached.2
  · exact reached.2
  · exact reached.2
  · exact reached.2.1
  · rw [present] at reached
    cases reached.2
  · rw [present] at reached
    cases reached.2.1

/-- What `stop` has achieved lasts. -/
theorem mono
    (reached : AtStop threads)
    (stopper : next.stopper = threads.stopper)
    (running : next.running = threads.running)
    (closed : next.closedByStop = threads.closedByStop)
    (exited : threads.acceptorExited = true → next.acceptorExited = true)
    (done : threads.acceptorExited = true → ReceiversDone threads →
      ReceiversDone next) :
    AtStop next := by
  unfold AtStop at reached ⊢
  rw [stopper, running, closed]
  cases point : threads.stopper with
  | closeConnections =>
      rw [point] at reached
      exact ⟨reached.1, reached.2.1, exited reached.2.2⟩
  | joinReceivers =>
      rw [point] at reached
      exact ⟨reached.1, exited reached.2⟩
  | returned =>
      rw [point] at reached
      exact ⟨reached.1, exited reached.2.1,
        done reached.2.1 reached.2.2⟩
  | _ =>
      rw [point] at reached
      exact reached

theorem not_done_of_running
    {index : Nat} {connection : Connection}
    (known : threads.accepted[index]? = some connection)
    (started : connection.thread ≠ .notStarted)
    (running : connection.thread ≠ .exited) :
    ¬ ReceiversDone threads := by
  intro done
  rcases done index connection known with waiting | exited
  · exact started waiting
  · exact running exited

theorem stopTurned
    {turn : ServerStop} (turns : StopTurn threads threads.stopper turn)
    (reached : AtStop threads) :
    AtStop { threads with stopper := turn } := by
  unfold AtStop at reached
  generalize threads.stopper = point at turns reached
  cases turns with
  | proceed up => exact reached
  | skip down =>
      rw [reached.1] at down
      cases down
  | acceptorJoined exited => exact ⟨reached.1, reached.2, exited⟩
  | receiversJoined done =>
      refine ⟨reached.1, reached.2, fun index connection known => ?_⟩
      exact done connection (List.mem_of_getElem? known)

/-- While connections are accepted, no thread has been joined yet. -/
theorem mono_of_accepting
    (reached : AtStop threads)
    (accepting : ∀ connection, threads.acceptor ≠ .exited connection)
    (stopper : next.stopper = threads.stopper)
    (running : next.running = threads.running)
    (closed : next.closedByStop = threads.closedByStop) :
    AtStop next := by
  have goesOn : threads.acceptorExited ≠ true := by
    intro exited
    unfold ServerThreads.acceptorExited at exited
    split at exited
    next connection here => exact accepting connection here
    · cases exited
  exact reached.mono stopper running closed
    (fun exited => absurd exited goesOn) (fun exited => absurd exited goesOn)

theorem moves
    (moves : Moves threads event next) (reached : AtStop threads) :
    AtStop next := by
  cases moves with
  | acceptorTurned turn turns =>
      refine reached.mono rfl rfl rfl (fun exited => ?_) (fun _ => id)
      unfold ServerThreads.acceptorExited at exited
      generalize threads.acceptor = thread at turns exited
      cases turns <;> cases exited
  | acceptFailed here =>
      exact reached.mono_of_accepting (by rw [here]; simp) rfl rfl rfl
  | accepted offered here offers =>
      exact reached.mono_of_accepting (by rw [here]; simp) rfl rfl rfl
  | inserted index connection here known =>
      exact reached.mono_of_accepting (by rw [here]; simp) rfl rfl rfl
  | spawned index here =>
      exact reached.mono_of_accepting (by rw [here]; simp) rfl rfl rfl
  | ended index =>
      refine reached.mono rfl rfl rfl id (fun _ done other later found => ?_)
      obtain ⟨earlier, was, ⟨rfl, rfl⟩ | ⟨-, rfl⟩⟩ :=
        getElem?_modify_cases found
      · exact done index earlier was
      · exact done other later was
  | receiverTurned event index connection turn known turns =>
      exact reached.mono rfl rfl rfl id (fun _ done =>
        absurd done (not_done_of_running known turns.started.1
          turns.started.2.2.1))
  | cleaned index connection known here =>
      refine reached.mono rfl rfl rfl id (fun _ done =>
        absurd done (not_done_of_running known ?_ ?_))
      · rw [here]
        decide
      · rw [here]
        decide
  | stopperTurned turn turns => exact reached.stopTurned turns
  | runningCleared here =>
      rw [AtStop, here] at reached
      exact ⟨rfl, reached.2⟩
  | listenerShut here =>
      rw [AtStop, here] at reached
      exact reached
  | connectionsClosed here =>
      rw [AtStop, here] at reached
      exact ⟨reached.1, reached.2.2⟩

end AtStop

/-! ## Connections and their peers -/

/-- Invariants of the connections, next to those of the threads. -/
structure Sound (threads : ServerThreads) : Prop where
  handed : Handed threads
  atStop : AtStop threads
  peers : ∀ (index other : Nat) (connection later : Connection),
    index < other →
    threads.accepted[index]? = some connection →
    threads.accepted[other]? = some later →
    connection.Live →
      ¬ (connection.ip = later.ip ∧ connection.port = later.port)
  leavers : threads.running = true → ∀ (index : Nat) (connection : Connection),
    threads.accepted[index]? = some connection →
    connection.thread = .leaving ∨ connection.thread = .exited →
      connection.ended = true

namespace Sound

variable {threads next : ServerThreads} {event : ServerEvent}

theorem started : Sound .started where
  handed := Handed.started
  atStop := ⟨rfl, rfl⟩
  peers := by
    intro index other connection later before known
    cases known
  leavers := by
    intro up index connection known
    cases known

/-- While a connection is live its peer gets no second one. -/
theorem peers_moves
    (moves : Moves threads event next) (sound : Sound threads)
    {index other : Nat} {connection later : Connection}
    (order : index < other)
    (known : next.accepted[index]? = some connection)
    (found : next.accepted[other]? = some later)
    (live : connection.Live) :
    ¬ (connection.ip = later.ip ∧ connection.port = later.port) := by
  rcases moves.origin sound.handed known with
    ⟨before, knownBefore, follows⟩ | ⟨rfl, -, -⟩
  · rcases moves.origin sound.handed found with
      ⟨past, foundBefore, followsPast⟩ | ⟨rfl, -, offers⟩
    · rw [follows.ip, follows.port, followsPast.ip, followsPast.port]
      exact sound.peers index other before past order knownBefore
        foundBefore (follows.live live)
    · have member := List.mem_of_getElem? knownBefore
      rw [follows.ip, follows.port]
      exact offers.peer before member (follows.live live)
  · rcases moves.origin sound.handed found with
      ⟨past, foundBefore, -⟩ | ⟨rfl, -, -⟩
    · have inside := (List.getElem?_eq_some_iff.mp foundBefore).1
      omega
    · omega

/-- While the transport runs, a loop leaves only a stream that has ended. -/
theorem leavers_setThread
    (sound : Sound threads) {changed : Nat} {thread : ReceiveThread}
    (left : ∀ earlier, threads.running = true →
      threads.accepted[changed]? = some earlier →
      thread = .leaving ∨ thread = .exited → earlier.ended = true)
    (up : threads.running = true) (index : Nat) (connection : Connection)
    (known : (threads.setThread changed thread).accepted[index]? =
      some connection)
    (leaving : connection.thread = .leaving ∨ connection.thread = .exited) :
    connection.ended = true := by
  obtain ⟨earlier, before, ⟨rfl, rfl⟩ | ⟨-, rfl⟩⟩ :=
    getElem?_modify_cases known
  · exact left earlier up before leaving
  · exact sound.leavers up index _ before leaving

theorem leavers_moves
    (moves : Moves threads event next) (sound : Sound threads)
    (up : next.running = true) (index : Nat) (connection : Connection)
    (known : next.accepted[index]? = some connection)
    (leaving : connection.thread = .leaving ∨ connection.thread = .exited) :
    connection.ended = true := by
  cases moves with
  | accepted offered here offers =>
      rcases getElem?_append_singleton_cases known with before | ⟨rfl, rfl⟩
      · exact sound.leavers up index connection before leaving
      · rw [offers.new.2] at leaving
        rcases leaving with leaving | leaving <;> cases leaving
  | spawned spawned here =>
      refine sound.leavers_setThread (fun _ _ _ turned => ?_) up index
        connection known leaving
      rcases turned with turned | turned <;> cases turned
  | ended ended =>
      obtain ⟨earlier, before, ⟨rfl, rfl⟩ | ⟨-, rfl⟩⟩ :=
        getElem?_modify_cases known
      · rfl
      · exact sound.leavers up index _ before leaving
  | receiverTurned event turned subject turn before turns =>
      refine sound.leavers_setThread (fun earlier running found turned => ?_)
        up index connection known leaving
      rw [before] at found
      cases found
      generalize subject.thread = thread at turns
      cases turns with
      | stop down =>
          rw [running] at down
          cases down
      | finish finished =>
          rw [sound.atStop.closedByStop_of_running running] at finished
          exact finished.resolve_right (Multiset.notMem_zero _)
      | enter => rcases turned with turned | turned <;> cases turned
      | data => rcases turned with turned | turned <;> cases turned
  | cleaned cleaned subject before here =>
      refine sound.leavers_setThread (fun earlier up found _ => ?_) up
        index connection known leaving
      rw [before] at found
      cases found
      exact sound.leavers up cleaned subject before (Or.inl here)
  | runningCleared => cases up
  | acceptorTurned => exact sound.leavers up index connection known leaving
  | acceptFailed => exact sound.leavers up index connection known leaving
  | inserted => exact sound.leavers up index connection known leaving
  | stopperTurned => exact sound.leavers up index connection known leaving
  | listenerShut => exact sound.leavers up index connection known leaving
  | connectionsClosed => exact sound.leavers up index connection known leaving

theorem moves
    (moves : Moves threads event next) (sound : Sound threads) :
    Sound next where
  handed := sound.handed.moves moves
  atStop := sound.atStop.moves moves
  peers := fun _ _ _ _ => sound.peers_moves moves
  leavers := sound.leavers_moves moves

end Sound

/-! ## What `send` finds -/

/-- The connection is past its insertion into the map. -/
def ServerThreads.Inserted
    (threads : ServerThreads) (index : Nat) (connection : Connection) :
    Prop :=
  connection.thread ≠ .notStarted ∨ threads.acceptor = .spawning index

/--
As long as the transport runs, `send` finds every inserted connection whose
stream has not ended.
-/
def Reaches (threads : ServerThreads) : Prop :=
  threads.running = true → ∀ (index : Nat) (connection : Connection),
    threads.accepted[index]? = some connection →
    threads.Inserted index connection → connection.ended = false →
      threads.sendDescriptor connection.ip connection.port =
        some connection.descriptor

/--
The event is the cleanup of a connection whose peer has a new one: another
connection with the same address is inserted and its stream has not ended.
-/
def CutsOff (threads : ServerThreads) : ServerEvent → Prop
  | .receiver index =>
      threads.running = true ∧
      ∃ (connection : Connection) (other : Nat) (later : Connection),
        threads.accepted[index]? = some connection ∧
        connection.thread = .leaving ∧
        threads.accepted[other]? = some later ∧
        threads.Inserted other later ∧ later.ended = false ∧
        later.ip = connection.ip ∧ later.port = connection.port
  | _ => False

namespace Reaches

variable {threads next : ServerThreads} {event : ServerEvent}

/-- A step that leaves the map alone and inserts nothing keeps the property. -/
theorem mono
    (reaches : Reaches threads)
    (running : next.running = true → threads.running = true)
    (map : next.connections = threads.connections)
    (inserted : ∀ index connection,
      next.accepted[index]? = some connection →
      next.Inserted index connection →
        ∃ earlier, threads.accepted[index]? = some earlier ∧
          threads.Inserted index earlier ∧ Follows earlier connection) :
    Reaches next := by
  intro up index connection known present ongoing
  obtain ⟨earlier, before, was, follows⟩ :=
    inserted index connection known present
  have ongoingBefore : earlier.ended = false := by
    rw [← Bool.not_eq_true]
    intro ended
    have after := follows.ended ended
    rw [ongoing] at after
    cases after
  have found := reaches (running up) index earlier before was ongoingBefore
  rw [ServerThreads.sendDescriptor, map, follows.ip, follows.port,
    follows.descriptor]
  exact found

/-- The same for a step that keeps the list and does not start inserting. -/
theorem of_same_accepted
    (reaches : Reaches threads)
    (running : next.running = true → threads.running = true)
    (map : next.connections = threads.connections)
    (accepted : next.accepted = threads.accepted)
    (spawning : ∀ index, next.acceptor = .spawning index →
      threads.acceptor = .spawning index) :
    Reaches next := by
  refine reaches.mono running map (fun index connection known present => ?_)
  rw [accepted] at known
  exact ⟨connection, known, present.imp_right (spawning index),
    Follows.refl connection⟩

/-- The entry that is inserted is the one of the connection in hand. -/
theorem insert
    (sound : Sound threads) (reaches : Reaches threads)
    {index : Nat} {connection : Connection}
    (here : threads.acceptor = .inserting index)
    (known : threads.accepted[index]? = some connection) :
    Reaches { threads.insertConnection connection with
      acceptor := .spawning index } := by
  intro up other later found present ongoing
  have inHand : threads.acceptor.inHand = some index :=
    congrArg AcceptThread.inHand here
  show (threads.connections.insert connection.key
    connection.descriptor).lookup (connectionKey later.ip later.port) = _
  by_cases own : other = index
  · subst own
    obtain rfl : connection = later := Option.some.inj (known.symm.trans found)
    exact Finmap.lookup_insert _
  have startedLater : later.thread ≠ .notStarted := by
    rcases present with started | spawning
    · exact started
    · exact absurd (AcceptThread.spawning.inj spawning).symm own
  have foundBefore : threads.accepted[other]? = some later := found
  have reached := reaches up other later foundBefore (Or.inl startedLater)
    ongoing
  by_cases sameKey : connectionKey later.ip later.port = connection.key
  · obtain ⟨sameIp, samePort⟩ := connectionKey_inj sameKey
    have last := sound.handed.last index inHand
    have inside := (List.getElem?_eq_some_iff.mp foundBefore).1
    have live : later.Live := by
      refine ⟨ongoing, fun exited => ?_⟩
      have ended := sound.leavers up other later foundBefore (Or.inr exited)
      rw [ongoing] at ended
      cases ended
    exact absurd ⟨sameIp, samePort⟩
      (sound.peers other index later connection (by omega) foundBefore
        known live)
  · rw [Finmap.lookup_insert_of_ne _ sameKey]
    exact reached

/-- Loops that go on do not change what is inserted. -/
theorem setThread
    (reaches : Reaches threads)
    {changed : Nat} {subject : Connection} {thread : ReceiveThread}
    (known : threads.accepted[changed]? = some subject)
    (started : subject.thread ≠ .notStarted)
    (running : subject.thread ≠ .exited) :
    Reaches (threads.setThread changed thread) := by
  refine reaches.mono id rfl (fun index connection found present => ?_)
  obtain ⟨earlier, before, ⟨rfl, rfl⟩ | ⟨-, rfl⟩⟩ :=
    getElem?_modify_cases found
  · rw [known] at before
    cases before
    exact ⟨_, known, Or.inl started, rfl, rfl, rfl, id,
      fun exited => absurd exited running⟩
  · exact ⟨_, before, present, Follows.refl _⟩

/-- The cleanup is harmless exactly if it cuts no connection off. -/
theorem cleanUp_iff
    (sound : Sound threads) (reaches : Reaches threads)
    {index : Nat} {connection : Connection}
    (known : threads.accepted[index]? = some connection)
    (here : connection.thread = .leaving) :
    Reaches ((threads.cleanUp connection).setThread index .exited) ↔
      ¬ CutsOff threads (.receiver index) := by
  constructor
  · rintro kept ⟨up, subject, other, later, found, -, foundLater, present,
      ongoing, sameIp, samePort⟩
    rw [known] at found
    cases found
    have ended := sound.leavers up index connection known (Or.inl here)
    have apart : index ≠ other := by
      rintro rfl
      rw [known] at foundLater
      cases foundLater
      rw [ongoing] at ended
      cases ended
    have foundNext : ((threads.cleanUp connection).setThread index
        .exited).accepted[other]? = some later := by
      exact (List.getElem?_modify_ne _ _ apart).trans foundLater
    have reached := kept up other later foundNext present ongoing
    have erased : ((threads.cleanUp connection).setThread index
        .exited).sendDescriptor later.ip later.port = none := by
      rw [ServerThreads.sendDescriptor, sameIp, samePort]
      exact Finmap.lookup_erase _ _
    rw [erased] at reached
    cases reached
  · intro harmless up other later found present ongoing
    obtain ⟨earlier, before, ⟨rfl, rfl⟩ | ⟨apart, rfl⟩⟩ :=
      getElem?_modify_cases found
    · have ended := sound.leavers up index connection known (Or.inl here)
      obtain rfl : connection = earlier :=
        Option.some.inj (known.symm.trans before)
      rw [show connection.ended = false from ongoing] at ended
      cases ended
    · have reached := reaches up other later before present ongoing
      have keys : connectionKey later.ip later.port ≠ connection.key := by
        intro same
        obtain ⟨sameIp, samePort⟩ := connectionKey_inj same
        exact harmless ⟨up, connection, other, later, known, here, before,
          present, ongoing, sameIp, samePort⟩
      exact (Finmap.lookup_erase_ne keys).trans reached

/-- A step keeps the property exactly if it cuts no connection off. -/
theorem moves_iff
    (moves : Moves threads event next)
    (sound : Sound threads) (reaches : Reaches threads) :
    Reaches next ↔ ¬ CutsOff threads event := by
  cases moves with
  | acceptorTurned turn turns =>
      refine iff_of_true (reaches.of_same_accepted id rfl rfl ?_) id
      intro index spawning
      have turned : turn = .spawning index := spawning
      rw [turned] at turns
      generalize threads.acceptor = thread at turns
      cases turns
  | acceptFailed here =>
      refine iff_of_true (reaches.of_same_accepted id rfl rfl ?_) id
      intro index spawning
      cases spawning
  | accepted offered here offers =>
      refine iff_of_true (reaches.mono id rfl ?_) id
      intro index connection known present
      rcases getElem?_append_singleton_cases known with before | ⟨-, rfl⟩
      · refine ⟨connection, before, ?_, Follows.refl connection⟩
        rcases present with started | spawning
        · exact Or.inl started
        · cases spawning
      · rcases present with started | spawning
        · exact absurd offers.new.2 started
        · cases spawning
  | inserted index connection here known =>
      exact iff_of_true (reaches.insert sound here known) id
  | spawned index here =>
      have inHand : threads.acceptor.inHand = some index :=
        congrArg AcceptThread.inHand here
      refine iff_of_true (reaches.mono id rfl ?_) id
      intro other connection known present
      obtain ⟨earlier, before, ⟨rfl, rfl⟩ | ⟨-, rfl⟩⟩ :=
        getElem?_modify_cases known
      · have waiting := (sound.handed.notStarted index earlier before).mpr
          inHand
        refine ⟨earlier, before, Or.inr here, rfl, rfl, rfl, id, ?_⟩
        intro exited
        rw [waiting] at exited
        cases exited
      · refine ⟨_, before, ?_, Follows.refl _⟩
        rcases present with started | spawning
        · exact Or.inl started
        · cases spawning
  | ended index =>
      refine iff_of_true (reaches.mono id rfl ?_) id
      intro other connection known present
      obtain ⟨earlier, before, ⟨rfl, rfl⟩ | ⟨-, rfl⟩⟩ :=
        getElem?_modify_cases known
      · exact ⟨earlier, before, present, rfl, rfl, rfl, fun _ => rfl, id⟩
      · exact ⟨_, before, present, Follows.refl _⟩
  | receiverTurned event index connection turn known turns either =>
      have running := turns.started
      refine iff_of_true (reaches.setThread known running.1 running.2.2.1) ?_
      rcases either with rfl | rfl
      · exact id
      · rintro ⟨-, subject, -, -, found, leaving, -⟩
        rw [known] at found
        cases found
        rw [leaving] at turns
        cases turns
  | cleaned index connection known here =>
      exact reaches.cleanUp_iff sound known here
  | stopperTurned =>
      exact iff_of_true
        (reaches.of_same_accepted id rfl rfl (fun _ => id)) id
  | runningCleared =>
      have down : Reaches { threads with
          running := false
          stopper := .shutdownListener } := by
        intro up
        cases up
      exact iff_of_true down id
  | listenerShut =>
      exact iff_of_true
        (reaches.of_same_accepted id rfl rfl (fun _ => id)) id
  | connectionsClosed here =>
      have stopped := sound.atStop
      rw [AtStop, here] at stopped
      have down : Reaches { threads with
          closedByStop := threads.closedByStop + threads.mapped
          connections := ∅
          stopper := .joinReceivers } := by
        intro up
        have running : threads.running = true := up
        rw [stopped.1] at running
        cases running
      exact iff_of_true down id

end Reaches

/-! ## Whole runs -/

theorem not_cutsOff_of_blocked
    {threads : ServerThreads} {event : ServerEvent} {thrown : Blocked}
    (failed : threads.step event = .error thrown) :
    ¬ CutsOff threads event := by
  cases event with
  | receiver index =>
      rintro ⟨-, connection, -, -, known, leaving, -⟩
      simp only [ServerThreads.step, ServerThreads.advance,
        ServerThreads.receiverStep, known, leaving] at failed
      cases failed
  | _ => exact id

/--
In every run of the threads of a server, `send` finds every live connection
after every step exactly if no cleanup comes after the connection that
followed it: the loop of a connection that has ended erases its key before a
new connection of the same peer is inserted, or after that has ended as well.
-/
theorem reaches_throughout_iff (events : List ServerEvent) :
    Throughout ServerThreads.step Reaches .started events ↔
      Along ServerThreads.step
        (fun threads event => ¬ CutsOff threads event) .started events := by
  have reaches : Reaches .started := by
    intro up index connection known
    cases known
  refine throughout_iff_along ?preserved ?exactStep ?failing Sound.started
    reaches
  case preserved =>
    intro threads event output next stepped sound
    exact sound.moves (ServerThreads.moves_of_step stepped)
  case exactStep =>
    intro threads event output next stepped sound reaches
    exact reaches.moves_iff (ServerThreads.moves_of_step stepped) sound
  case failing =>
    intro threads event thrown failed
    exact not_cutsOff_of_blocked failed

/-- A phone of the local network, on the descriptor that `accept` gave it. -/
def phone (descriptor : Nat) : Connection where
  ip := "10.0.0.7"
  port := 5060
  descriptor := descriptor

/-- The phone reconnects before its first connection is cleaned up. -/
def reconnect : List ServerEvent :=
  [.acceptor, .accept (some (phone 5)), .acceptor, .acceptor, .acceptor,
    .receiver 0, .ends 0, .receiver 0,
    .acceptor, .accept (some (phone 6)), .acceptor, .acceptor, .acceptor,
    .receiver 0]

/-- The second connection is live and `send` does not know it. -/
theorem reconnect_cutsOff :
    (∃ history threads,
      run ServerThreads.step .started reconnect = .ok (history, threads) ∧
      threads.running = true ∧
      threads.accepted[1]? = some { phone 6 with thread := .checking } ∧
      threads.sendDescriptor (phone 6).ip (phone 6).port = none) ∧
    ¬ ∀ events, Throughout ServerThreads.step Reaches .started events := by
  have tested : succeedsWith
      (run ServerThreads.step .started reconnect)
      (fun value => decide (value.2.running = true ∧
        value.2.accepted[1]? = some { phone 6 with thread := .checking } ∧
        value.2.sendDescriptor (phone 6).ip (phone 6).port = none)) =
          true := by
    decide +kernel
  obtain ⟨⟨history, threads⟩, ran, outcome⟩ := exists_of_succeedsWith tested
  obtain ⟨up, known, lost⟩ := of_decide_eq_true outcome
  refine ⟨⟨history, threads, ran, up, known, lost⟩, ?_⟩
  intro claimed
  have reached := (claimed reconnect).last ran up 1 _ known
    (Or.inl (by decide)) rfl
  rw [show threads.sendDescriptor _ _ = none from lost] at reached
  cases reached

end MinimalSip.Networking.TcpTransport

import MinimalSip.Networking.TcpReachability

/-!
# Who closes a descriptor

Two owners close descriptors: `stop` those in the map, and each receive loop
its own.  What `accept` has returned is either closed by its loop or still
open; the entries of the map are open connections, so whatever `stop` closes
is closed again, and the connection that the accept thread has in hand when
it ends is closed by nobody.
-/

namespace MinimalSip.Networking.TcpTransport

open MinimalSip.Lib.Cpp
open MinimalSip.Lib.Machine

/-! ## Sums over a list with one item changed -/

theorem sum_map_modify
    {α M : Type} [AddCommMonoid M]
    (weight : α → M) (change : α → α)
    {items : List α} {index : Nat} {item : α}
    (known : items[index]? = some item) :
    ((items.modify index change).map weight).sum + weight item =
      (items.map weight).sum + weight (change item) := by
  induction items generalizing index with
  | nil => cases known
  | cons first rest ih =>
      cases index with
      | zero =>
          obtain rfl : first = item := Option.some.inj known
          simp only [List.modify_zero_cons, List.map_cons, List.sum_cons]
          abel
      | succ index =>
          have later := @ih index known
          simp only [List.modify_succ_cons, List.map_cons, List.sum_cons,
            add_assoc, later]

theorem map_modify_of_kept
    {α β : Type} (read : α → β) (change : α → α)
    (kept : ∀ item, read (change item) = read item)
    (items : List α) (index : Nat) :
    (items.modify index change).map read = items.map read := by
  induction items generalizing index with
  | nil => simp
  | cons first rest ih =>
      cases index with
      | zero => simp [kept]
      | succ index => simp [ih]

/-! ## Accounting for descriptors -/

namespace ServerThreads

/-- The descriptor of a connection that its loop has not closed. -/
def held (connection : Connection) : Multiset Nat :=
  if connection.thread = .exited then 0 else {connection.descriptor}

def openDescriptors (threads : ServerThreads) : Multiset Nat :=
  (threads.accepted.map held).sum

variable {threads : ServerThreads} {index : Nat} {connection : Connection}

@[simp]
theorem acceptedDescriptors_setThread (thread : ReceiveThread) :
    (threads.setThread index thread).acceptedDescriptors =
      threads.acceptedDescriptors :=
  congrArg (fun descriptors : List Nat => (descriptors : Multiset Nat))
    (map_modify_of_kept Connection.descriptor
      (fun connection => { connection with thread := thread })
      (fun _ => rfl) _ _)

@[simp]
theorem acceptedDescriptors_endStream :
    (threads.endStream index).acceptedDescriptors =
      threads.acceptedDescriptors :=
  congrArg (fun descriptors : List Nat => (descriptors : Multiset Nat))
    (map_modify_of_kept Connection.descriptor
      (fun connection => { connection with ended := true })
      (fun _ => rfl) _ _)

@[simp]
theorem openDescriptors_endStream :
    (threads.endStream index).openDescriptors = threads.openDescriptors :=
  congrArg List.sum (map_modify_of_kept held
    (fun connection => { connection with ended := true })
    (fun _ => rfl) _ _)

/-- A loop that goes on keeps its descriptor. -/
theorem openDescriptors_setThread
    {thread : ReceiveThread}
    (known : threads.accepted[index]? = some connection)
    (before : connection.thread ≠ .exited)
    (after : thread ≠ .exited) :
    (threads.setThread index thread).openDescriptors =
      threads.openDescriptors := by
  have moved := sum_map_modify held
    (fun connection => { connection with thread := thread }) known
  have same : held { connection with thread := thread } =
      held connection := by
    rw [held, held, if_neg before, if_neg after]
  rw [same] at moved
  exact add_right_cancel moved

/-- A loop that ends gives its descriptor up. -/
theorem openDescriptors_exit
    (known : threads.accepted[index]? = some connection)
    (before : connection.thread ≠ .exited) :
    connection.descriptor ::ₘ
        (threads.setThread index .exited).openDescriptors =
      threads.openDescriptors := by
  have moved := sum_map_modify held
    (fun connection => { connection with thread := .exited }) known
  have own : held connection = {connection.descriptor} := by
    rw [held, if_neg before]
  have gone : held { connection with thread := .exited } = 0 := by
    rw [held, if_pos rfl]
  rw [own, gone, add_zero] at moved
  rw [← Multiset.singleton_add, add_comm]
  exact moved

theorem mem_openDescriptors
    (known : threads.accepted[index]? = some connection)
    (present : connection.thread ≠ .exited) :
    connection.descriptor ∈ threads.openDescriptors := by
  rw [← openDescriptors_exit known present]
  exact Multiset.mem_cons_self _ _

theorem openDescriptors_eq_zero
    (exited : ∀ (index : Nat) (connection : Connection),
      threads.accepted[index]? = some connection →
        connection.thread = .exited) :
    threads.openDescriptors = 0 := by
  apply List.sum_eq_zero
  intro descriptors member
  obtain ⟨connection, known, rfl⟩ := List.mem_map.mp member
  obtain ⟨index, found⟩ := List.mem_iff_getElem?.mp known
  exact if_pos (exited index connection found)

theorem mem_mapped_iff {descriptor : Nat} :
    descriptor ∈ threads.mapped ↔
      ∃ key, threads.connections.lookup key = some descriptor := by
  unfold mapped
  rw [Multiset.mem_map]
  constructor
  · rintro ⟨⟨key, value⟩, member, rfl⟩
    exact ⟨key, Finmap.mem_lookup_iff.mpr member⟩
  · rintro ⟨key, found⟩
    exact ⟨⟨key, descriptor⟩, Finmap.mem_lookup_iff.mp found, rfl⟩

theorem mapped_eq_zero_iff :
    threads.mapped = 0 ↔ threads.connections = ∅ := by
  unfold mapped
  rw [Multiset.map_eq_zero]
  exact ⟨fun empty => Finmap.ext empty, fun empty => by rw [empty]; rfl⟩

end ServerThreads

/-- Where every descriptor is that `accept` has returned. -/
structure Accounted (threads : ServerThreads) : Prop where
  account : threads.acceptedDescriptors =
    threads.closedByLoops + threads.openDescriptors
  distinct : ∀ (index other : Nat) (connection later : Connection),
    index < other →
    threads.accepted[index]? = some connection →
    threads.accepted[other]? = some later →
    connection.thread ≠ .exited → later.thread ≠ .exited →
      connection.descriptor ≠ later.descriptor
  mapped : ∀ key descriptor,
    threads.connections.lookup key = some descriptor →
      ∃ (index : Nat) (connection : Connection),
        threads.accepted[index]? = some connection ∧
        connection.thread ≠ .exited ∧ threads.Inserted index connection ∧
        connection.key = key ∧ connection.descriptor = descriptor
  left : ∀ (index : Nat) (connection : Connection),
    threads.acceptor = .exited (some index) →
    threads.accepted[index]? = some connection →
      connection.descriptor ∉ threads.closedByStop

namespace Accounted

variable {threads next : ServerThreads} {event : ServerEvent}

theorem started : Accounted .started where
  account := rfl
  distinct := by
    intro index other connection later order known
    cases known
  mapped := by
    intro key descriptor found
    cases found
  left := by
    intro index connection exited
    cases exited

theorem account_moves
    (moves : Moves threads event next) (sound : Sound threads)
    (accounted : Accounted threads) :
    next.acceptedDescriptors =
      next.closedByLoops + next.openDescriptors := by
  have account := accounted.account
  cases moves with
  | accepted offered here offers =>
      have one : (threads.accepted ++ [offered]).map Connection.descriptor =
          threads.accepted.map Connection.descriptor ++
            [offered.descriptor] := by
        simp
      have own : ServerThreads.held offered = {offered.descriptor} := by
        rw [ServerThreads.held, offers.new.2]
        rfl
      have more : ((threads.accepted ++ [offered]).map
          ServerThreads.held).sum =
            threads.openDescriptors + {offered.descriptor} := by
        rw [List.map_append, List.sum_append, List.map_singleton,
          List.sum_singleton, own]
        rfl
      show (((threads.accepted ++ [offered]).map Connection.descriptor :
        List Nat) : Multiset Nat) = threads.closedByLoops +
          ((threads.accepted ++ [offered]).map ServerThreads.held).sum
      rw [one, more, ← add_assoc, ← account, ← Multiset.coe_add]
      rfl
  | spawned index here =>
      show (threads.setThread index .checking).acceptedDescriptors =
        threads.closedByLoops +
          (threads.setThread index .checking).openDescriptors
      obtain ⟨connection, known, waiting⟩ :=
        sound.handed.exists_waiting (congrArg AcceptThread.inHand here)
      have present : connection.thread ≠ .exited := by
        rw [waiting]
        decide
      rw [ServerThreads.acceptedDescriptors_setThread,
        ServerThreads.openDescriptors_setThread known present (by decide)]
      exact account
  | ended index =>
      rw [ServerThreads.acceptedDescriptors_endStream,
        ServerThreads.openDescriptors_endStream]
      exact account
  | receiverTurned event index connection turn known turns =>
      rw [ServerThreads.acceptedDescriptors_setThread,
        ServerThreads.openDescriptors_setThread known
          turns.started.2.2.1 turns.started.2.2.2]
      exact account
  | cleaned index connection known here =>
      have present : connection.thread ≠ .exited := by
        rw [here]
        decide
      have gaveUp := ServerThreads.openDescriptors_exit known present
      show (threads.setThread index .exited).acceptedDescriptors =
        (connection.descriptor ::ₘ threads.closedByLoops) +
          (threads.setThread index .exited).openDescriptors
      rw [ServerThreads.acceptedDescriptors_setThread, account, ← gaveUp,
        Multiset.add_cons, Multiset.cons_add]
  | acceptorTurned => exact account
  | acceptFailed => exact account
  | inserted => exact account
  | stopperTurned => exact account
  | runningCleared => exact account
  | listenerShut => exact account
  | connectionsClosed => exact account

/-- What the kernel returns is not the descriptor of an open connection. -/
theorem fresh_of_offers
    (sound : Sound threads) (accounted : Accounted threads)
    {offered earlier : Connection} {index : Nat}
    (here : threads.acceptor = .accepting)
    (offers : threads.Offers offered)
    (known : threads.accepted[index]? = some earlier)
    (present : earlier.thread ≠ .exited) :
    earlier.descriptor ≠ offered.descriptor := by
  intro same
  have accepting : threads.acceptorExited = false := by
    rw [ServerThreads.acceptorExited, here]
  have untouched := sound.atStop.closedByStop_of_accepting accepting
  have member := ServerThreads.mem_openDescriptors known present
  rw [same] at member
  have counted := Multiset.count_pos.mpr member
  apply offers.fresh
  rw [ServerThreads.IsOpen, ServerThreads.closed, untouched, add_zero,
    accounted.account, Multiset.count_add]
  omega

theorem distinct_moves
    (moves : Moves threads event next) (sound : Sound threads)
    (accounted : Accounted threads)
    {index other : Nat} {connection later : Connection}
    (order : index < other)
    (known : next.accepted[index]? = some connection)
    (found : next.accepted[other]? = some later)
    (present : connection.thread ≠ .exited)
    (presentLater : later.thread ≠ .exited) :
    connection.descriptor ≠ later.descriptor := by
  rcases moves.origin sound.handed known with
    ⟨before, knownBefore, follows⟩ | ⟨rfl, -, -⟩
  · have was : before.thread ≠ .exited :=
      fun exited => present (follows.exited exited)
    rcases moves.origin sound.handed found with
      ⟨past, foundBefore, followsPast⟩ | ⟨rfl, here, offers⟩
    · have wasLater : past.thread ≠ .exited :=
        fun exited => presentLater (followsPast.exited exited)
      rw [follows.descriptor, followsPast.descriptor]
      exact accounted.distinct index other before past order knownBefore
        foundBefore was wasLater
    · rw [follows.descriptor]
      exact accounted.fresh_of_offers sound here offers knownBefore was
  · rcases moves.origin sound.handed found with
      ⟨past, foundBefore, -⟩ | ⟨rfl, -, -⟩
    · have inside := (List.getElem?_eq_some_iff.mp foundBefore).1
      omega
    · omega

/-! ### The entries of the map -/

/-- An open connection stands behind an entry of the map. -/
def Backed (threads : ServerThreads) (key : CppString) (descriptor : Nat) :
    Prop :=
  ∃ (index : Nat) (connection : Connection),
    threads.accepted[index]? = some connection ∧
    connection.thread ≠ .exited ∧ threads.Inserted index connection ∧
    connection.key = key ∧ connection.descriptor = descriptor

theorem getElem?_modify_of_known
    {α : Type} {items : List α} {other : Nat} {item : α}
    (index : Nat) (change : α → α) (known : items[other]? = some item) :
    (items.modify index change)[other]? =
      some (if index = other then change item else item) := by
  rw [List.getElem?_modify, known]
  rfl

/-- A loop that goes on stands behind its entry as before. -/
theorem Backed.setThread
    {key : CppString} {descriptor changed : Nat} {thread : ReceiveThread}
    (backed : Backed threads key descriptor)
    (started : thread ≠ .notStarted) (running : thread ≠ .exited) :
    Backed (threads.setThread changed thread) key descriptor := by
  obtain ⟨index, connection, known, present, inserted, rfl, rfl⟩ := backed
  have found := getElem?_modify_of_known changed
    (fun connection => { connection with thread := thread }) known
  by_cases own : changed = index
  · rw [if_pos own] at found
    exact ⟨index, _, found, running, Or.inl started, rfl, rfl⟩
  · rw [if_neg own] at found
    exact ⟨index, _, found, present, inserted, rfl, rfl⟩

/-- Unless a loop is about to start, one has started behind every entry. -/
theorem Backed.started
    {key : CppString} {descriptor : Nat}
    (backed : Backed threads key descriptor)
    (elsewhere : ∀ index, threads.acceptor ≠ .spawning index) :
    ∃ (index : Nat) (connection : Connection),
      threads.accepted[index]? = some connection ∧
      connection.thread ≠ .exited ∧ connection.thread ≠ .notStarted ∧
      connection.key = key ∧ connection.descriptor = descriptor := by
  obtain ⟨index, connection, known, present, inserted, keys⟩ := backed
  have started := inserted.resolve_right (elsewhere index)
  exact ⟨index, connection, known, present, started, keys⟩

theorem mapped_moves
    (moves : Moves threads event next) (sound : Sound threads)
    (accounted : Accounted threads)
    {key : CppString} {descriptor : Nat}
    (found : next.connections.lookup key = some descriptor) :
    Backed next key descriptor := by
  cases moves with
  | acceptorTurned turn turns =>
      have elsewhere : ∀ index, threads.acceptor ≠ .spawning index := by
        intro index spawning
        rw [spawning] at turns
        cases turns
      obtain ⟨index, connection, known, present, started, keys⟩ :=
        Backed.started (accounted.mapped key descriptor found) elsewhere
      exact ⟨index, connection, known, present, Or.inl started, keys⟩
  | acceptFailed here =>
      obtain ⟨index, connection, known, present, started, keys⟩ :=
        Backed.started (accounted.mapped key descriptor found)
          (by rw [here]; simp)
      exact ⟨index, connection, known, present, Or.inl started, keys⟩
  | accepted offered here offers =>
      obtain ⟨index, connection, known, present, started, keys⟩ :=
        Backed.started (accounted.mapped key descriptor found)
          (by rw [here]; simp)
      have inside := (List.getElem?_eq_some_iff.mp known).1
      exact ⟨index, connection,
        (List.getElem?_append_left inside).trans known, present,
        Or.inl started, keys⟩
  | inserted subject connection here known =>
      by_cases own : key = connection.key
      · subst own
        have entry := (Finmap.lookup_insert threads.connections).symm.trans
          found
        cases entry
        have inHand : threads.acceptor.inHand = some subject :=
          congrArg AcceptThread.inHand here
        have waiting := (sound.handed.notStarted subject connection
          known).mpr inHand
        refine ⟨subject, connection, known, ?_, Or.inr rfl, rfl, rfl⟩
        rw [waiting]
        decide
      · have before := (Finmap.lookup_insert_of_ne threads.connections
          own).symm.trans found
        obtain ⟨index, earlier, was, present, started, keys⟩ :=
          Backed.started (accounted.mapped key descriptor before)
            (by rw [here]; simp)
        exact ⟨index, earlier, was, present, Or.inl started, keys⟩
  | spawned subject here =>
      obtain ⟨index, connection, known, present, inserted, keys⟩ :=
        accounted.mapped key descriptor found
      have later := getElem?_modify_of_known subject
        (fun connection => { connection with thread := .checking }) known
      have running : ReceiveThread.checking ≠ .exited := by decide
      have started : ReceiveThread.checking ≠ .notStarted := by decide
      by_cases own : subject = index
      · rw [if_pos own] at later
        exact ⟨index, _, later, running, Or.inl started, keys⟩
      · rw [if_neg own] at later
        refine ⟨index, connection, later, present, Or.inl ?_, keys⟩
        rcases inserted with started | spawning
        · exact started
        · rw [here] at spawning
          exact absurd (AcceptThread.spawning.inj spawning) own
  | ended subject =>
      obtain ⟨index, connection, known, present, inserted, keys⟩ :=
        accounted.mapped key descriptor found
      have later := getElem?_modify_of_known subject
        (fun connection => { connection with ended := true }) known
      by_cases own : subject = index
      · rw [if_pos own] at later
        exact ⟨index, _, later, present, inserted, keys⟩
      · rw [if_neg own] at later
        exact ⟨index, connection, later, present, inserted, keys⟩
  | receiverTurned event subject connection turn known turns =>
      have backed : Backed threads key descriptor :=
        accounted.mapped key descriptor found
      exact backed.setThread turns.started.2.1 turns.started.2.2.2
  | cleaned subject gone known here =>
      by_cases own : key = gone.key
      · subst own
        have erased := (Finmap.lookup_erase gone.key
          threads.connections).symm.trans found
        cases erased
      · have before := (Finmap.lookup_erase_ne own).symm.trans found
        obtain ⟨index, connection, was, present, inserted, rfl, same⟩ :=
          accounted.mapped key descriptor before
        have other : subject ≠ index := by
          rintro rfl
          rw [known] at was
          cases was
          exact own rfl
        have later := getElem?_modify_of_known subject
          (fun connection => { connection with thread := .exited }) was
        rw [if_neg other] at later
        exact ⟨index, connection, later, present, inserted, rfl, same⟩
  | connectionsClosed => cases found
  | stopperTurned => exact accounted.mapped key descriptor found
  | runningCleared => exact accounted.mapped key descriptor found
  | listenerShut => exact accounted.mapped key descriptor found

/-! ### The connection that the accept thread leaves behind -/

/-- What `stop` closes is not the connection that was left behind. -/
theorem not_mem_mapped_of_left
    (sound : Sound threads) (accounted : Accounted threads)
    {index : Nat} {connection : Connection}
    (exited : threads.acceptor = .exited (some index))
    (known : threads.accepted[index]? = some connection) :
    connection.descriptor ∉ threads.mapped := by
  intro member
  obtain ⟨key, found⟩ := ServerThreads.mem_mapped_iff.mp member
  obtain ⟨other, later, foundLater, present, started, -, same⟩ :=
    Backed.started (accounted.mapped key _ found) (by rw [exited]; simp)
  have inHand : threads.acceptor.inHand = some index :=
    congrArg AcceptThread.inHand exited
  have waiting := (sound.handed.notStarted index connection known).mpr inHand
  have apart : other ≠ index := by
    rintro rfl
    rw [known] at foundLater
    cases foundLater
    exact started waiting
  have last := sound.handed.last index inHand
  have inside := (List.getElem?_eq_some_iff.mp foundLater).1
  have presentHere : connection.thread ≠ .exited := by
    rw [waiting]
    decide
  exact accounted.distinct other index later connection (by omega) foundLater
    known present presentHere same

theorem left_moves
    (moves : Moves threads event next) (sound : Sound threads)
    (accounted : Accounted threads)
    {index : Nat} {connection : Connection}
    (exited : next.acceptor = .exited (some index))
    (known : next.accepted[index]? = some connection) :
    connection.descriptor ∉ next.closedByStop := by
  have kept : threads.acceptor = .exited (some index) →
      connection.descriptor ∉ threads.closedByStop := by
    intro before
    rcases moves.origin sound.handed known with
      ⟨earlier, was, follows⟩ | ⟨-, accepting, -⟩
    · rw [follows.descriptor]
      exact accounted.left index earlier before was
    · rw [before] at accepting
      cases accepting
  cases moves with
  | acceptorTurned turn turns =>
      have accepting : threads.acceptorExited = false := by
        unfold ServerThreads.acceptorExited
        generalize threads.acceptor = thread at turns
        cases turns <;> rfl
      have untouched := sound.atStop.closedByStop_of_accepting accepting
      show connection.descriptor ∉ threads.closedByStop
      rw [untouched]
      exact Multiset.notMem_zero _
  | connectionsClosed here =>
      show connection.descriptor ∉ threads.closedByStop + threads.mapped
      rw [Multiset.mem_add, not_or]
      exact ⟨kept exited,
        accounted.not_mem_mapped_of_left sound exited known⟩
  | acceptFailed => cases exited
  | accepted => cases exited
  | inserted => cases exited
  | spawned => cases exited
  | ended => exact kept exited
  | receiverTurned => exact kept exited
  | cleaned => exact kept exited
  | stopperTurned => exact kept exited
  | runningCleared => exact kept exited
  | listenerShut => exact kept exited

theorem moves
    (moves : Moves threads event next) (sound : Sound threads)
    (accounted : Accounted threads) :
    Accounted next where
  account := accounted.account_moves moves sound
  distinct := fun _ _ _ _ => accounted.distinct_moves moves sound
  mapped := fun _ _ => accounted.mapped_moves moves sound
  left := fun _ _ => accounted.left_moves moves sound

end Accounted

/-! ## What goes wrong -/

/-- `stop` has closed nothing and the accept thread has left nothing behind. -/
def Untouched (threads : ServerThreads) : Prop :=
  threads.closedByStop = 0 ∧ ∀ index, threads.acceptor ≠ .exited (some index)

/--
The two steps that mishandle a descriptor: the accept thread drops a
connection because the transport does not run any more, or `stop` closes the
connections while some are left in the map.
-/
def Mishandles (threads : ServerThreads) : ServerEvent → Prop
  | .acceptor => threads.running = false ∧
      ∃ index, threads.acceptor = .returned (some index)
  | .stopper => threads.stopper = .closeConnections ∧ threads.connections ≠ ∅
  | _ => False

namespace Untouched

variable {threads next : ServerThreads} {event : ServerEvent}

theorem moves_iff
    (moves : Moves threads event next) (untouched : Untouched threads) :
    Untouched next ↔ ¬ Mishandles threads event := by
  obtain ⟨closed, left⟩ := untouched
  cases moves with
  | acceptorTurned turn turns =>
      constructor
      · rintro ⟨-, kept⟩ ⟨down, index, here⟩
        rw [here] at turns
        cases turns with
        | keep index up =>
            rw [down] at up
            cases up
        | drop connection down => exact kept index rfl
      · intro handled
        refine ⟨closed, fun index exited => ?_⟩
        have turned : turn = .exited (some index) := exited
        rw [turned] at turns
        generalize here : threads.acceptor = thread at turns
        cases turns with
        | drop connection down => exact handled ⟨down, index, here⟩
  | inserted index connection here known =>
      refine iff_of_true ⟨closed, fun index exited => by cases exited⟩ ?_
      rintro ⟨-, other, returned⟩
      rw [here] at returned
      cases returned
  | spawned index here =>
      refine iff_of_true ⟨closed, fun index exited => by cases exited⟩ ?_
      rintro ⟨-, other, returned⟩
      rw [here] at returned
      cases returned
  | acceptFailed =>
      exact iff_of_true ⟨closed, fun index exited => by cases exited⟩ id
  | accepted =>
      exact iff_of_true ⟨closed, fun index exited => by cases exited⟩ id
  | ended => exact iff_of_true ⟨closed, left⟩ id
  | receiverTurned event index connection turn known turns either =>
      refine iff_of_true ⟨closed, left⟩ ?_
      rcases either with rfl | rfl <;> exact id
  | cleaned => exact iff_of_true ⟨closed, left⟩ id
  | stopperTurned turn turns =>
      refine iff_of_true ⟨closed, left⟩ ?_
      rintro ⟨here, -⟩
      rw [here] at turns
      cases turns
  | runningCleared here =>
      refine iff_of_true ⟨closed, left⟩ ?_
      rintro ⟨there, -⟩
      rw [here] at there
      cases there
  | listenerShut here =>
      refine iff_of_true ⟨closed, left⟩ ?_
      rintro ⟨there, -⟩
      rw [here] at there
      cases there
  | connectionsClosed here =>
      constructor
      · rintro ⟨kept, -⟩ ⟨-, nonempty⟩
        have none : threads.closedByStop + threads.mapped = 0 := kept
        rw [closed, zero_add] at none
        exact nonempty (ServerThreads.mapped_eq_zero_iff.mp none)
      · intro handled
        have empty : threads.connections = ∅ := by
          by_contra nonempty
          exact handled ⟨here, nonempty⟩
        refine ⟨?_, left⟩
        show threads.closedByStop + threads.mapped = 0
        rw [closed, zero_add, ServerThreads.mapped_eq_zero_iff]
        exact empty

/-- What is mishandled stays mishandled. -/
theorem of_moves
    (moves : Moves threads event next) (untouched : Untouched next) :
    Untouched threads := by
  obtain ⟨closed, left⟩ := untouched
  have leftBefore : (∀ index, threads.acceptor = .exited (some index) →
      next.acceptor = .exited (some index)) →
        ∀ index, threads.acceptor ≠ .exited (some index) :=
    fun kept index exited => left index (kept index exited)
  cases moves with
  | acceptorTurned turn turns =>
      refine ⟨closed, leftBefore (fun index exited => ?_)⟩
      rw [exited] at turns
      cases turns
  | acceptFailed here =>
      refine ⟨closed, leftBefore (fun index exited => ?_)⟩
      rw [here] at exited
      cases exited
  | accepted offered here offers =>
      refine ⟨closed, leftBefore (fun index exited => ?_)⟩
      rw [here] at exited
      cases exited
  | inserted index connection here known =>
      refine ⟨closed, leftBefore (fun index exited => ?_)⟩
      rw [here] at exited
      cases exited
  | spawned index here =>
      refine ⟨closed, leftBefore (fun index exited => ?_)⟩
      rw [here] at exited
      cases exited
  | connectionsClosed here =>
      have none : threads.closedByStop + threads.mapped = 0 := closed
      have below : threads.closedByStop ≤ 0 :=
        none ▸ Multiset.le_add_right _ _
      exact ⟨Multiset.le_zero.mp below, left⟩
  | _ => exact ⟨closed, left⟩

end Untouched

/-! ## Whole runs -/

/--
Once `stop` has returned, every descriptor is closed exactly once if and only
if `stop` closed none and the accept thread left none behind.
-/
theorem closed_iff_untouched
    {threads : ServerThreads}
    (sound : Sound threads) (accounted : Accounted threads)
    (returned : threads.stopper = .returned) :
    threads.closed = threads.acceptedDescriptors ↔ Untouched threads := by
  have stopped := sound.atStop
  rw [AtStop, returned] at stopped
  obtain ⟨-, exited, done⟩ := stopped
  have equation : threads.closed = threads.acceptedDescriptors ↔
      threads.closedByStop = threads.openDescriptors := by
    rw [ServerThreads.closed, accounted.account]
    exact add_right_inj _
  have allExited : (∀ index, threads.acceptor ≠ .exited (some index)) →
      threads.openDescriptors = 0 := by
    intro noneLeft
    apply ServerThreads.openDescriptors_eq_zero
    intro index connection known
    refine (done index connection known).resolve_left (fun waiting => ?_)
    have inHand := (sound.handed.notStarted index connection known).mp waiting
    cases thread : threads.acceptor with
    | exited connection =>
        rw [thread] at inHand
        exact noneLeft index (by rw [thread, show connection = _ from inHand])
    | _ =>
        rw [ServerThreads.acceptorExited, thread] at exited
        cases exited
  rw [equation]
  constructor
  · intro balanced
    have noneLeft : ∀ index, threads.acceptor ≠ .exited (some index) := by
      intro index here
      obtain ⟨connection, known, waiting⟩ :=
        sound.handed.exists_waiting (congrArg AcceptThread.inHand here)
      have present : connection.thread ≠ .exited := by
        rw [waiting]
        decide
      have member := ServerThreads.mem_openDescriptors known present
      rw [← balanced] at member
      exact accounted.left index connection here known member
    exact ⟨balanced.trans (allExited noneLeft), noneLeft⟩
  · rintro ⟨closed, noneLeft⟩
    rw [closed, allExited noneLeft]

theorem not_mishandles_of_blocked
    {threads : ServerThreads} {event : ServerEvent} {thrown : Blocked}
    (failed : threads.step event = .error thrown) :
    ¬ Mishandles threads event := by
  cases event with
  | acceptor =>
      rintro ⟨down, index, here⟩
      simp only [ServerThreads.step, ServerThreads.advance,
        ServerThreads.acceptorStep, here, down] at failed
      cases failed
  | stopper =>
      rintro ⟨here, -⟩
      simp only [ServerThreads.step, ServerThreads.advance,
        ServerThreads.stopperStep, here] at failed
      cases failed
  | _ => exact id

/--
In every run of the threads of a server that ends after `stop` has returned,
each accepted descriptor has been closed exactly once if and only if `stop`
found no connection in the map and the accept thread did not find a
connection in its hand with the transport stopped.
-/
theorem closed_once_iff
    {events : List ServerEvent} {history : List (ServerEvent × Unit)}
    {threads : ServerThreads}
    (ran : run ServerThreads.step .started events = .ok (history, threads))
    (returned : threads.stopper = .returned) :
    threads.closed = threads.acceptedDescriptors ↔
      Along ServerThreads.step
        (fun threads event => ¬ Mishandles threads event) .started events := by
  have steps : ∀ {threads event output next},
      ServerThreads.step threads event = .ok (output, next) →
        Sound threads ∧ Accounted threads → Sound next ∧ Accounted next := by
    rintro threads event output next stepped ⟨sound, accounted⟩
    have moves := ServerThreads.moves_of_step stepped
    exact ⟨sound.moves moves, accounted.moves moves sound⟩
  obtain ⟨sound, accounted⟩ := run_invariant steps ran
    ⟨Sound.started, Accounted.started⟩
  have untouched : Untouched .started :=
    ⟨rfl, fun index exited => by cases exited⟩
  have exact : Throughout ServerThreads.step Untouched .started events ↔
      Along ServerThreads.step
        (fun threads event => ¬ Mishandles threads event) .started events := by
    have anything : ∀ {threads event output next},
        ServerThreads.step threads event = .ok (output, next) →
          True → True := fun _ _ => trivial
    refine throughout_iff_along anything ?exactStep ?failing trivial
      untouched
    case exactStep =>
      intro threads event output next stepped _ before
      exact before.moves_iff (ServerThreads.moves_of_step stepped)
    case failing =>
      intro threads event thrown failed
      exact not_mishandles_of_blocked failed
  rw [closed_iff_untouched sound accounted returned, ← exact]
  constructor
  · intro atEnd
    refine Throughout.of_last ?_ ran atEnd
    intro threads event output next stepped after
    exact after.of_moves (ServerThreads.moves_of_step stepped)
  · intro throughout
    exact throughout.last ran

/-! Runs of one phone and `stop`. -/

instance (threads : ServerThreads) (event : ServerEvent) :
    Decidable (Mishandles threads event) :=
  match event with
  | .acceptor =>
      match here : threads.acceptor with
      | .returned (some index) =>
          decidable_of_iff (threads.running = false)
            ⟨fun down => ⟨down, index, here⟩, And.left⟩
      | .returned none => .isFalse (by simp [Mishandles, here])
      | .checking => .isFalse (by simp [Mishandles, here])
      | .accepting => .isFalse (by simp [Mishandles, here])
      | .inserting index => .isFalse (by simp [Mishandles, here])
      | .spawning index => .isFalse (by simp [Mishandles, here])
      | .exited connection => .isFalse (by simp [Mishandles, here])
  | .stopper => inferInstanceAs (Decidable
      (threads.stopper = .closeConnections ∧ threads.connections ≠ ∅))
  | .accept _ => .isFalse id
  | .ends _ => .isFalse id
  | .receives _ => .isFalse id
  | .receiver _ => .isFalse id

/-- The phone connects and its receive loop waits for data. -/
def connectPhone : List ServerEvent :=
  [.acceptor, .accept (some (phone 5)), .acceptor, .acceptor, .acceptor,
    .receiver 0]

/-- `stop` as far as the shutdown of the listener, and the accept thread. -/
def stopAccepting : List ServerEvent :=
  [.acceptor, .stopper, .stopper, .stopper, .accept none, .acceptor, .stopper]

/-- The phone hangs up before `stop` is called. -/
def hangUpThenStop : List ServerEvent :=
  connectPhone ++ [.ends 0, .receiver 0, .receiver 0] ++ stopAccepting ++
    [.stopper, .stopper]

/-- `stop` finds the phone connected. -/
def stopThenHangUp : List ServerEvent :=
  connectPhone ++ stopAccepting ++
    [.stopper, .ends 0, .receiver 0, .receiver 0, .stopper]

/-- The phone connects while `stop` begins. -/
def stopWhileAccepting : List ServerEvent :=
  [.acceptor, .stopper, .stopper, .accept (some (phone 5)), .acceptor,
    .stopper, .stopper, .stopper, .stopper]

theorem closed_once_hangUpThenStop :
    ∃ history threads,
      run ServerThreads.step .started hangUpThenStop =
        .ok (history, threads) ∧
      threads.stopper = .returned ∧
      threads.closed = threads.acceptedDescriptors ∧
      threads.acceptedDescriptors = {5} := by
  have tested : succeedsWith
      (run ServerThreads.step .started hangUpThenStop)
      (fun value => decide (value.2.stopper = .returned ∧
        value.2.acceptedDescriptors = {5})) = true := by
    decide +kernel
  have handled : Along ServerThreads.step
      (fun threads event => ¬ Mishandles threads event) .started
        hangUpThenStop := by
    decide +kernel
  obtain ⟨⟨history, threads⟩, ran, outcome⟩ := exists_of_succeedsWith tested
  obtain ⟨returned, accepted⟩ := of_decide_eq_true outcome
  exact ⟨history, threads, ran, returned,
    (closed_once_iff ran returned).mpr handled, accepted⟩

/--
A descriptor that is still in the map is closed by `stop` and again by its
loop; one that is accepted while `stop` begins is never closed.
-/
theorem closed_twice_stopThenHangUp :
    (∃ history threads,
      run ServerThreads.step .started stopThenHangUp =
        .ok (history, threads) ∧
      threads.stopper = .returned ∧ threads.acceptedDescriptors = {5} ∧
      threads.closed = {5, 5}) ∧
    (∃ history threads,
      run ServerThreads.step .started stopWhileAccepting =
        .ok (history, threads) ∧
      threads.stopper = .returned ∧ threads.acceptedDescriptors = {5} ∧
      threads.closed = 0) ∧
    ¬ ∀ (events : List ServerEvent) (history : List (ServerEvent × Unit))
      (threads : ServerThreads),
      run ServerThreads.step .started events = .ok (history, threads) →
      threads.stopper = .returned →
        threads.closed = threads.acceptedDescriptors := by
  have twice : succeedsWith
      (run ServerThreads.step .started stopThenHangUp)
      (fun value => decide (value.2.stopper = .returned ∧
        value.2.acceptedDescriptors = {5} ∧ value.2.closed = {5, 5})) =
          true := by
    decide +kernel
  have never : succeedsWith
      (run ServerThreads.step .started stopWhileAccepting)
      (fun value => decide (value.2.stopper = .returned ∧
        value.2.acceptedDescriptors = {5} ∧ value.2.closed = 0)) = true := by
    decide +kernel
  obtain ⟨⟨history, threads⟩, ran, outcome⟩ := exists_of_succeedsWith twice
  obtain ⟨⟨past, left⟩, ranLeft, outcomeLeft⟩ := exists_of_succeedsWith never
  obtain ⟨returned, accepted, closed⟩ := of_decide_eq_true outcome
  refine ⟨⟨history, threads, ran, returned, accepted, closed⟩,
    ⟨past, left, ranLeft, of_decide_eq_true outcomeLeft⟩, ?_⟩
  intro claimed
  have once := claimed stopThenHangUp history threads ran returned
  rw [show threads.closed = {5, 5} from closed,
    show threads.acceptedDescriptors = {5} from accepted] at once
  exact absurd once (by decide)

end MinimalSip.Networking.TcpTransport

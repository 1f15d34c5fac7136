import MinimalSip.Lib.Machine
import MinimalSip.Networking.TcpTransport

/-!
# The receive loop of the UDP transport

`receiveLoop` reads one datagram a turn and hands it to the callback.  What
does not fit into the buffer is cut off by `recvfrom`; a datagram that fills
the buffer may have been cut, so the loop drops it and doubles the buffer.

The thread reads `running` at the head of the loop, so a turn that has begun
is carried through after `stop` has cleared it.
-/

namespace MinimalSip.Networking

open MinimalSip.Lib.Cpp
open MinimalSip.Lib.Machine
open MinimalSip.Common
open MinimalSip.Proxy

structure Datagram where
  data : CppString
  ip : CppString
  port : UInt16
deriving DecidableEq

/-- Where the receiving thread stands. -/
inductive ReceiveThread where
  | testing
  | receiving
  | returned
deriving DecidableEq

/-- The socket's queue is kept by the system; the rest is the transport's. -/
structure UdpTransport where
  queue : List Datagram := []
  bufferSize : Nat := 65536
  running : Bool := true
  thread : ReceiveThread := .testing

/-- What can happen to the transport after `start`. -/
inductive UdpEvent where
  | arrives (datagram : Datagram)
  | advances
  | fails
  | stops

namespace UdpTransport

/-- `recvFrom` and what the loop makes of its result. -/
def receive (transport : UdpTransport) : Option Datagram × UdpTransport :=
  match transport.queue with
  | [] => (none, transport)
  | datagram :: queue =>
      let received := datagram.data.take transport.bufferSize
      if received.length = transport.bufferSize then
        (none, { transport with
          queue := queue
          bufferSize := transport.bufferSize * 2 })
      else if 0 < received.length then
        (some { datagram with data := received },
          { transport with queue := queue })
      else (none, { transport with queue := queue })

def receiveLoop (transport : UdpTransport) :
    Option Datagram × UdpTransport :=
  match transport.thread with
  | .testing =>
      if transport.running then
        (none, { transport with thread := .receiving })
      else (none, { transport with thread := .returned })
  | .receiving =>
      let (given, transport) := transport.receive
      (given, { transport with thread := .testing })
  | .returned => (none, transport)

/-- An error of `recvfrom` takes nothing from the queue. -/
def receiveFails (transport : UdpTransport) : UdpTransport :=
  match transport.thread with
  | .receiving => { transport with thread := .testing }
  | _ => transport

/-- The output is what the callback is given. -/
def step (transport : UdpTransport) :
    UdpEvent → Except StdException (Option Datagram × UdpTransport)
  | .arrives datagram =>
      .ok (none, { transport with queue := transport.queue ++ [datagram] })
  | .advances => .ok transport.receiveLoop
  | .fails => .ok (none, transport.receiveFails)
  | .stops => .ok (none, { transport with running := false })

/-! ## What a history has seen -/

def arrival : UdpEvent → Option Datagram
  | .arrives datagram => some datagram
  | _ => none

/-- The datagrams that have arrived. -/
def arrivals (history : List (UdpEvent × Option Datagram)) :
    List Datagram :=
  history.filterMap (fun entry => arrival entry.1)

/-- The datagrams that the callback has been given. -/
def delivered (history : List (UdpEvent × Option Datagram)) :
    List Datagram :=
  history.filterMap Prod.snd

/-- An empty datagram is not handed on. -/
def isNonempty (datagram : Datagram) : Bool :=
  datagram.data ≠ []

@[simp]
theorem arrivals_concat
    (past : List (UdpEvent × Option Datagram)) (event : UdpEvent)
    (given : Option Datagram) :
    arrivals (past ++ [(event, given)]) =
      arrivals past ++ (arrival event).toList := by
  rw [arrivals, List.filterMap_append]
  cases arrived : arrival event <;> simp [arrivals, arrived]

@[simp]
theorem delivered_concat
    (past : List (UdpEvent × Option Datagram)) (event : UdpEvent)
    (given : Option Datagram) :
    delivered (past ++ [(event, given)]) =
      delivered past ++ given.toList := by
  rw [delivered, List.filterMap_append]
  cases given <;> simp [delivered]

/-! ## One turn of the loop -/

/-- What becomes of the first datagram in the queue. -/
inductive Turn (transport : UdpTransport) (datagram : Datagram)
    (queue : List Datagram) : Option Datagram → UdpTransport → Prop where
  | dropped (long : transport.bufferSize ≤ datagram.data.length) :
      Turn transport datagram queue none
        { transport with
          queue := queue
          bufferSize := transport.bufferSize * 2 }
  | given (fits : datagram.data.length < transport.bufferSize)
      (nonempty : isNonempty datagram = true) :
      Turn transport datagram queue (some datagram)
        { transport with queue := queue }
  | skipped (empty : isNonempty datagram = false) :
      Turn transport datagram queue none { transport with queue := queue }

theorem turn_of_receive
    {transport : UdpTransport} {datagram : Datagram} {queue : List Datagram}
    (waiting : transport.queue = datagram :: queue)
    (room : 0 < transport.bufferSize) :
    Turn transport datagram queue transport.receive.1
      transport.receive.2 := by
  unfold receive
  rw [waiting]
  dsimp only
  rw [List.length_take]
  split_ifs with filled some
  · exact .dropped (by omega)
  · have fits : datagram.data.length < transport.bufferSize := by omega
    have nonempty : isNonempty datagram = true := by
      rw [isNonempty, decide_eq_true_eq, ← List.length_pos_iff]
      omega
    rw [List.take_of_length_le fits.le]
    exact .given fits nonempty
  · refine .skipped ?_
    rw [isNonempty, decide_eq_false_iff_not, not_not,
      ← List.length_eq_zero_iff]
    omega

/-! ## What the loop has taken -/

/--
The datagrams taken so far, in order: the nonempty ones have been delivered
whole, but for as many as the buffer has been doubled.
-/
structure Accounts (past : List (UdpEvent × Option Datagram))
    (transport : UdpTransport) (taken : List Datagram)
    (doubled : Nat) : Prop where
  split : arrivals past = taken ++ transport.queue
  inOrder : (delivered past).Sublist (taken.filter isNonempty)
  lost : (taken.filter isNonempty).length =
    (delivered past).length + doubled
  size : transport.bufferSize = 65536 * 2 ^ doubled

section Steps

variable {past : List (UdpEvent × Option Datagram)}
  {transport next : UdpTransport} {taken : List Datagram} {doubled : Nat}

/-- Steps that neither take a datagram nor bring one do not matter. -/
theorem Accounts.idle
    {event : UdpEvent}
    (accounts : Accounts past transport taken doubled)
    (nothing : arrival event = none)
    (sameQueue : next.queue = transport.queue)
    (sameSize : next.bufferSize = transport.bufferSize) :
    Accounts (past ++ [(event, none)]) next taken doubled where
  split := by
    rw [arrivals_concat, nothing, sameQueue]
    simpa using accounts.split
  inOrder := by simpa using accounts.inOrder
  lost := by simpa using accounts.lost
  size := sameSize.trans accounts.size

theorem Accounts.arrives
    (accounts : Accounts past transport taken doubled)
    (datagram : Datagram) :
    Accounts (past ++ [(.arrives datagram, none)])
      { transport with queue := transport.queue ++ [datagram] }
      taken doubled where
  split := by
    rw [arrivals_concat, accounts.split, List.append_assoc]
    rfl
  inOrder := by simpa using accounts.inOrder
  lost := by simpa using accounts.lost
  size := accounts.size

theorem Accounts.turn
    {datagram : Datagram} {queue : List Datagram} {given : Option Datagram}
    (accounts : Accounts past transport taken doubled)
    (waiting : transport.queue = datagram :: queue)
    (turn : Turn transport datagram queue given next) :
    ∃ more, Accounts (past ++ [(.advances, given)]) next
        (taken ++ [datagram]) more ∧
      (more = doubled ∨
        more = doubled + 1 ∧ 65536 * 2 ^ doubled ≤ datagram.data.length) :=
    by
  have split : arrivals (past ++ [(.advances, given)]) =
      (taken ++ [datagram]) ++ queue := by
    rw [arrivals_concat, accounts.split, waiting]
    simp [arrival]
  have inOrder := accounts.inOrder
  have lost := accounts.lost
  have size := accounts.size
  cases turn with
  | dropped long =>
      have nonempty : isNonempty datagram = true := by
        rw [isNonempty, decide_eq_true_eq, ← List.length_pos_iff]
        have positive := Nat.two_pow_pos doubled
        omega
      refine ⟨doubled + 1, ⟨split, ?_, ?_, ?_⟩, Or.inr ⟨rfl, size ▸ long⟩⟩
      · simpa using inOrder.trans (by simp)
      · simp [nonempty, lost]
        omega
      · simp only [size, pow_succ, Nat.mul_assoc]
  | given fits nonempty =>
      refine ⟨doubled, ⟨split, ?_, ?_, size⟩, Or.inl rfl⟩
      · simpa [nonempty] using inOrder
      · simp [nonempty, lost]
        omega
  | skipped empty =>
      refine ⟨doubled, ⟨split, ?_, ?_, size⟩, Or.inl rfl⟩
      · simpa [empty] using inOrder
      · simpa [empty] using lost

end Steps

/-- What holds of all arrivals holds of those before the last step. -/
theorem forall_arrivals_of_concat
    {past : List (UdpEvent × Option Datagram)} {event : UdpEvent}
    {given : Option Datagram} {property : Datagram → Prop}
    (all : ∀ datagram ∈ arrivals (past ++ [(event, given)]),
      property datagram) :
    ∀ datagram ∈ arrivals past, property datagram := by
  intro datagram member
  exact all datagram
    (by rw [arrivals_concat]; exact List.mem_append_left _ member)

/-- Doublings are paid for by long datagrams. -/
def WithinBound (bound : Nat)
    (past : List (UdpEvent × Option Datagram))
    (transport : UdpTransport) : Prop :=
  (∀ datagram ∈ arrivals past, datagram.data.length < 65536 * 2 ^ bound) →
    ∃ taken doubled, Accounts past transport taken doubled ∧
      doubled ≤ bound

theorem WithinBound.advances
    {bound : Nat} {past : List (UdpEvent × Option Datagram)}
    {transport : UdpTransport}
    (within : WithinBound bound past transport) :
    WithinBound bound (past ++ [(.advances, transport.receiveLoop.1)])
      transport.receiveLoop.2 := by
  intro short
  have before := forall_arrivals_of_concat short
  obtain ⟨taken, doubled, accounts, enough⟩ := within before
  unfold receiveLoop
  cases stands : transport.thread with
  | testing =>
      dsimp only
      split_ifs
      · exact ⟨taken, doubled, accounts.idle rfl rfl rfl, enough⟩
      · exact ⟨taken, doubled, accounts.idle rfl rfl rfl, enough⟩
  | returned => exact ⟨taken, doubled, accounts.idle rfl rfl rfl, enough⟩
  | receiving =>
      dsimp only
      cases waiting : transport.queue with
      | nil =>
          have nothing : transport.receive = (none, transport) := by
            rw [receive, waiting]
          rw [nothing]
          exact ⟨taken, doubled, accounts.idle rfl rfl rfl, enough⟩
      | cons datagram queue =>
          have room : 0 < transport.bufferSize := by
            rw [accounts.size]
            exact Nat.mul_pos (by decide) (Nat.two_pow_pos doubled)
          obtain ⟨more, moreAccounts, doubling⟩ :=
            accounts.turn waiting (turn_of_receive waiting room)
          refine ⟨taken ++ [datagram], more,
            { moreAccounts with split := moreAccounts.split }, ?_⟩
          obtain rfl | ⟨rfl, long⟩ := doubling
          · exact enough
          have arrived : datagram ∈ arrivals past := by
            rw [accounts.split, waiting]
            simp
          have less := lt_of_le_of_lt long (before datagram arrived)
          have smaller : 2 ^ doubled < 2 ^ bound := by omega
          exact (Nat.pow_lt_pow_iff_right (by decide)).mp smaller

theorem WithinBound.step
    {bound : Nat} {past : List (UdpEvent × Option Datagram)}
    {transport next : UdpTransport} {event : UdpEvent}
    {given : Option Datagram}
    (stepped : transport.step event = .ok (given, next))
    (within : WithinBound bound past transport) :
    WithinBound bound (past ++ [(event, given)]) next := by
  cases event with
  | arrives datagram =>
      cases stepped
      intro short
      obtain ⟨taken, doubled, accounts, enough⟩ :=
        within (forall_arrivals_of_concat short)
      exact ⟨taken, doubled, accounts.arrives datagram, enough⟩
  | advances =>
      have advanced := within.advances
      rwa [Except.ok.inj stepped] at advanced
  | fails =>
      cases stepped
      intro short
      obtain ⟨taken, doubled, accounts, enough⟩ :=
        within (forall_arrivals_of_concat short)
      refine ⟨taken, doubled, ?_, enough⟩
      unfold receiveFails
      split
      · exact accounts.idle rfl rfl rfl
      · exact accounts.idle rfl rfl rfl
  | stops =>
      cases stepped
      intro short
      obtain ⟨taken, doubled, accounts, enough⟩ :=
        within (forall_arrivals_of_concat short)
      exact ⟨taken, doubled, accounts.idle rfl rfl rfl, enough⟩

theorem withinBound_of_run
    (bound : Nat) {events : List UdpEvent}
    {history : List (UdpEvent × Option Datagram)} {final : UdpTransport}
    (ran : run step {} events = .ok (history, final)) :
    WithinBound bound history final := by
  have start : WithinBound bound [] {} :=
    fun _ => ⟨[], 0, ⟨rfl, List.Sublist.refl [], rfl, rfl⟩, Nat.zero_le _⟩
  have within : WithinBound bound ([] ++ history) final :=
    run_history_invariant (fun stepped within => within.step stepped) ran
      start
  exact within

/--
The callback is given the nonempty datagrams that the loop has taken from the
socket, each whole, once and in the order of their arrival.  The buffer adapts:
if no datagram is as long as the first buffer doubled a number of times, then
no more datagrams than that are lost to a buffer that is too small.
-/
theorem delivers_whole
    (bound : Nat) {events : List UdpEvent}
    {history : List (UdpEvent × Option Datagram)} {final : UdpTransport}
    (ran : run step {} events = .ok (history, final))
    (short : ∀ datagram ∈ arrivals history,
      datagram.data.length < 65536 * 2 ^ bound) :
    ∃ taken, arrivals history = taken ++ final.queue ∧
      (delivered history).Sublist (taken.filter isNonempty) ∧
      (taken.filter isNonempty).length ≤
        (delivered history).length + bound := by
  obtain ⟨taken, doubled, accounts, enough⟩ :=
    withinBound_of_run bound ran short
  refine ⟨taken, accounts.split, accounts.inOrder, ?_⟩
  rw [accounts.lost]
  omega

/-- The turn that has begun when `stop` is called is carried through. -/
theorem delivers_whole_stopped :
    ∃ history final,
      run step {} [.arrives ⟨"PING".toList, "10.0.0.1".toList, 5070⟩,
          .arrives ⟨[], "10.0.0.1".toList, 5070⟩, .advances, .stops,
          .advances, .advances] = .ok (history, final) ∧
        final.thread = .returned ∧
        ∃ taken, arrivals history = taken ++ final.queue ∧
          (delivered history).Sublist (taken.filter isNonempty) ∧
          (taken.filter isNonempty).length ≤
            (delivered history).length + 0 := by
  have tested : succeedsWith
      (run step {} [.arrives ⟨"PING".toList, "10.0.0.1".toList, 5070⟩,
        .arrives ⟨[], "10.0.0.1".toList, 5070⟩, .advances, .stops,
        .advances, .advances])
      (fun result => decide (result.2.thread = .returned ∧
        ∀ datagram ∈ arrivals result.1,
          datagram.data.length < 65536 * 2 ^ 0)) = true := by
    decide +kernel
  obtain ⟨⟨history, final⟩, ran, ended⟩ := exists_of_succeedsWith tested
  obtain ⟨returned, short⟩ := of_decide_eq_true ended
  exact ⟨history, final, ran, returned, delivers_whole 0 ran short⟩

/-! ## Messages in datagrams -/

theorem serialize_ne_nil (message : SIPParser.WellFormedMessage) :
    message.serialize ≠ [] := by
  rw [SIPParser.serialize_eq_written, SIPParser.written]
  exact List.append_ne_nil_of_left_ne_nil
    (List.append_ne_nil_of_right_ne_nil _ (by decide)) _

/--
Over UDP every message arrives that fits into the first buffer, its body
included: what the callback has been given parses to the first of the messages
that were sent, and to all of them once the socket is empty.
-/
theorem transmits_messages
    (messages : List SIPParser.WellFormedMessage)
    {events : List UdpEvent}
    {history : List (UdpEvent × Option Datagram)} {final : UdpTransport}
    (ran : run step {} events = .ok (history, final))
    (sent : (arrivals history).map Datagram.data =
      messages.map (fun message => message.serialize))
    (short : ∀ message ∈ messages, message.serialize.length < 65536) :
    ((delivered history).map Datagram.data).mapM SIPParser.parse =
        .ok ((messages.take (delivered history).length).map
          (fun message => message.updateContentLength)) ∧
      (final.queue = [] →
        (delivered history).length = messages.length) := by
  have carried : ∀ datagram ∈ arrivals history,
      ∃ message ∈ messages, message.serialize = datagram.data := by
    intro datagram member
    exact List.mem_map.mp (sent ▸ List.mem_map_of_mem member)
  have shortData : ∀ datagram ∈ arrivals history,
      datagram.data.length < 65536 * 2 ^ 0 := by
    intro datagram member
    obtain ⟨message, among, same⟩ := carried datagram member
    simpa [← same] using short message among
  have whole : ∀ datagram ∈ arrivals history,
      isNonempty datagram = true := by
    intro datagram member
    obtain ⟨message, -, same⟩ := carried datagram member
    rw [isNonempty, decide_eq_true_eq, ← same]
    exact serialize_ne_nil message
  obtain ⟨taken, doubled, accounts, enough⟩ :=
    withinBound_of_run 0 ran shortData
  obtain rfl : doubled = 0 := Nat.le_zero.mp enough
  have all : taken.filter isNonempty = taken := by
    refine List.filter_eq_self.mpr (fun datagram member => ?_)
    exact whole datagram
      (by rw [accounts.split]; exact List.mem_append_left _ member)
  have given : delivered history = taken := by
    have sub := accounts.inOrder
    have lost := accounts.lost
    rw [all] at sub lost
    exact sub.eq_of_length lost.symm
  rw [given]
  have front : taken.map Datagram.data =
      (messages.take taken.length).map (fun message => message.serialize) :=
    by
    rw [List.map_take, ← sent, accounts.split, List.map_append]
    simp
  refine ⟨?_, fun empty => ?_⟩
  · rw [front]
    exact TcpTransport.mapM_parse_serialize _
  · have lengths := congrArg List.length sent
    rw [accounts.split, empty] at lengths
    simpa using lengths

/-- The body that a connection would keep back arrives. -/
theorem transmits_messages_body :
    ∃ history final,
      run step {}
          [.arrives ⟨(TcpTransport.plainMessage "x".toList).serialize,
            "10.0.0.1".toList, 5070⟩, .advances, .advances] =
          .ok (history, final) ∧
        ((delivered history).map Datagram.data).mapM SIPParser.parse =
          .ok [(TcpTransport.plainMessage "x".toList).updateContentLength] := by
  have tested : succeedsWith
      (run step {}
        [.arrives ⟨(TcpTransport.plainMessage "x".toList).serialize,
          "10.0.0.1".toList, 5070⟩, .advances, .advances])
      (fun result => decide ((delivered result.1).length = 1 ∧
        (arrivals result.1).map Datagram.data =
          [(TcpTransport.plainMessage "x".toList).serialize])) = true := by
    decide +kernel
  obtain ⟨⟨history, final⟩, ran, ended⟩ := exists_of_succeedsWith tested
  obtain ⟨one, sent⟩ := of_decide_eq_true ended
  obtain ⟨parsed, -⟩ := transmits_messages
    [TcpTransport.plainMessage "x".toList] ran sent
    (List.forall_mem_singleton.mpr (by decide +kernel))
  rw [one] at parsed
  exact ⟨history, final, ran, parsed⟩

end UdpTransport

end MinimalSip.Networking

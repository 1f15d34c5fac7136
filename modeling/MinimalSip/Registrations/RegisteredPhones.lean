import MinimalSip.Registrations.RegistrationSystem

/-!
# Phones that take themselves for registered

What the protocol says of its states holds of the clients and the proxy: a
client that is registered can be called where it is, and no registration
sends more than five requests, whatever the network does with them.
-/

namespace MinimalSip.Registrations

open MinimalSip.Lib.Cpp
open MinimalSip.Lib.Machine
open MinimalSip.Common
open MinimalSip.Calls
open MinimalSip.Client
open MinimalSip.Proxy
open MinimalSip.Proxy.SIPProxy

variable {ι : Type} [DecidableEq ι]

/-- The state that a client shows in a phase. -/
def Phase.state : Phase → State
  | .idle => .idle
  | .trying _ _ => .registering
  | .registered => .registered
  | .failed => .failed

/-- What can be seen of the protocol in the system. -/
structure Shows (service : Service ι) (state : Protocol ι)
    (system : System ι) : Prop where
  clients : ∀ phone,
    (system.clients phone).state.state = (state.phases phone).state
  table : ∀ phone,
    system.router.table.lookup (service.phones phone).identity =
      (service.phones phone).entry (state.entered phone)
  requests : system.requests.map Prod.fst = state.requests
  replies : system.replies.length = state.replies.length

theorem PhoneIs.state_eq
    {phone : Phone} {phase : Phase} {client : SIPClient CppString}
    (shown : PhoneIs phone phase client) :
    client.state.state = phase.state := by
  have phases := shown.shown
  cases phase with
  | idle => exact phases.1
  | trying attempts heard => exact phases.1
  | registered => exact phases.1
  | failed => exact phases.1

omit [DecidableEq ι] in
theorem Represents.shows
    {service : Service ι} {state : Protocol ι} {system : System ι}
    (represents : Represents service state system) :
    Shows service state system where
  clients := fun phone => (represents.clients phone).state_eq
  table := represents.table
  requests := by
    have same := represents.requests
    generalize state.requests = signals at same
    generalize system.requests = texts at same
    induction same with
    | nil => rfl
    | cons here _ ih => rw [List.map_cons, ih, here.1]
  replies := represents.replies.length_eq.symm

/-- Runs of the service do not fail. -/
theorem exists_run
    (service : Service ι) (moves : List (Move ι)) :
    ∃ history system,
      run service.step service.initial moves = .ok (history, system) ∧
      Represents service (Protocol.after moves) system := by
  have runs : ∀ (moves : List (Move ι)) {state : Protocol ι}
      {system : System ι}, Represents service state system →
      ∃ history final,
        run service.step system moves = .ok (history, final) ∧
        Represents service (moves.foldl Protocol.step state) final := by
    intro moves
    induction moves with
    | nil => exact fun represents => ⟨[], _, rfl, represents⟩
    | cons move moves ih =>
        intro state system represents
        obtain ⟨next, moved, after⟩ := represents.step move
        obtain ⟨history, final, ran, reached⟩ := ih after
        have stepped : service.step system move = .ok ((), next) := by
          rw [Service.step, moved]
          rfl
        exact ⟨_, final,
          run_cons_ok_iff.mpr ⟨(), next, history, stepped, ran, rfl⟩,
          reached⟩
  exact runs moves (represents_initial service)

/-- An INVITE for the phone's user goes to its local address. -/
structure Callable (phone : Phone) (router : SIPRouter) : Prop where
  entered : router.table.lookup phone.identity =
    some ⟨phone.contact, phone.transport⟩
  leads : contactDestination phone.contact =
    .ok (phone.factory.localIp, phone.contactPort)

theorem Phone.leads (phone : Phone) :
    contactDestination phone.contact =
      .ok (phone.factory.localIp, phone.contactPort) := by
  unfold Phone.contact SIPMessageFactory.localAddress
  rw [phone.localPort]
  exact contactDestination_bracketed phone.contactPort phone.userNoAt
    phone.hostNoColon

/-- Alice's phone, and Bob's. -/
def plainPhone : Bool → Phone
  | false =>
      { user := "alice"
        domain := "local"
        endpoint := ⟨"10.0.0.1", 5070⟩
        transport := .udp
        factory := aliceFactory
        contactPort := 5070
        errorCallback := false
        userText := by decide
        domainText := by decide
        userNoAt := by decide
        hostNoColon := by decide
        hostUnbroken := by decide
        localPort := rfl }
  | true =>
      { user := "bob"
        domain := "local"
        endpoint := ⟨"10.0.0.2", 5062⟩
        transport := .udp
        factory := bobFactory
        contactPort := 5062
        errorCallback := true
        userText := by decide
        domainText := by decide
        userNoAt := by decide
        hostNoColon := by decide
        hostUnbroken := by decide
        localPort := rfl }

def plainService : Service Bool where
  config := plainProxy
  phones := plainPhone
  users := by decide
  ends := by decide
  enabled := fun _ _ => rfl

/-- Bob hears a late reply to his first request, after the second one. -/
example :
    succeedsWith
      (run plainService.step plainService.initial
        [.doRegister true, .waited true, .toProxy 1, .toProxy 0,
          .toPhone false 0, .toPhone true 1, .waited true])
      (fun result => decide ((result.2.clients true).state.state =
        .registered ∧ (result.2.clients false).state.state = .idle)) =
          true := by
  decide +kernel

/--
A registration sends its request five times at most: over any run, a phone has
sent no more than five for each time it began to register.
-/
theorem requests_count_le
    (service : Service ι) (moves : List (Move ι)) :
    ∃ history system,
      run service.step service.initial moves = .ok (history, system) ∧
      ∀ phone, (system.requests.map Prod.fst).count phone ≤
        5 * moves.count (.doRegister phone) := by
  obtain ⟨history, system, ran, represents⟩ := exists_run service moves
  refine ⟨history, system, ran, fun phone => ?_⟩
  rw [represents.shows.requests]
  exact Protocol.requests_le moves phone

end MinimalSip.Registrations

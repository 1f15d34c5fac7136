import MinimalSip.Networking.PacketPipeline
import MinimalSip.Proxy.SipProxy

/-!
# A proxy with one worker

The transports, the dispatcher and `stop` do not touch the router, so with a
single worker the handler runs alone.  The threads then do what a proxy
does that handles the packets one after another as they arrive, down to the
packet on which it throws.
-/

namespace MinimalSip.Proxy

open MinimalSip.Lib.Cpp
open MinimalSip.Lib.Machine
open MinimalSip.Common
open MinimalSip.Networking

/-- The threads of the proxy, its router, and what the handler has done. -/
structure ServingProxy (ω : Type) where
  threads : ProxyThreads ω RawPacket
  router : SIPRouter
  served : List (RawPacket × Option Sent)

/-- Why a step is not taken. -/
inductive Halt where
  | blocked
  | thrown (thrown : StdException)

namespace ServingProxy

variable {ω : Type}

/-- The packet on which the next step of a worker calls the handler. -/
def inCall : WorkerThread RawPacket → Option RawPacket
  | .calling packet => some packet
  | _ => none

def called (threads : ProxyThreads ω RawPacket) :
    ThreadEvent ω RawPacket → Option RawPacket
  | .worker worker => inCall (threads.workers worker)
  | _ => none

variable [DecidableEq ω] [Fintype ω]

def started (tcpEnabled : Bool) : ServingProxy ω where
  threads := .started tcpEnabled
  router := SIPRouter.initial
  served := []

/-- The handler has run when the call returns; an exception ends everything. -/
def step (config : ProxyConfig) (proxy : ServingProxy ω)
    (event : ThreadEvent ω RawPacket) :
    Except Halt (Unit × ServingProxy ω) :=
  match proxy.threads.advance event with
  | .error _ => .error .blocked
  | .ok threads =>
      match called proxy.threads event with
      | none => .ok ((), { proxy with threads := threads })
      | some packet =>
          match SIPProxy.handlePacket config proxy.router packet with
          | .error thrown => .error (.thrown thrown)
          | .ok (sent, router) =>
              .ok ((),
                { threads := threads
                  router := router
                  served := proxy.served ++ [(packet, sent)] })

/-! ## One step -/

section Steps

variable {config : ProxyConfig} {proxy next : ServingProxy ω}
variable {threads after : ProxyThreads ω RawPacket}
variable {event : ThreadEvent ω RawPacket}

/-- A step of the whole is a step of the threads, and a call it makes. -/
theorem step_ok
    {output : Unit} (stepped : step config proxy event = .ok (output, next)) :
    proxy.threads.step event = .ok ((), next.threads) ∧
      (called proxy.threads event = none ∧ next.router = proxy.router ∧
          next.served = proxy.served ∨
        ∃ packet sent, called proxy.threads event = some packet ∧
          SIPProxy.handlePacket config proxy.router packet =
            .ok (sent, next.router) ∧
          next.served = proxy.served ++ [(packet, sent)]) := by
  unfold step at stepped
  cases advanced : proxy.threads.advance event with
  | error refused =>
      rw [advanced] at stepped
      cases stepped
  | ok threads =>
      have moved := ProxyThreads.step_of_advance advanced
      rw [advanced] at stepped
      dsimp only at stepped
      cases calls : called proxy.threads event with
      | none =>
          rw [calls] at stepped
          cases stepped
          exact ⟨moved, Or.inl ⟨rfl, rfl, rfl⟩⟩
      | some packet =>
          rw [calls] at stepped
          dsimp only at stepped
          cases handled :
              SIPProxy.handlePacket config proxy.router packet with
          | error thrown =>
              rw [handled] at stepped
              cases stepped
          | ok result =>
              rw [handled] at stepped
              cases stepped
              exact ⟨moved, Or.inr ⟨packet, result.1, rfl, handled, rfl⟩⟩

/-- An exception comes out of the handler. -/
theorem step_thrown
    {thrown : StdException}
    (stepped : step config proxy event = .error (.thrown thrown)) :
    ∃ threads packet, proxy.threads.advance event = .ok threads ∧
      called proxy.threads event = some packet ∧
      SIPProxy.handlePacket config proxy.router packet = .error thrown := by
  unfold step at stepped
  cases advanced : proxy.threads.advance event with
  | error refused =>
      rw [advanced] at stepped
      cases stepped
  | ok threads =>
      rw [advanced] at stepped
      dsimp only at stepped
      cases calls : called proxy.threads event with
      | none =>
          rw [calls] at stepped
          cases stepped
      | some packet =>
          rw [calls] at stepped
          dsimp only at stepped
          cases handled :
              SIPProxy.handlePacket config proxy.router packet with
          | error other =>
              rw [handled] at stepped
              cases stepped
              exact ⟨threads, packet, rfl, rfl, handled⟩
          | ok result =>
              rw [handled] at stepped
              cases stepped

/-- The packets that have been passed to the handler. -/
theorem handled_of_advance
    (advanced : threads.advance event = .ok after) :
    after.handled = threads.handled ++ (called threads event).toList := by
  cases event with
  | push transport packet =>
      change threads.pushStep transport packet = .ok after at advanced
      unfold ProxyThreads.pushStep at advanced
      split_ifs at advanced
      cases advanced
      exact (List.append_nil _).symm
  | dispatcher =>
      change threads.dispatcherStep = .ok after at advanced
      unfold ProxyThreads.dispatcherStep at advanced
      split at advanced
      · split at advanced <;> cases advanced <;>
          exact (List.append_nil _).symm
      · split_ifs at advanced <;> cases advanced <;>
          exact (List.append_nil _).symm
      · cases advanced
        exact (List.append_nil _).symm
      · cases advanced
  | worker worker =>
      change threads.workerStep worker = .ok after at advanced
      unfold ProxyThreads.workerStep at advanced
      change after.handled =
        threads.handled ++ (inCall (threads.workers worker)).toList
      split at advanced
      · rename_i popping
        rw [popping]
        split at advanced <;> cases advanced <;>
          exact (List.append_nil _).symm
      · rename_i packet calling
        rw [calling]
        cases advanced
        rfl
      · rename_i handling
        rw [handling]
        cases advanced
        exact (List.append_nil _).symm
      · cases advanced
  | stopper =>
      change threads.stopperStep = .ok after at advanced
      unfold ProxyThreads.stopperStep at advanced
      split at advanced
      case h_1 | h_7 | h_10 =>
        split_ifs at advanced <;> cases advanced <;>
          exact (List.append_nil _).symm
      case h_11 => cases advanced
      all_goals
        cases advanced
        exact (List.append_nil _).symm

/-- A call takes nothing from the transports. -/
theorem packets_of_called
    {packet : RawPacket} (calls : called threads event = some packet)
    (advanced : threads.advance event = .ok after) :
    after.packets = threads.packets := by
  cases event with
  | push transport packet => cases calls
  | dispatcher => cases calls
  | stopper => cases calls
  | worker worker =>
      change threads.workerStep worker = .ok after at advanced
      unfold ProxyThreads.workerStep at advanced
      split at advanced
      · split at advanced <;> cases advanced <;> rfl
      · cases advanced
        rfl
      · cases advanced
        rfl
      · cases advanced

end Steps

/-! ## Every run -/

/-- What has been handled so far was handled one packet after another. -/
structure Serves (config : ProxyConfig) (proxy : ServingProxy ω) : Prop where
  queued : ProxyThreads.Queued proxy.threads
  ran : run (SIPProxy.handlePacket config) SIPRouter.initial
    proxy.threads.handled = .ok (proxy.served, proxy.router)
  counted : proxy.served.length = proxy.threads.handled.length

omit [DecidableEq ω] in
theorem serves_started (config : ProxyConfig) (tcpEnabled : Bool) :
    Serves config (started tcpEnabled : ServingProxy ω) where
  queued := ⟨ProxyThreads.Orderly.started tcpEnabled,
    ProxyThreads.inTurn_started tcpEnabled⟩
  ran := rfl
  counted := rfl

theorem Serves.step
    {config : ProxyConfig} {proxy next : ServingProxy ω}
    {event : ThreadEvent ω RawPacket} {output : Unit}
    (stepped : ServingProxy.step config proxy event = .ok (output, next))
    (serves : Serves config proxy) : Serves config next := by
  obtain ⟨moved, work⟩ := step_ok stepped
  have handled := handled_of_advance (ProxyThreads.advance_of_step moved)
  have queued := serves.queued.step moved
  rcases work with ⟨idle, router, served⟩ | ⟨packet, sent, calls, done, served⟩
  · rw [idle, Option.toList_none, List.append_nil] at handled
    exact
      { queued := queued
        ran := by
          rw [handled, router, served]
          exact serves.ran
        counted := by
          rw [handled, served]
          exact serves.counted }
  · rw [calls, Option.toList_some] at handled
    exact
      { queued := queued
        ran := by
          rw [handled, run_concat serves.ran, done, served]
          rfl
        counted := by
          rw [handled, served, List.length_append, List.length_append,
            serves.counted]
          rfl }

/-- The proxy is, so far, one that handles the packets as they arrive. -/
structure Sequential (config : ProxyConfig) (proxy : ServingProxy Unit) :
    Prop where
  ran : run (SIPProxy.handlePacket config) SIPRouter.initial
    (proxy.threads.packets.pushed.take proxy.served.length) =
      .ok (proxy.served, proxy.router)
  returned : proxy.threads.stopper = .returned →
    run (SIPProxy.handlePacket config) SIPRouter.initial
      proxy.threads.packets.pushed = .ok (proxy.served, proxy.router)
  thrown : ∀ event thrown,
    step config proxy event = .error (.thrown thrown) →
      run (SIPProxy.handlePacket config) SIPRouter.initial
        (proxy.threads.packets.pushed.take (proxy.served.length + 1)) =
          .error thrown

theorem Serves.sequential
    {config : ProxyConfig} {proxy : ServingProxy Unit}
    (serves : Serves config proxy) : Sequential config proxy where
  ran := by
    have starts := serves.queued.handled_starts rfl
    rw [serves.counted, ← List.prefix_iff_eq_take.mp starts]
    exact serves.ran
  returned := by
    intro returned
    have starts := serves.queued.handled_starts rfl
    have all := (serves.queued.orderly.allHandled returned).handled
    rw [← starts.eq_of_length all.length_eq]
    exact serves.ran
  thrown := by
    intro event thrown stepped
    obtain ⟨threads, packet, advanced, calls, failed⟩ := step_thrown stepped
    have moved := ProxyThreads.step_of_advance advanced
    have starts := (serves.queued.step moved).handled_starts rfl
    rw [packets_of_called calls advanced, handled_of_advance advanced, calls,
      Option.toList_some] at starts
    have packets := List.prefix_iff_eq_take.mp starts
    rw [List.length_append, List.length_singleton, ← serves.counted]
      at packets
    rw [← packets, run_concat serves.ran, failed]
    rfl

/-- One INVITE for an unknown callee, and a shutdown. -/
def serveInvite : List (ThreadEvent Unit RawPacket) :=
  [.push .udp SIPProxy.invitePacket, .dispatcher, .dispatcher, .dispatcher,
    .worker (), .worker (), .worker ()] ++
    List.replicate 6 .stopper ++
    [.dispatcher, .stopper, .stopper, .stopper, .worker (), .stopper]

end ServingProxy

end MinimalSip.Proxy

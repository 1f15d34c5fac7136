import MinimalSip.Calls.CallProtocol
import MinimalSip.Calls.CallTexts
import MinimalSip.Lib.Machine

/-!
# Two clients and the proxy

The program itself as one system: the caller's client, the callee's client,
and the proxy, which handles one packet at a time, with the texts in flight
between them.  The users act on one call and the network delivers every text
once, by the moves of the abstract protocol.
-/

namespace MinimalSip.Calls

open MinimalSip.Lib.Cpp
open MinimalSip.Lib.Links
open MinimalSip.Common
open MinimalSip.Client
open MinimalSip.Proxy

/-! ## Before the call -/

/-- The address from which a client's packets come. -/
structure Endpoint where
  ip : CppString
  port : UInt16
deriving DecidableEq

/-- A registered client without a call and without injected header lines. -/
structure Registered (party : Party) (client : SIPClient CppString) :
    Prop where
  state : client.state.state = .registered
  registeredUser : client.state.registeredUser = party.identity
  noCall : client.state.activeCallId = []
  noInvite : client.pendingInvite = none
  noHeaders : ∀ method, client.pendingHeaders method = []
  host : PlainHost client.factory.localIp
  counted : 0 ≤ client.factory.cseq

/--
Two clients that are registered over one transport, and the proxy, whose table
leads to the callee and which does not know the new Call-ID yet.
-/
structure Setup where
  config : ProxyConfig
  transport : TransportType
  callerParty : Party
  calleeParty : Party
  callerEnd : Endpoint
  calleeEnd : Endpoint
  contact : CppString
  drawn : UInt64
  caller : SIPClient CppString
  callee : SIPClient CppString
  router : SIPRouter
  distinct : callerParty.identity ≠ calleeParty.identity
  apart : callerEnd ≠ calleeEnd
  enabled : transport = .tcp → config.tcpEnabled = true
  callerRegistered : Registered callerParty caller
  calleeRegistered : Registered calleeParty callee
  entered : router.table.lookup calleeParty.identity =
    some ⟨contact, transport⟩
  leads : SIPProxy.contactDestination contact =
    .ok (calleeEnd.ip, calleeEnd.port)
  fresh : caller.factory.newCallId drawn ∉ router.registry
  unknown : caller.factory.newCallId drawn ∉ router.callContexts

/-- The parties and the texts in flight. -/
structure System where
  caller : SIPClient CppString
  callee : SIPClient CppString
  router : SIPRouter
  placed : Bool := false
  fromCaller : List CppString := []
  toCallee : List CppString := []
  fromCallee : List CppString := []
  toCaller : List CppString := []

namespace System

/-- No text is in flight. -/
structure Quiet (system : System) : Prop where
  fromCaller : system.fromCaller = []
  toCallee : system.toCallee = []
  fromCallee : system.fromCallee = []
  toCaller : system.toCaller = []

instance (system : System) : Decidable system.Quiet :=
  decidable_of_iff (system.fromCaller = [] ∧ system.toCallee = [] ∧
      system.fromCallee = [] ∧ system.toCaller = [])
    ⟨fun ⟨first, second, third, fourth⟩ => ⟨first, second, third, fourth⟩,
      fun ⟨first, second, third, fourth⟩ => ⟨first, second, third, fourth⟩⟩

/-! ## One event -/

/-- An event of the caller's client, which sends what it has to. -/
def callerDoes (system : System) (event : Event CppString) :
    Except StdException System := do
  let (effects, caller) ← system.caller.step event
  pure { system with
    caller := caller
    fromCaller := system.fromCaller ++ effects.sent }

def calleeDoes (system : System) (event : Event CppString) :
    Except StdException System := do
  let (effects, callee) ← system.callee.step event
  pure { system with
    callee := callee
    fromCallee := system.fromCallee ++ effects.sent }

/-- Take a text out of a link, if there is one at that place. -/
def handOver (system : System) (link : List CppString) (index : Nat)
    (receive : CppString → List CppString → Except StdException System) :
    Except StdException System :=
  match pick link index with
  | none => .ok system
  | some (taken, rest) => receive taken rest

end System

namespace Setup

variable (setup : Setup)

/-- The Call-ID of the one call. -/
def callId : CppString :=
  setup.caller.factory.newCallId setup.drawn

def initial : System where
  caller := setup.caller
  callee := setup.callee
  router := setup.router

/-- What the proxy sends arrives at the client with that address, if any. -/
def post (system : System) (sent : Option Sent) : System :=
  match sent with
  | none => system
  | some packet =>
      if packet.transport ≠ setup.transport then system
      else if (⟨packet.ip, packet.port⟩ : Endpoint) = setup.callerEnd then
        { system with toCaller := system.toCaller ++ [packet.data] }
      else if (⟨packet.ip, packet.port⟩ : Endpoint) = setup.calleeEnd then
        { system with toCallee := system.toCallee ++ [packet.data] }
      else system

/-- The packet in which a text reaches the proxy. -/
def packet (sender : Endpoint) (text : CppString) : RawPacket where
  data := text
  ip := sender.ip
  port := sender.port
  transport := setup.transport

def proxyHandles (system : System) (sender : Endpoint) (text : CppString) :
    Except StdException System := do
  let (sent, router) ← SIPProxy.handlePacket setup.config system.router
    (setup.packet sender text)
  pure (setup.post { system with router := router } sent)

/-- The caller calls once, under the name it is registered with. -/
def place (system : System) : Except StdException System :=
  if system.placed then .ok system
  else
    { system with placed := true }.callerDoes (.doInvite setup.drawn
      setup.callerParty.user setup.callerParty.domain
      setup.calleeParty.user setup.calleeParty.domain)

def move (system : System) : Move → Except StdException System
  | .place => setup.place system
  | .answer => system.calleeDoes .doAnswer
  | .reject => system.calleeDoes .doReject
  | .callerHangsUp => system.callerDoes (.doBye [])
  | .calleeHangsUp => system.calleeDoes (.doBye [])
  | .deliver .fromCaller index =>
      system.handOver system.fromCaller index (fun text rest =>
        setup.proxyHandles { system with fromCaller := rest } setup.callerEnd
          text)
  | .deliver .toCallee index =>
      system.handOver system.toCallee index (fun text rest =>
        { system with toCallee := rest }.calleeDoes (.received text))
  | .deliver .fromCallee index =>
      system.handOver system.fromCallee index (fun text rest =>
        setup.proxyHandles { system with fromCallee := rest } setup.calleeEnd
          text)
  | .deliver .toCaller index =>
      system.handOver system.toCaller index (fun text rest =>
        { system with toCaller := rest }.callerDoes (.received text))

/-- The moves as the steps of a machine without output. -/
def step (system : System) (move : Move) :
    Except StdException (Unit × System) :=
  (setup.move system move).map (fun next => ((), next))

end Setup

/-! ## Alice and Bob -/

def alice : Party where
  user := "alice"
  domain := "local"
  plainUser := ⟨by decide, by decide, by decide⟩
  plainDomain := ⟨by decide, by decide, by decide⟩

def bob : Party where
  user := "bob"
  domain := "local"
  plainUser := ⟨by decide, by decide, by decide⟩
  plainDomain := ⟨by decide, by decide, by decide⟩

/-- A client that has registered and done nothing else. -/
def registeredClient (party : Party) (factory : SIPMessageFactory) :
    SIPClient CppString where
  factory := factory
  state := { state := .registered, registeredUser := party.identity }

theorem registered_client
    (party : Party) {factory : SIPMessageFactory}
    (host : PlainHost factory.localIp) (counted : 0 ≤ factory.cseq) :
    Registered party (registeredClient party factory) where
  state := rfl
  registeredUser := rfl
  noCall := rfl
  noInvite := rfl
  noHeaders := fun _ => rfl
  host := host
  counted := counted

/-- Alice and Bob have registered over UDP. -/
def plainSetup : Setup where
  config := SIPProxy.plainProxy
  transport := .udp
  callerParty := alice
  calleeParty := bob
  callerEnd := ⟨"10.0.0.1", 5070⟩
  calleeEnd := ⟨"10.0.0.2", 5060⟩
  contact := "<sip:bob@10.0.0.2:5060>"
  drawn := 7
  caller := registeredClient alice (.create "10.0.0.1" 5070 1)
  callee := registeredClient bob (.create "10.0.0.2" 5060 2)
  router :=
    { table := RegistrationTable.registerUser ∅ "bob@local"
        "<sip:bob@10.0.0.2:5060>" .udp }
  distinct := by decide
  apart := by decide
  enabled := fun tcp => nomatch tcp
  callerRegistered :=
    registered_client alice ⟨by decide, by decide⟩ (by decide)
  calleeRegistered :=
    registered_client bob ⟨by decide, by decide⟩ (by decide)
  entered := Finmap.lookup_insert _
  leads := by decide
  fresh := Finmap.notMem_empty
  unknown := Finmap.notMem_empty

end MinimalSip.Calls

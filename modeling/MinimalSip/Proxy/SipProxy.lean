import MinimalSip.Lib.Machine
import MinimalSip.Proxy.SipParser
import MinimalSip.Proxy.CallBookkeeping

/-!
# The proxy

`handle_packet` parses one packet, routes the message and sends what the
routing result asks for.  An exception that leaves it ends the worker thread,
and with it the proxy, so a run stops there.

The destination of a forwarded request is read off the contact text of the
callee.  That text comes unchecked out of a REGISTER and is read at two places
that guard differently: `store_call_context` skips a contact without a port,
`handle_packet` hands it to `stoi`.
-/

namespace MinimalSip.Proxy

open MinimalSip.Lib.Cpp
open MinimalSip.Lib.Search
open MinimalSip.Lib.Machine
open MinimalSip.Common
open MinimalSip.Common.SIPMessage

/-- The fixed parameters of a running proxy. -/
structure ProxyConfig where
  router : RouterConfig
  tcpEnabled : Bool

/-- One datagram or TCP write of the proxy. -/
structure Sent where
  data : CppString
  ip : CppString
  port : UInt16
  transport : TransportType
deriving DecidableEq

namespace SIPProxy

open SIPRouter

def sendResponse (config : ProxyConfig) (router : SIPRouter)
    (data ip : CppString) (port : UInt16) (transport : TransportType) :
    Option Sent × SIPRouter :=
  (some
    { data := data
      ip := ip
      port := port
      transport := if config.tcpEnabled ∧ transport = .tcp then .tcp else .udp },
    { router with metrics := router.metrics.incMessagesSent })

/--
The check of an INVITE's Contact against the registered one.  Only the log
sees its outcome, but the substring is taken.
-/
def diagnoseInvite (router : SIPRouter) (message : SIPMessage) :
    Except StdException (Option CppString) :=
  if message.isRequest ∧ message.getMethod = "INVITE".toList then
    let caller := message.getHeader "From"
    let contactInInvite := message.getHeader "Contact"
    let sipPos := find "sip:" caller
    let gtPos := findAfter ">" caller sipPos
    match sipPos with
    | some sipPos =>
        if contactInInvite ≠ [] then do
          let callerIdentity ← substr caller (sipPos + 4)
            (gtPos.map (fun gtPos => gtPos - sipPos - 4))
          pure (router.table.getContact callerIdentity)
        else pure none
    | none => pure none
  else pure none

/-- Where a request for a contact goes, as `handle_packet` reads it. -/
def contactDestination (contact : CppString) :
    Except StdException (CppString × UInt16) := do
  let posAt := find "@" contact
  let posColon := findAfter ":" contact posAt
  let ip ← substr contact (next posAt) (gap posAt posColon)
  let port ← stoi (← substr contact (next posColon) none)
  pure (ip, toUInt16 port)

/-- The `switch` on the routing result. -/
def deliver (config : ProxyConfig) (packet : RawPacket)
    (result : RoutingResult) (router : SIPRouter) :
    Except StdException (Option Sent × SIPRouter) :=
  match result.action with
  | .respondLocally =>
      .ok (sendResponse config router result.response.serialize packet.ip
        packet.port packet.transport)
  | .forwardRequest =>
      match result.contact with
      | some contact => do
          let (ip, port) ← contactDestination contact
          pure (sendResponse config router result.message.serialize ip port
            result.calleeTransport)
      | none =>
          .ok (sendResponse config router result.message.serialize result.ip
            result.port result.calleeTransport)
  | .forwardResponse =>
      .ok (sendResponse config router result.message.serialize result.ip
        result.port packet.transport)
  | .ignore => .ok (none, router)

def handlePacket (config : ProxyConfig) (router : SIPRouter)
    (packet : RawPacket) : Except StdException (Option Sent × SIPRouter) := do
  let message ← SIPParser.parse packet.data
  let router :=
    { router with metrics := router.metrics.incMessagesReceived }
  let _ ← diagnoseInvite router message
  let (result, router) ← route config.router router message packet.ip
    packet.port packet.transport
  deliver config packet result router

/-! ## Reading a contact -/

/-- The text that `handle_packet` takes for the port of a contact. -/
def portText (contact : CppString) : CppString :=
  contact.drop (next (findAfter ":" contact (find "@" contact)))

/-- The port of a contact can be read. -/
def Dialable (contact : CppString) : Prop :=
  ∃ port, stoi (portText contact) = .ok port

theorem contactDestination_eq (contact : CppString) :
    ∃ ip, contactDestination contact =
      (stoi (portText contact)).map (fun port => (ip, toUInt16 port)) := by
  have atInside : next (find "@" contact) ≤ contact.length :=
    next_find_le (by decide)
  have colonInside :
      next (findAfter ":" contact (find "@" contact)) ≤ contact.length :=
    next_findAfter_le (by decide) _
  obtain ⟨ip, extracted⟩ := substr_isOk atInside
    (gap (find "@" contact) (findAfter ":" contact (find "@" contact)))
  refine ⟨ip, ?_⟩
  simp only [contactDestination, extracted, ok_bind,
    substr_none colonInside]
  unfold portText
  cases stoi (contact.drop
    (next (findAfter ":" contact (find "@" contact)))) <;> rfl

/-- The destination is computed exactly if the port can be read. -/
theorem contactDestination_isOk_iff (contact : CppString) :
    (∃ destination, contactDestination contact = .ok destination) ↔
      Dialable contact := by
  obtain ⟨ip, computed⟩ := contactDestination_eq contact
  rw [computed, Dialable]
  cases stoi (portText contact) with
  | ok port => exact ⟨fun _ => ⟨port, rfl⟩, fun _ => ⟨_, rfl⟩⟩
  | error thrown =>
      constructor
      · rintro ⟨destination, failed⟩
        cases failed
      · rintro ⟨port, failed⟩
        cases failed

/-- A contact that `handle_packet` can read, `store_call_context` can. -/
theorem calleeAddress_of_dialable
    {contact : CppString} (dialable : Dialable contact) :
    ∃ address, calleeAddress contact = .ok address := by
  obtain ⟨port, read⟩ := dialable
  unfold portText at read
  cases atFound : find "@" contact with
  | none => exact ⟨_, by simp only [calleeAddress, atFound]; rfl⟩
  | some posAt =>
      cases colonFound : findAfter ":" contact (some posAt) with
      | none =>
          exact ⟨_, by simp only [calleeAddress, atFound, colonFound]; rfl⟩
      | some posColon =>
          have startInside : posAt + 1 ≤ contact.length :=
            find_add_length_le atFound
          have portInside : posColon + 1 ≤ contact.length :=
            (findFrom_add_length_le colonFound).2
          rw [atFound, colonFound, next] at read
          simp only [calleeAddress, atFound, colonFound,
            substr_some startInside, substr_none portInside, ok_bind, read]
          exact ⟨_, rfl⟩

/-- The diagnostic substring of an INVITE is always in range. -/
theorem diagnoseInvite_total (router : SIPRouter) (message : SIPMessage) :
    ∃ contact, diagnoseInvite router message = .ok contact := by
  unfold diagnoseInvite
  split_ifs with invite
  · dsimp only
    split
    · rename_i sipPos found
      split_ifs with present
      · have inside : sipPos + 4 ≤ _ := find_add_length_le found
        obtain ⟨part, extracted⟩ := substr_isOk inside _
        rw [extracted]
        exact ⟨_, rfl⟩
      · exact ⟨_, rfl⟩
    · exact ⟨_, rfl⟩
  · exact ⟨_, rfl⟩

/-! ## One packet -/

/-- The call of `route` that a packet leads to. -/
def received (packet : RawPacket) (message : SIPMessage) : Received where
  message := message
  senderIp := packet.ip
  senderPort := packet.port
  transport := packet.transport

/-- The router once the packet has been counted. -/
def counted (router : SIPRouter) : SIPRouter :=
  { router with metrics := router.metrics.incMessagesReceived }

section Packets

variable {config : ProxyConfig} {router next : SIPRouter}
variable {packet : RawPacket} {message : SIPMessage} {sent : Option Sent}

/-- Parsing and diagnosis never fail: routing and delivery remain. -/
theorem handlePacket_eq
    (parsed : SIPParser.parse packet.data = .ok message) :
    handlePacket config router packet =
      step config.router (counted router) (received packet message) >>=
        fun routed => deliver config packet routed.1 routed.2 := by
  obtain ⟨contact, diagnosed⟩ := diagnoseInvite_total (counted router) message
  unfold counted at diagnosed
  simp only [handlePacket, parsed, diagnosed, ok_bind]
  rfl

/-- Delivery only reads the contact of a forwarded request. -/
theorem deliver_isOk_iff (result : RoutingResult) :
    (∃ delivered, deliver config packet result router = .ok delivered) ↔
      (result.action = .forwardRequest →
        ∀ contact ∈ result.contact, Dialable contact) := by
  unfold deliver
  cases action : result.action with
  | respondLocally => simp
  | forwardResponse => simp
  | ignore => simp
  | forwardRequest =>
      cases given : result.contact with
      | none => simp
      | some contact =>
          rw [forall_prop_of_true rfl]
          simp only [Option.mem_some_iff, forall_eq']
          rw [← contactDestination_isOk_iff]
          cases contactDestination contact with
          | ok destination => exact ⟨fun _ => ⟨_, rfl⟩, fun _ => ⟨_, rfl⟩⟩
          | error thrown =>
              constructor
              · rintro ⟨delivered, failed⟩
                cases failed
              · rintro ⟨destination, failed⟩
                cases failed

/-- Delivery changes nothing but the count of sent messages. -/
theorem deliver_state
    {result : RoutingResult}
    (delivered : deliver config packet result router = .ok (sent, next)) :
    next.table = router.table ∧ next.registry = router.registry ∧
      next.callContexts = router.callContexts := by
  unfold deliver at delivered
  split at delivered
  · cases delivered
    exact ⟨rfl, rfl, rfl⟩
  · split at delivered
    · rename_i contact given
      cases destination : contactDestination contact with
      | error thrown =>
          rw [destination] at delivered
          cases delivered
      | ok address =>
          rw [destination] at delivered
          cases delivered
          exact ⟨rfl, rfl, rfl⟩
    · cases delivered
      exact ⟨rfl, rfl, rfl⟩
  · cases delivered
    exact ⟨rfl, rfl, rfl⟩
  · cases delivered
    exact ⟨rfl, rfl, rfl⟩

/-- A handled packet was parsed, routed and delivered. -/
theorem handlePacket_cases
    (handled : handlePacket config router packet = .ok (sent, next)) :
    ∃ message result middle,
      SIPParser.parse packet.data = .ok message ∧
      Outcome config.router (counted router) (received packet message)
        result middle ∧
      deliver config packet result middle = .ok (sent, next) := by
  obtain ⟨message, parsed⟩ := SIPParser.parse_total packet.data
  rw [handlePacket_eq parsed] at handled
  cases routed : step config.router (counted router)
      (received packet message) with
  | error thrown =>
      rw [routed] at handled
      cases handled
  | ok pair =>
      obtain ⟨result, middle⟩ := pair
      rw [routed, ok_bind] at handled
      exact ⟨message, result, middle, parsed, outcome_of_step routed, handled⟩

theorem admissible_counted_iff
    {received : Received} {entry : ContactEntry} :
    Admissible (counted router) received entry ↔
      Admissible router received entry := by
  constructor
  · exact fun accepted => { accepted with
      registered := accepted.registered, fresh := accepted.fresh }
  · exact fun accepted => { accepted with
      registered := accepted.registered, fresh := accepted.fresh }

/-- An accepted REGISTER enters its Contact and transport in the table. -/
theorem handlePacket_registers
    (parsed : SIPParser.parse packet.data = .ok message)
    (accepted : Registers (received packet message))
    (handled : handlePacket config router packet = .ok (sent, next)) :
    next.table.lookup (received packet message).sender =
      some ⟨message.getHeader "Contact", packet.transport⟩ := by
  rw [handlePacket_eq parsed, step_registers accepted, ok_bind] at handled
  rw [(deliver_state handled).1]
  exact Finmap.lookup_insert _

/-- An admissible INVITE goes to the address in the registered contact. -/
theorem handlePacket_admissible
    {entry : ContactEntry} {ip : CppString} {port : UInt16}
    (parsed : SIPParser.parse packet.data = .ok message)
    (accepted : Admissible router (received packet message) entry)
    (destination : contactDestination entry.contact = .ok (ip, port)) :
    ∃ next, handlePacket config router packet = .ok (some
      { data := (withProxyVia config.router entry.transport
          message).serialize
        ip := ip
        port := port
        transport := if config.tcpEnabled ∧ entry.transport = .tcp
          then .tcp else .udp }, next) := by
  have dialable : Dialable entry.contact :=
    (contactDestination_isOk_iff _).mp ⟨_, destination⟩
  obtain ⟨address, stored⟩ := calleeAddress_of_dialable dialable
  rw [handlePacket_eq parsed,
    step_opened (admissible_counted_iff.mpr accepted) stored, ok_bind]
  simp only [deliver, inviteResult, destination, ok_bind, sendResponse]
  exact ⟨_, rfl⟩

/-! ## Exceptions -/

/-- Every stored callee contact can be read again for an ACK or BYE. -/
def AllDialable (router : SIPRouter) : Prop :=
  ∀ callId context, router.callContexts.lookup callId = some context →
    Dialable context.calleeContact

/--
The packet is not an INVITE that would be accepted for a callee whose
registered contact has an unreadable port.
-/
def PacketSafe (router : SIPRouter) (packet : RawPacket) : Prop :=
  ∀ message entry, SIPParser.parse packet.data = .ok message →
    Admissible router (received packet message) entry →
      Dialable entry.contact

/-- The contact of every request that a step forwards can be read. -/
theorem dialable_of_forwarded
    {result : RoutingResult} {received : Received}
    (outcome : Outcome config.router router received result next)
    (stored : AllDialable router)
    (fresh : ∀ entry, Admissible router received entry →
      Dialable entry.contact) :
    result.action = .forwardRequest →
      ∀ contact ∈ result.contact, Dialable contact := by
  intro forwarded contact given
  have inCall : ∀ context,
      router.callContexts.lookup received.callId = some context →
      contact ∈ (inCallResult config.router context received.sender
        received.message).contact → Dialable contact := by
    intro context held given
    unfold inCallResult at given
    split_ifs at given
    · cases given
      exact stored _ context held
    · cases given
  cases outcome with
  | replied _ here =>
      rw [forwarded] at here
      rcases here with other | other <;> cases other
  | registered => cases forwarded
  | invited entry address accepted =>
      cases given
      exact fresh entry accepted
  | acked context method held => exact inCall context held given
  | byed context method held => exact inCall context held given
  | responded context =>
      rw [responseResult_action] at forwarded
      cases forwarded

/-- Next to readable stored contacts, handling throws only as described. -/
theorem handlePacket_isOk_iff (stored : AllDialable router) :
    (∃ handled, handlePacket config router packet = .ok handled) ↔
      PacketSafe router packet := by
  obtain ⟨message, parsed⟩ := SIPParser.parse_total packet.data
  constructor
  · rintro ⟨⟨sent, next⟩, handled⟩ other entry otherParsed accepted
    rw [parsed, Except.ok.injEq] at otherParsed
    subst otherParsed
    rw [handlePacket_eq parsed,
      step_admissible (admissible_counted_iff.mpr accepted)] at handled
    cases address : calleeAddress entry.contact with
    | error thrown =>
        rw [address] at handled
        cases handled
    | ok pair =>
        rw [address, Except.map, ok_bind] at handled
        exact (deliver_isOk_iff _).mp ⟨_, handled⟩ rfl entry.contact rfl
  · intro safe
    rw [handlePacket_eq parsed]
    rcases step_cases config.router (counted router)
        (received packet message) with
      ⟨result, next, routed, outcome⟩ | ⟨entry, thrown, accepted, failed, -⟩
    · rw [routed, ok_bind]
      exact (deliver_isOk_iff result).mpr
        (dialable_of_forwarded outcome stored (fun entry accepted =>
          safe message entry parsed (admissible_counted_iff.mp accepted)))
    · obtain ⟨address, parsedAddress⟩ := calleeAddress_of_dialable
        (safe message entry parsed (admissible_counted_iff.mp accepted))
      rw [failed] at parsedAddress
      cases parsedAddress

/-- Handled packets only leave readable contacts behind. -/
theorem AllDialable.handlePacket
    (handled : handlePacket config router packet = .ok (sent, next))
    (stored : AllDialable router) :
    AllDialable next := by
  obtain ⟨message, result, middle, parsed, outcome, delivered⟩ :=
    handlePacket_cases handled
  intro callId context' held'
  rw [(deliver_state delivered).2.2] at held'
  cases outcome.change callId with
  | unchanged session context =>
      exact stored callId context' (context.symm.trans held')
  | opened entry address own accepted parsedAddress session context =>
      rw [context, Option.some.injEq] at held'
      subst held'
      have safe := (handlePacket_isOk_iff stored).mp ⟨_, handled⟩
      exact safe message entry parsed (admissible_counted_iff.mp accepted)
  | updated note keep own forwards learns session context =>
      rw [context, Option.map_eq_some_iff] at held'
      obtain ⟨before, held, rfl⟩ := held'
      exact stored callId before held
  | removed own session context =>
      rw [context] at held'
      cases held'

/--
When packet handling is total: a run of packets is handled without an
exception if and only if no packet of it is an INVITE accepted for a callee
whose registered contact has an unreadable port.
-/
theorem handlePackets_isOk_iff
    (config : ProxyConfig) (packets : List RawPacket) :
    (∃ result, run (handlePacket config) initial packets = .ok result) ↔
      Along (SIPProxy.handlePacket config) PacketSafe initial packets := by
  have empty : AllDialable initial := by
    intro callId context held
    cases held
  have preserved : ∀ {router packet sent next},
      handlePacket config router packet = .ok (sent, next) →
        AllDialable router → AllDialable next :=
    AllDialable.handlePacket
  have succeeds : ∀ {router packet}, AllDialable router →
      ((∃ handled, handlePacket config router packet = .ok handled) ↔
        PacketSafe router packet) :=
    handlePacket_isOk_iff
  exact run_ok_iff_along preserved succeeds empty

end Packets

def plainProxy : ProxyConfig where
  router := plainConfig
  tcpEnabled := true

/-- Lines ended by CRLF, and the blank line after them. -/
def packetText (lines : List CppString) : CppString :=
  lines.flatMap (fun line => line ++ "\r\n".toList) ++ "\r\n".toList

/-- Bob registers a contact that names no port. -/
def registerWithoutPort : RawPacket where
  data := packetText
    ["REGISTER sip:bob@local SIP/2.0", "Via: SIP/2.0/UDP 10.0.0.2",
      "From: <sip:bob@local>", "To: <sip:bob@local>", "Call-ID: r1",
      "CSeq: 1 REGISTER", "Contact: <sip:bob@10.0.0.2>",
      "Content-Length: 0"]
  ip := "10.0.0.2"
  port := 5060
  transport := .udp

def invitePacket : RawPacket where
  data := packetText
    ["INVITE sip:bob@local SIP/2.0", "Via: SIP/2.0/UDP 10.0.0.1:5070",
      "From: <sip:alice@local>", "To: <sip:bob@local>", "Call-ID: c1",
      "CSeq: 1 INVITE", "Content-Length: 0"]
  ip := "10.0.0.1"
  port := 5070
  transport := .udp

/-- A contact without a port makes the next INVITE throw. -/
theorem invite_throws :
    run (handlePacket plainProxy) initial
      [registerWithoutPort, invitePacket] = .error .invalidArgument := by
  have tested : thrown? (run (handlePacket plainProxy) initial
      [registerWithoutPort, invitePacket]) = some .invalidArgument := by
    decide +kernel
  exact eq_error_of_thrown? tested

end SIPProxy

end MinimalSip.Proxy

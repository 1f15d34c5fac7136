import MinimalSip.Proxy.CallIsolation
import MinimalSip.Proxy.SipProxy

/-!
# Where the proxy sends

The proxy takes addresses from three places: the packet it is handling, the
source of an INVITE, and the Contact of an accepted REGISTER.  It never sends
anywhere else, so it cannot be made to send to an address that has neither
written to it nor been registered.
-/

namespace MinimalSip.Proxy.SIPProxy

open MinimalSip.Lib.Cpp
open MinimalSip.Lib.Machine
open MinimalSip.Lib.Search
open MinimalSip.Common
open MinimalSip.Common.SIPMessage
open SIPRouter

variable {config : ProxyConfig} {router next middle : SIPRouter}
variable {packet : RawPacket} {sent : Option Sent} {result : RoutingResult}
variable {past more : List RawPacket}

/-! ## What the packets so far have told -/

/-- The contact comes from an accepted REGISTER. -/
def FromRegister (past : List RawPacket) (contact : CppString) : Prop :=
  ∃ register ∈ past, ∃ message,
    SIPParser.parse register.data = .ok message ∧
      Registers (received register message) ∧
      message.getHeader "Contact" = contact

/-- The packet is an INVITE with this Call-ID. -/
def Invites (callId : CppString) (packet : RawPacket) : Prop :=
  ∃ message, SIPParser.parse packet.data = .ok message ∧
    message.getMethod = "INVITE".toList ∧
    message.getHeader "Call-ID" = callId

/-- The addresses in a context have been told. -/
structure ContextLearned (past : List RawPacket) (callId : CppString)
    (context : CallContext) : Prop where
  inviter : ∃ invite ∈ past, Invites callId invite ∧
    context.callerIp = invite.ip ∧ context.callerPort = invite.port
  contact : FromRegister past context.calleeContact
  callee : calleeAddress context.calleeContact =
    .ok (context.calleeIp, context.calleePort)

/-- Everything in the router's maps has been told. -/
structure Learned (past : List RawPacket) (router : SIPRouter) : Prop where
  table : ∀ user entry, router.table.lookup user = some entry →
    FromRegister past entry.contact
  contexts : ∀ callId context,
    router.callContexts.lookup callId = some context →
      ContextLearned past callId context

theorem FromRegister.mono
    {contact : CppString} (told : FromRegister past contact) :
    FromRegister (past ++ more) contact := by
  obtain ⟨register, earlier, rest⟩ := told
  exact ⟨register, List.mem_append_left _ earlier, rest⟩

theorem ContextLearned.mono
    {callId : CppString} {context : CallContext}
    (learned : ContextLearned past callId context) :
    ContextLearned (past ++ more) callId context := by
  obtain ⟨invite, earlier, invites⟩ := learned.inviter
  exact
    { inviter := ⟨invite, List.mem_append_left _ earlier, invites⟩
      contact := learned.contact.mono
      callee := learned.callee }

theorem learned_initial : Learned [] initial where
  table := by
    intro user entry held
    cases held
  contexts := by
    intro callId context held
    cases held

/-! ## One packet -/

/-- A packet adds at most what it says itself. -/
theorem Learned.handlePacket
    (handled : handlePacket config router packet = .ok (sent, next))
    (learned : Learned past router) :
    Learned (past ++ [packet]) next := by
  obtain ⟨message, result, middle, parsed, outcome, delivered⟩ :=
    handlePacket_cases handled
  obtain ⟨table, -, contexts⟩ := deliver_state delivered
  have own : packet ∈ past ++ [packet] := by simp
  constructor
  · intro user entry held
    rw [table] at held
    rcases outcome.table with same | ⟨accepted, registered⟩
    · rw [same] at held
      exact (learned.table user entry held).mono
    · rw [registered] at held
      change (router.table.insert _ _).lookup user = some entry at held
      by_cases mine : user = (received packet message).sender
      · rw [mine, Finmap.lookup_insert, Option.some.injEq] at held
        subst held
        exact ⟨packet, own, message, parsed, accepted, rfl⟩
      · rw [Finmap.lookup_insert_of_ne _ mine] at held
        exact (learned.table user entry held).mono
  · intro callId context held
    rw [contexts] at held
    cases outcome.change callId with
    | unchanged session kept =>
        exact (learned.contexts callId context (kept.symm.trans held)).mono
    | opened entry address mine accepted read session opened =>
        rw [opened, Option.some.injEq] at held
        subst held
        exact
          { inviter := ⟨packet, own, ⟨message, parsed, accepted.method,
              mine⟩, rfl, rfl⟩
            contact := (learned.table _ entry accepted.registered).mono
            callee := read }
    | updated note keep mine forwards learns session kept =>
        rw [kept, Option.map_eq_some_iff] at held
        obtain ⟨earlier, before, rfl⟩ := held
        obtain ⟨inviter, contact, callee⟩ :=
          learned.contexts callId earlier before
        exact ContextLearned.mono ⟨inviter, contact, callee⟩
    | removed mine session gone =>
        rw [gone] at held
        cases held

/-! ## Where one packet leads -/

/-- The contact of a forwarded request, and whose it is. -/
theorem forwarded_contact
    {received : Received} {contact : CppString}
    (outcome : Outcome config.router router received result next)
    (forwarded : result.action = .forwardRequest)
    (given : contact ∈ result.contact) :
    (∃ entry, Admissible router received entry ∧ contact = entry.contact) ∨
      ∃ context, router.callContexts.lookup received.callId = some context ∧
        contact = context.calleeContact := by
  have inCall : ∀ context,
      router.callContexts.lookup received.callId = some context →
      contact ∈ (inCallResult config.router context received.sender
        received.message).contact → ∃ context,
          router.callContexts.lookup received.callId = some context ∧
            contact = context.calleeContact := by
    intro context held given
    unfold inCallResult at given
    split_ifs at given
    · cases given
      exact ⟨context, held, rfl⟩
    · cases given
  cases outcome with
  | replied _ here =>
      rw [forwarded] at here
      rcases here with other | other <;> cases other
  | registered => cases forwarded
  | invited entry address accepted =>
      cases given
      exact Or.inl ⟨entry, accepted, rfl⟩
  | acked context method held => exact Or.inr (inCall context held given)
  | byed context method held => exact Or.inr (inCall context held given)
  | responded context =>
      rw [responseResult_action] at forwarded
      cases forwarded

/-- What `store_call_context` reads, `handle_packet` reads as well. -/
theorem contactDestination_of_calleeAddress
    {contact ip : CppString} {port : UInt16}
    (read : calleeAddress contact = .ok (ip, port)) (present : ip ≠ []) :
    contactDestination contact = .ok (ip, port) := by
  cases atFound : find "@" contact with
  | none =>
      simp only [calleeAddress, atFound] at read
      cases read
      exact absurd rfl present
  | some posAt =>
      cases colonFound : findAfter ":" contact (some posAt) with
      | none =>
          simp only [calleeAddress, atFound, colonFound] at read
          cases read
          exact absurd rfl present
      | some posColon =>
          simp only [calleeAddress, atFound, colonFound] at read
          simp only [contactDestination, atFound, colonFound]
          exact read

/-- The address of a message that goes on without a contact. -/
theorem passed_address
    {received : Received}
    (outcome : Outcome config.router router received result next)
    (passed : result.action = .forwardRequest ∧ result.contact = none ∨
      result.action = .forwardResponse) :
    ∃ context, router.callContexts.lookup received.callId = some context ∧
      (result.ip = context.callerIp ∧ result.port = context.callerPort ∨
        context.calleeIp ≠ [] ∧ result.ip = context.calleeIp ∧
          result.port = context.calleePort) := by
  have inCall : ∀ context,
      router.callContexts.lookup received.callId = some context →
      (inCallResult config.router context received.sender
        received.message).contact = none →
      (inCallResult config.router context received.sender
          received.message).ip = context.callerIp ∧
        (inCallResult config.router context received.sender
          received.message).port = context.callerPort := by
    intro context held bare
    unfold inCallResult at bare ⊢
    split_ifs at bare ⊢
    exact ⟨rfl, rfl⟩
  cases outcome with
  | replied _ here =>
      rcases passed with ⟨forwarded, -⟩ | forwarded
      · rw [forwarded] at here
        rcases here with other | other <;> cases other
      · rw [forwarded] at here
        rcases here with other | other <;> cases other
  | registered => rcases passed with ⟨other, -⟩ | other <;> cases other
  | invited => rcases passed with ⟨-, other⟩ | other <;> cases other
  | acked context method held =>
      refine ⟨context, held, Or.inl (inCall context held ?_)⟩
      rcases passed with ⟨-, bare⟩ | other
      · exact bare
      · unfold inCallResult at other
        split_ifs at other
  | byed context method held =>
      refine ⟨context, held, Or.inl (inCall context held ?_)⟩
      rcases passed with ⟨-, bare⟩ | other
      · exact bare
      · unfold inCallResult at other
        split_ifs at other
  | responded context response held =>
      refine ⟨context, held, ?_⟩
      by_cases toCallee : responseFromCaller context
          ((stripProxyVia received.message).getHeader "Via") = true ∧
            context.calleeIp ≠ []
      · exact Or.inr ⟨toCallee.2,
          by simp only [responseResult, if_pos toCallee],
          by simp only [responseResult, if_pos toCallee]⟩
      · exact Or.inl ⟨by simp only [responseResult, if_neg toCallee],
          by simp only [responseResult, if_neg toCallee]⟩

/-- What the `switch` on the routing result reads the address from. -/
theorem deliver_address
    {message : Sent}
    (delivered : deliver config packet result router =
      .ok (some message, next)) :
    message.ip = packet.ip ∧ message.port = packet.port ∨
      result.action = .forwardRequest ∧ (∃ contact ∈ result.contact,
        contactDestination contact = .ok (message.ip, message.port)) ∨
      (result.action = .forwardRequest ∧ result.contact = none ∨
          result.action = .forwardResponse) ∧
        message.ip = result.ip ∧ message.port = result.port := by
  unfold deliver at delivered
  split at delivered
  · cases delivered
    exact Or.inl ⟨rfl, rfl⟩
  · rename_i forwarded
    split at delivered
    · rename_i contact given
      cases destination : contactDestination contact with
      | error thrown =>
          rw [destination] at delivered
          cases delivered
      | ok address =>
          rw [destination] at delivered
          cases delivered
          exact Or.inr (Or.inl ⟨forwarded, contact, given, destination⟩)
    · rename_i bare
      cases delivered
      exact Or.inr (Or.inr ⟨Or.inl ⟨forwarded, bare⟩, rfl, rfl⟩)
  · rename_i forwarded
    cases delivered
    exact Or.inr (Or.inr ⟨Or.inr forwarded, rfl, rfl⟩)
  · cases delivered

/-- Who may expect a message of the proxy. -/
inductive Entitled (past : List RawPacket) (packet : RawPacket)
    (message : Sent) : Prop where
  | sender (ip : message.ip = packet.ip) (port : message.port = packet.port)
  | inviter (invite : RawPacket) (earlier : invite ∈ past)
      (content : SIPMessage)
      (parsed : SIPParser.parse packet.data = .ok content)
      (sameCall : Invites (content.getHeader "Call-ID") invite)
      (ip : message.ip = invite.ip) (port : message.port = invite.port)
  | registrant (contact : CppString) (told : FromRegister past contact)
      (leads : contactDestination contact = .ok (message.ip, message.port))

theorem Learned.entitled
    {message : Sent}
    (handled : SIPProxy.handlePacket config router packet =
      .ok (some message, next))
    (learned : Learned past router) : Entitled past packet message := by
  obtain ⟨content, result, middle, parsed, outcome, delivered⟩ :=
    handlePacket_cases handled
  rcases deliver_address delivered with ⟨ip, port⟩ |
    ⟨forwarded, contact, given, leads⟩ | ⟨passed, ip, port⟩
  · exact .sender ip port
  · refine .registrant contact ?_ leads
    rcases forwarded_contact outcome forwarded given with
      ⟨entry, accepted, rfl⟩ | ⟨context, held, rfl⟩
    · exact learned.table _ entry accepted.registered
    · exact (learned.contexts _ context held).contact
  · obtain ⟨context, held, address⟩ := passed_address outcome passed
    have told := learned.contexts _ context held
    rcases address with ⟨callerIp, callerPort⟩ |
      ⟨present, calleeIp, calleePort⟩
    · obtain ⟨invite, earlier, invites, sourceIp, sourcePort⟩ := told.inviter
      exact .inviter invite earlier content parsed invites
        (ip.trans (callerIp.trans sourceIp))
        (port.trans (callerPort.trans sourcePort))
    · have leads := contactDestination_of_calleeAddress told.callee present
      rw [← calleeIp, ← calleePort, ← ip, ← port] at leads
      exact .registrant _ told.contact leads

/-! ## Every run -/

/-- Everything the proxy has sent went to somebody who may expect it. -/
def AllEntitled (history : List (RawPacket × Option Sent)) : Prop :=
  ∀ before packet message after,
    history = before ++ (packet, some message) :: after →
      Entitled (before.map Prod.fst) packet message

/-- Bob registers a contact with a port. -/
def registerWithPort : RawPacket :=
  { registerWithoutPort with
    data := packetText
      ["REGISTER sip:bob@local SIP/2.0", "Via: SIP/2.0/UDP 10.0.0.2",
        "From: <sip:bob@local>", "To: <sip:bob@local>", "Call-ID: r1",
        "CSeq: 1 REGISTER", "Contact: <sip:bob@10.0.0.9:5066>",
        "Content-Length: 0"] }

end MinimalSip.Proxy.SIPProxy

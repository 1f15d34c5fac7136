import MinimalSip.Client.BuiltRequests
import MinimalSip.Proxy.CallIsolation

/-!
# Calls reach the client that registered

A client registers with a request of its factory, and another client calls it
with a request of its own.  In between the proxy may handle anything but
another registration of the same user.  The destination that it computes for
the call is the local address of the registered client's factory.
-/

namespace MinimalSip.Client

open MinimalSip.Lib.Cpp
open MinimalSip.Lib.Machine
open MinimalSip.Common
open MinimalSip.Common.SIPMessage
open MinimalSip.Proxy
open MinimalSip.Proxy.SIPParser
open MinimalSip.Proxy.SIPProxy
open MinimalSip.Proxy.SIPRouter

/-- A name that neither ends a bracketed URI nor its line. -/
structure NameText (text : CppString) : Prop where
  noClose : '>' ∉ text
  unbroken : '\n' ∉ text

theorem NameText.identity_noClose
    {user domain : CppString}
    (userText : NameText user) (domainText : NameText domain) :
    '>' ∉ identity user domain := by
  unfold identity
  simp [userText.noClose, domainText.noClose]

theorem bracketed_nonempty (user host : CppString) :
    bracketed user host ≠ [] := by
  unfold bracketed
  simp

/-- The identity that is read in a header written with brackets. -/
theorem sipIdentity_of_read
    {user domain value : CppString}
    (userText : NameText user) (domainText : NameText domain)
    (read : value = strip blanks (bracketed user domain)) :
    sipIdentity value = identity user domain := by
  rw [read, strip_bracketed,
    sipIdentity_bracketed (userText.identity_noClose domainText)]

section Delivery

variable {config : ProxyConfig}
variable {client caller client' caller' : SIPMessageFactory}
variable {user domain callerUser callerDomain callId extraHeaders :
  CppString}
variable {before router next : SIPRouter} {packet : RawPacket}
variable {sent : Option Sent}

/-! ## The registration -/

/-- A REGISTER of the factory is accepted, for the user and its address. -/
theorem registers_of_built
    (localIp : '\n' ∉ client.localIp)
    (userText : NameText user) (domainText : NameText domain)
    (built : client.buildRegister user domain [] =
      .ok (packet.data, client')) :
    ∃ message, parse packet.data = .ok message ∧
      Registers (received packet message) ∧
      (received packet message).sender = identity user domain ∧
      message.getHeader "Contact" =
        bracketed user client.localAddress := by
  have unbroken : Unbroken client user domain user domain [] :=
    ⟨localIp, userText.unbroken, domainText.unbroken, userText.unbroken,
      domainText.unbroken, List.not_mem_nil⟩
  obtain ⟨message, parsed, reads⟩ := parse_build (Or.inl rfl) unbroken built
  have fromHeader : message.getHeader "From" = bracketed user domain :=
    (reads.value "From".toList (by decide)).trans (strip_bracketed _ _)
  have contact : message.getHeader "Contact" =
      bracketed user client.localAddress :=
    (reads.value "Contact".toList (by decide)).trans (strip_bracketed _ _)
  have sender : (received packet message).sender = identity user domain :=
    sipIdentity_of_read userText domainText
      (reads.value "From".toList (by decide))
  refine ⟨message, parsed, ?_, sender, contact⟩
  constructor
  · exact reads.method
  · have present := reads.framed
    simp only [frameNames, List.forall_mem_cons] at present
    simp only [received, hasRequiredRegisterHeaders, present,
      reads.contentLength, Bool.and_self]
  · rw [received, fromHeader]
    exact bracketed_nonempty _ _
  · rw [received, contact]
    exact bracketed_nonempty _ _
  · rw [sender]
    exact identity_nonempty user domain

/-- After a REGISTER of the factory the table holds its address. -/
theorem lookup_of_register_built
    (localIp : '\n' ∉ client.localIp)
    (userText : NameText user) (domainText : NameText domain)
    (built : client.buildRegister user domain [] =
      .ok (packet.data, client'))
    (handled : handlePacket config before packet = .ok (sent, router)) :
    router.table.lookup (identity user domain) =
      some ⟨bracketed user client.localAddress, packet.transport⟩ := by
  obtain ⟨message, parsed, accepted, sender, contact⟩ :=
    registers_of_built localIp userText domainText built
  have entered := handlePacket_registers parsed accepted handled
  rwa [sender, contact] at entered

/-- The packet is not an accepted REGISTER for the identity. -/
def LeavesRegistration (who : CppString) (packet : RawPacket) : Prop :=
  ∀ message, parse packet.data = .ok message →
    Registers (received packet message) →
      (received packet message).sender ≠ who

/-- A packet that leaves a registration alone keeps its entry. -/
theorem lookup_kept
    {who : CppString} {entry : ContactEntry}
    (handled : handlePacket config router packet = .ok (sent, next))
    (leaves : LeavesRegistration who packet)
    (held : router.table.lookup who = some entry) :
    next.table.lookup who = some entry := by
  obtain ⟨message, result, middle, parsed, outcome, delivered⟩ :=
    handlePacket_cases handled
  rw [(deliver_state delivered).1]
  rcases outcome.table with same | ⟨accepted, written⟩
  · rw [same]
    exact held
  · have other := leaves message parsed accepted
    rw [written]
    unfold SIPRouter.register RegistrationTable.registerUser
    rw [Finmap.lookup_insert_of_ne _ other.symm]
    exact held

/-! ## The call -/

/-- The extra lines leave From, To and Call-ID as they are. -/
def LeavesParties (extraHeaders : CppString) (headers : List SIPHeader) :
    Prop :=
  ∀ name ∈ ["From".toList, "To".toList, "Call-ID".toList],
    valueIn (SIPMessageFactory.addExtraHeaders extraHeaders headers) name =
      valueIn headers name

/-- An INVITE of the factory is admissible for a registered other user. -/
theorem admissible_of_built
    (localIp : '\n' ∉ caller.localIp)
    (userText : NameText user) (domainText : NameText domain)
    (callerText : NameText callerUser)
    (callerDomainText : NameText callerDomain)
    (callIdUnbroken : '\n' ∉ callId) (callIdBare : Bare blanks callId)
    (distinct : identity callerUser callerDomain ≠ identity user domain)
    (leaves : LeavesParties extraHeaders
      (caller.baseHeaders "INVITE" callerUser callerDomain user domain
        callId))
    (built : caller.buildInvite callerUser callerDomain user domain callId
      extraHeaders = .ok (packet.data, caller'))
    {entry : ContactEntry}
    (registered : router.table.lookup (identity user domain) = some entry)
    (sameTransport : packet.transport = entry.transport)
    (fresh : callId ∉ router.registry) :
    ∃ message, parse packet.data = .ok message ∧
      Admissible router (received packet message) entry := by
  have unbroken : Unbroken caller callerUser callerDomain user domain
      callId :=
    ⟨localIp, callerText.unbroken, callerDomainText.unbroken,
      userText.unbroken, domainText.unbroken, callIdUnbroken⟩
  obtain ⟨message, parsed, reads⟩ := parse_build (Or.inr rfl) unbroken built
  have read : ∀ name ∈ ["From".toList, "To".toList, "Call-ID".toList],
      message.getHeader name = strip blanks
        (valueIn (caller.baseHeaders "INVITE" callerUser callerDomain user
          domain callId) name) := by
    intro name party
    have inFrame : name ∈ frameNames := by
      revert name
      decide
    rw [reads.value name inFrame, leaves name party]
  have sender : (received packet message).sender =
      identity callerUser callerDomain :=
    sipIdentity_of_read callerText callerDomainText
      (read "From".toList (by decide))
  have target : (received packet message).target = identity user domain :=
    sipIdentity_of_read userText domainText (read "To".toList (by decide))
  have ownCallId : (received packet message).callId = callId :=
    (read "Call-ID".toList (by decide)).trans (strip_of_bare callIdBare)
  refine ⟨message, parsed, ⟨reads.method, ?_, ?_, ?_, ?_, ?_, ?_⟩, ?_⟩
  · have present := reads.framed
    simp only [frameNames, List.forall_mem_cons] at present
    simp only [received, hasRequiredInviteHeaders, present,
      reads.contentLength, Bool.and_self]
  · rw [sender]
    exact identity_nonempty _ _
  · rw [target]
    exact identity_nonempty _ _
  · rw [sender, target]
    exact distinct
  · rw [target]
    exact registered
  · exact sameTransport.symm
  · rw [ownCallId]
    exact fresh

end Delivery

def bobFactory : SIPMessageFactory :=
  SIPMessageFactory.create "10.0.0.2" 5062 7

def aliceFactory : SIPMessageFactory :=
  SIPMessageFactory.create "10.0.0.1" 5070 9

def registerBobPacket : RawPacket where
  data := packetText
    ["REGISTER sip:bob@local SIP/2.0", "Via: SIP/2.0/UDP 10.0.0.2:5062",
      "From: <sip:bob@local>", "To: <sip:bob@local>",
      "Call-ID: 7@10.0.0.2", "CSeq: 1 REGISTER",
      "Contact: <sip:bob@10.0.0.2:5062>", "Content-Length: 0"]
  ip := "10.0.0.2"
  port := 5062
  transport := .udp

def registerAlicePacket : RawPacket where
  data := packetText
    ["REGISTER sip:alice@local SIP/2.0", "Via: SIP/2.0/UDP 10.0.0.1:5070",
      "From: <sip:alice@local>", "To: <sip:alice@local>",
      "Call-ID: 9@10.0.0.1", "CSeq: 1 REGISTER",
      "Contact: <sip:alice@10.0.0.1:5070>", "Content-Length: 0"]
  ip := "10.0.0.1"
  port := 5070
  transport := .udp

/-- Alice calls Bob, with a header line of her own. -/
def inviteBobPacket : RawPacket where
  data := packetText
    ["INVITE sip:bob@local SIP/2.0", "Via: SIP/2.0/UDP 10.0.0.1:5070",
      "From: <sip:alice@local>", "To: <sip:bob@local>", "Call-ID: c1",
      "CSeq: 1 INVITE", "Contact: <sip:alice@10.0.0.1:5070>",
      "Subject: lunch", "Content-Length: 0"]
  ip := "10.0.0.1"
  port := 5070
  transport := .udp

/-- The same call, but an extra header line sends it to Carol. -/
def inviteCarolPacket : RawPacket where
  data := packetText
    ["INVITE sip:bob@local SIP/2.0", "Via: SIP/2.0/UDP 10.0.0.1:5070",
      "From: <sip:alice@local>", "To: <sip:carol@local>", "Call-ID: c1",
      "CSeq: 1 INVITE", "Contact: <sip:alice@10.0.0.1:5070>",
      "Content-Length: 0"]
  ip := "10.0.0.1"
  port := 5070
  transport := .udp

/-- The factory wrote this text. -/
def wrote (text : CppString) (built : CppString × SIPMessageFactory) : Bool :=
  built.1 = text

theorem exists_of_wrote
    {result : Except StdException (CppString × SIPMessageFactory)}
    {text : CppString}
    (tested : succeedsWith result (wrote text) = true) :
    ∃ next, result = .ok (text, next) := by
  obtain ⟨⟨written, next⟩, built, same⟩ := exists_of_succeedsWith tested
  obtain rfl : written = text := of_decide_eq_true same
  exact ⟨next, built⟩

theorem registerBobPacket_built :
    ∃ next, bobFactory.buildRegister "bob" "local" [] =
      .ok (registerBobPacket.data, next) :=
  exists_of_wrote (by decide +kernel)

theorem registerAlicePacket_built :
    ∃ next, aliceFactory.buildRegister "alice" "local" [] =
      .ok (registerAlicePacket.data, next) :=
  exists_of_wrote (by decide +kernel)

theorem inviteBobPacket_built :
    ∃ next, aliceFactory.buildInvite "alice" "local" "bob" "local" aliceCall
      "Subject: lunch" = .ok (inviteBobPacket.data, next) :=
  exists_of_wrote (by decide +kernel)

/-- A REGISTER of another user leaves a registration alone. -/
theorem leavesRegistration_of_built
    {client client' : SIPMessageFactory} {user domain who : CppString}
    {packet : RawPacket}
    (localIp : '\n' ∉ client.localIp)
    (userText : NameText user) (domainText : NameText domain)
    (built : client.buildRegister user domain [] =
      .ok (packet.data, client'))
    (other : identity user domain ≠ who) :
    LeavesRegistration who packet := by
  obtain ⟨message, parsed, -, sender, -⟩ :=
    registers_of_built localIp userText domainText built
  intro message' parsed' accepted
  rw [parsed, Except.ok.injEq] at parsed'
  subst parsed'
  rw [sender]
  exact other

instance (text : CppString) : Decidable (NameText text) :=
  decidable_of_iff ('>' ∉ text ∧ '\n' ∉ text)
    ⟨fun both => ⟨both.1, both.2⟩,
      fun plain => ⟨plain.noClose, plain.unbroken⟩⟩

instance (extraHeaders : CppString) (headers : List SIPHeader) :
    Decidable (LeavesParties extraHeaders headers) :=
  inferInstanceAs (Decidable (∀ name ∈
    ["From".toList, "To".toList, "Call-ID".toList],
    valueIn (SIPMessageFactory.addExtraHeaders extraHeaders headers) name =
      valueIn headers name))

end MinimalSip.Client

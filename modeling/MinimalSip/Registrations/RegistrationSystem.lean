import MinimalSip.Calls.CallSystem
import MinimalSip.Client.InviteDelivery
import MinimalSip.Client.RegisterReplies
import MinimalSip.Proxy.LocalAnswers
import MinimalSip.Registrations.RegistrationProtocol

/-!
# Phones and the proxy

The program as a registration service: any number of clients, each with its
user and its address, and the proxy, over a network that may deliver whatever
was sent any number of times, in any order, or not at all.

Every run of it goes through, and is a run of the abstract protocol.
-/

namespace MinimalSip.Registrations

open MinimalSip.Lib.Cpp
open MinimalSip.Lib.Links
open MinimalSip.Lib.Machine
open MinimalSip.Lib.Search
open MinimalSip.Common
open MinimalSip.Common.SIPMessage
open MinimalSip.Calls
open MinimalSip.Client
open MinimalSip.Proxy
open MinimalSip.Proxy.SIPParser
open MinimalSip.Proxy.SIPProxy
open MinimalSip.Proxy.SIPRouter

/-! ## The parties -/

/-- A client that registers one user, and the address that its packets show. -/
structure Phone where
  user : CppString
  domain : CppString
  endpoint : Endpoint
  transport : TransportType
  factory : SIPMessageFactory
  contactPort : UInt16
  errorCallback : Bool
  userText : NameText user
  domainText : NameText domain
  userNoAt : '@' ∉ user
  hostNoColon : ':' ∉ factory.localIp
  hostUnbroken : '\n' ∉ factory.localIp
  localPort : factory.localPort = contactPort.toNat

namespace Phone

variable (phone : Phone)

def identity : CppString :=
  Client.identity phone.user phone.domain

/-- The contact under which the phone registers. -/
def contact : CppString :=
  bracketed phone.user phone.factory.localAddress

def packet (text : CppString) : RawPacket where
  data := text
  ip := phone.endpoint.ip
  port := phone.endpoint.port
  transport := phone.transport

/-- A packet of the proxy arrives here. -/
def Receives (sent : Sent) : Prop :=
  sent.ip = phone.endpoint.ip ∧ sent.port = phone.endpoint.port ∧
    sent.transport = phone.transport

instance (sent : Sent) : Decidable (phone.Receives sent) :=
  inferInstanceAs (Decidable (_ ∧ _ ∧ _))

end Phone

/-- Phones with different users and different addresses. -/
structure Service (ι : Type) where
  config : ProxyConfig
  phones : ι → Phone
  users : Function.Injective (fun phone => (phones phone).identity)
  ends : Function.Injective (fun phone =>
    ((phones phone).endpoint, (phones phone).transport))
  enabled : ∀ phone, (phones phone).transport = .tcp →
    config.tcpEnabled = true

structure System (ι : Type) where
  clients : ι → SIPClient CppString
  router : SIPRouter
  requests : List (ι × CppString) := []
  replies : List Sent := []

namespace Service

variable {ι : Type} [DecidableEq ι] (service : Service ι)

def initial : System ι where
  clients := fun phone =>
    SIPClient.initial (service.phones phone).factory
      (service.phones phone).errorCallback
  router := SIPRouter.initial

/-- An event of a client, which sends what it has to. -/
def clientDoes (system : System ι) (phone : ι) (event : Event CppString) :
    Except StdException (System ι) := do
  let (effects, client) ← (system.clients phone).step event
  pure { system with
    clients := Function.update system.clients phone client
    requests := system.requests ++
      effects.sent.map (fun text => (phone, text)) }

def move (system : System ι) : Move ι → Except StdException (System ι)
  | .doRegister phone =>
      clientDoes system phone (.doRegister (service.phones phone).user
        (service.phones phone).domain [])
  | .waited phone => clientDoes system phone .registerWaited
  | .toProxy index =>
      match system.requests[index]? with
      | none => .ok system
      | some (phone, text) => do
          let (sent, router) ← handlePacket service.config system.router
            ((service.phones phone).packet text)
          pure { system with
            router := router
            replies := system.replies ++ sent.toList }
  | .toPhone phone index =>
      match system.replies[index]? with
      | none => .ok system
      | some sent =>
          if (service.phones phone).Receives sent then
            clientDoes system phone (.received sent.data)
          else .ok system

/-- The moves as the steps of a machine without output. -/
def step (system : System ι) (move : Move ι) :
    Except StdException (Unit × System ι) :=
  (service.move system move).map (fun next => ((), next))

end Service

/-! ## What the parties write -/

section Texts

variable {phone : Phone} {text : CppString} {client : SIPClient CppString}
variable {router : SIPRouter} {config : ProxyConfig}

/-- A REGISTER of the phone, whatever its CSeq. -/
def RegisterText (phone : Phone) (text : CppString) : Prop :=
  ∃ factory next : SIPMessageFactory,
    factory.localIp = phone.factory.localIp ∧
    factory.localPort = phone.factory.localPort ∧
    factory.buildRegister phone.user phone.domain [] = .ok (text, next)

/-- What a phone looks for in the proxy's reply. -/
structure ReplyText (text : CppString) : Prop where
  starts : "SIP/2.0 200 OK".toList <+: text
  register : "REGISTER".toList <:+: toUpper text

/-- The CSeq of a REGISTER names its method. -/
theorem cseq_of_registerText
    (written : RegisterText phone text) :
    ∃ message, parse text = .ok message ∧
      "REGISTER".toList <:+ message.getHeader "CSeq" := by
  obtain ⟨factory, next, localIp, localPort, built⟩ := written
  have unbroken : Unbroken factory phone.user phone.domain phone.user
      phone.domain [] :=
    ⟨localIp ▸ phone.hostUnbroken, phone.userText.unbroken,
      phone.domainText.unbroken, phone.userText.unbroken,
      phone.domainText.unbroken, List.not_mem_nil⟩
  obtain ⟨message, parsed, reads⟩ := parse_build (Or.inl rfl) unbroken built
  have value := reads.value "CSeq" (by decide)
  have written : valueIn (SIPMessageFactory.addExtraHeaders []
      (factory.baseHeaders "REGISTER" phone.user phone.domain phone.user
        phone.domain [])) "CSeq" =
          stdToString factory.cseq ++ " ".toList ++ "REGISTER".toList := rfl
  have bare : Bare blanks
      (stdToString factory.cseq ++ " ".toList ++ "REGISTER".toList) := by
    obtain ⟨first, starts, solid⟩ := stdToString_first factory.cseq
    have spaces : ∀ char ∈ blanks, isSpace char = true := by decide
    constructor
    · rw [starts_append (starts_append starts _) _]
      rintro char ⟨⟩ blank
      rw [spaces _ blank] at solid
      cases solid
    · rw [List.getLast?_append_of_ne_nil _ (by decide)]
      decide
  rw [written, strip_of_bare bare] at value
  exact ⟨message, parsed, value ▸ List.suffix_append _ _⟩

/-- A message begins with its start line. -/
theorem starts_serialize (message : SIPMessage) :
    message.startLine <+: message.serialize := by
  unfold SIPMessage.serialize
  simp only [List.append_assoc]
  exact List.prefix_append _ _

/-- The reply to a REGISTER repeats its CSeq. -/
theorem register_infix_reply
    {message : SIPMessage}
    (named : "REGISTER".toList <:+ message.getHeader "CSeq") :
    "REGISTER".toList <:+:
      toUpper (localResponse "SIP/2.0 200 OK" message).serialize := by
  have present : message.getHeader "CSeq" ≠ [] := by
    intro empty
    rw [empty] at named
    exact absurd (List.suffix_nil.mp named) (by decide)
  have echoed : message.getHeader "CSeq" ∈
      (localResponse "SIP/2.0 200 OK" message).getHeaders "CSeq" := by
    rw [getHeaders_localResponse_echoed (by decide), onlyNonempty,
      if_neg present]
    exact List.mem_singleton_self _
  obtain ⟨header, filtered, value⟩ := List.mem_map.mp echoed
  obtain ⟨member, name⟩ := List.mem_filter.mp filtered
  have named' : header.name = "CSeq".toList := of_decide_eq_true name
  have kept : header ∈ (localResponse "SIP/2.0 200 OK"
      message).updateContentLength.headers :=
    mem_assignFirst_of_ne member (by rw [named']; decide)
  have word : PlainWord "REGISTER" := plainWord_of_searched _ (by simp)
  rw [← contains_iff, word.contains_serialize_iff]
  refine ⟨header.value, ?_, ?_⟩
  · exact List.mem_cons_of_mem _ (List.mem_append_left _
      (List.mem_flatMap.mpr ⟨_, kept, by simp⟩))
  · obtain ⟨front, split⟩ := named
    rw [value, ← split, toUpper, List.map_append]
    exact (List.suffix_append _ (toUpper "REGISTER")).isInfix

/-- The proxy enters the phone and replies to it. -/
theorem handlePacket_registerText
    (written : RegisterText phone text)
    (enabled : phone.transport = .tcp → config.tcpEnabled = true) :
    ∃ sent next, handlePacket config router (phone.packet text) =
        .ok (some sent, next) ∧
      phone.Receives sent ∧ ReplyText sent.data ∧
      next.table = router.table.registerUser phone.identity phone.contact
        phone.transport := by
  obtain ⟨message, parsed, named⟩ := cseq_of_registerText written
  obtain ⟨factory, next, localIp, localPort, built⟩ := written
  have packed : factory.buildRegister phone.user phone.domain [] =
      .ok ((phone.packet text).data, next) := built
  obtain ⟨message', parsed', accepted, sender, contact⟩ :=
    registers_of_built (localIp ▸ phone.hostUnbroken) phone.userText
      phone.domainText packed
  obtain rfl : message = message' :=
    Except.ok.inj (parsed.symm.trans parsed')
  have transport : (if config.tcpEnabled = true ∧ phone.transport = .tcp then
      TransportType.tcp else .udp) = phone.transport := by
    cases chosen : phone.transport with
    | tcp => exact if_pos ⟨enabled chosen, rfl⟩
    | udp => exact if_neg (fun tcp => absurd tcp.2 (by decide))
  rw [handlePacket_eq parsed', step_registers accepted, ok_bind]
  have starts := starts_serialize (localResponse "SIP/2.0 200 OK" message)
  rw [localResponse_startLine] at starts
  refine ⟨_, _, rfl, ⟨rfl, rfl, transport⟩, ⟨?_, ?_⟩, ?_⟩
  · exact starts
  · exact register_infix_reply named
  · have sameContact : phone.contact =
        bracketed phone.user factory.localAddress := by
      unfold Phone.contact SIPMessageFactory.localAddress
      rw [localIp, localPort]
    change router.table.registerUser (received (phone.packet text)
      message).sender (message.getHeader "Contact") phone.transport = _
    rw [sender, contact, sameContact]
    rfl

/-- What a phone without a call makes of the reply: it keeps it. -/
theorem step_replyText
    (reply : ReplyText text) (noCall : client.state.activeCallId = []) :
    client.step (.received text) =
      .ok ({}, { client with registerResponse := some text }) := by
  have upper : "SIP/2.0 200 OK".toList <+: toUpper text := by
    obtain ⟨rest, rfl⟩ := reply.starts
    rw [toUpper, List.map_append]
    exact List.prefix_append (toUpper "SIP/2.0 200 OK") _
  have version : Wire.beginsWith "SIP/2.0" text = true :=
    List.isPrefixOf_iff_prefix.mpr (List.IsPrefix.trans (by decide) upper)
  have searched : ∀ word : CppString, word <:+: "SIP/2.0 200 OK".toList →
      Wire.mentions word text = true :=
    fun word inside => contains_iff.mpr (inside.trans upper.isInfix)
  have register : Wire.mentions "REGISTER" text = true :=
    contains_iff.mpr reply.register
  have recognised : (Wire.mentions "SIP/2.0" text &&
      ((Wire.mentions "200 OK" text || Wire.mentions "401" text) &&
        Wire.mentions "REGISTER" text)) = true := by
    rw [searched "SIP/2.0" (by decide), searched "200 OK" (by decide),
      register]
    rfl
  have kept : client.handleReceive text =
      { client with registerResponse := some text } := by
    rw [SIPClient.handleReceive, if_pos recognised]
  have ignored : ({ client with registerResponse := some text } :
      SIPClient CppString).onMessage text =
        .ok ([], { client with registerResponse := some text }) := by
    refine SIPClient.onMessage_other (fun invite => invite.1 version)
      (fun bye => bye.1 version) (fun concerns => ?_)
    exact concerns.nonempty (concerns.active.trans noCall)
  have harmless : callError text = .ok none := by
    unfold callError
    refine if_neg (fun failure => ?_)
    rcases List.prefix_or_prefix_of_prefix failure reply.starts with
      short | long
    · exact absurd short (by decide)
    · exact absurd long (by decide)
  refine SIPClient.onPacketReceived_ok_iff.mpr ⟨?_, ?_⟩
  · rw [kept]
    exact ignored
  · unfold SIPClient.reportError
    split_ifs
    · exact harmless
    · rfl

end Texts

/-! ## The system read as the protocol -/

/-- The reply, if one has been heard. -/
def Heard (response : Option CppString) : Bool → Prop
  | false => response = none
  | true => ∃ text, response = some text ∧ ReplyText text

/-- A phase of a phone in its client. -/
def Phase.Shown (phone : Phone) (client : SIPClient CppString) :
    Phase → Prop
  | .idle => client.state.state = .idle ∧ client.registration = none
  | .trying attempts heard => client.state.state = .registering ∧
      Heard client.registerResponse heard ∧
      ∃ registration, client.registration = some registration ∧
        registration.username = phone.user ∧
        registration.domain = phone.domain ∧
        registration.attempts = attempts ∧
        RegisterText phone registration.message
  | .registered => client.state.state = .registered ∧
      client.state.registeredUser = phone.identity ∧
      client.registration = none
  | .failed => client.state.state = .failed ∧ client.registration = none

structure PhoneIs (phone : Phone) (phase : Phase)
    (client : SIPClient CppString) : Prop where
  localIp : client.factory.localIp = phone.factory.localIp
  localPort : client.factory.localPort = phone.factory.localPort
  noCall : client.state.activeCallId = []
  shown : phase.Shown phone client

/-- The entry that a phone has in the table. -/
def Phone.entry (phone : Phone) : Bool → Option ContactEntry
  | true => some ⟨phone.contact, phone.transport⟩
  | false => none

section Relation

variable {ι : Type} (service : Service ι)

/-- A REGISTER in the network. -/
def Requests (phone : ι) (request : ι × CppString) : Prop :=
  request.1 = phone ∧ RegisterText (service.phones phone) request.2

def Replies (phone : ι) (sent : Sent) : Prop :=
  (service.phones phone).Receives sent ∧ ReplyText sent.data

structure Represents (state : Protocol ι) (system : System ι) : Prop where
  clients : ∀ phone, PhoneIs (service.phones phone) (state.phases phone)
    (system.clients phone)
  table : ∀ phone,
    system.router.table.lookup (service.phones phone).identity =
      (service.phones phone).entry (state.entered phone)
  requests : List.Forall₂ (Requests service) state.requests system.requests
  replies : List.Forall₂ (Replies service) state.replies system.replies

end Relation

/-! ## One client -/

section Clients

variable {phone : Phone} {phase : Phase} {client : SIPClient CppString}

/-- What a client does in a phase. -/
def Goes (phone : Phone) (client : SIPClient CppString)
    (event : Event CppString) (next : Phase × Nat) : Prop :=
  ∃ effects client', client.step event = .ok (effects, client') ∧
    PhoneIs phone next.1 client' ∧ effects.sent.length = next.2 ∧
    ∀ text ∈ effects.sent, RegisterText phone text

/-- A new attempt, from any phase but `trying`. -/
theorem PhoneIs.starts
    (shown : PhoneIs phone phase client) (free : client.registration = none) :
    Goes phone client (.doRegister phone.user phone.domain [])
      (.trying 1 false, 1) := by
  have built := SIPMessageFactory.build_eq_request client.factory
    (show "REGISTER".toList ≠ [] by decide) phone.user phone.domain phone.user
    phone.domain [] []
  have written : RegisterText phone (Wire.ofRequest
      (client.factory.request "REGISTER" phone.user phone.domain phone.user
        phone.domain [] [])) :=
    ⟨client.factory, _, shown.localIp, shown.localPort, built⟩
  have unset : (client.setPendingHeaders "REGISTER" []).pendingHeaders
      "REGISTER" = [] := by
    simp only [SIPClient.setPendingHeaders, if_true]
  refine ⟨_, _, rfl, ?_⟩
  simp only [SIPClient.doRegister, free, unset]
  exact ⟨⟨shown.localIp, shown.localPort, shown.noCall,
    ⟨rfl, rfl, _, rfl, rfl, rfl, rfl, written⟩⟩, rfl,
    fun text member => List.mem_singleton.mp member ▸ written⟩

theorem PhoneIs.doRegister (shown : PhoneIs phone phase client) :
    Goes phone client (.doRegister phone.user phone.domain [])
      phase.doRegister := by
  have phases := shown.shown
  cases phase with
  | idle => exact shown.starts phases.2
  | registered => exact shown.starts phases.2.2
  | failed => exact shown.starts phases.2
  | trying attempts heard =>
      obtain ⟨-, -, registration, busy, -⟩ := phases
      refine ⟨_, _, rfl, ?_⟩
      simp only [SIPClient.doRegister, busy]
      exact ⟨shown, rfl, nofun⟩

theorem goes_of_waited
    {sent : List CppString} {next : Phase × Nat}
    {client' : SIPClient CppString}
    (waited : client.registerWaited = (sent, client'))
    (after : PhoneIs phone next.1 client') (length : sent.length = next.2)
    (texts : ∀ text ∈ sent, RegisterText phone text) :
    Goes phone client .registerWaited next :=
  ⟨{ sent := sent }, client', by rw [SIPClient.step, waited]; rfl, after,
    length, texts⟩

/-- A wait outside a registration does nothing. -/
theorem PhoneIs.rests
    (shown : PhoneIs phone phase client) (free : client.registration = none) :
    Goes phone client .registerWaited (phase, 0) := by
  have waited : client.registerWaited = ([], client) := by
    simp only [SIPClient.registerWaited, free]
  exact goes_of_waited waited shown rfl nofun

/-- A wait during a registration ends it, or sends the REGISTER again. -/
theorem PhoneIs.tries
    {attempts : Nat} {heard : Bool}
    (shown : PhoneIs phone (.trying attempts heard) client) :
    Goes phone client .registerWaited
      (Phase.trying attempts heard).waited := by
  obtain ⟨state, response, registration, busy, username, domain, rfl,
    written⟩ := shown.shown
  cases heard with
  | true =>
      obtain ⟨text, heard, reply⟩ := response
      have confirmed : Wire.saysOk text = true :=
        contains_iff.mpr reply.starts.isInfix
      have success : client.registerOutcome registration =
          client.state.onRegisterSuccess phone.user phone.domain := by
        simp only [SIPClient.registerOutcome, heard, confirmed, if_true,
          username, domain]
      have waited : client.registerWaited = ([], { client with
          state := client.state.onRegisterSuccess phone.user phone.domain
          registration := none }) := by
        simp [SIPClient.registerWaited, busy, heard, success]
      exact goes_of_waited waited
        ⟨shown.localIp, shown.localPort, shown.noCall, rfl, rfl, rfl⟩ rfl nofun
  | false =>
      have unheard : client.registerResponse = none := response
      by_cases more : registration.attempts < 5
      · have waited : client.registerWaited = ([registration.message],
            { client with
              registration := some { registration with
                attempts := registration.attempts + 1 } }) := by
          simp [SIPClient.registerWaited, SIPClient.maxAttempts, busy,
            unheard, more]
        rw [Phase.waited, if_pos more]
        exact goes_of_waited waited
          ⟨shown.localIp, shown.localPort, shown.noCall, state, unheard, _,
            rfl, username, domain, rfl, written⟩ rfl
          (fun text member => List.mem_singleton.mp member ▸ written)
      · have failure : client.registerOutcome registration =
            client.state.onRegisterFailed := by
          simp only [SIPClient.registerOutcome, unheard]
        have waited : client.registerWaited = ([], { client with
            state := client.state.onRegisterFailed
            registration := none }) := by
          simp [SIPClient.registerWaited, SIPClient.maxAttempts, busy,
            unheard, more, failure]
        rw [Phase.waited, if_neg more]
        exact goes_of_waited waited
          ⟨shown.localIp, shown.localPort, shown.noCall, rfl, rfl⟩ rfl nofun

theorem PhoneIs.waited (shown : PhoneIs phone phase client) :
    Goes phone client .registerWaited phase.waited := by
  cases phase with
  | idle => exact shown.rests shown.shown.2
  | registered => exact shown.rests shown.shown.2.2
  | failed => exact shown.rests shown.shown.2
  | trying attempts heard => exact shown.tries

theorem PhoneIs.hears
    {text : CppString} (shown : PhoneIs phone phase client)
    (reply : ReplyText text) :
    Goes phone client (.received text) (phase.hears, 0) := by
  refine ⟨_, _, step_replyText reply shown.noCall, ?_, rfl, nofun⟩
  have phases := shown.shown
  refine ⟨shown.localIp, shown.localPort, shown.noCall, ?_⟩
  cases phase with
  | idle => exact phases
  | registered => exact phases
  | failed => exact phases
  | trying attempts heard =>
      exact ⟨phases.1, ⟨text, rfl, reply⟩, phases.2.2⟩

end Clients

/-! ## Every move -/

section Moves

variable {ι : Type} [DecidableEq ι] {service : Service ι}
variable {state : Protocol ι} {system : System ι}

omit [DecidableEq ι] in
/-- A packet of the proxy arrives at one phone. -/
theorem Service.receives_unique
    (service : Service ι) {sent : Sent} {first second : ι}
    (here : (service.phones first).Receives sent)
    (there : (service.phones second).Receives sent) : first = second := by
  refine service.ends (Prod.ext_iff.mpr ⟨?_, here.2.2.symm.trans there.2.2⟩)
  have ip := here.1.symm.trans there.1
  have port := here.2.1.symm.trans there.2.1
  change (service.phones first).endpoint = (service.phones second).endpoint
  cases one : (service.phones first).endpoint
  cases other : (service.phones second).endpoint
  rw [one, other] at ip port
  rw [Endpoint.mk.injEq]
  exact ⟨ip, port⟩

omit [DecidableEq ι] in
theorem represents_initial (service : Service ι) :
    Represents service {} service.initial where
  clients := fun _ => ⟨rfl, rfl, rfl, rfl, rfl⟩
  table := fun _ => Finmap.lookup_eq_none.mpr Finmap.notMem_empty
  requests := List.Forall₂.nil
  replies := List.Forall₂.nil

namespace Represents

/-- One phone goes on, and the others stay as they are. -/
theorem goes
    (represents : Represents service state system) {phone : ι}
    {event : Event CppString} {next : Phase × Nat}
    (goes : Goes (service.phones phone) (system.clients phone) event next) :
    ∃ result, Service.clientDoes system phone event = .ok result ∧
      Represents service (state.goes phone next) result := by
  obtain ⟨effects, client, stepped, shown, length, written⟩ := goes
  refine ⟨_, by rw [Service.clientDoes, stepped]; rfl, ?_⟩
  refine { represents with clients := ?_, requests := ?_ }
  · intro other
    change PhoneIs _ (Function.update state.phases phone next.1 other)
      (Function.update system.clients phone client other)
    by_cases own : other = phone
    · subst own
      rw [Function.update_self, Function.update_self]
      exact shown
    · rw [Function.update_of_ne own, Function.update_of_ne own]
      exact represents.clients other
  · refine List.rel_append represents.requests ?_
    rw [← length, List.forall₂_map_right_iff]
    exact forall₂_replicate (fun text member => ⟨rfl, written text member⟩)

theorem proxyReceives
    (represents : Represents service state system) {phone : ι}
    {text : CppString}
    (written : RegisterText (service.phones phone) text) :
    ∃ sent router, handlePacket service.config system.router
        ((service.phones phone).packet text) = .ok (some sent, router) ∧
      Represents service (state.proxyReceives phone)
        { system with
          router := router
          replies := system.replies ++ [sent] } := by
  obtain ⟨sent, router, handled, receives, reply, table⟩ :=
    handlePacket_registerText written (service.enabled phone)
  refine ⟨sent, router, handled, { represents with
    table := ?_
    replies := List.rel_append represents.replies
      (List.Forall₂.cons ⟨receives, reply⟩ List.Forall₂.nil) }⟩
  intro other
  change router.table.lookup _ =
    Phone.entry _ (Function.update state.entered phone true other)
  rw [table]
  unfold RegistrationTable.registerUser
  by_cases own : other = phone
  · subst own
    rw [Finmap.lookup_insert, Function.update_self]
    rfl
  · rw [Finmap.lookup_insert_of_ne _ (fun same => own (service.users same)),
      Function.update_of_ne own]
    exact represents.table other

/-- Every move succeeds and is the move of the protocol. -/
theorem step
    (represents : Represents service state system) (move : Move ι) :
    ∃ next, service.move system move = .ok next ∧
      Represents service (state.step move) next := by
  cases move with
  | doRegister phone =>
      exact represents.goes (represents.clients phone).doRegister
  | waited phone => exact represents.goes (represents.clients phone).waited
  | toProxy index =>
      simp only [Service.move, Protocol.step]
      rcases getElem?_related represents.requests index with ⟨none, none'⟩ |
        ⟨phone, ⟨_, text⟩, found, found', rfl, written⟩
      · rw [none, none']
        exact ⟨_, rfl, represents⟩
      · rw [found, found']
        obtain ⟨sent, router, handled, after⟩ :=
          represents.proxyReceives written
        exact ⟨_, by dsimp only; rw [handled]; rfl, after⟩
  | toPhone phone index =>
      simp only [Service.move, Protocol.step]
      rcases getElem?_related represents.replies index with ⟨none, none'⟩ |
        ⟨addressee, sent, found, found', receives, reply⟩
      · rw [none, none']
        exact ⟨_, rfl, represents⟩
      · rw [found, found']
        by_cases own : addressee = phone
        · subst own
          dsimp only
          rw [if_pos rfl, if_pos receives]
          exact represents.goes ((represents.clients _).hears reply)
        · have other : ¬ (service.phones phone).Receives sent :=
            fun mine => own (service.receives_unique receives mine)
          dsimp only
          rw [if_neg (fun same => own (Option.some.inj same)), if_neg other]
          exact ⟨_, rfl, represents⟩

end Represents

end Moves

end MinimalSip.Registrations

import MinimalSip.Proxy.Destinations

/-!
# The header audit

Before it routes a packet, the proxy logs every header outside the standard
set, and every standard header whose value is not the one it has on record:
for a message of a held call a value stored in that call, for the Contact of
an INVITE the registered one.

An old value that the log names stands in an earlier packet, so the log
reports no change that has not happened.  Which of the two stored maps of a
call a message is compared with depends on whether its From mentions the
caller.  A response carries the From of the request, so those of the callee
are compared with the INVITE as well.
-/

namespace MinimalSip.Proxy

open MinimalSip.Lib.Cpp
open MinimalSip.Lib.Machine
open MinimalSip.Common
open MinimalSip.Common.SIPMessage

/-! ## Reading a stored map -/

/-- The value of the last header of a name. -/
def lastValue (headers : List SIPHeader) (name : CppString) :
    Option CppString :=
  (headers.reverse.find? (fun header => header.name = name)).map
    SIPHeader.value

theorem lastValue_cons
    (header : SIPHeader) (rest : List SIPHeader) (name : CppString) :
    lastValue (header :: rest) name =
      (lastValue rest name).or
        (if header.name = name then some header.value else none) := by
  unfold lastValue
  rw [List.reverse_cons, List.find?_append, Option.map_or]
  by_cases same : header.name = name
  · simp [same]
  · simp [same]

namespace HeaderMap

/-- `stored.find(name)` -/
def find (stored : HeaderMap) (name : CppString) : Option CppString :=
  (stored.entries.find? (fun header => header.name = name)).map
    SIPHeader.value

theorem mem_of_find
    {stored : HeaderMap} {name value : CppString}
    (found : stored.find name = some value) :
    ⟨name, value⟩ ∈ stored.entries := by
  obtain ⟨header, first, rfl⟩ := Option.map_eq_some_iff.mp found
  have named : header.name = name := by
    simpa using List.find?_some first
  rw [← named]
  exact List.mem_of_find?_eq_some first

theorem find?_assignFirst
    (name value other : CppString) (headers : List SIPHeader) :
    ((assignFirst name value headers).find?
        (fun header => header.name = other)).map SIPHeader.value =
      if name = other then some value
      else (headers.find? (fun header => header.name = other)).map
        SIPHeader.value := by
  induction headers with
  | nil =>
      by_cases asked : name = other
      · simp [assignFirst, asked]
      · simp [assignFirst, asked]
  | cons header rest ih =>
      by_cases same : header.name = name
      · by_cases asked : name = other
        · simp [assignFirst, same, asked]
        · simp [assignFirst, same, asked]
      · rw [assignFirst, if_neg same]
        by_cases here : header.name = other
        · have apart : name ≠ other := fun asked => same (here.trans asked.symm)
          simp [here, apart]
        · rw [List.find?_cons_of_neg (by simpa using here), ih,
            List.find?_cons_of_neg (by simpa using here)]

theorem find_assign
    (stored : HeaderMap) (name value other : CppString) :
    (stored.assign name value).find other =
      if name = other then some value else stored.find other :=
  find?_assignFirst name value other stored.entries

/-- After an assignment of all headers, the last one of a name is found. -/
theorem find_assignAll
    (stored : HeaderMap) (headers : List SIPHeader) (name : CppString) :
    (stored.assignAll headers).find name =
      (lastValue headers name).or (stored.find name) := by
  induction headers generalizing stored with
  | nil => rfl
  | cons header rest ih =>
      have next : stored.assignAll (header :: rest) =
          (stored.assign header.name header.value).assignAll rest := rfl
      rw [next, ih, find_assign, lastValue_cons, Option.or_assoc]
      split_ifs with same
      · rfl
      · rfl

end HeaderMap

namespace SIPProxy

open SIPRouter

variable {config : ProxyConfig} {router next : SIPRouter}
variable {packet : RawPacket} {message : SIPMessage} {sent : Option Sent}

/-! ## The audit -/

/-- The arguments of one call of the logger. -/
structure LogEntry where
  component : CppString
  callId : CppString
  state : CppString
  message : CppString
deriving DecidableEq

/-- `STANDARD_SIP_HEADERS` -/
def standardSipHeaders : List CppString :=
  ["Via".toList, "From".toList, "To".toList, "Call-ID".toList,
    "CSeq".toList, "Contact".toList, "Content-Length".toList,
    "Content-Type".toList]

def customHeader (callId : CppString) (header : SIPHeader) : LogEntry where
  component := "NETWORK"
  callId := callId
  state := "CUSTOM_HEADER"
  message := headerLine header

def headerModified (callId : CppString) (header : SIPHeader)
    (was : CppString) : LogEntry where
  component := "NETWORK"
  callId := callId
  state := "HEADER_MODIFIED"
  message := headerLine header ++ " (was: ".toList ++ was ++ ")".toList

def logCustomHeaders (message : SIPMessage) : List LogEntry :=
  (message.headers.filter (fun header =>
    !standardSipHeaders.contains header.name)).map
      (customHeader (message.getHeader "Call-ID"))

/-- The headers behind the three `continue`s of the loop. -/
def isCompared (name : CppString) : Bool :=
  standardSipHeaders.contains name && name ≠ "Via".toList &&
    name ≠ "CSeq".toList

/-- The body of the loop over the headers. -/
def modification (callId : CppString) (stored : HeaderMap)
    (header : SIPHeader) : Option LogEntry :=
  if isCompared header.name then
    match stored.find header.name with
    | some was =>
        if was ≠ header.value then some (headerModified callId header was)
        else none
    | none => none
  else none

def logModifiedHeaders (message : SIPMessage) (context : CallContext) :
    List LogEntry :=
  let callId := message.getHeader "Call-ID"
  let sender := message.getHeader "From"
  let isCaller := contains sender context.caller
  let stored :=
    if isCaller then context.callerStoredHeaders
    else context.calleeStoredHeaders
  if !isCaller && stored.entries.isEmpty then []
  else message.headers.filterMap (modification callId stored)

/-- What is logged for the call of the message, if it is held. -/
def auditCall (router : SIPRouter) (message : SIPMessage) : List LogEntry :=
  match router.getCallContext (message.getHeader "Call-ID") with
  | some context => logModifiedHeaders message context
  | none => []

/-- What is logged for the Contact of an INVITE. -/
def auditContact (message : SIPMessage)
    (registeredContact : Option CppString) : List LogEntry :=
  let contactInInvite := message.getHeader "Contact"
  match registeredContact with
  | some registered =>
      if registered ≠ contactInInvite then
        [headerModified (message.getHeader "Call-ID")
          ⟨"Contact", contactInInvite⟩ registered]
      else []
  | none => []

/-- The statements of `handle_packet` between parsing and routing. -/
def auditHeaders (router : SIPRouter) (message : SIPMessage) :
    Except StdException (List LogEntry) := do
  let registeredContact ← diagnoseInvite router message
  pure (logCustomHeaders message ++ auditCall router message ++
    auditContact message registeredContact)

/-- `handle_packet` with the lines of its audit. -/
def handleLogged (config : ProxyConfig) (router : SIPRouter)
    (packet : RawPacket) :
    Except StdException ((List LogEntry × Option Sent) × SIPRouter) := do
  let message ← SIPParser.parse packet.data
  let entries ← auditHeaders (counted router) message
  let (sent, router) ← handlePacket config router packet
  pure ((entries, sent), router)

theorem auditHeaders_total (router : SIPRouter) (message : SIPMessage) :
    ∃ entries, auditHeaders router message = .ok entries := by
  obtain ⟨registeredContact, diagnosed⟩ := diagnoseInvite_total router message
  unfold auditHeaders
  rw [diagnosed]
  exact ⟨_, rfl⟩

/-- The audit takes no part in what is done with the packet. -/
theorem handleLogged_forget
    (config : ProxyConfig) (router : SIPRouter) (packet : RawPacket) :
    (handleLogged config router packet).map (Prod.map Prod.snd id) =
      handlePacket config router packet := by
  obtain ⟨message, parsed⟩ := SIPParser.parse_total packet.data
  obtain ⟨entries, audited⟩ := auditHeaders_total (counted router) message
  unfold handleLogged
  rw [parsed, ok_bind, audited, ok_bind]
  cases handlePacket config router packet with
  | error thrown => rfl
  | ok handled => rfl

theorem handleLogged_cases
    {entries : List LogEntry}
    (logged : handleLogged config router packet =
      .ok ((entries, sent), next)) :
    ∃ message, SIPParser.parse packet.data = .ok message ∧
      auditHeaders (counted router) message = .ok entries ∧
      handlePacket config router packet = .ok (sent, next) := by
  have handled := handleLogged_forget config router packet
  rw [logged] at handled
  obtain ⟨message, parsed⟩ := SIPParser.parse_total packet.data
  obtain ⟨made, audited⟩ := auditHeaders_total (counted router) message
  unfold handleLogged at logged
  rw [parsed, ok_bind, audited, ok_bind, ← handled] at logged
  cases logged
  exact ⟨message, parsed, audited, handled.symm⟩

/-! ## What the entries mean -/

theorem mem_logCustomHeaders_iff {entry : LogEntry} :
    entry ∈ logCustomHeaders message ↔
      ∃ header ∈ message.headers, header.name ∉ standardSipHeaders ∧
        entry = customHeader (message.getHeader "Call-ID") header := by
  simp only [logCustomHeaders, List.mem_map, List.mem_filter,
    Bool.not_eq_true', List.contains_eq_mem, decide_eq_false_iff_not]
  constructor
  · rintro ⟨header, ⟨member, custom⟩, rfl⟩
    exact ⟨header, member, custom, rfl⟩
  · rintro ⟨header, member, custom, rfl⟩
    exact ⟨header, ⟨member, custom⟩, rfl⟩

theorem modification_eq_some_iff
    {callId : CppString} {stored : HeaderMap} {header : SIPHeader}
    {entry : LogEntry} :
    modification callId stored header = some entry ↔
      isCompared header.name = true ∧
        ∃ was, stored.find header.name = some was ∧ was ≠ header.value ∧
          entry = headerModified callId header was := by
  unfold modification
  cases compared : isCompared header.name with
  | false => simp
  | true =>
      cases found : stored.find header.name with
      | none => simp
      | some was =>
          by_cases same : was = header.value
          · simp [same]
          · simp [same, eq_comm]

/-- The stored map that a message is compared with. -/
def comparedWith (context : CallContext) (message : SIPMessage) :
    HeaderMap :=
  if contains (message.getHeader "From") context.caller
  then context.callerStoredHeaders
  else context.calleeStoredHeaders

/-- An empty map finds nothing modified. -/
theorem modification_of_empty
    {callId : CppString} {stored : HeaderMap} (empty : stored.entries = [])
    (header : SIPHeader) : modification callId stored header = none := by
  have absent : stored.find header.name = none := by
    rw [HeaderMap.find, empty]
    rfl
  unfold modification
  rw [absent]
  exact ite_self none

theorem logModifiedHeaders_eq
    (message : SIPMessage) (context : CallContext) :
    logModifiedHeaders message context =
      message.headers.filterMap (modification (message.getHeader "Call-ID")
        (comparedWith context message)) := by
  show (if !contains (message.getHeader "From") context.caller &&
      (comparedWith context message).entries.isEmpty then []
    else message.headers.filterMap (modification (message.getHeader "Call-ID")
      (comparedWith context message))) = _
  split_ifs with early
  · -- the early return: nothing is stored
    rw [Bool.and_eq_true, List.isEmpty_iff] at early
    symm
    rw [List.filterMap_eq_nil_iff]
    exact fun header member => modification_of_empty early.2 header
  · rfl

theorem mem_logModifiedHeaders_iff
    {context : CallContext} {entry : LogEntry} :
    entry ∈ logModifiedHeaders message context ↔
      ∃ header ∈ message.headers, isCompared header.name = true ∧
        ∃ was, (comparedWith context message).find header.name = some was ∧
          was ≠ header.value ∧
          entry = headerModified (message.getHeader "Call-ID") header was := by
  rw [logModifiedHeaders_eq, List.mem_filterMap]
  simp only [modification_eq_some_iff]

theorem mem_auditCall_iff {entry : LogEntry} :
    entry ∈ auditCall router message ↔
      ∃ context,
        router.callContexts.lookup (message.getHeader "Call-ID") =
          some context ∧
        entry ∈ logModifiedHeaders message context := by
  unfold auditCall getCallContext
  cases router.callContexts.lookup (message.getHeader "Call-ID") with
  | none => simp
  | some context => simp

/-- Only the Contact of an INVITE is compared with the registered one. -/
theorem diagnosed_contact
    {registered : CppString}
    (diagnosed : diagnoseInvite router message = .ok (some registered)) :
    message.getHeader "Contact" ≠ [] ∧
      ∃ user, router.table.getContact user = some registered := by
  unfold diagnoseInvite at diagnosed
  split_ifs at diagnosed with invite
  · dsimp only at diagnosed
    split at diagnosed
    · split_ifs at diagnosed with present
      · refine ⟨present, ?_⟩
        cases extracted : substr _ _ _ with
        | error thrown =>
            rw [extracted] at diagnosed
            cases diagnosed
        | ok callerIdentity =>
            rw [extracted] at diagnosed
            exact ⟨callerIdentity, Except.ok.inj diagnosed⟩
      · cases diagnosed
    · cases diagnosed
  · cases diagnosed

theorem mem_auditContact_iff
    {registeredContact : Option CppString} {entry : LogEntry} :
    entry ∈ auditContact message registeredContact ↔
      ∃ registered, registeredContact = some registered ∧
        registered ≠ message.getHeader "Contact" ∧
        entry = headerModified (message.getHeader "Call-ID")
          ⟨"Contact", message.getHeader "Contact"⟩ registered := by
  unfold auditContact
  cases registeredContact with
  | none => simp
  | some registered =>
      dsimp only
      split_ifs with other
      · rw [List.mem_singleton]
        constructor
        · rintro rfl
          exact ⟨registered, rfl, other, rfl⟩
        · rintro ⟨same, ⟨⟩, -, rfl⟩
          rfl
      · constructor
        · intro nothing
          cases nothing
        · rintro ⟨same, ⟨⟩, differs, -⟩
          exact absurd differs other

/-! ## The log is true -/

variable {past more : List RawPacket}

/-- The header stands in an earlier packet of the call, or was registered. -/
def Told (past : List RawPacket) (callId : CppString)
    (header : SIPHeader) : Prop :=
  (∃ earlier ∈ past, ∃ content,
    SIPParser.parse earlier.data = .ok content ∧
      content.getHeader "Call-ID" = callId ∧ header ∈ content.headers) ∨
    header.name = "Contact".toList ∧ FromRegister past header.value

theorem Told.mono
    {callId : CppString} {header : SIPHeader}
    (told : Told past callId header) :
    Told (past ++ more) callId header := by
  rcases told with ⟨earlier, member, rest⟩ | ⟨contact, registered⟩
  · exact Or.inl ⟨earlier, List.mem_append_left _ member, rest⟩
  · exact Or.inr ⟨contact, registered.mono⟩

/-- Everything that the audit can name as an old value has been told. -/
structure OnRecord (past : List RawPacket) (router : SIPRouter) : Prop where
  learned : Learned past router
  stored : ∀ callId context,
    router.callContexts.lookup callId = some context →
      ∀ header, header ∈ context.callerStoredHeaders.entries ∨
          header ∈ context.calleeStoredHeaders.entries →
        Told past callId header

theorem onRecord_initial : OnRecord [] initial where
  learned := learned_initial
  stored := by
    intro callId context held
    cases held

theorem OnRecord.handlePacket
    (handled : handlePacket config router packet = .ok (sent, next))
    (onRecord : OnRecord past router) :
    OnRecord (past ++ [packet]) next where
  learned := onRecord.learned.handlePacket handled
  stored := by
    obtain ⟨message, result, middle, parsed, outcome, delivered⟩ :=
      handlePacket_cases handled
    have own : packet ∈ past ++ [packet] := by simp
    intro callId context held header among
    rw [(deliver_state delivered).2.2] at held
    cases outcome.change callId with
    | unchanged session kept =>
        exact (onRecord.stored callId context (kept.symm.trans held) header
          among).mono
    | opened entry address mine accepted read session opened =>
        rw [opened, Option.some.injEq] at held
        subst held
        rcases among with caller | callee
        · rcases HeaderMap.mem_assignAll caller with nothing | inInvite
          · cases nothing
          · exact Or.inl ⟨packet, own, message, parsed, mine, inInvite⟩
        · rcases mem_assignFirst callee with nothing | rfl
          · cases nothing
          · exact Or.inr ⟨rfl, (onRecord.learned.table _ entry
              accepted.registered).mono⟩
    | updated note keep mine forwards learns session kept =>
        rw [kept, Option.map_eq_some_iff] at held
        obtain ⟨earlier, before, rfl⟩ := held
        rcases among with caller | callee
        · exact (onRecord.stored callId earlier before header
            (Or.inl caller)).mono
        · rcases learns _ _ callee with known | inResponse
          · exact (onRecord.stored callId earlier before header
              (Or.inr known)).mono
          · exact Or.inl ⟨packet, own, message, parsed, mine, inResponse⟩
    | removed mine session gone =>
        rw [gone] at held
        cases held

/-- A change that the audit reports, and where its old value comes from. -/
structure Reports (past : List RawPacket) (message : SIPMessage)
    (header : SIPHeader) (was : CppString) (entry : LogEntry) : Prop where
  member : header ∈ message.headers
  standard : header.name ∈ standardSipHeaders
  differs : was ≠ header.value
  told : Told past (message.getHeader "Call-ID") ⟨header.name, was⟩
  written : entry = headerModified (message.getHeader "Call-ID") header was

/-- Every custom header is in the log, and the log holds nothing untrue. -/
structure Accurate (past : List RawPacket) (packet : RawPacket)
    (entries : List LogEntry) : Prop where
  complete : ∀ message header, SIPParser.parse packet.data = .ok message →
    header ∈ message.headers → header.name ∉ standardSipHeaders →
      customHeader (message.getHeader "Call-ID") header ∈ entries
  sound : ∀ message entry, SIPParser.parse packet.data = .ok message →
    entry ∈ entries →
      (∃ header ∈ message.headers, header.name ∉ standardSipHeaders ∧
        entry = customHeader (message.getHeader "Call-ID") header) ∨
      ∃ header was, Reports past message header was entry

theorem mem_standard_of_isCompared
    {name : CppString} (compared : isCompared name = true) :
    name ∈ standardSipHeaders := by
  rw [isCompared, Bool.and_eq_true, Bool.and_eq_true,
    List.contains_iff_mem] at compared
  exact compared.1.1

theorem OnRecord.reports_auditCall
    {entry : LogEntry}
    (onRecord : OnRecord past router) (among : entry ∈ auditCall router message) :
    ∃ header was, Reports past message header was entry := by
  obtain ⟨context, held, logged⟩ := mem_auditCall_iff.mp among
  obtain ⟨header, member, compared, was, found, differs, written⟩ :=
    mem_logModifiedHeaders_iff.mp logged
  refine ⟨header, was, member, mem_standard_of_isCompared compared, differs,
    ?_, written⟩
  apply onRecord.stored _ context held
  have stored := HeaderMap.mem_of_find found
  unfold comparedWith at stored
  split_ifs at stored with isCaller
  · exact Or.inl stored
  · exact Or.inr stored

theorem OnRecord.reports_auditContact
    {registeredContact : Option CppString} {entry : LogEntry}
    (onRecord : OnRecord past router)
    (diagnosed : diagnoseInvite router message = .ok registeredContact)
    (among : entry ∈ auditContact message registeredContact) :
    ∃ header was, Reports past message header was entry := by
  obtain ⟨registered, rfl, differs, written⟩ := mem_auditContact_iff.mp among
  obtain ⟨present, user, known⟩ := diagnosed_contact diagnosed
  obtain ⟨contact, inTable, rfl⟩ := Option.map_eq_some_iff.mp known
  have standard : "Contact".toList ∈ standardSipHeaders := by decide
  exact ⟨_, _, mem_of_getHeader_ne_nil present, standard, differs,
    Or.inr ⟨rfl, onRecord.learned.table user contact inTable⟩, written⟩

theorem OnRecord.accurate
    {entries : List LogEntry}
    (logged : handleLogged config router packet =
      .ok ((entries, sent), next))
    (onRecord : OnRecord past router) : Accurate past packet entries := by
  obtain ⟨message, parsed, audited, -⟩ := handleLogged_cases logged
  obtain ⟨registeredContact, diagnosed⟩ :=
    diagnoseInvite_total (counted router) message
  unfold auditHeaders at audited
  rw [diagnosed] at audited
  cases audited
  have kept : OnRecord past (counted router) :=
    ⟨⟨onRecord.learned.table, onRecord.learned.contexts⟩, onRecord.stored⟩
  constructor
  case complete =>
    intro other header otherParsed member custom
    obtain rfl : message = other :=
      Except.ok.inj (parsed.symm.trans otherParsed)
    exact List.mem_append_left _ (List.mem_append_left _
      (mem_logCustomHeaders_iff.mpr ⟨header, member, custom, rfl⟩))
  case sound =>
    intro other entry otherParsed among
    obtain rfl : message = other :=
      Except.ok.inj (parsed.symm.trans otherParsed)
    rcases List.mem_append.mp among with ofCall | ofContact
    · rcases List.mem_append.mp ofCall with custom | modified
      · exact Or.inl (mem_logCustomHeaders_iff.mp custom)
      · exact Or.inr (kept.reports_auditCall modified)
    · exact Or.inr (kept.reports_auditContact diagnosed ofContact)

/--
The header audit can be trusted.  In every run, the log of a packet holds each
of its headers outside the standard set, and whatever else it holds is a
standard header of the packet together with another value, which an earlier
packet of the same call or, for a Contact, an earlier accepted REGISTER has
carried.
-/
theorem log_accurate
    (config : ProxyConfig) {packets : List RawPacket}
    {before after : List (RawPacket × List LogEntry × Option Sent)}
    {entries : List LogEntry}
    (ran : run (handleLogged config) initial packets =
      .ok (before ++ (packet, (entries, sent)) :: after, router)) :
    Accurate (before.map Prod.fst) packet entries := by
  have preserved : ∀ {past router packet output next},
      handleLogged config router packet = .ok (output, next) →
        OnRecord past router → OnRecord (past ++ [packet]) next := by
    intro past router packet output next logged onRecord
    obtain ⟨message, parsed, audited, handled⟩ := handleLogged_cases logged
    exact onRecord.handlePacket handled
  exact run_outputs (fun past packet output => Accurate past packet output.1)
    preserved (fun logged onRecord => onRecord.accurate logged) ran
    onRecord_initial

/-- Alice calls bob and names her own address. -/
def inviteWithContact : RawPacket :=
  { invitePacket with
    data := packetText
      ["INVITE sip:bob@local SIP/2.0", "Via: SIP/2.0/UDP 10.0.0.1:5070",
        "From: <sip:alice@local>", "To: <sip:bob@local>", "Call-ID: c1",
        "CSeq: 1 INVITE", "Contact: <sip:alice@10.0.0.1:5070>",
        "Content-Length: 0"] }

/-- Bob accepts, with alice's From and his own Contact. -/
def acceptWithContact : RawPacket where
  data := packetText
    ["SIP/2.0 200 OK", "Via: SIP/2.0/UDP proxy.local:5060",
      "Via: SIP/2.0/UDP 10.0.0.1:5070", "From: <sip:alice@local>",
      "To: <sip:bob@local>", "Call-ID: c1", "CSeq: 1 INVITE",
      "Contact: <sip:bob@10.0.0.9:5066>", "Server: phone",
      "Content-Length: 0"]
  ip := "10.0.0.9"
  port := 5066
  transport := .udp

theorem log_accurate_accept :
    ∃ before packet entries sent router,
      run (handleLogged plainProxy) initial
        [registerWithPort, inviteWithContact, acceptWithContact] =
          .ok (before ++ [(packet, (entries, sent))], router) ∧
      entries =
        [customHeader "c1" ⟨"Server", "phone"⟩,
          headerModified "c1" ⟨"Contact", "<sip:bob@10.0.0.9:5066>"⟩
            "<sip:alice@10.0.0.1:5070>"] ∧
      Accurate (before.map Prod.fst) packet entries := by
  have tested : succeedsWith
      (run (handleLogged plainProxy) initial
        [registerWithPort, inviteWithContact, acceptWithContact])
      (fun value => decide (value.1.getLast?.map (fun last => last.2.1) = some
        [customHeader "c1" ⟨"Server", "phone"⟩,
          headerModified "c1" ⟨"Contact", "<sip:bob@10.0.0.9:5066>"⟩
            "<sip:alice@10.0.0.1:5070>"])) = true := by
    decide +kernel
  obtain ⟨⟨history, router⟩, ran, logged⟩ := exists_of_succeedsWith tested
  obtain ⟨⟨packet, entries, sent⟩, last, same⟩ :=
    Option.map_eq_some_iff.mp (of_decide_eq_true logged)
  obtain ⟨before, rfl⟩ := List.getLast?_eq_some_iff.mp last
  exact ⟨before, packet, entries, sent, router, ran, same,
    log_accurate plainProxy ran⟩

/-! ## Whom a message is compared with -/

/-- A call that is held before and after a packet goes on. -/
theorem continues_of_handlePacket
    {callId : CppString}
    (handled : handlePacket config router packet = .ok (sent, next))
    (before : callId ∈ router.registry) (after : callId ∈ next.registry) :
    Continues callId router next := by
  obtain ⟨message, result, middle, parsed, outcome, delivered⟩ :=
    handlePacket_cases handled
  obtain ⟨-, registry, contexts⟩ := deliver_state delivered
  have goesOn : Continues callId (counted router) middle :=
    outcome.continues before (registry ▸ after)
  constructor
  · intro session held
    rw [registry]
    exact goesOn.session session held
  · intro context held
    rw [contexts]
    exact goesOn.context context held

/-- The context that a packet leaves when it opens a call. -/
theorem opened_context
    {callId : CppString}
    (parsed : SIPParser.parse packet.data = .ok message)
    (handled : handlePacket config router packet = .ok (sent, next))
    (fresh : callId ∉ router.registry) (held : callId ∈ next.registry) :
    message.getHeader "Call-ID" = callId ∧
      ∃ context, next.callContexts.lookup callId = some context ∧
        context.caller = sipIdentity (message.getHeader "From") ∧
        context.callerStoredHeaders =
          (∅ : HeaderMap).assignAll message.headers := by
  obtain ⟨other, result, middle, otherParsed, outcome, delivered⟩ :=
    handlePacket_cases handled
  obtain rfl : message = other :=
    Except.ok.inj (parsed.symm.trans otherParsed)
  obtain ⟨-, registry, contexts⟩ := deliver_state delivered
  have absent : (counted router).registry.lookup callId = none :=
    Finmap.lookup_eq_none.mpr fresh
  rw [registry, ← Finmap.lookup_isSome] at held
  rw [contexts]
  cases outcome.change callId with
  | unchanged session context =>
      rw [session, absent] at held
      cases held
  | opened entry address own accepted read session context =>
      exact ⟨own, _, context, rfl, rfl⟩
  | updated note keep own forwards learns session context =>
      rw [session, absent] at held
      cases held
  | removed own session context =>
      rw [session] at held
      cases held

end SIPProxy

end MinimalSip.Proxy

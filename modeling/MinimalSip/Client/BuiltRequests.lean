import MinimalSip.Client.SipMessageFactory
import MinimalSip.Proxy.SipParserRoundTrip
import MinimalSip.Proxy.SipProxy

/-!
# What the proxy reads in a built request

Client and proxy share no code for their textual conventions.  A request of
the factory keeps a fixed frame of headers whatever extra lines are added, the
parser returns that frame, the identity in From and To is the user and the
domain it was built from, and the destination read off a Contact is the local
address of the factory.
-/

namespace MinimalSip.Client

open MinimalSip.Lib.Cpp
open MinimalSip.Lib.Search
open MinimalSip.Common
open MinimalSip.Common.SIPMessage
open MinimalSip.Proxy
open MinimalSip.Proxy.SIPParser
open MinimalSip.Proxy.SIPProxy
open MinimalSip.Proxy.SIPRouter

/-! ## Identities and contacts -/

/-- The identity of a user of a domain. -/
def identity (user domain : CppString) : CppString :=
  user ++ "@".toList ++ domain

theorem identity_nonempty (user domain : CppString) :
    identity user domain ≠ [] := by
  unfold identity
  simp

/-- `"<sip:" + user + "@" + host + ">"` -/
def bracketed (user host : CppString) : CppString :=
  "<sip:".toList ++ user ++ "@".toList ++ host ++ ">".toList

/-- The identity that both copies of the extraction find. -/
theorem sipIdentity_bracketed
    {user domain : CppString} (noClose : '>' ∉ identity user domain) :
    sipIdentity (bracketed user domain) = identity user domain := by
  have split : bracketed user domain =
      '<' :: ("sip:".toList ++ (identity user domain ++ '>' :: [])) := by
    unfold bracketed identity
    simp
  rw [split]
  exact sipIdentity_bracket noClose []

/-- Between the first `@` and the next colon stands the address. -/
theorem contactDestination_split
    {before ip after : CppString} {port : Int}
    (noAt : '@' ∉ before) (noColon : ':' ∉ ip)
    (read : stoi after = .ok port) :
    contactDestination (before ++ '@' :: (ip ++ ':' :: after)) =
      .ok (ip, toUInt16 port) := by
  have atFound : find "@" (before ++ '@' :: (ip ++ ':' :: after)) =
      some before.length :=
    find_singleton_append noAt _
  have colonFound : findAfter ":" (before ++ '@' :: (ip ++ ':' :: after))
      (some before.length) = some (before.length + 1 + ip.length) := by
    have noColonBefore : ':' ∉ '@' :: ip := by
      simp [noColon]
    have inner : find ":" (('@' :: ip) ++ ':' :: after) =
        some ('@' :: ip).length :=
      find_singleton_append noColonBefore _
    have inside : before.length ≤
        (before ++ '@' :: (ip ++ ':' :: after)).length := by
      simp
    rw [findAfter, findFrom, if_pos inside, List.drop_left,
      ← List.cons_append, inner, Option.map_some, List.length_cons]
    congr 1
    omega
  have ipInside : before.length + 1 ≤
      (before ++ '@' :: (ip ++ ':' :: after)).length := by
    simp
  have portInside : before.length + 1 + ip.length + 1 ≤
      (before ++ '@' :: (ip ++ ':' :: after)).length := by
    simp only [List.length_append, List.length_cons]
    omega
  have ipPart : ((before ++ '@' :: (ip ++ ':' :: after)).drop
      (before.length + 1)).take
        (before.length + 1 + ip.length - before.length - 1) = ip := by
    have shape : before ++ '@' :: (ip ++ ':' :: after) =
        (before ++ ['@']) ++ (ip ++ ':' :: after) := by
      simp
    have start : before.length + 1 = (before ++ ['@']).length := by
      simp
    have count : before.length + 1 + ip.length - before.length - 1 =
        ip.length := by omega
    rw [count, shape, start, List.drop_left, List.take_left]
  have portPart : (before ++ '@' :: (ip ++ ':' :: after)).drop
      (before.length + 1 + ip.length + 1) = after := by
    have shape : before ++ '@' :: (ip ++ ':' :: after) =
        (before ++ '@' :: ip ++ [':']) ++ after := by
      simp
    have length : before.length + 1 + ip.length + 1 =
        (before ++ '@' :: ip ++ [':']).length := by
      simp only [List.length_append, List.length_cons, List.length_nil]
      omega
    rw [shape, length, List.drop_left]
  simp only [contactDestination, atFound, colonFound, next, gap,
    substr_some ipInside, substr_none portInside, ipPart, portPart, read,
    ok_bind]
  rfl

/-- The address that the proxy reads in a Contact of the factory. -/
theorem contactDestination_bracketed
    {user ip : CppString} (port : UInt16)
    (noAt : '@' ∉ user) (noColon : ':' ∉ ip) :
    contactDestination
      (bracketed user (ip ++ ":".toList ++ stdToString port.toNat)) =
        .ok (ip, port) := by
  have shape : bracketed user (ip ++ ":".toList ++ stdToString port.toNat) =
      ("<sip:".toList ++ user) ++
        '@' :: (ip ++ ':' :: (stdToString port.toNat ++ ">".toList)) := by
    unfold bracketed
    simp
  have noAtBefore : '@' ∉ "<sip:".toList ++ user := by
    rw [List.mem_append, not_or]
    exact ⟨by decide, noAt⟩
  have read : stoi (stdToString port.toNat ++ ">".toList) =
      .ok (port.toNat : Int) := by
    have small := port.toNat_lt
    rw [stdToString_natCast, stoi_toDigits_append, if_pos (by omega)]
    intro char first
    obtain rfl : '>' = char := by simpa using first
    decide
  have samePort : toUInt16 port.toNat = port := by
    have small := port.toNat_lt
    rw [toUInt16, Int.emod_eq_of_lt (by omega) (by omega), Int.toNat_natCast,
      UInt16.ofNat_toNat]
  rw [shape, contactDestination_split noAtBefore noColon read, samePort]

/-- Nothing is trimmed off a bracketed URI. -/
theorem strip_bracketed (user host : CppString) :
    strip blanks (bracketed user host) = bracketed user host := by
  apply strip_of_bare
  constructor
  · intro char first
    unfold bracketed at first
    obtain rfl : '<' = char := by simpa using first
    decide
  · intro char last
    have closed : (bracketed user host).getLast? = some '>' := by
      unfold bracketed
      rw [List.getLast?_append]
      rfl
    obtain rfl : '>' = char := by simpa [closed] using last
    decide

theorem bracketed_unbroken
    {user host : CppString}
    (userUnbroken : '\n' ∉ user) (hostUnbroken : '\n' ∉ host) :
    '\n' ∉ bracketed user host := by
  unfold bracketed
  simp [userUnbroken, hostUnbroken]

/-! ## The frame of a request -/

/-- The names of the headers that a REGISTER and an INVITE start with. -/
def frameNames : List CppString :=
  ["Via".toList, "From".toList, "To".toList, "Call-ID".toList,
    "CSeq".toList, "Contact".toList]

/-- A list of headers that starts with these names. -/
def Framed (headers : List SIPHeader) : Prop :=
  frameNames <+: headers.map SIPHeader.name

theorem frameNames_bare :
    ∀ name ∈ frameNames, Bare blanks name ∧ name ≠ [] := by
  decide

theorem readHeader_of_bare
    {header : SIPHeader}
    (bare : Bare blanks header.name ∧ header.name ≠ []) :
    readHeader header = some ⟨header.name, strip blanks header.value⟩ := by
  rw [readHeader, strip_of_bare bare.1, if_neg bare.2]

/-- The value of a name in a list of headers. -/
def valueIn (headers : List SIPHeader) (name : CppString) : CppString :=
  getHeader { headers := headers } name

theorem valueIn_cons
    (header : SIPHeader) (rest : List SIPHeader) (name : CppString) :
    valueIn (header :: rest) name =
      if header.name = name then header.value else valueIn rest name :=
  getHeader_cons [] header rest [] name

/-- A lookup that succeeds in front does not depend on what follows. -/
theorem valueIn_append
    {front : List SIPHeader} {name : CppString}
    (present : name ∈ front.map SIPHeader.name)
    (more : List SIPHeader) :
    valueIn (front ++ more) name = valueIn front name := by
  induction front with
  | nil => cases present
  | cons header rest ih =>
      rw [List.cons_append, valueIn_cons, valueIn_cons]
      split_ifs with same
      · rfl
      · rcases List.mem_cons.mp present with here | later
        · exact absurd here.symm same
        · exact ih later

/-- The lookup after reading, for a name among bare ones in front. -/
theorem getHeader_filterMap_readHeader
    {front : List SIPHeader} {name : CppString}
    (bare : ∀ header ∈ front, Bare blanks header.name ∧ header.name ≠ [])
    (present : name ∈ front.map SIPHeader.name)
    (start : CppString) (more : List SIPHeader) (body : CppString) :
    getHeader ⟨start, (front ++ more).filterMap readHeader, body⟩ name =
      strip blanks (valueIn front name) := by
  induction front with
  | nil => cases present
  | cons header rest ih =>
      rw [List.cons_append, List.filterMap_cons,
        readHeader_of_bare (bare header List.mem_cons_self)]
      dsimp only
      rw [getHeader_cons, valueIn_cons]
      dsimp only
      split_ifs with same
      · rfl
      · rcases List.mem_cons.mp present with here | later
        · exact absurd here.symm same
        · exact ih (fun other member =>
            bare other (List.mem_cons_of_mem _ member)) later

namespace Framed

variable {headers : List SIPHeader} {name : CppString}

theorem split (framed : Framed headers) :
    ∃ front more, headers = front ++ more ∧
      front.map SIPHeader.name = frameNames := by
  obtain ⟨names, split⟩ := framed
  obtain ⟨front, more, rfl, frontNames, -⟩ :=
    List.map_eq_append_iff.mp split.symm
  exact ⟨front, more, rfl, frontNames⟩

theorem append (framed : Framed headers) (more : List SIPHeader) :
    Framed (headers ++ more) := by
  unfold Framed
  rw [List.map_append]
  exact framed.trans (List.prefix_append _ _)

/-- Reading trims the values of the frame and keeps their order. -/
theorem getHeader_read
    (framed : Framed headers) (inFrame : name ∈ frameNames)
    (start : CppString) (more : List SIPHeader) (body : CppString) :
    getHeader ⟨start, (headers ++ more).filterMap readHeader, body⟩ name =
      strip blanks (valueIn headers name) := by
  obtain ⟨front, others, rfl, frontNames⟩ := framed.split
  have present : name ∈ front.map SIPHeader.name := frontNames ▸ inFrame
  have bare : ∀ header ∈ front,
      Bare blanks header.name ∧ header.name ≠ [] := by
    intro header member
    apply frameNames_bare
    rw [← frontNames]
    exact List.mem_map_of_mem member
  rw [List.append_assoc, getHeader_filterMap_readHeader bare present,
    valueIn_append present]

/-- Reading drops no header of the frame. -/
theorem hasHeader_read
    (framed : Framed headers) (inFrame : name ∈ frameNames)
    (start body : CppString) :
    hasHeader ⟨start, headers.filterMap readHeader, body⟩ name = true := by
  obtain ⟨front, more, rfl, frontNames⟩ := framed.split
  rw [← frontNames] at inFrame
  obtain ⟨header, member, rfl⟩ := List.mem_map.mp inFrame
  have bare := frameNames_bare header.name
    (frontNames ▸ List.mem_map_of_mem member)
  rw [hasHeader, List.any_eq_true]
  refine ⟨⟨header.name, strip blanks header.value⟩, ?_, by simp⟩
  rw [List.mem_filterMap]
  exact ⟨header, List.mem_append_left more member, readHeader_of_bare bare⟩

end Framed

/-! ## Extra headers -/

/-- Assigning may append a name but keeps the names in front. -/
theorem names_assignMatching
    (name value : CppString) (headers : List SIPHeader) :
    headers.map SIPHeader.name <+:
      (SIPMessageFactory.assignMatching name value headers).map
        SIPHeader.name := by
  induction headers with
  | nil => exact List.nil_prefix
  | cons header rest ih =>
      unfold SIPMessageFactory.assignMatching
      split_ifs
      · exact List.prefix_rfl
      · exact List.cons_prefix_cons.mpr ⟨rfl, ih⟩

theorem not_mem_take_of_find
    {char : Char} {text : CppString} {position : Nat}
    (found : find [char] text = some position) :
    char ∉ text.take position := by
  by_cases present : char ∈ text
  · obtain ⟨before, after, rfl, absent⟩ :=
      List.eq_append_cons_of_mem present
    rw [find_singleton_append absent, Option.some.injEq] at found
    rwa [← found, List.take_left]
  · exact fun member => present (List.mem_of_mem_take member)

/-- An extra header is read off one line, its name ending before a colon. -/
theorem extraHeader_text
    {rawLine : CppString} {header : SIPHeader}
    (unbroken : '\n' ∉ rawLine)
    (read : SIPMessageFactory.extraHeader rawLine = some header) :
    HeaderText header := by
  have lineUnbroken : '\n' ∉ popCarriageReturn rawLine := by
    unfold popCarriageReturn
    split_ifs
    · exact fun member => unbroken (List.mem_of_mem_dropLast member)
    · exact unbroken
  unfold SIPMessageFactory.extraHeader at read
  cases found : find ":" (popCarriageReturn rawLine) with
  | none =>
      simp only [found] at read
      cases read
  | some colon =>
      simp only [found, Option.some.injEq] at read
      subst read
      refine ⟨not_mem_take_of_find found, ?_, ?_⟩
      · exact fun member => lineUnbroken (List.mem_of_mem_take member)
      · dsimp only
        split
        · exact fun member => lineUnbroken
            (List.mem_of_mem_drop (List.mem_of_mem_drop member))
        · exact fun member => lineUnbroken (List.mem_of_mem_drop member)

theorem assignMatching_texts
    {name value : CppString} {headers : List SIPHeader}
    (texts : ∀ header ∈ headers, HeaderText header)
    (text : HeaderText ⟨name, value⟩) :
    ∀ header ∈ SIPMessageFactory.assignMatching name value headers,
      HeaderText header := by
  induction headers with
  | nil =>
      intro header member
      obtain rfl : header = ⟨name, value⟩ := by
        simpa [SIPMessageFactory.assignMatching] using member
      exact text
  | cons first rest ih =>
      have firstText := texts first List.mem_cons_self
      have restTexts : ∀ header ∈ rest, HeaderText header :=
        fun header member => texts header (List.mem_cons_of_mem _ member)
      intro header member
      unfold SIPMessageFactory.assignMatching at member
      split_ifs at member
      · rcases List.mem_cons.mp member with rfl | inRest
        · exact ⟨firstText.noColon, firstText.name_unbroken,
            text.value_unbroken⟩
        · exact restTexts header inRest
      · rcases List.mem_cons.mp member with rfl | inRest
        · exact firstText
        · exact ih restTexts header inRest

/-- Extra lines may append names but keep the names in front. -/
theorem names_addExtraHeaders
    (extraHeaders : CppString) (headers : List SIPHeader) :
    headers.map SIPHeader.name <+:
      (SIPMessageFactory.addExtraHeaders extraHeaders headers).map
        SIPHeader.name := by
  unfold SIPMessageFactory.addExtraHeaders
  induction getlines extraHeaders generalizing headers with
  | nil => exact List.prefix_rfl
  | cons rawLine others ih =>
      refine List.IsPrefix.trans ?_ (ih _)
      unfold SIPMessageFactory.addExtraHeader
      cases SIPMessageFactory.extraHeader rawLine with
      | none => exact List.prefix_rfl
      | some header => exact names_assignMatching _ _ _

/-- One extra line is written so that it can be read. -/
theorem addExtraHeader_texts
    {headers : List SIPHeader} {rawLine : CppString}
    (texts : ∀ header ∈ headers, HeaderText header)
    (unbroken : '\n' ∉ rawLine) :
    ∀ header ∈ SIPMessageFactory.addExtraHeader headers rawLine,
      HeaderText header := by
  unfold SIPMessageFactory.addExtraHeader
  cases read : SIPMessageFactory.extraHeader rawLine with
  | none => exact texts
  | some header =>
      exact assignMatching_texts texts (extraHeader_text unbroken read)

/-- Extra lines are written so that they can be read, whatever they say. -/
theorem addExtraHeaders_texts
    {headers : List SIPHeader}
    (texts : ∀ header ∈ headers, HeaderText header)
    (extraHeaders : CppString) :
    ∀ header ∈ SIPMessageFactory.addExtraHeaders extraHeaders headers,
      HeaderText header := by
  have unbroken : ∀ rawLine ∈ getlines extraHeaders, '\n' ∉ rawLine :=
    fun rawLine member => not_mem_newline_of_mem_getlines member
  unfold SIPMessageFactory.addExtraHeaders
  generalize getlines extraHeaders = lines at unbroken ⊢
  induction lines generalizing headers with
  | nil => exact texts
  | cons rawLine others ih =>
      exact ih
        (addExtraHeader_texts texts (unbroken rawLine List.mem_cons_self))
        (fun other member => unbroken other (List.mem_cons_of_mem _ member))

/-- A framed list whose headers can be read off their lines. -/
structure Writable (headers : List SIPHeader) : Prop where
  framed : Framed headers
  texts : ∀ header ∈ headers, HeaderText header

/-- Extra lines keep a list writable, whatever they say. -/
theorem Writable.addExtraHeaders
    {headers : List SIPHeader} (writable : Writable headers)
    (extraHeaders : CppString) :
    Writable (SIPMessageFactory.addExtraHeaders extraHeaders headers) where
  framed := writable.framed.trans (names_addExtraHeaders extraHeaders headers)
  texts := addExtraHeaders_texts writable.texts extraHeaders

/-! ## Reading a request back -/

/-- The arguments of a request without line feeds. -/
structure Unbroken
    (factory : SIPMessageFactory)
    (fromUsername fromDomain toUsername toDomain callId : CppString) :
    Prop where
  localIp : '\n' ∉ factory.localIp
  fromUsername : '\n' ∉ fromUsername
  fromDomain : '\n' ∉ fromDomain
  toUsername : '\n' ∉ toUsername
  toDomain : '\n' ∉ toDomain
  callId : '\n' ∉ callId

/-- The methods whose requests carry a Contact. -/
def CarriesContact (method : CppString) : Prop :=
  method = "REGISTER".toList ∨ method = "INVITE".toList

theorem stdToString_unbroken (value : Int) :
    '\n' ∉ stdToString value := by
  have digits := not_mem_toDigits (show '\n'.isDigit = false by decide)
    value.natAbs
  unfold stdToString
  split_ifs
  · simp [digits]
  · exact digits

section Requests

variable {factory next : SIPMessageFactory}
variable {method fromUsername fromDomain toUsername toDomain callId
  extraHeaders text : CppString}

theorem localAddress_unbroken (localIp : '\n' ∉ factory.localIp) :
    '\n' ∉ factory.localAddress := by
  unfold SIPMessageFactory.localAddress
  simp [localIp, stdToString_unbroken]

theorem makeVia_unbroken (localIp : '\n' ∉ factory.localIp) :
    '\n' ∉ factory.makeVia := by
  have protocol : '\n' ∉ factory.transportProtocol := by
    rcases factory.transportProtocol_known with udp | tcp
    · rw [udp]
      decide
    · rw [tcp]
      decide
  unfold SIPMessageFactory.makeVia
  simp [protocol, localAddress_unbroken localIp]

theorem registerCallId_unbroken (localIp : '\n' ∉ factory.localIp) :
    '\n' ∉ factory.registerCallId := by
  obtain ⟨drawn, registerCallId⟩ := factory.registerCallId_drawn
  have number := stdToString_unbroken drawn.toNat
  rw [registerCallId]
  simp only [List.mem_append, not_or]
  exact ⟨⟨number, by decide⟩, localIp⟩

/-- The headers that a request starts with can be written. -/
theorem baseHeaders_texts
    (methodUnbroken : '\n' ∉ method)
    (unbroken : Unbroken factory fromUsername fromDomain toUsername toDomain
      callId) :
    ∀ header ∈ factory.baseHeaders method fromUsername fromDomain toUsername
      toDomain callId, HeaderText header := by
  have via := makeVia_unbroken unbroken.localIp
  have sender := bracketed_unbroken unbroken.fromUsername unbroken.fromDomain
  have target := bracketed_unbroken unbroken.toUsername unbroken.toDomain
  have contact := bracketed_unbroken unbroken.fromUsername
    (localAddress_unbroken unbroken.localIp)
  have cseq : '\n' ∉ stdToString factory.cseq ++ " ".toList ++ method := by
    simp only [List.mem_append, not_or]
    exact ⟨⟨stdToString_unbroken _, by decide⟩, methodUnbroken⟩
  have effectiveCallId : '\n' ∉ (if method = "REGISTER".toList
      then factory.registerCallId else callId) := by
    split_ifs
    · exact registerCallId_unbroken unbroken.localIp
    · exact unbroken.callId
  have names : ∀ name ∈ frameNames, ':' ∉ name ∧ '\n' ∉ name := by
    decide
  have framed : ∀ name ∈ frameNames, ∀ value, '\n' ∉ value →
      HeaderText ⟨name, value⟩ := fun name inFrame value valueUnbroken =>
    ⟨(names name inFrame).1, (names name inFrame).2, valueUnbroken⟩
  unfold SIPMessageFactory.baseHeaders
  refine List.forall_mem_append.mpr ⟨?_, ?_⟩
  · simp only [List.forall_mem_cons, List.not_mem_nil, false_imp_iff,
      implies_true, and_true]
    exact ⟨framed _ (by decide) _ via, framed _ (by decide) _ sender,
      framed _ (by decide) _ target,
      framed _ (by decide) _ effectiveCallId, framed _ (by decide) _ cseq⟩
  · split_ifs
    · rw [List.forall_mem_singleton]
      exact framed _ (by decide) _ contact
    · exact List.forall_mem_nil _

/-- The headers that a REGISTER or INVITE starts with are a frame. -/
theorem baseHeaders_writable
    (carries : CarriesContact method)
    (unbroken : Unbroken factory fromUsername fromDomain toUsername toDomain
      callId) :
    Writable (factory.baseHeaders method fromUsername fromDomain toUsername
      toDomain callId) := by
  have methodUnbroken : '\n' ∉ method := by
    rcases carries with rfl | rfl <;> decide
  refine ⟨?_, baseHeaders_texts methodUnbroken unbroken⟩
  unfold SIPMessageFactory.baseHeaders
  rw [if_pos (show method = "REGISTER".toList ∨ method = "INVITE".toList
    from carries)]
  exact List.prefix_rfl

/-- The parser on a request with any extra lines and any body. -/
theorem parse_request
    (nonempty : method ≠ []) (methodUnbroken : '\n' ∉ method)
    (unbroken : Unbroken factory fromUsername fromDomain toUsername toDomain
      callId)
    {body : CppString}
    (built : factory.build method fromUsername fromDomain toUsername toDomain
      callId body extraHeaders = .ok (text, next)) :
    ∃ startLine, startLine = method ++ " ".toList ++ ("sip:".toList ++
        toUsername ++ "@".toList ++ toDomain) ++ " SIP/2.0".toList ∧
      parse text = .ok (parseBody
        { startLine := startLine
          headers := (SIPMessageFactory.addExtraHeaders extraHeaders
              (factory.baseHeaders method fromUsername fromDomain toUsername
                toDomain callId) ++
            [SIPHeader.mk "Content-Length"
              (stdToString body.length)]).filterMap readHeader } body) := by
  have added := addExtraHeaders_texts
    (baseHeaders_texts methodUnbroken unbroken) extraHeaders
  rw [SIPMessageFactory.build, if_neg nonempty] at built
  simp only [SIPMessageFactory.serialize, stream_eq_written,
    Except.ok.injEq, Prod.mk.injEq] at built
  obtain ⟨rfl, -⟩ := built
  have contentLength := contentLength_wellFormed body.length
  have startLine : LineText (method ++ " ".toList ++ ("sip:".toList ++
      toUsername ++ "@".toList ++ toDomain) ++ " SIP/2.0".toList) := by
    constructor
    · simp [nonempty]
    · simp [methodUnbroken, unbroken.toUsername, unbroken.toDomain]
  have texts := List.forall_mem_append.mpr ⟨added,
    List.forall_mem_singleton.mpr contentLength.headerText⟩
  refine ⟨_, rfl, parse_written body startLine texts (by simp) ?_⟩
  intro header last isCr
  obtain rfl : header = ⟨"Content-Length", stdToString body.length⟩ := by
    simpa using last.symm
  exact contentLength.value_oneLine.noCr (List.mem_of_getLast? isCr)

/-- What the proxy reads in a request with this method and these headers. -/
structure Reads
    (message : SIPMessage) (method : CppString) (headers : List SIPHeader) :
    Prop where
  method : message.getMethod = method
  framed : ∀ name ∈ frameNames, message.hasHeader name = true
  contentLength : message.hasHeader "Content-Length" = true
  value : ∀ name ∈ frameNames, message.getHeader name =
    strip blanks (valueIn headers name)

/-- The methods of the requests that a client builds. -/
def builtMethods : List CppString :=
  ["REGISTER".toList, "INVITE".toList, "BYE".toList, "ACK".toList]

theorem getMethod_of_built
    (known : method ∈ builtMethods)
    (uri : CppString) (headers : List SIPHeader) (body : CppString) :
    getMethod ⟨method ++ " ".toList ++ uri ++ " SIP/2.0".toList, headers,
      body⟩ = method := by
  have noSpace : ∀ other ∈ builtMethods, ' ' ∉ other := by decide
  have request : isRequest ⟨method ++ " ".toList ++ uri ++
      " SIP/2.0".toList, headers, body⟩ = true := by
    simp only [builtMethods, List.mem_cons, List.not_mem_nil,
      or_false] at known
    rcases known with rfl | rfl | rfl | rfl <;> rfl
  have split : method ++ " ".toList ++ uri ++ " SIP/2.0".toList =
      method ++ ' ' :: (uri ++ " SIP/2.0".toList) := by
    simp
  have found : find " " (method ++ ' ' :: (uri ++ " SIP/2.0".toList)) =
      some method.length :=
    find_singleton_append (noSpace method known) _
  rw [getMethod, if_pos request]
  simp only [split, found, List.take_left]

/-- The parser reads back what `build` has written. -/
theorem parse_build
    (carries : CarriesContact method)
    (unbroken : Unbroken factory fromUsername fromDomain toUsername toDomain
      callId)
    (built : factory.build method fromUsername fromDomain toUsername toDomain
      callId [] extraHeaders = .ok (text, next)) :
    ∃ message, parse text = .ok message ∧
      Reads message method
        (SIPMessageFactory.addExtraHeaders extraHeaders
          (factory.baseHeaders method fromUsername fromDomain toUsername
            toDomain callId)) := by
  have nonempty : method ≠ [] := by
    rcases carries with rfl | rfl <;> decide
  have methodUnbroken : '\n' ∉ method := by
    rcases carries with rfl | rfl <;> decide
  have framed :=
    ((baseHeaders_writable carries unbroken).addExtraHeaders
      extraHeaders).framed
  obtain ⟨startLine, rfl, parsed⟩ :=
    parse_request nonempty methodUnbroken unbroken built
  generalize SIPMessageFactory.addExtraHeaders extraHeaders
    (factory.baseHeaders method fromUsername fromDomain toUsername toDomain
      callId) = headers at framed parsed ⊢
  have read := (contentLength_wellFormed
    ([] : CppString).length).readable.readHeader_eq
  generalize stdToString ([] : CppString).length = size at read parsed
  have known : method ∈ builtMethods := by
    rcases carries with rfl | rfl <;> decide
  refine ⟨_, parsed, ?_⟩
  constructor
  · exact getMethod_of_built known _ _ _
  · intro name inFrame
    exact (framed.append _).hasHeader_read inFrame _ _
  · simp only [parseBody, if_true, hasHeader, List.any_eq_true,
      List.filterMap_append, List.mem_append, List.filterMap_cons, read]
    exact ⟨_, Or.inr List.mem_cons_self, by simp⟩
  · intro name inFrame
    exact framed.getHeader_read inFrame _ _ _

end Requests

end MinimalSip.Client

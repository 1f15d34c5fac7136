import MinimalSip.Calls.CallMessages
import MinimalSip.Client.SipClient

/-!
# What the parties read in the texts of a call

`IsRequest` and `IsResponse` describe the texts that a call puts on the
network, up to what none of the parties looks at.  For each of them this
module says which branch of the client's `on_message` it takes and which
method, status code and sender the proxy finds in it.
-/

namespace MinimalSip.Calls

open MinimalSip.Lib.Cpp
open MinimalSip.Lib.Search
open MinimalSip.Lib.Regex
open MinimalSip.Common
open MinimalSip.Common.SIPMessage
open MinimalSip.Client
open MinimalSip.Proxy
open MinimalSip.Proxy.SIPRouter

/-! ## Descriptions of texts -/

/-- The users of a call and its Call-ID. -/
structure Dialog where
  caller : Party
  callee : Party
  callId : CppString
  distinct : caller.identity ≠ callee.identity
  callIdPlain : PlainValue callId
  callIdSolid : ∀ char ∈ callId, isSpace char = false
  callIdNoSlash : '/' ∉ callId

inductive Status where
  | trying
  | ringing
  | ok
  | decline
  | badRequest
deriving DecidableEq, Repr

namespace Status

def code : Status → Int
  | .trying => 100
  | .ringing => 180
  | .ok => 200
  | .decline => 603
  | .badRequest => 400

def line : Status → CppString
  | .trying => "SIP/2.0 100 Trying".toList
  | .ringing => "SIP/2.0 180 Ringing".toList
  | .ok => "SIP/2.0 200 OK".toList
  | .decline => "SIP/2.0 603 Decline".toList
  | .badRequest => "SIP/2.0 400 Bad Request".toList

end Status

/-- The value of a CSeq; only an ACK may carry any number. -/
def Numbered (method cseq : CppString) : Prop :=
  ∃ number : Int, cseq = stdToString number ++ " ".toList ++ method ∧
    (method = "ACK".toList ∨ 0 ≤ number)

/-- A Via whose version is followed by no number. -/
def CodedVia (via : CppString) : Prop :=
  ∃ rest, via = "SIP/2.0/".toList ++ rest ∧ rest.head? ≠ some '2' ∧
    '/' ∉ rest

/-- A request of one party of the call to the other. -/
structure IsRequest (dialog : Dialog) (method : CppString)
    (sender target : Party) (call : CallMessage) : Prop where
  known : method ∈ callMethods
  plain : call.Plain
  line : call.startLine = method ++ " ".toList ++ ("sip:".toList ++
    target.user ++ "@".toList ++ target.domain) ++ " SIP/2.0".toList
  sender : call.sender = sender.address
  target : call.target = target.address
  callId : call.callId = dialog.callId
  cseq : Numbered method call.cseq
  sent : call.vias ≠ []
  vias : ∀ via ∈ call.vias, CodedVia via
  contacts : method ≠ "INVITE".toList → call.contacts = []

/-- A response in the call to a request with this method. -/
structure IsResponse (dialog : Dialog) (status : Status)
    (method : CppString) (call : CallMessage) : Prop where
  known : method ∈ callMethods
  plain : call.Plain
  line : call.startLine = status.line
  callId : call.callId = dialog.callId
  cseq : Numbered method call.cseq

variable {dialog : Dialog} {method : CppString} {sender target : Party}
variable {status : Status} {call : CallMessage}

/-! ## The beginning of a text -/

theorem CallMessage.Plain.text_eq (plain : call.Plain) :
    call.text = call.startLine ++ ("\r\n".toList ++
      (call.headers.flatMap
        (fun header => headerLine header ++ "\r\n".toList) ++
      "\r\n".toList)) := by
  unfold CallMessage.text
  rw [plain.letter.serialize_eq, List.append_assoc, List.append_assoc]
  rfl

theorem toUpper_append (first second : CppString) :
    toUpper (first ++ second) = toUpper first ++ toUpper second :=
  List.map_append

theorem toUpper_method :
    ∀ method ∈ callMethods, toUpper method = method := by
  decide

/-- What a client compares the beginning of a text with. -/
theorem beginning_of_method :
    ∀ word ∈ ["SIP/2.0".toList, "INVITE".toList, "BYE".toList],
      ∀ method ∈ callMethods,
        word.isPrefixOf method = decide (word = method) ∧
          method.isPrefixOf word = decide (word = method) := by
  decide

theorem isPrefixOf_request
    {word : CppString}
    (tested : word ∈ ["SIP/2.0".toList, "INVITE".toList, "BYE".toList])
    (known : method ∈ callMethods) (rest : CppString) :
    word.isPrefixOf (method ++ rest) = decide (word = method) := by
  obtain ⟨inside, around⟩ := beginning_of_method word tested method known
  rw [Bool.eq_iff_iff, List.isPrefixOf_iff_prefix, decide_eq_true_eq]
  constructor
  · intro starts
    rcases List.prefix_or_prefix_of_prefix starts
      (List.prefix_append method rest) with short | long
    · rw [← List.isPrefixOf_iff_prefix, inside] at short
      exact of_decide_eq_true short
    · rw [← List.isPrefixOf_iff_prefix, around] at long
      exact of_decide_eq_true long
  · rintro rfl
    exact List.prefix_append word rest

/-! ## Requests -/

theorem IsRequest.line_starts
    (request : IsRequest dialog method sender target call) :
    ∃ rest, call.startLine = method ++ ' ' :: rest := by
  refine ⟨("sip:".toList ++ target.user ++ "@".toList ++ target.domain) ++
    " SIP/2.0".toList, ?_⟩
  rw [request.line, List.append_assoc, List.append_assoc]
  rfl

theorem IsRequest.beginsWith
    (request : IsRequest dialog method sender target call)
    {word : CppString}
    (tested : word ∈ ["SIP/2.0".toList, "INVITE".toList, "BYE".toList]) :
    Wire.beginsWith word call.text = decide (word = method) := by
  obtain ⟨rest, line⟩ := request.line_starts
  change word.isPrefixOf (toUpper call.text) = _
  rw [request.plain.text_eq, line, List.append_assoc, toUpper_append,
    toUpper_method method request.known]
  exact isPrefixOf_request tested request.known _

theorem version_ne_method :
    ∀ method ∈ callMethods, "SIP/2.0".toList ≠ method := by
  decide

theorem IsRequest.begins_iff
    (request : IsRequest dialog method sender target call)
    {word : CppString} (tested : word ∈ ["INVITE".toList, "BYE".toList]) :
    (¬ Wire.beginsWith "SIP/2.0" call.text ∧ Wire.beginsWith word call.text) ↔
      method = word := by
  have response := @IsRequest.beginsWith _ _ _ _ _ request "SIP/2.0" (by decide)
  have own := request.beginsWith (List.mem_cons_of_mem _ tested)
  rw [response, own, decide_eq_true_eq, decide_eq_true_eq]
  constructor
  · intro found
    exact found.2.symm
  · intro same
    exact ⟨version_ne_method method request.known, same.symm⟩

theorem IsRequest.isInvite_iff
    (request : IsRequest dialog method sender target call) :
    SIPClient.IsInvite call.text ↔ method = "INVITE".toList :=
  request.begins_iff List.mem_cons_self

theorem IsRequest.isBye_iff
    (request : IsRequest dialog method sender target call) :
    SIPClient.IsBye call.text ↔ method = "BYE".toList :=
  request.begins_iff (List.mem_cons_of_mem _ List.mem_cons_self)

theorem extractCallId_of_plain
    (plain : call.Plain) (own : call.callId = dialog.callId) :
    Wire.extractCallId call.text = dialog.callId := by
  have value : call.message.getHeader "Call-ID" = dialog.callId :=
    getHeader_callId.trans own
  have present : "Call-ID".toList ∈ call.message.headers.map SIPHeader.name := by
    unfold CallMessage.message CallMessage.headers
    simp [-String.reduceToList]
  have read := plain.letter.extractCallId present
    (fun char member => dialog.callIdSolid char (value ▸ member))
  exact read.trans value

/-- The caller that a client is shown. -/
theorem IsRequest.callerOf
    (request : IsRequest dialog method sender target call) :
    Wire.callerOf call.text = sender.identity := by
  have present : "From".toList ∈ call.message.headers.map SIPHeader.name := by
    unfold CallMessage.message CallMessage.headers
    simp [-String.reduceToList]
  exact request.plain.letter.callerOf present sender.plainUser
    sender.plainDomain (getHeader_from.trans request.sender)

theorem sipIdentity_address (party : Party) :
    sipIdentity party.address = party.identity := by
  refine sipIdentity_bracketed ?_
  have user := party.plainUser.plain '>' (by decide)
  have domain := party.plainDomain.plain '>' (by decide)
  unfold Client.identity
  simp only [List.mem_append, user, domain, or_false, false_or]
  decide

/-! ### What the proxy finds in a request -/

theorem getMethod_of_line
    {message : SIPMessage} {rest : CppString} (known : method ∈ callMethods)
    (line : message.startLine = method ++ ' ' :: rest) :
    message.getMethod = method := by
  have response : message.isResponse = false := by
    change "SIP/2.0".toList.isPrefixOf message.startLine = false
    rw [line, isPrefixOf_request (by decide) known, decide_eq_false_iff_not]
    exact version_ne_method method known
  have nonempty : message.startLine ≠ [] := by
    simp [line]
  have request : message.isRequest = true := by
    simp [isRequest, response, nonempty]
  have noSpace : ∀ method ∈ callMethods, ' ' ∉ method := by decide
  have found : find " " message.startLine = some method.length := by
    rw [line]
    exact find_singleton_append (noSpace method known) rest
  rw [getMethod, if_pos request, found, line]
  exact List.take_left

theorem IsRequest.getMethod
    (request : IsRequest dialog method sender target call) :
    call.message.getMethod = method := by
  obtain ⟨rest, line⟩ := request.line_starts
  exact getMethod_of_line request.known line

theorem IsRequest.getSender
    (request : IsRequest dialog method sender target call) :
    sipIdentity (call.message.getHeader "From") = sender.identity := by
  rw [getHeader_from, request.sender, sipIdentity_address]

theorem IsRequest.getTarget
    (request : IsRequest dialog method sender target call) :
    sipIdentity (call.message.getHeader "To") = target.identity := by
  rw [getHeader_to, request.target, sipIdentity_address]

/-! ### A request has no status code -/

theorem not_codeAhead_of_head
    {text : CppString} (other : text.head? ≠ some '2') :
    ¬ CodeAhead text := by
  rintro ⟨space, digit, rest, rfl, -⟩
  exact other rfl

theorem codeless_vias
    {vias : List CppString} (coded : ∀ via ∈ vias, CodedVia via)
    {more : CppString} (codeless : Codeless more) :
    Codeless (vias.flatMap (fun via =>
      headerLine ⟨"Via", via⟩ ++ "\r\n".toList) ++ more) := by
  induction vias with
  | nil => exact codeless
  | cons via others ih =>
      obtain ⟨here, later⟩ := List.forall_mem_cons.mp coded
      obtain ⟨rest, rfl, other, noSlash⟩ := here
      have behind := codeless_append (show '/' ∉ "\r\n".toList by decide)
        (ih later)
      have value := codeless_append noSlash behind
      have ahead : ¬ CodeAhead (rest ++ ("\r\n".toList ++
          (others.flatMap (fun via =>
            headerLine ⟨"Via", via⟩ ++ "\r\n".toList) ++ more))) := by
        refine not_codeAhead_of_head ?_
        cases rest with
        | nil => exact show (some '\r') ≠ some '2' by decide
        | cons head tail => exact other
      have second := codeless_append (show '/' ∉ "2.0".toList by decide)
        (codeless_slash ahead value)
      have version := @not_codeAhead [] '/' (rest ++ ("\r\n".toList ++
        (others.flatMap (fun via =>
          headerLine ⟨"Via", via⟩ ++ "\r\n".toList) ++ more)))
        (by simp) (by decide) (by decide)
      have whole := codeless_append (show '/' ∉ "Via: SIP".toList by decide)
        (codeless_slash version second)
      have shape : headerLine ⟨"Via", "SIP/2.0/".toList ++ rest⟩ =
          "Via: SIP".toList ++ '/' :: ("2.0".toList ++ '/' :: rest) := by
        rfl
      rw [List.flatMap_cons, shape]
      simpa only [List.append_assoc, List.cons_append, List.append_nil]
        using whole

theorem address_noSlash (party : Party) : '/' ∉ party.address := by
  have user := party.plainUser.plain '/' (by decide)
  have domain := party.plainDomain.plain '/' (by decide)
  unfold Party.address bracketed
  simp only [List.mem_append, user, domain, or_false]
  decide

theorem Numbered.noSlash
    {cseq : CppString} (numbered : Numbered method cseq)
    (known : method ∈ callMethods) : '/' ∉ cseq := by
  obtain ⟨number, rfl, -⟩ := numbered
  have methods : ∀ method ∈ callMethods, '/' ∉ " ".toList ++ method := by
    decide
  rw [List.append_assoc, List.mem_append, not_or]
  exact ⟨not_mem_stdToString (by decide) (by decide) number,
    methods method known⟩

theorem headerLine_noSlash
    {name value : CppString} (bare : '/' ∉ name) (noSlash : '/' ∉ value) :
    '/' ∉ headerLine ⟨name, value⟩ ++ "\r\n".toList := by
  unfold headerLine
  simp only [List.mem_append, bare, noSlash, or_false, false_or]
  decide

/-- The header lines behind the Via lines. -/
def CallMessage.lowerLines (call : CallMessage) : CppString :=
  (⟨"From", call.sender⟩ :: ⟨"To", call.target⟩ ::
    ⟨"Call-ID", call.callId⟩ :: ⟨"CSeq", call.cseq⟩ ::
      call.tail : List SIPHeader).flatMap
        (fun header => headerLine header ++ "\r\n".toList)

theorem CallMessage.lines_eq (call : CallMessage) :
    call.headers.flatMap (fun header => headerLine header ++ "\r\n".toList) =
      call.vias.flatMap (fun via =>
        headerLine ⟨"Via", via⟩ ++ "\r\n".toList) ++ call.lowerLines := by
  unfold CallMessage.headers
  rw [List.flatMap_append, List.flatMap_map]
  rfl

section StatusCodes

variable (request : IsRequest dialog method sender target call)

include request

theorem IsRequest.noSlash (other : method ≠ "INVITE".toList) :
    '/' ∉ call.lowerLines := by
  have bare : ∀ name ∈ letterNames, '/' ∉ name := by decide
  have last : call.tail = [⟨"Content-Length", "0"⟩] := by
    unfold CallMessage.tail
    rw [request.contacts other]
    rfl
  rw [CallMessage.lowerLines, last, request.sender, request.target,
    request.callId, List.mem_flatMap]
  rintro ⟨header, member, inLine⟩
  simp only [List.mem_cons, List.not_mem_nil, or_false] at member
  rcases member with rfl | rfl | rfl | rfl | rfl
  · exact headerLine_noSlash (bare _ (by decide)) (address_noSlash _) inLine
  · exact headerLine_noSlash (bare _ (by decide)) (address_noSlash _) inLine
  · exact headerLine_noSlash (bare _ (by decide)) dialog.callIdNoSlash inLine
  · exact headerLine_noSlash (bare _ (by decide))
      (request.cseq.noSlash request.known) inLine
  · exact headerLine_noSlash (bare _ (by decide)) (by decide) inLine

/-- The start line up to the slash of its version. -/
theorem IsRequest.front_noSlash :
    '/' ∉ method ++ " ".toList ++ ("sip:".toList ++ target.user ++
      "@".toList ++ target.domain) ++ " SIP".toList := by
  have user := target.plainUser.plain '/' (by decide)
  have domain := target.plainDomain.plain '/' (by decide)
  have methods : ∀ method ∈ callMethods,
      '/' ∉ method ++ " ".toList := by decide
  rw [List.mem_append, List.mem_append, not_or, not_or]
  refine ⟨⟨methods method request.known, ?_⟩, by decide⟩
  simp only [List.mem_append, user, domain, or_false]
  decide

theorem IsRequest.text_at_version :
    call.text = (method ++ " ".toList ++ ("sip:".toList ++ target.user ++
      "@".toList ++ target.domain) ++ " SIP".toList) ++
        '/' :: ("2.0\r\n".toList ++ (call.vias.flatMap (fun via =>
          headerLine ⟨"Via", via⟩ ++ "\r\n".toList) ++
            (call.lowerLines ++ "\r\n".toList))) := by
  have version : " SIP/2.0".toList =
      " SIP".toList ++ '/' :: "2.0".toList := by
    decide
  have ended : "2.0\r\n".toList = "2.0".toList ++ "\r\n".toList := by decide
  rw [request.plain.text_eq, request.line, call.lines_eq, version, ended]
  simp only [List.append_assoc, List.cons_append]

/-- Only an INVITE has values of its user in which a code could stand. -/
theorem IsRequest.extractStatusCode (other : method ≠ "INVITE".toList) :
    Wire.extractStatusCode call.text = .ok 0 := by
  obtain ⟨via, others, split⟩ := List.exists_cons_of_ne_nil request.sent
  have ended : '/' ∉ "\r\n".toList := by decide
  have lines := codeless_vias request.vias (codeless_append
    (request.noSlash other) (codeless_of_noSlash ended))
  have versioned := codeless_append
    (show '/' ∉ "2.0\r\n".toList by decide) lines
  -- Behind the version of the start line stands the first Via.
  have ahead : ¬ CodeAhead ("2.0\r\n".toList ++ (call.vias.flatMap
      (fun via => headerLine ⟨"Via", via⟩ ++ "\r\n".toList) ++
        (call.lowerLines ++ "\r\n".toList))) := by
    have first : headerLine ⟨"Via", via⟩ ++ "\r\n".toList =
        'V' :: ("ia: ".toList ++ via ++ "\r\n".toList) := rfl
    rw [split, List.flatMap_cons, first]
    exact not_codeAhead _ (show ∀ char ∈ "\r\n".toList, isSpace char = true
      by decide) (by decide) (by decide)
  rw [request.text_at_version]
  exact extractStatusCode_of_codeless
    (codeless_append request.front_noSlash (codeless_slash ahead versioned))

end StatusCodes

/-- An ACK does nothing to a client. -/
theorem IsRequest.onMessage_ack
    (request : IsRequest dialog "ACK" sender target call)
    (client : SIPClient CppString) :
    client.onMessage call.text = .ok ([], client) := by
  have notInvite : ¬ SIPClient.IsInvite call.text := by
    rw [request.isInvite_iff]
    decide
  have notBye : ¬ SIPClient.IsBye call.text := by
    rw [request.isBye_iff]
    decide
  by_cases concerns : client.Concerns call.text
  · rw [SIPClient.onMessage_concerns concerns,
      request.extractStatusCode (by decide), ok_bind]
    rfl
  · exact SIPClient.onMessage_other notInvite notBye concerns

/-! ## Responses -/

theorem Status.line_split (status : Status) :
    ∃ first second third reason,
      status.line = "SIP/2.0".toList ++
        ' ' :: first :: second :: third :: reason ∧
      (∀ char ∈ [first, second, third], char.isDigit = true) ∧
      stoi [first, second, third] = .ok status.code := by
  cases status with
  | trying =>
      exact ⟨'1', '0', '0', " Trying".toList, by decide, by decide, by decide⟩
  | ringing =>
      exact ⟨'1', '8', '0', " Ringing".toList, by decide, by decide, by decide⟩
  | ok => exact ⟨'2', '0', '0', " OK".toList, by decide, by decide, by decide⟩
  | decline =>
      exact ⟨'6', '0', '3', " Decline".toList, by decide, by decide, by decide⟩
  | badRequest =>
      exact ⟨'4', '0', '0', " Bad Request".toList, by decide, by decide,
        by decide⟩

namespace IsResponse

theorem text_starts (response : IsResponse dialog status method call) :
    "SIP/2.0".toList <+: toUpper call.text := by
  obtain ⟨first, second, third, reason, line, -⟩ := status.line_split
  rw [response.plain.text_eq, response.line, line, List.append_assoc,
    toUpper_append]
  exact List.IsPrefix.trans (by decide) (List.prefix_append _ _)

theorem beginsWith (response : IsResponse dialog status method call) :
    Wire.beginsWith "SIP/2.0" call.text = true :=
  List.isPrefixOf_iff_prefix.mpr response.text_starts

theorem not_isInvite (response : IsResponse dialog status method call) :
    ¬ SIPClient.IsInvite call.text :=
  fun invite => invite.1 response.beginsWith

theorem not_isBye (response : IsResponse dialog status method call) :
    ¬ SIPClient.IsBye call.text :=
  fun bye => bye.1 response.beginsWith

theorem mentions (response : IsResponse dialog status method call) :
    Wire.mentions "SIP/2.0" call.text = true :=
  contains_iff.mpr response.text_starts.isInfix

theorem extractStatusCode (response : IsResponse dialog status method call) :
    Wire.extractStatusCode call.text = .ok status.code := by
  obtain ⟨first, second, third, reason, line, digits, read⟩ :=
    status.line_split
  change Client.extractStatusCode call.text = _
  rw [response.plain.text_eq, response.line, line, List.append_assoc]
  exact (extractStatusCode_of_response digits _).trans read

theorem extractCallId (response : IsResponse dialog status method call) :
    Wire.extractCallId call.text = dialog.callId :=
  extractCallId_of_plain response.plain response.callId

theorem extractCseqMethod
    (response : IsResponse dialog status method call)
    (counted : method ≠ "ACK".toList) :
    Wire.extractCseqMethod call.text = method := by
  obtain ⟨number, cseq, exempt | nonnegative⟩ := response.cseq
  · exact absurd exempt counted
  obtain ⟨count, rfl⟩ := Int.eq_ofNat_of_zero_le nonnegative
  have present : "CSeq".toList ∈ call.message.headers.map SIPHeader.name := by
    unfold CallMessage.message CallMessage.headers
    simp [-String.reduceToList]
  have split : call.message.getHeader "CSeq" =
      Nat.toDigits 10 count ++ ' ' :: method := by
    rw [getHeader_cseq, cseq, stdToString_natCast, List.append_assoc]
    rfl
  have words : ∀ method ∈ callMethods,
      method ≠ [] ∧ ∀ char ∈ method, isWord char = true := by
    decide
  obtain ⟨named, word⟩ := words method response.known
  have read := response.plain.letter.extractCseqMethod present split
    Nat.toDigits_ne_nil (fun char member => isDigit_of_mem_toDigits member)
    named word
  exact read.trans (toUpper_method method response.known)

/-- A client looks at a response only if the call is its active call. -/
theorem onMessage
    (response : IsResponse dialog status method call)
    (client : SIPClient CppString) :
    client.onMessage call.text =
      if client.state.activeCallId = dialog.callId then
        client.handleStatus call.text status.code
      else .ok ([], client) := by
  split_ifs with active
  · have concerns : client.Concerns call.text :=
      { notInvite := response.not_isInvite
        notBye := response.not_isBye
        mentions := response.mentions
        nonempty := response.extractCallId ▸ dialog.callIdPlain.nonempty
        active := response.extractCallId.trans active.symm }
    rw [SIPClient.onMessage_concerns concerns, response.extractStatusCode,
      ok_bind]
  · refine SIPClient.onMessage_other response.not_isInvite
      response.not_isBye (fun concerns => active ?_)
    exact concerns.active.symm.trans response.extractCallId

end IsResponse

/-! ### What the proxy finds in a response -/

theorem getStatusCode_of_line
    {message : SIPMessage} (line : message.startLine = status.line) :
    message.getStatusCode = status.code := by
  have same := @getStatusCode_eq_of_startLine message
    { startLine := status.line } line
  rw [same]
  cases status <;> decide

theorem isResponse_of_line
    {message : SIPMessage} (line : message.startLine = status.line) :
    message.isResponse = true := by
  refine isResponse_of_getStatusCode ?_
  rw [getStatusCode_of_line line]
  cases status <;> decide

/-- A CSeq names its own method and no other. -/
theorem Numbered.contains_iff
    {cseq word : CppString} (numbered : Numbered method cseq)
    (known : method ∈ callMethods)
    (tested : word ∈ ["INVITE".toList, "BYE".toList]) :
    contains cseq word = true ↔ method = word := by
  obtain ⟨number, rfl, -⟩ := numbered
  rw [Lib.Cpp.contains_iff]
  constructor
  · intro inside
    by_contra different
    have foreign : ∀ word ∈ ["INVITE".toList, "BYE".toList],
        ∀ method ∈ callMethods, method ≠ word →
          ∃ char ∈ word, char.isDigit = false ∧ char ≠ '-' ∧ char ≠ ' ' ∧
            char ∉ method := by
      decide
    obtain ⟨char, inWord, notDigit, notMinus, notSpace, notMethod⟩ :=
      foreign word tested method known different
    have member := inside.subset inWord
    simp only [List.mem_append, not_mem_stdToString notDigit notMinus,
      notMethod, or_false, false_or] at member
    exact notSpace (List.mem_singleton.mp member)
  · rintro rfl
    exact (List.suffix_append _ method).isInfix

/-! ## What the parties write -/

section Writing

variable {factory : SIPMessageFactory}

theorem host_noSlash
    {host : CppString} (plain : PlainHost host) : '/' ∉ host := by
  intro member
  rcases plain.numeric '/' member with digit | dot
  · exact absurd digit (by decide)
  · exact absurd dot (by decide)

theorem codedVia_of_protocol
    {protocol middle rest : CppString}
    (known : protocol = "UDP".toList ∨ protocol = "TCP".toList)
    (middleBare : '/' ∉ middle) (restBare : '/' ∉ rest) :
    CodedVia ("SIP/2.0/".toList ++ protocol ++ middle ++ rest) := by
  have protocols : ∃ first others, protocol = first :: others ∧
      first ≠ '2' ∧ '/' ∉ first :: others := by
    rcases known with rfl | rfl
    · exact ⟨'U', ['D', 'P'], rfl, by decide, by decide⟩
    · exact ⟨'T', ['C', 'P'], rfl, by decide, by decide⟩
  obtain ⟨first, others, rfl, different, bare⟩ := protocols
  refine ⟨first :: others ++ (middle ++ rest), ?_, ?_, ?_⟩
  · simp only [List.append_assoc]
  · intro starts
    exact different (Option.some.inj starts)
  · simp only [List.mem_append, bare, middleBare, restBare, or_self,
      not_false_eq_true]

theorem codedVia_makeVia (host : PlainHost factory.localIp) :
    CodedVia factory.makeVia := by
  have port := not_mem_stdToString (show '/'.isDigit = false by decide)
    (by decide) factory.localPort
  have noSlash : '/' ∉ factory.localAddress := by
    unfold SIPMessageFactory.localAddress
    simp only [List.mem_append, host_noSlash host, port, or_false, false_or]
    decide
  exact codedVia_of_protocol factory.transportProtocol_known (by decide)
    noSlash

theorem codedVia_proxyVia (transport : TransportType) (port : UInt16) :
    CodedVia (buildProxyVia transport port) := by
  have digits := not_mem_stdToString (show '/'.isDigit = false by decide)
    (by decide) port.toNat
  refine codedVia_of_protocol ?_ (by decide) digits
  cases transport with
  | tcp => exact Or.inr rfl
  | udp => exact Or.inl rfl

theorem isRequest_request
    (known : method ∈ callMethods) (host : PlainHost factory.localIp)
    (counted : 0 ≤ factory.cseq) :
    IsRequest dialog method sender target (CallMessage.request factory method
      sender.user sender.domain target.user target.domain
        dialog.callId) where
  known := known
  plain := plain_request known host dialog.callIdPlain
  line := rfl
  sender := rfl
  target := rfl
  callId := rfl
  cseq := ⟨factory.cseq, rfl, Or.inr counted⟩
  sent := List.cons_ne_nil _ _
  vias := by
    intro via member
    rw [List.mem_singleton.mp member]
    exact codedVia_makeVia host
  contacts := fun other => if_neg other

theorem isRequest_errorAck
    (host : PlainHost factory.localIp) (cseqNum : Int) :
    IsRequest dialog "ACK" sender target (CallMessage.errorAck factory
      sender.user sender.domain target.user target.domain dialog.callId
        cseqNum) where
  known := by decide
  plain := plain_errorAck host dialog.callIdPlain cseqNum
  line := rfl
  sender := rfl
  target := rfl
  callId := rfl
  cseq := ⟨cseqNum, rfl, Or.inl rfl⟩
  sent := List.cons_ne_nil _ _
  vias := by
    intro via member
    rw [List.mem_singleton.mp member]
    exact codedVia_makeVia host
  contacts := fun _ => rfl

theorem IsRequest.forwarded
    (request : IsRequest dialog method sender target call)
    (transport : TransportType) (port : UInt16) :
    IsRequest dialog method sender target
      (call.forwarded (buildProxyVia transport port)) :=
  { request with
    plain := plain_forwarded request.plain (plainValue_proxyVia transport port)
    sent := List.cons_ne_nil _ _
    vias := List.forall_mem_cons.mpr
      ⟨codedVia_proxyVia transport port, request.vias⟩ }

/-- The status with which a client answers. -/
structure Status.Answers (status : Status) (code : Int) (reason : CppString) :
    Prop where
  line : "SIP/2.0 ".toList ++ stdToString code ++ " ".toList ++ reason =
    status.line
  piece : Piece reason

theorem IsRequest.answer
    (request : IsRequest dialog method sender target call)
    {code : Int} {reason : CppString} (answers : status.Answers code reason) :
    IsResponse dialog status method (call.answer code reason) where
  known := request.known
  plain := plain_answer request.plain request.sent code answers.piece
  line := answers.line
  callId := request.callId
  cseq := request.cseq

theorem IsRequest.refused
    (request : IsRequest dialog method sender target call) :
    IsResponse dialog .badRequest method
      (call.refused "SIP/2.0 400 Bad Request") where
  known := request.known
  plain := plain_refused request.plain request.sent (by decide)
    (piece_literal "SIP/2.0 400 Bad Request" (by decide))
  line := rfl
  callId := request.callId
  cseq := request.cseq

/-- A response without some of its Vias. -/
theorem IsResponse.stripped
    (response : IsResponse dialog status method call)
    {vias : List CppString} (fewer : vias ⊆ call.vias) :
    IsResponse dialog status method { call with vias := vias } :=
  { response with
    plain :=
      { response.plain with
        vias := fun value member => response.plain.vias value (fewer member) } }

end Writing

end MinimalSip.Calls

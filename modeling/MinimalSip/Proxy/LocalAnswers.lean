import MinimalSip.Proxy.ResponsePaths

/-!
# Local answers and the requests that they answer

Both copies of the response builder take over the first value of each echoed
header.  For From, To, Call-ID and CSeq that is the one the requester looks
at; but a request collects a Via at every hop, and the answer needs all of
them to find its way back.
-/

namespace MinimalSip.Proxy

open MinimalSip.Lib.Cpp
open MinimalSip.Lib.Machine
open MinimalSip.Common
open MinimalSip.Common.SIPMessage

/-! ## The headers of a local answer -/

theorem getHeaders_addHeader
    (message : SIPMessage) (name value other : CppString) :
    (message.addHeader name value).getHeaders other =
      message.getHeaders other ++ (if name = other then [value] else []) := by
  by_cases same : name = other
  · simp [getHeaders, addHeader, same]
  · simp [getHeaders, addHeader, same]

/-- The one value of a header that is not empty. -/
def onlyNonempty (value : CppString) : List CppString :=
  if value = [] then [] else [value]

theorem getHeaders_addNonempty
    (message : SIPMessage) (name value other : CppString) :
    (addNonempty message name value).getHeaders other =
      message.getHeaders other ++
        (if name = other then onlyNonempty value else []) := by
  unfold addNonempty onlyNonempty
  by_cases empty : value = []
  · simp [empty]
  · rw [if_neg empty, if_neg empty, getHeaders_addHeader]

/-- The headers that a local answer takes over. -/
def echoedHeaders : List CppString :=
  ["Via".toList, "From".toList, "To".toList, "Call-ID".toList,
    "CSeq".toList]

/-- The values of a header of a local answer. -/
theorem getHeaders_localResponse
    (status : CppString) (request : SIPMessage) (name : CppString) :
    (localResponse status request).getHeaders name =
      (if "Via".toList = name then onlyNonempty (request.getHeader "Via")
        else []) ++
      (if "From".toList = name then onlyNonempty (request.getHeader "From")
        else []) ++
      (if "To".toList = name then onlyNonempty (request.getHeader "To")
        else []) ++
      (if "Call-ID".toList = name then
        onlyNonempty (request.getHeader "Call-ID") else []) ++
      (if "CSeq".toList = name then onlyNonempty (request.getHeader "CSeq")
        else []) ++
      (if "Content-Length".toList = name then ["0".toList] else []) := by
  have none : ({ startLine := status } : SIPMessage).getHeaders name = [] :=
    rfl
  simp only [localResponse, getHeaders_addHeader, getHeaders_addNonempty,
    none, List.nil_append]

theorem getHeaders_localResponse_echoed
    {name : CppString} (echoed : name ∈ echoedHeaders)
    (status : CppString) (request : SIPMessage) :
    (localResponse status request).getHeaders name =
      onlyNonempty (request.getHeader name) := by
  rw [getHeaders_localResponse]
  simp only [echoedHeaders, List.mem_cons, List.not_mem_nil, or_false]
    at echoed
  rcases echoed with rfl | rfl | rfl | rfl | rfl <;> simp

theorem getHeaders_localResponse_contentLength
    (status : CppString) (request : SIPMessage) :
    (localResponse status request).getHeaders "Content-Length" =
      ["0".toList] := by
  rw [getHeaders_localResponse]
  simp

@[simp]
theorem addNonempty_body
    (message : SIPMessage) (name value : CppString) :
    (addNonempty message name value).body = message.body := by
  unfold addNonempty
  split_ifs <;> rfl

@[simp]
theorem localResponse_body (status : CppString) (request : SIPMessage) :
    (localResponse status request).body = [] := by
  simp only [localResponse, addHeader, addNonempty_body]

/-! ## What the requester needs -/

/-- The answer carries what a requester and the hops before it look at. -/
structure Answers (request response : SIPMessage) : Prop where
  via : response.getHeaders "Via" = request.getHeaders "Via"
  fromHeader : response.getHeaders "From" =
    onlyNonempty (request.getHeader "From")
  toHeader : response.getHeaders "To" =
    onlyNonempty (request.getHeader "To")
  callId : response.getHeaders "Call-ID" =
    onlyNonempty (request.getHeader "Call-ID")
  cseq : response.getHeaders "CSeq" =
    onlyNonempty (request.getHeader "CSeq")
  contentLength : response.getHeaders "Content-Length" = ["0".toList]
  body : response.body = []

/-- The request has at most one Via, and no empty one. -/
def SingleVia (request : SIPMessage) : Prop :=
  (request.getHeaders "Via").length ≤ 1 ∧
    [] ∉ request.getHeaders "Via"

theorem onlyNonempty_headD_iff (values : List CppString) :
    onlyNonempty (values.headD []) = values ↔
      values.length ≤ 1 ∧ [] ∉ values := by
  unfold onlyNonempty
  rcases values with - | ⟨first, others⟩
  · simp
  · by_cases empty : first = []
    · simp [empty]
    · cases others with
      | nil => simp [empty, Ne.symm empty]
      | cons second rest => simp [empty]

theorem answers_localResponse_iff
    (status : CppString) (request : SIPMessage) :
    Answers request (localResponse status request) ↔ SingleVia request := by
  have via : (localResponse status request).getHeaders "Via" =
      onlyNonempty ((request.getHeaders "Via").headD []) := by
    rw [getHeaders_localResponse_echoed (by decide), getHeader_eq_headD]
  constructor
  · intro answers
    exact (onlyNonempty_headD_iff _).mp (via.symm.trans answers.via)
  · intro single
    exact
      { via := via.trans ((onlyNonempty_headD_iff _).mpr single)
        fromHeader := getHeaders_localResponse_echoed (by decide) _ _
        toHeader := getHeaders_localResponse_echoed (by decide) _ _
        callId := getHeaders_localResponse_echoed (by decide) _ _
        cseq := getHeaders_localResponse_echoed (by decide) _ _
        contentLength := getHeaders_localResponse_contentLength _ _
        body := localResponse_body _ _ }

/-! ## Every local answer is built alike -/

namespace SIPRouter

variable {config : RouterConfig} {router next : SIPRouter}
variable {received : Received} {result : RoutingResult}

/-- On every path a local answer comes from the response builder. -/
theorem response_of_respondLocally
    (stepped : step config router received = .ok (result, next))
    (here : result.action = .respondLocally) :
    ∃ status, result.response = localResponse status received.message := by
  by_cases response : received.message.isResponse = true
  · cases held : router.callContexts.lookup received.callId with
    | none =>
        rw [step_response_unknown response held] at stepped
        cases stepped
        cases here
    | some context =>
        rw [step_response_held response held] at stepped
        cases stepped
        rw [responseResult_action] at here
        cases here
  by_cases request : received.message.isRequest = true
  swap
  · simp only [step, route, response, request] at stepped
    cases stepped
    cases here
  by_cases register : received.method = "REGISTER".toList
  · rcases step_register register with accepted | refused
    · rw [step_registers accepted] at stepped
      cases stepped
      exact ⟨_, rfl⟩
    · rw [refused router] at stepped
      cases stepped
      exact ⟨_, rfl⟩
  by_cases invite : received.method = "INVITE".toList
  · rcases step_invite invite with
      ⟨entry, accepted⟩ | ⟨status, -, user, refused⟩
    · obtain ⟨address, parsed⟩ :
          ∃ address, calleeAddress entry.contact = .ok address := by
        rw [step_admissible accepted] at stepped
        cases parsed : calleeAddress entry.contact with
        | ok address => exact ⟨address, rfl⟩
        | error thrown =>
            rw [parsed] at stepped
            cases stepped
      rw [step_opened accepted parsed] at stepped
      cases stepped
      cases here
    · rw [refused router (Agree.refl _ _)] at stepped
      cases stepped
      exact ⟨_, rfl⟩
  by_cases inCall : received.method = "ACK".toList ∨
      received.method = "BYE".toList
  · cases held : router.callContexts.lookup received.callId with
    | none =>
        rw [step_unknown inCall held] at stepped
        cases stepped
        exact ⟨_, rfl⟩
    | some context =>
        have forwarded : (inCallResult config context received.sender
            received.message).action = .forwardRequest := by
          unfold inCallResult
          split_ifs <;> rfl
        rcases inCall with ack | bye
        · rw [step_ack_held ack held] at stepped
          cases stepped
          rw [forwarded] at here
          cases here
        · rw [step_bye_held bye held] at stepped
          cases stepped
          rw [forwarded] at here
          cases here
  · rw [not_or] at inCall
    rw [step_request request, if_neg register, if_neg invite,
      if_neg inCall.1, if_neg inCall.2] at stepped
    cases stepped
    exact ⟨_, rfl⟩

/--
In every state of the router and on every path, a local answer carries what
the requester needs exactly if the request has at most one Via and no empty
one; of several only the first is returned.
-/
theorem answers_iff_singleVia
    (stepped : step config router received = .ok (result, next))
    (here : result.action = .respondLocally) :
    Answers received.message result.response ↔
      SingleVia received.message := by
  obtain ⟨status, built⟩ := response_of_respondLocally stepped here
  rw [built]
  exact answers_localResponse_iff status received.message

/-- The 200 to the REGISTER of bob, who is one hop away. -/
theorem answers_registerBob :
    ∃ result next, step plainConfig initial registerBob = .ok (result, next) ∧
      result.action = .respondLocally ∧
      Answers registerBob.message result.response := by
  have tested : succeedsWith (step plainConfig initial registerBob)
      (fun value => decide (value.1.action = .respondLocally)) = true := by
    decide
  obtain ⟨⟨result, next⟩, stepped, action⟩ := exists_of_succeedsWith tested
  have here : result.action = .respondLocally := of_decide_eq_true action
  have single : SingleVia registerBob.message := ⟨by decide, by decide⟩
  exact ⟨result, next, stepped, here,
    (answers_iff_singleVia stepped here).mpr single⟩

/-- A BYE that has come over a second proxy, of a call nobody knows. -/
def byeOverTwoHops : Received where
  message :=
    { startLine := "BYE sip:bob@local SIP/2.0"
      headers :=
        [⟨"Via", "SIP/2.0/UDP 10.0.0.9:5060"⟩,
          ⟨"Via", "SIP/2.0/UDP 10.0.0.1:5070"⟩,
          ⟨"From", "<sip:alice@local>"⟩, ⟨"To", "<sip:bob@local>"⟩,
          ⟨"Call-ID", "c9"⟩, ⟨"CSeq", "2 BYE"⟩] }
  senderIp := "10.0.0.9"
  senderPort := 5060
  transport := .udp

/-- The answer has lost the Via of the requester. -/
theorem not_answers_byeOverTwoHops :
    ∃ result, step plainConfig initial byeOverTwoHops =
        .ok (result, initial) ∧
      result.action = .respondLocally ∧
      result.response.getHeaders "Via" =
        ["SIP/2.0/UDP 10.0.0.9:5060".toList] ∧
      byeOverTwoHops.message.getHeaders "Via" =
        ["SIP/2.0/UDP 10.0.0.9:5060".toList,
          "SIP/2.0/UDP 10.0.0.1:5070".toList] ∧
      ¬ Answers byeOverTwoHops.message result.response := by
  have method : byeOverTwoHops.method = "BYE".toList := by decide
  have stepped := @step_unknown plainConfig initial byeOverTwoHops
    (Or.inr method) rfl
  have answered : (localResponse "SIP/2.0 400 Bad Request"
      byeOverTwoHops.message).getHeaders "Via" =
        ["SIP/2.0/UDP 10.0.0.9:5060".toList] := by
    decide
  have asked : byeOverTwoHops.message.getHeaders "Via" =
      ["SIP/2.0/UDP 10.0.0.9:5060".toList,
        "SIP/2.0/UDP 10.0.0.1:5070".toList] := by
    decide
  refine ⟨_, stepped, rfl, answered, asked, ?_⟩
  intro answers
  have kept := answers.via.symm.trans answered
  rw [asked] at kept
  exact absurd kept (by decide)

end SIPRouter

end MinimalSip.Proxy

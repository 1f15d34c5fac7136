import MinimalSip.Lib.CppString

/-!
# The shared message model

`SIPMessage` keeps the start line and the body as raw text and the headers as
an ordered list in which names may repeat.  Names are compared exactly as
received.  A lookup returns the first match, or the empty string.
-/

namespace MinimalSip.Common

open MinimalSip.Lib.Search
open MinimalSip.Lib.Cpp

inductive TransportType where
  | udp
  | tcp
deriving DecidableEq, Repr

/-- One received datagram or TCP frame. -/
structure RawPacket where
  data : CppString
  ip : CppString
  port : UInt16
  transport : TransportType
deriving DecidableEq

structure SIPHeader where
  name : CppString
  value : CppString
deriving DecidableEq

structure SIPMessage where
  startLine : CppString := []
  headers : List SIPHeader := []
  body : CppString := []
deriving DecidableEq

namespace SIPMessage

/-- The value of the first header of that name, or the empty string. -/
def getHeader (message : SIPMessage) (name : CppString) : CppString :=
  match message.headers.find? (fun header => header.name = name) with
  | some header => header.value
  | none => []

def addHeader (message : SIPMessage) (name value : CppString) : SIPMessage :=
  { message with headers := message.headers ++ [⟨name, value⟩] }

def hasHeader (message : SIPMessage) (name : CppString) : Bool :=
  message.headers.any (fun header => header.name = name)

/-- All values of one name, in order. -/
def getHeaders (message : SIPMessage) (name : CppString) : List CppString :=
  (message.headers.filter (fun header => header.name = name)).map
    SIPHeader.value

def prependHeader (message : SIPMessage) (name value : CppString) :
    SIPMessage :=
  { message with headers := ⟨name, value⟩ :: message.headers }

/-- The loop of `setHeader`: overwrite the first match, else append. -/
def assignFirst (name value : CppString) :
    List SIPHeader → List SIPHeader
  | [] => [⟨name, value⟩]
  | header :: rest =>
      if header.name = name then ⟨header.name, value⟩ :: rest
      else header :: assignFirst name value rest

def setHeader (message : SIPMessage) (name value : CppString) : SIPMessage :=
  { message with headers := assignFirst name value message.headers }

/-- `start_line.rfind("SIP/2.0", 0) == 0`. -/
def isResponse (message : SIPMessage) : Bool :=
  ("SIP/2.0" : CppString).isPrefixOf message.startLine

def isRequest (message : SIPMessage) : Bool :=
  message.startLine ≠ [] && !message.isResponse

/-- The first word of a request's start line. -/
def getMethod (message : SIPMessage) : CppString :=
  if message.isRequest then
    match find " " message.startLine with
    | none => message.startLine
    | some spacePos => message.startLine.take spacePos
  else []

/--
`ss >> version >> status_code`: skip one word, then read an `int`.  A missing
or overlong number sets the fail bit, which yields -1.
-/
def getStatusCode (message : SIPMessage) : Int :=
  if message.isResponse then
    let afterVersion := (message.startLine.dropWhile isSpace).dropWhile
      (fun char => !isSpace char)
    match stoi afterVersion with
    | .ok statusCode => statusCode
    | .error _ => -1
  else -1

def updateContentLength (message : SIPMessage) : SIPMessage :=
  message.setHeader "Content-Length" (stdToString message.body.length)

/-- `header.name << ": " << header.value`. -/
def headerLine (header : SIPHeader) : CppString :=
  header.name ++ ": ".toList ++ header.value

def serialize (message : SIPMessage) : CppString :=
  let messageCopy := message.updateContentLength
  messageCopy.startLine ++ "\r\n".toList ++
    messageCopy.headers.flatMap
      (fun header => headerLine header ++ "\r\n".toList) ++
    "\r\n".toList ++ messageCopy.body

/-! ## Kinds of messages -/

theorem isResponse_of_isRequest
    {message : SIPMessage} (request : message.isRequest = true) :
    message.isResponse = false := by
  simp only [isRequest, Bool.and_eq_true, Bool.not_eq_true'] at request
  exact request.2

/-- Only a request has a method. -/
theorem isRequest_of_getMethod
    {message : SIPMessage} (named : message.getMethod ≠ []) :
    message.isRequest = true := by
  by_contra other
  exact named (by simp [getMethod, other])

/-- Only a response has a status code. -/
theorem isResponse_of_getStatusCode
    {message : SIPMessage} (coded : message.getStatusCode ≠ -1) :
    message.isResponse = true := by
  by_contra other
  exact coded (by simp [getStatusCode, other])

/-- The status code is read off the start line. -/
theorem getStatusCode_eq_of_startLine
    {first second : SIPMessage} (same : first.startLine = second.startLine) :
    first.getStatusCode = second.getStatusCode := by
  obtain ⟨startLine, headers, body⟩ := first
  subst same
  rfl

theorem getMethod_starts (message : SIPMessage) :
    message.getMethod <+: message.startLine := by
  unfold getMethod
  split_ifs with request
  · cases find " " message.startLine with
    | none => exact List.prefix_rfl
    | some spacePos => exact List.take_prefix spacePos message.startLine
  · exact List.nil_prefix

/-! ## Lookups -/

@[simp]
theorem updateContentLength_startLine (message : SIPMessage) :
    message.updateContentLength.startLine = message.startLine :=
  rfl

@[simp]
theorem updateContentLength_body (message : SIPMessage) :
    message.updateContentLength.body = message.body :=
  rfl

theorem getHeader_cons
    (startLine : CppString) (header : SIPHeader)
    (rest : List SIPHeader) (body name : CppString) :
    getHeader ⟨startLine, header :: rest, body⟩ name =
      if header.name = name then header.value
      else getHeader ⟨startLine, rest, body⟩ name := by
  by_cases same : header.name = name <;>
    simp [getHeader, same]

/-- A lookup returns the first of all values of the name. -/
theorem getHeader_eq_headD
    (message : SIPMessage) (name : CppString) :
    message.getHeader name = (message.getHeaders name).headD [] := by
  obtain ⟨startLine, headers, body⟩ := message
  induction headers with
  | nil => rfl
  | cons header rest ih =>
      by_cases same : header.name = name
      · simp [getHeader, getHeaders, same]
      · simpa [getHeader, getHeaders, same] using ih

@[simp]
theorem getHeader_assignFirst_self
    (startLine : CppString) (headers : List SIPHeader)
    (body name value : CppString) :
    getHeader ⟨startLine, assignFirst name value headers, body⟩ name =
      value := by
  induction headers with
  | nil => simp [getHeader, assignFirst]
  | cons header rest ih =>
      by_cases same : header.name = name
      · simp [assignFirst, same, getHeader_cons]
      · simpa [assignFirst, same, getHeader_cons] using ih

/-- Every header of an updated list is an old one or the assigned one. -/
theorem mem_assignFirst
    {name value : CppString} {headers : List SIPHeader}
    {header : SIPHeader}
    (member : header ∈ assignFirst name value headers) :
    header ∈ headers ∨ header = ⟨name, value⟩ := by
  induction headers with
  | nil => exact Or.inr (by simpa [assignFirst] using member)
  | cons first rest ih =>
      by_cases same : first.name = name
      · simp only [assignFirst, if_pos same, List.mem_cons] at member
        rcases member with rfl | inRest
        · exact Or.inr (by simp [same])
        · exact Or.inl (List.mem_cons_of_mem _ inRest)
      · simp only [assignFirst, if_neg same, List.mem_cons] at member
        rcases member with rfl | inRest
        · exact Or.inl List.mem_cons_self
        · exact (ih inRest).imp_left (List.mem_cons_of_mem _)

/-- Headers of other names are kept. -/
theorem mem_assignFirst_of_ne
    {name value : CppString} {headers : List SIPHeader}
    {header : SIPHeader}
    (member : header ∈ headers) (other : header.name ≠ name) :
    header ∈ assignFirst name value headers := by
  induction headers with
  | nil => cases member
  | cons first rest ih =>
      rw [assignFirst]
      rcases List.mem_cons.mp member with rfl | inRest
      · rw [if_neg other]
        exact List.mem_cons_self
      · split_ifs with same
        · exact List.mem_cons_of_mem _ inRest
        · exact List.mem_cons_of_mem _ (ih inRest)

/-- A value that a lookup returns stands on a header of that name. -/
theorem mem_of_getHeader_ne_nil
    {message : SIPMessage} {name : CppString}
    (present : message.getHeader name ≠ []) :
    ⟨name, message.getHeader name⟩ ∈ message.headers := by
  unfold getHeader at present ⊢
  split at present
  next header found =>
    have named := List.find?_some found
    obtain rfl : header.name = name := by simpa using named
    simpa only [found] using List.mem_of_find?_eq_some found
  next missing => exact absurd rfl present

theorem assignFirst_ne_nil
    (name value : CppString) (headers : List SIPHeader) :
    assignFirst name value headers ≠ [] := by
  cases headers with
  | nil => simp [assignFirst]
  | cons first rest =>
      unfold assignFirst
      split <;> simp

end SIPMessage

end MinimalSip.Common

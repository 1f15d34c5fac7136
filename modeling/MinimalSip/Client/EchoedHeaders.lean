import MinimalSip.Client.BuiltRequests
import MinimalSip.Client.HeaderSpots
import MinimalSip.Proxy.LineEnds

/-!
# The headers that a response repeats

A response carries each of Via, From, To, Call-ID and CSeq once, with what the
factory's expression for the name captured in the request.  This is the value
of the request's header exactly if the first place that reads like a header of
that name carries the value.
-/

namespace MinimalSip.Client

open MinimalSip.Lib.Cpp
open MinimalSip.Lib.Regex
open MinimalSip.Common
open MinimalSip.Common.SIPMessage
open MinimalSip.Proxy.SIPParser
open MinimalSip.Client.SIPMessageFactory

/-! ## Reading a response -/

/-- The headers of a response without extra lines. -/
def responseHeaders (raw : CppString) : List SIPHeader :=
  echoedHeaders.map (fun name => ⟨name, headerOf raw name⟩) ++
    [⟨"Content-Length", "0"⟩]

theorem buildResponse_eq_written (code : Int) (reason raw : CppString) :
    buildResponse code reason raw [] =
      written ("SIP/2.0 ".toList ++ stdToString code ++ " ".toList ++ reason)
        (responseHeaders raw) [] := by
  have last : "Content-Length: 0\r\n\r\n".toList =
      headerLine ⟨"Content-Length", "0"⟩ ++ "\r\n".toList ++
        "\r\n".toList := by
    decide
  have built : buildResponse code reason raw [] =
      "SIP/2.0 ".toList ++ stdToString code ++ " ".toList ++ reason ++
        "\r\n".toList ++
        echoedHeaders.flatMap (fun name =>
          headerLine ⟨name, headerOf raw name⟩ ++ "\r\n".toList) ++
        (headerLine ⟨"Content-Length", "0"⟩ ++ "\r\n".toList ++
          "\r\n".toList) := by
    rw [← last]
    exact congrArg (fun front => front ++ "Content-Length: 0\r\n\r\n".toList)
      (List.append_nil _)
  rw [built, ← stream_eq_written, responseHeaders, List.flatMap_append,
    List.flatMap_map, List.flatMap_singleton, List.append_nil]
  simp only [List.append_assoc]

theorem responseHeaders_texts (raw : CppString) :
    ∀ header ∈ responseHeaders raw, HeaderText header := by
  have names : ∀ name ∈ echoedHeaders, ':' ∉ name ∧ '\n' ∉ name := by
    decide
  refine List.forall_mem_append.mpr ⟨?_, ?_⟩
  · rw [List.forall_mem_map]
    intro name echoed
    obtain ⟨noColon, unbroken⟩ := names name echoed
    refine ⟨noColon, unbroken, fun lineFeed => ?_⟩
    exact absurd (inLine_of_headerOf raw name '\n' lineFeed) (by decide)
  · rw [List.forall_mem_singleton]
    exact (contentLength_wellFormed 0).headerText

/-- A response is parsed into the headers that it repeats, trimmed. -/
theorem parse_buildResponse
    (code : Int) {reason : CppString} (unbroken : '\n' ∉ reason)
    (raw : CppString) :
    ∃ startLine, parse (buildResponse code reason raw []) = .ok
      { startLine := startLine
        headers := echoedHeaders.map (fun name =>
            SIPHeader.mk name (strip blanks (headerOf raw name))) ++
          [SIPHeader.mk "Content-Length" "0"] } := by
  have startLine : LineText ("SIP/2.0 ".toList ++ stdToString code ++
      " ".toList ++ reason) := by
    constructor
    · simp
    · simp [unbroken, stdToString_unbroken]
  have present : responseHeaders raw ≠ [] := by
    simp [responseHeaders]
  have lastValue : ∀ header ∈ (responseHeaders raw).getLast?,
      header.value.getLast? ≠ some '\r' := by
    intro header last
    obtain rfl : header = ⟨"Content-Length", "0"⟩ := by
      simpa [responseHeaders] using last.symm
    decide
  have read : (responseHeaders raw).filterMap readHeader =
      echoedHeaders.map (fun name =>
          SIPHeader.mk name (strip blanks (headerOf raw name))) ++
        [⟨"Content-Length", "0"⟩] := by
    have names : ∀ name ∈ echoedHeaders, Bare blanks name ∧ name ≠ [] := by
      decide
    have kept : ∀ name ∈ echoedHeaders,
        readHeader ⟨name, headerOf raw name⟩ =
          some ⟨name, strip blanks (headerOf raw name)⟩ :=
      fun name echoed => readHeader_of_bare (names name echoed)
    rw [responseHeaders, List.filterMap_append, List.filterMap_map]
    exact congrArg₂ (· ++ ·) ((List.filterMap_congr kept).trans
      (congrFun List.filterMap_eq_map echoedHeaders)) rfl
  rw [buildResponse_eq_written, parse_written [] startLine
    (responseHeaders_texts raw) present lastValue, read]
  exact ⟨_, rfl⟩

/-! ## Echoes -/

/-- A well-formed message that has all the headers a response repeats. -/
structure Answerable extends WellFormedMessage where
  present : ∀ name ∈ echoedHeaders, toSIPMessage.getHeader name ≠ []

/-- The reply has each header once, with the first value of the request. -/
def Echoes (message reply : SIPMessage) : Prop :=
  ∀ name ∈ echoedHeaders,
    reply.getHeaders name = [message.getHeader name]

/--
The first place in the text where the name stands in any case, with white
space and a colon behind, carries the value of the header: behind white space
stands the value, up to blanks and the end of the line.
-/
def FirstCarries (message : SIPMessage) (name : CppString) : Prop :=
  ∃ rest line,
    firstOf (headerTail name) message.serialize = some rest ∧
      lineBehind rest = some line ∧
      strip blanks line = message.getHeader name

instance (message : SIPMessage) (name : CppString) :
    Decidable (FirstCarries message name) :=
  decidable_of_iff
    (((firstOf (headerTail name) message.serialize).bind lineBehind).map
      (strip blanks) = some (message.getHeader name)) (by
    simp only [Option.map_eq_some_iff, Option.bind_eq_some_iff]
    constructor
    · rintro ⟨line, ⟨rest, first, reads⟩, same⟩
      exact ⟨rest, line, first, reads, same⟩
    · rintro ⟨rest, line, first, reads, same⟩
      exact ⟨line, ⟨rest, first, reads⟩, same⟩)

/-- The response has each repeated header once, whatever it captured. -/
theorem getHeaders_of_response
    (startLine raw : CppString) :
    ∀ name ∈ echoedHeaders,
      getHeaders
          { startLine := startLine
            headers := echoedHeaders.map (fun name =>
                SIPHeader.mk name (strip blanks (headerOf raw name))) ++
              [SIPHeader.mk "Content-Length" "0"] } name =
        [strip blanks (headerOf raw name)] := by
  intro name echoed
  have alone : ∀ name ∈ echoedHeaders,
      echoedHeaders.filter (fun other => decide (other = name)) = [name] ∧
        "Content-Length".toList ≠ name := by
    decide
  obtain ⟨once, other⟩ := alone name echoed
  have repeated : (echoedHeaders.map (fun name =>
      SIPHeader.mk name (strip blanks (headerOf raw name)))).filter
        (fun header => decide (header.name = name)) =
      [⟨name, strip blanks (headerOf raw name)⟩] := by
    rw [List.filter_map]
    exact congrArg (List.map _) once
  have last : [SIPHeader.mk "Content-Length" "0"].filter
      (fun header => decide (header.name = name)) = [] :=
    List.filter_eq_nil_iff.mpr (List.forall_mem_singleton.mpr
      (fun same => other (of_decide_eq_true same)))
  rw [getHeaders, List.filter_append, repeated, last]
  rfl

/-- The factory captures what the first place carries. -/
theorem strip_headerOf_iff
    (message : Answerable) {name : CppString} (echoed : name ∈ echoedHeaders) :
    strip blanks (headerOf message.serialize name) =
        message.getHeader name ↔
      FirstCarries message.toSIPMessage name := by
  have names : ∀ name ∈ echoedHeaders,
      name ≠ "Content-Length".toList ∧ ':' ∉ name := by
    decide
  obtain ⟨other, noColon⟩ := names name echoed
  obtain ⟨rest, first, inside⟩ := exists_first_of_header
    (message.present name echoed) other noColon
  obtain ⟨line, reads⟩ := exists_lineBehind
    ⟨' ', inside ' ' List.mem_cons_self, by decide⟩
  rw [headerOf_of_first first reads]
  constructor
  · intro same
    exact ⟨rest, line, first, reads, same⟩
  · rintro ⟨other, otherLine, otherFirst, otherReads, same⟩
    rw [first, Option.some.injEq] at otherFirst
    subst otherFirst
    rw [reads, Option.some.injEq] at otherReads
    rwa [otherReads]

/-- An INVITE to Bob with these headers between Via and From. -/
def inviteHeaders (others : List SIPHeader) : List SIPHeader :=
  ⟨"Via", "SIP/2.0/UDP 10.0.0.1:5060"⟩ :: (others ++
    [⟨"From", "<sip:alice@home>"⟩, ⟨"To", "<sip:bob@home>"⟩,
      ⟨"Call-ID", "7@10.0.0.1"⟩, ⟨"CSeq", "1 INVITE"⟩])

def politeInvite : Answerable where
  startLine := "INVITE sip:bob@home SIP/2.0".toList
  headers := inviteHeaders [⟨"Subject", "from work"⟩]
  startLine_nonempty := by decide
  startLine_oneLine := by decide
  headers_wellFormed := by decide +kernel
  present := by decide +kernel

def redirectedInvite : Answerable where
  startLine := "INVITE sip:bob@home SIP/2.0".toList
  headers := inviteHeaders [⟨"Reply-To", "<sip:eve@home>"⟩]
  startLine_nonempty := by decide
  startLine_oneLine := by decide
  headers_wellFormed := by decide +kernel
  present := by decide +kernel

end MinimalSip.Client

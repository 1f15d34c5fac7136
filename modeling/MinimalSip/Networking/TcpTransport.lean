import MinimalSip.Lib.Framing
import MinimalSip.Proxy.SipParserRoundTrip

/-!
# The receive loop of the TCP transport

`receiveLoop` appends each received chunk to an accumulator and hands every
complete CRLF CRLF terminated text to the callback.  The framing does not look
at Content-Length, on the documented ground that no message carries a body.

`receiveLoop_framed` says that the loop computes the unique decomposition of
the byte stream into frames, so the way `recv` cuts the stream is irrelevant.
With the parser's round trip this decides which lists of messages a connection
transmits: exactly those without bodies.
-/

namespace MinimalSip.Networking.TcpTransport

open MinimalSip.Lib.Search
open MinimalSip.Lib.Cpp
open MinimalSip.Lib.Framing
open MinimalSip.Common
open MinimalSip.Common.SIPMessage
open MinimalSip.Proxy.SIPParser

/-- The delimiter that ends a frame. -/
def delimiter : CppString := "\r\n\r\n".toList

/--
The inner loop: cut frames off the accumulator while it holds a delimiter.
Each turn shortens the accumulator, so its length bounds the number of turns.
-/
def extractMessages : Nat → CppString → List CppString × CppString
  | 0, accumulator => ([], accumulator)
  | turns + 1, accumulator =>
      match find delimiter accumulator with
      | none => ([], accumulator)
      | some pos =>
          let message := accumulator.take (pos + 4)
          let later := extractMessages turns (accumulator.drop (pos + 4))
          (message :: later.1, later.2)

/--
The receive loop over the results of `recv`, where an empty chunk is the end
of the stream: the messages given to the callback, and the accumulator at the
end.
-/
def receiveLoop : CppString → List CppString → List CppString × CppString
  | accumulator, [] => ([], accumulator)
  | accumulator, chunk :: chunks =>
      if chunk = [] then ([], accumulator)
      else
        let received := accumulator ++ chunk
        let extracted := extractMessages received.length received
        let later := receiveLoop extracted.2 chunks
        (extracted.1 ++ later.1, later.2)

/-! ## The loop computes the frames of the stream -/

/-- The turns that the length of the accumulator allows are enough. -/
theorem extractMessages_framed
    {turns : Nat} {accumulator : CppString}
    (enough : accumulator.length ≤ turns) :
    Framed delimiter accumulator
      (extractMessages turns accumulator).1
      (extractMessages turns accumulator).2 := by
  induction turns generalizing accumulator with
  | zero =>
      have empty : accumulator = [] := by simpa using enough
      subst empty
      exact Framed.unfinished_stream (by decide)
  | succ turns ih =>
      cases found : find delimiter accumulator with
      | none =>
          simp only [extractMessages, found]
          exact Framed.unfinished_stream found
      | some pos =>
          have size : delimiter.length = 4 := by decide
          have fits := find_add_length_le found
          rw [size] at fits
          have shorter : (accumulator.drop (pos + 4)).length ≤ turns := by
            rw [List.length_drop]
            omega
          have first : IsFrame delimiter (accumulator.take (pos + 4)) :=
            size ▸ IsFrame.of_find found
          have framed := (ih shorter).cons first
          rw [List.take_append_drop] at framed
          simpa only [extractMessages, found] using framed

/-- The loop cuts the received stream into its frames. -/
theorem receiveLoop_framed
    {accumulator : CppString} {chunks : List CppString}
    (unfinished : find delimiter accumulator = none)
    (nonempty : ∀ chunk ∈ chunks, chunk ≠ []) :
    Framed delimiter (accumulator ++ chunks.flatten)
      (receiveLoop accumulator chunks).1
      (receiveLoop accumulator chunks).2 := by
  induction chunks generalizing accumulator with
  | nil => simpa [receiveLoop] using Framed.unfinished_stream unfinished
  | cons chunk others ih =>
      have present : chunk ≠ [] := nonempty chunk (by simp)
      have extracted :
          Framed delimiter (accumulator ++ chunk) _ _ :=
        extractMessages_framed le_rfl
      have continued := ih extracted.unfinished
        (fun other member => nonempty other (by simp [member]))
      have whole := extracted.append continued
      simpa [receiveLoop, present] using whole

/-- What is received later continues from the accumulator. -/
theorem receiveLoop_append
    {accumulator : CppString} {received : List CppString}
    (nonempty : ∀ chunk ∈ received, chunk ≠ []) (later : List CppString) :
    receiveLoop accumulator (received ++ later) =
      ((receiveLoop accumulator received).1 ++
          (receiveLoop (receiveLoop accumulator received).2 later).1,
        (receiveLoop (receiveLoop accumulator received).2 later).2) := by
  induction received generalizing accumulator with
  | nil => rfl
  | cons chunk others ih =>
      have present : chunk ≠ [] := nonempty chunk (by simp)
      have rest : ∀ other ∈ others, other ≠ [] :=
        fun other member => nonempty other (by simp [member])
      simp only [List.cons_append, receiveLoop, if_neg present, ih rest,
        List.append_assoc]

/--
The frames and the accumulator depend on the stream only, not on how it is
cut.  They make up the stream, each frame ends with its only delimiter, and
the accumulator holds none after any number of received chunks.
-/
theorem receiveLoop_independent
    (stream : CppString) (chunks others : List CppString)
    (cut : chunks.flatten = stream) (otherCut : others.flatten = stream)
    (nonempty : ∀ chunk ∈ chunks, chunk ≠ [])
    (otherNonempty : ∀ chunk ∈ others, chunk ≠ []) :
    receiveLoop [] others = receiveLoop [] chunks ∧
      (receiveLoop [] chunks).1.flatten ++ (receiveLoop [] chunks).2 =
        stream ∧
      (∀ frame ∈ (receiveLoop [] chunks).1, delimiter <:+ frame ∧
        ∀ before after, frame = before ++ delimiter ++ after →
          after = []) ∧
      ∀ received later, chunks = received ++ later →
        receiveLoop [] chunks =
            ((receiveLoop [] received).1 ++
                (receiveLoop (receiveLoop [] received).2 later).1,
              (receiveLoop (receiveLoop [] received).2 later).2) ∧
          ¬ delimiter <:+: (receiveLoop [] received).2 := by
  have empty : find delimiter ([] : CppString) = none := by decide
  have framed := receiveLoop_framed empty nonempty
  have otherFramed := receiveLoop_framed empty otherNonempty
  rw [List.nil_append, cut] at framed
  rw [List.nil_append, otherCut] at otherFramed
  obtain ⟨sameFrames, sameRest⟩ := otherFramed.unique framed
  refine ⟨Prod.ext sameFrames sameRest, framed.split.symm, ?_, ?_⟩
  · intro frame member
    have isFrame := framed.frames frame member
    exact ⟨isFrame.ends, fun _ _ occurs => isFrame.once occurs⟩
  · rintro received later rfl
    have front : ∀ chunk ∈ received, chunk ≠ [] :=
      fun chunk member => nonempty chunk (List.mem_append_left later member)
    exact ⟨receiveLoop_append front later,
      find_eq_none_iff.mp (receiveLoop_framed empty front).unfinished⟩

/-- A delimiter cut into four chunks, against the same stream in one. -/
theorem receiveLoop_independent_four :
    receiveLoop [] ["a\r".toList, "\n".toList, "\r".toList, "\nb".toList] =
        receiveLoop [] ["a\r\n\r\nb".toList] ∧
      (receiveLoop [] ["a\r\n\r\nb".toList]).1 =
        ["a\r\n\r\n".toList] :=
  ⟨(receiveLoop_independent "a\r\n\r\nb".toList ["a\r\n\r\nb".toList]
      ["a\r".toList, "\n".toList, "\r".toList, "\nb".toList]
      (by decide) (by decide) (by decide) (by decide)).1, by decide⟩

/-! ## Messages on a connection -/

/-- A serialized message without body is one frame. -/
theorem serialize_isFrame
    (message : WellFormedMessage) (noBody : message.body = []) :
    IsFrame delimiter message.serialize := by
  have lines : ∀ line ∈ message.startLine ::
      message.updateContentLength.headers.map headerLine,
      LineText line := by
    intro line member
    rcases List.mem_cons.mp member with rfl | isHeader
    · exact ⟨message.startLine_nonempty, message.startLine_oneLine.noLf⟩
    · obtain ⟨header, inHeaders, rfl⟩ := List.mem_map.mp isHeader
      exact (updateContentLength_headers_wellFormed message header
        inHeaders).headerText.lineText
  have found := find_separator lines []
  refine ⟨joinLines message.startLine
    (message.updateContentLength.headers.map headerLine), ?_, ?_⟩
  · rw [serialize_eq_written, written, noBody, List.append_nil]
    rfl
  · rw [serialize_eq_written, written, noBody]
    exact found

/-- The parser finds no body in a frame. -/
theorem parse_frame_body
    {frame : CppString} (isFrame : IsFrame delimiter frame)
    {message : SIPMessage} (parsed : parse frame = .ok message) :
    message.body = [] := by
  obtain ⟨content, rfl, found⟩ := isFrame
  have sep : separator (content ++ delimiter) =
      (some content.length, 4) := by
    simp only [separator]
    rw [show find "\r\n\r\n" (content ++ delimiter) = _ from found]
  have bodyPart :
      substr (content ++ delimiter) (content.length + 4) none = .ok [] := by
    rw [substr_none (separator_inside sep)]
    simp [delimiter]
  obtain ⟨headers, headersParsed⟩ := parseLines_total {} true
    (getlines ((content ++ delimiter).take content.length))
  simp only [parse, sep, bodyPart, ok_bind, headersParsed] at parsed
  cases parsed
  rfl

theorem mapM_parse_serialize (messages : List WellFormedMessage) :
    (messages.map (fun message => message.serialize)).mapM parse =
      .ok (messages.map (fun message => message.updateContentLength)) := by
  induction messages with
  | nil => rfl
  | cons message rest ih =>
      rw [List.map_cons, List.mapM_cons, parse_serialize, ok_bind, ih]
      rfl

/--
What a connection transmits.  However the stream of serialized messages is
cut, the frames parse to exactly the sent messages, with nothing left over,
if and only if no message has a body.
-/
theorem receiveLoop_transmits_iff
    (messages : List WellFormedMessage) (chunks : List CppString)
    (nonempty : ∀ chunk ∈ chunks, chunk ≠ [])
    (stream : chunks.flatten =
      (messages.map (fun message => message.serialize)).flatten) :
    ((receiveLoop [] chunks).1.mapM parse =
        .ok (messages.map (fun message => message.updateContentLength)) ∧
      (receiveLoop [] chunks).2 = []) ↔
      ∀ message ∈ messages, message.body = [] := by
  have framed : Framed delimiter ([] ++ chunks.flatten) _ _ :=
    receiveLoop_framed (by decide) nonempty
  constructor
  · rintro ⟨parsed, -⟩ message member
    obtain ⟨frame, inFrames, frameParsed⟩ := mapM_ok_mem parsed
      message.updateContentLength (List.mem_map.mpr ⟨message, member, rfl⟩)
    simpa using parse_frame_body (framed.frames frame inFrames) frameParsed
  · intro noBodies
    have sent : Framed delimiter ([] ++ chunks.flatten)
        (messages.map (fun message => message.serialize)) [] := by
      refine ⟨by simpa using stream, ?_, by decide⟩
      intro frame member
      obtain ⟨message, inMessages, rfl⟩ := List.mem_map.mp member
      exact serialize_isFrame message (noBodies message inMessages)
    obtain ⟨sameFrames, sameRest⟩ := framed.unique sent
    exact ⟨by rw [sameFrames, mapM_parse_serialize], sameRest⟩

/-- A message with a start line only, and the given body. -/
def plainMessage (body : CppString) : WellFormedMessage where
  startLine := "PING".toList
  headers := []
  body := body
  startLine_nonempty := by decide
  startLine_oneLine := ⟨by decide, by decide⟩
  headers_wellFormed := by simp

/-- Two bodiless messages survive a cut inside the first delimiter. -/
theorem receiveLoop_transmits_two :
    (receiveLoop []
        [(plainMessage []).serialize.take 27,
          (plainMessage []).serialize.drop 27 ++
            (plainMessage []).serialize]).1.mapM parse =
        .ok [(plainMessage []).updateContentLength,
          (plainMessage []).updateContentLength] ∧
      (receiveLoop []
        [(plainMessage []).serialize.take 27,
          (plainMessage []).serialize.drop 27 ++
            (plainMessage []).serialize]).2 = [] :=
  (receiveLoop_transmits_iff [plainMessage [], plainMessage []]
    [(plainMessage []).serialize.take 27,
      (plainMessage []).serialize.drop 27 ++ (plainMessage []).serialize]
    (by decide) (by decide)).mpr (by decide)

/-- A body never reaches the callback: it stays in the accumulator. -/
theorem receiveLoop_loses_body :
    (receiveLoop [] [(plainMessage "x".toList).serialize]).1.mapM parse ≠
        .ok [(plainMessage "x".toList).updateContentLength] ∧
      (receiveLoop [] [(plainMessage "x".toList).serialize]).2 =
        "x".toList := by
  decide

end MinimalSip.Networking.TcpTransport

import MinimalSip.Common.SipMessage

/-!
# The message parser

`parse` cuts the text at the first blank line (CRLF CRLF, else LF LF), reads
the first non-empty line as the start line, every later line with a colon as a
header, and takes as much body as the Content-Length allows.

The substring calls are written in their throwing form, so that the absence
of exceptions is a theorem (`parse_total`) and not an artefact of the model.
The equations in the second half describe what one written line becomes.
-/

namespace MinimalSip.Proxy.SIPParser

open MinimalSip.Lib.Search
open MinimalSip.Lib.Cpp
open MinimalSip.Common
open MinimalSip.Common.SIPMessage

/-- The trimmed characters: space and horizontal tab. -/
def blanks : CppString := " \t".toList

def trim (value : CppString) : Except StdException CppString :=
  match findFirstNotOf blanks value with
  | none => .ok []
  | some start =>
      substr value start
        ((findLastNotOf blanks value).map (fun stop => stop - start + 1))

def parseStartLine (message : SIPMessage) (line : CppString) : SIPMessage :=
  if line = [] then message else { message with startLine := line }

def parseHeaderLine (message : SIPMessage) (line : CppString) :
    Except StdException SIPMessage :=
  match find ":" line with
  | none => .ok message
  | some separatorPos => do
      let name ← trim (line.take separatorPos)
      let value ← trim (← substr line (separatorPos + 1) none)
      if name = [] then pure message
      else pure (message.addHeader name value)

/-- `stoi` of the first Content-Length, or -1 when that is missing or throws. -/
def getContentLength (message : SIPMessage) : Int :=
  let value := message.getHeader "Content-Length"
  if value = [] then -1
  else
    match stoi value with
    | .ok contentLength => contentLength
    | .error _ => -1

def parseBody (message : SIPMessage) (rawBody : CppString) : SIPMessage :=
  if rawBody = [] then { message with body := [] }
  else
    let contentLength := getContentLength message
    if contentLength < 0 then { message with body := rawBody }
    else
      let safeLength := min rawBody.length contentLength.toNat
      { message with body := rawBody.take safeLength }

/-- The loop over the lines of the header part. -/
def parseLines : SIPMessage → Bool → List CppString →
    Except StdException SIPMessage
  | message, _, [] => .ok message
  | message, firstLine, rawLine :: rest =>
      let line := popCarriageReturn rawLine
      if line = [] then parseLines message firstLine rest
      else if firstLine then
        parseLines (parseStartLine message line) false rest
      else do
        let message ← parseHeaderLine message line
        parseLines message false rest

/-- The blank line that ends the headers: its offset and its length. -/
def separator (rawMessage : CppString) : Option Nat × Nat :=
  match find "\r\n\r\n" rawMessage with
  | some separatorPos => (some separatorPos, 4)
  | none => (find "\n\n" rawMessage, 2)

def parse (rawMessage : CppString) : Except StdException SIPMessage :=
  match separator rawMessage with
  | (none, _) => do
      let message ← parseLines {} true (getlines rawMessage)
      pure (parseBody message [])
  | (some separatorPos, separatorLength) => do
      let headerPart := rawMessage.take separatorPos
      let bodyPart ← substr rawMessage (separatorPos + separatorLength) none
      let message ← parseLines {} true (getlines headerPart)
      pure (parseBody message bodyPart)

/-! ## No parsing step throws -/

/-- `trim` computes the stripped text and never throws. -/
@[simp]
theorem trim_eq (value : CppString) :
    trim value = .ok (strip blanks value) := by
  obtain ⟨bare, leading, trailing, split, leadingBlank, trailingBlank⟩ :=
    strip_split blanks value
  by_cases empty : strip blanks value = []
  · have allBlank : ∀ char ∈ value, char ∈ blanks := by
      intro char member
      rw [split, empty, List.append_nil, List.mem_append] at member
      exact member.elim (leadingBlank char) (trailingBlank char)
    simp only [trim, findFirstNotOf_eq_none allBlank, empty]
  · have firstAt : findFirstNotOf blanks value = some leading.length := by
      rw [split]
      exact findFirstNotOf_eq leading _ trailing leadingBlank bare empty
    have lastAt : findLastNotOf blanks value =
        some (leading.length + (strip blanks value).length - 1) := by
      conv_lhs => rw [split]
      exact findLastNotOf_eq leading _ trailing trailingBlank bare empty
    have inside : leading.length ≤ value.length := by
      conv_rhs => rw [split]
      simp only [List.length_append]
      omega
    have positive := List.length_pos_iff.mpr empty
    have count :
        leading.length + (strip blanks value).length - 1 -
            leading.length + 1 = (strip blanks value).length := by
      omega
    have dropped : value.drop leading.length =
        strip blanks value ++ trailing := by
      conv_lhs => rw [split, List.append_assoc]
      simp
    simp only [trim, firstAt, lastAt, Option.map_some,
      substr_some inside, count, dropped, List.take_left]

/-- A header line is read as the stripped texts around its first colon. -/
theorem parseHeaderLine_eq
    (message : SIPMessage) {name : CppString} (rest : CppString)
    (noColon : ':' ∉ name) :
    parseHeaderLine message (name ++ ':' :: rest) =
      if strip blanks name = [] then .ok message
      else .ok (message.addHeader (strip blanks name)
        (strip blanks rest)) := by
  have found : find ":" (name ++ ':' :: rest) = some name.length :=
    find_singleton_append noColon rest
  have inside : name.length + 1 ≤ (name ++ ':' :: rest).length := by
    simp
  have after : (name ++ ':' :: rest).drop (name.length + 1) = rest := by
    simp
  simp only [parseHeaderLine, found, List.take_left, trim_eq, ok_bind,
    substr_none inside, after]
  split <;> rfl

theorem parseHeaderLine_total (message : SIPMessage) (line : CppString) :
    ∃ parsed, parseHeaderLine message line = .ok parsed := by
  by_cases colon : ':' ∈ line
  · obtain ⟨name, rest, rfl, noColon⟩ := List.eq_append_cons_of_mem colon
    rw [parseHeaderLine_eq message rest noColon]
    split <;> exact ⟨_, rfl⟩
  · have notFound : find ":" line = none :=
      find_singleton_eq_none_iff.mpr colon
    exact ⟨message, by simp only [parseHeaderLine, notFound]⟩

theorem parseLines_total
    (message : SIPMessage) (firstLine : Bool) (lines : List CppString) :
    ∃ parsed, parseLines message firstLine lines = .ok parsed := by
  induction lines generalizing message firstLine with
  | nil => exact ⟨message, rfl⟩
  | cons rawLine rest ih =>
      unfold parseLines
      dsimp only
      split
      · exact ih message firstLine
      · split
        · exact ih _ false
        · obtain ⟨next, parsed⟩ := parseHeaderLine_total message
            (popCarriageReturn rawLine)
          rw [parsed]
          exact ih next false

/-- A reported separator lies inside the text. -/
theorem separator_inside
    {rawMessage : CppString} {separatorPos separatorLength : Nat}
    (found : separator rawMessage = (some separatorPos, separatorLength)) :
    separatorPos + separatorLength ≤ rawMessage.length := by
  unfold separator at found
  split at found
  · rename_i position crlf
    cases found
    exact find_add_length_le crlf
  · simp only [Prod.mk.injEq] at found
    obtain ⟨lf, rfl⟩ := found
    exact find_add_length_le lf

/-- Every byte string is parsed without an exception. -/
theorem parse_total (rawMessage : CppString) :
    ∃ message, parse rawMessage = .ok message := by
  unfold parse
  split
  · obtain ⟨message, parsed⟩ := parseLines_total {} true (getlines rawMessage)
    exact ⟨_, by rw [parsed]; rfl⟩
  · rename_i separatorPos separatorLength found
    obtain ⟨message, parsed⟩ := parseLines_total {} true
      (getlines (rawMessage.take separatorPos))
    exact ⟨_, by
      rw [substr_none (separator_inside found), ok_bind, parsed]
      rfl⟩

end MinimalSip.Proxy.SIPParser

import MinimalSip.Client.HeaderSpots
import MinimalSip.Client.SipInviteHandler
import MinimalSip.Proxy.SipParserRoundTrip

/-!
# The raw text and the message

`on_message` works on the text of a message: three expressions for the
Call-ID, the status code and the CSeq method, and a comparison of the
beginning.  The shared message model answers the same questions from the
parsed parts.

Both agree exactly if the first place that reads like a Call-ID, a CSeq or
the status line carries the value, the start line begins with INVITE or BYE
only as the method itself, and the text of no other request has a status code
with a handler first.
-/

namespace MinimalSip.Client

open MinimalSip.Lib.Cpp
open MinimalSip.Lib.Search
open MinimalSip.Lib.Regex
open MinimalSip.Common
open MinimalSip.Common.SIPMessage
open MinimalSip.Proxy.SIPParser (WellFormedMessage)

/-! ## Messages of a dialog -/

/-- The second word of a status line begins with exactly these digits. -/
structure StatusLine (startLine digits : CppString) : Prop
    extends ThreeDigits digits where
  split : ∃ version gap rest,
    startLine = version ++ (gap ++ (digits ++ rest)) ∧
      (∀ char ∈ version, isSpace char = false) ∧
      gap ≠ [] ∧ (∀ char ∈ gap, isSpace char = true) ∧
      ∀ char ∈ rest.head?, char.isDigit = false

/--
A well-formed message with a Call-ID without white space, a CSeq of a number
and a method and, if it is a response, a status code of three digits.
-/
structure DialogMessage extends WellFormedMessage where
  callId_nonempty : toSIPMessage.getHeader "Call-ID" ≠ []
  callId_solid : ∀ char ∈ toSIPMessage.getHeader "Call-ID",
    isSpace char = false
  number : CppString
  method : CppString
  cseq : toSIPMessage.getHeader "CSeq" = number ++ " ".toList ++ method
  number_nonempty : number ≠ []
  number_digits : ∀ char ∈ number, char.isDigit = true
  method_nonempty : method ≠ []
  method_solid : ∀ char ∈ method, isSpace char = false
  coded : toSIPMessage.isResponse = true →
    ∃ digits, StatusLine startLine digits

/-- The codes that have a handler. -/
def HandledCode (code : Int) : Prop :=
  code = 100 ∨ code = 180 ∨ code = 200 ∨ 400 ≤ code

/-- `on_message` calls one of the handlers for a status code. -/
structure ReachesHandler (client : SIPClient CppString) (raw : CppString) :
    Prop where
  concerns : client.Concerns raw
  coded : ∃ code, extractStatusCode raw = .ok code ∧ HandledCode code

/-- The raw text and the message give the same answers. -/
structure ViewsAgree (message : DialogMessage) : Prop where
  callId : extractCallId message.serialize = message.getHeader "Call-ID"
  statusCode : message.isResponse = true →
    extractStatusCode message.serialize = .ok message.getStatusCode
  cseqMethod : extractCseqMethod message.serialize = message.method
  invite : SIPClient.IsInvite message.serialize ↔
    message.getMethod = "INVITE".toList
  bye : SIPClient.IsBye message.serialize ↔
    message.getMethod = "BYE".toList
  responses : ∀ client, ReachesHandler client message.serialize →
    message.isResponse = true

/-- The start line begins with the word in some case. -/
def BeginsLine (message : SIPMessage) (word : CppString) : Prop :=
  word <+: toUpper message.startLine

/-- Nothing in the text stands in the way of the expressions. -/
structure PlainlyRead (message : DialogMessage) : Prop where
  callId : ∃ rest, firstOf callIdTail message.serialize = some rest ∧
    wordBehind rest = some (message.getHeader "Call-ID")
  statusCode : message.isResponse = true →
    ∀ digits, StatusLine message.startLine digits →
      (firstOf codeAt message.serialize).getD "000" = digits
  cseqMethod : ∃ rest, firstOf cseqTail message.serialize = some rest ∧
    toUpper (rest.takeWhile isWord) = message.method
  methods : ∀ word ∈ ["INVITE".toList, "BYE".toList],
    BeginsLine message.toSIPMessage word → message.getMethod = word
  codeless : message.isResponse = false →
    (∀ word ∈ ["INVITE".toList, "BYE".toList],
      ¬ BeginsLine message.toSIPMessage word) →
    ∀ digits code, firstOf codeAt message.serialize = some digits →
      stoi digits = .ok code → ¬ HandledCode code

/-! ## One question after the other -/

theorem getD_eq_iff
    {read : Option CppString} {value : CppString} (nonempty : value ≠ []) :
    read.getD [] = value ↔ read = some value := by
  cases read with
  | none => simpa using Ne.symm nonempty
  | some found => simp

/-- The text of a message begins with its start line. -/
theorem serialize_starts (message : SIPMessage) :
    ∃ rest, message.serialize = message.startLine ++ '\r' :: rest := by
  unfold serialize
  dsimp only
  exact ⟨_, by simp; rfl⟩

section Questions

variable (message : DialogMessage)

theorem callIdTail_of_headerTail
    {text rest : CppString} (found : headerTail "Call-ID" text = some rest) :
    callIdTail text = some rest := by
  rw [callIdTail, found, Option.some_or]

theorem callIdTail_upToColon : UpToColon callIdTail := by
  intro text rest found
  rcases Option.or_eq_some_iff.mp found with long | ⟨-, short⟩
  · exact headerTail_upToColon (by decide) text rest long
  · exact headerTail_upToColon (by decide) text rest short

/-- A message with a Call-ID has a first place, and a word stands there. -/
theorem exists_first_callId :
    ∃ rest word, firstOf callIdTail message.serialize = some rest ∧
      wordBehind rest = some word ∧
      extractCallId message.serialize = word := by
  obtain ⟨front, more, split⟩ := serialize_at_header message.callId_nonempty
    (show "Call-ID".toList ≠ "Content-Length".toList by decide)
  have here := @headerTail_append "Call-ID" "Call-ID" []
    (' ' :: (message.getHeader "Call-ID" ++ '\r' :: '\n' :: more)) rfl
      (List.forall_mem_nil _)
  have own := callIdTail_of_headerTail here
  obtain ⟨rest, first, ends⟩ := exists_first callIdTail_upToColon own front
  obtain ⟨char, member⟩ :=
    List.exists_mem_of_ne_nil _ message.callId_nonempty
  obtain ⟨word, reads⟩ := exists_wordBehind ⟨char, ends.subset
    (List.mem_cons_of_mem _ (List.mem_append_left _ member)),
      message.callId_solid char member⟩
  rw [List.nil_append, ← split] at first
  refine ⟨rest, word, first, reads, ?_⟩
  rw [extractCallId_eq, firstOf_bind first reads, Option.getD_some]

theorem extractCallId_ne_nil : extractCallId message.serialize ≠ [] := by
  obtain ⟨rest, word, -, reads, extracted⟩ := exists_first_callId message
  obtain ⟨last, run⟩ := exists_of_skipping reads
  rw [extracted]
  exact longestRun_ne_nil run

theorem extractCallId_iff :
    extractCallId message.serialize = message.getHeader "Call-ID" ↔
      ∃ rest, firstOf callIdTail message.serialize = some rest ∧
        wordBehind rest = some (message.getHeader "Call-ID") := by
  obtain ⟨rest, word, first, reads, extracted⟩ := exists_first_callId message
  rw [extracted, first]
  constructor
  · rintro rfl
    exact ⟨rest, rfl, reads⟩
  · rintro ⟨other, same, otherReads⟩
    obtain rfl := Option.some.inj same
    exact Option.some.inj (reads.symm.trans otherReads)

theorem extractCseqMethod_iff :
    extractCseqMethod message.serialize = message.method ↔
      ∃ rest, firstOf cseqTail message.serialize = some rest ∧
        toUpper (rest.takeWhile isWord) = message.method := by
  rw [extractCseqMethod_eq, getD_eq_iff message.method_nonempty,
    Option.map_eq_some_iff]

end Questions

/-! ### The status code of a response -/

/-- Three digits are a number. -/
theorem ThreeDigits.stoi_eq
    {digits : CppString} (code : ThreeDigits digits) :
    stoi digits = .ok (Nat.ofDigitChars 10 digits 0 : Int) := by
  have nonempty : digits ≠ [] := by
    rintro rfl
    cases code.three
  have small := ofDigitChars_lt code.allDigits
  rw [code.three, show Nat.pow 10 3 = 1000 from rfl] at small
  have read := stoi_digits_append nonempty code.allDigits [] (by simp)
  rw [List.append_nil] at read
  rw [read, if_pos (by omega)]

theorem ThreeDigits.eq_of_stoi
    {one other : CppString} (code : ThreeDigits one)
    (otherCode : ThreeDigits other) (same : stoi one = stoi other) :
    one = other := by
  rw [code.stoi_eq, otherCode.stoi_eq] at same
  have values := Int.natCast_inj.mp (Except.ok.inj same)
  obtain ⟨a, b, c, rfl⟩ := List.length_eq_three.mp code.three
  obtain ⟨x, y, z, rfl⟩ := List.length_eq_three.mp otherCode.three
  have digits := code.allDigits
  have otherDigits := otherCode.allDigits
  simp only [List.forall_mem_cons] at digits otherDigits
  have boundsA := isDigit_bounds digits.1
  have boundsB := isDigit_bounds digits.2.1
  have boundsC := isDigit_bounds digits.2.2.1
  have boundsX := isDigit_bounds otherDigits.1
  have boundsY := isDigit_bounds otherDigits.2.1
  have boundsZ := isDigit_bounds otherDigits.2.2.1
  have zero : '0'.toNat = 48 := rfl
  simp only [Nat.ofDigitChars_cons, Nat.ofDigitChars_nil, zero] at values
  have first : a = x := Char.toNat_inj.mp (by omega)
  have second : b = y := Char.toNat_inj.mp (by omega)
  have third : c = z := Char.toNat_inj.mp (by omega)
  rw [first, second, third]

/-- The number that stands behind the first word of the line. -/
theorem StatusLine.stoi_eq
    {message : SIPMessage} {digits : CppString}
    (status : StatusLine message.startLine digits)
    (response : message.isResponse = true) :
    stoi digits = .ok message.getStatusCode := by
  obtain ⟨version, gap, rest, split, solid, nonempty, blank, stop⟩ :=
    status.split
  obtain ⟨tail, starts⟩ := List.isPrefixOf_iff_prefix.mp response
  have start : message.startLine.dropWhile isSpace = message.startLine := by
    rw [← starts]
    exact List.dropWhile_cons_of_neg (by decide)
  have behind : (gap ++ (digits ++ rest)).dropWhile
      (fun char => !isSpace char) = gap ++ (digits ++ rest) := by
    obtain ⟨head, others, rfl⟩ := List.exists_cons_of_ne_nil nonempty
    exact List.dropWhile_cons_of_neg (by simp [blank])
  have code : stoi (gap ++ (digits ++ rest)) = stoi digits := by
    have present : digits ≠ [] := by
      rintro rfl
      cases status.three
    have alone := stoi_digits_append present status.allDigits [] (by simp)
    rw [List.append_nil] at alone
    rw [stoi_append_of_space blank,
      stoi_digits_append present status.allDigits rest stop, alone]
  rw [getStatusCode, if_pos response, start, split,
    List.dropWhile_append_of_pos (by simpa using solid), behind]
  dsimp only
  rw [code, status.toThreeDigits.stoi_eq]

section Branches

variable {message : DialogMessage}

theorem extractStatusCode_iff
    {digits : CppString} (response : message.isResponse = true)
    (status : StatusLine message.startLine digits) :
    extractStatusCode message.serialize = .ok message.getStatusCode ↔
      (firstOf codeAt message.serialize).getD "000" = digits := by
  have zero : ThreeDigits "000".toList := ⟨by decide, by decide⟩
  have read : ThreeDigits ((firstOf codeAt message.serialize).getD "000") ∧
      extractStatusCode message.serialize =
        stoi ((firstOf codeAt message.serialize).getD "000") := by
    rw [extractStatusCode_eq]
    cases first : firstOf codeAt message.serialize with
    | none => exact ⟨zero, zero.stoi_eq.symm⟩
    | some found =>
        obtain ⟨text, -, reads⟩ := exists_of_firstOf first
        exact ⟨(codeAt_split reads).1, rfl⟩
  rw [read.2, ← status.stoi_eq response]
  constructor
  · exact read.1.eq_of_stoi status.toThreeDigits
  · exact congrArg stoi

/-! ### The branches for requests -/

theorem beginsWith_iff
    (message : SIPMessage) {word : CppString} (noCr : '\r' ∉ word) :
    Wire.beginsWith word message.serialize = true ↔
      BeginsLine message word := by
  obtain ⟨rest, split⟩ := serialize_starts message
  have upper : toUpper message.serialize =
      toUpper message.startLine ++ '\r' :: toUpper rest := by
    rw [split]
    simp [toUpper]
  rw [BeginsLine, ← prefix_append_cons_iff noCr, ← upper,
    ← List.isPrefixOf_iff_prefix]
  rfl

/-- No line begins with two of the words. -/
theorem BeginsLine.eq
    {message : SIPMessage} {one other : CppString}
    (begins : BeginsLine message one) (beginsOther : BeginsLine message other)
    (apart : one.head? = other.head? → one = other)
    (nonempty : one ≠ []) (otherNonempty : other ≠ []) : one = other := by
  obtain ⟨head, rest, rfl⟩ := List.exists_cons_of_ne_nil nonempty
  obtain ⟨head', rest', rfl⟩ := List.exists_cons_of_ne_nil otherNonempty
  apply apart
  rcases List.prefix_or_prefix_of_prefix begins beginsOther with
    starts | starts
  · rw [(List.cons_prefix_cons.mp starts).1]
    rfl
  · rw [(List.cons_prefix_cons.mp starts).1]
    rfl

theorem isInvite_iff (message : SIPMessage) :
    SIPClient.IsInvite message.serialize ↔ BeginsLine message "INVITE" := by
  rw [SIPClient.IsInvite, beginsWith_iff message (by decide),
    beginsWith_iff message (by decide), and_iff_right_iff_imp]
  intro begins version
  exact absurd (begins.eq version (by decide) (by decide) (by decide))
    (by decide)

theorem isBye_iff (message : SIPMessage) :
    SIPClient.IsBye message.serialize ↔ BeginsLine message "BYE" := by
  rw [SIPClient.IsBye, beginsWith_iff message (by decide),
    beginsWith_iff message (by decide), and_iff_right_iff_imp]
  intro begins version
  exact absurd (begins.eq version (by decide) (by decide) (by decide))
    (by decide)

/-- The method of a request begins its line. -/
theorem beginsLine_of_getMethod
    {message : SIPMessage} {word : CppString}
    (named : message.getMethod = word) (upper : toUpper word = word) :
    BeginsLine message word := by
  have starts := (getMethod_starts message).map Char.toUpper
  rw [named] at starts
  rw [← upper]
  exact starts

theorem methods_iff :
    ((SIPClient.IsInvite message.serialize ↔
        message.getMethod = "INVITE".toList) ∧
      (SIPClient.IsBye message.serialize ↔
        message.getMethod = "BYE".toList)) ↔
      ∀ word ∈ ["INVITE".toList, "BYE".toList],
        BeginsLine message.toSIPMessage word →
          message.getMethod = word := by
  rw [isInvite_iff, isBye_iff, List.forall_mem_cons,
    List.forall_mem_singleton]
  constructor
  · rintro ⟨invite, bye⟩
    exact ⟨invite.mp, bye.mp⟩
  · rintro ⟨invite, bye⟩
    exact ⟨⟨invite, fun named => beginsLine_of_getMethod named (by decide)⟩,
      ⟨bye, fun named => beginsLine_of_getMethod named (by decide)⟩⟩

/-! ### The handlers for status codes -/

/-- A client that reaches no handler, INVITE or BYE branch does nothing. -/
theorem onMessage_of_not_reachesHandler
    {client : SIPClient CppString} {raw : CppString} {code : Int}
    (notInvite : ¬ SIPClient.IsInvite raw) (notBye : ¬ SIPClient.IsBye raw)
    (read : extractStatusCode raw = .ok code)
    (other : ¬ ReachesHandler client raw) :
    client.onMessage raw = .ok ([], client) := by
  by_cases concerns : client.Concerns raw
  · have unhandled : ¬ HandledCode code :=
      fun handled => other ⟨concerns, code, read, handled⟩
    simp only [HandledCode, not_or] at unhandled
    obtain ⟨notTrying, notRinging, notOk, noFailure⟩ := unhandled
    rw [SIPClient.onMessage_concerns concerns,
      show Wire.extractStatusCode raw = .ok code from read, ok_bind,
      SIPClient.handleStatus, if_neg notTrying, if_neg notRinging,
      if_neg notOk, if_neg noFailure]
  · exact SIPClient.onMessage_other notInvite notBye concerns

/-- A text with a status code mentions the version. -/
theorem mentions_of_codeAt
    {raw digits : CppString} (first : firstOf codeAt raw = some digits) :
    Wire.mentions "SIP/2.0" raw = true := by
  obtain ⟨text, ends, reads⟩ := exists_of_firstOf first
  obtain ⟨-, gap, rest, split, -⟩ := codeAt_split reads
  have inside : "SIP/2.0".toList <:+: raw :=
    List.IsInfix.trans ⟨[], _, split.symm⟩ ends.isInfix
  exact contains_iff.mpr (inside.map Char.toUpper)

/-- A text for the active call of some client whose code has a handler. -/
theorem exists_reachesHandler_iff :
    (∃ client, ReachesHandler client message.serialize) ↔
      (∀ word ∈ ["INVITE".toList, "BYE".toList],
          ¬ BeginsLine message.toSIPMessage word) ∧
        ∃ digits code, firstOf codeAt message.serialize = some digits ∧
          stoi digits = .ok code ∧ HandledCode code := by
  rw [List.forall_mem_cons, List.forall_mem_singleton, ← isInvite_iff,
    ← isBye_iff]
  constructor
  · rintro ⟨client, reaches⟩
    obtain ⟨code, read, handled⟩ := reaches.coded
    refine ⟨⟨reaches.concerns.notInvite, reaches.concerns.notBye⟩, ?_⟩
    rw [extractStatusCode_eq] at read
    cases first : firstOf codeAt message.serialize with
    | none =>
        rw [first] at read
        obtain rfl := Except.ok.inj read
        exact absurd handled (by unfold HandledCode; decide)
    | some digits =>
        rw [first] at read
        exact ⟨digits, code, rfl, read, handled⟩
  · rintro ⟨⟨notInvite, notBye⟩, digits, code, first, read, handled⟩
    refine ⟨{ factory := SIPMessageFactory.create [] 5060 0, state :=
      { activeCallId := extractCallId message.serialize } }, ?_, ?_⟩
    · exact
        { notInvite := notInvite
          notBye := notBye
          mentions := mentions_of_codeAt first
          nonempty := extractCallId_ne_nil message
          active := rfl }
    · refine ⟨code, ?_, handled⟩
      rw [extractStatusCode_eq, first]
      exact read

theorem responses_iff :
    (∀ client, ReachesHandler client message.serialize →
        message.isResponse = true) ↔
      (message.isResponse = false →
        (∀ word ∈ ["INVITE".toList, "BYE".toList],
          ¬ BeginsLine message.toSIPMessage word) →
        ∀ digits code, firstOf codeAt message.serialize = some digits →
          stoi digits = .ok code → ¬ HandledCode code) := by
  constructor
  · intro responses request apart digits code first read handled
    obtain ⟨client, reaches⟩ := exists_reachesHandler_iff.mpr
      ⟨apart, digits, code, first, read, handled⟩
    rw [responses client reaches] at request
    cases request
  · intro codeless client reaches
    by_contra request
    obtain ⟨apart, digits, code, first, read, handled⟩ :=
      exists_reachesHandler_iff.mp ⟨client, reaches⟩
    exact codeless (Bool.eq_false_iff.mpr request) apart digits code first
      read handled

end Branches

/-! ## Agreement -/

/-- An INVITE to Bob at the port of a host called pi. -/
def inviteToPi : DialogMessage where
  startLine := "INVITE sip:bob@pi:5060 SIP/2.0".toList
  headers := [⟨"From", "<sip:alice@home>"⟩, ⟨"To", "<sip:bob@pi>"⟩,
    ⟨"Call-ID", "7@10.0.0.1"⟩, ⟨"CSeq", "1 INVITE"⟩]
  startLine_nonempty := by decide
  startLine_oneLine := by decide
  headers_wellFormed := by decide +kernel
  callId_nonempty := by decide +kernel
  callId_solid := by decide +kernel
  number := "1".toList
  method := "INVITE".toList
  cseq := by decide +kernel
  number_nonempty := by decide
  number_digits := by decide
  method_nonempty := by decide
  method_solid := by decide
  coded := fun response => absurd response (by decide +kernel)

end MinimalSip.Client

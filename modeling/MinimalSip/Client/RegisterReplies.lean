import MinimalSip.Client.SipClient
import MinimalSip.Proxy.SipParserRoundTrip

/-!
# Recognising the reply to a REGISTER

The receive handler keeps a text as the reply to the client's REGISTER if the
text in upper case contains SIP/2.0, REGISTER, and 200 OK or 401, wherever
they stand.  None of these words can reach over a line end or a colon, so they
are found in the start line, in the names and values of the headers, and in
the body, each taken by itself.

A message that the handler judges wrongly is therefore either a final reply to
a REGISTER with neither 200 OK nor 401 in any part, or another message that
has all of the words.
-/

namespace MinimalSip.Client

open MinimalSip.Lib.Cpp
open MinimalSip.Lib.Search
open MinimalSip.Common
open MinimalSip.Common.SIPMessage
open MinimalSip.Proxy.SIPParser

/-! ## Words in a message -/

/-- The texts that a message is written from. -/
def parts (message : SIPMessage) : List CppString :=
  message.startLine ::
    (message.headers.flatMap (fun header => [header.name, header.value]) ++
      [message.body])

/-- A part of the message, as it is sent, has the word in some case. -/
def Mentions (message : SIPMessage) (word : CppString) : Prop :=
  ∃ part ∈ parts message.updateContentLength, word <:+: toUpper part

/-- A word that ends at line ends and colons and begins with no blank. -/
structure PlainWord (word : CppString) : Prop where
  noCr : '\r' ∉ word
  noLf : '\n' ∉ word
  noColon : ':' ∉ word
  noBlank : word.head? ≠ some ' '

theorem plainWord_of_searched :
    ∀ word ∈ ["SIP/2.0".toList, "200 OK".toList, "401".toList,
      "REGISTER".toList], PlainWord word := by
  intro word searched
  simp only [List.mem_cons, List.not_mem_nil, or_false] at searched
  rcases searched with rfl | rfl | rfl | rfl <;>
    exact ⟨by decide, by decide, by decide, by decide⟩

section Words

variable {word : CppString}

theorem PlainWord.infix_crlf_iff
    (plain : PlainWord word) (before after : CppString) :
    word <:+: toUpper (before ++ ("\r\n".toList ++ after)) ↔
      word <:+: toUpper before ∨ word <:+: toUpper after := by
  have notLf : word.head? ≠ some '\n' := fun first =>
    plain.noLf (List.mem_of_mem_head? first)
  have split : toUpper (before ++ ("\r\n".toList ++ after)) =
      toUpper before ++ '\r' :: '\n' :: toUpper after := by
    simp [toUpper]
  rw [split, infix_append_cons_iff plain.noCr, infix_cons_iff_of_ne notLf]

theorem PlainWord.infix_headerLine_iff
    (plain : PlainWord word) (header : SIPHeader) :
    word <:+: toUpper (headerLine header) ↔
      word <:+: toUpper header.name ∨ word <:+: toUpper header.value := by
  have split : toUpper (headerLine header) =
      toUpper header.name ++ ':' :: ' ' :: toUpper header.value := by
    simp [toUpper, headerLine]
  rw [split, infix_append_cons_iff plain.noColon,
    infix_cons_iff_of_ne plain.noBlank]

/-- The header lines, the blank line and the body. -/
theorem PlainWord.infix_headers_iff
    (plain : PlainWord word) (headers : List SIPHeader) (body : CppString) :
    word <:+: toUpper (headers.flatMap
        (fun header => headerLine header ++ "\r\n".toList) ++
          ("\r\n".toList ++ body)) ↔
      ∃ part ∈ headers.flatMap (fun header => [header.name, header.value]) ++
        [body], word <:+: toUpper part := by
  induction headers with
  | nil =>
      have nowhere : word <:+: toUpper [] → word <:+: toUpper body :=
        fun inside => List.infix_nil.mp inside ▸ List.nil_infix
      refine (plain.infix_crlf_iff [] body).trans ?_
      rw [or_iff_right_of_imp nowhere]
      simp
  | cons header rest ih =>
      rw [List.flatMap_cons, List.append_assoc, List.append_assoc,
        plain.infix_crlf_iff, plain.infix_headerLine_iff, ih]
      simp only [List.flatMap_cons, List.cons_append, List.nil_append,
        List.mem_cons, exists_eq_or_imp, or_assoc]

/-- The written text has the word exactly if a part of the message has. -/
theorem PlainWord.contains_serialize_iff
    (plain : PlainWord word) (message : SIPMessage) :
    contains (toUpper message.serialize) word = true ↔
      Mentions message word := by
  rw [contains_iff]
  unfold SIPMessage.serialize Mentions parts
  dsimp only
  rw [List.append_assoc, List.append_assoc, List.append_assoc,
    plain.infix_crlf_iff, plain.infix_headers_iff]
  simp only [List.mem_cons, exists_eq_or_imp]

end Words

/-! ## Final replies -/

/-- CSeq is a number, blanks and this method. -/
def HasCseqMethod (message : SIPMessage) (method : CppString) : Prop :=
  ∃ number gap,
    message.getHeader "CSeq" = number ++ gap ++ method ∧
      number ≠ [] ∧ (∀ char ∈ number, char.isDigit = true) ∧
      gap ≠ [] ∧ (∀ char ∈ gap, char ∈ blanks)

/-- A response that ends a REGISTER transaction. -/
structure FinalRegisterReply (message : SIPMessage) : Prop where
  response : message.isResponse = true
  final : 200 ≤ message.getStatusCode
  toRegister : HasCseqMethod message "REGISTER"

section Final

variable {message : SIPMessage}

theorem mentions_version (response : message.isResponse = true) :
    Mentions message "SIP/2.0" := by
  refine ⟨message.startLine, List.mem_cons_self, ?_⟩
  obtain ⟨rest, startLine⟩ := List.isPrefixOf_iff_prefix.mp response
  rw [← startLine, toUpper, List.map_append]
  exact (List.prefix_append (toUpper "SIP/2.0") _).isInfix

theorem mentions_register (named : HasCseqMethod message "REGISTER") :
    Mentions message "REGISTER" := by
  obtain ⟨number, gap, cseq, -⟩ := named
  have present : message.getHeader "CSeq" ≠ [] := by
    rw [cseq]
    simp
  have kept : ⟨"CSeq", message.getHeader "CSeq"⟩ ∈
      message.updateContentLength.headers :=
    mem_assignFirst_of_ne (mem_of_getHeader_ne_nil present)
      (show "CSeq".toList ≠ "Content-Length".toList by decide)
  refine ⟨message.getHeader "CSeq", ?_, ?_⟩
  · refine List.mem_cons_of_mem _ (List.mem_append_left _
      (List.mem_flatMap.mpr ⟨_, kept, ?_⟩))
    exact List.mem_cons_of_mem _ List.mem_cons_self
  · rw [cseq, toUpper, List.map_append]
    exact (List.suffix_append _ (toUpper "REGISTER")).isInfix

end Final

/-! ## The receive handler -/

namespace SIPClient

/-- `reset` of the receive handler. -/
def reset {ω : Type} (client : SIPClient ω) : SIPClient ω :=
  { client with registerResponse := none }

/-- What `handle_receive` searches a text for, part by part. -/
structure HasReplyWords (message : SIPMessage) : Prop where
  version : Mentions message "SIP/2.0"
  outcome : Mentions message "200 OK" ∨ Mentions message "401"
  register : Mentions message "REGISTER"

section Receiving

variable (client : SIPClient CppString) {message : SIPMessage}

theorem hasReplyWords_iff :
    HasReplyWords message ↔
      (Wire.mentions "SIP/2.0" message.serialize &&
        ((Wire.mentions "200 OK" message.serialize ||
          Wire.mentions "401" message.serialize) &&
          Wire.mentions "REGISTER" message.serialize)) = true := by
  have searched : ∀ word ∈ ["SIP/2.0".toList, "200 OK".toList, "401".toList,
      "REGISTER".toList],
      Wire.mentions word message.serialize = true ↔ Mentions message word :=
    fun word listed =>
      (plainWord_of_searched word listed).contains_serialize_iff message
  simp only [List.forall_mem_cons, List.not_mem_nil, false_imp_iff,
    implies_true, and_true] at searched
  obtain ⟨version, ok, unauthorized, register⟩ := searched
  rw [Bool.and_eq_true, Bool.and_eq_true, Bool.or_eq_true, version, ok,
    unauthorized, register]
  constructor
  · intro words
    exact ⟨words.version, words.outcome, words.register⟩
  · rintro ⟨version, outcome, register⟩
    exact ⟨version, outcome, register⟩

theorem registerResponse_of_words (words : HasReplyWords message) :
    (client.reset.handleReceive message.serialize).registerResponse =
      some message.serialize := by
  rw [handleReceive, if_pos (hasReplyWords_iff.mp words)]

theorem registerResponse_of_noWords (noWords : ¬ HasReplyWords message) :
    (client.reset.handleReceive message.serialize).registerResponse =
      none := by
  rw [handleReceive, if_neg (mt hasReplyWords_iff.mpr noWords)]
  rfl

theorem registerResponse_isSome_iff :
    (client.reset.handleReceive message.serialize).registerResponse.isSome =
      true ↔ HasReplyWords message := by
  by_cases words : HasReplyWords message
  · rw [registerResponse_of_words client words]
    exact iff_of_true rfl words
  · rw [registerResponse_of_noWords client words]
    exact iff_of_false Bool.false_ne_true words

theorem handleReceive_registration
    {ω : Type} [Wire ω] (client : SIPClient ω) (data : ω) :
    (client.handleReceive data).registration = client.registration := by
  unfold handleReceive
  dsimp only
  split_ifs <;> rfl

/-- Before the last attempt, only a response ends the retry loop. -/
theorem registerWaited_ends_iff
    {ω : Type} [Wire ω] {client : SIPClient ω} {registration : Registration ω}
    (waiting : client.registration = some registration)
    (more : registration.attempts < maxAttempts) :
    client.registerWaited.2.registration = none ↔
      client.registerResponse.isSome = true := by
  unfold registerWaited
  rw [waiting]
  dsimp only
  split_ifs with again
  · simp [Option.isNone_iff_eq_none.mp again.1]
  · refine iff_of_true rfl ?_
    rw [Option.isSome_iff_ne_none, ne_eq, ← Option.isNone_iff_eq_none]
    exact fun missing => again ⟨missing, more⟩

/-- Exactly the final replies to a REGISTER are kept and end the loop. -/
structure RecognisedExactly (client : SIPClient CppString)
    (message : SIPMessage) : Prop where
  marked_iff :
    (client.reset.handleReceive message.serialize).registerResponse.isSome =
      true ↔ FinalRegisterReply message
  stored :
    ∀ response ∈
      (client.reset.handleReceive message.serialize).registerResponse,
      response = message.serialize
  ends_iff :
    ∀ registration, client.registration = some registration →
      registration.attempts < maxAttempts →
      ((client.reset.handleReceive
        message.serialize).registerWaited.2.registration = none ↔
          FinalRegisterReply message)

/--
A final reply to a REGISTER has 200 OK or 401 in one of its parts, and no
other message has all the words of such a reply.
-/
structure Recognisable (message : SIPMessage) : Prop where
  outcome : FinalRegisterReply message →
    Mentions message "200 OK" ∨ Mentions message "401"
  others : ¬ FinalRegisterReply message → ¬ HasReplyWords message

theorem recognisable_iff :
    Recognisable message ↔
      (HasReplyWords message ↔ FinalRegisterReply message) := by
  constructor
  · intro recognisable
    constructor
    · exact fun words => by_contra fun other =>
        recognisable.others other words
    · exact fun reply => ⟨mentions_version reply.response,
        recognisable.outcome reply, mentions_register reply.toRegister⟩
  · intro same
    exact
      { outcome := fun reply => (same.mpr reply).outcome
        others := fun other words => other (same.mp words) }

/--
For every message and every client that waits for a reply to its REGISTER,
the receive handler recognises the message exactly if it is recognisable.
-/
theorem recognisedExactly_iff (message : SIPMessage) :
    RecognisedExactly client message ↔ Recognisable message := by
  rw [recognisable_iff, ← registerResponse_isSome_iff client]
  constructor
  · exact RecognisedExactly.marked_iff
  · intro same
    refine ⟨same, ?_, ?_⟩
    · intro response kept
      have words := (registerResponse_isSome_iff client).mp
        (Option.isSome_of_mem kept)
      rw [registerResponse_of_words client words] at kept
      exact (Option.mem_some.mp kept).symm
    · intro registration waiting more
      have still : (client.reset.handleReceive
          message.serialize).registration = some registration :=
        (handleReceive_registration client.reset _).trans waiting
      exact (registerWaited_ends_iff still more).trans same

end Receiving

/-! ## Two misjudged replies -/

/-- The proxy's answer to a REGISTER that lacks a header. -/
def refused : WellFormedMessage where
  startLine := "SIP/2.0 400 Bad Request".toList
  headers := [⟨"Call-ID", "7@10.0.0.1"⟩, ⟨"CSeq", "1 REGISTER"⟩]
  startLine_nonempty := by decide
  startLine_oneLine := ⟨by decide, by decide⟩
  headers_wellFormed := by decide

/-- The answer to a call of a user whose name is `register`. -/
def answered : WellFormedMessage where
  startLine := "SIP/2.0 200 OK".toList
  headers := [⟨"To", "<sip:register@home>"⟩, ⟨"CSeq", "2 INVITE"⟩]
  startLine_nonempty := by decide
  startLine_oneLine := ⟨by decide, by decide⟩
  headers_wellFormed := by decide

/-- The refusal is not recognised, and the answer to the call is. -/
theorem refused_unrecognised :
    FinalRegisterReply refused.toSIPMessage ∧
      (∀ client : SIPClient CppString,
        (client.reset.handleReceive
          refused.serialize).registerResponse = none) ∧
      ¬ FinalRegisterReply answered.toSIPMessage ∧
      ∀ client : SIPClient CppString,
        (client.reset.handleReceive answered.serialize).registerResponse =
          some answered.serialize := by
  refine ⟨⟨by decide, by decide, ?_⟩, ?_, ?_, ?_⟩
  · exact ⟨"1", " ", by decide, by decide, by decide, by decide, by decide⟩
  · intro client
    rw [handleReceive, if_neg (by decide +kernel)]
    rfl
  · rintro ⟨-, -, number, gap, cseq, -⟩
    have shown : answered.getHeader "CSeq" = "2 INVITE".toList := by
      decide
    have letter : 'R' ∈ number ++ gap ++ "REGISTER".toList :=
      List.mem_append_right _ (by decide)
    rw [← cseq, shown] at letter
    exact absurd letter (by decide)
  · intro client
    rw [handleReceive, if_pos (by decide +kernel)]

end SIPClient

end MinimalSip.Client

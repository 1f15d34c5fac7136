import MinimalSip.Client.EstablishedCall
import MinimalSip.Client.Letters
import MinimalSip.Client.LoggedRequests

/-!
# The client's sequence numbers

One counter numbers the requests of all calls.  The ACK for a failed call
repeats the number that an expression finds in the response, and the ACK for
an accepted call takes the next number of the counter.

The numbers of one Call-ID increase in every run.  An ACK has the number of
its INVITE throughout a run exactly if no call is accepted by a response that
echoes its INVITE, and the expression finds the echoed number in the others.
-/

namespace MinimalSip.Client

open MinimalSip.Lib.Cpp
open MinimalSip.Lib.Machine
open MinimalSip.Lib.Regex
open MinimalSip.Common
open MinimalSip.Common.SIPMessage
open MinimalSip.Proxy

namespace SIPClient

/-! ## Increasing numbers -/

/-- Two requests of one Call-ID that are no ACKs have increasing numbers. -/
def NumbersIncrease (earlier later : Built) : Prop :=
  earlier.message.getMethod ≠ "ACK".toList →
    later.message.getMethod ≠ "ACK".toList →
    SameCall earlier.message later.message →
      ∃ first second, NumberedAs earlier.message first ∧
        NumberedAs later.message second ∧ first < second

def Increasing (logged : Logged) : Prop :=
  logged.built.Pairwise NumbersIncrease

/-- The counter is ahead of every number that it has given. -/
structure Counted (logged : Logged) : Prop where
  plain : logged.client.Plain
  started : 1 ≤ logged.client.factory.cseq
  numbered : ∀ built ∈ logged.built,
    built.message.getMethod ≠ "ACK".toList →
      ∃ number, NumberedAs built.message number ∧ 1 ≤ number ∧
        number < logged.client.factory.cseq
  increasing : Increasing logged

section Counting

variable {logged next : Logged} {event : HeaderlessEvent}
  {effects : Effects CppString}

theorem pairwise_concat_iff
    {relation : Built → Built → Prop} {front : List Built} {last : Built} :
    (front ++ [last]).Pairwise relation ↔
      front.Pairwise relation ∧ ∀ earlier ∈ front, relation earlier last := by
  simp [List.pairwise_append]

theorem Counted.same
    (counted : Counted logged) (plain : next.client.Plain)
    (same : next.built = logged.built)
    (sameCseq : next.client.factory.cseq = logged.client.factory.cseq) :
    Counted next where
  plain := plain
  started := sameCseq ▸ counted.started
  numbered := by
    rw [same, sameCseq]
    exact counted.numbered
  increasing := by
    rw [Increasing, same]
    exact counted.increasing

/-- A request takes the number of the counter, unless it is an ACK. -/
theorem Counted.add
    (counted : Counted logged) (plain : next.client.Plain)
    {built : Built} (added : next.built = logged.built ++ [built])
    (ahead : logged.client.factory.cseq ≤ next.client.factory.cseq)
    (counts : built.message.getMethod ≠ "ACK".toList →
      NumberedAs built.message logged.client.factory.cseq ∧
        logged.client.factory.cseq < next.client.factory.cseq) :
    Counted next where
  plain := plain
  started := counted.started.trans ahead
  numbered := by
    rw [added, List.forall_mem_append, List.forall_mem_singleton]
    constructor
    · intro earlier member other
      obtain ⟨number, numbered, positive, below⟩ :=
        counted.numbered earlier member other
      exact ⟨number, numbered, positive, below.trans_le ahead⟩
    · intro other
      obtain ⟨numbered, below⟩ := counts other
      exact ⟨_, numbered, counted.started, below⟩
  increasing := by
    rw [Increasing, added, pairwise_concat_iff]
    refine ⟨counted.increasing, fun earlier member => ?_⟩
    intro other laterOther sameCall
    obtain ⟨number, numbered, -, below⟩ :=
      counted.numbered earlier member other
    exact ⟨number, _, numbered, (counts laterOther).1, below⟩

theorem Counted.step
    (counted : Counted logged)
    (stepped : loggedStep logged event = .ok (effects, next)) :
    Counted next := by
  obtain ⟨builds, plain⟩ := builds_of_step counted.plain stepped
  cases builds with
  | nothing user same sameCseq => exact counted.same plain same sameCseq
  | request user message method other request one nextCseq =>
      exact counted.add plain one (by omega)
        (fun _ => ⟨request.numbered, by omega⟩)
  | answer raw received messages answered added =>
      cases answered with
      | nothing none sameCseq notAccepted notFailed =>
          subst none
          exact counted.same plain (added.trans (List.append_nil _)) sameCseq
      | accepted message only taken request callId nextCseq =>
          subst only
          exact counted.add plain added (by omega)
            (fun other => absurd request.method other)
      | failed message only taken number read request callId sameCseq =>
          subst only
          exact counted.add plain added (by omega)
            (fun other => absurd request.method other)

end Counting

/-! ## Numbers of ACKs -/

/-- The text is a response with the Call-ID and the CSeq of the INVITE. -/
def EchoesCseq (raw : CppString) (invite : SIPMessage) : Prop :=
  ∃ response, SIPParser.parse raw = .ok response ∧
    response.isResponse = true ∧ SameCall response invite ∧
    response.getHeader "CSeq" = invite.getHeader "CSeq"

/-- An ACK has the number of the INVITE that its response echoes. -/
def NumbersAgree (earlier later : Built) : Prop :=
  earlier.message.getMethod = "INVITE".toList →
    later.message.getMethod = "ACK".toList →
    SameCall earlier.message later.message →
    (∃ raw ∈ later.answers, EchoesCseq raw earlier.message) →
      ∃ number, NumberedAs earlier.message number ∧
        NumberedAs later.message number

def Acknowledged (logged : Logged) : Prop :=
  logged.built.Pairwise NumbersAgree

/-- The numbers follow the rules for transactions. -/
def InSequence (logged : Logged) : Prop :=
  Increasing logged ∧ Acknowledged logged

/-- The text echoes this INVITE, which the client has built for its call. -/
structure EchoesInvite (logged : Logged) (raw : CppString) (invite : Built) :
    Prop where
  built : invite ∈ logged.built
  method : invite.message.getMethod = "INVITE".toList
  active : invite.message.getHeader "Call-ID" =
    logged.client.state.activeCallId
  echoes : EchoesCseq raw invite.message

/-- The first place of the text that reads like a CSeq has the number. -/
def CarriesFirst (raw : CppString) (number : Int) : Prop :=
  ∃ digits, firstOf numberAt raw = some digits ∧ stoi digits = .ok number

/--
No text that echoes an INVITE of the active call accepts that call, and in one
that fails it nothing before the echoed CSeq reads like another.
-/
def KeepsNumbers (logged : Logged) (event : HeaderlessEvent) : Prop :=
  (∃ result, loggedStep logged event = .ok result) →
    ∀ raw, event.val = .received raw →
    ∀ invite, EchoesInvite logged raw invite →
      ¬ logged.client.AcceptsCall (.text raw) ∧
        (logged.client.FailsCall (.text raw) →
          ∀ number, NumberedAs invite.message number →
            CarriesFirst raw number)

section Acknowledging

variable {logged next : Logged} {event : HeaderlessEvent}
  {effects : Effects CppString} {raw : CppString}

theorem carriesFirst_iff
    {number other : Int}
    (read : SIPMessageFactory.cseqNumber raw = .ok number)
    (positive : 1 ≤ other) :
    CarriesFirst raw other ↔ other = number := by
  unfold CarriesFirst
  rw [cseqNumber_eq] at read
  cases first : firstOf numberAt raw with
  | none =>
      rw [first] at read
      obtain rfl := Except.ok.inj read
      exact iff_of_false (by simp) (by omega)
  | some digits =>
      rw [first] at read
      have value : stoi digits = .ok number := read
      constructor
      · rintro ⟨digits', same, readOther⟩
        obtain rfl := Option.some.inj same
        exact Except.ok.inj (readOther.symm.trans value)
      · rintro rfl
        exact ⟨digits, rfl, value⟩

theorem FailsCall.notAccepts
    {ω : Type} [Wire ω] {client : SIPClient ω} {text : ω}
    (fails : client.FailsCall text) : ¬ client.AcceptsCall text := by
  intro accepts
  obtain ⟨code, read, failure⟩ := fails.failure
  have same : (200 : Int) = code :=
    Except.ok.inj (accepts.ok.symm.trans read)
  omega

theorem acknowledged_add_iff
    {built : Built} (acknowledged : Acknowledged logged)
    (added : next.built = logged.built ++ [built]) :
    Acknowledged next ↔
      ∀ earlier ∈ logged.built, NumbersAgree earlier built := by
  rw [Acknowledged, added, pairwise_concat_iff]
  exact and_iff_right acknowledged

/-- The INVITEs that an ACK for a text has to agree with. -/
theorem agrees_iff
    {message : SIPMessage} {number : Int}
    (request : Request message "ACK" number)
    (callId : message.getHeader "Call-ID" =
      logged.client.state.activeCallId) :
    (∀ earlier ∈ logged.built, NumbersAgree earlier ⟨message, some raw⟩) ↔
      ∀ invite, EchoesInvite logged raw invite →
        NumberedAs invite.message number := by
  constructor
  · intro agree invite echoed
    obtain ⟨same, numbered, ackNumbered⟩ :=
      agree invite echoed.built echoed.method request.method
        (echoed.active.trans callId.symm) ⟨raw, rfl, echoed.echoes⟩
    obtain rfl := ackNumbered.unique request.numbered
    exact numbered
  · intro agree earlier member invite _ sameCall
    rintro ⟨_, ⟨⟩, echoes⟩
    have echoed : EchoesInvite logged raw earlier :=
      ⟨member, invite, sameCall.trans callId, echoes⟩
    exact ⟨number, agree earlier echoed, request.numbered⟩

/-- The numbers of ACKs stay right exactly under the condition. -/
theorem Acknowledged.step_iff
    (counted : Counted logged)
    (stepped : loggedStep logged event = .ok (effects, next))
    (acknowledged : Acknowledged logged) :
    Acknowledged next ↔ KeepsNumbers logged event := by
  have goes : ∃ result, loggedStep logged event = .ok result := ⟨_, stepped⟩
  have byUser : answeredText event.val = none →
      KeepsNumbers logged event := by
    intro user _ raw received
    rw [received] at user
    cases user
  have byText : ∀ raw, event.val = .received raw →
      (KeepsNumbers logged event ↔
        ∀ invite, EchoesInvite logged raw invite →
          ¬ logged.client.AcceptsCall (.text raw) ∧
            (logged.client.FailsCall (.text raw) →
              ∀ number, NumberedAs invite.message number →
                CarriesFirst raw number)) := by
    intro raw received
    constructor
    · exact fun keeps => keeps goes raw received
    · intro keeps _ raw' received'
      rw [received] at received'
      cases received'
      exact keeps
  cases (builds_of_step counted.plain stepped).1 with
  | nothing user same sameCseq =>
      refine iff_of_true ?_ (byUser user)
      rw [Acknowledged, same]
      exact acknowledged
  | request user message method other request one nextCseq =>
      refine iff_of_true ?_ (byUser user)
      rw [acknowledged_add_iff acknowledged one]
      intro earlier member _ ack
      exact absurd (request.method.symm.trans ack) other
  | answer raw received messages answered added =>
      rw [byText raw received]
      cases answered with
      | nothing none sameCseq notAccepted notFailed =>
          subst none
          refine iff_of_true ?_
            (fun _ _ => ⟨notAccepted, fun fails => absurd fails notFailed⟩)
          rw [Acknowledged, added, List.map_nil, List.append_nil]
          exact acknowledged
      | accepted message only taken request callId nextCseq =>
          subst only
          rw [acknowledged_add_iff acknowledged added,
            agrees_iff request callId]
          refine forall_congr' (fun invite => ?_)
          refine forall_congr' (fun echoed => ?_)
          refine iff_of_false (fun numbered => ?_)
            (fun keeps => keeps.1 taken)
          -- The counter is ahead of the number of every INVITE.
          obtain ⟨number, own, -, below⟩ := counted.numbered invite
            echoed.built (by rw [echoed.method]; decide)
          have same := own.unique numbered
          omega
      | failed message only taken number read request callId sameCseq =>
          subst only
          rw [acknowledged_add_iff acknowledged added,
            agrees_iff request callId]
          refine forall_congr' (fun invite => ?_)
          refine forall_congr' (fun echoed => ?_)
          obtain ⟨own, numbered, positive, -⟩ := counted.numbered invite
            echoed.built (by rw [echoed.method]; decide)
          rw [and_iff_right taken.notAccepts, imp_iff_right taken]
          constructor
          · intro again other otherNumbered
            obtain rfl := otherNumbered.unique again
            obtain rfl := numbered.unique again
            exact (carriesFirst_iff read positive).mpr rfl
          · intro carries
            obtain rfl :=
              (carriesFirst_iff read positive).mp (carries own numbered)
            exact numbered

/-- In a letter nothing before the echoed CSeq reads like another. -/
theorem keepsNumbers_of_letter
    {message : SIPMessage} (letter : Letter message)
    (counted : Counted logged)
    (received : event.val = .received message.serialize)
    (notAccepted :
      ¬ logged.client.AcceptsCall (.text message.serialize)) :
    KeepsNumbers logged event := by
  rintro ⟨⟨effects, next⟩, stepped⟩ raw received' invite echoed
  obtain rfl : message.serialize = raw :=
    Event.received.inj (received.symm.trans received')
  refine ⟨notAccepted, fun fails number numbered => ?_⟩
  obtain ⟨own, ownNumbered, positive, -⟩ := counted.numbered invite
    echoed.built (by rw [echoed.method]; decide)
  obtain rfl := numbered.unique ownNumbered
  obtain ⟨count, rfl⟩ := Int.eq_ofNat_of_zero_le (by omega : 0 ≤ number)
  obtain ⟨response, parsed, -, -, sameCseq⟩ := echoed.echoes
  obtain rfl : message = response :=
    Except.ok.inj (letter.parse.symm.trans parsed)
  have cseq : message.getHeader "CSeq" =
      Nat.toDigits 10 count ++ ' ' :: "INVITE".toList := by
    rw [sameCseq, numbered, echoed.method, stdToString_natCast,
      List.append_assoc]
    rfl
  have first := letter.firstOf_numberAt cseq Nat.toDigits_ne_nil
    (fun char member => isDigit_of_mem_toDigits member) (by decide)
    (by decide)
  -- The step succeeds, so the number fits into an `int`.
  have value := stoi_toDigits_append count [] (by simp)
  rw [List.append_nil] at value
  cases (builds_of_step counted.plain stepped).1 with
  | nothing user same sameCseq =>
      rw [received] at user
      cases user
  | request user message method other request one nextCseq =>
      rw [received] at user
      cases user
  | answer raw' again messages answered added =>
      obtain rfl : message.serialize = raw' :=
        Event.received.inj (received.symm.trans again)
      cases answered with
      | nothing none sameCseq notAccepted notFailed =>
          exact absurd fails notFailed
      | accepted message only taken request callId nextCseq =>
          exact absurd taken notAccepted
      | failed ack only taken other read request callId sameCseq =>
          rw [cseqNumber_eq, first] at read
          have fits : stoi (Nat.toDigits 10 count) = .ok other := read
          rw [value] at fits
          split_ifs at fits with small
          rw [if_pos small] at value
          exact ⟨_, first, value⟩

theorem keepsNumbers_of_error
    {thrown : StdException}
    (failed : loggedStep logged event = .error thrown) :
    KeepsNumbers logged event := by
  rintro ⟨result, stepped⟩
  rw [failed] at stepped
  cases stepped

end Acknowledging

/-! ## Runs -/

/-- The client before the first event, which has built nothing. -/
def loggedInitial (factory : SIPMessageFactory) (errorCallback : Bool) :
    Logged where
  client := initial factory errorCallback

theorem counted_initial
    {factory : SIPMessageFactory} (started : 1 ≤ factory.cseq)
    (errorCallback : Bool) :
    Counted (loggedInitial factory errorCallback) where
  plain := fun _ => rfl
  started := started
  numbered := List.forall_mem_nil _
  increasing := List.Pairwise.nil

/-- Alice registers, places a call, and receives this status for it. -/
def callWithStatus (statusLine : String) : List HeaderlessEvent :=
  [⟨.doRegister "alice" "local" [], rfl⟩,
    ⟨.received "SIP/2.0 200 OK\r\nCSeq: 1 REGISTER\r\n\r\n".toList, trivial⟩,
    ⟨.registerWaited, trivial⟩,
    ⟨.doInvite 7 "alice" "local" "bob" "local", trivial⟩,
    ⟨.received (responseToInvite statusLine), trivial⟩]

/-- The method, the Call-ID and the CSeq of a request, and what it answers. -/
def summary (built : Built) :
    CppString × CppString × CppString × Option CppString :=
  (built.message.getMethod, built.message.getHeader "Call-ID",
    built.message.getHeader "CSeq", built.answers)

end SIPClient

end MinimalSip.Client

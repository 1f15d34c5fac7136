import MinimalSip.Client.SipClient

/-!
# Which packets the client survives

Nothing catches an exception that leaves `on_packet_received`, so a packet on
which it throws ends the client.  The substrings and numbers that it reads are
always in range, with two exceptions: the CSeq number of a response that is
acknowledged as a failure, and the reason phrase that the error callback gets.
-/

namespace MinimalSip.Client

open MinimalSip.Lib.Cpp
open MinimalSip.Lib.Search
open MinimalSip.Lib.Regex
open MinimalSip.Lib.Machine
open MinimalSip.Common
open SIPMessageFactory

/-! ## Numbers in the raw text -/

/-- Captured digits have the class of their group. -/
theorem digits_of_statusCode
    {raw digits : CppString}
    (found : firstGroup statusCodePattern raw = some digits) :
    digits.length = 3 ∧ ∀ char ∈ digits, char.isDigit = true := by
  obtain ⟨matched, others, sound⟩ := firstGroup_sound found
  obtain ⟨_, _, _, _, version, rest, -, groups⟩ := sound
  obtain ⟨_, _, _, _, spaces, ⟨inner, code, rfl⟩, -, rfl⟩ := rest
  rw [groups_of_literal version,
    (matches_oneOrMore_iff.mp spaces).2.2] at groups
  obtain ⟨rfl, -⟩ := List.cons_eq_cons.mp groups
  obtain ⟨_, _, _, _, ⟨⟨first, firstDigit, rfl⟩, -⟩,
    ⟨_, _, _, _, ⟨⟨second, secondDigit, rfl⟩, -⟩,
      ⟨⟨third, thirdDigit, rfl⟩, -⟩, rfl, -⟩, rfl, -⟩ := code
  simp [firstDigit, secondDigit, thirdDigit]

theorem digits_of_cseqNumber
    {raw digits : CppString}
    (found : firstGroup cseqNumberPattern raw = some digits) :
    digits ≠ [] ∧ ∀ char ∈ digits, char.isDigit = true := by
  obtain ⟨matched, others, sound⟩ := firstGroup_sound found
  obtain ⟨_, _, _, _, name, rest, -, groups⟩ := sound
  obtain ⟨_, _, _, _, ⟨-, rfl⟩, rest, -, rfl⟩ := rest
  obtain ⟨_, _, _, _, ⟨-, rfl⟩, rest, -, rfl⟩ := rest
  obtain ⟨_, _, _, _, ⟨-, rfl⟩, rest, -, rfl⟩ := rest
  obtain ⟨_, _, _, _, ⟨inner, number, rfl⟩, -, -, rfl⟩ := rest
  rw [groups_of_literal name] at groups
  obtain ⟨rfl, -⟩ := List.cons_eq_cons.mp groups
  obtain ⟨nonempty, allDigits, -⟩ := matches_oneOrMore_iff.mp number
  exact ⟨nonempty, allDigits⟩

/-- A status code has three digits and is always read. -/
theorem extractStatusCode_total (raw : CppString) :
    ∃ code, extractStatusCode raw = .ok code := by
  unfold extractStatusCode
  cases found : firstGroup statusCodePattern raw with
  | none => exact ⟨0, rfl⟩
  | some digits =>
      obtain ⟨length, allDigits⟩ := digits_of_statusCode found
      cases digits with
      | nil => cases length
      | cons head tail =>
          rw [List.length_cons] at length
          exact stoi_isOk_of_short (allDigits head List.mem_cons_self)
            (by omega)

/-- A text whose CSeq number does not fit into an `int`. -/
def Oversized (raw : CppString) : Prop :=
  ∃ digits, firstGroup cseqNumberPattern raw = some digits ∧
    2147483647 < Nat.ofDigitChars 10 digits 0

theorem cseqNumber_isOk_iff (raw : CppString) :
    (∃ number, cseqNumber raw = .ok number) ↔ ¬ Oversized raw := by
  unfold cseqNumber Oversized
  cases found : firstGroup cseqNumberPattern raw with
  | none => exact iff_of_true ⟨0, rfl⟩ (by simp)
  | some digits =>
      obtain ⟨nonempty, allDigits⟩ := digits_of_cseqNumber found
      have read := stoi_digits_append nonempty allDigits [] (by simp)
      rw [List.append_nil] at read
      simp only [read, Option.some.injEq, exists_eq_left', not_lt]
      split_ifs with fits
      · exact iff_of_true ⟨_, rfl⟩ fits
      · exact iff_of_false (by simp) fits

/-! ## The error callback -/

/-- A 4xx message whose first line ends before its reason phrase. -/
structure CutShort (data : CppString) : Prop where
  failure : "SIP/2.0 4".toList <+: data
  short : (firstLine data).length < 12

/-- The status line of a 4xx message is not cut before its code. -/
theorem starts_firstLine
    {data : CppString} (failure : "SIP/2.0 4".toList <+: data) :
    "SIP/2.0 4".toList <+: firstLine data := by
  unfold firstLine
  cases found : find "\r\n" data with
  | none => exact failure
  | some lineEnd =>
      obtain ⟨inside, ends, -⟩ := find_spec found
      obtain ⟨rest, rfl⟩ := failure
      have late : 9 ≤ lineEnd := by
        by_contra early
        obtain ⟨after, split⟩ := ends
        have carriage : ("SIP/2.0 4".toList ++ rest)[lineEnd]? =
            some '\r' := by
          rw [← List.head?_drop, ← split]
          rfl
        rw [List.getElem?_append_left (by simpa using early)] at carriage
        have member := List.mem_of_getElem? carriage
        revert member
        decide
      exact List.prefix_take_iff.mpr ⟨List.prefix_append _ _, late⟩

/-- The error callback code throws exactly on a missing reason phrase. -/
theorem callError_isOk_iff (data : CppString) :
    (∃ reported, callError data = .ok reported) ↔ ¬ CutShort data := by
  unfold callError
  split_ifs with failure
  swap
  · exact iff_of_true ⟨none, rfl⟩ (fun cut => failure cut.failure)
  obtain ⟨tail, line⟩ := starts_firstLine failure
  have codeInside : 8 ≤ (firstLine data).length := by
    simp [← line]
  obtain ⟨code, read⟩ : ∃ code,
      stoi (((firstLine data).drop 8).take 3) = .ok code := by
    have three : ((firstLine data).drop 8).take 3 = '4' :: tail.take 2 := by
      rw [← line]
      rfl
    have short : (tail.take 2).length ≤ 8 :=
      (List.length_take_le 2 tail).trans (by decide)
    rw [three]
    exact stoi_isOk_of_short (by decide) short
  simp only [substr_some codeInside, ok_bind, read]
  by_cases short : (firstLine data).length < 12
  · rw [substr, if_neg (not_le.mpr short)]
    exact iff_of_false (by simp) (not_not.mpr ⟨failure, short⟩)
  · rw [substr_none (not_lt.mp short)]
    exact iff_of_true ⟨_, rfl⟩ (fun cut => short cut.short)

namespace SIPClient

/-! ## The handlers -/

variable {client next : SIPClient CppString} {data : CppString}
variable {sent : List CppString}

/-- A failure of the active call whose CSeq number cannot be read. -/
structure Unacknowledgeable (client : SIPClient CppString) (data : CppString) :
    Prop where
  concerns : client.Concerns data
  failure : ∃ code, extractStatusCode data = .ok code ∧ 400 ≤ code
  oversized : Oversized data

theorem handle200OkInvite_total (client : SIPClient CppString) :
    ∃ result, client.handle200OkInvite = .ok result := by
  obtain ⟨parts, split⟩ := splitLocal_total client.state.registeredUser
  rw [handle200OkInvite, split]
  exact ⟨_, rfl⟩

theorem handleError_isOk_iff :
    (∃ result, client.handleError data = .ok result) ↔
      ¬ Oversized data := by
  obtain ⟨parts, split⟩ := splitLocal_total client.state.registeredUser
  rw [handleError, split, ok_bind, ← cseqNumber_isOk_iff]
  dsimp only [Wire.buildAckForError, buildAckForError]
  cases cseqNumber data with
  | error thrown => exact iff_of_false (by simp) (by simp)
  | ok number => exact iff_of_true ⟨_, rfl⟩ ⟨_, rfl⟩

theorem handleStatus_isOk_iff (code : Int) :
    (∃ result, client.handleStatus data code = .ok result) ↔
      ¬ (400 ≤ code ∧ Oversized data) := by
  unfold handleStatus
  split_ifs with trying ringing ok bye failed
  · exact iff_of_true ⟨_, rfl⟩ (by omega)
  · exact iff_of_true ⟨_, rfl⟩ (by omega)
  · exact iff_of_true ⟨_, rfl⟩ (by omega)
  · exact iff_of_true client.handle200OkInvite_total (by omega)
  · rw [handleError_isOk_iff, not_and]
    exact (imp_iff_right failed).symm
  · exact iff_of_true ⟨_, rfl⟩ (fun both => failed both.1)

theorem onMessage_isOk_iff :
    (∃ result, client.onMessage data = .ok result) ↔
      ¬ client.Unacknowledgeable data := by
  by_cases invite : IsInvite data
  · exact iff_of_true ⟨_, onMessage_invite invite⟩
      (fun failed => failed.concerns.notInvite invite)
  by_cases bye : IsBye data
  · exact iff_of_true ⟨_, onMessage_bye invite bye⟩
      (fun failed => failed.concerns.notBye bye)
  by_cases concerns : client.Concerns data
  · obtain ⟨code, read⟩ := extractStatusCode_total data
    have extracted : Wire.extractStatusCode data = .ok code := read
    rw [onMessage_concerns concerns, extracted, ok_bind,
      handleStatus_isOk_iff]
    apply not_congr
    constructor
    · rintro ⟨failed, oversized⟩
      exact ⟨concerns, ⟨code, read, failed⟩, oversized⟩
    · rintro ⟨-, ⟨code', same, failed⟩, oversized⟩
      rw [read] at same
      cases same
      exact ⟨failed, oversized⟩
  · exact iff_of_true ⟨_, onMessage_other invite bye concerns⟩
      (fun failed => concerns failed.concerns)

/-- No handler touches the error callback. -/
theorem onMessage_errorCallback
    (handled : client.onMessage data = .ok (sent, next)) :
    next.errorCallback = client.errorCallback := by
  cases messageEffect_of_onMessage handled <;> rfl

theorem handleReceive_errorCallback (client : SIPClient CppString)
    (data : CppString) :
    (client.handleReceive data).errorCallback = client.errorCallback := by
  unfold handleReceive
  dsimp only
  split_ifs <;> rfl

/--
`on_packet_received` returns exactly if the packet is no failure of the active
call with a CSeq number beyond `int` and, with the error callback installed,
no 4xx message whose first line has no room for a reason phrase.
-/
theorem onPacketReceived_isOk_iff
    (client : SIPClient CppString) (data : CppString) :
    (∃ result, client.onPacketReceived data = .ok result) ↔
      ¬ client.Unacknowledgeable data ∧
        ¬ (client.errorCallback = true ∧ CutShort data) := by
  have sameFailures : (client.handleReceive data).Unacknowledgeable data ↔
      client.Unacknowledgeable data := by
    constructor
    · intro failed
      exact { failed with
        concerns := handleReceive_concerns.mp failed.concerns }
    · intro failed
      exact { failed with
        concerns := handleReceive_concerns.mpr failed.concerns }
  have reports : ∀ next : SIPClient CppString,
      next.errorCallback = client.errorCallback →
        ((∃ error, next.reportError data = .ok error) ↔
          ¬ (client.errorCallback = true ∧ CutShort data)) := by
    intro next same
    rw [reportError, same]
    cases client.errorCallback with
    | false => exact iff_of_true ⟨none, rfl⟩ (by simp)
    | true =>
        rw [if_pos rfl, and_iff_right rfl]
        exact callError_isOk_iff data
  rw [← sameFailures, ← onMessage_isOk_iff]
  constructor
  · rintro ⟨⟨effects, next⟩, handled⟩
    obtain ⟨messaged, reported⟩ := onPacketReceived_ok_iff.mp handled
    have same := (onMessage_errorCallback messaged).trans
      (handleReceive_errorCallback client data)
    exact ⟨⟨_, messaged⟩, (reports next same).mp ⟨_, reported⟩⟩
  · rintro ⟨⟨⟨sent, next⟩, messaged⟩, readable⟩
    have same := (onMessage_errorCallback messaged).trans
      (handleReceive_errorCallback client data)
    obtain ⟨error, reported⟩ := (reports next same).mpr readable
    exact ⟨({ sent := sent, error := error }, next),
      onPacketReceived_ok_iff.mpr ⟨messaged, reported⟩⟩

/-! ## Two packets that end the client -/

def startedFactory : SIPMessageFactory :=
  .create "127.0.0.1" 5080 1

/-- A response without a reason phrase ends a client with the UI attached. -/
theorem bareFailure_throws :
    ∃ client : SIPClient CppString,
      Reachable step (initial startedFactory true) client ∧
      client.onPacketReceived "SIP/2.0 404\r\n\r\n" =
        .error .outOfRange :=
  ⟨initial startedFactory true, ⟨[], [], rfl⟩,
    eq_error_of_thrown? (by decide +kernel)⟩

/-- So does a failure of a ringing call whose CSeq number is too large. -/
example :
    succeedsWith
      (run step (initial startedFactory false)
        [.received
          "INVITE sip:bob@local SIP/2.0\r\nCall-ID: c1\r\n\r\n".toList])
      (fun result => thrown? (result.2.onPacketReceived
        "SIP/2.0 408 Late\r\nCall-ID: c1\r\nCSeq: 2147483648 A\r\n\r\n") =
          some .outOfRange) = true := by
  decide +kernel

end SIPClient

end MinimalSip.Client

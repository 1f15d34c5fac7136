import MinimalSip.Calls.Agreement
import MinimalSip.Client.PacketHandling
import MinimalSip.Proxy.Destinations

/-!
# A call runs into no exception

Two of the program's conversions can throw on what a peer sends: the proxy
reads the port out of a registered Contact, and a client reads the CSeq number
of a failure.  In a call between two registered clients whose Contact names a
port, only the second remains, and only at the caller.
-/

namespace MinimalSip.Calls

open MinimalSip.Lib.Cpp
open MinimalSip.Lib.Links
open MinimalSip.Lib.Machine
open MinimalSip.Lib.Search
open MinimalSip.Common
open MinimalSip.Client
open MinimalSip.Proxy
open MinimalSip.Proxy.SIPProxy
open MinimalSip.Proxy.SIPRouter

variable {setup : Setup} {state : Protocol} {system next : System}
variable {move : Move} {sender target : Party} {endpoint : Endpoint}
variable {router : SIPRouter} {session : Option CallState}
variable {method text : CppString} {status : Status} {call : CallMessage}
variable {client : SIPClient CppString}

/-! ## The proxy -/

/-- In this call the proxy only dials the registered contact. -/
theorem proxy_isOk
    (held : RouterIs setup session router) (plain : call.Plain)
    (own : call.callId = setup.callId)
    (called : ∀ entry, Admissible (counted router)
      (received (setup.packet endpoint call.text) call.message) entry →
        entry.contact = setup.contact) :
    ∃ result, handlePacket setup.config router
      (setup.packet endpoint call.text) = .ok result := by
  have dialable : Dialable setup.contact :=
    (contactDestination_isOk_iff _).mp ⟨_, setup.leads⟩
  have parsed : SIPParser.parse (setup.packet endpoint call.text).data =
      .ok call.message := plain.letter.parse
  have sameCall : (received (setup.packet endpoint call.text)
      call.message).callId = setup.callId := getHeader_callId.trans own
  rw [handlePacket_eq parsed]
  rcases step_cases setup.config.router (counted router)
      (received (setup.packet endpoint call.text) call.message) with
    ⟨result, next, routed, outcome⟩ | ⟨entry, thrown, accepted, failed, -⟩
  · rw [routed, ok_bind]
    refine (deliver_isOk_iff result).mpr (fun forwarded contact given => ?_)
    rcases forwarded_contact outcome forwarded given with
      ⟨entry, accepted, rfl⟩ | ⟨context, stored, rfl⟩
    · rw [called entry accepted]
      exact dialable
    · rw [sameCall] at stored
      have kept := held.stored
      cases session with
      | none =>
          change router.callContexts.lookup setup.callId = _ at stored
          rw [kept.2] at stored
          cases stored
      | some callState =>
          obtain ⟨-, routed, -, -, found, routes⟩ := kept
          obtain rfl := Option.some.inj (found.symm.trans stored)
          rw [routes.calleeContact]
          exact dialable
  · obtain ⟨address, read⟩ := calleeAddress_of_dialable dialable
    rw [called entry accepted, read] at failed
    cases failed

/-- An INVITE leads to the callee, and other requests open no call. -/
theorem proxy_isOk_request
    (held : RouterIs setup session router)
    (invites : method = "INVITE".toList → target = setup.calleeParty)
    (written : Written setup method sender target text) :
    ∃ result, handlePacket setup.config router
      (setup.packet endpoint text) = .ok result := by
  obtain ⟨call, request, rfl⟩ := written
  refine proxy_isOk held request.plain request.callId
    (fun entry accepted => ?_)
  have invite : method = "INVITE".toList :=
    request.getMethod.symm.trans accepted.method
  obtain rfl := invites invite
  have entered : (received (setup.packet endpoint call.text)
      call.message).target = setup.calleeParty.identity := request.getTarget
  have registered := accepted.registered
  rw [entered] at registered
  exact congrArg ContactEntry.contact
    (Option.some.inj (registered.symm.trans held.entered))

/-- A response opens no call. -/
theorem proxy_isOk_response
    (held : RouterIs setup session router)
    (answering : Answering setup status method text) :
    ∃ result, handlePacket setup.config router
      (setup.packet endpoint text) = .ok result := by
  obtain ⟨call, response, -, rfl⟩ := answering
  refine proxy_isOk held response.plain response.callId
    (fun entry accepted => ?_)
  have named : call.message.getMethod = "INVITE".toList := accepted.method
  have request : call.message.isRequest = true :=
    SIPMessage.isRequest_of_getMethod (by rw [named]; decide)
  have other := SIPMessage.isResponse_of_isRequest request
  rw [isResponse_of_line response.line] at other
  cases other

theorem proxy_isOk_fromCaller
    {signal : FromCaller} (held : RouterIs setup session router)
    (carried : FromCaller.Text setup signal text) :
    ∃ result, handlePacket setup.config router
      (setup.packet setup.callerEnd text) = .ok result := by
  cases signal with
  | invite => exact proxy_isOk_request held (fun _ => rfl) carried
  | ack => exact proxy_isOk_request held (fun _ => rfl) carried
  | bye => exact proxy_isOk_request held (fun _ => rfl) carried
  | okBye => exact proxy_isOk_response held carried

theorem proxy_isOk_fromCallee
    {signal : FromCallee} (held : RouterIs setup session router)
    (carried : FromCallee.Text setup signal text) :
    ∃ result, handlePacket setup.config router
      (setup.packet setup.calleeEnd text) = .ok result := by
  cases signal with
  | trying => exact proxy_isOk_response held carried
  | ringing => exact proxy_isOk_response held carried
  | ok => exact proxy_isOk_response held carried
  | decline => exact proxy_isOk_response held carried
  | bye =>
      exact proxy_isOk_request held (fun invite => absurd invite (by decide))
        carried
  | okBye => exact proxy_isOk_response held carried

/-! ## First lines -/

theorem CallMessage.Plain.firstLine (plain : call.Plain) :
    Client.firstLine call.text = call.startLine := by
  have found : ∀ rest : CppString, find "\r\n"
      (call.startLine ++ ("\r\n".toList ++ rest)) =
        some (0 + call.startLine.length) :=
    fun _ => find_append_of_not_mem plain.startLine_oneLine.noCr _
  rw [plain.text_eq]
  simp only [Client.firstLine, found, Nat.zero_add, List.take_left]

/-- No text of the call lacks its reason phrase. -/
theorem Written.not_cutShort
    (written : Written setup method sender target text) :
    ¬ CutShort text := by
  obtain ⟨call, request, rfl⟩ := written
  rintro ⟨failure, -⟩
  obtain ⟨rest, line⟩ := request.line_starts
  have version : "SIP/2.0".toList <+: call.text :=
    List.IsPrefix.trans (by decide) failure
  rw [request.plain.text_eq, line, List.append_assoc,
    ← List.isPrefixOf_iff_prefix, isPrefixOf_request (by decide)
      request.known, decide_eq_true_eq] at version
  exact version_ne_method method request.known version

theorem Returned.not_cutShort
    (returned : Returned setup status method text) : ¬ CutShort text := by
  obtain ⟨call, response, rfl⟩ := returned
  rintro ⟨failure, short⟩
  rw [response.plain.firstLine, response.line] at short
  revert short
  cases status <;> decide

/-! ## The clients -/

/-- The error callback reads what the handlers have read. -/
theorem received_isOk
    (handled : ∃ result, (client.handleReceive text).onMessage text =
      .ok result)
    (whole : ¬ CutShort text) :
    ∃ result, client.step (.received text) = .ok result := by
  obtain ⟨⟨sent, next⟩, handled⟩ := handled
  have reported : ∃ error, next.reportError text = .ok error := by
    unfold SIPClient.reportError
    split_ifs
    · exact (callError_isOk_iff text).mpr whole
    · exact ⟨none, rfl⟩
  obtain ⟨error, reported⟩ := reported
  exact ⟨({ sent := sent, error := error }, next),
    SIPClient.onPacketReceived_ok_iff.mpr ⟨handled, reported⟩⟩

theorem received_isOk_iff (whole : ¬ CutShort text) :
    (∃ result, client.step (.received text) = .ok result) ↔
      ¬ client.Unacknowledgeable text := by
  constructor
  · rintro ⟨⟨effects, next⟩, stepped⟩ failed
    have handled := onMessage_of_received stepped
    exact SIPClient.onMessage_isOk_iff.mp ⟨_, handled⟩
      { failed with
        concerns := SIPClient.handleReceive_concerns.mpr failed.concerns }
  · intro readable
    refine received_isOk (SIPClient.onMessage_isOk_iff.mpr ?_) whole
    exact fun failed => readable { failed with
      concerns := SIPClient.handleReceive_concerns.mp failed.concerns }

theorem doBye_isOk (client : SIPClient CppString) (headers : CppString) :
    ∃ result, client.step (.doBye headers) = .ok result := by
  obtain ⟨parts, split⟩ := SIPClient.splitLocal_total
    (client.setPendingHeaders "BYE" headers).state.registeredUser
  simp only [SIPClient.step, SIPClient.handleBye]
  split_ifs
  · rw [split]
    exact ⟨_, rfl⟩
  · exact ⟨_, rfl⟩

theorem ToCaller.Text.not_cutShort
    {signal : ToCaller} (carried : ToCaller.Text setup signal text) :
    ¬ CutShort text := by
  cases signal with
  | trying => exact Returned.not_cutShort carried
  | ringing => exact Returned.not_cutShort carried
  | ok => exact Returned.not_cutShort carried
  | decline => exact Returned.not_cutShort carried
  | bye => exact (Relayed.written carried).not_cutShort
  | okBye => exact Returned.not_cutShort carried
  | refusal =>
      obtain ⟨method, returned⟩ := carried
      exact returned.not_cutShort

/-- No failure of an active call is on the way to the callee. -/
theorem callee_isOk
    {phase : CalleePhase} {signal : ToCallee}
    (shown : CalleeIs setup phase client)
    (carried : ToCallee.Text setup signal text)
    (inTurn : ToCallee.InTurn phase signal) :
    ∃ result, client.step (.received text) = .ok result := by
  have kept := shown.handleReceive text
  cases signal with
  | invite =>
      have written := Relayed.written carried
      exact received_isOk ⟨_, written.onMessage_invite _⟩
        written.not_cutShort
  | ack =>
      have written := Relayed.written carried
      obtain ⟨call, request, same⟩ := Relayed.written carried
      have ignored := request.onMessage_ack (client.handleReceive text)
      rw [← same] at ignored
      exact received_isOk ⟨_, ignored⟩ written.not_cutShort
  | bye =>
      have written := Relayed.written carried
      exact received_isOk ⟨_, written.onMessage_bye _⟩ written.not_cutShort
  | refusal =>
      obtain ⟨method, returned⟩ := carried
      exact received_isOk
        ⟨_, returned.onMessage_other (mt kept.active_iff.mp inTurn)⟩
        returned.not_cutShort

/-! ## The system -/

/-- The caller can acknowledge the failure that it is told of, if any. -/
def System.Acknowledgeable (system : System) : Move → Prop
  | .deliver .toCaller index =>
      ∀ picked ∈ pick system.toCaller index,
        ¬ system.caller.Unacknowledgeable picked.1
  | _ => True

theorem callerDoes_isOk_iff {event : Event CppString} :
    (∃ next, system.callerDoes event = .ok next) ↔
      ∃ result, system.caller.step event = .ok result := by
  unfold System.callerDoes
  cases system.caller.step event with
  | error thrown => exact iff_of_false (by simp) (by simp)
  | ok result => exact iff_of_true ⟨_, rfl⟩ ⟨_, rfl⟩

theorem calleeDoes_isOk
    {event : Event CppString}
    (stepped : ∃ result, system.callee.step event = .ok result) :
    ∃ next, system.calleeDoes event = .ok next := by
  obtain ⟨result, stepped⟩ := stepped
  unfold System.calleeDoes
  rw [stepped]
  exact ⟨_, rfl⟩

theorem proxyHandles_isOk
    (handled : ∃ result, SIPProxy.handlePacket setup.config system.router
      (setup.packet endpoint text) = .ok result) :
    ∃ next, setup.proxyHandles system endpoint text = .ok next := by
  obtain ⟨result, handled⟩ := handled
  unfold Setup.proxyHandles
  rw [handled]
  exact ⟨_, rfl⟩

theorem step_isOk_iff :
    (∃ result, setup.step system move = .ok result) ↔
      ∃ next, setup.move system move = .ok next := by
  unfold Setup.step
  generalize setup.move system move = moved
  cases moved with
  | error thrown => exact iff_of_false (by simp [Except.map]) (by simp)
  | ok next => exact iff_of_true ⟨_, rfl⟩ ⟨_, rfl⟩

/-- The text that is handed over, and the signal for which it stands. -/
theorem handOver_isOk
    {signal : Type} {meaning : signal → CppString → Prop}
    {signals : List signal} {link : List CppString} {index : Nat}
    {receive : CppString → List CppString → Except StdException System}
    (carried : List.Forall₂ meaning signals link)
    (receives : ∀ taken ∈ signals, ∀ text rest, meaning taken text →
      ∃ next, receive text rest = .ok next) :
    ∃ next, system.handOver link index receive = .ok next := by
  unfold System.handOver
  rcases pick_related carried index with ⟨-, none⟩ |
    ⟨taken, others, text, rest, found, found', here, -⟩
  · rw [none]
    exact ⟨_, rfl⟩
  · rw [found']
    obtain ⟨before, after, split, -⟩ := pick_split found
    exact receives taken (by simp [split]) text rest here

/-- A text for the callee comes when its client expects it. -/
theorem Protocol.Ordinary.inTurn
    (ordinary : Protocol.Ordinary state) {signal : ToCallee}
    (inFlight : signal ∈ state.toCallee) :
    ToCallee.InTurn state.callee signal := by
  have meaning := ordinary.toCallee signal inFlight
  cases signal with
  | invite => exact meaning.1
  | ack => trivial
  | bye =>
      intro ringing
      have waits := ordinary.waiting_of_ringing ringing
      exact absurd (waits.symm.trans meaning) (by decide)
  | refusal =>
      have hungUp : state.callee = .hungUp := meaning
      rw [ToCallee.InTurn, hungUp]
      decide

theorem Represents.isOk_iff
    (represents : Represents setup state system)
    (ordinary : Protocol.Ordinary state) :
    (∃ next, setup.move system move = .ok next) ↔
      system.Acknowledgeable move := by
  cases move with
  | place =>
      refine iff_of_true ?_ trivial
      unfold Setup.move Setup.place
      dsimp only
      split_ifs
      · exact ⟨_, rfl⟩
      · exact callerDoes_isOk_iff.mpr ⟨_, rfl⟩
  | answer => exact iff_of_true (calleeDoes_isOk ⟨_, rfl⟩) trivial
  | reject => exact iff_of_true (calleeDoes_isOk ⟨_, rfl⟩) trivial
  | callerHangsUp =>
      exact iff_of_true (callerDoes_isOk_iff.mpr (doBye_isOk _ _)) trivial
  | calleeHangsUp =>
      exact iff_of_true (calleeDoes_isOk (doBye_isOk _ _)) trivial
  | deliver link index =>
      cases link with
      | fromCaller =>
          refine iff_of_true (handOver_isOk represents.fromCaller ?_) trivial
          intro signal inFlight text rest carried
          exact proxyHandles_isOk
            (proxy_isOk_fromCaller represents.router carried)
      | fromCallee =>
          refine iff_of_true (handOver_isOk represents.fromCallee ?_) trivial
          intro signal inFlight text rest carried
          exact proxyHandles_isOk
            (proxy_isOk_fromCallee represents.router carried)
      | toCallee =>
          refine iff_of_true (handOver_isOk represents.toCallee ?_) trivial
          intro signal inFlight text rest carried
          exact calleeDoes_isOk (callee_isOk represents.callee carried
            (ordinary.inTurn inFlight))
      | toCaller =>
          change (∃ next, system.handOver system.toCaller index _ =
            .ok next) ↔ ∀ picked ∈ pick system.toCaller index, _
          unfold System.handOver
          rcases pick_related represents.toCaller index with ⟨-, none⟩ |
            ⟨signal, others, text, rest, -, found, carried, -⟩
          · rw [none]
            exact iff_of_true ⟨_, rfl⟩ nofun
          · rw [found]
            simp only [Option.mem_def, Option.some.injEq, forall_eq']
            exact callerDoes_isOk_iff.trans
              (received_isOk_iff carried.not_cutShort)

/-- The system follows an ordinary state of the protocol. -/
def Follows (setup : Setup) (system : System) : Prop :=
  ∃ state, Represents setup state system ∧ Protocol.Ordinary state

theorem follows_step
    {output : Unit} (stepped : setup.step system move = .ok (output, next))
    (follows : Follows setup system) : Follows setup next := by
  obtain ⟨state, represents, ordinary⟩ := follows
  exact ⟨state.step move, represents.step ordinary (moved_of_step stepped),
    ordinary.step move⟩

end MinimalSip.Calls

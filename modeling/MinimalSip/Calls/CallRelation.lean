import MinimalSip.Calls.CallSystem

/-!
# The system read as the protocol

Signals of the abstract protocol stand for texts, the phases of the clients for
states of their managers, and the session for what the router stores under the
Call-ID.  `Represents` puts these together.
-/

namespace MinimalSip.Calls

open MinimalSip.Lib.Cpp
open MinimalSip.Lib.Search
open MinimalSip.Common
open MinimalSip.Client
open MinimalSip.Proxy

/-! ## Texts for signals -/

section Texts

variable (setup : Setup)

theorem callId_solid
    {host : CppString} (plain : PlainHost host) (drawn : UInt64) :
    ∀ char ∈ stdToString drawn.toNat ++ "@".toList ++ host,
      isSpace char = false ∧ char ≠ '/' := by
  intro char member
  simp only [List.mem_append] at member
  have digits : ∀ char : Char, char.isDigit = true →
      isSpace char = false ∧ char ≠ '/' := by
    intro char digit
    refine ⟨Lib.Regex.isSpace_of_digit digit, ?_⟩
    rintro rfl
    exact absurd digit (by decide)
  rcases member with (number | atSign) | inHost
  · rw [stdToString_natCast] at number
    exact digits char (isDigit_of_mem_toDigits number)
  · obtain rfl := List.mem_singleton.mp atSign
    decide
  · rcases plain.numeric char inHost with digit | rfl
    · exact digits char digit
    · decide

/-- The one call of the system. -/
def Setup.dialog : Dialog where
  caller := setup.callerParty
  callee := setup.calleeParty
  callId := setup.callId
  distinct := setup.distinct
  callIdPlain := plainValue_callId setup.callerRegistered.host setup.drawn
  callIdSolid := fun char member =>
    (callId_solid setup.callerRegistered.host setup.drawn char member).1
  callIdNoSlash := fun member =>
    (callId_solid setup.callerRegistered.host setup.drawn '/' member).2 rfl

/-- The Via of the proxy on the transport of the call. -/
def Setup.proxyVia : CppString :=
  SIPRouter.buildProxyVia setup.transport
    (SIPRouter.proxyPort setup.config.router setup.transport)

/-- A request as its sender wrote it. -/
def Written (method : CppString) (sender target : Party)
    (text : CppString) : Prop :=
  ∃ call, IsRequest setup.dialog method sender target call ∧
    text = call.text

/-- A request as the proxy forwarded it. -/
def Relayed (method : CppString) (sender target : Party)
    (text : CppString) : Prop :=
  ∃ call, IsRequest setup.dialog method sender target call ∧
    text = (call.forwarded setup.proxyVia).text

/-- A response to a request that the proxy had forwarded. -/
def Answering (status : Status) (method text : CppString) : Prop :=
  ∃ call, IsResponse setup.dialog status method call ∧
    call.vias = [setup.proxyVia] ∧ text = call.text

/-- A response as it comes back from the proxy. -/
def Returned (status : Status) (method text : CppString) : Prop :=
  ∃ call, IsResponse setup.dialog status method call ∧ text = call.text

/-- A refusal of the proxy, of whatever request. -/
def Refusing (text : CppString) : Prop :=
  ∃ method, Returned setup .badRequest method text

def FromCaller.Text : FromCaller → CppString → Prop
  | .invite => Written setup "INVITE" setup.callerParty setup.calleeParty
  | .ack => Written setup "ACK" setup.callerParty setup.calleeParty
  | .bye => Written setup "BYE" setup.callerParty setup.calleeParty
  | .okBye => Answering setup .ok "BYE"

def ToCallee.Text : ToCallee → CppString → Prop
  | .invite => Relayed setup "INVITE" setup.callerParty setup.calleeParty
  | .ack => Relayed setup "ACK" setup.callerParty setup.calleeParty
  | .bye => Relayed setup "BYE" setup.callerParty setup.calleeParty
  | .refusal => Refusing setup

def FromCallee.Text : FromCallee → CppString → Prop
  | .trying => Answering setup .trying "INVITE"
  | .ringing => Answering setup .ringing "INVITE"
  | .ok => Answering setup .ok "INVITE"
  | .decline => Answering setup .decline "INVITE"
  | .bye => Written setup "BYE" setup.calleeParty setup.callerParty
  | .okBye => Answering setup .ok "BYE"

def ToCaller.Text : ToCaller → CppString → Prop
  | .trying => Returned setup .trying "INVITE"
  | .ringing => Returned setup .ringing "INVITE"
  | .ok => Returned setup .ok "INVITE"
  | .decline => Returned setup .decline "INVITE"
  | .bye => Relayed setup "BYE" setup.calleeParty setup.callerParty
  | .okBye => Returned setup .ok "BYE"
  | .refusal => Refusing setup

end Texts

/-! ## States for phases -/

/-- What a client keeps through the whole call. -/
structure Belongs (party : Party) (host : CppString)
    (client : SIPClient CppString) : Prop where
  registeredUser : client.state.registeredUser = party.identity
  noHeaders : ∀ method, client.pendingHeaders method = []
  localIp : client.factory.localIp = host
  plainHost : PlainHost host
  counted : 0 ≤ client.factory.cseq

/-- The call is the client's active call. -/
structure Engaged (setup : Setup) (target : Party)
    (manager : SIPClientStateManager) : Prop where
  callId : manager.activeCallId = setup.callId
  remoteUri : manager.activeRemoteUri = "sip:".toList ++ target.identity

/-- The client is free. -/
structure Free (manager : SIPClientStateManager) : Prop where
  state : manager.state = .registered
  callId : manager.activeCallId = []

def CallerPhase.Shown (setup : Setup) (manager : SIPClientStateManager) :
    CallerPhase → Prop
  | .waiting => (manager.state = .calling ∨ manager.state = .ringing) ∧
      Engaged setup setup.calleeParty manager
  | .talking => manager.state = .inCall ∧
      Engaged setup setup.calleeParty manager
  | .idle => Free manager
  | .hungUp => Free manager
  | .ended => Free manager

def CalleePhase.Shown (setup : Setup) (client : SIPClient CppString) :
    CalleePhase → Prop
  | .ringing => client.state.state = .ringing ∧
      Engaged setup setup.callerParty client.state ∧
      ∃ invite, client.pendingInvite = some invite ∧
        Relayed setup "INVITE" setup.callerParty setup.calleeParty invite
  | .talking => client.state.state = .inCall ∧
      Engaged setup setup.callerParty client.state ∧
      client.pendingInvite = none
  | .idle => Free client.state ∧ client.pendingInvite = none
  | .hungUp => Free client.state ∧ client.pendingInvite = none
  | .ended => Free client.state ∧ client.pendingInvite = none

/-- The caller's client is in this phase. -/
structure CallerIs (setup : Setup) (phase : CallerPhase)
    (client : SIPClient CppString) : Prop where
  belongs : Belongs setup.callerParty setup.caller.factory.localIp client
  shown : phase.Shown setup client.state

structure CalleeIs (setup : Setup) (phase : CalleePhase)
    (client : SIPClient CppString) : Prop where
  belongs : Belongs setup.calleeParty setup.callee.factory.localIp client
  shown : phase.Shown setup client

section Readings

variable {setup : Setup} {client : SIPClient CppString}

theorem Free.not_active
    {manager : SIPClientStateManager} (free : Free manager) :
    manager.activeCallId ≠ setup.callId := by
  rw [free.callId]
  exact setup.dialog.callIdPlain.nonempty.symm

theorem Free.not_inCall
    {manager : SIPClientStateManager} (free : Free manager) :
    manager.state ≠ .inCall := by
  rw [free.state]
  decide

theorem CallerIs.active_iff
    {phase : CallerPhase} (shown : CallerIs setup phase client) :
    client.state.activeCallId = setup.callId ↔ phase.Active := by
  obtain ⟨-, shown⟩ := shown
  cases phase with
  | waiting => exact ⟨fun _ => Or.inl rfl, fun _ => shown.2.callId⟩
  | talking => exact ⟨fun _ => Or.inr rfl, fun _ => shown.2.callId⟩
  | idle => exact iff_of_false shown.not_active (by decide)
  | hungUp => exact iff_of_false shown.not_active (by decide)
  | ended => exact iff_of_false shown.not_active (by decide)

theorem CallerIs.inCall_iff
    {phase : CallerPhase} (shown : CallerIs setup phase client) :
    client.state.state = .inCall ↔ phase = .talking := by
  obtain ⟨-, shown⟩ := shown
  cases phase with
  | waiting =>
      refine iff_of_false (fun inCall => ?_) (by decide)
      rcases shown.1 with calling | ringing
      · exact absurd (calling.symm.trans inCall) (by decide)
      · exact absurd (ringing.symm.trans inCall) (by decide)
  | talking => exact ⟨fun _ => rfl, fun _ => shown.1⟩
  | idle => exact iff_of_false shown.not_inCall (by decide)
  | hungUp => exact iff_of_false shown.not_inCall (by decide)
  | ended => exact iff_of_false shown.not_inCall (by decide)

theorem CalleeIs.active_iff
    {phase : CalleePhase} (shown : CalleeIs setup phase client) :
    client.state.activeCallId = setup.callId ↔ phase.Active := by
  obtain ⟨-, shown⟩ := shown
  cases phase with
  | ringing => exact ⟨fun _ => Or.inl rfl, fun _ => shown.2.1.callId⟩
  | talking => exact ⟨fun _ => Or.inr rfl, fun _ => shown.2.1.callId⟩
  | idle => exact iff_of_false shown.1.not_active (by decide)
  | hungUp => exact iff_of_false shown.1.not_active (by decide)
  | ended => exact iff_of_false shown.1.not_active (by decide)

theorem CalleeIs.inCall_iff
    {phase : CalleePhase} (shown : CalleeIs setup phase client) :
    client.state.state = .inCall ↔ phase = .talking := by
  obtain ⟨-, shown⟩ := shown
  cases phase with
  | ringing =>
      refine iff_of_false (fun inCall => ?_) (by decide)
      exact absurd (shown.1.symm.trans inCall) (by decide)
  | talking => exact ⟨fun _ => rfl, fun _ => shown.1⟩
  | idle => exact iff_of_false shown.1.not_inCall (by decide)
  | hungUp => exact iff_of_false shown.1.not_inCall (by decide)
  | ended => exact iff_of_false shown.1.not_inCall (by decide)

/-- Only a callee that rings has an INVITE to answer. -/
theorem CalleeIs.pendingInvite_of_other
    {phase : CalleePhase} (shown : CalleeIs setup phase client)
    (other : phase ≠ .ringing) : client.pendingInvite = none := by
  obtain ⟨-, shown⟩ := shown
  cases phase with
  | ringing => exact absurd rfl other
  | talking => exact shown.2.2
  | idle => exact shown.2
  | hungUp => exact shown.2
  | ended => exact shown.2

end Readings

/-! ## The session -/

/-- A context by which the proxy routes this call. -/
structure Routes (setup : Setup) (context : CallContext) : Prop where
  caller : context.caller = setup.callerParty.identity
  callerIp : context.callerIp = setup.callerEnd.ip
  callerPort : context.callerPort = setup.callerEnd.port
  callerTransport : context.callerTransport = setup.transport
  calleeContact : context.calleeContact = setup.contact
  calleeTransport : context.calleeTransport = setup.transport
  stored : ∀ header ∈ context.callerStoredHeaders.entries,
    header.name ∈ SIPRouter.standardHeaders

def Stored (setup : Setup) (router : SIPRouter) :
    Option CallState → Prop
  | none => router.registry.lookup setup.callId = none ∧
      router.callContexts.lookup setup.callId = none
  | some state => ∃ session context,
      router.registry.lookup setup.callId = some session ∧
      session.state = state ∧
      router.callContexts.lookup setup.callId = some context ∧
      Routes setup context

structure RouterIs (setup : Setup) (session : Option CallState)
    (router : SIPRouter) : Prop where
  entered : router.table.lookup setup.calleeParty.identity =
    some ⟨setup.contact, setup.transport⟩
  stored : Stored setup router session

/-! ## The system -/

structure Represents (setup : Setup) (state : Protocol) (system : System) :
    Prop where
  caller : CallerIs setup state.caller system.caller
  callee : CalleeIs setup state.callee system.callee
  router : RouterIs setup state.session system.router
  placed : system.placed = true ↔ state.caller ≠ .idle
  fromCaller : List.Forall₂ (FromCaller.Text setup) state.fromCaller
    system.fromCaller
  toCallee : List.Forall₂ (ToCallee.Text setup) state.toCallee
    system.toCallee
  fromCallee : List.Forall₂ (FromCallee.Text setup) state.fromCallee
    system.fromCallee
  toCaller : List.Forall₂ (ToCaller.Text setup) state.toCaller
    system.toCaller

end MinimalSip.Calls

import MinimalSip.Calls.ClientMoves
import MinimalSip.Calls.ProtocolDeliveries
import MinimalSip.Calls.ProxyMoves

/-!
# The system follows the protocol

Every move of the real system that succeeds is a move of the abstract
protocol.  The simulation uses what ordinary protocol states rule out: an
INVITE at a party that knows the call already, a BYE at a callee that still
rings, and a refused BYE at a callee that is still in the call.
-/

namespace MinimalSip.Calls

open MinimalSip.Lib.Cpp
open MinimalSip.Lib.Links
open MinimalSip.Lib.Machine
open MinimalSip.Common
open MinimalSip.Client
open MinimalSip.Proxy

variable {setup : Setup} {state : Protocol} {system next : System}
variable {move : Move}

/-! ## Before the call -/

theorem Registered.belongs
    {party : Party} {client : SIPClient CppString}
    (registered : Registered party client) :
    Belongs party client.factory.localIp client where
  registeredUser := registered.registeredUser
  noHeaders := registered.noHeaders
  localIp := rfl
  plainHost := registered.host
  counted := registered.counted

theorem Registered.free
    {party : Party} {client : SIPClient CppString}
    (registered : Registered party client) : Free client.state :=
  ⟨registered.state, registered.noCall⟩

theorem represents_initial (setup : Setup) :
    Represents setup {} setup.initial where
  caller := ⟨setup.callerRegistered.belongs, setup.callerRegistered.free⟩
  callee := ⟨setup.calleeRegistered.belongs, setup.calleeRegistered.free,
    setup.calleeRegistered.noInvite⟩
  router := ⟨setup.entered, Finmap.lookup_eq_none.mpr setup.fresh,
    Finmap.lookup_eq_none.mpr setup.unknown⟩
  placed := iff_of_false Bool.false_ne_true (fun other => other rfl)
  fromCaller := List.Forall₂.nil
  toCallee := List.Forall₂.nil
  fromCallee := List.Forall₂.nil
  toCaller := List.Forall₂.nil

/-! ## Events of the clients -/

theorem callerDoes_ok
    {event : Event CppString}
    (did : system.callerDoes event = .ok next) :
    ∃ effects caller, system.caller.step event = .ok (effects, caller) ∧
      next = { system with
        caller := caller
        fromCaller := system.fromCaller ++ effects.sent } := by
  unfold System.callerDoes at did
  cases stepped : system.caller.step event with
  | error thrown =>
      rw [stepped] at did
      cases did
  | ok result =>
      rw [stepped] at did
      cases did
      exact ⟨result.1, result.2, rfl, rfl⟩

theorem calleeDoes_ok
    {event : Event CppString}
    (did : system.calleeDoes event = .ok next) :
    ∃ effects callee, system.callee.step event = .ok (effects, callee) ∧
      next = { system with
        callee := callee
        fromCallee := system.fromCallee ++ effects.sent } := by
  unfold System.calleeDoes at did
  cases stepped : system.callee.step event with
  | error thrown =>
      rw [stepped] at did
      cases did
  | ok result =>
      rw [stepped] at did
      cases did
      exact ⟨result.1, result.2, rfl, rfl⟩

theorem proxyHandles_ok
    {endpoint : Endpoint} {text : CppString}
    (did : setup.proxyHandles system endpoint text = .ok next) :
    ∃ sent router, SIPProxy.handlePacket setup.config system.router
        (setup.packet endpoint text) = .ok (sent, router) ∧
      next = setup.post { system with router := router } sent := by
  unfold Setup.proxyHandles at did
  cases handled : SIPProxy.handlePacket setup.config system.router
      (setup.packet endpoint text) with
  | error thrown =>
      rw [handled] at did
      cases did
  | ok result =>
      rw [handled] at did
      cases did
      exact ⟨result.1, result.2, rfl, rfl⟩

/-! ## Actions of the users -/

namespace Represents

theorem place
    (represents : Represents setup state system)
    (moved : setup.place system = .ok next) :
    Represents setup state.place next := by
  unfold Setup.place at moved
  unfold Protocol.place
  by_cases idle : state.caller = .idle
  · have notPlaced : ¬ system.placed = true :=
      fun placed => represents.placed.mp placed idle
    rw [if_neg notPlaced] at moved
    obtain ⟨effects, caller, stepped, rfl⟩ := callerDoes_ok moved
    have before := represents.caller
    rw [idle] at before
    obtain ⟨after, sent⟩ := callerIs_place before stepped
    rw [if_pos idle]
    exact
      { represents with
        caller := after
        placed := iff_of_true rfl (fun same => nomatch same)
        fromCaller := List.rel_append represents.fromCaller sent }
  · rw [if_pos (represents.placed.mpr idle)] at moved
    cases moved
    rw [if_neg idle]
    exact represents

theorem answer
    (represents : Represents setup state system)
    (moved : system.calleeDoes .doAnswer = .ok next) :
    Represents setup state.answer next := by
  obtain ⟨effects, callee, stepped, rfl⟩ := calleeDoes_ok moved
  unfold Protocol.answer
  split_ifs with ringing
  · have before := represents.callee
    rw [ringing] at before
    obtain ⟨after, sent⟩ := calleeIs_answers before stepped
    exact
      { represents with
        callee := after
        fromCallee := List.rel_append represents.fromCallee sent }
  · obtain ⟨rfl, sent⟩ := calleeIs_decides_other represents.callee ringing
      (Or.inl rfl) stepped
    rw [sent, List.append_nil]
    exact { represents with }

theorem reject
    (represents : Represents setup state system)
    (moved : system.calleeDoes .doReject = .ok next) :
    Represents setup state.reject next := by
  obtain ⟨effects, callee, stepped, rfl⟩ := calleeDoes_ok moved
  unfold Protocol.reject
  split_ifs with ringing
  · have before := represents.callee
    rw [ringing] at before
    obtain ⟨after, sent⟩ := calleeIs_rejects before stepped
    exact
      { represents with
        callee := after
        fromCallee := List.rel_append represents.fromCallee sent }
  · obtain ⟨rfl, sent⟩ := calleeIs_decides_other represents.callee ringing
      (Or.inr rfl) stepped
    rw [sent, List.append_nil]
    exact { represents with }

theorem callerHangsUp
    (represents : Represents setup state system)
    (moved : system.callerDoes (.doBye []) = .ok next) :
    Represents setup state.callerHangsUp next := by
  obtain ⟨effects, caller, stepped, rfl⟩ := callerDoes_ok moved
  unfold Protocol.callerHangsUp
  split_ifs with talking
  · have before := represents.caller
    rw [talking] at before
    obtain ⟨after, sent⟩ := callerIs_hangsUp before stepped
    have placed : system.placed = true :=
      represents.placed.mpr (by rw [talking]; decide)
    exact
      { represents with
        caller := after
        placed := iff_of_true placed (fun same => nomatch same)
        fromCaller := List.rel_append represents.fromCaller sent }
  · obtain ⟨after, sent⟩ :=
      callerIs_hangsUp_other represents.caller talking stepped
    rw [sent, List.append_nil]
    exact { represents with caller := after }

theorem calleeHangsUp
    (represents : Represents setup state system)
    (moved : system.calleeDoes (.doBye []) = .ok next) :
    Represents setup state.calleeHangsUp next := by
  obtain ⟨effects, callee, stepped, rfl⟩ := calleeDoes_ok moved
  unfold Protocol.calleeHangsUp
  split_ifs with talking
  · have before := represents.callee
    rw [talking] at before
    obtain ⟨after, sent⟩ := calleeIs_hangsUp before stepped
    exact
      { represents with
        callee := after
        fromCallee := List.rel_append represents.fromCallee sent }
  · obtain ⟨after, sent⟩ :=
      calleeIs_hangsUp_other represents.callee talking stepped
    rw [sent, List.append_nil]
    exact { represents with callee := after }

/-! ## Deliveries -/

/-- The links of system and protocol have their messages at equal places. -/
theorem handOver
    {signal : Type} {text : signal → CppString → Prop}
    {signals : List signal} {link : List CppString}
    (represents : Represents setup state system)
    (carried : List.Forall₂ text signals link) {index : Nat}
    {receive : signal → List signal → Protocol}
    {receive' : CppString → List CppString → Except StdException System}
    (keeps : ∀ taken rest taken' rest',
      pick signals index = some (taken, rest) → text taken taken' →
      List.Forall₂ text rest rest' → receive' taken' rest' = .ok next →
        Represents setup (receive taken rest) next)
    (moved : system.handOver link index receive' = .ok next) :
    Represents setup (state.handOver signals index receive) next := by
  unfold System.handOver at moved
  unfold Protocol.handOver
  rcases pick_related carried index with ⟨none, none'⟩ |
    ⟨taken, rest, taken', rest', found, found', here, others⟩
  · rw [none'] at moved
    rw [none]
    cases moved
    exact represents
  · rw [found'] at moved
    rw [found]
    exact keeps taken rest taken' rest' found here others moved

/-- A packet of the proxy that passes on what the relay does. -/
theorem posted
    {relay : Relay} {sent : Option Sent} {router : SIPRouter}
    {middle : Protocol}
    (represents : Represents setup middle system)
    (held : RouterIs setup relay.session router)
    (passes : Passes setup relay sent) :
    Represents setup
      { middle with
        session := relay.session
        toCallee := middle.toCallee ++ relay.toCallee
        toCaller := middle.toCaller ++ relay.toCaller }
      (setup.post { system with router := router } sent) := by
  obtain ⟨toCallee, toCaller, callees, callers, posts⟩ := passes
  rw [posts]
  exact
    { represents with
      router := held
      toCallee := List.rel_append represents.toCallee callees
      toCaller := List.rel_append represents.toCaller callers }

theorem toProxyFromCaller
    {signal : FromCaller} {rest : List FromCaller} {text : CppString}
    {rest' : List CppString}
    (represents : Represents setup state system)
    (inTurn : signal = .invite → state.session = none)
    (carried : FromCaller.Text setup signal text)
    (others : List.Forall₂ (FromCaller.Text setup) rest rest')
    (moved : setup.proxyHandles { system with fromCaller := rest' }
      setup.callerEnd text = .ok next) :
    Represents setup (state.toProxyFromCaller signal rest) next := by
  obtain ⟨sent, router, handled, rfl⟩ := proxyHandles_ok moved
  obtain ⟨held, passes⟩ :=
    proxy_fromCaller represents.router carried inTurn handled
  have middle : Represents setup { state with fromCaller := rest }
      { system with fromCaller := rest' } :=
    { represents with fromCaller := others }
  exact middle.posted held passes

theorem toProxyFromCallee
    {signal : FromCallee} {rest : List FromCallee} {text : CppString}
    {rest' : List CppString}
    (represents : Represents setup state system)
    (carried : FromCallee.Text setup signal text)
    (others : List.Forall₂ (FromCallee.Text setup) rest rest')
    (moved : setup.proxyHandles { system with fromCallee := rest' }
      setup.calleeEnd text = .ok next) :
    Represents setup (state.toProxyFromCallee signal rest) next := by
  obtain ⟨sent, router, handled, rfl⟩ := proxyHandles_ok moved
  obtain ⟨held, passes⟩ :=
    proxy_fromCallee represents.router carried handled
  have middle : Represents setup { state with fromCallee := rest }
      { system with fromCallee := rest' } :=
    { represents with fromCallee := others }
  exact middle.posted held passes

/-- A text for the caller is on the way only if it has called. -/
theorem callerReceives
    {signal : ToCaller} {rest : List ToCaller} {text : CppString}
    {rest' : List CppString}
    (represents : Represents setup state system)
    (carried : ToCaller.Text setup signal text)
    (others : List.Forall₂ (ToCaller.Text setup) rest rest')
    (moved : { system with toCaller := rest' }.callerDoes (.received text) =
      .ok next) :
    Represents setup (state.callerReceives signal rest) next := by
  obtain ⟨effects, caller, stepped, rfl⟩ := callerDoes_ok moved
  obtain ⟨after, sent⟩ := callerIs_receives represents.caller carried stepped
  have kept : (state.caller.receive signal).1 = .idle ↔
      state.caller = .idle := by
    cases state.caller <;> cases signal <;> decide
  exact
    { represents with
      caller := after
      placed := represents.placed.trans (not_congr kept.symm)
      fromCaller := List.rel_append represents.fromCaller sent
      toCaller := others }

theorem calleeReceives
    {signal : ToCallee} {rest : List ToCallee} {text : CppString}
    {rest' : List CppString}
    (represents : Represents setup state system)
    (ordinary : Protocol.Ordinary state) (inFlight : signal ∈ state.toCallee)
    (carried : ToCallee.Text setup signal text)
    (others : List.Forall₂ (ToCallee.Text setup) rest rest')
    (moved : { system with toCallee := rest' }.calleeDoes (.received text) =
      .ok next) :
    Represents setup (state.calleeReceives signal rest) next := by
  obtain ⟨effects, callee, stepped, rfl⟩ := calleeDoes_ok moved
  have meaning := ordinary.toCallee signal inFlight
  have inTurn : ToCallee.InTurn state.callee signal := by
    cases signal with
    | invite => exact meaning.1
    | ack => trivial
    | bye =>
        intro ringing
        have hungUp : state.caller = .hungUp := meaning
        have waits := ordinary.waiting_of_ringing ringing
        exact absurd (waits.symm.trans hungUp) (by decide)
    | refusal =>
        have hungUp : state.callee = .hungUp := meaning
        have left : ¬ CalleePhase.hungUp.Active := by decide
        exact fun active => left (hungUp ▸ active)
  obtain ⟨after, sent⟩ :=
    calleeIs_receives represents.callee carried inTurn stepped
  exact
    { represents with
      callee := after
      fromCallee := List.rel_append represents.fromCallee sent
      toCallee := others }

end Represents

/-! ## Every move -/

/-- A successful move of the system is the move of the protocol. -/
theorem Represents.step
    (represents : Represents setup state system)
    (ordinary : Protocol.Ordinary state)
    (moved : setup.move system move = .ok next) :
    Represents setup (state.step move) next := by
  cases move with
  | place => exact represents.place moved
  | answer => exact represents.answer moved
  | reject => exact represents.reject moved
  | callerHangsUp => exact represents.callerHangsUp moved
  | calleeHangsUp => exact represents.calleeHangsUp moved
  | deliver link index =>
      cases link with
      | fromCaller =>
          refine represents.handOver represents.fromCaller ?_ moved
          intro signal rest text rest' found carried others handled
          obtain ⟨before, after, split, -⟩ := pick_split found
          have meaning := ordinary.fromCaller signal (by simp [split])
          refine represents.toProxyFromCaller ?_ carried others handled
          rintro rfl
          exact meaning.2
      | toCallee =>
          refine represents.handOver represents.toCallee ?_ moved
          intro signal rest text rest' found carried others handled
          obtain ⟨before, after, split, -⟩ := pick_split found
          exact represents.calleeReceives ordinary (by simp [split]) carried
            others handled
      | fromCallee =>
          refine represents.handOver represents.fromCallee ?_ moved
          intro signal rest text rest' found carried others handled
          exact represents.toProxyFromCallee carried others handled
      | toCaller =>
          refine represents.handOver represents.toCaller ?_ moved
          intro signal rest text rest' found carried others handled
          exact represents.callerReceives carried others handled

end MinimalSip.Calls

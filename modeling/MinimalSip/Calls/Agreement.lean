import MinimalSip.Calls.CallSimulation
import MinimalSip.Calls.ProtocolAgreement

/-!
# The two clients agree at quiescence

When no text is in flight, the caller is in the call exactly if the callee is,
provided that no provisional response was delivered to a caller that was in
the call already.  `handle_100` and `handle_180` set the state without looking
at it, so a 180 that arrives behind the 200 takes the caller out of the call
again; the callee stays in it.
-/

namespace MinimalSip.Calls

open MinimalSip.Lib.Cpp
open MinimalSip.Lib.Links
open MinimalSip.Lib.Machine
open MinimalSip.Common
open MinimalSip.Client
open MinimalSip.Proxy

/-- The client is in the call with this Call-ID. -/
def InCallWith (client : SIPClient CppString) (callId : CppString) : Prop :=
  client.state.state = .inCall ∧ client.state.activeCallId = callId

instance (client : SIPClient CppString) (callId : CppString) :
    Decidable (InCallWith client callId) :=
  inferInstanceAs (Decidable (_ ∧ _))

/-- The text states one of the codes 100 and 180. -/
def Provisional (text : CppString) : Prop :=
  extractStatusCode text = .ok 100 ∨ extractStatusCode text = .ok 180

instance (text : CppString) : Decidable (Provisional text) :=
  inferInstanceAs (Decidable (_ ∨ _))

/-- No provisional response is delivered to a caller in the call. -/
def System.OnTime (system : System) : Move → Prop
  | .deliver .toCaller index =>
      ∀ picked ∈ pick system.toCaller index, Provisional picked.1 →
        system.caller.state.state ≠ .inCall
  | _ => True

instance (system : System) (move : Move) : Decidable (system.OnTime move) :=
  match move with
  | .deliver .toCaller index =>
      inferInstanceAs (Decidable (∀ picked ∈ pick system.toCaller index, _))
  | .deliver .fromCaller _ => .isTrue trivial
  | .deliver .toCallee _ => .isTrue trivial
  | .deliver .fromCallee _ => .isTrue trivial
  | .place => .isTrue trivial
  | .answer => .isTrue trivial
  | .reject => .isTrue trivial
  | .callerHangsUp => .isTrue trivial
  | .calleeHangsUp => .isTrue trivial

variable {setup : Setup} {state : Protocol} {system next : System}
variable {move : Move}

/-! ## The protocol's conditions -/

theorem moved_of_step
    {output : Unit} (stepped : setup.step system move = .ok (output, next)) :
    setup.move system move = .ok next := by
  unfold Setup.step at stepped
  cases moved : setup.move system move with
  | error thrown =>
      rw [moved] at stepped
      cases stepped
  | ok result =>
      rw [moved] at stepped
      cases stepped
      rfl

theorem provisional_of_signal
    {signal : ToCaller} {text : CppString}
    (carried : ToCaller.Text setup signal text)
    (provisional : signal.Provisional) : Provisional text := by
  rcases provisional with rfl | rfl
  · obtain ⟨call, response, rfl⟩ := carried
    exact Or.inl response.extractStatusCode
  · obtain ⟨call, response, rfl⟩ := carried
    exact Or.inr response.extractStatusCode

theorem Represents.onTime
    (represents : Represents setup state system)
    (onTime : system.OnTime move) : state.OnTime move := by
  cases move with
  | deliver link index =>
      cases link with
      | toCaller =>
          intro signal rest found provisional talking
          rcases pick_related represents.toCaller index with ⟨none, -⟩ |
            ⟨signal', rest', text, others, found', picked, carried, -⟩
          · rw [none] at found
            cases found
          rw [found', Option.some.injEq, Prod.mk.injEq] at found
          obtain ⟨rfl, -⟩ := found
          exact onTime _ picked (provisional_of_signal carried provisional)
            (represents.caller.inCall_iff.mpr talking)
      | fromCaller => trivial
      | toCallee => trivial
      | fromCallee => trivial
  | place => trivial
  | answer => trivial
  | reject => trivial
  | callerHangsUp => trivial
  | calleeHangsUp => trivial

theorem Represents.quiet
    (represents : Represents setup state system) (quiet : system.Quiet) :
    state.Quiet where
  fromCaller := by
    have carried := represents.fromCaller
    rw [quiet.fromCaller] at carried
    exact List.forall₂_nil_right_iff.mp carried
  toCallee := by
    have carried := represents.toCallee
    rw [quiet.toCallee] at carried
    exact List.forall₂_nil_right_iff.mp carried
  fromCallee := by
    have carried := represents.fromCallee
    rw [quiet.fromCallee] at carried
    exact List.forall₂_nil_right_iff.mp carried
  toCaller := by
    have carried := represents.toCaller
    rw [quiet.toCaller] at carried
    exact List.forall₂_nil_right_iff.mp carried

theorem CallerIs.inCallWith_iff
    {phase : CallerPhase} {client : SIPClient CppString}
    (shown : CallerIs setup phase client) :
    InCallWith client setup.callId ↔ phase = .talking := by
  rw [InCallWith, shown.inCall_iff, shown.active_iff]
  exact and_iff_left_of_imp Or.inr

theorem CalleeIs.inCallWith_iff
    {phase : CalleePhase} {client : SIPClient CppString}
    (shown : CalleeIs setup phase client) :
    InCallWith client setup.callId ↔ phase = .talking := by
  rw [InCallWith, shown.inCall_iff, shown.active_iff]
  exact and_iff_left_of_imp Or.inr

/-! ## Agreement -/

/-- The protocol state that a run has reached, in which the clients agree. -/
def ReachedAgreed (setup : Setup) (system : System) : Prop :=
  ∃ state, Represents setup state system ∧ Protocol.Ordinary state ∧
    Protocol.Agreed state

theorem reachedAgreed_step
    {output : Unit} (stepped : setup.step system move = .ok (output, next))
    (onTime : system.OnTime move) (reached : ReachedAgreed setup system) :
    ReachedAgreed setup next := by
  obtain ⟨state, represents, ordinary, agreed⟩ := reached
  exact ⟨state.step move,
    represents.step ordinary (moved_of_step stepped), ordinary.step move,
    ordinary.agreed_step (represents.onTime onTime) agreed⟩

/-- Bob answers, and every text arrives in order. -/
def answeredInOrder : List Move :=
  [.place, .deliver .fromCaller 0, .deliver .toCallee 0,
    .deliver .fromCallee 0, .deliver .toCaller 0, .deliver .fromCallee 0,
    .deliver .toCaller 0, .answer, .deliver .fromCallee 0,
    .deliver .toCaller 0, .deliver .fromCaller 0, .deliver .toCallee 0]

/-- The 200 overtakes the 100 and the 180 on their way to Alice. -/
def answeredEarly : List Move :=
  [.place, .deliver .fromCaller 0, .deliver .toCallee 0, .answer,
    .deliver .fromCallee 0, .deliver .fromCallee 0, .deliver .fromCallee 0,
    .deliver .toCaller 2, .deliver .toCaller 0, .deliver .toCaller 0,
    .deliver .fromCaller 0, .deliver .toCallee 0]

end MinimalSip.Calls

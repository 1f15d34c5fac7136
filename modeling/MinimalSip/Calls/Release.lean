import MinimalSip.Calls.Agreement
import MinimalSip.Calls.ProtocolRelease

/-!
# The proxy forgets the calls that its clients have left

With links that keep the order, a call that neither client is in any more is
known to the proxy no longer when no text is in flight, provided that the
proxy was only given what it has a transition for.  A 603 passes through it
without ending the call, and a BYE that meets a terminated session brings no
200 behind it, because the client that it reaches has hung up itself.
-/

namespace MinimalSip.Calls

open MinimalSip.Lib.Cpp
open MinimalSip.Lib.Links
open MinimalSip.Lib.Machine
open MinimalSip.Common
open MinimalSip.Common.SIPMessage
open MinimalSip.Client
open MinimalSip.Proxy
open MinimalSip.Proxy.SIPRouter

/-- The state of the call's session, if the router has one. -/
def sessionState (router : SIPRouter) (callId : CppString) :
    Option CallState :=
  (router.registry.lookup callId).map CallSession.state

/-- The router is not in a state that has no answer to the message. -/
structure Prepared (router : SIPRouter) (callId : CppString)
    (message : SIPMessage) : Prop where
  bye : message.getMethod = "BYE".toList →
    sessionState router callId ≠ some .terminated
  decline : message.getStatusCode = 603 → sessionState router callId = none

instance (router : SIPRouter) (callId : CppString) (message : SIPMessage) :
    Decidable (Prepared router callId message) :=
  decidable_of_iff
    ((message.getMethod = "BYE".toList →
        sessionState router callId ≠ some .terminated) ∧
      (message.getStatusCode = 603 → sessionState router callId = none))
    ⟨fun ⟨bye, decline⟩ => ⟨bye, decline⟩, fun ⟨bye, decline⟩ => ⟨bye, decline⟩⟩

/-- The router is prepared for the message that a text is parsed as. -/
def PreparedFor (router : SIPRouter) (callId text : CppString) : Prop :=
  ∀ message ∈ (SIPParser.parse text).toOption,
    Prepared router callId message

instance (router : SIPRouter) (callId text : CppString) :
    Decidable (PreparedFor router callId text) :=
  inferInstanceAs (Decidable (∀ message ∈ (SIPParser.parse text).toOption, _))

/-- The proxy is prepared for the text that a move delivers to it. -/
def Expected (setup : Setup) (system : System) : Move → Prop
  | .deliver .fromCaller index => ∀ picked ∈ pick system.fromCaller index,
      PreparedFor system.router setup.callId picked.1
  | .deliver .fromCallee index => ∀ picked ∈ pick system.fromCallee index,
      PreparedFor system.router setup.callId picked.1
  | _ => True

instance (setup : Setup) (system : System) (move : Move) :
    Decidable (Expected setup system move) :=
  match move with
  | .deliver .fromCaller index =>
      inferInstanceAs (Decidable (∀ picked ∈ pick system.fromCaller index, _))
  | .deliver .fromCallee index =>
      inferInstanceAs (Decidable (∀ picked ∈ pick system.fromCallee index, _))
  | .deliver .toCallee _ => .isTrue trivial
  | .deliver .toCaller _ => .isTrue trivial
  | .place => .isTrue trivial
  | .answer => .isTrue trivial
  | .reject => .isTrue trivial
  | .callerHangsUp => .isTrue trivial
  | .calleeHangsUp => .isTrue trivial

variable {setup : Setup} {state : Protocol} {system next : System}
variable {move : Move}

/-! ## The protocol's conditions -/

theorem RouterIs.sessionState_eq
    {session : Option CallState} {router : SIPRouter}
    (held : RouterIs setup session router) :
    sessionState router setup.callId = session := by
  have stored := held.stored
  unfold sessionState
  cases session with
  | none =>
      rw [stored.1]
      rfl
  | some state =>
      obtain ⟨session, -, registered, same, -⟩ := stored
      rw [registered, Option.map_some, same]

theorem prepared_of_text
    {router : SIPRouter} {callId : CppString} {call : CallMessage}
    (plain : call.Plain) (prepared : PreparedFor router callId call.text) :
    Prepared router callId call.message := by
  refine prepared call.message ?_
  have parsed : SIPParser.parse call.text = .ok call.message :=
    plain.letter.parse
  rw [parsed]
  rfl

/-- No BYE of the call reaches a terminated session. -/
theorem not_terminated_of_bye
    {sender target : Party} {text : CppString}
    (represents : Represents setup state system)
    (written : Written setup "BYE" sender target text)
    (prepared : PreparedFor system.router setup.callId text) :
    state.session ≠ some .terminated := by
  obtain ⟨call, request, rfl⟩ := written
  rw [← represents.router.sessionState_eq]
  exact (prepared_of_text request.plain prepared).bye request.getMethod

theorem Represents.expected
    (represents : Represents setup state system)
    (expected : Expected setup system move) : state.Expected move := by
  cases move with
  | deliver link index =>
      cases link with
      | fromCaller =>
          intro rest found
          rcases pick_related represents.fromCaller index with ⟨none, -⟩ |
            ⟨signal, rest', text, others, found', picked, carried, -⟩
          · rw [none] at found
            cases found
          rw [found', Option.some.injEq, Prod.mk.injEq] at found
          obtain ⟨rfl, -⟩ := found
          exact not_terminated_of_bye represents carried (expected _ picked)
      | fromCallee =>
          intro signal rest found
          rcases pick_related represents.fromCallee index with ⟨none, -⟩ |
            ⟨signal', rest', text, others, found', picked, carried, -⟩
          · rw [none] at found
            cases found
          rw [found', Option.some.injEq, Prod.mk.injEq] at found
          obtain ⟨rfl, -⟩ := found
          have prepared := expected _ picked
          constructor
          · rintro rfl
            obtain ⟨call, response, -, rfl⟩ := carried
            rw [← represents.router.sessionState_eq]
            exact (prepared_of_text response.plain prepared).decline
              (@getStatusCode_of_line .decline call.message response.line)
          · rintro rfl
            exact not_terminated_of_bye represents carried prepared
      | toCallee => trivial
      | toCaller => trivial
  | place => trivial
  | answer => trivial
  | reject => trivial
  | callerHangsUp => trivial
  | calleeHangsUp => trivial

/-! ## Release -/

/-- A protocol state in which somebody answers for the session. -/
def ReachedAccounted (setup : Setup) (system : System) : Prop :=
  ∃ state, Represents setup state system ∧ Protocol.Ordinary state ∧
    Protocol.Accounted state

theorem reachedAccounted_step
    {output : Unit} (stepped : setup.step system move = .ok (output, next))
    (met : move.InOrder ∧ Expected setup system move)
    (reached : ReachedAccounted setup system) :
    ReachedAccounted setup next := by
  obtain ⟨state, represents, ordinary, accounted⟩ := reached
  exact ⟨state.step move,
    represents.step ordinary (moved_of_step stepped), ordinary.step move,
    ordinary.accounted_step met.1 (represents.expected met.2) accounted⟩

/-- Moves that are in order are so at every step. -/
theorem along_of_forall
    {system : System} {moves : List Move}
    (inOrder : ∀ move ∈ moves, move.InOrder)
    (expected : Along setup.step (Expected setup) system moves) :
    Along setup.step (fun system move => move.InOrder ∧
      Expected setup system move) system moves := by
  induction moves generalizing system with
  | nil => trivial
  | cons move moves ih =>
      obtain ⟨first, later⟩ := List.forall_mem_cons.mp inOrder
      exact ⟨⟨first, expected.1⟩, fun output middle stepped =>
        ih later (expected.2 output middle stepped)⟩

/-- Bob answers and Alice hangs up. -/
def answeredAndLeft : List Move :=
  [.place, .deliver .fromCaller 0, .deliver .toCallee 0,
    .deliver .fromCallee 0, .deliver .toCaller 0, .deliver .fromCallee 0,
    .deliver .toCaller 0, .answer, .deliver .fromCallee 0,
    .deliver .toCaller 0, .deliver .fromCaller 0, .deliver .toCallee 0,
    .callerHangsUp, .deliver .fromCaller 0, .deliver .toCallee 0,
    .deliver .fromCallee 0, .deliver .toCaller 0]

/-- Bob rejects the call. -/
def rejected : List Move :=
  [.place, .deliver .fromCaller 0, .deliver .toCallee 0, .reject,
    .deliver .fromCallee 0, .deliver .toCaller 0, .deliver .fromCallee 0,
    .deliver .toCaller 0, .deliver .fromCallee 0, .deliver .toCaller 0,
    .deliver .fromCaller 0, .deliver .toCallee 0]

end MinimalSip.Calls

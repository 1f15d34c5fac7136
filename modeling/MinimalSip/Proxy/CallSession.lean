import MinimalSip.Common.SipMessage
import Mathlib.Data.Finmap
import Mathlib.Order.Basic

/-!
# Call sessions and their registry

A session is a state machine driven by the requests and responses of its call.
Events without a transition leave the state as it is, so a state never moves
backwards in `init < trying < ringing < established < terminated`.

The registry maps Call-IDs to sessions.  A finite map is compared by its
lookups: `std::unordered_map` is never iterated here.
-/

namespace MinimalSip.Proxy

open MinimalSip.Lib.Cpp
open MinimalSip.Common

inductive CallState where
  | init
  | trying
  | ringing
  | established
  | terminated
deriving DecidableEq, Repr

namespace CallState

/-- Position in the life of a call. -/
def rank : CallState → Nat
  | .init => 0
  | .trying => 1
  | .ringing => 2
  | .established => 3
  | .terminated => 4

instance : LE CallState := ⟨fun earlier later => earlier.rank ≤ later.rank⟩

instance (earlier later : CallState) : Decidable (earlier ≤ later) :=
  inferInstanceAs (Decidable (earlier.rank ≤ later.rank))

theorem le_refl (state : CallState) : state ≤ state :=
  Nat.le_refl _

theorem le_trans
    {first second third : CallState}
    (left : first ≤ second) (right : second ≤ third) : first ≤ third :=
  Nat.le_trans left right

end CallState

inductive CallEvent where
  | invite
  | trying100
  | ringing180
  | ok200
  | ack
  | bye
deriving DecidableEq, Repr

/-- `CallStateMachine::handle_event`. -/
def CallStateMachine.handleEvent (current : CallState) (event : CallEvent) :
    CallState :=
  match current with
  | .init =>
      match event with
      | .invite => .trying
      | _ => current
  | .trying =>
      match event with
      | .trying100 => .trying
      | .ringing180 => .ringing
      | _ => current
  | .ringing =>
      match event with
      | .ok200 => .established
      | _ => current
  | .established =>
      match event with
      | .ack => .established
      | .bye => .terminated
      | _ => current
  | .terminated => current

theorem CallStateMachine.le_handleEvent
    (current : CallState) (event : CallEvent) :
    current ≤ handleEvent current event := by
  cases current <;> cases event <;> decide

structure CallSession where
  callId : CppString
  caller : CppString
  callee : CppString
  state : CallState := .init
deriving DecidableEq

namespace CallSession

def applyEvent (session : CallSession) (event : CallEvent) : CallSession :=
  { session with
    state := CallStateMachine.handleEvent session.state event }

/-- The event that a request stands for, if any. -/
def onRequest (session : CallSession) (message : SIPMessage) :
    CallSession :=
  let method := message.getMethod
  if method = "INVITE".toList then session.applyEvent .invite
  else if method = "ACK".toList then session.applyEvent .ack
  else if method = "BYE".toList then session.applyEvent .bye
  else session

/-- The event that a response stands for, if any. -/
def onResponse (session : CallSession) (message : SIPMessage) :
    CallSession :=
  let statusCode := message.getStatusCode
  let cseq := message.getHeader "CSeq"
  if statusCode = 100 then session.applyEvent .trying100
  else if statusCode = 180 then session.applyEvent .ringing180
  else if statusCode = 200 ∧ contains cseq "INVITE" then
    session.applyEvent .ok200
  else session

def isTerminated (session : CallSession) : Bool :=
  session.state = .terminated

/-- An ACK confirms an established call and changes nothing. -/
@[simp]
theorem applyEvent_ack (session : CallSession) :
    session.applyEvent .ack = session := by
  obtain ⟨callId, caller, callee, state⟩ := session
  cases state <;> rfl

theorem le_applyEvent (session : CallSession) (event : CallEvent) :
    session.state ≤ (session.applyEvent event).state :=
  CallStateMachine.le_handleEvent _ _

/-- A request never moves a session backwards. -/
theorem le_onRequest (session : CallSession) (message : SIPMessage) :
    session.state ≤ (session.onRequest message).state := by
  unfold onRequest
  dsimp only
  split_ifs
  · exact session.le_applyEvent _
  · exact session.le_applyEvent _
  · exact session.le_applyEvent _
  · exact CallState.le_refl _

/-- A response never moves a session backwards. -/
theorem le_onResponse (session : CallSession) (message : SIPMessage) :
    session.state ≤ (session.onResponse message).state := by
  unfold onResponse
  dsimp only
  split_ifs
  · exact session.le_applyEvent _
  · exact session.le_applyEvent _
  · exact session.le_applyEvent _
  · exact CallState.le_refl _

end CallSession

/-! ## The registry -/

/-- An `std::unordered_map` from texts that is used by its lookups only. -/
abbrev TextMap (β : Type) := Finmap (fun _ : CppString => β)

namespace TextMap

/-- Change the value of a key in place, if the key is present. -/
def modify {β : Type}
    (map : TextMap β) (key : CppString) (change : β → β) : TextMap β :=
  match map.lookup key with
  | none => map
  | some value => map.insert key (change value)

variable {β : Type} (map : TextMap β) (key other : CppString) (change : β → β)

@[simp]
theorem lookup_modify :
    (map.modify key change).lookup other =
      if other = key then (map.lookup key).map change
      else map.lookup other := by
  unfold modify
  cases held : map.lookup key with
  | none =>
      split_ifs with same
      · subst other
        exact held
      · rfl
  | some value =>
      split_ifs with same
      · subst other
        exact Finmap.lookup_insert map
      · exact Finmap.lookup_insert_of_ne map same

@[simp]
theorem mem_modify :
    other ∈ map.modify key change ↔ other ∈ map := by
  rw [← Finmap.lookup_isSome, ← Finmap.lookup_isSome, lookup_modify]
  split_ifs with same
  · subst other
    rw [Option.isSome_map]
  · rfl

@[simp]
theorem keys_modify :
    (map.modify key change).keys = map.keys := by
  ext other
  rw [Finmap.mem_keys, Finmap.mem_keys, mem_modify]

theorem modify_insert (value : β) :
    TextMap.modify (map.insert key value) key change =
      map.insert key (change value) := by
  unfold modify
  rw [Finmap.lookup_insert]
  exact Finmap.insert_insert map

end TextMap

/-- `m_calls`. -/
abbrev CallRegistry := TextMap CallSession

namespace CallRegistry

/-- The registry with a fresh session, or nothing for a known Call-ID. -/
def createCall
    (registry : CallRegistry) (callId caller callee : CppString) :
    Option CallRegistry :=
  if callId ∈ registry then none
  else
    some (registry.insert callId
      { callId := callId, caller := caller, callee := callee })

def findCall (registry : CallRegistry) (callId : CppString) :
    Option CallSession :=
  registry.lookup callId

def removeCall (registry : CallRegistry) (callId : CppString) :
    CallRegistry :=
  registry.erase callId

end CallRegistry

end MinimalSip.Proxy

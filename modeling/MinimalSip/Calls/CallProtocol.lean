import MinimalSip.Lib.Links
import MinimalSip.Proxy.CallSession

/-!
# One call as a protocol

An abstract account of one call between two clients and the proxy: what each
of the three remembers about the call, and the signals that are in flight
between them.  It leaves out everything that does not decide how the call goes
on: addresses, identities, headers, and the difference between a caller that
has heard a 100 and one that has heard a 180.

Every party reacts to a signal by what it remembers.  The links deliver every
signal once, in any order; `Move.InOrder` singles out the oldest signal.
-/

namespace MinimalSip.Calls

open MinimalSip.Lib.Links
open MinimalSip.Proxy

/-! ## Phases and signals -/

/-- `waiting` stands for both Calling and Ringing. -/
inductive CallerPhase where
  | idle
  | waiting
  | talking
  | hungUp
  | ended
deriving DecidableEq, Repr

inductive CalleePhase where
  | idle
  | ringing
  | talking
  | hungUp
  | ended
deriving DecidableEq, Repr

inductive FromCaller where
  | invite
  | ack
  | bye
  | okBye
deriving DecidableEq, Repr

inductive ToCallee where
  | invite
  | ack
  | bye
  | refusal
deriving DecidableEq, Repr

inductive FromCallee where
  | trying
  | ringing
  | ok
  | decline
  | bye
  | okBye
deriving DecidableEq, Repr

inductive ToCaller where
  | trying
  | ringing
  | ok
  | decline
  | bye
  | okBye
  | refusal
deriving DecidableEq, Repr

/-- The signal that the caller gets for one of the callee's. -/
def FromCallee.passed : FromCallee → ToCaller
  | .trying => .trying
  | .ringing => .ringing
  | .ok => .ok
  | .decline => .decline
  | .bye => .bye
  | .okBye => .okBye

/-- The call has this client as an active party. -/
def CallerPhase.Active (phase : CallerPhase) : Prop :=
  phase = .waiting ∨ phase = .talking

def CalleePhase.Active (phase : CalleePhase) : Prop :=
  phase = .ringing ∨ phase = .talking

instance (phase : CallerPhase) : Decidable phase.Active :=
  inferInstanceAs (Decidable (_ ∨ _))

instance (phase : CalleePhase) : Decidable phase.Active :=
  inferInstanceAs (Decidable (_ ∨ _))

/-- The signal is a 100 or a 180. -/
def ToCaller.Provisional (signal : ToCaller) : Prop :=
  signal = .trying ∨ signal = .ringing

instance : DecidablePred ToCaller.Provisional := fun _ =>
  inferInstanceAs (Decidable (_ ∨ _))

/-- The three parties of a call and the signals between them. -/
structure Protocol where
  caller : CallerPhase := .idle
  callee : CalleePhase := .idle
  session : Option CallState := none
  fromCaller : List FromCaller := []
  toCallee : List ToCallee := []
  fromCallee : List FromCallee := []
  toCaller : List ToCaller := []

/-! ## Reactions -/

/-- A client only reacts to signals of its active call. -/
def CallerPhase.receive (phase : CallerPhase) (signal : ToCaller) :
    CallerPhase × List FromCaller :=
  if phase.Active then
    match signal with
    | .trying => (.waiting, [])
    | .ringing => (.waiting, [])
    | .ok => (.talking, [.ack])
    | .decline => (.ended, [.ack])
    | .refusal => (.ended, [.ack])
    | .bye => (.ended, [.okBye])
    | .okBye => (.ended, [])
  else (phase, [])

/-- There is only one INVITE, and only a BYE is refused to the callee. -/
def CalleePhase.receive (phase : CalleePhase) (signal : ToCallee) :
    CalleePhase × List FromCallee :=
  match signal with
  | .invite =>
      if phase = .idle then (.ringing, [.trying, .ringing]) else (phase, [])
  | .bye => if phase.Active then (.ended, [.okBye]) else (phase, [])
  | .ack => (phase, [])
  | .refusal => (phase, [])

/-- What the proxy remembers and passes on. -/
structure Relay where
  session : Option CallState
  toCallee : List ToCallee := []
  toCaller : List ToCaller := []

/-- The session after an event. -/
abbrev noted (state : CallState) (event : CallEvent) : Option CallState :=
  some (CallStateMachine.handleEvent state event)

def relayCaller (session : Option CallState) (signal : FromCaller) : Relay :=
  match signal, session with
  | .invite, none => { session := some .trying, toCallee := [.invite] }
  | .invite, some state => { session := some state, toCaller := [.refusal] }
  | .ack, none => { session := none, toCaller := [.refusal] }
  | .ack, some state =>
      { session := if state = .terminated then none else some state
        toCallee := [.ack] }
  | .bye, none => { session := none, toCaller := [.refusal] }
  | .bye, some state =>
      { session := noted state .bye, toCallee := [.bye] }
  | .okBye, none => { session := none }
  | .okBye, some _ => { session := none, toCaller := [.okBye] }

/-- Every response goes to the caller, whoever sent it. -/
def relayCallee (session : Option CallState) (signal : FromCallee) : Relay :=
  match signal, session with
  | .trying, some state =>
      { session := noted state .trying100, toCaller := [.trying] }
  | .ringing, some state =>
      { session := noted state .ringing180, toCaller := [.ringing] }
  | .ok, some state => { session := noted state .ok200, toCaller := [.ok] }
  | .decline, some state => { session := some state, toCaller := [.decline] }
  | .bye, some state => { session := noted state .bye, toCaller := [.bye] }
  | .okBye, some _ => { session := none, toCaller := [.okBye] }
  | .bye, none => { session := none, toCallee := [.refusal] }
  | _, none => { session := none }

/-! ## Moves -/

inductive Link where
  | fromCaller
  | toCallee
  | fromCallee
  | toCaller
deriving DecidableEq, Repr

/-- What can happen: an action of a user, or the delivery of one message. -/
inductive Move where
  | place
  | answer
  | reject
  | callerHangsUp
  | calleeHangsUp
  | deliver (link : Link) (index : Nat)
deriving DecidableEq, Repr

/-- A delivery takes the oldest message of its link. -/
def Move.InOrder : Move → Prop
  | .deliver _ index => index = 0
  | _ => True

instance : DecidablePred Move.InOrder := fun move =>
  match move with
  | .deliver _ index => inferInstanceAs (Decidable (index = 0))
  | .place => .isTrue trivial
  | .answer => .isTrue trivial
  | .reject => .isTrue trivial
  | .callerHangsUp => .isTrue trivial
  | .calleeHangsUp => .isTrue trivial

namespace Protocol

def toProxyFromCaller (state : Protocol) (signal : FromCaller)
    (rest : List FromCaller) : Protocol :=
  let relay := relayCaller state.session signal
  { state with
    session := relay.session
    fromCaller := rest
    toCallee := state.toCallee ++ relay.toCallee
    toCaller := state.toCaller ++ relay.toCaller }

def toProxyFromCallee (state : Protocol) (signal : FromCallee)
    (rest : List FromCallee) : Protocol :=
  let relay := relayCallee state.session signal
  { state with
    session := relay.session
    fromCallee := rest
    toCallee := state.toCallee ++ relay.toCallee
    toCaller := state.toCaller ++ relay.toCaller }

def callerReceives (state : Protocol) (signal : ToCaller)
    (rest : List ToCaller) : Protocol :=
  { state with
    caller := (state.caller.receive signal).1
    toCaller := rest
    fromCaller := state.fromCaller ++ (state.caller.receive signal).2 }

def calleeReceives (state : Protocol) (signal : ToCallee)
    (rest : List ToCallee) : Protocol :=
  { state with
    callee := (state.callee.receive signal).1
    toCallee := rest
    fromCallee := state.fromCallee ++ (state.callee.receive signal).2 }

/-! An action of a user that does not apply changes nothing. -/

def place (state : Protocol) : Protocol :=
  if state.caller = .idle then
    { state with
      caller := .waiting
      fromCaller := state.fromCaller ++ [.invite] }
  else state

def answer (state : Protocol) : Protocol :=
  if state.callee = .ringing then
    { state with
      callee := .talking
      fromCallee := state.fromCallee ++ [.ok] }
  else state

def reject (state : Protocol) : Protocol :=
  if state.callee = .ringing then
    { state with
      callee := .ended
      fromCallee := state.fromCallee ++ [.decline] }
  else state

def callerHangsUp (state : Protocol) : Protocol :=
  if state.caller = .talking then
    { state with
      caller := .hungUp
      fromCaller := state.fromCaller ++ [.bye] }
  else state

def calleeHangsUp (state : Protocol) : Protocol :=
  if state.callee = .talking then
    { state with
      callee := .hungUp
      fromCallee := state.fromCallee ++ [.bye] }
  else state

/-- Let a party receive one of the signals in flight to it, if it exists. -/
def handOver {signal : Type} (state : Protocol) (link : List signal)
    (index : Nat) (receive : signal → List signal → Protocol) : Protocol :=
  match pick link index with
  | none => state
  | some (taken, rest) => receive taken rest

def step (state : Protocol) : Move → Protocol
  | .place => state.place
  | .answer => state.answer
  | .reject => state.reject
  | .callerHangsUp => state.callerHangsUp
  | .calleeHangsUp => state.calleeHangsUp
  | .deliver .fromCaller index =>
      state.handOver state.fromCaller index state.toProxyFromCaller
  | .deliver .toCallee index =>
      state.handOver state.toCallee index state.calleeReceives
  | .deliver .fromCallee index =>
      state.handOver state.fromCallee index state.toProxyFromCallee
  | .deliver .toCaller index =>
      state.handOver state.toCaller index state.callerReceives

/-- No signal is in flight. -/
structure Quiet (state : Protocol) : Prop where
  fromCaller : state.fromCaller = []
  toCallee : state.toCallee = []
  fromCallee : state.fromCallee = []
  toCaller : state.toCaller = []

end Protocol

end MinimalSip.Calls

import MinimalSip.Calls.Agreement

/-!
# A call comes to rest

Every message of a call causes finitely many others.  The weight of a state of
the protocol is the number of deliveries that can still follow it, whatever
the users do: a call takes fourteen deliveries at most, which is what a call
takes that is answered and hung up.

When nothing is in flight any more, both clients have come to the same point
of the call, or neither of them is in it.
-/

namespace MinimalSip.Calls

open MinimalSip.Lib.Cpp
open MinimalSip.Lib.Links
open MinimalSip.Lib.Machine
open MinimalSip.Client
open MinimalSip.Proxy

/-! ## Weights -/

def FromCaller.weight : FromCaller → Nat
  | .invite => 2
  | .ack => 2
  | .bye => 2
  | .okBye => 2

def ToCallee.weight : ToCallee → Nat
  | .invite => 1
  | .ack => 1
  | .bye => 1
  | .refusal => 1

/-- An answer is passed on, heard, and acknowledged over two links. -/
def FromCallee.weight : FromCallee → Nat
  | .trying => 2
  | .ringing => 2
  | .ok => 4
  | .decline => 2
  | .bye => 2
  | .okBye => 2

def ToCaller.weight : ToCaller → Nat
  | .trying => 1
  | .ringing => 1
  | .ok => 3
  | .decline => 1
  | .bye => 1
  | .okBye => 1
  | .refusal => 1

/-- What the caller may still set off, apart from what it is about to hear. -/
def CallerPhase.weight : CallerPhase → Nat
  | .idle => 4
  | .waiting => 2
  | .talking => 2
  | .hungUp => 0
  | .ended => 0

def CalleePhase.weight : CalleePhase → Nat
  | .idle => 10
  | .ringing => 6
  | .talking => 2
  | .hungUp => 0
  | .ended => 0

namespace Protocol

variable {state : Protocol}

/-- A bound on the deliveries that can follow. -/
def weight (state : Protocol) : Nat :=
  state.caller.weight + state.callee.weight +
    (state.fromCaller.map FromCaller.weight).sum +
    (state.toCallee.map ToCallee.weight).sum +
    (state.fromCallee.map FromCallee.weight).sum +
    (state.toCaller.map ToCaller.weight).sum

theorem sum_weights_taken
    {signal : Type} (weight : signal → Nat) {link rest : List signal}
    {index : Nat} {taken : signal}
    (picked : pick link index = some (taken, rest)) :
    (link.map weight).sum = weight taken + (rest.map weight).sum := by
  obtain ⟨before, after, rfl, rfl⟩ := pick_split picked
  simp only [List.map_append, List.map_cons, List.sum_append, List.sum_cons]
  omega

/-! ### What a party sends weighs less than what it received -/

theorem weight_relayCaller
    (session : Option CallState) (signal : FromCaller) :
    ((relayCaller session signal).toCallee.map ToCallee.weight).sum +
        ((relayCaller session signal).toCaller.map ToCaller.weight).sum <
      signal.weight := by
  rcases session with _ | held
  · cases signal <;> decide
  · cases held <;> cases signal <;> decide

theorem weight_relayCallee
    (session : Option CallState) (signal : FromCallee) :
    ((relayCallee session signal).toCallee.map ToCallee.weight).sum +
        ((relayCallee session signal).toCaller.map ToCaller.weight).sum <
      signal.weight := by
  rcases session with _ | held
  · cases signal <;> decide
  · cases held <;> cases signal <;> decide

theorem weight_callerReceives (phase : CallerPhase) (signal : ToCaller) :
    (phase.receive signal).1.weight +
        ((phase.receive signal).2.map FromCaller.weight).sum <
      phase.weight + signal.weight := by
  cases phase <;> cases signal <;> decide

theorem weight_calleeReceives (phase : CalleePhase) (signal : ToCallee) :
    (phase.receive signal).1.weight +
        ((phase.receive signal).2.map FromCallee.weight).sum <
      phase.weight + signal.weight := by
  cases phase <;> cases signal <;> decide

/-! ### Every move -/

/-- A delivery finds a signal. -/
def Finds (state : Protocol) : Move → Prop
  | .deliver .fromCaller index => index < state.fromCaller.length
  | .deliver .toCallee index => index < state.toCallee.length
  | .deliver .fromCallee index => index < state.fromCallee.length
  | .deliver .toCaller index => index < state.toCaller.length
  | _ => True

theorem exists_picked
    {signal : Type} {link : List signal} {index : Nat}
    (inside : index < link.length) :
    ∃ taken rest, pick link index = some (taken, rest) := by
  cases picked : pick link index with
  | none => exact absurd (pick_eq_none_iff.mp picked) (by omega)
  | some pair => exact ⟨pair.1, pair.2, rfl⟩

/-- Every delivery makes the state lighter. -/
theorem weight_deliver
    {link : Link} {index : Nat} (finds : state.Finds (.deliver link index)) :
    (state.step (.deliver link index)).weight < state.weight := by
  cases link
  all_goals
    obtain ⟨signal, rest, picked⟩ := exists_picked finds
    simp only [Protocol.step, handOver, picked]
  case fromCaller =>
    have taken := sum_weights_taken FromCaller.weight picked
    have relayed := weight_relayCaller state.session signal
    simp only [weight, toProxyFromCaller, List.map_append, List.sum_append]
    omega
  case toCallee =>
    have taken := sum_weights_taken ToCallee.weight picked
    have received := weight_calleeReceives state.callee signal
    simp only [weight, calleeReceives, List.map_append, List.sum_append]
    omega
  case fromCallee =>
    have taken := sum_weights_taken FromCallee.weight picked
    have relayed := weight_relayCallee state.session signal
    simp only [weight, toProxyFromCallee, List.map_append, List.sum_append]
    omega
  case toCaller =>
    have taken := sum_weights_taken ToCaller.weight picked
    have received := weight_callerReceives state.caller signal
    simp only [weight, callerReceives, List.map_append, List.sum_append]
    omega

/-- What the users do is accounted for from the beginning. -/
theorem weight_action
    {move : Move} (action : ∀ link index, move ≠ .deliver link index) :
    (state.step move).weight ≤ state.weight := by
  cases move with
  | deliver link index => exact absurd rfl (action link index)
  | place =>
      simp only [Protocol.step, place]
      split_ifs with idle
      · simp [weight, idle, CallerPhase.weight, FromCaller.weight]
        omega
      · exact Nat.le_refl _
  | answer =>
      simp only [Protocol.step, answer]
      split_ifs with ringing
      · simp [weight, ringing, CalleePhase.weight, FromCallee.weight]
        omega
      · exact Nat.le_refl _
  | reject =>
      simp only [Protocol.step, reject]
      split_ifs with ringing
      · simp [weight, ringing, CalleePhase.weight, FromCallee.weight]
        omega
      · exact Nat.le_refl _
  | callerHangsUp =>
      simp only [Protocol.step, callerHangsUp]
      split_ifs with talking
      · simp [weight, talking, CallerPhase.weight, FromCaller.weight]
        omega
      · exact Nat.le_refl _
  | calleeHangsUp =>
      simp only [Protocol.step, calleeHangsUp]
      split_ifs with talking
      · simp [weight, talking, CalleePhase.weight, FromCallee.weight]
        omega
      · exact Nat.le_refl _

/-! ## The INVITE is not lost -/

/-- A callee that has not been called yet is about to be. -/
def Invited (state : Protocol) : Prop :=
  state.callee = .idle → state.caller = .idle ∨
    .invite ∈ state.fromCaller ∨ .invite ∈ state.toCallee

theorem invited_place (invited : Invited state) : Invited state.place := by
  unfold Protocol.place
  split_ifs
  · exact fun _ => Or.inr (Or.inl (by simp))
  · exact invited

/-- An answering callee has been called. -/
theorem invited_of_called
    {next : Protocol} (called : next.callee ≠ .idle) : Invited next :=
  fun idle => absurd idle called

theorem invited_callerHangsUp (invited : Invited state) :
    Invited state.callerHangsUp := by
  unfold Protocol.callerHangsUp
  split_ifs with talking
  · intro idle
    rcases invited idle with unplaced | flying
    · exact absurd (talking.symm.trans unplaced) (by decide)
    · exact Or.inr (flying.imp_left (List.mem_append_left _))
  · exact invited

/-- The proxy does not know the call yet, and passes the INVITE on. -/
theorem Ordinary.invited_toProxyFromCaller
    (ordinary : Ordinary state) {signal : FromCaller}
    {before after : List FromCaller}
    (taken : state.fromCaller = before ++ signal :: after)
    (invited : Invited state) :
    Invited (state.toProxyFromCaller signal (before ++ after)) := by
  intro idle
  rcases invited idle with unplaced | sent | passed
  · exact Or.inl unplaced
  · refine Or.inr ?_
    by_cases own : signal = .invite
    · subst own
      obtain ⟨-, unknown⟩ := ordinary.fromCaller _ (mem_of_taken taken)
      exact Or.inr (by simp [Protocol.toProxyFromCaller, unknown, relayCaller])
    · exact Or.inl (mem_taken_of_ne taken (Ne.symm own) sent)
  · exact Or.inr (Or.inr (List.mem_append_left _ passed))

theorem invited_calleeReceives
    {signal : ToCallee} {before after : List ToCallee}
    (taken : state.toCallee = before ++ signal :: after)
    (invited : Invited state) :
    Invited (state.calleeReceives signal (before ++ after)) := by
  intro idle
  have earlier : state.callee = .idle ∧ signal ≠ .invite := by
    revert idle
    simp only [Protocol.calleeReceives, CalleePhase.receive]
    cases signal <;> cases state.callee <;> simp [CalleePhase.Active]
  rcases invited earlier.1 with unplaced | sent | passed
  · exact Or.inl unplaced
  · exact Or.inr (Or.inl sent)
  · exact Or.inr (Or.inr (mem_taken_of_ne taken (Ne.symm earlier.2) passed))

theorem invited_callerReceives
    {signal : ToCaller} {rest : List ToCaller} (invited : Invited state) :
    Invited (state.callerReceives signal rest) := by
  intro idle
  rcases invited idle with unplaced | flying
  · refine Or.inl ?_
    change (state.caller.receive signal).1 = .idle
    rw [unplaced]
    cases signal <;> decide
  · exact Or.inr (flying.imp_left (List.mem_append_left _))

theorem Ordinary.invited_step
    (ordinary : Ordinary state) (move : Move) (invited : Invited state) :
    Invited (state.step move) := by
  cases move with
  | place => exact invited_place invited
  | answer =>
      change Invited state.answer
      unfold Protocol.answer
      split_ifs
      · exact invited_of_called (by simp)
      · exact invited
  | reject =>
      change Invited state.reject
      unfold Protocol.reject
      split_ifs
      · exact invited_of_called (by simp)
      · exact invited
  | callerHangsUp => exact invited_callerHangsUp invited
  | calleeHangsUp =>
      change Invited state.calleeHangsUp
      unfold Protocol.calleeHangsUp
      split_ifs
      · exact invited_of_called (by simp)
      · exact invited
  | deliver link index =>
      cases link
      all_goals
        refine handOver_keeps invited (fun taken rest picked => ?_)
        obtain ⟨before, after, split, rfl⟩ := pick_split picked
      case fromCaller =>
        exact ordinary.invited_toProxyFromCaller split invited
      case toCallee => exact invited_calleeReceives split invited
      case fromCallee =>
        intro idle
        exact (invited idle).imp_right
          (Or.imp_right (List.mem_append_left _))
      case toCaller => exact invited_callerReceives invited

/-! ## At rest -/

/-- With no signal in flight, a caller that waits has made the callee ring. -/
theorem Ordinary.ringing_of_quiet
    (ordinary : Ordinary state) (agreed : Agreed state)
    (invited : Invited state) (quiet : state.Quiet) :
    state.caller = .waiting ↔ state.callee = .ringing := by
  refine ⟨fun waits => ?_, ordinary.waiting_of_ringing⟩
  have told := ordinary.told (Or.inl waits)
  cases reached : state.callee with
  | ringing => rfl
  | idle =>
      rcases invited reached with unplaced | flying
      · exact absurd (waits.symm.trans unplaced) (by decide)
      · simp [quiet.fromCaller, quiet.toCallee] at flying
  | talking =>
      rcases agreed reached with talks | ⟨-, coming⟩ | ⟨hungUp, -⟩
      · exact absurd (waits.symm.trans talks) (by decide)
      · simp [quiet.fromCallee, quiet.toCaller] at coming
      · exact absurd (waits.symm.trans hungUp) (by decide)
  | hungUp =>
      have coming := told.hungUp reached
      simp [quiet.fromCallee, quiet.toCaller] at coming
  | ended =>
      have coming := (told.declined reached).2
      simp [quiet.fromCallee, quiet.toCaller] at coming

end Protocol

/-! ## The system -/

variable {setup : Setup} {state : Protocol} {system next : System}
variable {move : Move}

/-- A delivery finds a text in its link. -/
def System.Finds (system : System) : Move → Prop
  | .deliver .fromCaller index => index < system.fromCaller.length
  | .deliver .toCallee index => index < system.toCallee.length
  | .deliver .fromCallee index => index < system.fromCallee.length
  | .deliver .toCaller index => index < system.toCaller.length
  | _ => True

instance (system : System) (move : Move) : Decidable (system.Finds move) :=
  match move with
  | .deliver .fromCaller index =>
      inferInstanceAs (Decidable (index < system.fromCaller.length))
  | .deliver .toCallee index =>
      inferInstanceAs (Decidable (index < system.toCallee.length))
  | .deliver .fromCallee index =>
      inferInstanceAs (Decidable (index < system.fromCallee.length))
  | .deliver .toCaller index =>
      inferInstanceAs (Decidable (index < system.toCaller.length))
  | .place => .isTrue trivial
  | .answer => .isTrue trivial
  | .reject => .isTrue trivial
  | .callerHangsUp => .isTrue trivial
  | .calleeHangsUp => .isTrue trivial

def Move.isDelivery : Move → Bool
  | .deliver _ _ => true
  | _ => false

theorem Represents.finds_iff (represents : Represents setup state system) :
    state.Finds move ↔ system.Finds move := by
  cases move with
  | deliver link index =>
      cases link with
      | fromCaller =>
          exact iff_of_eq (congrArg _ represents.fromCaller.length_eq)
      | toCallee => exact iff_of_eq (congrArg _ represents.toCallee.length_eq)
      | fromCallee =>
          exact iff_of_eq (congrArg _ represents.fromCallee.length_eq)
      | toCaller => exact iff_of_eq (congrArg _ represents.toCaller.length_eq)
  | place => exact Iff.rfl
  | answer => exact Iff.rfl
  | reject => exact Iff.rfl
  | callerHangsUp => exact Iff.rfl
  | calleeHangsUp => exact Iff.rfl

/-- A protocol state of this weight stands for the system. -/
def Weighs (setup : Setup) (weight : Nat) (system : System) : Prop :=
  ∃ state, Represents setup state system ∧ Protocol.Ordinary state ∧
    state.weight = weight

theorem weighs_step
    {weight : Nat} {output : Unit}
    (stepped : setup.step system move = .ok (output, next))
    (finds : system.Finds move) (weighs : Weighs setup weight system) :
    ∃ left, Weighs setup left next ∧
      left + (if move.isDelivery then 1 else 0) ≤ weight := by
  obtain ⟨state, represents, ordinary, rfl⟩ := weighs
  refine ⟨(state.step move).weight, ⟨state.step move,
    represents.step ordinary (moved_of_step stepped), ordinary.step move,
    rfl⟩, ?_⟩
  cases move with
  | deliver link index =>
      exact Protocol.weight_deliver (represents.finds_iff.mpr finds)
  | place => exact Protocol.weight_action nofun
  | answer => exact Protocol.weight_action nofun
  | reject => exact Protocol.weight_action nofun
  | callerHangsUp => exact Protocol.weight_action nofun
  | calleeHangsUp => exact Protocol.weight_action nofun

/-- Alice hangs up a call that Bob has answered. -/
def hungUpInOrder : List Move :=
  answeredInOrder ++ [.callerHangsUp, .deliver .fromCaller 0,
    .deliver .toCallee 0, .deliver .fromCallee 0, .deliver .toCaller 0]

/-- The two clients are at the same point of the call. -/
inductive AtRest (setup : Setup) (caller callee : SIPClient CppString) :
    Prop where
  | free (callerFree : Free caller.state) (calleeFree : Free callee.state)
  | ringing
      (waits : caller.state.state = .calling ∨
        caller.state.state = .ringing)
      (calling : caller.state.activeCallId = setup.callId)
      (rings : callee.state.state = .ringing)
      (called : callee.state.activeCallId = setup.callId)
      (pending : callee.pendingInvite.isSome = true)
  | talking (callerTalks : InCallWith caller setup.callId)
      (calleeTalks : InCallWith callee setup.callId)

theorem CallerIs.free
    {phase : CallerPhase} {client : SIPClient CppString}
    (shown : CallerIs setup phase client) (left : ¬ phase.Active) :
    Free client.state := by
  obtain ⟨-, shown⟩ := shown
  cases phase with
  | idle => exact shown
  | waiting => exact absurd (Or.inl rfl) left
  | talking => exact absurd (Or.inr rfl) left
  | hungUp => exact shown
  | ended => exact shown

theorem CalleeIs.free
    {phase : CalleePhase} {client : SIPClient CppString}
    (shown : CalleeIs setup phase client) (left : ¬ phase.Active) :
    Free client.state := by
  obtain ⟨-, shown⟩ := shown
  cases phase with
  | idle => exact shown.1
  | ringing => exact absurd (Or.inl rfl) left
  | talking => exact absurd (Or.inr rfl) left
  | hungUp => exact shown.1
  | ended => exact shown.1

/-- With nothing in flight the clients show phases that match. -/
theorem Represents.atRest
    (represents : Represents setup state system)
    (ordinary : Protocol.Ordinary state) (agreed : Protocol.Agreed state)
    (invited : Protocol.Invited state) (quiet : system.Quiet) :
    AtRest setup system.caller system.callee := by
  have silent := represents.quiet quiet
  have talking := ordinary.agree_of_quiet agreed silent
  have ringing := ordinary.ringing_of_quiet agreed invited silent
  by_cases active : state.caller.Active
  · rcases active with waits | talks
    · have caller := represents.caller.shown
      have callee := represents.callee.shown
      rw [waits] at caller
      rw [ringing.mp waits] at callee
      obtain ⟨invite, pending, -⟩ := callee.2.2
      exact .ringing caller.1 caller.2.callId callee.1 callee.2.1.callId
        (by rw [pending]; rfl)
    · exact .talking (represents.caller.inCallWith_iff.mpr talks)
        (represents.callee.inCallWith_iff.mpr (talking.mp talks))
  · have left : ¬ state.callee.Active := by
      rintro (rings | talks)
      · exact active (Or.inl (ringing.mpr rings))
      · exact active (Or.inr (talking.mpr talks))
    exact .free (represents.caller.free active) (represents.callee.free left)

/-- The run has reached an agreed state whose callee has been called. -/
def ReachedInvited (setup : Setup) (system : System) : Prop :=
  ∃ state, Represents setup state system ∧ Protocol.Ordinary state ∧
    Protocol.Agreed state ∧ Protocol.Invited state

theorem reachedInvited_step
    {output : Unit} (stepped : setup.step system move = .ok (output, next))
    (onTime : system.OnTime move) (reached : ReachedInvited setup system) :
    ReachedInvited setup next := by
  obtain ⟨state, represents, ordinary, agreed, invited⟩ := reached
  exact ⟨state.step move,
    represents.step ordinary (moved_of_step stepped), ordinary.step move,
    ordinary.agreed_step (represents.onTime onTime) agreed,
    ordinary.invited_step move invited⟩

end MinimalSip.Calls

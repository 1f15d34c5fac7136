import MinimalSip.Calls.ProtocolDeliveries

/-!
# The proxy forgets the call

Each state of the proxy's session accounts for the two clients: it says which
signal is still in flight that moves the session on, or that a client is still
in the call.  This needs the signals of the callee in the order in which they
were sent, and two moves excluded: a decline, which does not change the
session, and a second BYE, whose response nobody will send.
-/

namespace MinimalSip.Calls

open MinimalSip.Lib.Links
open MinimalSip.Proxy

/-- The order in which a callee sends its signals. -/
def FromCallee.rank : FromCallee → Nat
  | .trying => 0
  | .ringing => 1
  | .ok => 2
  | .decline => 2
  | .bye => 3
  | .okBye => 3

/-- The last signals that a callee has sent by now. -/
def CalleePhase.rank : CalleePhase → Nat
  | .idle => 0
  | .ringing => 1
  | .talking => 2
  | .hungUp => 3
  | .ended => 3

namespace Protocol

variable {state : Protocol}

/-! ## What the session accounts for -/

/-- The callee has not been heard yet, or rings. -/
structure Opening (state : Protocol) : Prop where
  caller : state.caller = .waiting
  heard : ∀ signal ∈ state.toCaller, signal.Provisional
  accepted : state.callee = .talking ∨ state.callee = .hungUp →
    .ok ∈ state.fromCallee
  declined : state.callee = .ended → .decline ∈ state.fromCallee

structure Established (state : Protocol) : Prop where
  caller : state.caller.Active ∨
    (state.caller = .hungUp ∧ .bye ∈ state.fromCaller)
  heard : ∀ signal ∈ state.toCaller, signal.Provisional ∨ signal = .ok
  callee : state.callee = .talking ∨
    (state.callee = .hungUp ∧ .bye ∈ state.fromCallee)

/-- The proxy has seen the caller's BYE and waits for the callee. -/
structure CallerLeft (state : Protocol) : Prop where
  caller : state.caller = .hungUp
  arrived : .bye ∉ state.fromCaller
  callee : (state.callee = .talking ∧ .bye ∈ state.toCallee) ∨
    (state.callee = .hungUp ∧ .bye ∈ state.fromCallee) ∨
    (state.callee = .ended ∧ .okBye ∈ state.fromCallee)

/-- The proxy has seen the callee's BYE and waits for the caller. -/
structure CalleeLeft (state : Protocol) : Prop where
  callee : state.callee = .hungUp
  arrived : .bye ∉ state.fromCallee
  caller : state.caller.Active ∨
    (state.caller = .hungUp ∧ .bye ∈ state.fromCaller) ∨
    (state.caller = .ended ∧ .okBye ∈ state.fromCaller)

def AccountsFor (state : Protocol) : Option CallState → Prop
  | none => True
  | some .init => False
  | some .trying => state.Opening ∧
      (state.callee ≠ .idle → .ringing ∈ state.fromCallee)
  | some .ringing => state.Opening
  | some .established => state.Established
  | some .terminated => state.CallerLeft ∨ state.CalleeLeft

structure Accounted (state : Protocol) : Prop where
  ordered : state.fromCallee.Pairwise (fun first last =>
    first.rank ≤ last.rank)
  reached : ∀ signal ∈ state.fromCallee, signal.rank ≤ state.callee.rank
  session : state.AccountsFor state.session

/-- The proxy does not route what its session has no transition for. -/
def Expected (state : Protocol) : Move → Prop
  | .deliver .fromCaller index =>
      ∀ rest, pick state.fromCaller index = some (.bye, rest) →
        state.session ≠ some .terminated
  | .deliver .fromCallee index => ∀ signal rest,
      pick state.fromCallee index = some (signal, rest) →
        (signal = .decline → state.session = none) ∧
        (signal = .bye → state.session ≠ some .terminated)
  | _ => True

/-- A move that leaves the session alone keeps what it accounts for. -/
theorem AccountsFor.imp
    {old new : Protocol} {session : Option CallState}
    (accounts : old.AccountsFor session)
    (opening : old.Opening → new.Opening)
    (coming : session = some .trying →
      (old.callee ≠ .idle → .ringing ∈ old.fromCallee) →
        new.callee ≠ .idle → .ringing ∈ new.fromCallee)
    (established : old.Established → new.Established)
    (callerLeft : old.CallerLeft → new.CallerLeft)
    (calleeLeft : old.CalleeLeft → new.CalleeLeft) :
    new.AccountsFor session := by
  cases session with
  | none => trivial
  | some held =>
      cases held with
      | init => exact accounts
      | trying => exact ⟨opening accounts.1, coming rfl accounts.2⟩
      | ringing => exact opening accounts
      | established => exact established accounts
      | terminated => exact Or.imp callerLeft calleeLeft accounts

/-! ## Actions of the users -/

theorem Ordinary.accounted_place
    (ordinary : Ordinary state) (accounted : Accounted state) :
    Accounted state.place := by
  unfold Protocol.place
  split_ifs with idle
  · have unknown := (ordinary.unplaced idle).2.1
    exact
      { ordered := accounted.ordered
        reached := accounted.reached
        session := by simp [AccountsFor, unknown] }
  · exact accounted

/-- What is sent last may rank highest. -/
theorem Accounted.ordered_sent
    (accounted : Accounted state) {signal : FromCallee}
    (next : state.callee.rank ≤ signal.rank) :
    (state.fromCallee ++ [signal]).Pairwise (fun first last =>
      first.rank ≤ last.rank) := by
  rw [List.pairwise_append]
  refine ⟨accounted.ordered, List.pairwise_singleton _ _, ?_⟩
  intro other member last same
  rw [List.mem_singleton] at same
  subst same
  exact (accounted.reached other member).trans next

theorem Accounted.reached_sent
    (accounted : Accounted state) {signal : FromCallee} {phase : CalleePhase}
    (next : state.callee.rank ≤ phase.rank)
    (last : signal.rank ≤ phase.rank) :
    ∀ other ∈ state.fromCallee ++ [signal], other.rank ≤ phase.rank := by
  intro other member
  rcases List.mem_append.mp member with before | now
  · exact (accounted.reached other before).trans next
  · rw [List.mem_singleton] at now
    subst now
    exact last

/-- A ringing callee has not been heard to answer, nor to leave. -/
theorem not_established_of_ringing
    (ringing : state.callee = .ringing) :
    ¬ state.Established ∧ ¬ state.CallerLeft ∧ ¬ state.CalleeLeft := by
  refine ⟨fun other => ?_, fun other => ?_, fun other => ?_⟩
  · have callee := other.callee
    simp [ringing] at callee
  · have callee := other.callee
    simp [ringing] at callee
  · have callee := other.callee
    simp [ringing] at callee

/-- A ringing callee replies to the INVITE, and leaves its phase with it. -/
theorem Accounted.replied
    (accounted : Accounted state) (ringing : state.callee = .ringing)
    {signal : FromCallee} {phase : CalleePhase}
    (next : CalleePhase.ringing.rank ≤ signal.rank)
    (last : signal.rank ≤ phase.rank)
    (opening : state.Opening → Opening
      { state with
        callee := phase, fromCallee := state.fromCallee ++ [signal] }) :
    Accounted { state with
      callee := phase, fromCallee := state.fromCallee ++ [signal] } := by
  obtain ⟨notEstablished, notCaller, notCallee⟩ :=
    not_established_of_ringing ringing
  rw [← ringing] at next
  constructor
  case ordered => exact accounted.ordered_sent next
  case reached => exact accounted.reached_sent (next.trans last) last
  case session =>
    apply accounted.session.imp
    case opening => exact opening
    case coming =>
      intro _ coming _
      exact List.mem_append_left _ (coming (by simp [ringing]))
    case established => exact fun other => absurd other notEstablished
    case callerLeft => exact fun other => absurd other notCaller
    case calleeLeft => exact fun other => absurd other notCallee

theorem accounted_answer (accounted : Accounted state) :
    Accounted state.answer := by
  unfold Protocol.answer
  split_ifs with ringing
  · refine accounted.replied ringing (by decide) (by decide) ?_
    intro opening
    exact
      { opening with
        accepted := fun _ => by simp
        declined := by simp }
  · exact accounted

theorem accounted_reject (accounted : Accounted state) :
    Accounted state.reject := by
  unfold Protocol.reject
  split_ifs with ringing
  · refine accounted.replied ringing (by decide) (by decide) ?_
    intro opening
    exact
      { opening with
        accepted := by simp
        declined := fun _ => by simp }
  · exact accounted

theorem accounted_callerHangsUp (accounted : Accounted state) :
    Accounted state.callerHangsUp := by
  unfold Protocol.callerHangsUp
  split_ifs with talking
  swap
  · exact accounted
  refine ⟨accounted.ordered, accounted.reached, ?_⟩
  apply accounted.session.imp
  case opening =>
    intro opening
    exact absurd (talking.symm.trans opening.caller) (by decide)
  case coming => exact fun _ => id
  case established =>
    intro established
    exact { established with caller := Or.inr ⟨rfl, by simp⟩ }
  case callerLeft =>
    intro left
    exact absurd (talking.symm.trans left.caller) (by decide)
  case calleeLeft =>
    intro left
    exact { left with caller := Or.inr (Or.inl ⟨rfl, by simp⟩) }

theorem accounted_calleeHangsUp (accounted : Accounted state) :
    Accounted state.calleeHangsUp := by
  unfold Protocol.calleeHangsUp
  split_ifs with talking
  swap
  · exact accounted
  constructor
  case ordered => exact accounted.ordered_sent (by simp [talking]; decide)
  case reached =>
    exact @accounted.reached_sent _ _ .hungUp (by rw [talking]; decide)
      (by decide)
  case session =>
    apply accounted.session.imp
    case opening =>
      intro opening
      have coming := opening.accepted (Or.inl talking)
      exact
        { opening with
          accepted := fun _ => List.mem_append_left _ coming
          declined := by simp }
    case coming =>
      intro _ coming _
      exact List.mem_append_left _ (coming (by simp [talking]))
    case established =>
      intro established
      exact { established with callee := Or.inr ⟨rfl, by simp⟩ }
    case callerLeft =>
      intro left
      exact { left with callee := Or.inr (Or.inl ⟨rfl, by simp⟩) }
    case calleeLeft =>
      intro left
      exact absurd (talking.symm.trans left.callee) (by decide)

/-! ## Deliveries -/

/-- The proxy opens the session with the INVITE. -/
theorem Ordinary.accounted_opens
    (ordinary : Ordinary state) {before after : List FromCaller}
    (taken : state.fromCaller = before ++ .invite :: after)
    (accounted : Accounted state) :
    Accounted (state.toProxyFromCaller .invite (before ++ after)) := by
  have flying := mem_of_taken taken
  obtain ⟨early, unknown⟩ := ordinary.fromCaller _ flying
  have placed : state.caller ≠ .idle := by
    intro idle
    rw [(ordinary.unplaced idle).2.2.1] at flying
    cases flying
  have waits := (ordinary.unanswered (by simp [Answered, early])).resolve_left
    placed
  refine ⟨accounted.ordered, accounted.reached, ?_⟩
  simp only [Protocol.toProxyFromCaller, unknown, relayCaller, AccountsFor]
  constructor
  · exact
      { caller := waits
        heard := by
          intro signal passed
          rw [List.append_nil] at passed
          exact absurd early (ordinary.rung_of_toCaller passed)
        accepted := by simp [early]
        declined := by simp [early] }
  · exact fun rung => absurd early rung

/-- The caller's BYE ends the session, which waits for the callee then. -/
theorem Ordinary.accounted_callerBye
    (ordinary : Ordinary state) {before after : List FromCaller}
    (taken : state.fromCaller = before ++ .bye :: after)
    (expected : state.session ≠ some .terminated)
    (accounted : Accounted state) :
    Accounted (state.toProxyFromCaller .bye (before ++ after)) := by
  have hungUp : state.caller = .hungUp :=
    ordinary.fromCaller _ (mem_of_taken taken)
  obtain ⟨arrived, -⟩ := not_mem_of_taken taken ordinary.callerBye
  have session := accounted.session
  refine ⟨accounted.ordered, accounted.reached, ?_⟩
  unfold Protocol.toProxyFromCaller
  dsimp only
  generalize known : state.session = held at session expected
  rcases held with - | held
  · trivial
  cases held with
  | init => exact session.elim
  | trying =>
      exact absurd (hungUp.symm.trans session.1.caller) (by decide)
  | ringing =>
      exact absurd (hungUp.symm.trans session.caller) (by decide)
  | established =>
      refine Or.inl ⟨hungUp, arrived, ?_⟩
      rcases session.callee with talking | left
      · exact Or.inl ⟨talking, by simp [relayCaller]⟩
      · exact Or.inr (Or.inl left)
  | terminated => exact absurd rfl expected

/-- The proxy passes an ACK on, and forgets a call that is over. -/
theorem accounted_ack
    {before after : List FromCaller}
    (taken : state.fromCaller = before ++ .ack :: after)
    (accounted : Accounted state) :
    Accounted (state.toProxyFromCaller .ack (before ++ after)) := by
  have session := accounted.session
  have stays : .bye ∈ state.fromCaller → .bye ∈ before ++ after :=
    mem_taken_of_ne taken (by decide)
  have staysOk : .okBye ∈ state.fromCaller → .okBye ∈ before ++ after :=
    mem_taken_of_ne taken (by decide)
  refine ⟨accounted.ordered, accounted.reached, ?_⟩
  unfold Protocol.toProxyFromCaller
  generalize state.session = held at session
  rcases held with - | held
  · trivial
  by_cases terminated : held = .terminated
  · simp [relayCaller, terminated, AccountsFor]
  simp only [relayCaller, if_neg terminated]
  apply session.imp
  case opening =>
    intro opening
    exact { opening with heard := by simpa using opening.heard }
  case coming => exact fun _ => id
  case established =>
    intro established
    exact
      { caller := established.caller.imp_right (And.imp_right stays)
        heard := by simpa using established.heard
        callee := established.callee }
  case callerLeft =>
    intro left
    exact
      { caller := left.caller
        arrived := fun sent => left.arrived (mem_of_mem_rest taken sent)
        callee := left.callee.imp_left
          (And.imp_right (List.mem_append_left _)) }
  case calleeLeft =>
    intro left
    exact
      { left with
        caller := left.caller.imp_right
          (Or.imp (And.imp_right stays) (And.imp_right staysOk)) }

theorem Ordinary.accounted_toProxyFromCaller
    (ordinary : Ordinary state) {signal : FromCaller}
    {before after : List FromCaller}
    (taken : state.fromCaller = before ++ signal :: after)
    (expected : signal = .bye → state.session ≠ some .terminated)
    (accounted : Accounted state) :
    Accounted (state.toProxyFromCaller signal (before ++ after)) := by
  cases signal with
  | invite => exact ordinary.accounted_opens taken accounted
  | bye => exact ordinary.accounted_callerBye taken (expected rfl) accounted
  | okBye =>
      refine ⟨accounted.ordered, accounted.reached, ?_⟩
      unfold Protocol.toProxyFromCaller
      cases state.session <;> trivial
  | ack => exact accounted_ack taken accounted

/-- The callee rings, and tells the caller. -/
theorem Ordinary.accounted_rings
    (ordinary : Ordinary state) {before after : List ToCallee}
    (taken : state.toCallee = before ++ .invite :: after)
    (accounted : Accounted state) :
    Accounted (state.calleeReceives .invite (before ++ after)) := by
  obtain ⟨early, known⟩ := ordinary.toCallee _ (mem_of_taken taken)
  have none : state.fromCallee = [] :=
    List.eq_nil_iff_forall_not_mem.mpr
      (fun _ flying => ordinary.rung_of_fromCallee flying early)
  have opening := accounted.session
  rw [known] at opening
  unfold Protocol.calleeReceives CalleePhase.receive
  rw [if_pos early, none]
  refine ⟨by simp [FromCallee.rank],
    by simp [FromCallee.rank, CalleePhase.rank], ?_⟩
  dsimp only
  rw [known]
  constructor
  · exact
      { caller := opening.1.caller
        heard := opening.1.heard
        accepted := by simp
        declined := by simp }
  · exact fun _ => by simp

/-- A callee that the BYE reaches answers it, unless it has left. -/
theorem Ordinary.accounted_calleeEnds
    (ordinary : Ordinary state) {before after : List ToCallee}
    (taken : state.toCallee = before ++ .bye :: after)
    (accounted : Accounted state) :
    Accounted (state.calleeReceives .bye (before ++ after)) := by
  have flying := mem_of_taken taken
  have hungUp : state.caller = .hungUp := ordinary.toCallee _ flying
  have arrived : .bye ∉ state.fromCaller := by
    have once := ordinary.callerBye
    rw [add_comm] at once
    exact List.count_eq_zero.mp (not_mem_of_taken taken once).2
  have notOpening : ¬ state.Opening := fun opening =>
    absurd (hungUp.symm.trans opening.caller) (by decide)
  have notEstablished : ¬ state.Established := by
    intro established
    rcases established.caller with active | ⟨-, sent⟩
    · rw [hungUp] at active
      exact absurd active (by decide)
    · exact arrived sent
  have answered := ordinary.answered_of_toCallee flying (by decide)
  have active : state.callee.Active ↔ state.callee = .talking :=
    or_iff_right answered.2
  unfold Protocol.calleeReceives CalleePhase.receive
  simp only [active]
  split_ifs with talking
  · constructor
    case ordered => exact accounted.ordered_sent (by rw [talking]; decide)
    case reached =>
      exact @accounted.reached_sent _ _ .ended (by rw [talking]; decide)
        (by decide)
    apply accounted.session.imp
    case opening => exact fun opening => absurd opening notOpening
    case coming =>
      intro _ coming _
      exact List.mem_append_left _ (coming answered.1)
    case established => exact fun other => absurd other notEstablished
    case callerLeft =>
      intro left
      exact { left with callee := Or.inr (Or.inr ⟨rfl, by simp⟩) }
    case calleeLeft =>
      intro left
      exact absurd (talking.symm.trans left.callee) (by decide)
  · simp only [List.append_nil]
    refine ⟨accounted.ordered, accounted.reached, ?_⟩
    apply accounted.session.imp
    case opening => exact fun opening => absurd opening notOpening
    case coming => exact fun _ => id
    case established => exact fun other => absurd other notEstablished
    case callerLeft =>
      intro left
      exact
        { left with
          callee := Or.inr (left.callee.resolve_left
            (fun talks => talking talks.1)) }
    case calleeLeft => exact fun left => { left with }

/-- Other signals do not move the callee. -/
theorem accounted_calleeHears
    {signal : ToCallee} {before after : List ToCallee}
    (taken : state.toCallee = before ++ signal :: after)
    (heard : state.callee.receive signal = (state.callee, []))
    (other : signal ≠ .bye)
    (accounted : Accounted state) :
    Accounted (state.calleeReceives signal (before ++ after)) := by
  unfold Protocol.calleeReceives
  rw [heard, List.append_nil]
  refine ⟨accounted.ordered, accounted.reached, ?_⟩
  apply accounted.session.imp
  case opening => exact fun opening => { opening with }
  case coming => exact fun _ => id
  case established => exact fun established => { established with }
  case callerLeft =>
    intro left
    exact
      { left with
        callee := left.callee.imp_left
          (And.imp_right (mem_taken_of_ne taken (Ne.symm other))) }
  case calleeLeft => exact fun left => { left with }

/-- The BYE comes to a callee that talks, or has left by itself. -/
theorem Ordinary.accounted_calleeReceives
    (ordinary : Ordinary state) {signal : ToCallee}
    {before after : List ToCallee}
    (taken : state.toCallee = before ++ signal :: after)
    (accounted : Accounted state) :
    Accounted (state.calleeReceives signal (before ++ after)) := by
  cases signal with
  | invite => exact ordinary.accounted_rings taken accounted
  | bye => exact ordinary.accounted_calleeEnds taken accounted
  | ack => exact accounted_calleeHears taken rfl (by decide) accounted
  | refusal => exact accounted_calleeHears taken rfl (by decide) accounted

/-! ### The proxy hears the callee -/

/-- The proxy hears an answer only after it has heard the ringing. -/
theorem Accounted.not_trying
    (accounted : Accounted state) {signal : FromCallee}
    {rest : List FromCallee}
    (first : state.fromCallee = signal :: rest)
    (rung : state.callee ≠ .idle) (late : FromCallee.ringing.rank < signal.rank) :
    state.session ≠ some .trying := by
  intro known
  have session := accounted.session
  have ordered := accounted.ordered
  rw [known] at session
  rw [first, List.pairwise_cons] at ordered
  have coming := session.2 rung
  rw [first] at coming
  rcases List.mem_cons.mp coming with rfl | behind
  · exact absurd late (lt_irrefl _)
  · exact absurd late (not_lt.mpr (ordered.1 _ behind))

/-- The proxy hears a BYE of the callee only after its answer. -/
theorem Accounted.not_opening
    (accounted : Accounted state) {rest : List FromCallee}
    (first : state.fromCallee = .bye :: rest)
    (hungUp : state.callee = .hungUp) :
    ¬ state.Opening := by
  intro opening
  have ordered := accounted.ordered
  have coming := opening.accepted (Or.inr hungUp)
  rw [first, List.pairwise_cons] at ordered
  rw [first] at coming
  rcases List.mem_cons.mp coming with same | behind
  · cases same
  · exact absurd (ordered.1 _ behind) (by decide)

section Heard

variable {signal : FromCallee} {rest : List FromCallee}

theorem Accounted.ordered_rest
    (accounted : Accounted state)
    (first : state.fromCallee = signal :: rest) :
    rest.Pairwise (fun first last => first.rank ≤ last.rank) ∧
      ∀ other ∈ rest, other.rank ≤ state.callee.rank := by
  have ordered := accounted.ordered
  have reached := accounted.reached
  rw [first] at ordered reached
  exact ⟨ordered.of_cons,
    fun other member => reached other (List.mem_cons_of_mem _ member)⟩

theorem toProxyFromCallee_held
    {held : CallState} (known : state.session = some held) :
    state.toProxyFromCallee signal rest =
      { state with
        session := (relayCallee (some held) signal).session
        fromCallee := rest
        toCaller := state.toCaller ++ [signal.passed] } := by
  cases signal <;>
    simp [toProxyFromCallee, known, relayCallee, FromCallee.passed]

/-- The links after the proxy has passed a response to the INVITE back. -/
abbrev passedBack (state : Protocol) (session : Option CallState)
    (signal : FromCallee) (rest : List FromCallee) : Protocol :=
  { state with
    session := session
    fromCallee := rest
    toCaller := state.toCaller ++ [signal.passed] }

variable {session : Option CallState}

theorem mem_rest_of_ne
    {other : FromCallee} (first : state.fromCallee = signal :: rest)
    (different : other ≠ signal) (flying : other ∈ state.fromCallee) :
    other ∈ rest :=
  @mem_taken_of_ne _ _ [] rest signal other first different flying

theorem Opening.passedBack
    (opening : state.Opening) (first : state.fromCallee = signal :: rest)
    (provisional : signal.passed.Provisional) :
    (state.passedBack session signal rest).Opening where
  caller := opening.caller
  heard := by
    intro other passed
    rcases List.mem_append.mp passed with before | now
    · exact opening.heard other before
    · rw [List.mem_singleton] at now
      exact now ▸ provisional
  accepted := by
    intro decided
    refine mem_rest_of_ne first ?_ (opening.accepted decided)
    rintro rfl
    exact absurd provisional (by decide)
  declined := by
    intro ended
    refine mem_rest_of_ne first ?_ (opening.declined ended)
    rintro rfl
    exact absurd provisional (by decide)

theorem Established.passedBack
    (established : state.Established)
    (first : state.fromCallee = signal :: rest)
    (response : signal.passed.Provisional ∨ signal = .ok) :
    (state.passedBack session signal rest).Established where
  caller := established.caller
  heard := by
    intro other passed
    rcases List.mem_append.mp passed with before | now
    · exact established.heard other before
    · rw [List.mem_singleton] at now
      subst now
      exact response.imp_right (fun ok => by rw [ok]; rfl)
  callee := by
    refine established.callee.imp_right (And.imp_right ?_)
    refine mem_rest_of_ne first ?_
    rintro rfl
    exact absurd response (by decide)

theorem CallerLeft.passedBack
    (left : state.CallerLeft) (first : state.fromCallee = signal :: rest)
    (response : signal.passed.Provisional ∨ signal = .ok) :
    (state.passedBack session signal rest).CallerLeft where
  caller := left.caller
  arrived := left.arrived
  callee := by
    refine left.callee.imp_right (Or.imp (And.imp_right ?_)
      (And.imp_right ?_))
    · refine mem_rest_of_ne first ?_
      rintro rfl
      exact absurd response (by decide)
    · refine mem_rest_of_ne first ?_
      rintro rfl
      exact absurd response (by decide)

theorem CalleeLeft.passedBack
    (left : state.CalleeLeft) (first : state.fromCallee = signal :: rest) :
    (state.passedBack session signal rest).CalleeLeft where
  callee := left.callee
  arrived := by
    have arrived := left.arrived
    rw [first] at arrived
    exact fun sent => arrived (List.mem_cons_of_mem _ sent)
  caller := left.caller

/-- A response that the session does not react to. -/
theorem AccountsFor.passedBack
    (accounts : state.AccountsFor session)
    (first : state.fromCallee = signal :: rest)
    (response : signal.passed.Provisional ∨ signal = .ok)
    (reacts : session = some .trying → signal = .trying)
    (opens : session = some .ringing → signal ≠ .ok) :
    (state.passedBack session signal rest).AccountsFor session := by
  cases session with
  | none => trivial
  | some held =>
      cases held with
      | init => exact accounts
      | trying =>
          obtain rfl := reacts rfl
          exact ⟨accounts.1.passedBack first (by decide), fun rung =>
            mem_rest_of_ne first (by decide) (accounts.2 rung)⟩
      | ringing =>
          exact Opening.passedBack accounts first
            (response.resolve_right (opens rfl))
      | established => exact Established.passedBack accounts first response
      | terminated =>
          exact Or.imp (fun left => left.passedBack first response)
            (fun left => left.passedBack first) accounts

/-- The callee has answered, and the session is established. -/
theorem Ordinary.established_of_ok
    (ordinary : Ordinary state) (opening : state.Opening)
    (first : state.fromCallee = .ok :: rest) :
    (state.passedBack session .ok rest).Established := by
  have accepted := ordinary.fromCallee .ok (by simp [first])
  have active : state.caller.Active := Or.inl opening.caller
  refine
    { caller := Or.inl active
      heard := ?_
      callee := ?_ }
  · intro other passed
    rcases List.mem_append.mp passed with before | now
    · exact Or.inl (opening.heard other before)
    · exact Or.inr (List.mem_singleton.mp now)
  · rcases accepted with talking | hungUp | ⟨hungUp, -⟩
    · exact Or.inl talking
    · refine Or.inr ⟨hungUp, mem_rest_of_ne first (by decide) ?_⟩
      -- The caller waits, so the BYE is not behind it.
      rcases (ordinary.told active).hungUp hungUp with sent | passed
      · exact sent
      · exact absurd (opening.heard _ passed) (by decide)
    · exact absurd (opening.caller.symm.trans hungUp) (by decide)

/-- The callee's BYE ends the session, which waits for the caller then. -/
theorem Ordinary.accounted_calleeBye
    (ordinary : Ordinary state) {held : CallState}
    (first : state.fromCallee = .bye :: rest)
    (known : state.session = some held) (expected : held ≠ .terminated)
    (accounted : Accounted state) :
    (state.passedBack (some (CallStateMachine.handleEvent held .bye))
      .bye rest).AccountsFor
        (some (CallStateMachine.handleEvent held .bye)) := by
  have flying : .bye ∈ state.fromCallee := by simp [first]
  have hungUp : state.callee = .hungUp := ordinary.fromCallee _ flying
  have session := accounted.session
  rw [known] at session
  cases held with
  | init => exact session.elim
  | trying =>
      exact absurd known
        (accounted.not_trying first (by simp [hungUp]) (by decide))
  | ringing => exact absurd session (accounted.not_opening first hungUp)
  | established =>
      have taken : state.fromCallee = [] ++ .bye :: rest := first
      exact Or.inr
        { callee := hungUp
          arrived := (not_mem_of_taken taken ordinary.calleeBye).1
          caller := session.caller.imp_right Or.inl }
  | terminated => exact absurd rfl expected

theorem Ordinary.accounted_toProxyFromCallee
    (ordinary : Ordinary state)
    (first : state.fromCallee = signal :: rest)
    (notDecline : signal = .decline → state.session = none)
    (expected : signal = .bye → state.session ≠ some .terminated)
    (accounted : Accounted state) :
    Accounted (state.toProxyFromCallee signal rest) := by
  obtain ⟨ordered, reached⟩ := accounted.ordered_rest first
  refine ⟨ordered, reached, ?_⟩
  have session := accounted.session
  have rung := ordinary.rung_of_fromCallee
    (show signal ∈ state.fromCallee by simp [first])
  cases known : state.session with
  | none =>
      have forgotten : (relayCallee none signal).session = none := by
        cases signal <;> rfl
      simp only [Protocol.toProxyFromCallee, known, forgotten]
      trivial
  | some held =>
      rw [known] at session
      rw [toProxyFromCallee_held known]
      cases signal with
      | trying =>
          have same :
              CallStateMachine.handleEvent held .trying100 = held := by
            cases held <;> rfl
          simp only [relayCallee, noted, same]
          exact session.passedBack first (by decide) (fun _ => rfl)
            (fun _ => by decide)
      | ringing =>
          by_cases opens : held = .trying
          · subst opens
            exact Opening.passedBack session.1 first (by decide)
          · have same :
                CallStateMachine.handleEvent held .ringing180 = held := by
              cases held <;> first | rfl | exact absurd rfl opens
            simp only [relayCallee, noted, same]
            exact session.passedBack first (by decide)
              (fun trying => absurd (Option.some.inj trying) opens)
              (fun _ => by decide)
      | ok =>
          have notTrying := accounted.not_trying first rung (by decide)
          by_cases rings : held = .ringing
          · subst rings
            exact ordinary.established_of_ok session first
          · have same :
                CallStateMachine.handleEvent held .ok200 = held := by
              cases held <;> first | rfl | exact absurd rfl rings
            simp only [relayCallee, noted, same]
            exact session.passedBack first (by decide)
              (fun trying => absurd (known.trans trying) notTrying)
              (fun ringing => absurd (Option.some.inj ringing) rings)
      | decline =>
          exact absurd (known.symm.trans (notDecline rfl)) (by simp)
      | bye =>
          have notOver : held ≠ .terminated := by
            rintro rfl
            exact expected rfl known
          exact ordinary.accounted_calleeBye first known notOver accounted
      | okBye => trivial

end Heard

/-! ### The caller -/

section Caller

variable {signal : ToCaller} {before after : List ToCaller}

/-- A caller that stays in the call keeps what the session accounts for. -/
theorem AccountsFor.stays
    {session : Option CallState} {phase : CallerPhase}
    {sent : List FromCaller}
    (accounts : state.AccountsFor session)
    (taken : state.toCaller = before ++ signal :: after)
    (active : state.caller.Active) (stays : phase.Active)
    (opens : signal.Provisional → phase = .waiting) :
    { state with
      caller := phase
      toCaller := before ++ after
      fromCaller := state.fromCaller ++ sent : Protocol }.AccountsFor
        session := by
  have flying := mem_of_taken taken
  apply accounts.imp
  case opening =>
    intro opening
    exact
      { opening with
        caller := opens (opening.heard signal flying)
        heard := fun other left =>
          opening.heard other (mem_of_mem_rest taken left) }
  case coming => exact fun _ => id
  case established =>
    intro established
    exact
      { established with
        caller := Or.inl stays
        heard := fun other left =>
          established.heard other (mem_of_mem_rest taken left) }
  case callerLeft =>
    intro left
    rw [left.caller] at active
    exact absurd active (by decide)
  case calleeLeft =>
    exact fun left => { left with caller := Or.inl stays }

/-- A caller that leaves has heard why, so the session is not open. -/
theorem AccountsFor.leaves
    {session : Option CallState}
    {sent : List FromCaller}
    (accounts : state.AccountsFor session)
    (flying : signal ∈ state.toCaller)
    (final : ¬ (signal.Provisional ∨ signal = .ok))
    (active : state.caller.Active)
    (answers : state.callee = .hungUp → .okBye ∈ sent) :
    { state with
      caller := .ended
      toCaller := before ++ after
      fromCaller := state.fromCaller ++ sent : Protocol }.AccountsFor
        session := by
  apply accounts.imp
  case opening =>
    exact fun opening => absurd (Or.inl (opening.heard signal flying)) final
  case coming => exact fun _ => id
  case established =>
    exact fun established =>
      absurd (established.heard signal flying) final
  case callerLeft =>
    intro left
    rw [left.caller] at active
    exact absurd active (by decide)
  case calleeLeft =>
    exact fun left =>
      { left with
        caller := Or.inr (Or.inr
          ⟨rfl, List.mem_append_right _ (answers left.callee)⟩) }

/-- A caller that is not in the call only takes the signal out. -/
theorem AccountsFor.ignores
    {session : Option CallState}
    (accounts : state.AccountsFor session)
    (taken : state.toCaller = before ++ signal :: after) :
    { state with
      toCaller := before ++ after : Protocol }.AccountsFor session := by
  apply accounts.imp
  case opening =>
    exact fun opening =>
      { opening with
        heard := fun other left =>
          opening.heard other (mem_of_mem_rest taken left) }
  case coming => exact fun _ => id
  case established =>
    exact fun established =>
      { established with
        heard := fun other left =>
          established.heard other (mem_of_mem_rest taken left) }
  case callerLeft => exact fun left => { left with }
  case calleeLeft => exact fun left => { left with }

theorem Ordinary.accounted_callerReceives
    (ordinary : Ordinary state)
    (taken : state.toCaller = before ++ signal :: after)
    (accounted : Accounted state) :
    Accounted (state.callerReceives signal (before ++ after)) := by
  have flying := mem_of_taken taken
  have meaning := ordinary.toCaller signal flying
  have session := accounted.session
  refine ⟨accounted.ordered, accounted.reached, ?_⟩
  unfold Protocol.callerReceives CallerPhase.receive
  split_ifs with active
  swap
  · simpa only [List.append_nil] using session.ignores taken
  cases signal with
  | trying | ringing =>
      exact session.stays taken active (by decide) (fun _ => rfl)
  | ok => exact session.stays taken active (by decide) (by decide)
  | decline =>
      refine session.leaves flying (by decide) active (fun hungUp => ?_)
      exact absurd (hungUp.symm.trans meaning.1) (by decide)
  | bye =>
      exact session.leaves flying (by decide) active (fun _ => by simp)
  | okBye =>
      rcases meaning.2 with left | left
      · rw [left] at active
        exact absurd active (by decide)
      · rw [left] at active
        exact absurd active (by decide)
  | refusal =>
      dsimp only
      rw [meaning.2]
      trivial

end Caller

/-! ## Runs -/

theorem Ordinary.accounted_step
    (ordinary : Ordinary state) {move : Move}
    (inOrder : move.InOrder) (expected : state.Expected move)
    (accounted : Accounted state) :
    Accounted (state.step move) := by
  cases move with
  | place => exact ordinary.accounted_place accounted
  | answer => exact accounted_answer accounted
  | reject => exact accounted_reject accounted
  | callerHangsUp => exact accounted_callerHangsUp accounted
  | calleeHangsUp => exact accounted_calleeHangsUp accounted
  | deliver link index =>
      cases link
      case fromCallee =>
        refine handOver_keeps accounted (fun taken rest picked => ?_)
        obtain ⟨notDecline, notTwice⟩ := expected taken rest picked
        obtain rfl : index = 0 := inOrder
        exact ordinary.accounted_toProxyFromCallee (pick_first picked)
          notDecline notTwice accounted
      all_goals
        refine handOver_keeps accounted (fun taken rest picked => ?_)
        obtain ⟨before, after, split, rfl⟩ := pick_split picked
      case fromCaller =>
        refine ordinary.accounted_toProxyFromCaller split ?_ accounted
        rintro rfl
        exact expected _ picked
      case toCallee => exact ordinary.accounted_calleeReceives split accounted
      case toCaller => exact ordinary.accounted_callerReceives split accounted

/-- With no signal in flight and no client in the call, the proxy is free. -/
theorem Accounted.released_of_quiet
    (accounted : Accounted state) (quiet : state.Quiet)
    (caller : ¬ state.caller.Active) :
    state.session = none := by
  have session := accounted.session
  cases known : state.session with
  | none => rfl
  | some held =>
      rw [known] at session
      exfalso
      cases held with
      | init => exact session
      | trying => exact caller (Or.inl session.1.caller)
      | ringing => exact caller (Or.inl session.caller)
      | established =>
          rcases session.caller with active | ⟨-, sent⟩
          · exact caller active
          · simp [quiet.fromCaller] at sent
      | terminated =>
          rcases session with left | left
          · have coming := left.callee
            simp [quiet.toCallee, quiet.fromCallee] at coming
          · have coming := left.caller
            simp [quiet.fromCaller, caller] at coming

theorem accounted_initial : Accounted {} := by
  refine ⟨List.Pairwise.nil, by simp, trivial⟩

end Protocol

end MinimalSip.Calls

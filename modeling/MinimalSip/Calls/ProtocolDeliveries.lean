import MinimalSip.Calls.ProtocolInvariants

/-!
# Deliveries keep what signals mean

A delivery takes one signal out of its link.  What the receiving party does
keeps `Ordinary`, and so does every move.
-/

namespace MinimalSip.Calls

open MinimalSip.Lib.Links
open MinimalSip.Proxy

namespace Protocol

variable {state : Protocol}

/-! ## Deliveries to the clients -/

section Deliveries

theorem mem_of_taken
    {α : Type} {link before after : List α} {signal : α}
    (taken : link = before ++ signal :: after) : signal ∈ link := by
  simp [taken]

/-- Taking out a signal that was in flight once leaves none. -/
theorem not_mem_of_taken
    {α : Type} [DecidableEq α] {link before after : List α} {signal : α}
    {others : Nat}
    (taken : link = before ++ signal :: after)
    (once : link.count signal + others ≤ 1) :
    signal ∉ before ++ after ∧ others = 0 := by
  subst taken
  simp only [List.count_append, List.count_cons_self] at once
  refine ⟨?_, by omega⟩
  rw [← List.count_eq_zero, List.count_append]
  omega

/-- Taking out a signal does not add to any count. -/
theorem count_taken_le
    {α : Type} [DecidableEq α] {link before after : List α} {signal : α}
    (taken : link = before ++ signal :: after) (other : α) :
    (before ++ after).count other ≤ link.count other := by
  subst taken
  simp only [List.count_append, List.count_cons]
  omega

theorem mem_taken_of_ne
    {α : Type} {link before after : List α} {signal other : α}
    (taken : link = before ++ signal :: after) (different : other ≠ signal)
    (flying : other ∈ link) : other ∈ before ++ after := by
  subst taken
  simpa [different] using flying

theorem Ordinary.later_callerReceives
    (ordinary : Ordinary state) {signal : ToCaller}
    (flying : signal ∈ state.toCaller) (rest : List ToCaller) :
    Later state (state.callerReceives signal rest) := by
  have meaning := ordinary.toCaller signal flying
  unfold Protocol.callerReceives CallerPhase.receive
  split_ifs with active
  · cases signal <;> constructor <;>
      grind [MeansToCaller, Answered, CallerPhase.Active]
  · constructor <;> simp +contextual [Answered]

theorem Ordinary.later_calleeReceives
    (ordinary : Ordinary state) {signal : ToCallee}
    (flying : signal ∈ state.toCallee) (rest : List ToCallee) :
    Later state (state.calleeReceives signal rest) := by
  have meaning := ordinary.toCallee signal flying
  unfold Protocol.calleeReceives CalleePhase.receive
  cases signal with
  | invite =>
      have early : state.callee = .idle := meaning.1
      constructor <;> simp [early, Answered]
  | bye =>
      have gone : state.caller = .hungUp := meaning
      dsimp only
      split_ifs with active
      · constructor <;> grind [CalleePhase.Active, Answered]
      · constructor <;> simp +contextual [Answered]
  | ack => constructor <;> simp +contextual [Answered]
  | refusal => constructor <;> simp +contextual [Answered]

theorem Ordinary.callerReceives
    (ordinary : Ordinary state) {signal : ToCaller}
    {before after : List ToCaller}
    (taken : state.toCaller = before ++ signal :: after) :
    Ordinary (state.callerReceives signal (before ++ after)) := by
  have flying := mem_of_taken taken
  have rung := ordinary.rung_of_toCaller flying
  have placed := ordinary.placed rung
  have later := ordinary.later_callerReceives flying (before ++ after)
  have meaning := ordinary.toCaller signal flying
  have unanswered := ordinary.unanswered
  have once := ordinary.callerBye
  have onceBack := ordinary.calleeBye
  have fewer := count_taken_le taken .bye
  have arrived := ordinary.byeArrived rung
  have told := ordinary.told
  unfold Protocol.callerReceives CallerPhase.receive at later ⊢
  split_ifs at later ⊢ with active
  · cases signal
    case trying | ringing =>
      apply ordinary.of_later later rung
      case unanswered => simp
      case fromCaller => exact mem_or_of_append (by simp)
      case toCallee => exact mem_or_of_same
      case fromCallee => exact mem_or_of_same
      case toCaller => exact mem_or_of_taken taken
      case callerBye => simpa using once
      case calleeBye => exact (Nat.add_le_add_left fewer _).trans onceBack
      case byeArrived =>
        intro isOver
        rcases arrived isOver with ⟨hungUp, -⟩ | arrived
        · rw [hungUp] at active
          exact absurd active (by decide)
        · exact Or.inr arrived
      case told =>
        intro _
        constructor
        · intro hungUp
          exact ((told active).hungUp hungUp).imp_right
            (mem_taken_of_ne taken (by decide))
        · intro ended
          exact ⟨rfl, ((told active).declined ended).2.imp_right
            (mem_taken_of_ne taken (by decide))⟩
    case ok | decline | bye | okBye | refusal =>
      apply ordinary.of_later later rung
      case unanswered => grind [Answered, MeansToCaller]
      case fromCaller =>
        apply mem_or_of_append
        grind [MeansFromCaller, MeansToCaller, Answered, CallerPhase.Active]
      case toCallee => exact mem_or_of_same
      case fromCallee => exact mem_or_of_same
      case toCaller => exact mem_or_of_taken taken
      case callerBye => simpa using once
      case calleeBye => exact (Nat.add_le_add_left fewer _).trans onceBack
      case byeArrived => grind [ByeArrived, CallerPhase.Active]
      case told =>
        intro _
        constructor <;>
          grind [Told, CallerPhase.Active, MeansToCaller, Answered]
  · apply ordinary.of_later later rung
    case unanswered =>
      exact fun other => (unanswered other).resolve_left placed
    case fromCaller => exact mem_or_of_append (by simp)
    case toCallee => exact mem_or_of_same
    case fromCallee => exact mem_or_of_same
    case toCaller => exact mem_or_of_taken taken
    case callerBye => simpa using once
    case calleeBye => exact (Nat.add_le_add_left fewer _).trans onceBack
    case byeArrived => simpa [ByeArrived] using arrived
    case told => exact fun again => absurd again active

/-- The INVITE is in flight at one place only. -/
theorem Ordinary.invite_arrives
    (ordinary : Ordinary state) {before after : List ToCallee}
    (taken : state.toCallee = before ++ .invite :: after) :
    .invite ∉ before ++ after ∧ .invite ∉ state.fromCaller := by
  have once := ordinary.oneInvite
  rw [add_comm] at once
  obtain ⟨gone, none⟩ := not_mem_of_taken taken once
  exact ⟨gone, List.count_eq_zero.mp none⟩

/-- The callee rings. -/
theorem Ordinary.rings
    (ordinary : Ordinary state) {before after : List ToCallee}
    (taken : state.toCallee = before ++ .invite :: after) :
    Ordinary (state.calleeReceives .invite (before ++ after)) := by
  have flying := mem_of_taken taken
  obtain ⟨early, held⟩ := ordinary.toCallee _ flying
  have later := ordinary.later_calleeReceives flying (before ++ after)
  obtain ⟨gone, noneSent⟩ := ordinary.invite_arrives taken
  have placed : state.caller ≠ .idle := by
    intro idle
    rw [(ordinary.unplaced idle).2.2.2] at flying
    cases flying
  have waits := (ordinary.unanswered (by simp [Answered, early])).resolve_left
    placed
  unfold Protocol.calleeReceives CalleePhase.receive at later ⊢
  rw [if_pos early] at later ⊢
  constructor
  case unplaced => exact fun idle => absurd idle placed
  case unanswered => exact fun _ => Or.inr waits
  case fromCaller =>
    intro signal sent
    have other : signal ≠ .invite := by
      rintro rfl
      exact noneSent sent
    exact later.meansFromCaller other (ordinary.fromCaller signal sent)
  case toCallee =>
    intro signal passed
    have other : signal ≠ .invite := by
      rintro rfl
      exact gone passed
    have old := mem_of_mem_rest taken passed
    exact later.meansToCallee other (ordinary.toCallee signal old)
  case fromCallee =>
    intro signal sent
    rcases List.mem_append.mp sent with old | fresh
    · exact later.meansFromCallee (ordinary.fromCallee signal old)
    · revert fresh
      cases signal <;> simp [MeansFromCallee]
  case toCaller =>
    intro signal passed
    exact later.meansToCaller (ordinary.toCaller signal passed)
  case oneInvite =>
    rw [List.count_eq_zero_of_not_mem gone,
      List.count_eq_zero_of_not_mem noneSent]
    exact Nat.zero_le 1
  case callerBye =>
    exact (Nat.add_le_add_left (count_taken_le taken .bye) _).trans
      ordinary.callerBye
  case calleeBye => simpa using ordinary.calleeBye
  case byeArrived => simp [Over, held]
  case told => exact fun _ => ⟨by simp, by simp⟩

/-- The callee receives anything but the INVITE. -/
theorem Ordinary.calleeHears
    (ordinary : Ordinary state) {signal : ToCallee}
    {before after : List ToCallee}
    (taken : state.toCallee = before ++ signal :: after)
    (other : signal ≠ .invite) :
    Ordinary (state.calleeReceives signal (before ++ after)) := by
  have flying := mem_of_taken taken
  have answered := ordinary.answered_of_toCallee flying other
  have rung := answered.1
  have later := ordinary.later_calleeReceives flying (before ++ after)
  have meaning := ordinary.toCallee signal flying
  have once := ordinary.callerBye
  have onceBack := ordinary.calleeBye
  have fewer := count_taken_le taken .bye
  have arrived := ordinary.byeArrived rung
  have told := ordinary.told
  have answeredLater := later.answered answered
  cases signal
  case invite => exact absurd rfl other
  case ack | refusal =>
    apply ordinary.of_later later rung
    case unanswered => exact fun early => absurd answeredLater early
    case fromCaller => exact mem_or_of_same
    case toCallee => exact mem_or_of_taken taken
    case fromCallee => exact mem_or_of_append (by simp [CalleePhase.receive])
    case toCaller => exact mem_or_of_same
    case callerBye => exact (Nat.add_le_add_left fewer _).trans once
    case calleeBye => simpa [Protocol.calleeReceives, CalleePhase.receive]
    case byeArrived =>
      simpa [ByeArrived, Protocol.calleeReceives, CalleePhase.receive]
        using arrived
    case told =>
      intro active
      have before := told active
      constructor
      · simpa [Protocol.calleeReceives, CalleePhase.receive]
          using before.hungUp
      · simpa [Protocol.calleeReceives, CalleePhase.receive]
          using before.declined
  case bye =>
    have gone : state.caller = .hungUp := meaning
    rw [add_comm] at once
    obtain ⟨noneLeft, noneSent⟩ := not_mem_of_taken taken once
    have noneSent := List.count_eq_zero.mp noneSent
    unfold Protocol.calleeReceives CalleePhase.receive at later answeredLater ⊢
    dsimp only at later answeredLater ⊢
    split_ifs at later answeredLater ⊢ with active
    all_goals
      apply ordinary.of_later later rung
      case unanswered => exact fun early => absurd answeredLater early
      case fromCaller => exact mem_or_of_same
      case toCallee => exact mem_or_of_taken taken
      case fromCallee =>
        exact mem_or_of_append (by simp [MeansFromCallee, gone, noneSent])
      case toCaller => exact mem_or_of_same
      case callerBye =>
        exact (Nat.add_le_add_left fewer _).trans ordinary.callerBye
      case calleeBye => simpa using onceBack
      case byeArrived => exact fun _ => Or.inl ⟨gone, noneSent⟩
      case told => simp [gone, CallerPhase.Active]

theorem Ordinary.calleeReceives
    (ordinary : Ordinary state) {signal : ToCallee}
    {before after : List ToCallee}
    (taken : state.toCallee = before ++ signal :: after) :
    Ordinary (state.calleeReceives signal (before ++ after)) := by
  by_cases invite : signal = .invite
  · subst invite
    exact ordinary.rings taken
  · exact ordinary.calleeHears taken invite

/-! ## Deliveries to the proxy -/

theorem Ordinary.later_toProxyFromCaller
    (ordinary : Ordinary state) {signal : FromCaller}
    {before after : List FromCaller}
    (taken : state.fromCaller = before ++ signal :: after) :
    Later state (state.toProxyFromCaller signal (before ++ after)) := by
  have meaning := ordinary.fromCaller signal (mem_of_taken taken)
  unfold Protocol.toProxyFromCaller
  constructor
  case released =>
    intro answered none
    cases signal <;>
      simp_all [relayCaller, MeansFromCaller, Answered]
  case callerBye => simp_all
  all_goals simp +contextual [Answered]

theorem later_toProxyFromCallee
    {signal : FromCallee} {before after : List FromCallee}
    (taken : state.fromCallee = before ++ signal :: after) :
    Later state (state.toProxyFromCallee signal (before ++ after)) := by
  unfold Protocol.toProxyFromCallee
  constructor
  case released =>
    intro _ none
    cases signal <;> simp_all [relayCallee]
  case calleeBye => simp_all
  all_goals simp +contextual [Answered]

/-- The proxy opens the call. -/
theorem Ordinary.opens
    (ordinary : Ordinary state) {before after : List FromCaller}
    (taken : state.fromCaller = before ++ .invite :: after) :
    Ordinary (state.toProxyFromCaller .invite (before ++ after)) := by
  have flying := mem_of_taken taken
  obtain ⟨early, unknown⟩ := ordinary.fromCaller _ flying
  obtain ⟨gone, nonePassed⟩ := not_mem_of_taken taken ordinary.oneInvite
  have nonePassed := List.count_eq_zero.mp nonePassed
  have later := ordinary.later_toProxyFromCaller taken
  simp only [Protocol.toProxyFromCaller, unknown, relayCaller,
    List.append_nil] at later ⊢
  constructor
  case unplaced =>
    intro idle
    rw [(ordinary.unplaced idle).2.2.1] at flying
    cases flying
  case unanswered => exact fun _ => ordinary.unanswered (by simp [Answered, early])
  case fromCaller =>
    intro signal sent
    have other : signal ≠ .invite := by
      rintro rfl
      exact gone sent
    have old := mem_of_mem_rest taken sent
    exact later.meansFromCaller other (ordinary.fromCaller signal old)
  case toCallee =>
    intro signal passed
    rcases List.mem_append.mp passed with old | fresh
    · have other : signal ≠ .invite := by
        rintro rfl
        exact nonePassed old
      exact later.meansToCallee other (ordinary.toCallee signal old)
    · rw [List.mem_singleton] at fresh
      subst fresh
      exact ⟨early, rfl⟩
  case fromCallee =>
    intro signal sent
    exact absurd early (ordinary.rung_of_fromCallee sent)
  case toCaller =>
    intro signal passed
    exact absurd early (ordinary.rung_of_toCaller passed)
  case oneInvite =>
    simp [List.count_eq_zero_of_not_mem gone,
      List.count_eq_zero_of_not_mem nonePassed]
  case callerBye =>
    have fewer := count_taken_le taken .bye
    simpa using (Nat.add_le_add_right fewer _).trans ordinary.callerBye
  case calleeBye => exact ordinary.calleeBye
  case byeArrived => exact fun rung => absurd early rung
  case told => exact fun _ => ⟨by simp [early], by simp [early]⟩

section Relays

variable {session : Option CallState}

theorem relayCaller_toCallee
    {signal : FromCaller} (other : signal ≠ .invite) :
    ∀ passed ∈ (relayCaller session signal).toCallee,
      (signal = .ack ∧ passed = .ack) ∨ (signal = .bye ∧ passed = .bye) := by
  cases signal <;> cases session <;> simp_all [relayCaller]

theorem relayCaller_toCaller
    {signal : FromCaller} (other : signal ≠ .invite) :
    ∀ passed ∈ (relayCaller session signal).toCaller,
      (passed = .refusal ∧ (relayCaller session signal).session = none) ∨
        (signal = .okBye ∧ passed = .okBye) := by
  cases signal <;> cases session <;> simp_all [relayCaller]

theorem relayCaller_bye (signal : FromCaller) :
    (relayCaller session signal).toCallee.count .bye ≤
        [signal].count .bye ∧
      (relayCaller session signal).toCaller.count .bye = 0 := by
  cases signal <;> cases session <;> simp [relayCaller]

/-- The proxy forgets a call with a BYE, a response to one, or an ACK later. -/
theorem over_relayCaller
    {signal : FromCaller} (other : signal ≠ .invite)
    (isOver : Over (relayCaller session signal).session) :
    Over session ∨ signal = .bye ∨ signal = .okBye := by
  cases signal with
  | invite => exact absurd rfl other
  | ack =>
      cases session with
      | none => exact Or.inl isOver
      | some state =>
          by_cases terminated : state = .terminated
          · exact Or.inl (Or.inr (by rw [terminated]))
          · exact Or.inl (by simpa [relayCaller, terminated] using isOver)
  | bye => exact Or.inr (Or.inl rfl)
  | okBye => exact Or.inr (Or.inr rfl)

theorem relayCallee_toCallee (signal : FromCallee) :
    ∀ passed ∈ (relayCallee session signal).toCallee,
      signal = .bye ∧ passed = .refusal := by
  cases signal <;> cases session <;> simp [relayCallee]

theorem relayCallee_toCaller (signal : FromCallee) :
    (relayCallee session signal).toCaller =
      if session = none then [] else [signal.passed] := by
  cases signal <;> cases session <;> rfl

theorem over_relayCallee
    {signal : FromCallee}
    (isOver : Over (relayCallee session signal).session) :
    Over session ∨ signal = .bye ∨ signal = .okBye := by
  cases session with
  | none => exact Or.inl (Or.inl rfl)
  | some state =>
      cases signal <;> cases state <;>
        simp_all [relayCallee, Over, CallStateMachine.handleEvent]

theorem bye_passed (signal : FromCallee) :
    signal.passed = .bye ↔ signal = .bye := by
  cases signal <;> simp [FromCallee.passed]

end Relays

/-- The proxy passes on what the caller sends in the call. -/
theorem Ordinary.passesOn
    (ordinary : Ordinary state) {signal : FromCaller}
    {before after : List FromCaller}
    (taken : state.fromCaller = before ++ signal :: after)
    (other : signal ≠ .invite) :
    Ordinary (state.toProxyFromCaller signal (before ++ after)) := by
  have flying := mem_of_taken taken
  have answered := ordinary.answered_of_fromCaller flying other
  have later := ordinary.later_toProxyFromCaller taken
  have answeredLater := later.answered answered
  have meaning := ordinary.fromCaller signal flying
  have noneLeft : .bye ∉ state.fromCaller → .bye ∉ before ++ after :=
    fun none left => none (mem_of_mem_rest taken left)
  obtain ⟨byePassed, noByeBack⟩ :=
    @relayCaller_bye state.session signal
  apply ordinary.of_later later answered.1
  case unanswered => exact fun early => absurd answeredLater early
  case fromCaller => exact mem_or_of_taken taken
  case toCallee =>
    apply mem_or_of_append
    intro passed member
    rcases relayCaller_toCallee other passed member with
      ⟨-, rfl⟩ | ⟨rfl, rfl⟩
    · exact ⟨by decide, answeredLater⟩
    · exact ⟨by decide, meaning⟩
  case fromCallee => exact mem_or_of_same
  case toCaller =>
    apply mem_or_of_append
    intro passed member
    rcases relayCaller_toCaller other passed member with
      ⟨rfl, forgotten⟩ | ⟨rfl, rfl⟩
    · exact ⟨answeredLater, forgotten⟩
    · exact ⟨answeredLater, Or.inr meaning.1⟩
  case callerBye =>
    have once := ordinary.callerBye
    rw [taken, List.count_append, List.count_cons] at once
    simp only [Protocol.toProxyFromCaller, List.count_append]
    rw [List.count_singleton] at byePassed
    omega
  case calleeBye =>
    simp only [Protocol.toProxyFromCaller, List.count_append, noByeBack]
    exact ordinary.calleeBye
  case byeArrived =>
    intro isOver
    rcases over_relayCaller other isOver with before | rfl | rfl
    · exact (ordinary.byeArrived answered.1 before).imp_left
        (And.imp_right noneLeft)
    · exact Or.inl ⟨meaning, (not_mem_of_taken taken ordinary.callerBye).1⟩
    · exact Or.inr meaning.2
  case told =>
    intro active
    have told := ordinary.told active
    constructor
    · intro hungUp
      exact (told.hungUp hungUp).imp_right (List.mem_append_left _)
    · intro ended
      exact (told.declined ended).imp_right
        (Or.imp_right (List.mem_append_left _))

/-- What a signal of the callee means, the caller learns from it. -/
theorem means_passed
    {signal : FromCallee} (meaning : state.MeansFromCallee signal) :
    state.MeansToCaller signal.passed := by
  cases signal with
  | trying => exact meaning
  | ringing => exact meaning
  | ok => exact meaning
  | decline => exact meaning
  | bye => exact meaning
  | okBye =>
      have answered : state.Answered := by simp [Answered, meaning.1]
      exact ⟨answered, Or.inl meaning.2.1⟩

/-- As long as the proxy holds the call, signals of the callee get through. -/
theorem moves_on
    {signal other : FromCallee} {before after : List FromCallee}
    (taken : state.fromCallee = before ++ signal :: after)
    (held : state.session ≠ none)
    (flying : other ∈ state.fromCallee ∨ other.passed ∈ state.toCaller) :
    other ∈ before ++ after ∨ other.passed ∈ state.toCaller ++
      (relayCallee state.session signal).toCaller := by
  rw [relayCallee_toCaller, if_neg held]
  rcases flying with sent | passed
  · by_cases same : other = signal
    · subst same
      exact Or.inr (by simp)
    · exact Or.inl (mem_taken_of_ne taken same sent)
  · exact Or.inr (List.mem_append_left _ passed)

/-- The proxy passes on what the callee sends. -/
theorem Ordinary.passesBack
    (ordinary : Ordinary state) {signal : FromCallee}
    {before after : List FromCallee}
    (taken : state.fromCallee = before ++ signal :: after) :
    Ordinary (state.toProxyFromCallee signal (before ++ after)) := by
  have flying := mem_of_taken taken
  have rung := ordinary.rung_of_fromCallee flying
  have later := later_toProxyFromCallee taken
  have meaning := ordinary.fromCallee signal flying
  have noneLeft : .bye ∉ state.fromCallee → .bye ∉ before ++ after :=
    fun none left => none (mem_of_mem_rest taken left)
  have passes := @relayCallee_toCaller state.session signal
  apply ordinary.of_later later rung
  case unanswered =>
    intro early
    have before : ¬ state.Answered := fun answered =>
      early (later.answered answered)
    exact (ordinary.unanswered before).resolve_left (ordinary.placed rung)
  case fromCaller => exact mem_or_of_same
  case toCallee =>
    apply mem_or_of_append
    intro passed member
    obtain ⟨rfl, rfl⟩ := relayCallee_toCallee signal passed member
    exact ⟨by decide, meaning⟩
  case fromCallee => exact mem_or_of_taken taken
  case toCaller =>
    apply mem_or_of_append
    intro passed member
    rw [passes] at member
    split_ifs at member with unknown
    · cases member
    · rw [List.mem_singleton] at member
      subst member
      exact means_passed (later.meansFromCallee meaning)
  case callerBye =>
    have refused : (relayCallee state.session signal).toCallee.count .bye =
        0 := by
      apply List.count_eq_zero_of_not_mem
      intro passed
      cases (relayCallee_toCallee signal _ passed).2
    simp only [Protocol.toProxyFromCallee, List.count_append, refused]
    exact ordinary.callerBye
  case calleeBye =>
    have once := ordinary.calleeBye
    rw [taken, List.count_append, List.count_cons] at once
    simp only [Protocol.toProxyFromCallee, passes, List.count_append]
    split_ifs with unknown
    · simp only [List.count_nil]
      omega
    · rw [List.count_singleton]
      by_cases bye : signal = .bye
      · subst bye
        simp [FromCallee.passed] at once ⊢
        omega
      · simp [bye_passed, bye] at once ⊢
        omega
  case byeArrived =>
    intro isOver
    rcases over_relayCallee isOver with before | rfl | rfl
    · exact (ordinary.byeArrived rung before).imp_right
        (And.imp_right noneLeft)
    · exact Or.inr ⟨meaning, (not_mem_of_taken taken ordinary.calleeBye).1⟩
    · exact Or.inl meaning.2
  case told =>
    intro active
    have told := ordinary.told active
    by_cases unknown : state.session = none
    · rcases ordinary.byeArrived rung (Or.inl unknown) with
        ⟨hungUp, -⟩ | ⟨hungUp, arrived⟩
      · have gone := later.callerHungUp hungUp
        rw [gone] at active
        exact absurd active (by decide)
      · constructor
        · intro _
          exact ((told.hungUp hungUp).imp_left
            (fun left => absurd left arrived)).imp_right
              (List.mem_append_left _)
        · intro ended
          exact absurd (hungUp.symm.trans ended) (by decide)
    · constructor
      · intro hungUp
        exact moves_on taken unknown (told.hungUp hungUp)
      · intro ended
        exact (told.declined ended).imp_right (moves_on taken unknown)

end Deliveries

/-! ## Every move -/

theorem Ordinary.toProxyFromCaller
    (ordinary : Ordinary state) {signal : FromCaller}
    {before after : List FromCaller}
    (taken : state.fromCaller = before ++ signal :: after) :
    Ordinary (state.toProxyFromCaller signal (before ++ after)) := by
  by_cases invite : signal = .invite
  · subst invite
    exact ordinary.opens taken
  · exact ordinary.passesOn taken invite

/-- A property that every possible delivery of a link keeps. -/
theorem handOver_keeps
    {signal : Type} {property : Protocol → Prop}
    {link : List signal} {index : Nat}
    {receive : signal → List signal → Protocol}
    (holds : property state)
    (kept : ∀ taken rest, pick link index = some (taken, rest) →
      property (receive taken rest)) :
    property (state.handOver link index receive) := by
  unfold handOver
  split
  · exact holds
  · rename_i taken rest picked
    exact kept taken rest picked

theorem Ordinary.step (ordinary : Ordinary state) (move : Move) :
    Ordinary (state.step move) := by
  cases move with
  | place => exact ordinary.place
  | answer => exact ordinary.answer
  | reject => exact ordinary.reject
  | callerHangsUp => exact ordinary.callerHangsUp
  | calleeHangsUp => exact ordinary.calleeHangsUp
  | deliver link index =>
      cases link
      all_goals
        refine handOver_keeps ordinary (fun taken rest picked => ?_)
        obtain ⟨before, after, split, rfl⟩ := pick_split picked
      case fromCaller => exact ordinary.toProxyFromCaller split
      case toCallee => exact ordinary.calleeReceives split
      case fromCallee => exact ordinary.passesBack split
      case toCaller => exact ordinary.callerReceives split

/-- Before the call is placed. -/
theorem ordinary_initial : Ordinary {} := by
  constructor <;> simp [CallerPhase.Active]

end Protocol

end MinimalSip.Calls

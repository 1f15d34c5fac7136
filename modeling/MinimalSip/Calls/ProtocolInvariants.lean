import MinimalSip.Calls.CallProtocol

/-!
# What signals in flight mean

A signal in flight says something about the parties: a BYE of the caller says
that the caller has hung up, a response to it says that the BYE has arrived.
`Ordinary` collects these meanings with three facts that they do not give: the
INVITE and the BYEs are sent once, the proxy forgets a call only after a BYE,
and a callee that has left a call has told the caller.

Most meanings last, because the parties never go back to an earlier phase.
`Later` is what every move keeps, and once the callee rings the meaning of a
signal survives whatever is `Later`.
-/

namespace MinimalSip.Calls

open MinimalSip.Lib.Links
open MinimalSip.Proxy

namespace Protocol

/-! ## Meanings -/

/-- The callee has decided about the call. -/
def Answered (state : Protocol) : Prop :=
  state.callee ≠ .idle ∧ state.callee ≠ .ringing

def MeansFromCaller (state : Protocol) : FromCaller → Prop
  | .invite => state.callee = .idle ∧ state.session = none
  | .ack => state.Answered
  | .bye => state.caller = .hungUp
  | .okBye => state.caller = .ended ∧ state.callee = .hungUp ∧
      .bye ∉ state.fromCallee

def MeansToCallee (state : Protocol) : ToCallee → Prop
  | .invite => state.callee = .idle ∧ state.session = some .trying
  | .ack => state.Answered
  | .bye => state.caller = .hungUp
  | .refusal => state.callee = .hungUp

def MeansFromCallee (state : Protocol) : FromCallee → Prop
  | .trying => state.callee ≠ .idle
  | .ringing => state.callee ≠ .idle
  | .ok => state.callee = .talking ∨ state.callee = .hungUp ∨
      state.caller = .hungUp ∧ state.Answered
  | .decline => state.callee = .ended ∧
      (state.caller = .waiting ∨ state.caller = .ended)
  | .bye => state.callee = .hungUp
  | .okBye => state.callee = .ended ∧ state.caller = .hungUp ∧
      .bye ∉ state.fromCaller

def MeansToCaller (state : Protocol) : ToCaller → Prop
  | .trying => state.callee ≠ .idle
  | .ringing => state.callee ≠ .idle
  | .ok => state.callee = .talking ∨ state.callee = .hungUp ∨
      state.caller = .hungUp ∧ state.Answered
  | .decline => state.callee = .ended ∧
      (state.caller = .waiting ∨ state.caller = .ended)
  | .bye => state.callee = .hungUp
  | .okBye => state.Answered ∧
      (state.caller = .hungUp ∨ state.caller = .ended)
  | .refusal => state.Answered ∧ state.session = none

/-- A BYE of one of the parties has reached the proxy. -/
def ByeArrived (state : Protocol) : Prop :=
  (state.caller = .hungUp ∧ .bye ∉ state.fromCaller) ∨
    (state.callee = .hungUp ∧ .bye ∉ state.fromCallee)

/-- The proxy has forgotten the call, or will with the next ACK. -/
def Over (session : Option CallState) : Prop :=
  session = none ∨ session = some .terminated

/-- A caller in the call is about to hear that the callee has left it. -/
structure Told (state : Protocol) : Prop where
  hungUp : state.callee = .hungUp →
    .bye ∈ state.fromCallee ∨ .bye ∈ state.toCaller
  declined : state.callee = .ended → state.caller = .waiting ∧
    (.decline ∈ state.fromCallee ∨ .decline ∈ state.toCaller)

/-- What holds after every run. -/
structure Ordinary (state : Protocol) : Prop where
  unplaced : state.caller = .idle → state.callee = .idle ∧
    state.session = none ∧ state.fromCaller = [] ∧ state.toCallee = []
  unanswered : ¬ state.Answered →
    state.caller = .idle ∨ state.caller = .waiting
  fromCaller : ∀ signal ∈ state.fromCaller, state.MeansFromCaller signal
  toCallee : ∀ signal ∈ state.toCallee, state.MeansToCallee signal
  fromCallee : ∀ signal ∈ state.fromCallee, state.MeansFromCallee signal
  toCaller : ∀ signal ∈ state.toCaller, state.MeansToCaller signal
  oneInvite :
    state.fromCaller.count .invite + state.toCallee.count .invite ≤ 1
  callerBye : state.fromCaller.count .bye + state.toCallee.count .bye ≤ 1
  calleeBye : state.fromCallee.count .bye + state.toCaller.count .bye ≤ 1
  byeArrived : state.callee ≠ .idle → Over state.session → state.ByeArrived
  told : state.caller.Active → state.Told

/-- No party goes back, as far as meanings depend on it. -/
structure Later (old new : Protocol) : Prop where
  placed : old.caller ≠ .idle → new.caller ≠ .idle
  callerHungUp : old.caller = .hungUp → new.caller = .hungUp
  callerEnded : old.caller = .ended → new.caller = .ended
  calleeHungUp : old.callee = .hungUp → new.callee = .hungUp
  calleeEnded : old.callee = .ended → new.callee = .ended
  rung : old.callee ≠ .idle → new.callee ≠ .idle
  answered : old.Answered → new.Answered
  talking : old.callee = .talking →
    new.callee = .talking ∨ new.callee = .hungUp ∨ new.caller = .hungUp
  waiting : old.callee = .ended → old.caller = .waiting →
    new.caller = .waiting ∨ new.caller = .ended
  released : old.Answered → old.session = none → new.session = none
  callerBye : old.caller = .hungUp → .bye ∉ old.fromCaller →
    .bye ∉ new.fromCaller
  calleeBye : old.callee = .hungUp → .bye ∉ old.fromCallee →
    .bye ∉ new.fromCallee

/-! ## Meanings last -/

section Lasting

variable {old new : Protocol}

theorem Later.meansFromCaller
    (later : Later old new) {signal : FromCaller}
    (other : signal ≠ .invite) (meaning : old.MeansFromCaller signal) :
    new.MeansFromCaller signal := by
  cases signal with
  | invite => exact absurd rfl other
  | ack => exact later.answered meaning
  | bye => exact later.callerHungUp meaning
  | okBye =>
      obtain ⟨ended, hungUp, arrived⟩ := meaning
      exact ⟨later.callerEnded ended, later.calleeHungUp hungUp,
        later.calleeBye hungUp arrived⟩

theorem Later.meansToCallee
    (later : Later old new) {signal : ToCallee}
    (other : signal ≠ .invite) (meaning : old.MeansToCallee signal) :
    new.MeansToCallee signal := by
  cases signal with
  | invite => exact absurd rfl other
  | ack => exact later.answered meaning
  | bye => exact later.callerHungUp meaning
  | refusal => exact later.calleeHungUp meaning

/-- An accepted call is talked on until one side hangs up. -/
theorem Later.accepted
    (later : Later old new)
    (meaning : old.callee = .talking ∨ old.callee = .hungUp ∨
      old.caller = .hungUp ∧ old.Answered) :
    new.callee = .talking ∨ new.callee = .hungUp ∨
      new.caller = .hungUp ∧ new.Answered := by
  rcases meaning with talking | hungUp | ⟨hungUp, answered⟩
  · have answered : old.Answered := by simp [Answered, talking]
    rcases later.talking talking with stays | left | left
    · exact Or.inl stays
    · exact Or.inr (Or.inl left)
    · exact Or.inr (Or.inr ⟨left, later.answered answered⟩)
  · exact Or.inr (Or.inl (later.calleeHungUp hungUp))
  · exact Or.inr (Or.inr
      ⟨later.callerHungUp hungUp, later.answered answered⟩)

theorem Later.declined
    (later : Later old new)
    (meaning : old.callee = .ended ∧
      (old.caller = .waiting ∨ old.caller = .ended)) :
    new.callee = .ended ∧ (new.caller = .waiting ∨ new.caller = .ended) := by
  refine ⟨later.calleeEnded meaning.1, ?_⟩
  rcases meaning.2 with waiting | ended
  · exact later.waiting meaning.1 waiting
  · exact Or.inr (later.callerEnded ended)

theorem Later.meansFromCallee
    (later : Later old new) {signal : FromCallee}
    (meaning : old.MeansFromCallee signal) : new.MeansFromCallee signal := by
  cases signal with
  | trying => exact later.rung meaning
  | ringing => exact later.rung meaning
  | ok => exact later.accepted meaning
  | decline => exact later.declined meaning
  | bye => exact later.calleeHungUp meaning
  | okBye =>
      obtain ⟨ended, hungUp, arrived⟩ := meaning
      exact ⟨later.calleeEnded ended, later.callerHungUp hungUp,
        later.callerBye hungUp arrived⟩

theorem Later.meansToCaller
    (later : Later old new) {signal : ToCaller}
    (meaning : old.MeansToCaller signal) : new.MeansToCaller signal := by
  cases signal with
  | trying => exact later.rung meaning
  | ringing => exact later.rung meaning
  | ok => exact later.accepted meaning
  | decline => exact later.declined meaning
  | bye => exact later.calleeHungUp meaning
  | okBye =>
      exact ⟨later.answered meaning.1,
        meaning.2.imp later.callerHungUp later.callerEnded⟩
  | refusal =>
      exact ⟨later.answered meaning.1,
        later.released meaning.1 meaning.2⟩

theorem Later.refl (state : Protocol) : Later state state where
  placed := id
  callerHungUp := id
  callerEnded := id
  calleeHungUp := id
  calleeEnded := id
  rung := id
  answered := id
  talking := Or.inl
  waiting := fun _ => Or.inl
  released := fun _ => id
  callerBye := fun _ => id
  calleeBye := fun _ => id

end Lasting

/-! ## What a signal in flight rules out -/

variable {state : Protocol}

theorem Ordinary.rung_of_toCaller
    (ordinary : Ordinary state) {signal : ToCaller}
    (flying : signal ∈ state.toCaller) : state.callee ≠ .idle := by
  have meaning := ordinary.toCaller signal flying
  cases signal with
  | trying => exact meaning
  | ringing => exact meaning
  | ok =>
      rcases meaning with talking | hungUp | ⟨-, answered⟩
      · simp [talking]
      · simp [hungUp]
      · exact answered.1
  | decline => simp [meaning.1]
  | bye => simp [show state.callee = .hungUp from meaning]
  | okBye => exact meaning.1.1
  | refusal => exact meaning.1.1

theorem Ordinary.rung_of_fromCallee
    (ordinary : Ordinary state) {signal : FromCallee}
    (flying : signal ∈ state.fromCallee) : state.callee ≠ .idle := by
  have meaning := ordinary.fromCallee signal flying
  cases signal with
  | trying => exact meaning
  | ringing => exact meaning
  | ok =>
      rcases meaning with talking | hungUp | ⟨-, answered⟩
      · simp [talking]
      · simp [hungUp]
      · exact answered.1
  | decline => simp [meaning.1]
  | bye => simp [show state.callee = .hungUp from meaning]
  | okBye => simp [meaning.1]

/-- A caller that has hung up has been answered. -/
theorem Ordinary.answered_of_hungUp
    (ordinary : Ordinary state) (hungUp : state.caller = .hungUp) :
    state.Answered := by
  by_contra other
  have early := ordinary.unanswered other
  simp [hungUp] at early

theorem Ordinary.answered_of_toCallee
    (ordinary : Ordinary state) {signal : ToCallee}
    (flying : signal ∈ state.toCallee) (other : signal ≠ .invite) :
    state.Answered := by
  have meaning := ordinary.toCallee signal flying
  cases signal with
  | invite => exact absurd rfl other
  | ack => exact meaning
  | bye => exact ordinary.answered_of_hungUp meaning
  | refusal =>
      simp [Answered, show state.callee = .hungUp from meaning]

theorem Ordinary.answered_of_fromCaller
    (ordinary : Ordinary state) {signal : FromCaller}
    (flying : signal ∈ state.fromCaller) (other : signal ≠ .invite) :
    state.Answered := by
  have meaning := ordinary.fromCaller signal flying
  cases signal with
  | invite => exact absurd rfl other
  | ack => exact meaning
  | bye => exact ordinary.answered_of_hungUp meaning
  | okBye => simp [Answered, meaning.2.1]

/-- Once the callee rings, the INVITE has arrived. -/
theorem Ordinary.not_invite
    (ordinary : Ordinary state) (rung : state.callee ≠ .idle) :
    .invite ∉ state.fromCaller ∧ .invite ∉ state.toCallee :=
  ⟨fun flying => rung (ordinary.fromCaller _ flying).1,
    fun flying => rung (ordinary.toCallee _ flying).1⟩

theorem Ordinary.placed
    (ordinary : Ordinary state) (rung : state.callee ≠ .idle) :
    state.caller ≠ .idle :=
  fun idle => rung (ordinary.unplaced idle).1

theorem Ordinary.waiting_of_ringing
    (ordinary : Ordinary state) (ringing : state.callee = .ringing) :
    state.caller = .waiting := by
  have rung : state.callee ≠ .idle := by simp [ringing]
  exact (ordinary.unanswered (by simp [Answered, ringing])).resolve_left
    (ordinary.placed rung)

/-- The proxy holds the call as long as nobody has hung up. -/
theorem Ordinary.not_over
    (ordinary : Ordinary state) (rung : state.callee ≠ .idle)
    (caller : state.caller ≠ .hungUp) (callee : state.callee ≠ .hungUp) :
    ¬ Over state.session := by
  intro isOver
  rcases ordinary.byeArrived rung isOver with ⟨hungUp, -⟩ | ⟨hungUp, -⟩
  · exact caller hungUp
  · exact callee hungUp

/-! ## Links after a move -/

section Links

variable {α : Type} {means : α → Prop} {link fresh before after : List α}
variable {signal : α}

theorem mem_or_of_append (meaning : ∀ signal ∈ fresh, means signal) :
    ∀ signal ∈ link ++ fresh, signal ∈ link ∨ means signal := by
  intro signal member
  exact (List.mem_append.mp member).imp_right (meaning signal)

theorem mem_of_mem_rest
    (taken : link = before ++ signal :: after) {other : α}
    (member : other ∈ before ++ after) : other ∈ link := by
  subst taken
  rcases List.mem_append.mp member with first | last
  · exact List.mem_append_left _ first
  · exact List.mem_append_right _ (List.mem_cons_of_mem _ last)

theorem mem_or_of_taken (taken : link = before ++ signal :: after) :
    ∀ other ∈ before ++ after, other ∈ link ∨ means other :=
  fun _ member => Or.inl (mem_of_mem_rest taken member)

theorem mem_or_of_same : ∀ signal ∈ link, signal ∈ link ∨ means signal :=
  fun _ => Or.inl

end Links

/-- A later state is ordinary again if the new signals mean what they say. -/
theorem Ordinary.of_later
    {new : Protocol}
    (ordinary : Ordinary state) (later : Later state new)
    (rung : state.callee ≠ .idle)
    (unanswered : ¬ new.Answered → new.caller = .waiting)
    (fromCaller : ∀ signal ∈ new.fromCaller, signal ∈ state.fromCaller ∨
      signal ≠ .invite ∧ new.MeansFromCaller signal)
    (toCallee : ∀ signal ∈ new.toCallee, signal ∈ state.toCallee ∨
      signal ≠ .invite ∧ new.MeansToCallee signal)
    (fromCallee : ∀ signal ∈ new.fromCallee, signal ∈ state.fromCallee ∨
      new.MeansFromCallee signal)
    (toCaller : ∀ signal ∈ new.toCaller, signal ∈ state.toCaller ∨
      new.MeansToCaller signal)
    (callerBye : new.fromCaller.count .bye + new.toCallee.count .bye ≤ 1)
    (calleeBye : new.fromCallee.count .bye + new.toCaller.count .bye ≤ 1)
    (byeArrived : Over new.session → new.ByeArrived)
    (told : new.caller.Active → new.Told) :
    Ordinary new := by
  obtain ⟨noInvite, noInvite'⟩ := ordinary.not_invite rung
  have noneFromCaller : .invite ∉ new.fromCaller := by
    intro flying
    rcases fromCaller _ flying with old | fresh
    · exact noInvite old
    · exact fresh.1 rfl
  have noneToCallee : .invite ∉ new.toCallee := by
    intro flying
    rcases toCallee _ flying with old | fresh
    · exact noInvite' old
    · exact fresh.1 rfl
  constructor
  case unplaced =>
    intro idle
    exact absurd idle (later.placed (ordinary.placed rung))
  case unanswered => exact fun other => Or.inr (unanswered other)
  case fromCaller =>
    intro signal flying
    rcases fromCaller signal flying with old | fresh
    · have other : signal ≠ .invite := by
        rintro rfl
        exact noInvite old
      exact later.meansFromCaller other (ordinary.fromCaller signal old)
    · exact fresh.2
  case toCallee =>
    intro signal flying
    rcases toCallee signal flying with old | fresh
    · have other : signal ≠ .invite := by
        rintro rfl
        exact noInvite' old
      exact later.meansToCallee other (ordinary.toCallee signal old)
    · exact fresh.2
  case fromCallee =>
    intro signal flying
    rcases fromCallee signal flying with old | fresh
    · exact later.meansFromCallee (ordinary.fromCallee signal old)
    · exact fresh
  case toCaller =>
    intro signal flying
    rcases toCaller signal flying with old | fresh
    · exact later.meansToCaller (ordinary.toCaller signal old)
    · exact fresh
  case oneInvite =>
    rw [List.count_eq_zero_of_not_mem noneFromCaller,
      List.count_eq_zero_of_not_mem noneToCallee]
    exact Nat.zero_le 1
  case callerBye => exact callerBye
  case calleeBye => exact calleeBye
  case byeArrived => exact fun _ => byeArrived
  case told => exact told

/-! ## Actions of the users -/

theorem Ordinary.later_place (ordinary : Ordinary state) :
    Later state state.place := by
  unfold Protocol.place
  split_ifs with idle
  · have early := (ordinary.unplaced idle).1
    constructor <;> simp [idle, early, Answered]
  · exact .refl state

theorem later_answer (state : Protocol) : Later state state.answer := by
  unfold Protocol.answer
  split_ifs with ringing
  · constructor <;> simp [ringing, Answered]
  · exact .refl state

theorem later_reject (state : Protocol) : Later state state.reject := by
  unfold Protocol.reject
  split_ifs with ringing
  · constructor <;> simp [ringing, Answered]
  · exact .refl state

theorem later_callerHangsUp (state : Protocol) :
    Later state state.callerHangsUp := by
  unfold Protocol.callerHangsUp
  split_ifs with talking
  · constructor <;> simp_all [Answered]
  · exact .refl state

theorem later_calleeHangsUp (state : Protocol) :
    Later state state.calleeHangsUp := by
  unfold Protocol.calleeHangsUp
  split_ifs with talking
  · constructor <;> simp [talking, Answered]
  · exact .refl state

theorem Ordinary.place (ordinary : Ordinary state) :
    Ordinary state.place := by
  have later := ordinary.later_place
  unfold Protocol.place at later ⊢
  split_ifs at later ⊢ with idle
  swap
  · exact ordinary
  obtain ⟨early, unknown, noneSent, nonePassed⟩ := ordinary.unplaced idle
  have noneBack : state.fromCallee = [] :=
    List.eq_nil_iff_forall_not_mem.mpr
      (fun _ flying => ordinary.rung_of_fromCallee flying early)
  have nonePassedBack : state.toCaller = [] :=
    List.eq_nil_iff_forall_not_mem.mpr
      (fun _ flying => ordinary.rung_of_toCaller flying early)
  constructor
  case unplaced => simp
  case unanswered => simp
  case fromCaller => simp [noneSent, MeansFromCaller, early, unknown]
  case toCallee => simp [nonePassed]
  case fromCallee => simp [noneBack]
  case toCaller => simp [nonePassedBack]
  case oneInvite => simp [noneSent, nonePassed]
  case callerBye => simp [noneSent, nonePassed]
  case calleeBye => simp [noneBack, nonePassedBack]
  case byeArrived => simp [early]
  case told => exact fun _ => ⟨by simp [early], by simp [early]⟩

theorem Ordinary.answer (ordinary : Ordinary state) :
    Ordinary state.answer := by
  have later := later_answer state
  unfold Protocol.answer at later ⊢
  split_ifs at later ⊢ with ringing
  swap
  · exact ordinary
  have rung : state.callee ≠ .idle := by simp [ringing]
  have waits := ordinary.waiting_of_ringing ringing
  have held := ordinary.not_over rung (by simp [waits]) (by simp [ringing])
  apply ordinary.of_later later rung
  case unanswered => simp [Answered]
  case fromCaller => exact mem_or_of_same
  case toCallee => exact mem_or_of_same
  case fromCallee => exact mem_or_of_append (by simp [MeansFromCallee])
  case toCaller => exact mem_or_of_same
  case callerBye => exact ordinary.callerBye
  case calleeBye => simpa using ordinary.calleeBye
  case byeArrived => exact fun isOver => absurd isOver held
  case told => exact fun _ => ⟨by simp, by simp⟩

theorem Ordinary.reject (ordinary : Ordinary state) :
    Ordinary state.reject := by
  have later := later_reject state
  unfold Protocol.reject at later ⊢
  split_ifs at later ⊢ with ringing
  swap
  · exact ordinary
  have rung : state.callee ≠ .idle := by simp [ringing]
  have waits := ordinary.waiting_of_ringing ringing
  have held := ordinary.not_over rung (by simp [waits]) (by simp [ringing])
  apply ordinary.of_later later rung
  case unanswered => simp [Answered]
  case fromCaller => exact mem_or_of_same
  case toCallee => exact mem_or_of_same
  case fromCallee =>
    exact mem_or_of_append (by simp [MeansFromCallee, waits])
  case toCaller => exact mem_or_of_same
  case callerBye => exact ordinary.callerBye
  case calleeBye => simpa using ordinary.calleeBye
  case byeArrived => exact fun isOver => absurd isOver held
  case told => exact fun _ => ⟨by simp, by simp [waits]⟩

theorem Ordinary.callerHangsUp (ordinary : Ordinary state) :
    Ordinary state.callerHangsUp := by
  have later := later_callerHangsUp state
  unfold Protocol.callerHangsUp at later ⊢
  split_ifs at later ⊢ with talking
  swap
  · exact ordinary
  have answered : state.Answered := by
    by_contra other
    have early := ordinary.unanswered other
    simp [talking] at early
  have stays : state.caller ≠ .hungUp := by simp [talking]
  have noneSent : .bye ∉ state.fromCaller :=
    fun flying => stays (ordinary.fromCaller _ flying)
  have nonePassed : .bye ∉ state.toCallee :=
    fun flying => stays (ordinary.toCallee _ flying)
  apply ordinary.of_later later answered.1
  case unanswered => exact fun other => absurd answered other
  case fromCaller => exact mem_or_of_append (by simp [MeansFromCaller])
  case toCallee => exact mem_or_of_same
  case fromCallee => exact mem_or_of_same
  case toCaller => exact mem_or_of_same
  case callerBye =>
    simp [List.count_eq_zero_of_not_mem, noneSent, nonePassed]
  case calleeBye => exact ordinary.calleeBye
  case byeArrived =>
    intro isOver
    rcases ordinary.byeArrived answered.1 isOver with ⟨hungUp, -⟩ | arrived
    · exact absurd hungUp stays
    · exact Or.inr arrived
  case told => simp [CallerPhase.Active]

theorem Ordinary.calleeHangsUp (ordinary : Ordinary state) :
    Ordinary state.calleeHangsUp := by
  have later := later_calleeHangsUp state
  unfold Protocol.calleeHangsUp at later ⊢
  split_ifs at later ⊢ with talking
  swap
  · exact ordinary
  have rung : state.callee ≠ .idle := by simp [talking]
  have stays : state.callee ≠ .hungUp := by simp [talking]
  have noneSent : .bye ∉ state.fromCallee :=
    fun flying => stays (ordinary.fromCallee _ flying)
  have nonePassed : .bye ∉ state.toCaller :=
    fun flying => stays (ordinary.toCaller _ flying)
  apply ordinary.of_later later rung
  case unanswered => simp [Answered]
  case fromCaller => exact mem_or_of_same
  case toCallee => exact mem_or_of_same
  case fromCallee => exact mem_or_of_append (by simp [MeansFromCallee])
  case toCaller => exact mem_or_of_same
  case callerBye => exact ordinary.callerBye
  case calleeBye =>
    simp [List.count_eq_zero_of_not_mem, noneSent, nonePassed]
  case byeArrived =>
    intro isOver
    rcases ordinary.byeArrived rung isOver with arrived | ⟨hungUp, -⟩
    · exact Or.inl arrived
    · exact absurd hungUp stays
  case told => exact fun _ => ⟨by simp, by simp⟩

end Protocol

end MinimalSip.Calls

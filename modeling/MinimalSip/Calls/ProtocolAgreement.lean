import MinimalSip.Calls.ProtocolDeliveries

/-!
# The two clients agree in the end

A callee talks to a caller that does not talk only as long as the caller is
about to hear the answer, or the callee the hang up.  The one move that breaks
this gives a provisional response to a caller who talks already: it forgets
the answer.  `OnTime` excludes that move.
-/

namespace MinimalSip.Calls

open MinimalSip.Lib.Links
open MinimalSip.Proxy

namespace Protocol

variable {state : Protocol}

/-- The caller is not talking when a provisional response is delivered. -/
def OnTime (state : Protocol) : Move → Prop
  | .deliver .toCaller index =>
      ∀ signal rest, pick state.toCaller index = some (signal, rest) →
        signal.Provisional → state.caller ≠ .talking
  | _ => True

/-- What a talking callee knows about the caller. -/
def Agreed (state : Protocol) : Prop :=
  state.callee = .talking →
    state.caller = .talking ∨
    (state.caller = .waiting ∧
      (.ok ∈ state.fromCallee ∨ .ok ∈ state.toCaller)) ∨
    (state.caller = .hungUp ∧
      (.bye ∈ state.fromCaller ∨ .bye ∈ state.toCallee))

/-! ## Actions of the users -/

theorem Ordinary.agreed_place (ordinary : Ordinary state) :
    Agreed state → Agreed state.place := by
  intro agreed
  unfold Protocol.place
  split_ifs with idle
  · intro talking
    have early := (ordinary.unplaced idle).1
    exact absurd (early.symm.trans talking) (by decide)
  · exact agreed

theorem Ordinary.agreed_answer (ordinary : Ordinary state) :
    Agreed state → Agreed state.answer := by
  intro agreed
  unfold Protocol.answer
  split_ifs with ringing
  · intro _
    have waits := ordinary.waiting_of_ringing ringing
    exact Or.inr (Or.inl ⟨waits, Or.inl (by simp)⟩)
  · exact agreed

theorem agreed_reject (agreed : Agreed state) : Agreed state.reject := by
  unfold Protocol.reject
  split_ifs
  · intro talking
    cases talking
  · exact agreed

theorem agreed_callerHangsUp (agreed : Agreed state) :
    Agreed state.callerHangsUp := by
  unfold Protocol.callerHangsUp
  split_ifs
  · intro _
    exact Or.inr (Or.inr ⟨rfl, Or.inl (by simp)⟩)
  · exact agreed

theorem agreed_calleeHangsUp (agreed : Agreed state) :
    Agreed state.calleeHangsUp := by
  unfold Protocol.calleeHangsUp
  split_ifs
  · intro talking
    cases talking
  · exact agreed

/-! ## Deliveries -/

/-- The proxy passes a BYE of the caller on to a callee that talks. -/
theorem Ordinary.agreed_toProxyFromCaller
    (ordinary : Ordinary state) {signal : FromCaller}
    {before after : List FromCaller}
    (taken : state.fromCaller = before ++ signal :: after)
    (agreed : Agreed state) :
    Agreed (state.toProxyFromCaller signal (before ++ after)) := by
  intro talking
  change state.callee = .talking at talking
  rcases agreed talking with talks | ⟨waits, coming⟩ | ⟨hungUp, coming⟩
  · exact Or.inl talks
  · exact Or.inr (Or.inl
      ⟨waits, coming.imp_right (List.mem_append_left _)⟩)
  refine Or.inr (Or.inr ⟨hungUp, ?_⟩)
  rcases coming with sent | passed
  swap
  · exact Or.inr (List.mem_append_left _ passed)
  by_cases bye : signal = .bye
  swap
  · exact Or.inl (mem_taken_of_ne taken (Ne.symm bye) sent)
  subst bye
  -- The proxy still holds the call: no other BYE has arrived.
  have held : state.session ≠ none := by
    intro unknown
    rcases ordinary.byeArrived (by simp [talking]) (Or.inl unknown) with
      ⟨-, arrived⟩ | ⟨left, -⟩
    · exact arrived sent
    · exact absurd (talking.symm.trans left) (by decide)
  obtain ⟨session, known⟩ := Option.ne_none_iff_exists'.mp held
  exact Or.inr (by simp [Protocol.toProxyFromCaller, known, relayCaller])

/-- A BYE ends the callee's part; nothing else makes it talk. -/
theorem agreed_calleeReceives
    {signal : ToCallee} {before after : List ToCallee}
    (taken : state.toCallee = before ++ signal :: after)
    (agreed : Agreed state) :
    Agreed (state.calleeReceives signal (before ++ after)) := by
  intro talks
  have before : state.callee = .talking ∧ signal ≠ .bye := by
    revert talks
    simp only [Protocol.calleeReceives, CalleePhase.receive]
    cases signal <;> cases state.callee <;>
      simp [CalleePhase.Active]
  obtain ⟨talking, notBye⟩ := before
  rcases agreed talking with talks | ⟨waits, coming⟩ | ⟨hungUp, coming⟩
  · exact Or.inl talks
  · exact Or.inr (Or.inl
      ⟨waits, coming.imp_left (List.mem_append_left _)⟩)
  · exact Or.inr (Or.inr ⟨hungUp,
      coming.imp_right (mem_taken_of_ne taken (Ne.symm notBye))⟩)

/-- The proxy passes the answer on to a caller that waits. -/
theorem Ordinary.agreed_toProxyFromCallee
    (ordinary : Ordinary state) {signal : FromCallee}
    {before after : List FromCallee}
    (taken : state.fromCallee = before ++ signal :: after)
    (agreed : Agreed state) :
    Agreed (state.toProxyFromCallee signal (before ++ after)) := by
  intro talking
  change state.callee = .talking at talking
  rcases agreed talking with talks | ⟨waits, coming⟩ | ⟨hungUp, coming⟩
  · exact Or.inl talks
  · have held : state.session ≠ none := fun unknown =>
      ordinary.not_over (by simp [talking]) (by simp [waits])
        (by simp [talking]) (Or.inl unknown)
    exact Or.inr (Or.inl ⟨waits, moves_on taken held coming⟩)
  · exact Or.inr (Or.inr
      ⟨hungUp, coming.imp_right (List.mem_append_left _)⟩)

/-- As long as the callee talks, only an answer or a 1xx reaches the caller. -/
theorem Ordinary.heard_while_talking
    (ordinary : Ordinary state) {signal : ToCaller}
    (flying : signal ∈ state.toCaller) (talking : state.callee = .talking)
    (active : state.caller.Active) :
    signal.Provisional ∨ signal = .ok := by
  have meaning := ordinary.toCaller signal flying
  have inCall : state.caller ≠ .hungUp ∧ state.caller ≠ .ended := by
    rcases active with waits | talks
    · simp [waits]
    · simp [talks]
  cases signal with
  | trying => exact Or.inl (Or.inl rfl)
  | ringing => exact Or.inl (Or.inr rfl)
  | ok => exact Or.inr rfl
  | decline => exact absurd (talking.symm.trans meaning.1) (by decide)
  | bye => exact absurd (talking.symm.trans meaning) (by decide)
  | okBye =>
      rcases meaning.2 with left | left
      · exact absurd left inCall.1
      · exact absurd left inCall.2
  | refusal =>
      exact absurd (Or.inl meaning.2) (ordinary.not_over
        (by simp [talking]) inCall.1 (by simp [talking]))

theorem Ordinary.agreed_callerReceives
    (ordinary : Ordinary state) {signal : ToCaller}
    {before after : List ToCaller}
    (taken : state.toCaller = before ++ signal :: after)
    (onTime : signal.Provisional → state.caller ≠ .talking)
    (agreed : Agreed state) :
    Agreed (state.callerReceives signal (before ++ after)) := by
  intro talking
  change state.callee = .talking at talking
  unfold Protocol.callerReceives CallerPhase.receive
  split_ifs with active
  swap
  · rcases agreed talking with talks | ⟨waits, coming⟩ | ⟨hungUp, coming⟩
    · exact absurd (Or.inr talks) active
    · exact absurd (Or.inl waits) active
    · exact Or.inr (Or.inr
        ⟨hungUp, coming.imp_left (List.mem_append_left _)⟩)
  rcases ordinary.heard_while_talking (mem_of_taken taken) talking active with
    provisional | rfl
  swap
  · exact Or.inl rfl
  have waits := active.resolve_right (onTime provisional)
  have coming : .ok ∈ state.fromCallee ∨ .ok ∈ state.toCaller := by
    rcases agreed talking with talks | ⟨-, coming⟩ | ⟨hungUp, -⟩
    · exact absurd talks (onTime provisional)
    · exact coming
    · exact absurd (waits.symm.trans hungUp) (by decide)
  rcases provisional with rfl | rfl
  · exact Or.inr (Or.inl
      ⟨rfl, coming.imp_right (mem_taken_of_ne taken (by decide))⟩)
  · exact Or.inr (Or.inl
      ⟨rfl, coming.imp_right (mem_taken_of_ne taken (by decide))⟩)

/-! ## Runs -/

theorem Ordinary.agreed_step
    (ordinary : Ordinary state) {move : Move} (onTime : state.OnTime move)
    (agreed : Agreed state) :
    Agreed (state.step move) := by
  cases move with
  | place => exact ordinary.agreed_place agreed
  | answer => exact ordinary.agreed_answer agreed
  | reject => exact agreed_reject agreed
  | callerHangsUp => exact agreed_callerHangsUp agreed
  | calleeHangsUp => exact agreed_calleeHangsUp agreed
  | deliver link index =>
      cases link
      all_goals
        refine handOver_keeps agreed (fun taken rest picked => ?_)
        obtain ⟨before, after, split, rfl⟩ := pick_split picked
      case fromCaller => exact ordinary.agreed_toProxyFromCaller split agreed
      case toCallee => exact agreed_calleeReceives split agreed
      case fromCallee => exact ordinary.agreed_toProxyFromCallee split agreed
      case toCaller =>
        exact ordinary.agreed_callerReceives split (onTime _ _ picked) agreed

/-- With no signal in flight, the two ends agree. -/
theorem Ordinary.agree_of_quiet
    (ordinary : Ordinary state) (agreed : Agreed state)
    (quiet : state.Quiet) :
    state.caller = .talking ↔ state.callee = .talking := by
  constructor
  · intro talks
    have answered : state.Answered := by
      by_contra other
      have early := ordinary.unanswered other
      simp [talks] at early
    have told := ordinary.told (Or.inr talks)
    cases left : state.callee with
    | idle => exact absurd left answered.1
    | ringing => exact absurd left answered.2
    | talking => rfl
    | hungUp =>
        have coming := told.hungUp left
        simp [quiet.fromCallee, quiet.toCaller] at coming
    | ended =>
        have waits := (told.declined left).1
        exact absurd (talks.symm.trans waits) (by decide)
  · intro talking
    rcases agreed talking with talks | ⟨-, coming⟩ | ⟨-, coming⟩
    · exact talks
    · simp [quiet.fromCallee, quiet.toCaller] at coming
    · simp [quiet.fromCaller, quiet.toCallee] at coming

theorem agreed_initial : Agreed {} := by
  intro talking
  cases talking

end Protocol

end MinimalSip.Calls

import Mathlib.Data.List.Basic
import Mathlib.Logic.Function.Basic
import Mathlib.Tactic.Common

/-!
# Registration as a protocol

Phones send REGISTERs and wait for a reply, up to five times; the proxy enters
whoever has asked and replies.  The network may lose, double and reorder what
was sent: it delivers anything that was ever sent, at any time, any number of
times or never.

A phone that takes itself for registered has been entered.
-/

namespace MinimalSip.Registrations

/-- Where a phone stands, and whether it has heard a reply meanwhile. -/
inductive Phase where
  | idle
  | trying (attempts : Nat) (heard : Bool)
  | registered
  | failed
deriving DecidableEq, Repr

/-- What happens next: a phone goes on, or the network delivers a message. -/
inductive Move (ι : Type) where
  | doRegister (phone : ι)
  | waited (phone : ι)
  | toProxy (index : Nat)
  | toPhone (phone : ι) (index : Nat)
deriving DecidableEq, Repr

namespace Phase

/-- The next phase, and the number of REGISTERs that go out. -/
def doRegister : Phase → Phase × Nat
  | .trying attempts heard => (.trying attempts heard, 0)
  | .idle => (.trying 1 false, 1)
  | .registered => (.trying 1 false, 1)
  | .failed => (.trying 1 false, 1)

def waited : Phase → Phase × Nat
  | .trying _ true => (.registered, 0)
  | .trying attempts false =>
      if attempts < 5 then (.trying (attempts + 1) false, 1)
      else (.failed, 0)
  | phase => (phase, 0)

/-- A reply counts only while the phone is trying. -/
def hears : Phase → Phase
  | .trying attempts _ => .trying attempts true
  | phase => phase

/-- A phase that rests on a reply. -/
def Answered : Phase → Prop
  | .trying _ heard => heard = true
  | .registered => True
  | .idle => False
  | .failed => False

/-- The attempts that are left. -/
def slack : Phase → Nat
  | .trying attempts _ => 5 - attempts
  | .idle => 0
  | .registered => 0
  | .failed => 0

theorem slack_doRegister (phase : Phase) :
    phase.doRegister.2 + phase.doRegister.1.slack ≤ phase.slack + 5 := by
  cases phase with
  | trying attempts heard => simp [doRegister]
  | idle => decide
  | registered => decide
  | failed => decide

theorem slack_waited (phase : Phase) :
    phase.waited.2 + phase.waited.1.slack ≤ phase.slack := by
  cases phase with
  | trying attempts heard =>
      cases heard with
      | true => simp [waited, slack]
      | false =>
          simp only [waited]
          split_ifs with more
          · simp only [slack]
            omega
          · simp [slack]
  | idle => decide
  | registered => decide
  | failed => decide

theorem slack_hears (phase : Phase) : phase.hears.slack = phase.slack := by
  cases phase <;> rfl

theorem answered_of_doRegister
    {phase : Phase} (answered : phase.doRegister.1.Answered) :
    phase.Answered := by
  cases phase with
  | trying attempts heard => exact answered
  | idle => cases answered
  | registered => trivial
  | failed => cases answered

theorem answered_of_waited
    {phase : Phase} (answered : phase.waited.1.Answered) :
    phase.Answered := by
  cases phase with
  | trying attempts heard =>
      cases heard with
      | true => rfl
      | false =>
          simp only [waited] at answered
          split_ifs at answered
          · cases answered
          · cases answered
  | idle => cases answered
  | registered => trivial
  | failed => cases answered

end Phase

/-- What was sent stays in the network. -/
structure Protocol (ι : Type) where
  phases : ι → Phase := fun _ => .idle
  entered : ι → Bool := fun _ => false
  requests : List ι := []
  replies : List ι := []

namespace Protocol

variable {ι : Type} [DecidableEq ι]

/-- A phone goes on and sends its REGISTERs. -/
def goes (state : Protocol ι) (phone : ι) (next : Phase × Nat) :
    Protocol ι :=
  { state with
    phases := Function.update state.phases phone next.1
    requests := state.requests ++ List.replicate next.2 phone }

def proxyReceives (state : Protocol ι) (phone : ι) : Protocol ι :=
  { state with
    entered := Function.update state.entered phone true
    replies := state.replies ++ [phone] }

def step (state : Protocol ι) : Move ι → Protocol ι
  | .doRegister phone => state.goes phone (state.phases phone).doRegister
  | .waited phone => state.goes phone (state.phases phone).waited
  | .toProxy index =>
      match state.requests[index]? with
      | none => state
      | some phone => state.proxyReceives phone
  | .toPhone phone index =>
      if state.replies[index]? = some phone then
        state.goes phone ((state.phases phone).hears, 0)
      else state

/-! ## Who takes himself for registered -/

/-- Replies go to phones that have been entered, and phases rest on them. -/
structure Sound (state : Protocol ι) : Prop where
  replied : ∀ phone ∈ state.replies, state.entered phone = true
  answered : ∀ phone, (state.phases phone).Answered →
    state.entered phone = true

omit [DecidableEq ι] in
theorem sound_initial : Sound ({} : Protocol ι) where
  replied := by simp
  answered := nofun

variable {state : Protocol ι}

theorem Sound.goes
    (sound : Sound state) {phone : ι} {next : Phase × Nat}
    (rests : next.1.Answered → state.entered phone = true) :
    Sound (state.goes phone next) where
  replied := sound.replied
  answered := by
    intro other answered
    change (Function.update state.phases phone next.1 other).Answered
      at answered
    by_cases own : other = phone
    · subst own
      rw [Function.update_self] at answered
      exact rests answered
    · rw [Function.update_of_ne own] at answered
      exact sound.answered other answered

theorem Sound.proxyReceives (sound : Sound state) (phone : ι) :
    Sound (state.proxyReceives phone) := by
  have entered : ∀ other, state.entered other = true →
      Function.update state.entered phone true other = true := by
    intro other before
    by_cases own : other = phone
    · rw [own, Function.update_self]
    · rw [Function.update_of_ne own, before]
  refine ⟨fun other replied => ?_, fun other answered =>
    entered other (sound.answered other answered)⟩
  rcases List.mem_append.mp replied with earlier | own
  · exact entered other (sound.replied other earlier)
  · rw [List.mem_singleton.mp own]
    exact Function.update_self phone true state.entered

theorem Sound.step (sound : Sound state) (move : Move ι) :
    Sound (state.step move) := by
  cases move with
  | doRegister phone =>
      exact sound.goes (fun answered =>
        sound.answered phone (Phase.answered_of_doRegister answered))
  | waited phone =>
      exact sound.goes (fun answered =>
        sound.answered phone (Phase.answered_of_waited answered))
  | toProxy index =>
      simp only [Protocol.step]
      split
      · exact sound
      · exact sound.proxyReceives _
  | toPhone phone index =>
      simp only [Protocol.step]
      split_ifs with found
      · have replied := sound.replied phone (List.mem_of_getElem? found)
        exact sound.goes (fun _ => replied)
      · exact sound

/-- The state after some moves. -/
def after (moves : List (Move ι)) : Protocol ι :=
  moves.foldl Protocol.step {}

theorem sound_after (moves : List (Move ι)) : Sound (after moves) := by
  have kept : ∀ (moves : List (Move ι)) {state : Protocol ι},
      Sound state → Sound (moves.foldl Protocol.step state) := by
    intro moves
    induction moves with
    | nil => exact fun sound => sound
    | cons move moves ih => exact fun sound => ih (sound.step move)
  exact kept moves sound_initial

/-! ## How often a phone asks -/

/-- What a phone has sent, and what it may still send by itself. -/
def charge (state : Protocol ι) (phone : ι) : Nat :=
  state.requests.count phone + (state.phases phone).slack

theorem charge_goes
    (state : Protocol ι) (phone other : ι) (next : Phase × Nat) :
    (state.goes phone next).charge other +
        (if other = phone then (state.phases phone).slack else 0) =
      state.charge other +
        (if other = phone then next.2 + next.1.slack else 0) := by
  unfold charge goes
  by_cases own : other = phone
  · subst own
    simp only [List.count_append, List.count_replicate_self,
      Function.update_self, if_true]
    omega
  · have distinct : ¬ (phone == other) = true := by
      simpa using Ne.symm own
    simp only [List.count_append, List.count_replicate, if_neg distinct,
      Function.update_of_ne own, if_neg own, Nat.add_zero]

/-- Only `do_register` gives a phone something to send. -/
theorem charge_step (state : Protocol ι) (move : Move ι) (phone : ι) :
    (state.step move).charge phone ≤
      state.charge phone + 5 * [move].count (.doRegister phone) := by
  cases move with
  | doRegister other =>
      have goes := state.charge_goes other phone
        (state.phases other).doRegister
      have spent := Phase.slack_doRegister (state.phases other)
      simp only [Protocol.step, List.count_singleton]
      by_cases own : phone = other
      · subst own
        simp only [if_true, beq_self_eq_true] at goes ⊢
        omega
      · simp only [if_neg own] at goes
        omega
  | waited other =>
      have goes := state.charge_goes other phone (state.phases other).waited
      have spent := Phase.slack_waited (state.phases other)
      simp only [Protocol.step]
      by_cases own : phone = other
      · subst own
        simp only [if_true] at goes
        omega
      · simp only [if_neg own] at goes
        omega
  | toProxy index =>
      simp only [Protocol.step]
      split
      · exact Nat.le_add_right _ _
      · exact Nat.le_add_right _ _
  | toPhone other index =>
      have goes := state.charge_goes other phone
        ((state.phases other).hears, 0)
      have same := Phase.slack_hears (state.phases other)
      dsimp only at goes
      simp only [Protocol.step]
      split_ifs
      · split_ifs at goes <;> omega
      · exact Nat.le_add_right _ _

theorem requests_le (moves : List (Move ι)) (phone : ι) :
    (after moves).requests.count phone ≤
      5 * moves.count (.doRegister phone) := by
  have kept : ∀ (moves : List (Move ι)) (state : Protocol ι),
      (moves.foldl Protocol.step state).charge phone ≤
        state.charge phone + 5 * moves.count (.doRegister phone) := by
    intro moves
    induction moves with
    | nil => exact fun _ => Nat.le_refl _
    | cons move moves ih =>
        intro state
        have first := state.charge_step move phone
        have later := ih (state.step move)
        have counted : (move :: moves).count (.doRegister phone) =
            [move].count (.doRegister phone) +
              moves.count (.doRegister phone) := by
          rw [← List.count_append]
          rfl
        rw [List.foldl_cons, counted]
        omega
  have whole := kept moves {}
  have empty : ({} : Protocol ι).charge phone = 0 := rfl
  rw [empty, Nat.zero_add] at whole
  exact Nat.le_trans (Nat.le_add_right _ _) whole

end Protocol

end MinimalSip.Registrations

import MinimalSip.Lib.Concurrent

/-!
# Parts of a shared state

Some inputs of a pool concern a part of the shared state.  The programs of all
other inputs leave the part alone, and what an operation may answer and do to
the part is known from the part.  A program can then be judged by the part,
whatever happens to the rest of the state between its operations.

If the inputs that concern the part are handled one at a time, the pool
handles them as a sequential machine does, whatever the other workers do.
-/

namespace MinimalSip.Lib.Concurrent

open MinimalSip.Lib.Machine

variable {ω ι ε α β γ κ π ρ σ : Type} {Op : Type → Type}

/-! ## Programs on a part -/

/-- What an operation may answer and do to a part. -/
abbrev Effect (Op : Type → Type) (π : Type) : Type 1 :=
  π → {β : Type} → Op β → β → π → Prop

namespace Program

/-- From the part on, the program can only end as stated. -/
def Leads (does : Effect Op π) (ends : Except ε α → π → Prop) :
    π → Program ε Op α → Prop
  | part, .pure value => ends (.ok value) part
  | part, .throw thrown => ends (.error thrown) part
  | part, .perform operation next =>
      ∀ answer after, does part operation answer after →
        Leads does ends after (next answer)

/-- The end of a program is that of a step of a sequential machine. -/
def Meets (shows : π → ρ → Prop) (expected : Except ε (α × ρ)) :
    Except ε α → π → Prop
  | .ok value, part => ∃ state, expected = .ok (value, state) ∧
      shows part state
  | .error thrown, _ => expected = .error thrown

/-- On the part, the program does what a step of a sequential machine does. -/
def Follows (does : Effect Op π) (shows : π → ρ → Prop)
    (program : Program ε Op α) (part : π) (expected : Except ε (α × ρ)) :
    Prop :=
  program.Leads does (Meets shows expected) part

namespace Follows

variable {does : Effect Op π} {shows : π → ρ → Prop} {part : π} {state : ρ}

theorem value (shown : shows part state) (value : α) :
    Follows (ε := ε) does shows (.pure value) part (.ok (value, state)) :=
  ⟨state, rfl, shown⟩

theorem bind
    {program : Program ε Op α} {continuation : α → Program ε Op β}
    {value : α} {expected : Except ε (β × ρ)}
    (first : Follows does shows program part (.ok (value, state)))
    (second : ∀ after, shows after state →
      Follows does shows (continuation value) after expected) :
    Follows does shows (program >>= continuation) part expected := by
  induction program generalizing part with
  | pure result =>
      obtain ⟨state', same, shown⟩ := first
      cases same
      exact second part shown
  | throw thrown => cases first
  | perform operation next ih =>
      intro answer after done
      exact ih answer (first answer after done)

/-- A single operation that changes the part as the machine does. -/
theorem operate
    {operation : Op α} {value : α}
    (changed : ∀ answer after, does part operation answer after →
      answer = value ∧ shows after state) :
    Follows (ε := ε) does shows (.operate operation) part
      (.ok (value, state)) := by
  intro answer after done
  obtain ⟨rfl, shown⟩ := changed answer after done
  exact ⟨state, rfl, shown⟩

end Follows

end Program

end MinimalSip.Lib.Concurrent

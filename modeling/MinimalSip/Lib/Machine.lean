import Mathlib.Algebra.Ring.Nat
import Mathlib.Data.List.Basic
import Mathlib.Tactic.Common

/-!
# Runs of a fallible step machine

A machine takes inputs one after another; each step either fails or produces
an output and the next state.  A run records the history of inputs with their
outputs and stops at the first failure.

The rules below reduce statements about whole runs to statements about one
step: invariants of the state, invariants of the history together with the
state, conditions that hold at every step, and the projection rule, which
compares a run with the one obtained by deleting the inputs a viewer does not
see.
-/

namespace MinimalSip.Lib.Machine

variable {σ ι ο ε : Type*}

/-- Run a machine over a list of inputs, keeping the history. -/
def run (step : σ → ι → Except ε (ο × σ)) :
    σ → List ι → Except ε (List (ι × ο) × σ)
  | state, [] => .ok ([], state)
  | state, input :: inputs =>
      match step state input with
      | .error thrown => .error thrown
      | .ok (output, middle) =>
          match run step middle inputs with
          | .error thrown => .error thrown
          | .ok (history, final) => .ok ((input, output) :: history, final)

/-- The states in which some run from `initial` ends. -/
def Reachable
    (step : σ → ι → Except ε (ο × σ)) (initial state : σ) : Prop :=
  ∃ inputs history, run step initial inputs = .ok (history, state)

/-- `condition` holds of every step that the run takes or attempts. -/
def Along
    (step : σ → ι → Except ε (ο × σ)) (condition : σ → ι → Prop) :
    σ → List ι → Prop
  | _, [] => True
  | state, input :: inputs =>
      condition state input ∧
        ∀ output middle, step state input = .ok (output, middle) →
          Along step condition middle inputs

/-- `property` holds of every state of the run, the first one included. -/
def Throughout
    (step : σ → ι → Except ε (ο × σ)) (property : σ → Prop) :
    σ → List ι → Prop
  | state, [] => property state
  | state, input :: inputs =>
      property state ∧
        ∀ output middle, step state input = .ok (output, middle) →
          Throughout step property middle inputs

variable {step : σ → ι → Except ε (ο × σ)}

/-! ## Composition of runs -/

@[simp]
theorem run_nil (state : σ) :
    run step state [] = .ok ([], state) :=
  rfl

theorem run_cons_ok_iff
    {state final : σ} {input : ι} {inputs : List ι}
    {history : List (ι × ο)} :
    run step state (input :: inputs) = .ok (history, final) ↔
      ∃ output middle rest,
        step state input = .ok (output, middle) ∧
        run step middle inputs = .ok (rest, final) ∧
        history = (input, output) :: rest := by
  constructor
  · intro ran
    simp only [run] at ran
    split at ran
    · cases ran
    · rename_i output middle stepped
      split at ran
      · cases ran
      · rename_i rest last restRan
        simp only [Except.ok.injEq, Prod.mk.injEq] at ran
        obtain ⟨rfl, rfl⟩ := ran
        exact ⟨output, middle, rest, stepped, restRan, rfl⟩
  · rintro ⟨output, middle, rest, stepped, restRan, rfl⟩
    simp only [run, stepped, restRan]

/-- Two runs, the second from where the first one ends, are one run. -/
theorem run_append
    {state middle final : σ} {inputs others : List ι}
    {history later : List (ι × ο)}
    (ran : run step state inputs = .ok (history, middle))
    (goesOn : run step middle others = .ok (later, final)) :
    run step state (inputs ++ others) = .ok (history ++ later, final) := by
  induction inputs generalizing state history with
  | nil =>
      cases ran
      exact goesOn
  | cons input inputs ih =>
      obtain ⟨output, next, rest, stepped, restRan, rfl⟩ :=
        run_cons_ok_iff.mp ran
      exact run_cons_ok_iff.mpr
        ⟨output, next, rest ++ later, stepped, ih restRan, rfl⟩

/-- A run goes on with the step that follows it. -/
theorem run_concat
    {state middle : σ} {inputs : List ι} {history : List (ι × ο)}
    (ran : run step state inputs = .ok (history, middle)) (input : ι) :
    run step state (inputs ++ [input]) =
      (step middle input).map
        (fun result => (history ++ [(input, result.1)], result.2)) := by
  induction inputs generalizing state history with
  | nil =>
      cases ran
      rw [List.nil_append, run]
      cases step middle input <;> rfl
  | cons first inputs ih =>
      obtain ⟨output, next, rest, stepped, restRan, rfl⟩ :=
        run_cons_ok_iff.mp ran
      rw [List.cons_append, run, stepped]
      dsimp only
      rw [ih restRan]
      cases step middle input <;> rfl

/-- Machines whose steps correspond have runs that correspond. -/
theorem run_map
    {σ' ι' ο' : Type*} {step' : σ' → ι' → Except ε (ο' × σ')}
    (mapState : σ → σ') (mapInput : ι → ι') (mapOutput : ο → ο')
    (corresponds : ∀ state input,
      step' (mapState state) (mapInput input) =
        (step state input).map (Prod.map mapOutput mapState))
    (state : σ) (inputs : List ι) :
    run step' (mapState state) (inputs.map mapInput) =
      (run step state inputs).map
        (Prod.map (List.map (Prod.map mapInput mapOutput)) mapState) := by
  induction inputs generalizing state with
  | nil => rfl
  | cons input inputs ih =>
      rw [List.map_cons, run, run, corresponds]
      cases step state input with
      | error thrown => rfl
      | ok result =>
          obtain ⟨output, middle⟩ := result
          simp only [Except.map, Prod.map]
          rw [ih]
          cases run step middle inputs with
          | error thrown => rfl
          | ok result => rfl

/-! ## What a run gives out -/

/--
Some run on allowed inputs leads from one state to the other and gives out
these items, which are read off its outputs one after another.
-/
def Produces
    {ρ : Type*} (step : σ → ι → Except ε (ο × σ)) (read : ο → List ρ)
    (allowed : ι → Prop) (state final : σ) (items : List ρ) : Prop :=
  ∃ inputs history, run step state inputs = .ok (history, final) ∧
    (∀ input ∈ inputs, allowed input) ∧
    history.flatMap (fun entry => read entry.2) = items

section Produces

variable {ρ : Type*} {read : ο → List ρ} {allowed : ι → Prop}

theorem Produces.refl (state : σ) :
    Produces step read allowed state state [] :=
  ⟨[], [], rfl, List.forall_mem_nil _, rfl⟩

theorem Produces.one
    {state next : σ} (input : ι) {output : ο}
    (stepped : step state input = .ok (output, next))
    (fits : allowed input) :
    Produces step read allowed state next (read output) :=
  ⟨[input], [(input, output)],
    run_cons_ok_iff.mpr ⟨output, next, [], stepped, rfl, rfl⟩,
    List.forall_mem_singleton.mpr fits, List.append_nil _⟩

theorem Produces.trans
    {first second third : σ} {items more : List ρ}
    (before : Produces step read allowed first second items)
    (after : Produces step read allowed second third more) :
    Produces step read allowed first third (items ++ more) := by
  obtain ⟨inputs, history, ran, fits, rfl⟩ := before
  obtain ⟨others, later, goesOn, othersFit, rfl⟩ := after
  exact ⟨inputs ++ others, history ++ later, run_append ran goesOn,
    List.forall_mem_append.mpr ⟨fits, othersFit⟩, List.flatMap_append⟩

end Produces

/-! ## Invariants -/

/-- What every step on an allowed input preserves, a run on them preserves. -/
theorem run_invariant_on
    {allowed : ι → Prop} {invariant : σ → Prop}
    (preserved : ∀ {state input output next},
      step state input = .ok (output, next) → allowed input →
        invariant state → invariant next)
    {state final : σ} {inputs : List ι} {history : List (ι × ο)}
    (ran : run step state inputs = .ok (history, final))
    (inputsAllowed : ∀ input ∈ inputs, allowed input)
    (holds : invariant state) :
    invariant final := by
  induction inputs generalizing state history with
  | nil =>
      simp only [run_nil, Except.ok.injEq, Prod.mk.injEq] at ran
      exact ran.2 ▸ holds
  | cons input inputs ih =>
      obtain ⟨output, middle, rest, stepped, restRan, rfl⟩ :=
        run_cons_ok_iff.mp ran
      have here : allowed input := inputsAllowed input List.mem_cons_self
      exact ih restRan
        (fun other member =>
          inputsAllowed other (List.mem_cons_of_mem _ member))
        (preserved stepped here holds)

/-- What every step preserves, every run preserves. -/
theorem run_invariant
    {invariant : σ → Prop}
    (preserved : ∀ {state input output next},
      step state input = .ok (output, next) →
        invariant state → invariant next)
    {state final : σ} {inputs : List ι} {history : List (ι × ο)}
    (ran : run step state inputs = .ok (history, final))
    (holds : invariant state) :
    invariant final :=
  run_invariant_on (fun stepped _ => preserved stepped) ran
    (fun _ _ => trivial) holds

theorem Reachable.invariant
    {invariant : σ → Prop}
    (preserved : ∀ {state input output next},
      step state input = .ok (output, next) →
        invariant state → invariant next)
    {initial state : σ}
    (reachable : Reachable step initial state)
    (holds : invariant initial) :
    invariant state := by
  obtain ⟨inputs, history, ran⟩ := reachable
  exact run_invariant preserved ran holds

/-- What every step that meets a condition preserves, such a run preserves. -/
theorem run_invariant_along
    {invariant : σ → Prop} {condition : σ → ι → Prop}
    (preserved : ∀ {state input output next},
      step state input = .ok (output, next) → condition state input →
        invariant state → invariant next)
    {state final : σ} {inputs : List ι} {history : List (ι × ο)}
    (ran : run step state inputs = .ok (history, final))
    (along : Along step condition state inputs)
    (holds : invariant state) :
    invariant final := by
  induction inputs generalizing state history with
  | nil =>
      simp only [run_nil, Except.ok.injEq, Prod.mk.injEq] at ran
      exact ran.2 ▸ holds
  | cons input inputs ih =>
      obtain ⟨output, middle, rest, stepped, restRan, rfl⟩ :=
        run_cons_ok_iff.mp ran
      exact ih restRan (along.2 output middle stepped)
        (preserved stepped along.1 holds)

/-- An invariant that ties the state to the history that led to it. -/
theorem run_history_invariant
    {invariant : List (ι × ο) → σ → Prop}
    (preserved : ∀ {past state input output next},
      step state input = .ok (output, next) →
        invariant past state → invariant (past ++ [(input, output)]) next)
    {past history : List (ι × ο)} {state final : σ} {inputs : List ι}
    (ran : run step state inputs = .ok (history, final))
    (holds : invariant past state) :
    invariant (past ++ history) final := by
  induction inputs generalizing past state history with
  | nil =>
      simp only [run_nil, Except.ok.injEq, Prod.mk.injEq] at ran
      obtain ⟨rfl, rfl⟩ := ran
      simpa using holds
  | cons input inputs ih =>
      obtain ⟨output, middle, rest, stepped, restRan, rfl⟩ :=
        run_cons_ok_iff.mp ran
      have extended := ih restRan (preserved stepped holds)
      simpa using extended

/-! ## Runs that come to an end -/

/--
If the inputs so far and the state warrant what a step puts out, every output
of a run is warranted by the inputs before it.
-/
theorem run_outputs
    {invariant : List ι → σ → Prop} (warranted : List ι → ι → ο → Prop)
    (preserved : ∀ {past state input output next},
      step state input = .ok (output, next) →
        invariant past state → invariant (past ++ [input]) next)
    (warrants : ∀ {past state input output next},
      step state input = .ok (output, next) →
        invariant past state → warranted past input output)
    {past inputs : List ι} {before after : List (ι × ο)} {state final : σ}
    {input : ι} {output : ο}
    (ran : run step state inputs =
      .ok (before ++ (input, output) :: after, final))
    (holds : invariant past state) :
    warranted (past ++ before.map Prod.fst) input output := by
  induction inputs generalizing past state before with
  | nil => simp at ran
  | cons first inputs ih =>
      obtain ⟨made, middle, rest, stepped, restRan, split⟩ :=
        run_cons_ok_iff.mp ran
      cases before with
      | nil =>
          obtain ⟨head, -⟩ := List.cons.inj split
          cases head
          simpa using warrants stepped holds
      | cons head before =>
          obtain ⟨rfl, rfl⟩ := List.cons.inj split
          have later := ih restRan (preserved stepped holds)
          simpa using later

theorem along_of_forall
    {condition : σ → ι → Prop}
    (always : ∀ state input, condition state input)
    (state : σ) (inputs : List ι) : Along step condition state inputs := by
  induction inputs generalizing state with
  | nil => trivial
  | cons input inputs ih =>
      exact ⟨always state input, fun _ middle _ => ih middle⟩

/--
A budget that no step raises, and every costly step lowers, bounds the number
of costly steps.
-/
theorem run_countP_le
    {lasts : Nat → σ → Prop} {costly : ι → Bool} {condition : σ → ι → Prop}
    (spent : ∀ {budget state input output next},
      step state input = .ok (output, next) → condition state input →
        lasts budget state →
          ∃ left, lasts left next ∧
            left + (if costly input then 1 else 0) ≤ budget)
    {budget : Nat} {state final : σ} {inputs : List ι}
    {history : List (ι × ο)}
    (ran : run step state inputs = .ok (history, final))
    (along : Along step condition state inputs)
    (enough : lasts budget state) :
    inputs.countP costly ≤ budget := by
  induction inputs generalizing state history budget with
  | nil => exact Nat.zero_le budget
  | cons input inputs ih =>
      obtain ⟨output, middle, rest, stepped, restRan, rfl⟩ :=
        run_cons_ok_iff.mp ran
      obtain ⟨left, stillEnough, bound⟩ := spent stepped along.1 enough
      have later := ih restRan (along.2 output middle stepped) stillEnough
      rw [List.countP_cons]
      omega

/--
A potential that pays for every step, apart from what the inputs bring in,
bounds the cost of a run.
-/
theorem run_cost_le
    {weight : σ → Nat} {cost gain : ι → Nat}
    (paid : ∀ {state input output next},
      step state input = .ok (output, next) →
        weight next + cost input ≤ weight state + gain input)
    {state final : σ} {inputs : List ι} {history : List (ι × ο)}
    (ran : run step state inputs = .ok (history, final)) :
    weight final + (inputs.map cost).sum ≤
      weight state + (inputs.map gain).sum := by
  induction inputs generalizing state history with
  | nil =>
      cases ran
      exact Nat.le_refl _
  | cons input inputs ih =>
      obtain ⟨output, middle, rest, stepped, restRan, rfl⟩ :=
        run_cons_ok_iff.mp ran
      have first := paid stepped
      have later := ih restRan
      simp only [List.map_cons, List.sum_cons]
      omega

/-! ## Conditions along a run -/

/--
When, next to an invariant, one step keeps the property exactly if it meets
the condition, the property holds throughout a run exactly if every step of
the run meets the condition.
-/
theorem throughout_iff_along
    {invariant property : σ → Prop} {condition : σ → ι → Prop}
    (preserved : ∀ {state input output next},
      step state input = .ok (output, next) →
        invariant state → invariant next)
    (exactStep : ∀ {state input output next},
      step state input = .ok (output, next) → invariant state →
        property state → (property next ↔ condition state input))
    (failing : ∀ {state input thrown},
      step state input = .error thrown → condition state input)
    {state : σ} {inputs : List ι}
    (reached : invariant state) (holds : property state) :
    Throughout step property state inputs ↔
      Along step condition state inputs := by
  induction inputs generalizing state with
  | nil => exact ⟨fun _ => trivial, fun _ => holds⟩
  | cons input inputs ih =>
      constructor
      · rintro ⟨-, rest⟩
        cases stepped : step state input with
        | error thrown =>
            exact ⟨failing stepped, fun output middle taken => by
              rw [stepped] at taken
              cases taken⟩
        | ok result =>
            obtain ⟨output, middle⟩ := result
            have throughout := rest output middle stepped
            have kept : property middle := by
              cases inputs with
              | nil => exact throughout
              | cons _ _ => exact throughout.1
            refine ⟨(exactStep stepped reached holds).mp kept, ?_⟩
            intro output' middle' taken
            rw [stepped] at taken
            cases taken
            exact (ih (preserved stepped reached) kept).mp throughout
      · rintro ⟨met, rest⟩
        refine ⟨holds, fun output middle stepped => ?_⟩
        have kept := (exactStep stepped reached holds).mpr met
        exact (ih (preserved stepped reached) kept).mpr
          (rest output middle stepped)

/--
When, next to an invariant, a step succeeds exactly if it meets the condition,
a run succeeds exactly if every step of it meets the condition.
-/
theorem run_ok_iff_along
    {invariant : σ → Prop} {condition : σ → ι → Prop}
    (preserved : ∀ {state input output next},
      step state input = .ok (output, next) →
        invariant state → invariant next)
    (succeeds : ∀ {state input}, invariant state →
      ((∃ result, step state input = .ok result) ↔ condition state input))
    {state : σ} {inputs : List ι}
    (reached : invariant state) :
    (∃ result, run step state inputs = .ok result) ↔
      Along step condition state inputs := by
  induction inputs generalizing state with
  | nil => exact ⟨fun _ => trivial, fun _ => ⟨_, rfl⟩⟩
  | cons input inputs ih =>
      constructor
      · rintro ⟨⟨history, final⟩, ran⟩
        obtain ⟨output, middle, rest, stepped, restRan, rfl⟩ :=
          run_cons_ok_iff.mp ran
        refine ⟨(succeeds reached).mp ⟨_, stepped⟩, ?_⟩
        intro output' middle' taken
        rw [stepped] at taken
        cases taken
        exact (ih (preserved stepped reached)).mp ⟨_, restRan⟩
      · rintro ⟨met, rest⟩
        obtain ⟨⟨output, middle⟩, stepped⟩ := (succeeds reached).mpr met
        obtain ⟨⟨history, final⟩, restRan⟩ :=
          (ih (preserved stepped reached)).mpr (rest output middle stepped)
        exact ⟨_, run_cons_ok_iff.mpr
          ⟨output, middle, history, stepped, restRan, rfl⟩⟩

/-- A weaker property holds as well throughout a run. -/
theorem Throughout.mono
    {property weaker : σ → Prop}
    (weakens : ∀ state, property state → weaker state)
    {state : σ} {inputs : List ι}
    (throughout : Throughout step property state inputs) :
    Throughout step weaker state inputs := by
  induction inputs generalizing state with
  | nil => exact weakens state throughout
  | cons input inputs ih =>
      refine ⟨weakens state throughout.1, ?_⟩
      intro output middle stepped
      exact ih (throughout.2 output middle stepped)

/-- What follows from an invariant holds throughout every run. -/
theorem throughout_of_invariant
    {invariant property : σ → Prop}
    (preserved : ∀ {state input output next},
      step state input = .ok (output, next) →
        invariant state → invariant next)
    (weakens : ∀ state, invariant state → property state)
    {state : σ} (inputs : List ι) (holds : invariant state) :
    Throughout step property state inputs := by
  induction inputs generalizing state with
  | nil => exact weakens state holds
  | cons input inputs ih =>
      refine ⟨weakens state holds, ?_⟩
      intro output middle stepped
      exact ih (preserved stepped holds)

theorem Throughout.first
    {property : σ → Prop} {state : σ} {inputs : List ι}
    (throughout : Throughout step property state inputs) :
    property state := by
  cases inputs with
  | nil => exact throughout
  | cons _ _ => exact throughout.1

theorem Throughout.last
    {property : σ → Prop} {state final : σ} {inputs : List ι}
    {history : List (ι × ο)}
    (throughout : Throughout step property state inputs)
    (ran : run step state inputs = .ok (history, final)) :
    property final := by
  induction inputs generalizing state history with
  | nil =>
      simp only [run_nil, Except.ok.injEq, Prod.mk.injEq] at ran
      exact ran.2 ▸ throughout
  | cons input inputs ih =>
      obtain ⟨output, middle, rest, stepped, restRan, rfl⟩ :=
        run_cons_ok_iff.mp ran
      exact ih (throughout.2 output middle stepped) restRan

/-- What no step restores holds throughout a run if it holds at its end. -/
theorem Throughout.of_last
    {property : σ → Prop}
    (lasting : ∀ {state input output next},
      step state input = .ok (output, next) →
        property next → property state)
    {state final : σ} {inputs : List ι} {history : List (ι × ο)}
    (ran : run step state inputs = .ok (history, final))
    (holds : property final) :
    Throughout step property state inputs := by
  induction inputs generalizing state history with
  | nil =>
      simp only [run_nil, Except.ok.injEq, Prod.mk.injEq] at ran
      exact ran.2.symm ▸ holds
  | cons input inputs ih =>
      obtain ⟨output, middle, rest, stepped, restRan, rfl⟩ :=
        run_cons_ok_iff.mp ran
      have later := ih restRan
      refine ⟨lasting stepped later.first, ?_⟩
      intro output' middle' taken
      rw [stepped] at taken
      cases taken
      exact later

/--
When neighbouring states of a run are related as long as a property holds,
the ends of a run on which it holds throughout are related.
-/
theorem run_related
    {property : σ → Prop} {relation : σ → σ → Prop}
    (refl : ∀ state, relation state state)
    (trans : ∀ {first second third}, relation first second →
      relation second third → relation first third)
    (related : ∀ {state input output next},
      step state input = .ok (output, next) →
        property state → property next → relation state next)
    {state final : σ} {inputs : List ι} {history : List (ι × ο)}
    (ran : run step state inputs = .ok (history, final))
    (throughout : Throughout step property state inputs) :
    relation state final := by
  induction inputs generalizing state history with
  | nil =>
      simp only [run_nil, Except.ok.injEq, Prod.mk.injEq] at ran
      exact ran.2 ▸ refl state
  | cons input inputs ih =>
      obtain ⟨output, middle, rest, stepped, restRan, rfl⟩ :=
        run_cons_ok_iff.mp ran
      have later := throughout.2 output middle stepped
      exact trans (related stepped throughout.first later.first)
        (ih restRan later)

/-! ## What an observer notes -/

/-- What an observer of the states and inputs notes along a run. -/
def noted
    {τ : Type*} (step : σ → ι → Except ε (ο × σ)) (see : σ → ι → Option τ) :
    σ → List ι → List τ
  | _, [] => []
  | state, input :: inputs =>
      match step state input with
      | .error _ => []
      | .ok (_, middle) =>
          (see state input).toList ++ noted step see middle inputs

theorem noted_cons
    {τ : Type*} {see : σ → ι → Option τ} {state middle : σ} {input : ι}
    {inputs : List ι} {output : ο}
    (stepped : step state input = .ok (output, middle)) :
    noted step see state (input :: inputs) =
      (see state input).toList ++ noted step see middle inputs := by
  simp only [noted, stepped]

/-- Noting less is dropping notes. -/
theorem noted_filter
    {τ : Type*} (see : σ → ι → Option τ) (keep : τ → Bool)
    (state : σ) (inputs : List ι) :
    noted step (fun state input => (see state input).filter keep) state
        inputs =
      (noted step see state inputs).filter keep := by
  induction inputs generalizing state with
  | nil => rfl
  | cons input inputs ih =>
      cases stepped : step state input with
      | error thrown => simp only [noted, stepped, List.filter_nil]
      | ok result =>
          rw [noted_cons stepped, noted_cons stepped, List.filter_append,
            ih]
          congr 1
          cases see state input with
          | none => rfl
          | some note => cases kept : keep note <;> simp [Option.filter, kept]

/--
The observation rule.  If steps in which nothing is noted keep a relation to
the states of a second machine, and every other step is matched by the step of
the second machine that is noted, then the notes of a run are a history of the
second machine.
-/
theorem run_noted
    {σ' ι' ο' ε' : Type*} {step' : σ' → ι' → Except ε' (ο' × σ')}
    {see : σ → ι → Option (ι' × ο')} {condition : σ → ι → Prop}
    {relation : σ → σ' → Prop}
    (silent : ∀ {state state' input output next},
      step state input = .ok (output, next) → condition state input →
        see state input = none → relation state state' →
          relation next state')
    (matched : ∀ {state state' input output next input' output'},
      step state input = .ok (output, next) → condition state input →
        see state input = some (input', output') → relation state state' →
          ∃ next', step' state' input' = .ok (output', next') ∧
            relation next next')
    {state final : σ} {state' : σ'} {inputs : List ι}
    {history : List (ι × ο)}
    (ran : run step state inputs = .ok (history, final))
    (along : Along step condition state inputs)
    (related : relation state state') :
    ∃ final', run step' state' ((noted step see state inputs).map Prod.fst) =
        .ok (noted step see state inputs, final') ∧
      relation final final' := by
  induction inputs generalizing state state' history with
  | nil =>
      cases ran
      exact ⟨state', rfl, related⟩
  | cons input inputs ih =>
      obtain ⟨output, middle, rest, stepped, restRan, rfl⟩ :=
        run_cons_ok_iff.mp ran
      have later := along.2 output middle stepped
      rw [noted_cons stepped]
      cases seen : see state input with
      | none =>
          exact ih restRan later (silent stepped along.1 seen related)
      | some note =>
          obtain ⟨middle', stepped', relatedMiddle⟩ :=
            matched stepped along.1 seen related
          obtain ⟨final', ran', relatedFinal⟩ :=
            ih restRan later relatedMiddle
          exact ⟨final', run_cons_ok_iff.mpr
            ⟨note.2, middle', _, stepped', ran', rfl⟩, relatedFinal⟩

/-! ## Projection to a viewer -/

/--
The projection rule.  A viewer relates a state to the one he imagines from
the visible inputs alone.  If hidden inputs preserve the relation and visible
inputs are answered alike and preserve it, then deleting the hidden inputs of
a run leaves a run with the same visible history and a related final state.
-/
theorem run_filter
    {view : σ → σ → Prop} {visible : ι → Bool}
    (hiddenStep : ∀ {state imagined input output next},
      visible input = false → view state imagined →
        step state input = .ok (output, next) → view next imagined)
    (visibleStep : ∀ {state imagined input output next},
      visible input = true → view state imagined →
        step state input = .ok (output, next) →
          ∃ next', step imagined input = .ok (output, next') ∧
            view next next')
    {state imagined final : σ} {inputs : List ι} {history : List (ι × ο)}
    (ran : run step state inputs = .ok (history, final))
    (related : view state imagined) :
    ∃ final', run step imagined (inputs.filter visible) =
        .ok (history.filter (fun entry => visible entry.1), final') ∧
      view final final' := by
  induction inputs generalizing state imagined history with
  | nil =>
      simp only [run_nil, Except.ok.injEq, Prod.mk.injEq] at ran
      obtain ⟨rfl, rfl⟩ := ran
      exact ⟨imagined, rfl, related⟩
  | cons input inputs ih =>
      obtain ⟨output, middle, rest, stepped, restRan, rfl⟩ :=
        run_cons_ok_iff.mp ran
      cases seen : visible input with
      | false =>
          obtain ⟨final', projected, relatedFinal⟩ :=
            ih restRan (hiddenStep seen related stepped)
          exact ⟨final', by simpa [seen] using projected, relatedFinal⟩
      | true =>
          obtain ⟨middle', imaginedStep, relatedMiddle⟩ :=
            visibleStep seen related stepped
          obtain ⟨final', projected, relatedFinal⟩ :=
            ih restRan relatedMiddle
          refine ⟨final', ?_, relatedFinal⟩
          simp only [List.filter_cons, seen, if_true]
          exact run_cons_ok_iff.mpr
            ⟨output, middle', _, imaginedStep, projected, rfl⟩

/-! ## Evaluating a run -/

/-- A condition that can be tested at every step can be tested along a run. -/
instance Along.decidable
    {condition : σ → ι → Prop}
    [∀ state input, Decidable (condition state input)] :
    (state : σ) → (inputs : List ι) →
      Decidable (Along step condition state inputs)
  | _, [] => .isTrue trivial
  | state, input :: inputs =>
      match stepped : step state input with
      | .error _ =>
          decidable_of_iff (condition state input)
            ⟨fun met => ⟨met, fun _ _ taken => by
                rw [stepped] at taken
                cases taken⟩,
              And.left⟩
      | .ok (output, middle) =>
          haveI : Decidable (Along step condition middle inputs) :=
            Along.decidable middle inputs
          decidable_of_iff
            (condition state input ∧ Along step condition middle inputs)
            ⟨fun met => ⟨met.1, fun _ _ taken => by
                rw [stepped] at taken
                cases taken
                exact met.2⟩,
              fun along => ⟨along.1, along.2 output middle stepped⟩⟩

/-- Test a property of a result that must be a success. -/
def succeedsWith {α : Type*} (result : Except ε α) (test : α → Bool) : Bool :=
  match result with
  | .ok value => test value
  | .error _ => false

theorem exists_of_succeedsWith
    {α : Type*} {result : Except ε α} {test : α → Bool}
    (tested : succeedsWith result test = true) :
    ∃ value, result = .ok value ∧ test value = true := by
  cases result with
  | ok value => exact ⟨value, rfl, tested⟩
  | error thrown => simp [succeedsWith] at tested

/-- The exception of a result that must be a failure. -/
def thrown? {α : Type*} : Except ε α → Option ε
  | .ok _ => none
  | .error thrown => some thrown

theorem eq_error_of_thrown?
    {α : Type*} {result : Except ε α} {thrown : ε}
    (failed : thrown? result = some thrown) :
    result = .error thrown := by
  cases result with
  | ok value => cases failed
  | error other =>
      cases failed
      rfl

end MinimalSip.Lib.Machine

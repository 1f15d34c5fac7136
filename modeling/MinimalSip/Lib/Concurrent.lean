import MinimalSip.Lib.Machine
import Mathlib.Logic.Function.Basic

/-!
# Programs of atomic operations and their interleavings

A program is a tree of atomic operations on a shared state: it performs one
operation, continues with its result, and ends with a value or an exception.
A pool runs programs on any number of workers; between two operations of one
worker, any operations of the others may come.

Next to its remaining program a worker carries a note on what the program has
done so far.  The rules of a system say which operations are allowed under
which note.  A program that obeys the rules keeps obeying them whatever results
the operations give, so that the rules hold of every worker of every reachable
pool.
-/

namespace MinimalSip.Lib.Concurrent

open MinimalSip.Lib.Machine

/-! ## Programs -/

/-- A program over the operations `Op`, where `Op β` has results in `β`. -/
inductive Program (ε : Type) (Op : Type → Type) (α : Type) : Type 1 where
  | pure (value : α)
  | throw (thrown : ε)
  | perform {β : Type} (operation : Op β) (next : β → Program ε Op α)

/-- What is allowed to a program, by a note on what it has done so far. -/
structure Rules (Op : Type → Type) (γ : Type) where
  fresh : γ
  observe : γ → {β : Type} → Op β → β → γ
  allows : γ → {β : Type} → Op β → Prop
  mayReturn : γ → Prop
  mayThrow : γ → Prop

namespace Program

variable {ε α β γ σ : Type} {Op : Type → Type}

def bind : Program ε Op α → (α → Program ε Op β) → Program ε Op β
  | .pure value, continuation => continuation value
  | .throw thrown, _ => .throw thrown
  | .perform operation next, continuation =>
      .perform operation (fun answer => (next answer).bind continuation)

instance : Monad (Program ε Op) where
  pure := Program.pure
  bind := Program.bind

/-- A single operation as a program. -/
def operate (operation : Op α) : Program ε Op α :=
  .perform operation .pure

/-- A computation without shared state as a program. -/
def lift : Except ε α → Program ε Op α
  | .ok value => .pure value
  | .error thrown => .throw thrown

@[simp]
theorem bind_pure
    (value : α) (continuation : α → Program ε Op β) :
    (Program.pure value >>= continuation) = continuation value :=
  rfl

@[simp]
theorem bind_operate
    (operation : Op α) (continuation : α → Program ε Op β) :
    (operate operation >>= continuation) =
      .perform operation continuation :=
  rfl

/-! ## A program alone -/

/-- Run a program to its end with nothing in between. -/
def runAlone (apply : {β : Type} → Op β → σ → β × σ) :
    Program ε Op α → σ → Except ε (α × σ)
  | .pure value, state => .ok (value, state)
  | .throw thrown, _ => .error thrown
  | .perform operation next, state =>
      runAlone apply (next (apply operation state).1)
        (apply operation state).2

variable {apply : {β : Type} → Op β → σ → β × σ}

/-- Run the parts of a sequence one after the other. -/
theorem runAlone_bind
    (program : Program ε Op α) (continuation : α → Program ε Op β)
    (state : σ) :
    runAlone apply (program >>= continuation) state =
      (runAlone apply program state).bind (fun result =>
        runAlone apply (continuation result.1) result.2) := by
  induction program generalizing state with
  | pure value => rfl
  | throw thrown => rfl
  | perform operation next ih => exact ih _ _

/-! ## Programs that obey rules -/

/--
From the given note on, the program performs allowed operations only, throws
only where it may, and returns with a note and a value as stated.
-/
def Obeys (rules : Rules Op γ) (returns : γ → α → Prop) :
    γ → Program ε Op α → Prop
  | note, .pure value => returns note value
  | note, .throw _ => rules.mayThrow note
  | note, .perform operation next =>
      rules.allows note operation ∧
        ∀ answer, Obeys rules returns
          (rules.observe note operation answer) (next answer)

theorem Obeys.bind
    {rules : Rules Op γ} {returns : γ → α → Prop}
    {returns' : γ → β → Prop} {note : γ}
    {program : Program ε Op α} {continuation : α → Program ε Op β}
    (first : Obeys rules returns note program)
    (second : ∀ note value, returns note value →
      Obeys rules returns' note (continuation value)) :
    Obeys rules returns' note (program >>= continuation) := by
  induction program generalizing note with
  | pure value => exact second note value first
  | throw thrown => exact first
  | perform operation next ih =>
      exact ⟨first.1, fun answer => ih answer (first.2 answer)⟩

end Program

/-! ## Pools of workers -/

/-- Programs for the inputs, the operations, and rules that they obey. -/
structure System (ι ε : Type) (Op : Type → Type) (α γ σ : Type) where
  program : ι → Program ε Op α
  apply : {β : Type} → Op β → σ → β × σ
  rules : ι → Rules Op γ
  obeys : ∀ input, (program input).Obeys (rules input)
    (fun note _ => (rules input).mayReturn note) (rules input).fresh

/-- What a busy worker has before it. -/
structure Task (ι ε : Type) (Op : Type → Type) (α γ : Type) where
  input : ι
  note : γ
  rest : Program ε Op α

structure Pool (ω ι ε : Type) (Op : Type → Type) (α γ σ : Type) where
  shared : σ
  workers : ω → Option (Task ι ε Op α γ)

inductive Event (ω ι : Type) where
  | start (worker : ω) (input : ι)
  | advance (worker : ω)
  | finish (worker : ω)
deriving DecidableEq

/-- Raised for an event that the pool does not allow. -/
inductive Disabled where
  | disabled
deriving DecidableEq

variable {ω ι ε α γ σ : Type} {Op : Type → Type}

namespace Pool

/-- No worker is in the middle of a program. -/
def Idle (pool : Pool ω ι ε Op α γ σ) : Prop :=
  ∀ worker, pool.workers worker = none

/-- The pool before the first event. -/
def initial (shared : σ) : Pool ω ι ε Op α γ σ :=
  ⟨shared, fun _ => none⟩

variable [DecidableEq ω]

/-- The pool with another task, or none, for one worker. -/
def assign (pool : Pool ω ι ε Op α γ σ) (worker : ω)
    (task : Option (Task ι ε Op α γ)) : Pool ω ι ε Op α γ σ :=
  { pool with workers := Function.update pool.workers worker task }

@[simp]
theorem assign_shared
    (pool : Pool ω ι ε Op α γ σ) (worker : ω)
    (task : Option (Task ι ε Op α γ)) :
    (pool.assign worker task).shared = pool.shared :=
  rfl

@[simp]
theorem assign_workers_self
    (pool : Pool ω ι ε Op α γ σ) (worker : ω)
    (task : Option (Task ι ε Op α γ)) :
    (pool.assign worker task).workers worker = task := by
  simp only [assign, Function.update_self]

theorem assign_workers_of_ne
    (pool : Pool ω ι ε Op α γ σ) {worker other : ω}
    (task : Option (Task ι ε Op α γ)) (distinct : other ≠ worker) :
    (pool.assign worker task).workers other = pool.workers other := by
  simp only [assign, Function.update_of_ne distinct]

end Pool

namespace System

section Steps

variable [DecidableEq ω] (system : System ι ε Op α γ σ)

/-- The task of a worker that has just taken an input. -/
def begin (input : ι) : Task ι ε Op α γ where
  input := input
  note := (system.rules input).fresh
  rest := system.program input

/-- One operation of one worker. -/
def advanced
    (pool : Pool ω ι ε Op α γ σ) (worker : ω) (task : Task ι ε Op α γ)
    {β : Type} (operation : Op β) (next : β → Program ε Op α) :
    Pool ω ι ε Op α γ σ :=
  let (answer, shared) := system.apply operation pool.shared
  Pool.assign { pool with shared := shared } worker
    (some
      { input := task.input
        note := (system.rules task.input).observe task.note operation answer
        rest := next answer })

/--
One event: an idle worker takes an input, a busy one performs its next
operation, or one that has its result becomes idle.  A worker whose program
has thrown stays where it is.
-/
def step (pool : Pool ω ι ε Op α γ σ) :
    Event ω ι → Except Disabled (Option α × Pool ω ι ε Op α γ σ)
  | .start worker input =>
      match pool.workers worker with
      | none => .ok (none, pool.assign worker (some (system.begin input)))
      | some _ => .error .disabled
  | .advance worker =>
      match pool.workers worker with
      | some task =>
          match task.rest with
          | .perform operation next =>
              .ok (none, system.advanced pool worker task operation next)
          | _ => .error .disabled
      | none => .error .disabled
  | .finish worker =>
      match pool.workers worker with
      | some task =>
          match task.rest with
          | .pure value => .ok (some value, pool.assign worker none)
          | _ => .error .disabled
      | none => .error .disabled

/-- The three kinds of steps, with what holds before and after each. -/
inductive Steps (pool : Pool ω ι ε Op α γ σ) :
    Event ω ι → Pool ω ι ε Op α γ σ → Prop where
  | started (worker : ω) (input : ι)
      (idle : pool.workers worker = none) :
      Steps pool (.start worker input)
        (pool.assign worker (some (system.begin input)))
  | advanced (worker : ω) (task : Task ι ε Op α γ)
      {β : Type} (operation : Op β) (next : β → Program ε Op α)
      (busy : pool.workers worker = some task)
      (here : task.rest = .perform operation next) :
      Steps pool (.advance worker)
        (system.advanced pool worker task operation next)
  | finished (worker : ω) (task : Task ι ε Op α γ) (value : α)
      (busy : pool.workers worker = some task)
      (here : task.rest = .pure value) :
      Steps pool (.finish worker) (pool.assign worker none)

variable {system} {pool next : Pool ω ι ε Op α γ σ}
variable {event : Event ω ι} {output : Option α}

theorem steps_of_step
    (stepped : system.step pool event = .ok (output, next)) :
    system.Steps pool event next := by
  cases event with
  | start worker input =>
      cases busy : pool.workers worker with
      | some task => simp [step, busy] at stepped
      | none =>
          simp only [step, busy, Except.ok.injEq, Prod.mk.injEq] at stepped
          obtain ⟨-, rfl⟩ := stepped
          exact Steps.started worker input busy
  | advance worker =>
      cases busy : pool.workers worker with
      | none => simp [step, busy] at stepped
      | some task =>
          cases here : task.rest with
          | pure value => simp [step, busy, here] at stepped
          | throw thrown => simp [step, busy, here] at stepped
          | perform operation next =>
              simp only [step, busy, here, Except.ok.injEq,
                Prod.mk.injEq] at stepped
              obtain ⟨-, rfl⟩ := stepped
              exact Steps.advanced worker task operation next busy here
  | finish worker =>
      cases busy : pool.workers worker with
      | none => simp [step, busy] at stepped
      | some task =>
          cases here : task.rest with
          | throw thrown => simp [step, busy, here] at stepped
          | perform operation next => simp [step, busy, here] at stepped
          | pure value =>
              simp only [step, busy, here, Except.ok.injEq,
                Prod.mk.injEq] at stepped
              obtain ⟨-, rfl⟩ := stepped
              exact Steps.finished worker task value busy here

end Steps

/-! ## The rules hold of every worker -/

/-- Every worker goes on obeying the rules of its input. -/
def Disciplined (system : System ι ε Op α γ σ)
    (pool : Pool ω ι ε Op α γ σ) : Prop :=
  ∀ worker task, pool.workers worker = some task →
    task.rest.Obeys (system.rules task.input)
      (fun note _ => (system.rules task.input).mayReturn note) task.note

variable {system : System ι ε Op α γ σ} {pool next : Pool ω ι ε Op α γ σ}

theorem Disciplined.initial (shared : σ) :
    system.Disciplined (Pool.initial shared : Pool ω ι ε Op α γ σ) := by
  intro worker task busy
  cases busy

variable [DecidableEq ω] {event : Event ω ι}

theorem Disciplined.assign
    (disciplined : system.Disciplined pool) {worker : ω}
    {task : Option (Task ι ε Op α γ)}
    (obeys : ∀ given, task = some given →
      given.rest.Obeys (system.rules given.input)
        (fun note _ => (system.rules given.input).mayReturn note)
        given.note) :
    system.Disciplined (pool.assign worker task) := by
  intro other given busy
  by_cases own : other = worker
  · subst own
    rw [Pool.assign_workers_self] at busy
    exact obeys given busy
  · rw [pool.assign_workers_of_ne task own] at busy
    exact disciplined other given busy

theorem Disciplined.steps
    (steps : system.Steps pool event next)
    (disciplined : system.Disciplined pool) :
    system.Disciplined next := by
  cases steps with
  | started worker input idle =>
      apply disciplined.assign
      intro given same
      cases same
      exact system.obeys input
  | advanced worker task operation following busy here =>
      have obeys := disciplined worker task busy
      rw [here] at obeys
      have shared : system.Disciplined { pool with
          shared := (system.apply operation pool.shared).2 } := disciplined
      apply shared.assign
      intro given same
      cases same
      exact obeys.2 _
  | finished worker task value busy here =>
      apply disciplined.assign
      intro given absent
      cases absent

end System

end MinimalSip.Lib.Concurrent

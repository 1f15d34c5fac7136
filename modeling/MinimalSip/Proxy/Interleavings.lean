import MinimalSip.Proxy.CallBookkeeping
import MinimalSip.Proxy.RouterPrograms

/-!
# Interleaved handlers

Registry and contexts are updated in separate critical sections.  Between the
two a handler has a window open: an INVITE from `create_call` until it stores
the context, a release from `remove_call` until it erases the context.  Within
a window the maps may differ.

`Settling` says that they differ only on calls with a window that will make
them agree again.  Every operation keeps this except two: erasing the context
of a call that has been created anew in between, and storing the context of a
call that has been removed in between.
-/

namespace MinimalSip.Proxy

open MinimalSip.Lib.Cpp
open MinimalSip.Lib.Machine
open MinimalSip.Lib.Concurrent
open MinimalSip.Common

/-! ## Windows -/

/-- Where a handler is between its updates of the two maps. -/
inductive Window where
  | settled
  | opening
  | closing
deriving DecidableEq, Repr

namespace Window

/-- The window after an operation with its result. -/
def observe : Window → {β : Type} → Operation β → β → Window
  | window, _, .createCall _ _ _, session =>
      if session.isSome then .opening else window
  | _, _, .removeCall _, _ => .closing
  | _, _, .storeCallContext _ _, _ => .settled
  | _, _, .eraseCallContext _, _ => .settled
  | window, _, _, _ => window

/-- Updates come in pairs, on the call of the message. -/
def allows (own : CppString) : Window → {β : Type} → Operation β → Prop
  | window, _, .createCall callId _ _ => callId = own ∧ window = .settled
  | window, _, .removeCall callId => callId = own ∧ window = .settled
  | window, _, .storeCallContext callId _ => callId = own ∧ window = .opening
  | window, _, .eraseCallContext callId => callId = own ∧ window = .closing
  | _, _, _ => True

/-- A handler returns with no window open; only an INVITE can throw. -/
def rules (own : CppString) : Rules Operation Window where
  fresh := .settled
  observe := observe
  allows := allows own
  mayReturn := fun window => window = .settled
  mayThrow := fun window => window = .opening

end Window

/-! ## The handlers obey the rules -/

namespace Worker

/-- The piece leaves no window open. -/
def Settles (own : CppString) (piece : Handler α) : Prop :=
  piece.Obeys (Window.rules own) (fun window _ => window = .settled) .settled

namespace Settles

variable {own : CppString}

theorem pure (value : α) : Settles own (.pure value : Handler α) :=
  rfl

theorem bind
    {piece : Handler α} {continuation : α → Handler β}
    (first : Settles own piece)
    (second : ∀ value, Settles own (continuation value)) :
    Settles own (piece >>= continuation) := by
  apply Program.Obeys.bind first
  rintro window value rfl
  exact second value

/-- An operation on neither map. -/
theorem operate
    {operation : Operation α}
    (allowed : Window.allows own .settled operation)
    (same : ∀ answer,
      Window.observe .settled operation answer = .settled) :
    Settles own (.operate operation) :=
  ⟨allowed, same⟩

theorem ite
    {condition : Prop} [Decidable condition] {first second : Handler α}
    (left : condition → Settles own first)
    (right : ¬ condition → Settles own second) :
    Settles own (if condition then first else second) := by
  split_ifs with met
  · exact left met
  · exact right met

theorem applyIfAny (session : SessionRef) (event : Option CallEvent) :
    Settles own (Worker.applyIfAny session event) := by
  cases event with
  | none => exact pure ()
  | some event => exact operate trivial (fun _ => rfl)

theorem noteEvent (callId : CppString) (event : Option CallEvent) :
    Settles own (Worker.noteEvent callId event) := by
  apply bind
  · exact operate trivial (fun _ => rfl)
  · intro found
    cases found with
    | none => exact pure ()
    | some session => exact applyIfAny session event

theorem decActiveCalls : Settles own Worker.decActiveCalls := by
  apply bind
  · exact operate trivial (fun _ => rfl)
  · intro calls
    apply ite
    · exact fun _ => operate trivial (fun _ => rfl)
    · exact fun _ => pure ()

theorem onlyIf
    {condition : Prop} [Decidable condition] {piece : Handler Unit}
    (settles : Settles own piece) :
    Settles own (Worker.onlyIf condition piece) :=
  ite (fun _ => settles) (fun _ => pure ())

theorem handleRegister (message : SIPMessage) (transport : TransportType) :
    Settles own (Worker.handleRegister message transport) := by
  apply ite
  · exact fun _ => pure _
  intro headers
  apply bind _ (fun response => pure _)
  apply ite
  · exact fun _ => pure _
  intro starts
  apply ite
  · exact fun _ => pure _
  intro present
  rw [RegisterHandler.extractSipIdentity_eq]
  apply ite
  · exact fun _ => pure _
  intro user
  apply bind
  · exact operate trivial (fun _ => rfl)
  intro stored
  apply bind
  · exact operate trivial (fun _ => rfl)
  exact fun counted => pure _

/-- The two removals in a row. -/
theorem release :
    Settles own (do
      .operate (.removeCall own)
      .operate (.eraseCallContext own)) :=
  ⟨⟨rfl, rfl⟩, fun _ => ⟨⟨rfl, rfl⟩, fun _ => rfl⟩⟩

theorem removeTerminated : Settles own (Worker.removeTerminated own) := by
  apply bind
  · exact operate trivial (fun _ => rfl)
  intro found
  cases found with
  | none => exact pure ()
  | some session =>
      apply bind
      · exact operate trivial (fun _ => rfl)
      intro terminated
      apply ite
      · exact fun _ => release
      · exact fun _ => pure ()

theorem releaseAfterBye : Settles own (Worker.releaseAfterBye own) := by
  have sequence := bind (@release own) (fun _ => decActiveCalls)
  exact sequence

theorem releaseAfterBusy : Settles own (Worker.releaseAfterBusy own) := by
  refine ⟨⟨rfl, rfl⟩, fun removed => ?_⟩
  have gauge : Worker.decActiveCalls.Obeys (Window.rules own)
      (fun window _ => window = .closing) .closing := by
    refine ⟨trivial, fun calls => ?_⟩
    show Program.Obeys _ _ _ (if calls > 0 then _ else _)
    split_ifs
    · exact ⟨trivial, fun stepped => rfl⟩
    · exact rfl
  apply Program.Obeys.bind gauge
  rintro window done rfl
  exact ⟨⟨rfl, rfl⟩, fun erased => rfl⟩

theorem handleAck (config : RouterConfig) (received : Received) :
    Settles received.callId (Worker.handleAck config received.message) := by
  apply bind
  · exact operate trivial (fun _ => rfl)
  intro context
  cases context with
  | none => exact pure _
  | some context =>
      simp only [SIPRouter.extractSipIdentity_eq, Program.lift,
        Program.bind_pure]
      apply bind (noteEvent _ _)
      intro noted
      apply bind removeTerminated
      exact fun removed => pure _

theorem handleBye (config : RouterConfig) (received : Received) :
    Settles received.callId (Worker.handleBye config received.message) := by
  apply bind
  · exact operate trivial (fun _ => rfl)
  intro context
  cases context with
  | none => exact pure _
  | some context =>
      simp only [SIPRouter.extractSipIdentity_eq, Program.lift,
        Program.bind_pure]
      apply bind (noteEvent _ _)
      exact fun noted => pure _

theorem handleResponse (config : RouterConfig) (received : Received) :
    Settles received.callId
      (Worker.handleResponse config received.message) := by
  apply bind
  · exact operate trivial (fun _ => rfl)
  intro context
  cases context with
  | none => exact pure _
  | some context =>
      apply bind _ (fun applied => pure _)
      apply bind (noteEvent _ _)
      intro noted
      apply bind (onlyIf ?_)
      swap
      · exact operate trivial (fun _ => rfl)
      intro stored
      apply bind (onlyIf decActiveCalls)
      intro declined
      apply bind (onlyIf releaseAfterBye)
      exact fun released => onlyIf releaseAfterBusy

/-- With the window open, the context is stored or the handler throws. -/
theorem openCall
    (config : RouterConfig) (received : Received)
    (caller callee : CppString) (calleeEntry : ContactEntry)
    (session : SessionRef) :
    (Worker.openCall config received caller callee calleeEntry
      session).Obeys (Window.rules received.callId)
        (fun window _ => window = .settled) .opening := by
  have stored : (Worker.storeCallContext received caller callee
      calleeEntry).Obeys (Window.rules received.callId)
        (fun window _ => window = .settled) .opening := by
    unfold Worker.storeCallContext
    cases SIPRouter.calleeAddress calleeEntry.contact with
    | error thrown => exact rfl
    | ok address =>
        exact ⟨trivial, fun registered =>
          ⟨⟨rfl, rfl⟩, fun done => rfl⟩⟩
  apply Program.Obeys.bind stored
  rintro window done rfl
  apply bind (applyIfAny _ _)
  intro noted
  apply bind
  · exact operate trivial (fun _ => rfl)
  exact fun counted => pure _

theorem handleInvite (config : RouterConfig) (received : Received) :
    Settles received.callId (Worker.handleInvite config received) := by
  unfold Worker.handleInvite
  apply ite
  · exact fun _ => pure _
  intro headers
  simp only [SIPRouter.extractSipIdentity_eq, Program.lift,
    Program.bind_pure]
  apply ite
  · exact fun _ => pure _
  intro nonempty
  apply ite
  · exact fun _ => pure _
  intro distinct
  apply bind
  · exact operate trivial (fun _ => rfl)
  intro entry
  cases entry with
  | none => exact pure _
  | some calleeEntry =>
      apply ite
      · exact fun _ => pure _
      intro sameTransport
      refine ⟨⟨rfl, rfl⟩, fun created => ?_⟩
      cases created with
      | none => exact pure _
      | some session => exact openCall config received _ _ calleeEntry session

/-- Every handler returns with no window open. -/
theorem route (config : RouterConfig) (received : Received) :
    Settles received.callId (Worker.route config received) := by
  unfold Worker.route
  apply ite
  · exact fun _ => handleResponse config received
  intro notResponse
  apply ite
  · exact fun _ => pure _
  intro request
  apply ite
  · exact fun _ => handleRegister received.message received.transport
  intro notRegister
  apply ite
  · exact fun _ => handleInvite config received
  intro notInvite
  apply ite
  · exact fun _ => handleAck config received
  intro notAck
  apply ite
  · exact fun _ => handleBye config received
  · exact fun _ => pure _

end Settles

end Worker

/-! ## The pool of handlers -/

/-- Any number of workers that route messages over one router. -/
def workers (config : RouterConfig) :
    System Received StdException Operation RoutingResult Window Shared where
  program := Worker.route config
  apply := Operation.apply
  rules := fun received => Window.rules received.callId
  obeys := Worker.Settles.route config

abbrev RouterPool (ω : Type) :=
  Pool ω Received StdException Operation RoutingResult Window Shared

namespace RouterPool

variable {ω : Type}

/-- Some handler of the call has that window open. -/
def InWindow
    (pool : RouterPool ω) (window : Window) (callId : CppString) : Prop :=
  ∃ worker task, pool.workers worker = some task ∧
    task.input.callId = callId ∧ task.note = window

/-- The maps differ only on calls whose window will make them agree. -/
structure Settling (pool : RouterPool ω) : Prop where
  opening : ∀ callId ∈ pool.shared.registry,
    callId ∉ pool.shared.callContexts → InWindow pool .opening callId
  closing : ∀ callId ∈ pool.shared.callContexts,
    callId ∉ pool.shared.registry → InWindow pool .closing callId

/-- Registry and contexts hold the same calls. -/
def SameCalls (pool : RouterPool ω) : Prop :=
  pool.shared.registry.keys = pool.shared.callContexts.keys

/-- With no window open, settling maps hold the same calls. -/
theorem Settling.sameCalls
    {pool : RouterPool ω} (settling : Settling pool) (idle : pool.Idle) :
    SameCalls pool := by
  have closed : ∀ window callId, ¬ InWindow pool window callId := by
    rintro window callId ⟨worker, task, busy, -⟩
    rw [idle worker] at busy
    cases busy
  ext callId
  rw [Finmap.mem_keys, Finmap.mem_keys]
  constructor
  · intro inRegistry
    by_contra absent
    exact closed _ _ (settling.opening callId inRegistry absent)
  · intro inContexts
    by_contra absent
    exact closed _ _ (settling.closing callId inContexts absent)

/--
The two operations that leave the maps different for good: the context of a
call is erased while the call is registered again, or stored when the call is
no longer registered, and no other handler is about to make up for it.
-/
def LosesBy (pool : RouterPool ω) : {β : Type} → Operation β → Prop
  | _, .eraseCallContext callId =>
      callId ∈ pool.shared.registry ∧ ¬ InWindow pool .opening callId
  | _, .storeCallContext callId _ =>
      callId ∉ pool.shared.registry ∧ ¬ InWindow pool .closing callId
  | _, _ => False

/-- The event is such an operation. -/
def Loses (pool : RouterPool ω) : Event ω Received → Prop
  | .advance worker =>
      match pool.workers worker with
      | some task =>
          match task.rest with
          | .perform operation _ => LosesBy pool operation
          | _ => False
      | none => False
  | _ => False

/-- The pool before the first message. -/
def initial : RouterPool ω :=
  Pool.initial {}

theorem Settling.initial : Settling (initial : RouterPool ω) where
  opening := by
    intro callId known
    exact absurd known Finmap.notMem_empty
  closing := by
    intro callId known
    exact absurd known Finmap.notMem_empty

/-! ## What one event does to the windows -/

/-- Some other handler of the call has that window open. -/
def InOtherWindow
    (pool : RouterPool ω) (worker : ω) (window : Window)
    (callId : CppString) : Prop :=
  ∃ other task, other ≠ worker ∧ pool.workers other = some task ∧
    task.input.callId = callId ∧ task.note = window

theorem inWindow_iff
    {pool : RouterPool ω} (worker : ω) (window : Window)
    (callId : CppString) :
    InWindow pool window callId ↔
      (∃ task, pool.workers worker = some task ∧
        task.input.callId = callId ∧ task.note = window) ∨
      InOtherWindow pool worker window callId := by
  constructor
  · rintro ⟨other, task, busy, own, note⟩
    by_cases same : other = worker
    · subst same
      exact Or.inl ⟨task, busy, own, note⟩
    · exact Or.inr ⟨other, task, same, busy, own, note⟩
  · rintro (⟨task, busy, own, note⟩ | ⟨other, task, -, busy, own, note⟩)
    · exact ⟨worker, task, busy, own, note⟩
    · exact ⟨other, task, busy, own, note⟩

theorem inWindow_busy
    {pool : RouterPool ω} {worker : ω}
    {task : Task Received StdException Operation RoutingResult Window}
    (busy : pool.workers worker = some task)
    (window : Window) (callId : CppString) :
    InWindow pool window callId ↔
      (task.input.callId = callId ∧ task.note = window) ∨
        InOtherWindow pool worker window callId := by
  rw [inWindow_iff worker]
  apply or_congr_left
  constructor
  · rintro ⟨given, known, own, note⟩
    rw [busy, Option.some.injEq] at known
    subst known
    exact ⟨own, note⟩
  · rintro ⟨own, note⟩
    exact ⟨task, busy, own, note⟩

variable [DecidableEq ω]

theorem inOtherWindow_assign
    {pool : RouterPool ω} {worker : ω}
    (task : Option (Task Received StdException Operation RoutingResult
      Window))
    (window : Window) (callId : CppString) :
    InOtherWindow (pool.assign worker task) worker window callId ↔
      InOtherWindow pool worker window callId := by
  constructor
  · rintro ⟨other, given, distinct, busy, own, note⟩
    rw [pool.assign_workers_of_ne task distinct] at busy
    exact ⟨other, given, distinct, busy, own, note⟩
  · rintro ⟨other, given, distinct, busy, own, note⟩
    refine ⟨other, given, distinct, ?_, own, note⟩
    rw [pool.assign_workers_of_ne task distinct, busy]

/-- Tasks that come and go with no window open change no window. -/
theorem inWindow_assign
    {pool : RouterPool ω} {worker : ω}
    {task : Option (Task Received StdException Operation RoutingResult
      Window)}
    (before : ∀ given, pool.workers worker = some given →
      given.note = .settled)
    (after : ∀ given, task = some given → given.note = .settled)
    {window : Window} (open' : window ≠ .settled) (callId : CppString) :
    InWindow (pool.assign worker task) window callId ↔
      InWindow pool window callId := by
  rw [inWindow_iff worker, inWindow_iff worker, inOtherWindow_assign]
  apply or_congr_left
  constructor
  · rintro ⟨given, busy, -, note⟩
    rw [Pool.assign_workers_self] at busy
    exact absurd (note.symm.trans (after given busy)) open'
  · rintro ⟨given, busy, -, note⟩
    exact absurd (note.symm.trans (before given busy)) open'

theorem settling_assign_iff
    {pool : RouterPool ω} {worker : ω}
    {task : Option (Task Received StdException Operation RoutingResult
      Window)}
    (before : ∀ given, pool.workers worker = some given →
      given.note = .settled)
    (after : ∀ given, task = some given → given.note = .settled) :
    Settling (pool.assign worker task) ↔ Settling pool := by
  have opening := inWindow_assign before after
    (show Window.opening ≠ .settled by decide)
  have closing := inWindow_assign before after
    (show Window.closing ≠ .settled by decide)
  constructor
  · rintro ⟨opened, closed⟩
    simp only [opening, closing] at opened closed
    exact ⟨opened, closed⟩
  · rintro ⟨opened, closed⟩
    constructor
    · simpa only [opening, Pool.assign_shared] using opened
    · simpa only [closing, Pool.assign_shared] using closed

section Advance

variable {config : RouterConfig} {pool : RouterPool ω} {worker : ω}
variable {task : Task Received StdException Operation RoutingResult Window}

theorem inWindow_advanced
    {β : Type} (operation : Operation β)
    (next : β → Worker.Handler RoutingResult)
    (window : Window) (callId : CppString) :
    InWindow ((workers config).advanced pool worker task operation next)
        window callId ↔
      (task.input.callId = callId ∧
        Window.observe task.note operation
          (operation.apply pool.shared).1 = window) ∨
        InOtherWindow pool worker window callId := by
  have busy : ((workers config).advanced pool worker task operation
      next).workers worker = some
        { input := task.input
          note := Window.observe task.note operation
            (operation.apply pool.shared).1
          rest := next (operation.apply pool.shared).1 } :=
    Pool.assign_workers_self _ _ _
  rw [inWindow_busy busy]
  apply or_congr_right
  exact inOtherWindow_assign _ _ _

/-- An operation that keeps the keys and the window changes nothing. -/
theorem settling_advanced_of_neutral
    {β : Type} {operation : Operation β}
    {next : β → Worker.Handler RoutingResult}
    (busy : pool.workers worker = some task)
    (note : Window.observe task.note operation
      (operation.apply pool.shared).1 = task.note)
    (registry : ∀ callId,
      callId ∈ (operation.apply pool.shared).2.registry ↔
        callId ∈ pool.shared.registry)
    (contexts : ∀ callId,
      callId ∈ (operation.apply pool.shared).2.callContexts ↔
        callId ∈ pool.shared.callContexts)
    (settling : Settling pool) :
    Settling
      ((workers config).advanced pool worker task operation next) := by
  have windows : ∀ window callId,
      InWindow ((workers config).advanced pool worker task operation next)
        window callId ↔ InWindow pool window callId := by
    intro window callId
    rw [inWindow_advanced, inWindow_busy busy, note]
  constructor
  · intro callId known absent
    rw [windows]
    exact settling.opening callId ((registry callId).mp known)
      (fun stored => absent ((contexts callId).mpr stored))
  · intro callId stored absent
    rw [windows]
    exact settling.closing callId ((contexts callId).mp stored)
      (fun known => absent ((registry callId).mpr known))

/-- A window of another handler, or of another call, stays open. -/
theorem inWindow_advanced_of_other
    {β : Type} {operation : Operation β}
    {next : β → Worker.Handler RoutingResult}
    {window : Window} {callId : CppString}
    (busy : pool.workers worker = some task)
    (other : ¬ (task.input.callId = callId ∧ task.note = window))
    (inside : InWindow pool window callId) :
    InWindow ((workers config).advanced pool worker task operation next)
      window callId := by
  rw [inWindow_advanced]
  rw [inWindow_busy busy] at inside
  exact Or.inr (inside.resolve_left other)

/-- `create_call` opens a window over the call that it registers. -/
theorem settling_created
    {callId caller callee : CppString}
    {next : Option SessionRef → Worker.Handler RoutingResult}
    (busy : pool.workers worker = some task)
    (own : callId = task.input.callId) (note : task.note = .settled)
    (settling : Settling pool) :
    Settling ((workers config).advanced pool worker task
      (.createCall callId caller callee) next) := by
  by_cases known : callId ∈ pool.shared.registry
  · have refused : (Operation.createCall callId caller callee).apply
        pool.shared = (none, pool.shared) := if_pos known
    apply settling_advanced_of_neutral busy _ _ _ settling
    · rw [refused]
      rfl
    · rw [refused]
      exact fun _ => Iff.rfl
    · rw [refused]
      exact fun _ => Iff.rfl
  · have created : (Operation.createCall callId caller callee).apply
        pool.shared = (some pool.shared.heap.length, { pool.shared with
          heap := pool.shared.heap ++
            [{ callId := callId, caller := caller, callee := callee }]
          registry := pool.shared.registry.insert callId
            pool.shared.heap.length }) := if_neg known
    have shared : ((workers config).advanced pool worker task
        (.createCall callId caller callee) next).shared =
          ((Operation.createCall callId caller callee).apply
            pool.shared).2 := rfl
    constructor
    · intro other registered absent
      by_cases same : other = callId
      · rw [inWindow_advanced, created]
        exact Or.inl ⟨(same.trans own).symm, rfl⟩
      · rw [shared, created, Finmap.mem_insert] at registered
        rw [shared, created] at absent
        apply inWindow_advanced_of_other busy
        · rintro ⟨-, opened⟩
          rw [note] at opened
          cases opened
        · exact settling.opening other (registered.resolve_left same) absent
    · intro other stored absent
      rw [shared, created] at stored
      rw [shared, created, Finmap.mem_insert, not_or] at absent
      apply inWindow_advanced_of_other busy
      · rintro ⟨-, opened⟩
        rw [note] at opened
        cases opened
      · exact settling.closing other stored absent.2

/-- `remove_call` opens a window over the call that it removes. -/
theorem settling_removed
    {callId : CppString} {next : Unit → Worker.Handler RoutingResult}
    (busy : pool.workers worker = some task)
    (own : callId = task.input.callId) (note : task.note = .settled)
    (settling : Settling pool) :
    Settling ((workers config).advanced pool worker task
      (.removeCall callId) next) := by
  constructor
  · intro other registered absent
    have before : other ∈ pool.shared.registry :=
      (Finmap.mem_erase.mp registered).2
    apply inWindow_advanced_of_other busy
    · rintro ⟨-, opened⟩
      rw [note] at opened
      cases opened
    · exact settling.opening other before absent
  · intro other stored absent
    by_cases same : other = callId
    · rw [inWindow_advanced]
      exact Or.inl ⟨(same.trans own).symm, rfl⟩
    · have before : other ∉ pool.shared.registry :=
        fun known => absent (Finmap.mem_erase.mpr ⟨same, known⟩)
      apply inWindow_advanced_of_other busy
      · rintro ⟨-, opened⟩
        rw [note] at opened
        cases opened
      · exact settling.closing other stored before

/-- Storing a context settles its call, unless it is no longer registered. -/
theorem settling_stored_iff
    {callId : CppString} {context : CallContext}
    {next : Unit → Worker.Handler RoutingResult}
    (busy : pool.workers worker = some task)
    (own : callId = task.input.callId) (note : task.note = .opening)
    (settling : Settling pool) :
    Settling ((workers config).advanced pool worker task
        (.storeCallContext callId context) next) ↔
      ¬ LosesBy pool (.storeCallContext callId context) := by
  have notClosing : ∀ other,
      ¬ (task.input.callId = other ∧ task.note = .closing) := by
    rintro other ⟨-, closing⟩
    rw [note] at closing
    cases closing
  constructor
  · rintro after ⟨unknown, uncovered⟩
    have covered := after.closing callId
      (Finmap.mem_insert.mpr (Or.inl rfl)) unknown
    rw [inWindow_advanced] at covered
    rcases covered with ⟨-, settled⟩ | elsewhere
    · cases settled
    · exact uncovered ((inWindow_busy busy _ _).mpr (Or.inr elsewhere))
  · intro kept
    constructor
    · intro other registered absent
      have absent' := fun stored =>
        absent (Finmap.mem_insert.mpr (Or.inr stored))
      have apart : other ≠ callId :=
        fun same => absent (Finmap.mem_insert.mpr (Or.inl same))
      apply inWindow_advanced_of_other busy
      · rintro ⟨same, -⟩
        exact apart (same.symm.trans own.symm)
      · exact settling.opening other registered absent'
    · intro other stored absent
      apply inWindow_advanced_of_other busy (notClosing other)
      rcases Finmap.mem_insert.mp stored with same | before
      · subst same
        by_contra uncovered
        exact kept ⟨absent, uncovered⟩
      · exact settling.closing other before absent

/-- Erasing a context settles its call, unless it is registered again. -/
theorem settling_erased_iff
    {callId : CppString} {next : Unit → Worker.Handler RoutingResult}
    (busy : pool.workers worker = some task)
    (own : callId = task.input.callId) (note : task.note = .closing)
    (settling : Settling pool) :
    Settling ((workers config).advanced pool worker task
        (.eraseCallContext callId) next) ↔
      ¬ LosesBy pool (.eraseCallContext callId) := by
  have notOpening : ∀ other,
      ¬ (task.input.callId = other ∧ task.note = .opening) := by
    rintro other ⟨-, opening⟩
    rw [note] at opening
    cases opening
  constructor
  · rintro after ⟨known, uncovered⟩
    have erased : callId ∉ pool.shared.callContexts.erase callId :=
      fun stored => (Finmap.mem_erase.mp stored).1 rfl
    have covered := after.opening callId known erased
    rw [inWindow_advanced] at covered
    rcases covered with ⟨-, settled⟩ | elsewhere
    · cases settled
    · exact uncovered ((inWindow_busy busy _ _).mpr (Or.inr elsewhere))
  · intro kept
    constructor
    · intro other registered absent
      apply inWindow_advanced_of_other busy (notOpening other)
      by_cases same : other = callId
      · subst same
        by_contra uncovered
        exact kept ⟨registered, uncovered⟩
      · have before : other ∉ pool.shared.callContexts :=
          fun stored => absent (Finmap.mem_erase.mpr ⟨same, stored⟩)
        exact settling.opening other registered before
    · intro other stored absent
      obtain ⟨apart, before⟩ := Finmap.mem_erase.mp stored
      apply inWindow_advanced_of_other busy
      · rintro ⟨same, -⟩
        exact apart (same.symm.trans own.symm)
      · exact settling.closing other before absent

/-- An operation that obeys the rules settles exactly if it loses nothing. -/
theorem settling_advanced_iff
    {β : Type} {operation : Operation β}
    {next : β → Worker.Handler RoutingResult}
    (busy : pool.workers worker = some task)
    (allowed : Window.allows task.input.callId task.note operation)
    (settling : Settling pool) :
    Settling ((workers config).advanced pool worker task operation next) ↔
      ¬ LosesBy pool operation := by
  have neutral := @settling_advanced_of_neutral ω _ config pool worker task
    β operation next busy
  cases operation with
  | createCall callId caller callee =>
      exact ⟨fun _ => id, fun _ =>
        settling_created busy allowed.1 allowed.2 settling⟩
  | removeCall callId =>
      exact ⟨fun _ => id, fun _ =>
        settling_removed busy allowed.1 allowed.2 settling⟩
  | storeCallContext callId context =>
      exact settling_stored_iff busy allowed.1 allowed.2 settling
  | eraseCallContext callId =>
      exact settling_erased_iff busy allowed.1 allowed.2 settling
  | storeCalleeHeaders callId headers =>
      have kept := neutral rfl (fun _ => Iff.rfl)
        (fun other => TextMap.mem_modify _ _ _ _) settling
      exact ⟨fun _ => id, fun _ => kept⟩
  | _ =>
      have kept := neutral rfl (fun _ => Iff.rfl) (fun _ => Iff.rfl) settling
      exact ⟨fun _ => id, fun _ => kept⟩

end Advance

/-! ## Whole runs -/

variable {config : RouterConfig} {pool next : RouterPool ω}
variable {event : Event ω Received}

/-- An event keeps the maps settling exactly if it loses nothing. -/
theorem settling_steps_iff
    (steps : (workers config).Steps pool event next)
    (disciplined : (workers config).Disciplined pool)
    (settling : Settling pool) :
    Settling next ↔ ¬ Loses pool event := by
  cases steps with
  | started worker received idle =>
      have same : Settling (pool.assign worker
          (some ((workers config).begin received))) ↔ Settling pool := by
        apply settling_assign_iff
        · intro given busy
          rw [idle] at busy
          cases busy
        · intro given begun
          cases begun
          rfl
      exact ⟨fun _ => id, fun _ => same.mpr settling⟩
  | advanced worker task operation following busy here =>
      have obeys := disciplined worker task busy
      rw [here] at obeys
      have loses : Loses pool (.advance worker) ↔
          LosesBy pool operation := by
        simp only [Loses, busy, here]
      rw [loses]
      exact settling_advanced_iff busy obeys.1 settling
  | finished worker task result busy here =>
      have obeys := disciplined worker task busy
      rw [here] at obeys
      have same : Settling (pool.assign worker none) ↔ Settling pool := by
        apply settling_assign_iff
        · intro given given_busy
          rw [busy, Option.some.injEq] at given_busy
          subst given_busy
          exact obeys
        · intro given none
          cases none
      exact ⟨fun _ => id, fun _ => same.mpr settling⟩

/-- An event that the pool refuses loses nothing. -/
theorem not_loses_of_error
    {refused : Disabled}
    (failed : (workers config).step pool event = .error refused) :
    ¬ Loses pool event := by
  cases event with
  | start worker received => exact id
  | finish worker => exact id
  | advance worker =>
      cases busy : pool.workers worker with
      | none => simp [Loses, busy]
      | some task =>
          cases here : task.rest with
          | pure result => simp [Loses, busy, here]
          | throw thrown => simp [Loses, busy, here]
          | perform operation next =>
              simp [System.step, busy, here] at failed

/-- The maps settle in every state of a run exactly if no event loses. -/
theorem settling_throughout_iff
    (config : RouterConfig) (events : List (Event ω Received)) :
    Throughout (workers config).step Settling (initial : RouterPool ω)
        events ↔
      Along (workers config).step (fun pool event => ¬ Loses pool event)
        (initial : RouterPool ω) events := by
  have disciplined : (workers config).Disciplined
      (initial : RouterPool ω) := System.Disciplined.initial _
  refine throughout_iff_along ?preserved ?exactStep ?failing disciplined
    Settling.initial
  case preserved =>
    intro pool event result next stepped obeys
    exact obeys.steps (System.steps_of_step stepped)
  case exactStep =>
    intro pool event result next stepped obeys settling
    exact settling_steps_iff (System.steps_of_step stepped) obeys settling
  case failing =>
    intro pool event refused failed
    exact not_loses_of_error failed

/--
Handlers that run at the same time keep the maps coherent, in every run in
which no handler erases the context of a call that is registered again, or
stores the context of a call that is no longer registered, with nobody left
to make up for it: whenever no handler is running, registry and contexts hold
the same calls.
-/
theorem sameCalls_when_idle
    {events : List (Event ω Received)}
    (kept : Along (workers config).step
      (fun pool event => ¬ Loses pool event)
      (initial : RouterPool ω) events) :
    Throughout (workers config).step
      (fun pool => pool.Idle → SameCalls pool)
      (initial : RouterPool ω) events := by
  have settles := (settling_throughout_iff config events).mpr kept
  apply settles.mono
  intro pool settling idle
  exact settling.sameCalls idle

/-! Two workers, and the message that they both may handle. -/

open SIPRouter (plainConfig registerBob inviteBob fromBob aliceCall)

/-- The events of a handler that runs through with so many operations. -/
def handles (worker : Bool) (received : Received) (operations : Nat) :
    List (Event Bool Received) :=
  .start worker received ::
    (List.replicate operations (.advance worker) ++ [.finish worker])

/-- Both workers take the INVITE of alice; the second one is refused. -/
def twoInvites : List (Event Bool Received) :=
  handles false registerBob 2 ++
    [.start false inviteBob, .advance false, .advance false] ++
    handles true inviteBob 2 ++
    [.advance false, .advance false, .advance false, .advance false,
      .finish false]

instance
    (pool : RouterPool Bool) (window : Window) (callId : CppString) :
    Decidable (InWindow pool window callId) :=
  decidable_of_iff
    (∃ worker, (pool.workers worker).any (fun task =>
      decide (task.input.callId = callId ∧ task.note = window)) = true)
    (by simp [InWindow, Option.any_eq_true])

instance
    {β : Type} (pool : RouterPool Bool) (operation : Operation β) :
    Decidable (LosesBy pool operation) := by
  cases operation <;>
    first
    | exact inferInstanceAs (Decidable (_ ∧ _))
    | exact inferInstanceAs (Decidable False)

instance (pool : RouterPool Bool) (event : Event Bool Received) :
    Decidable (Loses pool event) :=
  match event with
  | .start _ _ => .isFalse id
  | .finish _ => .isFalse id
  | .advance worker =>
      match busy : pool.workers worker with
      | none => .isFalse (by simp [Loses, busy])
      | some task =>
          match here : task.rest with
          | .perform operation _ =>
              decidable_of_iff (LosesBy pool operation)
                (by simp [Loses, busy, here])
          | .pure _ => .isFalse (by simp [Loses, busy, here])
          | .throw _ => .isFalse (by simp [Loses, busy, here])

theorem sameCalls_when_idle_twoInvites :
    Throughout (workers plainConfig).step
      (fun pool => pool.Idle → SameCalls pool)
      (initial : RouterPool Bool) twoInvites :=
  sameCalls_when_idle (by decide)

/-- Bob's 200 to the BYE of alice. -/
def byeAnswered : Received := fromBob "SIP/2.0 200 OK" "2 BYE"

/--
The release of alice's call by bob's 200 is overtaken by a new INVITE of the
same call: between `remove_call` and the erasure, the INVITE registers the
call and stores its context.
-/
def overtakenRelease : List (Event Bool Received) :=
  handles false registerBob 2 ++ handles false inviteBob 6 ++
    [.start false byeAnswered, .advance false, .advance false,
      .advance false] ++
    handles true inviteBob 6 ++
    [.advance false, .advance false, .advance false, .finish false]

/-- After the overtaken release the call is registered without a context. -/
theorem overtakenRelease_loses :
    ∃ history pool,
      run (workers plainConfig).step (initial : RouterPool Bool)
        overtakenRelease = .ok (history, pool) ∧
      pool.Idle ∧ aliceCall ∈ pool.shared.registry ∧
      aliceCall ∉ pool.shared.callContexts ∧ ¬ SameCalls pool := by
  have tested : succeedsWith
      (run (workers plainConfig).step (initial : RouterPool Bool)
        overtakenRelease)
      (fun value => decide ((∀ worker,
          (value.2.workers worker).isNone = true) ∧
        aliceCall ∈ value.2.shared.registry ∧
        aliceCall ∉ value.2.shared.callContexts)) = true := by
    decide
  obtain ⟨⟨history, pool⟩, ran, found⟩ := exists_of_succeedsWith tested
  obtain ⟨idle, registered, absent⟩ := of_decide_eq_true found
  refine ⟨history, pool, ran, ?_, registered, absent, ?_⟩
  · intro worker
    exact Option.isNone_iff_eq_none.mp (idle worker)
  · intro same
    apply absent
    rw [← Finmap.mem_keys, ← same, Finmap.mem_keys]
    exact registered

end RouterPool

end MinimalSip.Proxy

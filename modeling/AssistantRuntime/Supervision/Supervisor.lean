/-
**The supervisor of agent executions** (`runtimes/agent/supervisor.py`).

The supervisor owns the tasks of one process.  An execution is first reserved and then started; a
started execution has a handle, which is indexed by the task and by the parent of the execution and
is forgotten when its task ends.  A cancellation follows the children of an execution, started and
reserved ones, and signals everything it finds.

Every critical section of the supervisor runs without a suspension, so each is one step.  A task that
is cancelled before its first step ends without forgetting its handle; such a handle stays, with its
task done.  Dictionaries and sets of identifiers are tables and lists of pairs, where an empty set
is no pair at all.
-/

import AssistantRuntime.Relational.Machine
import AssistantRuntime.Relational.Table
import AssistantRuntime.Relational.Worklist

namespace AssistantRuntime.Supervision

open Relational

/-- `AgentExecutionContext`, as far as the supervisor reads it.  Events are known by number. -/
structure Context where
  executionId : String
  taskId : Option String
  parentExecutionId : Option String
  cancellationEvent : ℕ
  deriving DecidableEq, Repr

/-- `ExecutionOwnershipToken`. -/
structure OwnershipToken where
  executionId : String
  token : String
  deriving DecidableEq, Repr

/-- `_ExecutionReservation`. -/
structure Reservation where
  token : OwnershipToken
  taskId : Option String
  parentExecutionId : Option String
  cancellationEvent : ℕ
  deriving DecidableEq, Repr

/-- `AgentExecutionHandle`, with the answer of `task.done()`. -/
structure Handle where
  executionId : String
  taskId : Option String
  parentExecutionId : Option String
  cancellationEvent : ℕ
  task : ℕ
  done : Bool := false
  deriving DecidableEq, Repr

/-- `AgentExecutionOwnershipError` and `AgentExecutionSupervisorClosedError`. -/
inductive OwnershipError
  | shuttingDown
  | alreadyRunning (executionId : String)
  | alreadyReserved (executionId : String)
  | eventOwnedByLive
  | eventOwnedByReserved
  | staleReservation
  | tokenMismatch
  | scopeChanged
  | emptyTaskId
  deriving DecidableEq, Repr

/-- `AgentExecutionSupervisor`.  A pair of `children` is a parent and one of its children, a pair of
`taskIndex` a task and one of its executions. -/
structure Supervisor where
  handles : Table Handle.executionId := ∅
  reservations : Table (fun r : Reservation => r.token.token) := ∅
  reservedByExecution : Table (Prod.fst : String × String → String) := ∅
  children : List (String × String) := []
  taskIndex : List (String × String) := []
  closing : Bool := false
  deriving DecidableEq

/-- What a cancellation does to one execution: its event is set, and a task is cancelled. -/
structure Signal where
  executionId : String
  cancellationEvent : ℕ
  task : Option ℕ
  deriving DecidableEq, Repr

namespace Supervisor

/-! ### Reservations -/

def ensureExecutionAvailable (s : Supervisor) (executionId : String) : Except OwnershipError Unit :=
  if (s.handles.find? executionId).any fun handle => !handle.done then
    throw (.alreadyRunning executionId)
  else if (s.reservedByExecution.find? executionId).isSome then
    throw (.alreadyReserved executionId)
  else pure ()

def ensureUniqueCancellationEvent (s : Supervisor) (event : ℕ) : Except OwnershipError Unit :=
  if s.handles.rows.any fun handle => !handle.done && handle.cancellationEvent == event then
    throw .eventOwnedByLive
  else if s.reservations.rows.any fun reservation => reservation.cancellationEvent == event then
    throw .eventOwnedByReserved
  else pure ()

/-- A row for a key that is free; the supervisor checks before or draws the key at random. -/
def add {ρ : Type} {key : ρ → String} (t : Table key) (r : ρ) (e : OwnershipError) :
    Except OwnershipError (Table key) :=
  match t.insert? r with
  | some t' => .ok t'
  | none => .error e

/-- `reserve`, where `token` is the hexadecimal number drawn for the reservation. -/
def reserve (s : Supervisor) (context : Context) (token : String) :
    Except OwnershipError Supervisor := do
  if s.closing then throw .shuttingDown
  s.ensureExecutionAvailable context.executionId
  s.ensureUniqueCancellationEvent context.cancellationEvent
  let reservations ← add s.reservations
    { token := ⟨context.executionId, token⟩
      taskId := context.taskId
      parentExecutionId := context.parentExecutionId
      cancellationEvent := context.cancellationEvent } .staleReservation
  let reservedByExecution ← add s.reservedByExecution (context.executionId, token)
    (.alreadyReserved context.executionId)
  pure { s with reservations, reservedByExecution }

def dropReservation (s : Supervisor) (reservation : Reservation) : Supervisor :=
  { s with
    reservations := s.reservations.deleteWhere fun r => r.token.token == reservation.token.token
    reservedByExecution := s.reservedByExecution.deleteWhere fun entry =>
      entry == (reservation.token.executionId, reservation.token.token) }

def releaseReserved (s : Supervisor) (token : OwnershipToken) : Supervisor :=
  match s.reservations.find? token.token with
  | some reservation => if reservation.token = token then s.dropReservation reservation else s
  | none => s

/-- The handle of the context is stored, and the indices name it. -/
def indexed (s : Supervisor) (context : Context) (handles : Table Handle.executionId) : Supervisor :=
  { s with
    handles
    taskIndex := match context.taskId with
      | some taskId => s.taskIndex.insert (taskId, context.executionId)
      | none => s.taskIndex
    children := match context.parentExecutionId with
      | some parent => s.children.insert (parent, context.executionId)
      | none => s.children }

/-- `start_reserved`, where `task` is the task that is created. -/
def startReserved (s : Supervisor) (token : OwnershipToken) (context : Context) (task : ℕ) :
    Except OwnershipError Supervisor :=
  match s.reservations.find? token.token with
  | none => throw .staleReservation
  | some reservation => do
    if reservation.token ≠ token then throw .staleReservation
    if token.executionId ≠ context.executionId then throw .tokenMismatch
    if reservation.taskId ≠ context.taskId
        ∨ reservation.parentExecutionId ≠ context.parentExecutionId
        ∨ reservation.cancellationEvent ≠ context.cancellationEvent then throw .scopeChanged
    let handles ← add s.handles { context with task } (.alreadyRunning context.executionId)
    pure ((s.indexed context handles).dropReservation reservation)

/-! ### The end of a task -/

/-- `_forget_handle_locked`.  The children of the execution stay indexed under it. -/
def forgetHandle (s : Supervisor) (executionId : String) (task : ℕ) : Supervisor :=
  match s.handles.find? executionId with
  | none => s
  | some handle =>
    if handle.task ≠ task then s
    else
      { s with
        handles := s.handles.deleteWhere fun h => h.executionId == executionId
        taskIndex := match handle.taskId with
          | some taskId => s.taskIndex.filter (· ≠ (taskId, executionId))
          | none => s.taskIndex
        children := match handle.parentExecutionId with
          | some parent => s.children.filter (· ≠ (parent, executionId))
          | none => s.children }

/-! ### Cancellation -/

/-- The children of an execution: the indexed ones and the reserved ones. -/
def childrenOf (s : Supervisor) (parent : String) : List String :=
  (s.children.filter fun edge => edge.1 = parent).map Prod.snd
    ++ (s.reservations.rows.filter fun r => r.parentExecutionId = some parent).map
      fun r => r.token.executionId

def childIds (s : Supervisor) : List String :=
  s.children.map Prod.snd ++ s.reservations.rows.map fun r => r.token.executionId

def expandDescendants (s : Supervisor) (roots : List String) : List String :=
  descendants s.childrenOf s.childIds roots

/-- The reservation of an execution, as `_drop_reservations_for_executions_locked` finds it. -/
def reservationOf (s : Supervisor) (executionId : String) : Option Reservation :=
  (s.reservedByExecution.find? executionId).bind fun entry => s.reservations.find? entry.2

/-- `_drop_reservations_for_executions_locked`, with the events that it sets. -/
def dropReservationsForExecutions : Supervisor → List String → List Signal × Supervisor
  | s, [] => ([], s)
  | s, executionId :: rest =>
    match s.reservationOf executionId with
    | none => s.dropReservationsForExecutions rest
    | some r =>
      let (signals, s') := (s.dropReservation r).dropReservationsForExecutions rest
      (⟨r.token.executionId, r.cancellationEvent, none⟩ :: signals, s')

/-- `_signal_and_cancel_locked` for one handle.  A task does not cancel itself, and a task that is
done is not cancelled. -/
def signal (current : Option ℕ) (handle : Handle) : Signal :=
  { executionId := handle.executionId
    cancellationEvent := handle.cancellationEvent
    task := if some handle.task = current ∨ handle.done then none else some handle.task }

def signalAndCancel (s : Supervisor) (current : Option ℕ) (executionIds : List String) :
    List Signal :=
  executionIds.filterMap fun executionId => (s.handles.find? executionId).map (signal current)

/-- The reservations are dropped and the handles signalled. -/
def cancelAll (s : Supervisor) (current : Option ℕ) (executionIds : List String) :
    List Signal × Supervisor :=
  let (dropped, s') := s.dropReservationsForExecutions executionIds
  (dropped ++ s'.signalAndCancel current executionIds, s')

/-- `cancel_execution` up to its drain: what `_cancel_execution_set` does. -/
def cancelExecution (s : Supervisor) (executionId : String) (cascade : Bool)
    (current : Option ℕ) : List Signal × Supervisor :=
  s.cancelAll current (if cascade then s.expandDescendants [executionId] else [executionId])

def cancelTask (s : Supervisor) (taskId : String) (current : Option ℕ) :
    Except OwnershipError (List Signal × Supervisor) :=
  if taskId = "" then .error .emptyTaskId
  else
    let indexed := (s.taskIndex.filter fun edge => edge.1 = taskId).map Prod.snd
    let reserved := (s.reservations.rows.filter fun r => r.taskId = some taskId).map
      fun r => r.token.executionId
    .ok (s.cancelAll current (s.expandDescendants (indexed ++ reserved)))

def shutdown (s : Supervisor) (current : Option ℕ) : List Signal × Supervisor :=
  if s.closing ∧ s.handles.rows = [] ∧ s.reservations.rows = [] then ([], s)
  else
    { s with closing := true }.cancelAll current
      (s.expandDescendants
        (s.handles.rows.map Handle.executionId ++ s.reservedByExecution.rows.map Prod.fst))

/-- The sweep with which `shutdown` ends. -/
def sweep (s : Supervisor) : Supervisor :=
  let s' := s.handles.rows.foldl
    (fun s handle => if handle.done then s.forgetHandle handle.executionId handle.task else s) s
  { s' with reservations := ∅, reservedByExecution := ∅ }

/-- The execution has a handle whose task is not done. -/
def Running (s : Supervisor) (handle : Handle) : Prop :=
  handle ∈ s.handles ∧ handle.done = false

/-- The supervisor knows the execution, by a handle or by a reservation. -/
def Knows (s : Supervisor) (executionId : String) : Prop :=
  (∃ handle ∈ s.handles, handle.executionId = executionId)
    ∨ ∃ reservation ∈ s.reservations, reservation.token.executionId = executionId

end Supervisor

/-! ### Runs -/

/-- What can happen.  `finish` is the end of a task that ran, `abandon` the end of one that was
cancelled before its first step. -/
inductive Act
  | quiesce
  | reserve (context : Context) (token : String)
  | releaseReserved (token : OwnershipToken)
  | startReserved (token : OwnershipToken) (context : Context) (task : ℕ)
  | finish (executionId : String)
  | abandon (executionId : String)
  | cancelExecution (executionId : String) (cascade : Bool) (current : Option ℕ)
  | cancelTask (taskId : String) (current : Option ℕ)
  | shutdown (current : Option ℕ)
  | sweep
  deriving DecidableEq, Repr

/-- One step; a call that raises is no step. -/
def step (s : Supervisor) : Act → Option Supervisor
  | .quiesce => some { s with closing := true }
  | .reserve context token => (s.reserve context token).toOption
  | .releaseReserved token => some (s.releaseReserved token)
  | .startReserved token context task => (s.startReserved token context task).toOption
  | .finish executionId => do
    let handle ← s.handles.find? executionId
    guard (handle.done = false)
    pure (s.forgetHandle executionId handle.task)
  | .abandon executionId => do
    let handle ← s.handles.find? executionId
    guard (handle.done = false)
    pure { s with handles := s.handles.put { handle with done := true } }
  | .cancelExecution executionId cascade current =>
    some (s.cancelExecution executionId cascade current).2
  | .cancelTask taskId current => (s.cancelTask taskId current).toOption.map Prod.snd
  | .shutdown current => some (s.shutdown current).2
  | .sweep => do
    guard (s.closing = true)
    pure s.sweep

/-- The contexts of the run agree with a spawn tree, which gives every execution its parent. -/
def Follows (up : String → Option String) (_ : Supervisor) : Act → Prop
  | .reserve context _ | .startReserved _ context _ =>
    context.parentExecutionId = up context.executionId
  | _ => True

instance (up : String → Option String) (s : Supervisor) (act : Act) :
    Decidable (Follows up s act) := by
  cases act <;> unfold Follows <;> infer_instance

/-- The supervisor runs, on executions of the spawn tree. -/
abbrev Reaches (up : String → Option String) (acts : List Act) (s : Supervisor) : Prop :=
  Run (TakesWhen (Follows up) step) {} acts s

/-- The execution is the other one or descends from it. -/
def Descends (up : String → Option String) (x n : String) : Prop :=
  Relation.ReflTransGen (fun c p => up c = some p) x n

/-- The execution descends from the other one through executions that the supervisor still knows. -/
def LinkedTo (up : String → Option String) (s : Supervisor) (x n : String) : Prop :=
  Relation.ReflTransGen (fun c p => up c = some p ∧ s.Knows c) x n

end AssistantRuntime.Supervision

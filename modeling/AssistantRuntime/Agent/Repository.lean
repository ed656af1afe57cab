/-
**The repository of the agent tables.**

Every statement a unit of work issues on the agent tables: lookups, inserts and compare-and-set
updates.  An update names the columns it sets by a *patch*; the columns it does not name keep their
value, and the identifying columns are in no patch at all.

Of the constraints of the database the model keeps the primary keys, the unique columns of the
admissions and of the resume claims, and the check constraints of `agent_task_budgets`, which are
what stands between a raw column update and a budget that `TaskBudget` refuses.
-/

import AssistantRuntime.Agent.Schema
import AssistantRuntime.Relational.Statement
import AssistantRuntime.UserBudget.Repository
import Mathlib.Data.List.Sort

namespace AssistantRuntime.Agent

open Relational Uow

variable {D : Digests}

/-- `TaskBudgetConflictError`. -/
def conflict (message : String) : Failure := .taskBudget .conflict message

/-- `TaskBudgetRequiredError`. -/
def required (message : String) : Failure := .taskBudget .required message

/-- `TaskBudgetExceededError`. -/
def exceeded (message : String) : Failure := .taskBudget .exceeded message

/-- `TaskBudgetClosedError`. -/
def budgetClosed (message : String) : Failure := .taskBudget .closed message

/-! ### Budget records -/

/-- The positivity constraints of `TaskBudgetLimits`. -/
def BudgetLimits.Positive (l : BudgetLimits) : Prop :=
  0 < l.maxTotalExecutions ∧ 0 < l.maxActiveExecutions ∧ 0 < l.maxActiveBranches ∧
    0 < l.maxParallelAgents ∧ 0 < l.maxTotalToolCalls ∧ 0 < l.maxTotalInferenceCalls ∧
    0 < l.maxDelegationDepth ∧ (l.maxTotalTokens.all fun t => 0 < t) = true ∧
    (l.maxTotalCostUsd.all fun c => 0 < c) = true
  deriving Decidable

/-- `TaskBudgetLimits`: limits that its validator accepts. -/
structure TaskBudgetLimits extends BudgetLimits where
  positive : toBudgetLimits.Positive

/-- `TaskBudgetPolicy`: a policy that its validator accepts. -/
structure TaskBudgetPolicy extends BudgetPolicy where
  version_length : 1 ≤ version.length ∧ version.length ≤ 64

namespace BudgetRow

def CountersNonneg (b : BudgetRow) : Prop :=
  0 ≤ b.usedExecutions ∧ 0 ≤ b.activeExecutions ∧ 0 ≤ b.activeBranches ∧
    0 ≤ b.activeParallelAgents ∧ 0 ≤ b.usedToolCalls ∧ 0 ≤ b.usedInferenceCalls ∧
    0 ≤ b.usedTokens ∧ 0 ≤ b.usedCostUsd
  deriving Decidable

def WithinLimits (b : BudgetRow) : Prop :=
  b.activeExecutions ≤ b.usedExecutions ∧ b.usedExecutions ≤ b.limits.maxTotalExecutions ∧
    b.activeExecutions ≤ b.limits.maxActiveExecutions ∧
    b.activeParallelAgents ≤ b.activeExecutions ∧
    b.activeParallelAgents ≤ b.limits.maxParallelAgents ∧
    b.activeBranches ≤ b.limits.maxActiveBranches ∧
    b.usedToolCalls ≤ b.limits.maxTotalToolCalls ∧
    b.usedInferenceCalls ≤ b.limits.maxTotalInferenceCalls
  deriving Decidable

def ClosedAtFits (b : BudgetRow) : Prop := b.state = .open ↔ b.closedAt = none
  deriving Decidable

-- the comparison of code points evaluates whatever order of characters is in scope
instance (s : String) : Decidable (IsHexDigest s) :=
  decidable_of_iff (s.length = 64 ∧
      s.toList.all (fun c => c.isDigit || 'a'.toNat ≤ c.toNat && c.toNat ≤ 'f'.toNat) = true) (by
    have hle : ∀ c d : Char, c ≤ d ↔ c.toNat ≤ d.toNat := fun _ _ => Iff.rfl
    simp [IsHexDigest, List.all_eq_true, hle])

/-- The fields `TaskBudget` takes from its policy. -/
def PolicyFits (b : BudgetRow) : Prop :=
  (1 ≤ b.policyVersion.length ∧ b.policyVersion.length ≤ 64) ∧ IsHexDigest b.policyFingerprint
  deriving Decidable

/-- The check constraints of `agent_task_budgets`. -/
def Checks (b : BudgetRow) : Prop :=
  (0 < b.incarnationGeneration ∧ b.incarnationGeneration < UserBudget.userBudgetInt64Max) ∧
    b.limits.Positive ∧ b.CountersNonneg ∧ b.WithinLimits ∧ b.ClosedAtFits
  deriving Decidable

/-- What `TaskBudget` validates: its field constraints and `_validate_budget_invariants`. -/
def Valid (b : BudgetRow) : Prop :=
  b.limits.Positive ∧ b.CountersNonneg ∧ b.WithinLimits ∧ b.ClosedAtFits ∧ b.PolicyFits
  deriving Decidable

theorem Checks.valid {b : BudgetRow} (h : b.Checks) (hp : b.PolicyFits) : b.Valid :=
  ⟨h.2.1, h.2.2.1, h.2.2.2.1, h.2.2.2.2, hp⟩

end BudgetRow

/-- `TaskBudget`: a record that passed its validator. -/
structure TaskBudget extends BudgetRow where
  valid : toBudgetRow.Valid

/-- `_budget_from_record`; a record that fails validation raises. -/
def budgetFromRecord (record : BudgetRow) : Option TaskBudget :=
  if h : record.Valid then some ⟨record, h⟩ else none

variable {record : BudgetRow}

theorem budgetFromRecord_eq_some {budget : TaskBudget} :
    budgetFromRecord record = some budget ↔ record = budget.toBudgetRow := by
  unfold budgetFromRecord
  split
  · next h =>
      constructor
      · intro he
        rw [← Option.some.inj he]
      · rintro rfl
        rfl
  · next h =>
      constructor
      · intro he
        cases he
      · rintro rfl
        exact absurd budget.valid h

/-! ### Lookups -/

section Lookups

variable (db : Db D)

/-- `get_task`, and what `lock_task_gc_serialization_fence` returns. -/
def getTask (taskId : String) : Option TaskRow := db.tasks.find? taskId

def getTaskBudget (taskId : String) : Option BudgetRow := db.budgets.find? taskId

def getExecution (executionId : String) : Option ExecutionRow := db.executions.find? executionId

def getTaskBranch (branchId : String) : Option BranchRow := db.branches.find? branchId

def getResumeClaim (claimId : String) : Option (ClaimRow D.Plan) := db.claims.find? claimId

def getTaskBranchContext (branchId : String) : Option BranchContextRow :=
  db.branchContexts.find? branchId

def getExecutionCheckpoint (checkpointId : String) : Option CheckpointRow :=
  db.checkpoints.find? checkpointId

def getTaskForkAdmission (taskId forkRequestId : String) : Option (ForkAdmissionRow D.Plan) :=
  db.forkAdmissions.find? (taskId, forkRequestId)

def getTaskRetryAdmission (taskId retryRequestId : String) : Option (RetryAdmissionRow D.Plan) :=
  db.retryAdmissions.find? (taskId, retryRequestId)

def getTaskAggregateAdmission (taskId aggregateRequestId : String) :
    Option (AggregateAdmissionRow D.Plan) :=
  db.aggregateAdmissions.find? (taskId, aggregateRequestId)

def listTaskBranches (taskId : String) : List BranchRow :=
  db.branches.rows.filter (·.taskId = taskId)

def hasExecutionForTask (taskId : String) : Bool :=
  db.executions.rows.any (·.taskId = some taskId)

def listTaskForkAdmissions (taskId : String) : List (ForkAdmissionRow D.Plan) :=
  db.forkAdmissions.rows.filter (·.taskId = taskId)

def listTaskRetryAdmissions (taskId : String) : List (RetryAdmissionRow D.Plan) :=
  db.retryAdmissions.rows.filter (·.taskId = taskId)

def listTaskAggregateAdmissions (taskId : String) : List (AggregateAdmissionRow D.Plan) :=
  db.aggregateAdmissions.rows.filter (·.taskId = taskId)

def getTaskForkAdmissionByExecution (executionId : String) : Option (ForkAdmissionRow D.Plan) :=
  db.forkAdmissions.rows.find? (·.executionId = executionId)

def getTaskRetryAdmissionByExecution (executionId : String) : Option (RetryAdmissionRow D.Plan) :=
  db.retryAdmissions.rows.find? (·.executionId = executionId)

def getTaskAggregateAdmissionByExecution (executionId : String) :
    Option (AggregateAdmissionRow D.Plan) :=
  db.aggregateAdmissions.rows.find? (·.executionId = executionId)

/-- `get_task_budget_reservation`; without a generation any incarnation matches. -/
def getTaskBudgetReservation (taskId : String) (kind : ReservationKind) (reservationKey : String)
    (expectedIncarnationGeneration : Option ℤ) : Option (ReservationRow D.Receipt) :=
  (db.reservations.find? (taskId, kind, reservationKey)).filter fun r =>
    expectedIncarnationGeneration.all (r.taskBudgetIncarnationGeneration = ·)

def getResumeClaimByRequestId (resumeRequestId : String) : Option (ClaimRow D.Plan) :=
  db.claims.rows.find? (·.resumeRequestId = resumeRequestId)

/-- Whether an execution exists and belongs to the task, as a join on `agent_executions` asks. -/
def isExecutionOfTask (taskId executionId : String) : Bool :=
  (getExecution db executionId).any (·.taskId = some taskId)

def listCreatedResumeClaimsForTask (taskId : String) : List (ClaimRow D.Plan) :=
  db.claims.rows.filter fun c => c.state = .created ∧ isExecutionOfTask db taskId c.executionId

def listCheckpointPendingInvocations (checkpointId : String) : List PendingInvocationRow :=
  (db.pendingInvocations.rows.filter (·.checkpointId = checkpointId)).insertionSort
    (·.ordinal ≤ ·.ordinal)

end Lookups

/-! ### Patches

A patch has a field for each column that some update sets; `none` leaves the column alone. -/

structure TaskPatch where
  status : Option TaskStatus := none
  waitReasons : Option (List String) := none
  output : Option (Option Json) := none
  error : Option (Option String) := none

def TaskPatch.apply (p : TaskPatch) (expectedRevision : ℕ) (r : TaskRow) : TaskRow :=
  { r with
    revision := expectedRevision + 1
    status := p.status.getD r.status
    waitReasons := p.waitReasons.getD r.waitReasons
    output := p.output.getD r.output
    error := p.error.getD r.error }

structure BudgetPatch where
  state : Option BudgetState := none
  usedExecutions : Option ℤ := none
  activeExecutions : Option ℤ := none
  activeBranches : Option ℤ := none
  activeParallelAgents : Option ℤ := none
  usedToolCalls : Option ℤ := none
  usedInferenceCalls : Option ℤ := none
  usedTokens : Option ℤ := none
  usedCostUsd : Option ℤ := none
  closedAt : Option (Option ℤ) := none

def BudgetPatch.apply (p : BudgetPatch) (expectedRevision : ℕ) (r : BudgetRow) : BudgetRow :=
  { r with
    revision := expectedRevision + 1
    state := p.state.getD r.state
    usedExecutions := p.usedExecutions.getD r.usedExecutions
    activeExecutions := p.activeExecutions.getD r.activeExecutions
    activeBranches := p.activeBranches.getD r.activeBranches
    activeParallelAgents := p.activeParallelAgents.getD r.activeParallelAgents
    usedToolCalls := p.usedToolCalls.getD r.usedToolCalls
    usedInferenceCalls := p.usedInferenceCalls.getD r.usedInferenceCalls
    usedTokens := p.usedTokens.getD r.usedTokens
    usedCostUsd := p.usedCostUsd.getD r.usedCostUsd
    closedAt := p.closedAt.getD r.closedAt }

/-- `_TASK_BRANCH_MUTABLE_FIELDS`. -/
structure BranchPatch where
  currentExecutionId : Option (Option String) := none
  resolutionState : Option ResolutionState := none

def BranchPatch.apply (p : BranchPatch) (expectedRevision : ℕ) (r : BranchRow) : BranchRow :=
  { r with
    revision := expectedRevision + 1
    currentExecutionId := p.currentExecutionId.getD r.currentExecutionId
    resolutionState := p.resolutionState.getD r.resolutionState }

structure ExecutionPatch where
  state : Option ExecutionState := none
  waitReason : Option (Option String) := none
  ownerInstanceId : Option (Option String) := none
  leaseExpiresAt : Option (Option ℤ) := none
  leaseGeneration : Option ℕ := none
  currentCheckpointId : Option (Option String) := none
  boundClientId : Option (Option String) := none
  boundConnectionId : Option (Option String) := none
  remainingActiveBudgetSeconds : Option (Option ℚ) := none
  waitExpiresAt : Option (Option ℤ) := none
  result : Option (Option JsonObject) := none
  contextState : Option (Option Json) := none
  transcript : Option (Option (List Json)) := none
  error : Option (Option String) := none
  startedAt : Option (Option ℤ) := none
  completedAt : Option (Option ℤ) := none

/-- The row after an update of an execution that moves its revision to `revision`. -/
def ExecutionPatch.apply (p : ExecutionPatch) (revision : ℕ) (r : ExecutionRow) : ExecutionRow :=
  { r with
    revision := revision
    state := p.state.getD r.state
    waitReason := p.waitReason.getD r.waitReason
    ownerInstanceId := p.ownerInstanceId.getD r.ownerInstanceId
    leaseExpiresAt := p.leaseExpiresAt.getD r.leaseExpiresAt
    leaseGeneration := p.leaseGeneration.getD r.leaseGeneration
    currentCheckpointId := p.currentCheckpointId.getD r.currentCheckpointId
    boundClientId := p.boundClientId.getD r.boundClientId
    boundConnectionId := p.boundConnectionId.getD r.boundConnectionId
    remainingActiveBudgetSeconds :=
      p.remainingActiveBudgetSeconds.getD r.remainingActiveBudgetSeconds
    waitExpiresAt := p.waitExpiresAt.getD r.waitExpiresAt
    result := p.result.getD r.result
    contextState := p.contextState.getD r.contextState
    transcript := p.transcript.getD r.transcript
    error := p.error.getD r.error
    startedAt := p.startedAt.getD r.startedAt
    completedAt := p.completedAt.getD r.completedAt }

structure ClaimPatch (π : Type) where
  state : Option ClaimState := none
  userId : Option String := none
  clientId : Option (Option String) := none
  connectionId : Option (Option String) := none
  planFingerprint : Option π := none
  rejectionCode : Option (Option String) := none
  metadata : Option (List (String × Json)) := none
  claimExpiresAt : Option ℤ := none
  consumedAt : Option (Option ℤ) := none
  rejectedAt : Option (Option ℤ) := none
  expiredAt : Option (Option ℤ) := none
  consumedExecutionRevision : Option (Option ℕ) := none

def ClaimPatch.apply {π : Type} (p : ClaimPatch π) (expectedRevision : ℕ) (r : ClaimRow π) :
    ClaimRow π :=
  { r with
    revision := expectedRevision + 1
    state := p.state.getD r.state
    userId := p.userId.getD r.userId
    clientId := p.clientId.getD r.clientId
    connectionId := p.connectionId.getD r.connectionId
    planFingerprint := p.planFingerprint.getD r.planFingerprint
    rejectionCode := p.rejectionCode.getD r.rejectionCode
    metadata := p.metadata.getD r.metadata
    claimExpiresAt := p.claimExpiresAt.getD r.claimExpiresAt
    consumedAt := p.consumedAt.getD r.consumedAt
    rejectedAt := p.rejectedAt.getD r.rejectedAt
    expiredAt := p.expiredAt.getD r.expiredAt
    consumedExecutionRevision := p.consumedExecutionRevision.getD r.consumedExecutionRevision }

/-! ### JSON columns -/

def jsonSafe (path : String) : Option Json → Tx D (Option Json)
  | none => pure none
  | some v => do
    let w ← expect v.toJsonSafe (.serialization path)
    pure (some w)

@[simp] theorem jsonSafe_bind_ok {α : Type} {path : String} {o : Option Json}
    {g : Option Json → Tx D α} {db : Db D} {x : α × Db D} :
    (jsonSafe path o >>= g) db = .ok x ↔
      (∀ v ∈ o, v.toJsonSafe = some v) ∧ g o db = .ok x := by
  rw [bind_ok]
  cases o with
  | none => simp [jsonSafe]
  | some v =>
    simp only [jsonSafe, steps_ok, pure_mk, Option.mem_some_iff, forall_eq']
    constructor
    · rintro ⟨_, _, ⟨w, hw, rfl, rfl⟩, h⟩
      have hwv := Json.toJsonSafe_eq_some hw
      subst hwv
      exact ⟨hw, h⟩
    · rintro ⟨hv, h⟩
      exact ⟨some v, db, ⟨v, hv, rfl, rfl⟩, h⟩

/-! ### Inserts -/

def saveTask (row : TaskRow) : Tx D Unit :=
  insertRow (·.tasks) (fun t db => { db with tasks := t }) row .integrityError

/-- `save_task_budget`: the repository owns the incarnation, which is unique over all budgets. -/
def saveTaskBudget (row : BudgetRow) : Tx D BudgetRow := do
  let generation ← reads (·.nextGeneration)
  ensure (generation < UserBudget.userBudgetInt64Max)
    (.valueError "TASK_BUDGET_INCARNATION_EXHAUSTED")
  let record := { row with incarnationGeneration := generation }
  ensure record.Checks .integrityError
  ensure (¬ (← reads fun db => db.budgets.rows.any (·.incarnationGeneration = generation)))
    .integrityError
  insertRow (·.budgets) (fun t db => { db with budgets := t }) record .integrityError
  writes fun db => { db with nextGeneration := generation + 1 }
  pure record

/-- `save_task_budget_reservation`: the receipt is bound to the incarnation of the live budget. -/
def saveTaskBudgetReservation (taskId : String) (kind : ReservationKind) (reservationKey : String)
    (payloadFingerprint : D.Receipt) (suppliedGeneration : Option ℤ) : Tx D Unit := do
  let budget ← expect (← reads (getTaskBudget · taskId))
    (.valueError "TaskBudget reservation requires an existing TaskBudget")
  ensure (suppliedGeneration.all (· = budget.incarnationGeneration))
    (.valueError "TaskBudget reservation incarnation does not match source budget")
  insertRow (·.reservations) (fun t db => { db with reservations := t })
    ⟨taskId, kind, reservationKey, budget.incarnationGeneration, payloadFingerprint⟩
    .integrityError

def saveTaskBranch (row : BranchRow) : Tx D Unit :=
  insertRow (·.branches) (fun t db => { db with branches := t }) row .integrityError

def saveTaskBranchContext (row : BranchContextRow) : Tx D Unit :=
  insertRow (·.branchContexts) (fun t db => { db with branchContexts := t }) row .integrityError

def saveExecution (row : ExecutionRow) : Tx D Unit :=
  insertRow (·.executions) (fun t db => { db with executions := t }) row .integrityError

/-- `save_task_fork_admission`; a branch and an execution belong to one fork only. -/
def saveTaskForkAdmission (row : ForkAdmissionRow D.Plan) : Tx D Unit := do
  ensure (¬ (← reads (·.forkAdmissions.rows.any fun a =>
    a.branchId = row.branchId ∨ a.executionId = row.executionId))) .integrityError
  insertRow (·.forkAdmissions) (fun t db => { db with forkAdmissions := t }) row .integrityError

/-- `save_task_retry_admission`; an execution belongs to one retry only. -/
def saveTaskRetryAdmission (row : RetryAdmissionRow D.Plan) : Tx D Unit := do
  ensure (¬ (← reads fun db => db.retryAdmissions.rows.any (·.executionId = row.executionId)))
    .integrityError
  insertRow (·.retryAdmissions) (fun t db => { db with retryAdmissions := t }) row .integrityError

/-- `save_task_aggregate_admission`; an execution belongs to one aggregation only. -/
def saveTaskAggregateAdmission (row : AggregateAdmissionRow D.Plan) : Tx D Unit := do
  ensure (¬ (← reads fun db => db.aggregateAdmissions.rows.any (·.executionId = row.executionId)))
    .integrityError
  insertRow (·.aggregateAdmissions) (fun t db => { db with aggregateAdmissions := t }) row
    .integrityError

def saveExecutionCheckpoint (row : CheckpointRow) : Tx D Unit :=
  insertRow (·.checkpoints) (fun t db => { db with checkpoints := t }) row .integrityError

/-- `save_checkpoint_pending_invocation`; a checkpoint names an invocation and a tool call once. -/
def saveCheckpointPendingInvocation (row : PendingInvocationRow) : Tx D Unit := do
  ensure (¬ (← reads (·.pendingInvocations.rows.any fun r =>
    r.checkpointId = row.checkpointId ∧
      (r.invocationId = row.invocationId ∨ r.toolCallId = row.toolCallId)))) .integrityError
  insertRow (·.pendingInvocations) (fun t db => { db with pendingInvocations := t }) row
    .integrityError

/-- `save_resume_claim`; a request id belongs to one claim only. -/
def saveResumeClaim (row : ClaimRow D.Plan) : Tx D Unit := do
  ensure (¬ (← reads fun db => db.claims.rows.any (·.resumeRequestId = row.resumeRequestId)))
    .integrityError
  insertRow (·.claims) (fun t db => { db with claims := t }) row .integrityError

/-! ### Updates -/

def compareAndSetTask (taskId : String) (expectedRevision : ℕ) (values : TaskPatch) :
    Tx D (Option TaskRow) :=
  compareAndSet (·.tasks) (fun t db => { db with tasks := t }) taskId
    (·.revision = expectedRevision) (values.apply expectedRevision)

/-- `compare_and_set_task_budget`; the updated row has to pass the check constraints. -/
def compareAndSetTaskBudget (taskId : String) (expectedRevision : ℕ) (values : BudgetPatch)
    (expectedIncarnationGeneration : Option ℤ) : Tx D (Option BudgetRow) := do
  let updated ← compareAndSet (·.budgets) (fun t db => { db with budgets := t }) taskId
    (fun r => r.revision = expectedRevision ∧
      expectedIncarnationGeneration.all (r.incarnationGeneration = ·))
    (values.apply expectedRevision)
  ensure (updated.all fun r => r.Checks) .integrityError
  pure updated

def compareAndSetTaskBranch (branchId : String) (expectedRevision : ℕ) (values : BranchPatch) :
    Tx D (Option BranchRow) :=
  compareAndSet (·.branches) (fun t db => { db with branches := t }) branchId
    (·.revision = expectedRevision) (values.apply expectedRevision)

/-- Updates one execution that satisfies `guard` and moves its revision to `revision`. -/
def updateExecution (executionId : String) (guard : ExecutionRow → Prop) [DecidablePred guard]
    (revision : ExecutionRow → ℕ) (values : ExecutionRow → ExecutionPatch) :
    Tx D (Option ExecutionRow) :=
  compareAndSet (·.executions) (fun t db => { db with executions := t }) executionId guard
    fun r => (values r).apply (revision r) r

def compareAndSetExecution (executionId : String) (expectedRevision : ℕ)
    (values : ExecutionPatch) : Tx D (Option ExecutionRow) :=
  updateExecution executionId (·.revision = expectedRevision) (fun _ => expectedRevision + 1)
    fun _ => values

def compareAndSetWaitingExecution (executionId : String) (expectedRevision : ℕ)
    (expectedCheckpointId expectedWaitReason : String) (values : ExecutionPatch) :
    Tx D (Option ExecutionRow) :=
  updateExecution executionId
    (fun e => e.revision = expectedRevision ∧ e.state = .waiting ∧
      e.currentCheckpointId = some expectedCheckpointId ∧ e.waitReason = some expectedWaitReason)
    (fun _ => expectedRevision + 1) fun _ => values

/-- The lease that a takeover observed on a running execution, still in place and expired. -/
def ExecutionRow.HasExpiredLease (e : ExecutionRow) (owner : String) (generation : ℕ)
    (expiresAt takeoverNow : ℤ) : Prop :=
  e.state = .running ∧ e.ownerInstanceId = some owner ∧ e.leaseGeneration = generation ∧
    e.leaseExpiresAt = some expiresAt ∧ expiresAt ≤ takeoverNow
  deriving Decidable

/-- `compare_and_set_recovery_waiting_execution`; the state, the wait reason and the lease columns
are fixed by the statement and not by `values`. -/
def compareAndSetRecoveryWaitingExecution (executionId : String) (expectedRevision : ℕ)
    (owner : String) (generation : ℕ) (expiresAt takeoverNow : ℤ) (values : ExecutionPatch) :
    Tx D (Option ExecutionRow) :=
  updateExecution executionId
    (fun e => e.revision = expectedRevision ∧
      e.HasExpiredLease owner generation expiresAt takeoverNow)
    (fun _ => expectedRevision + 1)
    fun _ =>
      { values with
        state := some .waiting, waitReason := some (some "RECOVERY")
        ownerInstanceId := some none, leaseExpiresAt := some none
        leaseGeneration := some (generation + 1) }

def compareAndSetExpiredExecutionTerminal (executionId : String) (expectedRevision : ℕ)
    (owner : String) (generation : ℕ) (expiresAt takeoverNow : ℤ) (reasonCode : String)
    (terminalContextState : Option Json) : Tx D (Option ExecutionRow) :=
  updateExecution executionId
    (fun e => e.revision = expectedRevision ∧
      e.HasExpiredLease owner generation expiresAt takeoverNow)
    (fun _ => expectedRevision + 1)
    fun _ =>
      { state := some .failed, waitReason := some none, waitExpiresAt := some none
        ownerInstanceId := some none, leaseExpiresAt := some none
        leaseGeneration := some (generation + 1)
        completedAt := some (some takeoverNow)
        error := some (some s!"R12_STALE_RECOVERY_UNRECOVERABLE:{reasonCode}")
        contextState := terminalContextState.map some }

/-- `acquire_execution_lease`: of an unowned running execution only. -/
def acquireExecutionLease (executionId ownerInstanceId : String) (now leaseExpiresAt : ℤ) :
    Tx D (Option ExecutionRow) := do
  ensure (now < leaseExpiresAt) (.valueError "lease_expires_at must be later than now_utc")
  updateExecution executionId
    (fun e => e.state = .running ∧ e.ownerInstanceId = none ∧ e.leaseExpiresAt = none)
    (·.revision)
    fun e =>
      { ownerInstanceId := some (some ownerInstanceId), leaseExpiresAt := some (some leaseExpiresAt)
        leaseGeneration := some (e.leaseGeneration + 1) }

def renewExecutionLease (executionId ownerInstanceId : String) (leaseGeneration : ℕ)
    (now newLeaseExpiresAt : ℤ) : Tx D (Option ExecutionRow) := do
  ensure (now < newLeaseExpiresAt) (.valueError "new_lease_expires_at must be later than now_utc")
  updateExecution executionId
    (fun e => e.state = .running ∧ e.ownerInstanceId = some ownerInstanceId ∧
      e.leaseGeneration = leaseGeneration ∧
      e.leaseExpiresAt.any fun t => now < t ∧ t < newLeaseExpiresAt)
    (·.revision) fun _ => { leaseExpiresAt := some (some newLeaseExpiresAt) }

def releaseExecutionLease (executionId ownerInstanceId : String) (leaseGeneration : ℕ) :
    Tx D (Option ExecutionRow) :=
  updateExecution executionId
    (fun e => e.state = .running ∧ e.ownerInstanceId = some ownerInstanceId ∧
      e.leaseGeneration = leaseGeneration ∧ e.leaseExpiresAt ≠ none)
    (·.revision) fun _ => { ownerInstanceId := some none, leaseExpiresAt := some none }

/-! ### Dormant executions

An admission leaves its execution `RUNNING` at revision one; activation moves it to revision two.
Until then it holds no checkpoint and no connection, and a task may still cancel it. -/

/-- The part of the activation predicates that all admissions share. -/
def ExecutionRow.IsDormant (e : ExecutionRow) (taskId branchId : String) : Prop :=
  e.revision = 1 ∧ e.state = .running ∧ e.currentCheckpointId = none ∧
    e.taskId = some taskId ∧ e.branchId = some branchId ∧
    e.boundClientId = none ∧ e.boundConnectionId = none
  deriving Decidable

/-- The lineage of an execution that a fork or an aggregation admitted. -/
def ExecutionRow.HasBase (e : ExecutionRow) (baseExecutionId baseCheckpointId : Option String) :
    Prop :=
  e.baseExecutionId = baseExecutionId ∧ e.baseCheckpointId = baseCheckpointId ∧
    e.retryOfExecutionId = none
  deriving Decidable

def activationPatch (startedAt : ℤ) : ExecutionPatch :=
  { state := some .running, startedAt := some (some startedAt) }

def preactivationCancelPatch (completedAt : ℤ) (error : String) : ExecutionPatch :=
  { state := some .cancelled, waitReason := some none, waitExpiresAt := some none
    error := some (some error), completedAt := some (some completedAt) }

def compareAndSetForkActivation (executionId taskId branchId baseExecutionId
    baseCheckpointId : String) (startedAt : ℤ) : Tx D (Option ExecutionRow) :=
  updateExecution executionId
    (fun e => e.IsDormant taskId branchId ∧ e.HasBase (some baseExecutionId) (some baseCheckpointId))
    (fun _ => 2) fun _ => activationPatch startedAt

def compareAndSetAggregateActivation (executionId taskId branchId baseExecutionId : String)
    (baseCheckpointId : Option String) (startedAt : ℤ) : Tx D (Option ExecutionRow) :=
  updateExecution executionId
    (fun e => e.IsDormant taskId branchId ∧ e.HasBase (some baseExecutionId) baseCheckpointId)
    (fun _ => 2) fun _ => activationPatch startedAt

def compareAndSetRetryActivation (executionId taskId branchId sourceExecutionId : String)
    (startedAt : ℤ) : Tx D (Option ExecutionRow) :=
  updateExecution executionId
    (fun e => e.IsDormant taskId branchId ∧ e.retryOfExecutionId = some sourceExecutionId)
    (fun _ => 2) fun _ => activationPatch startedAt

def compareAndSetRetryPreactivationCancel (executionId taskId branchId sourceExecutionId : String)
    (completedAt : ℤ) (error : String) : Tx D (Option ExecutionRow) :=
  updateExecution executionId
    (fun e => e.IsDormant taskId branchId ∧ e.retryOfExecutionId = some sourceExecutionId)
    (fun _ => 2) fun _ => preactivationCancelPatch completedAt error

def compareAndSetForkPreactivationCancel (executionId taskId branchId baseExecutionId
    baseCheckpointId : String) (completedAt : ℤ) (error : String) : Tx D (Option ExecutionRow) :=
  updateExecution executionId
    (fun e => e.IsDormant taskId branchId ∧ e.HasBase (some baseExecutionId) (some baseCheckpointId))
    (fun _ => 2) fun _ => preactivationCancelPatch completedAt error

def compareAndSetResumeClaim (claimId : String) (expectedRevision : ℕ) (expectedState : ClaimState)
    (values : ClaimPatch D.Plan) : Tx D (Option (ClaimRow D.Plan)) :=
  compareAndSet (·.claims) (fun t db => { db with claims := t }) claimId
    (fun c => c.revision = expectedRevision ∧ c.state = expectedState)
    (values.apply expectedRevision)

/-! ### Task activity -/

/-- The current executions of the open branches of a task, as the joins of
`compare_and_set_task_activity` list them. -/
def openHeads (db : Db D) (taskId : String) : List ExecutionRow :=
  (listTaskBranches db taskId).filterMap fun b =>
    if b.resolutionState = .open then b.currentExecutionId.bind (getExecution db) else none

/-- The heads that keep their task running. -/
def ExecutionState.isActiveHead (s : ExecutionState) : Bool := s = .created ∨ s = .running

/-- The heads that let their task wait. -/
def ExecutionState.isWaitingHead (s : ExecutionState) : Bool :=
  s = .waiting ∨ s = .waitingForConnection

/-- The wait reason of a head; the legacy state has one of its own. -/
def ExecutionRow.normalizedWaitReason (e : ExecutionRow) : Option String :=
  match e.waitReason.filter (· ≠ "") with
  | some reason => some reason
  | none => if e.state = .waitingForConnection then some "CONNECTION" else none

def waitingReasons (heads : List ExecutionRow) : List String :=
  (heads.filter (·.state.isWaitingHead)).filterMap (·.normalizedWaitReason)

def sortedStrings (l : List String) : List String := l.insertionSort (· ≤ ·)

/-- The live predicate of `compare_and_set_task_activity`. -/
def ActivityHolds (heads : List ExecutionRow) (target : TaskStatus) (waitReasons : List String) :
    Prop :=
  if target = .running then heads.any (·.state.isActiveHead) = true
  else heads.any (·.state.isActiveHead) = false ∧ heads.any (·.state.isWaitingHead) = true ∧
    (∀ r ∈ waitingReasons heads, r ∈ waitReasons) ∧ ∀ r ∈ waitReasons, r ∈ waitingReasons heads
  deriving Decidable

def compareAndSetTaskActivity (taskId : String) (expectedRevision : ℕ) (target : TaskStatus)
    (waitReasons : List String) : Tx D (Option TaskRow) := do
  ensure (target = .running ∨ target = .waiting)
    (.valueError "Task activity target must be RUNNING or WAITING.")
  ensure (target = .waiting → waitReasons ≠ [])
    (.valueError "WAITING Task activity requires at least one wait reason.")
  let heads ← reads (openHeads · taskId)
  compareAndSet (·.tasks) (fun t db => { db with tasks := t }) taskId
    (fun t => t.revision = expectedRevision ∧ ActivityHolds heads target waitReasons)
    (TaskPatch.apply { status := some target, waitReasons := some waitReasons } expectedRevision)

/-- A unit of work of the user-budget services, inside a unit of work on the agent tables. -/
def onUserBudgets {α : Type} (x : UserBudget.Tx α) : Tx D α :=
  within (·.userBudgets) (fun u db => { db with userBudgets := u }) .userBudget x

/-! ### What a statement did

The forms in which the proofs about units of work read a statement followed by the rest of the
body. -/

section Inversion

variable {α : Type} {db : Db D} {x : α × Db D} {e : Failure} {taskId : String} {revision : ℕ}

theorem compareAndSetTask_bind_ok {p : TaskPatch} {g : TaskRow → Tx D α} :
    (orAbort (compareAndSetTask taskId revision p) e >>= g) db = .ok x ↔
      ∃ t, getTask db taskId = some t ∧ t.revision = revision ∧
        g (p.apply revision t) { db with tasks := db.tasks.put (p.apply revision t) } = .ok x :=
  orAbort_compareAndSet_bind_ok

theorem compareAndSetTaskBranch_bind_ok {branchId : String} {p : BranchPatch}
    {g : BranchRow → Tx D α} :
    (orAbort (compareAndSetTaskBranch branchId revision p) e >>= g) db = .ok x ↔
      ∃ b, getTaskBranch db branchId = some b ∧ b.revision = revision ∧
        g (p.apply revision b) { db with branches := db.branches.put (p.apply revision b) }
          = .ok x :=
  orAbort_compareAndSet_bind_ok

variable {p : ClaimPatch D.Plan} {state : ClaimState} {claimId : String}

theorem compareAndSetResumeClaim_bind_ok {g : ClaimRow D.Plan → Tx D α} :
    (orAbort (compareAndSetResumeClaim claimId revision state p) e >>= g) db = .ok x ↔
      ∃ c, getResumeClaim db claimId = some c ∧ (c.revision = revision ∧ c.state = state) ∧
        g (p.apply revision c) { db with claims := db.claims.put (p.apply revision c) } = .ok x :=
  orAbort_compareAndSet_bind_ok

variable {db' : Db D}

theorem compareAndSetResumeClaim_ok {o : Option (ClaimRow D.Plan)}
    (h : compareAndSetResumeClaim claimId revision state p db = .ok (o, db')) :
    (∃ c, getResumeClaim db claimId = some c ∧ (c.revision = revision ∧ c.state = state) ∧
      o = some (p.apply revision c) ∧
      db' = { db with claims := db.claims.put (p.apply revision c) }) ∨ (o = none ∧ db' = db) := by
  rcases compareAndSet_ok.1 h with h | ⟨-, h⟩
  · exact .inl h
  · exact .inr h

variable {executionId : String} {guard : ExecutionRow → Prop} {p : ExecutionRow → ExecutionPatch}

theorem updateExecution_bind_ok [DecidablePred guard] {revision : ExecutionRow → ℕ}
    {g : ExecutionRow → Tx D α} :
    (orAbort (updateExecution executionId guard revision p) e >>= g) db = .ok x ↔
      ∃ r, getExecution db executionId = some r ∧ guard r ∧
        g ((p r).apply (revision r) r)
          { db with executions := db.executions.put ((p r).apply (revision r) r) } = .ok x :=
  orAbort_compareAndSet_bind_ok

theorem updateExecution_some [DecidablePred guard] {revision : ExecutionRow → ℕ}
    {e' : ExecutionRow} :
    updateExecution executionId guard revision p db = .ok (some e', db') ↔
      ∃ r, getExecution db executionId = some r ∧ guard r ∧ e' = (p r).apply (revision r) r ∧
        db' = { db with executions := db.executions.put ((p r).apply (revision r) r) } :=
  compareAndSet_some

variable {generation : Option ℤ} {p : BudgetPatch}

/-- A successful update of a budget passed its fence and the check constraints. -/
theorem compareAndSetTaskBudget_some {b' : BudgetRow} :
    compareAndSetTaskBudget taskId revision p generation db = .ok (some b', db') ↔
      ∃ b, getTaskBudget db taskId = some b ∧
        (b.revision = revision ∧ generation.all (b.incarnationGeneration = ·)) ∧
        (p.apply revision b).Checks ∧ b' = p.apply revision b ∧
        db' = { db with budgets := db.budgets.put (p.apply revision b) } := by
  unfold compareAndSetTaskBudget
  rw [bind_ok]
  constructor
  · rintro ⟨o, db1, hset, h⟩
    simp only [steps_ok, pure_mk] at h
    obtain ⟨hchecks, ho, rfl⟩ := h
    subst ho
    obtain ⟨b, hb, hp, rfl, rfl⟩ := compareAndSet_some.1 hset
    exact ⟨b, hb, hp, by simpa using hchecks, rfl, rfl⟩
  · rintro ⟨b, hb, hp, hchecks, rfl, rfl⟩
    refine ⟨some (p.apply revision b), _, compareAndSet_some.2 ⟨b, hb, hp, rfl, rfl⟩, ?_⟩
    rw [ensure_bind_ok, pure_ok]
    exact ⟨by simpa using hchecks, rfl⟩

theorem compareAndSetTaskBudget_bind_ok {g : BudgetRow → Tx D α} :
    (orAbort (compareAndSetTaskBudget taskId revision p generation) e >>= g) db = .ok x ↔
      ∃ b, getTaskBudget db taskId = some b ∧
        (b.revision = revision ∧ generation.all (b.incarnationGeneration = ·)) ∧
        (p.apply revision b).Checks ∧
        g (p.apply revision b) { db with budgets := db.budgets.put (p.apply revision b) }
          = .ok x := by
  rw [orAbort_bind_ok]
  constructor
  · rintro ⟨b', db1, hset, h⟩
    obtain ⟨b, hb, hp, hchecks, rfl, rfl⟩ := compareAndSetTaskBudget_some.1 hset
    exact ⟨b, hb, hp, hchecks, h⟩
  · rintro ⟨b, hb, hp, hchecks, h⟩
    exact ⟨_, _, compareAndSetTaskBudget_some.2 ⟨b, hb, hp, hchecks, rfl, rfl⟩, h⟩

theorem saveTaskBudgetReservation_bind_ok {key : String} {kind : ReservationKind}
    {fingerprint : D.Receipt} {g : Unit → Tx D α} :
    (saveTaskBudgetReservation taskId kind key fingerprint generation >>= g) db = .ok x ↔
      ∃ b, getTaskBudget db taskId = some b ∧
        (generation.all (· = b.incarnationGeneration)) = true ∧
        ∃ t, db.reservations.insert? ⟨taskId, kind, key, b.incarnationGeneration, fingerprint⟩ =
          some t ∧ g () { db with reservations := t } = .ok x := by
  simp only [saveTaskBudgetReservation, bind_assoc, steps_ok, insertRow_bind_ok]

theorem saveTaskBudget_ok {row b : BudgetRow} (h : saveTaskBudget row db = .ok (b, db')) :
    b = { row with incarnationGeneration := db.nextGeneration } ∧ b.Checks ∧
      ∃ t, db.budgets.insert? b = some t ∧
        db' = { db with budgets := t, nextGeneration := db.nextGeneration + 1 } := by
  simp only [saveTaskBudget, steps_ok, insertRow_bind_ok, writes_bind_ok, pure_mk] at h
  obtain ⟨-, hchecks, -, t, ht, rfl, rfl⟩ := h
  exact ⟨rfl, hchecks, t, ht, rfl⟩

theorem compareAndSetTaskActivity_some {target : TaskStatus}
    {waitReasons : List String} {t' : TaskRow}
    (h : compareAndSetTaskActivity taskId revision target waitReasons db = .ok (some t', db')) :
    (target = .running ∨ target = .waiting) ∧
      ∃ t, getTask db taskId = some t ∧ t.revision = revision ∧
        t' = TaskPatch.apply { status := some target, waitReasons := some waitReasons } revision t ∧
        db' = { db with tasks := db.tasks.put t' } := by
  simp only [compareAndSetTaskActivity, steps_ok] at h
  obtain ⟨htarget, -, hset⟩ := h
  obtain ⟨t, ht, hp, rfl, rfl⟩ := compareAndSet_some.1 hset
  exact ⟨htarget, t, ht, hp.1, rfl, rfl⟩

end Inversion

end AssistantRuntime.Agent

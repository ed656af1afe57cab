/-
**The stored state of agent tasks.**

An agent task is carried out by executions.  Executions live on branches of the task, hand over at
checkpoints, are admitted by forks, retries and aggregations, and are woken up by resume claims; a
task budget counts what the task has used and what is active.  The rows below carry the columns of
the tables `agent_tasks`, `agent_task_budgets`, `agent_task_budget_reservations`,
`agent_task_branches`, `agent_task_branch_contexts`, `agent_executions`,
`agent_execution_checkpoints`, `agent_checkpoint_pending_invocations`, `agent_resume_claims` and of
the three admission tables that the services read or write.

Counters are integers, as the columns are: that they are never negative is a constraint of the
table and not of their type.  Instants are integers, costs are counted in quanta of `10⁻⁸` dollars.

Fingerprints are SHA-256 digests of canonical JSON documents.  Everything that follows is
parametric in the digest functions, which `Digests` collects.
-/

import AssistantRuntime.Json
import AssistantRuntime.UserBudget.Schema

namespace AssistantRuntime.Agent

open Relational

/-! ### States -/

/-- `AgentTaskStatus`. -/
inductive TaskStatus
  | created
  | assigned
  | running
  | waiting
  | completed
  | failed
  | cancelled
  deriving DecidableEq

def TaskStatus.isTerminal : TaskStatus → Bool
  | .completed => true
  | .failed => true
  | .cancelled => true
  | _ => false

def TaskStatus.value : TaskStatus → String
  | .created => "CREATED"
  | .assigned => "ASSIGNED"
  | .running => "RUNNING"
  | .waiting => "WAITING"
  | .completed => "COMPLETED"
  | .failed => "FAILED"
  | .cancelled => "CANCELLED"

/-- `AgentExecutionState`, with the legacy waiting state that stored rows may still have. -/
inductive ExecutionState
  | created
  | running
  | waiting
  | waitingForConnection
  | completed
  | failed
  | cancelled
  | timeout
  deriving DecidableEq

def ExecutionState.isTerminal : ExecutionState → Bool
  | .completed => true
  | .failed => true
  | .cancelled => true
  | .timeout => true
  | _ => false

def ExecutionState.value : ExecutionState → String
  | .created => "CREATED"
  | .running => "RUNNING"
  | .waiting => "WAITING"
  | .waitingForConnection => "WAITING_FOR_CONNECTION"
  | .completed => "COMPLETED"
  | .failed => "FAILED"
  | .cancelled => "CANCELLED"
  | .timeout => "TIMEOUT"

/-- `TaskBudgetState`. -/
inductive BudgetState
  | open
  | closed
  deriving DecidableEq

/-- `BranchResolutionState`. -/
inductive ResolutionState
  | open
  | adopted
  | superseded
  | discarded
  | cancelled
  deriving DecidableEq

def ResolutionState.value : ResolutionState → String
  | .open => "OPEN"
  | .adopted => "ADOPTED"
  | .superseded => "SUPERSEDED"
  | .discarded => "DISCARDED"
  | .cancelled => "CANCELLED"

/-- `ResumeClaimState`. -/
inductive ClaimState
  | created
  | consumed
  | rejected
  | expired
  deriving DecidableEq

inductive ResumeTriggerType
  | clientReconnect
  | serverRecovery
  | manual
  | dependencyReady
  | resourceReady
  deriving DecidableEq

/-- `TaskBudgetReservationKind`. -/
inductive ReservationKind
  | newExecution
  | resumeExecution
  | releaseExecution
  | toolCall
  | inference
  | usage
  | branch
  | releaseBranch
  deriving DecidableEq

def ReservationKind.value : ReservationKind → String
  | .newExecution => "NEW_EXECUTION"
  | .resumeExecution => "RESUME_EXECUTION"
  | .releaseExecution => "RELEASE_EXECUTION"
  | .toolCall => "TOOL_CALL"
  | .inference => "INFERENCE"
  | .usage => "USAGE"
  | .branch => "BRANCH"
  | .releaseBranch => "RELEASE_BRANCH"

/-! ### Tasks and budgets -/

structure TaskRow where
  id : String
  sessionId : String
  createdBy : String
  assignedAgentId : String
  revision : ℕ
  parentTaskId : Option String := none
  taskHorizonAt : Option ℤ := none
  reviewHorizonAt : Option ℤ := none
  status : TaskStatus
  waitReasons : List String := []
  input : Json
  output : Option Json := none
  error : Option String := none

/-- The limit columns of a budget, in the order of `TaskBudgetLimits`. -/
structure BudgetLimits where
  maxTotalExecutions : ℤ
  maxActiveExecutions : ℤ
  maxActiveBranches : ℤ
  maxParallelAgents : ℤ
  maxTotalToolCalls : ℤ
  maxTotalInferenceCalls : ℤ
  maxDelegationDepth : ℤ
  maxTotalTokens : Option ℤ := none
  maxTotalCostUsd : Option ℤ := none
  deriving DecidableEq

structure BudgetRow where
  taskId : String
  incarnationGeneration : ℤ
  revision : ℕ
  state : BudgetState
  limits : BudgetLimits
  policyVersion : String
  policyFingerprint : String
  denyRecursiveAgentCycle : Bool
  usedExecutions : ℤ
  activeExecutions : ℤ
  activeBranches : ℤ
  activeParallelAgents : ℤ
  usedToolCalls : ℤ
  usedInferenceCalls : ℤ
  usedTokens : ℤ
  usedCostUsd : ℤ
  closedAt : Option ℤ := none
  deriving DecidableEq

/-- A row of `agent_task_budget_reservations`. -/
structure ReservationRow (ρ : Type) where
  taskId : String
  kind : ReservationKind
  reservationKey : String
  taskBudgetIncarnationGeneration : ℤ
  payloadFingerprint : ρ

/-! ### Branches -/

structure BranchRow where
  branchId : String
  taskId : String
  parentBranchId : Option String
  baseExecutionId : Option String
  baseCheckpointId : Option String
  currentExecutionId : Option String
  resolutionState : ResolutionState
  revision : ℕ
  createdBy : String
  reason : Option String
  deriving DecidableEq

structure BranchContextRow where
  branchId : String
  revision : ℕ
  overlayMessages : List Json

/-! ### Executions and checkpoints -/

structure ExecutionRow where
  id : String
  sessionId : String
  agentId : String
  taskId : Option String
  branchId : Option String
  parentExecutionId : Option String
  retryOfExecutionId : Option String := none
  baseExecutionId : Option String := none
  baseCheckpointId : Option String := none
  correlationId : String
  state : ExecutionState
  waitReason : Option String := none
  revision : ℕ
  ownerInstanceId : Option String := none
  leaseExpiresAt : Option ℤ := none
  leaseGeneration : ℕ := 0
  currentCheckpointId : Option String := none
  boundClientId : Option String := none
  boundConnectionId : Option String := none
  remainingActiveBudgetSeconds : Option ℚ := none
  waitExpiresAt : Option ℤ := none
  request : Json
  result : Option JsonObject := none
  contextState : Option Json := none
  transcript : Option (List Json) := none
  error : Option String := none
  startedAt : Option ℤ := none
  completedAt : Option ℤ := none
  deriving DecidableEq

/-- A row of `agent_execution_checkpoints`.  Of the transcript representation it points at, the
model keeps the messages it stands for, in canonical form. -/
structure CheckpointRow where
  checkpointId : String
  executionId : String
  executionRevision : ℕ
  sessionId : String
  taskId : Option String
  branchId : Option String
  parentCheckpointId : Option String
  iteration : ℕ
  waitReason : String
  remainingActiveBudgetSeconds : Option ℚ
  waitExpiresAt : Option ℤ
  originClientId : Option String
  originConnectionId : Option String
  transcript : List Json
  metadata : List (String × Json)

structure PendingInvocationRow where
  checkpointId : String
  ordinal : ℕ
  invocationId : String
  toolCallId : String
  capabilityId : String
  deriving DecidableEq

/-! ### Admissions and claims -/

structure ForkAdmissionRow (π : Type) where
  taskId : String
  forkRequestId : String
  planFingerprint : π
  runtimeSeed : Json
  runtimeSeedFingerprint : String
  sourceBranchId : String
  sourceExecutionId : String
  sourceCheckpointId : String
  branchId : String
  executionId : String
  createdBy : String

structure RetryAdmissionRow (π : Type) where
  taskId : String
  retryRequestId : String
  planFingerprint : π
  branchId : String
  sourceExecutionId : String
  sourceCheckpointId : Option String
  executionId : String
  createdBy : String

structure BranchSnapshot where
  branchId : String
  revision : ℕ
  resolutionState : ResolutionState
  currentExecutionId : Option String
  deriving DecidableEq

structure ExecutionSnapshot where
  executionId : String
  revision : ℕ
  state : ExecutionState
  resultFingerprint : String
  deriving DecidableEq

structure AggregateAdmissionRow (π : Type) where
  taskId : String
  aggregateRequestId : String
  planFingerprint : π
  runtimeSeedFingerprint : String
  targetBranchId : String
  executionId : String
  sourceBranchSnapshots : List BranchSnapshot
  sourceExecutionSnapshots : List ExecutionSnapshot
  resultFingerprints : List String
  createdBy : String

structure ClaimRow (π : Type) where
  claimId : String
  executionId : String
  checkpointId : String
  resumeRequestId : String
  expectedExecutionRevision : ℕ
  userId : String
  clientId : Option String
  connectionId : Option String
  waitReason : String
  triggerType : ResumeTriggerType
  state : ClaimState
  revision : ℕ
  planFingerprint : π
  rejectionCode : Option String := none
  metadata : List (String × Json)
  claimExpiresAt : ℤ
  consumedAt : Option ℤ := none
  rejectedAt : Option ℤ := none
  expiredAt : Option ℤ := none
  consumedExecutionRevision : Option ℕ := none

structure SessionRow where
  id : String
  ownerUserId : String
  deriving DecidableEq

/-! ### Plans

A plan is a proof, taken in one read, of everything a later transaction relies on.  Its fingerprint
binds all of it; the digests of transcripts, side effects and contexts inside a plan are text. -/

structure ForkSideEffectSnapshot where
  invocationId : String
  invocationRevision : ℕ
  capabilityId : String
  capabilityVersion : Option String
  requestFingerprint : Option String
  idempotency : String
  state : String
  remoteOutcomeState : Option String
  toolCallId : String
  committedResultFingerprint : String
  deriving DecidableEq

structure ForkPlanBody where
  taskId : String
  expectedTaskRevision : ℕ
  sessionId : String
  sourceBranchId : String
  expectedBranchRevision : ℕ
  sourceExecutionId : String
  expectedExecutionRevision : ℕ
  sourceAgentId : String
  correlationId : String
  sourceCheckpointId : String
  checkpointIteration : ℕ
  expectedTaskBudgetRevision : ℕ
  expectedTaskBudgetIncarnationGeneration : ℤ
  budgetPolicyFingerprint : String
  baseTranscript : List Json
  baseTranscriptFingerprint : String
  sideEffects : List ForkSideEffectSnapshot
  sideEffectFingerprint : String
  runtimeSeed : Json
  runtimeSeedFingerprint : String
  overlayMessages : List Json
  targetUserId : String
  deriving DecidableEq

structure ForkPlan (π : Type) extends ForkPlanBody where
  forkRequestId : String
  planFingerprint : π

structure RetryPlanBody where
  taskId : String
  expectedTaskRevision : ℕ
  sessionId : String
  branchId : String
  expectedBranchRevision : ℕ
  sourceExecutionId : String
  expectedExecutionRevision : ℕ
  sourceExecutionState : ExecutionState
  sourceAgentId : String
  sourceCheckpointId : Option String := none
  sourceCheckpointTranscriptFingerprint : Option String := none
  expectedTaskBudgetRevision : ℕ
  expectedTaskBudgetIncarnationGeneration : ℤ
  budgetPolicyFingerprint : String
  parentExecutionId : Option String := none
  baseExecutionId : Option String := none
  baseCheckpointId : Option String := none
  correlationId : String
  requestFingerprint : String
  sourceContextFingerprint : String
  freshActiveBudgetSeconds : ℚ
  targetUserId : String
  deriving DecidableEq

structure RetryPlan (π : Type) extends RetryPlanBody where
  retryRequestId : String
  planFingerprint : π

structure AggregatePlanBody where
  taskId : String
  targetBranchId : String
  sourceBranchSnapshots : List BranchSnapshot
  sourceExecutionSnapshots : List ExecutionSnapshot
  resultFingerprints : List String
  runtimeSeedFingerprint : String
  createdBy : String
  deriving DecidableEq

/-- The durable lineage a resume or recovery plan was made for. -/
structure PlannedLineage where
  agentId : String
  sessionId : String
  taskId : Option String
  branchId : Option String
  parentExecutionId : Option String := none
  retryOfExecutionId : Option String := none
  baseExecutionId : Option String := none
  baseCheckpointId : Option String := none
  deriving DecidableEq

/-- `ResumeInvocationAction` and `RecoveryInvocationAction`: what is to become of one invocation. -/
structure InvocationAction where
  invocationId : String
  toolCallId : String
  ordinal : ℕ
  capabilityId : String
  /-- The other fields: what the plan expects of the invocation, and what is done with it. -/
  disposition : Json
  deriving DecidableEq

structure ResumePlanBody where
  executionId : String
  checkpointId : String
  expectedExecutionRevision : ℕ
  lineage : PlannedLineage
  correlationId : String
  traceId : Option String := none
  requestId : Option String := none
  iteration : ℕ
  orderedToolCallIds : List String
  transcriptSnapshot : List Json
  remainingActiveBudgetSeconds : ℚ
  waitExpiresAt : Option ℤ := none
  targetUserId : String
  targetClientId : Option String
  targetConnectionId : Option String
  invocationActions : List InvocationAction
  deriving DecidableEq

structure ResumePlan (π : Type) extends ResumePlanBody where
  planFingerprint : π

structure RecoveryPlanBody where
  executionId : String
  checkpointId : String
  expectedExecutionRevision : ℕ
  recoveryFingerprint : String
  expectedUnownedLeaseGeneration : ℕ
  checkpointOriginClientId : Option String
  checkpointOriginConnectionId : Option String
  lineage : PlannedLineage
  taskRevision : Option ℕ
  branchRevision : Option ℕ
  resolvedRecoveryPrincipal : String
  iteration : ℕ
  recoveryIterationId : Option String
  inferenceRequestId : Option String
  inferenceDisposition : String
  orderedToolCallIds : List String
  transcriptSnapshot : List Json
  remainingActiveBudgetSeconds : ℚ
  waitExpiresAt : Option ℤ
  taskBudgetIncarnationGeneration : Option ℤ
  taskBudgetRevision : Option ℕ
  targetTrigger : ResumeTriggerType
  targetClientId : Option String
  targetConnectionId : Option String
  invocationActions : List InvocationAction
  deriving DecidableEq

structure RecoveryPlan (π : Type) extends RecoveryPlanBody where
  planFingerprint : π

/-- The documents whose digest is a plan fingerprint. -/
inductive PlanDocument
  | fork (body : ForkPlanBody)
  | retry (body : RetryPlanBody)
  | aggregate (body : AggregatePlanBody)
  | resume (body : ResumePlanBody)
  | recovery (body : RecoveryPlanBody)
  deriving DecidableEq

/-! ### Reservation payloads -/

/-- The receipt of a lease takeover, `recovery_receipt_payload`. -/
structure RecoveryReceipt where
  executionId : String
  sourceRevision : ℕ
  targetRevision : ℕ
  checkpointId : String
  observedOwnerInstanceId : String
  observedLeaseGeneration : ℕ
  observedLeaseExpiresAt : ℤ
  takeoverNowUtc : ℤ
  deriving DecidableEq

/-- The identity of a pending invocation as a waiting transition names it. -/
structure PendingReference where
  ordinal : ℕ
  invocationId : String
  toolCallId : String
  capabilityId : String
  deriving DecidableEq

/-- The `payload` argument of `_reservation_fingerprint`, one constructor for each shape. -/
inductive Payload (π : Type)
  | empty
  | newExecution (executionId : String) (values : ExecutionRow) (delegated : Bool)
      (delegationDepth : ℤ)
  | forkBranch (forkRequestId : String) (planFingerprint : π)
      (parentBranchId baseExecutionId baseCheckpointId : String)
  | forkExecution (forkRequestId : String) (planFingerprint : π) (executionId : String)
      (values : ExecutionRow) (delegated : Bool)
  | retryExecution (retryRequestId : String) (planFingerprint : π)
      (sourceExecutionId executionId : String) (values : ExecutionRow) (delegated : Bool)
  | aggregateExecution (aggregateRequestId executionId : String) (planFingerprint : π)
  | resume (executionId : String) (sourceRevision : ℕ) (delegated : Bool)
  /-- `reserve_resume_slot` and `release_active_execution`. -/
  | slot (executionId : String) (delegated : Bool)
  | release (executionId : String) (targetRevision : ℕ) (targetState : ExecutionState)
      (delegated : Bool) (checkpointId : Option String) (pending : List PendingReference)
  | recovery (receipt : RecoveryReceipt) (delegated : Bool)
  | staleFailure (executionId : String) (sourceRevision targetRevision : ℕ) (reasonCode : String)
      (observedOwnerInstanceId : String) (observedLeaseGeneration : ℕ)
      (observedLeaseExpiresAt takeoverNowUtc : ℤ) (delegated : Bool)
  | toolCall (call : Json)
  | toolCount (count : ℤ)
  | usage (tokens costUsd : ℤ)
  deriving DecidableEq

/-- `TaskBudgetPolicy`. -/
structure BudgetPolicy where
  version : String
  denyRecursiveAgentCycle : Bool
  deriving DecidableEq

/-- The pattern `^[0-9a-f]{64}$`. -/
def IsHexDigest (s : String) : Prop :=
  s.length = 64 ∧ ∀ c ∈ s.toList, c.isDigit = true ∨ ('a' ≤ c ∧ c ≤ 'f')

/-- The digest functions, the canonical form of messages that some of them are taken of, and what
Python makes of values and characters.  Plan
fingerprints and reservation fingerprints have types of their own, so that a digest is only ever
compared with one of its kind. -/
structure Digests where
  Plan : Type
  Receipt : Type
  [planDecidableEq : DecidableEq Plan]
  [receiptDecidableEq : DecidableEq Receipt]
  plan : PlanDocument → Plan
  /-- A plan fingerprint as a JSON document holds it. -/
  planText : Plan → String
  /-- `_reservation_fingerprint`. -/
  reservation : ReservationKind → String → Payload Plan → Receipt
  /-- A reservation fingerprint as the columns of other tables hold it. -/
  receiptText : Receipt → String
  value : Json → String
  /-- `fork_side_effect_fingerprint`. -/
  sideEffects : List ForkSideEffectSnapshot → String
  /-- `recovery_safe_point_fingerprint`. -/
  safePoint : JsonObject → String
  /-- `task_budget_policy_fingerprint`. -/
  policy : BudgetLimits → BudgetPolicy → String
  policy_isHexDigest : ∀ limits policy', IsHexDigest (policy limits policy')
  /-- The hexadecimal digest of a task id, as `_root_branch_id` takes it. -/
  taskId : String → String
  /-- The digests of the user-budget services. -/
  userBudget : UserBudget.Document → String
  /-- `canonical_transcript_messages`: the canonical form of a list of messages, if it has one. -/
  canonicalTranscript : List Json → Option (List Json)
  /-- `str` of a value that is not a text. -/
  str : Json → String
  /-- `str.isalnum` of one character. -/
  isAlnum : Char → Bool

attribute [instance] Digests.planDecidableEq Digests.receiptDecidableEq

/-- `str(v)`. -/
def Digests.strOf (D : Digests) : Json → String
  | .str s => s
  | v => D.str v

/-- `str(v or "")`, of a member that may be missing. -/
def Digests.strOrEmpty (D : Digests) (v : Option Json) : String :=
  ((v.filter Json.truthy).map D.strOf).getD ""

/-! ### The database -/

/-- The primary key of `agent_task_budget_reservations`. -/
def ReservationRow.key {ρ : Type} (r : ReservationRow ρ) : String × ReservationKind × String :=
  (r.taskId, r.kind, r.reservationKey)

def ForkAdmissionRow.key {π : Type} (r : ForkAdmissionRow π) : String × String :=
  (r.taskId, r.forkRequestId)

def RetryAdmissionRow.key {π : Type} (r : RetryAdmissionRow π) : String × String :=
  (r.taskId, r.retryRequestId)

def AggregateAdmissionRow.key {π : Type} (r : AggregateAdmissionRow π) : String × String :=
  (r.taskId, r.aggregateRequestId)

def PendingInvocationRow.key (r : PendingInvocationRow) : String × ℕ := (r.checkpointId, r.ordinal)

/-- The tables of the agent runtime, next to those of the user budgets. -/
structure Db (D : Digests) where
  tasks : Table TaskRow.id := ∅
  budgets : Table BudgetRow.taskId := ∅
  /-- `next_generation` of the incarnation allocator. -/
  nextGeneration : ℤ := 1
  reservations : Table (ReservationRow.key (ρ := D.Receipt)) := ∅
  branches : Table BranchRow.branchId := ∅
  branchContexts : Table BranchContextRow.branchId := ∅
  executions : Table ExecutionRow.id := ∅
  checkpoints : Table CheckpointRow.checkpointId := ∅
  pendingInvocations : Table PendingInvocationRow.key := ∅
  claims : Table (ClaimRow.claimId (π := D.Plan)) := ∅
  forkAdmissions : Table (ForkAdmissionRow.key (π := D.Plan)) := ∅
  retryAdmissions : Table (RetryAdmissionRow.key (π := D.Plan)) := ∅
  aggregateAdmissions : Table (AggregateAdmissionRow.key (π := D.Plan)) := ∅
  sessions : Table SessionRow.id := ∅
  userBudgets : UserBudget.Db := {}

/-! ### Exceptions -/

inductive TaskBudgetErrorClass
  | required
  | legacyUninitialized
  | closed
  | exceeded
  | conflict
  | incarnationChanged
  | legacyBecameEnrolled
  | unsupportedLegacyMirror
  | delegationDepthExceeded
  | delegationCycle
  deriving DecidableEq

/-- The subclasses of `ForkConsumeError` and of `RetryConsumeError`. -/
inductive ConsumeErrorClass
  | conflict
  | deferred
  | rejected
  deriving DecidableEq

/-- An exception that ends an attempt and rolls its unit of work back. -/
inductive Failure
  | valueError (message : String)
  /-- A subclass of `TaskBudgetError`. -/
  | taskBudget (cls : TaskBudgetErrorClass) (message : String)
  /-- `_TaskActivationEligibilityError`. -/
  | activationEligibility (code taskId : String)
  /-- `ForkPlanRejected` and `RetryPlanRejected`. -/
  | planRejected (code message : String)
  /-- `ForkPlanDeferred` and `RetryPlanDeferred`. -/
  | planDeferred (code message : String)
  | forkConsume (cls : ConsumeErrorClass) (code message : String)
  | retryConsume (cls : ConsumeErrorClass) (code message : String)
  | branchResolution (code message : String)
  | aggregateAdmission (code message : String)
  | resumeClaimRejected (code message : String)
  /-- `ForkControlError`, `RetryControlError` and `AggregateControlError`. -/
  | control (code message : String)
  | leaseAuthorityConflict (code message : String)
  | waitingCheckpointConflict (message : String)
  | taskConflict (message : String)
  | lookupError (message : String)
  | safePointReconstruction (message : String)
  /-- `AgentPersistenceSerializationError`. -/
  | serialization (path : String)
  /-- A stored record that its schema class refuses. -/
  | validation
  /-- An attribute of a record that is not there. -/
  | attributeError
  /-- A violated constraint of the database. -/
  | integrityError
  /-- A lost compare-and-set: the unit of work is rolled back and the attempt made again. -/
  | lostRace
  | userBudget (failure : UserBudget.Failure)

abbrev Tx (D : Digests) := Uow (Db D) Failure

end AssistantRuntime.Agent

/-
**Consuming resume and recovery claims.**

Consuming a claim wakes a waiting execution up: in one unit of work the plan is compared with what
is stored, capacity is taken from the budget of the task, the execution moves from `WAITING` to
`RUNNING` and the claim to `CONSUMED`.  A claim that can no longer be consumed is rejected in that
same unit of work, under a code that names the first check it failed; a wait that has expired ends
the execution.  A recovery claim also leases the execution, and leaves the lease on the claim as the
proof that a repeated activation asks for.

The checks only read.  They are units of work whose error is the code of the rejection, and
`refusing` turns them into values.  Tool results and capability invocations are kept elsewhere; what
is read of them is an argument, `ActivationEvidence`.
-/

import AssistantRuntime.Persistence.Claims
import AssistantRuntime.Agent.Planning

namespace AssistantRuntime.Persistence

open Relational Uow Table Agent TaskBudget

variable {D : Digests}

/-! ### Checks that reject a claim -/

/-- A check on the stored rows; its error is the code under which a claim is rejected. -/
abbrev Check (D : Digests) := Uow (Db D) String

/-- Runs a check and keeps its refusal as a value. -/
def refusing {α : Type} (check : Check D α) : Tx D (Except String α) := fun db =>
  match check db with
  | .ok (a, _) => .ok (.ok a, db)
  | .error code => .ok (.error code, db)

/-- What other stores answer about the invocations of a plan. -/
structure ActivationEvidence where
  /-- The tool call has a committed result of its own invocation. -/
  resultCommitted : String → Bool
  /-- The stored snapshot of the invocation agrees with the action in the columns that are not
  modelled. -/
  snapshotFits : InvocationAction → Bool
  /-- The invocation record is as the action expects it, and permits what the action does. -/
  invocationFits : InvocationAction → Bool

def lineageOf (e : ExecutionRow) : PlannedLineage := { e with }

/-- The task, budget and branch of a plan, locked in this order; nothing for a plan without a
task. -/
def claimAuthority (lineage : PlannedLineage) (executionId principal budgetCode : String)
    (budgetFits : BudgetRow → Bool) : Check D (Option TaskRow) :=
  match lineage.taskId with
  | none => pure none
  | some taskId => do
    let task ← expect ((← reads (getTask · taskId)).filter fun t =>
      t.sessionId = lineage.sessionId ∧ t.createdBy = principal ∧ t.status.isTerminal = false)
      "TASK_TERMINAL"
    let _ ← expect ((← reads (getTaskBudget · taskId)).filter fun b =>
      b.state = .open ∧ budgetFits b) budgetCode
    let branches ← reads fun db branchId => (getTaskBranch db branchId).any fun b =>
      b.taskId = taskId ∧ b.resolutionState = .open ∧ b.currentExecutionId = some executionId
    ensure (lineage.branchId.all branches) "BRANCH_NOT_OPEN"
    pure (some task)

/-- The tool calls that no action is about have a committed result. -/
def requireToolResults (orderedToolCallIds : List String) (actions : List InvocationAction)
    (evidence : ActivationEvidence) : Check D Unit :=
  ensure (∀ id ∈ orderedToolCallIds, id ∉ actions.map (·.toolCallId) →
    evidence.resultCommitted id) "STALE_RECONCILIATION_SNAPSHOT"

/-- Why one action cannot be taken: its snapshot, or its invocation, is not as planned. -/
def actionRefusal (evidence : ActivationEvidence) (snapshot : Option PendingInvocationRow)
    (action : InvocationAction) : Option String :=
  if snapshot.any (fun s => s.ordinal = action.ordinal ∧ s.toolCallId = action.toolCallId ∧
      s.capabilityId = action.capabilityId) ∧ evidence.snapshotFits action then
    if evidence.invocationFits action then none else some "STALE_RECONCILIATION_SNAPSHOT"
  else some "STALE_CHECKPOINT"

/-- Refuses with the code of the first action that cannot be taken. -/
def requireActions (refusal : Option String) : Check D Unit :=
  match refusal with
  | none => pure ()
  | some code => abort code

/-! ### The target of a resume -/

structure ResumeClaimConsumeSpec (π : Type) where
  plan : ResumePlan π
  claimId : String
  resumeRequestId : String
  expectedClaimRevision : ℕ
  now : ℤ

def ClaimMatchesPlan (c : ClaimRow D.Plan) (spec : ResumeClaimConsumeSpec D.Plan) : Prop :=
  c.resumeRequestId = spec.resumeRequestId ∧ c.executionId = spec.plan.executionId ∧
    c.checkpointId = spec.plan.checkpointId ∧
    c.expectedExecutionRevision = spec.plan.expectedExecutionRevision ∧
    c.planFingerprint = spec.plan.planFingerprint ∧ c.userId = spec.plan.targetUserId ∧
    c.clientId = spec.plan.targetClientId ∧ c.connectionId = spec.plan.targetConnectionId ∧
    c.waitReason = "CONNECTION" ∧ c.triggerType = .clientReconnect
  deriving Decidable

/-- What the checks of a claim found. -/
structure ClaimTarget where
  execution : ExecutionRow
  checkpoint : CheckpointRow
  remaining : ℚ
  task : Option TaskRow

/-- The checks on the execution, its checkpoint and its task. -/
def resumeTarget (plan : ResumePlan D.Plan) : Check D ClaimTarget := do
  let execution ← expect (← reads (getExecution · plan.executionId)) "RESUME_CONFLICT"
  ensure (execution.state = .waiting ∧ execution.revision = plan.expectedExecutionRevision)
    "RESUME_CONFLICT"
  ensure (lineageOf execution = plan.lineage ∧ execution.correlationId = plan.correlationId)
    "RESUME_CONFLICT"
  ensure (execution.currentCheckpointId = some plan.checkpointId ∧
    execution.waitReason = some "CONNECTION") "STALE_CHECKPOINT"
  let checkpoint ← expect ((← reads (getExecutionCheckpoint · plan.checkpointId)).filter fun c =>
    c.executionId = plan.executionId ∧ c.executionRevision = execution.revision ∧
      c.sessionId = plan.lineage.sessionId ∧ c.taskId = plan.lineage.taskId ∧
      c.branchId = plan.lineage.branchId ∧ c.iteration = plan.iteration ∧
      some c.waitReason = execution.waitReason) "STALE_CHECKPOINT"
  let remaining ← expect (checkpoint.remainingActiveBudgetSeconds.filter fun r =>
    0 < r ∧ r = plan.remainingActiveBudgetSeconds) "RESUME_CONFLICT"
  ensure (execution.waitExpiresAt = checkpoint.waitExpiresAt ∧
    checkpoint.waitExpiresAt = plan.waitExpiresAt) "STALE_CHECKPOINT"
  let task ← claimAuthority plan.lineage plan.executionId plan.targetUserId "TASK_TERMINAL"
    fun _ => true
  pure ⟨execution, checkpoint, remaining, task⟩

def SameElements (l l' : List String) : Prop := (∀ x ∈ l, x ∈ l') ∧ ∀ x ∈ l', x ∈ l
  deriving Decidable

/-- The checks on the connection and on every pending invocation. -/
def resumeInvocations (plan : ResumePlan D.Plan) (checkpoint : CheckpointRow)
    (evidence : ActivationEvidence) : Check D Unit := do
  ensure (checkpoint.originClientId = plan.targetClientId) "FOREIGN_CLIENT"
  ensure (¬ (IsSet checkpoint.originConnectionId ∧
    checkpoint.originConnectionId = plan.targetConnectionId)) "CONNECTION_NOT_READY"
  let pending ← reads (listCheckpointPendingInvocations · plan.checkpointId)
  let actions := plan.invocationActions
  ensure (pending.length = actions.length ∧
    SameElements (pending.map (·.invocationId)) (actions.map (·.invocationId)) ∧
    SameElements (pending.map (·.toolCallId)) (actions.map (·.toolCallId)) ∧
    (actions.map (·.invocationId)).Nodup ∧ (actions.map (·.toolCallId)).Nodup) "STALE_CHECKPOINT"
  requireToolResults plan.orderedToolCallIds actions evidence
  requireActions (actions.findSome? fun a =>
    actionRefusal evidence (pending.find? (·.invocationId = a.invocationId)) a)

/-! ### Steps that both kinds of claims share -/

def refuseClaim {α : Type} (claim : ClaimRow D.Plan) (code : String) (now : ℤ) :
    Tx D (Except ClaimRejection α) := do
  let rejection ← rejectCreatedClaim claim code now
  pure (.error rejection)

/-- A claim whose time is over; `lost` is what a concurrent change of the claim raises. -/
def expireClaim {α : Type} (claim : ClaimRow D.Plan) (now : ℤ) (lost : Failure) :
    Tx D (Except ClaimRejection α) := do
  let _ ← orAbort (compareAndSetResumeClaim claim.claimId claim.revision .created
    { state := some .expired, expiredAt := some (some now) }) lost
  pure (.error ⟨"CLAIM_EXPIRED", "ResumeClaim expired."⟩)

/-- The activity epoch of the task moves before its budget does. -/
def advanceActivityEpoch (task : TaskRow) : Tx D TaskRow :=
  orAbort (compareAndSetTask task.id task.revision
    { status := some task.status, waitReasons := some task.waitReasons }) .lostRace

/-- The task and the budget of an execution that wakes up. -/
def occupyClaimTask (executionId : String) (sourceRevision : ℕ) (delegated : Bool) :
    Option TaskRow → Tx D (Option TaskRow)
  | none => pure none
  | some task => do
    let epoch ← advanceActivityEpoch task
    let _ ← prepareResumeCapacity task.id executionId sourceRevision delegated
    pure (some epoch)

/-- The activity of the task, derived again. -/
def reconcileClaimTask : Option TaskRow → Tx D Unit
  | none => pure ()
  | some task => do
    let _ ← orAbort (reconcileMultibranchTaskActivity task.id task) .lostRace
    pure ()

def wakePatch (clientId connectionId : Option String) (now : ℤ) : ExecutionPatch :=
  { state := some .running, waitReason := some none, waitExpiresAt := some none
    boundClientId := some clientId, boundConnectionId := some connectionId
    startedAt := some (some now) }

/-! ### Resume claims -/

structure ResumeClaimConsumeResult where
  claimId : String
  resumeRequestId : String
  executionId : String
  checkpointId : String
  sourceExecutionRevision : ℕ
  consumedExecutionRevision : ℕ
  remainingActiveBudgetSeconds : ℚ
  boundClientId : Option String
  boundConnectionId : Option String
  alreadyConsumed : Bool

/-- The wait of the execution has expired: the execution times out and the claim is rejected. -/
def expireWait (spec : ResumeClaimConsumeSpec D.Plan) (claim : ClaimRow D.Plan)
    (target : ClaimTarget) : Tx D (Except ClaimRejection ResumeClaimConsumeResult) := do
  let plan := spec.plan
  let _ ← orAbort
    (compareAndSetWaitingExecution plan.executionId plan.expectedExecutionRevision
      plan.checkpointId "CONNECTION"
      { state := some .timeout, waitReason := some none, waitExpiresAt := some none
        remainingActiveBudgetSeconds := some (some target.remaining)
        error := some (some "WAIT_TTL_EXPIRED"), completedAt := some (some spec.now) })
    (rejected "RESUME_CONFLICT" "Execution changed while applying WAIT expiry.")
  let _ ← orAbort (compareAndSetResumeClaim claim.claimId claim.revision .created
      (rejectionPatch "WAIT_EXPIRED" spec.now))
    (rejected "STALE_RESUME_CLAIM" "ResumeClaim changed during WAIT expiry.")
  reconcileClaimTask target.task
  pure (.error ⟨"WAIT_EXPIRED", "WAITING execution TTL expired."⟩)

/-- The claim is consumed: capacity, execution, activity and claim move together. -/
def activateResume (spec : ResumeClaimConsumeSpec D.Plan) (claim : ClaimRow D.Plan)
    (target : ClaimTarget) : Tx D (Except ClaimRejection ResumeClaimConsumeResult) := do
  let plan := spec.plan
  let task ← occupyClaimTask plan.executionId plan.expectedExecutionRevision
    plan.lineage.parentExecutionId.isSome target.task
  let _ ← orAbort
    (compareAndSetWaitingExecution plan.executionId plan.expectedExecutionRevision
      plan.checkpointId "CONNECTION"
      (wakePatch plan.targetClientId plan.targetConnectionId spec.now))
    (rejected "RESUME_CONFLICT" "AgentExecution claim CAS lost.")
  reconcileClaimTask task
  let consumedRevision := plan.expectedExecutionRevision + 1
  let _ ← orAbort (compareAndSetResumeClaim claim.claimId claim.revision .created
      { state := some .consumed, consumedAt := some (some spec.now)
        consumedExecutionRevision := some (some consumedRevision) })
    (rejected "STALE_RESUME_CLAIM" "ResumeClaim consumption CAS lost.")
  pure (.ok ⟨claim.claimId, claim.resumeRequestId, plan.executionId, plan.checkpointId,
    plan.expectedExecutionRevision, consumedRevision, target.remaining, plan.targetClientId,
    plan.targetConnectionId, false⟩)

/-- A claim in state `CREATED` whose time is not over. -/
def consumeCreatedResumeClaim (spec : ResumeClaimConsumeSpec D.Plan) (claim : ClaimRow D.Plan)
    (evidence : ActivationEvidence) : Tx D (Except ClaimRejection ResumeClaimConsumeResult) := do
  match ← refusing (resumeTarget spec.plan) with
  | .error code => refuseClaim claim code spec.now
  | .ok target =>
    if target.execution.waitExpiresAt.any (· ≤ spec.now) then expireWait spec claim target
    else do
      match ← refusing (resumeInvocations spec.plan target.checkpoint evidence) with
      | .error code => refuseClaim claim code spec.now
      | .ok _ => activateResume spec claim target

/-- What a claim that was consumed already answers. -/
def replayConsumedResume (spec : ResumeClaimConsumeSpec D.Plan) (claim : ClaimRow D.Plan) :
    Tx D (Except ClaimRejection ResumeClaimConsumeResult) := do
  let revision ← expect claim.consumedExecutionRevision
    (rejected "STALE_RESUME_CLAIM" "CONSUMED ResumeClaim has no consumed execution revision.")
  pure (.ok ⟨claim.claimId, claim.resumeRequestId, claim.executionId, claim.checkpointId,
    claim.expectedExecutionRevision, revision, spec.plan.remainingActiveBudgetSeconds,
    claim.clientId, claim.connectionId, true⟩)

/-- The code that a rejected claim keeps. -/
def keptRejection (claim : ClaimRow D.Plan) : Failure :=
  let code := (claim.rejectionCode.filter (· ≠ "")).getD "STALE_RESUME_CLAIM"
  rejected code code

/-- What is done about a claim in each of its states, at the time `now`. -/
def consumeClaim {α : Type} (claim : ClaimRow D.Plan) (expectedRevision : ℕ) (now : ℤ)
    (lost : Failure) (replay consume : Tx D (Except ClaimRejection α)) :
    Tx D (Except ClaimRejection α) :=
  if claim.state = .consumed then replay
  else if claim.state = .expired then abort (rejected "CLAIM_EXPIRED" "ResumeClaim expired.")
  else if claim.state = .rejected then abort (keptRejection claim)
  else if claim.revision ≠ expectedRevision then
    abort (rejected "STALE_RESUME_CLAIM" "ResumeClaim state/revision is stale.")
  else if claim.claimExpiresAt ≤ now then expireClaim claim now lost
  else consume

def consumeResumeClaimOnce (spec : ResumeClaimConsumeSpec D.Plan) (evidence : ActivationEvidence) :
    Tx D (Except ClaimRejection ResumeClaimConsumeResult) := do
  requireReconnectPlan spec.plan
  let claim ← expect (← reads (getResumeClaim · spec.claimId))
    (rejected "STALE_RESUME_CLAIM" "ResumeClaim does not exist.")
  ensure (ClaimMatchesPlan claim spec)
    (rejected "RESUME_REQUEST_CONFLICT"
      "ResumeClaim semantics do not match the frozen ResumePlan.")
  if D.plan (.resume spec.plan.toResumePlanBody) ≠ spec.plan.planFingerprint then
    if claim.state = .created then refuseClaim claim "STALE_RESUME_CLAIM" spec.now
    else abort (rejected "STALE_RESUME_CLAIM"
      "ResumePlan fingerprint does not match its semantics.")
  else
    consumeClaim claim spec.expectedClaimRevision spec.now
      (rejected "STALE_RESUME_CLAIM" "ResumeClaim changed while expiring.")
      (replayConsumedResume spec claim) (consumeCreatedResumeClaim spec claim evidence)

/-! ### Recovery claims -/

structure RecoveryActivationSpec (π : Type) where
  plan : RecoveryPlan π
  claimId : String
  resumeRequestId : String
  expectedClaimRevision : ℕ
  activationOwnerInstanceId : String
  activationNow : ℤ
  activationLeaseExpiresAt : ℤ

namespace RecoveryActivationSpec

variable {π : Type} (spec : RecoveryActivationSpec π)

/-- The owner, without surrounding white space. -/
def owner : String := .ofList (PyStr.strip spec.activationOwnerInstanceId.toList)

def consumedRevision : ℕ := spec.plan.expectedExecutionRevision + 1

def leaseGeneration : ℕ := spec.plan.expectedUnownedLeaseGeneration + 1

end RecoveryActivationSpec

structure RecoveryActivationResult where
  claimId : String
  resumeRequestId : String
  executionId : String
  checkpointId : String
  sourceExecutionRevision : ℕ
  consumedExecutionRevision : ℕ
  activationOwnerInstanceId : String
  leaseGeneration : ℕ
  leaseExpiresAt : ℤ
  alreadyConsumed : Bool

def RecoveryActivationSpec.result (spec : RecoveryActivationSpec D.Plan) (claim : ClaimRow D.Plan)
    (alreadyConsumed : Bool) : RecoveryActivationResult where
  claimId := claim.claimId
  resumeRequestId := claim.resumeRequestId
  executionId := spec.plan.executionId
  checkpointId := spec.plan.checkpointId
  sourceExecutionRevision := spec.plan.expectedExecutionRevision
  consumedExecutionRevision := spec.consumedRevision
  activationOwnerInstanceId := spec.owner
  leaseGeneration := spec.leaseGeneration
  leaseExpiresAt := spec.activationLeaseExpiresAt
  alreadyConsumed := alreadyConsumed

def RecoveryClaimMatchesPlan (c : ClaimRow D.Plan) (spec : RecoveryActivationSpec D.Plan) : Prop :=
  c.resumeRequestId = spec.resumeRequestId ∧ c.executionId = spec.plan.executionId ∧
    c.checkpointId = spec.plan.checkpointId ∧
    c.expectedExecutionRevision = spec.plan.expectedExecutionRevision ∧
    c.planFingerprint = spec.plan.planFingerprint ∧
    c.userId = spec.plan.resolvedRecoveryPrincipal ∧ c.clientId = spec.plan.targetClientId ∧
    c.connectionId = spec.plan.targetConnectionId ∧ c.waitReason = "RECOVERY" ∧
    c.triggerType = .serverRecovery
  deriving Decidable

/-- The metadata of a checkpoint prove the recovery that the plan is for. -/
def provesRecovery (D : Digests) (metadata : JsonObject) (fingerprint : String) : Bool :=
  D.strOrEmpty (Json.member? "r12_recovery_fingerprint" metadata) = fingerprint &&
    match Json.member? "r12_recovery_receipt" metadata with
    | some (.obj receipt) => D.safePoint receipt = fingerprint
    | _ => false

def budgetFitsPlan (plan : RecoveryPlan D.Plan) (b : BudgetRow) : Bool :=
  plan.taskBudgetIncarnationGeneration.any (b.incarnationGeneration = ·)

/-- The checks on the execution, its checkpoint, its session and its task. -/
def recoveryTarget (plan : RecoveryPlan D.Plan) : Check D ClaimTarget := do
  let execution ← expect ((← reads (getExecution · plan.executionId)).filter fun e =>
    e.state = .waiting ∧ e.waitReason = some "RECOVERY" ∧
      e.revision = plan.expectedExecutionRevision ∧
      e.currentCheckpointId.getD "" = plan.checkpointId ∧ e.ownerInstanceId = none ∧
      e.leaseExpiresAt = none ∧ e.leaseGeneration = plan.expectedUnownedLeaseGeneration)
    "RECOVERY_ACTIVATION_CONFLICT"
  ensure (lineageOf execution = plan.lineage) "RECOVERY_LINEAGE_CONFLICT"
  let checkpoint ← expect ((← reads (getExecutionCheckpoint · plan.checkpointId)).filter fun c =>
    c.executionId = plan.executionId ∧ c.executionRevision = plan.expectedExecutionRevision ∧
      c.sessionId = plan.lineage.sessionId ∧ c.taskId = plan.lineage.taskId ∧
      c.branchId = plan.lineage.branchId ∧ c.iteration = plan.iteration ∧
      c.waitReason = "RECOVERY") "STALE_CHECKPOINT"
  ensure (execution.waitExpiresAt = checkpoint.waitExpiresAt ∧
    checkpoint.waitExpiresAt = plan.waitExpiresAt) "STALE_CHECKPOINT"
  ensure (plan.waitExpiresAt = none) "RECOVERY_WAIT_TTL_UNRELEASED"
  let remaining ← expect (checkpoint.remainingActiveBudgetSeconds.filter fun r =>
    0 < r ∧ r = plan.remainingActiveBudgetSeconds) "RECOVERY_ACTIVE_BUDGET_CONFLICT"
  ensure (provesRecovery D checkpoint.metadata plan.recoveryFingerprint)
    "RECOVERY_FINGERPRINT_CONFLICT"
  let principal ← reads fun db => (db.sessions.find? plan.lineage.sessionId).map (·.ownerUserId)
  ensure (principal.getD "" = plan.resolvedRecoveryPrincipal) "FOREIGN_PRINCIPAL"
  let task ← claimAuthority plan.lineage plan.executionId plan.resolvedRecoveryPrincipal
    "TASK_BUDGET_CONFLICT" (budgetFitsPlan plan)
  ensure (task = none → plan.taskRevision = none ∧ plan.taskBudgetIncarnationGeneration = none ∧
    plan.taskBudgetRevision = none ∧ plan.lineage.branchId = none ∧ plan.branchRevision = none)
    "RECOVERY_LINEAGE_CONFLICT"
  pure ⟨execution, checkpoint, remaining, task⟩

def recoveryInvocations (plan : RecoveryPlan D.Plan) (evidence : ActivationEvidence) :
    Check D Unit := do
  let pending ← reads (listCheckpointPendingInvocations · plan.checkpointId)
  let actions := plan.invocationActions
  ensure (pending.map (·.invocationId) = actions.map (·.invocationId))
    "STALE_RECONCILIATION_SNAPSHOT"
  requireToolResults plan.orderedToolCallIds actions evidence
  requireActions ((pending.zip actions).findSome? fun p => actionRefusal evidence (some p.1) p.2)

/-- The versioned proof of an activation that its claim keeps. -/
structure ActivationHandoff where
  version : ℤ
  kind : String
  executionId : String
  checkpointId : String
  recoveryFingerprint : String
  recoveryPlanFingerprint : String
  activationOwnerInstanceId : String
  activationNow : ℤ
  leaseGeneration : ℤ
  leaseExpiresAt : ℤ
  consumedExecutionRevision : ℤ
  deriving DecidableEq

/-- The proof as a member of the metadata. -/
def ActivationHandoff.toJson (h : ActivationHandoff) : Json :=
  .obj [("version", .int h.version), ("kind", .str h.kind), ("execution_id", .str h.executionId),
    ("checkpoint_id", .str h.checkpointId), ("recovery_fingerprint", .str h.recoveryFingerprint),
    ("recovery_plan_fingerprint", .str h.recoveryPlanFingerprint),
    ("activation_owner_instance_id", .str h.activationOwnerInstanceId),
    ("activation_now_utc", .int h.activationNow), ("lease_generation", .int h.leaseGeneration),
    ("lease_expires_at", .int h.leaseExpiresAt),
    ("consumed_execution_revision", .int h.consumedExecutionRevision)]

def intOf : Option Json → Option ℤ
  | some (.int n) => some n
  | _ => none

/-- The proof, read back; nothing when a member that has to be there is missing. -/
def ActivationHandoff.ofJson? (D : Digests) (v : Json) : Option ActivationHandoff := do
  let version ← intOf (v.get? "version")
  let kind ← (v.get? "kind").map D.strOf
  let owner ← (v.get? "activation_owner_instance_id").map D.strOf
  let generation ← intOf (v.get? "lease_generation")
  let activationNow ← intOf (v.get? "activation_now_utc")
  let expiry ← intOf (v.get? "lease_expires_at")
  let revision ← intOf (v.get? "consumed_execution_revision")
  pure {
    version := version
    kind := kind
    executionId := D.strOrEmpty (v.get? "execution_id")
    checkpointId := D.strOrEmpty (v.get? "checkpoint_id")
    recoveryFingerprint := D.strOrEmpty (v.get? "recovery_fingerprint")
    recoveryPlanFingerprint := D.strOrEmpty (v.get? "recovery_plan_fingerprint")
    activationOwnerInstanceId := owner
    activationNow := activationNow
    leaseGeneration := generation
    leaseExpiresAt := expiry
    consumedExecutionRevision := revision }

def RecoveryActivationSpec.handoff (spec : RecoveryActivationSpec D.Plan) :
    ActivationHandoff where
  version := 1
  kind := "SERVER_RECOVERY_ACTIVATION"
  executionId := spec.plan.executionId
  checkpointId := spec.plan.checkpointId
  recoveryFingerprint := spec.plan.recoveryFingerprint
  recoveryPlanFingerprint := D.planText spec.plan.planFingerprint
  activationOwnerInstanceId := spec.owner
  activationNow := spec.activationNow
  leaseGeneration := spec.leaseGeneration
  leaseExpiresAt := spec.activationLeaseExpiresAt
  consumedExecutionRevision := spec.consumedRevision

/-- The proof is of this activation, whenever it was made, and its lease still runs. -/
def HandoffHolds (spec : RecoveryActivationSpec D.Plan) (claim : ClaimRow D.Plan)
    (handoff : ActivationHandoff) (e : ExecutionRow) : Prop :=
  handoff = { spec.handoff with activationNow := handoff.activationNow } ∧
    handoff.activationNow < handoff.leaseExpiresAt ∧
    claim.consumedExecutionRevision = some spec.consumedRevision ∧
    e.state = .running ∧ e.revision = spec.consumedRevision ∧
    e.currentCheckpointId.getD "" = spec.plan.checkpointId ∧
    e.ownerInstanceId.getD "" = handoff.activationOwnerInstanceId ∧
    (e.leaseGeneration : ℤ) = handoff.leaseGeneration ∧
    e.leaseExpiresAt = some handoff.leaseExpiresAt ∧ spec.activationNow < handoff.leaseExpiresAt
  deriving Decidable

/-- What a recovery claim that was consumed already answers. -/
def replayConsumedRecovery (spec : RecoveryActivationSpec D.Plan) (claim : ClaimRow D.Plan) :
    Tx D (Except ClaimRejection RecoveryActivationResult) := do
  let stored ← expect ((Json.member? "r12_f2_activation_handoff" claim.metadata).filter fun v =>
      match v with
      | .obj _ => true
      | _ => false)
    (rejected "STALE_RECOVERY_ACTIVATION"
      "CONSUMED recovery claim lacks activation handoff proof.")
  let handoff ← expect (ActivationHandoff.ofJson? D stored)
    (rejected "STALE_RECOVERY_ACTIVATION" "Recovery activation handoff proof is malformed.")
  let _ ← expect ((← reads (getExecution · spec.plan.executionId)).filter fun e =>
      HandoffHolds spec claim handoff e)
    (rejected "STALE_RECOVERY_ACTIVATION"
      "Committed recovery activation no longer owns the exact lease.")
  pure (.ok (spec.result claim true))

/-- The claim is consumed: capacity, execution, lease, claim and activity move together. -/
def activateRecovery (spec : RecoveryActivationSpec D.Plan) (claim : ClaimRow D.Plan)
    (target : ClaimTarget) : Tx D (Except ClaimRejection RecoveryActivationResult) := do
  let plan := spec.plan
  let task ← occupyClaimTask plan.executionId plan.expectedExecutionRevision
    plan.lineage.parentExecutionId.isSome target.task
  let _ ← orAbort
    (compareAndSetWaitingExecution plan.executionId plan.expectedExecutionRevision
      plan.checkpointId "RECOVERY"
      (wakePatch plan.targetClientId plan.targetConnectionId spec.activationNow)) .lostRace
  let leased ← orAbort
    (acquireExecutionLease plan.executionId spec.owner spec.activationNow
      spec.activationLeaseExpiresAt) .lostRace
  ensure (leased.ownerInstanceId.getD "" = spec.owner ∧
    leased.leaseGeneration = spec.leaseGeneration ∧
    leased.leaseExpiresAt = some spec.activationLeaseExpiresAt) .lostRace
  let _ ← orAbort (compareAndSetResumeClaim claim.claimId claim.revision .created
      { state := some .consumed, consumedAt := some (some spec.activationNow)
        consumedExecutionRevision := some (some spec.consumedRevision)
        metadata := some
          (Json.setMember "r12_f2_activation_handoff" spec.handoff.toJson claim.metadata) })
    .lostRace
  reconcileClaimTask task
  pure (.ok (spec.result claim false))

/-- A recovery claim in state `CREATED` whose time is not over. -/
def consumeCreatedRecoveryClaim (spec : RecoveryActivationSpec D.Plan) (claim : ClaimRow D.Plan)
    (evidence : ActivationEvidence) : Tx D (Except ClaimRejection RecoveryActivationResult) := do
  match ← refusing (recoveryTarget spec.plan) with
  | .error code => refuseClaim claim code spec.activationNow
  | .ok target =>
    match ← refusing (recoveryInvocations spec.plan evidence) with
    | .error code => refuseClaim claim code spec.activationNow
    | .ok _ => activateRecovery spec claim target

def consumeRecoveryClaimOnce (spec : RecoveryActivationSpec D.Plan)
    (evidence : ActivationEvidence) : Tx D (Except ClaimRejection RecoveryActivationResult) := do
  ensure (spec.activationNow < spec.activationLeaseExpiresAt)
    (.valueError "activation_lease_expires_at must be later than activation_now_utc")
  ensure (spec.owner ≠ "")
    (.valueError "activation_owner_instance_id must be a non-empty string")
  ensure (spec.plan.targetTrigger = .serverRecovery)
    (rejected "RECOVERY_TRIGGER_CONFLICT" "R12-F2 activation requires SERVER_RECOVERY.")
  ensure (D.plan (.recovery spec.plan.toRecoveryPlanBody) = spec.plan.planFingerprint)
    (rejected "STALE_RECOVERY_PLAN" "RecoveryPlan fingerprint does not match its semantics.")
  let claim ← expect (← reads (getResumeClaim · spec.claimId))
    (rejected "STALE_RESUME_CLAIM" "ResumeClaim does not exist.")
  ensure (RecoveryClaimMatchesPlan claim spec)
    (rejected "RESUME_REQUEST_CONFLICT" "ResumeClaim semantics do not match the RecoveryPlan.")
  consumeClaim claim spec.expectedClaimRevision spec.activationNow .lostRace
    (replayConsumedRecovery spec claim) (consumeCreatedRecoveryClaim spec claim evidence)

/-! ### What the checks establish -/

section Outcomes

variable {db db1 db' : Db D}

theorem refusing_bind_ok {α β : Type} {check : Check D β} {g : Except String β → Tx D α}
    {x : α × Db D} :
    (refusing check >>= g) db = .ok x ↔
      (∃ b db1, check db = .ok (b, db1) ∧ g (.ok b) db = .ok x) ∨
        ∃ code, check db = .error code ∧ g (.error code) db = .ok x := by
  rw [bind_ok]
  unfold refusing
  rcases hc : check db with code | ⟨b, db1⟩
  · simp
  · simp

/-- The target of a claim is stored: a waiting execution, and its live task if it has one. -/
structure ClaimTarget.Fits (target : ClaimTarget) (db : Db D) (executionId : String)
    (revision : ℕ) : Prop where
  execution : getExecution db executionId = some target.execution
  waiting : target.execution.state = .waiting
  revision : target.execution.revision = revision
  task : target.task = target.execution.taskId.bind (getTask db)
  owned : target.task.isSome = target.execution.taskId.isSome
  live : ∀ t ∈ target.task, t.status.isTerminal = false

variable {target : ClaimTarget} {executionId : String} {revision : ℕ}

theorem ClaimTarget.Fits.getTask_eq
    (h : target.Fits db executionId revision) {t : TaskRow} (ht : target.task = some t) :
    getTask db t.id = some t ∧ target.execution.taskId = some t.id := by
  have hsome := h.task
  rw [ht] at hsome
  obtain ⟨τ, hτ, hget⟩ := Option.bind_eq_some_iff.1 hsome.symm
  have hid : t.id = τ := key_of_find? hget
  exact ⟨hid ▸ hget, hid ▸ hτ⟩

variable {task : Option TaskRow}

/-- A waiting execution of the planned lineage fits, with the task that `claimAuthority` found. -/
theorem fits_of_claimAuthority {e : ExecutionRow} {checkpoint : CheckpointRow} {remaining : ℚ}
    {lineage : PlannedLineage} {principal budgetCode : String} {budgetFits : BudgetRow → Bool}
    (he : getExecution db executionId = some e) (hwaiting : e.state = .waiting)
    (hrevision : e.revision = revision) (hlineage : lineageOf e = lineage)
    (h : claimAuthority lineage executionId principal budgetCode budgetFits db =
      .ok (task, db1)) :
    ClaimTarget.Fits ⟨e, checkpoint, remaining, task⟩ db executionId revision := by
  unfold claimAuthority at h
  subst hlineage
  cases hτ : e.taskId with
  | none =>
    rw [show (lineageOf e).taskId = none from hτ] at h
    obtain ⟨rfl, rfl⟩ := pure_mk.1 h
    exact ⟨he, hwaiting, hrevision, by simp [hτ], by simp [hτ], by simp⟩
  | some taskId =>
    rw [show (lineageOf e).taskId = some taskId from hτ] at h
    simp only [steps_ok, pure_ok, Option.filter_eq_some_iff, decide_eq_true_eq, Prod.mk.injEq] at h
    obtain ⟨t, ⟨ht, -, -, hlive⟩, -, -, -, rfl, rfl⟩ := h
    exact ⟨he, hwaiting, hrevision, by simpa [hτ] using ht.symm, by simp [hτ], by simpa using hlive⟩

theorem resumeTarget_ok {plan : ResumePlan D.Plan} (h : resumeTarget plan db = .ok (target, db1)) :
    target.Fits db plan.executionId plan.expectedExecutionRevision ∧
      plan.lineage = lineageOf target.execution := by
  simp only [resumeTarget, steps_ok] at h
  obtain ⟨e, he, ⟨hwaiting, hrevision⟩, ⟨hlineage, -⟩, -, checkpoint, -, remaining, -, -, h⟩ := h
  obtain ⟨task, db2, hauthority, h⟩ := bind_ok.1 h
  obtain ⟨rfl, rfl⟩ := pure_mk.1 h
  exact ⟨fits_of_claimAuthority he hwaiting hrevision hlineage hauthority, hlineage.symm⟩

theorem recoveryTarget_ok {plan : RecoveryPlan D.Plan}
    (h : recoveryTarget plan db = .ok (target, db1)) :
    target.Fits db plan.executionId plan.expectedExecutionRevision ∧
      plan.lineage = lineageOf target.execution := by
  simp only [recoveryTarget, steps_ok, Option.filter_eq_some_iff, decide_eq_true_eq] at h
  obtain ⟨e, ⟨he, hwaiting, -, hrevision, -⟩, hlineage, checkpoint, -, -, -, remaining, -, -, -,
    h⟩ := h
  obtain ⟨task, db2, hauthority, h⟩ := bind_ok.1 h
  rw [ensure_bind_ok] at h
  obtain ⟨rfl, rfl⟩ := pure_mk.1 h.2
  exact ⟨fits_of_claimAuthority he hwaiting hrevision hlineage hauthority, hlineage.symm⟩

/-! ### What the shared steps do -/

variable {α : Type}

/-- A task is told apart from the rest of the database by its revision only. -/
theorem advanceActivityEpoch_bind_ok {task : TaskRow} {g : TaskRow → Tx D α} {x : α × Db D}
    (ht : getTask db task.id = some task) :
    (advanceActivityEpoch task >>= g) db = .ok x ↔
      g { task with revision := task.revision + 1 }
        { db with tasks := db.tasks.put { task with revision := task.revision + 1 } } = .ok x := by
  unfold advanceActivityEpoch
  rw [compareAndSetTask_bind_ok]
  have happly : TaskPatch.apply { status := some task.status, waitReasons := some task.waitReasons }
      task.revision task = { task with revision := task.revision + 1 } := rfl
  constructor
  · rintro ⟨t, ht', -, h⟩
    obtain rfl : t = task := Option.mem_unique ht' ht
    exact happly ▸ h
  · intro h
    exact ⟨task, ht, rfl, happly.symm ▸ h⟩

/-- What taking capacity did: nothing without a task, and one slot of its open budget with one. -/
def Occupies (db : Db D) (delegated : Bool) : Option TaskRow → Db D → Prop
  | none, db₁ => db₁ = db
  | some t, db₁ => ∃ b reservations, getTaskBudget db t.id = some b ∧ b.state = .open ∧
      ((occupySlot b delegated).apply b.revision b).Checks ∧
      db₁ = { db with
        tasks := db.tasks.put { t with revision := t.revision + 1 }
        budgets := db.budgets.put ((occupySlot b delegated).apply b.revision b)
        reservations }

variable {delegated : Bool}

theorem Occupies.frame (h : Occupies db delegated task db1) :
    db1.executions = db.executions ∧ db1.branches = db.branches ∧ db1.claims = db.claims := by
  cases task with
  | none =>
    cases h
    exact ⟨rfl, rfl, rfl⟩
  | some t =>
    obtain ⟨b, reservations, -, -, -, rfl⟩ := h
    exact ⟨rfl, rfl, rfl⟩

theorem occupyClaimTask_ok {task1 : Option TaskRow} (ht : ∀ t ∈ task, getTask db t.id = some t)
    (h : occupyClaimTask executionId revision delegated task db = .ok (task1, db1)) :
    Occupies db delegated task db1 ∧ (∀ t ∈ task1, getTask db1 t.id = some t) ∧
      task1 = task.map fun t => { t with revision := t.revision + 1 } := by
  cases task with
  | none =>
    obtain ⟨rfl, rfl⟩ := pure_mk.1 h
    exact ⟨rfl, by simp, rfl⟩
  | some t =>
    have htask := ht t rfl
    simp only [occupyClaimTask] at h
    rw [advanceActivityEpoch_bind_ok htask, bind_ok] at h
    obtain ⟨budget, db2, hcapacity, h⟩ := h
    obtain ⟨rfl, rfl⟩ := pure_mk.1 h
    obtain ⟨-, b, b', reservations, hb, hopen, rfl, hchecks, rfl⟩ :=
      prepareResumeCapacity_ok hcapacity
    refine ⟨⟨b, reservations, hb, hopen, hchecks, rfl⟩, fun t' ht' => ?_, rfl⟩
    cases Option.mem_some_iff.1 ht'
    exact find?_put_same htask rfl

theorem reconcileClaimTask_ok {u : Unit}
    (h : reconcileClaimTask task db = .ok (u, db')) (ht : ∀ t ∈ task, getTask db t.id = some t) :
    ∃ ts, TableLog db.tasks ts db'.tasks ∧
      (∀ w ∈ ts, LawfulTask w ∧ w.row.status.isTerminal = false) ∧
      db' = { db with tasks := db'.tasks } := by
  cases task with
  | none =>
    obtain ⟨-, rfl⟩ := pure_mk.1 h
    exact ⟨[], .nil _, by simp, rfl⟩
  | some t =>
    simp only [reconcileClaimTask, orAbort_bind_ok, pure_mk] at h
    obtain ⟨t', db2, hactivity, -, rfl⟩ := h
    exact reconcileMultibranchTaskActivity_log hactivity (ht t rfl)

/-- An execution that moves on its own branch: its lineage stays and its revision moves by one. -/
structure StepsTo (e e' : ExecutionRow) : Prop where
  lineage : e.SameLineage e'
  revision : e'.revision = e.revision + 1

theorem StepsTo.of_apply {e : ExecutionRow} (h : e.revision = revision)
    (p : ExecutionPatch) : StepsTo e (p.apply (revision + 1) e) :=
  ⟨⟨rfl, rfl, rfl, rfl⟩, by simp [ExecutionPatch.apply, h]⟩

theorem StepsTo.moves {e e' : ExecutionRow} (h : StepsTo e e') (hwaiting : e.state = .waiting) :
    e.Moves e' :=
  ⟨h.lineage, .inr ⟨by rw [hwaiting]; rfl, h.revision⟩⟩

/-- What consuming a claim leaves behind: the execution it is about runs at the next revision, the
claim is consumed, and the budget of its task, if it has one, gave a slot. -/
structure Wakes (db : Db D) (claimId : String) (target : ClaimTarget) (db' : Db D) : Prop where
  execution : ∃ e', db'.executions = db.executions.put e' ∧ StepsTo target.execution e' ∧
    e'.state = .running
  claim : ∃ c c', db'.claims = db.claims.put c' ∧
    getResumeClaim db claimId = some c ∧ c.state = .created ∧ c'.claimId = c.claimId ∧
    c'.executionId = c.executionId ∧
    c'.expectedExecutionRevision = c.expectedExecutionRevision ∧ c'.state = .consumed
  capacity : ∃ db₁ ts,
    Occupies db target.execution.parentExecutionId.isSome target.task db₁ ∧
    db'.budgets = db₁.budgets ∧ TableLog db₁.tasks ts db'.tasks ∧
    ∀ w ∈ ts, LawfulTask w ∧ w.row.status.isTerminal = false
  branches : db'.branches = db.branches

variable {claimId : String}

variable (h : Wakes db claimId target db')

include h

/-- **Waking an execution up is lawful and balanced**: the budget of its task gives one slot, and a
task that it has none of gives none. -/
theorem Wakes.commit (hfits : target.Fits db executionId revision) : Commit db db' := by
  obtain ⟨e', hexecutions, hsteps, hrunning⟩ := h.execution
  obtain ⟨c, c', hclaims, hc, -, hid, hexecution, -, hconsumed⟩ := h.claim
  obtain ⟨db1, ts, hoccupy, hbudgets, htasks, hts⟩ := h.capacity
  have hmoves := hsteps.moves hfits.waiting
  have hlog : TableLog db.claims [.update c c'] db'.claims := hclaims ▸ .of_put hc hid
  have hlawful : ∀ w ∈ [RowWrite.update c c'], LawfulClaim db w := by
    simp [LawfulClaim, hexecution, hconsumed]
  cases htask : target.task with
  | none =>
    rw [htask] at hoccupy
    cases hoccupy
    have hnone : target.execution.taskId = none := by
      simpa [htask] using hfits.owned.symm
    exact CommitIf.commit (.of_moved hexecutions hfits.execution hmoves (.of_eq hbudgets) (by simp)
      htasks hts h.branches hlog hlawful (by simp [hnone]) (by simp [hnone]) (by simp)
      (by simp [hnone]))
  | some t =>
    obtain ⟨ht, howner⟩ := hfits.getTask_eq htask
    rw [htask] at hoccupy
    obtain ⟨b, reservations, hb, hopen, hchecks, rfl⟩ := hoccupy
    have hgrows : b.Grows ((occupySlot b target.execution.parentExecutionId.isSome).apply
        b.revision b) := by
      constructor <;> simp [occupySlot, BudgetPatch.apply]
    have hbs : TableLog db.budgets [.update b _] (db.budgets.put _) :=
      .of_put hb hgrows.taskId
    rw [← show db'.budgets = db.budgets.put _ from hbudgets] at hbs
    have hepoch : TableLog db.tasks [.update t { t with revision := t.revision + 1 }] _ :=
      .of_put ht rfl
    refine CommitIf.commit (.of_move hexecutions hfits.execution hmoves hbs
      (by simpa [LawfulBudget] using ⟨hgrows, hchecks⟩) (hepoch.append htasks) ?_ h.branches hlog
      hlawful howner (fun _ _ => ⟨b, hb, hopen⟩) (.one (key_of_find? hb) hgrows.taskId ?_ ?_ rfl)
      (fun _ => rfl))
    rotate_left
    · simp [occupySlot, BudgetPatch.apply, ExecutionRow.running, hrunning, hfits.waiting]
    · cases hp : target.execution.parentExecutionId.isSome <;>
        simp [occupySlot, BudgetPatch.apply, ExecutionRow.running, hrunning, hfits.waiting]
    · have hlive : t.status.isTerminal = false := hfits.live t htask
      rintro w hw
      rcases List.mem_append.1 hw with hw | hw
      · cases List.mem_singleton.1 hw
        exact ⟨hlive, hlive⟩
      · exact hts w hw

theorem Wakes.active (hfits : target.Fits db executionId revision) {τ : String}
    (hτ : target.execution.taskId = some τ) :
    ∃ b b', getTaskBudget db τ = some b ∧ getTaskBudget db' τ = some b' ∧
      b'.activeExecutions = b.activeExecutions + 1 := by
  obtain ⟨db1, ts, hoccupy, hbudgets, -⟩ := h.capacity
  have howned := hfits.owned
  rw [hτ] at howned
  obtain ⟨t, ht⟩ := Option.isSome_iff_exists.1 howned
  have hid : some t.id = some τ := (hfits.getTask_eq ht).2.symm.trans hτ
  cases Option.some.inj hid
  rw [ht] at hoccupy
  obtain ⟨b, reservations, hb, -, -, rfl⟩ := hoccupy
  have hb' : getTaskBudget db' t.id =
      some ((occupySlot b target.execution.parentExecutionId.isSome).apply b.revision b) := by
    rw [getTaskBudget, hbudgets]
    exact find?_put_same hb rfl
  exact ⟨b, _, hb, hb', rfl⟩

/-- The claims of a database in which an execution was woken: the one that was consumed, and those
that were there. -/
theorem Wakes.claims_cases {c' : ClaimRow D.Plan} (hc' : c' ∈ db'.claims) :
    (∃ c, getResumeClaim db claimId = some c ∧ c.state = .created ∧ c'.claimId = c.claimId ∧
        c'.executionId = c.executionId ∧
        c'.expectedExecutionRevision = c.expectedExecutionRevision) ∨
      c' ∈ db.claims ∧ c'.claimId ≠ claimId := by
  obtain ⟨c, r, hclaims, hc, hcreated, hid, hexecution, hrevision, -⟩ := h.claim
  have hkey : c.claimId = claimId := key_of_find? hc
  rw [hclaims, mem_put_of_mem (mem_of_find? hc) hid.symm] at hc'
  rcases hc' with ⟨hmem, hne⟩ | rfl
  · exact .inr ⟨hmem, by rwa [← hkey, ← hid]⟩
  · exact .inl ⟨c, hc, hcreated, hid, hexecution, hrevision⟩

omit h

/-! ### The operations -/

variable {claim : ClaimRow D.Plan}

variable {spec : ResumeClaimConsumeSpec D.Plan} {o : Except ClaimRejection ResumeClaimConsumeResult}

variable (hfits : target.Fits db spec.plan.executionId spec.plan.expectedExecutionRevision)

include hfits

/-- An execution that times out gives nothing back: it held nothing. -/
theorem expireWait_commit (h : expireWait spec claim target db = .ok (o, db')) : Commit db db' := by
  simp only [expireWait, compareAndSetWaitingExecution, updateExecution_bind_ok,
    compareAndSetResumeClaim_bind_ok] at h
  obtain ⟨e, he, -, c, hc, -, h⟩ := h
  obtain rfl : e = target.execution := Option.mem_unique he hfits.execution
  obtain ⟨u, db2, hreconcile, h⟩ := bind_ok.1 h
  obtain ⟨-, rfl⟩ := pure_mk.1 h
  obtain ⟨ts, htasks, hts, hdb⟩ :=
    reconcileClaimTask_ok hreconcile fun t ht => (hfits.getTask_eq ht).1
  rw [hdb]
  refine CommitIf.commit (.of_moved rfl hfits.execution
    (StepsTo.moves (.of_apply hfits.revision _) hfits.waiting) (.nil _) (by simp) htasks hts rfl
    (.of_put hc rfl) ?_ ?_ ?_ (by simp) ?_)
  · simp [LawfulClaim, rejectionPatch, ClaimPatch.apply]
  · simp [ExecutionPatch.apply]
  · simp [ExecutionPatch.apply, ExecutionRow.running, hfits.waiting]
  · simp [ExecutionPatch.apply, ExecutionRow.running, hfits.waiting]

/-- An activation, and how it got there: in `s` capacity was taken and the execution had moved on to
`e'`, in `s'` the activity of its task was derived again. -/
structure Activated (db : Db D) (claimId : String) (target : ClaimTarget) (db' : Db D) : Prop
    extends Wakes db claimId target db' where
  derived : ∃ (db1 s s' : Db D) (u : Unit) (e' : ExecutionRow),
    reconcileClaimTask (target.task.map fun t => { t with revision := t.revision + 1 }) s =
      .ok (u, s') ∧ Occupies db target.execution.parentExecutionId.isSome target.task db1 ∧
    s.tasks = db1.tasks ∧ s.executions = db.executions.put e' ∧ s.branches = db.branches ∧
    target.execution.SameLineage e' ∧ e'.state = .running ∧ db'.tasks = s'.tasks ∧
    db'.executions = s'.executions ∧ db'.branches = s'.branches

theorem activateResume_ok (hlineage : spec.plan.lineage = lineageOf target.execution)
    (h : activateResume spec claim target db = .ok (o, db')) :
    Activated db claim.claimId target db' := by
  obtain ⟨task, db1, hoccupy, h⟩ := bind_ok.1 h
  obtain ⟨hoccupies, hfound, htask⟩ := occupyClaimTask_ok (fun t ht => (hfits.getTask_eq ht).1) hoccupy
  rw [hlineage] at hoccupies
  have hframe := Occupies.frame hoccupies
  simp only [compareAndSetWaitingExecution, updateExecution_bind_ok] at h
  obtain ⟨e, he, -, h⟩ := h
  rw [getExecution, hframe.1] at he
  obtain rfl : e = target.execution := Option.mem_unique he hfits.execution
  obtain ⟨u, db2, hreconcile, h⟩ := bind_ok.1 h
  obtain ⟨ts, htasks, hts, hdb⟩ := reconcileClaimTask_ok hreconcile hfound
  simp only [compareAndSetResumeClaim_bind_ok, pure_mk] at h
  obtain ⟨c, hc, ⟨-, hcreated⟩, -, rfl⟩ := h
  rw [getResumeClaim, hdb, hframe.2.2] at hc
  rw [htask] at hreconcile
  refine ⟨?_, db1, _, db2, u, _, hreconcile, hoccupies, rfl, congrArg (Table.put · _) hframe.1,
    hframe.2.1, (StepsTo.of_apply hfits.revision _).lineage, rfl, rfl, rfl, rfl⟩
  rw [hdb]
  exact {
    execution := ⟨_, congrArg (Table.put · _) hframe.1, .of_apply hfits.revision _, rfl⟩
    claim := ⟨c, _, congrArg (Table.put · _) hframe.2.2, hc, hcreated, rfl, rfl, rfl, rfl⟩
    capacity := ⟨db1, ts, hoccupies, rfl, htasks, hts⟩
    branches := hframe.2.1 }

omit hfits

/-- The execution that an activation woke up and leased, as one step from the waiting one. -/
theorem StepsTo.leased {e e' e'' : ExecutionRow} (h : StepsTo e e') (hlineage : e'.SameLineage e'')
    (hrevision : e''.revision = e'.revision) : StepsTo e e'' where
  lineage := h.lineage.trans hlineage
  revision := hrevision.trans h.revision

theorem activateRecovery_ok {spec : RecoveryActivationSpec D.Plan}
    {o : Except ClaimRejection RecoveryActivationResult}
    (hfits : target.Fits db spec.plan.executionId spec.plan.expectedExecutionRevision)
    (hlineage : spec.plan.lineage = lineageOf target.execution)
    (h : activateRecovery spec claim target db = .ok (o, db')) :
    Activated db claim.claimId target db' := by
  obtain ⟨task, db1, hoccupy, h⟩ := bind_ok.1 h
  obtain ⟨hoccupies, hfound, htask⟩ := occupyClaimTask_ok (fun t ht => (hfits.getTask_eq ht).1) hoccupy
  rw [hlineage] at hoccupies
  obtain ⟨hexecutions, hbranches, hclaims⟩ := hoccupies.frame
  simp only [compareAndSetWaitingExecution, orAbort_bind_ok, acquireExecutionLease, steps_ok,
    updateExecution_some] at h
  obtain ⟨_, _, ⟨e, he, -, rfl, rfl⟩, _, _, ⟨-, e1, he1, -, rfl, rfl⟩, -, h⟩ := h
  rw [getExecution, hexecutions] at he
  obtain rfl : e = target.execution := Option.mem_unique he hfits.execution
  -- the lease is taken of the execution that the step before it wrote
  have hsteps := StepsTo.of_apply hfits.revision
    (wakePatch spec.plan.targetClientId spec.plan.targetConnectionId spec.activationNow)
  have hwoken : e1 = _ := Option.some.inj (he1.symm.trans
    (find?_put_same (by rw [hexecutions]; exact hfits.execution) hsteps.lineage.id))
  rw [← hwoken] at h hsteps
  have hput {r : ExecutionRow} (hid : r.id = e1.id) :
      (db1.executions.put e1).put r = db.executions.put r :=
    (put_put hid).trans (congrArg (Table.put · r) hexecutions)
  obtain ⟨c', db3, hset, h⟩ := h
  rcases compareAndSetResumeClaim_ok hset with ⟨c, hc, ⟨-, hcreated⟩, -, rfl⟩ | ⟨hnone, -⟩
  · rw [getResumeClaim, hclaims] at hc
    obtain ⟨u, db4, hreconcile, h⟩ := bind_ok.1 h
    obtain ⟨-, rfl⟩ := pure_mk.1 h
    obtain ⟨ts, htasks, hts, hdb⟩ := reconcileClaimTask_ok hreconcile hfound
    rw [htask] at hreconcile
    refine ⟨?_, db1, _, db', u, _, hreconcile, hoccupies, rfl, hput rfl, hbranches,
      hsteps.lineage.trans ⟨rfl, rfl, rfl, rfl⟩, hwoken ▸ rfl, rfl, rfl, rfl⟩
    rw [hdb]
    exact {
      execution := ⟨_, hput rfl, hsteps.leased ⟨rfl, rfl, rfl, rfl⟩ rfl, hwoken ▸ rfl⟩
      claim := ⟨c, _, congrArg (Table.put · _) hclaims, hc, hcreated, rfl, rfl, rfl, rfl⟩
      capacity := ⟨db1, ts, hoccupies, rfl, htasks, hts⟩
      branches := hbranches }
  · cases hnone

/-! ### How a claim is consumed -/

/-- What consuming a claim did: nothing, because it was consumed before; a rejection or an expiry of
the claim, unless that came too late; the end of an execution that waited too long; or an
activation. -/
inductive Consumption (db : Db D) : Db D → Prop
  | replayed : Consumption db db
  | refused {db' : Db D} {claimId : String} {revision : ℕ} {p : ClaimPatch D.Plan}
      {o : Option (ClaimRow D.Plan)} (hp : (∃ code now, p = rejectionPatch code now) ∨
        ∃ expiredAt, p = { state := some .expired, expiredAt })
      (h : compareAndSetResumeClaim claimId revision .created p db = .ok (o, db')) :
      Consumption db db'
  | timedOut {db' : Db D} {spec : ResumeClaimConsumeSpec D.Plan} {claim : ClaimRow D.Plan}
      {target : ClaimTarget} {o : Except ClaimRejection ResumeClaimConsumeResult}
      (hfits : target.Fits db spec.plan.executionId spec.plan.expectedExecutionRevision)
      (h : expireWait spec claim target db = .ok (o, db')) : Consumption db db'
  | activated {db' : Db D} {claim : ClaimRow D.Plan} {target : ClaimTarget}
      (hclaim : getResumeClaim db claim.claimId = some claim)
      (hfits : target.Fits db claim.executionId claim.expectedExecutionRevision)
      (h : Activated db claim.claimId target db') : Consumption db db'

theorem Consumption.of_refuseClaim {code : String} {now : ℤ} {o : Except ClaimRejection α}
    (h : refuseClaim claim code now db = .ok (o, db')) : Consumption db db' := by
  unfold refuseClaim rejectCreatedClaim at h
  rw [bind_assoc, bind_ok] at h
  obtain ⟨c, db1, hset, h⟩ := h
  have hdb : db' = db1 := by cases c <;> exact (pure_mk.1 h).2
  exact .refused (.inl ⟨code, now, rfl⟩) (hdb ▸ hset)

/-- A claim in whatever state was refused, or it is replayed or consumed. -/
theorem Consumption.of_consumeClaim {now : ℤ} {lost : Failure}
    {replay consume : Tx D (Except ClaimRejection α)} {o : Except ClaimRejection α}
    (h : consumeClaim claim revision now lost replay consume db = .ok (o, db')) :
    replay db = .ok (o, db') ∨ consume db = .ok (o, db') ∨ Consumption db db' := by
  simp only [consumeClaim, ite_ok, abort_ok, and_false, false_or] at h
  rcases h with ⟨-, h⟩ | ⟨-, -, -, -, ⟨-, h⟩ | ⟨-, h⟩⟩
  · exact .inl h
  · simp only [expireClaim, orAbort_bind_ok, pure_mk] at h
    obtain ⟨c, db1, hset, -, rfl⟩ := h
    exact .inr (.inr (.refused (.inr ⟨_, rfl⟩) hset))
  · exact .inr (.inl h)

variable {evidence : ActivationEvidence}

theorem consumeResumeClaimOnce_cases (h : consumeResumeClaimOnce spec evidence db = .ok (o, db')) :
    Consumption db db' := by
  simp only [consumeResumeClaimOnce, requireReconnectPlan, bind_assoc, steps_ok, ite_ok, abort_ok,
    and_false, or_false] at h
  obtain ⟨-, -, -, claim, hclaim, hmatches, ⟨-, -, h⟩ | ⟨-, h⟩⟩ := h
  · exact .of_refuseClaim h
  rcases Consumption.of_consumeClaim h with h | h | h
  · simp only [replayConsumedResume, steps_ok, pure_mk] at h
    obtain ⟨-, -, -, rfl⟩ := h
    exact .replayed
  · simp only [consumeCreatedResumeClaim, refusing_bind_ok] at h
    rcases h with ⟨target, db1, htarget, h⟩ | ⟨code, -, h⟩
    · obtain ⟨hfits, hlineage⟩ := resumeTarget_ok htarget
      simp only [ite_ok, refusing_bind_ok] at h
      rcases h with ⟨-, h⟩ | ⟨-, ⟨-, -, -, h⟩ | ⟨code, -, h⟩⟩
      · exact .timedOut hfits h
      · refine .activated (find?_key (mem_of_find? hclaim)) ?_ (activateResume_ok hfits hlineage h)
        rwa [hmatches.2.1, hmatches.2.2.2.1]
      · exact .of_refuseClaim h
    · exact .of_refuseClaim h
  · exact h

theorem consumeRecoveryClaimOnce_cases {spec : RecoveryActivationSpec D.Plan}
    {o : Except ClaimRejection RecoveryActivationResult}
    (h : consumeRecoveryClaimOnce spec evidence db = .ok (o, db')) : Consumption db db' := by
  simp only [consumeRecoveryClaimOnce, steps_ok] at h
  obtain ⟨-, -, -, -, claim, hclaim, hmatches, h⟩ := h
  rcases Consumption.of_consumeClaim h with h | h | h
  · simp only [replayConsumedRecovery, steps_ok, pure_mk] at h
    obtain ⟨-, -, -, -, -, -, -, rfl⟩ := h
    exact .replayed
  · simp only [consumeCreatedRecoveryClaim, refusing_bind_ok] at h
    rcases h with ⟨target, db1, htarget, ⟨-, -, -, h⟩ | ⟨code, -, h⟩⟩ | ⟨code, -, h⟩
    · obtain ⟨hfits, hlineage⟩ := recoveryTarget_ok htarget
      refine .activated (find?_key (mem_of_find? hclaim)) ?_ (activateRecovery_ok hfits hlineage h)
      rwa [hmatches.2.1, hmatches.2.2.2.1]
    · exact .of_refuseClaim h
    · exact .of_refuseClaim h
  · exact h

/-- **Consuming a claim is lawful and balanced**, whatever it answers. -/
theorem Consumption.commit (h : Consumption db db') : Commit db db' := by
  cases h with
  | replayed => exact .refl _
  | refused hp h =>
    rcases compareAndSetResumeClaim_ok h with ⟨c, hc, -, -, hdb⟩ | ⟨-, rfl⟩
    · refine claim_commit hc ?_ hdb
      rcases hp with ⟨code, now, rfl⟩ | ⟨_, rfl⟩ <;> simp [rejectionPatch]
    · exact .refl _
  | timedOut hfits h => exact expireWait_commit hfits h
  | activated _ hfits h => exact h.commit hfits

end Outcomes

end AssistantRuntime.Persistence

/-
**Everything that is asked of the stored runtime.**

Coordinators, workers, sweepers and clients act on the database at the same time, each through some
operation that is one unit of work.  With serializable units of work what they do together is a
sequence of operations: this file lists the operations, says what a step is, and derives from the law
of each operation the law of a step.
-/

import AssistantRuntime.Agent.Invariants
import AssistantRuntime.Persistence.Activation
import AssistantRuntime.Persistence.Consumption
import AssistantRuntime.TaskBudget.Cancellation
import AssistantRuntime.TaskBudget.Fork
import AssistantRuntime.TaskBudget.Recovery
import AssistantRuntime.TaskBudget.Resolution
import AssistantRuntime.TaskBudget.Resources
import AssistantRuntime.TaskBudget.Retry
import AssistantRuntime.TaskBudget.Start

namespace AssistantRuntime.Runtime

open Relational Uow Agent TaskBudget Persistence

variable {D : Digests}

/-! ### Operations -/

/-- An operation of the runtime on tasks, budgets, branches, executions, leases and claims, with all
its arguments; what an operation learns from outside the model is one of them. -/
inductive Request (D : Digests)
  | createTask (settings : Settings) (task : TaskRow) (limits : Option TaskBudgetLimits)
      (policy : Option TaskBudgetPolicy) (identity : Option Identity)
  | ensureBudget (taskId : String) (limits : TaskBudgetLimits) (policy : TaskBudgetPolicy)
  | closeBudget (taskId : String) (now : ℤ)
  | transitionTask (taskId : String) (allowedSourceStates : List TaskStatus) (target : TaskStatus)
      (values : TaskPatch) (now : ℤ)
  | terminalizeTask (taskId : String) (allowedSourceStates : List TaskStatus) (target : TaskStatus)
      (values : TaskPatch) (now : ℤ)
  | cancelTask (taskId : String) (values : TaskPatch) (now : ℤ)
  | discardBranch (taskId branchId targetUserId : String) (now : ℤ)
  | adoptBranch (taskId branchId targetUserId : String) (now : ℤ)
  | aggregateBranches (request : AggregateRequest) (executionId : String) (admittedAt : ℤ)
      (expectedGeneration : Option ℤ) (timeoutSeconds : Option ℚ)
  | consumeRetryPlan (plan : RetryPlan D.Plan) (executionId : String) (startedAt : ℤ)
      (evidence : PlanEvidence)
  | consumeForkPlan (plan : ForkPlan D.Plan) (branchId executionId : String) (startedAt : ℤ)
      (evidence : PlanEvidence)
  | startRoot (taskId executionId : String) (values : ExecutionRow) (expectedGeneration : Option ℤ)
  | start (settings : Settings) (taskId executionId : String) (values : ExecutionRow)
      (delegationDepth : ℤ) (expectedGeneration : Option ℤ) (now : ℤ)
  | resume (taskId executionId : String) (sourceRevision : ℕ) (values : ExecutionPatch)
      (delegated : Bool) (expectedGeneration : Option ℤ) (evidence : WaitingEvidence) (now : ℤ)
  | finish (call : FinishCall) (evidence : WaitingEvidence) (now : ℤ)
  | expireWaiting (taskId executionId : String) (sourceRevision : ℕ) (values : ExecutionPatch)
  | recover (taskId executionId : String) (lease : ObservedLease) (observedRevision : Option ℕ)
      (expectedGeneration : Option ℤ) (evidence : RecoveryEvidence)
  | failUnrecoverable (taskId executionId : String) (sourceRevision : ℕ) (lease : ObservedLease)
      (reasonCode : String) (expectedGeneration : Option ℤ)
  | reserveInference (settings : Settings) (call : BudgetCall) (requestId : String)
      (preflight : Preflight) (now : ℤ)
  | accountUsage (settings : Settings) (call : BudgetCall) (usageKey : String) (tokens costUsd : ℤ)
      (preflight : Preflight) (now : ℤ)
  | reserveToolCallBatch (settings : Settings) (taskId : String) (calls : List JsonObject)
      (preflight : Preflight) (expectedGeneration : Option ℤ) (now : ℤ)
  | getOrCreateResumeClaim (intent : ResumeClaimIntent D.Plan) (claimId : String)
      (locatorTaskId : Option String) (now : ℤ)
  | rebindResumeClaim (claimId : String) (plan : ResumePlan D.Plan) (resumeRequestId : String)
      (now : ℤ)
  | recordHandoff (claimId status : String) (payload : JsonObject)
  | consumeResumeClaim (spec : ResumeClaimConsumeSpec D.Plan) (evidence : ActivationEvidence)
  | consumeRecoveryClaim (spec : RecoveryActivationSpec D.Plan) (evidence : ActivationEvidence)
  | activateFork (bootstrap : Bootstrap D.Plan) (principal : String) (findings : SeedFindings)
      (activatedAt : ℤ)
  | activateRetry (bootstrap : Bootstrap D.Plan) (principal : String) (activatedAt : ℤ)
  | activateAggregate (bootstrap : Bootstrap D.Plan) (principal : String)
      (timeoutSeconds : Option ℚ) (activatedAt : ℤ)
  | lease (executionId ownerInstanceId : String) (now leaseExpiresAt : ℤ)
  | renewLease (executionId ownerInstanceId : String) (leaseGeneration : ℕ)
      (now newLeaseExpiresAt : ℤ)
  | releaseLease (executionId ownerInstanceId : String) (leaseGeneration : ℕ)

namespace Request

def Answer : Request D → Type
  | createTask .. => TaskRow
  | ensureBudget .. => Agent.TaskBudget
  | closeBudget .. => Agent.TaskBudget
  | transitionTask .. => TaskRow
  | terminalizeTask .. => TaskRow
  | cancelTask .. => TaskRow
  | discardBranch .. => BranchDiscardResult
  | adoptBranch .. => TaskAdoptionResult
  | aggregateBranches .. => AggregateAdmission D.Plan
  | consumeRetryPlan .. => RetryAdmission D.Plan
  | consumeForkPlan .. => ForkAdmission D.Plan
  | startRoot .. => RootExecutionAdmission
  | start .. => ℕ
  | resume .. => ℕ
  | finish .. => ℕ
  | expireWaiting .. => Option ℕ
  | recover .. => ℕ
  | failUnrecoverable .. => ℕ
  | reserveInference .. => Agent.TaskBudget
  | accountUsage .. => Agent.TaskBudget
  | reserveToolCallBatch .. => Agent.TaskBudget
  | getOrCreateResumeClaim .. => Except ClaimRejection (ClaimRow D.Plan)
  | rebindResumeClaim .. => Except ClaimRejection (ClaimRow D.Plan)
  | recordHandoff .. => ClaimRow D.Plan
  | consumeResumeClaim .. => Except ClaimRejection ResumeClaimConsumeResult
  | consumeRecoveryClaim .. => Except ClaimRejection RecoveryActivationResult
  | activateFork .. => ActivationResult
  | activateRetry .. => ActivationResult
  | activateAggregate .. => ActivationResult
  | lease .. => ExecutionRow
  | renewLease .. => ExecutionRow
  | releaseLease .. => ExecutionRow

def perform : (r : Request D) → Tx D r.Answer
  | createTask settings task limits policy identity =>
    createTaskWithBudget settings task limits policy identity
  | ensureBudget taskId limits policy => TaskBudget.ensureBudget taskId limits policy
  | closeBudget taskId now => TaskBudget.close taskId now
  | transitionTask taskId allowed target values now =>
    TaskBudget.transitionTask taskId allowed target values now
  | terminalizeTask taskId allowed target values now =>
    TaskBudget.terminalizeTask taskId allowed target values now
  | cancelTask taskId values now => TaskBudget.cancelTask taskId values now
  | discardBranch taskId branchId targetUserId now =>
    TaskBudget.discardBranch taskId branchId targetUserId now
  | adoptBranch taskId branchId targetUserId now =>
    TaskBudget.adoptBranch taskId branchId targetUserId now
  | aggregateBranches request executionId admittedAt expectedGeneration timeoutSeconds =>
    TaskBudget.aggregateBranches request executionId admittedAt expectedGeneration timeoutSeconds
  | consumeRetryPlan plan executionId startedAt evidence =>
    TaskBudget.consumeRetryPlan plan executionId startedAt evidence
  | consumeForkPlan plan branchId executionId startedAt evidence =>
    TaskBudget.consumeForkPlan plan branchId executionId startedAt evidence
  | startRoot taskId executionId values expectedGeneration =>
    startRootTaskScopedExecution taskId executionId values expectedGeneration
  | start settings taskId executionId values delegationDepth expectedGeneration now =>
    startTaskScopedExecution settings taskId executionId values delegationDepth expectedGeneration
      now
  | resume taskId executionId sourceRevision values delegated expectedGeneration evidence now =>
    resumeTaskScopedExecution taskId executionId sourceRevision values delegated expectedGeneration
      evidence now
  | finish call evidence now => finishTaskScopedExecution call evidence now
  | expireWaiting taskId executionId sourceRevision values =>
    expireTaskScopedWaitingExecution taskId executionId sourceRevision values
  | recover taskId executionId observed observedRevision expectedGeneration evidence =>
    recoverTaskScopedExecution taskId executionId observed observedRevision expectedGeneration
      evidence
  | failUnrecoverable taskId executionId sourceRevision observed reasonCode expectedGeneration =>
    failUnrecoverableTaskScopedExecution taskId executionId sourceRevision observed reasonCode
      expectedGeneration
  | reserveInference settings call requestId preflight now =>
    TaskBudget.reserveInference settings call requestId preflight now
  | accountUsage settings call usageKey tokens costUsd preflight now =>
    TaskBudget.accountUsage settings call usageKey tokens costUsd preflight now
  | reserveToolCallBatch settings taskId calls preflight expectedGeneration now =>
    TaskBudget.reserveToolCallBatch settings taskId calls preflight expectedGeneration now
  | getOrCreateResumeClaim intent claimId locatorTaskId now =>
    Persistence.getOrCreateResumeClaim intent claimId locatorTaskId now
  | rebindResumeClaim claimId plan resumeRequestId now =>
    rebindCreatedResumeClaim claimId plan resumeRequestId now
  | recordHandoff claimId status payload => recordResumeClaimHandoff claimId status payload
  | consumeResumeClaim spec evidence => consumeResumeClaimOnce spec evidence
  | consumeRecoveryClaim spec evidence => consumeRecoveryClaimOnce spec evidence
  | activateFork bootstrap principal findings activatedAt =>
    activateForkExecution bootstrap principal findings activatedAt
  | activateRetry bootstrap principal activatedAt =>
    activateRetryExecution bootstrap principal activatedAt
  | activateAggregate bootstrap principal timeoutSeconds activatedAt =>
    activateAggregateExecution bootstrap principal timeoutSeconds activatedAt
  | lease executionId owner now leaseExpiresAt => leaseExecution executionId owner now leaseExpiresAt
  | renewLease executionId owner generation now newLeaseExpiresAt =>
    Persistence.renewLease executionId owner generation now newLeaseExpiresAt
  | releaseLease executionId owner generation =>
    Persistence.releaseLease executionId owner generation

/-- The promise of whoever resumes or finishes an execution: `delegated` says whether it has a
parent. -/
def SaysDelegation (db : Db D) : Request D → Prop
  | resume _ executionId _ _ delegated _ _ _ => DelegatedFits db executionId delegated
  | finish call _ _ => DelegatedFits db call.executionId call.delegated
  | _ => True

/-- The promise of whoever creates a task: it is not created as one that is over. -/
def StartsAlive : Request D → Prop
  | createTask _ task _ _ _ => task.status.isTerminal = false
  | _ => True

/-- **Every operation leaves a lawful commit.** -/
theorem commit {db db' : Db D} (r : Request D) {a : r.Answer} (h : r.perform db = .ok (a, db')) :
    CommitIf r.StartsAlive (r.SaysDelegation db) db db' := by
  cases r with
  | createTask => exact createTaskWithBudget_commit _ h
  | ensureBudget => exact (ensureBudget_commit h).commitIf _ _
  | closeBudget => exact (close_commit h).commitIf _ _
  | transitionTask => exact (transitionTask_commit h).commitIf _ _
  | terminalizeTask => exact (terminalizeTask_commit h).commitIf _ _
  | cancelTask => exact (cancelTask_commit h).commitIf _ _
  | discardBranch => exact (discardBranch_commit h).commitIf _ _
  | adoptBranch => exact (adoptBranch_commit h).commitIf _ _
  | aggregateBranches => exact (aggregateBranches_commit h).commitIf _ _
  | consumeRetryPlan => exact (consumeRetryPlan_commit h).commitIf _ _
  | consumeForkPlan => exact (consumeForkPlan_commit h).commitIf _ _
  | startRoot => exact (startRootTaskScopedExecution_commit h).commitIf _ _
  | start => exact (startTaskScopedExecution_commit h).commitIf _ _
  | resume => exact resumeTaskScopedExecution_commit h
  | finish => exact finishTaskScopedExecution_commit h
  | expireWaiting => exact (expireTaskScopedWaitingExecution_commit h).commitIf _ _
  | recover => exact (recoverTaskScopedExecution_commit h).commitIf _ _
  | failUnrecoverable => exact (failUnrecoverableTaskScopedExecution_commit h).commitIf _ _
  | reserveInference => exact (reserveInference_commit h).commitIf _ _
  | accountUsage => exact (accountUsage_commit h).commitIf _ _
  | reserveToolCallBatch => exact (reserveToolCallBatch_commit h).commitIf _ _
  | getOrCreateResumeClaim => exact (getOrCreateResumeClaim_commit h).commitIf _ _
  | rebindResumeClaim => exact (rebindCreatedResumeClaim_commit h).commitIf _ _
  | recordHandoff => exact (recordResumeClaimHandoff_commit h).commitIf _ _
  | consumeResumeClaim => exact (consumeResumeClaimOnce_cases h).commit.commitIf _ _
  | consumeRecoveryClaim => exact (consumeRecoveryClaimOnce_cases h).commit.commitIf _ _
  | activateFork => exact (activateForkExecution_ok h).commit.commitIf _ _
  | activateRetry => exact (activateRetryExecution_ok h).commit.commitIf _ _
  | activateAggregate => exact (activateAggregateExecution_ok h).commit.commitIf _ _
  | lease => exact (leaseExecution_commit h).commitIf _ _
  | renewLease => exact (renewLease_commit h).commitIf _ _
  | releaseLease => exact (releaseLease_commit h).commitIf _ _

end Request

/-! ### Steps -/

/-- An operation and its outcome: an answer, or the exception that rolled it back. -/
structure Event (D : Digests) where
  request : Request D
  outcome : Except Failure request.Answer

/-- **One step**: the operation ran against the database and ended as it did. -/
def Event.Occurs (ev : Event D) (db db' : Db D) : Prop :=
  match ev.outcome with
  | .ok a => ev.request.perform db = .ok (a, db')
  | .error e => ev.request.perform db = .error e ∧ db' = db

/-- A step whose caller says truly whether an execution is delegated. -/
def Event.OccursDelegating (ev : Event D) (db db' : Db D) : Prop :=
  ev.Occurs db db' ∧ ev.request.SaysDelegation db

/-- A step whose caller creates no task that is over. -/
def Event.OccursAlive (ev : Event D) (db db' : Db D) : Prop :=
  ev.Occurs db db' ∧ ev.request.StartsAlive

variable {db db' : Db D}

/-- **Every step is a lawful commit**; a failed one commits nothing. -/
theorem Event.Occurs.commit {ev : Event D} (h : ev.Occurs db db') :
    CommitIf ev.request.StartsAlive (ev.request.SaysDelegation db) db db' := by
  unfold Event.Occurs at h
  split at h
  · exact ev.request.commit h
  · obtain ⟨-, rfl⟩ := h
    exact (Commit.refl _).commitIf _ _

def Request.event (r : Request D) (db : Db D) : Event D :=
  ⟨r, (r.perform db).map Prod.fst⟩

theorem Request.event_occurs (r : Request D) (db : Db D) :
    (r.event db).Occurs db (stored r.perform db) := by
  unfold Event.Occurs Request.event stored
  cases h : r.perform db with
  | error e => exact ⟨rfl, rfl⟩
  | ok p => rfl

def after (db : Db D) : List (Request D) → Db D
  | [] => db
  | r :: rs => after (stored r.perform db) rs

def history (db : Db D) : List (Request D) → List (Event D)
  | [] => []
  | r :: rs => r.event db :: history (stored r.perform db) rs

theorem history_run (db : Db D) (rs : List (Request D)) :
    Run Event.Occurs db (history db rs) (after db rs) := by
  induction rs generalizing db with
  | nil => exact .nil _
  | cons r rs ih => exact .cons (r.event_occurs db) (ih _)

theorem history_run_and {P : Request D → Db D → Prop} (db : Db D) (rs : List (Request D))
    (hP : ∀ r ∈ rs, ∀ db, P r db) :
    Run (fun ev s s' => Event.Occurs ev s s' ∧ P ev.request s) db (history db rs) (after db rs) := by
  induction rs generalizing db with
  | nil => exact .nil _
  | cons r rs ih =>
    refine .cons ⟨r.event_occurs db, hP r List.mem_cons_self db⟩ (ih _ ?_)
    exact fun r' hr' => hP r' (List.mem_cons_of_mem _ hr')

/-! ### Counters on their own -/

/-- The operations of the budget service that move counters without the rows they count. -/
inductive CounterRequest (D : Digests)
  | reserveNewExecution (settings : Settings) (taskId executionId : String) (values : ExecutionRow)
      (delegationDepth : ℤ) (expectedGeneration : Option ℤ) (now : ℤ)
  | reserveToolCalls (settings : Settings) (taskId reservationKey : String) (count : ℤ)
      (preflight : Preflight) (now : ℤ)
  | reserveResumeSlot (settings : Settings) (taskId executionId : String) (sourceRevision : ℕ)
      (delegated : Bool) (expectedGeneration : Option ℤ) (now : ℤ)
  | releaseActiveExecution (settings : Settings) (taskId executionId : String) (targetRevision : ℕ)
      (delegated : Bool) (expectedGeneration : Option ℤ) (now : ℤ)
  | reserveBranchSlot (settings : Settings) (taskId reservationKey : String)
      (expectedGeneration : Option ℤ) (now : ℤ)
  | releaseBranchSlot (settings : Settings) (taskId reservationKey : String)
      (expectedGeneration : Option ℤ) (now : ℤ)

def CounterRequest.perform : CounterRequest D → Tx D Agent.TaskBudget
  | reserveNewExecution settings taskId executionId values delegationDepth expectedGeneration now =>
    TaskBudget.reserveNewExecution settings taskId executionId values delegationDepth
      expectedGeneration now
  | reserveToolCalls settings taskId reservationKey count preflight now =>
    TaskBudget.reserveToolCalls settings taskId reservationKey count preflight now
  | reserveResumeSlot settings taskId executionId sourceRevision delegated expectedGeneration now =>
    TaskBudget.reserveResumeSlot settings taskId executionId sourceRevision delegated
      expectedGeneration now
  | releaseActiveExecution settings taskId executionId targetRevision delegated expectedGeneration
      now =>
    TaskBudget.releaseActiveExecution settings taskId executionId targetRevision delegated
      expectedGeneration now
  | reserveBranchSlot settings taskId reservationKey expectedGeneration now =>
    TaskBudget.reserveBranchSlot settings taskId reservationKey expectedGeneration now
  | releaseBranchSlot settings taskId reservationKey expectedGeneration now =>
    TaskBudget.releaseBranchSlot settings taskId reservationKey expectedGeneration now

variable {budget : Agent.TaskBudget}

/-- A reservation-keyed call without writes of its own is lawful for the budgets, if the counters it
sets are. -/
theorem budgetLog_of_mutation {settings : Settings} {call : BudgetCall} {m : Mutation D}
    {legacyUnbound : Bool} {now : ℤ} (hside : m.sideEffect = pure ())
    (hverify : m.verifyIdempotent = pure ())
    (hgrows : ∀ b values, m.mutate b = .ok values →
      b.toBudgetRow.Grows (values.apply b.revision b.toBudgetRow))
    (h : mutateWithReservation settings call m legacyUnbound now db = .ok (budget, db')) :
    BudgetLog db db' := by
  obtain ⟨b, hb, ⟨r, -, -, hreplay, -⟩ | ⟨loaded, values, db1, -, reservations, rfl, hvalues, hchecks,
    hdone, -, -, rfl⟩⟩ := mutateWithReservation_ok h
  · rw [hverify] at hreplay
    cases pure_ok.1 hreplay
    exact .refl _
  · rw [hside] at hdone
    cases pure_ok.1 hdone
    have hlaw := hgrows loaded values hvalues
    refine ⟨_, .of_put hb hlaw.taskId, ?_⟩
    simpa [LawfulBudget] using ⟨hlaw, hchecks⟩

/-- **An operation on counters alone keeps the laws of budgets.** -/
theorem CounterRequest.budgetLog (r : CounterRequest D) (h : r.perform db = .ok (budget, db')) :
    BudgetLog db db' := by
  cases r with
  | reserveNewExecution settings taskId executionId values delegationDepth expectedGeneration now =>
    obtain ⟨-, rfl | ⟨b, b', executions, reservations, hb, -, hslot, -, -, -, rfl⟩⟩ :=
      reserveNewExecution_ok h
    · exact .refl _
    · refine ⟨_, .of_put hb hslot.grows.taskId, ?_⟩
      simpa [LawfulBudget] using ⟨hslot.grows, hslot.checks⟩
  | reserveToolCalls settings taskId reservationKey count preflight now =>
    simp only [perform, TaskBudget.reserveToolCalls, steps_ok] at h
    obtain ⟨hcount, -, h⟩ := h
    refine budgetLog_of_mutation rfl rfl ?_ h
    intro b values hvalues
    dsimp only at hvalues
    split_ifs at hvalues
    cases hvalues
    constructor <;> simp [BudgetPatch.apply, hcount.le]
  | reserveResumeSlot => exact budgetLog_of_mutation rfl rfl (fun _ _ hp => (resumePatch_fits hp).1) h
  | releaseActiveExecution =>
    have hne : ExecutionState.completed ≠ .running := by decide
    exact budgetLog_of_mutation rfl rfl (fun _ _ hp => (releasePatch_fits hne hp).1) h
  | reserveBranchSlot | releaseBranchSlot =>
    refine budgetLog_of_mutation rfl rfl ?_ h
    intro b values hvalues
    dsimp only at hvalues
    split_ifs at hvalues
    cases hvalues
    constructor <;> simp [BudgetPatch.apply]

/-! ### Documents as their own digests -/

/-- Digests without collisions: a plan or a payload is its own fingerprint. -/
def transparentDigests : Digests where
  Plan := PlanDocument
  Receipt := ReservationKind × String × Payload PlanDocument
  plan := id
  planText _ := "plan"
  reservation kind key payload := (kind, key, payload)
  receiptText _ := "receipt"
  value _ := "value"
  sideEffects _ := "side-effects"
  safePoint _ := "safe-point"
  policy _ _ := "0000000000000000000000000000000000000000000000000000000000000000"
  policy_isHexDigest := fun _ _ => by decide
  taskId := id
  userBudget _ := "user-budget"
  canonicalTranscript := some
  str _ := "value"
  isAlnum := Char.isAlphanum

/-! ### Before a task exists -/

/-- The database has no row of a task.  Claims elsewhere are on executions that exist, as the
foreign key of `agent_resume_claims` says. -/
structure Pristine (db : Db D) (taskId : String) : Prop where
  task : getTask db taskId = none
  budget : getTaskBudget db taskId = none
  executions : ∀ e ∈ db.executions, e.taskId ≠ some taskId
  branches : ∀ b ∈ db.branches, b.taskId ≠ taskId
  claims : ∀ k ∈ db.claims, ∃ e, getExecution db k.executionId = some e

theorem pristine_empty (taskId : String) : Pristine ({} : Db D) taskId := by
  constructor <;> simp [getTask, getTaskBudget]

/-! ### A small task

A task with a root execution and one that it delegates to; later results are tried on it. -/

def sampleTask : TaskRow where
  id := "task"
  sessionId := "session"
  createdBy := "user"
  assignedAgentId := "agent"
  revision := 0
  status := .created
  input := .null

def sampleLimits : TaskBudgetLimits where
  maxTotalExecutions := 4
  maxActiveExecutions := 2
  maxActiveBranches := 2
  maxParallelAgents := 1
  maxTotalToolCalls := 4
  maxTotalInferenceCalls := 4
  maxDelegationDepth := 1
  positive := by decide

def samplePolicy : TaskBudgetPolicy where
  version := "v1"
  denyRecursiveAgentCycle := true
  version_length := by decide

def sampleExecution (executionId : String) (branchId parentExecutionId : Option String) :
    ExecutionRow where
  id := executionId
  sessionId := "session"
  agentId := "agent"
  taskId := some "task"
  branchId := branchId
  parentExecutionId := parentExecutionId
  correlationId := "correlation"
  state := .running
  revision := 1
  request := .null

def sampleStart : List (Request transparentDigests) :=
  [.createTask {} sampleTask (some sampleLimits) (some samplePolicy) none,
    .transitionTask "task" [.created] .running {} 0,
    .startRoot "task" "root" (sampleExecution "root" none none) none,
    .start {} "task" "child" (sampleExecution "child" (some "r8_root_task") (some "root")) 1 none 0]

def sampleDelegate : Request transparentDigests :=
  .start {} "task" "child"
    { sampleExecution "child" (some "r8_root_task") (some "root") with agentId := "helper" } 1 none 0

/-- The root execution ends, or waits at a checkpoint. -/
def finishRoot (values : ExecutionPatch) (checkpoint : Option CheckpointValues) :
    Request transparentDigests :=
  .finish { taskId := "task", executionId := "root", sourceRevision := 1, delegated := false, values,
            checkpoint } { invocations := fun _ => none, transcript := .ok [] } 0

def sampleFinish : Request transparentDigests :=
  finishRoot { state := some .completed, result := some (some [("answer", .int 42)]) } none

end AssistantRuntime.Runtime

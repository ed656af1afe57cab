/-
**Revalidating fork and retry plans.**

A plan is made in one read and consumed in a later unit of work.  Before it is consumed, every fence
it names is proved again inside the consuming transaction: the revisions of the task, of the budget,
of the branch and of the source execution, the lineage of the source, and the evidence about its
transcript and its side effects.

Tool results, iterations and capability invocations live in tables that this model leaves out.  What
the revalidation reads there enters as an argument, `PlanEvidence`, and nothing is assumed about it.
-/

import AssistantRuntime.Agent.ChangeLog

namespace AssistantRuntime.Agent

open Relational Uow

variable {D : Digests}

/-! ### Evidence -/

/-- What a revalidation finds outside the modelled tables. -/
structure PlanEvidence where
  /-- `_load_safe_side_effects_in_uow`. -/
  sideEffects : Except Failure (List ForkSideEffectSnapshot)
  /-- `_load_fork_safe_transcript_in_uow`, as the messages are dumped. -/
  transcript : Except Failure (List Json)
  /-- The source has capability invocations at all. -/
  hasInvocations : Bool
  /-- `_build_runtime_seed`. -/
  runtimeSeed : Except Failure Json
  /-- `timeout_seconds` of the stored limits, where `AgentExecutionLimits` accepts them. -/
  timeoutSeconds : Option ℚ

/-- The outcome of a loader, inside a unit of work. -/
def evidently {α : Type} : Except Failure α → Tx D α
  | .ok a => pure a
  | .error e => abort e

@[simp] theorem evidently_bind_ok {α β : Type} {x : Except Failure β} {g : β → Tx D α} {db : Db D}
    {r : α × Db D} : (evidently x >>= g) db = .ok r ↔ ∃ b, x = .ok b ∧ g b db = .ok r := by
  cases x with
  | ok b => simp [evidently]
  | error e =>
    rw [bind_ok]
    simp [evidently]

instance {α : Type} {R : Db D → Db D → Prop} [Std.Refl R] (x : Except Failure α) :
    Respects R (evidently x : Tx D α) := by
  cases x <;> (unfold evidently; infer_instance)

def textOf : Option Json → Option String
  | some (.str s) => some s
  | _ => none

def toolMessageIds (transcript : List Json) : List (Option String) :=
  (transcript.filter fun m => textOf (m.get? "role") = some "tool").map
    fun m => textOf (m.get? "tool_call_id")

/-- Every side effect appears exactly once in the transcript. -/
def RepresentedOnce (effects : List ForkSideEffectSnapshot) (transcript : List Json) : Prop :=
  ∀ e ∈ effects, (toolMessageIds transcript).count (some e.toolCallId) = 1
  deriving Decidable

/-- The walk of `_delegation_depth_in_uow` from a parent up, with the executions seen so far.  The
walk leaves the executions it has seen, so a bound on their number suffices as fuel. -/
def delegationDepth (db : Db D) (taskId : Option String) :
    ℕ → List String → Option String → Except String ℕ
  | _, _, none => .ok 0
  | 0, _, some _ => .error "Delegation ancestry contains a cycle."
  | fuel + 1, seen, some parentId =>
    if parentId ∈ seen then .error "Delegation ancestry contains a cycle."
    else
      match getExecution db parentId with
      | none => .error "Delegation ancestry is missing or crosses AgentTask."
      | some parent =>
        if parent.taskId = taskId then
          (delegationDepth db taskId fuel (parentId :: seen) parent.parentExecutionId).map (· + 1)
        else .error "Delegation ancestry is missing or crosses AgentTask."

/-! ### Forks -/

structure ForkRevalidationSnapshot where
  task : TaskRow
  branch : BranchRow
  execution : ExecutionRow
  checkpoint : CheckpointRow
  budget : BudgetRow
  baseTranscript : List Json
  sideEffects : List ForkSideEffectSnapshot
  delegated : Bool
  delegationDepth : ℕ

/-- The states of a task whose executions may be forked or retried. -/
def TaskStatus.isSource (s : TaskStatus) : Bool := s = .running ∨ s = .waiting

def BranchRow.IsAt (b : BranchRow) (taskId : String) (revision : ℕ) (headId : String) : Prop :=
  b.taskId = taskId ∧ b.revision = revision ∧ b.resolutionState = .open ∧
    b.currentExecutionId = some headId
  deriving Decidable

def ForkPlanBody.Names (plan : ForkPlanBody) (e : ExecutionRow) : Prop :=
  e.taskId = some plan.taskId ∧ e.branchId = some plan.sourceBranchId ∧
    e.sessionId = plan.sessionId ∧ e.agentId = plan.sourceAgentId ∧
    e.correlationId = plan.correlationId ∧ e.revision = plan.expectedExecutionRevision ∧
    e.state = .waiting ∧ e.currentCheckpointId = some plan.sourceCheckpointId
  deriving Decidable

def ForkPlanBody.NamesCheckpoint (plan : ForkPlanBody) (c : CheckpointRow) : Prop :=
  c.executionId = plan.sourceExecutionId ∧
    c.executionRevision = plan.expectedExecutionRevision ∧ c.sessionId = plan.sessionId ∧
    c.taskId = some plan.taskId ∧ c.branchId = some plan.sourceBranchId ∧
    c.iteration = plan.checkpointIteration
  deriving Decidable

/-- An execution may still be admitted and started. -/
def BudgetRow.HasExecutionCapacity (b : BudgetRow) : Prop :=
  b.usedExecutions < b.limits.maxTotalExecutions ∧
    b.activeExecutions < b.limits.maxActiveExecutions
  deriving Decidable

/-- The evidence part of a fork: side effects, transcript and runtime seed are those of the plan. -/
def requireForkEvidence (plan : ForkPlan D.Plan) (evidence : PlanEvidence) :
    Tx D (List ForkSideEffectSnapshot × List Json) := do
  let sideEffects ← evidently evidence.sideEffects
  ensure (sideEffects = plan.sideEffects ∧ D.sideEffects sideEffects = plan.sideEffectFingerprint)
    (.planRejected "FORK_SIDE_EFFECT_CHANGED"
      "Source capability side-effect authority changed after planning.")
  let baseTranscript ← evidently evidence.transcript
  ensure (D.value (.arr baseTranscript) = plan.baseTranscriptFingerprint ∧
      Json.itemsPyEq baseTranscript plan.baseTranscript)
    (.planRejected "FORK_TRANSCRIPT_CHANGED"
      "Committed source transcript changed after FORK planning.")
  let runtimeSeed ← evidently evidence.runtimeSeed
  ensure (runtimeSeed.pyEq plan.runtimeSeed ∧ D.value runtimeSeed = plan.runtimeSeedFingerprint)
    (.planRejected "FORK_RUNTIME_CONTEXT_CONFLICT"
      "Source runtime context changed after FORK planning.")
  ensure (RepresentedOnce sideEffects baseTranscript)
    (.planRejected "FORK_TRANSCRIPT_CHANGED"
      ("Terminal source side effect is no longer represented exactly " ++
        "once in the committed transcript."))
  pure (sideEffects, baseTranscript)

/-- The budget part of a fork: the budget is the planned one and has room for a branch and an
execution. -/
def requireForkBudget (plan : ForkPlan D.Plan) : Tx D BudgetRow := do
  let budget ← expect (← reads (getTaskBudget · plan.taskId))
    (.planRejected "FORK_TASK_BUDGET_REQUIRED" "Task has no durable TaskBudget.")
  ensure (budget.state = .open) (.planRejected "FORK_TASK_BUDGET_CLOSED" "TaskBudget is CLOSED.")
  ensure (budget.revision = plan.expectedTaskBudgetRevision ∧
      budget.incarnationGeneration = plan.expectedTaskBudgetIncarnationGeneration)
    (.planRejected "FORK_TASK_BUDGET_STALE"
      "TaskBudget revision/incarnation changed after FORK planning.")
  ensure (budget.policyFingerprint = plan.budgetPolicyFingerprint)
    (.planRejected "FORK_TASK_BUDGET_POLICY_CHANGED"
      "TaskBudget policy changed after FORK planning.")
  ensure (budget.activeBranches < budget.limits.maxActiveBranches)
    (.planDeferred "FORK_BRANCH_CAPACITY_UNAVAILABLE"
      "TaskBudget max_active_branches is exhausted.")
  ensure budget.HasExecutionCapacity
    (.planDeferred "FORK_EXECUTION_CAPACITY_UNAVAILABLE"
      "TaskBudget execution capacity is exhausted.")
  pure budget

def revalidateForkPlan (plan : ForkPlan D.Plan) (evidence : PlanEvidence) :
    Tx D ForkRevalidationSnapshot := do
  ensure (D.plan (.fork plan.toForkPlanBody) = plan.planFingerprint)
    (.planRejected "FORK_PLAN_FINGERPRINT_INVALID"
      "ForkPlan semantic fingerprint no longer matches its payload.")
  let task ← expect (← reads (getTask · plan.taskId))
    (.planRejected "FORK_TASK_NOT_FOUND" s!"Unknown AgentTask: {plan.taskId}")
  ensure (task.revision = plan.expectedTaskRevision ∧ task.createdBy = plan.targetUserId ∧
      task.sessionId = plan.sessionId)
    (.planRejected "FORK_TASK_CONFLICT" "AgentTask changed after FORK planning.")
  ensure task.status.isSource
    (.planRejected "FORK_TASK_CONFLICT"
      s!"AgentTask is no longer RUNNING/WAITING: {task.status.value}.")
  let branch ← expect ((← reads (getTaskBranch · plan.sourceBranchId)).filter
      (·.IsAt plan.taskId plan.expectedBranchRevision plan.sourceExecutionId))
    (.planRejected "FORK_BRANCH_CONFLICT" "Source TaskBranch changed after FORK planning.")
  let execution ← expect ((← reads (getExecution · plan.sourceExecutionId)).filter
      (plan.Names ·))
    (.planRejected "FORK_EXECUTION_CONFLICT" "Source AgentExecution changed after FORK planning.")
  ensure (execution.parentExecutionId = none → task.assignedAgentId = plan.sourceAgentId)
    (.planRejected "FORK_EXECUTION_LINEAGE_CONFLICT"
      "Root source AgentExecution differs from Task assigned agent.")
  let checkpoint ← expect ((← reads (getExecutionCheckpoint · plan.sourceCheckpointId)).filter
      (plan.NamesCheckpoint ·))
    (.planRejected "FORK_CHECKPOINT_CONFLICT" "Source checkpoint changed after FORK planning.")
  ensure ((← reads (listCheckpointPendingInvocations · plan.sourceCheckpointId)) = [])
    (.planRejected "FORK_PENDING_INVOCATIONS"
      "Source checkpoint now contains pending invocation snapshots.")
  let (sideEffects, baseTranscript) ← requireForkEvidence plan evidence
  let budget ← requireForkBudget plan
  let delegated := execution.parentExecutionId.isSome
  let depth ← evidently ((← reads fun db =>
      delegationDepth db execution.taskId (db.executions.rows.length + 1) [execution.id]
        execution.parentExecutionId).mapError (.planRejected "FORK_EXECUTION_LINEAGE_CONFLICT"))
  ensure (delegated → budget.activeParallelAgents < budget.limits.maxParallelAgents)
    (.planDeferred "FORK_PARALLEL_AGENT_CAPACITY_UNAVAILABLE"
      "TaskBudget max_parallel_agents is exhausted.")
  ensure ((depth : ℤ) ≤ budget.limits.maxDelegationDepth)
    (.planRejected "FORK_EXECUTION_LINEAGE_CONFLICT"
      "Source delegation depth exceeds TaskBudget policy.")
  pure ⟨task, branch, execution, checkpoint, budget, baseTranscript, sideEffects, delegated, depth⟩

/-! ### Retries -/

/-- `dict(value or {})` on a JSON column. -/
def orEmptyObject : Json → Json
  | .null => .obj []
  | v => v

structure RetryRevalidationSnapshot where
  task : TaskRow
  budget : BudgetRow
  branch : BranchRow
  execution : ExecutionRow
  checkpoint : Option CheckpointRow
  checkpointTranscript : Option (List Json)
  delegated : Bool
  freshActiveBudgetSeconds : ℚ
  runtimeContextState : Json

/-- The runtime context in the seed of a fork admission; an empty seed has none. -/
def seedContextState (seed : Json) : Option Json :=
  let field (key : String) := (seed.get? key).getD .null
  match seed with
  | .obj (_ :: _) =>
    some (.obj [("request_id", field "request_id"), ("workflow_id", field "workflow_id"),
      ("metadata", orEmptyObject (field "metadata")), ("causation_id", field "causation_id"),
      ("trace_id", field "trace_id"), ("limits", orEmptyObject (field "limits"))])
  | _ => none

/-- A stored value that is a mapping. -/
def mappingOf : Option Json → Option Json
  | some (.obj members) => some (.obj members)
  | _ => none

/-- The runtime context a retry starts from: that of the source, or of the fork that admitted it. -/
def retryContextState (db : Db D) (execution : ExecutionRow) : Option Json :=
  (mappingOf execution.contextState).or
    ((getTaskForkAdmissionByExecution db execution.id).bind fun r => seedContextState r.runtimeSeed)

/-- `_runtime_proof`: the fingerprints of request and context, and the fresh budget. -/
def runtimeProof (execution : ExecutionRow) (contextState : Option Json) (evidence : PlanEvidence) :
    Tx D (Json × String × String × ℚ) := do
  let request ← expect (orEmptyObject execution.request).toJsonSafe
    (.serialization "retry_plan.request")
  let state ← expect (mappingOf contextState)
    (.planRejected "RETRY_RUNTIME_CONTEXT_INCOMPLETE"
      "Source execution has no durable context_state mapping.")
  let safeState ← expect state.toJsonSafe (.serialization "retry_plan.source_context_state")
  ensure ((mappingOf (safeState.get? "limits")).isSome)
    (.planRejected "RETRY_RUNTIME_CONTEXT_INCOMPLETE"
      "Source execution context_state has no durable limits.")
  let freshBudget ← expect evidence.timeoutSeconds
    (.planRejected "RETRY_RUNTIME_CONTEXT_INCOMPLETE" "Source execution limits are invalid.")
  ensure (0 < freshBudget)
    (.planRejected "RETRY_RUNTIME_CONTEXT_INCOMPLETE"
      "Source execution timeout budget is invalid.")
  pure (state, D.value request, D.value safeState, freshBudget)

def RetryPlanBody.Names (plan : RetryPlanBody) (e : ExecutionRow) : Prop :=
  e.taskId = some plan.taskId ∧ e.branchId = some plan.branchId ∧ e.sessionId = plan.sessionId ∧
    e.agentId = plan.sourceAgentId ∧ e.correlationId = plan.correlationId ∧
    e.revision = plan.expectedExecutionRevision ∧ e.state = plan.sourceExecutionState ∧
    e.parentExecutionId = plan.parentExecutionId ∧ e.baseExecutionId = plan.baseExecutionId ∧
    e.baseCheckpointId = plan.baseCheckpointId
  deriving Decidable

def RetryPlanBody.NamesCheckpoint (plan : RetryPlanBody) (c : CheckpointRow) : Prop :=
  c.executionId = plan.sourceExecutionId ∧ c.sessionId = plan.sessionId ∧
    c.taskId = some plan.taskId ∧ c.branchId = some plan.branchId ∧
    c.executionRevision ≤ plan.expectedExecutionRevision
  deriving Decidable

def ExecutionState.isRetryable (s : ExecutionState) : Bool := s = .failed ∨ s = .timeout

def requireRetryBudget (plan : RetryPlan D.Plan) : Tx D BudgetRow := do
  let budget ← expect (← reads (getTaskBudget · plan.taskId))
    (.planRejected "RETRY_TASK_BUDGET_REQUIRED" "Task has no durable TaskBudget.")
  ensure (budget.state = .open ∧ budget.revision = plan.expectedTaskBudgetRevision ∧
      budget.incarnationGeneration = plan.expectedTaskBudgetIncarnationGeneration ∧
      budget.policyFingerprint = plan.budgetPolicyFingerprint)
    (.planRejected "RETRY_TASK_BUDGET_STALE" "TaskBudget changed after RETRY planning.")
  ensure budget.HasExecutionCapacity
    (.planDeferred "RETRY_BUDGET_EXCEEDED" "TaskBudget execution capacity is exhausted.")
  pure budget

def requireRetryCheckpoint (plan : RetryPlan D.Plan) (execution : ExecutionRow) :
    Tx D (Option CheckpointRow) :=
  match plan.sourceCheckpointId with
  | none => pure none
  | some checkpointId => do
    ensure (execution.currentCheckpointId = some checkpointId)
      (.planRejected "RETRY_CHECKPOINT_CONFLICT"
        "Source current checkpoint changed after RETRY planning.")
    let checkpoint ← expect ((← reads (getExecutionCheckpoint · checkpointId)).filter
        (plan.NamesCheckpoint ·))
      (.planRejected "RETRY_CHECKPOINT_CONFLICT" "Source checkpoint changed after RETRY planning.")
    ensure ((← reads (listCheckpointPendingInvocations · checkpointId)) = [])
      (.planRejected "RETRY_CHECKPOINT_CONFLICT"
        "Source checkpoint gained pending invocation snapshots.")
    pure (some checkpoint)

/-- The evidence part of a retry: without a checkpoint the source had no side effects at all, with
one its transcript is the planned one and represents each of them once. -/
def requireRetryEvidence (plan : RetryPlan D.Plan) (checkpoint : Option CheckpointRow)
    (evidence : PlanEvidence) : Tx D (Option (List Json)) :=
  match checkpoint with
  | none => do
    ensure (plan.sourceCheckpointTranscriptFingerprint = none)
      (.planRejected "RETRY_PLAN_FINGERPRINT_INVALID"
        "Retry plan binds checkpoint transcript evidence without a checkpoint.")
    ensure (evidence.hasInvocations = false)
      (.planRejected "RETRY_SIDE_EFFECT_RECONCILIATION_REQUIRED"
        "Source execution gained capability invocation authority after RETRY planning.")
    pure none
  | some _ => do
    let sideEffects ← evidently evidence.sideEffects
    let transcript ← evidently evidence.transcript
    ensure (RepresentedOnce sideEffects transcript)
      (.planRejected "RETRY_CHECKPOINT_UNSAFE"
        ("Every terminal source side effect must appear exactly once " ++
          "in the canonical retry checkpoint transcript."))
    ensure (some (D.value (.arr transcript)) = plan.sourceCheckpointTranscriptFingerprint)
      (.planRejected "RETRY_CHECKPOINT_TRANSCRIPT_CHANGED"
        "Canonical checkpoint transcript changed after RETRY planning.")
    pure (some transcript)

def revalidateRetryPlan (plan : RetryPlan D.Plan) (evidence : PlanEvidence) :
    Tx D RetryRevalidationSnapshot := do
  ensure (D.plan (.retry plan.toRetryPlanBody) = plan.planFingerprint)
    (.planRejected "RETRY_PLAN_FINGERPRINT_INVALID"
      "RetryPlan semantic fingerprint no longer matches its payload.")
  let task ← expect (← reads (getTask · plan.taskId))
    (.planRejected "RETRY_TASK_NOT_FOUND" s!"Unknown AgentTask: {plan.taskId}")
  ensure (task.revision = plan.expectedTaskRevision ∧ task.createdBy = plan.targetUserId ∧
      task.sessionId = plan.sessionId)
    (.planRejected "RETRY_TASK_CONFLICT" "AgentTask changed after RETRY planning.")
  ensure task.status.isSource
    (.planRejected "RETRY_TASK_TERMINAL"
      s!"AgentTask is no longer RUNNING/WAITING: {task.status.value}.")
  let budget ← requireRetryBudget plan
  let branch ← expect ((← reads (getTaskBranch · plan.branchId)).filter
      (·.IsAt plan.taskId plan.expectedBranchRevision plan.sourceExecutionId))
    (.planRejected "RETRY_SOURCE_NOT_CURRENT" "TaskBranch changed after RETRY planning.")
  let execution ← expect ((← reads (getExecution · plan.sourceExecutionId)).filter
      (plan.Names ·))
    (.planRejected "RETRY_EXECUTION_CONFLICT" "Source execution changed after RETRY planning.")
  ensure (execution.parentExecutionId = none → task.assignedAgentId = plan.sourceAgentId)
    (.planRejected "RETRY_EXECUTION_LINEAGE_CONFLICT"
      "Root source execution differs from Task assigned agent.")
  ensure execution.state.isRetryable
    (.planRejected "RETRY_SOURCE_NOT_TERMINAL" "Source execution is no longer retryable.")
  let contextState ← reads (retryContextState · execution)
  let (runtimeContextState, requestFingerprint, contextFingerprint, freshBudget) ←
    runtimeProof execution contextState evidence
  ensure (requestFingerprint = plan.requestFingerprint ∧
      contextFingerprint = plan.sourceContextFingerprint ∧
      freshBudget = plan.freshActiveBudgetSeconds)
    (.planRejected "RETRY_RUNTIME_CONTEXT_CONFLICT"
      "Source retry runtime proof changed after planning.")
  let checkpoint ← requireRetryCheckpoint plan execution
  let checkpointTranscript ← requireRetryEvidence plan checkpoint evidence
  let delegated := execution.parentExecutionId.isSome
  ensure (delegated → budget.activeParallelAgents < budget.limits.maxParallelAgents)
    (.planDeferred "RETRY_BUDGET_EXCEEDED" "TaskBudget parallel-Agent capacity is exhausted.")
  pure ⟨task, budget, branch, execution, checkpoint, checkpointTranscript, delegated, freshBudget,
    runtimeContextState⟩

/-! ### What an accepted plan stands on -/

section Accepted

variable {db db' : Db D} {evidence : PlanEvidence}

theorem TaskStatus.not_terminal_of_isSource {s : TaskStatus} (h : s.isSource = true) :
    s.isTerminal = false := by
  cases s <;> simp_all [TaskStatus.isSource, TaskStatus.isTerminal]

/-! The evidence of a plan is only read. -/

instance (plan : ForkPlan D.Plan) : Respects Eq (requireForkEvidence plan evidence) := by
  unfold requireForkEvidence
  exact .along

instance (execution : ExecutionRow) (contextState : Option Json) :
    Respects Eq (runtimeProof execution contextState evidence : Tx D _) := by
  unfold runtimeProof
  exact .along

instance (plan : RetryPlan D.Plan) (execution : ExecutionRow) :
    Respects Eq (requireRetryCheckpoint plan execution) := by
  unfold requireRetryCheckpoint
  exact .along

instance (plan : RetryPlan D.Plan) (c : Option CheckpointRow) :
    Respects Eq (requireRetryEvidence plan c evidence) := by
  unfold requireRetryEvidence
  exact .along

variable {plan : ForkPlan D.Plan}

theorem requireForkBudget_ok {b : BudgetRow} (h : requireForkBudget plan db = .ok (b, db')) :
    db' = db ∧ getTaskBudget db plan.taskId = some b ∧ b.state = .open := by
  simp only [requireForkBudget, steps_ok, pure_ok, Prod.mk.injEq] at h
  obtain ⟨b, hb, hopen, -, -, -, -, rfl, rfl⟩ := h
  exact ⟨rfl, hb, hopen⟩

/-- **A fork that is accepted starts from a live task with an open budget, and from the execution at
the head of an open branch of the task.** -/
theorem revalidateForkPlan_ok {s : ForkRevalidationSnapshot}
    (h : revalidateForkPlan plan evidence db = .ok (s, db')) :
    db' = db ∧ getTask db plan.taskId = some s.task ∧ s.task.status.isTerminal = false ∧
      getTaskBudget db plan.taskId = some s.budget ∧ s.budget.state = .open ∧
      s.delegated = s.execution.parentExecutionId.isSome ∧
      getTaskBranch db plan.sourceBranchId = some s.branch ∧
      s.branch.IsAt plan.taskId plan.expectedBranchRevision plan.sourceExecutionId ∧
      getExecution db plan.sourceExecutionId = some s.execution ∧ plan.Names s.execution := by
  simp only [revalidateForkPlan, steps_ok, Option.filter_eq_some_iff, decide_eq_true_eq] at h
  obtain ⟨-, task, htask, -, hsource, branch, ⟨hbranch, hat⟩, execution, ⟨hexecution, hnames⟩, -,
    checkpoint, -, -, h⟩ := h
  rw [bind_ok] at h
  obtain ⟨r, db1, hevidence, h⟩ := h
  obtain rfl := Respects.unchanged hevidence
  rw [bind_ok] at h
  obtain ⟨b, db2, hbudget, h⟩ := h
  obtain ⟨rfl, hb, hopen⟩ := requireForkBudget_ok hbudget
  simp only [steps_ok, evidently_bind_ok, pure_mk] at h
  obtain ⟨depth, -, -, -, rfl, rfl⟩ := h
  exact ⟨rfl, htask, TaskStatus.not_terminal_of_isSource hsource, hb, hopen, rfl, hbranch, hat,
    hexecution, hnames⟩

variable {plan : RetryPlan D.Plan}

theorem requireRetryBudget_ok {b : BudgetRow} (h : requireRetryBudget plan db = .ok (b, db')) :
    db' = db ∧ getTaskBudget db plan.taskId = some b ∧ b.state = .open := by
  simp only [requireRetryBudget, steps_ok, pure_ok, Prod.mk.injEq] at h
  obtain ⟨b, hb, ⟨hopen, -⟩, -, rfl, rfl⟩ := h
  exact ⟨rfl, hb, hopen⟩

/-- **A retry that is accepted starts from a live task with an open budget, and from the execution at
the head of an open branch of the task.** -/
theorem revalidateRetryPlan_ok {s : RetryRevalidationSnapshot}
    (h : revalidateRetryPlan plan evidence db = .ok (s, db')) :
    db' = db ∧ getTask db plan.taskId = some s.task ∧ s.task.status.isTerminal = false ∧
      getTaskBudget db plan.taskId = some s.budget ∧ s.budget.state = .open ∧
      getTaskBranch db plan.branchId = some s.branch ∧
      s.branch.IsAt plan.taskId plan.expectedBranchRevision plan.sourceExecutionId ∧
      s.delegated = plan.parentExecutionId.isSome ∧
      getExecution db plan.sourceExecutionId = some s.execution ∧ plan.Names s.execution := by
  simp only [revalidateRetryPlan, steps_ok] at h
  obtain ⟨-, task, htask, -, hsource, h⟩ := h
  rw [bind_ok] at h
  obtain ⟨b, db1, hbudget, h⟩ := h
  obtain ⟨rfl, hb, hopen⟩ := requireRetryBudget_ok hbudget
  simp only [steps_ok, Option.filter_eq_some_iff, decide_eq_true_eq] at h
  obtain ⟨branch, ⟨hbranch, hat⟩, execution, ⟨hexecution, hnames⟩, -, -, h⟩ := h
  rw [bind_ok] at h
  obtain ⟨r, db2, hproof, h⟩ := h
  obtain rfl := Respects.unchanged hproof
  simp only [steps_ok] at h
  obtain ⟨-, h⟩ := h
  rw [bind_ok] at h
  obtain ⟨c, db3, hcheckpoint, h⟩ := h
  obtain rfl := Respects.unchanged hcheckpoint
  rw [bind_ok] at h
  obtain ⟨t, db4, hevidence, h⟩ := h
  obtain rfl := Respects.unchanged hevidence
  simp only [steps_ok, pure_mk] at h
  obtain ⟨-, rfl, rfl⟩ := h
  have hparent : execution.parentExecutionId = plan.parentExecutionId := hnames.2.2.2.2.2.2.2.1
  exact ⟨rfl, htask, TaskStatus.not_terminal_of_isSource hsource, hb, hopen, hbranch, hat,
    by rw [hparent], hexecution, hnames⟩

end Accepted

end AssistantRuntime.Agent

/-
**Activation of admitted executions, and leases.**

A fork, a retry or an aggregation leaves its execution dormant: running at revision one, bound to
nothing.  Activation checks that what the admission relied on still holds and moves the execution to
revision two; of several activations one wins.  A running execution is owned through a lease, which
moves no revision.

An activation is handed the context that the runtime rebuilt for the execution.  What is left open
here is how the context relates to the parts of the seed that are validated elsewhere: `SeedFindings`
is an argument.
-/

import AssistantRuntime.TaskBudget.Aggregation

namespace AssistantRuntime.Persistence

open Relational Uow Agent TaskBudget

variable {D : Digests}

/-! ### What an activation is handed -/

/-- What the activations read of an `AgentExecutionContext`. -/
structure RuntimeContext where
  executionId : String
  sessionId : String
  agentId : String
  correlationId : String
  taskId : Option String
  branchId : Option String
  retryOfExecutionId : Option String
  baseExecutionId : Option String
  branchRuntimeSeedFingerprint : Option String
  connectionId : Option String
  activeBudgetRunning : Bool
  remainingActiveBudgetSeconds : Option ℚ
  input : Json
  branchBaseTranscript : List Json

/-- `ForkExecutionBootstrap`, `RetryExecutionBootstrap` and `AggregateExecutionBootstrap`; the
request id is the one of the admission, the branch the one of the execution. -/
structure Bootstrap (π : Type) where
  executionId : String
  expectedExecutionRevision : ℕ
  taskId : String
  branchId : String
  requestId : String
  planFingerprint : π
  runtimeSeedFingerprint : String
  branchContextRevision : ℕ
  context : RuntimeContext

/-- The context belongs to the execution, has the seed it should have, and runs nowhere yet. -/
def Bootstrap.IsHandoff {π : Type} (b : Bootstrap π) (seedFingerprint : String) : Prop :=
  b.context.executionId = b.executionId ∧ b.context.taskId = some b.taskId ∧
    b.context.branchId = some b.branchId ∧
    b.context.branchRuntimeSeedFingerprint = some seedFingerprint ∧
    b.context.connectionId = none ∧ b.context.activeBudgetRunning = false
  deriving Decidable

/-- `ForkActivationResult` and its companions. -/
structure ActivationResult where
  taskId : String
  branchId : String
  executionId : String
  sourceExecutionRevision : ℕ
  activatedExecutionRevision : ℕ
  remainingActiveBudgetSeconds : ℚ

def Bootstrap.activated {π : Type} (b : Bootstrap π) (remaining : ℚ) : ActivationResult :=
  ⟨b.taskId, b.branchId, b.executionId, 1, 2, remaining⟩

/-! ### Forks -/

/-- `ForkRuntimeSeed`, as far as an activation compares it with stored rows. -/
structure ForkRuntimeSeed where
  branchContextRevision : ℕ
  overlayFingerprint : String
  baseTranscriptFingerprint : String
  requestFingerprint : String
  remainingActiveBudgetSeconds : ℚ

/-- What is found out about the seed of a fork outside the stored rows. -/
structure SeedFindings where
  /-- The seed of the receipt, if it is valid and has the fingerprint of the receipt. -/
  seed : Option ForkRuntimeSeed
  /-- Limits, metadata and request ids of the context agree with the seed. -/
  contextFits : Bool

/-- The head of the branch is still the admitted execution, and its base the one of the receipt. -/
def ForkBranchFits (bootstrap : Bootstrap D.Plan) (receipt : ForkAdmissionRow D.Plan)
    (b : BranchRow) : Prop :=
  b.taskId = bootstrap.taskId ∧ b.resolutionState = .open ∧
    b.currentExecutionId = some bootstrap.executionId ∧
    b.parentBranchId = some receipt.sourceBranchId ∧
    b.baseExecutionId = some receipt.sourceExecutionId ∧
    b.baseCheckpointId = some receipt.sourceCheckpointId
  deriving Decidable

/-- The messages of the context end in the overlay, and what stands before has the fingerprint of
the seed. -/
def OverlayFits (D : Digests) (transcript overlay : List Json) (seed : ForkRuntimeSeed) : Prop :=
  let base := transcript.take (transcript.length - overlay.length)
  let tail := transcript.drop (transcript.length - overlay.length)
  D.value (.arr base) = seed.baseTranscriptFingerprint ∧ (Json.itemsPyEq tail overlay) = true
  deriving Decidable

/-- The execution is dormant and agrees with the seed. -/
def ForkExecutionFits (D : Digests) (bootstrap : Bootstrap D.Plan)
    (receipt : ForkAdmissionRow D.Plan) (seed : ForkRuntimeSeed) (e : ExecutionRow) : Prop :=
  e.IsDormant bootstrap.taskId bootstrap.branchId ∧
    e.HasBase (some receipt.sourceExecutionId) (some receipt.sourceCheckpointId) ∧
    e.sessionId = bootstrap.context.sessionId ∧ e.agentId = bootstrap.context.agentId ∧
    e.correlationId = bootstrap.context.correlationId ∧
    D.value (orEmptyObject e.request) = seed.requestFingerprint ∧
    e.remainingActiveBudgetSeconds = some seed.remainingActiveBudgetSeconds ∧
    bootstrap.context.remainingActiveBudgetSeconds = some seed.remainingActiveBudgetSeconds
  deriving Decidable

def activateForkExecution (bootstrap : Bootstrap D.Plan) (principal : String)
    (findings : SeedFindings) (activatedAt : ℤ) : Tx D ActivationResult := do
  ensure (bootstrap.expectedExecutionRevision = 1)
    (.control "FORK_ACTIVATION_CONFLICT" "Fork bootstrap is not preactivation revision 1.")
  ensure (principal ≠ "")
    (.control "FORK_FOREIGN_PRINCIPAL"
      "Authenticated principal is required for FORK activation.")
  ensure (bootstrap.IsHandoff bootstrap.runtimeSeedFingerprint)
    (.control "FORK_ACTIVATION_CONTEXT_CONFLICT"
      "Fork bootstrap context differs from immutable handoff identity.")
  let task ← expect (← reads (getTask · bootstrap.taskId))
    (.control "FORK_TASK_NOT_FOUND" "Fork AgentTask no longer exists.")
  ensure (task.createdBy = principal)
    (.control "FORK_FOREIGN_PRINCIPAL" "Authenticated principal does not own the AgentTask.")
  ensure (task.status.isTerminal = false)
    (.control "FORK_TASK_TERMINAL" "Terminal AgentTask cannot activate a fork execution.")
  ensure (task.status = .running)
    (.control "FORK_TASK_CONFLICT" "Fork activation requires the AgentTask to be RUNNING.")
  let _ ← expect ((← reads (getTaskBudget · bootstrap.taskId)).filter (·.state = .open))
    (.control "FORK_TASK_BUDGET_CLOSED" "TaskBudget is not OPEN for fork activation.")
  let incomplete := Failure.control "FORK_ADMISSION_CORRUPT"
    "Fork activation durable graph is incomplete."
  let branch ← expect (← reads (getTaskBranch · bootstrap.branchId)) incomplete
  let branchContext ← expect (← reads (getTaskBranchContext · bootstrap.branchId)) incomplete
  let receipt ← expect (← reads (getTaskForkAdmissionByExecution · bootstrap.executionId)) incomplete
  let execution ← expect (← reads (getExecution · bootstrap.executionId)) incomplete
  ensure (receipt.taskId = bootstrap.taskId ∧ receipt.branchId = bootstrap.branchId ∧
      receipt.executionId = bootstrap.executionId ∧ receipt.forkRequestId = bootstrap.requestId ∧
      receipt.planFingerprint = bootstrap.planFingerprint ∧
      receipt.runtimeSeedFingerprint = bootstrap.runtimeSeedFingerprint ∧
      receipt.createdBy = principal)
    (.control "FORK_ADMISSION_CORRUPT" "ForkAdmission differs from the R8-E bootstrap.")
  ensure (ForkBranchFits bootstrap receipt branch)
    (.control "FORK_BRANCH_CONFLICT" "TaskBranch authority changed before activation.")
  let invalid := Failure.control "FORK_RUNTIME_SEED_INVALID"
    "Fork runtime/bootstrap evidence is invalid."
  let seed ← expect findings.seed invalid
  let overlay ← expect (D.canonicalTranscript branchContext.overlayMessages) invalid
  let transcript ← expect (D.canonicalTranscript bootstrap.context.branchBaseTranscript) invalid
  ensure (branchContext.revision = bootstrap.branchContextRevision ∧
      branchContext.revision = seed.branchContextRevision ∧
      D.value (.arr overlay) = seed.overlayFingerprint)
    (.control "FORK_BRANCH_CONTEXT_CHANGED" "BranchContext changed before fork activation.")
  ensure (OverlayFits D transcript overlay seed)
    (.control "FORK_ACTIVATION_CONTEXT_CONFLICT"
      "Fork bootstrap transcript differs from immutable seed.")
  ensure (ForkExecutionFits D bootstrap receipt seed execution ∧ findings.contextFits)
    (.control "FORK_ACTIVATION_CONTEXT_CONFLICT"
      "Fork Execution/context no longer matches immutable runtime seed.")
  let _ ← orAbort
    (compareAndSetForkActivation bootstrap.executionId bootstrap.taskId bootstrap.branchId
      receipt.sourceExecutionId receipt.sourceCheckpointId activatedAt)
    (.control "FORK_ACTIVATION_CONFLICT" "Fork activation CAS lost.")
  pure (bootstrap.activated seed.remainingActiveBudgetSeconds)

/-! ### Retries -/

/-- The admission, its branch and its source are as they were at the admission. -/
def RetryAuthorityFits (bootstrap : Bootstrap D.Plan) (sourceExecutionId : String)
    (receipt : RetryAdmissionRow D.Plan) (b : BranchRow) (source : ExecutionRow) : Prop :=
  receipt.taskId = bootstrap.taskId ∧ receipt.branchId = bootstrap.branchId ∧
    receipt.executionId = bootstrap.executionId ∧
    receipt.retryRequestId = bootstrap.requestId ∧
    receipt.planFingerprint = bootstrap.planFingerprint ∧
    receipt.sourceExecutionId = sourceExecutionId ∧ b.taskId = bootstrap.taskId ∧
    b.resolutionState = .open ∧ b.currentExecutionId = some bootstrap.executionId ∧
    source.taskId = some bootstrap.taskId ∧ source.branchId = some bootstrap.branchId ∧
    (source.state = .failed ∨ source.state = .timeout)
  deriving Decidable

/-- The retry has not been activated and agrees with its context. -/
def RetryExecutionFits (D : Digests) (context : RuntimeContext) (sourceExecutionId : String)
    (e : ExecutionRow) : Prop :=
  e.state = .running ∧ e.revision = 1 ∧ e.retryOfExecutionId = some sourceExecutionId ∧
    e.currentCheckpointId = none ∧ e.boundClientId = none ∧ e.boundConnectionId = none ∧
    e.remainingActiveBudgetSeconds ≠ none ∧
    e.remainingActiveBudgetSeconds = context.remainingActiveBudgetSeconds ∧
    D.value (orEmptyObject e.request) = D.value (orEmptyObject context.input)
  deriving Decidable

def activateRetryExecution (bootstrap : Bootstrap D.Plan) (principal : String)
    (activatedAt : ℤ) : Tx D ActivationResult := do
  ensure (bootstrap.expectedExecutionRevision = 1)
    (.control "RETRY_ACTIVATION_CONFLICT" "Retry bootstrap is not preactivation revision 1.")
  let mismatch := Failure.control "RETRY_ACTIVATION_CONTEXT_CONFLICT"
    "Retry bootstrap context differs from immutable handoff identity."
  ensure (principal ≠ "" ∧ bootstrap.IsHandoff (D.planText bootstrap.planFingerprint)) mismatch
  let sourceExecutionId ← expect bootstrap.context.retryOfExecutionId mismatch
  let incomplete := Failure.control "RETRY_ADMISSION_CORRUPT"
    "Retry activation durable graph is incomplete."
  let task ← expect (← reads (getTask · bootstrap.taskId)) incomplete
  let budget ← expect (← reads (getTaskBudget · bootstrap.taskId)) incomplete
  let branch ← expect (← reads (getTaskBranch · bootstrap.branchId)) incomplete
  let source ← expect (← reads (getExecution · sourceExecutionId)) incomplete
  let receipt ← expect (← reads (getTaskRetryAdmissionByExecution · bootstrap.executionId))
    incomplete
  let execution ← expect (← reads (getExecution · bootstrap.executionId)) incomplete
  ensure (task.createdBy = principal ∧ receipt.createdBy = principal)
    (.control "RETRY_FOREIGN_PRINCIPAL" "Authenticated principal does not own the retry Task.")
  ensure (task.status.isTerminal = false)
    (.control "RETRY_TASK_TERMINAL" "Terminal AgentTask cannot activate a retry.")
  ensure (budget.state = .open)
    (.control "RETRY_TASK_TERMINAL" "CLOSED TaskBudget cannot activate a retry.")
  ensure (RetryAuthorityFits bootstrap sourceExecutionId receipt branch source)
    (.control "RETRY_ACTIVATION_CONFLICT" "Retry authority changed before activation.")
  let stale := Failure.control "RETRY_ACTIVATION_CONTEXT_CONFLICT"
    "Retry Execution/context no longer matches committed admission."
  ensure (RetryExecutionFits D bootstrap.context source.id execution) stale
  let remaining ← expect execution.remainingActiveBudgetSeconds stale
  let _ ← orAbort
    (compareAndSetRetryActivation bootstrap.executionId bootstrap.taskId bootstrap.branchId
      source.id activatedAt)
    (.control "RETRY_ACTIVATION_CONFLICT" "Retry activation CAS lost.")
  pure (bootstrap.activated remaining)

/-! ### Aggregations -/

def itemsOf : Option Json → Option (List Json)
  | some (.arr items) => some items
  | _ => none

/-- The executions whose results the context was built from. -/
def sourceExecutionIds (D : Digests) (input : Json) : Option (List String) :=
  (itemsOf ((orEmptyObject input).get? "source_results")).bind
    (·.mapM fun item => (item.get? "execution_id").map D.strOf)

/-- A source of an aggregation: the branch of its snapshot, its execution and the result of that. -/
structure AggregateProvenance where
  branchId : String
  execution : ExecutionRow
  result : JsonObject

/-- One source of an aggregation, still as its admission recorded it. -/
def provenSource (db : Db D) (taskId : String) (snapshot : BranchSnapshot)
    (execution : ExecutionSnapshot) (fingerprint : String) : Option AggregateProvenance :=
  match getExecution db execution.executionId with
  | none => none
  | some e =>
    match e.result with
    | none => none
    | some result =>
      if e.taskId = some taskId ∧ e.branchId = some snapshot.branchId ∧
          execution.state = .completed ∧ e.state = .completed ∧
          e.revision = execution.revision ∧ execution.resultFingerprint = fingerprint ∧
          D.value (.obj result) = fingerprint then
        some ⟨snapshot.branchId, e, result⟩
      else none

def provenSources (db : Db D) (taskId : String) :
    List BranchSnapshot → List ExecutionSnapshot → List String → Option (List AggregateProvenance)
  | b :: bs, e :: es, f :: fs =>
    (provenSource db taskId b e f).bind fun s => (provenSources db taskId bs es fs).map (s :: ·)
  | _, _, _ => some []

/-- `_load_aggregate_source_executions_in_uow`, on executions that are locked already. -/
def loadAggregateSourceExecutions (receipt : AggregateAdmissionRow D.Plan) (taskId : String)
    (preloaded : List String) : Tx D (List AggregateProvenance) := do
  let n := receipt.sourceBranchSnapshots.length
  ensure (2 ≤ n ∧ n = receipt.sourceExecutionSnapshots.length ∧
      n = receipt.resultFingerprints.length)
    (.control "AGGREGATE_ADMISSION_CORRUPT"
      "Aggregate provenance arrays are missing or misaligned.")
  let ids := receipt.sourceExecutionSnapshots.map (·.executionId)
  ensure (preloaded ≠ [] → (∀ x ∈ preloaded, x ∈ ids) ∧ ∀ x ∈ ids, x ∈ preloaded)
    (.control "AGGREGATE_ADMISSION_CORRUPT"
      "Prelocked aggregate source set differs from admission provenance.")
  expect (← reads fun db => provenSources db taskId receipt.sourceBranchSnapshots
      receipt.sourceExecutionSnapshots receipt.resultFingerprints)
    (.control "AGGREGATE_PROVENANCE_CHANGED"
      "Aggregate source execution/result differs from immutable admission provenance.")

def expectedAggregateRequest (receipt : AggregateAdmissionRow D.Plan)
    (sources : List AggregateProvenance) : Json :=
  .obj [("aggregate_request_id", .str receipt.aggregateRequestId),
    ("target_branch_id", .str receipt.targetBranchId),
    ("source_results", .arr (sources.map fun s =>
      .obj [("branch_id", .str s.branchId), ("execution_id", .str s.execution.id),
        ("result", .obj s.result)]))]

/-- The admission and its target branch are as they were at the admission. -/
def AggregateAuthorityFits (bootstrap : Bootstrap D.Plan)
    (receipt : AggregateAdmissionRow D.Plan) (b : BranchRow) : Prop :=
  receipt.taskId = bootstrap.taskId ∧ receipt.targetBranchId = bootstrap.branchId ∧
    receipt.executionId = bootstrap.executionId ∧
    receipt.aggregateRequestId = bootstrap.requestId ∧
    receipt.planFingerprint = bootstrap.planFingerprint ∧
    receipt.runtimeSeedFingerprint = bootstrap.runtimeSeedFingerprint ∧
    b.taskId = bootstrap.taskId ∧ b.resolutionState = .open ∧
    b.currentExecutionId = some bootstrap.executionId
  deriving Decidable

def aggregateSeedFingerprint (D : Digests) (e : ExecutionRow) (request : Json) (freshBudget : ℚ) :
    String :=
  D.value (.obj [("context_state", orEmptyObject (e.contextState.getD .null)),
    ("request", request), ("fresh_active_budget_seconds", .float (.finite freshBudget))])

/-- The aggregation has not been activated and agrees with its admission. -/
def AggregateExecutionFits (D : Digests) (bootstrap : Bootstrap D.Plan)
    (receipt : AggregateAdmissionRow D.Plan) (target : ExecutionRow) (request : Json)
    (freshBudget : ℚ) (e : ExecutionRow) : Prop :=
  let seed := aggregateSeedFingerprint D e request freshBudget
  e.IsDormant bootstrap.taskId bootstrap.branchId ∧
    e.HasBase (some target.id) target.currentCheckpointId ∧
    e.parentExecutionId = target.parentExecutionId ∧
    e.remainingActiveBudgetSeconds = some freshBudget ∧
    e.remainingActiveBudgetSeconds = bootstrap.context.remainingActiveBudgetSeconds ∧
    D.value (orEmptyObject e.request) = D.value request ∧
    seed = receipt.runtimeSeedFingerprint ∧
    D.plan (.aggregate ⟨bootstrap.taskId, receipt.targetBranchId, receipt.sourceBranchSnapshots,
      receipt.sourceExecutionSnapshots, receipt.resultFingerprints, seed, receipt.createdBy⟩) =
        receipt.planFingerprint
  deriving Decidable

/-- `activate_aggregate_execution`; `timeoutSeconds` is what `AgentExecutionLimits` makes of the
limits of the execution. -/
def activateAggregateExecution (bootstrap : Bootstrap D.Plan) (principal : String)
    (timeoutSeconds : Option ℚ) (activatedAt : ℤ) : Tx D ActivationResult := do
  ensure (bootstrap.expectedExecutionRevision = 1)
    (.control "AGGREGATE_ACTIVATION_CONFLICT"
      "Aggregate bootstrap is not preactivation revision 1.")
  ensure (principal ≠ "" ∧ bootstrap.IsHandoff bootstrap.runtimeSeedFingerprint ∧
      bootstrap.context.retryOfExecutionId = none ∧ bootstrap.context.baseExecutionId ≠ none)
    (.control "AGGREGATE_ACTIVATION_CONTEXT_CONFLICT"
      "Aggregate bootstrap differs from immutable handoff identity.")
  let sourceIds ← expect (sourceExecutionIds D bootstrap.context.input)
    (.control "AGGREGATE_ACTIVATION_CONTEXT_CONFLICT"
      "Aggregate bootstrap has invalid source-result identity.")
  let missing := Failure.control "AGGREGATE_ADMISSION_CORRUPT"
    "Aggregate activation execution graph is incomplete."
  ensure (← reads fun db => sourceIds.all fun x => (getExecution db x).isSome) missing
  let execution ← expect (← reads (getExecution · bootstrap.executionId)) missing
  let incomplete := Failure.control "AGGREGATE_ADMISSION_CORRUPT"
    "Aggregate activation durable graph is incomplete."
  let task ← expect (← reads (getTask · bootstrap.taskId)) incomplete
  let budget ← expect (← reads (getTaskBudget · bootstrap.taskId)) incomplete
  let branch ← expect (← reads (getTaskBranch · bootstrap.branchId)) incomplete
  let receipt ← expect (← reads (getTaskAggregateAdmissionByExecution · bootstrap.executionId))
    incomplete
  ensure (task.createdBy = principal ∧ receipt.createdBy = principal)
    (.control "AGGREGATE_FOREIGN_PRINCIPAL"
      "Authenticated principal does not own aggregate Task.")
  ensure (task.status.isTerminal = false)
    (.control "AGGREGATE_TASK_TERMINAL" "Terminal AgentTask cannot activate AGGREGATE.")
  ensure (task.status = .running)
    (.control "AGGREGATE_TASK_CONFLICT" "AGGREGATE activation requires RUNNING Task authority.")
  ensure (budget.state = .open)
    (.control "AGGREGATE_TASK_TERMINAL" "CLOSED TaskBudget cannot activate AGGREGATE.")
  ensure (AggregateAuthorityFits bootstrap receipt branch)
    (.control "AGGREGATE_ACTIVATION_CONFLICT" "Aggregate authority changed before activation.")
  let sources ← loadAggregateSourceExecutions receipt bootstrap.taskId sourceIds
  let target ← expect (sources.find? (·.branchId = bootstrap.branchId))
    (.control "AGGREGATE_ADMISSION_CORRUPT" "Aggregate target is absent from source provenance.")
  let freshBudget ← expect timeoutSeconds
    (.control "AGGREGATE_RUNTIME_CONTEXT_INCOMPLETE"
      "Aggregate execution has no valid durable limits.")
  ensure (AggregateExecutionFits D bootstrap receipt target.execution
      (expectedAggregateRequest receipt sources) freshBudget execution)
    (.control "AGGREGATE_ACTIVATION_CONTEXT_CONFLICT"
      "Aggregate execution/context no longer matches admission.")
  let _ ← orAbort
    (compareAndSetAggregateActivation bootstrap.executionId bootstrap.taskId bootstrap.branchId
      target.execution.id target.execution.currentCheckpointId activatedAt)
    (.control "AGGREGATE_ACTIVATION_CONFLICT" "Aggregate activation CAS lost.")
  pure (bootstrap.activated freshBudget)

/-! ### Leases -/

def leaseExecution (executionId ownerInstanceId : String) (now leaseExpiresAt : ℤ) :
    Tx D ExecutionRow :=
  orAbort (acquireExecutionLease executionId ownerInstanceId now leaseExpiresAt)
    (.leaseAuthorityConflict "LEASE_ACQUIRE_REJECTED"
      "Execution is not an unowned RUNNING lease candidate.")

def renewLease (executionId ownerInstanceId : String) (leaseGeneration : ℕ)
    (now newLeaseExpiresAt : ℤ) : Tx D ExecutionRow :=
  orAbort (renewExecutionLease executionId ownerInstanceId leaseGeneration now newLeaseExpiresAt)
    (.leaseAuthorityConflict "LEASE_RENEW_REJECTED"
      "Lease owner/generation/expiry predicate did not match.")

def releaseLease (executionId ownerInstanceId : String) (leaseGeneration : ℕ) :
    Tx D ExecutionRow :=
  orAbort (releaseExecutionLease executionId ownerInstanceId leaseGeneration)
    (.leaseAuthorityConflict "LEASE_RELEASE_REJECTED"
      "Lease owner/generation predicate did not match.")

/-! ### Lawfulness -/

section Outcomes

variable {db db' : Db D} {executionId : String} {e : ExecutionRow}

/-- A running execution that goes on running takes nothing and gives nothing back. -/
theorem commit_of_running {e' : ExecutionRow}
    (hdb : db' = { db with executions := db.executions.put e' })
    (he : getExecution db executionId = some e) (hmoves : e.Moves e')
    (hrunning : e.state = .running) (hrunning' : e'.state = .running) : Commit db db' := by
  subst hdb
  have hsame : e'.running - e.running = 0 := by simp [ExecutionRow.running, hrunning, hrunning']
  exact CommitIf.commit (.of_moved rfl he hmoves (.nil _) (by simp) (.nil _) (by simp) rfl (.nil _)
    (by simp) (fun _ _ hne => absurd hrunning hne) (by simp [hsame]) (by simp) (by simp [hsame]))

/-- An execution is activated: it was dormant, and runs on at revision two. -/
def Activates (executionId : String) (db db' : Db D) : Prop :=
  ∃ taskId branchId e startedAt, getExecution db executionId = some e ∧
    e.IsDormant taskId branchId ∧
    db' = { db with executions := db.executions.put ((activationPatch startedAt).apply 2 e) }

theorem Activates.rows (h : Activates executionId db db') :
    ∃ e e', getExecution db executionId = some e ∧ e.state = .running ∧ e.revision = 1 ∧
      getExecution db' executionId = some e' ∧ e'.state = .running ∧ e'.revision = 2 := by
  obtain ⟨taskId, branchId, e, startedAt, he, hdormant, rfl⟩ := h
  exact ⟨e, _, he, hdormant.2.1, hdormant.1, Table.find?_put_same he rfl, rfl, rfl⟩

theorem Activates.commit (h : Activates executionId db db') :
    Commit db db' := by
  obtain ⟨taskId, branchId, e, startedAt, he, ⟨hrevision, hrunning, -⟩, hdb⟩ := h
  refine commit_of_running hdb he ⟨⟨rfl, rfl, rfl, rfl⟩, .inr ⟨?_, ?_⟩⟩ hrunning rfl
  · rw [hrunning]
    rfl
  · simp [ExecutionPatch.apply, hrevision]

variable {bootstrap : Bootstrap D.Plan} {principal : String} {now : ℤ} {r : ActivationResult}

theorem activateForkExecution_ok {findings : SeedFindings}
    (h : activateForkExecution bootstrap principal findings now db = .ok (r, db')) :
    Activates bootstrap.executionId db db' := by
  simp only [activateForkExecution, steps_ok, compareAndSetForkActivation, updateExecution_bind_ok,
    pure_mk] at h
  obtain ⟨-, -, -, -, -, -, -, -, -, -, -, -, -, -, -, -, -, -, -, -, -, -, -, -, -, -, -, -, -,
    e, he, ⟨hdormant, -⟩, -, hdb⟩ := h
  exact ⟨_, _, e, now, he, hdormant, hdb⟩

theorem activateRetryExecution_ok
    (h : activateRetryExecution bootstrap principal now db = .ok (r, db')) :
    Activates bootstrap.executionId db db' := by
  simp only [activateRetryExecution, steps_ok, compareAndSetRetryActivation,
    updateExecution_bind_ok, pure_mk] at h
  obtain ⟨-, -, -, -, -, -, -, -, -, -, -, -, -, -, -, -, -, -, -, -, -, -, -, e, he,
    ⟨hdormant, -⟩, -, hdb⟩ := h
  exact ⟨_, _, e, now, he, hdormant, hdb⟩

theorem loadAggregateSourceExecutions_bind_ok {α : Type}
    {receipt : AggregateAdmissionRow D.Plan} {taskId : String} {preloaded : List String}
    {g : List AggregateProvenance → Tx D α} {x : α × Db D}
    (h : (loadAggregateSourceExecutions receipt taskId preloaded >>= g) db = .ok x) :
    ∃ sources, g sources db = .ok x := by
  simp only [loadAggregateSourceExecutions, bind_assoc, steps_ok] at h
  obtain ⟨-, -, sources, -, h⟩ := h
  exact ⟨sources, h⟩

theorem activateAggregateExecution_ok {timeoutSeconds : Option ℚ}
    (h : activateAggregateExecution bootstrap principal timeoutSeconds now db = .ok (r, db')) :
    Activates bootstrap.executionId db db' := by
  simp only [activateAggregateExecution, steps_ok] at h
  obtain ⟨-, -, ids, -, -, execution, -, -, -, -, -, -, -, receipt, -, -, -, -, -, -, h⟩ := h
  obtain ⟨sources, h⟩ := loadAggregateSourceExecutions_bind_ok h
  simp only [steps_ok, compareAndSetAggregateActivation, updateExecution_bind_ok, pure_mk] at h
  obtain ⟨-, -, -, -, -, e, he, ⟨hdormant, -⟩, -, hdb⟩ := h
  exact ⟨_, _, e, now, he, hdormant, hdb⟩

/-- **A lease moves no revision and no state.** -/
theorem commit_of_lease {p : ExecutionPatch}
    (hdb : db' = { db with executions := db.executions.put (p.apply e.revision e) })
    (he : getExecution db executionId = some e) (hrunning : e.state = .running)
    (hstate : p.state = none) (hresult : p.result = none)
    (hcheckpoint : p.currentCheckpointId = none) : Commit db db' := by
  refine commit_of_running hdb he ⟨⟨rfl, rfl, rfl, rfl⟩, .inl ?_⟩ hrunning ?_
  · simp [ExecutionPatch.apply, hstate, hresult, hcheckpoint]
  · simpa [ExecutionPatch.apply, hstate] using hrunning

variable {owner : String} {expiresAt : ℤ}

theorem leaseExecution_commit (h : leaseExecution executionId owner now expiresAt db = .ok (e,
      db')) :
    Commit db db' := by
  simp only [leaseExecution, acquireExecutionLease, orAbort_ok, steps_ok, updateExecution_some] at h
  obtain ⟨-, e0, he, ⟨hrunning, -⟩, -, hdb⟩ := h
  exact commit_of_lease hdb he hrunning rfl rfl rfl

variable {generation : ℕ}

theorem renewLease_commit
    (h : renewLease executionId owner generation now expiresAt db = .ok (e, db')) :
    Commit db db' := by
  simp only [renewLease, renewExecutionLease, orAbort_ok, steps_ok, updateExecution_some] at h
  obtain ⟨-, e0, he, ⟨hrunning, -⟩, -, hdb⟩ := h
  exact commit_of_lease hdb he hrunning rfl rfl rfl

theorem releaseLease_commit (h : releaseLease executionId owner generation db = .ok (e, db')) :
    Commit db db' := by
  simp only [releaseLease, releaseExecutionLease, orAbort_ok, updateExecution_some] at h
  obtain ⟨e0, he, ⟨hrunning, -⟩, -, hdb⟩ := h
  exact commit_of_lease hdb he hrunning rfl rfl rfl

end Outcomes

end AssistantRuntime.Persistence

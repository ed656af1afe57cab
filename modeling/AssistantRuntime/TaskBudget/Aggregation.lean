/-
**Aggregations.**

An aggregation admits one execution at the head of a target branch; its request carries the results
of the completed heads of all source branches.  It never adopts a branch.

`aggregateBranches` is one attempt of the retry loop of its method; the id of the new execution is
drawn before its first attempt.
-/

import AssistantRuntime.TaskBudget.Admission

namespace AssistantRuntime.TaskBudget

open Relational Uow Agent List

variable {D : Digests}

/-! ### Operations -/

structure AggregateAdmission (π : Type) where
  taskId : String
  aggregateRequestId : String
  planFingerprint : π
  runtimeSeedFingerprint : String
  targetBranchId : String
  branchRevision : ℕ
  executionId : String
  executionRevision : ℕ
  sourceBranchIds : List String
  taskRevision : ℕ
  taskBudgetRevision : ℕ

/-- What a caller of `aggregate_branches` asks for. -/
structure AggregateRequest where
  taskId : String
  aggregateRequestId : String
  targetBranchId : String
  sourceBranchIds : List String
  targetUserId : String

/-- The target is one of at least two different sources. -/
def AggregateRequest.WellFormed (r : AggregateRequest) : Prop :=
  r.taskId ≠ "" ∧ r.aggregateRequestId ≠ "" ∧ r.targetBranchId ≠ "" ∧ r.targetUserId ≠ "" ∧
    2 ≤ r.sourceBranchIds.length ∧ r.sourceBranchIds.Nodup ∧ r.targetBranchId ∈ r.sourceBranchIds
  deriving Decidable

/-- A branch among those listed of a task. -/
def branchOf (branches : List BranchRow) (branchId : String) : Option BranchRow :=
  branches.find? (·.branchId = branchId)

/-- The branches with the given ids, in that order; none where one is missing. -/
def selectBranches (branches : List BranchRow) : List String → Option (List BranchRow)
  | [] => some []
  | branchId :: branchIds =>
    match branchOf branches branchId with
    | none => none
    | some b => (selectBranches branches branchIds).map (b :: ·)

def aggregateInput (message : String) : Failure :=
  .aggregateAdmission "AGGREGATE_INPUT_CONFLICT" message

/-- An aggregation whose receipt is stored. -/
def replayAggregateAdmission (request : AggregateRequest) (task : Option TaskRow)
    (budget : Option BudgetRow) (branches : List BranchRow)
    (receipt : AggregateAdmissionRow D.Plan) : Tx D (AggregateAdmission D.Plan) := do
  let committedIds := receipt.sourceBranchSnapshots.map (·.branchId)
  ensure (receipt.targetBranchId = request.targetBranchId ∧
      committedIds = request.sourceBranchIds ∧ receipt.createdBy = request.targetUserId)
    (.aggregateAdmission "AGGREGATE_REQUEST_CONFLICT"
      "aggregate_request_id already committed with different semantics.")
  let incomplete := aggregateInput "Committed aggregate durable graph is incomplete."
  let execution ← expect (← reads (getExecution · receipt.executionId)) incomplete
  let target ← expect (branchOf branches receipt.targetBranchId) incomplete
  ensure (execution.taskId = some request.taskId) incomplete
  let task ← expect task .attributeError
  let budget ← expect budget .attributeError
  pure ⟨request.taskId, request.aggregateRequestId, receipt.planFingerprint,
    receipt.runtimeSeedFingerprint, receipt.targetBranchId, target.revision, receipt.executionId,
    execution.revision, committedIds, task.revision, budget.revision⟩

/-- A source of an aggregation: a branch, the execution at its head and the result of that. -/
structure AggregateSource where
  branch : BranchRow
  execution : ExecutionRow
  result : JsonObject

/-- The sources of an aggregation; none where a head is not a completed execution of its branch. -/
def completedSources (db : Db D) (taskId : String) :
    List BranchRow → Option (List AggregateSource)
  | [] => some []
  | branch :: branches =>
    match branch.currentExecutionId.bind (getExecution db) with
    | none => none
    | some e =>
      match e.result with
      | none => none
      | some result =>
        if e.taskId = some taskId ∧ e.branchId = some branch.branchId ∧ e.state = .completed then
          (completedSources db taskId branches).map (⟨branch, e, result⟩ :: ·)
        else none

/-- The context of the target head; without limits of its own it is the seed of its fork. -/
def aggregateContextState (db : Db D) (target : ExecutionRow) : Json :=
  let own := orEmptyObject (target.contextState.getD .null)
  if (own.get? "limits").isSome then own
  else
    (((getTaskForkAdmissionByExecution db target.id).bind
      fun r => seedContextState r.runtimeSeed)).getD own

def aggregateRequestJson (request : AggregateRequest) (sources : List AggregateSource) : Json :=
  .obj [("aggregate_request_id", .str request.aggregateRequestId),
    ("target_branch_id", .str request.targetBranchId),
    ("source_results", .arr (sources.map fun s =>
      .obj [("branch_id", .str s.branch.branchId), ("execution_id", .str s.execution.id),
        ("result", .obj s.result)]))]

/-- What the fingerprint of an aggregation is taken of. -/
def aggregatePlan (D : Digests) (request : AggregateRequest) (sources : List AggregateSource)
    (seedFingerprint : String) : AggregatePlanBody where
  taskId := request.taskId
  targetBranchId := request.targetBranchId
  sourceBranchSnapshots := sources.map fun s =>
    ⟨s.branch.branchId, s.branch.revision, s.branch.resolutionState, s.branch.currentExecutionId⟩
  sourceExecutionSnapshots := sources.map fun s =>
    ⟨s.execution.id, s.execution.revision, s.execution.state, D.value (.obj s.result)⟩
  resultFingerprints := sources.map fun s => D.value (.obj s.result)
  runtimeSeedFingerprint := seedFingerprint
  createdBy := request.targetUserId

def aggregateReceipt (aggregateRequestId : String) (plan : AggregatePlanBody)
    (planFingerprint : D.Plan) (executionId : String) : AggregateAdmissionRow D.Plan :=
  { plan with aggregateRequestId, planFingerprint, executionId }

def aggregateExecution (request : AggregateRequest) (task : TaskRow) (target : ExecutionRow)
    (executionId : String) (requestJson contextState : Json) (freshBudget : ℚ) (admittedAt : ℤ) :
    ExecutionRow where
  id := executionId
  sessionId := task.sessionId
  agentId := target.agentId
  taskId := some request.taskId
  branchId := some request.targetBranchId
  parentExecutionId := target.parentExecutionId
  baseExecutionId := some target.id
  baseCheckpointId := target.currentCheckpointId
  correlationId := target.correlationId
  state := .running
  revision := 1
  remainingActiveBudgetSeconds := some freshBudget
  request := requestJson
  contextState := some contextState
  transcript := some (target.transcript.getD [])
  startedAt := some admittedAt

/-- The checks of a new aggregation, up to its budget: who asks, and what the sources are. -/
def requireAggregateSources (request : AggregateRequest) (task : TaskRow) (budget : BudgetRow)
    (branches : List BranchRow) : Tx D (List AggregateSource) := do
  ensure (task.createdBy = request.targetUserId)
    (aggregateInput "Authenticated principal does not own the Task.")
  ensure (task.status.isTerminal = false ∧ budget.state = .open)
    (.aggregateAdmission "TASK_ALREADY_RESOLVED" "Terminal Task authority forbids AGGREGATE.")
  let selected ← expect (selectBranches branches request.sourceBranchIds)
    (aggregateInput "An aggregate source branch is missing.")
  ensure (∀ b ∈ selected, b.resolutionState = .open ∧ b.currentExecutionId ≠ none)
    (aggregateInput "Every aggregate source must be an OPEN branch with a current execution.")
  let sources ← expect (← reads (completedSources · request.taskId selected))
    (aggregateInput "Every aggregate source head must have a durable COMPLETED result.")
  ensure budget.HasExecutionCapacity
    (.aggregateAdmission "AGGREGATE_BUDGET_EXCEEDED"
      "TaskBudget execution capacity is exhausted.")
  pure sources

/-- `aggregate_branches`.  The incarnation of the budget is fixed by the first attempt that sees
one; `timeoutSeconds` is what `AgentExecutionLimits` makes of the limits of the target. -/
def aggregateBranches (request : AggregateRequest) (executionId : String) (admittedAt : ℤ)
    (expectedGeneration : Option ℤ) (timeoutSeconds : Option ℚ) :
    Tx D (AggregateAdmission D.Plan) := do
  ensure request.WellFormed
    (aggregateInput "AGGREGATE requires a target included in at least two unique ordered sources.")
  let task ← reads (getTask · request.taskId)
  let budget ← reads (getTaskBudget · request.taskId)
  ensure (∀ b ∈ budget, ∀ g ∈ expectedGeneration, b.incarnationGeneration = g)
    (.aggregateAdmission "AGGREGATE_TASK_BUDGET_INCARCATION_CHANGED"
      "TaskBudget incarnation changed during AGGREGATE.")
  let branches ← reads (listTaskBranches · request.taskId)
  match ← reads (getTaskAggregateAdmission · request.taskId request.aggregateRequestId) with
  | some receipt => replayAggregateAdmission request task budget branches receipt
  | none =>
    let task ← expect task (aggregateInput "Task or TaskBudget is missing.")
    let budget ← expect budget (aggregateInput "Task or TaskBudget is missing.")
    let generation := some budget.incarnationGeneration
    let sources ← requireAggregateSources request task budget branches
    let source ← expect (sources.find? (·.branch.branchId = request.targetBranchId)) .attributeError
    let target := source.execution
    let delegated := target.parentExecutionId.isSome
    ensure (delegated → budget.activeParallelAgents < budget.limits.maxParallelAgents)
      (.aggregateAdmission "AGGREGATE_BUDGET_EXCEEDED"
        "TaskBudget parallel-Agent capacity is exhausted.")
    let contextState ← reads (aggregateContextState · target)
    let noSeed := aggregateInput "Target branch has no valid durable runtime seed."
    ensure ((contextState.get? "limits").isSome) noSeed
    let freshBudget ← expect timeoutSeconds noSeed
    let requestJson := aggregateRequestJson request sources
    let seedFingerprint := D.value (.obj [("context_state", contextState),
      ("request", requestJson), ("fresh_active_budget_seconds", .float (.finite freshBudget))])
    let plan := aggregatePlan D request sources seedFingerprint
    let planFingerprint := D.plan (.aggregate plan)
    let execution ← normalizeExecutionStoreValues
      (aggregateExecution request task target executionId requestJson contextState freshBudget
        admittedAt)
    let updatedTask ← orAbort
      (compareAndSetTask request.taskId task.revision runningPatch) .lostRace
    let updatedBudget ← orAbort
      (compareAndSetTaskBudget request.taskId budget.revision (admitExecution budget delegated)
        generation) .lostRace
    saveExecution execution
    let updatedBranch ← orAbort
      (compareAndSetTaskBranch request.targetBranchId source.branch.revision
        (headPatch executionId)) .lostRace
    saveTaskBudgetReservation request.taskId .newExecution executionId
      (D.reservation .newExecution executionId
        (.aggregateExecution request.aggregateRequestId executionId planFingerprint)) generation
    saveTaskAggregateAdmission
      (aggregateReceipt request.aggregateRequestId plan planFingerprint executionId)
    pure ⟨request.taskId, request.aggregateRequestId, planFingerprint, seedFingerprint,
      request.targetBranchId, updatedBranch.revision, executionId, 1, request.sourceBranchIds,
      updatedTask.revision, updatedBudget.revision⟩

/-! ### What an attempt did -/

section Outcomes

variable {db db' : Db D} {executionId : String} {now : ℤ}
  {request : AggregateRequest} {branches : List BranchRow} {a : AggregateAdmission D.Plan}

theorem replayAggregateAdmission_ok {task : Option TaskRow} {budget : Option BudgetRow}
    {receipt : AggregateAdmissionRow D.Plan}
    (h : replayAggregateAdmission request task budget branches receipt db = .ok (a, db')) :
    db' = db ∧ receipt.targetBranchId = request.targetBranchId ∧
      receipt.sourceBranchSnapshots.map (·.branchId) = request.sourceBranchIds ∧
      receipt.createdBy = request.targetUserId ∧ a.executionId = receipt.executionId := by
  simp only [replayAggregateAdmission, steps_ok, pure_ok, Prod.mk.injEq] at h
  obtain ⟨⟨htarget, hids, huser⟩, _, _, _, _, _, _, _, _, _, rfl, rfl⟩ := h
  exact ⟨rfl, htarget, hids, huser, rfl⟩

variable {selected : List BranchRow}

theorem selectBranches_mem {branchIds : List String}
    (h : selectBranches branches branchIds = some selected) :
    (∀ b ∈ selected, b ∈ branches) ∧ selected.map (·.branchId) = branchIds := by
  induction branchIds generalizing selected with
  | nil =>
    cases h
    simp
  | cons branchId branchIds ih =>
    rw [selectBranches] at h
    rcases hb : branchOf branches branchId with _ | b
    · simp [hb] at h
    · simp only [hb, Option.map_eq_some_iff] at h
      obtain ⟨rest, hrest, rfl⟩ := h
      obtain ⟨hmem, hids⟩ := ih hrest
      have hid : b.branchId = branchId := by simpa using find?_some hb
      refine ⟨?_, by simp [hid, hids]⟩
      intro b' hb'
      rcases mem_cons.1 hb' with rfl | hb'
      · exact mem_of_find?_eq_some hb
      · exact hmem b' hb'

/-- The source is the completed execution at the head of its branch. -/
def AggregateSource.IsHead (s : AggregateSource) (db : Db D) (taskId : String) : Prop :=
  s.branch.currentExecutionId.bind (getExecution db) = some s.execution ∧
    s.execution.taskId = some taskId ∧ s.execution.branchId = some s.branch.branchId ∧
    s.execution.state = .completed

variable {sources : List AggregateSource} {taskId : String}

theorem completedSources_heads (h : completedSources db taskId selected = some sources) :
    sources.map (·.branch) = selected ∧ ∀ s ∈ sources, s.IsHead db taskId := by
  induction selected generalizing sources with
  | nil =>
    cases h
    exact ⟨rfl, by simp⟩
  | cons branch branches ih =>
    rw [completedSources] at h
    rcases he : branch.currentExecutionId.bind (getExecution db) with _ | e
    · simp [he] at h
    rcases hr : e.result with _ | result
    · simp [he, hr] at h
    simp only [he, hr] at h
    split at h
    · next hhead =>
        obtain ⟨rest, hrest, rfl⟩ := Option.map_eq_some_iff.1 h
        obtain ⟨hbranches, hheads⟩ := ih hrest
        refine ⟨by simp [hbranches], ?_⟩
        intro s hs
        rcases mem_cons.1 hs with rfl | hs
        · exact ⟨he, hhead⟩
        · exact hheads s hs
    · cases h

theorem requireAggregateSources_ok {task : TaskRow} {budget : BudgetRow}
    (h : requireAggregateSources request task budget branches db = .ok (sources, db')) :
    db' = db ∧ task.status.isTerminal = false ∧ budget.state = .open ∧
      (∀ s ∈ sources, s.branch ∈ branches ∧ s.branch.resolutionState = .open ∧
        s.IsHead db request.taskId) ∧
      sources.map (·.branch.branchId) = request.sourceBranchIds := by
  simp only [requireAggregateSources, steps_ok, pure_ok, Prod.mk.injEq] at h
  obtain ⟨-, ⟨hlive, hopen⟩, selected, hselected, hheads, sources, hsources, -, rfl, rfl⟩ := h
  obtain ⟨hmem, hids⟩ := selectBranches_mem hselected
  obtain ⟨hbranches, hcompleted⟩ := completedSources_heads hsources
  refine ⟨rfl, hlive, hopen, ?_, ?_⟩
  · intro s hs
    have hs' : s.branch ∈ selected := hbranches ▸ mem_map_of_mem hs
    exact ⟨hmem _ hs', (hheads _ hs').1, hcompleted s hs⟩
  · rw [← hids, ← hbranches, map_map]
    rfl

variable {expectedGeneration : Option ℤ} {timeoutSeconds : Option ℚ}

variable (h : aggregateBranches request executionId now expectedGeneration timeoutSeconds db =
  .ok (a, db'))

include h

/-- **An aggregation replays its receipt, or admits one execution at the head of its target.** -/
theorem aggregateBranches_ok :
    (∃ receipt, getTaskAggregateAdmission db request.taskId request.aggregateRequestId =
        some receipt ∧
        replayAggregateAdmission request (getTask db request.taskId)
          (getTaskBudget db request.taskId) (listTaskBranches db request.taskId) receipt db =
            .ok (a, db')) ∨
      (∃ e t b b' br sources seedFingerprint executions reservations aggregateAdmissions,
        getTask db request.taskId = some t ∧ t.status.isTerminal = false ∧
        getTaskBudget db request.taskId = some b ∧ b.state = .open ∧
        SlotTaken b b' e.parentExecutionId.isSome 0 ∧
        getTaskBranch db request.targetBranchId = some br ∧ br.resolutionState = .open ∧
        br.taskId = request.taskId ∧
        (∃ source ∈ sources, source.branch = br ∧ source.IsHead db request.taskId ∧
          e.parentExecutionId = source.execution.parentExecutionId) ∧
        e.id = executionId ∧ e.state = .running ∧ e.revision = 1 ∧
        e.taskId = some request.taskId ∧ e.branchId = some request.targetBranchId ∧
        db.executions.insert? e = some executions ∧
        sources.map (·.branch.branchId) = request.sourceBranchIds ∧
        db.aggregateAdmissions.insert? (aggregateReceipt request.aggregateRequestId
          (aggregatePlan D request sources seedFingerprint)
          (D.plan (.aggregate (aggregatePlan D request sources seedFingerprint))) executionId) =
            some aggregateAdmissions ∧
        a.executionId = executionId ∧
        db' = { db with
          tasks := db.tasks.put (runningPatch.apply t.revision t)
          budgets := db.budgets.put b', executions
          branches := db.branches.put ((headPatch executionId).apply br.revision br)
          reservations, aggregateAdmissions }) := by
  simp only [aggregateBranches, steps_ok] at h
  obtain ⟨-, -, h⟩ := h
  rcases hreceipt : getTaskAggregateAdmission db request.taskId request.aggregateRequestId
    with _ | receipt
  · rw [hreceipt] at h
    right
    simp only [steps_ok] at h
    obtain ⟨t, ht, b, hb, h⟩ := h
    rw [bind_ok] at h
    obtain ⟨sources, db1, hsources, h⟩ := h
    obtain ⟨rfl, hlive, hopen, hheads, hids⟩ := requireAggregateSources_ok hsources
    simp only [steps_ok, normalizeExecutionStoreValues_bind_ok, compareAndSetTask_bind_ok,
      compareAndSetTaskBudget_bind_ok, saveExecution, insertRow_bind_ok,
      compareAndSetTaskBranch_bind_ok, saveTaskBudgetReservation_bind_ok,
      saveTaskAggregateAdmission, bind_assoc, pure_mk] at h
    obtain ⟨source, hsource, -, -, freshBudget, -, -, t', ht', -, b1, hb', -, hchecks, executions,
      hexecutions, br, hbr', -, _, _, _, reservations, -, -, aggregates, haggregates, rfl, rfl⟩ := h
    have htask : t' = t := Option.mem_unique ht' ht
    have hbudget : b1 = b := Option.mem_unique hb' hb
    have hmem := mem_of_find?_eq_some hsource
    obtain ⟨hlisted, hbropen, hhead⟩ := hheads _ hmem
    have hid : source.branch.branchId = request.targetBranchId := by
      simpa using find?_some hsource
    have hbr := Table.find?_key (mem_filter.1 hlisted).1
    rw [hid] at hbr
    have hbranch : br = source.branch := Option.mem_unique hbr' hbr
    subst htask hbudget hbranch
    have hslot := admitExecution_slotTaken hchecks
    exact ⟨aggregateExecution request t' source.execution executionId _ _ freshBudget now, t', b1, _,
      source.branch, sources, _, executions, reservations, aggregates, ht, hlive, hb, hopen, hslot,
      hbr, hbropen, by simpa using (mem_filter.1 hlisted).2, ⟨source, hmem, rfl, hhead, rfl⟩, rfl,
      rfl, rfl, rfl, rfl, hexecutions, hids, haggregates, rfl, rfl⟩
  · rw [hreceipt] at h
    exact .inl ⟨receipt, rfl, h⟩

theorem aggregateBranches_commit : Commit db db' := by
  obtain ⟨receipt, -, hreplay⟩ | ⟨e, t, b, b', br, sources, seed, executions, reservations,
    aggregates, ht, hlive, hb, hopen, hslot, hbr, hbropen, -, -, -, hstate, hrevision, htask, -,
    hexecutions, -, -, -, rfl⟩ := aggregateBranches_ok h
  · obtain ⟨rfl, -⟩ := replayAggregateAdmission_ok hreplay
    exact .refl _
  · exact hslot.commit hexecutions hb hopen (countDelta_head request.taskId) hstate hrevision htask
      (.of_put ht rfl) (lawfulTask_running hlive) rfl (.of_put hbr rfl)
      (lawfulBranch_head hbropen) rfl

end Outcomes

end AssistantRuntime.TaskBudget

/-
**Retries.**

A retry admits one execution at the head of the branch of a failed one.  A request whose receipt is
already stored is answered from the receipt.

`consumeRetryPlan` is one attempt of the retry loop of its method; the id of the new execution is
drawn before its first attempt.
-/

import AssistantRuntime.TaskBudget.Admission

namespace AssistantRuntime.TaskBudget

open Relational Uow Agent

variable {D : Digests}

/-! ### Operations -/

structure RetryAdmission (π : Type) where
  taskId : String
  retryRequestId : String
  planFingerprint : π
  branchId : String
  branchRevision : ℕ
  sourceExecutionId : String
  sourceCheckpointId : Option String
  executionId : String
  executionRevision : ℕ
  taskRevision : ℕ
  taskBudgetRevision : ℕ

def ReceiptMatchesRetry (receipt : RetryAdmissionRow D.Plan) (plan : RetryPlan D.Plan) : Prop :=
  receipt.planFingerprint = plan.planFingerprint ∧ receipt.branchId = plan.branchId ∧
    receipt.sourceExecutionId = plan.sourceExecutionId ∧
    receipt.sourceCheckpointId = plan.sourceCheckpointId ∧ receipt.createdBy = plan.targetUserId
  deriving Decidable

def retryBaseCheckpointId (plan : RetryPlan D.Plan) : Option String :=
  plan.sourceCheckpointId.or plan.baseCheckpointId

def replayRetryAdmission (plan : RetryPlan D.Plan) (receipt : RetryAdmissionRow D.Plan) :
    Tx D (RetryAdmission D.Plan) := do
  ensure (ReceiptMatchesRetry receipt plan)
    (.retryConsume .conflict "RETRY_REQUEST_CONFLICT"
      "retry_request_id already committed with different semantics.")
  let corrupt : Failure := .retryConsume .conflict "RETRY_ADMISSION_CORRUPT"
    "Committed RetryAdmission no longer matches durable outputs."
  let task ← expect (← reads (getTask · plan.taskId)) corrupt
  let budget ← expect (← reads (getTaskBudget · plan.taskId)) corrupt
  let branch ← expect (← reads (getTaskBranch · receipt.branchId)) corrupt
  let source ← expect (← reads (getExecution · receipt.sourceExecutionId)) corrupt
  let execution ← expect (← reads (getExecution · receipt.executionId)) corrupt
  let _ ← expect (← reads (getTaskBudgetReservation · plan.taskId .newExecution
    receipt.executionId (some plan.expectedTaskBudgetIncarnationGeneration))) corrupt
  ensure (budget.incarnationGeneration = plan.expectedTaskBudgetIncarnationGeneration ∧
      branch.taskId = plan.taskId ∧ source.taskId = some plan.taskId ∧
      source.branchId = some plan.branchId ∧ execution.taskId = some plan.taskId ∧
      execution.branchId = some plan.branchId ∧
      execution.retryOfExecutionId = some plan.sourceExecutionId ∧
      execution.parentExecutionId = plan.parentExecutionId ∧
      execution.baseExecutionId = plan.baseExecutionId ∧
      execution.baseCheckpointId = retryBaseCheckpointId plan ∧
      (plan.sourceCheckpointId ≠ none →
        some (D.value (.arr (execution.transcript.getD []))) =
          plan.sourceCheckpointTranscriptFingerprint) ∧
      D.value (orEmptyObject execution.request) = plan.requestFingerprint) corrupt
  pure ⟨plan.taskId, plan.retryRequestId, plan.planFingerprint, receipt.branchId, branch.revision,
    receipt.sourceExecutionId, receipt.sourceCheckpointId, receipt.executionId,
    execution.revision, task.revision, budget.revision⟩

def probeRetryReplay (plan : RetryPlan D.Plan) : Tx D (Option (RetryAdmission D.Plan)) := do
  match ← reads (getTaskRetryAdmission · plan.taskId plan.retryRequestId) with
  | none => pure none
  | some receipt => some <$> replayRetryAdmission plan receipt

def retriedExecution (plan : RetryPlan D.Plan) (snapshot : RetryRevalidationSnapshot)
    (executionId : String) (startedAt : ℤ) : ExecutionRow where
  id := executionId
  sessionId := plan.sessionId
  agentId := plan.sourceAgentId
  taskId := some plan.taskId
  branchId := some plan.branchId
  parentExecutionId := plan.parentExecutionId
  retryOfExecutionId := some plan.sourceExecutionId
  baseExecutionId := plan.baseExecutionId
  baseCheckpointId := retryBaseCheckpointId plan
  correlationId := plan.correlationId
  state := .running
  revision := 1
  remainingActiveBudgetSeconds := some plan.freshActiveBudgetSeconds
  request := orEmptyObject snapshot.execution.request
  contextState := some snapshot.runtimeContextState
  transcript := some <|
    if snapshot.checkpoint.isSome then snapshot.checkpointTranscript.getD []
    else snapshot.execution.transcript.getD []
  startedAt := some startedAt

def retryReceipt (plan : RetryPlan D.Plan) (executionId : String) : RetryAdmissionRow D.Plan :=
  { plan with executionId, createdBy := plan.targetUserId }

def consumeRetryPlan (plan : RetryPlan D.Plan) (executionId : String) (startedAt : ℤ)
    (evidence : PlanEvidence) : Tx D (RetryAdmission D.Plan) := do
  ensure (D.plan (.retry plan.toRetryPlanBody) = plan.planFingerprint)
    (.retryConsume .rejected "RETRY_PLAN_FINGERPRINT_INVALID"
      "RetryPlan semantic fingerprint no longer matches its payload.")
  match ← reads (getTaskRetryAdmission · plan.taskId plan.retryRequestId) with
  | some receipt => replayRetryAdmission plan receipt
  | none =>
    let snapshot ← revalidateRetryPlan plan evidence
    let generation := plan.expectedTaskBudgetIncarnationGeneration
    let execution ← normalizeExecutionStoreValues
      (retriedExecution plan snapshot executionId startedAt)
    let executionFingerprint := D.reservation .newExecution executionId
      (.retryExecution plan.retryRequestId plan.planFingerprint plan.sourceExecutionId executionId
        execution snapshot.delegated)
    let updatedTask ← orAbort
      (compareAndSetTask plan.taskId plan.expectedTaskRevision runningPatch) .lostRace
    let updatedBudget ← orAbort
      (compareAndSetTaskBudget plan.taskId plan.expectedTaskBudgetRevision
        (admitExecution snapshot.budget snapshot.delegated) (some generation)) .lostRace
    saveExecution execution
    let branch ← orAbort
      (compareAndSetTaskBranch plan.branchId plan.expectedBranchRevision
        (headPatch executionId)) .lostRace
    saveTaskBudgetReservation plan.taskId .newExecution executionId executionFingerprint
      (some generation)
    saveTaskRetryAdmission (retryReceipt plan executionId)
    pure ⟨plan.taskId, plan.retryRequestId, plan.planFingerprint, plan.branchId, branch.revision,
      plan.sourceExecutionId, plan.sourceCheckpointId, executionId, 1, updatedTask.revision,
      updatedBudget.revision⟩

/-! ### What an attempt did -/

section Outcomes

variable {db db' : Db D} {executionId : String} {now : ℤ} {evidence : PlanEvidence}
  {plan : RetryPlan D.Plan} {a : RetryAdmission D.Plan}

theorem replayRetryAdmission_ok {receipt : RetryAdmissionRow D.Plan}
    (h : replayRetryAdmission plan receipt db = .ok (a, db')) :
    db' = db ∧ ReceiptMatchesRetry receipt plan ∧ a.executionId = receipt.executionId := by
  simp only [replayRetryAdmission, steps_ok, pure_ok, Prod.mk.injEq] at h
  obtain ⟨hmatch, _, _, _, _, _, _, _, _, _, _, _, _, _, rfl, rfl⟩ := h
  exact ⟨rfl, hmatch, rfl⟩

variable (h : consumeRetryPlan plan executionId now evidence db = .ok (a, db'))

include h

/-- **A retry replays its receipt, or admits one execution at the head of its branch.** -/
theorem consumeRetryPlan_ok :
    D.plan (.retry plan.toRetryPlanBody) = plan.planFingerprint ∧
    ((∃ receipt, getTaskRetryAdmission db plan.taskId plan.retryRequestId = some receipt ∧
        replayRetryAdmission plan receipt db = .ok (a, db')) ∨
      (∃ s t b b' br executions reservations retryAdmissions,
        getTask db plan.taskId = some t ∧ t.status.isTerminal = false ∧
        getTaskBudget db plan.taskId = some b ∧ b.state = .open ∧
        SlotTaken b b' plan.parentExecutionId.isSome 0 ∧
        getTaskBranch db plan.branchId = some br ∧
        br.IsAt plan.taskId plan.expectedBranchRevision plan.sourceExecutionId ∧
        getExecution db plan.sourceExecutionId = some s.execution ∧ plan.Names s.execution ∧
        db.executions.insert? (retriedExecution plan s executionId now) = some executions ∧
        db.retryAdmissions.insert? (retryReceipt plan executionId) = some retryAdmissions ∧
        a.executionId = executionId ∧
        db' = { db with
          tasks := db.tasks.put (runningPatch.apply plan.expectedTaskRevision t)
          budgets := db.budgets.put b', executions
          branches := db.branches.put
            ((headPatch executionId).apply plan.expectedBranchRevision br)
          reservations, retryAdmissions })) := by
  simp only [consumeRetryPlan, steps_ok] at h
  obtain ⟨hplan, h⟩ := h
  refine ⟨hplan, ?_⟩
  rcases hreceipt : getTaskRetryAdmission db plan.taskId plan.retryRequestId with _ | receipt
  · rw [hreceipt] at h
    right
    rw [bind_ok] at h
    obtain ⟨s, db1, hsnapshot, h⟩ := h
    obtain ⟨rfl, ht, hlive, hb, hopen, hbr, hat, hdelegated, hsource, hnames⟩ :=
      revalidateRetryPlan_ok hsnapshot
    simp only [normalizeExecutionStoreValues_bind_ok, compareAndSetTask_bind_ok,
      compareAndSetTaskBudget_bind_ok, saveExecution, insertRow_bind_ok,
      compareAndSetTaskBranch_bind_ok, saveTaskBudgetReservation_bind_ok, saveTaskRetryAdmission,
      bind_assoc, steps_ok, pure_mk] at h
    obtain ⟨-, t, ht', -, b, hb', -, hchecks, executions, hexecutions, br, hbr', -, _, _, _,
      reservations, -, -, retries, hretries, rfl, rfl⟩ := h
    have htask : t = s.task := Option.mem_unique ht' ht
    have hbudget : b = s.budget := Option.mem_unique hb' hb
    have hbranch : br = s.branch := Option.mem_unique hbr' hbr
    subst htask hbudget hbranch
    have hslot := admitExecution_slotTaken hchecks
    rw [hdelegated] at hslot
    exact ⟨s, s.task, s.budget, _, s.branch, executions, reservations, retries, ht, hlive, hb,
      hopen, hslot, hbr, hat, hsource, hnames, hexecutions, hretries, rfl, by rw [hdelegated]⟩
  · rw [hreceipt] at h
    exact .inl ⟨receipt, rfl, h⟩

theorem consumeRetryPlan_commit : Commit db db' := by
  obtain ⟨-, ⟨receipt, -, hreplay⟩ | ⟨s, t, b, b', br, executions, reservations, retries, ht, hlive,
    hb, hopen, hslot, hbr, hat, -, -, hexecutions, -, -, rfl⟩⟩ := consumeRetryPlan_ok h
  · obtain ⟨rfl, -⟩ := replayRetryAdmission_ok hreplay
    exact .refl _
  · exact hslot.commit hexecutions hb hopen (countDelta_head plan.taskId) rfl rfl rfl
      (.of_put ht rfl) (lawfulTask_running hlive) rfl (.of_put hbr rfl)
      (lawfulBranch_head hat.2.2.1) rfl

omit h

theorem probeRetryReplay_ok {o : Option (RetryAdmission D.Plan)}
    (h : probeRetryReplay plan db = .ok (o, db')) :
    db' = db ∧ ∀ a ∈ o, ∃ receipt,
      getTaskRetryAdmission db plan.taskId plan.retryRequestId = some receipt ∧
      ReceiptMatchesRetry receipt plan ∧ a.executionId = receipt.executionId := by
  simp only [probeRetryReplay, steps_ok] at h
  rcases hreceipt : getTaskRetryAdmission db plan.taskId plan.retryRequestId with _ | receipt
  · simp only [hreceipt, pure_mk] at h
    obtain ⟨rfl, rfl⟩ := h
    simp
  · simp only [hreceipt, map_eq_pure_bind] at h
    obtain ⟨a, db1, hreplay, h⟩ := bind_ok.1 h
    obtain ⟨rfl, rfl⟩ := pure_mk.1 h
    obtain ⟨rfl, hmatch, hexecution⟩ := replayRetryAdmission_ok hreplay
    refine ⟨rfl, ?_⟩
    rintro _ ⟨⟩
    exact ⟨receipt, rfl, hmatch, hexecution⟩

end Outcomes

end AssistantRuntime.TaskBudget

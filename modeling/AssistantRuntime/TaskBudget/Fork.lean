/-
**Forks.**

A fork admits one execution on a new branch, at the checkpoint of a waiting execution.  A request
whose receipt is already stored is answered from the receipt.

`consumeForkPlan` is one attempt of the retry loop of its method.  The ids of the new rows are
arguments: the method draws them once, before its first attempt.
-/

import AssistantRuntime.TaskBudget.Admission

namespace AssistantRuntime.TaskBudget

open Relational Uow Agent

variable {D : Digests}

/-! ### Operations -/

structure ForkAdmission (π : Type) where
  taskId : String
  forkRequestId : String
  planFingerprint : π
  branchId : String
  branchRevision : ℕ
  executionId : String
  executionRevision : ℕ
  taskRevision : ℕ
  taskBudgetRevision : ℕ

def ReceiptMatchesFork (receipt : ForkAdmissionRow D.Plan) (plan : ForkPlan D.Plan) : Prop :=
  receipt.planFingerprint = plan.planFingerprint ∧
    receipt.sourceBranchId = plan.sourceBranchId ∧
    receipt.sourceExecutionId = plan.sourceExecutionId ∧
    receipt.sourceCheckpointId = plan.sourceCheckpointId ∧
    receipt.createdBy = plan.targetUserId ∧
    receipt.runtimeSeed.pyEq plan.runtimeSeed = true ∧
    receipt.runtimeSeedFingerprint = plan.runtimeSeedFingerprint
  deriving Decidable

def replayForkAdmission (plan : ForkPlan D.Plan) (receipt : ForkAdmissionRow D.Plan) :
    Tx D (ForkAdmission D.Plan) := do
  ensure (ReceiptMatchesFork receipt plan)
    (.forkConsume .conflict "FORK_REQUEST_SEMANTIC_CONFLICT"
      "fork_request_id already committed with different semantics.")
  let corrupt : Failure := .forkConsume .conflict "FORK_ADMISSION_CORRUPT"
    "Committed ForkAdmission no longer matches durable outputs."
  let generation := some plan.expectedTaskBudgetIncarnationGeneration
  let branch ← expect (← reads (getTaskBranch · receipt.branchId)) corrupt
  let _ ← expect (← reads (getTaskBranchContext · receipt.branchId)) corrupt
  let execution ← expect (← reads (getExecution · receipt.executionId)) corrupt
  let _ ← expect
    (← reads (getTaskBudgetReservation · plan.taskId .branch receipt.branchId generation)) corrupt
  let _ ← expect (← reads
    (getTaskBudgetReservation · plan.taskId .newExecution receipt.executionId generation)) corrupt
  let task ← expect (← reads (getTask · plan.taskId)) corrupt
  let budget ← expect (← reads (getTaskBudget · plan.taskId)) corrupt
  ensure (budget.incarnationGeneration = plan.expectedTaskBudgetIncarnationGeneration ∧
      branch.taskId = plan.taskId ∧ branch.parentBranchId = some receipt.sourceBranchId ∧
      branch.baseExecutionId = some receipt.sourceExecutionId ∧
      branch.baseCheckpointId = some receipt.sourceCheckpointId ∧
      execution.taskId = some plan.taskId ∧ execution.branchId = some receipt.branchId ∧
      execution.baseExecutionId = some receipt.sourceExecutionId ∧
      execution.baseCheckpointId = some receipt.sourceCheckpointId ∧
      execution.retryOfExecutionId = none) corrupt
  pure ⟨plan.taskId, plan.forkRequestId, plan.planFingerprint, receipt.branchId, branch.revision,
    receipt.executionId, execution.revision, task.revision, budget.revision⟩

def probeForkReplay (plan : ForkPlan D.Plan) : Tx D (Option (ForkAdmission D.Plan)) := do
  match ← reads (getTaskForkAdmission · plan.taskId plan.forkRequestId) with
  | none => pure none
  | some receipt => some <$> replayForkAdmission plan receipt

/-- The execution that a fork admits: it is running from the start, on a branch of its own and with
the checkpoint of its source as its base, and nobody owns it. -/
def forkedExecution (plan : ForkPlan D.Plan) (source : ExecutionRow) (branchId executionId : String)
    (startedAt : ℤ) : ExecutionRow where
  id := executionId
  sessionId := plan.sessionId
  agentId := plan.sourceAgentId
  taskId := some plan.taskId
  branchId := some branchId
  parentExecutionId := source.parentExecutionId
  baseExecutionId := some plan.sourceExecutionId
  baseCheckpointId := some plan.sourceCheckpointId
  correlationId := plan.correlationId
  state := .running
  revision := 1
  remainingActiveBudgetSeconds := source.remainingActiveBudgetSeconds
  request := orEmptyObject source.request
  startedAt := some startedAt

def forkReceipt (plan : ForkPlan D.Plan) (branchId executionId : String) :
    ForkAdmissionRow D.Plan :=
  { plan with branchId, executionId, createdBy := plan.targetUserId }

def forkBranch (plan : ForkPlan D.Plan) (branchId executionId : String) : BranchRow :=
  ⟨branchId, plan.taskId, some plan.sourceBranchId, some plan.sourceExecutionId,
    some plan.sourceCheckpointId, some executionId, .open, 0, plan.targetUserId, some "R8_FORK"⟩

def consumeForkPlan (plan : ForkPlan D.Plan) (branchId executionId : String) (startedAt : ℤ)
    (evidence : PlanEvidence) : Tx D (ForkAdmission D.Plan) := do
  ensure (D.plan (.fork plan.toForkPlanBody) = plan.planFingerprint)
    (.forkConsume .rejected "FORK_PLAN_FINGERPRINT_INVALID"
      "ForkPlan semantic fingerprint no longer matches its payload.")
  match ← reads (getTaskForkAdmission · plan.taskId plan.forkRequestId) with
  | some receipt => replayForkAdmission plan receipt
  | none =>
    let snapshot ← revalidateForkPlan plan evidence
    let generation := plan.expectedTaskBudgetIncarnationGeneration
    let execution ← normalizeExecutionStoreValues
      (forkedExecution plan snapshot.execution branchId executionId startedAt)
    let branchFingerprint := D.reservation .branch branchId
      (.forkBranch plan.forkRequestId plan.planFingerprint plan.sourceBranchId
        plan.sourceExecutionId plan.sourceCheckpointId)
    let executionFingerprint := D.reservation .newExecution executionId
      (.forkExecution plan.forkRequestId plan.planFingerprint executionId execution
        snapshot.delegated)
    let updatedTask ← orAbort
      (compareAndSetTask plan.taskId plan.expectedTaskRevision runningPatch) .lostRace
    let updatedBudget ← orAbort
      (compareAndSetTaskBudget plan.taskId plan.expectedTaskBudgetRevision
        (admitBranch snapshot.budget snapshot.delegated) (some generation)) .lostRace
    saveExecution execution
    saveTaskBranch (forkBranch plan branchId executionId)
    saveTaskBranchContext ⟨branchId, 0, plan.overlayMessages⟩
    saveTaskBudgetReservation plan.taskId .branch branchId branchFingerprint (some generation)
    saveTaskBudgetReservation plan.taskId .newExecution executionId executionFingerprint
      (some generation)
    saveTaskForkAdmission (forkReceipt plan branchId executionId)
    pure ⟨plan.taskId, plan.forkRequestId, plan.planFingerprint, branchId, 0, executionId, 1,
      updatedTask.revision, updatedBudget.revision⟩

/-! ### What an attempt did -/

section Outcomes

variable {db db' : Db D} {executionId : String} {now : ℤ} {evidence : PlanEvidence}
  {plan : ForkPlan D.Plan} {a : ForkAdmission D.Plan}

theorem replayForkAdmission_ok {receipt : ForkAdmissionRow D.Plan}
    (h : replayForkAdmission plan receipt db = .ok (a, db')) :
    db' = db ∧ ReceiptMatchesFork receipt plan ∧ a.branchId = receipt.branchId ∧
      a.executionId = receipt.executionId := by
  simp only [replayForkAdmission, steps_ok, pure_ok, Prod.mk.injEq] at h
  obtain ⟨hmatch, _, _, _, _, _, _, _, _, _, _, _, _, _, _, _, rfl, rfl⟩ := h
  exact ⟨rfl, hmatch, rfl, rfl⟩

variable {branchId : String}

variable (h : consumeForkPlan plan branchId executionId now evidence db = .ok (a, db'))

include h

/-- **A fork replays its receipt, or admits one execution on one new branch.** -/
theorem consumeForkPlan_ok :
    D.plan (.fork plan.toForkPlanBody) = plan.planFingerprint ∧
    ((∃ receipt, getTaskForkAdmission db plan.taskId plan.forkRequestId = some receipt ∧
        replayForkAdmission plan receipt db = .ok (a, db')) ∨
      (∃ source t b b' executions branches contexts reservations forkAdmissions,
        getTask db plan.taskId = some t ∧ t.status.isTerminal = false ∧
        getTaskBudget db plan.taskId = some b ∧ b.state = .open ∧
        SlotTaken b b' source.parentExecutionId.isSome 1 ∧
        (∃ br, getTaskBranch db plan.sourceBranchId = some br ∧
          br.IsAt plan.taskId plan.expectedBranchRevision plan.sourceExecutionId) ∧
        getExecution db plan.sourceExecutionId = some source ∧ plan.Names source ∧
        db.executions.insert? (forkedExecution plan source branchId executionId now) =
          some executions ∧
        db.branches.insert? (forkBranch plan branchId executionId) = some branches ∧
        db.forkAdmissions.insert? (forkReceipt plan branchId executionId) = some forkAdmissions ∧
        a.branchId = branchId ∧ a.executionId = executionId ∧
        db' = { db with
          tasks := db.tasks.put (runningPatch.apply plan.expectedTaskRevision t)
          budgets := db.budgets.put b', executions, branches, branchContexts := contexts
          reservations, forkAdmissions })) := by
  simp only [consumeForkPlan, steps_ok] at h
  obtain ⟨hplan, h⟩ := h
  refine ⟨hplan, ?_⟩
  rcases hreceipt : getTaskForkAdmission db plan.taskId plan.forkRequestId with _ | receipt
  · rw [hreceipt] at h
    right
    rw [bind_ok] at h
    obtain ⟨s, db1, hsnapshot, h⟩ := h
    obtain ⟨rfl, ht, hlive, hb, hopen, hdelegated, hbr, hat, hsource, hnames⟩ :=
      revalidateForkPlan_ok hsnapshot
    simp only [normalizeExecutionStoreValues_bind_ok, compareAndSetTask_bind_ok,
      compareAndSetTaskBudget_bind_ok, saveExecution, saveTaskBranch, saveTaskBranchContext,
      insertRow_bind_ok, saveTaskBudgetReservation_bind_ok, saveTaskForkAdmission, bind_assoc,
      steps_ok, pure_mk] at h
    obtain ⟨-, t, ht', -, b, hb', -, hchecks, executions, hexecutions, branches, hbranches,
      contexts, -, _, _, _, _, _, _, _, _, reservations, -, -, forks, hforks, rfl, rfl⟩ := h
    have htask : t = s.task := Option.mem_unique ht' ht
    have hbudget : b = s.budget := Option.mem_unique hb' hb
    subst htask hbudget
    have hslot := admitBranch_slotTaken hchecks
    rw [hdelegated] at hslot
    exact ⟨s.execution, s.task, s.budget, _, executions, branches, contexts, reservations, forks,
      ht, hlive, hb, hopen, hslot, ⟨s.branch, hbr, hat⟩, hsource, hnames, hexecutions, hbranches,
      hforks, rfl, rfl, by rw [hdelegated]⟩
  · rw [hreceipt] at h
    exact .inl ⟨receipt, rfl, h⟩

theorem consumeForkPlan_commit :
    Commit db db' := by
  obtain ⟨-, ⟨receipt, -, hreplay⟩ | ⟨source, t, b, b', executions, branches, contexts,
    reservations, forks, ht, hlive, hb, hopen, hslot, -, -, -, hexecutions, hbranches, -, -, -,
    rfl⟩⟩ :=
      consumeForkPlan_ok h
  · obtain ⟨rfl, -⟩ := replayForkAdmission_ok hreplay
    exact .refl _
  · refine hslot.commit hexecutions hb hopen ?_ rfl rfl rfl (.of_put ht rfl)
      (lawfulTask_running hlive) rfl (.of_insert hbranches) ?_ rfl
    · simp [RowWrite.countDelta, BranchRow.openFor, forkBranch]
    · simpa [LawfulBranch, RowWrite.row, forkBranch] using ⟨b, hb, hopen⟩

omit h

theorem probeForkReplay_ok {o : Option (ForkAdmission D.Plan)}
    (h : probeForkReplay plan db = .ok (o, db')) :
    db' = db ∧ ∀ a ∈ o, ∃ receipt,
      getTaskForkAdmission db plan.taskId plan.forkRequestId = some receipt ∧
      ReceiptMatchesFork receipt plan ∧ a.branchId = receipt.branchId ∧
      a.executionId = receipt.executionId := by
  simp only [probeForkReplay, steps_ok] at h
  rcases hreceipt : getTaskForkAdmission db plan.taskId plan.forkRequestId with _ | receipt
  · simp only [hreceipt, pure_mk] at h
    obtain ⟨rfl, rfl⟩ := h
    simp
  · simp only [hreceipt, map_eq_pure_bind] at h
    obtain ⟨a, db1, hreplay, h⟩ := bind_ok.1 h
    obtain ⟨rfl, rfl⟩ := pure_mk.1 h
    obtain ⟨rfl, hmatch, hbranch, hexecution⟩ := replayForkAdmission_ok hreplay
    refine ⟨rfl, ?_⟩
    rintro _ ⟨⟩
    exact ⟨receipt, rfl, hmatch, hbranch, hexecution⟩

end Outcomes

end AssistantRuntime.TaskBudget

/-
**Cancelling a task.**

`cancel_task` ends a task whatever it is doing.  It first cancels the executions that were admitted
and never activated, each under its own predicate and skipping those that an activation got hold of,
then writes the task, closes the budget with the freed slots and rejects the open claims.  Repeating
it on a cancelled task settles executions that are dormant still; a task that ended otherwise keeps
its status.
-/

import AssistantRuntime.TaskBudget.Dormant
import AssistantRuntime.TaskBudget.Lifecycle

namespace AssistantRuntime.TaskBudget

open Relational Uow Table Agent

variable {D : Digests}

/-- The dormant executions of a task, with the receipts that admitted them. -/
structure DormantAdmissions (π : Type) where
  forks : List (ForkAdmissionRow π × ExecutionRow)
  retries : List (RetryAdmissionRow π × ExecutionRow)
  aggregates : List (AggregateAdmissionRow π × ExecutionRow)

/-- The first half of the sweep of `cancel_task`: everything is read before anything is written. -/
def dormantAdmissions (taskId : String) : Tx D (DormantAdmissions D.Plan) := do
  let branches ← reads (listTaskBranches · taskId)
  let forks ← collectDormant "ForkAdmission" (·.branchId) (·.executionId) (ForkIsDormant taskId)
    branches (← reads (listTaskForkAdmissions · taskId))
  let retries ← collectDormant "RetryAdmission" (·.branchId) (·.executionId)
    (RetryIsDormant taskId) branches (← reads (listTaskRetryAdmissions · taskId))
  let aggregates ← collectDormant "AggregateAdmission" (·.targetBranchId) (·.executionId)
    (AggregateIsDormant taskId) branches (← reads (listTaskAggregateAdmissions · taskId))
  pure ⟨forks, retries, aggregates⟩

/-- The second half of the sweep: the slots it frees, and those of parallel agents among them. -/
def cancelAdmissions (taskId : String) (now : ℤ) (found : DormantAdmissions D.Plan) :
    Tx D (ℤ × ℤ) := do
  let forks ← cancelDormant (fun c => compareAndSetForkPreactivationCancel c.2.id taskId
    c.1.branchId c.1.sourceExecutionId c.1.sourceCheckpointId now
    "TASK_CANCELLED_BEFORE_FORK_ACTIVATION") found.forks
  let retries ← cancelDormant (fun c => compareAndSetRetryPreactivationCancel c.2.id taskId
    c.1.branchId c.1.sourceExecutionId now "TASK_CANCELLED_BEFORE_RETRY_ACTIVATION") found.retries
  let aggregates ← cancelDormant (fun c => compareAndSetExecution c.2.id 1
    (preactivationCancelPatch now "TASK_CANCELLED_BEFORE_AGGREGATE_ACTIVATION")) found.aggregates
  pure (forks.1 + retries.1 + aggregates.1, forks.2 + retries.2 + aggregates.2)

def writeCancelled (task : TaskRow) (values : TaskPatch) : Tx D TaskRow :=
  if task.status = .cancelled then pure task
  else orAbort (compareAndSetTask task.id task.revision { values with status := some .cancelled })
    .lostRace

def cancelledBudget (budget : BudgetRow) (released releasedParallel now : ℤ) : BudgetPatch :=
  { state := some .closed, closedAt := some (some (budget.closedAt.getD now))
    activeExecutions := some (budget.activeExecutions - released)
    activeParallelAgents := some (budget.activeParallelAgents - releasedParallel) }

def cancelTask (taskId : String) (values : TaskPatch) (now : ℤ) : Tx D TaskRow := do
  let values ← normalizeTaskStoreValues values
  let task ← requireTask taskId
  let record ← requireBudgetRecord taskId
  let budget ← loadBudget record
  if task.status.isTerminal ∧ task.status ≠ .cancelled then
    closeIfOpen taskId record now
    pure task
  else
    ensure (task.status.isTerminal ∨ task.status = .assigned ∨ task.status = .running ∨
        task.status = .waiting)
      (conflict s!"AgentTask {taskId} is {task.status.value}, expected ASSIGNED/RUNNING/WAITING.")
    ensure (task.status ≠ .cancelled → budget.state = .open)
      (conflict "Nonterminal AgentTask has CLOSED TaskBudget.")
    let found ← dormantAdmissions taskId
    let claims ← reads fun db =>
      if task.status = .cancelled then [] else listCreatedResumeClaimsForTask db taskId
    let released ← cancelAdmissions taskId now found
    ensure (released.1 ≤ budget.activeExecutions)
      (conflict "Dormant execution cancellation would underflow active_executions.")
    ensure (released.2 ≤ budget.activeParallelAgents)
      (conflict "Fork cancellation would underflow active_parallel_agents.")
    let updatedTask ← writeCancelled task values
    let _ ← orAbort (compareAndSetTaskBudget taskId budget.revision
      (cancelledBudget budget.toBudgetRow released.1 released.2 now)
      (some record.incarnationGeneration)) .lostRace
    rejectClaims now claims
    pure updatedTask

/-! ### The sweep -/

section Sweep

variable {db db' : Db D} {taskId : String} {now : ℤ} {found : DormantAdmissions D.Plan}

theorem dormantAdmissions_ok (h : dormantAdmissions taskId db = .ok (found, db')) :
    db' = db ∧ (∀ c ∈ found.forks, IsCandidate db taskId c.2) ∧
      (∀ c ∈ found.retries, IsCandidate db taskId c.2) ∧
      ∀ c ∈ found.aggregates, IsCandidate db taskId c.2 := by
  simp only [dormantAdmissions, steps_ok] at h
  rw [bind_ok] at h
  obtain ⟨forks, db1, hforks, h⟩ := h
  obtain ⟨rfl, hf⟩ := collectDormant_ok (fun _ _ _ hd => ⟨_, hd.2.2.2.2.2.2⟩) hforks
  simp only [steps_ok] at h
  rw [bind_ok] at h
  obtain ⟨retries, db2, hretries, h⟩ := h
  obtain ⟨rfl, hr⟩ := collectDormant_ok (fun _ _ _ hd => ⟨_, hd.2.2.2⟩) hretries
  simp only [steps_ok] at h
  rw [bind_ok] at h
  obtain ⟨aggregates, db3, haggregates, h⟩ := h
  obtain ⟨rfl, ha⟩ := collectDormant_ok (fun _ _ _ hd => ⟨_, hd.2.2.2⟩) haggregates
  cases pure_ok.1 h
  exact ⟨rfl, hf, hr, ha⟩

/-- **The sweep cancels dormant executions of the task, each once, and counts them.** -/
theorem cancelAdmissions_ok {released : ℤ × ℤ} (hf : ∀ c ∈ found.forks, IsCandidate db taskId c.2)
    (hr : ∀ c ∈ found.retries, IsCandidate db taskId c.2)
    (ha : ∀ c ∈ found.aggregates, IsCandidate db taskId c.2)
    (h : cancelAdmissions taskId now found db = .ok (released, db')) :
    Cancels taskId released db db' := by
  have hstart : OnlyCancelled db db := fun e he => .inl he
  obtain ⟨forks, db1, hforks, h⟩ := bind_ok.1 h
  obtain ⟨hcancels1, hdb1⟩ := cancelDormant_ok
    (fun c _ => updateExecution_cancelsDormant fun e hg => hg.1.1) hf hstart hforks
  obtain ⟨retries, db2, hretries, h⟩ := bind_ok.1 h
  obtain ⟨hcancels2, hdb2⟩ := cancelDormant_ok
    (fun c _ => updateExecution_cancelsDormant fun e hg => hg.1.1) hr hdb1 hretries
  obtain ⟨aggregates, db3, haggregates, h⟩ := bind_ok.1 h
  obtain ⟨hcancels3, -⟩ := cancelDormant_ok
    (fun c _ => updateExecution_cancelsDormant fun e hg => hg) ha hdb2 haggregates
  cases pure_ok.1 h
  exact (hcancels1.trans hcancels2).trans hcancels3

end Sweep

/-! ### The commit -/

section Commits

variable {db db' : Db D} {taskId : String} {now : ℤ} {values : TaskPatch}

/-- The task table after `writeCancelled`: unchanged for a cancelled task, one update otherwise. -/
theorem writeCancelled_ok {task t' : TaskRow} (ht : getTask db task.id = some task)
    (h : writeCancelled task values db = .ok (t', db')) :
    ∃ ts t, db' = { db with tasks := t } ∧ TableLog db.tasks ts t ∧
      ∀ w ∈ ts, task.status ≠ .cancelled ∧ ∃ u, w = .update task u ∧ u.id = task.id := by
  simp only [writeCancelled, ite_ok, pure_mk] at h
  rcases h with ⟨-, -, rfl⟩ | ⟨hne, h⟩
  · exact ⟨[], db'.tasks, rfl, .nil _, by simp⟩
  · obtain ⟨r, hr, -, rfl, rfl⟩ := compareAndSet_some.1 (orAbort_ok.1 h)
    obtain rfl : r = task := Option.mem_unique hr ht
    refine ⟨_, _, rfl, .of_put hr ?_, ?_⟩
    · rfl
    · intro w hw
      rw [List.mem_singleton] at hw
      exact ⟨hne, _, hw, rfl⟩

/-- **A cancellation closes everything it leaves behind, and frees the slots of what it cancelled.** -/
theorem cancelTask_commit {t' : TaskRow} (h : cancelTask taskId values now db = .ok (t', db')) :
    Commit db db' := by
  simp only [cancelTask, normalizeTaskStoreValues_bind_ok, requireTask_bind_ok,
    requireBudgetRecord_bind_ok, loadBudget_bind_ok, ite_ok, steps_ok] at h
  obtain ⟨-, task, htask, record, hrecord, budget, rfl, ⟨-, h⟩ | ⟨hother, hstatus, -, h⟩⟩ := h
  · obtain ⟨_, db1, hclose, h⟩ := bind_ok.1 h
    cases pure_ok.1 h
    exact closeIfOpen_commit hclose
  have hid : task.id = taskId := key_of_find? htask
  subst hid
  rw [bind_ok] at h
  obtain ⟨found, db1, hfound, h⟩ := h
  obtain ⟨rfl, hf, hr, ha⟩ := dormantAdmissions_ok hfound
  simp only [steps_ok] at h
  obtain ⟨released, db2, hsweep, h⟩ := bind_ok.1 h
  obtain ⟨l, executions, rfl, hlogE, hl, rfl⟩ := cancelAdmissions_ok hf hr ha hsweep
  simp only [steps_ok] at h
  obtain ⟨-, -, h⟩ := h
  obtain ⟨updated, db3, hwrite, h⟩ := bind_ok.1 h
  obtain ⟨ts, tasks, rfl, hlogT, hts⟩ := writeCancelled_ok (by exact htask) hwrite
  simp only [compareAndSetTaskBudget_bind_ok] at h
  obtain ⟨b, hb, -, hchecks, h⟩ := h
  obtain rfl : b = budget.toBudgetRow := Option.mem_unique hb hrecord
  have hgrows : budget.Grows ((cancelledBudget budget.toBudgetRow l.length (delegatedCount l)
      now).apply budget.revision budget.toBudgetRow) := by
    constructor <;> simp [cancelledBudget, BudgetPatch.apply]
  have hbid : budget.taskId = task.id := key_of_find? hrecord
  obtain ⟨_, db4, hreject, h⟩ := bind_ok.1 h
  cases pure_ok.1 h
  obtain ⟨ws, claims, rfl, hlogC, hws, hrest⟩ := rejectClaims_ok hreject
  refine ⟨{ tasks := ts, budgets := [.update budget.toBudgetRow _], executions := cancellations l,
            claims := ws },
    { log := ⟨hlogT, .of_put hb hgrows.taskId, hlogE, .nil _, hlogC⟩
      tasks := ?_, budgets := ?_, executions := cancellations_lawful hl db1
      moved := cancellations_moved hl hlogE, claims := fun w hw => hws w hw _, closes := ?_
      starts := ?_ },
    cancellations_balanced hl hbid rfl rfl (by simp [cancelledBudget, BudgetPatch.apply])⟩
  · intro w hw
    obtain ⟨hne, u, rfl, -⟩ := hts w hw
    -- the other terminal states were sorted out before
    have hlive : ¬ (task.status.isTerminal = true) := fun hterm => hother ⟨hterm, hne⟩
    simpa [LawfulTask] using hlive
  · simpa [LawfulBudget] using ⟨hgrows, hchecks⟩
  · intro t u htu _
    obtain ⟨hne, u', hu, huid⟩ := hts _ htu
    obtain ⟨rfl, rfl⟩ := RowWrite.update.inj hu
    rw [huid]
    refine ⟨⟨⟨_, find?_put_same hb hgrows.taskId, rfl⟩, ?_⟩,
      cancellations_not_entering hl t.id⟩
    rw [if_neg hne] at hrest
    have hclosed : ∀ c ∈ claims, c.state = .created →
        isExecutionOfTask db1 t.id c.executionId = false := claims_closed hrest
    intro c hc hcreated
    rw [← hclosed c hc hcreated]
    exact cancellations_isExecutionOfTask hl hlogE t.id c.executionId
  · intro t ht
    obtain ⟨-, u, hu, -⟩ := hts _ ht
    cases hu

end Commits

end AssistantRuntime.TaskBudget

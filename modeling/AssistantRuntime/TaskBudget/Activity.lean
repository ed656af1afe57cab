/-
**Shared steps of the task-budget service.**

What the operations of `TaskBudgetService` have in common: they load and validate the budget of the
task, they derive the activity of a task with several branches from the heads of its open branches,
and they take capacity for an execution that is resumed.
-/

import AssistantRuntime.Agent.ChangeLog

namespace AssistantRuntime.TaskBudget

open Relational Uow Agent

variable {D : Digests}

/-! ### Loading the budget -/

/-- The error for a task without a budget: history without a budget is the legacy case. -/
def missingBudget (taskId : String) (hasHistory : Bool) : Failure :=
  if hasHistory then
    .taskBudget .legacyUninitialized "Task has durable execution history but no TaskBudget."
  else required s!"TaskBudget missing: {taskId}"

def requireBudgetRecord (taskId : String) : Tx D BudgetRow := do
  let hasHistory ← reads (hasExecutionForTask · taskId)
  expect (← reads (getTaskBudget · taskId)) (missingBudget taskId hasHistory)

/-- `_budget_from_record`, inside a unit of work. -/
def loadBudget (record : BudgetRow) : Tx D Agent.TaskBudget :=
  expect (budgetFromRecord record) .validation

def isClosed (taskId : String) : Failure := budgetClosed s!"TaskBudget is CLOSED: {taskId}"

def requireOpen (budget : Agent.TaskBudget) : Tx D Unit :=
  ensure (budget.state = .open) (isClosed budget.taskId)

def requireTask (taskId : String) : Tx D TaskRow := do
  expect (← reads (getTask · taskId)) (required s!"Unknown AgentTask: {taskId}")

section Inversion

variable {α : Type} {db : Db D} {x : α × Db D} {taskId : String} {g : BudgetRow → Tx D α}

@[simp] theorem requireBudgetRecord_bind_ok :
    (requireBudgetRecord taskId >>= g) db = .ok x ↔
      ∃ b, getTaskBudget db taskId = some b ∧ g b db = .ok x := by
  simp only [requireBudgetRecord, bind_assoc, steps_ok]

theorem requireBudgetRecord_bind_error {f : Failure} :
    (requireBudgetRecord taskId >>= g) db = .error f ↔
      (getTaskBudget db taskId = none ∧ f = missingBudget taskId (hasExecutionForTask db taskId)) ∨
        ∃ b, getTaskBudget db taskId = some b ∧ g b db = .error f := by
  simp only [requireBudgetRecord, bind_assoc, reads_bind_error, expect_bind_error]

@[simp] theorem loadBudget_bind_ok {record : BudgetRow} {g : Agent.TaskBudget → Tx D α} :
    (loadBudget record >>= g) db = .ok x ↔
      ∃ b : Agent.TaskBudget, record = b.toBudgetRow ∧ g b db = .ok x := by
  simp only [loadBudget, steps_ok, budgetFromRecord_eq_some]

theorem loadBudget_ok {record : BudgetRow} {budget : Agent.TaskBudget}
    (h : loadBudget record db = .ok (budget, db')) : record = budget.toBudgetRow ∧ db' = db := by
  simp only [loadBudget, expect_ok, budgetFromRecord_eq_some, Prod.mk.injEq] at h
  obtain ⟨_, hrecord, rfl, rfl⟩ := h
  exact ⟨hrecord, rfl⟩

@[simp] theorem requireOpen_bind_ok {budget : Agent.TaskBudget} {g : Unit → Tx D α} :
    (requireOpen budget >>= g) db = .ok x ↔ budget.state = .open ∧ g () db = .ok x := by
  simp only [requireOpen, steps_ok]

@[simp] theorem requireTask_bind_ok {g : TaskRow → Tx D α} :
    (requireTask taskId >>= g) db = .ok x ↔
      ∃ t, getTask db taskId = some t ∧ g t db = .ok x := by
  simp only [requireTask, bind_assoc, steps_ok]

end Inversion

/-! ### The activity of a task with several branches -/

/-- The executions at the heads of the open branches; `none` where a head does not belong to its
branch. -/
def currentExecutions (db : Db D) (taskId : String) : List BranchRow → Option (List ExecutionRow)
  | [] => some []
  | b :: bs =>
    if b.resolutionState ≠ .open then currentExecutions db taskId bs
    else
      match b.currentExecutionId with
      | none => currentExecutions db taskId bs
      | some executionId =>
        match getExecution db executionId with
        | none => none
        | some e =>
          if e.taskId = some taskId ∧ e.branchId = some b.branchId then
            (currentExecutions db taskId bs).map (e :: ·)
          else none

/-- The activity the heads stand for; none when every head is terminal. -/
def derivedActivity (heads : List ExecutionRow) : Option (TaskStatus × List String) :=
  if heads.any (·.state.isActiveHead) then some (.running, [])
  else
    let reasons := waitingReasons heads
    if reasons = [] then none else some (.waiting, sortedStrings reasons.dedup)

/-- `reconcile_multibranch_task_activity_in_uow`; it returns nothing when the update of the task
loses. -/
def reconcileMultibranchTaskActivity (taskId : String) (lockedTask : TaskRow) :
    Tx D (Option TaskRow) := do
  ensure (lockedTask.id = taskId) (conflict "Locked AgentTask does not match activity task_id.")
  if lockedTask.status.isTerminal then return some lockedTask
  let branches ← reads (listTaskBranches · taskId)
  if branches.length ≤ 1 then return some lockedTask
  let heads ← expect (← reads (currentExecutions · taskId branches))
    (conflict "TaskBranch current_execution_id has invalid durable lineage.")
  match derivedActivity heads with
  | none => return some lockedTask
  | some (target, waitReasons) =>
    if lockedTask.status = target ∧ sortedStrings lockedTask.waitReasons = waitReasons then
      return some lockedTask
    compareAndSetTaskActivity taskId lockedTask.revision target waitReasons

variable {db db' : Db D} {taskId : String}

/-- **Deriving the activity leaves the task alone, or moves a live task to running or waiting.** -/
theorem reconcileMultibranchTaskActivity_some {t t' : TaskRow}
    (h : reconcileMultibranchTaskActivity taskId t db = .ok (some t', db')) :
    (t' = t ∧ db' = db) ∨
      (t.status.isTerminal = false ∧ (t'.status = .running ∨ t'.status = .waiting) ∧
        ∃ r, getTask db taskId = some r ∧ r.revision = t.revision ∧ t'.id = r.id ∧
          db' = { db with tasks := db.tasks.put t' }) := by
  simp only [reconcileMultibranchTaskActivity, steps_ok, ite_ok, pure_ok, Prod.mk.injEq,
    Option.some.injEq] at h
  obtain ⟨-, ⟨-, rfl, rfl⟩ | ⟨hlive, ⟨-, rfl, rfl⟩ | ⟨-, heads, -, h⟩⟩⟩ := h
  · exact .inl ⟨rfl, rfl⟩
  · exact .inl ⟨rfl, rfl⟩
  rcases hact : derivedActivity heads with _ | ⟨target, waitReasons⟩
  · simp only [hact, pure_mk, Option.some.injEq] at h
    exact .inl h
  · simp only [hact, ite_ok, pure_mk, Option.some.injEq] at h
    rcases h with ⟨-, h⟩ | ⟨-, h⟩
    · exact .inl h
    · obtain ⟨htarget, r, hr, hrev, rfl, rfl⟩ := compareAndSetTaskActivity_some h
      exact .inr ⟨by simpa using hlive, htarget, r, hr, hrev, rfl, rfl⟩

/-- What deriving the activity wrote to the tasks, as a lawful list. -/
theorem reconcileMultibranchTaskActivity_log {t t' : TaskRow}
    (h : reconcileMultibranchTaskActivity taskId t db = .ok (some t', db'))
    (ht : getTask db taskId = some t) :
    ∃ ts, TableLog db.tasks ts db'.tasks ∧
      (∀ w ∈ ts, LawfulTask w ∧ w.row.status.isTerminal = false) ∧
      db' = { db with tasks := db'.tasks } := by
  rcases reconcileMultibranchTaskActivity_some h with
    ⟨-, rfl⟩ | ⟨hlive, hstatus, r, hr, -, hid, rfl⟩
  · exact ⟨[], .nil _, by simp, rfl⟩
  · have hrt : r = t := Option.mem_unique hr ht
    subst hrt
    refine ⟨[.update r t'], .of_put hr hid, ?_, rfl⟩
    rcases hstatus with hstatus | hstatus <;>
      simpa [LawfulTask, RowWrite.row, hstatus, TaskStatus.isTerminal] using hlive

/-! ### Capacity for a resumed execution -/

/-- The budget columns of an execution that starts to run. -/
def occupySlot (budget : BudgetRow) (delegated : Bool) : BudgetPatch :=
  { activeExecutions := some (budget.activeExecutions + 1)
    activeParallelAgents := some
      (if delegated then budget.activeParallelAgents + 1 else budget.activeParallelAgents) }

def prepareResumeCapacity (taskId executionId : String) (sourceRevision : ℕ) (delegated : Bool) :
    Tx D Agent.TaskBudget := do
  let task ← requireTask taskId
  ensure (task.status.isTerminal = false)
    (budgetClosed s!"Terminal AgentTask cannot resume execution: {taskId}")
  let record ← requireBudgetRecord taskId
  let budget ← loadBudget record
  let generation := record.incarnationGeneration
  ensure (budget.state = .open) (isClosed taskId)
  let key := s!"{executionId}:{sourceRevision}"
  let fingerprint := D.reservation .resumeExecution key
    (.resume executionId sourceRevision delegated)
  let existing ← reads (getTaskBudgetReservation · taskId .resumeExecution key (some generation))
  ensure (∀ r ∈ existing, r.payloadFingerprint = fingerprint)
    (conflict "resume reservation_key was reused with a different payload")
  ensure (existing.isNone)
    (conflict "resume capacity reservation already exists before execution claim")
  ensure (budget.activeExecutions < budget.limits.maxActiveExecutions)
    (exceeded "max_active_executions reached")
  ensure (delegated → budget.activeParallelAgents < budget.limits.maxParallelAgents)
    (exceeded "max_parallel_agents reached")
  let updated ← orAbort
    (compareAndSetTaskBudget taskId budget.revision (occupySlot budget.toBudgetRow delegated)
      (some generation))
    (conflict s!"Stale TaskBudget revision during resume: {taskId}@{budget.revision}")
  saveTaskBudgetReservation taskId .resumeExecution key fingerprint (some generation)
  loadBudget updated

/-- **A resume takes one active slot of the open budget of a live task.** -/
theorem prepareResumeCapacity_ok {taskId executionId : String} {sourceRevision : ℕ}
    {delegated : Bool} {budget : Agent.TaskBudget}
    (h : prepareResumeCapacity taskId executionId sourceRevision delegated db = .ok (budget, db')) :
    TaskLive db taskId ∧ ∃ b b' rs, getTaskBudget db taskId = some b ∧ b.state = .open ∧
      b' = (occupySlot b delegated).apply b.revision b ∧ b'.Checks ∧
      db' = { db with budgets := db.budgets.put b', reservations := rs } := by
  simp only [prepareResumeCapacity, requireTask_bind_ok, steps_ok, requireBudgetRecord_bind_ok,
    loadBudget_bind_ok, compareAndSetTaskBudget_bind_ok, saveTaskBudgetReservation_bind_ok] at h
  obtain ⟨t, ht, hlive, record, hrecord, loaded, rfl, hopen, -, -, -, -, b, hb, hfence, hchecks,
    _, _, _, rs, _, h⟩ := h
  have hb' : b = loaded.toBudgetRow := Option.mem_unique hb hrecord
  subst hb'
  obtain ⟨-, rfl⟩ := loadBudget_ok h
  exact ⟨⟨t, ht, hlive⟩, _, _, rs, hb, hopen, rfl, hchecks, rfl⟩

end AssistantRuntime.TaskBudget

/-
**Starting executions.**

The first execution of a task opens the root branch of the task; an execution that another one
delegates to joins the branch of its parent.  Either takes an active slot of the budget and is stored
`RUNNING` at revision one in the same unit of work.
-/

import AssistantRuntime.TaskBudget.Admission
import AssistantRuntime.TaskBudget.Reservation

namespace AssistantRuntime.TaskBudget

open Relational Uow Agent

variable {D : Digests}

/-! ### Root executions -/

structure RootExecutionAdmission where
  taskId : String
  branchId : String
  branchRevision : ℕ
  executionId : String
  executionRevision : ℕ

def rootBranchId (D : Digests) (taskId : String) : String := "r8_root_" ++ D.taskId taskId

/-- A lineage column that the first execution of a task does not set. -/
def requireNull (field : String) (value : Option String) : Tx D Unit :=
  ensure (value = none) (conflict s!"first root execution requires {field}=NULL")

def notRootAdmission : Failure :=
  conflict ("Task already has a normalized TaskBranch; " ++
    "second top-level execution is not R8-B root admission.")

/-- What a caller gives to `start_root_task_scoped_execution`, checked. -/
def requireRootValues (taskId executionId : String) (values : ExecutionRow) : Tx D Unit := do
  ensure (values.id = executionId) (.valueError "execution_values.id must match execution_id")
  ensure (values.taskId = some taskId) (.valueError "execution_values.task_id must match task_id")
  ensure (values.state = .running)
    (.valueError "root execution admission must insert RUNNING state")
  ensure (values.revision = 1) (.valueError "root execution admission must insert revision=1")
  requireNull "parent_execution_id" values.parentExecutionId
  requireNull "retry_of_execution_id" values.retryOfExecutionId
  requireNull "base_execution_id" values.baseExecutionId
  requireNull "base_checkpoint_id" values.baseCheckpointId
  ensure (values.branchId = none)
    (conflict "first root execution must not supply branch authority")

def rootBranch (D : Digests) (task : TaskRow) (taskId executionId : String) : BranchRow :=
  ⟨rootBranchId D taskId, taskId, none, none, none, some executionId, .open, 0, task.createdBy,
    some "R8_ROOT_FIRST_EXECUTION"⟩

def replayRootAdmission (taskId executionId : String) (branch : Option BranchRow)
    (execution : Option ExecutionRow) (branchReservation executionReservation :
      Option (ReservationRow D.Receipt)) (branchFingerprint executionFingerprint : D.Receipt) :
    Tx D RootExecutionAdmission := do
  ensure (∀ b ∈ branch, b.currentExecutionId = none ∨ b.currentExecutionId = some executionId)
    notRootAdmission
  let incomplete := conflict "Partial root admission state already exists."
  let branch ← expect branch incomplete
  let execution ← expect execution incomplete
  let branchReservation ← expect branchReservation incomplete
  let executionReservation ← expect executionReservation incomplete
  verifyReservation branchReservation branchFingerprint
  verifyReservation executionReservation executionFingerprint
  ensure (branch.taskId = taskId ∧ branch.resolutionState = .open ∧
      branch.currentExecutionId = some executionId)
    (conflict "Root TaskBranch belongs to a different durable admission.")
  ensure (execution.taskId = some taskId ∧ execution.branchId = some (rootBranchId D taskId) ∧
      execution.parentExecutionId = none ∧ 1 ≤ execution.revision)
    (conflict "Root AgentExecution does not match the durable root admission.")
  pure ⟨taskId, rootBranchId D taskId, branch.revision, executionId, execution.revision⟩

/-- The checks of a first root admission: a running task without branches and executions, and room
for one of each. -/
def requirePristineTask (taskId : String) (record : BudgetRow) :
    Tx D (TaskRow × Agent.TaskBudget) := do
  let task ← requireTask taskId
  let budget ← loadBudget record
  requireOpen budget
  ensure (task.status = .running)
    (conflict s!"Root execution admission requires RUNNING Task, got {task.status.value}")
  ensure ((← reads (listTaskBranches · taskId)) = []) notRootAdmission
  ensure (¬ (← reads (hasExecutionForTask · taskId)))
    (conflict ("Task already has AgentExecution history; " ++
      "first-root admission is no longer valid."))
  ensure (budget.activeBranches < budget.limits.maxActiveBranches)
    (exceeded "max_active_branches reached")
  ensure (budget.usedExecutions < budget.limits.maxTotalExecutions)
    (exceeded "max_total_executions reached")
  ensure (budget.activeExecutions < budget.limits.maxActiveExecutions)
    (exceeded "max_active_executions reached")
  pure (task, budget)

def startRootTaskScopedExecution (taskId executionId : String) (values : ExecutionRow)
    (expectedGeneration : Option ℤ) : Tx D RootExecutionAdmission := do
  requireRootValues taskId executionId values
  let branchId := rootBranchId D taskId
  let execution ← normalizeExecutionStoreValues { values with branchId := some branchId }
  let executionFingerprint := D.reservation .newExecution executionId
    (.newExecution executionId execution false 0)
  let branchFingerprint := D.reservation .branch branchId .empty
  let record ← requireIncarnation { taskId, expectedGeneration }
    "TaskBudget incarnation changed during root admission"
  let generation := some record.incarnationGeneration
  let existingBranch ← reads (getTaskBranch · branchId)
  let existingExecution ← reads (getExecution · executionId)
  let branchReservation ← reads (getTaskBudgetReservation · taskId .branch branchId generation)
  let executionReservation ←
    reads (getTaskBudgetReservation · taskId .newExecution executionId generation)
  if existingBranch.isSome ∨ existingExecution.isSome ∨ branchReservation.isSome ∨
      executionReservation.isSome then
    replayRootAdmission taskId executionId existingBranch existingExecution branchReservation
      executionReservation branchFingerprint executionFingerprint
  else
    let (task, budget) ← requirePristineTask taskId record
    let _ ← orAbort
      (compareAndSetTaskBudget taskId budget.revision (admitBranch budget.toBudgetRow false)
        generation) .lostRace
    saveExecution execution
    saveTaskBranch (rootBranch D task taskId executionId)
    saveTaskBranchContext ⟨branchId, 0, []⟩
    saveTaskBudgetReservation taskId .branch branchId branchFingerprint generation
    saveTaskBudgetReservation taskId .newExecution executionId executionFingerprint generation
    pure ⟨taskId, branchId, 0, executionId, 1⟩

/-! ### Delegated executions -/

def validateDelegatedBranch (taskId : String) (values : ExecutionRow) : Tx D Unit :=
  match values.parentExecutionId with
  | none => pure ()
  | some parentId => do
    let branchId ← expect (values.branchId.filter (· ≠ ""))
      (conflict "Delegated execution requires durable branch_id.")
    let _ ← expect ((← reads (getTaskBranch · branchId)).filter
        fun b => b.taskId = taskId ∧ b.resolutionState = .open)
      (conflict ("Delegated execution requires an OPEN TaskBranch owned " ++
        "by the same AgentTask."))
    let _ ← expect ((← reads (getExecution · parentId)).filter
        fun e => e.taskId = some taskId ∧ e.branchId = some branchId)
      (conflict "Delegated execution parent must belong to the same TaskBranch.")
    pure ()

def reserveExecution (budget : BudgetRow) (delegated : Bool) : BudgetPatch :=
  { occupySlot budget delegated with usedExecutions := some (budget.usedExecutions + 1) }

def newExecutionPatch (delegationDepth : ℤ) (delegated : Bool) (budget : Agent.TaskBudget) :
    Except Failure BudgetPatch :=
  if budget.state ≠ .open then .error (isClosed budget.taskId)
  else if budget.limits.maxDelegationDepth < delegationDepth then
    .error (.taskBudget .delegationDepthExceeded
      s!"delegation_depth={delegationDepth} exceeds {budget.limits.maxDelegationDepth}")
  else if budget.limits.maxTotalExecutions ≤ budget.usedExecutions then
    .error (exceeded "max_total_executions reached")
  else if budget.limits.maxActiveExecutions ≤ budget.activeExecutions then
    .error (exceeded "max_active_executions reached")
  else if delegated ∧ budget.limits.maxParallelAgents ≤ budget.activeParallelAgents then
    .error (exceeded "max_parallel_agents reached")
  else .ok (reserveExecution budget.toBudgetRow delegated)

def newExecutionMutation (taskId executionId : String) (values : ExecutionRow)
    (delegationDepth : ℤ) : Mutation D where
  kind := .newExecution
  reservationKey := executionId
  payload := .newExecution executionId values values.parentExecutionId.isSome delegationDepth
  mutate := newExecutionPatch delegationDepth values.parentExecutionId.isSome
  sideEffect := do
    validateDelegatedBranch taskId values
    ensure ((← reads (getExecution · executionId)).isNone)
      (conflict "Execution exists without matching TaskBudget reservation.")
    saveExecution values
  verifyIdempotent := do
    validateDelegatedBranch taskId values
    let _ ← expect ((← reads (getExecution · executionId)).filter fun e => e.taskId = some taskId ∧
        (values.parentExecutionId.isSome → e.branchId = values.branchId))
      (conflict "Idempotent execution reservation has no matching execution.")
    pure ()

def reserveNewExecution (settings : Settings) (taskId executionId : String) (values : ExecutionRow)
    (delegationDepth : ℤ) (expectedGeneration : Option ℤ) (now : ℤ) : Tx D Agent.TaskBudget := do
  ensure (0 ≤ delegationDepth) (.valueError "delegation_depth must be non-negative")
  ensure (values.id = executionId) (.valueError "execution_values.id must match execution_id")
  ensure (values.taskId = some taskId) (.valueError "execution_values.task_id must match task_id")
  let execution ← normalizeExecutionStoreValues values
  mutateWithReservation settings { taskId, expectedGeneration }
    (newExecutionMutation taskId executionId execution delegationDepth) false now

def startTaskScopedExecution (settings : Settings) (taskId executionId : String)
    (values : ExecutionRow) (delegationDepth : ℤ) (expectedGeneration : Option ℤ) (now : ℤ) :
    Tx D ℕ := do
  ensure (values.state = .running)
    (.valueError "task-scoped execution admission must insert RUNNING state")
  ensure (values.revision = 1)
    (.valueError "task-scoped execution admission must insert revision=1")
  if values.parentExecutionId.isNone then
    ensure (values.branchId = none)
      (conflict ("new top-level execution on an existing branch is outside " ++
        "R8-B; retry/fork authority is not implemented"))
    let admission ← startRootTaskScopedExecution taskId executionId values expectedGeneration
    pure admission.executionRevision
  else
    let _ ← reserveNewExecution settings taskId executionId values delegationDepth
      expectedGeneration now
    pure 1

/-! ### What a start did -/

section Outcomes

variable {db db' : Db D} {taskId executionId : String} {values : ExecutionRow}
  {a : RootExecutionAdmission}

theorem replayRootAdmission_ok {branch : Option BranchRow} {execution : Option ExecutionRow}
    {branchReservation executionReservation : Option (ReservationRow D.Receipt)}
    {branchFingerprint executionFingerprint : D.Receipt}
    (h : replayRootAdmission taskId executionId branch execution branchReservation
      executionReservation branchFingerprint executionFingerprint db = .ok (a, db')) :
    db' = db := by
  simp only [replayRootAdmission, steps_ok, verifyReservation_bind_ok, pure_mk] at h
  obtain ⟨-, _, -, _, -, _, -, _, -, -, -, -, -, -, hdb⟩ := h
  exact hdb

variable {budget : Agent.TaskBudget}

theorem requirePristineTask_ok {record : BudgetRow} {task : TaskRow}
    (h : requirePristineTask taskId record db = .ok ((task, budget), db')) :
    db' = db ∧ getTask db taskId = some task ∧ record = budget.toBudgetRow ∧
      budget.state = .open ∧ task.status = .running := by
  simp only [requirePristineTask, requireTask_bind_ok, loadBudget_bind_ok, requireOpen_bind_ok,
    steps_ok, pure_mk] at h
  obtain ⟨t, ht, b, hb, hopen, hrunning, -, -, -, -, -, ⟨rfl, rfl⟩, rfl⟩ := h
  exact ⟨rfl, ht, hb, hopen, hrunning⟩

def rootExecution (D : Digests) (taskId : String) (values : ExecutionRow) : ExecutionRow :=
  { values with branchId := some (rootBranchId D taskId) }

variable {expectedGeneration : Option ℤ}

variable (h : startRootTaskScopedExecution taskId executionId values expectedGeneration db =
  .ok (a, db'))

include h

/-- **A root start replays its admission, or admits one execution on the root branch.** -/
theorem startRootTaskScopedExecution_ok :
    (values.id = executionId ∧ values.taskId = some taskId ∧ values.state = .running ∧
      values.revision = 1 ∧ values.parentExecutionId = none) ∧
    (db' = db ∨ ∃ t b b' executions branches contexts reservations,
      getTask db taskId = some t ∧ t.status = .running ∧
      getTaskBudget db taskId = some b ∧ b.state = .open ∧ SlotTaken b b' false 1 ∧
      db.executions.insert? (rootExecution D taskId values) = some executions ∧
      db.branches.insert? (rootBranch D t taskId executionId) = some branches ∧
      db' = { db with
        budgets := db.budgets.put b', executions, branches, branchContexts := contexts
        reservations }) := by
  simp only [startRootTaskScopedExecution, requireRootValues, requireNull, bind_assoc, steps_ok,
    normalizeExecutionStoreValues_bind_ok, requireIncarnation_bind_ok] at h
  obtain ⟨hid, htask, hstate, hrevision, hparent, -, -, -, -, -, b, hb, -, h⟩ := h
  refine ⟨⟨hid, htask, hstate, hrevision, hparent⟩, ?_⟩
  rw [ite_ok] at h
  rcases h with ⟨-, hreplay⟩ | ⟨-, hnew⟩
  · exact .inl (replayRootAdmission_ok hreplay)
  · right
    obtain ⟨⟨t, budget⟩, db1, hpristine, h⟩ := bind_ok.1 hnew
    obtain ⟨rfl, ht, hloaded, hopen, hrunning⟩ := requirePristineTask_ok hpristine
    simp only [compareAndSetTaskBudget_bind_ok, saveExecution, saveTaskBranch,
      saveTaskBranchContext, insertRow_bind_ok, saveTaskBudgetReservation_bind_ok, pure_ok,
      Prod.mk.injEq] at h
    obtain ⟨b', hb', -, hchecks, executions, hexecutions, branches, hbranches, contexts, -,
      _, _, _, _, _, _, _, _, reservations, -, -, rfl⟩ := h
    obtain rfl : b' = budget.toBudgetRow := Option.mem_unique hb' (hloaded ▸ hb)
    exact ⟨t, budget.toBudgetRow, _, executions, branches, contexts, reservations, ht, hrunning,
      hb', hopen, admitBranch_slotTaken hchecks, hexecutions, hbranches, rfl⟩

theorem startRootTaskScopedExecution_commit : Commit db db' := by
  obtain ⟨⟨-, htask, hstate, hrevision, hparent⟩, rfl | ⟨t, b, b', executions, branches, contexts,
    reservations, -, -, hb, hopen, hslot, hexecutions, hbranches, rfl⟩⟩ :=
      startRootTaskScopedExecution_ok h
  · exact .refl _
  · have hroot : SlotTaken b b' (rootExecution D taskId values).parentExecutionId.isSome 1 := by
      simpa [rootExecution, hparent] using hslot
    refine hroot.commit hexecutions hb hopen ?_ hstate hrevision htask (.nil _) (by simp) rfl
      (.of_insert hbranches) ?_ rfl
    · simp [RowWrite.countDelta, BranchRow.openFor, rootBranch]
    · simpa [LawfulBranch, RowWrite.row, rootBranch] using ⟨b, hb, hopen⟩

omit h

/-- A delegated execution joins an open branch of the task, the one of its parent. -/
def JoinsOpenBranch (db : Db D) (taskId : String) (values : ExecutionRow) : Prop :=
  ∀ parentId ∈ values.parentExecutionId, ∃ branchId,
    (values.branchId = some branchId ∧ branchId ≠ "") ∧
    (∃ b, getTaskBranch db branchId = some b ∧ b.taskId = taskId ∧ b.resolutionState = .open) ∧
    ∃ e, getExecution db parentId = some e ∧ e.taskId = some taskId ∧ e.branchId = some branchId

@[simp] theorem validateDelegatedBranch_bind_ok {α : Type} {g : Unit → Tx D α} {x : α × Db D} :
    (validateDelegatedBranch taskId values >>= g) db = .ok x ↔
      JoinsOpenBranch db taskId values ∧ g () db = .ok x := by
  unfold validateDelegatedBranch JoinsOpenBranch
  cases values.parentExecutionId with
  | none => simp
  | some parentId =>
    simp only [bind_assoc, steps_ok, pure_bind_ok, Option.mem_some_iff, forall_eq',
      Option.filter_eq_some_iff, decide_eq_true_eq]
    constructor
    · rintro ⟨branchId, hbranch, b, hb, e, he, h⟩
      exact ⟨⟨branchId, hbranch, ⟨b, hb⟩, e, he⟩, h⟩
    · rintro ⟨⟨branchId, hbranch, ⟨b, hb⟩, e, he⟩, h⟩
      exact ⟨branchId, hbranch, b, hb, e, he, h⟩

variable {delegated : Bool}

theorem newExecutionPatch_ok {delegationDepth : ℤ} {p : BudgetPatch}
    (h : newExecutionPatch delegationDepth delegated budget = .ok p) :
    budget.state = .open ∧ delegationDepth ≤ budget.limits.maxDelegationDepth ∧
      p = reserveExecution budget.toBudgetRow delegated := by
  unfold newExecutionPatch at h
  split_ifs at h with hstate hdepth
  exact ⟨by simpa using hstate, not_lt.1 hdepth, (Except.ok.inj h).symm⟩

theorem reserveExecution_slotTaken {b : BudgetRow} {revision : ℕ}
    (h : ((reserveExecution b delegated).apply revision b).Checks) :
    SlotTaken b ((reserveExecution b delegated).apply revision b) delegated 0 := by
  refine ⟨?_, h, rfl, rfl, ?_, ?_⟩
  · constructor <;> simp [reserveExecution, occupySlot, BudgetPatch.apply]
  · cases delegated <;> simp [reserveExecution, occupySlot, BudgetPatch.apply]
  · simp [reserveExecution, occupySlot, BudgetPatch.apply]

section Reserve

variable {settings : Settings} {delegationDepth now : ℤ} {expectedGeneration : Option ℤ}

/-- **A reservation of a new execution replays, or takes a slot and stores the execution.** -/
theorem reserveNewExecution_ok {budget : Agent.TaskBudget}
    (h : reserveNewExecution settings taskId executionId values delegationDepth expectedGeneration
      now db = .ok (budget, db')) :
    values.taskId = some taskId ∧ (db' = db ∨ ∃ b b' executions reservations,
      getTaskBudget db taskId = some b ∧ b.state = .open ∧
      SlotTaken b b' values.parentExecutionId.isSome 0 ∧
      delegationDepth ≤ b.limits.maxDelegationDepth ∧ JoinsOpenBranch db taskId values ∧
      db.executions.insert? values = some executions ∧
      db' = { db with budgets := db.budgets.put b', executions, reservations }) := by
  simp only [reserveNewExecution, steps_ok, normalizeExecutionStoreValues_bind_ok] at h
  obtain ⟨-, -, htask, -, h⟩ := h
  refine ⟨htask, ?_⟩
  obtain ⟨b, hb, ⟨r, -, -, hreplay, -⟩ | ⟨loaded, p, db1, -, reservations, rfl, hp,
    hchecks, hside, -, -, rfl⟩⟩ := mutateWithReservation_ok h
  · simp only [newExecutionMutation, validateDelegatedBranch_bind_ok, steps_ok, pure_mk] at hreplay
    obtain ⟨-, _, -, -, hdb⟩ := hreplay
    exact .inl hdb
  · obtain ⟨hopen, hdepth, rfl⟩ := newExecutionPatch_ok hp
    simp only [newExecutionMutation, validateDelegatedBranch_bind_ok, steps_ok, saveExecution,
      insertRow_ok, Prod.mk.injEq] at hside
    obtain ⟨hjoins, -, executions, hexecutions, -, rfl⟩ := hside
    exact .inr ⟨loaded.toBudgetRow, _, executions, reservations, hb, hopen,
      reserveExecution_slotTaken hchecks, hdepth, hjoins, hexecutions, rfl⟩

theorem startTaskScopedExecution_commit {revision : ℕ}
    (h : startTaskScopedExecution settings taskId executionId values delegationDepth
      expectedGeneration now db = .ok (revision, db')) :
    Commit db db' := by
  simp only [startTaskScopedExecution, steps_ok, ite_ok] at h
  obtain ⟨hstate, hrevision, ⟨-, -, hroot⟩ | ⟨-, hdelegated⟩⟩ := h
  · obtain ⟨a, db1, hstart, hdone⟩ := bind_ok.1 hroot
    cases pure_ok.1 hdone
    exact startRootTaskScopedExecution_commit hstart
  · obtain ⟨budget, db1, hreserve, hdone⟩ := bind_ok.1 hdelegated
    cases pure_ok.1 hdone
    obtain ⟨htask, rfl | ⟨b, b', executions, reservations, hb, hopen, hslot, -, -, hexecutions,
      rfl⟩⟩ := reserveNewExecution_ok hreserve
    · exact .refl _
    · exact hslot.commit hexecutions hb hopen (by simp) hstate hrevision htask (.nil _) (by simp)
        rfl (.nil _) (by simp) rfl

end Reserve

end Outcomes

end AssistantRuntime.TaskBudget

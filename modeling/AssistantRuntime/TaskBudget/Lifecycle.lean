/-
**The life of a task.**

`create_task_with_budget` stores a task together with an open, unused budget.  `transition_task`
moves a live task between its nonterminal states.  `terminalize_task` ends a task: in one unit of
work it writes the terminal status, closes the budget and rejects every resume claim that is still
open on an execution of the task.  A task that is already over is returned as it is.

Each definition is one attempt of the retry loop of its method; a lost compare-and-set aborts the
attempt with `Failure.lostRace`.

Main results: each of them is lawful, and balanced (`createTaskWithBudget_commit`, …).
-/

import AssistantRuntime.TaskBudget.Reservation

namespace AssistantRuntime.TaskBudget

open Relational Uow Table Agent

variable {D : Digests}

/-! ### Stored values -/

/-- `_normalize_task_store_values`, on the columns a patch may set. -/
def normalizeTaskStoreValues (values : TaskPatch) : Tx D TaskPatch := do
  match values.output with
  | none => pure values
  | some output =>
    let output ← jsonSafe "agent_tasks.output" output
    pure { values with output := some output }

/-- Normalisation checks a patch and does not change it. -/
@[simp] theorem normalizeTaskStoreValues_bind_ok {α : Type} {values : TaskPatch}
    {g : TaskPatch → Tx D α} {db : Db D} {x : α × Db D} :
    (normalizeTaskStoreValues values >>= g) db = .ok x ↔
      (∀ o ∈ values.output, ∀ v ∈ o, v.toJsonSafe = some v) ∧ g values db = .ok x := by
  obtain ⟨status, waitReasons, output, error⟩ := values
  cases output with
  | none => simp [normalizeTaskStoreValues]
  | some o =>
    simp only [normalizeTaskStoreValues, bind_assoc, jsonSafe_bind_ok, pure_bind_ok,
      Option.mem_some_iff, forall_eq']

/-! ### Creation -/

/-- `_new_budget_values`; the repository sets the incarnation. -/
def newBudgetValues (taskId : String) (limits : TaskBudgetLimits) (policy : TaskBudgetPolicy)
    (fingerprint : String) : BudgetRow where
  taskId := taskId
  incarnationGeneration := 0
  revision := 0
  state := .open
  limits := limits.toBudgetLimits
  policyVersion := policy.version
  policyFingerprint := fingerprint
  denyRecursiveAgentCycle := policy.denyRecursiveAgentCycle
  usedExecutions := 0
  activeExecutions := 0
  activeBranches := 0
  activeParallelAgents := 0
  usedToolCalls := 0
  usedInferenceCalls := 0
  usedTokens := 0
  usedCostUsd := 0
  closedAt := none

/-- The enrollment of a task that is about to be created, when dual accounting is enabled. -/
def enrollTask (settings : Settings) (parentTaskId : Option String) (identity : Option Identity) :
    Tx D (Option BudgetOwnerResolution) :=
  match settings.userBudgetDualAccounting.filter (·.enabled) with
  | none => pure none
  | some dual => do
    let identity ← expect identity
      (conflict "UBQ-2 enrollment requires authenticated Identity.")
    let resolution ← prepareEnrollment dual parentTaskId identity
    pure (some resolution)

def requireParentTask (parentTaskId : Option String) : Tx D Unit :=
  match parentTaskId with
  | none => pure ()
  | some parent => do
    let _ ← expect (← reads (getTask · parent)) (conflict s!"Parent AgentTask not found: {parent}")
    pure ()

def bindEnrolledTask (taskId : String) (resolution : Option BudgetOwnerResolution) : Tx D Unit :=
  match resolution with
  | none => pure ()
  | some resolution => bindPreparedTask taskId resolution

def createTaskWithBudget (settings : Settings) (task : TaskRow) (limits : Option TaskBudgetLimits)
    (policy : Option TaskBudgetPolicy) (identity : Option Identity) : Tx D TaskRow := do
  ensure (task.id ≠ "") (.valueError "task_values.id must be non-empty")
  let limits ← expect (limits.or settings.defaultLimits)
    (required "Task creation requires an application TaskBudget policy.")
  let policy ← expect (policy.or settings.defaultPolicy)
    (required "Task creation requires an application TaskBudget policy.")
  let _ ← jsonSafe "agent_tasks.input" (some task.input)
  let _ ← jsonSafe "agent_tasks.output" task.output
  let resolution ← enrollTask settings task.parentTaskId identity
  requireParentTask task.parentTaskId
  ensure ((← reads (getTask · task.id)).isNone) (conflict s!"AgentTask already exists: {task.id}")
  saveTask task
  let _ ← saveTaskBudget (newBudgetValues task.id limits policy
    (D.policy limits.toBudgetLimits policy.toBudgetPolicy))
  bindEnrolledTask task.id resolution
  pure task

section Creation

variable {settings : Settings} {db db' : Db D} {identity : Option Identity}
  {resolution : Option BudgetOwnerResolution} {parentTaskId : Option String}

theorem enrollTask_ok (h : enrollTask settings parentTaskId identity db = .ok (resolution, db')) :
    ∃ u, db' = { db with userBudgets := u } := by
  unfold enrollTask at h
  rcases hdual : settings.userBudgetDualAccounting.filter (·.enabled) with _ | dual
  · simp only [hdual, pure_mk] at h
    exact ⟨db.userBudgets, h.2⟩
  · simp only [hdual, steps_ok] at h
    obtain ⟨identity, -, h⟩ := h
    obtain ⟨r, db1, hprepare, h⟩ := bind_ok.1 h
    cases pure_ok.1 h
    exact onUserBudgets_ok hprepare

theorem requireParentTask_ok (h : requireParentTask parentTaskId db = .ok ((), db')) :
    db' = db := by
  cases parentTaskId with
  | none => exact (pure_mk.1 h).2
  | some parent =>
    simp only [requireParentTask, steps_ok, pure_mk] at h
    exact h.choose_spec.2.2

variable {taskId : String}

theorem bindEnrolledTask_ok (h : bindEnrolledTask taskId resolution db = .ok ((), db')) :
    ∃ u, db' = { db with userBudgets := u } := by
  cases resolution with
  | none =>
    cases pure_ok.1 h
    exact ⟨db.userBudgets, rfl⟩
  | some resolution => exact onUserBudgets_ok h

/-- A new budget is open and unused, and its policy is one that `TaskBudget` accepts. -/
theorem newBudgetValues_isFresh {limits : TaskBudgetLimits} {policy : TaskBudgetPolicy}
    {b : BudgetRow} {generation : ℤ}
    (hb : b = { newBudgetValues taskId limits policy
      (D.policy limits.toBudgetLimits policy.toBudgetPolicy) with incarnationGeneration :=
      generation })
    (hchecks : b.Checks) : b.IsFresh := by
  subst hb
  exact ⟨rfl, rfl, rfl, hchecks, policy.version_length, D.policy_isHexDigest _ _⟩

theorem balanced_fresh {b : BudgetRow} (hfresh : b.IsFresh) (ts : List (RowWrite TaskRow)) :
    Changes.Balanced { tasks := ts, budgets := [.insert b] : Changes D.Plan } := by
  refine ⟨⟨?_, ?_⟩, ?_⟩ <;> simp [Changes.Paired, RowWrite.valueDelta, hfresh.activeExecutions,
    hfresh.activeParallelAgents, hfresh.activeBranches]

variable {limits : Option TaskBudgetLimits} {policy : Option TaskBudgetPolicy} {task t : TaskRow}

variable (h : createTaskWithBudget settings task limits policy identity db = .ok (t, db'))

include h

theorem createTaskWithBudget_stores :
    ∃ b tasks budgets generation u, b.IsFresh ∧ b.taskId = task.id ∧
      db.tasks.insert? task = some tasks ∧ db.budgets.insert? b = some budgets ∧
      db' = { db with tasks, budgets, nextGeneration := generation, userBudgets := u } := by
  simp only [createTaskWithBudget, steps_ok, jsonSafe_bind_ok] at h
  obtain ⟨-, limits, -, policy, -, -, -, h⟩ := h
  obtain ⟨resolution, db1, henroll, h⟩ := bind_ok.1 h
  obtain ⟨u, rfl⟩ := enrollTask_ok henroll
  obtain ⟨_, db2, hparent, h⟩ := bind_ok.1 h
  have hdb2 := requireParentTask_ok hparent
  subst hdb2
  simp only [steps_ok, saveTask, insertRow_bind_ok] at h
  obtain ⟨-, tasks, htasks, h⟩ := h
  obtain ⟨b, db3, hsave, h⟩ := bind_ok.1 h
  obtain ⟨hb, hchecks, budgets, hbudgets, rfl⟩ := saveTaskBudget_ok hsave
  obtain ⟨_, db4, hbind, h⟩ := bind_ok.1 h
  obtain ⟨u', rfl⟩ := bindEnrolledTask_ok hbind
  cases pure_ok.1 h
  exact ⟨b, tasks, budgets, _, u', newBudgetValues_isFresh hb hchecks, hb ▸ rfl, htasks, hbudgets,
    rfl⟩

theorem createTaskWithBudget_ok :
    ∃ c, Lawful db c db' ∧ c.Balanced ∧ c.tasks = [.insert task] := by
  obtain ⟨b, tasks, budgets, generation, u, hfresh, -, htasks, hbudgets, rfl⟩ :=
    createTaskWithBudget_stores h
  refine ⟨{ tasks := [.insert task], budgets := [.insert b] },
    { log := ⟨.of_insert htasks, .of_insert hbudgets, .nil _, .nil _, .nil _⟩
      tasks := ?_, budgets := ?_ }, balanced_fresh hfresh _, rfl⟩
  · simp [LawfulTask]
  · simpa [LawfulBudget] using hfresh

omit h

/-- **A task starts alive if its caller does not create it in a terminal status.** -/
theorem createTaskWithBudget_commit (fits : Prop)
    (h : createTaskWithBudget settings task limits policy identity db = .ok (t, db')) :
    CommitIf (task.status.isTerminal = false) fits db db' := by
  obtain ⟨c, hlawful, hbalanced, htasks⟩ := createTaskWithBudget_ok h
  refine ⟨c, hlawful, hbalanced.toSettled, fun hlive u hu => ?_, fun _ => hbalanced.parallel⟩
  rw [htasks, List.mem_singleton, RowWrite.insert.injEq] at hu
  exact hu ▸ hlive

end Creation

/-- `ensure_budget`, on a task that was stored without one. -/
def ensureBudget (taskId : String) (limits : TaskBudgetLimits) (policy : TaskBudgetPolicy) :
    Tx D Agent.TaskBudget := do
  let fingerprint := D.policy limits.toBudgetLimits policy.toBudgetPolicy
  match ← reads (getTaskBudget · taskId) with
  | some existing =>
    let budget ← loadBudget existing
    ensure (budget.policyVersion = policy.version ∧ budget.policyFingerprint = fingerprint ∧
        budget.denyRecursiveAgentCycle = policy.denyRecursiveAgentCycle)
      (conflict "existing TaskBudget policy/limits are immutable")
    pure budget
  | none =>
    let task ← requireTask taskId
    ensure (task.status ≠ .completed ∧ task.status ≠ .cancelled)
      (budgetClosed s!"Terminal AgentTask cannot initialize budget: {taskId}")
    ensure (¬ (← reads (hasExecutionForTask · taskId)))
      (.taskBudget .legacyUninitialized
        "Task has durable execution history but no TaskBudget; usage cannot be reconstructed safely.")
    let record ← saveTaskBudget (newBudgetValues taskId limits policy fingerprint)
    loadBudget record

def closingPatch (closedAt : ℤ) : BudgetPatch :=
  { state := some .closed, closedAt := some (some closedAt) }

def close (taskId : String) (now : ℤ) : Tx D Agent.TaskBudget := do
  let record ← expect (← reads (getTaskBudget · taskId)) (required s!"TaskBudget missing: {taskId}")
  let budget ← loadBudget record
  if budget.state = .closed then pure budget
  else
    let updated ← orAbort
      (compareAndSetTaskBudget taskId budget.revision (closingPatch now)
        (some record.incarnationGeneration)) .lostRace
    loadBudget updated

/-! ### Transitions -/

/-- The seam `ASSIGNED → RUNNING`: a task past one of its horizons is not activated. -/
def requireActivationEligibility (task : TaskRow) (target : TaskStatus) (now : ℤ) : Tx D Unit := do
  ensure (task.status = .assigned → target = .running → ∀ h ∈ task.taskHorizonAt, now < h)
    (.activationEligibility "TASK_HORIZON_EXPIRED" task.id)
  ensure (task.status = .assigned → target = .running → ∀ h ∈ task.reviewHorizonAt, now < h)
    (.activationEligibility "REVIEW_REQUIRED" task.id)

/-- A Python list of strings, as it prints. -/
def reprStrings (l : List String) : String :=
  "[" ++ ", ".intercalate (l.map fun s => "'" ++ s ++ "'") ++ "]"

def unexpectedState (task : TaskRow) (allowed : List TaskStatus) : Failure :=
  let expected := reprStrings (sortedStrings (allowed.map (·.value)).dedup)
  conflict s!"AgentTask {task.id} is {task.status.value}, expected one of {expected}"

/-- `transition_task`; the target of the patch is set by the method. -/
def transitionTask (taskId : String) (allowedSourceStates : List TaskStatus) (target : TaskStatus)
    (values : TaskPatch) (now : ℤ) : Tx D TaskRow := do
  ensure (target.isTerminal = false) (.valueError "terminal target requires terminalize_task()")
  ensure (allowedSourceStates ≠ []) (.valueError "allowed_source_states must not be empty")
  let values ← normalizeTaskStoreValues values
  let task ← requireTask taskId
  if task.status.isTerminal then pure task
  else
    let record ← requireBudgetRecord taskId
    let budget ← loadBudget record
    requireOpen budget
    ensure (task.status ∈ allowedSourceStates ∨ task.status = target)
      (unexpectedState task allowedSourceStates)
    if target = .running ∧ task.status = target then pure task
    else
      requireActivationEligibility task target now
      let branches ← reads (listTaskBranches · taskId)
      if target = .waiting ∧ 1 < branches.length then
        orAbort (reconcileMultibranchTaskActivity taskId task) .lostRace
      else if task.status = target then pure task
      else
        orAbort (compareAndSetTask taskId task.revision { values with status := some target })
          .lostRace

section Transitions

variable {db db' : Db D} {taskId : String}

theorem closingPatch_grows (b : BudgetRow) (now : ℤ) (revision : ℕ) :
    b.Grows ((closingPatch now).apply revision b) := by
  constructor <;> simp [closingPatch, BudgetPatch.apply]

variable {budget : Agent.TaskBudget} {policy : TaskBudgetPolicy} {limits : TaskBudgetLimits}

variable (h : ensureBudget taskId limits policy db = .ok (budget, db'))

include h

/-- Nothing happens to a task with a budget; one without gets an unused one. -/
theorem ensureBudget_stores :
    db' = db ∨ ∃ t b budgets generation, getTaskBudget db taskId = none ∧
      getTask db taskId = some t ∧ t.status ≠ .completed ∧ t.status ≠ .cancelled ∧ b.IsFresh ∧
      b.taskId = taskId ∧ db.budgets.insert? b = some budgets ∧
      db' = { db with budgets, nextGeneration := generation } := by
  simp only [ensureBudget, steps_ok] at h
  rcases hb : getTaskBudget db taskId with _ | existing
  · simp only [hb, requireTask_bind_ok, steps_ok] at h
    obtain ⟨task, htask, ⟨hcompleted, hcancelled⟩, -, h⟩ := h
    obtain ⟨b, db1, hsave, h⟩ := bind_ok.1 h
    obtain ⟨hrow, hchecks, budgets, hbudgets, rfl⟩ := saveTaskBudget_ok hsave
    obtain ⟨-, rfl⟩ := loadBudget_ok h
    exact .inr ⟨task, b, budgets, _, rfl, htask, hcompleted, hcancelled,
      newBudgetValues_isFresh hrow hchecks, hrow ▸ rfl, hbudgets, rfl⟩
  · simp only [hb, loadBudget_bind_ok, steps_ok, pure_mk] at h
    obtain ⟨_, _, _, _, rfl⟩ := h
    exact .inl rfl

theorem ensureBudget_commit :
    Commit db db' := by
  rcases ensureBudget_stores h with rfl |
    ⟨t, b, budgets, generation, -, -, -, -, hfresh, -, hbudgets, rfl⟩
  · exact .refl _
  · refine ⟨{ budgets := [.insert b] },
      { log := ⟨.nil _, .of_insert hbudgets, .nil _, .nil _, .nil _⟩, budgets := ?_ },
      balanced_fresh hfresh []⟩
    simpa [LawfulBudget] using hfresh

omit h

theorem close_commit {now : ℤ} (h : close taskId now db = .ok (budget, db')) : Commit db db' := by
  simp only [close, steps_ok, loadBudget_bind_ok, ite_ok, pure_ok, compareAndSetTaskBudget_bind_ok,
    Prod.mk.injEq] at h
  obtain ⟨record, hrecord, loaded, rfl, ⟨-, -, rfl⟩ | ⟨-, b, hb, -, hchecks, h⟩⟩ := h
  · exact .refl _
  · obtain ⟨-, rfl⟩ := loadBudget_ok h
    exact .of_budget hb (closingPatch_grows b now _) hchecks rfl rfl rfl rfl rfl rfl rfl rfl

/-- Deriving the activity of a task that was read from the same table is a commit. -/
theorem reconcileMultibranchTaskActivity_commit {t t' : TaskRow} (ht : getTask db taskId = some t)
    (h : reconcileMultibranchTaskActivity taskId t db = .ok (some t', db')) : Commit db db' := by
  rcases reconcileMultibranchTaskActivity_some h with ⟨-, rfl⟩ | ⟨hlive, hstatus, r, hr, -, hid, rfl⟩
  · exact .refl _
  · have hrt : r = t := Option.mem_unique hr ht
    subst hrt
    refine .of_task hr hid hlive ?_ rfl rfl rfl rfl rfl
    rcases hstatus with hs | hs <;> rw [hs] <;> rfl

/-- **A transition moves a live task to a live status, or does nothing.** -/
theorem transitionTask_commit {allowed : List TaskStatus} {target : TaskStatus} {values : TaskPatch}
    {now : ℤ} {t : TaskRow}
    (h : transitionTask taskId allowed target values now db = .ok (t, db')) : Commit db db' := by
  simp only [transitionTask, steps_ok, normalizeTaskStoreValues_bind_ok, requireTask_bind_ok,
    ite_ok, pure_ok, requireBudgetRecord_bind_ok, loadBudget_bind_ok, requireOpen_bind_ok,
    requireActivationEligibility, bind_assoc, Prod.mk.injEq] at h
  obtain ⟨htarget, -, -, task, htask, ⟨-, -, rfl⟩ | ⟨hlive, -, -, -, -, -, -, h⟩⟩ := h
  · exact .refl _
  rcases h with ⟨-, -, rfl⟩ | ⟨-, -, -, ⟨-, h⟩ | ⟨-, ⟨-, -, rfl⟩ | ⟨-, h⟩⟩⟩
  · exact .refl _
  · exact reconcileMultibranchTaskActivity_commit htask (orAbort_ok.1 h)
  · exact .refl _
  · obtain ⟨r, hr, -, rfl, rfl⟩ := compareAndSet_some.1 (orAbort_ok.1 h)
    obtain rfl : r = task := Option.mem_unique hr htask
    refine .of_task hr ?_ (by simpa using hlive) ?_ rfl rfl rfl rfl rfl
    · rfl
    · exact htarget

end Transitions

/-! ### The end of a task -/

/-- What happens to a claim on a task that is over. -/
def taskResolvedPatch (now : ℤ) : ClaimPatch D.Plan :=
  { state := some .rejected, rejectionCode := some (some "TASK_RESOLVED")
    rejectedAt := some (some now) }

/-- The loop that rejects the open claims of a task; one that moved meanwhile aborts the attempt. -/
def rejectClaims (now : ℤ) : List (ClaimRow D.Plan) → Tx D Unit
  | [] => pure ()
  | claim :: claims => do
    let _ ← orAbort (compareAndSetResumeClaim claim.claimId claim.revision .created
      (taskResolvedPatch now)) .lostRace
    rejectClaims now claims

/-- Closes the budget of a task that ended before, if it is still open. -/
def closeIfOpen (taskId : String) (record : BudgetRow) (now : ℤ) : Tx D Unit := do
  if record.state = .open then
    let _ ← orAbort (compareAndSetTaskBudget taskId record.revision (closingPatch now)
      (some record.incarnationGeneration)) .lostRace
    pure ()
  else pure ()

def terminalizeTask (taskId : String) (allowedSourceStates : List TaskStatus) (target : TaskStatus)
    (values : TaskPatch) (now : ℤ) : Tx D TaskRow := do
  ensure (target.isTerminal = true)
    (.valueError "target_state must be COMPLETED, FAILED or CANCELLED")
  ensure (allowedSourceStates ≠ []) (.valueError "allowed_source_states must not be empty")
  let values ← normalizeTaskStoreValues values
  let task ← requireTask taskId
  let record ← requireBudgetRecord taskId
  let budget ← loadBudget record
  if task.status.isTerminal then
    closeIfOpen taskId record now
    pure task
  else
    ensure (budget.state = .open) (conflict "Nonterminal AgentTask has CLOSED TaskBudget.")
    let branches ← reads (listTaskBranches · taskId)
    if 1 < branches.length then
      orAbort (reconcileMultibranchTaskActivity taskId task) .lostRace
    else
      ensure (task.status ∈ allowedSourceStates) (unexpectedState task allowedSourceStates)
      let claims ← reads (listCreatedResumeClaimsForTask · taskId)
      let updatedTask ← orAbort
        (compareAndSetTask taskId task.revision { values with status := some target }) .lostRace
      let _ ← orAbort
        (compareAndSetTaskBudget taskId budget.revision (closingPatch now)
          (some record.incarnationGeneration)) .lostRace
      rejectClaims now claims
      pure updatedTask

section Ends

variable {db db' : Db D} {taskId : String} {now : ℤ}

/-- The claims after the rejecting loop: those it was given are no longer open, no other claim
changed. -/
theorem rejectClaims_ok {claims : List (ClaimRow D.Plan)}
    (h : rejectClaims now claims db = .ok ((), db')) :
    ∃ ws t, db' = { db with claims := t } ∧ TableLog db.claims ws t ∧
      (∀ w ∈ ws, ∀ db0 : Db D, LawfulClaim db0 w) ∧
      ∀ c ∈ t, c.state = .created → c ∈ db.claims ∧ ∀ c0 ∈ claims, c0.claimId ≠ c.claimId := by
  induction claims generalizing db with
  | nil =>
    cases pure_ok.1 h
    exact ⟨[], db'.claims, rfl, .nil _, by simp, fun c hc _ => ⟨hc, by simp⟩⟩
  | cons claim claims ih =>
    simp only [rejectClaims, compareAndSetResumeClaim_bind_ok] at h
    obtain ⟨c, hc, -, h⟩ := h
    obtain ⟨ws, t, rfl, hlog, hws, hrest⟩ := ih h
    have hkey : c.claimId = claim.claimId := key_of_find? hc
    have hput : TableLog db.claims [.update c ((taskResolvedPatch now).apply claim.revision c)]
        (db.claims.put ((taskResolvedPatch now).apply claim.revision c)) := .of_put hc rfl
    refine ⟨_, t, rfl, hput.append hlog, ?_, ?_⟩
    · intro w hw db0
      rcases List.mem_append.1 hw with hw | hw
      · rw [List.mem_singleton.1 hw]
        exact ⟨rfl, nofun⟩
      · exact hws w hw db0
    · intro d hd hcreated
      obtain ⟨hmem, hne⟩ := hrest d hd hcreated
      -- the row just rejected is not open, so an open one is an old row with another key
      rcases mem_put.1 hmem with ⟨hold, hkeyne⟩ | ⟨rfl, -⟩
      · refine ⟨hold, fun c0 hc0 => ?_⟩
        rcases List.mem_cons.1 hc0 with rfl | hc0
        · intro he
          exact hkeyne (he.symm.trans hkey.symm)
        · exact hne c0 hc0
      · cases hcreated

/-- Rejecting every open claim of a task leaves none. -/
theorem claims_closed {db0 : Db D} {t : Table (ClaimRow.claimId (π := D.Plan))}
    (hrest : ∀ c ∈ t, c.state = .created → c ∈ db0.claims ∧
      ∀ c0 ∈ listCreatedResumeClaimsForTask db0 taskId, c0.claimId ≠ c.claimId) :
    ∀ c ∈ t, c.state = .created → isExecutionOfTask db0 taskId c.executionId = false := by
  intro c hc hcreated
  obtain ⟨hmem, hne⟩ := hrest c hc hcreated
  by_contra hexec
  refine hne c ?_ rfl
  exact List.mem_filter.2 ⟨hmem, by simp [hcreated, hexec]⟩

theorem closeIfOpen_commit {record : BudgetRow}
    (h : closeIfOpen taskId record now db = .ok ((), db')) : Commit db db' := by
  simp only [closeIfOpen, ite_ok, compareAndSetTaskBudget_bind_ok, pure_mk] at h
  rcases h with ⟨-, b, hb, -, hchecks, -, rfl⟩ | ⟨-, -, rfl⟩
  · exact .of_budget hb (closingPatch_grows b now _) hchecks rfl rfl rfl rfl rfl rfl rfl rfl
  · exact .refl _

/-- **Ending a task closes its budget and its claims in the same commit.** -/
theorem terminalizeTask_commit {allowed : List TaskStatus} {target : TaskStatus}
    {values : TaskPatch} {t : TaskRow}
    (h : terminalizeTask taskId allowed target values now db = .ok (t, db')) : Commit db db' := by
  simp only [terminalizeTask, steps_ok, normalizeTaskStoreValues_bind_ok, requireTask_bind_ok,
    requireBudgetRecord_bind_ok, loadBudget_bind_ok, ite_ok]
    at h
  obtain ⟨htarget, -, -, task, htask, record, hrecord, loaded, rfl, h⟩ := h
  rcases h with ⟨-, h⟩ | ⟨hlive, hopen, ⟨-, h⟩ | ⟨-, -, h⟩⟩
  · obtain ⟨_, db1, hclose, h⟩ := bind_ok.1 h
    cases pure_ok.1 h
    exact closeIfOpen_commit hclose
  · exact reconcileMultibranchTaskActivity_commit htask (orAbort_ok.1 h)
  simp only [compareAndSetTask_bind_ok, compareAndSetTaskBudget_bind_ok] at h
  obtain ⟨r, hr, -, b, hb, -, hchecks, h⟩ := h
  obtain rfl : r = task := Option.mem_unique hr htask
  obtain ⟨_, db1, hreject, h⟩ := bind_ok.1 h
  cases pure_ok.1 h
  obtain ⟨ws, claims, rfl, hlog, hws, hrest⟩ := rejectClaims_ok hreject
  have hid : r.id = taskId := key_of_find? hr
  have hgrows := closingPatch_grows b now loaded.revision
  refine ⟨{ tasks := [.update r _], budgets := [.update b _], claims := ws },
    { log := ⟨.of_put hr rfl, .of_put hb rfl, .nil _, .nil _, hlog⟩
      tasks := ?_, budgets := ?_, claims := fun w hw => hws w hw _, closes := ?_ }, ?_⟩
  · simpa [LawfulTask] using hlive
  · simpa [LawfulBudget] using ⟨hgrows, hchecks⟩
  · intro u u' hu _
    simp only [List.mem_singleton, RowWrite.update.injEq] at hu
    obtain ⟨-, rfl⟩ := hu
    have hput := find?_put_same hb hgrows.taskId
    rw [← hid] at hput
    refine ⟨⟨⟨_, hput, rfl⟩, ?_⟩, by simp⟩
    · have hclosed := claims_closed hrest
      rw [← hid] at hclosed
      exact hclosed
  · refine ⟨⟨?_, ?_⟩, ?_⟩ <;>
      simp [Changes.Paired, RowWrite.valueDelta, closingPatch, BudgetPatch.apply]

end Ends

end AssistantRuntime.TaskBudget

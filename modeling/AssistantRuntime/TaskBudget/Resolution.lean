/-
**Resolving branches.**

A branch of a task is resolved once: it is discarded while others stay open, or one branch is
adopted and all others are superseded.  Adoption is what completes a task with several branches: it
takes the result of the selected branch as the output of the task, closes the budget, rejects the
open claims and gives back the slots of losers that were never activated.
-/

import AssistantRuntime.TaskBudget.Dormant
import AssistantRuntime.TaskBudget.Lifecycle

namespace AssistantRuntime.TaskBudget

open Relational Uow Table Agent List Option

variable {D : Digests}

/-! ### Operations -/

/-- `matching_receipts`: how many admissions name the execution on this branch. -/
def matchingReceipts (db : Db D) (taskId branchId executionId : String) : ℕ :=
  (if (getTaskForkAdmissionByExecution db executionId).any
      fun r => r.taskId = taskId ∧ r.branchId = branchId then 1 else 0) +
    (if (getTaskRetryAdmissionByExecution db executionId).any
      fun r => r.taskId = taskId ∧ r.branchId = branchId then 1 else 0) +
    if (getTaskAggregateAdmissionByExecution db executionId).any
      fun r => r.taskId = taskId ∧ r.targetBranchId = branchId then 1 else 0

/-- One admission vouches for an execution that nothing has bound yet. -/
def IsAdmittedPreactivation (receipts : ℕ) (e : ExecutionRow) : Prop :=
  receipts = 1 ∧ e.currentCheckpointId = none ∧ e.boundClientId = none ∧ e.boundConnectionId = none
  deriving Decidable

structure BranchDiscardResult where
  taskId : String
  branchId : String
  branchRevision : ℕ
  taskBudgetRevision : ℕ
  deriving DecidableEq

structure TaskAdoptionResult where
  taskId : String
  taskRevision : ℕ
  selectedBranchId : String
  selectedExecutionId : String
  taskBudgetRevision : ℕ
  supersededBranchIds : List String
  rejectedResumeClaimIds : List String
  deriving DecidableEq

/-- What both resolutions load first: the task, its budget, its branches and the selected one. -/
def loadResolution (code taskId branchId targetUserId : String) :
    Tx D (TaskRow × BudgetRow × List BranchRow × BranchRow) := do
  ensure (taskId ≠ "" ∧ branchId ≠ "" ∧ targetUserId ≠ "")
    (.branchResolution code "Task, branch and principal identifiers are required.")
  let missing := Failure.branchResolution code "Task, budget or selected branch is missing."
  let branches ← reads (listTaskBranches · taskId)
  let task ← expect (← reads (getTask · taskId)) missing
  let budget ← expect (← reads (getTaskBudget · taskId)) missing
  let selected ← expect (branches.find? (·.branchId = branchId)) missing
  ensure (task.createdBy = targetUserId)
    (.branchResolution code "Authenticated principal does not own the Task.")
  pure (task, budget, branches, selected)

/-- The head of a branch that is being discarded: a terminal one is left alone, a dormant one is
cancelled, any other refuses the discard.  The slots it frees are returned. -/
def releaseHead (taskId branchId : String) (current : Option String) (now : ℤ) : Tx D (ℤ × ℤ) :=
  match current with
  | none => pure (0, 0)
  | some executionId => do
    let invalid := Failure.branchResolution "BRANCH_RESOLUTION_CONFLICT"
      "TaskBranch current execution has invalid lineage."
    let execution ← expect (← reads (getExecution · executionId)) invalid
    ensure (execution.taskId = some taskId ∧ execution.branchId = some branchId) invalid
    if execution.state.isTerminal then pure (0, 0)
    else
      ensure (execution.state = .running ∧ execution.revision = 1)
        (.branchResolution "BRANCH_EXECUTION_ACTIVE"
          "RUNNING/WAITING branch execution must settle before DISCARD.")
      let receipts ← reads (matchingReceipts · taskId branchId execution.id)
      ensure (IsAdmittedPreactivation receipts execution)
        (.branchResolution "BRANCH_EXECUTION_ACTIVE"
          "Branch execution is not a dormant admitted preactivation.")
      let _ ← orAbort (compareAndSetExecution execution.id 1
        (preactivationCancelPatch now "BRANCH_DISCARDED_BEFORE_ACTIVATION")) .lostRace
      pure (1, if execution.parentExecutionId.isSome then 1 else 0)

def discardedBudget (budget : BudgetRow) (released : ℤ × ℤ) : BudgetPatch :=
  { activeBranches := some (budget.activeBranches - 1)
    activeExecutions := some (budget.activeExecutions - released.1)
    activeParallelAgents := some (budget.activeParallelAgents - released.2) }

def openBranches (branches : List BranchRow) : List BranchRow :=
  branches.filter (·.resolutionState = .open)

def discardBranch (taskId branchId targetUserId : String) (now : ℤ) : Tx D BranchDiscardResult := do
  let code := "BRANCH_RESOLUTION_CONFLICT"
  let (task, budget, branches, selected) ← loadResolution code taskId branchId targetUserId
  if selected.resolutionState = .discarded then
    pure ⟨taskId, branchId, selected.revision, budget.revision⟩
  else
    ensure (selected.resolutionState = .open)
      (.branchResolution "BRANCH_NOT_OPEN"
        s!"TaskBranch is already {selected.resolutionState.value}.")
    ensure (task.status.isTerminal = false ∧ budget.state = .open)
      (.branchResolution "TASK_ALREADY_RESOLVED" "Terminal Task authority forbids branch DISCARD.")
    ensure (1 < (openBranches branches).length)
      (.branchResolution "BRANCH_DISCARD_LAST_OPEN_FORBIDDEN"
        "The final OPEN branch cannot be discarded.")
    ensure (budget.activeBranches = (openBranches branches).length)
      (.branchResolution code "TaskBudget active_branches differs from branch authority.")
    let released ← releaseHead taskId branchId selected.currentExecutionId now
    ensure (released.1 ≤ budget.activeExecutions)
      (.branchResolution code "DISCARD would underflow active_executions.")
    ensure (released.2 ≤ budget.activeParallelAgents)
      (.branchResolution code "DISCARD would underflow active_parallel_agents.")
    let changed ← orAbort (compareAndSetTaskBranch branchId selected.revision
      { resolutionState := some .discarded }) .lostRace
    let updatedBudget ← orAbort (compareAndSetTaskBudget taskId budget.revision
      (discardedBudget budget released) (some budget.incarnationGeneration)) .lostRace
    pure ⟨taskId, branchId, changed.revision, updatedBudget.revision⟩

/-- The dormant head of one open branch that loses; other heads keep running detached. -/
def dormantLoser (taskId branchId : String) (loser : BranchRow) : Tx D (Option ExecutionRow) :=
  if loser.branchId = branchId then pure none
  else
    match loser.currentExecutionId with
    | none => pure none
    | some executionId => do
      let invalid := Failure.branchResolution "TASK_RESOLUTION_CONFLICT"
        "Loser branch current execution has invalid lineage."
      let execution ← expect (← reads (getExecution · executionId)) invalid
      ensure (execution.taskId = some taskId ∧ execution.branchId = some loser.branchId) invalid
      if ¬ (execution.state = .running ∧ execution.revision = 1) then pure none
      else
        let receipts ← reads (matchingReceipts · taskId loser.branchId execution.id)
        -- an execution at revision one that no admission vouches for has an owner
        if receipts = 0 then pure none
        else
          ensure (IsAdmittedPreactivation receipts execution)
            (.branchResolution "TASK_RESOLUTION_CONFLICT"
              "Admission-backed loser RUNNING@1 execution has ambiguous or activated authority.")
          pure (some execution)

def loserPreactivations (taskId branchId : String) :
    List BranchRow → Tx D (List (BranchRow × ExecutionRow))
  | [] => pure []
  | loser :: losers => do
    let head ← dormantLoser taskId branchId loser
    let others ← loserPreactivations taskId branchId losers
    pure ((head.map fun e => (loser, e)).toList ++ others)

/-- Cancels a dormant loser; one that was activated meanwhile aborts the attempt. -/
def cancelLoser (now : ℤ) (c : BranchRow × ExecutionRow) : Tx D (Option ExecutionRow) := do
  let cancelled ← orAbort (compareAndSetExecution c.2.id 1
    (preactivationCancelPatch now "TASK_ADOPTED_BEFORE_ACTIVATION")) .lostRace
  pure (some cancelled)

/-- What becomes of an open branch when `branchId` is adopted. -/
def resolution (branchId : String) (item : BranchRow) : BranchPatch :=
  { resolutionState := some (if item.branchId = branchId then .adopted else .superseded) }

/-- The loop that resolves the open branches; it returns the superseded ones. -/
def resolveOpenBranches (branchId : String) : List BranchRow → Tx D (List String)
  | [] => pure []
  | item :: items => do
    let _ ← orAbort (compareAndSetTaskBranch item.branchId item.revision
      (resolution branchId item)) .lostRace
    let superseded ← resolveOpenBranches branchId items
    pure (if item.branchId = branchId then superseded else item.branchId :: superseded)

def adoptedBudget (budget : BudgetRow) (released : ℤ × ℤ) (now : ℤ) : BudgetPatch :=
  { state := some .closed, closedAt := some (some now), activeBranches := some 0
    activeExecutions := some (budget.activeExecutions - released.1)
    activeParallelAgents := some (budget.activeParallelAgents - released.2) }

def adoptedTask (output : Option Json) : TaskPatch :=
  { status := some .completed, waitReasons := some [], output := some output, error := some none }

/-- The selected branch's current execution, which has to have a result. -/
def completedHead (taskId branchId : String) (selected : BranchRow) :
    Tx D (ExecutionRow × JsonObject) := do
  let current ← expect selected.currentExecutionId (.branchResolution
    "BRANCH_RESULT_NOT_COMPLETED" "Selected branch has no current execution.")
  let incomplete := Failure.branchResolution "BRANCH_RESULT_NOT_COMPLETED"
    "Selected current execution has no durable COMPLETED result."
  let execution ← expect (← reads (getExecution · current)) incomplete
  ensure (execution.taskId = some taskId ∧ execution.branchId = some branchId ∧
    execution.state = .completed) incomplete
  let result ← expect execution.result incomplete
  pure (execution, result)

/-- The answer to an adoption that was committed before. -/
def replayedAdoption (task : TaskRow) (budget : BudgetRow) (branches : List BranchRow)
    (selected : BranchRow) : Option TaskAdoptionResult :=
  if task.status = .completed ∧ selected.resolutionState = .adopted then
    selected.currentExecutionId.map fun executionId =>
      ⟨task.id, task.revision, selected.branchId, executionId, budget.revision,
        (branches.filter (·.resolutionState = .superseded)).map (·.branchId), []⟩
  else none

def adoptBranch (taskId branchId targetUserId : String) (now : ℤ) : Tx D TaskAdoptionResult := do
  let code := "TASK_RESOLUTION_CONFLICT"
  let (task, budget, branches, selected) ← loadResolution code taskId branchId targetUserId
  if task.status.isTerminal then
    expect (replayedAdoption task budget branches selected)
      (.branchResolution "TASK_ALREADY_RESOLVED" s!"Task is already {task.status.value}.")
  else
    ensure (budget.state = .open)
      (.branchResolution code "Nonterminal Task has a CLOSED TaskBudget.")
    ensure (selected.resolutionState = .open)
      (.branchResolution "BRANCH_NOT_OPEN"
        s!"Selected TaskBranch is already {selected.resolutionState.value}.")
    ensure (selected.currentExecutionId.isSome)
      (.branchResolution "BRANCH_RESULT_NOT_COMPLETED" "Selected branch has no current execution.")
    ensure (budget.activeBranches = (openBranches branches).length)
      (.branchResolution code "TaskBudget active_branches differs from branch authority.")
    let (execution, result) ← completedHead taskId branchId selected
    let losers ← loserPreactivations taskId branchId (openBranches branches)
    let claims ← reads (listCreatedResumeClaimsForTask · taskId)
    let released ← cancelDormant (cancelLoser now) losers
    ensure (released.1 ≤ budget.activeExecutions)
      (.branchResolution code "ADOPT would underflow active_executions.")
    ensure (released.2 ≤ budget.activeParallelAgents)
      (.branchResolution code "ADOPT would underflow active_parallel_agents.")
    let output ← jsonSafe "agent_tasks.output" (some (.obj result))
    let updatedTask ← orAbort (compareAndSetTask taskId task.revision (adoptedTask output)) .lostRace
    let updatedBudget ← orAbort (compareAndSetTaskBudget taskId budget.revision
      (adoptedBudget budget released now) (some budget.incarnationGeneration)) .lostRace
    let superseded ← resolveOpenBranches branchId (openBranches branches)
    rejectClaims now claims
    pure ⟨taskId, updatedTask.revision, branchId, execution.id, updatedBudget.revision, superseded,
      claims.map (·.claimId)⟩

/-! ### Discarding is lawful -/

section Discards

variable {db db' : Db D} {code taskId branchId targetUserId : String} {now : ℤ}

theorem loadResolution_ok {task : TaskRow} {budget : BudgetRow} {branches : List BranchRow}
    {selected : BranchRow}
    (h : loadResolution code taskId branchId targetUserId db =
      .ok ((task, budget, branches, selected), db')) :
    db' = db ∧ getTask db taskId = some task ∧ getTaskBudget db taskId = some budget ∧
      branches = listTaskBranches db taskId ∧ selected ∈ branches ∧
      getTaskBranch db branchId = some selected ∧ selected.taskId = taskId := by
  simp only [loadResolution, steps_ok, pure_ok, Prod.mk.injEq] at h
  obtain ⟨-, task, htask, budget, hbudget, selected, hsel, -, ⟨rfl, rfl, rfl, rfl⟩, rfl⟩ := h
  have hmem := mem_of_find?_eq_some hsel
  have hid : selected.branchId = branchId := by simpa using find?_some hsel
  obtain ⟨hrow, htaskId⟩ := mem_filter.1 hmem
  refine ⟨rfl, htask, hbudget, rfl, hmem, ?_, by simpa using htaskId⟩
  rw [← hid]
  exact find?_key hrow

variable {current : Option String} {released : ℤ × ℤ}

/-- The head of a discarded branch is over and is left alone, or is a dormant execution that is
cancelled. -/
theorem releaseHead_cases (h : releaseHead taskId branchId current now db = .ok (released, db')) :
    (released = (0, 0) ∧ db' = db ∧ ∀ x ∈ current, ∃ e, getExecution db x = some e ∧
      e.taskId = some taskId ∧ e.branchId = some branchId ∧ e.state.isTerminal = true) ∨
    ∃ e e', current = some e.id ∧ getExecution db e.id = some e ∧ e.branchId = some branchId ∧
      IsCancellation taskId (e, e') ∧
      released = (1, if e.parentExecutionId.isSome then 1 else 0) ∧
      db' = { db with executions := db.executions.put e' } := by
  cases current with
  | none =>
    obtain ⟨rfl, rfl⟩ := pure_mk.1 h
    exact .inl ⟨rfl, rfl, by simp⟩
  | some executionId =>
    simp only [releaseHead, steps_ok, ite_ok, pure_ok, compareAndSetExecution,
      updateExecution_bind_ok, Prod.mk.injEq] at h
    obtain ⟨e, he, ⟨htask, hbranch⟩, ⟨hterminal, rfl, rfl⟩ |
      ⟨-, ⟨hrun, hrev⟩, -, r, hr, -, rfl, rfl⟩⟩ := h
    · exact .inl ⟨rfl, rfl, by simpa using ⟨e, he, htask, hbranch, hterminal⟩⟩
    · have hid : e.id = executionId := key_of_find? he
      subst hid
      obtain rfl : r = e := mem_unique hr he
      exact .inr ⟨r, (preactivationCancelPatch now "BRANCH_DISCARDED_BEFORE_ACTIVATION").apply 2 r,
        rfl, hr, hbranch, ⟨htask, hrun, hrev, ⟨rfl, rfl, rfl, rfl⟩, rfl, rfl⟩, rfl, rfl⟩

theorem releaseHead_ok (h : releaseHead taskId branchId current now db = .ok (released, db')) :
    Cancels taskId released db db' := by
  obtain ⟨rfl, rfl, -⟩ | ⟨e, e', -, he, -, hc, rfl, rfl⟩ := releaseHead_cases h
  · exact .refl _ _
  · exact .one he hc

/-- The head of a discarded branch is terminal afterwards, and no other execution is touched. -/
theorem releaseHead_rows (h : releaseHead taskId branchId current now db = .ok (released, db')) :
    (∀ x ∈ current, ∃ e, getExecution db x = some e ∧ e.taskId = some taskId ∧
      e.branchId = some branchId ∧ ∃ e', getExecution db' x = some e' ∧ e'.state.isTerminal = true ∧
      (e' = e ∨ (e.state = .running ∧ e.revision = 1))) ∧
    ∀ x, current ≠ some x → getExecution db' x = getExecution db x := by
  obtain ⟨-, rfl, hhead⟩ | ⟨e, e', rfl, he, hbranch, hc, -, rfl⟩ := releaseHead_cases h
  · refine ⟨fun x hx => ?_, fun _ _ => rfl⟩
    obtain ⟨e, he, htask, hbranch, hterminal⟩ := hhead x hx
    exact ⟨e, he, htask, hbranch, e, he, hterminal, .inl rfl⟩
  · simp only [mem_some_iff, forall_eq']
    refine ⟨⟨e, he, hc.taskId, hbranch, e', find?_put_same he hc.lineage.id, ?_,
      .inr ⟨hc.running, hc.revision⟩⟩, fun x hx => ?_⟩
    · rw [hc.cancelled]
      rfl
    · exact find?_put_of_ne fun hk => hx (congrArg some (hk.trans hc.lineage.id).symm)

variable {result : BranchDiscardResult}

variable (h : discardBranch taskId branchId targetUserId now db = .ok (result, db'))

include h

/-- **A discard finds its branch discarded, or resolves an open one and releases its head.** -/
theorem discardBranch_ok :
    ∃ task budget selected, getTask db taskId = some task ∧
      getTaskBudget db taskId = some budget ∧ getTaskBranch db branchId = some selected ∧
      selected.taskId = taskId ∧
      ((selected.resolutionState = .discarded ∧ db' = db) ∨
        (selected.resolutionState = .open ∧ task.status.isTerminal = false ∧
          1 < (openBranches (listTaskBranches db taskId)).length ∧
          ∃ released executions,
          releaseHead taskId branchId selected.currentExecutionId now db =
            .ok (released, { db with executions }) ∧
          ((discardedBudget budget released).apply budget.revision budget).Checks ∧
          db' = { db with
            executions
            branches := db.branches.put
              ({ resolutionState := some .discarded : BranchPatch }.apply selected.revision selected)
            budgets := db.budgets.put
              ((discardedBudget budget released).apply budget.revision budget) })) := by
  obtain ⟨⟨task, budget, branches, selected⟩, db1, hload, h⟩ := bind_ok.1 h
  obtain ⟨rfl, htask, hbudget, rfl, -, hsel, hselTask⟩ := loadResolution_ok hload
  refine ⟨task, budget, selected, htask, hbudget, hsel, hselTask, ?_⟩
  simp only [ite_ok, pure_ok, steps_ok, Prod.mk.injEq] at h
  rcases h with ⟨hdiscarded, -, rfl⟩ | ⟨-, hopen, ⟨hlive, -⟩, hseveral, -, h⟩
  · exact .inl ⟨hdiscarded, rfl⟩
  obtain ⟨released, db2, hrelease, h⟩ := bind_ok.1 h
  obtain ⟨l, executions, rfl, -, -, -⟩ := releaseHead_ok hrelease
  simp only [steps_ok, compareAndSetTaskBranch_bind_ok, compareAndSetTaskBudget_bind_ok,
    pure_mk] at h
  obtain ⟨-, -, branch, hbranch, -, b, hb, -, hchecks, -, rfl⟩ := h
  have hbr : branch = selected := mem_unique hbranch hsel
  have hbb : b = budget := mem_unique hb hbudget
  subst hbr hbb
  exact .inr ⟨hopen, hlive, hseveral, released, executions, hrelease, hchecks, rfl⟩

/-- **Discarding resolves one open branch and gives back its slot and that of a dormant head.** -/
theorem discardBranch_commit :
    Commit db db' := by
  obtain ⟨task, b, branch, htask, hb, hbranch, hselTask, ⟨-, rfl⟩ | ⟨hopen, -, -, released,
    executions, hrelease, hchecks, rfl⟩⟩ := discardBranch_ok h
  · exact .refl _
  obtain ⟨l, executions', hdb, hlogE, hl, rfl⟩ := releaseHead_ok hrelease
  obtain rfl : executions' = executions := (congrArg Db.executions hdb).symm
  have hgrows : b.Grows ((discardedBudget b (↑l.length, ↑(delegatedCount l))).apply b.revision b) := by
    constructor <;> simp [discardedBudget, BudgetPatch.apply]
  have hbid : b.taskId = taskId := key_of_find? hb
  refine ⟨{ budgets := [.update b _], executions := cancellations l, branches := [.update branch _] },
    { log := ⟨.nil _, .of_put hb hgrows.taskId, hlogE, .of_put hbranch rfl, .nil _⟩
      budgets := ?_, executions := cancellations_lawful hl db
      moved := cancellations_moved hl hlogE, branches := ?_, adopts := ?_ },
    cancellations_balanced hl hbid rfl rfl fun τ => ?_⟩
  · simpa [LawfulBudget] using ⟨hgrows, hchecks⟩
  · simpa [LawfulBranch, BranchPatch.apply] using hopen
  · intro x x' hx hadopted
    simp only [mem_singleton, RowWrite.update.injEq] at hx
    rw [hx.2] at hadopted
    cases hadopted
  · by_cases hτ : taskId = τ <;>
      simp [RowWrite.countDelta, discardedBudget, BudgetPatch.apply, BranchPatch.apply,
        BranchRow.openFor, hopen, hselTask, hτ]

end Discards

/-! ### Adoption is lawful -/

section Adoptions

variable {db db' : Db D} {taskId branchId targetUserId : String} {now : ℤ}

theorem dormantLoser_ok {loser : BranchRow} {head : Option ExecutionRow}
    (h : dormantLoser taskId branchId loser db = .ok (head, db')) :
    db' = db ∧ ∀ e ∈ head, IsCandidate db taskId e := by
  unfold dormantLoser at h
  rw [ite_ok] at h
  rcases h with ⟨-, h⟩ | ⟨-, h⟩
  · cases pure_ok.1 h
    exact ⟨rfl, by simp⟩
  rcases hcur : loser.currentExecutionId with _ | executionId
  · simp only [hcur, pure_mk] at h
    exact ⟨h.2, by simp [h.1]⟩
  · simp only [hcur, steps_ok, ite_ok, pure_ok, Prod.mk.injEq] at h
    obtain ⟨e, he, ⟨htask, -⟩, ⟨-, rfl, rfl⟩ | ⟨hrun, ⟨-, rfl, rfl⟩ | ⟨-, -, rfl, rfl⟩⟩⟩ := h
    · exact ⟨rfl, by simp⟩
    · exact ⟨rfl, by simp⟩
    · obtain ⟨hstate, hrev⟩ := not_not.1 hrun
      simpa using ⟨mem_of_find? he, hstate, hrev, htask⟩

theorem loserPreactivations_ok {losers : List BranchRow} {cs : List (BranchRow × ExecutionRow)}
    (h : loserPreactivations taskId branchId losers db = .ok (cs, db')) :
    db' = db ∧ ∀ c ∈ cs, IsCandidate db taskId c.2 := by
  induction losers generalizing cs db' with
  | nil =>
    cases pure_ok.1 h
    exact ⟨rfl, by simp⟩
  | cons loser losers ih =>
    unfold loserPreactivations at h
    rw [bind_ok] at h
    obtain ⟨head, db1, hhead, h⟩ := h
    obtain ⟨rfl, hcand⟩ := dormantLoser_ok hhead
    rw [bind_ok] at h
    obtain ⟨others, db2, hothers, h⟩ := h
    obtain ⟨rfl, hrest⟩ := ih hothers
    cases pure_ok.1 h
    refine ⟨rfl, fun c hc => ?_⟩
    rcases mem_append.1 hc with hc | hc
    · simp only [mem_toList, map_eq_some_iff] at hc
      obtain ⟨e, he, rfl⟩ := hc
      exact hcand e he
    · exact hrest c hc

variable {items : List BranchRow}

theorem resolveOpenBranches_ok {superseded : List String}
    (h : resolveOpenBranches branchId items db = .ok (superseded, db'))
    (hitems : ∀ b ∈ items, b ∈ db.branches) (hnodup : (items.map (·.branchId)).Nodup) :
    ∃ t, db' = { db with branches := t } ∧
      TableLog db.branches
        (items.map fun b => .update b ((resolution branchId b).apply b.revision b)) t ∧
      ∀ b ∈ t, (b ∈ db.branches ∧ ∀ b0 ∈ items, b0.branchId ≠ b.branchId) ∨
        ∃ b0 ∈ items, b = (resolution branchId b0).apply b0.revision b0 := by
  induction items generalizing db db' superseded with
  | nil =>
    cases pure_ok.1 h
    exact ⟨db.branches, rfl, .nil _, fun b hb => .inl ⟨hb, by simp⟩⟩
  | cons item items ih =>
    unfold resolveOpenBranches at h
    rw [compareAndSetTaskBranch_bind_ok] at h
    obtain ⟨r, hr, hrev, h⟩ := h
    have hitem := hitems item mem_cons_self
    obtain rfl : r = item := mem_unique hr (find?_key hitem)
    obtain ⟨rest, db1, hrest, h⟩ := bind_ok.1 h
    rw [map_cons, nodup_cons] at hnodup
    -- the other items have other keys, so the update leaves them in the table
    have hkeep : ∀ b ∈ items, b ∈ db.branches.put ((resolution branchId r).apply r.revision r) := by
      intro b hb
      refine mem_put.2 (.inl ⟨hitems b (mem_cons_of_mem _ hb), fun he => ?_⟩)
      exact hnodup.1 (mem_map.2 ⟨b, hb, he⟩)
    obtain ⟨t, rfl, hlog, hrows⟩ := ih hrest hkeep hnodup.2
    obtain ⟨-, rfl⟩ := pure_mk.1 h
    have hput : TableLog db.branches [.update r ((resolution branchId r).apply r.revision r)]
        (db.branches.put ((resolution branchId r).apply r.revision r)) := .of_put hr rfl
    refine ⟨t, rfl, hput.append hlog, fun b hb => ?_⟩
    rcases hrows b hb with ⟨hmem, hne⟩ | ⟨b0, hb0, rfl⟩
    · rcases mem_put.1 hmem with ⟨hold, hkey⟩ | ⟨rfl, -⟩
      · refine .inl ⟨hold, fun b0 hb0 => ?_⟩
        rcases mem_cons.1 hb0 with rfl | hb0
        · exact fun he => hkey he.symm
        · exact hne b0 hb0
      · exact .inr ⟨r, mem_cons_self .., rfl⟩
    · exact .inr ⟨b0, mem_cons_of_mem _ hb0, rfl⟩

/-- Resolving open branches of a task takes each of them from the open ones. -/
theorem resolutions_open (hitems : ∀ b ∈ items, b.resolutionState = .open ∧ b.taskId = taskId)
    (τ : String) :
    ((items.map fun b => RowWrite.update b ((resolution branchId b).apply b.revision b)).map
      (·.countDelta (BranchRow.openFor τ))).sum = if taskId = τ then -(items.length : ℤ) else 0 := by
  induction items with
  | nil => simp
  | cons b items ih =>
    obtain ⟨hopen, htask⟩ := hitems b mem_cons_self
    have htail := ih fun b' hb' => hitems b' (mem_cons_of_mem _ hb')
    have hclosed : ((resolution branchId b).apply b.revision b).resolutionState ≠ .open := by
      simp only [resolution, BranchPatch.apply, getD_some]
      split <;> decide
    have hhead : (RowWrite.update b ((resolution branchId b).apply b.revision b)).countDelta
        (BranchRow.openFor τ) = -(if taskId = τ then 1 else 0) := by
      simp [RowWrite.countDelta, BranchRow.openFor, hclosed, hopen, htask]
    simp only [map_cons, sum_cons]
    rw [htail, hhead]
    by_cases hτ : taskId = τ
    · simp only [if_pos hτ, length_cons]
      omega
    · simp only [if_neg hτ, neg_zero, add_zero]

theorem cancelLoser_cancelsDormant {c : BranchRow × ExecutionRow} :
    CancelsDormant (D := D) c.2.id (cancelLoser now c) := by
  intro db o db' h
  simp only [cancelLoser, compareAndSetExecution, updateExecution_bind_ok, pure_ok,
    Prod.mk.injEq] at h
  obtain ⟨e, he, hrev, rfl, rfl⟩ := h
  exact .inr ⟨e, (preactivationCancelPatch now "TASK_ADOPTED_BEFORE_ACTIVATION").apply 2 e, he, hrev,
    ⟨rfl, rfl, rfl, rfl⟩, rfl, rfl, rfl, rfl⟩

theorem completedHead_ok {selected : BranchRow} {e : ExecutionRow} {r : JsonObject}
    (h : completedHead taskId branchId selected db = .ok ((e, r), db')) :
    db' = db ∧ ∃ x, selected.currentExecutionId = some x ∧ getExecution db x = some e ∧
      e.state = .completed ∧ e.result = some r := by
  simp only [completedHead, steps_ok, pure_ok, Prod.mk.injEq] at h
  obtain ⟨x, hx, e, he, ⟨-, -, hstate⟩, r, hr, ⟨rfl, rfl⟩, rfl⟩ := h
  exact ⟨rfl, x, hx, he, hstate, hr⟩

theorem openBranches_mem {b : BranchRow} (hb : b ∈ openBranches (listTaskBranches db taskId)) :
    b ∈ db.branches ∧ b.taskId = taskId ∧ b.resolutionState = .open := by
  obtain ⟨hmem, hopen⟩ := mem_filter.1 hb
  obtain ⟨hrow, htask⟩ := mem_filter.1 hmem
  exact ⟨hrow, by simpa using htask, by simpa using hopen⟩

theorem openBranches_nodup :
    ((openBranches (listTaskBranches db taskId)).map (·.branchId)).Nodup :=
  db.branches.nodup.sublist ((filter_sublist.trans filter_sublist).map _)

/-- The one adopted row is the resolution of the selected branch. -/
theorem eq_of_resolution_adopted {selected a a' : BranchRow}
    (hsel : getTaskBranch db branchId = some selected)
    (ha : .update a a' ∈ (openBranches (listTaskBranches db taskId)).map fun i =>
      RowWrite.update i ((resolution branchId i).apply i.revision i))
    (hadopted : a'.resolutionState = .adopted) :
    a' = (resolution branchId selected).apply selected.revision selected := by
  obtain ⟨i, hi, heq⟩ := mem_map.1 ha
  obtain ⟨rfl, rfl⟩ := RowWrite.update.inj heq
  have hid : i.branchId = branchId := by
    by_contra hne
    simp [resolution, BranchPatch.apply, hne] at hadopted
  obtain rfl : i = selected := mem_unique (hid ▸ find?_key (openBranches_mem hi).1) hsel
  rfl

/-- **Adoption completes the task with the result of the selected branch, and settles the rest.** -/
theorem adoptBranch_commit {answer : TaskAdoptionResult}
    (h : adoptBranch taskId branchId targetUserId now db = .ok (answer, db')) : Commit db db' := by
  obtain ⟨⟨task, budget, branches, selected⟩, db1, hload, h⟩ := bind_ok.1 h
  obtain ⟨rfl, htask, hbudget, rfl, hmem, hsel, hselTask⟩ := loadResolution_ok hload
  simp only [ite_ok, expect_ok, steps_ok, Prod.mk.injEq] at h
  rcases h with ⟨-, _, -, -, rfl⟩ | ⟨hlive, hopen, hselOpen, -, hslots, h⟩
  · exact .refl _
  obtain ⟨⟨e, r⟩, db2, hhead, h⟩ := bind_ok.1 h
  obtain ⟨rfl, x, hcurrent, hx, hstate, hresult⟩ := completedHead_ok hhead
  obtain ⟨losers, db3, hlosers, h⟩ := bind_ok.1 h
  obtain ⟨rfl, hcand⟩ := loserPreactivations_ok hlosers
  simp only [steps_ok] at h
  obtain ⟨released, db4, hcancel, h⟩ := bind_ok.1 h
  obtain ⟨⟨l, executions, rfl, hlogE, hl, rfl⟩, -⟩ := cancelDormant_ok
    (fun c _ => cancelLoser_cancelsDormant) hcand (fun e he => .inl he) hcancel
  simp only [steps_ok, jsonSafe_bind_ok, compareAndSetTask_bind_ok,
    compareAndSetTaskBudget_bind_ok] at h
  obtain ⟨-, -, hsafe, u, hu, -, b, hb, -, hchecks, h⟩ := h
  have hut : u = task := mem_unique hu htask
  have hbb : b = budget := mem_unique hb hbudget
  subst hut hbb
  obtain ⟨superseded, db5, hresolve, h⟩ := bind_ok.1 h
  have hitems : ∀ i ∈ openBranches (listTaskBranches db3 taskId), i ∈ db3.branches :=
    fun i hi => (openBranches_mem hi).1
  obtain ⟨tbl, rfl, hlogB, hrows⟩ := resolveOpenBranches_ok hresolve hitems openBranches_nodup
  obtain ⟨_, db6, hreject, h⟩ := bind_ok.1 h
  obtain ⟨-, rfl⟩ := pure_mk.1 h
  obtain ⟨ws, claims, rfl, hlogC, hws, hrest⟩ := rejectClaims_ok hreject
  have hgrows : b.Grows ((adoptedBudget b (↑l.length, ↑(delegatedCount l)) now).apply b.revision
      b) := by
    constructor <;> simp [adoptedBudget, BudgetPatch.apply]
  have hbid : b.taskId = taskId := key_of_find? hbudget
  have hid : u.id = taskId := key_of_find? htask
  have hclosed : ∀ c ∈ claims, c.state = .created →
      isExecutionOfTask db3 taskId c.executionId = false := claims_closed hrest
  refine ⟨{ tasks := [.update u _], budgets := [.update b _], executions := cancellations l
            branches := (openBranches (listTaskBranches db3 taskId)).map fun i =>
              .update i ((resolution branchId i).apply i.revision i)
            claims := ws },
    { log := ⟨.of_put hu rfl, .of_put hb hgrows.taskId, hlogE, hlogB, hlogC⟩
      tasks := ?_, budgets := ?_, executions := cancellations_lawful hl db3
      moved := cancellations_moved hl hlogE, branches := ?_, claims := fun w hw => hws w hw _
      closes := ?_, adopts := ?_ },
    cancellations_balanced hl hbid rfl rfl fun τ => ?_⟩
  · simpa [LawfulTask] using hlive
  · simpa [LawfulBudget] using ⟨hgrows, hchecks⟩
  · intro w hw
    obtain ⟨i, hi, rfl⟩ := mem_map.1 hw
    exact ⟨(openBranches_mem hi).2.2, rfl⟩
  · intro t t' ht _
    simp only [mem_singleton, RowWrite.update.injEq] at ht
    obtain ⟨-, rfl⟩ := ht
    have hput := find?_put_same hb hgrows.taskId
    rw [← hid] at hput hclosed
    refine ⟨⟨⟨_, hput, rfl⟩, fun c hc hcreated => ?_⟩, cancellations_not_entering hl _⟩
    rw [← hclosed c hc hcreated]
    exact cancellations_isExecutionOfTask hl hlogE u.id c.executionId
  · intro a a' ha hadopted
    have ha' := eq_of_resolution_adopted hsel ha hadopted
    refine ⟨?_, ?_, fun c c' hc hc' => (eq_of_resolution_adopted hsel hc hc').trans ha'.symm⟩
    · rw [ha', show ((resolution branchId selected).apply selected.revision selected).taskId
        = taskId from hselTask]
      exact ⟨u, htask, by simpa using hlive⟩
    · subst ha'
      have hx' : executions.find? x = some e :=
        (TableLog.not_updated hlogE (P := fun e => e.state = .running)
          (fun p hp => (hl p hp).running) hx (by rw [hstate]; decide)).2
      have hput := find?_put_same hb hgrows.taskId
      have hdone : (db3.tasks.put ((adoptedTask (some (.obj r))).apply u.revision u)).find? taskId =
          some ((adoptedTask (some (.obj r))).apply u.revision u) := find?_put_same htask rfl
      rw [← hselTask] at hput hdone
      refine ⟨⟨_, hdone, rfl, x, e, r, hcurrent, hx', hstate, hresult, ?_, ?_⟩, ⟨_, hput, rfl⟩, ?_⟩
      · exact hsafe _ rfl
      · exact some_ne_none _
      · intro b' hb' hb'task
        rcases hrows b' hb' with ⟨hold, hne⟩ | ⟨b0, -, rfl⟩
        · intro hb'open
          refine hne b' (mem_filter.2 ⟨mem_filter.2 ⟨hold, ?_⟩, ?_⟩) rfl
          · simpa using hb'task.trans hselTask
          · simpa using hb'open
        · simp only [resolution, BranchPatch.apply, getD_some]
          split <;> decide
  · rw [resolutions_open (fun i hi => ⟨(openBranches_mem hi).2.2, (openBranches_mem hi).2.1⟩) τ]
    simp [adoptedBudget, BudgetPatch.apply, hslots]

end Adoptions

end AssistantRuntime.TaskBudget

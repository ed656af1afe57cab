/-
**What a committed unit of work did.**

A unit of work of the agent runtime is a sequence of checks and statements; what is left of it in
the database is the list of rows it wrote to tasks, budgets, executions, branches and resume claims.
This file names those lists and says which of them the runtime may leave behind.  Every operation is
shown, once, to leave a lawful list; every invariant is derived from the laws alone.
-/

import AssistantRuntime.Agent.Repository
import AssistantRuntime.Relational.RowWrite

namespace AssistantRuntime.Agent

open Relational Uow List

variable {D : Digests}

/-! ### The rows a unit of work wrote -/

/-- The rows written to each of the tables that the invariants speak about. -/
structure Changes (π : Type) where
  tasks : List (RowWrite TaskRow) := []
  budgets : List (RowWrite BudgetRow) := []
  executions : List (RowWrite ExecutionRow) := []
  branches : List (RowWrite BranchRow) := []
  claims : List (RowWrite (ClaimRow π)) := []

/-- The database before and after some changes; tables that the changes do not name are free. -/
structure Log (db : Db D) (c : Changes D.Plan) (db' : Db D) : Prop where
  tasks : TableLog db.tasks c.tasks db'.tasks
  budgets : TableLog db.budgets c.budgets db'.budgets
  executions : TableLog db.executions c.executions db'.executions
  branches : TableLog db.branches c.branches db'.branches
  claims : TableLog db.claims c.claims db'.claims

/-! ### How rows may change -/

/-- The task exists and is not over. -/
def TaskLive (db : Db D) (taskId : String) : Prop :=
  ∃ t, getTask db taskId = some t ∧ t.status.isTerminal = false

def BudgetOpen (db : Db D) (taskId : String) : Prop :=
  ∃ b, getTaskBudget db taskId = some b ∧ b.state = .open

/-- The columns of an execution that no statement sets. -/
structure ExecutionRow.SameLineage (e e' : ExecutionRow) : Prop where
  id : e'.id = e.id
  taskId : e'.taskId = e.taskId
  branchId : e'.branchId = e.branchId
  parentExecutionId : e'.parentExecutionId = e.parentExecutionId

theorem ExecutionRow.SameLineage.refl (e : ExecutionRow) : e.SameLineage e := ⟨rfl, rfl, rfl, rfl⟩

theorem ExecutionRow.SameLineage.trans {e1 e2 e3 : ExecutionRow} (h : e1.SameLineage e2)
    (h' : e2.SameLineage e3) : e1.SameLineage e3 :=
  ⟨h'.id.trans h.id, h'.taskId.trans h.taskId, h'.branchId.trans h.branchId,
    h'.parentExecutionId.trans h.parentExecutionId⟩

/-- An update of an execution either leaves its semantic revision, its state, its checkpoint and its
result alone (a lease), or it moves the revision by one and does not start from a terminal state. -/
def ExecutionRow.Moves (e e' : ExecutionRow) : Prop :=
  e.SameLineage e' ∧
    ((e'.state = e.state ∧ e'.revision = e.revision ∧ e'.result = e.result ∧
        e'.currentCheckpointId = e.currentCheckpointId) ∨
      (e.state.isTerminal = false ∧ e'.revision = e.revision + 1))

/-- Counters of use only grow, limits and policy stay, and a closed budget stays closed. -/
structure BudgetRow.Grows (b b' : BudgetRow) : Prop where
  taskId : b'.taskId = b.taskId
  incarnationGeneration : b'.incarnationGeneration = b.incarnationGeneration
  limits : b'.limits = b.limits
  policyVersion : b'.policyVersion = b.policyVersion
  policyFingerprint : b'.policyFingerprint = b.policyFingerprint
  denyRecursiveAgentCycle : b'.denyRecursiveAgentCycle = b.denyRecursiveAgentCycle
  usedExecutions : b.usedExecutions ≤ b'.usedExecutions
  usedToolCalls : b.usedToolCalls ≤ b'.usedToolCalls
  usedInferenceCalls : b.usedInferenceCalls ≤ b'.usedInferenceCalls
  usedTokens : b.usedTokens ≤ b'.usedTokens
  usedCostUsd : b.usedCostUsd ≤ b'.usedCostUsd
  state : b.state = .closed → b'.state = .closed

/-- A budget as `save_task_budget` first stores it. -/
structure BudgetRow.IsFresh (b : BudgetRow) : Prop where
  activeExecutions : b.activeExecutions = 0
  activeBranches : b.activeBranches = 0
  activeParallelAgents : b.activeParallelAgents = 0
  checks : b.Checks
  policyFits : b.PolicyFits

/-! ### Lawful writes -/

/-- A task is written only while it is alive. -/
def LawfulTask : RowWrite TaskRow → Prop
  | .insert _ => True
  | .update t _ => t.status.isTerminal = false

def LawfulBudget : RowWrite BudgetRow → Prop
  | .insert b => b.IsFresh
  | .update b b' => b.Grows b' ∧ b'.Checks

/-- An execution starts running at revision one, and only an open budget lets one run. -/
def LawfulExecution (db : Db D) : RowWrite ExecutionRow → Prop
  | .insert e => e.state = .running ∧ e.revision = 1 ∧ ∀ τ ∈ e.taskId, BudgetOpen db τ
  | .update e e' => e.Moves e' ∧
      (e.state ≠ .running → e'.state = .running → ∀ τ ∈ e.taskId, BudgetOpen db τ)

/-- A branch starts open under an open budget, and is written only while it is open. -/
def LawfulBranch (db : Db D) : RowWrite BranchRow → Prop
  | .insert b => b.resolutionState = .open ∧ BudgetOpen db b.taskId
  | .update b b' => b.resolutionState = .open ∧ b'.taskId = b.taskId

/-- A claim is made on an execution whose task is alive, and never becomes claimable again. -/
def LawfulClaim (db : Db D) : RowWrite (ClaimRow D.Plan) → Prop
  | .insert c => ∃ e, getExecution db c.executionId = some e ∧ ∀ τ ∈ e.taskId, TaskLive db τ
  | .update c c' => c'.executionId = c.executionId ∧ (c'.state = .created → c.state = .created)

def RowWrite.moved : RowWrite ExecutionRow → Option String
  | .insert _ => none
  | .update e e' => if e'.revision = e.revision then none else some e'.id

def RowWrite.EntersRunning (taskId : String) : RowWrite ExecutionRow → Prop
  | .insert e => e.taskId = some taskId
  | .update e e' => e.taskId = some taskId ∧ e.state ≠ .running ∧ e'.state = .running

/-- A task is over, its budget closed and no claim on it left open. -/
structure Sealed (db : Db D) (taskId : String) : Prop where
  budget : ∃ b, getTaskBudget db taskId = some b ∧ b.state = .closed
  claims : ∀ c ∈ db.claims, c.state = .created → isExecutionOfTask db taskId c.executionId = false

/-- An adopted branch, with everything that adoption settles. -/
structure Adopted (db : Db D) (b : BranchRow) : Prop where
  task : ∃ t, getTask db b.taskId = some t ∧ t.status = .completed ∧
    ∃ x e r, b.currentExecutionId = some x ∧ getExecution db x = some e ∧
      e.state = .completed ∧ e.result = some r ∧ (Json.obj r).toJsonSafe = t.output ∧ t.output ≠ none
  budget : ∃ bu, getTaskBudget db b.taskId = some bu ∧ bu.state = .closed
  settled : ∀ b' ∈ db.branches, b'.taskId = b.taskId → b'.resolutionState ≠ .open

/-- **The laws of a commit.**  Laws about tables that a commit did not touch hold for nothing. -/
structure Lawful (db : Db D) (c : Changes D.Plan) (db' : Db D) : Prop where
  log : Log db c db'
  tasks : ∀ w ∈ c.tasks, LawfulTask w := by simp
  budgets : ∀ w ∈ c.budgets, LawfulBudget w := by simp
  executions : ∀ w ∈ c.executions, LawfulExecution db w := by simp
  /-- A commit moves the revision of an execution once. -/
  moved : (c.executions.filterMap RowWrite.moved).Nodup := by simp
  branches : ∀ w ∈ c.branches, LawfulBranch db w := by simp
  claims : ∀ w ∈ c.claims, LawfulClaim db w := by simp
  /-- Whoever ends a task closes its budget and its claims, and starts nothing. -/
  closes : ∀ t t', .update t t' ∈ c.tasks → t'.status.isTerminal = true →
    Sealed db' t'.id ∧ ∀ w ∈ c.executions, ¬ RowWrite.EntersRunning t'.id w := by simp
  /-- Whoever adopts a branch does so for a live task, settles it and adopts one. -/
  adopts : ∀ b b', .update b b' ∈ c.branches → b'.resolutionState = .adopted →
    TaskLive db b'.taskId ∧ Adopted db' b' ∧
      ∀ a a', .update a a' ∈ c.branches → a'.resolutionState = .adopted → a' = b' := by simp

/-! ### Balanced counters -/

def ExecutionRow.runsFor (taskId : String) (e : ExecutionRow) : Bool :=
  e.state = .running ∧ e.taskId = some taskId

def ExecutionRow.delegatedFor (taskId : String) (e : ExecutionRow) : Bool :=
  e.runsFor taskId ∧ e.parentExecutionId.isSome

def BranchRow.openFor (taskId : String) (b : BranchRow) : Bool :=
  b.resolutionState = .open ∧ b.taskId = taskId

/-- The counter of active executions follows the running executions, the counter of active branches
follows the open branches. -/
structure Changes.Settled {π : Type} (c : Changes π) : Prop where
  active : ∀ τ, (c.budgets.map (·.valueDelta BudgetRow.taskId BudgetRow.activeExecutions τ)).sum =
    (c.executions.map (·.countDelta (ExecutionRow.runsFor τ))).sum := by simp
  branches : ∀ τ, (c.budgets.map (·.valueDelta BudgetRow.taskId BudgetRow.activeBranches τ)).sum =
    (c.branches.map (·.countDelta (BranchRow.openFor τ))).sum := by simp

/-- The counter of parallel agents follows the delegated executions. -/
def Changes.Paired {π : Type} (c : Changes π) : Prop :=
  ∀ τ, (c.budgets.map (·.valueDelta BudgetRow.taskId BudgetRow.activeParallelAgents τ)).sum =
    (c.executions.map (·.countDelta (ExecutionRow.delegatedFor τ))).sum

structure Changes.Balanced {π : Type} (c : Changes π) : Prop extends c.Settled where
  parallel : c.Paired := by simp [Changes.Paired]

/-- A lawful commit that starts no task in a terminal status. -/
structure StartsLive (db : Db D) (c : Changes D.Plan) (db' : Db D) : Prop
    extends Lawful db c db' where
  starts : ∀ t, .insert t ∈ c.tasks → t.status.isTerminal = false := by simp

/-- A lawful commit that settles its counters.  Two of its laws rest on what its caller promises: no
task starts in a terminal status if `live` holds, and the counter of parallel agents follows if
`fits` holds. -/
def CommitIf (live fits : Prop) (db db' : Db D) : Prop :=
  ∃ c, Lawful db c db' ∧ c.Settled ∧
    (live → ∀ t, .insert t ∈ c.tasks → t.status.isTerminal = false) ∧ (fits → c.Paired)

/-- **What an operation does that rests on no promise**: a lawful commit with balanced counters that
starts no task in a terminal status. -/
def Commit (db db' : Db D) : Prop := ∃ c, StartsLive db c db' ∧ c.Balanced

variable {db db' : Db D}

theorem Commit.commitIf (h : Commit db db') (live fits : Prop) :
    CommitIf live fits db db' := by
  obtain ⟨c, hlawful, hbalanced⟩ := h
  exact ⟨c, hlawful.toLawful, hbalanced.toSettled, fun _ => hlawful.starts,
    fun _ => hbalanced.parallel⟩

theorem CommitIf.commit (h : CommitIf True True db db') : Commit db db' := by
  obtain ⟨c, hlawful, hsettled, hstarts, hpaired⟩ := h
  exact ⟨c, ⟨hlawful, hstarts trivial⟩, hsettled, hpaired trivial⟩

theorem Commit.of_same (htasks : db'.tasks = db.tasks)
    (hbudgets : db'.budgets = db.budgets) (hexecutions : db'.executions = db.executions)
    (hbranches : db'.branches = db.branches) (hclaims : db'.claims = db.claims) :
    Commit db db' := by
  refine ⟨{}, { log := ?_ }, {}⟩
  exact ⟨.of_eq htasks, .of_eq hbudgets, .of_eq hexecutions, .of_eq hbranches, .of_eq hclaims⟩

theorem Commit.refl (db : Db D) : Commit db db := .of_same rfl rfl rfl rfl rfl

variable {taskId : String}

/-- A unit of work that moved a live task to a live status, and did nothing else. -/
theorem Commit.of_task {t t' : TaskRow}
    (ht : getTask db taskId = some t) (hid : t'.id = t.id) (hlive : t.status.isTerminal = false)
    (hlive' : t'.status.isTerminal = false) (htasks : db'.tasks = db.tasks.put t')
    (hbudgets : db'.budgets = db.budgets) (hexecutions : db'.executions = db.executions)
    (hbranches : db'.branches = db.branches) (hclaims : db'.claims = db.claims) : Commit db db' := by
  refine ⟨{ tasks := [.update t t'] }, { log := ?_, tasks := ?_, closes := ?_ }, {}⟩
  · exact ⟨.of_eq_put htasks ht hid, .of_eq hbudgets, .of_eq hexecutions, .of_eq hbranches,
      .of_eq hclaims⟩
  · simpa [LawfulTask] using hlive
  · intro u u' hu hterm
    simp only [mem_singleton, RowWrite.update.injEq] at hu
    rw [hu.2, hlive'] at hterm
    cases hterm

variable {b b' : BudgetRow}

/-- A unit of work that changed a budget without moving its active counters, and nothing else. -/
theorem Commit.of_budget (hb : getTaskBudget db taskId = some b) (hgrows : b.Grows b')
    (hchecks : b'.Checks) (hactive : b'.activeExecutions = b.activeExecutions)
    (hparallel : b'.activeParallelAgents = b.activeParallelAgents)
    (hslots : b'.activeBranches = b.activeBranches) (htasks : db'.tasks = db.tasks)
    (hbudgets : db'.budgets = db.budgets.put b') (hexecutions : db'.executions = db.executions)
    (hbranches : db'.branches = db.branches) (hclaims : db'.claims = db.claims) :
    Commit db db' := by
  refine ⟨{ budgets := [.update b b'] }, { log := ?_, budgets := ?_ }, ?_⟩
  · exact ⟨.of_eq htasks, .of_eq_put hbudgets hb hgrows.taskId, .of_eq hexecutions,
      .of_eq hbranches, .of_eq hclaims⟩
  · simpa [LawfulBudget] using ⟨hgrows, hchecks⟩
  · refine ⟨⟨?_, ?_⟩, ?_⟩ <;> simp [RowWrite.valueDelta, Changes.Paired, hactive, hparallel, hslots]

theorem Commit.of_claim {claimId : String} {c c' : ClaimRow D.Plan}
    (hc : getResumeClaim db claimId = some c) (hid : c'.claimId = c.claimId)
    (hexecution : c'.executionId = c.executionId)
    (hstate : c'.state = .created → c.state = .created) (hclaims : db'.claims = db.claims.put c')
    (htasks : db'.tasks = db.tasks) (hbudgets : db'.budgets = db.budgets)
    (hexecutions : db'.executions = db.executions) (hbranches : db'.branches = db.branches) :
    Commit db db' := by
  refine ⟨{ claims := [.update c c'] }, { log := ?_, claims := ?_ }, {}⟩
  · exact ⟨.of_eq htasks, .of_eq hbudgets, .of_eq hexecutions, .of_eq hbranches,
      .of_eq_put hclaims hc hid⟩
  · simpa [LawfulClaim] using ⟨hexecution, hstate⟩

/-! ### One execution moves -/

/-- The active counters of one budget move by the given amounts, and no other counter of an active
thing moves. -/
structure Shifts (bs : List (RowWrite BudgetRow)) (taskId : String) (active parallel : ℤ) :
    Prop where
  active : ∀ τ, (bs.map (·.valueDelta BudgetRow.taskId BudgetRow.activeExecutions τ)).sum =
    if taskId = τ then active else 0
  parallel : ∀ τ, (bs.map (·.valueDelta BudgetRow.taskId BudgetRow.activeParallelAgents τ)).sum =
    if taskId = τ then parallel else 0
  branches : ∀ τ, (bs.map (·.valueDelta BudgetRow.taskId BudgetRow.activeBranches τ)).sum = 0

theorem Shifts.one {active parallel : ℤ} (hid : b.taskId = taskId) (hid' : b'.taskId = b.taskId)
    (hactive : b'.activeExecutions = b.activeExecutions + active)
    (hparallel : b'.activeParallelAgents = b.activeParallelAgents + parallel)
    (hbranches : b'.activeBranches = b.activeBranches) :
    Shifts [.update b b'] taskId active parallel := by
  constructor <;> intro τ <;> simp [RowWrite.valueDelta, hid', hid, hactive, hparallel, hbranches]

def ExecutionRow.running (e : ExecutionRow) : ℤ := if e.state = .running then 1 else 0

variable {executionId : String} {ts : List (RowWrite TaskRow)} {bs : List (RowWrite BudgetRow)}
  {cs : List (RowWrite (ClaimRow D.Plan))} {e e' : ExecutionRow} {fits : Prop}

section

variable (hexecutions : db'.executions = db.executions.put e')
  (he : getExecution db executionId = some e) (hmoves : e.Moves e')
  (hbudgets : TableLog db.budgets bs db'.budgets) (hbs : ∀ w ∈ bs, LawfulBudget w)
  (htasks : TableLog db.tasks ts db'.tasks)
  (hts : ∀ w ∈ ts, LawfulTask w ∧ w.row.status.isTerminal = false)
  (hbranches : db'.branches = db.branches) (hclaims : TableLog db.claims cs db'.claims)
  (hcs : ∀ w ∈ cs, LawfulClaim db w)

include hexecutions he hmoves hbudgets hbs htasks hts hbranches hclaims hcs

/-- A unit of work that moved one execution, with what it took from or gave back to the budgets;
whatever it wrote to tasks kept them alive. -/
theorem CommitIf.of_moved
    (hopen : ∀ τ ∈ e.taskId, e.state ≠ .running → e'.state = .running → BudgetOpen db τ)
    (hactive : ∀ τ, (bs.map (·.valueDelta BudgetRow.taskId BudgetRow.activeExecutions τ)).sum =
      if e.taskId = some τ then e'.running - e.running else 0)
    (hslots : ∀ τ, (bs.map (·.valueDelta BudgetRow.taskId BudgetRow.activeBranches τ)).sum = 0)
    (hparallel : fits → ∀ τ,
      (bs.map (·.valueDelta BudgetRow.taskId BudgetRow.activeParallelAgents τ)).sum =
        if e.taskId = some τ ∧ e.parentExecutionId.isSome then e'.running - e.running else 0) :
    CommitIf True fits db db' := by
  have hlineage := hmoves.1
  refine ⟨{ tasks := ts, budgets := bs, executions := [.update e e'], claims := cs },
    { log := ?_, tasks := fun w hw => (hts w hw).1, budgets := hbs, executions := ?_,
      moved := ?_, claims := hcs, closes := ?_ }, ⟨?_, ?_⟩, fun _ t ht => (hts _ ht).2, ?_⟩
  · exact ⟨htasks, hbudgets, .of_eq_put hexecutions he hlineage.id, .of_eq hbranches, hclaims⟩
  · simp only [mem_singleton, forall_eq, LawfulExecution]
    exact ⟨hmoves, fun hleft hright τ hτ => hopen τ hτ hleft hright⟩
  · rw [filterMap_cons]
    cases RowWrite.moved (.update e e') <;> simp
  · intro t t' hw hterm
    rw [show t' = (RowWrite.update t t').row from rfl, (hts _ hw).2] at hterm
    cases hterm
  · intro τ
    rw [hactive τ]
    by_cases hτ : e.taskId = some τ <;>
      simp [RowWrite.countDelta, ExecutionRow.runsFor, ExecutionRow.running, hlineage.taskId, hτ]
  · intro τ
    rw [hslots τ]
    simp
  · intro hfits τ
    rw [hparallel hfits τ]
    by_cases hτ : e.taskId = some τ <;> by_cases hp : e.parentExecutionId.isSome <;>
      simp [RowWrite.countDelta, ExecutionRow.delegatedFor, ExecutionRow.runsFor,
        ExecutionRow.running, hlineage.taskId, hlineage.parentExecutionId, hτ, hp]

theorem CommitIf.of_move (htask : e.taskId = some taskId)
    (hopen : e.state ≠ .running → e'.state = .running → BudgetOpen db taskId) {parallel : ℤ}
    (hshifts : Shifts bs taskId (e'.running - e.running) parallel)
    (hparallel : fits →
      parallel = if e.parentExecutionId.isSome then e'.running - e.running else 0) :
    CommitIf True fits db db' := by
  refine .of_moved hexecutions he hmoves hbudgets hbs htasks hts hbranches hclaims hcs ?_ ?_
    hshifts.branches ?_
  · intro τ hτ
    cases Option.mem_unique htask hτ
    exact hopen
  · intro τ
    rw [hshifts.active τ, htask]
    simp
  · intro hfits τ
    rw [hshifts.parallel τ, hparallel hfits, htask]
    by_cases hτ : taskId = τ <;> simp [hτ]

end

end AssistantRuntime.Agent

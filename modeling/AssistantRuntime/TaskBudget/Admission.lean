/-
**Admissions.**

An admission creates one execution, `RUNNING` at revision one, that nobody has started yet, takes its
slot of the task budget and stores a receipt under the id of the request.  A fork also opens a branch
for it; a retry and an aggregation make it the head of a branch that is there.  This file has what
the three share.
-/

import AssistantRuntime.Agent.Planning
import AssistantRuntime.TaskBudget.Lifecycle

namespace AssistantRuntime.TaskBudget

open Relational Uow Agent List

variable {D : Digests}

/-! ### Shared steps -/

/-- `_normalize_execution_store_values`: the JSON columns have to be JSON-safe, and a value that is
comes back unchanged. -/
def normalizeExecutionStoreValues (e : ExecutionRow) : Tx D ExecutionRow := do
  let _ ← jsonSafe "agent_executions.request" (some e.request)
  let _ ← jsonSafe "agent_executions.result" (e.result.map .obj)
  let _ ← jsonSafe "agent_executions.context_state" e.contextState
  let _ ← jsonSafe "agent_executions.transcript" (e.transcript.map .arr)
  pure e

def JsonColumnsSafe (e : ExecutionRow) : Prop :=
  e.request.toJsonSafe = some e.request ∧
    (∀ r ∈ e.result, (Json.obj r).toJsonSafe = some (.obj r)) ∧
    (∀ c ∈ e.contextState, c.toJsonSafe = some c) ∧
    ∀ t ∈ e.transcript, (Json.arr t).toJsonSafe = some (.arr t)

@[simp] theorem normalizeExecutionStoreValues_bind_ok {α : Type} {e : ExecutionRow}
    {g : ExecutionRow → Tx D α} {db : Db D} {x : α × Db D} :
    (normalizeExecutionStoreValues e >>= g) db = .ok x ↔
      JsonColumnsSafe e ∧ g e db = .ok x := by
  simp only [normalizeExecutionStoreValues, bind_assoc, jsonSafe_bind_ok, pure_bind_ok,
    JsonColumnsSafe, and_assoc, Option.mem_map, forall_exists_index, and_imp,
    forall_apply_eq_imp_iff₂, Option.mem_some_iff, forall_eq']

/-- The budget columns of an execution that is admitted and starts to run. -/
def admitExecution (budget : BudgetRow) (delegated : Bool) : BudgetPatch :=
  { usedExecutions := some (budget.usedExecutions + 1)
    activeExecutions := some (budget.activeExecutions + 1)
    activeParallelAgents :=
      if delegated then some (budget.activeParallelAgents + 1) else none }

/-- The same, for an execution on a branch of its own. -/
def admitBranch (budget : BudgetRow) (delegated : Bool) : BudgetPatch :=
  { admitExecution budget delegated with activeBranches := some (budget.activeBranches + 1) }

theorem admitExecution_grows (b : BudgetRow) (delegated : Bool) (revision : ℕ) :
    b.Grows ((admitExecution b delegated).apply revision b) := by
  constructor <;> simp [admitExecution, BudgetPatch.apply]

theorem admitBranch_grows (b : BudgetRow) (delegated : Bool) (revision : ℕ) :
    b.Grows ((admitBranch b delegated).apply revision b) := by
  constructor <;> simp [admitBranch, admitExecution, BudgetPatch.apply]

/-- What an admission writes to its task: an activity epoch of its own, even where the visible
status stays. -/
def runningPatch : TaskPatch := { status := some .running, waitReasons := some [] }

/-- What an admission on a branch that is there writes to it. -/
def headPatch (executionId : String) : BranchPatch :=
  { currentExecutionId := some (some executionId) }

/-- A stored budget after the slot of one execution was taken from it. -/
structure SlotTaken (b b' : BudgetRow) (delegated : Bool) (branches : ℤ) : Prop where
  grows : b.Grows b'
  checks : b'.Checks
  usedExecutions : b'.usedExecutions = b.usedExecutions + 1
  activeExecutions : b'.activeExecutions = b.activeExecutions + 1
  activeParallelAgents :
    b'.activeParallelAgents = b.activeParallelAgents + if delegated then 1 else 0
  activeBranches : b'.activeBranches = b.activeBranches + branches

variable {delegated : Bool}

theorem admitExecution_slotTaken {b : BudgetRow} {revision : ℕ}
    (h : ((admitExecution b delegated).apply revision b).Checks) :
    SlotTaken b ((admitExecution b delegated).apply revision b) delegated 0 := by
  refine ⟨admitExecution_grows _ _ _, h, rfl, rfl, ?_, ?_⟩
  · cases delegated <;> simp [admitExecution, BudgetPatch.apply]
  · simp [admitExecution, BudgetPatch.apply]

theorem admitBranch_slotTaken {b : BudgetRow} {revision : ℕ}
    (h : ((admitBranch b delegated).apply revision b).Checks) :
    SlotTaken b ((admitBranch b delegated).apply revision b) delegated 1 := by
  refine ⟨admitBranch_grows _ _ _, h, rfl, rfl, ?_, rfl⟩
  cases delegated <;> simp [admitBranch, admitExecution, BudgetPatch.apply]

/-! ### Lawful writes of an admission -/

section Lawful

variable {db db' : Db D} {executionId taskId : String} {revision : ℕ} {b b' : BudgetRow} {n : ℤ}
  {e : ExecutionRow} {ts : List (RowWrite TaskRow)} {bs : List (RowWrite BranchRow)}

/-- A unit of work that admitted one running execution of a task: it took a slot of the open budget,
and whatever it wrote to tasks and branches kept them alive and open. -/
theorem SlotTaken.commit (hexecutions : db.executions.insert? e = some db'.executions)
    (hslot : SlotTaken b b' e.parentExecutionId.isSome n)
    (hb : getTaskBudget db taskId = some b) (hopen : b.state = .open)
    (hslots : ∀ τ, (if taskId = τ then n else 0) = (bs.map (·.countDelta (BranchRow.openFor τ))).sum)
    (hstate : e.state = .running) (hrevision : e.revision = 1) (htask : e.taskId = some taskId)
    (htasks : TableLog db.tasks ts db'.tasks)
    (hts : ∀ w ∈ ts, LawfulTask w ∧ w.row.status.isTerminal = false)
    (hbudgets : db'.budgets = db.budgets.put b') (hbranches : TableLog db.branches bs db'.branches)
    (hbs : ∀ w ∈ bs, LawfulBranch db w ∧ w.row.resolutionState = .open)
    (hclaims : db'.claims = db.claims) : Commit db db' := by
  obtain ⟨hgrows, hchecks, -, hactive, hparallel, hbranch⟩ := hslot
  have hid : b.taskId = taskId := Table.key_of_find? hb
  refine ⟨{ tasks := ts, budgets := [.update b b'], executions := [.insert e], branches := bs },
    { log := ?_, tasks := fun w hw => (hts w hw).1, budgets := ?_, executions := ?_,
      moved := ?_, branches := fun w hw => (hbs w hw).1, closes := ?_, adopts := ?_,
      starts := fun t ht => (hts _ ht).2 }, ?_⟩
  · exact ⟨htasks, .of_eq_put hbudgets hb hgrows.taskId, .of_insert hexecutions, hbranches,
      .of_eq hclaims⟩
  · simpa [LawfulBudget] using ⟨hgrows, hchecks⟩
  · simpa [LawfulExecution, hstate, hrevision, htask] using ⟨b, hb, hopen⟩
  · simp [filterMap_cons, RowWrite.moved]
  · intro t t' hw hterm
    rw [show t' = (RowWrite.update t t').row from rfl, (hts _ hw).2] at hterm
    cases hterm
  · intro a a' hw hadopted
    rw [show a' = (RowWrite.update a a').row from rfl, (hbs _ hw).2] at hadopted
    cases hadopted
  · refine ⟨⟨?_, ?_⟩, ?_⟩ <;> intro τ
    · by_cases hτ : taskId = τ <;>
        simp [RowWrite.valueDelta, RowWrite.countDelta, ExecutionRow.runsFor, hgrows.taskId, hid,
          hactive, hstate, htask, hτ]
    · rw [← hslots τ]
      simp [RowWrite.valueDelta, hgrows.taskId, hid, hbranch]
    · by_cases hτ : taskId = τ <;>
        simp [RowWrite.valueDelta, RowWrite.countDelta, ExecutionRow.delegatedFor,
          ExecutionRow.runsFor, hgrows.taskId, hid, hparallel, hstate, htask, hτ]

theorem lawfulTask_running {t : TaskRow} (hlive : t.status.isTerminal = false) :
    ∀ w ∈ [RowWrite.update t (runningPatch.apply revision t)],
      LawfulTask w ∧ w.row.status.isTerminal = false := by
  simpa [LawfulTask, RowWrite.row, runningPatch, TaskPatch.apply] using ⟨hlive, rfl⟩

theorem lawfulBranch_head {b : BranchRow} (hopen : b.resolutionState = .open) :
    ∀ w ∈ [RowWrite.update b ((headPatch executionId).apply revision b)],
      LawfulBranch db w ∧ w.row.resolutionState = .open := by
  simp [LawfulBranch, RowWrite.row, headPatch, BranchPatch.apply, hopen]

/-- Replacing the head of a branch opens none. -/
theorem countDelta_head {b : BranchRow} (taskId τ : String) :
    (if taskId = τ then 0 else 0 : ℤ) =
      ([RowWrite.update b ((headPatch executionId).apply revision b)].map
        (·.countDelta (BranchRow.openFor τ))).sum := by
  simp [RowWrite.countDelta, BranchRow.openFor, headPatch, BranchPatch.apply]

end Lawful

end AssistantRuntime.TaskBudget

/-
**Admission of delegated executions.**

Before an execution delegates to another agent, the runtime derives the depth and the ancestors of
the new execution from what is stored: it climbs the links to parent executions, and refuses a
delegation that is too deep or that comes back to an agent it came from.  The climb distrusts what it
reads.  A link to nowhere, to another task or another branch, an execution that comes twice, and more
ancestors than the task has had executions are errors of their own.
-/

import AssistantRuntime.Agent.Planning
import AssistantRuntime.TaskBudget.Activity

namespace AssistantRuntime.TaskBudget

open Relational Uow Table Agent List

variable {D : Digests}

/-! ### The operation -/

structure DelegationAdmission where
  taskId : String
  parentExecutionId : Option String
  branchId : Option String
  childAgentId : String
  delegationDepth : ℕ
  ancestorExecutionIds : List String
  ancestorAgentIds : List String

/-- The branch and the ancestors that a climb has found so far. -/
structure Ancestors where
  branchId : Option String := none
  executionIds : List String := []
  agentIds : List String := []

/-- The loop of `resolve_delegation_admission`.  It leaves the executions it has seen, so that the
number of executions suffices as fuel. -/
def climbAncestors (db : Db D) (taskId : String) (usedExecutions : ℤ) :
    ℕ → Option String → Ancestors → Except Failure Ancestors
  | _, none, found => .ok found
  | 0, some _, _ =>
    .error (conflict "Durable Agent delegation lineage contains an execution-id cycle.")
  | fuel + 1, some executionId, found =>
    if executionId ∈ found.executionIds then
      .error (conflict "Durable Agent delegation lineage contains an execution-id cycle.")
    else
      match getExecution db executionId with
      | none => .error (conflict s!"Delegation parent execution does not exist: {executionId}")
      | some execution =>
        if execution.taskId ≠ some taskId then
          .error (conflict "Delegation parent belongs to a different AgentTask.")
        else
          match execution.branchId.filter (· ≠ "") with
          | none => .error (conflict "Delegation parent has no normalized TaskBranch.")
          | some branchId =>
            if found.branchId.any (· ≠ branchId) then
              .error (conflict "Delegation ancestry crosses TaskBranch boundaries.")
            else if usedExecutions < (found.executionIds ++ [execution.id]).length then
              .error (conflict ("Durable Agent delegation lineage exceeds the " ++
                "TaskBudget execution history."))
            else
              climbAncestors db taskId usedExecutions fuel execution.parentExecutionId
                { branchId := some branchId
                  executionIds := found.executionIds ++ [execution.id]
                  agentIds := found.agentIds ++ [execution.agentId] }

/-- What `resolve_delegation_admission` checks once it has the ancestors. -/
def admitDelegation (taskId : String) (budget : Agent.TaskBudget)
    (parentExecutionId childAgentId : String) (found : Ancestors) : Tx D DelegationAdmission := do
  let depth := found.executionIds.length
  ensure ((depth : ℤ) ≤ budget.limits.maxDelegationDepth)
    (.taskBudget .delegationDepthExceeded
      s!"delegation_depth={depth} exceeds {budget.limits.maxDelegationDepth}")
  ensure (¬ (budget.denyRecursiveAgentCycle = true ∧ childAgentId ∈ found.agentIds))
    (.taskBudget .delegationCycle
      s!"Agent '{childAgentId}' already exists in durable delegation ancestry.")
  let branchId ← expect found.branchId
    (conflict "Delegated execution could not resolve durable branch.")
  let _ ← expect ((← reads (getTaskBranch · branchId)).filter fun b =>
      b.taskId = taskId ∧ b.resolutionState = .open)
    (conflict "Delegated execution requires an OPEN normalized TaskBranch.")
  pure ⟨taskId, some parentExecutionId, some branchId, childAgentId, depth,
    found.executionIds, found.agentIds⟩

def resolveDelegationAdmission (taskId : String) (parentExecutionId : Option String)
    (childAgentId : String) : Tx D DelegationAdmission := do
  ensure (taskId ≠ "") (required "Delegated Agent execution requires a durable task_id.")
  ensure (childAgentId ≠ "") (.valueError "child_agent_id must be non-empty")
  let record ← requireBudgetRecord taskId
  let budget ← loadBudget record
  requireOpen budget
  match parentExecutionId with
  | none => pure ⟨taskId, none, none, childAgentId, 0, [], []⟩
  | some parentId =>
    let found ← evidently (← reads fun db => climbAncestors db taskId budget.usedExecutions
      (db.executions.rows.length + 1) (some parentId) {})
    admitDelegation taskId budget parentId childAgentId found

/-! ### What the climb finds -/

section Climbs

variable {db : Db D} {taskId : String} {usedExecutions : ℤ} {o : Option String}
  {l : List ExecutionRow}

/-- The executions from one up to a root, by the links to parents. -/
abbrev Ancestry (db : Db D) : Option String → List ExecutionRow → Prop :=
  ParentChain (getExecution db) ExecutionRow.parentExecutionId

theorem ancestry_nodup (h : Ancestry db o l) : (l.map (·.id)).Nodup :=
  h.nodup fun _ _ hrow => key_of_find? hrow

theorem mem_of_ancestry (h : Ancestry db o l) {e : ExecutionRow} (he : e ∈ l) :
    e ∈ db.executions := by
  obtain ⟨k, -, hk, -⟩ := h.of_mem he
  exact mem_of_find? hk

/-- **What the climb returns is the chain of parents.** -/
theorem climbAncestors_ok {fuel : ℕ} {found result : Ancestors}
    (h : climbAncestors db taskId usedExecutions fuel o found = .ok result) :
    ∃ l, Ancestry db o l ∧ result.executionIds = found.executionIds ++ l.map (·.id) ∧
      result.agentIds = found.agentIds ++ l.map (·.agentId) := by
  induction fuel generalizing o found with
  | zero =>
    cases o with
    | none =>
      cases h
      exact ⟨[], .nil, by simp, by simp⟩
    | some executionId => cases h
  | succ fuel ih =>
    cases o with
    | none =>
      cases h
      exact ⟨[], .nil, by simp, by simp⟩
    | some executionId =>
      simp only [climbAncestors] at h
      split at h
      · cases h
      cases he : getExecution db executionId with
      | none =>
        rw [he] at h
        cases h
      | some e =>
        rw [he] at h
        dsimp only at h
        split at h
        · cases h
        cases hb : e.branchId.filter (· ≠ "") with
        | none =>
          rw [hb] at h
          cases h
        | some branchId =>
          rw [hb] at h
          dsimp only at h
          split at h
          · cases h
          split at h
          · cases h
          obtain ⟨l, hl, hids, hagents⟩ := ih h
          exact ⟨e :: l, .cons he hl, by simpa using hids, by simpa using hagents⟩

/-- **The climb reaches the end of every chain that stays on one branch of the task.** -/
theorem climbAncestors_of_ancestry (h : Ancestry db o l) {branchId : String}
    (hkin : ∀ e ∈ l, e.taskId = some taskId ∧ e.branchId = some branchId) (hbranch : branchId ≠ "")
    {found : Ancestors} (hfound : ∀ b ∈ found.branchId, b = branchId)
    (hnodup : (found.executionIds ++ l.map (·.id)).Nodup)
    (hused : ((found.executionIds.length + l.length : ℕ) : ℤ) ≤ usedExecutions) {fuel : ℕ}
    (hfuel : l.length ≤ fuel) :
    climbAncestors db taskId usedExecutions fuel o found =
      .ok { branchId := if l = [] then found.branchId else some branchId
            executionIds := found.executionIds ++ l.map (·.id)
            agentIds := found.agentIds ++ l.map (·.agentId) } := by
  induction h generalizing found fuel with
  | nil => cases fuel <;> simp [climbAncestors]
  | @cons k e l he hl ih =>
    obtain ⟨htask, hon⟩ := hkin e mem_cons_self
    have hid : e.id = k := key_of_find? he
    cases fuel with
    | zero => simp at hfuel
    | succ fuel =>
      have hfresh : k ∉ found.executionIds := by
        intro hmem
        rw [map_cons, nodup_append] at hnodup
        exact hnodup.2.2 k hmem e.id mem_cons_self hid.symm
      have hany : found.branchId.any (· ≠ branchId) = false := by
        cases hb : found.branchId with
        | none => rfl
        | some b => simpa using hfound b hb
      have hroom : ¬ usedExecutions < (found.executionIds ++ [e.id]).length := by
        simp only [length_append, length_cons, length_nil, Nat.cast_add] at hused ⊢
        omega
      rw [climbAncestors, if_neg hfresh, he]
      dsimp only
      have hfilter : e.branchId.filter (· ≠ "") = some branchId := by
        rw [hon]
        simp [hbranch]
      rw [if_neg (not_not.2 htask), hfilter]
      dsimp only
      rw [hany, if_neg hroom]
      have hused' : (((found.executionIds ++ [e.id]).length + l.length : ℕ) : ℤ) ≤
          usedExecutions := by
        simp only [length_append, length_cons, length_nil] at hused ⊢
        omega
      have hrest : climbAncestors db taskId usedExecutions fuel e.parentExecutionId
          ⟨some branchId, found.executionIds ++ [e.id], found.agentIds ++ [e.agentId]⟩ = _ :=
        ih (fun r hr => hkin r (mem_cons_of_mem _ hr)) (by simp) (by simpa using hnodup)
          hused' (by simpa using hfuel)
      simpa using hrest

/-- **What a resolved admission says**: the depth is the number of ancestors, which the budget allows,
and with a policy against it the agent is none of theirs. -/
theorem resolveDelegationAdmission_ok {parentExecutionId : Option String} {childAgentId : String}
    {a : DelegationAdmission} {db' : Db D}
    (h : resolveDelegationAdmission taskId parentExecutionId childAgentId db = .ok (a, db')) :
    db' = db ∧ a.taskId = taskId ∧ a.parentExecutionId = parentExecutionId ∧
      a.childAgentId = childAgentId ∧
      ∃ b, getTaskBudget db taskId = some b ∧
        ∀ parentId ∈ parentExecutionId, ∃ l, Ancestry db (some parentId) l ∧
          a.delegationDepth = l.length ∧ (l.length : ℤ) ≤ b.limits.maxDelegationDepth ∧
          (b.denyRecursiveAgentCycle = true → childAgentId ∉ l.map (·.agentId)) := by
  simp only [resolveDelegationAdmission, steps_ok, requireBudgetRecord_bind_ok, loadBudget_bind_ok,
    requireOpen_bind_ok] at h
  obtain ⟨-, -, record, hrecord, budget, rfl, -, h⟩ := h
  cases parentExecutionId with
  | none =>
    obtain ⟨rfl, rfl⟩ := pure_mk.1 h
    exact ⟨rfl, rfl, rfl, rfl, _, hrecord, by simp⟩
  | some parentId =>
    simp only [steps_ok, evidently_bind_ok, admitDelegation, pure_mk] at h
    obtain ⟨found, hfound, hdepth, hcycle, branchId, -, branch, -, rfl, rfl⟩ := h
    obtain ⟨l, hl, hids, hagents⟩ := climbAncestors_ok hfound
    simp only [nil_append] at hids hagents
    refine ⟨rfl, rfl, rfl, rfl, _, hrecord, fun p hp => ?_⟩
    obtain rfl := Option.some.inj hp
    refine ⟨l, hl, by simp [hids], by simpa [hids] using hdepth, fun hdeny hmem => ?_⟩
    rw [← hagents] at hmem
    exact hcycle ⟨hdeny, hmem⟩

/-- The errors that say that the stored lineage is broken. -/
inductive IsLineageCorruption : Failure → Prop
  | cycle : IsLineageCorruption
      (conflict "Durable Agent delegation lineage contains an execution-id cycle.")
  | missing (executionId : String) : IsLineageCorruption
      (conflict s!"Delegation parent execution does not exist: {executionId}")
  | otherTask : IsLineageCorruption
      (conflict "Delegation parent belongs to a different AgentTask.")
  | noBranch : IsLineageCorruption (conflict "Delegation parent has no normalized TaskBranch.")
  | otherBranch : IsLineageCorruption
      (conflict "Delegation ancestry crosses TaskBranch boundaries.")
  | history : IsLineageCorruption
      (conflict ("Durable Agent delegation lineage exceeds the " ++
        "TaskBudget execution history."))
  | unresolved : IsLineageCorruption
      (conflict "Delegated execution could not resolve durable branch.")

/-- The refusal on a branch that is not open says nothing about the lineage. -/
theorem not_isLineageCorruption_open :
    ¬ IsLineageCorruption
      (conflict "Delegated execution requires an OPEN normalized TaskBranch.") := by
  generalize hf : conflict "Delegated execution requires an OPEN normalized TaskBranch." = f
  intro h
  cases h with
  | missing executionId =>
    -- the two messages differ at their eighth character
    have hmessage := (Failure.taskBudget.inj hf).2
    have hchar := congrArg (fun m : String => m.toList[7]?) hmessage
    rw [String.toList_append] at hchar
    cases hchar
  | _ => simp [conflict] at hf

/-- **Why an admission is refused where the chain of parents is whole**: never because of the chain.
-/
theorem resolveDelegationAdmission_error {parentId childAgentId branchId : String}
    {branch : BranchRow} {f : Failure} (hl : Ancestry db (some parentId) l)
    (hkin : ∀ e ∈ l, e.taskId = some taskId ∧ e.branchId = some branchId) (hne : branchId ≠ "")
    (hbranch : getTaskBranch db branchId = some branch) (htask : branch.taskId = taskId)
    (hused : ∀ b, getTaskBudget db taskId = some b → (l.length : ℤ) ≤ b.usedExecutions)
    (h : resolveDelegationAdmission taskId (some parentId) childAgentId db = .error f) :
    ¬ IsLineageCorruption f ∧
      (f = conflict "Delegated execution requires an OPEN normalized TaskBranch." →
        branch.resolutionState ≠ .open) := by
  have hother : (∀ message, f ≠ conflict message) → ¬ IsLineageCorruption f ∧
      (f = conflict "Delegated execution requires an OPEN normalized TaskBranch." →
        branch.resolutionState ≠ .open) := by
    intro hf
    refine ⟨fun hc => ?_, fun hc => absurd hc (hf _)⟩
    cases hc <;> exact hf _ rfl
  simp only [resolveDelegationAdmission, ensure_bind_error] at h
  rcases h with ⟨-, rfl⟩ | ⟨-, ⟨-, rfl⟩ | ⟨-, h⟩⟩
  · exact hother (by simp [required, conflict])
  · exact hother (by simp [conflict])
  rcases requireBudgetRecord_bind_error.1 h with ⟨-, hf⟩ | ⟨record, hrecord, h⟩
  · refine hother ?_
    rw [hf, missingBudget]
    split <;> simp [required, conflict]
  simp only [loadBudget, expect_bind_error, budgetFromRecord_eq_some, requireOpen,
    ensure_bind_error, reads_bind_error] at h
  rcases h with ⟨-, rfl⟩ | ⟨budget, rfl, ⟨-, rfl⟩ | ⟨-, h⟩⟩
  · exact hother (by simp [conflict])
  · exact hother (by simp [isClosed, budgetClosed, conflict])
  -- the climb ends, as the ancestors are different rows of one branch
  have hrows : l.length ≤ db.executions.rows.length + 1 := by
    have hle : l.length ≤ db.executions.count fun _ => true :=
      length_le_count (ancestry_nodup hl) fun e he => ⟨mem_of_ancestry hl he, rfl⟩
    have hall : (db.executions.count fun _ => true) ≤ db.executions.rows.length :=
      countP_le_length
    omega
  have hclimb : climbAncestors db taskId budget.usedExecutions (db.executions.rows.length + 1)
      (some parentId) {} = _ :=
    climbAncestors_of_ancestry hl hkin hne (by simp) (by simpa using ancestry_nodup hl)
      (by simpa using hused _ hrecord) hrows
  have hsome : l ≠ [] := by
    cases hl
    simp
  rw [hclimb, if_neg hsome] at h
  replace h : admitDelegation taskId budget parentId childAgentId _ db = .error f := h
  simp only [admitDelegation, ensure_bind_error, expect_bind_error, reads_bind_error, pure_error,
    and_false, exists_false, or_false] at h
  rcases h with ⟨-, hf⟩ | ⟨-, ⟨-, hf⟩ | ⟨-, ⟨hnone, -⟩ | ⟨b, hb, hclosed, rfl⟩⟩⟩
  · exact hother (by simp [hf, conflict])
  · exact hother (by simp [hf, conflict])
  · cases hnone
  · obtain rfl := Option.some.inj hb
    refine ⟨not_isLineageCorruption_open, fun _ hopen => ?_⟩
    rw [hbranch, Option.filter_some, if_pos (by simp [htask, hopen])] at hclosed
    cases hclosed

end Climbs

end AssistantRuntime.TaskBudget

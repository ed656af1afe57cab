/-
**The budget of a task counts what runs, and what is over stays over.**

A budget keeps three counters of things that are active: executions that run, those of them that
another execution delegated to, and branches that are open.  A dozen operations move them; none lets
them drift, the bounds of a budget hold in every state, and of several callers that want to move an
execution out of one revision one does.  A branch is settled when it leaves `OPEN`, a task when it
reaches a terminal status: both stay as they are then, adoption takes the whole task with it, and a
task that is over has a closed budget, no claim that could still be consumed, and no execution that
starts to run again.

Main results:

* `active_eq_running` — active executions and parallel agents are counted exactly;
* `budget_valid_and_grows` — a stored budget always passes its validator, and its counters of use
  only grow;
* `executions_live` — a revision stands for one state, and the end of an execution is final;
* `moves_out_of_revision_once` — an execution leaves a revision once, and the counter moves by it
  once;
* `branches_counted_and_settled`, `terminal_task_stays_sealed` — the life of branches and the end of a
  task.
-/

import AssistantRuntime.Runtime.Requests

namespace AssistantRuntime.Runtime

open Relational Uow Table Agent TaskBudget Persistence Option

variable {D : Digests} {db db' : Db D} {τ : String}

/-! ### Counters -/

theorem Pristine.counted (h : Pristine db τ) : Counted db τ := by
  have hbudget : db.budgets.find? τ = none := h.budget
  constructor
  · have hnone : db.executions.count (ExecutionRow.runsFor τ) = 0 := by
      refine count_eq_zero.2 fun e he => ?_
      simp [ExecutionRow.runsFor, h.executions e he]
    simp [Table.value, hbudget, hnone]
  · have hnone : db.branches.count (BranchRow.openFor τ) = 0 := by
      refine count_eq_zero.2 fun b hb => ?_
      simp [BranchRow.openFor, h.branches b hb]
    simp [Table.value, hbudget, hnone]

theorem Pristine.paired (h : Pristine db τ) : Paired db τ := by
  have hbudget : db.budgets.find? τ = none := h.budget
  have hnone : db.executions.count (ExecutionRow.delegatedFor τ) = 0 := by
    refine count_eq_zero.2 fun e he => ?_
    simp [ExecutionRow.delegatedFor, ExecutionRow.runsFor, h.executions e he]
  simp [Paired, Table.value, hbudget, hnone]

variable {ev : Event D}

theorem Event.Occurs.counted (h : ev.Occurs db db') (hcounted : Counted db τ) :
    Counted db' τ :=
  h.commit.counted hcounted

variable {events : List (Event D)}

/-- Counters that were right are right after any run. -/
theorem counted_of_run (h : Run Event.Occurs db events db') (hcounted : Counted db τ) :
    Counted db' τ :=
  h.invariant (P := (Counted · τ)) (fun _ _ _ hc ho => ho.counted hc) hcounted

/-- **Active executions and parallel agents are counted exactly**: whatever the runtime does from
before a task exists, in any order and with any arguments, if callers say truly whether the execution
they move is delegated. -/
theorem active_eq_running {events : List (Event D)} (hpristine : Pristine db τ)
    (hrun : Run Event.OccursDelegating db events db') {b : BudgetRow}
    (hb : getTaskBudget db' τ = some b) :
    b.activeExecutions = db'.executions.count (fun e => e.state = .running ∧ e.taskId = some τ) ∧
      b.activeParallelAgents = db'.executions.count
        (fun e => (e.state = .running ∧ e.taskId = some τ) ∧ e.parentExecutionId.isSome) := by
  have hcounted : Counted db' τ :=
    counted_of_run (hrun.mono fun _ _ _ h => h.1) hpristine.counted
  have hpaired : Paired db' τ :=
    hrun.invariant (P := (Paired · τ)) (fun _ _ _ hp h => h.1.commit.paired h.2 hp)
      hpristine.paired
  have hactive := hcounted.active
  unfold Paired at hpaired
  rw [value_of_find? hb] at hactive hpaired
  refine ⟨hactive, hpaired.trans ?_⟩
  -- `delegatedFor` compares the flags of `runsFor`
  congr 2
  funext e
  simp [ExecutionRow.delegatedFor, ExecutionRow.runsFor]

theorem active_eq_running_sampleStart :
    ((getTaskBudget (after {} sampleStart) "task").map
        fun b => (b.activeExecutions, b.activeParallelAgents)) = some (2, 1) ∧
      ∀ b, getTaskBudget (after {} sampleStart) "task" = some b →
        b.activeExecutions = (after {} sampleStart).executions.count
          (fun e => e.state = .running ∧ e.taskId = some "task") := by
  refine ⟨by decide +kernel, fun b hb => ?_⟩
  have hrun := history_run_and (P := fun r s => r.SaysDelegation s) {} sampleStart
    (by simp [sampleStart, Request.SaysDelegation])
  exact (active_eq_running (pristine_empty "task") hrun hb).1

/-! ### Bounds -/

/-- A step of the budget service: an operation of the runtime, or one on counters alone. -/
inductive ServiceStep : Request D ⊕ CounterRequest D → Db D → Db D → Prop
  | runtime (r : Request D) (db : Db D) : ServiceStep (.inl r) db (stored r.perform db)
  | counters (r : CounterRequest D) (db : Db D) : ServiceStep (.inr r) db (stored r.perform db)

theorem ServiceStep.budgetLog {r : Request D ⊕ CounterRequest D} (h : ServiceStep r db db') :
    BudgetLog db db' := by
  cases h with
  | runtime r =>
    rcases stored_cases r.perform db with hsame | ⟨a, hok⟩
    · rw [hsame]
      exact .refl _
    · exact (r.commit hok).budgetLog
  | counters r =>
    rcases stored_cases r.perform db with hsame | ⟨a, hok⟩
    · rw [hsame]
      exact .refl _
    · exact r.budgetLog hok

theorem Pristine.budgetsSound (h : Pristine db τ) : BudgetsSound db τ := by
  intro b hb
  rw [h.budget] at hb
  cases hb

/-- **A stored budget always passes its validator, and its counters of use only grow.**  Here `db₁`
is any state that the budget service and the consumption of claims lead to from before the task
exists, and `db₂` any later one. -/
theorem budget_valid_and_grows {db₁ db₂ : Db D} {rs rs' : List (Request D ⊕ CounterRequest D)}
    (hpristine : Pristine db τ) (hrun : Run ServiceStep db rs db₁)
    (hlater : Run ServiceStep db₁ rs' db₂) {b : BudgetRow} (hb : getTaskBudget db₁ τ = some b) :
    (b.activeParallelAgents ≤ b.activeExecutions ∧ b.activeExecutions ≤ b.usedExecutions ∧
        b.usedExecutions ≤ b.limits.maxTotalExecutions ∧
        b.activeExecutions ≤ b.limits.maxActiveExecutions ∧
        b.activeParallelAgents ≤ b.limits.maxParallelAgents ∧
        b.activeBranches ≤ b.limits.maxActiveBranches ∧
        b.usedToolCalls ≤ b.limits.maxTotalToolCalls ∧
        b.usedInferenceCalls ≤ b.limits.maxTotalInferenceCalls ∧
        (b.state = .open ↔ b.closedAt = none)) ∧
      (∃ budget, budgetFromRecord b = some budget) ∧
      ∃ b', getTaskBudget db₂ τ = some b' ∧ b.usedExecutions ≤ b'.usedExecutions ∧
        b.usedToolCalls ≤ b'.usedToolCalls ∧ b.usedInferenceCalls ≤ b'.usedInferenceCalls ∧
        b.usedTokens ≤ b'.usedTokens ∧ b.usedCostUsd ≤ b'.usedCostUsd := by
  have hsound : BudgetsSound db₁ τ :=
    hrun.invariant (P := (BudgetsSound · τ)) (fun _ _ _ hs h => h.budgetLog.sound hs)
      hpristine.budgetsSound
  have hevolves : db₁.budgets.Evolves BudgetRow.Grows db₂.budgets :=
    hlater.composes (R := fun s s' => s.budgets.Evolves BudgetRow.Grows s'.budgets)
      (fun s => .refl BudgetRow.Grows.refl s.budgets)
      (fun h h' => h.trans (fun _ _ _ => BudgetRow.Grows.trans) h')
      (fun _ _ _ h => h.budgetLog.grows)
  have hvalid : b.Valid := (hsound b hb).1.valid (hsound b hb).2
  obtain ⟨b', hb', hgrows⟩ := hevolves τ b hb
  obtain ⟨hused, htotal, hactive, hparallel, hagents, hbranches, htools, hinference⟩ := hvalid.2.2.1
  exact ⟨⟨hparallel, hused, htotal, hactive, hagents, hbranches, htools, hinference,
      hvalid.2.2.2.1⟩, ⟨_, dif_pos hvalid⟩,
    b', hb', hgrows.usedExecutions, hgrows.usedToolCalls, hgrows.usedInferenceCalls,
    hgrows.usedTokens, hgrows.usedCostUsd⟩

theorem after_serviceRun (db : Db D) (rs : List (Request D)) :
    Run ServiceStep db (rs.map .inl) (after db rs) := by
  induction rs generalizing db with
  | nil => exact .nil _
  | cons r rs ih => exact .cons (.runtime r db) (ih _)

theorem budget_valid_and_grows_sampleStart :
    ∃ b, getTaskBudget (after {} sampleStart) "task" = some b ∧
      b.activeExecutions ≤ b.limits.maxActiveExecutions ∧
      ∃ b', getTaskBudget (after (after {} sampleStart) [sampleFinish]) "task" = some b' ∧
        b.usedExecutions ≤ b'.usedExecutions := by
  have hsome : (getTaskBudget (after {} sampleStart) "task").isSome = true := by decide +kernel
  obtain ⟨b, hb⟩ := isSome_iff_exists.1 hsome
  obtain ⟨hbounds, -, b', hb', hused, -⟩ := budget_valid_and_grows (pristine_empty "task")
    (after_serviceRun {} sampleStart) (after_serviceRun _ [sampleFinish]) hb
  exact ⟨b, hb, hbounds.2.2.2.1, b', hb', hused⟩

/-! ### One move out of a revision -/

/-- The executions of a task that run before a step and not after it. -/
def leftRunning (db db' : Db D) (taskId : String) : Finset String :=
  db.executions.keysWhere (ExecutionRow.runsFor taskId) \
    db'.executions.keysWhere (ExecutionRow.runsFor taskId)

/-- The executions of a task that run after a step and not before it. -/
def enteredRunning (db db' : Db D) (taskId : String) : Finset String :=
  leftRunning db' db taskId

theorem mem_runsFor {x : String} {e : ExecutionRow} (he : getExecution db x = some e)
    (htask : e.taskId = some τ) :
    x ∈ db.executions.keysWhere (ExecutionRow.runsFor τ) ↔ e.state = .running := by
  have hfind : db.executions.find? x = some e := he
  rw [mem_keysWhere, hfind]
  simp [ExecutionRow.runsFor, htask]

theorem Event.Occurs.moves (h : ev.Occurs db db') :
    db.executions.Evolves ExecutionRow.Moves db'.executions := by
  obtain ⟨c, hlawful, -⟩ := h.commit
  exact hlawful.moves

theorem revision_le_of_run (h : Run Event.Occurs db events db') :
    db.executions.Evolves (fun e e' => e.revision ≤ e'.revision) db'.executions := by
  refine h.composes
    (R := fun s s' => s.executions.Evolves (fun e e' => e.revision ≤ e'.revision) s'.executions)
    (fun s => .refl (fun e => le_refl e.revision) s.executions)
    (fun h h' => h.trans (fun _ _ _ => le_trans) h') ?_
  intro ev s s' hoccurs x e he
  obtain ⟨e', he', -, ⟨-, hsame, -⟩ | ⟨-, hmoved⟩⟩ := hoccurs.moves x e he
  · exact ⟨e', he', hsame.ge⟩
  · exact ⟨e', he', by omega⟩

/-- An execution keeps its place; what the rest of the runtime reads of it changes only with a higher
revision, and not any more once it is over. -/
def Lives (e e' : ExecutionRow) : Prop :=
  e.SameLineage e' ∧
    ((e'.state = e.state ∧ e'.revision = e.revision ∧ e'.result = e.result ∧
        e'.currentCheckpointId = e.currentCheckpointId) ∨
      (e.state.isTerminal = false ∧ e.revision < e'.revision))

theorem Lives.trans {e₁ e₂ e₃ : ExecutionRow} (h : Lives e₁ e₂)
    (h' : Lives e₂ e₃) : Lives e₁ e₃ := by
  refine ⟨h.1.trans h'.1, ?_⟩
  obtain ⟨-, ⟨hstate, hrevision, hresult, hcheckpoint⟩ | ⟨hlive, hlt⟩⟩ := h
  · rw [← hstate, ← hrevision, ← hresult, ← hcheckpoint]
    exact h'.2
  · right
    refine ⟨hlive, ?_⟩
    obtain ⟨-, ⟨-, hrevision, -⟩ | ⟨-, hlt'⟩⟩ := h' <;> omega

/-- **The life of an execution**, over any sequence of requests: it stays where it was stored, a
revision stands for one state, checkpoint and result, and an execution that is over is final. -/
theorem executions_live (db : Db D) (rs : List (Request D)) :
    db.executions.Evolves Lives (after db rs).executions := by
  refine (history_run db rs).composes
    (R := fun s s' => s.executions.Evolves Lives s'.executions)
    (fun s => .refl (fun e => ⟨.refl e, .inl ⟨rfl, rfl, rfl, rfl⟩⟩) _)
    (fun h h' => h.trans (fun _ _ _ => Lives.trans) h') ?_
  intro ev s s' hoccurs x e he
  obtain ⟨e', he', hkin, hmoves⟩ := hoccurs.moves x e he
  exact ⟨e', he', hkin, hmoves.imp_right fun h => ⟨h.1, by omega⟩⟩

/-- A step changes the counter of active executions by what it starts and what it stops. -/
theorem Event.Occurs.active (h : ev.Occurs db db') (τ : String) :
    db'.budgets.value BudgetRow.activeExecutions τ + (leftRunning db db' τ).card =
      db.budgets.value BudgetRow.activeExecutions τ + (enteredRunning db db' τ).card := by
  obtain ⟨c, hlawful, hsettled, -⟩ := h.commit
  have hbalance := hlawful.active_balance hsettled τ
  have hcount := count_add_lost db.executions db'.executions (ExecutionRow.runsFor τ)
  unfold leftRunning enteredRunning leftRunning
  omega

theorem Pristine.adoptionSettles (h : Pristine db τ) : AdoptionSettles db τ where
  adopted := fun b hb htask => absurd htask (h.branches b hb)
  unique := fun b hb _ _ htask => absurd htask (h.branches b hb)

theorem Event.Occurs.adoptionSettles (h : ev.Occurs db db') (hs : AdoptionSettles db τ) :
    AdoptionSettles db' τ := by
  obtain ⟨c, hlawful, -⟩ := h.commit
  exact hlawful.adoptionSettles hs

/-- A branch that is not open is the same branch at the end of any run. -/
theorem branches_settled_of_run {events : List (Event D)} (h : Run Event.Occurs db events db') :
    db.branches.Evolves BranchRow.Settles db'.branches := by
  refine h.composes (R := fun s s' => s.branches.Evolves BranchRow.Settles s'.branches)
    (fun s => .refl BranchRow.Settles.refl s.branches)
    (fun h h' => h.trans (fun _ _ _ => BranchRow.Settles.trans) h') ?_
  intro ev s s' hoccurs
  obtain ⟨c, hlawful, -⟩ := hoccurs.commit
  exact hlawful.branches_settled

/-- **The life of branches.**  In every state that operations lead to from before a task exists, the
counter of active branches is the number of open branches; a branch that has left `OPEN` is the same
in every later state; at most one branch is adopted, and the adoption of one is the end of the task:
`COMPLETED`, with the JSON-safe result of the branch's current execution as its output, a closed
budget and no open branch. -/
theorem branches_counted_and_settled {db₁ : Db D} {events : List (Event D)}
    (hpristine : Pristine db τ) (hrun : Run Event.Occurs db events db₁) :
    (∀ bu, getTaskBudget db₁ τ = some bu → bu.activeBranches =
        db₁.branches.count (fun b => b.resolutionState = .open ∧ b.taskId = τ)) ∧
      (∀ k b, getTaskBranch db₁ k = some b → b.resolutionState ≠ .open →
        ∀ later db₂, Run Event.Occurs db₁ later db₂ → getTaskBranch db₂ k = some b) ∧
      (∀ b ∈ db₁.branches, ∀ b' ∈ db₁.branches, b.taskId = τ → b'.taskId = τ →
        b.resolutionState = .adopted → b'.resolutionState = .adopted → b = b') ∧
      ∀ b ∈ db₁.branches, b.taskId = τ → b.resolutionState = .adopted →
        (∃ t x e r, getTask db₁ τ = some t ∧ t.status = .completed ∧
          b.currentExecutionId = some x ∧ getExecution db₁ x = some e ∧ e.result = some r ∧
          t.output = (Json.obj r).toJsonSafe ∧ t.output ≠ none) ∧
        (∃ bu, getTaskBudget db₁ τ = some bu ∧ bu.state = .closed) ∧
        ∀ b' ∈ db₁.branches, b'.taskId = τ → b'.resolutionState ≠ .open := by
  have hcounted : Counted db₁ τ := counted_of_run hrun hpristine.counted
  have hadoption : AdoptionSettles db₁ τ :=
    hrun.invariant (P := (AdoptionSettles · τ)) (fun _ _ _ hs h => h.adoptionSettles hs)
      hpristine.adoptionSettles
  refine ⟨?_, ?_, hadoption.unique, ?_⟩
  · intro bu hbu
    have hbranches := hcounted.branches
    rw [value_of_find? hbu] at hbranches
    exact hbranches
  · intro k b hb hclosed later db₂ hlater
    obtain ⟨b', hb', -, hsame⟩ := branches_settled_of_run hlater k b hb
    rw [← hsame hclosed]
    exact hb'
  · rintro b hb rfl hstate
    obtain ⟨⟨t, ht, hcompleted, x, e, r, hx, he, -, hresult, hsafe, hsome⟩, hbudget, hsettled⟩ :=
      hadoption.adopted b hb rfl hstate
    exact ⟨⟨t, x, e, r, ht, hcompleted, hx, he, hresult, hsafe.symm, hsome⟩, hbudget, hsettled⟩

def sampleCompletion : List (Request transparentDigests) := sampleStart.take 3 ++ [sampleFinish]

def sampleAdopt : Request transparentDigests := .adoptBranch "task" "r8_root_task" "user" 7

theorem branches_counted_and_settled_sampleAdopt :
    ∃ b ∈ (after {} (sampleCompletion ++ [sampleAdopt])).branches,
      b.resolutionState = .adopted ∧
      ∃ bu, getTaskBudget (after {} (sampleCompletion ++ [sampleAdopt])) "task" = some bu ∧
        bu.state = .closed := by
  have hadopted : ((getTaskBranch (after {} (sampleCompletion ++ [sampleAdopt])) "r8_root_task").map
      fun b => (b.taskId, b.resolutionState)) = some ("task", .adopted) := by
    decide +kernel
  obtain ⟨b, hb, hcolumns⟩ := Option.map_eq_some_iff.1 hadopted
  simp only [Prod.mk.injEq] at hcolumns
  have hmem := mem_of_find? hb
  obtain ⟨-, -, -, hsettles⟩ := branches_counted_and_settled (pristine_empty "task")
    (history_run {} (sampleCompletion ++ [sampleAdopt]))
  obtain ⟨-, hbudget, -⟩ := hsettles b hmem hcolumns.1 hcolumns.2
  exact ⟨b, hmem, hcolumns.2, hbudget⟩

/-! ### Tasks -/

/-- No execution of a task starts to run between two states. -/
def NoneStarts (db db' : Db D) (taskId : String) : Prop :=
  ∀ e' ∈ db'.executions, e'.taskId = some taskId → e'.state = .running →
    ∃ e, getExecution db e'.id = some e ∧ e.taskId = some taskId ∧ e.state = .running

/-- Every claim is on an execution, and a task that is over is sealed. -/
structure TerminalSealed (db : Db D) (taskId : String) : Prop where
  anchored : ∀ k ∈ db.claims, ∃ e, getExecution db k.executionId = some e
  closes : ∀ t, getTask db taskId = some t → t.status.isTerminal = true → Sealed db taskId

theorem Pristine.terminalSealed (h : Pristine db τ) : TerminalSealed db τ where
  anchored := h.claims
  closes := fun t ht => by
    rw [h.task] at ht
    cases ht

/-- **The step for tasks**: what is sealed stays sealed, and a commit that ends a task seals it. -/
theorem Event.OccursAlive.terminalSealed (h : ev.OccursAlive db db') (hs : TerminalSealed db τ) :
    TerminalSealed db' τ := by
  obtain ⟨c, hlawful, -, hstarts, -⟩ := h.1.commit
  constructor
  · intro k hk
    obtain ⟨e, he⟩ := hlawful.claims_anchored hs.anchored k hk
    obtain ⟨e', he', -⟩ := hlawful.moves k.executionId e he
    exact ⟨e', he'⟩
  · intro t ht hterm
    rcases hlawful.terminal_cases (hstarts h.2) ht hterm with hold | ⟨hsealed, -⟩
    · exact hlawful.sealed hs.anchored hold hterm (hs.closes t hold hterm)
    · exact hsealed

/-- A step after which a task is over starts nothing for it. -/
theorem Event.OccursAlive.noneStarts (h : ev.OccursAlive db db') (hs : TerminalSealed db τ)
    {t : TaskRow} (ht : getTask db' τ = some t) (hterm : t.status.isTerminal = true) :
    NoneStarts db db' τ := by
  obtain ⟨c, hlawful, -, hstarts, -⟩ := h.1.commit
  intro e' he' htask hrunning
  rcases hlawful.terminal_cases (hstarts h.2) ht hterm with hold | ⟨-, hnone⟩
  · obtain ⟨b, hb, hclosed⟩ := (hs.closes t hold hterm).budget
    exact hlawful.running_of_not_open (not_budgetOpen hb hclosed) he' htask hrunning
  · rcases running_of_log hlawful.log.executions (fun _ _ hw => (hlawful.executions _ hw).1) he'
      htask hrunning with hran | ⟨w, hw, henters⟩
    · exact hran
    · exact absurd henters (hnone w hw)

theorem Event.Occurs.task_of_terminal (h : ev.Occurs db db') {t : TaskRow}
    (ht : getTask db τ = some t) (hterm : t.status.isTerminal = true) : getTask db' τ = some t := by
  obtain ⟨c, hlawful, -⟩ := h.commit
  obtain ⟨t', ht', hends⟩ := hlawful.tasks_end τ t ht
  rw [← hends hterm]
  exact ht'

/-- **The end of a task.**  Take any run from before a task exists, and the step of it after which
the task is over.  In that step no execution of the task starts to run, and after it the budget is
closed and no claim of the task can be consumed; and in every later state the task is the same, the
budget closed, no claim consumable, and the next step starts no execution either.  Callers of
`create_task_with_budget` create tasks that are not over. -/
theorem terminal_task_stays_sealed {db₁ db₂ : Db D} {events : List (Event D)} {ev : Event D}
    {t : TaskRow} (hpristine : Pristine db τ) (hrun : Run Event.OccursAlive db events db₁)
    (hstep : ev.OccursAlive db₁ db₂) (ht : getTask db₂ τ = some t)
    (hterm : t.status = .completed ∨ t.status = .failed ∨ t.status = .cancelled) :
    NoneStarts db₁ db₂ τ ∧
      ∀ later db₃, Run Event.OccursAlive db₂ later db₃ →
        getTask db₃ τ = some t ∧
        (∃ b, getTaskBudget db₃ τ = some b ∧ b.state = .closed) ∧
        (∀ k ∈ db₃.claims, k.state = .created → isExecutionOfTask db₃ τ k.executionId = false) ∧
        ∀ (ev' : Event D) (db₄ : Db D), ev'.OccursAlive db₃ db₄ → NoneStarts db₃ db₄ τ := by
  have hover : t.status.isTerminal = true := by
    rcases hterm with h | h | h <;> rw [h] <;> rfl
  have hsealed₁ : TerminalSealed db₁ τ :=
    hrun.invariant (P := (TerminalSealed · τ)) (fun _ _ _ hs h => h.terminalSealed hs)
      hpristine.terminalSealed
  refine ⟨hstep.noneStarts hsealed₁ ht hover, ?_⟩
  intro later db₃ hlater
  -- along the rest of the run the task is the same and the seal holds
  have hboth : TerminalSealed db₃ τ ∧ getTask db₃ τ = some t := by
    refine hlater.invariant (P := fun s => TerminalSealed s τ ∧ getTask s τ = some t) ?_
      ⟨hstep.terminalSealed hsealed₁, ht⟩
    rintro ev s s' ⟨hs, hts⟩ hoccurs
    exact ⟨hoccurs.terminalSealed hs, hoccurs.1.task_of_terminal hts hover⟩
  obtain ⟨hsealed₃, ht₃⟩ := hboth
  have hseal := hsealed₃.closes t ht₃ hover
  refine ⟨ht₃, hseal.budget, hseal.claims, ?_⟩
  intro ev' db₄ hnext
  exact hnext.noneStarts hsealed₃ (hnext.1.task_of_terminal ht₃ hover) hover

theorem terminal_task_stays_sealed_sampleAdopt :
    ∃ t, getTask (stored sampleAdopt.perform (after {} sampleCompletion)) "task" = some t ∧
      t.status = .completed ∧
      NoneStarts (after {} sampleCompletion)
        (stored sampleAdopt.perform (after {} sampleCompletion)) "task" := by
  have hover : ((getTask (stored sampleAdopt.perform (after {} sampleCompletion)) "task").map
      (·.status)) = some .completed := by
    decide +kernel
  obtain ⟨t, ht, hstatus⟩ := Option.map_eq_some_iff.1 hover
  have hrun := history_run_and (P := fun r _ => r.StartsAlive) {} sampleCompletion
    (by simp [sampleCompletion, sampleStart, sampleFinish, finishRoot, sampleTask, Request.StartsAlive,
      TaskStatus.isTerminal])
  refine ⟨t, ht, hstatus, ?_⟩
  generalize after {} sampleCompletion = s at *
  exact (terminal_task_stays_sealed (pristine_empty "task") hrun
    ⟨Request.event_occurs sampleAdopt s, trivial⟩ ht (.inl hstatus)).1

end AssistantRuntime.Runtime

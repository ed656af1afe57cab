/-
**The budget of a task that is over.**

A task may be created without a budget; it then ends through `persistence.py`, and `ensure_budget` can
give it one as long as no execution of it is stored.  The check of `ensure_budget` is written apart
from the set of terminal states and leaves out `FAILED`: a failed task without a budget gets one that
is open.  Where no caller asks for that, and no caller creates a task that is over together with its
budget, no task that is over has an open budget, whatever else happens.

Main results:

* `Request.noneFunded` — only two operations store budgets;
* `TaskStep.budgetsClose` — the step;
* `no_open_budget_of_terminal`, `open_budget_of_failed` — **the property holds in every run whose
  callers keep to the condition, and fails without it**.
-/

import AssistantRuntime.Runtime.Lineage

namespace AssistantRuntime.Runtime

open Relational Uow Table Agent TaskBudget Persistence Option

variable {D : Digests} {db db1 db' : Db D} {τ : String}

/-! ### Tasks without a budget -/

def saveLegacyTask (task : TaskRow) : Tx D Unit := do
  let _ ← jsonSafe "agent_tasks.input" (some task.input)
  let _ ← jsonSafe "agent_tasks.output" task.output
  saveTask task

/-- `DurableAgentStore.update_task`: it neither looks at the revision nor moves it. -/
def updateTask (taskId : String) (values : TaskPatch) : Tx D (Option TaskRow) := do
  let values ← normalizeTaskStoreValues values
  compareAndSet (·.tasks) (fun t db => { db with tasks := t }) taskId (fun _ => True)
    fun t => { values.apply t.revision t with revision := t.revision }

def terminalizeLegacyTaskAndRejectResumeClaims (taskId : String)
    (allowedSourceStates : List TaskStatus) (target : TaskStatus) (values : TaskPatch) (now : ℤ) :
    Tx D TaskRow := do
  ensure (target.isTerminal = true)
    (.valueError "target_state must be COMPLETED, FAILED or CANCELLED")
  ensure (allowedSourceStates ≠ []) (.valueError "allowed_source_states must not be empty")
  let values ← normalizeTaskStoreValues values
  let task ← expect (← reads (getTask · taskId)) (.lookupError s!"Unknown AgentTask: {taskId}")
  ensure ((← reads (getTaskBudget · taskId)).isNone)
    (.taskConflict "Legacy terminalization encountered a TaskBudget.")
  if task.status.isTerminal then pure task
  else
    let expected := reprStrings (sortedStrings (allowedSourceStates.map (·.value)).dedup)
    ensure (task.status ∈ allowedSourceStates)
      (.taskConflict s!"AgentTask {taskId} is {task.status.value}, expected one of {expected}")
    let claims ← reads (listCreatedResumeClaimsForTask · taskId)
    let updatedTask ← orAbort
      (compareAndSetTask taskId task.revision { values with status := some target }) .lostRace
    rejectClaims now claims
    pure updatedTask

/-- The operations of a coordinator without a budget service.  It updates tasks to let them wait. -/
inductive LegacyRequest
  | save (task : TaskRow)
  | wait (taskId : String) (values : TaskPatch)
  | terminalize (taskId : String) (allowedSourceStates : List TaskStatus) (target : TaskStatus)
      (values : TaskPatch) (now : ℤ)

def LegacyRequest.perform : LegacyRequest → Tx D Unit
  | save task => saveLegacyTask task
  | wait taskId values => do let _ ← updateTask taskId { values with status := some .waiting }
  | terminalize taskId allowed target values now => do
    let _ ← terminalizeLegacyTaskAndRejectResumeClaims taskId allowed target values now

/-- A step: an operation of the runtime, or one on a task without a budget; a failed one stores
nothing. -/
inductive TaskStep : Request D ⊕ LegacyRequest → Db D → Db D → Prop
  | runtime (r : Request D) (db : Db D) : TaskStep (.inl r) db (stored r.perform db)
  | legacy (r : LegacyRequest) (db : Db D) : TaskStep (.inr r) db (stored r.perform db)

/-- The condition on callers: a task that is over is not created together with a budget, and no
budget is asked for a failed task that has none. -/
def FundsLive (db : Db D) : Request D ⊕ LegacyRequest → Prop
  | .inl (.createTask _ task ..) => task.status.isTerminal = false
  | .inl (.ensureBudget taskId ..) =>
    getTaskBudget db taskId = none → ∀ t ∈ getTask db taskId, t.status ≠ .failed
  | _ => True

/-! ### Where budgets come from -/

/-- No task gets a budget that had none. -/
def NoneFunded (db db' : Db D) : Prop :=
  ∀ τ, getTaskBudget db τ = none → getTaskBudget db' τ = none

namespace NoneFunded

theorem of_same (h : db'.budgets = db.budgets) : NoneFunded db db' := by
  intro τ hτ
  unfold getTaskBudget at hτ ⊢
  rwa [h]

instance : IsPreorder (Db D) NoneFunded where
  refl _ := of_same rfl
  trans _ _ _ h h' τ hτ := h' τ (h τ hτ)

theorem writes : Writes True (NoneFunded (D := D)) ∧ WritesCharges (NoneFunded (D := D)) := by
  refine writes_of_tables (fun _ _ _ _ => of_same) (fun _ _ _ _ _ _ => of_same rfl) ?_
  intro db taskId b p revision _ τ hτ
  have hnone : db.budgets.find? τ = none := hτ
  show (db.budgets.put _).find? τ = none
  rw [find?_put, hnone]
  split <;> rfl

instance : Writes True (NoneFunded (D := D)) := writes.1

instance : WritesCharges (NoneFunded (D := D)) := writes.2

instance : WritesResolutions (NoneFunded (D := D)) where
  compareAndSetTaskBranch _ _ _ := .compareAndSet fun _ _ _ _ => of_same rfl

instance : WritesExecutions (NoneFunded (D := D)) where
  saveExecution _ := .insertRow fun _ _ _ => of_same rfl
  saveTaskBranch _ := .insertRow fun _ _ _ => of_same rfl
  compareAndSetTaskBranch _ _ _ := .compareAndSet fun _ _ _ _ => of_same rfl

end NoneFunded

/-- **Only creating a task and `ensure_budget` store budgets.** -/
theorem Request.noneFunded (r : Request D) (hr : ¬ r.Creates) {a : r.Answer}
    (h : r.perform db = .ok (a, db')) : NoneFunded db db' :=
  (respects_perform r (fun _ => rfl) (fun _ => inferInstance) fun hcreates => absurd hcreates hr).rel h

/-! ### The invariant -/

/-- Every budget has its task, and the budget of a task that is over is closed. -/
def BudgetsClose (db : Db D) : Prop :=
  ∀ τ b, getTaskBudget db τ = some b →
    ∃ t, getTask db τ = some t ∧ (t.status.isTerminal = true → b.state = .closed)

/-- An operation that stores no budget: what is over was over before, or was ended together with its
budget. -/
theorem Request.budgetsClose (r : Request D) (hr : ¬ r.Creates) {a : r.Answer}
    (h : r.perform db = .ok (a, db')) (hs : BudgetsClose db) : BudgetsClose db' := by
  intro τ b' hb'
  obtain ⟨c, hlawful, -, hstarts, -⟩ := r.commit h
  have halive : r.StartsAlive := by
    cases r <;> first
      | trivial
      | exact absurd trivial hr
  cases hb : getTaskBudget db τ with
  | none =>
    rw [r.noneFunded hr h τ hb] at hb'
    cases hb'
  | some b =>
    obtain ⟨t, ht, hclosed⟩ := hs τ b hb
    obtain ⟨t', ht', -⟩ := hlawful.tasks_end τ t ht
    refine ⟨t', ht', fun hterm => ?_⟩
    rcases hlawful.terminal_cases (hstarts halive) ht' hterm with hold | ⟨hsealed, -⟩
    · obtain rfl : t = t' := mem_unique ht hold
      obtain ⟨b1, hb1, hgrows⟩ := (r.commit h).budgetLog.grows τ b hb
      obtain rfl : b1 = b' := mem_unique hb1 hb'
      exact hgrows.state (hclosed hterm)
    · obtain ⟨b1, hb1, hclosed1⟩ := hsealed.budget
      obtain rfl : b1 = b' := mem_unique hb1 hb'
      exact hclosed1

theorem BudgetsClose.of_insert {b : BudgetRow} {t : TaskRow} (hs : BudgetsClose db)
    (hbudgets : db.budgets.insert? b = some db'.budgets) (ht : getTask db' b.taskId = some t)
    (hlive : t.status.isTerminal = false)
    (htasks : ∀ τ, τ ≠ b.taskId → getTask db' τ = getTask db τ) : BudgetsClose db' := by
  intro τ b' hb'
  have hfind : db'.budgets.find? τ = some b' := hb'
  rw [find?_insert? hbudgets] at hfind
  split at hfind
  · next hτ =>
      refine ⟨t, hτ ▸ ht, fun hterm => ?_⟩
      rw [hlive] at hterm
      cases hterm
  · next hτ =>
      rw [htasks τ hτ]
      exact hs τ b' hfind

/-- The update of a task that has no budget, or that is not over afterwards. -/
theorem BudgetsClose.of_put {t : TaskRow} (hs : BudgetsClose db)
    (hbudgets : db'.budgets = db.budgets) (htasks : db'.tasks = db.tasks.put t)
    (ht : getTaskBudget db t.id = none ∨ t.status.isTerminal = false) : BudgetsClose db' := by
  intro τ b hb
  have hold : getTaskBudget db τ = some b := by
    rw [← hb, getTaskBudget, getTaskBudget, hbudgets]
  obtain ⟨r, hr, hclosed⟩ := hs τ b hold
  have hfound : db.tasks.find? τ = some r := hr
  unfold getTask
  rw [htasks, find?_put, hfound]
  split
  · next hτ =>
      subst hτ
      refine ⟨t, rfl, fun hterm => ?_⟩
      rcases ht with hnone | hlive
      · rw [hnone] at hold
        cases hold
      · rw [hlive] at hterm
        cases hterm
  · exact ⟨r, rfl, hclosed⟩

theorem LegacyRequest.budgetsClose (r : LegacyRequest) {a : Unit}
    (h : r.perform db = .ok (a, db')) (hs : BudgetsClose db) : BudgetsClose db' := by
  cases r with
  | save task =>
    simp only [perform, saveLegacyTask, jsonSafe_bind_ok, saveTask, insertRow_ok] at h
    obtain ⟨-, -, tasks, htasks, h⟩ := h
    cases h
    intro τ b hb
    obtain ⟨t, ht, hclosed⟩ := hs τ b hb
    -- the id of the new task was free, so no budget has it
    have hne : τ ≠ task.id := by
      rintro rfl
      have hfresh : getTask db task.id = none := fresh_insert? htasks
      rw [hfresh] at ht
      cases ht
    exact ⟨t, ((find?_insert? htasks τ).trans (if_neg hne)).trans ht, hclosed⟩
  | wait taskId values =>
    simp only [perform, updateTask] at h
    obtain ⟨o, db1, h, hend⟩ := bind_ok.1 h
    cases pure_ok.1 hend
    rw [normalizeTaskStoreValues_bind_ok] at h
    cases o with
    | none =>
      obtain ⟨-, rfl⟩ := compareAndSet_none.1 h.2
      exact hs
    | some t =>
      obtain ⟨r, -, -, rfl, rfl⟩ := compareAndSet_some.1 h.2
      exact hs.of_put rfl rfl (.inr rfl)
  | terminalize taskId allowed target values now =>
    simp only [perform] at h
    obtain ⟨t, db1, h, hend⟩ := bind_ok.1 h
    cases pure_ok.1 hend
    simp only [terminalizeLegacyTaskAndRejectResumeClaims, steps_ok,
      normalizeTaskStoreValues_bind_ok, ite_ok, pure_ok, compareAndSetTask_bind_ok] at h
    obtain ⟨-, -, -, task, htask, hnone, ⟨-, h⟩ | ⟨-, -, r, hr, -, h⟩⟩ := h
    · cases h
      exact hs
    · obtain ⟨_, db2, hclaims, h⟩ := bind_ok.1 h
      cases pure_ok.1 h
      obtain ⟨-, claims, rfl, -⟩ := rejectClaims_ok hclaims
      refine hs.of_put rfl rfl (.inl ?_)
      have hid : r.id = taskId := key_of_find? hr
      show getTaskBudget db r.id = none
      rw [hid]
      simpa using hnone

/-- **The step**: whoever keeps to the condition opens no budget of a task that is over. -/
theorem TaskStep.budgetsClose {r : Request D ⊕ LegacyRequest} (h : TaskStep r db db')
    (hr : FundsLive db r) (hs : BudgetsClose db) : BudgetsClose db' := by
  cases h with
  | legacy r =>
    rcases stored_cases r.perform db with hsame | ⟨a, hok⟩
    · rw [hsame]
      exact hs
    · exact r.budgetsClose hok hs
  | runtime r =>
    rcases stored_cases r.perform db with hsame | ⟨a, hok⟩
    · rw [hsame]
      exact hs
    · by_cases hcreates : r.Creates
      · generalize stored r.perform db = db' at hok ⊢
        cases r with
        | createTask settings task limits policy identity =>
          obtain ⟨b, tasks, budgets, generation, u, -, hid, htasks, hbudgets, rfl⟩ :=
            createTaskWithBudget_stores hok
          have hfind := find?_insert? htasks
          refine hs.of_insert hbudgets ?_ hr fun τ hτ => ?_
          · exact (hfind _).trans (if_pos hid)
          · exact (hfind τ).trans (if_neg (hid ▸ hτ))
        | ensureBudget taskId limits policy =>
          rcases ensureBudget_stores hok with rfl |
            ⟨t, b, budgets, generation, hnone, ht, hcompleted, hcancelled, -, rfl, hbudgets, rfl⟩
          · exact hs
          · have hfailed : t.status ≠ .failed := hr hnone t ht
            refine hs.of_insert hbudgets ht ?_ fun _ _ => rfl
            cases hstatus : t.status <;> first
              | rfl
              | contradiction
        | _ => exact hcreates.elim
      · exact r.budgetsClose hcreates hok hs

/-- **A task that is over has no budget or a closed one**, in every state of every run from a state in
which that holds, over all operations on tasks with and without a budget, as long as nobody asks for
the budget of a failed task that has none or creates a task that is over together with its budget. -/
theorem no_open_budget_of_terminal {rs : List (Request D ⊕ LegacyRequest)} (hs : BudgetsClose db)
    (hrun : Run (fun r s s' => TaskStep r s s' ∧ FundsLive s r) db rs db') {t : TaskRow}
    (ht : getTask db' τ = some t)
    (hterm : t.status = .completed ∨ t.status = .failed ∨ t.status = .cancelled) :
    getTaskBudget db' τ = none ∨ ∃ b, getTaskBudget db' τ = some b ∧ b.state = .closed := by
  have hclose : BudgetsClose db' :=
    hrun.invariant (fun _ _ _ hs h => h.1.budgetsClose h.2 hs) hs
  cases hb : getTaskBudget db' τ with
  | none => exact .inl rfl
  | some b =>
    obtain ⟨t', ht', hclosed⟩ := hclose τ b hb
    obtain rfl : t' = t := mem_unique ht' ht
    refine .inr ⟨b, rfl, hclosed ?_⟩
    rcases hterm with h | h | h <;> rw [h] <;> rfl

/-- The states of a task that is created without a budget, gets one, and fails. -/
def sampleUnfunded : Db transparentDigests :=
  stored (LegacyRequest.save { sampleTask with status := .assigned }).perform {}

def sampleFunded : Db transparentDigests :=
  stored (Request.ensureBudget "task" sampleLimits samplePolicy).perform sampleUnfunded

def sampleFailure : Request transparentDigests :=
  .terminalizeTask "task" [.assigned] .failed {} 0

theorem no_open_budget_of_terminal_sampleFailure :
    ∃ b, getTaskBudget (stored sampleFailure.perform sampleFunded) "task" = some b ∧
      b.state = .closed := by
  have hempty : BudgetsClose ({} : Db transparentDigests) := fun τ b hb => by cases hb
  have hassigned : (getTask sampleUnfunded "task").map (·.status) = some .assigned := by
    decide +kernel
  have hfailed : (getTask (stored sampleFailure.perform sampleFunded) "task").map (·.status) =
      some .failed := by
    decide +kernel
  have hbudget : (getTaskBudget (stored sampleFailure.perform sampleFunded) "task").isSome = true := by
    decide +kernel
  obtain ⟨t, ht, hstatus⟩ := map_eq_some_iff.1 hfailed
  have hfunds : FundsLive sampleUnfunded
      (.inl (.ensureBudget "task" sampleLimits samplePolicy)) := by
    intro _ r hr hr'
    rw [mem_def.1 hr, map_some, hr'] at hassigned
    cases hassigned
  have hrun : Run (fun r s s' => TaskStep r s s' ∧ FundsLive s r) {} _
      (stored sampleFailure.perform sampleFunded) :=
    .cons ⟨.legacy _ _, trivial⟩
      (.cons ⟨.runtime _ _, hfunds⟩ (.cons ⟨.runtime sampleFailure _, trivial⟩ (.nil _)))
  rcases no_open_budget_of_terminal hempty hrun ht (.inr (.inl hstatus)) with hnone | hclosed
  · rw [hnone] at hbudget
    cases hbudget
  · exact hclosed

/-- **A failed task with an open budget**: created without one, ended, and then given one. -/
theorem open_budget_of_failed :
    ∃ (s : Db transparentDigests) (t : TaskRow) (b : BudgetRow),
      Run TaskStep {} [.inr (.save { sampleTask with status := .assigned }),
        .inr (.terminalize "task" [.assigned, .running, .waiting] .failed {} 0),
        .inl (.ensureBudget "task" sampleLimits samplePolicy)] s ∧
      getTask s "task" = some t ∧ t.status = .failed ∧
      getTaskBudget s "task" = some b ∧ b.state = .open := by
  let s : Db transparentDigests :=
    stored (Request.ensureBudget "task" sampleLimits samplePolicy).perform
      (stored (LegacyRequest.terminalize "task" [.assigned, .running, .waiting] .failed {} 0).perform
        sampleUnfunded)
  have hcolumns : ((getTask s "task").map (·.status), (getTaskBudget s "task").map (·.state)) =
      (some .failed, some .open) := by
    decide +kernel
  obtain ⟨htask, hbudget⟩ := Prod.mk.inj hcolumns
  obtain ⟨t, ht, hfailed⟩ := map_eq_some_iff.1 htask
  obtain ⟨b, hb, hopen⟩ := map_eq_some_iff.1 hbudget
  exact ⟨s, t, b, .cons (.legacy _ _) (.cons (.legacy _ _) (.cons (.runtime _ _) (.nil _))), ht,
    hfailed, hb, hopen⟩

end AssistantRuntime.Runtime

/-
**Leaving and entering the running state.**

An execution of a task that stops running gives its active slot back, and one that is resumed takes
it again, each in the unit of work that moves the execution.  The move is keyed: repeated after an
uncertain commit it finds its reservation and answers as before.  A waiting execution holds no slot,
so its expiry does not touch the budget.
-/

import AssistantRuntime.Agent.WaitingCheckpoint
import AssistantRuntime.TaskBudget.Reservation

namespace AssistantRuntime.TaskBudget

open Relational Uow Table Agent

variable {D : Digests}

/-! ### Transitions -/

/-- `_normalize_execution_store_values`, on the columns a patch may set. -/
def normalizeExecutionPatch (values : ExecutionPatch) : Tx D ExecutionPatch := do
  let _ ← jsonSafe "agent_executions.result" (values.result.join.map .obj)
  let _ ← jsonSafe "agent_executions.context_state" values.contextState.join
  let _ ← jsonSafe "agent_executions.transcript" (values.transcript.join.map .arr)
  pure values

/-- The JSON columns that a patch sets can be stored. -/
def JsonPatchSafe (values : ExecutionPatch) : Prop :=
  (∀ r ∈ values.result.join, (Json.obj r).toJsonSafe = some (.obj r)) ∧
    (∀ c ∈ values.contextState.join, c.toJsonSafe = some c) ∧
    ∀ t ∈ values.transcript.join, (Json.arr t).toJsonSafe = some (.arr t)

@[simp] theorem normalizeExecutionPatch_bind_ok {α : Type} {values : ExecutionPatch}
    {g : ExecutionPatch → Tx D α} {db : Db D} {x : α × Db D} :
    (normalizeExecutionPatch values >>= g) db = .ok x ↔
      JsonPatchSafe values ∧ g values db = .ok x := by
  simp only [normalizeExecutionPatch, bind_assoc, jsonSafe_bind_ok, pure_bind_ok, JsonPatchSafe,
    and_assoc, Option.mem_map, forall_exists_index, and_imp, forall_apply_eq_imp_iff₂]

/-- The arguments of `_transition_execution_with_budget`. -/
structure Transition (D : Digests) where
  taskId : String
  executionId : String
  sourceRevision : ℕ
  expectedState : ExecutionState
  values : ExecutionPatch
  kind : ReservationKind
  reservationKey : String
  payload : Payload D.Plan
  /-- The new values of the counters, or why they cannot change. -/
  mutateBudget : Agent.TaskBudget → Except Failure BudgetPatch
  checkpoint : Option CheckpointValues := none
  pending : List PendingReference := []
  recoveryFence : Option RecoveryFence := none
  expectedGeneration : Option ℤ := none

namespace Transition

variable (t : Transition D)

/-- A fence on a transition is a fence on the execution that moves. -/
def call : BudgetCall where
  taskId := t.taskId
  recoveryExecutionId := t.recoveryFence.map fun _ => t.executionId
  recoveryFence := t.recoveryFence
  expectedGeneration := t.expectedGeneration

def fingerprint : D.Receipt := D.reservation t.kind t.reservationKey t.payload

end Transition

def verifyTransitionCheckpoint (t : Transition D) (execution : ExecutionRow) : Tx D Unit :=
  match t.checkpoint with
  | none => pure ()
  | some values => verifyCommittedWaitingCheckpoint execution t.sourceRevision values t.pending

/-- What a repeated transition answers. -/
def replayTransition (t : Transition D) (reservation : ReservationRow D.Receipt) (now : ℤ) :
    Tx D ℕ := do
  verifyReservation reservation t.fingerprint
  requireCallFence t.call now
  let execution ← expect ((← reads (getExecution · t.executionId)).filter
      fun e => e.taskId = some t.taskId ∧ t.sourceRevision + 1 ≤ e.revision)
    (conflict "Durable transition reservation has no matching AgentExecution.")
  verifyTransitionCheckpoint t execution
  pure (t.sourceRevision + 1)

/-- The columns that a transition sets, after its checkpoint was staged. -/
def stageTransition (t : Transition D) (execution : ExecutionRow) (evidence : WaitingEvidence) :
    Tx D ExecutionPatch :=
  match t.checkpoint with
  | none => pure t.values
  | some values =>
    stageWaitingCheckpoint execution t.sourceRevision t.values values t.pending evidence

def transitionExecutionWithBudget (t : Transition D) (evidence : WaitingEvidence) (now : ℤ) :
    Tx D ℕ := do
  validateRecoveryMutationAuthority t.call
  let _ ← normalizeExecutionPatch t.values
  requireCallFence t.call now
  let record ← requireIncarnation t.call
    "TaskBudget incarnation changed during execution transition"
  let generation := some record.incarnationGeneration
  match ← reads (getTaskBudgetReservation · t.taskId t.kind t.reservationKey generation) with
  | some existing => replayTransition t existing now
  | none =>
    let execution ← expect ((← reads (getExecution · t.executionId)).filter
        fun e => e.taskId = some t.taskId)
      (conflict s!"Unknown task-scoped execution: {t.executionId}")
    ensure (execution.revision = t.sourceRevision)
      (conflict s!"Stale AgentExecution revision: {t.executionId}@{t.sourceRevision}")
    ensure (execution.state = t.expectedState)
      (conflict (s!"AgentExecution {t.executionId} is {execution.state.value}, " ++
        s!"expected {t.expectedState.value}"))
    let budget ← loadBudget record
    let budgetValues ← evidently (t.mutateBudget budget)
    requireCallFence t.call now
    let _ ← orAbort
      (compareAndSetTaskBudget t.taskId budget.revision budgetValues generation) .lostRace
    let values ← stageTransition t execution evidence
    requireCallFence t.call now
    let _ ← orAbort (compareAndSetExecution t.executionId t.sourceRevision values)
      (conflict "AgentExecution CAS lost during TaskBudget transition.")
    saveTaskBudgetReservation t.taskId t.kind t.reservationKey t.fingerprint generation
    pure (t.sourceRevision + 1)

/-! ### The operations -/

/-- The counters of an execution that resumes, or why there is no room for it. -/
def resumePatch (delegated : Bool) (budget : Agent.TaskBudget) : Except Failure BudgetPatch :=
  if budget.state ≠ .open then .error (isClosed budget.taskId)
  else if budget.limits.maxActiveExecutions ≤ budget.activeExecutions then
    .error (exceeded "max_active_executions reached")
  else if delegated ∧ budget.limits.maxParallelAgents ≤ budget.activeParallelAgents then
    .error (exceeded "max_parallel_agents reached")
  else .ok (occupySlot budget.toBudgetRow delegated)

/-- The budget columns of an execution that stops to run. -/
def vacateSlot (budget : BudgetRow) (delegated : Bool) : BudgetPatch :=
  { activeExecutions := some (budget.activeExecutions - 1)
    activeParallelAgents := some
      (if delegated then budget.activeParallelAgents - 1 else budget.activeParallelAgents) }

/-- The counters of an execution that stops to run, or why none of them can sink. -/
def releasePatch (delegated : Bool) (budget : Agent.TaskBudget) : Except Failure BudgetPatch :=
  if budget.activeExecutions ≤ 0 then .error (conflict "active_executions is already zero")
  else if delegated ∧ budget.activeParallelAgents ≤ 0 then
    .error (conflict "active_parallel_agents is already zero")
  else .ok (vacateSlot budget.toBudgetRow delegated)

def resumeTransition (taskId executionId : String) (sourceRevision : ℕ) (values : ExecutionPatch)
    (delegated : Bool) (expectedGeneration : Option ℤ) : Transition D where
  taskId := taskId
  executionId := executionId
  sourceRevision := sourceRevision
  expectedState := .waiting
  values := values
  kind := .resumeExecution
  reservationKey := s!"{executionId}:{sourceRevision}"
  payload := .resume executionId sourceRevision delegated
  mutateBudget := resumePatch delegated
  expectedGeneration := expectedGeneration

def resumeTaskScopedExecution (taskId executionId : String) (sourceRevision : ℕ)
    (values : ExecutionPatch) (delegated : Bool) (expectedGeneration : Option ℤ)
    (evidence : WaitingEvidence) (now : ℤ) : Tx D ℕ := do
  ensure (values.state = some .running) (.valueError "resume transition must target RUNNING")
  transitionExecutionWithBudget
    (resumeTransition taskId executionId sourceRevision values delegated expectedGeneration)
    evidence now

def ExecutionState.isFinishTarget (s : ExecutionState) : Bool :=
  s = .waiting ∨ s.isTerminal = true

/-- The arguments of `finish_task_scoped_execution`. -/
structure FinishCall where
  taskId : String
  executionId : String
  sourceRevision : ℕ
  values : ExecutionPatch
  delegated : Bool
  checkpoint : Option CheckpointValues := none
  pending : List PendingReference := []
  recoveryFence : Option RecoveryFence := none
  expectedGeneration : Option ℤ := none

def FinishCall.transition (f : FinishCall) (target : ExecutionState) : Transition D :=
  { f with
    expectedState := .running
    kind := .releaseExecution
    reservationKey := s!"{f.executionId}:{f.sourceRevision + 1}"
    payload := .release f.executionId (f.sourceRevision + 1) target f.delegated
      (f.checkpoint.map (·.checkpointId)) f.pending
    mutateBudget := releasePatch f.delegated }

def finishTaskScopedExecution (f : FinishCall) (evidence : WaitingEvidence) (now : ℤ) :
    Tx D ℕ := do
  let target ← expect (f.values.state.filter (ExecutionState.isFinishTarget ·))
    (.valueError "finish transition must target WAITING or a terminal state")
  ensure (target ≠ .waiting → f.checkpoint.isNone)
    (.valueError "checkpoint_values are only valid for WAITING transitions")
  transitionExecutionWithBudget (f.transition target) evidence now

/-- `expire_task_scoped_waiting_execution`; it returns nothing when the execution does not wait at
the given revision. -/
def expireTaskScopedWaitingExecution (taskId executionId : String) (sourceRevision : ℕ)
    (values : ExecutionPatch) : Tx D (Option ℕ) := do
  ensure (values.state = some .timeout)
    (.valueError "waiting expiry transition must target TIMEOUT")
  let values ← normalizeExecutionPatch values
  let task ← requireTask taskId
  let execution ← expect (← reads (getExecution · executionId))
    (conflict s!"Unknown AgentExecution: {executionId}")
  ensure (execution.taskId = some taskId)
    (conflict "AgentExecution belongs to a different AgentTask.")
  if execution.state ≠ .waiting ∨ execution.revision ≠ sourceRevision then
    pure none
  else
    match ← compareAndSetExecution executionId sourceRevision values with
    | none => pure none
    | some _ =>
      let _ ← orAbort (reconcileMultibranchTaskActivity taskId task) .lostRace
      pure (some (sourceRevision + 1))

/-! ### What a transition did -/

section Outcomes

variable {db db' : Db D} {t : Transition D} {evidence : WaitingEvidence} {now : ℤ}
  {execution : ExecutionRow}

@[simp] theorem verifyTransitionCheckpoint_bind_ok {α : Type} {g : Unit → Tx D α} {x : α × Db D} :
    (verifyTransitionCheckpoint t execution >>= g) db = .ok x ↔
      (∀ values ∈ t.checkpoint,
        CommittedCheckpoint db execution t.sourceRevision values t.pending) ∧
      g () db = .ok x := by
  unfold verifyTransitionCheckpoint
  cases t.checkpoint with
  | none => simp
  | some values => simp

variable {n : ℕ}

/-- **A repeated transition finds its execution moved and its checkpoint in place, and changes
nothing.** -/
theorem replayTransition_ok {reservation : ReservationRow D.Receipt} :
    replayTransition t reservation now db = .ok (n, db') ↔
      reservation.payloadFingerprint = t.fingerprint ∧ CallFenceHolds db t.call now ∧
      (∃ e, getExecution db t.executionId = some e ∧ e.taskId = some t.taskId ∧
        t.sourceRevision + 1 ≤ e.revision ∧
        ∀ values ∈ t.checkpoint, CommittedCheckpoint db e t.sourceRevision values t.pending) ∧
      n = t.sourceRevision + 1 ∧ db' = db := by
  simp only [replayTransition, verifyReservation_bind_ok, requireCallFence_bind_ok, steps_ok,
    Option.filter_eq_some_iff, decide_eq_true_eq, verifyTransitionCheckpoint_bind_ok, pure_mk]
  constructor
  · rintro ⟨hfingerprint, hfence, e, ⟨he, htask, hrevision⟩, hcheckpoint, hn, hdb⟩
    exact ⟨hfingerprint, hfence, ⟨e, he, htask, hrevision, hcheckpoint⟩, hn, hdb⟩
  · rintro ⟨hfingerprint, hfence, ⟨e, he, htask, hrevision, hcheckpoint⟩, hn, hdb⟩
    exact ⟨hfingerprint, hfence, e, ⟨he, htask, hrevision⟩, hcheckpoint, hn, hdb⟩

theorem stageTransition_ok {patch : ExecutionPatch}
    (h : stageTransition t execution evidence db = .ok (patch, db')) :
    patch.state = t.values.state ∧ ∃ checkpoints pendingInvocations,
      db' = { db with checkpoints, pendingInvocations } := by
  unfold stageTransition at h
  cases hc : t.checkpoint with
  | none =>
    rw [hc] at h
    obtain ⟨rfl, rfl⟩ := pure_mk.1 h
    exact ⟨rfl, _, _, rfl⟩
  | some values =>
    rw [hc] at h
    obtain ⟨_, checkpoints, pendingInvocations, -, -, -, -, -, -, -, hstate, -, rfl⟩ :=
      stageWaitingCheckpoint_ok h
    exact ⟨hstate, checkpoints, pendingInvocations, rfl⟩

/-- **A transition replays its reservation, or moves the execution and the budget together.** -/
theorem transitionExecutionWithBudget_ok
    (h : transitionExecutionWithBudget t evidence now db = .ok (n, db')) :
    n = t.sourceRevision + 1 ∧ ∃ b, getTaskBudget db t.taskId = some b ∧
      ((∃ r, getTaskBudgetReservation db t.taskId t.kind t.reservationKey
            (some b.incarnationGeneration) = some r ∧
          replayTransition t r now db = .ok (n, db') ∧ db' = db) ∨
        (∃ e patch values loaded db1 reservations,
          getExecution db t.executionId = some e ∧ e.taskId = some t.taskId ∧
          e.revision = t.sourceRevision ∧ e.state = t.expectedState ∧
          b = loaded.toBudgetRow ∧ t.mutateBudget loaded = .ok patch ∧
          (patch.apply b.revision b).Checks ∧
          stageTransition t e evidence
            { db with budgets := db.budgets.put (patch.apply b.revision b) } =
              .ok (values, db1) ∧
          db1.reservations.insert? ⟨t.taskId, t.kind, t.reservationKey, b.incarnationGeneration,
            t.fingerprint⟩ = some reservations ∧
          db' = { db1 with
            executions := db1.executions.put (values.apply (t.sourceRevision + 1) e)
            reservations })) := by
  simp only [transitionExecutionWithBudget, validateRecoveryMutationAuthority_bind_ok,
    normalizeExecutionPatch_bind_ok, requireCallFence_bind_ok, requireIncarnation_bind_ok,
    steps_ok] at h
  obtain ⟨-, -, -, b, hb, -, h⟩ := h
  rcases hr : getTaskBudgetReservation db t.taskId t.kind t.reservationKey
    (some b.incarnationGeneration) with _ | r
  · rw [hr] at h
    simp only [steps_ok, Option.filter_eq_some_iff, decide_eq_true_eq, loadBudget_bind_ok,
      evidently_bind_ok, requireCallFence_bind_ok, compareAndSetTaskBudget_bind_ok] at h
    obtain ⟨e, ⟨he, htask⟩, hrevision, hstate, loaded, hloaded, patch, hpatch, -, b', hb', -,
      hchecks, h⟩ := h
    obtain rfl : b' = b := Option.mem_unique hb' hb
    obtain ⟨values, db1, hstage, h⟩ := bind_ok.1 h
    have hrev : loaded.revision = b'.revision := by rw [hloaded]
    rw [hrev] at hchecks hstage
    obtain ⟨-, checkpoints, pendingInvocations, rfl⟩ := stageTransition_ok hstage
    simp only [requireCallFence_bind_ok, compareAndSetExecution, updateExecution_bind_ok,
      saveTaskBudgetReservation_bind_ok, pure_mk] at h
    obtain ⟨-, e', he', -, b2, hb2, -, reservations, hreservations, rfl, rfl⟩ := h
    obtain rfl : e' = e := Option.mem_unique he' he
    have hb2' : b2 = patch.apply b'.revision b' :=
      Option.mem_unique hb2 (find?_put_same hb rfl)
    subst hb2'
    exact ⟨rfl, b', hb, .inr ⟨e', patch, values, loaded, _, reservations, he, htask, hrevision,
      hstate, hloaded, hpatch, hchecks, hstage, hreservations, rfl⟩⟩
  · rw [hr] at h
    obtain ⟨-, -, -, hn, hdb⟩ := replayTransition_ok.1 h
    exact ⟨hn, b, hb, .inl ⟨r, hr, h, hdb⟩⟩

/-! ### Lawful transitions -/

/-- The caller's promise: an execution counts as delegated exactly when it has a parent. -/
def DelegatedFits (db : Db D) (executionId : String) (delegated : Bool) : Prop :=
  ∀ e, getExecution db executionId = some e → delegated = e.parentExecutionId.isSome

def runs (s : ExecutionState) : ℤ := if s = .running then 1 else 0

/-- A change of counters that fits a move from one state to another. -/
structure FitsMove (b b' : BudgetRow) (source target : ExecutionState) (delegated : Bool) :
    Prop where
  grows : b.Grows b'
  opens : source ≠ .running → target = .running → b.state = .open
  active : b'.activeExecutions = b.activeExecutions + (runs target - runs source)
  parallel : b'.activeParallelAgents =
    b.activeParallelAgents + if delegated then runs target - runs source else 0
  branches : b'.activeBranches = b.activeBranches

variable {delegated : Bool} {target : ExecutionState}

/-- **A transition whose counters fit its move is lawful and balanced**, up to the counter of parallel
agents, which follows if the caller says truly whether the execution is delegated. -/
theorem transitionExecutionWithBudget_commit (hvalues : t.values.state = some target)
    (hlive : t.expectedState.isTerminal = false)
    (hmutate : ∀ b patch, t.mutateBudget b = .ok patch →
      FitsMove b.toBudgetRow
      (patch.apply b.revision b.toBudgetRow) t.expectedState target delegated)
    (h : transitionExecutionWithBudget t evidence now db = .ok (n, db')) :
    CommitIf True (DelegatedFits db t.executionId delegated) db db' := by
  obtain ⟨-, b, hb, ⟨r, -, -, rfl⟩ | ⟨e, patch, values, loaded, db1, reservations, he, htask,
    hrevision, hstate, rfl, hpatch, hchecks, hstage, -, rfl⟩⟩ := transitionExecutionWithBudget_ok h
  · exact (Commit.refl _).commitIf _ _
  · obtain ⟨hpatchState, checkpoints, pendingInvocations, rfl⟩ := stageTransition_ok hstage
    have hfits := hmutate loaded patch hpatch
    have hid : loaded.taskId = t.taskId := key_of_find? hb
    have hstate' : (values.apply (t.sourceRevision + 1) e).state = target := by
      simp [ExecutionPatch.apply, hpatchState, hvalues]
    have hruns : (values.apply (t.sourceRevision + 1) e).running - e.running =
        runs target - runs t.expectedState := by
      simp only [ExecutionRow.running, runs, hstate', hstate]
    have hshifts := Shifts.one hid hfits.grows.taskId hfits.active hfits.parallel hfits.branches
    rw [← hruns] at hshifts
    refine CommitIf.of_move rfl he ⟨⟨rfl, rfl, rfl, rfl⟩, .inr ⟨?_, ?_⟩⟩
      (.of_put hb hfits.grows.taskId) (by simpa [LawfulBudget] using ⟨hfits.grows, hchecks⟩)
      (.nil _) (by simp) rfl (.nil _) (by simp) htask ?_ hshifts ?_
    · rw [hstate]
      exact hlive
    · simp [ExecutionPatch.apply, hrevision]
    · intro hleft hright
      exact ⟨_, hb, hfits.opens (hstate ▸ hleft) (hstate' ▸ hright)⟩
    · intro hdelegated
      rw [hdelegated e he]

variable {b : Agent.TaskBudget} {patch : BudgetPatch}

theorem resumePatch_fits (h : resumePatch delegated b = .ok patch) :
    FitsMove b.toBudgetRow (patch.apply b.revision b.toBudgetRow) .waiting .running delegated := by
  unfold resumePatch at h
  split_ifs at h with hopen
  cases h
  refine ⟨?_, fun _ _ => by simpa using hopen, rfl, ?_, ?_⟩
  · constructor <;> simp [occupySlot, BudgetPatch.apply]
  · cases delegated <;> simp [occupySlot, BudgetPatch.apply, runs]
  · simp [occupySlot, BudgetPatch.apply]

theorem releasePatch_fits (htarget : target ≠ .running) (h : releasePatch delegated b = .ok patch) :
    FitsMove b.toBudgetRow (patch.apply b.revision b.toBudgetRow) .running target delegated := by
  unfold releasePatch at h
  split_ifs at h
  cases h
  refine ⟨?_, fun hne => absurd rfl hne, ?_, ?_, ?_⟩
  · constructor <;> simp [vacateSlot, BudgetPatch.apply]
  · simp [vacateSlot, BudgetPatch.apply, runs, htarget, sub_eq_add_neg]
  · cases delegated <;> simp [vacateSlot, BudgetPatch.apply, runs, htarget, sub_eq_add_neg]
  · simp [vacateSlot, BudgetPatch.apply]

variable {executionId : String} {sourceRevision : ℕ} {values : ExecutionPatch} {taskId : String}

theorem resumeTaskScopedExecution_commit {expectedGeneration : Option ℤ}
    (h : resumeTaskScopedExecution taskId executionId sourceRevision values delegated
      expectedGeneration evidence now db = .ok (n, db')) :
    CommitIf True (DelegatedFits db executionId delegated) db db' := by
  simp only [resumeTaskScopedExecution, steps_ok] at h
  obtain ⟨hrunning, h⟩ := h
  exact transitionExecutionWithBudget_commit hrunning rfl (fun _ _ => resumePatch_fits) h

theorem finishTaskScopedExecution_commit {f : FinishCall}
    (h : finishTaskScopedExecution f evidence now db = .ok (n, db')) :
    CommitIf True (DelegatedFits db f.executionId f.delegated) db db' := by
  simp only [finishTaskScopedExecution, steps_ok, Option.filter_eq_some_iff] at h
  obtain ⟨target, ⟨hvalues, htarget⟩, -, h⟩ := h
  have hne : target ≠ .running := by
    rintro rfl
    simp [ExecutionState.isFinishTarget, ExecutionState.isTerminal] at htarget
  exact transitionExecutionWithBudget_commit hvalues rfl (fun _ _ => releasePatch_fits hne) h

/-- **An expired wait leaves everything alone, or ends the execution and derives the activity of its
task again.** -/
theorem expireTaskScopedWaitingExecution_ok {o : Option ℕ}
    (h : expireTaskScopedWaitingExecution taskId executionId sourceRevision values db = .ok (o,
      db')) : db' = db ∨ ∃ task e task', getTask db taskId = some task ∧
      getExecution db executionId = some e ∧ e.taskId = some taskId ∧ e.state = .waiting ∧
      e.revision = sourceRevision ∧ (values.apply (sourceRevision + 1) e).state = .timeout ∧
      reconcileMultibranchTaskActivity taskId task
        { db with executions := db.executions.put (values.apply (sourceRevision + 1) e) } =
        .ok (some task', db') := by
  simp only [expireTaskScopedWaitingExecution, steps_ok, normalizeExecutionPatch_bind_ok,
    requireTask_bind_ok, ite_ok, pure_mk] at h
  obtain ⟨htimeout, -, task, htask, e, he, howner, ⟨-, -, rfl⟩ | ⟨hwaits, h⟩⟩ := h
  · exact .inl rfl
  obtain ⟨hwaiting, hrevision⟩ : e.state = .waiting ∧ e.revision = sourceRevision := by
    simpa [not_or] using hwaits
  rw [bind_ok] at h
  obtain ⟨o', db1, hset, h⟩ := h
  cases o' with
  | none =>
    unfold compareAndSetExecution updateExecution at hset
    obtain ⟨-, rfl⟩ := compareAndSet_none.1 hset
    obtain ⟨-, rfl⟩ := pure_mk.1 h
    exact .inl rfl
  | some e' =>
    obtain ⟨r, hr, -, rfl, rfl⟩ := updateExecution_some.1 hset
    obtain rfl : r = e := Option.mem_unique hr he
    simp only [orAbort_bind_ok, pure_mk] at h
    obtain ⟨task', db2, hactivity, -, rfl⟩ := h
    exact .inr ⟨task, r, task', htask, he, howner, hwaiting, hrevision,
      by simp [ExecutionPatch.apply, htimeout], hactivity⟩

theorem expireTaskScopedWaitingExecution_commit {o : Option ℕ}
    (h : expireTaskScopedWaitingExecution taskId executionId sourceRevision values db = .ok (o,
      db')) : Commit db db' := by
  obtain rfl | ⟨task, e, task', htask, he, howner, hwaiting, hrevision, hstate', hactivity⟩ :=
    expireTaskScopedWaitingExecution_ok h
  · exact .refl _
  obtain ⟨ts, htasks, hts, hdb⟩ := reconcileMultibranchTaskActivity_log hactivity htask
  rw [hdb]
  have hsame : (values.apply (sourceRevision + 1) e).running - e.running = 0 := by
    simp [ExecutionRow.running, hstate', hwaiting]
  refine CommitIf.commit (.of_moved rfl he ⟨⟨rfl, rfl, rfl, rfl⟩, .inr ⟨?_, ?_⟩⟩ (.nil _) (by simp)
    htasks hts rfl (.nil _) (by simp) (by simp [hstate']) (by simp [hsame]) (by simp) (by simp [hsame]))
  · rw [hwaiting]
    rfl
  · simp [ExecutionPatch.apply, hrevision]

end Outcomes

end AssistantRuntime.TaskBudget

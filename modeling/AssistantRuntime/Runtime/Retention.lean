/-
**What the runtime keeps.**

Every operation is put together from the statements of the repository, and every statement keeps the
receipts (`Agent.Retains`).  Walking along the text of each operation shows that it does, too; over
a whole run, whoever looks for a receipt finds it as it was first written.

Main results:

* `respects_perform` — an operation respects any relation that its statements do;
* `Request.retains` — what a request stores keeps what was stored;
* `retains_of_run`, `receipts_permanent` — and so does a run.
-/

import AssistantRuntime.Agent.Retention
import AssistantRuntime.Runtime.Requests

namespace AssistantRuntime.Runtime

open Relational Uow Agent TaskBudget Persistence

variable {D : Digests}

/-! ### Patches of claims -/

section Patches

variable {consuming : Prop} {π : Type} (now : ℤ)

instance : (taskResolvedPatch now : ClaimPatch D.Plan).Settles consuming .created :=
  ⟨rfl, rfl, rfl, by simp [taskResolvedPatch]⟩

instance (code : String) (now : ℤ) :
    (rejectionPatch code now : ClaimPatch D.Plan).Settles consuming .created :=
  ⟨rfl, rfl, rfl, by simp [rejectionPatch]⟩

instance (expiredAt : Option (Option ℤ)) :
    ({ state := some .expired, expiredAt } : ClaimPatch π).Settles consuming .created :=
  ⟨rfl, rfl, rfl, by simp⟩

instance (connectionId : Option (Option String)) (planFingerprint : Option π) :
    ({ connectionId, planFingerprint } : ClaimPatch π).Settles consuming .created :=
  ⟨rfl, rfl, rfl, by simp⟩

instance (source : ClaimState) (metadata : Option (List (String × Json))) :
    ({ metadata } : ClaimPatch π).Settles consuming source :=
  ⟨rfl, rfl, rfl, by simp⟩

instance (metadata : Option (List (String × Json))) (consumedAt : Option (Option ℤ))
    (consumedExecutionRevision : Option (Option ℕ)) :
    ({ state := some .consumed, metadata, consumedAt, consumedExecutionRevision } :
      ClaimPatch π).Settles True .created :=
  ⟨rfl, rfl, rfl, by simp⟩

end Patches

/-! ### Parts of operations -/

section Parts

variable {consuming : Prop} {R : Db D → Db D → Prop} [writes : Writes consuming R]
variable [charges : WritesCharges R]
variable (settings : Settings) (taskId executionId branchId : String) (now : ℤ)
include writes charges

instance (path : String) (o : Option Json) : Respects R (jsonSafe path o : Tx D (Option Json)) := by
  cases o <;> (unfold jsonSafe; infer_instance)

instance {α : Type} (check : Check D α) :
    Respects R (refusing check : Tx D (Except String α)) where
  rel {db a db'} h := by
    unfold refusing at h
    split at h <;>
      · cases h
        exact refl_of R _

instance (lockedTask : TaskRow) :
    Respects R (reconcileMultibranchTaskActivity taskId lockedTask) := by
  dsimp only [reconcileMultibranchTaskActivity]
  exact .along

omit writes charges in
instance (source : UserBudget.MirrorSource)
    (l : List (UserBudget.MirrorDimension × Option UserBudget.ReceiptRow)) :
    Respects UserBudget.Enrolls (requireReceipts source l) := by
  induction l with
  | nil =>
    unfold requireReceipts
    infer_instance
  | cons p rest ih =>
    obtain ⟨dimension, stored⟩ := p
    unfold requireReceipts
    infer_instance

instance (parentTaskId : Option String) (identity : Option Identity) :
    Respects R (enrollTask settings parentTaskId identity) := by
  dsimp only [enrollTask, prepareEnrollment]
  exact .along

omit writes charges in
instance (revision : ℕ) [WritesExecutions R] :
    Respects R (compareAndSetTaskBranch branchId revision (headPatch executionId) :
      Tx D (Option BranchRow)) :=
  WritesExecutions.compareAndSetTaskBranch branchId revision (some executionId)

instance (intent : ResumeClaimIntent D.Plan) (claimId : String) :
    Respects R (saveResumeClaim (intent.toRow claimId) : Tx D Unit) :=
  Writes.saveResumeClaim _ rfl

/-! Parts that go through a list. -/

instance (claims : List (ClaimRow D.Plan)) :
    Respects R (rejectClaims now claims) := by
  induction claims with
  | nil =>
    unfold rejectClaims
    infer_instance
  | cons claim claims ih =>
    unfold rejectClaims
    infer_instance

instance {ρ : Type} (branches : List BranchRow) (label : String) (branchOf executionOf : ρ → String)
    (exact : ρ → BranchRow → ExecutionRow → Prop) [∀ r b e, Decidable (exact r b e)]
    (receipts : List ρ) : Respects R (collectDormant label branchOf executionOf exact branches receipts :
      Tx D (List (ρ × ExecutionRow))) := by
  induction receipts with
  | nil =>
    unfold collectDormant
    infer_instance
  | cons receipt receipts ih =>
    dsimp only [collectDormant]
    infer_instance

instance {ρ : Type} (statement : ρ × ExecutionRow → Tx D (Option ExecutionRow))
    [∀ c, Respects R (statement c)] (cs : List (ρ × ExecutionRow)) :
    Respects R (cancelDormant statement cs : Tx D (ℤ × ℤ)) := by
  induction cs with
  | nil =>
    unfold cancelDormant
    infer_instance
  | cons c cs ih =>
    unfold cancelDormant
    infer_instance

instance (c : BranchRow × ExecutionRow) :
    Respects R (cancelLoser now c) := by
  dsimp only [cancelLoser, compareAndSetExecution]
  infer_instance

instance (losers : List BranchRow) : Respects R (loserPreactivations taskId branchId losers) := by
  induction losers with
  | nil =>
    unfold loserPreactivations
    infer_instance
  | cons loser losers ih =>
    dsimp only [loserPreactivations, dormantLoser]
    exact .along

instance (items : List BranchRow) [WritesResolutions R] :
    Respects R (resolveOpenBranches branchId items) := by
  induction items with
  | nil =>
    unfold resolveOpenBranches
    infer_instance
  | cons item items ih =>
    unfold resolveOpenBranches resolution
    infer_instance

section Charges

variable (mirror : Option (DualAccounting × UserBudget.TaskBindingRow))

instance (generation : ℤ) (calls : List (ToolCall D)) :
    Respects R (missingToolCalls taskId generation mirror calls) := by
  induction calls with
  | nil =>
    unfold missingToolCalls
    infer_instance
  | cons call rest ih =>
    dsimp only [missingToolCalls, verifyReservation, requireToolCallMirror, requireMirrorReplay]
    exact .along

instance (generation : ℤ) (calls : List (ToolCall D)) :
    Respects R (saveToolCalls taskId generation mirror now calls) := by
  induction calls with
  | nil =>
    unfold saveToolCalls
    infer_instance
  | cons call rest ih =>
    dsimp only [saveToolCalls, mirrorToolCall]
    exact .along

end Charges

/-! Parts of the consumption of a claim, which do not consume it. -/

variable (claim : ClaimRow D.Plan)

instance {α : Type} (code : String) : Respects R (refuseClaim (α := α) claim code now) := by
  dsimp only [refuseClaim, rejectCreatedClaim]
  exact .along

instance {α : Type} (lost : Failure) : Respects R (expireClaim (α := α) claim now lost) := by
  dsimp only [expireClaim]
  infer_instance

instance (spec : ResumeClaimConsumeSpec D.Plan) (target : ClaimTarget) :
    Respects R (expireWait spec claim target) := by
  dsimp only [expireWait, compareAndSetWaitingExecution, reconcileClaimTask]
  exact .along

end Parts

/-! ### Operations -/

/-- The requests that store budgets. -/
def Request.Creates : Request D → Prop
  | .createTask .. => True
  | .ensureBudget .. => True
  | _ => False

/-- The operations that store executions. -/
def Request.Admits : Request D → Prop
  | aggregateBranches .. => True
  | consumeRetryPlan .. => True
  | consumeForkPlan .. => True
  | startRoot .. => True
  | start .. => True
  | _ => False

def Request.Consumes : Request D → Prop
  | .consumeResumeClaim .. => True
  | .consumeRecoveryClaim .. => True
  | _ => False

/-- **An operation respects what its statements respect.**  Its text is opened down to the statements
and to the parts above, and walked along. -/
theorem respects_perform {consuming : Prop} {R : Db D → Db D → Prop} [Writes consuming R]
    [WritesCharges R] [WritesResolutions R] (r : Request D)
    (hconsumes : r.Consumes → consuming = True) (hadmits : r.Admits → WritesExecutions R)
    (hcreates : r.Creates → Respects R r.perform) : Respects R r.perform := by
  cases r
  case createTask => exact hcreates trivial
  case ensureBudget => exact hcreates trivial
  all_goals
    try have := hadmits trivial
    try (have hconsuming := hconsumes trivial; subst hconsuming)
    dsimp only [Request.perform, Request.Answer, requireForkEvidence, requireForkBudget,
      revalidateForkPlan, runtimeProof, requireRetryBudget, requireRetryCheckpoint,
      requireRetryEvidence, revalidateRetryPlan, requireBudgetRecord, loadBudget, requireOpen,
      requireTask, prepareResumeCapacity, requireSameBinding, requireMirrorReplay,
      normalizeTaskStoreValues, close, requireActivationEligibility, transitionTask, closeIfOpen,
      terminalizeTask, dormantAdmissions, cancelAdmissions, writeCancelled, cancelTask,
      loadResolution, releaseHead, discardBranch, completedHead, adoptBranch,
      normalizeExecutionStoreValues, replayForkAdmission, consumeForkPlan, replayRetryAdmission,
      consumeRetryPlan, replayAggregateAdmission, requireAggregateSources, aggregateBranches,
      requireFence, validateRecoveryMutationAuthority, requireCallFence, requireIncarnation,
      verifyReservation, requireLegacyUnbound, requireNull, requireRootValues, replayRootAdmission,
      requirePristineTask, startRootTaskScopedExecution, reserveNewExecution,
      startTaskScopedExecution, normalizeExecutionPatch, resumeTaskScopedExecution,
      finishTaskScopedExecution, expireTaskScopedWaitingExecution, requireObservedLease,
      requireTakeoverTarget, requireUnreserved, replayRecovery, recoverTaskScopedExecution,
      failUnrecoverableTaskScopedExecution, requireCurrentBinding, mutateEnrolledResource,
      mutateResourceWithReservation, chargeResource, reserveInference, accountUsage,
      requireBatchBinding, reserveToolCallBatch, rejectCreatedClaim, lockClaimTask,
      rejectForTerminalTask, requireClaimTarget, requireClaimBranch, createResumeClaim,
      replayResumeClaim, getOrCreateResumeClaim, requireReconnectPlan, rebindClaim,
      rebindCreatedResumeClaim, recordResumeClaimHandoff, advanceActivityEpoch, occupyClaimTask,
      reconcileClaimTask, activateResume, consumeCreatedResumeClaim, consumeClaim,
      consumeResumeClaimOnce, activateRecovery, consumeCreatedRecoveryClaim, consumeRecoveryClaimOnce,
      activateForkExecution, activateRetryExecution, loadAggregateSourceExecutions,
      activateAggregateExecution, releaseTakenOver, replayConsumedResume, replayConsumedRecovery,
      mutateWithReservation, newExecutionMutation, inferenceMutation, usageMutation,
      validateDelegatedBranch, transitionExecutionWithBudget, replayTransition,
      verifyTransitionCheckpoint, verifyCommittedWaitingCheckpoint, stageTransition, leaseExecution,
      renewLease, releaseLease, compareAndSetExecution, compareAndSetWaitingExecution,
      compareAndSetRecoveryWaitingExecution, compareAndSetExpiredExecutionTerminal,
      acquireExecutionLease, renewExecutionLease, releaseExecutionLease,
      compareAndSetForkActivation, compareAndSetAggregateActivation, compareAndSetRetryActivation,
      compareAndSetRetryPreactivationCancel, compareAndSetForkPreactivationCancel]
    exact .along

/-! ### What is kept -/

/-- A budget that is stored later. -/
instance {R : Db D → Db D → Prop} {consuming : Prop} [Writes consuming R]
    [∀ row, Respects R (saveTaskBudget row : Tx D BudgetRow)] (taskId : String)
    (limits : TaskBudgetLimits) (policy : TaskBudgetPolicy) :
    Respects R (ensureBudget taskId limits policy) := by
  dsimp only [ensureBudget, requireTask, loadBudget]
  exact .along

variable {db db' : Db D}

theorem bindEnrolledTask_retains {taskId : String} {resolution : Option BudgetOwnerResolution}
    (h : bindEnrolledTask taskId resolution db = .ok ((), db')) :
    ∃ u, db' = { db with userBudgets := u } ∧ u.receipts = db.userBudgets.receipts ∧
      ∀ τ, τ ≠ taskId → u.getTaskBinding τ = db.userBudgets.getTaskBinding τ := by
  cases resolution with
  | none =>
    cases pure_ok.1 h
    exact ⟨_, rfl, rfl, fun _ _ => rfl⟩
  | some resolution =>
    simp only [bindEnrolledTask, bindPreparedTask, onUserBudgets] at h
    obtain ⟨u, hu, rfl⟩ := within_ok.1 h
    refine ⟨u, rfl, ?_⟩
    obtain ⟨row, u1, hbind, hu⟩ := bind_ok.1 hu
    cases pure_ok.1 hu
    simp only [UserBudget.createTaskBinding, steps_ok] at hbind
    cases hold : db.userBudgets.getTaskBinding taskId with
    | some existing =>
      simp only [hold, steps_ok, pure_mk] at hbind
      obtain ⟨-, -, rfl⟩ := hbind
      exact ⟨rfl, fun _ _ => rfl⟩
    | none =>
      simp only [hold, steps_ok, writes_bind_ok, pure_ok, Prod.mk.injEq] at hbind
      obtain ⟨bindings, hinsert, -, rfl⟩ := hbind
      refine ⟨rfl, ?_⟩
      intro τ hτ
      show bindings.find? τ = db.userBudgets.taskBindings.find? τ
      rw [Table.find?_insert? hinsert]
      exact if_neg hτ

/-- **Creating a task leaves everything that other tasks rely on alone.** -/
instance {consuming : Prop} (settings : Settings) (task : TaskRow) (limits : Option TaskBudgetLimits)
    (policy : Option TaskBudgetPolicy) (identity : Option Identity) :
    Respects (Retains consuming)
      (createTaskWithBudget settings task limits policy identity : Tx D TaskRow) where
  rel {db t db'} h := by
    simp only [createTaskWithBudget, steps_ok, jsonSafe_bind_ok] at h
    obtain ⟨-, limits, -, policy, -, -, -, h⟩ := h
    obtain ⟨resolution, db1, henroll, h⟩ := bind_ok.1 h
    have h1 : Retains consuming db db1 := Respects.rel henroll
    rw [bind_ok] at h
    obtain ⟨_, db2, hparent, h⟩ := h
    have hdb2 := requireParentTask_ok hparent
    subst hdb2
    simp only [steps_ok] at h
    obtain ⟨hnew, h⟩ := h
    obtain ⟨_, db3, hsave, h⟩ := bind_ok.1 h
    have h3 : Retains consuming db2 db3 := Respects.rel hsave
    obtain ⟨_, db4, hbudget, h⟩ := bind_ok.1 h
    have h4 : Retains consuming db3 db4 := Respects.rel hbudget
    obtain ⟨_, db5, hbind, h⟩ := bind_ok.1 h
    cases pure_ok.1 h
    obtain ⟨u, rfl, hreceipts, hbindings⟩ := bindEnrolledTask_retains hbind
    have hkept := (h1.trans h3).trans h4
    refine { hkept with bindings := ?_, receipts := ?_ }
    · -- a task that was there is not the new one
      intro τ t ht
      have hne : τ ≠ task.id := by
        rintro rfl
        obtain ⟨t1, ht1, -⟩ := h1.tasks _ t ht
        rw [show getTask db2 task.id = some t1 from ht1] at hnew
        cases hnew
      exact (hbindings τ hne).trans (hkept.bindings τ t ht)
    · intro τ kind key dimension r hr
      have hold := hkept.receipts τ kind key dimension r hr
      unfold UserBudget.Db.getDualAccountingReceipt at hold ⊢
      rwa [hreceipts]

/-- **What a request stores keeps what was stored.** -/
theorem Request.retains (r : Request D) {a : r.Answer} (h : r.perform db = .ok (a, db')) :
    Retains r.Consumes db db' := by
  refine (respects_perform r eq_true (fun _ => inferInstance) fun hcreates => ?_).rel h
  cases r <;> first
    | exact hcreates.elim
    | (dsimp only [Request.perform, Request.Answer]
       infer_instance)

/-- **A step keeps what was stored.** -/
theorem Event.Occurs.retains {ev : Event D} (h : ev.Occurs db db') :
    Retains ev.request.Consumes db db' := by
  unfold Event.Occurs at h
  split at h
  · exact ev.request.retains h
  · obtain ⟨-, rfl⟩ := h
    exact .refl _

/-- **A run keeps what was stored.** -/
theorem retains_of_run {evs : List (Event D)} (h : Run Event.Occurs db evs db') :
    Retains True db db' := by
  refine Run.composes .refl (fun h1 h2 => h1.trans h2) ?_ h
  intro ev s s' hev
  exact hev.retains.mono fun _ => trivial

/-- **Receipts are permanent**: over any sequence of requests, reservations, admissions and checkpoints
stay as they were written, and a task keeps the user who pays for it. -/
theorem receipts_permanent (db : Db D) (rs : List (Request D)) :
    (∀ r ∈ db.reservations, r ∈ (after db rs).reservations) ∧
    (∀ r ∈ db.forkAdmissions, r ∈ (after db rs).forkAdmissions) ∧
    (∀ r ∈ db.retryAdmissions, r ∈ (after db rs).retryAdmissions) ∧
    (∀ r ∈ db.aggregateAdmissions, r ∈ (after db rs).aggregateAdmissions) ∧
    (∀ c ∈ db.checkpoints, c ∈ (after db rs).checkpoints ∧
      listCheckpointPendingInvocations (after db rs) c.checkpointId =
        listCheckpointPendingInvocations db c.checkpointId) ∧
    ∀ t ∈ db.tasks, (after db rs).userBudgets.getTaskBinding t.id =
      db.userBudgets.getTaskBinding t.id := by
  have h := retains_of_run (history_run db rs)
  have hkept {ρ κ : Type} [DecidableEq κ] {key : ρ → κ} {t t' : Table key}
      (hevolves : t.Evolves (· = ·) t') : ∀ r ∈ t, r ∈ t' := by
    intro r hr
    obtain ⟨r', hr', rfl⟩ := hevolves _ r (Table.find?_key hr)
    exact Table.mem_of_find? hr'
  exact ⟨hkept h.reservations, hkept h.forkAdmissions, hkept h.retryAdmissions,
    hkept h.aggregateAdmissions,
    fun c hc => ⟨hkept h.checkpoints c hc, h.pending _ c (Table.find?_key hc)⟩,
    fun t ht => h.bindings _ t (Table.find?_key ht)⟩

end AssistantRuntime.Runtime

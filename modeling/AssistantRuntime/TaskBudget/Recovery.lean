/-
**Taking over a stale execution.**

A running execution whose lease has expired is taken over: it is moved to `WAITING` for recovery at
a checkpoint that is reconstructed from the durable records, or, where none can be reconstructed, it
fails.  Either gives the active slot back, names the lease it observed and advances the lease
generation, so that the former owner can no longer write.
-/

import AssistantRuntime.TaskBudget.Transition

namespace AssistantRuntime.TaskBudget

open Relational Uow Agent

variable {D : Digests}

/-! ### Shared steps -/

/-- The lease that a takeover observed, and when. -/
structure ObservedLease where
  ownerInstanceId : String
  leaseGeneration : ℕ
  leaseExpiresAt : ℤ
  takeoverNow : ℤ

/-- The checks on what a takeover names. -/
def requireObservedLease (taskId executionId : String) (lease : ObservedLease) : Tx D Unit := do
  ensure (taskId ≠ "" ∧ executionId ≠ "")
    (.valueError "task_id and execution_id must be non-empty")
  ensure (PyStr.strip lease.ownerInstanceId.toList ≠ [])
    (.valueError "observed_owner_instance_id must be a non-empty string")
  ensure (0 < lease.leaseGeneration)
    (.valueError "observed_lease_generation must be a positive integer")

/-- The execution still has the lease that the takeover observed, and it has expired. -/
def ObservedLease.Matches (lease : ObservedLease) (e : ExecutionRow) : Prop :=
  e.HasExpiredLease lease.ownerInstanceId lease.leaseGeneration lease.leaseExpiresAt
    lease.takeoverNow
  deriving Decidable

/-- A takeover that named this lease was committed, and nobody owns the execution since. -/
def ObservedLease.TakenFrom (lease : ObservedLease) (e : ExecutionRow) : Prop :=
  e.ownerInstanceId = none ∧ e.leaseExpiresAt = none ∧
    e.leaseGeneration = lease.leaseGeneration + 1
  deriving Decidable

/-- The execution and the budget that a takeover starts from. -/
def requireTakeoverTarget (taskId executionId : String) (expectedGeneration : Option ℤ)
    (message : String) : Tx D (ExecutionRow × BudgetRow) := do
  let execution ← expect ((← reads (getExecution · executionId)).filter (·.taskId = some taskId))
    (conflict s!"Unknown task-scoped execution: {executionId}")
  let record ← expect (← reads (getTaskBudget · taskId))
    (required s!"TaskBudget missing: {taskId}")
  ensure (∀ g ∈ expectedGeneration, record.incarnationGeneration = g)
    (.taskBudget .incarnationChanged message)
  pure (execution, record)

def leaseReceiptStale : Failure :=
  conflict "Execution no longer matches the exact expired lease receipt."

/-- No earlier takeover left a reservation behind. -/
def requireUnreserved (existing : Option (ReservationRow D.Receipt)) (fingerprint : D.Receipt)
    (message : String) : Tx D Unit := do
  ensure (∀ r ∈ existing, r.payloadFingerprint = fingerprint)
    (conflict "reservation_key was reused with a different payload")
  ensure (existing.isNone) (conflict message)

/-- The budget gives the slot of a taken-over execution back. -/
def releaseTakenOver (taskId : String) (record : BudgetRow) (delegated : Bool) : Tx D Unit := do
  let budget ← loadBudget record
  let values ← evidently (releasePatch delegated budget)
  let _ ← orAbort (compareAndSetTaskBudget taskId budget.revision values
    (some record.incarnationGeneration)) .lostRace
  pure ()

/-! ### Recovery -/

/-- What `reconstruct_r7c_safe_point_in_uow` returns. -/
structure SafePoint where
  iterationNumber : ℕ
  iterationId : Option String
  transcriptSnapshot : List Json
  orderedToolCallIds : List String
  orderedPendingInvocations : List PendingReference

/-- What the other stores answer during a recovery. -/
structure RecoveryEvidence extends WaitingEvidence where
  /-- The reconstructed safe point, or the text of the `SafePointReconstructionError`. -/
  safePoint : Except String SafePoint

def recoveryCheckpointId (executionId : String) (targetRevision : ℕ) : String :=
  s!"{executionId}:checkpoint:{targetRevision}"

def recoveryReceipt (executionId : String) (sourceRevision : ℕ) (lease : ObservedLease) :
    RecoveryReceipt :=
  ⟨executionId, sourceRevision, sourceRevision + 1,
    recoveryCheckpointId executionId (sourceRevision + 1), lease.ownerInstanceId,
    lease.leaseGeneration, lease.leaseExpiresAt, lease.takeoverNow⟩

/-- A receipt as the metadata of a checkpoint keep it. -/
def receiptMembers (r : RecoveryReceipt) : JsonObject :=
  [("execution_id", .str r.executionId), ("source_revision", .int r.sourceRevision),
    ("target_revision", .int r.targetRevision), ("checkpoint_id", .str r.checkpointId),
    ("observed_owner_instance_id", .str r.observedOwnerInstanceId),
    ("observed_lease_generation", .int r.observedLeaseGeneration),
    ("observed_lease_expires_at", .int r.observedLeaseExpiresAt),
    ("takeover_now_utc", .int r.takeoverNowUtc)]

def recoveryCheckpoint (D : Digests) (e : ExecutionRow) (receipt : RecoveryReceipt)
    (safePoint : SafePoint) : CheckpointValues where
  checkpointId := receipt.checkpointId
  executionId := receipt.executionId
  executionRevision := receipt.targetRevision
  sessionId := e.sessionId
  taskId := e.taskId
  branchId := e.branchId
  iteration := safePoint.iterationNumber
  waitReason := "RECOVERY"
  remainingActiveBudgetSeconds := e.remainingActiveBudgetSeconds
  originClientId := e.boundClientId
  originConnectionId := e.boundConnectionId
  transcriptSnapshot := some safePoint.transcriptSnapshot
  metadata :=
    [("r12_recovery_fingerprint", .str (D.safePoint (receiptMembers receipt))),
      ("r12_recovery_receipt", Json.obj (receiptMembers receipt)),
      ("r12_recovery_iteration_id", (safePoint.iterationId.map .str).getD .null),
      ("r12_recovery_active_tool_call_ids", .arr (safePoint.orderedToolCallIds.map .str))]

/-- The columns that a recovery sets, before its checkpoint is staged. -/
def recoveryTransition (e : ExecutionRow) : ExecutionPatch :=
  { state := some .waiting, waitReason := some (some "RECOVERY"), waitExpiresAt := some none
    remainingActiveBudgetSeconds := some e.remainingActiveBudgetSeconds
    boundConnectionId := some none, completedAt := some none }

/-- `WaitingCheckpointConflictError` inside a takeover. -/
def asBudgetConflict : Failure → Failure
  | .waitingCheckpointConflict message => conflict message
  | e => e

def recoveryFingerprint (D : Digests) (receipt : RecoveryReceipt) (delegated : Bool) : D.Receipt :=
  D.reservation .releaseExecution s!"{receipt.executionId}:{receipt.targetRevision}"
    (.recovery receipt delegated)

/-- The metadata of a checkpoint carry the fingerprint of a recovery. -/
def hasRecoveryFingerprint (metadata : JsonObject) (fingerprint : String) : Bool :=
  match Json.member? "r12_recovery_fingerprint" metadata with
  | some (.str text) => text = fingerprint
  | _ => false

/-- What a repeated recovery answers. -/
def replayRecovery (taskId : String) (execution : ExecutionRow) (generation : ℤ)
    (lease : ObservedLease) : Tx D ℕ := do
  let receipt := recoveryReceipt execution.id (execution.revision - 1) lease
  ensure (execution.currentCheckpointId =
      some (recoveryCheckpointId execution.id execution.revision))
    (conflict "Committed recovery does not point at the deterministic checkpoint.")
  let reservation ← expect (← reads (getTaskBudgetReservation · taskId .releaseExecution
      s!"{execution.id}:{execution.revision}" (some generation)))
    (conflict "Committed recovery has no canonical RELEASE_EXECUTION reservation.")
  verifyReservation reservation
    (recoveryFingerprint D receipt execution.parentExecutionId.isSome)
  let _ ← expect ((← reads (getExecutionCheckpoint ·
      (recoveryCheckpointId execution.id execution.revision))).filter fun c =>
        c.executionId = execution.id ∧ c.executionRevision = execution.revision ∧
          c.waitReason = "RECOVERY" ∧
          hasRecoveryFingerprint c.metadata (D.safePoint (receiptMembers receipt)))
    (conflict "Committed recovery checkpoint does not match the frozen receipt.")
  pure execution.revision

/-- The state that a committed recovery leaves behind. -/
def ObservedLease.RecoveredTo (lease : ObservedLease) (observedRevision : Option ℕ)
    (e : ExecutionRow) : Prop :=
  e.state = .waiting ∧ e.waitReason = some "RECOVERY" ∧ lease.TakenFrom e ∧
    ∀ r ∈ observedRevision, e.revision = r + 1
  deriving Decidable

def recoverTaskScopedExecution (taskId executionId : String) (lease : ObservedLease)
    (observedRevision : Option ℕ) (expectedGeneration : Option ℤ) (evidence : RecoveryEvidence) :
    Tx D ℕ := do
  requireObservedLease taskId executionId lease
  let (execution, record) ← requireTakeoverTarget taskId executionId expectedGeneration
    "TaskBudget incarnation changed during recovery"
  let delegated := execution.parentExecutionId.isSome
  if lease.RecoveredTo observedRevision execution then
    replayRecovery taskId execution record.incarnationGeneration lease
  else
    ensure (lease.Matches execution ∧ ∀ r ∈ observedRevision, execution.revision = r)
      leaseReceiptStale
    let sourceRevision := execution.revision
    let receipt := recoveryReceipt executionId sourceRevision lease
    let key := s!"{executionId}:{sourceRevision + 1}"
    let fingerprint := recoveryFingerprint D receipt delegated
    let existing ← reads (getTaskBudgetReservation · taskId .releaseExecution key
      (some record.incarnationGeneration))
    requireUnreserved existing fingerprint ("Recovery RELEASE_EXECUTION reservation exists " ++
      "without an idempotently provable WAITING winner.")
    let safePoint ← evidently (evidence.safePoint.mapError conflict)
    releaseTakenOver taskId record delegated
    let values ← mapError asBudgetConflict
      (stageWaitingCheckpoint execution sourceRevision (recoveryTransition execution)
        (recoveryCheckpoint D execution receipt safePoint) safePoint.orderedPendingInvocations
        evidence.toWaitingEvidence)
    let _ ← orAbort (compareAndSetRecoveryWaitingExecution executionId sourceRevision
      lease.ownerInstanceId lease.leaseGeneration lease.leaseExpiresAt lease.takeoverNow values)
      .lostRace
    saveTaskBudgetReservation taskId .releaseExecution key fingerprint
      (some record.incarnationGeneration)
    pure (sourceRevision + 1)

/-! ### Failure -/

/-- `reason_code.replace("_", "").isalnum()`, for a text that is not empty. -/
def isReasonCode (D : Digests) (reasonCode : String) : Bool :=
  let letters := reasonCode.toList.filter (· ≠ '_')
  !letters.isEmpty && letters.all D.isAlnum

def staleFailureFingerprint (D : Digests) (executionId : String) (sourceRevision : ℕ)
    (reasonCode : String) (lease : ObservedLease) (delegated : Bool) : D.Receipt :=
  D.reservation .releaseExecution s!"{executionId}:{sourceRevision + 1}"
    (.staleFailure executionId sourceRevision (sourceRevision + 1) reasonCode
      lease.ownerInstanceId lease.leaseGeneration lease.leaseExpiresAt lease.takeoverNow delegated)

/-- The state that a committed stale failure leaves behind. -/
def ObservedLease.FailedTo (lease : ObservedLease) (sourceRevision : ℕ) (reasonCode : String)
    (e : ExecutionRow) : Prop :=
  e.state = .failed ∧ e.revision = sourceRevision + 1 ∧
    e.error = some s!"R12_STALE_RECOVERY_UNRECOVERABLE:{reasonCode}" ∧ lease.TakenFrom e
  deriving Decidable

def failUnrecoverableTaskScopedExecution (taskId executionId : String) (sourceRevision : ℕ)
    (lease : ObservedLease) (reasonCode : String) (expectedGeneration : Option ℤ) : Tx D ℕ := do
  ensure (isReasonCode D reasonCode = true) (.valueError "reason_code must be a non-empty token")
  requireObservedLease taskId executionId lease
  let (execution, record) ← requireTakeoverTarget taskId executionId expectedGeneration
    "TaskBudget incarnation changed during stale failure"
  let delegated := execution.parentExecutionId.isSome
  let key := s!"{executionId}:{sourceRevision + 1}"
  let fingerprint :=
    staleFailureFingerprint D executionId sourceRevision reasonCode lease delegated
  let existing ← reads (getTaskBudgetReservation · taskId .releaseExecution key
    (some record.incarnationGeneration))
  if lease.FailedTo sourceRevision reasonCode execution then
    let reservation ← expect existing
      (conflict "Committed stale failure has no canonical RELEASE_EXECUTION reservation.")
    verifyReservation reservation fingerprint
    pure (sourceRevision + 1)
  else
    ensure (lease.Matches execution ∧ execution.revision = sourceRevision) leaseReceiptStale
    requireUnreserved existing fingerprint ("Stale failure RELEASE_EXECUTION reservation exists " ++
      "without an idempotently provable FAILED winner.")
    releaseTakenOver taskId record delegated
    let _ ← orAbort (compareAndSetExpiredExecutionTerminal executionId sourceRevision
      lease.ownerInstanceId lease.leaseGeneration lease.leaseExpiresAt lease.takeoverNow reasonCode
      none) .lostRace
    saveTaskBudgetReservation taskId .releaseExecution key fingerprint
      (some record.incarnationGeneration)
    pure (sourceRevision + 1)

/-! ### What a takeover did -/

section Outcomes

variable {db db' : Db D} {taskId executionId : String} {expectedGeneration : Option ℤ}
  {lease : ObservedLease}

@[simp] theorem requireTakeoverTarget_bind_ok {α : Type} {message : String}
    {g : ExecutionRow × BudgetRow → Tx D α} {x : α × Db D} :
    (requireTakeoverTarget taskId executionId expectedGeneration message >>= g) db = .ok x ↔
      ∃ e, (getExecution db executionId = some e ∧ e.taskId = some taskId) ∧
        ∃ b, getTaskBudget db taskId = some b ∧
          (∀ n ∈ expectedGeneration, b.incarnationGeneration = n) ∧ g (e, b) db = .ok x := by
  simp only [requireTakeoverTarget, bind_assoc, steps_ok, pure_bind_ok, Option.filter_eq_some_iff,
    decide_eq_true_eq]

variable {n : ℕ}

theorem replayRecovery_ok {e : ExecutionRow} {generation : ℤ}
    (h : replayRecovery taskId e generation lease db = .ok (n, db')) : db' = db := by
  simp only [replayRecovery, steps_ok, verifyReservation_bind_ok, pure_mk] at h
  obtain ⟨-, _, -, -, _, -, -, hdb⟩ := h
  exact hdb

/-- **Releasing a taken-over execution gives one slot of the stored budget back.** -/
theorem releaseTakenOver_bind_ok {α : Type} {b : BudgetRow} {delegated : Bool}
    {g : Unit → Tx D α} {x : α × Db D} (hb : getTaskBudget db taskId = some b)
    (h : (releaseTakenOver taskId b delegated >>= g) db = .ok x) :
    ∃ b', b'.Checks ∧ (∀ target : ExecutionState, target ≠ .running →
        FitsMove b b' .running target delegated) ∧
      g () { db with budgets := db.budgets.put b' } = .ok x := by
  simp only [releaseTakenOver, bind_assoc, loadBudget_bind_ok, evidently_bind_ok,
    compareAndSetTaskBudget_bind_ok, pure_bind_ok] at h
  obtain ⟨loaded, rfl, values, hvalues, b0, hb0, -, hchecks, h⟩ := h
  obtain rfl : b0 = loaded.toBudgetRow := Option.mem_unique hb0 hb
  exact ⟨_, hchecks, fun target htarget => releasePatch_fits htarget hvalues, h⟩

/-- Taking an execution over, once its slot was given back and it was moved. -/
theorem commit_of_takeover {e e' : ExecutionRow} {b b' : BudgetRow}
    (hexecutions : db'.executions = db.executions.put e')
    (he : getExecution db executionId = some e) (htask : e.taskId = some taskId)
    (hrunning : e.state = .running) (hlineage : e.SameLineage e')
    (hrevision : e'.revision = e.revision + 1)
    (hb : getTaskBudget db taskId = some b) (hchecks : b'.Checks)
    (hfits : FitsMove b b' .running e'.state e.parentExecutionId.isSome)
    (hbudgets : db'.budgets = db.budgets.put b') (htasks : db'.tasks = db.tasks)
    (hbranches : db'.branches = db.branches) (hclaims : db'.claims = db.claims) :
    Commit db db' := by
  have hruns : e'.running - e.running = runs e'.state - runs .running := by
    simp only [ExecutionRow.running, runs, hrunning]
  refine CommitIf.commit (.of_move hexecutions he ⟨hlineage, .inr ⟨?_, hrevision⟩⟩
    (.of_eq_put hbudgets hb hfits.grows.taskId) (by simpa [LawfulBudget] using ⟨hfits.grows, hchecks⟩)
    (.of_eq htasks) (by simp) hbranches (.of_eq hclaims) (by simp) htask
    (fun hne => absurd hrunning hne) ?_ (fun _ => rfl))
  · rw [hrunning]
    rfl
  · rw [hruns]
    exact .one (Table.key_of_find? hb) hfits.grows.taskId hfits.active hfits.parallel hfits.branches

variable {observedRevision : Option ℕ} {evidence : RecoveryEvidence}

variable (h : recoverTaskScopedExecution taskId executionId lease observedRevision
  expectedGeneration evidence db = .ok (n, db'))

include h

/-- **A recovery finds the execution recovered already, or takes it over**: the execution waits, for
its recovery, and the slot it held is given back. -/
theorem recoverTaskScopedExecution_ok :
    ∃ e b, getExecution db executionId = some e ∧ e.taskId = some taskId ∧
      getTaskBudget db taskId = some b ∧
      ((e.state = .waiting ∧ db' = db) ∨
        (lease.Matches e ∧ ∃ e' b' checkpoints pendingInvocations reservations,
          e.SameLineage e' ∧ e'.revision = e.revision + 1 ∧ e'.state = .waiting ∧
          e'.waitReason = some "RECOVERY" ∧ lease.TakenFrom e' ∧ b'.Checks ∧
          FitsMove b b' .running .waiting e.parentExecutionId.isSome ∧
          db' = { db with
            executions := db.executions.put e', budgets := db.budgets.put b', checkpoints
            pendingInvocations, reservations })) := by
  simp only [recoverTaskScopedExecution, requireObservedLease, bind_assoc, steps_ok,
    requireTakeoverTarget_bind_ok, ite_ok] at h
  obtain ⟨-, -, -, e, ⟨he, htask⟩, b, hb, -, ⟨hrecovered, hreplay⟩ | ⟨-, hlease, h⟩⟩ := h
  · exact ⟨e, b, he, htask, hb, .inl ⟨hrecovered.1, replayRecovery_ok hreplay⟩⟩
  simp only [steps_ok, requireUnreserved, bind_assoc, evidently_bind_ok] at h
  obtain ⟨-, -, safePoint, -, h⟩ := h
  obtain ⟨b', hchecks, hfits, h⟩ := releaseTakenOver_bind_ok hb h
  obtain ⟨values, db1, hstage, h⟩ := bind_ok.1 h
  obtain ⟨transcript, checkpoints, pendingInvocations, -, -, -, -, -, -, -, -, -, rfl⟩ :=
    stageWaitingCheckpoint_ok (mapError_ok.1 hstage)
  simp only [compareAndSetRecoveryWaitingExecution, updateExecution_bind_ok,
    saveTaskBudgetReservation_bind_ok, pure_mk] at h
  obtain ⟨e1, he1, -, _, _, _, reservations, -, -, rfl⟩ := h
  obtain rfl : e1 = e := Option.mem_unique he1 he
  refine ⟨e1, b, he, htask, hb, .inr ⟨hlease.1, _, b', checkpoints, pendingInvocations, reservations,
    ?_, ?_, ?_, ?_, ?_, hchecks, hfits _ (by decide), rfl⟩⟩
  · exact ⟨rfl, rfl, rfl, rfl⟩
  · rfl
  · rfl
  · rfl
  · exact ⟨rfl, rfl, rfl⟩

theorem recoverTaskScopedExecution_commit : Commit db db' := by
  obtain ⟨e, b, he, htask, hb, ⟨-, rfl⟩ | ⟨hlease, e', b', checkpoints, pendingInvocations,
    reservations, hlineage, hrevision, hwaiting, -, -, hchecks, hfits, rfl⟩⟩ :=
    recoverTaskScopedExecution_ok h
  · exact .refl _
  · exact commit_of_takeover rfl he htask hlease.1 hlineage hrevision hb hchecks
      (hwaiting ▸ hfits) rfl rfl rfl rfl

omit h

/-- **A stale failure is lawful and balanced.** -/
theorem failUnrecoverableTaskScopedExecution_commit {sourceRevision n : ℕ} {reasonCode : String}
    (h : failUnrecoverableTaskScopedExecution taskId executionId sourceRevision lease reasonCode
      expectedGeneration db = .ok (n, db')) : Commit db db' := by
  simp only [failUnrecoverableTaskScopedExecution, requireObservedLease, bind_assoc, steps_ok,
    requireTakeoverTarget_bind_ok, ite_ok, verifyReservation_bind_ok, pure_mk] at h
  obtain ⟨-, -, -, -, e, ⟨he, htask⟩, b, hb, -, ⟨-, _, -, -, -, rfl⟩ | ⟨-, ⟨hlease, hrev⟩, h⟩⟩ := h
  · exact .refl _
  simp only [requireUnreserved, bind_assoc, steps_ok] at h
  obtain ⟨-, -, h⟩ := h
  obtain ⟨b', hchecks, hfits, h⟩ := releaseTakenOver_bind_ok hb h
  simp only [compareAndSetExpiredExecutionTerminal, updateExecution_bind_ok,
    saveTaskBudgetReservation_bind_ok, pure_mk] at h
  obtain ⟨e1, he1, -, _, _, _, reservations, -, -, rfl⟩ := h
  obtain rfl : e1 = e := Option.mem_unique he1 he
  exact commit_of_takeover rfl he htask hlease.1 ⟨rfl, rfl, rfl, rfl⟩
    (by simp [ExecutionPatch.apply, hrev]) hb hchecks (hfits _ (by simp [ExecutionPatch.apply]))
    rfl rfl rfl rfl

end Outcomes

end AssistantRuntime.TaskBudget

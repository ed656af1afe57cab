/-
**Checkpoints of waiting executions.**

An execution that starts to wait leaves a checkpoint behind: the messages up to the safe point, the
invocations that are still pending, and the checkpoint it continued from.  The checkpoint is staged
in the unit of work that moves the execution to `WAITING`; when that move is repeated after it was
committed, the stored checkpoint is compared with the one the caller asks for.

The messages are kept by the transcript store and the invocations by the capability runtime.  What
either answers is an argument here.
-/

import AssistantRuntime.Agent.Planning

namespace AssistantRuntime.Agent

open Relational Uow Table List

variable {D : Digests}

/-! ### What a caller supplies -/

structure CheckpointValues where
  /-- Empty where the caller names none. -/
  checkpointId : String
  executionId : String
  executionRevision : ℕ
  sessionId : String
  taskId : Option String
  branchId : Option String
  /-- `none` where the caller leaves the key out. -/
  parentCheckpointId : Option (Option String) := none
  iteration : ℕ
  waitReason : String
  remainingActiveBudgetSeconds : Option ℚ := none
  waitExpiresAt : Option ℤ := none
  originClientId : Option String := none
  originConnectionId : Option String := none
  transcriptSnapshot : Option (List Json)
  transcriptRef : Option String := none
  transcriptVersion : Option ℤ := none
  metadata : JsonObject := []

/-- What staging reads of a capability invocation. -/
structure InvocationRecord where
  invocationId : String
  executionId : Option String
  toolCallId : String
  capabilityId : String
  originClientId : Option String

/-- What the other stores answer while a checkpoint is staged. -/
structure WaitingEvidence where
  /-- `capability_invocations.get_record`. -/
  invocations : String → Option InvocationRecord
  /-- The messages that the representation just written stands for. -/
  transcript : Except Failure (List Json)

/-- `WaitingCheckpointConflictError`. -/
def checkpointConflict (message : String) : Failure := .waitingCheckpointConflict message

def CheckpointRow.HasLineageOf (c : CheckpointRow) (e : ExecutionRow) : Prop :=
  c.executionId = e.id ∧ c.sessionId = e.sessionId ∧ c.taskId = e.taskId ∧ c.branchId = e.branchId
  deriving Decidable

def validateCheckpointParentLineage (execution : ExecutionRow) (parentCheckpointId : Option String)
    (childCheckpointId : Option String) (childExecutionRevision : Option ℕ) : Tx D Unit :=
  match parentCheckpointId with
  | none => pure ()
  | some parentId => do
    ensure (childCheckpointId ≠ some parentId)
      (checkpointConflict "Checkpoint parent_checkpoint_id may not self-reference.")
    let parent ← expect (← reads (getExecutionCheckpoint · parentId))
      (checkpointConflict s!"Unknown parent checkpoint: {parentId}")
    ensure (parent.HasLineageOf execution)
      (checkpointConflict "Checkpoint parent belongs to another execution/task/branch lineage.")
    ensure (∀ r ∈ childExecutionRevision, parent.executionRevision < r)
      (checkpointConflict "Checkpoint parent revision must precede the child checkpoint.")

/-! ### Pending invocations -/

def sortedReferences (pending : List PendingReference) : List PendingReference :=
  pending.insertionSort (·.ordinal ≤ ·.ordinal)

def PendingReference.frozen (checkpointId : String) (ref : PendingReference) :
    PendingInvocationRow :=
  ⟨checkpointId, ref.ordinal, ref.invocationId, ref.toolCallId, ref.capabilityId⟩

def PendingInvocationRow.reference (row : PendingInvocationRow) : PendingReference :=
  ⟨row.ordinal, row.invocationId, row.toolCallId, row.capabilityId⟩

/-- The loop over the pending references: each is checked against those seen before it and against
its invocation.  It returns the clients that the invocations came from. -/
def freezePending (executionId : String) (invocations : String → Option InvocationRecord) :
    List PendingReference → List PendingReference → Except Failure (List String)
  | _, [] => .ok []
  | seen, ref :: refs =>
    if ref.ordinal ∈ seen.map (·.ordinal) then
      .error (checkpointConflict "Pending invocation ordinals must be unique and non-negative.")
    else if ref.invocationId ∈ seen.map (·.invocationId) ∨
        ref.toolCallId ∈ seen.map (·.toolCallId) then
      .error (checkpointConflict "Pending invocation/tool-call identity must be unique.")
    else
      match invocations ref.invocationId with
      | none => .error (checkpointConflict s!"Unknown CapabilityInvocation: {ref.invocationId}")
      | some record =>
        if record.executionId ≠ some executionId then
          .error (checkpointConflict "CapabilityInvocation belongs to another execution.")
        else if record.toolCallId ≠ ref.toolCallId then
          .error (checkpointConflict
            "CapabilityInvocation tool_call_id changed before checkpoint.")
        else if record.capabilityId ≠ ref.capabilityId then
          .error (checkpointConflict
            "CapabilityInvocation capability_id changed before checkpoint.")
        else
          (freezePending executionId invocations (ref :: seen) refs).map
            ((record.originClientId.filter (· ≠ "")).toList ++ ·)

def saveCheckpointPendingInvocations : List PendingInvocationRow → Tx D Unit
  | [] => pure ()
  | row :: rows => do
    saveCheckpointPendingInvocation row
    saveCheckpointPendingInvocations rows

/-! ### Staging -/

def CheckpointValues.toRow (values : CheckpointValues) (parentCheckpointId : Option String)
    (transcript : List Json) : CheckpointRow :=
  { values with parentCheckpointId, transcript }

/-- The messages of a checkpoint as the transcript store keeps them: the writer refuses a
representation that is not equal, in the sense of Python, to what it was asked to write. -/
def writeTranscript (snapshot : List Json) (evidence : WaitingEvidence) : Tx D (List Json) := do
  let canonical ← expect (D.canonicalTranscript snapshot) .validation
  let written ← evidently evidence.transcript
  ensure (Json.itemsPyEq written canonical = true)
    (.valueError "Written transcript representation does not round-trip canonically.")
  pure written

/-- What the move to `WAITING` sets besides what its caller asks for. -/
def pointAtCheckpoint (transition : ExecutionPatch) (waitReason checkpointId : String)
    (originClientId : Option String) : ExecutionPatch :=
  let moved := { transition with currentCheckpointId := some (some checkpointId) }
  if waitReason = "CONNECTION" then
    { moved with
      boundConnectionId := some none
      boundClientId :=
        match originClientId.filter (· ≠ "") with
        | some client => some (some client)
        | none => moved.boundClientId }
  else moved

/-- The checks of `stage_waiting_checkpoint` on what its caller supplies. -/
def requireCheckpointValues (execution : ExecutionRow) (sourceRevision : ℕ) (waitReason : String)
    (values : CheckpointValues) : Tx D Unit := do
  ensure (execution.revision = sourceRevision ∧ execution.state = .running)
    (checkpointConflict s!"Execution {execution.id} is not RUNNING@{sourceRevision}.")
  ensure (values.checkpointId ≠ "") (.valueError "checkpoint_id must be non-empty")
  ensure (values.executionId = execution.id)
    (checkpointConflict "Checkpoint execution_id does not match AgentExecution.")
  ensure (values.executionRevision = sourceRevision + 1)
    (checkpointConflict "Checkpoint revision must equal target AgentExecution revision.")
  ensure (values.sessionId = execution.sessionId)
    (checkpointConflict "Checkpoint session_id does not match AgentExecution.")
  ensure (values.taskId = execution.taskId)
    (checkpointConflict "Checkpoint task_id does not match AgentExecution.")
  ensure (values.branchId = execution.branchId)
    (checkpointConflict "Checkpoint branch_id does not match AgentExecution.")
  ensure (execution.taskId ≠ none → execution.branchId ≠ none)
    (checkpointConflict ("Task-scoped AgentExecution requires normalized branch_id " ++
      "before WAITING checkpoint creation."))
  ensure (waitReason ≠ "" ∧ values.waitReason = waitReason)
    (checkpointConflict "Checkpoint wait_reason must match WAITING transition.")
  ensure (values.parentCheckpointId.getD execution.currentCheckpointId =
      execution.currentCheckpointId)
    (checkpointConflict
      "Checkpoint parent_checkpoint_id must match the execution current checkpoint.")

def stageWaitingCheckpoint (execution : ExecutionRow) (sourceRevision : ℕ)
    (transition : ExecutionPatch) (values : CheckpointValues) (pending : List PendingReference)
    (evidence : WaitingEvidence) : Tx D ExecutionPatch := do
  let waitReason := transition.waitReason.join.getD ""
  requireCheckpointValues execution sourceRevision waitReason values
  validateCheckpointParentLineage execution execution.currentCheckpointId
    (some values.checkpointId) (some (sourceRevision + 1))
  let _ ← jsonSafe "agent_execution_checkpoints.transcript_snapshot"
    (values.transcriptSnapshot.map .arr)
  ensure (values.transcriptRef = none ∧ values.transcriptVersion = none)
    (checkpointConflict ("Checkpoint ref-bearing authority is owned by the R11-D " ++
      "representation writer and may not be caller supplied."))
  let snapshot ← expect values.transcriptSnapshot
    (checkpointConflict
      "R11-D REF_BACKED cutover requires an inline transcript proof snapshot.")
  let transcript ← writeTranscript snapshot evidence
  let _ ← jsonSafe "agent_execution_checkpoints.metadata" (some (.obj values.metadata))
  let originClients ← evidently
    (freezePending execution.id evidence.invocations [] (sortedReferences pending))
  ensure (originClients.dedup.length ≤ 1)
    (checkpointConflict "R7 initial continuation does not support multi-client fan-in.")
  ensure (∀ c ∈ values.originClientId.filter (· ≠ ""), originClients = [] ∨ c ∈ originClients)
    (checkpointConflict "Checkpoint origin_client_id differs from pending invocation owner.")
  saveExecutionCheckpoint (values.toRow execution.currentCheckpointId transcript)
  saveCheckpointPendingInvocations
    ((sortedReferences pending).map (·.frozen values.checkpointId))
  pure (pointAtCheckpoint transition waitReason values.checkpointId values.originClientId)

/-! ### Verifying -/

def verifyCommittedWaitingCheckpoint (execution : ExecutionRow) (sourceRevision : ℕ)
    (values : CheckpointValues) (pending : List PendingReference) : Tx D Unit := do
  let checkpoint ← expect (← reads (getExecutionCheckpoint · values.checkpointId))
    (checkpointConflict s!"Missing committed checkpoint: {values.checkpointId}")
  ensure (checkpoint.HasLineageOf execution ∧ checkpoint.executionRevision = sourceRevision + 1)
    (checkpointConflict ("Committed checkpoint does not match execution " ++
      "task/branch/session transition lineage."))
  let snapshot ← expect values.transcriptSnapshot
    (checkpointConflict
      "Idempotent WAITING replay requires the expected transcript snapshot.")
  let expected ← expect (D.canonicalTranscript snapshot)
    (checkpointConflict "Idempotent WAITING replay transcript is not canonicalizable.")
  ensure (Json.itemsPyEq checkpoint.transcript expected = true)
    (checkpointConflict "Committed checkpoint transcript differs from idempotent replay.")
  let persisted ← reads (listCheckpointPendingInvocations · values.checkpointId)
  ensure (persisted.map (·.reference) = sortedReferences pending)
    (checkpointConflict "Committed checkpoint pending invocation identity differs.")
  ensure (execution.revision = sourceRevision + 1 → execution.state = .waiting)
    (checkpointConflict "Checkpoint target revision exists but execution is not WAITING.")
  ensure (execution.revision = sourceRevision + 1 →
      execution.currentCheckpointId = some values.checkpointId)
    (checkpointConflict "WAITING execution does not point at committed checkpoint.")

/-! ### What staging did and what verifying finds -/

section Outcomes

variable {db db' : Db D} {execution : ExecutionRow} {sourceRevision : ℕ}
  {values : CheckpointValues} {pending : List PendingReference}

theorem saveCheckpointPendingInvocations_ok {rows : List PendingInvocationRow} {u : Unit}
    (h : saveCheckpointPendingInvocations rows db = .ok (u, db')) :
    ∃ t, t.rows = db.pendingInvocations.rows ++ rows ∧ db' = { db with pendingInvocations := t } := by
  induction rows generalizing db with
  | nil =>
    simp only [saveCheckpointPendingInvocations, pure_mk] at h
    exact ⟨db.pendingInvocations, by simp, h.2⟩
  | cons row rows ih =>
    simp only [saveCheckpointPendingInvocations, saveCheckpointPendingInvocation, bind_assoc,
      steps_ok, insertRow_bind_ok] at h
    obtain ⟨-, t, ht, h⟩ := h
    obtain ⟨t', ht', rfl⟩ := ih h
    refine ⟨t', ?_, rfl⟩
    rw [ht', rows_insert? ht, append_assoc, singleton_append]

variable {α : Type} {g : Unit → Tx D α}

@[simp] theorem validateCheckpointParentLineage_bind_ok {parentId childId : Option String}
    {childRevision : Option ℕ} {x : α × Db D} :
    (validateCheckpointParentLineage execution parentId childId childRevision >>= g) db = .ok x ↔
      (∀ p ∈ parentId, childId ≠ some p ∧ ∃ c, getExecutionCheckpoint db p = some c ∧
        c.HasLineageOf execution ∧ ∀ r ∈ childRevision, c.executionRevision < r) ∧
      g () db = .ok x := by
  unfold validateCheckpointParentLineage
  cases parentId with
  | none => simp
  | some p =>
    simp only [bind_assoc, steps_ok, Option.mem_some_iff, forall_eq']
    constructor
    · rintro ⟨hself, c, hc, hlineage, hrevision, h⟩
      exact ⟨⟨hself, c, hc, hlineage, hrevision⟩, h⟩
    · rintro ⟨⟨hself, c, hc, hlineage, hrevision⟩, h⟩
      exact ⟨hself, c, hc, hlineage, hrevision, h⟩

variable {evidence : WaitingEvidence}

@[simp] theorem writeTranscript_bind_ok {snapshot : List Json} {g : List Json → Tx D α}
    {x : α × Db D} :
    (writeTranscript snapshot evidence >>= g) db = .ok x ↔
      ∃ canonical, D.canonicalTranscript snapshot = some canonical ∧
        ∃ written, evidence.transcript = .ok written ∧ Json.itemsPyEq written canonical = true ∧
          g written db = .ok x := by
  simp only [writeTranscript, bind_assoc, steps_ok, evidently_bind_ok, pure_bind_ok]

variable {waitReason checkpointId : String} {originClientId : Option String}
  {transition : ExecutionPatch}

theorem pointAtCheckpoint_eq :
    (pointAtCheckpoint transition waitReason checkpointId originClientId).state = transition.state ∧
    (pointAtCheckpoint transition waitReason checkpointId originClientId).currentCheckpointId =
      some (some checkpointId) := by
  unfold pointAtCheckpoint
  split <;> exact ⟨rfl, rfl⟩

/-- The messages of a checkpoint are what the caller's snapshot stands for. -/
def KeepsSnapshot (D : Digests) (values : CheckpointValues) (transcript : List Json) : Prop :=
  ∃ snapshot canonical, values.transcriptSnapshot = some snapshot ∧
    D.canonicalTranscript snapshot = some canonical ∧
    Json.itemsPyEq transcript canonical = true

variable {transition patch : ExecutionPatch}

variable (h : stageWaitingCheckpoint execution sourceRevision transition values pending evidence db =
  .ok (patch, db'))

include h

/-- **A staged checkpoint is stored with its pending invocations, and the execution is pointed at
it.** -/
theorem stageWaitingCheckpoint_ok : ∃ transcript checkpoints pendingInvocations,
      (values.toRow execution.currentCheckpointId transcript).HasLineageOf execution ∧
      execution.revision = sourceRevision ∧
      (∀ p ∈ execution.currentCheckpointId, ∃ c, getExecutionCheckpoint db p = some c ∧
        c.HasLineageOf execution ∧ c.executionRevision ≤ sourceRevision) ∧
      values.executionRevision = sourceRevision + 1 ∧ KeepsSnapshot D values transcript ∧
      db.checkpoints.insert? (values.toRow execution.currentCheckpointId transcript) =
        some checkpoints ∧
      pendingInvocations.rows = db.pendingInvocations.rows ++
        (sortedReferences pending).map (·.frozen values.checkpointId) ∧
      patch.state = transition.state ∧
      patch.currentCheckpointId = some (some values.checkpointId) ∧
      db' = { db with checkpoints, pendingInvocations } := by
  simp only [stageWaitingCheckpoint, requireCheckpointValues, bind_assoc, steps_ok,
    validateCheckpointParentLineage_bind_ok, jsonSafe_bind_ok, writeTranscript_bind_ok,
    evidently_bind_ok, saveExecutionCheckpoint, insertRow_bind_ok] at h
  obtain ⟨hrunning, -, hexecution, hrevision, hsession, htask, hbranch, -, -, -, hparent, -, -,
    snapshot, hsnapshot, canonical, hcanonical, transcript, -, hwritten, -, clients, -, -, -,
    checkpoints, hcheckpoints, h⟩ := h
  obtain ⟨_, db1, hpending, h⟩ := bind_ok.1 h
  obtain ⟨pendingInvocations, hrows, rfl⟩ := saveCheckpointPendingInvocations_ok hpending
  obtain ⟨rfl, rfl⟩ := pure_mk.1 h
  refine ⟨transcript, checkpoints, pendingInvocations, ⟨hexecution, hsession, htask, hbranch⟩,
    hrunning.1, ?_, hrevision, ⟨snapshot, canonical, hsnapshot, hcanonical, hwritten⟩, hcheckpoints,
    hrows, pointAtCheckpoint_eq.1, pointAtCheckpoint_eq.2, rfl⟩
  intro p hp
  obtain ⟨-, c, hc, hlineage, hlt⟩ := hparent p hp
  exact ⟨c, hc, hlineage, Nat.lt_succ_iff.1 (hlt _ rfl)⟩

/-- The invocations of a staged checkpoint belong to no checkpoint that was there before. -/
theorem stageWaitingCheckpoint_pending {i : String} {c : CheckpointRow}
    (hc : getExecutionCheckpoint db i = some c) :
    listCheckpointPendingInvocations db' i = listCheckpointPendingInvocations db i := by
  obtain ⟨transcript, _, _, -, -, -, -, -, hinsert, hrows, -, -, rfl⟩ := stageWaitingCheckpoint_ok h
  have hne : values.checkpointId ≠ i := by
    rintro rfl
    have hfresh := fresh_insert? hinsert
    have hfound : db.checkpoints.find? values.checkpointId = some c := hc
    rw [show (values.toRow execution.currentCheckpointId transcript).checkpointId =
      values.checkpointId from rfl, hfound] at hfresh
    cases hfresh
  have hnone : ((sortedReferences pending).map (·.frozen values.checkpointId)).filter
      (·.checkpointId = i) = [] := by
    simp [PendingReference.frozen, hne]
  simp only [listCheckpointPendingInvocations, hrows, filter_append, hnone, append_nil]

omit h

/-- The stored checkpoint is the one that a repeated move asks for. -/
structure CommittedCheckpoint (db : Db D) (execution : ExecutionRow) (sourceRevision : ℕ)
    (values : CheckpointValues) (pending : List PendingReference) : Prop where
  checkpoint : ∃ c, getExecutionCheckpoint db values.checkpointId = some c ∧
    c.HasLineageOf execution ∧ c.executionRevision = sourceRevision + 1 ∧
    KeepsSnapshot D values c.transcript
  pending : (listCheckpointPendingInvocations db values.checkpointId).map (·.reference) =
    sortedReferences pending
  waiting : execution.revision = sourceRevision + 1 →
    execution.state = .waiting ∧ execution.currentCheckpointId = some values.checkpointId

@[simp] theorem verifyCommittedWaitingCheckpoint_bind_ok {x : α × Db D} :
    (verifyCommittedWaitingCheckpoint execution sourceRevision values pending >>= g) db = .ok x ↔
      CommittedCheckpoint db execution sourceRevision values pending ∧ g () db = .ok x := by
  simp only [verifyCommittedWaitingCheckpoint, bind_assoc, steps_ok]
  constructor
  · rintro ⟨c, hc, ⟨hlineage, hrevision⟩, snapshot, hsnapshot, canonical, hcanonical, hequal,
      hpending, hwaiting, hpoints, h⟩
    exact ⟨⟨⟨c, hc, hlineage, hrevision, snapshot, canonical, hsnapshot, hcanonical, hequal⟩,
      hpending, fun he => ⟨hwaiting he, hpoints he⟩⟩, h⟩
  · rintro ⟨⟨⟨c, hc, hlineage, hrevision, snapshot, canonical, hsnapshot, hcanonical, hequal⟩,
      hpending, hwaiting⟩, h⟩
    exact ⟨c, hc, ⟨hlineage, hrevision⟩, snapshot, hsnapshot, canonical, hcanonical, hequal,
      hpending, fun he => (hwaiting he).1, fun he => (hwaiting he).2, h⟩

end Outcomes

end AssistantRuntime.Agent

/-
**Resume claims.**

A resume claim is the durable intent to wake up one waiting execution.  Creating a claim gives no
authority; consuming it does (`Persistence/Consumption.lean`).  What matters here is that no claim
is left to be consumed once its task is over: creation and rebinding look at the task in the unit of
work that writes the claim.

Before the authoritative unit of work the code looks up the task of the claimed execution in a unit
of work of its own.  What it found is an argument here, and is compared with the execution again.

A refusal raised before anything was written aborts the unit of work.  A refusal that is itself
recorded on the claim is raised after the commit: it is a value, `ClaimRejection`.
-/

import AssistantRuntime.TaskBudget.Activity

namespace AssistantRuntime.Persistence

open Relational Uow Agent

variable {D : Digests}

/-! ### Intents and plans -/

/-- A refusal that stands although the unit of work was committed. -/
structure ClaimRejection where
  code : String
  message : String
  deriving DecidableEq

/-- `ResumeClaimRejected`, raised before anything was written. -/
def rejected (code message : String) : Failure := .resumeClaimRejected code message

structure ResumeClaimIntent (π : Type) where
  resumeRequestId : String
  executionId : String
  checkpointId : String
  expectedExecutionRevision : ℕ
  planFingerprint : π
  userId : String
  waitReason : String
  triggerType : ResumeTriggerType
  claimExpiresAt : ℤ
  clientId : Option String := none
  connectionId : Option String := none
  metadata : JsonObject := []

def ResumeClaimIntent.toRow (intent : ResumeClaimIntent D.Plan) (claimId : String) :
    ClaimRow D.Plan :=
  { intent with claimId, state := .created, revision := 0 }

def MatchesIntent (c : ClaimRow D.Plan) (intent : ResumeClaimIntent D.Plan) : Prop :=
  c.executionId = intent.executionId ∧ c.checkpointId = intent.checkpointId ∧
    c.expectedExecutionRevision = intent.expectedExecutionRevision ∧
    c.planFingerprint = intent.planFingerprint ∧ c.userId = intent.userId ∧
    c.clientId = intent.clientId ∧ c.connectionId = intent.connectionId ∧
    c.waitReason = intent.waitReason ∧ c.triggerType = intent.triggerType
  deriving Decidable

/-- Python's truth value of an optional text. -/
def IsSet (s : Option String) : Prop := s.getD "" ≠ ""
  deriving Decidable

/-- `_created_claim_can_rebind_to_plan`: the claim was made for this plan, on another
connection. -/
def CanRebindToPlan (c : ClaimRow D.Plan) (plan : ResumePlan D.Plan) (resumeRequestId : String) :
    Prop :=
  c.resumeRequestId = resumeRequestId ∧ c.executionId = plan.executionId ∧
    c.checkpointId = plan.checkpointId ∧
    c.expectedExecutionRevision = plan.expectedExecutionRevision ∧
    c.userId = plan.targetUserId ∧ c.clientId = plan.targetClientId ∧
    c.waitReason = "CONNECTION" ∧ c.triggerType = .clientReconnect ∧
    IsSet c.connectionId ∧ IsSet plan.targetConnectionId ∧
    c.planFingerprint = D.plan (.resume
      { plan.toResumePlanBody with targetConnectionId := c.connectionId })
  deriving Decidable

/-! ### Writing a claim -/

def rejectionPatch (code : String) (now : ℤ) : ClaimPatch D.Plan :=
  { state := some .rejected, rejectionCode := some (some code), rejectedAt := some (some now) }

def rejectCreatedClaim (claim : ClaimRow D.Plan) (code : String) (now : ℤ) :
    Tx D ClaimRejection := do
  match ← compareAndSetResumeClaim claim.claimId claim.revision .created
    (rejectionPatch code now) with
  | none =>
    pure ⟨"STALE_RESUME_CLAIM", "ResumeClaim changed while rejection was being recorded."⟩
  | some _ => pure ⟨code, code⟩

/-- The task of the claimed execution, locked by its writer fence. -/
def lockClaimTask : Option String → Tx D (Option TaskRow)
  | none => pure none
  | some taskId => do
    let task ← expect (← reads (getTask · taskId))
      (rejected "TASK_TERMINAL" "ResumeClaim AgentTask no longer exists.")
    pure (some task)

/-- An open claim on a task that is over is rejected, and so is the request that met it. -/
def rejectForTerminalTask (claim : ClaimRow D.Plan) (message : String) (now : ℤ) :
    Tx D (Except ClaimRejection (ClaimRow D.Plan)) := do
  let _ ← orAbort (compareAndSetResumeClaim claim.claimId claim.revision .created
    (rejectionPatch "TASK_RESOLVED" now)) .lostRace
  pure (.error ⟨"TASK_TERMINAL", message⟩)

/-! ### Creation -/

/-- The claimed execution, still of the task that was looked up. -/
def requireClaimTarget (executionId : String) (locatorTaskId : Option String) :
    Tx D ExecutionRow := do
  expect ((← reads (getExecution · executionId)).filter (·.taskId = locatorTaskId))
    (rejected "STALE_RESUME_CLAIM" "ResumeClaim execution lineage changed.")

def IsOpenHead (db : Db D) (e : ExecutionRow) (branchId : String) : Prop :=
  ∃ b ∈ getTaskBranch db branchId, some b.taskId = e.taskId ∧ b.resolutionState = .open ∧
    b.currentExecutionId = some e.id
  deriving Decidable

/-- A claim on an execution of a task needs an open branch, if the execution is on one. -/
def requireClaimBranch (task : Option TaskRow) (e : ExecutionRow) : Tx D Unit := do
  let openHead ← reads fun db => decide (∀ branchId ∈ e.branchId, IsOpenHead db e branchId)
  ensure (task.isSome → openHead)
    (rejected "BRANCH_NOT_OPEN"
      "Resolved or non-current TaskBranch cannot create a ResumeClaim.")

/-- Why a task that is over has no new claim. -/
def terminalClaimTask : String :=
  "Terminal AgentTask cannot create or replay a CREATED ResumeClaim."

def createResumeClaim (intent : ResumeClaimIntent D.Plan) (claimId : String)
    (locatorTaskId : Option String) (task : Option TaskRow) : Tx D (ClaimRow D.Plan) := do
  let execution ← requireClaimTarget intent.executionId locatorTaskId
  ensure (∀ t ∈ task, t.status.isTerminal = false) (rejected "TASK_TERMINAL" terminalClaimTask)
  requireClaimBranch task execution
  saveResumeClaim (intent.toRow claimId)
  pure (intent.toRow claimId)

/-- A repeated request with its id. -/
def replayResumeClaim (intent : ResumeClaimIntent D.Plan) (existing : ClaimRow D.Plan)
    (locatorTaskId : Option String) (task : Option TaskRow) (now : ℤ) :
    Tx D (Except ClaimRejection (ClaimRow D.Plan)) := do
  ensure (MatchesIntent existing intent)
    (rejected "RESUME_REQUEST_CONFLICT" "resume_request_id was reused with different semantics.")
  if existing.state ≠ .created then pure (.ok existing)
  else do
    let execution ← requireClaimTarget intent.executionId locatorTaskId
    if task.any (·.status.isTerminal) then rejectForTerminalTask existing terminalClaimTask now
    else do
      requireClaimBranch task execution
      pure (.ok existing)

/-- `get_or_create_resume_claim`, with the id it drew for a new claim. -/
def getOrCreateResumeClaim (intent : ResumeClaimIntent D.Plan) (claimId : String)
    (locatorTaskId : Option String) (now : ℤ) :
    Tx D (Except ClaimRejection (ClaimRow D.Plan)) := do
  ensure (intent.resumeRequestId ≠ "") (.valueError "resume_request_id must be non-empty")
  ensure (intent.executionId ≠ "" ∧ intent.checkpointId ≠ "")
    (.valueError "execution_id/checkpoint_id must be non-empty")
  let _ ← jsonSafe "agent_resume_claims.metadata" (some (.obj intent.metadata))
  let task ← lockClaimTask locatorTaskId
  match ← reads (getResumeClaimByRequestId · intent.resumeRequestId) with
  | none => do
    let claim ← createResumeClaim intent claimId locatorTaskId task
    pure (.ok claim)
  | some existing => replayResumeClaim intent existing locatorTaskId task now

/-! ### Rebinding and handoff -/

/-- The target that a plan for a reconnected client has to name. -/
def requireReconnectPlan (plan : ResumePlan D.Plan) : Tx D Unit := do
  ensure (plan.targetUserId ≠ "")
    (rejected "FOREIGN_PRINCIPAL" "CLIENT_RECONNECT plan requires a target principal.")
  ensure (IsSet plan.targetClientId)
    (rejected "FOREIGN_CLIENT" "CLIENT_RECONNECT plan requires a stable target client_id.")
  ensure (IsSet plan.targetConnectionId)
    (rejected "CONNECTION_NOT_READY" "CLIENT_RECONNECT plan requires a target connection_id.")

def rebindClaim (record : ClaimRow D.Plan) (plan : ResumePlan D.Plan) : Tx D (ClaimRow D.Plan) :=
  orAbort (compareAndSetResumeClaim record.claimId record.revision .created
    { connectionId := some plan.targetConnectionId
      planFingerprint := some plan.planFingerprint }) .lostRace

/-- `rebind_created_resume_claim`; the look-up before it found the task of the plan. -/
def rebindCreatedResumeClaim (claimId : String) (plan : ResumePlan D.Plan)
    (resumeRequestId : String) (now : ℤ) : Tx D (Except ClaimRejection (ClaimRow D.Plan)) := do
  requireReconnectPlan plan
  ensure (D.plan (.resume plan.toResumePlanBody) = plan.planFingerprint)
    (rejected "STALE_RESUME_PLAN" "ResumePlan fingerprint does not match its semantics.")
  let task ← lockClaimTask plan.lineage.taskId
  let record ← expect (← reads (getResumeClaim · claimId))
    (rejected "STALE_RESUME_CLAIM" "ResumeClaim does not exist.")
  if record.state ≠ .created then pure (.ok record)
  else do
    ensure (CanRebindToPlan record plan resumeRequestId)
      (rejected "RESUME_REQUEST_CONFLICT"
        "CREATED ResumeClaim differs by more than connection generation.")
    let _ ← expect ((← reads (getExecution · record.executionId)).filter fun e =>
        e.id = plan.executionId ∧ e.taskId = plan.lineage.taskId)
      (rejected "RESUME_REQUEST_CONFLICT" "ResumeClaim execution lineage changed.")
    if task.any (·.status.isTerminal) then
      rejectForTerminalTask record "Terminal AgentTask cannot rebind a ResumeClaim." now
    else if record.connectionId = plan.targetConnectionId ∧
        record.planFingerprint = plan.planFingerprint then pure (.ok record)
    else do
      let updated ← rebindClaim record plan
      pure (.ok updated)

/-- The handoff marker: a `status` in the payload takes the place of the given one. -/
def handoffMarker (status : String) (payload : JsonObject) : Json :=
  .obj (("status", (Json.member? "status" payload).getD (.str status)) ::
    payload.filter (·.1 ≠ "status"))

def recordResumeClaimHandoff (claimId status : String) (payload : JsonObject) :
    Tx D (ClaimRow D.Plan) := do
  let normalizedStatus := status.toUpper
  ensure (normalizedStatus = "ACCEPTED" ∨ normalizedStatus = "FAILED")
    (.valueError "handoff status must be ACCEPTED or FAILED")
  let _ ← jsonSafe "agent_resume_claims.metadata.r7_g_handoff" (some (.obj payload))
  let handoff := handoffMarker normalizedStatus payload
  let record ← expect (← reads (getResumeClaim · claimId))
    (rejected "STALE_RESUME_CLAIM" "ResumeClaim does not exist.")
  ensure (record.state = .consumed)
    (rejected "STALE_RESUME_CLAIM" "ResumeClaim handoff requires CONSUMED authority.")
  match (Json.member? "r7_g_handoff" record.metadata).filter (!Json.pyEq · .null) with
  | some existing =>
    ensure (existing.pyEq handoff)
      (rejected "RESUME_REQUEST_CONFLICT" "ResumeClaim already has a different handoff outcome.")
    pure record
  | none =>
    orAbort (compareAndSetResumeClaim claimId record.revision .consumed
      { metadata := some (Json.setMember "r7_g_handoff" handoff record.metadata) }) .lostRace

/-! ### What the operations did -/

section Outcomes

variable {db db' : Db D} {claimId : String}

theorem claim_commit {c : ClaimRow D.Plan} {revision : ℕ}
    {p : ClaimPatch D.Plan} (hc : getResumeClaim db claimId = some c)
    (hstate : ∀ s ∈ p.state, s ≠ .created)
    (hdb : db' = { db with claims := db.claims.put (p.apply revision c) }) : Commit db db' := by
  subst hdb
  refine Commit.of_claim hc (show (p.apply revision c).claimId = c.claimId from rfl) rfl ?_
    rfl rfl rfl rfl rfl
  intro hcreated
  cases hp : p.state with
  | none => simpa [ClaimPatch.apply, hp] using hcreated
  | some s =>
    have hs : s = .created := by simpa [ClaimPatch.apply, hp] using hcreated
    exact absurd hs (hstate s (by simp [hp]))

variable {claim : ClaimRow D.Plan} {now : ℤ}

variable {α : Type} {o : Option String}

@[simp] theorem lockClaimTask_bind_ok {g : Option TaskRow → Tx D α} {x : α × Db D} :
    (lockClaimTask o >>= g) db = .ok x ↔
      ∃ t, o.bind (getTask db) = t ∧ t.isSome = o.isSome ∧ g t db = .ok x := by
  cases o with
  | none => simp [lockClaimTask]
  | some taskId =>
    simp only [lockClaimTask, bind_assoc, steps_ok, pure_bind_ok]
    constructor
    · rintro ⟨t, ht, h⟩
      exact ⟨some t, ht, rfl, h⟩
    · rintro ⟨t, ht, hsome, h⟩
      obtain ⟨t, rfl⟩ := Option.isSome_iff_exists.1 hsome
      exact ⟨t, ht, h⟩

@[simp] theorem requireClaimTarget_bind_ok {executionId : String} {g : ExecutionRow → Tx D α}
    {x : α × Db D} :
    (requireClaimTarget executionId o >>= g) db = .ok x ↔
      ∃ e, getExecution db executionId = some e ∧ e.taskId = o ∧ g e db = .ok x := by
  simp only [requireClaimTarget, bind_assoc, steps_ok, Option.filter_eq_some_iff,
    decide_eq_true_eq, and_assoc]

variable {task : Option TaskRow}

@[simp] theorem requireClaimBranch_bind_ok {e : ExecutionRow} {g : Unit → Tx D α} {x : α × Db D} :
    (requireClaimBranch task e >>= g) db = .ok x ↔
      (task.isSome → ∀ branchId ∈ e.branchId, IsOpenHead db e branchId) ∧ g () db = .ok x := by
  simp only [requireClaimBranch, bind_assoc, steps_ok, decide_eq_true_eq]

variable {o : Except ClaimRejection (ClaimRow D.Plan)}

theorem rejectForTerminalTask_commit {message : String}
    (h : rejectForTerminalTask claim message now db = .ok (o, db')) : Commit db db' := by
  simp only [rejectForTerminalTask, compareAndSetResumeClaim_bind_ok, pure_mk] at h
  obtain ⟨c, hc, -, -, rfl⟩ := h
  exact claim_commit hc (by simp [rejectionPatch]) rfl

variable {intent : ResumeClaimIntent D.Plan} {locatorTaskId : Option String}

theorem createResumeClaim_commit (htask : locatorTaskId.bind (getTask db) = task)
    (hsome : task.isSome = locatorTaskId.isSome)
    (h : createResumeClaim intent claimId locatorTaskId task db = .ok (claim, db')) :
    Commit db db' := by
  simp only [createResumeClaim, requireClaimTarget_bind_ok, steps_ok, requireClaimBranch_bind_ok,
    saveResumeClaim, bind_assoc, insertRow_bind_ok, pure_mk] at h
  obtain ⟨e, he, howner, hlive, -, -, claims, hclaims, -, rfl⟩ := h
  refine ⟨{ claims := [.insert (intent.toRow claimId)] }, { log := ?_, claims := ?_ }, {}⟩
  · exact ⟨.nil _, .nil _, .nil _, .nil _, .of_insert hclaims⟩
  · simp only [List.mem_singleton, forall_eq, LawfulClaim]
    refine ⟨e, he, fun τ hτ => ?_⟩
    rw [howner] at hτ
    rw [Option.mem_def.1 hτ, Option.isSome_some, Option.isSome_iff_exists] at hsome
    obtain ⟨t, rfl⟩ := hsome
    rw [Option.mem_def.1 hτ] at htask
    exact ⟨t, htask, hlive t rfl⟩

/-- **A claim is created for a live task only; repeating the request creates nothing.** -/
theorem getOrCreateResumeClaim_commit
    (h : getOrCreateResumeClaim intent claimId locatorTaskId now db = .ok (o, db')) :
    Commit db db' := by
  simp only [getOrCreateResumeClaim, steps_ok, jsonSafe_bind_ok, lockClaimTask_bind_ok] at h
  obtain ⟨-, -, -, task, htask, hsome, h⟩ := h
  cases hexisting : getResumeClaimByRequestId db intent.resumeRequestId with
  | none =>
    rw [hexisting, bind_ok] at h
    obtain ⟨claim, db1, hcreate, h⟩ := h
    obtain ⟨-, rfl⟩ := pure_mk.1 h
    exact createResumeClaim_commit htask hsome hcreate
  | some existing =>
    rw [hexisting] at h
    simp only [replayResumeClaim, steps_ok, ite_ok, pure_mk, requireClaimTarget_bind_ok,
      requireClaimBranch_bind_ok] at h
    obtain ⟨-, ⟨-, -, rfl⟩ | ⟨-, e, -, -, ⟨-, h⟩ | ⟨-, -, -, rfl⟩⟩⟩ := h
    · exact .refl _
    · exact rejectForTerminalTask_commit h
    · exact .refl _

theorem rebindCreatedResumeClaim_commit {plan : ResumePlan D.Plan} {resumeRequestId : String}
    (h : rebindCreatedResumeClaim claimId plan resumeRequestId now db = .ok (o, db')) :
    Commit db db' := by
  simp only [rebindCreatedResumeClaim, requireReconnectPlan, bind_assoc, steps_ok,
    lockClaimTask_bind_ok, ite_ok, pure_ok, rebindClaim, compareAndSetResumeClaim_bind_ok,
    Prod.mk.injEq] at h
  obtain ⟨-, -, -, -, task, -, -, record, -, ⟨-, -, rfl⟩ | ⟨-, -, e, -, ⟨-, h⟩ |
    ⟨-, ⟨-, -, rfl⟩ | ⟨-, c, hc, -, -, rfl⟩⟩⟩⟩ := h
  · exact .refl _
  · exact rejectForTerminalTask_commit h
  · exact .refl _
  · exact claim_commit hc (by simp) rfl

theorem recordResumeClaimHandoff_commit {status : String} {payload : JsonObject}
    (h : recordResumeClaimHandoff claimId status payload db = .ok (claim, db')) :
    Commit db db' := by
  simp only [recordResumeClaimHandoff, steps_ok, jsonSafe_bind_ok] at h
  obtain ⟨-, -, record, -, -, h⟩ := h
  cases hexisting : (Json.member? "r7_g_handoff" record.metadata).filter (!Json.pyEq · .null) with
  | some existing =>
    rw [hexisting] at h
    simp only [steps_ok, pure_mk] at h
    obtain ⟨-, -, rfl⟩ := h
    exact .refl _
  | none =>
    rw [hexisting, orAbort_ok] at h
    rcases compareAndSetResumeClaim_ok h with ⟨c, hc, -, -, rfl⟩ | ⟨hnone, -⟩
    · exact claim_commit hc (by simp) rfl
    · cases hnone

end Outcomes

end AssistantRuntime.Persistence

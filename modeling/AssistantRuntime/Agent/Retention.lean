/-
**What the agent tables keep.**

Receipts are kept: a reservation, an admission, a checkpoint with its pending invocations, the
binding of a task to its budget owner and the receipt of a mirrored charge are written once, and
whoever looks for one of them later finds it as it was written.  A resume claim may change, but it
keeps its identity and leaves the state `CREATED` for good.
-/

import AssistantRuntime.Agent.WaitingCheckpoint
import AssistantRuntime.UserBudget.Statements

namespace AssistantRuntime.Agent

open Relational Uow Table

variable {D : Digests}

/-! ### Claims -/

/-- A claim keeps what it is about, who made it and when it expires, and leaves the state `CREATED`
for good. -/
structure ClaimRow.Ages {π : Type} (c c' : ClaimRow π) : Prop where
  claimId : c'.claimId = c.claimId
  executionId : c'.executionId = c.executionId
  checkpointId : c'.checkpointId = c.checkpointId
  resumeRequestId : c'.resumeRequestId = c.resumeRequestId
  expectedExecutionRevision : c'.expectedExecutionRevision = c.expectedExecutionRevision
  userId : c'.userId = c.userId
  clientId : c'.clientId = c.clientId
  waitReason : c'.waitReason = c.waitReason
  triggerType : c'.triggerType = c.triggerType
  claimExpiresAt : c'.claimExpiresAt = c.claimExpiresAt
  state : c.state ≠ .created → c'.state = c.state

namespace ClaimRow.Ages

variable {π : Type} {c c1 c' : ClaimRow π}

theorem refl (c : ClaimRow π) : c.Ages c where
  claimId := rfl
  executionId := rfl
  checkpointId := rfl
  resumeRequestId := rfl
  expectedExecutionRevision := rfl
  userId := rfl
  clientId := rfl
  waitReason := rfl
  triggerType := rfl
  claimExpiresAt := rfl
  state _ := rfl

theorem trans (h : c.Ages c1) (h' : c1.Ages c') : c.Ages c' where
  claimId := h'.claimId.trans h.claimId
  executionId := h'.executionId.trans h.executionId
  checkpointId := h'.checkpointId.trans h.checkpointId
  resumeRequestId := h'.resumeRequestId.trans h.resumeRequestId
  expectedExecutionRevision := h'.expectedExecutionRevision.trans h.expectedExecutionRevision
  userId := h'.userId.trans h.userId
  clientId := h'.clientId.trans h.clientId
  waitReason := h'.waitReason.trans h.waitReason
  triggerType := h'.triggerType.trans h.triggerType
  claimExpiresAt := h'.claimExpiresAt.trans h.claimExpiresAt
  state hne := by
    have h1 := h.state hne
    rw [h'.state (h1 ▸ hne), h1]

end ClaimRow.Ages

/-- The patch keeps the identity of a claim, and lets only a claim in state `CREATED` move. -/
class ClaimPatch.Settles {π : Type} (consuming : Prop) (source : ClaimState) (p : ClaimPatch π) :
    Prop where
  userId : p.userId = none
  clientId : p.clientId = none
  claimExpiresAt : p.claimExpiresAt = none
  state : ∀ s ∈ p.state, source = .created ∧ (s = .consumed → consuming)

variable {source : ClaimState} {consuming : Prop}

theorem ClaimPatch.Settles.ages {π : Type} {p : ClaimPatch π} (h : p.Settles consuming source)
    {c : ClaimRow π} (hc : c.state = source) (revision : ℕ) :
    c.Ages (p.apply revision c) where
  claimId := rfl
  executionId := rfl
  checkpointId := rfl
  resumeRequestId := rfl
  expectedExecutionRevision := rfl
  userId := by simp [ClaimPatch.apply, h.userId]
  clientId := by simp [ClaimPatch.apply, h.clientId]
  waitReason := rfl
  triggerType := rfl
  claimExpiresAt := by simp [ClaimPatch.apply, h.claimExpiresAt]
  state hne := by
    cases hp : p.state with
    | none => simp [ClaimPatch.apply, hp]
    | some s => exact absurd (hc.trans (h.state s hp).1) hne

theorem ClaimPatch.Settles.consumes {π : Type} {p : ClaimPatch π} (h : p.Settles consuming source)
    {c : ClaimRow π} {revision : ℕ} (hstate : (p.apply revision c).state = .consumed) :
    consuming ∨ c.state = .consumed := by
  cases hp : p.state with
  | none =>
    right
    simpa [ClaimPatch.apply, hp] using hstate
  | some s =>
    have hs : s = .consumed := by simpa [ClaimPatch.apply, hp] using hstate
    exact .inl ((h.state s hp).2 hs)

/-! ### The relation -/

/-- What `db'` keeps of `db`.  Claims become `CONSUMED` only if `consuming`. -/
structure Retains (consuming : Prop) (db db' : Db D) : Prop where
  reservations : db.reservations.Evolves (· = ·) db'.reservations
  forkAdmissions : db.forkAdmissions.Evolves (· = ·) db'.forkAdmissions
  retryAdmissions : db.retryAdmissions.Evolves (· = ·) db'.retryAdmissions
  aggregateAdmissions : db.aggregateAdmissions.Evolves (· = ·) db'.aggregateAdmissions
  checkpoints : db.checkpoints.Evolves (· = ·) db'.checkpoints
  pending : ∀ checkpointId c, getExecutionCheckpoint db checkpointId = some c →
    listCheckpointPendingInvocations db' checkpointId =
      listCheckpointPendingInvocations db checkpointId
  claims : db.claims.Evolves ClaimRow.Ages db'.claims
  consumed : ∀ c' ∈ db'.claims, c'.state = .consumed →
    consuming ∨ ∃ c, db.claims.find? c'.claimId = some c ∧ c.state = .consumed
  tasks : db.tasks.Evolves (fun _ _ => True) db'.tasks
  bindings : ∀ taskId t, getTask db taskId = some t →
    db'.userBudgets.getTaskBinding taskId = db.userBudgets.getTaskBinding taskId
  receipts : ∀ taskId kind key dimension r,
    db.userBudgets.getDualAccountingReceipt taskId kind key dimension = some r →
      db'.userBudgets.getDualAccountingReceipt taskId kind key dimension = some r

namespace Retains

variable {consuming : Prop} {db db1 db' : Db D}

theorem refl (db : Db D) : Retains consuming db db where
  reservations := .refl (fun _ => rfl) _
  forkAdmissions := .refl (fun _ => rfl) _
  retryAdmissions := .refl (fun _ => rfl) _
  aggregateAdmissions := .refl (fun _ => rfl) _
  checkpoints := .refl (fun _ => rfl) _
  pending _ _ _ := rfl
  claims := .refl .refl _
  consumed c' hc' hstate := .inr ⟨c', find?_key hc', hstate⟩
  tasks := .refl (fun _ => trivial) _
  bindings _ _ _ := rfl
  receipts _ _ _ _ _ h := h

theorem trans (h : Retains consuming db db1) (h' : Retains consuming db1 db') :
    Retains consuming db db' where
  reservations := h.reservations.trans (fun _ _ _ => Eq.trans) h'.reservations
  forkAdmissions := h.forkAdmissions.trans (fun _ _ _ => Eq.trans) h'.forkAdmissions
  retryAdmissions := h.retryAdmissions.trans (fun _ _ _ => Eq.trans) h'.retryAdmissions
  aggregateAdmissions :=
    h.aggregateAdmissions.trans (fun _ _ _ => Eq.trans) h'.aggregateAdmissions
  checkpoints := h.checkpoints.trans (fun _ _ _ => Eq.trans) h'.checkpoints
  pending checkpointId c hc := by
    obtain ⟨c1, hc1, -⟩ := h.checkpoints checkpointId c hc
    rw [h'.pending checkpointId c1 hc1, h.pending checkpointId c hc]
  claims := h.claims.trans (fun _ _ _ => ClaimRow.Ages.trans) h'.claims
  consumed c' hc' hstate := by
    rcases h'.consumed c' hc' hstate with hconsuming | ⟨c1, hc1, hstate1⟩
    · exact .inl hconsuming
    · -- the claim was consumed after the first change already
      have hkey := key_of_find? hc1
      rw [← hkey]
      exact h.consumed c1 (mem_of_find? hc1) hstate1
  tasks := h.tasks.trans (fun _ _ _ _ _ => trivial) h'.tasks
  bindings taskId t ht := by
    obtain ⟨t1, ht1, -⟩ := h.tasks taskId t ht
    rw [h'.bindings taskId t1 ht1, h.bindings taskId t ht]
  receipts _ _ _ _ _ hr := h'.receipts _ _ _ _ _ (h.receipts _ _ _ _ _ hr)

instance : IsPreorder (Db D) (Retains consuming) where
  refl := .refl
  trans _ _ _ := .trans

theorem mono {consuming' : Prop} (himp : consuming → consuming') (h : Retains consuming db db') :
    Retains consuming' db db' :=
  { h with consumed := fun c' hc' hstate => (h.consumed c' hc' hstate).imp_left himp }

end Retains

/-! ### Any relation that the statements respect -/

/-- Every statement of the repository that stores no execution and writes no branch or budget respects
the relation; claims become `CONSUMED` only if `consuming`. -/
class Writes (consuming : outParam Prop) (R : Db D → Db D → Prop) : Prop
    extends IsPreorder (Db D) R where
  saveTask (row : TaskRow) : Respects R (Agent.saveTask row : Tx D Unit)
  saveTaskBranchContext (row : BranchContextRow) :
    Respects R (Agent.saveTaskBranchContext row : Tx D Unit)
  saveTaskForkAdmission (row : ForkAdmissionRow D.Plan) :
    Respects R (Agent.saveTaskForkAdmission row : Tx D Unit)
  saveTaskRetryAdmission (row : RetryAdmissionRow D.Plan) :
    Respects R (Agent.saveTaskRetryAdmission row : Tx D Unit)
  saveTaskAggregateAdmission (row : AggregateAdmissionRow D.Plan) :
    Respects R (Agent.saveTaskAggregateAdmission row : Tx D Unit)
  compareAndSetTask (taskId : String) (revision : ℕ) (p : TaskPatch) :
    Respects R (Agent.compareAndSetTask taskId revision p : Tx D (Option TaskRow))
  compareAndSetTaskActivity (taskId : String) (revision : ℕ) (target : TaskStatus)
    (waitReasons : List String) :
    Respects R (Agent.compareAndSetTaskActivity taskId revision target waitReasons :
      Tx D (Option TaskRow))
  updateExecution (executionId : String) (guard : ExecutionRow → Prop) [DecidablePred guard]
    (revision : ExecutionRow → ℕ) (values : ExecutionRow → ExecutionPatch) :
    Respects R (Agent.updateExecution executionId guard revision values :
      Tx D (Option ExecutionRow))
  onUserBudgets {α : Type} (x : UserBudget.Tx α) [Respects UserBudget.Enrolls x] :
    Respects R (Agent.onUserBudgets x : Tx D α)
  saveResumeClaim (row : ClaimRow D.Plan) (hrow : row.state = .created) :
    Respects R (Agent.saveResumeClaim row : Tx D Unit)
  compareAndSetResumeClaim (claimId : String) (revision : ℕ) (source : ClaimState)
    (p : ClaimPatch D.Plan) [p.Settles consuming source] :
    Respects R (Agent.compareAndSetResumeClaim claimId revision source p :
      Tx D (Option (ClaimRow D.Plan)))
  stageWaitingCheckpoint (execution : ExecutionRow) (revision : ℕ) (transition : ExecutionPatch)
    (values : CheckpointValues) (pending : List PendingReference) (evidence : WaitingEvidence) :
    Respects R (Agent.stageWaitingCheckpoint execution revision transition values pending evidence :
      Tx D ExecutionPatch)

/-- Charging a budget respects the relation. -/
class WritesCharges (R : Db D → Db D → Prop) : Prop where
  saveTaskBudgetReservation (taskId : String) (kind : ReservationKind) (key : String)
    (fingerprint : D.Receipt) (generation : Option ℤ) :
    Respects R (Agent.saveTaskBudgetReservation taskId kind key fingerprint generation : Tx D Unit)
  compareAndSetTaskBudget (taskId : String) (revision : ℕ) (p : BudgetPatch)
    (generation : Option ℤ) :
    Respects R (Agent.compareAndSetTaskBudget taskId revision p generation :
      Tx D (Option BudgetRow))
  onUserBudgets {α : Type} (x : UserBudget.Tx α) [Respects UserBudget.Retains x] :
    Respects R (Agent.onUserBudgets x : Tx D α)

/-- Settling a branch respects the relation. -/
class WritesResolutions (R : Db D → Db D → Prop) : Prop where
  compareAndSetTaskBranch (branchId : String) (revision : ℕ) (state : ResolutionState) :
    Respects R (Agent.compareAndSetTaskBranch branchId revision { resolutionState := some state } :
      Tx D (Option BranchRow))

/-- Storing an execution, at the head of a branch or not, respects the relation. -/
class WritesExecutions (R : Db D → Db D → Prop) : Prop where
  saveExecution (row : ExecutionRow) : Respects R (Agent.saveExecution row : Tx D Unit)
  saveTaskBranch (row : BranchRow) : Respects R (Agent.saveTaskBranch row : Tx D Unit)
  compareAndSetTaskBranch (branchId : String) (revision : ℕ) (head : Option String) :
    Respects R (Agent.compareAndSetTaskBranch branchId revision
      { currentExecutionId := some head } : Tx D (Option BranchRow))

attribute [instance] Writes.saveTask Writes.saveTaskBranchContext
  Writes.saveTaskForkAdmission Writes.saveTaskRetryAdmission
  Writes.saveTaskAggregateAdmission Writes.compareAndSetTask Writes.compareAndSetTaskActivity
  Writes.updateExecution Writes.onUserBudgets
  Writes.compareAndSetResumeClaim Writes.stageWaitingCheckpoint
  WritesCharges.saveTaskBudgetReservation WritesCharges.compareAndSetTaskBudget
  WritesCharges.onUserBudgets WritesResolutions.compareAndSetTaskBranch WritesExecutions.saveExecution
  WritesExecutions.saveTaskBranch WritesExecutions.compareAndSetTaskBranch

/-- A relation that looks at no table but executions, branches and budgets: it is enough to know what
an update of an execution and one of a budget do to it. -/
theorem writes_of_tables {R : Db D → Db D → Prop} [IsPreorder (Db D) R]
    (hsame : ∀ db db' : Db D, db'.executions = db.executions → db'.branches = db.branches →
      db'.budgets = db.budgets → R db db')
    (hexecution : ∀ (db : Db D) (x : String) (e : ExecutionRow) (p : ExecutionPatch) (revision : ℕ),
      getExecution db x = some e →
        R db { db with executions := db.executions.put (p.apply revision e) })
    (hbudget : ∀ (db : Db D) (taskId : String) (b : BudgetRow) (p : BudgetPatch) (revision : ℕ),
      getTaskBudget db taskId = some b →
        R db { db with budgets := db.budgets.put (p.apply revision b) }) :
    Writes True R ∧ WritesCharges R := by
  constructor
  · exact
      { saveTask := fun _ => .insertRow fun _ _ _ => hsame _ _ rfl rfl rfl
        saveTaskBranchContext := fun _ => .insertRow fun _ _ _ => hsame _ _ rfl rfl rfl
        saveTaskForkAdmission := fun _ => by
          exact .seq _ _ fun _ => .seq _ _ fun _ => .insertRow fun _ _ _ => hsame _ _ rfl rfl rfl
        saveTaskRetryAdmission := fun _ => by
          exact .seq _ _ fun _ => .seq _ _ fun _ => .insertRow fun _ _ _ => hsame _ _ rfl rfl rfl
        saveTaskAggregateAdmission := fun _ => by
          exact .seq _ _ fun _ => .seq _ _ fun _ => .insertRow fun _ _ _ => hsame _ _ rfl rfl rfl
        compareAndSetTask := fun _ _ _ => .compareAndSet fun _ _ _ _ => hsame _ _ rfl rfl rfl
        compareAndSetTaskActivity := fun _ _ _ _ => by
          refine .seq _ _ fun _ => .seq _ _ fun _ => .seq _ _ fun _ => ?_
          exact .compareAndSet fun _ _ _ _ => hsame _ _ rfl rfl rfl
        updateExecution := fun _ _ _ _ _ => .compareAndSet fun _ _ he _ => hexecution _ _ _ _ _ he
        onUserBudgets := fun _ =>
          .within (T := UserBudget.Enrolls) fun _ _ _ => hsame _ _ rfl rfl rfl
        saveResumeClaim := fun _ _ => by
          exact .seq _ _ fun _ => .seq _ _ fun _ => .insertRow fun _ _ _ => hsame _ _ rfl rfl rfl
        compareAndSetResumeClaim := fun _ _ _ _ =>
          .compareAndSet fun _ _ _ _ => hsame _ _ rfl rfl rfl
        stageWaitingCheckpoint := fun _ _ _ _ _ _ =>
          { rel := fun h => by
              obtain ⟨_, _, _, -, -, -, -, -, -, -, -, -, rfl⟩ := stageWaitingCheckpoint_ok h
              exact hsame _ _ rfl rfl rfl } }
  · exact
      { saveTaskBudgetReservation := fun _ _ _ _ _ => by
          refine .seq _ _ fun _ => .seq _ _ fun _ => .seq _ _ fun _ => ?_
          exact .insertRow fun _ _ _ => hsame _ _ rfl rfl rfl
        compareAndSetTaskBudget := fun taskId revision p generation => by
          unfold compareAndSetTaskBudget
          have : Respects R (compareAndSet (·.budgets)
              (fun t db => { db with budgets := t }) taskId (fun r => r.revision = revision ∧
                generation.all (r.incarnationGeneration = ·)) (p.apply revision) :
                Tx D (Option BudgetRow)) :=
            .compareAndSet fun _ _ hb _ => hbudget _ _ _ _ _ hb
          infer_instance
        onUserBudgets := fun _ =>
          .within (T := UserBudget.Retains) fun _ _ _ => hsame _ _ rfl rfl rfl }

/-! ### The statements keep what is stored -/

section Statements

variable {consuming : Prop}

instance (row : BudgetRow) : Respects (Retains consuming) (saveTaskBudget row : Tx D BudgetRow) where
  rel {db _ _} h := by
    obtain ⟨-, -, budgets, -, rfl⟩ := saveTaskBudget_ok h
    exact { Retains.refl db with }

/-- Receipts are new rows, and a unit of work of the user-budget services keeps bindings and
receipts. -/
instance : WritesCharges (Retains (D := D) consuming) where
  saveTaskBudgetReservation _ _ _ _ _ := by
    unfold saveTaskBudgetReservation
    refine .seq _ _ fun _ => .seq _ _ fun _ => .seq _ _ fun _ => .insertRow fun db _ ht => ?_
    exact { Retains.refl db with reservations := .of_insert (fun _ => rfl) ht }
  compareAndSetTaskBudget taskId revision p generation := by
    unfold compareAndSetTaskBudget
    have : Respects (Retains consuming) (compareAndSet (·.budgets)
        (fun t db => { db with budgets := t }) taskId (fun r => r.revision = revision ∧
          generation.all (r.incarnationGeneration = ·)) (p.apply revision) :
          Tx D (Option BudgetRow)) :=
      .compareAndSet fun db _ _ _ => { Retains.refl db with }
    infer_instance
  onUserBudgets x _ := by
    refine .within (T := UserBudget.Retains) ?_
    intro db u hu
    refine { Retains.refl db with bindings := ?_, receipts := hu.receipts }
    intro taskId t _
    show u.taskBindings.find? taskId = db.userBudgets.taskBindings.find? taskId
    rw [hu.bindings]

instance : WritesResolutions (Retains (D := D) consuming) where
  compareAndSetTaskBranch _ _ _ := .compareAndSet fun db _ _ _ => { Retains.refl db with }

instance : WritesExecutions (Retains (D := D) consuming) where
  saveExecution _ := .insertRow fun db _ _ => { Retains.refl db with }
  saveTaskBranch _ := .insertRow fun db _ _ => { Retains.refl db with }
  compareAndSetTaskBranch _ _ _ := .compareAndSet fun db _ _ _ => { Retains.refl db with }

/-- **The statements keep what is stored.**  A new claim starts in state `CREATED`, and staging a
checkpoint leaves every other checkpoint and its invocations alone. -/
instance : Writes consuming (Retains (D := D) consuming) where
  saveTask _ := .insertRow fun db _ ht =>
    { Retains.refl db with tasks := .of_insert (fun _ => trivial) ht }
  saveTaskBranchContext _ := .insertRow fun db _ _ => { Retains.refl db with }
  saveTaskForkAdmission _ := by
    refine .seq _ _ fun _ => .seq _ _ fun _ => .insertRow fun db _ ht => ?_
    exact { Retains.refl db with forkAdmissions := .of_insert (fun _ => rfl) ht }
  saveTaskRetryAdmission _ := by
    refine .seq _ _ fun _ => .seq _ _ fun _ => .insertRow fun db _ ht => ?_
    exact { Retains.refl db with retryAdmissions := .of_insert (fun _ => rfl) ht }
  saveTaskAggregateAdmission _ := by
    refine .seq _ _ fun _ => .seq _ _ fun _ => .insertRow fun db _ ht => ?_
    exact { Retains.refl db with aggregateAdmissions := .of_insert (fun _ => rfl) ht }
  compareAndSetTask _ _ _ := .compareAndSet fun db _ hr _ =>
    { Retains.refl db with tasks := .of_put (fun _ => trivial) hr rfl trivial }
  compareAndSetTaskActivity _ _ _ _ := by
    refine .seq _ _ fun _ => .seq _ _ fun _ => .seq _ _ fun _ => .compareAndSet fun db _ hr _ => ?_
    exact { Retains.refl db with tasks := .of_put (fun _ => trivial) hr rfl trivial }
  updateExecution _ _ _ _ _ := .compareAndSet fun db _ _ _ => { Retains.refl db with }
  onUserBudgets x hx := by
    have : Respects UserBudget.Retains x := ⟨fun h => (hx.rel h).toRetains⟩
    infer_instance
  saveResumeClaim row hrow := by
    refine .seq _ _ fun _ => .seq _ _ fun _ => .insertRow ?_
    intro db t ht
    refine { (.refl db : Retains consuming db db) with claims := .of_insert .refl ht, consumed := ?_ }
    intro c' hc' hstate
    rcases (mem_insert? ht).1 hc' with hold | rfl
    · exact .inr ⟨c', find?_key hold, hstate⟩
    · rw [hrow] at hstate
      cases hstate
  compareAndSetResumeClaim _ revision _ p hp := by
    refine .compareAndSet ?_
    intro db c hc hguard
    refine { (.refl db : Retains consuming db db) with
      claims := .of_put .refl hc rfl (hp.ages hguard.2 revision), consumed := ?_ }
    intro c' hc' hstate
    have hmem := mem_of_find? hc
    have hkey : c.claimId = (p.apply revision c).claimId := rfl
    rcases (mem_put_of_mem hmem hkey).1 hc' with ⟨hold, -⟩ | rfl
    · exact .inr ⟨c', find?_key hold, hstate⟩
    · -- the written claim was consumed before, or the patch consumed it
      rcases hp.consumes hstate with hconsuming | hconsumed
      · exact .inl hconsuming
      · exact .inr ⟨c, find?_key hmem, hconsumed⟩
  stageWaitingCheckpoint execution revision transition values pending evidence :=
    { rel := fun {db patch db'} h => by
        have hpending := fun i c => stageWaitingCheckpoint_pending (i := i) (c := c) h
        obtain ⟨_, _, _, -, -, -, -, -, hinsert, -, -, -, rfl⟩ := stageWaitingCheckpoint_ok h
        exact { (.refl db : Retains consuming db db) with
          checkpoints := .of_insert (fun _ => rfl) hinsert, pending := hpending } }

end Statements

/-! ### Where an execution stands

An execution belongs to a task, a branch, an agent and, if another execution delegated to it, to a
parent.  No statement changes any of these; they are settled when the execution is stored.  And the
execution at the head of a branch changes only when a new execution is stored there. -/

variable {db db1 db' : Db D}

/-- The columns of an execution that are settled when it is stored. -/
structure ExecutionRow.SameKin (e e' : ExecutionRow) : Prop where
  id : e'.id = e.id
  taskId : e'.taskId = e.taskId
  branchId : e'.branchId = e.branchId
  parentExecutionId : e'.parentExecutionId = e.parentExecutionId
  agentId : e'.agentId = e.agentId

theorem ExecutionRow.SameKin.refl (e : ExecutionRow) : e.SameKin e := ⟨rfl, rfl, rfl, rfl, rfl⟩

theorem ExecutionRow.SameKin.trans {e1 e2 e3 : ExecutionRow} (h : e1.SameKin e2)
    (h' : e2.SameKin e3) : e1.SameKin e3 where
  id := h'.id.trans h.id
  taskId := h'.taskId.trans h.taskId
  branchId := h'.branchId.trans h.branchId
  parentExecutionId := h'.parentExecutionId.trans h.parentExecutionId
  agentId := h'.agentId.trans h.agentId

def BranchRow.HeadIn (b' : BranchRow) (db : Db D) : Prop :=
  ∃ b ∈ db.branches, b.branchId = b'.branchId ∧ b.taskId = b'.taskId ∧
    b.currentExecutionId = b'.currentExecutionId

/-- No execution is new or stands elsewhere, and no branch has a new head. -/
structure Standing (db db' : Db D) : Prop where
  kin : db.executions.Evolves ExecutionRow.SameKin db'.executions
  noneNew : ∀ x, getExecution db x = none → getExecution db' x = none
  heads : ∀ b' ∈ db'.branches, b'.HeadIn db

namespace Standing

theorem of_same (hexecutions : db'.executions = db.executions)
    (hbranches : db'.branches = db.branches) : Standing db db' where
  kin := by
    rw [hexecutions]
    exact .refl .refl _
  noneNew x hx := by
    unfold getExecution at hx ⊢
    rwa [hexecutions]
  heads b' hb' := ⟨b', hbranches ▸ hb', rfl, rfl, rfl⟩

theorem refl (db : Db D) : Standing db db := of_same rfl rfl

theorem trans (h : Standing db db1) (h' : Standing db1 db') : Standing db db' where
  kin := h.kin.trans (fun _ _ _ => .trans) h'.kin
  noneNew x hx := h'.noneNew x (h.noneNew x hx)
  heads b' hb' := by
    obtain ⟨b1, hb1, hid1, htask1, hhead1⟩ := h'.heads b' hb'
    obtain ⟨b, hb, hid, htask, hhead⟩ := h.heads b1 hb1
    exact ⟨b, hb, hid.trans hid1, htask.trans htask1, hhead.trans hhead1⟩

instance : IsPreorder (Db D) Standing where
  refl := .refl
  trans _ _ _ := .trans

theorem of_put {executionId : String} {e : ExecutionRow} (he : getExecution db executionId = some e)
    (p : ExecutionPatch) (revision : ℕ) :
    Standing db { db with executions := db.executions.put (p.apply revision e) } where
  kin := .of_put .refl he rfl ⟨rfl, rfl, rfl, rfl, rfl⟩
  noneNew x hx := by
    by_cases hk : x = (p.apply revision e).id
    · -- the row that was written was there
      have hid : e.id = x := hk.symm
      have hfound : getExecution db x = some e := by
        rw [← hid]
        exact find?_key (mem_of_find? he)
      rw [hfound] at hx
      cases hx
    · exact (find?_put_of_ne hk).trans hx
  heads b' hb' := ⟨b', hb', rfl, rfl, rfl⟩

theorem count (h : Standing db db') {τ : String} :
    db'.executions.count (fun e => e.taskId = some τ) =
      db.executions.count fun e => e.taskId = some τ := by
  refine count_congr fun x => ?_
  cases hx : getExecution db x with
  | none =>
    have hx' : getExecution db' x = none := h.noneNew x hx
    unfold getExecution at hx hx'
    simp [hx, hx']
  | some e =>
    obtain ⟨e', he', hkin⟩ := h.kin x e hx
    unfold getExecution at hx
    simp [hx, he', hkin.taskId]

theorem writes : Writes True (Standing (D := D)) ∧ WritesCharges (Standing (D := D)) :=
  writes_of_tables (fun _ _ hexecutions hbranches _ => of_same hexecutions hbranches)
    (fun _ _ _ _ _ he => of_put he _ _) fun _ _ _ _ _ _ => of_same rfl rfl

instance : Writes True (Standing (D := D)) := writes.1

instance : WritesCharges (Standing (D := D)) := writes.2

instance (row : BudgetRow) : Respects Standing (saveTaskBudget row : Tx D BudgetRow) where
  rel h := by
    obtain ⟨-, -, budgets, -, rfl⟩ := saveTaskBudget_ok h
    exact .of_same rfl rfl

instance : WritesResolutions (Standing (D := D)) where
  compareAndSetTaskBranch branchId revision state := by
    refine .compareAndSet fun db b hb _ => { Standing.refl db with heads := ?_ }
    exact forall_put (fun b' hold => ⟨b', hold, rfl, rfl, rfl⟩)
      ⟨b, mem_of_find? hb, rfl, rfl, rfl⟩

end Standing

end AssistantRuntime.Agent

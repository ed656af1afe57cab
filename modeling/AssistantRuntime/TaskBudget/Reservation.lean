/-
**Reservations.**

An operation that changes the counters of a task budget stores a reservation under a key of its own,
in the same unit of work.  A caller that does not know whether its first call committed calls again:
the second call finds the reservation, compares the fingerprint of its payload and returns what is
stored.  A call on behalf of a recovered execution also names the lease it holds; it is refused
unless that lease is the stored one and has not expired.
-/

import AssistantRuntime.Agent.Planning
import AssistantRuntime.TaskBudget.Activity
import AssistantRuntime.UserBudget.ToolQuota

namespace AssistantRuntime.TaskBudget

open Relational Uow Agent

variable {D : Digests}

/-! ### The user budgets

A task created while dual accounting is enabled is bound to the user who pays for it, and what it
uses is mirrored into that user's window, in the same units of work. -/

/-- The dual-accounting service object: its settings, and whether new tasks are enrolled. -/
structure DualAccounting extends UserBudget.DualAccountingSettings where
  enabled : Bool := false

/-- The configuration of `TaskBudgetService`. -/
structure Settings where
  defaultLimits : Option TaskBudgetLimits := none
  defaultPolicy : Option TaskBudgetPolicy := none
  userBudgetDualAccounting : Option DualAccounting := none
  userToolQuotaEnabled : Bool := false
  userInferenceQuotaEnabled : Bool := false

/-- `BudgetOwnerResolution`, as far as the binding of a task keeps it. -/
structure BudgetOwnerResolution where
  ownerUserId : String
  resolutionFingerprint : String

/-- What `resolve_budget_owner_in_uow` makes of an identity: it reads the tables of users and keys
only. -/
abbrev Identity := Except UserBudget.Failure BudgetOwnerResolution

def prepareEnrollment (dual : DualAccounting) (parentTaskId : Option String)
    (identity : Identity) : Tx D BudgetOwnerResolution := onUserBudgets do
  let resolution ← match identity with
    | .ok resolution => pure resolution
    | .error failure => abort failure
  let _ ← UserBudget.ensureShadowAccount D.userBudget dual.toDualAccountingSettings
    resolution.ownerUserId
  match parentTaskId with
  | none => pure resolution
  | some parent =>
    let binding ← expect (← reads (UserBudget.Db.getTaskBinding · parent))
      ⟨.parentUnbound, "enrolled child requires a bound parent task"⟩
    ensure (binding.ownerUserId = resolution.ownerUserId)
      ⟨.parentOwnerMismatch, "child budget owner differs from parent budget owner"⟩
    pure resolution

def bindPreparedTask (taskId : String) (resolution : BudgetOwnerResolution) : Tx D Unit :=
  onUserBudgets do
    let _ ← UserBudget.createTaskBinding
      ⟨taskId, resolution.ownerUserId, "ubq2-v1", resolution.resolutionFingerprint⟩

/-- `require_same_binding`; the binding read before the unit of work is the row itself. -/
def requireSameBinding (expected row : UserBudget.TaskBindingRow) : Tx D Unit :=
  ensure (row = expected) (.userBudget ⟨.bindingDrift,
    "durable task binding changed between preflight and mutation"⟩)

/-- The loop of `require_mirror_replay_in_uow`, over the receipts of the dimensions. -/
def requireReceipts (source : UserBudget.MirrorSource) :
    List (UserBudget.MirrorDimension × Option UserBudget.ReceiptRow) → UserBudget.Tx Unit
  | [] => pure ()
  | (dimension, stored) :: rest => do
    let receipt ← expect stored ⟨.userBudgetIntegrity,
      "committed TaskBudget resource reservation is missing its UBQ bridge"⟩
    ensure (source.Repeats dimension receipt)
      ⟨.userBudgetConflict, "dual-accounting replay conflicts with immutable bridge receipt"⟩
    requireReceipts source rest

def requireMirrorReplay (source : UserBudget.MirrorSource)
    (dimensions : List UserBudget.MirrorDimension) : Tx D Unit := onUserBudgets do
  requireReceipts source (← reads (source.receipts dimensions))

/-- Whatever happens on the user-budget tables leaves the agent tables alone. -/
theorem onUserBudgets_ok {α : Type} {x : UserBudget.Tx α} {db db' : Db D} {a : α}
    (h : onUserBudgets x db = .ok (a, db')) : ∃ u, db' = { db with userBudgets := u } := by
  obtain ⟨u, -, rfl⟩ := within_ok.1 h
  exact ⟨u, rfl⟩

/-! ### Recovery fences -/

/-- `recovery_fence`: the lease that a caller claims to hold.  A generation or an expiry that is
missing or malformed is `none`; the owner is stripped of blanks. -/
structure RecoveryFence where
  ownerInstanceId : String
  leaseGeneration : Option ℕ
  leaseExpiresAt : Option ℤ
  deriving DecidableEq

/-- The claimed lease is the stored lease of a running execution of the task, and is still live. -/
def FenceHolds (fence : RecoveryFence) (taskId : String) (now : ℤ) (e : ExecutionRow) : Prop :=
  e.taskId = some taskId ∧ e.state = .running ∧
    e.ownerInstanceId.getD "" = fence.ownerInstanceId ∧
    some e.leaseGeneration = fence.leaseGeneration ∧ e.leaseExpiresAt = fence.leaseExpiresAt ∧
    ∃ t ∈ e.leaseExpiresAt, now < t
  deriving Decidable

def fenceLost : Failure := conflict "RECOVERY_ACTIVE_LEASE_FENCE_LOST"

/-- `_lock_recovery_mutation_fence_in_uow`, and every later check of the same locked row. -/
def requireFence (fence : RecoveryFence) (taskId executionId : String) (now : ℤ) :
    Tx D ExecutionRow := do
  expect ((← reads (getExecution · executionId)).filter (FenceHolds fence taskId now ·)) fenceLost

/-! ### The shared part of a call -/

/-- The arguments that reservation-keyed calls share. -/
structure BudgetCall where
  taskId : String
  recoveryExecutionId : Option String := none
  recoveryFence : Option RecoveryFence := none
  /-- `expected_incarnation_generation`, or the incarnation an earlier attempt of the same call
  saw. -/
  expectedGeneration : Option ℤ := none

/-- `_validate_recovery_mutation_authority`: whoever claims a lease says for which execution and for
which incarnation of the budget. -/
def BudgetCall.AuthorityComplete (call : BudgetCall) : Prop :=
  (call.recoveryExecutionId ≠ none ∨ call.recoveryFence ≠ none) →
    (∃ e ∈ call.recoveryExecutionId, PyStr.strip e.toList ≠ []) ∧ call.recoveryFence ≠ none ∧
      ∃ g ∈ call.expectedGeneration, 0 < g
  deriving Decidable

def validateRecoveryMutationAuthority (call : BudgetCall) : Tx D Unit :=
  ensure call.AuthorityComplete (conflict "RECOVERY_TASK_BUDGET_AUTHORITY_INCOMPLETE")

def requireCallFence (call : BudgetCall) (now : ℤ) : Tx D Unit :=
  match call.recoveryFence with
  | none => pure ()
  | some fence => do
    let _ ← requireFence fence call.taskId (call.recoveryExecutionId.getD "") now
    pure ()

/-- The budget record of a call; its incarnation is the expected one, where one is expected. -/
def requireIncarnation (call : BudgetCall) (message : String) : Tx D BudgetRow := do
  let record ← requireBudgetRecord call.taskId
  ensure (∀ g ∈ call.expectedGeneration, record.incarnationGeneration = g)
    (.taskBudget .incarnationChanged message)
  pure record

def verifyReservation (record : ReservationRow D.Receipt) (fingerprint : D.Receipt) : Tx D Unit :=
  ensure (record.payloadFingerprint = fingerprint)
    (conflict "reservation_key was reused with a different payload")

/-- A call that must not see a user binding. -/
def requireLegacyUnbound (settings : Settings) (required : Bool) (taskId message : String) :
    Tx D Unit := do
  ensure (required → settings.userBudgetDualAccounting.isSome →
      ((← reads (·.userBudgets.getTaskBinding taskId)).isNone))
    (.taskBudget .legacyBecameEnrolled message)

/-! ### Reservation-keyed mutations -/

/-- What a reservation-keyed mutation does besides its reservation. -/
structure Mutation (D : Digests) where
  kind : ReservationKind
  reservationKey : String
  payload : Payload D.Plan
  /-- The new values of the counters, or why there is no room. -/
  mutate : Agent.TaskBudget → Except Failure BudgetPatch
  /-- What is written next to the counters. -/
  sideEffect : Tx D Unit := pure ()
  /-- What a replay checks besides the fingerprint. -/
  verifyIdempotent : Tx D Unit := pure ()

def Mutation.fingerprint (m : Mutation D) : D.Receipt :=
  D.reservation m.kind m.reservationKey m.payload

def mutateWithReservation (settings : Settings) (call : BudgetCall) (m : Mutation D)
    (legacyUnbound : Bool) (now : ℤ) : Tx D Agent.TaskBudget := do
  ensure (m.reservationKey ≠ "") (.valueError "reservation_key must be non-empty")
  validateRecoveryMutationAuthority call
  requireCallFence call now
  requireLegacyUnbound settings legacyUnbound call.taskId
    "legacy resource call observed a durable UBQ binding"
  let record ← requireIncarnation call "TaskBudget incarnation changed during logical operation"
  let generation := some record.incarnationGeneration
  match ← reads (getTaskBudgetReservation · call.taskId m.kind m.reservationKey generation) with
  | some existing =>
    verifyReservation existing m.fingerprint
    m.verifyIdempotent
    requireCallFence call now
    loadBudget record
  | none =>
    let budget ← loadBudget record
    let values ← evidently (m.mutate budget)
    requireCallFence call now
    let updated ← orAbort
      (compareAndSetTaskBudget call.taskId budget.revision values generation) .lostRace
    m.sideEffect
    saveTaskBudgetReservation call.taskId m.kind m.reservationKey m.fingerprint generation
    loadBudget updated

/-- `_load_idempotent`: what a call that ran into a stored reservation does instead of another
attempt. -/
def loadIdempotent (settings : Settings) (call : BudgetCall) (m : Mutation D)
    (legacyUnbound : Bool) (now : ℤ) : Tx D (Option Agent.TaskBudget) := do
  validateRecoveryMutationAuthority call
  requireCallFence call now
  requireLegacyUnbound settings legacyUnbound call.taskId
    "legacy replay observed a durable UBQ binding"
  let record ← expect (← reads (getTaskBudget · call.taskId))
    (required s!"TaskBudget missing: {call.taskId}")
  ensure (∀ g ∈ call.expectedGeneration, record.incarnationGeneration = g)
    (.taskBudget .incarnationChanged
      "TaskBudget incarnation changed during idempotent recovery")
  let generation := some record.incarnationGeneration
  match ← reads (getTaskBudgetReservation · call.taskId m.kind m.reservationKey generation) with
  | none => pure none
  | some existing =>
    verifyReservation existing m.fingerprint
    m.verifyIdempotent
    requireCallFence call now
    some <$> loadBudget record

/-! ### What a call did -/

section Inversion

variable {α : Type} {db db' : Db D} {x : α × Db D} {call : BudgetCall} {now : ℤ}

def CallFenceHolds (db : Db D) (call : BudgetCall) (now : ℤ) : Prop :=
  ∀ fence ∈ call.recoveryFence, ∃ e, getExecution db (call.recoveryExecutionId.getD "") = some e ∧
    FenceHolds fence call.taskId now e

@[simp] theorem requireFence_bind_ok {fence : RecoveryFence} {taskId executionId : String}
    {g : ExecutionRow → Tx D α} :
    (requireFence fence taskId executionId now >>= g) db = .ok x ↔
      ∃ e, (getExecution db executionId = some e ∧ FenceHolds fence taskId now e) ∧
        g e db = .ok x := by
  simp only [requireFence, bind_assoc, steps_ok, Option.filter_eq_some_iff, decide_eq_true_eq]

variable {g : Unit → Tx D α}

@[simp] theorem requireCallFence_bind_ok :
    (requireCallFence call now >>= g) db = .ok x ↔
      CallFenceHolds db call now ∧ g () db = .ok x := by
  unfold requireCallFence CallFenceHolds
  cases call.recoveryFence with
  | none => simp
  | some fence => simp

@[simp] theorem validateRecoveryMutationAuthority_bind_ok :
    (validateRecoveryMutationAuthority call >>= g) db = .ok x ↔
      call.AuthorityComplete ∧ g () db = .ok x := by
  simp only [validateRecoveryMutationAuthority, steps_ok]

@[simp] theorem requireIncarnation_bind_ok {message : String} {g : BudgetRow → Tx D α} :
    (requireIncarnation call message >>= g) db = .ok x ↔
      ∃ b, getTaskBudget db call.taskId = some b ∧
        (∀ n ∈ call.expectedGeneration, b.incarnationGeneration = n) ∧ g b db = .ok x := by
  simp only [requireIncarnation, bind_assoc, requireBudgetRecord_bind_ok, steps_ok, pure_bind_ok]

@[simp] theorem verifyReservation_bind_ok {record : ReservationRow D.Receipt}
    {fingerprint : D.Receipt} :
    (verifyReservation record fingerprint >>= g) db = .ok x ↔
      record.payloadFingerprint = fingerprint ∧ g () db = .ok x := by
  simp only [verifyReservation, steps_ok]

variable {settings : Settings}

@[simp] theorem requireLegacyUnbound_bind_ok {required : Bool} {taskId message : String} :
    (requireLegacyUnbound settings required taskId message >>= g) db = .ok x ↔
      (required → settings.userBudgetDualAccounting.isSome →
        (db.userBudgets.getTaskBinding taskId).isNone) ∧ g () db = .ok x := by
  simp only [requireLegacyUnbound, bind_assoc, steps_ok]

variable {budget : Agent.TaskBudget} {legacyUnbound : Bool} {m : Mutation D}

/-- **A reservation-keyed call replayed its reservation, or changed the counters and stored one.** -/
theorem mutateWithReservation_ok
    (h : mutateWithReservation settings call m legacyUnbound now db = .ok (budget, db')) :
    ∃ b, getTaskBudget db call.taskId = some b ∧
      ((∃ r, getTaskBudgetReservation db call.taskId m.kind m.reservationKey
            (some b.incarnationGeneration) = some r ∧ r.payloadFingerprint = m.fingerprint ∧
          m.verifyIdempotent db = .ok ((), db') ∧ b = budget.toBudgetRow) ∨
        (∃ loaded values db1 generation reservations,
          b = loaded.toBudgetRow ∧ m.mutate loaded = .ok values ∧
          (values.apply b.revision b).Checks ∧
          m.sideEffect { db with budgets := db.budgets.put (values.apply b.revision b) } =
            .ok ((), db1) ∧
          budget.toBudgetRow = values.apply b.revision b ∧
          db1.reservations.insert?
            ⟨call.taskId, m.kind, m.reservationKey, generation, m.fingerprint⟩ = some reservations ∧
          db' = { db1 with reservations })) := by
  simp only [mutateWithReservation, steps_ok, validateRecoveryMutationAuthority_bind_ok,
    requireCallFence_bind_ok, requireLegacyUnbound_bind_ok, requireIncarnation_bind_ok] at h
  obtain ⟨-, -, -, -, b, hb, -, h⟩ := h
  refine ⟨b, hb, ?_⟩
  rcases hr : getTaskBudgetReservation db call.taskId m.kind m.reservationKey
    (some b.incarnationGeneration) with _ | r
  · rw [hr] at h
    right
    simp only [loadBudget_bind_ok, evidently_bind_ok, requireCallFence_bind_ok,
      compareAndSetTaskBudget_bind_ok] at h
    obtain ⟨loaded, hloaded, values, hvalues, -, b', hb', -, hchecks, h⟩ := h
    obtain rfl : b' = b := Option.mem_unique hb' hb
    obtain ⟨_, db1, hside, h⟩ := bind_ok.1 h
    simp only [saveTaskBudgetReservation_bind_ok] at h
    obtain ⟨_, _, _, reservations, hstored, h⟩ := h
    obtain ⟨hupdated, rfl⟩ := loadBudget_ok h
    have hrev : loaded.revision = b'.revision := by rw [hloaded]
    rw [hrev] at hchecks hside hupdated
    exact ⟨loaded, values, db1, _, reservations, hloaded, hvalues, hchecks, hside, hupdated.symm,
      hstored, rfl⟩
  · rw [hr] at h
    left
    simp only [verifyReservation_bind_ok] at h
    obtain ⟨hfingerprint, h⟩ := h
    obtain ⟨_, db1, hverify, h⟩ := bind_ok.1 h
    obtain ⟨hbudget, rfl⟩ := loadBudget_ok (requireCallFence_bind_ok.1 h).2
    exact ⟨r, rfl, hfingerprint, hverify, hbudget⟩

theorem mutateWithReservation_commit (hside : m.sideEffect = pure ())
    (hverify : m.verifyIdempotent = pure ())
    (hmutate : ∀ b values, m.mutate b = .ok values →
      b.toBudgetRow.Grows (values.apply b.revision b.toBudgetRow) ∧
      values.activeExecutions = none ∧ values.activeParallelAgents = none ∧
      values.activeBranches = none)
    (h : mutateWithReservation settings call m legacyUnbound now db = .ok (budget, db')) :
    Commit db db' := by
  obtain ⟨b, hb, ⟨r, -, -, hreplay, -⟩ | ⟨loaded, values, db1, -, reservations, rfl, hvalues, hchecks,
    hdone, -, -, rfl⟩⟩ := mutateWithReservation_ok h
  · rw [hverify] at hreplay
    cases pure_ok.1 hreplay
    exact .refl _
  · rw [hside] at hdone
    cases pure_ok.1 hdone
    obtain ⟨hgrows, hactive, hparallel, hbranches⟩ := hmutate loaded values hvalues
    refine .of_budget hb hgrows hchecks ?_ ?_ ?_ rfl rfl rfl rfl rfl
    · simp [BudgetPatch.apply, hactive]
    · simp [BudgetPatch.apply, hparallel]
    · simp [BudgetPatch.apply, hbranches]

end Inversion

end AssistantRuntime.TaskBudget

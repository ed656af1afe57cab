/-
**The stored state of user budgets.**

A user budget is a sequence of *windows*.  Each window counts what the user has consumed and what
is reserved; next to it stand one usage row per tool capability and one reservation row per
logical charge.  The rows below carry the columns of the tables `user_budget_policies`,
`user_budget_accounts`, `user_budget_windows`, `user_tool_budget_usage`,
`user_budget_reservations`, `user_budget_task_bindings` and
`user_budget_dual_accounting_receipts` that the services read or write.

Identities and fingerprints are SHA-256 digests of canonical JSON documents.  The documents are
the constructors of `Document`, and everything that follows is parametric in the digest function.
-/

import AssistantRuntime.Relational.Table
import AssistantRuntime.Relational.UnitOfWork

namespace AssistantRuntime.UserBudget

open Relational

/-! ### Domain values -/

/-- The largest signed `BIGINT`. -/
def userBudgetInt64Max : ℤ := 9223372036854775807

inductive WindowState
  | active
  | closed
  deriving DecidableEq

inductive ResourceKind
  | inferenceCall
  | inputToken
  | outputToken
  | totalToken
  | toolCall
  | computeUnit
  | costUsd
  deriving DecidableEq

def ResourceKind.value : ResourceKind → String
  | .inferenceCall => "INFERENCE_CALL"
  | .inputToken => "INPUT_TOKEN"
  | .outputToken => "OUTPUT_TOKEN"
  | .totalToken => "TOTAL_TOKEN"
  | .toolCall => "TOOL_CALL"
  | .computeUnit => "COMPUTE_UNIT"
  | .costUsd => "COST_USD"

inductive ReservationState
  | reserved
  | settled
  | released
  | outcomeUnknown
  deriving DecidableEq

/-- What a mirrored charge is recorded under: a resource, or the marker of an empty charge. -/
inductive MirrorKind
  | resource (kind : ResourceKind)
  | noCharge
  deriving DecidableEq

/-- An attribution document: the members of a JSON object whose values are strings or null. -/
abbrev Attribution := List (String × Option String)

def Attribution.get (a : Attribution) (name : String) : Option String := (a.lookup name).join

/-- The documents whose SHA-256 digest serves as an identity or a fingerprint. -/
inductive Document
  /-- `UserToolQuotaService._identity`. -/
  | toolIdentity (version invocationId : String)
  /-- `UserBudgetDualAccountingService._mirror_identity`. -/
  | mirrorIdentity (version ownerUserId taskId taskBudgetKind reservationKey : String)
      (resourceKind : MirrorKind)
  /-- `UserBudgetReservationIntent.payload_fingerprint`. -/
  | reservation (kind : ResourceKind) (amount : ℤ) (capabilityId : Option String)
      (attribution : Attribution)
  /-- `UserToolQuotaService._task_budget_tool_fingerprint`. -/
  | taskBudgetTool (executionId toolCallId capabilityId : String)
      (arguments : List (String × String))
  /-- `UserBudgetDualAccountingService.shadow_policy`. -/
  | shadowPolicy (ownerUserId policyVersion : String) (windowDurationSeconds : ℤ)
  /-- `UserBudgetPolicy.policy_fingerprint` of a policy without limits. -/
  | unboundedPolicy (policyId ownerUserId policyVersion : String) (windowDurationSeconds : ℤ)
  /-- `UserInferenceQuotaService._reservation_identity`. -/
  | inferenceIdentity (version logicalRequestId : String) (kind : ResourceKind)
  /-- `UserInferenceQuotaService.estimator_identity`. -/
  | estimator (version : String) (defaultOutputTokenReservation : Option ℤ)
  /-- `UserInferenceQuotaService.normalization_identity`. -/
  | usageNormalization (version : String)
  /-- `UserInferenceQuotaService.logical_fingerprint`. -/
  | logicalRequest (version semantics sourceSurface : String) (lineage : Attribution)
      (estimatorPolicy usageNormalization : String) (streamingMode : Bool)
  /-- `UserInferenceQuotaService._task_budget_inference_fingerprint`. -/
  | taskBudgetInference (requestId : String)
  deriving DecidableEq

/-! ### Rows -/

structure PolicyRow where
  policyId : String
  ownerUserId : String
  policyVersion : String
  policyFingerprint : String
  windowDurationSeconds : ℤ
  maxComputeAtomic : Option ℤ := none
  maxInferenceCalls : Option ℤ := none
  maxInputTokens : Option ℤ := none
  maxOutputTokens : Option ℤ := none
  maxTotalTokens : Option ℤ := none
  maxToolCallsTotal : Option ℤ := none
  defaultPerToolLimit : Option ℤ := none
  toolLimits : List (String × ℤ)
  maxCostUsdAtomic : Option ℤ := none
  deriving DecidableEq

structure AccountRow where
  ownerUserId : String
  revision : ℤ
  nextPolicyId : Option String
  activeWindowEpoch : Option ℤ
  nextWindowEpoch : ℤ
  deriving DecidableEq

structure WindowCounters where
  computeUsedAtomic : ℤ := 0
  computeReservedAtomic : ℤ := 0
  inferenceUsed : ℤ := 0
  inferenceReserved : ℤ := 0
  inputTokensUsed : ℤ := 0
  outputTokensUsed : ℤ := 0
  totalTokensUsed : ℤ := 0
  tokensReserved : ℤ := 0
  toolCallsUsed : ℤ := 0
  toolCallsReserved : ℤ := 0
  costUsedAtomic : ℤ := 0
  costReservedAtomic : ℤ := 0
  deriving DecidableEq

/-- A row of `user_budget_windows`.  Instants are integers on the authoritative UTC clock. -/
structure WindowRow where
  ownerUserId : String
  epoch : ℤ
  state : WindowState
  governingPolicyId : String
  governingPolicyVersion : String
  governingPolicyFingerprint : String
  startedAt : ℤ
  expiresAt : ℤ
  counters : WindowCounters
  revision : ℤ
  closedAt : Option ℤ := none
  deriving DecidableEq

structure ToolUsageRow where
  ownerUserId : String
  windowEpoch : ℤ
  capabilityId : String
  usedCalls : ℤ
  reservedCalls : ℤ
  revision : ℤ
  deriving DecidableEq

structure ReservationRow where
  reservationId : String
  ownerUserId : String
  windowEpoch : ℤ
  idempotencyKey : String
  resourceKind : ResourceKind
  capabilityId : Option String
  reservedAmountAtomic : ℤ
  settledAmountAtomic : Option ℤ
  state : ReservationState
  attribution : Attribution
  payloadFingerprint : String
  revision : ℤ
  settledAt : Option ℤ
  deriving DecidableEq

/-- A row of `user_budget_task_bindings`; its `source_*` columns are read by no modelled
function. -/
structure TaskBindingRow where
  taskId : String
  ownerUserId : String
  enrollmentVersion : String
  resolutionFingerprint : String
  deriving DecidableEq

/-- A row of `user_budget_dual_accounting_receipts`. -/
structure ReceiptRow where
  bridgeReceiptId : String
  ownerUserId : String
  taskId : String
  taskBudgetKind : String
  taskBudgetReservationKey : String
  mirrorDimension : MirrorKind
  sourcePayloadFingerprint : String
  windowEpoch : Option ℤ
  ubqReservationId : Option String
  ubqIdempotencyKey : Option String
  ubqPayloadFingerprint : Option String
  amountAtomic : ℤ
  capabilityId : Option String
  deriving DecidableEq

/-! ### Tables -/

def WindowRow.key (w : WindowRow) : String × ℤ := (w.ownerUserId, w.epoch)

def ToolUsageRow.key (u : ToolUsageRow) : String × ℤ × String :=
  (u.ownerUserId, u.windowEpoch, u.capabilityId)

/-- The columns of `uq_ubq2_bridge_source_dimension`. -/
def ReceiptRow.source (r : ReceiptRow) : String × String × String × MirrorKind :=
  (r.taskId, r.taskBudgetKind, r.taskBudgetReservationKey, r.mirrorDimension)

/-- The columns of `uq_user_budget_reservation_owner_idempotency`. -/
def ReservationRow.ownerKey (r : ReservationRow) : String × String :=
  (r.ownerUserId, r.idempotencyKey)

structure Db where
  policies : Table PolicyRow.policyId := ∅
  accounts : Table AccountRow.ownerUserId := ∅
  windows : Table WindowRow.key := ∅
  toolUsage : Table ToolUsageRow.key := ∅
  reservations : Table ReservationRow.reservationId := ∅
  taskBindings : Table TaskBindingRow.taskId := ∅
  receipts : Table ReceiptRow.bridgeReceiptId := ∅
  deriving DecidableEq

/-! ### Failures -/

/-- The exception classes that can leave a unit of work. -/
inductive FailureClass
  | userBudgetConflict
  | userBudgetIntegrity
  | policyAuthorityConflict
  | bindingDrift
  | ownerUnresolved
  | parentUnbound
  | parentOwnerMismatch
  | toolQuotaExceeded
  | toolCapabilityQuotaExceeded
  | toolQuotaConflict
  | inferenceQuotaContext
  | inferenceQuotaConflict
  | inferenceQuotaExceeded
  | tokenQuotaExceeded
  | computeQuotaExceeded
  | costQuotaExceeded
  | inferenceEstimateUnavailable
  | valueError
  | keyError
  /-- The database refused a row: `sqlalchemy.exc.IntegrityError`. -/
  | databaseIntegrity
  deriving DecidableEq

structure Failure where
  cls : FailureClass
  message : String
  deriving DecidableEq

abbrev Tx := Uow Db Failure

end AssistantRuntime.UserBudget

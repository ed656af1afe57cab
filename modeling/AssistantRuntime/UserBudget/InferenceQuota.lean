/-
**Inference quota admission and settlement.**

A logical inference is charged in up to six resources at once: the call itself, its input, output and
total tokens and, where the policy limits them, compute units and cost.  An admission stores one
reservation per resource, all in the active window, and adds them to the counters of the window; a
settlement moves those whose usage is known from reserved to used, and may be repeated when more is
known.  Input and output tokens have no counter for what is reserved, so an admission adds up their
pending reservations.

Every function below is the body of one attempt of the retry loop of `UserInferenceQuotaService`.
-/

import AssistantRuntime.UserBudget.ToolQuota

namespace AssistantRuntime.UserBudget

open Relational Uow

/-! ### Requests -/

structure InferenceQuotaSettings where
  enabled : Bool := false
  estimatorPolicyVersion : String := "ubq4-estimator-v1"
  usageNormalizationVersion : String := "ubq4-usage-v1"
  defaultOutputTokenReservation : Option ℤ := none

structure InferenceContext where
  budgetIdentity : Identity
  logicalRequestId : String
  logicalRequestFingerprint : Option String := none
  sourceSurface : String
  ownerUserId : Option String := none
  sessionId : Option String := none
  taskId : Option String := none
  executionId : Option String := none
  workflowId : Option String := none
  iteration : Option ℤ := none
  agentIterationId : Option String := none
  outerRequestId : Option String := none
  capabilityInvocationId : Option String := none
  estimatorPolicyIdentity : String
  usageNormalizationIdentity : String

/-- The body of a request, as far as the quota reads it. -/
structure InferenceBody where
  /-- The canonical encoding of model, messages, tools and semantic config. -/
  semantics : String
  /-- The length of the canonical encoding of messages and tools, in bytes. -/
  encodedLength : ℕ
  /-- `max_tokens` of the config: absent, an integer, or something else. -/
  maxTokens : Option (Option ℤ) := none

/-- `InferenceQuotaEstimate`, with compute units and cost in atomic units. -/
structure InferenceEstimate where
  inputTokens : ℤ
  outputTokens : ℤ
  totalTokens : ℤ
  computeUnits : Option ℤ := none
  costUsd : Option ℤ := none

/-- `NormalizedInferenceUsage`, with compute units and cost in atomic units; provider and model are
attribution only. -/
structure InferenceUsage where
  inputTokens : Option ℤ := none
  outputTokens : Option ℤ := none
  totalTokens : Option ℤ := none
  computeUnits : Option ℤ := none
  costUsd : Option ℤ := none
  normalizationIdentity : String

structure InferenceAdmission where
  ownerUserId : String
  logicalRequestId : String
  logicalRequestFingerprint : String
  windowEpoch : ℤ
  reservationKeys : List (ResourceKind × String)
  replayed : Bool := false
  inferenceReservationState : ReservationState := .reserved
  deriving DecidableEq

def ubq4ReservationVersion : String := "ubq4-v1"

def ubq4FingerprintVersion : String := "ubq4-logical-fingerprint-v1"

def inferenceQuotaConflict (message : String) : Failure := ⟨.inferenceQuotaConflict, message⟩

/-- The request around the inference; it may change when a skill is continued. -/
def InferenceContext.stableOuterRequest (context : InferenceContext) : Option String :=
  if context.sourceSurface = "SKILL" ∧ context.capabilityInvocationId.isSome then none
  else context.outerRequestId

/-- The scope of a logical request.  The iteration stands for its decimal text. -/
def InferenceContext.lineage (context : InferenceContext) : Attribution :=
  [("session_id", context.sessionId), ("task_id", context.taskId),
    ("execution_id", context.executionId), ("workflow_id", context.workflowId),
    ("iteration", context.iteration.map toString),
    ("agent_iteration_id", context.agentIterationId),
    ("outer_request_id", context.stableOuterRequest),
    ("capability_invocation_id", context.capabilityInvocationId)]

def InferenceContext.attribution (context : InferenceContext) (fingerprint : String)
    (kind : ResourceKind) : Attribution :=
  [("version", some ubq4ReservationVersion),
    ("logical_request_id", some context.logicalRequestId),
    ("logical_request_fingerprint", some fingerprint), ("resource_kind", some kind.value),
    ("source_surface", some context.sourceSurface)] ++ context.lineage ++
  [("estimator_policy_identity", some context.estimatorPolicyIdentity),
    ("usage_normalization_identity", some context.usageNormalizationIdentity)]

section Service

variable (sha : Document → String)

def InferenceQuotaSettings.estimatorIdentity (settings : InferenceQuotaSettings) : String :=
  "ubq4-estimator:" ++ settings.estimatorPolicyVersion ++ ":" ++
    sha (.estimator settings.estimatorPolicyVersion settings.defaultOutputTokenReservation)

def InferenceQuotaSettings.normalizationIdentity (settings : InferenceQuotaSettings) : String :=
  "ubq4-usage:" ++ settings.usageNormalizationVersion ++ ":" ++
    sha (.usageNormalization settings.usageNormalizationVersion)

def logicalFingerprint (settings : InferenceQuotaSettings) (body : InferenceBody)
    (context : InferenceContext) (streamingMode : Bool) : Tx String := do
  ensure (context.estimatorPolicyIdentity = settings.estimatorIdentity sha ∧
      context.usageNormalizationIdentity = settings.normalizationIdentity sha)
    ⟨.inferenceQuotaContext, "quota policy/normalization identity drifted"⟩
  let value := sha (.logicalRequest ubq4FingerprintVersion body.semantics context.sourceSurface
    context.lineage context.estimatorPolicyIdentity context.usageNormalizationIdentity
    streamingMode)
  ensure (∀ supplied ∈ context.logicalRequestFingerprint, supplied = value)
    (inferenceQuotaConflict
      "supplied logical request fingerprint disagrees with canonical recomputation")
  return value

/-! ### Estimates -/

/-- The bound on the output of a request: its own, or the one of the server. -/
def outputTokenBound (settings : InferenceQuotaSettings) (body : InferenceBody) : Tx ℤ :=
  match body.maxTokens with
  | none =>
    expect settings.defaultOutputTokenReservation
      ⟨.inferenceEstimateUnavailable,
        "output-token upper bound is unavailable; request max_tokens or configure a " ++
          "server-owned safe default"⟩
  | some maxTokens =>
    expect (maxTokens.filter (0 < ·))
      ⟨.inferenceEstimateUnavailable, "max_tokens must be a positive integer"⟩

/-- `_estimate`: one token per byte of input; compute units and cost have no estimator. -/
def estimateInference (settings : InferenceQuotaSettings) (body : InferenceBody) :
    Tx InferenceEstimate := do
  let inputTokens : ℤ := max 1 (body.encodedLength : ℤ)
  let outputTokens ← outputTokenBound settings body
  return { inputTokens, outputTokens, totalTokens := inputTokens + outputTokens }

/-- The estimate of a resource that only some policies limit. -/
def optionalAmount (kind : ResourceKind) (included : Bool) (estimate : Option ℤ)
    (missing : String) : Tx (List (ResourceKind × ℤ)) :=
  if included then do
    let amount ← expect estimate ⟨.inferenceEstimateUnavailable, missing⟩
    ensure (0 < amount ∧ amount ≤ userBudgetInt64Max)
      ⟨.valueError, "user budget atomic value must be positive and <= signed BIGINT max"⟩
    return [(kind, amount)]
  else return []

/-- `_amounts`, under the policy of the window. -/
def inferenceAmounts (estimate : InferenceEstimate) (policy : PolicyRow) :
    Tx (List (ResourceKind × ℤ)) := do
  let compute ← optionalAmount .computeUnit policy.maxComputeAtomic.isSome estimate.computeUnits
    "finite/recorded compute quota has no server-owned estimator"
  let cost ← optionalAmount .costUsd policy.maxCostUsdAtomic.isSome estimate.costUsd
    "finite/recorded cost quota has no server-owned estimator"
  return [(.inferenceCall, 1), (.inputToken, estimate.inputTokens),
    (.outputToken, estimate.outputTokens), (.totalToken, estimate.totalTokens)] ++ compute ++ cost

/-! ### Reservations -/

/-- `_reservation_identity`: the idempotency key. -/
def inferenceIdempotencyKey (logicalRequestId : String) (kind : ResourceKind) : String :=
  "ubq4:v1:" ++ sha (.inferenceIdentity ubq4ReservationVersion logicalRequestId kind)

def inferenceReservationId (logicalRequestId : String) (kind : ResourceKind) : String :=
  "ubq4r:" ++ sha (.inferenceIdentity ubq4ReservationVersion logicalRequestId kind)

def InferenceContext.intent (context : InferenceContext) (owner : String) (windowEpoch : ℤ)
    (fingerprint : String) (kind : ResourceKind) (amount : ℤ) : ReservationIntent where
  reservationId := inferenceReservationId sha context.logicalRequestId kind
  ownerUserId := owner
  windowEpoch := windowEpoch
  idempotencyKey := inferenceIdempotencyKey sha context.logicalRequestId kind
  resourceKind := kind
  reservedAmountAtomic := amount
  attribution := context.attribution fingerprint kind

/-- `_verify_row`: the row is the reservation that the intent asks for. -/
def verifyInferenceRow (row : ReservationRow) (intent : ReservationIntent) : Tx Unit :=
  ensure (row.reservationId = intent.reservationId ∧ row.ownerUserId = intent.ownerUserId ∧
      row.windowEpoch = intent.windowEpoch ∧ row.idempotencyKey = intent.idempotencyKey ∧
      row.resourceKind = intent.resourceKind ∧
      row.reservedAmountAtomic = intent.reservedAmountAtomic ∧
      row.payloadFingerprint = intent.payloadFingerprint sha)
    (inferenceQuotaConflict
      "logical inference reservation replay conflicts with canonical payload")

def IsLogicalRequest (row : ReservationRow) (logicalRequestId fingerprint : String) : Prop :=
  row.attribution.get "logical_request_fingerprint" = some fingerprint ∧
    row.attribution.get "logical_request_id" = some logicalRequestId
  deriving Decidable

/-! ### Admission -/

def replayKinds (context : InferenceContext) (owner fingerprint : String) (windowEpoch : ℤ) :
    List (ResourceKind × ℤ) → Tx (List (ResourceKind × String))
  | [] => return []
  | (kind, amount) :: rest => do
    let key := inferenceIdempotencyKey sha context.logicalRequestId kind
    let row ← expect (← reads (·.getReservation owner key))
      (inferenceQuotaConflict "logical inference replay has a partial reservation set")
    let intent := context.intent sha owner windowEpoch fingerprint kind amount
    ensure intent.Valid ⟨.valueError, "UserBudgetReservationIntent"⟩
    verifyInferenceRow sha row intent
    return (kind, key) :: (← replayKinds context owner fingerprint windowEpoch rest)

/-- The answer to a request that already has its reservations. -/
def replayInference (context : InferenceContext) (estimate : InferenceEstimate)
    (owner fingerprint : String) (existing : ReservationRow) : Tx InferenceAdmission := do
  ensure (IsLogicalRequest existing context.logicalRequestId fingerprint)
    (inferenceQuotaConflict "request id replay has different logical semantics")
  let window ← expect (← reads (·.getWindow owner existing.windowEpoch))
    (inferenceQuotaConflict "replayed inference reservation lost its window")
  let policy ← expect (← reads (·.getPolicy owner window.governingPolicyId))
    ⟨.policyAuthorityConflict, "replayed inference window lost policy authority"⟩
  let amounts ← inferenceAmounts estimate policy
  let keys ← replayKinds sha context owner fingerprint existing.windowEpoch amounts
  return {
    ownerUserId := owner
    logicalRequestId := context.logicalRequestId
    logicalRequestFingerprint := fingerprint
    windowEpoch := existing.windowEpoch
    reservationKeys := keys
    replayed := true
    inferenceReservationState := existing.state }

/-- The agent and task budget rows that prove an earlier charge of an inference. -/
structure InferenceLineage where
  /-- The incarnation of a task's budget. -/
  taskBudget : String → Option ℤ
  /-- The payload fingerprint of a task budget reservation. -/
  taskBudgetReservation : String → String → String → ℤ → Option String
  /-- The execution and the inference request of an iteration. -/
  iteration : String → Option (String × String)

/-- The mirrored charge of an inference is complete. -/
def HistoricalCharge (lineage : InferenceLineage) (owner taskId : String)
    (context : InferenceContext) (bridge : ReceiptRow) (db : Db) : Prop :=
  let expected := sha (.taskBudgetInference context.logicalRequestId)
  let source := (lineage.taskBudget taskId).bind fun generation =>
    lineage.taskBudgetReservation taskId "INFERENCE" context.logicalRequestId generation
  let mirrored := bridge.ubqIdempotencyKey.bind (db.getReservation owner)
  (db.getTaskBinding taskId).any (·.ownerUserId = owner) ∧ source = some expected ∧
    bridge.sourcePayloadFingerprint = expected ∧ bridge.ownerUserId = owner ∧
    bridge.amountAtomic = 1 ∧
    mirrored.any (fun m => some m.reservationId = bridge.ubqReservationId ∧
      some m.windowEpoch = bridge.windowEpoch ∧ m.resourceKind = .inferenceCall ∧
      some m.payloadFingerprint = bridge.ubqPayloadFingerprint ∧ m.state = .settled ∧
      m.settledAmountAtomic.getD 0 = 1) ∧
    ((context.agentIterationId.bind lineage.iteration).any fun i =>
      some i.1 = context.executionId ∧ i.2 = context.logicalRequestId)
  deriving Decidable

/-- `_require_no_unmigrated_historical_inference_in_uow`: an inference that was mirrored before is
refused, whether or not its lineage is complete. -/
def requireNoHistoricalInference (lineage : InferenceLineage) (owner : String)
    (context : InferenceContext) : Tx Unit := do
  match context.taskId with
  | none => return ()
  | some taskId =>
    match ← reads (·.getDualAccountingReceipt taskId "INFERENCE" context.logicalRequestId
        (.resource .inferenceCall)) with
    | none => return ()
    | some bridge =>
      ensure (← reads fun db => decide (HistoricalCharge sha lineage owner taskId context bridge db))
        (inferenceQuotaConflict
          "historical UBQ-2 inference bridge has incomplete or conflicting durable lineage")
      abort (inferenceQuotaConflict ("historical UBQ-2 inference charge is proven but " ++
        "cross-window UBQ-4 suppression is not enabled; defer instead of double-charge"))

def resolveInferenceOwner (directory : Directory) (context : InferenceContext) : Tx String := do
  let owner ← resolveBudgetOwner directory context.budgetIdentity
  ensure (∀ o ∈ context.ownerUserId, o = owner)
    ⟨.inferenceQuotaContext, "compatibility owner_user_id disagrees with resolved budget owner"⟩
  let binding ← reads fun db => context.taskId.bind db.getTaskBinding
  ensure (∀ b ∈ binding, b.ownerUserId = owner)
    ⟨.bindingDrift, "resolved inference quota owner disagrees with Task binding"⟩
  return owner

end Service

/-- `sum_pending_reservation_amount`: what is reserved of a resource in a window. -/
def Db.pendingAmount (db : Db) (kind : ResourceKind) (owner : String) (epoch : ℤ) : ℤ :=
  db.reservations.total fun r =>
    if r.resourceKind = kind ∧ r.state = .reserved ∧ r.ownerUserId = owner ∧ r.windowEpoch = epoch
    then r.reservedAmountAtomic else 0

def sumPendingReservationAmount (owner : String) (epoch : ℤ) (kind : ResourceKind) : Tx ℤ := do
  let amount ← reads (·.pendingAmount kind owner epoch)
  ensure (IsAtomicCounter amount)
    ⟨.valueError, "user budget counter exceeds signed BIGINT domain"⟩
  return amount

/-- What an admission asks for, against one maximum of the policy. -/
def requireWithin (limit : Option ℤ) (used reserved amount : ℤ) (cls : FailureClass)
    (message : String) : Tx Unit :=
  ensure (∀ max ∈ limit, used + reserved + amount ≤ max) ⟨cls, message⟩

def amountOf (kind : ResourceKind) (amounts : List (ResourceKind × ℤ)) : ℤ :=
  (amounts.lookup kind).getD 0

/-- The checks of an admission, in the order of the source. -/
def requireInferenceQuota (policy : PolicyRow) (c : WindowCounters) (pendingInput pendingOutput : ℤ)
    (estimate : InferenceEstimate) (amounts : List (ResourceKind × ℤ)) : Tx Unit := do
  requireWithin policy.maxInferenceCalls c.inferenceUsed c.inferenceReserved 1
    .inferenceQuotaExceeded "logical inference-call quota exhausted"
  requireWithin policy.maxInputTokens c.inputTokensUsed pendingInput estimate.inputTokens
    .tokenQuotaExceeded "input-token quota exhausted"
  requireWithin policy.maxOutputTokens c.outputTokensUsed pendingOutput estimate.outputTokens
    .tokenQuotaExceeded "output-token quota exhausted"
  requireWithin policy.maxTotalTokens c.totalTokensUsed c.tokensReserved estimate.totalTokens
    .tokenQuotaExceeded "total-token quota exhausted"
  requireWithin policy.maxComputeAtomic c.computeUsedAtomic c.computeReservedAtomic
    (amountOf .computeUnit amounts) .computeQuotaExceeded "compute-unit quota exhausted"
  requireWithin policy.maxCostUsdAtomic c.costUsedAtomic c.costReservedAtomic
    (amountOf .costUsd amounts) .costQuotaExceeded "cost quota exhausted"

section Admission

variable (sha : Document → String)

def reserveKinds (context : InferenceContext) (owner fingerprint : String) (windowEpoch : ℤ) :
    List (ResourceKind × ℤ) → Tx (List (ResourceKind × String))
  | [] => return []
  | (kind, amount) :: rest => do
    let intent := context.intent sha owner windowEpoch fingerprint kind amount
    ensure intent.Valid ⟨.valueError, "UserBudgetReservationIntent"⟩
    let row ← createOrGetReservation sha intent
    verifyInferenceRow sha row intent
    return (kind, intent.idempotencyKey) ::
      (← reserveKinds context owner fingerprint windowEpoch rest)

/-- The counters that a new admission moves; those it does not ask for stay unnamed. -/
def reservedTargets (c : WindowCounters) (estimate : InferenceEstimate)
    (amounts : List (ResourceKind × ℤ)) : WindowTargets where
  inferenceReserved := some (c.inferenceReserved + 1)
  tokensReserved := some (c.tokensReserved + estimate.totalTokens)
  computeReservedAtomic :=
    let amount := amountOf .computeUnit amounts
    if amount ≠ 0 then some (c.computeReservedAtomic + amount) else none
  costReservedAtomic :=
    let amount := amountOf .costUsd amounts
    if amount ≠ 0 then some (c.costReservedAtomic + amount) else none

/-- The part of `reserve` after the replay lookup has failed. -/
def admitInference (context : InferenceContext) (estimate : InferenceEstimate)
    (owner fingerprint : String) (account : AccountRow) (now : ℤ) : Tx InferenceAdmission := do
  let window ← currentWindow owner account now
  let policy ← expect ((← reads (·.getPolicy owner window.governingPolicyId)).filter
      fun p => p.policyFingerprint = window.governingPolicyFingerprint)
    ⟨.policyAuthorityConflict, "active inference window has invalid policy authority"⟩
  ensure (isRecognizedShadowPolicy sha policy = false)
    ⟨.policyAuthorityConflict,
      "automatic UBQ-2 shadow policy cannot authorize canonical inference quota admission"⟩
  let amounts ← inferenceAmounts estimate policy
  let pendingInput ← sumPendingReservationAmount owner window.epoch .inputToken
  let pendingOutput ← sumPendingReservationAmount owner window.epoch .outputToken
  requireInferenceQuota policy window.counters pendingInput pendingOutput estimate amounts
  let keys ← reserveKinds sha context owner fingerprint window.epoch amounts
  let _ ← mutateWindowUsage owner window.epoch window.revision
    (reservedTargets window.counters estimate amounts)
  return {
    ownerUserId := owner
    logicalRequestId := context.logicalRequestId
    logicalRequestFingerprint := fingerprint
    windowEpoch := window.epoch
    reservationKeys := keys }

def reserveEstimated (directory : Directory) (lineage : InferenceLineage)
    (context : InferenceContext) (estimate : InferenceEstimate) (fingerprint : String) (now : ℤ) :
    Tx InferenceAdmission := do
  let owner ← resolveInferenceOwner directory context
  let key := inferenceIdempotencyKey sha context.logicalRequestId .inferenceCall
  match ← reads (·.getReservation owner key) with
  | some existing => replayInference sha context estimate owner fingerprint existing
  | none =>
    requireNoHistoricalInference sha lineage owner context
    -- the second lookup, under the lock on the account, finds what the first one found
    let account ← expect
      ((← reads (·.getAccount owner)).filter fun a => a.nextPolicyId ≠ none)
      ⟨.policyAuthorityConflict, "inference quota owner has no selected UBQ policy"⟩
    admitInference sha context estimate owner fingerprint account now

def reserveInference (settings : InferenceQuotaSettings) (directory : Directory)
    (lineage : InferenceLineage) (context : Option InferenceContext) (body : InferenceBody)
    (streamingMode : Bool) (now : ℤ) : Tx (Option InferenceAdmission) := do
  if settings.enabled = false then return none
  else
    let context ← expect context
      ⟨.inferenceQuotaContext, "governed inference is missing trusted quota context"⟩
    let fingerprint ← logicalFingerprint sha settings body context streamingMode
    let estimate ← estimateInference settings body
    return some (← reserveEstimated sha directory lineage context estimate fingerprint now)

end Admission

/-! ### Settlement -/

/-- What is known of the use of a resource; a tool call is no part of an inference. -/
def InferenceUsage.actual (usage : InferenceUsage) : ResourceKind → Option (Option ℤ)
  | .inferenceCall => some (some 1)
  | .inputToken => some usage.inputTokens
  | .outputToken => some usage.outputTokens
  | .totalToken => some usage.totalTokens
  | .computeUnit => some usage.computeUnits
  | .costUsd => some usage.costUsd
  | .toolCall => none

/-- A reservation that a settlement moves, and what was used of it. -/
structure Settled where
  row : ReservationRow
  kind : ResourceKind
  actual : ℤ

/-- What the loop of `settle_success` does with one reservation. -/
def settleKind (admission : InferenceAdmission) (usage : InferenceUsage) (kind : ResourceKind)
    (key : String) : Tx (Option Settled) := do
  let row ← expect (← reads (·.getReservation admission.ownerUserId key))
    (inferenceQuotaConflict ("missing reservation for " ++ kind.value))
  ensure (IsLogicalRequest row admission.logicalRequestId admission.logicalRequestFingerprint)
    (inferenceQuotaConflict "settlement reservation lineage mismatch")
  let actual ← expect (usage.actual kind) ⟨.keyError, kind.value⟩
  match actual with
  -- what is not known stays reserved
  | none => return none
  | some actual =>
    ensure (0 ≤ actual) (inferenceQuotaConflict "normalized usage cannot be negative")
    if row.state = .settled then
      ensure (row.settledAmountAtomic.getD 0 = actual)
        (inferenceQuotaConflict "settled replay has different actual usage")
      return none
    else
      ensure (row.state = .reserved)
        (inferenceQuotaConflict "quota reservation is terminal/incompatible")
      return some ⟨row, kind, actual⟩

def settleKinds (admission : InferenceAdmission) (usage : InferenceUsage) :
    List (ResourceKind × String) → Tx (List Settled)
  | [] => return []
  | (kind, key) :: rest => do
    let settled ← settleKind admission usage kind key
    return settled.toList ++ (← settleKinds admission usage rest)

/-- What a settlement adds to the used counter of a resource. -/
def usedDelta (transitions : List Settled) (kind : ResourceKind) : ℤ :=
  ((transitions.filter (·.kind = kind)).map (·.actual)).sum

/-- What a settlement takes from the reserved counter of a resource. -/
def reservedDecrement (transitions : List Settled) (kind : ResourceKind) : ℤ :=
  ((transitions.filter (·.kind = kind)).map (·.row.reservedAmountAtomic)).sum

/-- The target of a counter that is named only where it moves. -/
def shiftedTarget (current delta : ℤ) : Option ℤ :=
  if delta ≠ 0 then some (current + delta) else none

def settledTargets (c : WindowCounters) (transitions : List Settled) : WindowTargets where
  inferenceUsed := shiftedTarget c.inferenceUsed (usedDelta transitions .inferenceCall)
  inputTokensUsed := shiftedTarget c.inputTokensUsed (usedDelta transitions .inputToken)
  outputTokensUsed := shiftedTarget c.outputTokensUsed (usedDelta transitions .outputToken)
  totalTokensUsed := shiftedTarget c.totalTokensUsed (usedDelta transitions .totalToken)
  computeUsedAtomic := shiftedTarget c.computeUsedAtomic (usedDelta transitions .computeUnit)
  costUsedAtomic := shiftedTarget c.costUsedAtomic (usedDelta transitions .costUsd)
  inferenceReserved :=
    shiftedTarget c.inferenceReserved (- reservedDecrement transitions .inferenceCall)
  tokensReserved := shiftedTarget c.tokensReserved (- reservedDecrement transitions .totalToken)
  computeReservedAtomic :=
    shiftedTarget c.computeReservedAtomic (- reservedDecrement transitions .computeUnit)
  costReservedAtomic :=
    shiftedTarget c.costReservedAtomic (- reservedDecrement transitions .costUsd)

def WindowCounters.reservedColumns (c : WindowCounters) : List (String × ResourceKind × ℤ) :=
  [("inference_reserved", .inferenceCall, c.inferenceReserved),
    ("tokens_reserved", .totalToken, c.tokensReserved),
    ("compute_reserved_atomic", .computeUnit, c.computeReservedAtomic),
    ("cost_reserved_atomic", .costUsd, c.costReservedAtomic)]

def reservedUnderflow (field : String) : Failure :=
  inferenceQuotaConflict ("reserved counter underflow: " ++ field)

def requireNoUnderflow (transitions : List Settled) :
    List (String × ResourceKind × ℤ) → Tx Unit
  | [] => return ()
  | (field, kind, current) :: rest => do
    ensure (reservedDecrement transitions kind ≠ 0 → reservedDecrement transitions kind ≤ current)
      (reservedUnderflow field)
    requireNoUnderflow transitions rest

def settleRows (owner : String) (now : ℤ) : List Settled → Tx Unit
  | [] => return ()
  | s :: rest => do
    let _ ← transitionReservation owner s.row.idempotencyKey s.row.revision .settled
      (some s.actual) (some now)
    settleRows owner now rest

def settleWindow (owner : String) (epoch : ℤ) (window : WindowRow) (transitions : List Settled) :
    Tx Unit := do
  let targets := settledTargets window.counters transitions
  if targets.supplied = [] then return ()
  else
    let _ ← mutateWindowUsage owner epoch window.revision targets

def settleSuccess (sha : Document → String) (settings : InferenceQuotaSettings)
    (admission : Option InferenceAdmission) (usage : InferenceUsage) (now : ℤ) : Tx Unit := do
  match admission with
  | none => return ()
  | some admission =>
    ensure (usage.normalizationIdentity = settings.normalizationIdentity sha)
      (inferenceQuotaConflict "usage normalization identity mismatch")
    ensure (∀ amount ∈ [usage.computeUnits, usage.costUsd].reduceOption, IsAtomicCounter amount)
      ⟨.valueError, "user budget atomic value must be non-negative and <= signed BIGINT max"⟩
    let window ← expect
      (← reads (·.getWindow admission.ownerUserId admission.windowEpoch))
      (inferenceQuotaConflict "inference settlement window is missing")
    let transitions ← settleKinds admission usage admission.reservationKeys
    requireNoUnderflow transitions window.counters.reservedColumns
    settleWindow admission.ownerUserId admission.windowEpoch window transitions
    settleRows admission.ownerUserId now transitions

end AssistantRuntime.UserBudget

/-
**Tool-call quota admission and dual accounting.**

A logical tool call is charged to its owner in two steps: an admission reserves one call in the
window, in the usage row of the capability and as a reservation row, and a terminal transition
settles or releases it.  `UserToolQuotaService` implements the two steps; the mirror of
`UserBudgetDualAccountingService` charges a call that a task budget has already admitted, in one
step.  Every function below is the body of one attempt of the service's retry loop: a lost
compare-and-set aborts the attempt and leaves nothing behind.
-/

import AssistantRuntime.UserBudget.Repository

namespace AssistantRuntime.UserBudget

open Relational Uow

/-! ### Owners -/

inductive AuthType
  | adminKey
  | guest
  | apiKey
  | userSession
  deriving DecidableEq

/-- The authenticated principal of a request. -/
structure Identity where
  authType : AuthType
  userId : Option String
  apiKeyId : Option String
  applicationId : Option String
  organizationId : Option String

/-- The account directory, as far as owner resolution reads it. -/
structure Directory where
  hasUser : String → Bool
  /-- The application of an API key, and whether the key is active. -/
  apiKey : String → Option (String × Bool)
  application : String → Option String
  organization : String → Option String

def ownerUnresolved (message : String) : Failure := ⟨.ownerUnresolved, message⟩

/-- `resolve_budget_owner_in_uow`: the user itself, or the owner of the organization behind an
active API key. -/
def resolveBudgetOwner (directory : Directory) (identity : Identity) : Tx String := do
  ensure (identity.authType ≠ .adminKey ∧ identity.authType ≠ .guest)
    (ownerUnresolved "principal type cannot own renewable user budget")
  match identity.userId.filter (· ≠ "") with
  | some userId =>
    ensure (directory.hasUser userId = true)
      (ownerUnresolved "identity user_id has no durable User")
    return userId
  | none =>
    let apiKeyId ← expect
      (if identity.authType = .apiKey then identity.apiKeyId.filter (· ≠ "") else none)
      (ownerUnresolved "principal has no canonical renewable budget owner")
    let key ← expect ((directory.apiKey apiKeyId).filter (·.2))
      (ownerUnresolved "API key identity is missing or inactive")
    let organizationId ← expect (directory.application key.1)
      (ownerUnresolved "API key application is missing")
    let ownerId ← expect (directory.organization organizationId)
      (ownerUnresolved "API key organization is missing")
    ensure (identity.applicationId.getD "" = key.1 ∧
        identity.organizationId.getD "" = organizationId)
      (ownerUnresolved "authenticated API key lineage disagrees with durable lineage")
    ensure (directory.hasUser ownerId = true)
      (ownerUnresolved "organization owner has no durable User")
    return ownerId

/-- `_resolve_owner_in_uow`: the resolved owner must agree with the binding of the task. -/
def resolveOwner (directory : Directory) (identity : Identity) (taskId : Option String) :
    Tx String := do
  let owner ← resolveBudgetOwner directory identity
  let binding ← reads fun db => taskId.bind db.getTaskBinding
  ensure (∀ b ∈ binding, b.ownerUserId = owner)
    ⟨.bindingDrift, "resolved tool quota owner disagrees with durable Task binding"⟩
  return owner

/-! ### Logical tool calls -/

/-- The durable identity of a logical tool call. -/
structure ToolCall where
  invocationId : String
  capabilityId : String
  requestFingerprint : String
  executionId : Option String := none
  toolCallId : Option String := none
  taskId : Option String := none
  workflowId : Option String := none
  sessionId : Option String := none

def ubq3IdempotencyVersion : String := "ubq3-v1"

def ToolCall.attribution (call : ToolCall) : Attribution :=
  [("version", some ubq3IdempotencyVersion), ("invocation_id", some call.invocationId),
    ("request_fingerprint", some call.requestFingerprint),
    ("capability_id", some call.capabilityId), ("execution_id", call.executionId),
    ("tool_call_id", call.toolCallId), ("task_id", call.taskId),
    ("workflow_id", call.workflowId), ("session_id", call.sessionId)]

structure ToolQuotaAdmission where
  ownerUserId : String
  invocationId : String
  capabilityId : String
  requestFingerprint : String
  idempotencyKey : Option String := none
  reservationId : Option String
  windowEpoch : Option ℤ := none
  reservationState : ReservationState
  historicalBridge : Bool := false
  deriving DecidableEq

/-- The agent and task budget rows that prove a charge made before the quota was introduced. -/
structure AgentLineage where
  execution : String → Option (Option String)
  /-- Invocation id, tool call id, capability and arguments of a recorded tool call. -/
  toolCall : String → String → Option (String × String × String × List (String × String))
  /-- The incarnation of a task's budget. -/
  taskBudget : String → Option ℤ
  /-- The payload fingerprint of a task budget reservation. -/
  taskBudgetReservation : String → String → String → ℤ → Option String

section Service

variable (sha : Document → String)

/-- `_identity`: the idempotency key of an invocation. -/
def toolIdempotencyKey (invocationId : String) : String :=
  "ubq3:v1:" ++ sha (.toolIdentity ubq3IdempotencyVersion invocationId)

/-- `_identity`: the reservation id of an invocation. -/
def toolReservationId (invocationId : String) : String :=
  "ubq3r:" ++ sha (.toolIdentity ubq3IdempotencyVersion invocationId)

def ToolCall.intent (call : ToolCall) (owner : String) (windowEpoch : ℤ) : ReservationIntent where
  reservationId := toolReservationId sha call.invocationId
  ownerUserId := owner
  windowEpoch := windowEpoch
  idempotencyKey := toolIdempotencyKey sha call.invocationId
  resourceKind := .toolCall
  capabilityId := some call.capabilityId
  reservedAmountAtomic := 1
  attribution := call.attribution

/-- `_verify_direct_reservation`: the row is the reservation of this very call. -/
def verifyDirectReservation (row : ReservationRow) (owner : String) (call : ToolCall) :
    Tx Unit := do
  let intent := call.intent sha owner row.windowEpoch
  ensure intent.Valid ⟨.valueError, "UserBudgetReservationIntent"⟩
  ensure (row.reservationId = intent.reservationId ∧ row.ownerUserId = owner ∧
      row.idempotencyKey = intent.idempotencyKey ∧ row.resourceKind = .toolCall ∧
      row.capabilityId.getD "" = call.capabilityId ∧ row.reservedAmountAtomic = 1 ∧
      row.payloadFingerprint = intent.payloadFingerprint sha)
    ⟨.toolQuotaConflict, "logical invocation conflicts with existing UBQ-3 reservation"⟩

/-- What a verified row is known to be. -/
structure IsDirect (row : ReservationRow) (owner : String) (call : ToolCall) : Prop where
  owner : row.ownerUserId = owner
  kind : row.resourceKind = .toolCall
  capability : row.capabilityId = some call.capabilityId

theorem verifyDirectReservation_ok {row : ReservationRow} {owner : String} {call : ToolCall}
    {db db' : Db} {u : Unit} (h : verifyDirectReservation sha row owner call db = .ok (u, db')) :
    db' = db ∧ IsDirect row owner call := by
  simp only [verifyDirectReservation, steps_ok, ensure_ok, Prod.mk.injEq] at h
  obtain ⟨hvalid, ⟨-, howner, -, hkind, hcap, -, -⟩, -, rfl⟩ := h
  refine ⟨rfl, howner, hkind, ?_⟩
  -- the capability of a valid tool-call intent is not the empty string
  obtain ⟨c, hc, hne⟩ := hvalid.2.2.2.2.2.2.1 rfl
  cases hc
  cases hrow : row.capabilityId with
  | none => exact absurd (by simpa [hrow] using hcap.symm) hne
  | some c => simpa [hrow] using hcap

def ToolQuotaAdmission.direct (row : ReservationRow) (owner : String) (call : ToolCall)
    (state : ReservationState) : ToolQuotaAdmission :=
  { call with
    ownerUserId := owner
    idempotencyKey := some (toolIdempotencyKey sha call.invocationId)
    reservationId := some row.reservationId
    windowEpoch := some row.windowEpoch
    reservationState := state }

def toolQuotaConflict (message : String) : Failure := ⟨.toolQuotaConflict, message⟩

/-! ### The historical bridge -/

/-- `_historical_bridge_admission_in_uow`: a call that a task budget has already charged through
the mirror is admitted by that charge. -/
def historicalBridgeAdmission (lineage : AgentLineage) (owner : String) (call : ToolCall)
    (arguments : List (String × String)) : Tx (Option ToolQuotaAdmission) := do
  let present (o : Option String) := o.filter (· ≠ "")
  match present call.taskId, present call.executionId, present call.toolCallId with
  | some taskId, some executionId, some toolCallId =>
    match ← reads (·.getDualAccountingReceipt taskId "TOOL_CALL" toolCallId
        (.resource .toolCall)) with
    | none => return none
    | some bridge =>
      let incomplete :=
        toolQuotaConflict "historical UBQ-2 bridge has incomplete Agent/TaskBudget lineage"
      let binding ← expect (← reads (·.getTaskBinding taskId)) incomplete
      let executionTask ← expect (lineage.execution executionId) incomplete
      let toolCall ← expect (lineage.toolCall executionId toolCallId) incomplete
      let generation ← expect (lineage.taskBudget taskId) incomplete
      ensure (binding.ownerUserId = owner ∧ executionTask.getD "" = taskId ∧
          toolCall = (call.invocationId, toolCallId, call.capabilityId, arguments))
        (toolQuotaConflict "historical UBQ-2 bridge lineage conflicts with logical invocation")
      let fingerprint := sha (.taskBudgetTool executionId toolCallId call.capabilityId arguments)
      ensure (lineage.taskBudgetReservation taskId "TOOL_CALL" toolCallId generation =
            some fingerprint ∧
          bridge.sourcePayloadFingerprint = fingerprint ∧ bridge.ownerUserId = owner ∧
          bridge.capabilityId.getD "" = call.capabilityId ∧ bridge.amountAtomic = 1 ∧
          bridge.ubqIdempotencyKey ≠ none)
        (toolQuotaConflict "historical UBQ-2 bridge does not prove exact charged lineage")
      let invalid :=
        toolQuotaConflict "historical UBQ-2 bridge references invalid settled reservation"
      let mirrored ← expect
        (← reads fun db => bridge.ubqIdempotencyKey.bind (db.getReservation owner)) invalid
      ensure (some mirrored.reservationId = bridge.ubqReservationId ∧
          some mirrored.windowEpoch = bridge.windowEpoch ∧ mirrored.resourceKind = .toolCall ∧
          mirrored.capabilityId.getD "" = call.capabilityId ∧
          some mirrored.payloadFingerprint = bridge.ubqPayloadFingerprint ∧
          mirrored.state = .settled ∧ mirrored.settledAmountAtomic.getD 0 = 1)
        invalid
      return some
        { call with
          ownerUserId := owner
          idempotencyKey := none
          reservationId := some mirrored.reservationId
          windowEpoch := some mirrored.windowEpoch
          reservationState := .settled
          historicalBridge := true }
  | _, _, _ => return none

/-! ### Shadow policies -/

/-- `is_recognized_shadow_policy`: the automatic policy of the mirror, without any limit. -/
def isRecognizedShadowPolicy (p : PolicyRow) : Bool :=
  p.policyVersion.startsWith "ubq2-shadow-" &&
  ([p.maxComputeAtomic, p.maxInferenceCalls, p.maxInputTokens, p.maxOutputTokens,
    p.maxTotalTokens, p.maxToolCallsTotal, p.defaultPerToolLimit, p.maxCostUsdAtomic].all
      (·.isNone)) &&
  p.toolLimits.isEmpty &&
  p.policyId == "ubq2-shadow-" ++
    ((sha (.shadowPolicy p.ownerUserId p.policyVersion p.windowDurationSeconds)).take 48).copy &&
  p.policyFingerprint == sha (.unboundedPolicy p.policyId p.ownerUserId p.policyVersion
    p.windowDurationSeconds)

/-! ### Admission -/

def replayToolCall (row : ReservationRow) (owner : String) (call : ToolCall) :
    Tx ToolQuotaAdmission := do
  verifyDirectReservation sha row owner call
  return .direct sha row owner call row.state

/-- The limit of one capability: its own, or the default of the policy. -/
def PolicyRow.perToolLimit (p : PolicyRow) (capabilityId : String) : Option ℤ :=
  (p.toolLimits.lookup capabilityId).orElse fun _ => p.defaultPerToolLimit

/-- The active window, or the one a rollover opens. -/
def currentWindow (owner : String) (account : AccountRow) (now : ℤ) : Tx WindowRow := do
  match (← getActiveWindow owner).filter fun w => now < w.expiresAt with
  | some window => return window
  | none => rolloverWindow owner account.revision now

/-- The three writes of a new admission: the reservation row, the window and the usage row. -/
def chargeToolCall (owner : String) (call : ToolCall) (window : WindowRow)
    (usage : ToolUsageRow) : Tx ReservationRow := do
  let intent := call.intent sha owner window.epoch
  ensure intent.Valid ⟨.valueError, "UserBudgetReservationIntent"⟩
  let reservation ← createOrGetReservation sha intent
  verifyDirectReservation sha reservation owner call
  let window ← mutateWindowUsage owner window.epoch window.revision
    { toolCallsReserved := some (window.counters.toolCallsReserved + 1) }
  let _ ← mutateToolUsage owner window.epoch call.capabilityId usage.revision usage.usedCalls
    (usage.reservedCalls + 1)
  return reservation

/-- The part of `reserve_tool_call` after every replay lookup has failed. -/
def admitToolCall (owner : String) (account : AccountRow) (call : ToolCall) (now : ℤ) :
    Tx ToolQuotaAdmission := do
  let window ← currentWindow owner account now
  let policy ← expect ((← reads (·.getPolicy owner window.governingPolicyId)).filter
      fun p => p.policyFingerprint = window.governingPolicyFingerprint)
    ⟨.policyAuthorityConflict, "active tool quota window has invalid policy authority"⟩
  ensure (isRecognizedShadowPolicy sha policy = false)
    ⟨.policyAuthorityConflict,
      "automatic UBQ-2 shadow policy cannot authorize canonical tool quota admission"⟩
  let usage ← createOrGetToolUsage owner window.epoch call.capabilityId
  ensure (∀ limit ∈ policy.perToolLimit call.capabilityId,
      usage.usedCalls + usage.reservedCalls + 1 ≤ limit)
    ⟨.toolCapabilityQuotaExceeded, "capability_id=" ++ call.capabilityId ++ " quota exhausted"⟩
  ensure (∀ limit ∈ policy.maxToolCallsTotal,
      window.counters.toolCallsUsed + window.counters.toolCallsReserved + 1 ≤ limit)
    ⟨.toolQuotaExceeded, "total logical tool-call quota exhausted"⟩
  let reservation ← chargeToolCall sha owner call window usage
  return { ToolQuotaAdmission.direct sha reservation owner call .reserved with
    windowEpoch := some window.epoch }

def reserveToolCall (enabled : Bool) (directory : Directory) (lineage : AgentLineage)
    (identity : Identity) (call : ToolCall) (arguments : List (String × String)) (now : ℤ) :
    Tx (Option ToolQuotaAdmission) := do
  if enabled = false then return none
  else
    ensure (call.invocationId ≠ "" ∧ call.capabilityId ≠ "" ∧ call.requestFingerprint ≠ "")
      ⟨.valueError,
        "UBQ-3 tool admission requires invocation_id, capability_id and request_fingerprint"⟩
    let owner ← resolveOwner directory identity call.taskId
    let key := toolIdempotencyKey sha call.invocationId
    -- a replay is answered before the active window is looked at
    match ← reads (·.getReservation owner key) with
    | some existing => return some (← replayToolCall sha existing owner call)
    | none =>
      match ← historicalBridgeAdmission sha lineage owner call arguments with
      | some historical => return some historical
      | none =>
        let account ← expect
          ((← reads (·.getAccount owner)).filter fun a => a.nextPolicyId ≠ none)
          ⟨.policyAuthorityConflict, "tool quota owner has no selected UBQ policy"⟩
        -- the lookup is repeated under the lock on the account
        match ← reads (·.getReservation owner key) with
        | some locked => return some (← replayToolCall sha locked owner call)
        | none => return some (← admitToolCall sha owner account call now)

/-! ### Settlement and release -/

/-- The logical call an admission was given for, with the scope its reservation recorded. -/
def ToolQuotaAdmission.call (admission : ToolQuotaAdmission) (row : ReservationRow) :
    ToolCall :=
  { admission with
    executionId := row.attribution.get "execution_id"
    toolCallId := row.attribution.get "tool_call_id"
    taskId := row.attribution.get "task_id"
    workflowId := row.attribution.get "workflow_id"
    sessionId := row.attribution.get "session_id" }

/-- The writes of a settlement: the reserved call becomes a used one. -/
def settleCounters (owner capabilityId key : String) (reservation : ReservationRow)
    (window : WindowRow) (usage : ToolUsageRow) (now : ℤ) : Tx ReservationRow := do
  let _ ← mutateWindowUsage owner window.epoch window.revision
    { toolCallsUsed := some (window.counters.toolCallsUsed + 1)
      toolCallsReserved := some (window.counters.toolCallsReserved - 1) }
  let _ ← mutateToolUsage owner window.epoch capabilityId usage.revision (usage.usedCalls + 1)
    (usage.reservedCalls - 1)
  transitionReservation owner key reservation.revision .settled (some 1) (some now)

/-- The writes of a release: the reserved call is given back. -/
def releaseCounters (owner capabilityId key : String) (reservation : ReservationRow)
    (window : WindowRow) (usage : ToolUsageRow) (target : ReservationState) :
    Tx ReservationRow := do
  let _ ← mutateWindowUsage owner window.epoch window.revision
    { toolCallsReserved := some (window.counters.toolCallsReserved - 1) }
  let _ ← mutateToolUsage owner window.epoch capabilityId usage.revision usage.usedCalls
    (usage.reservedCalls - 1)
  transitionReservation owner key reservation.revision target none none

/-- The writes of a terminal transition. -/
def leaveReserved (owner capabilityId key : String) (reservation : ReservationRow)
    (window : WindowRow) (usage : ToolUsageRow) (target : ReservationState) (now : ℤ) :
    Tx ReservationRow :=
  if target = .settled then
    settleCounters owner capabilityId key reservation window usage now
  else releaseCounters owner capabilityId key reservation window usage target

/-- `_terminal_transition` of an admission with a direct reservation under `key`. -/
def terminalTransitionOf (admission : ToolQuotaAdmission) (key : String)
    (target : ReservationState) (now : ℤ) : Tx ToolQuotaAdmission := do
  ensure (target = .settled ∨ target = .released)
    ⟨.valueError, "UBQ-3 terminal transition must SETTLE or RELEASE"⟩
  let reservation ← expect (← reads (·.getReservation admission.ownerUserId key))
    (toolQuotaConflict "UBQ-3 reservation disappeared before terminal transition")
  verifyDirectReservation sha reservation admission.ownerUserId (admission.call reservation)
  if reservation.state = target then
    return { admission with reservationState := target, historicalBridge := false }
  else
    ensure (reservation.state = .reserved)
      (toolQuotaConflict "UBQ-3 reservation is already terminal/incompatible")
    let inconsistent := toolQuotaConflict "UBQ-3 reserved counters are inconsistent"
    let window ← expect (← reads fun db =>
      db.getWindow admission.ownerUserId reservation.windowEpoch) inconsistent
    let usage ← expect (← reads (·.getToolUsage admission.ownerUserId
      reservation.windowEpoch admission.capabilityId)) inconsistent
    ensure (0 < window.counters.toolCallsReserved ∧ 0 < usage.reservedCalls) inconsistent
    let transitioned ← leaveReserved admission.ownerUserId admission.capabilityId key reservation
      window usage target now
    return { admission with
      reservationState := transitioned.state, historicalBridge := false }

def terminalTransition (admission : Option ToolQuotaAdmission) (target : ReservationState)
    (now : ℤ) : Tx (Option ToolQuotaAdmission) := do
  match admission with
  | none => return none
  | some admission =>
    if admission.historicalBridge then return some admission
    else
      let key ← expect admission.idempotencyKey
        (toolQuotaConflict "direct UBQ-3 admission has no idempotency key")
      return some (← terminalTransitionOf sha admission key target now)

def settleToolCall (admission : Option ToolQuotaAdmission) (now : ℤ) :
    Tx (Option ToolQuotaAdmission) :=
  terminalTransition sha admission .settled now

def releaseToolCall (admission : Option ToolQuotaAdmission) (now : ℤ) :
    Tx (Option ToolQuotaAdmission) :=
  terminalTransition sha admission .released now

/-! ### Recovery -/

/-- `find_tool_call_authority`: the charge a call already has, direct or historical.  The task of
the call is the one its execution belongs to. -/
def findToolCallAuthority (enabled : Bool) (lineage : AgentLineage) (owner : String)
    (call : ToolCall) (arguments : List (String × String)) :
    Tx (Option ToolQuotaAdmission) := do
  if enabled = false then return none
  else
    ensure (owner ≠ "" ∧ call.invocationId ≠ "" ∧ call.capabilityId ≠ "" ∧
        call.requestFingerprint ≠ "")
      (toolQuotaConflict "quota authority lookup lacks durable logical identity")
    let execution := call.executionId.map lineage.execution
    ensure (execution ≠ some none)
      (toolQuotaConflict "quota authority execution lineage is missing")
    let call := { call with taskId := execution.join.join }
    match ← reads (·.getReservation owner (toolIdempotencyKey sha call.invocationId)) with
    | some direct => return some (← replayToolCall sha direct owner call)
    | none =>
      if call.executionId = none ∨ call.taskId = none ∨ call.toolCallId = none then return none
      else historicalBridgeAdmission sha lineage owner call arguments

/-- `recover_tool_call`: a continuation needs an unresolved direct charge or a historical one. -/
def recoverToolCall (enabled : Bool) (lineage : AgentLineage) (owner : String)
    (call : ToolCall) (arguments : List (String × String)) : Tx ToolQuotaAdmission := do
  let authority ← expect (← findToolCallAuthority sha enabled lineage owner call arguments)
    (toolQuotaConflict "continuation has no exact UBQ charge authority")
  ensure (authority.historicalBridge = true ∨ authority.reservationState = .reserved)
    (toolQuotaConflict
      "continuation requires an unresolved RESERVED direct UBQ-3 reservation")
  return authority

/-! ### Dual accounting -/

structure DualAccountingSettings where
  policyVersion : String := "ubq2-shadow-v1"
  windowDurationSeconds : ℤ := 86400

def shadowPolicy (settings : DualAccountingSettings) (owner : String) : PolicyRow :=
  let policyId := "ubq2-shadow-" ++ ((sha (.shadowPolicy owner settings.policyVersion
    settings.windowDurationSeconds)).take 48).copy
  { policyId := policyId
    ownerUserId := owner
    policyVersion := settings.policyVersion
    policyFingerprint := sha (.unboundedPolicy policyId owner settings.policyVersion
      settings.windowDurationSeconds)
    windowDurationSeconds := settings.windowDurationSeconds
    toolLimits := [] }

/-- The selected policy of a mirrored account must be a shadow policy. -/
def requireShadowSelection (owner : String) (account : AccountRow) (policyId : String) :
    Tx AccountRow := do
  match account.nextPolicyId with
  | none => selectNextPolicy owner account.revision policyId
  | some selected =>
    let row ← reads (·.getPolicy owner selected)
    ensure (row.any (isRecognizedShadowPolicy sha))
      ⟨.policyAuthorityConflict,
        "mirror-only accounting cannot overwrite finite/external policy authority"⟩
    return account

def ensureShadowAccount (settings : DualAccountingSettings) (owner : String) :
    Tx AccountRow := do
  let policy ← createOrGetImmutablePolicy (shadowPolicy sha settings owner)
  let account ← createOrGetAccount owner
  let account ← requireShadowSelection sha owner account policy.policyId
  let active ← getActiveWindow owner
  let governing ← reads fun db => active.bind fun w => db.getPolicy owner w.governingPolicyId
  ensure (∀ w ∈ active, ∃ p ∈ governing, isRecognizedShadowPolicy sha p = true ∧
      w.governingPolicyFingerprint = p.policyFingerprint)
    ⟨.policyAuthorityConflict,
      "ACTIVE mirror-only window is not governed by a recognized shadow policy"⟩
  return account

def ensureActiveShadowWindow (settings : DualAccountingSettings) (owner : String) (now : ℤ) :
    Tx WindowRow := do
  let account ← ensureShadowAccount sha settings owner
  currentWindow owner account now

structure MirrorDimension where
  resourceKind : MirrorKind
  amountAtomic : ℤ
  capabilityId : Option String := none
  deriving DecidableEq

def inferenceDimensions : List MirrorDimension :=
  [{ resourceKind := .resource .inferenceCall, amountAtomic := 1 }]

/-- `tool_call_dimensions`; the empty capability is refused by `mirrorDimension`. -/
def toolCallDimensions (capabilityId : String) : List MirrorDimension :=
  [{ resourceKind := .resource .toolCall, amountAtomic := 1, capabilityId := some capabilityId }]

/-- `usage_dimensions`, for a cost already in atomic units. -/
def usageDimensions (tokens costAtomic : ℤ) : List MirrorDimension :=
  let dimensions :=
    (if 0 < tokens then [{ resourceKind := .resource .totalToken, amountAtomic := tokens }]
      else []) ++
    (if 0 < costAtomic then [{ resourceKind := .resource .costUsd, amountAtomic := costAtomic }]
      else [])
  if dimensions = [] then [{ resourceKind := .noCharge, amountAtomic := 0 }] else dimensions

/-- A charge of the task budget that is to be mirrored. -/
structure MirrorSource where
  taskId : String
  ownerUserId : String
  taskBudgetKind : String
  reservationKey : String
  payloadFingerprint : String

def MirrorSource.digest (source : MirrorSource) (kind : MirrorKind) : String :=
  sha (.mirrorIdentity "ubq2-v1" source.ownerUserId source.taskId source.taskBudgetKind
    source.reservationKey kind)

def MirrorSource.receipt (source : MirrorSource) (dimension : MirrorDimension)
    (windowEpoch : Option ℤ) (settled : Option ReservationRow) : ReceiptRow where
  bridgeReceiptId := "ubq2b:" ++ source.digest sha dimension.resourceKind
  ownerUserId := source.ownerUserId
  taskId := source.taskId
  taskBudgetKind := source.taskBudgetKind
  taskBudgetReservationKey := source.reservationKey
  mirrorDimension := dimension.resourceKind
  sourcePayloadFingerprint := source.payloadFingerprint
  windowEpoch := windowEpoch
  ubqReservationId := settled.map (·.reservationId)
  ubqIdempotencyKey := settled.map (·.idempotencyKey)
  ubqPayloadFingerprint := settled.map (·.payloadFingerprint)
  amountAtomic := dimension.amountAtomic
  capabilityId := dimension.capabilityId

/-- The window counter a mirrored resource is added to; other resources are not mirrored. -/
def mirrorTargets (kind : ResourceKind) (c : WindowCounters) (amount : ℤ) :
    Option WindowTargets :=
  match kind with
  | .inferenceCall => some { inferenceUsed := some (c.inferenceUsed + amount) }
  | .totalToken => some { totalTokensUsed := some (c.totalTokensUsed + amount) }
  | .costUsd => some { costUsedAtomic := some (c.costUsedAtomic + amount) }
  | .toolCall => some { toolCallsUsed := some (c.toolCallsUsed + amount) }
  | _ => none

/-- A mirrored tool call also counts in the usage row of its capability. -/
def mirrorToolUsage (kind : ResourceKind) (owner : String) (epoch : ℤ) (capabilityId : String)
    (amount : ℤ) : Tx Unit := do
  if kind = .toolCall then
    let usage ← createOrGetToolUsage owner epoch capabilityId
    let _ ← mutateToolUsage owner epoch capabilityId usage.revision (usage.usedCalls + amount)
      usage.reservedCalls
  else pure ()

/-- One round of the loop of `mirror_resource_in_uow`. -/
def mirrorDimension (source : MirrorSource) (dimension : MirrorDimension) (window : WindowRow)
    (now : ℤ) : Tx (WindowRow × ReceiptRow) := do
  let kind ← expect (match dimension.resourceKind with | .resource k => some k | .noCharge => none)
    ⟨.valueError, "'NO_CHARGE' is not a valid UserBudgetResourceKind"⟩
  let amount := dimension.amountAtomic
  ensure (0 < amount) ⟨.valueError, "charged UBQ mirror amount must be positive"⟩
  ensure (kind = .toolCall → dimension.capabilityId.getD "" ≠ "")
    ⟨.valueError, "TOOL_CALL mirror requires capability_id"⟩
  ensure (kind ≠ .toolCall → dimension.capabilityId.getD "" = "")
    ⟨.valueError, "non-tool mirror cannot carry capability_id"⟩
  let digest := source.digest sha (.resource kind)
  let intent : ReservationIntent :=
    { reservationId := "ubq2r:" ++ digest
      ownerUserId := source.ownerUserId
      windowEpoch := window.epoch
      idempotencyKey := "ubq2:v1:" ++ digest
      resourceKind := kind
      capabilityId := dimension.capabilityId
      reservedAmountAtomic := amount
      attribution :=
        [("version", some "ubq2-v1"), ("task_id", some source.taskId),
          ("task_budget_kind", some source.taskBudgetKind),
          ("task_budget_reservation_key", some source.reservationKey),
          ("resource_kind", some kind.value)] ++
        (dimension.capabilityId.map fun c => ("capability_id", some c)).toList }
  ensure intent.Valid ⟨.valueError, "UserBudgetReservationIntent"⟩
  let reservation ← createOrGetReservation sha intent
  let targets ← expect (mirrorTargets kind window.counters amount)
    ⟨.valueError, "UBQ-2 does not mirror resource kind " ++ kind.value⟩
  let window ← mutateWindowUsage source.ownerUserId window.epoch window.revision targets
  mirrorToolUsage kind source.ownerUserId window.epoch (dimension.capabilityId.getD "") amount
  let settled ← transitionReservation source.ownerUserId intent.idempotencyKey
    reservation.revision .settled (some amount) (some now)
  let receipt ← createOrGetDualAccountingReceipt
    (source.receipt sha dimension (some window.epoch) (some settled))
  return (window, receipt)

/-- The loop of `mirror_resource_in_uow`; the window is carried from round to round. -/
def mirrorDimensions (source : MirrorSource) (now : ℤ) :
    List MirrorDimension → WindowRow → Tx (List ReceiptRow)
  | [], _ => return []
  | dimension :: rest, window => do
    let (window, receipt) ← mirrorDimension sha source dimension window now
    return receipt :: (← mirrorDimensions source now rest window)

/-- The receipts a source already has, in the order of the dimensions. -/
def MirrorSource.receipts (source : MirrorSource) (dimensions : List MirrorDimension) (db : Db) :
    List (MirrorDimension × Option ReceiptRow) :=
  dimensions.map fun d => (d, db.getDualAccountingReceipt source.taskId source.taskBudgetKind
    source.reservationKey d.resourceKind)

def MirrorSource.Repeats (source : MirrorSource) (d : MirrorDimension) (r : ReceiptRow) : Prop :=
  r.ownerUserId = source.ownerUserId ∧ r.sourcePayloadFingerprint = source.payloadFingerprint ∧
  r.amountAtomic = d.amountAtomic ∧
  r.capabilityId.filter (· ≠ "") = d.capabilityId.filter (· ≠ "")
  deriving Decidable

def mirrorResource (settings : DualAccountingSettings) (source : MirrorSource)
    (dimensions : List MirrorDimension) (now : ℤ) : Tx (List ReceiptRow) := do
  ensure (dimensions ≠ [])
    ⟨.valueError, "dual accounting mirror requires at least one dimension"⟩
  let known ← reads (source.receipts dimensions)
  ensure (∀ p ∈ known, ∀ r ∈ p.2, source.Repeats p.1 r)
    ⟨.userBudgetConflict, "dual-accounting replay conflicts with immutable bridge receipt"⟩
  let existing := known.filterMap (·.2)
  if existing.length = dimensions.length then return existing
  else
    ensure (existing = [])
      ⟨.userBudgetConflict, "dual-accounting logical operation is only partially mirrored"⟩
    if dimensions.map (·.resourceKind) = [.noCharge] then
      let receipt ← createOrGetDualAccountingReceipt
        (source.receipt sha { resourceKind := .noCharge, amountAtomic := 0 } none none)
      return [receipt]
    else
      let window ← ensureActiveShadowWindow sha settings source.ownerUserId now
      mirrorDimensions sha source now dimensions window

end Service

end AssistantRuntime.UserBudget

/-
**The calls of the capability runtime.**

Three calls touch an invocation: `execute_capability` creates it or takes over one that was never
dispatched, `continue_invocation` makes one more attempt of one that waits for its client, and
`reconcile` asks the client what became of it.
-/

import AssistantRuntime.Capability.Execution

namespace AssistantRuntime.Capability

open Concurrent UserBudget

/-- `capability_request_fingerprint`: of the capability, its version, the arguments and the
target. -/
abbrev Fingerprint := String → Option String → JsonObject → Option Target → String

/-! ### Quota -/

def settlesQuota (v : Invocation) : Bool :=
  v.state = .completed || v.remoteOutcome = some .terminalCommitted ||
    v.state = .failed && v.remoteOutcome = none

def releasesQuota (v : Invocation) : Bool :=
  !settlesQuota v && v.state.isTerminal && v.remoteOutcome = some .notDispatched

def finalizeToolQuotaForInvocation (admission : Option ToolQuotaAdmission)
    (invocation : Option Invocation) : Program Unit :=
  match admission, invocation with
  | some a, some v =>
    if a.historicalBridge then pure ()
    else if settlesQuota v then perform (World.mark v.invocationId .settled)
    else if releasesQuota v then perform (World.mark v.invocationId .released)
    else pure ()
  | _, _ => pure ()

/-- The result of a call, also when it raises. -/
def caught {α : Type} (p : Program α) : Program (Except Raised α) :=
  ExceptT.mk (p.run >>= fun r => pure (.ok r))

/-- Whether the run returns or raises, the quota is finalized from the row that it left. -/
def finalizing {α : Type} (admission : Option ToolQuotaAdmission) (invocationId : String)
    (run : Program α) : Program α := do
  let result ← caught run
  let persisted ← perform (World.get invocationId)
  finalizeToolQuotaForInvocation admission persisted
  orRaise result

/-! ### `execute_capability` -/

/-- What a call of `execute_capability` comes to once its driver is selected. -/
structure Call where
  invocationId : String
  capabilityId : String
  capabilityVersion : Option String
  kind : Kind
  executionMode : ExecutionMode
  idempotency : Idempotency
  target : Option Target := none
  /-- `identity.user_id`. -/
  userId : String
  originClientId : Option String
  sessionId : Option String := none
  turnId : Option String := none
  executionId : Option String
  workflowId : Option String := none
  toolCallId : Option String
  /-- `context.connection_id`. -/
  connectionId : Option String
  /-- `metadata["max_attempts"]`. -/
  maxAttempts : ℕ
  arguments : JsonObject
  driver : Driver
  selectedImplementationId : Option String
  /-- The kind of the selected implementation, or the class of the driver. -/
  effectiveDriverKind : String
  /-- The tool quota service is there and enabled. -/
  quotaService : Bool
  canonicalAgentToolHardTimeout : Bool
  timeoutSeconds : Json
  catalog : Bool
  preferredImplementationId : Option String := none
  now : ℤ
  /-- `str` of a value that is not a text, and `dict` of one that is not a mapping. -/
  str : Json → String
  dict : Json → Option JsonObject

namespace Call

def effectiveImplementationId (c : Call) : String :=
  c.selectedImplementationId.getD s!"legacy:{c.capabilityId}"

def toolQuotaEnabled (c : Call) : Bool := c.kind = .tool && c.quotaService

def candidate (fingerprint : Fingerprint) (c : Call) : Invocation :=
  { c with
    requestFingerprint := some (fingerprint c.capabilityId c.capabilityVersion c.arguments c.target)
    ownerUserId := some c.userId
    remoteOutcome := if c.driver.isRemote then some .notDispatched else none
    implementationId := some c.effectiveImplementationId
    driverKind := some c.effectiveDriverKind
    state := .created
    attempt := 0
    maxAttempts := max 1 c.maxAttempts
    output := .null
    revision := 0 }

def settings (c : Call) : Settings :=
  { c with
    allowInternalRetry := true
    userId := some c.userId
    routingConnectionId := c.connectionId }

def run (c : Call) (v : Invocation) (a : Attempt) : Run :=
  { c with invocation := v, attempt := a }

end Call

def invocationConflict (v : Invocation) (message : String) (safeForClient : Bool)
    (category : String := "CONCURRENCY") (retryable : Bool := false)
    (details : JsonObject := []) : CapabilityError :=
  { code := "REMOTE_INVOCATION_CONFLICT", message, category, retryable, safeForClient,
    capabilityId := some v.capabilityId, invocationId := some v.invocationId, details }

def mismatchedFields (existing candidate : Invocation) : List String :=
  [("invocation_id", decide (existing.invocationId = candidate.invocationId)),
    ("owner_user_id", decide (existing.ownerUserId = candidate.ownerUserId)),
    ("capability_id", decide (existing.capabilityId = candidate.capabilityId)),
    ("capability_version", decide (existing.capabilityVersion = candidate.capabilityVersion)),
    ("kind", decide (existing.kind = candidate.kind)),
    ("execution_mode", decide (existing.executionMode = candidate.executionMode)),
    ("idempotency", decide (existing.idempotency = candidate.idempotency)),
    ("request_fingerprint", decide (existing.requestFingerprint = candidate.requestFingerprint)),
    ("target", decide (existing.target = candidate.target)),
    ("execution_id", decide (existing.executionId = candidate.executionId)),
    ("workflow_id", decide (existing.workflowId = candidate.workflowId)),
    ("tool_call_id", decide (existing.toolCallId = candidate.toolCallId)),
    ("session_id", decide (existing.sessionId = candidate.sessionId)),
    ("turn_id", decide (existing.turnId = candidate.turnId))].filterMap
      fun (name, same) => if same then none else some name

def requireSameLogicalInvocation (existing candidate : Invocation) : Except CapabilityError Unit :=
  if mismatchedFields existing candidate = [] ∧
      Json.pyEq (.obj existing.arguments) (.obj candidate.arguments) then .ok ()
  else .error (invocationConflict candidate
    "Capability invocation id conflicts with durable logical identity." true "CONCURRENCY" false
    [("mismatched_fields", .arr ((mismatchedFields existing candidate).map .str))])

/-- How an existing invocation may be taken up. -/
inductive ExistingMode
  | initialCreated
  | initialDispatching
  | terminal
  deriving DecidableEq

/-- The history of an invocation that stands at its first attempt. -/
def isInitialAttempt : List Attempt → Option Attempt
  | [a] => if a.attemptNumber = 1 ∧ a.state = .dispatching then some a else none
  | _ => none

def Call.selects (c : Call) (a : Attempt) : Bool :=
  a.implementationId = c.effectiveImplementationId && a.driverKind = c.effectiveDriverKind &&
    a.connectionId = c.connectionId

def preflightExistingToolInvocation (c : Call) (existing candidate : Invocation) :
    Program ExistingMode := do
  orCapabilityError (requireSameLogicalInvocation existing candidate)
  if existing.state = .created ∧ existing.attempt = 0 then do
    let attempts ← perform (World.listAttempts existing.invocationId)
    if attempts.isEmpty then pure .initialCreated
    else throw (.capabilityError (invocationConflict existing
      "CREATED invocation has ambiguous persisted attempt history." false))
  else if existing.state = .dispatching ∧ existing.attempt = 1 then do
    let attempts ← perform (World.listAttempts existing.invocationId)
    if (isInitialAttempt attempts).any (c.selects ·) then pure .initialDispatching
    else throw (.capabilityError (invocationConflict existing
      "DISPATCHING invocation has ambiguous or changed initial-attempt authority." false))
  else if existing.state.isTerminal then pure .terminal
  else throw (.capabilityError (invocationConflict existing
    ("Ordinary capability execution cannot acquire renewable quota for an existing " ++
      existing.state.value ++ " invocation.") true "CONCURRENCY" false
    [("state", .str existing.state.value), ("attempt", .int existing.attempt)]))

/-- A conflict of the quota's own records. -/
def quotaConflict (v : Invocation) (message : String) : CapabilityError :=
  { code := "USER_TOOL_QUOTA_CONFLICT", message, category := "QUOTA",
    causeType := some "UserToolQuotaConflictError", capabilityId := some v.capabilityId,
    invocationId := some v.invocationId }

/-- The admission of the call: of a new invocation, or the one that an existing one was charged
under. -/
def quotaAdmission (candidate : Invocation) (existing : Option (Invocation × ExistingMode)) :
    Program (Option ToolQuotaAdmission) :=
  match existing with
  | none => do orCapabilityError (← ask (.reserve candidate))
  | some (v, mode) => do
    match mode, ← orCapabilityError (← ask (.authority v)) with
    | .terminal, none => throw (.capabilityError (quotaConflict candidate
        "terminal invocation has no pre-existing UBQ charge authority"))
    | .terminal, some authority => pure (some authority)
    | _, none => do orCapabilityError (← ask (.reserve candidate))
    | _, some authority =>
      if authority.historicalBridge ∨ authority.reservationState ≠ .reserved then
        throw (.capabilityError (quotaConflict candidate
          "pre-dispatch invocation has incompatible terminal UBQ charge authority"))
      else pure (some authority)

/-- The invocation is created, or the one that another call created first is taken up. -/
def createOrAdopt (candidate : Invocation) : Program Invocation := do
  match ← caught (performOrRaise (World.create candidate)) with
  | .ok () => pure candidate
  | .error e => do
    match ← perform (World.get candidate.invocationId) with
    | none => throw e
    | some winner => do
      orCapabilityError (requireSameLogicalInvocation winner candidate)
      pure winner

/-- `str(error.get(key) or fallback)`. -/
def Call.textOr (c : Call) (error : JsonObject) (key fallback : String) : String :=
  match (Json.member? key error).filter Json.truthy with
  | none => fallback
  | some (.str s) => s
  | some v => c.str v

/-- `bool(error.get(key, fallback))`. -/
def flagOr (error : JsonObject) (key : String) (fallback : Bool) : Bool :=
  ((Json.member? key error).map Json.truthy).getD fallback

/-- `dict(error.get(key) or {})`. -/
def Call.objectOr (c : Call) (error : JsonObject) (key : String) : Option JsonObject :=
  match (Json.member? key error).filter Json.truthy with
  | none => some []
  | some (.obj members) => some members
  | some v => c.dict v

def replayedError (c : Call) (v : Invocation) (error details : JsonObject) :
    CapabilityError where
  code := c.textOr error "code" "REMOTE_INVOCATION_CONFLICT"
  message := c.textOr error "message" "Capability invocation is already terminal."
  category := c.textOr error "category" "REPLAY"
  retryable := flagOr error "retryable" false
  safeForClient := flagOr error "safe_for_client" true
  causeType := match Json.member? "cause_type" error with
    | some (.str s) => some s
    | _ => none
  capabilityId := some v.capabilityId
  invocationId := some v.invocationId
  details := details

def replayedTerminalResult (c : Call) (v : Invocation) : Program CapabilityResult :=
  if v.state = .completed then
    pure { invocationId := v.invocationId, capabilityId := v.capabilityId, output := v.output.toPy
           metadata := [("attempt", .int v.attempt), ("replayed_terminal", .bool true)] }
  else
    let error := v.error.getD []
    match c.objectOr error "details" with
    | none => throw .conversionError
    | some details => throw (.capabilityError (replayedError c v error details))

def initialAttempt (c : Call) (v : Invocation) : Program (Invocation × Attempt) :=
  if v.state = .created ∧ v.attempt = 0 then do
    let (v, a) ← beginInitialAttempt c.now v c.effectiveImplementationId c.effectiveDriverKind
      c.connectionId
    startInitialAttempt c.now v a
  else if v.state = .dispatching ∧ v.attempt = 1 then do
    let attempts ← perform (World.listAttempts v.invocationId)
    match isInitialAttempt attempts with
    | none => throw (.capabilityError (invocationConflict v
        "Initial invocation attempt history is ambiguous." false))
    | some a =>
      if c.selects a then startInitialAttempt c.now v a
      else throw (.capabilityError (invocationConflict v
        "Initial attempt target changed before physical dispatch." true "ROUTING" true))
  else throw (.capabilityError (invocationConflict v
    ("Ordinary capability execution cannot restart an existing " ++ v.state.value ++
      " invocation.") true "CONCURRENCY" false
    [("state", .str v.state.value), ("attempt", .int v.attempt)]))

/-- The loop, with the attempts that are left. -/
def runFrom (s : Settings) (r : Run) : Program CapabilityResult :=
  runInvocationAttempt s (r.invocation.maxAttempts - r.invocation.attempt) r

def executeUnmetered (fingerprint : Fingerprint) (c : Call) : Program CapabilityResult := do
  let candidate := c.candidate fingerprint
  performOrRaise (World.create candidate)
  let v := { candidate with attempt := 1 }
  let a ← startAttempt v c.effectiveImplementationId c.effectiveDriverKind c.connectionId
  let v ← transition c.now v .dispatching {}
  let v ← transition c.now v .running {}
  runFrom c.settings (c.run v a)

/-- An existing charge without an invocation cannot be recovered. -/
def requireRecoverable (candidate : Invocation) (admission : Option ToolQuotaAdmission)
    (existing : Option Invocation) : Except CapabilityError Unit :=
  if existing = none ∧
      admission.any (fun a => a.historicalBridge || a.reservationState ≠ .reserved) then
    .error (invocationConflict candidate
      "Existing UBQ charge authority has no recoverable durable CapabilityInvocation." false)
  else .ok ()

/-- The existing invocation, if it is the same logical one, or a new one. -/
def takeUp (candidate : Invocation) : Option Invocation → Program Invocation
  | none => createOrAdopt candidate
  | some v => do
    orCapabilityError (requireSameLogicalInvocation v candidate)
    pure v

/-- The invocation that the call found, with the way it may be taken up. -/
def preflight (c : Call) (candidate : Invocation) : Program (Option (Invocation × ExistingMode)) := do
  match ← perform (World.get candidate.invocationId) with
  | none => pure none
  | some v => do
    let mode ← preflightExistingToolInvocation c v candidate
    pure (some (v, mode))

def executeMetered (fingerprint : Fingerprint) (c : Call) : Program CapabilityResult := do
  let owner ← orCapabilityError (← ask (.owner (c.candidate fingerprint)))
  let candidate := { c.candidate fingerprint with ownerUserId := owner.or (some c.userId) }
  let preexisting ← preflight c candidate
  let admission ← quotaAdmission candidate preexisting
  let candidate := { candidate with
    ownerUserId := (admission.map (·.ownerUserId)).or candidate.ownerUserId }
  let existing ← perform (World.get candidate.invocationId)
  orCapabilityError (requireRecoverable candidate admission existing)
  let v ← takeUp candidate existing
  if v.state.isTerminal then do
    finalizeToolQuotaForInvocation admission (some v)
    replayedTerminalResult c v
  else do
    let (v, a) ← initialAttempt c v
    finalizing admission v.invocationId (runFrom c.settings (c.run v a))

def executeCapability (fingerprint : Fingerprint) (c : Call) : Program CapabilityResult :=
  if c.toolQuotaEnabled then executeMetered fingerprint c else executeUnmetered fingerprint c

/-! ### `continue_invocation` -/

structure Continuation where
  invocationId : String
  targetConnectionId : Option String
  mode : ContinuationMode
  expectedRevision : ℕ
  expectedRequestFingerprint : String
  guarded : Bool
  /-- The tool quota service is there and enabled. -/
  quotaService : Bool
  now : ℤ

def continuationError (v : Invocation) (code message category : String) (retryable : Bool)
    (details : JsonObject := []) : CapabilityError :=
  { code, message, category, retryable, safeForClient := true, capabilityId := some v.capabilityId,
    invocationId := some v.invocationId, details }

/-- The mode agrees with what is recorded of the remote side effect. -/
def ContinuationMode.permits (mode : ContinuationMode) (v : Invocation) : Bool :=
  match mode with
  | .dispatchNotDispatched => v.remoteOutcome = some .notDispatched
  | .replaySafe =>
    (v.remoteOutcome = some .inFlight || v.remoteOutcome = some .outcomeUnknown) &&
      v.idempotency.replaySafe

def WaitReason.value : WaitReason → String
  | .connection => "CONNECTION"
  | .humanApproval => "HUMAN_APPROVAL"
  | .dependency => "DEPENDENCY"
  | .retryBackoff => "RETRY_BACKOFF"
  | .resource => "RESOURCE"

def validateExistingContinuation (fingerprint : Fingerprint) (v : Invocation) (c : Continuation) :
    Except CapabilityError Unit :=
  if v.revision ≠ c.expectedRevision then
    .error (continuationError v "CAPABILITY_CONTINUATION_STALE"
      "CapabilityInvocation revision changed after planning." "CONTINUATION" true
      [("expected_revision", .int c.expectedRevision), ("current_revision", .int v.revision)])
  else if !present v.capabilityVersion ∨ !present v.requestFingerprint ∨
      v.requestFingerprint ≠ some c.expectedRequestFingerprint then
    .error (continuationError v "REMOTE_INVOCATION_CONFLICT"
      "Continuation semantic fingerprint does not match." "RECONCILIATION" false)
  else if v.requestFingerprint ≠
      some (fingerprint v.capabilityId v.capabilityVersion v.arguments v.target) then
    .error (continuationError v "REMOTE_INVOCATION_CONFLICT"
      "Durable invocation arguments no longer match fingerprint." "RECONCILIATION" false)
  else if !present v.executionId ∨ !present v.toolCallId then
    .error (continuationError v "CAPABILITY_CONTINUATION_INVALID_STATE"
      "Agent-owned continuation requires durable execution_id and tool_call_id lineage."
      "CONTINUATION" false)
  else if v.state ≠ .waiting ∨ v.waitReason ≠ some .connection then
    .error (continuationError v "CAPABILITY_CONTINUATION_INVALID_STATE"
      "Existing invocation continuation requires WAITING(CONNECTION)." "CONTINUATION" false
      [("state", .str v.state.value),
        ("wait_reason", optionalText (v.waitReason.map WaitReason.value))])
  else if !c.mode.permits v then
    .error (continuationError v "CAPABILITY_CONTINUATION_UNSAFE"
      ("Continuation mode " ++ c.mode.value ++ " is incompatible with the durable R6 " ++
        "outcome/idempotency snapshot.") "CONTINUATION" false
      [("remote_outcome_state", optionalText (v.remoteOutcome.map RemoteOutcome.value)),
        ("idempotency", .str v.idempotency.value)])
  else .ok ()

/-- `_validate_attempt_history`, of the attempts that were listed. -/
def validateAttemptHistory (v : Invocation) (attempts : List Attempt) :
    Except CapabilityError Unit :=
  if Ledger.numbered v.attempt attempts ∧ attempts.all (·.state.isTerminal) then .ok ()
  else .error (continuationError v "CAPABILITY_CONTINUATION_ATTEMPT_CONFLICT"
    "CapabilityInvocation attempt history is inconsistent." "CONTINUATION" false
    [("invocation_attempt", .int v.attempt),
      ("attempt_numbers", .arr (attempts.map fun a => .int a.attemptNumber)),
      ("attempt_states", .arr (attempts.map fun a => .str a.state.value))])

def recoverAdmission (c : Continuation) (v : Invocation) : Program (Option ToolQuotaAdmission) :=
  if v.kind = .tool ∧ c.quotaService then do
    match ← orCapabilityError (← ask (.recover v)) with
    | none => throw (.capabilityError
        { code := "USER_TOOL_QUOTA_CONFLICT"
          message := "UBQ-3 continuation has no recoverable quota authority."
          category := "QUOTA", capabilityId := some v.capabilityId
          invocationId := some v.invocationId })
    | some admission => pure (some admission)
  else pure none

/-- `begin_continuation_attempt`, with the error that the caller sees. -/
def beginContinuation (c : Continuation) (v : Invocation) (i : Implementation) :
    Program (Invocation × Attempt) := do
  match ← caught (beginContinuationAttempt c.now v i.implementationId i.driverKind
      c.targetConnectionId c.mode) with
  | .ok begun => pure begun
  | .error (.runtimeError message) => do
    let current ← perform (World.get c.invocationId)
    let code := if current.any (·.revision ≠ c.expectedRevision) then
      "CAPABILITY_CONTINUATION_STALE" else "CAPABILITY_CONTINUATION_ATTEMPT_CONFLICT"
    throw (.capabilityError (continuationError v code message "CONTINUATION" true
      [("expected_revision", .int c.expectedRevision),
        ("current_revision", (current.map fun u => Json.int u.revision).getD .null)]))
  | .error e => throw e

/-- `start_continuation_attempt`, with the error that the caller sees. -/
def startContinuation (c : Continuation) (v : Invocation) (a : Attempt) :
    Program (Invocation × Attempt) := do
  match ← caught (startContinuationAttempt c.now v a) with
  | .ok started => pure started
  | .error (.runtimeError message) => throw (.capabilityError (continuationError v
      "CAPABILITY_CONTINUATION_STALE" message "CONTINUATION" true))
  | .error e => throw e

/-- What the run of a continuation is told: it makes one attempt. -/
def Continuation.settings (c : Continuation) : Settings where
  allowInternalRetry := false
  continuationMode := some c.mode
  guarded := c.guarded
  routingConnectionId := c.targetConnectionId
  now := c.now

def Continuation.run (c : Continuation) (v : Invocation) (a : Attempt) (i : Implementation) :
    Run where
  invocation := v
  attempt := a
  driver := .remote (c.targetConnectionId.getD "")
  selectedImplementationId := some i.implementationId
  connectionId := c.targetConnectionId

def continueInvocation (fingerprint : Fingerprint) (c : Continuation) :
    Program CapabilityResult := do
  match ← perform (World.get c.invocationId) with
  | none => throw (.capabilityError
      { code := "CAPABILITY_CONTINUATION_NOT_FOUND"
        message := s!"Unknown capability invocation: {c.invocationId}"
        category := "CONTINUATION", safeForClient := true, invocationId := some c.invocationId })
  | some v => do
    orCapabilityError (validateExistingContinuation fingerprint v c)
    let attempts ← perform (World.listAttempts v.invocationId)
    orCapabilityError (validateAttemptHistory v attempts)
    let admission ← recoverAdmission c v
    let i ← orCapabilityError (← ask (.continuationTarget v c.targetConnectionId))
    let (v, a) ← beginContinuation c v i
    let (v, a) ← startContinuation c v a
    finalizing admission v.invocationId (runFrom c.settings (c.run v a i))

/-! ### Reconciliation -/

/-- `_local_terminal`: the server knows the outcome already. -/
def localTerminal (v : Invocation) : Option ReconciliationResult :=
  if v.remoteOutcome = some .terminalCommitted ∧ present v.capabilityVersion ∧
      present v.requestFingerprint then
    let answer (type : TerminalType) (payload : JsonObject) : ReconciliationResult :=
      { status := .terminal, capabilityId := v.capabilityId
        capabilityVersion := v.capabilityVersion.getD ""
        requestFingerprint := v.requestFingerprint.getD ""
        terminalType := some type, terminalPayload := some payload }
    match v.state with
    | .completed => some (answer .result [("output", v.output)])
    | .failed => some (answer .error (v.error.getD []))
    | .cancelled => some (answer .cancelled [])
    | _ => none
  else none

def reconciliationError (v : Invocation) (code message : String)
    (details : JsonObject := []) (category : String := "RECONCILIATION") : CapabilityError :=
  { code, message, category, safeForClient := true, capabilityId := some v.capabilityId,
    invocationId := some v.invocationId, details }

def requireReconciliationSnapshot (v : Invocation) : Except CapabilityError Unit :=
  let missing := [("capability_version", v.capabilityVersion),
    ("request_fingerprint", v.requestFingerprint), ("owner_user_id", v.ownerUserId),
    ("origin_client_id", v.originClientId)].filterMap
      fun (name, value) => if present value then none else some name
  if missing = [] then .ok ()
  else .error (reconciliationError v "REMOTE_RESULT_RECONCILIATION_REQUIRED"
    "Invocation lacks the durable reconciliation snapshot required for safe client query."
    [("missing_fields", .arr (missing.map .str))])

def requireOriginatingClient (v : Invocation) (userId : Option String) (clientId : String) :
    Except CapabilityError Unit :=
  if userId ≠ v.ownerUserId then
    .error (reconciliationError v "CAPABILITY_UNAUTHORIZED"
      "Reconciliation connection owner does not match invocation owner." [] "AUTHORIZATION")
  else if v.originClientId ≠ some clientId then
    .error (reconciliationError v "CAPABILITY_UNAUTHORIZED"
      "Reconciliation must use the originating client installation." [] "AUTHORIZATION")
  else .ok ()

def validateResponseIdentity (v : Invocation) (result : ReconciliationResult) :
    Except CapabilityError Unit :=
  if result.capabilityId = v.capabilityId ∧ some result.capabilityVersion = v.capabilityVersion ∧
      some result.requestFingerprint = v.requestFingerprint then .ok ()
  else .error (reconciliationError v "REMOTE_INVOCATION_CONFLICT"
    "Client reconciliation identity does not match invocation."
    [("response_capability_id", .str result.capabilityId),
      ("response_capability_version", .str result.capabilityVersion),
      ("response_request_fingerprint", .str result.requestFingerprint)])

/-- The state that a reported outcome leads to, with its data. -/
def terminalChanges (type : TerminalType) (payload : JsonObject) : InvocationState × Changes :=
  match type with
  | .result => (.completed,
      { output := (Json.member? "output" payload).getD .null
        remoteOutcome := some .terminalCommitted })
  | .error => (.failed, { error := some payload, remoteOutcome := some .terminalCommitted })
  | .cancelled => (.cancelled,
      { error := some [("code", .str "CAPABILITY_CANCELLED"),
          ("message", .str "Remote capability reported cancellation."),
          ("details", .obj payload)]
        remoteOutcome := some .terminalCommitted })

def commitTerminal (now : ℤ) (v : Invocation) (result : ReconciliationResult) : Program Unit :=
  if v.state ≠ .waiting then
    throw (.capabilityError (reconciliationError v "REMOTE_RESULT_RECONCILIATION_REQUIRED"
      "Recovered remote terminal outcome can only be committed from a WAITING invocation."
      [("state", .str v.state.value)]))
  else match result.terminalType, result.terminalPayload with
    | some type, some payload => do
      let _ ← transition now v (terminalChanges type payload).1 (terminalChanges type payload).2
      pure ()
    | _, _ => throw (.capabilityError (reconciliationError v "REMOTE_INVOCATION_CONFLICT"
        "TERMINAL reconciliation requires terminal payload."))

def reconcile (now : ℤ) (invocationId connectionId : String) : Program ReconciliationResult := do
  match ← perform (World.get invocationId) with
  | none => throw (.keyError s!"Unknown capability invocation: {invocationId}")
  | some v =>
    match localTerminal v with
    | some result => pure result
    | none => do
      orCapabilityError (requireReconciliationSnapshot v)
      let snapshot ← orRaise (← ask (.connection connectionId))
      orCapabilityError (requireOriginatingClient v snapshot.1 snapshot.2)
      let result ← orRaise (← ask (.reconciliation v))
      orCapabilityError (validateResponseIdentity v result)
      if result.status = .conflict then
        throw (.capabilityError (reconciliationError v "REMOTE_INVOCATION_CONFLICT"
          "Client reconciliation reported a semantic invocation conflict."
          [("request_fingerprint", optionalText v.requestFingerprint)]))
      else if result.status = .terminal then do
        commitTerminal now v result
        pure result
      else pure result

end AssistantRuntime.Capability

/-
**Running invocations.**

An invocation is run attempt by attempt.  An attempt runs one driver and ends in one of three ways:
with an output, with a failure that is final, or with one after which another attempt may be made,
at once by another implementation or later by a continuation.  What a failure does to the record of
the remote side effect depends on the driver and on what was known before.
-/

import AssistantRuntime.Capability.Lifecycle

namespace AssistantRuntime.Capability

open Concurrent UserBudget

/-! ### Drivers -/

/-- What stays the same while an invocation is run. -/
structure Settings where
  allowInternalRetry : Bool
  canonicalAgentToolHardTimeout : Bool := false
  timeoutSeconds : Json := .null
  continuationMode : Option ContinuationMode := none
  /-- The caller gave a guard for the dispatch of a continuation. -/
  guarded : Bool := false
  catalog : Bool := true
  /-- `identity.user_id`. -/
  userId : Option String := none
  /-- `metadata["implementation_id"]`. -/
  preferredImplementationId : Option String := none
  routingConnectionId : Option String := none
  now : ℤ

/-- What changes from attempt to attempt. -/
structure Run where
  invocation : Invocation
  attempt : Attempt
  driver : Driver
  selectedImplementationId : Option String
  excluded : List String := []
  /-- `context.connection_id`. -/
  connectionId : Option String

abbrev Run.id (r : Run) : String := r.invocation.invocationId

def Invocation.markedStarted (v : Invocation) : Invocation :=
  { v with remoteOutcome := some .inFlight, revision := v.revision + 1 }

/-- `mark_started`: the dispatch is recorded before the frame is sent.  The object in memory is
changed before the write; an interruption may come before or after the write took effect. -/
def markStarted (v : Invocation) : Program (Invocation × Option Failure) :=
  if v.remoteOutcome = some .notDispatched then do
    let started := v.markedStarted
    match ← ask (.interruption v.invocationId) with
    | some (i, false) => pure (started, some i.failure)
    | some (i, true) => do
      let _ ← perform (World.compareAndSet started v.revision)
      pure (started, some i.failure)
    | none => do
      let written ← perform (World.compareAndSet started v.revision)
      if written then pure (started, none)
      else pure (started, some (.other "RuntimeError"
        s!"Concurrent invocation remote-outcome update rejected: {v.invocationId}" none none
        false))
  else pure (v, none)

/-- The guard of a continuation runs between the record and the frame. -/
def runDispatchGuard (s : Settings) (v : Invocation) : Program (Option Failure) :=
  if s.guarded then do
    let failed ← ask (.dispatchGuard v.invocationId)
    pure (failed.map (·.1))
  else pure none

def realtimeInvoke (v : Invocation) : Program (Except Failure PyValue) := do
  match ← ask (.socket v.invocationId) with
  | some f => pure (.error f.1)
  | none => do
    perform (World.mark v.invocationId .handed)
    let response ← ask (.response v.invocationId)
    pure ((response.map Json.toPy).mapError (·.1))

/-- What the driver raises for a context that was made for another connection. -/
def wrongConnection : Failure :=
  .other "ValueError" ("Capability execution connection_id does not match the selected " ++
    "remote implementation connection.") none none false

def executeRemote (s : Settings) (r : Run) (connectionId : String) :
    Program (Invocation × Except Failure PyValue) :=
  if r.connectionId ≠ some connectionId then pure (r.invocation, .error wrongConnection)
  else do
    match ← ask (.deadline r.id) with
    | some i => pure (r.invocation, .error i.failure)
    | none => do
      match ← markStarted r.invocation with
      | (v, some f) => pure (v, .error f)
      | (v, none) => do
        match ← runDispatchGuard s v with
        | some f => pure (v, .error f)
        | none => do
          let out ← realtimeInvoke v
          pure (v, out)

/-- `_execute_driver_once`: the invocation as it is in memory afterwards, and what came of it. -/
def executeDriverOnce (s : Settings) (r : Run) : Program (Invocation × Except Failure PyValue) := do
  if ← ask (.cancelled r.id r.driver) then pure (r.invocation, .error (.cancelled ""))
  else
    match r.driver with
    | .remote connectionId => executeRemote s r connectionId
    | .server => do
      perform (World.mark r.id .entered)
      let out ← ask (.server r.id)
      pure (r.invocation, out.mapError (·.1))

/-! ### Failures -/

/-- What a failure says about the remote side effect, where it says something new. -/
def outcomeAfter (s : Settings) (r : Run) : Failure → Option RemoteOutcome
  | .connectionState _ =>
    -- the transport refused before the send boundary, so this attempt did not dispatch
    if r.driver.isRemote ∧ r.invocation.remoteOutcome = some .inFlight ∧
        s.continuationMode ≠ some .replaySafe then some .notDispatched else none
  | .connectionLost .. =>
    if r.driver.isRemote ∧ r.invocation.remoteOutcome ≠ some .outcomeUnknown then
      some .outcomeUnknown else none
  | .timeout _ | .cancelled _ =>
    if r.driver.isRemote ∧ (r.invocation.remoteOutcome = some .notDispatched ∨
        r.invocation.remoteOutcome = some .inFlight) then some .outcomeUnknown else none
  | .other .. =>
    if r.driver.isRemote ∧ r.invocation.remoteOutcome = some .inFlight then
      some .outcomeUnknown else none
  | .remoteError .. | .guard .. | .capability _ => none

def recordOutcome (s : Settings) (r : Run) (f : Failure) : Program Run :=
  match outcomeAfter s r f with
  | none => pure r
  | some outcome => do
    let v ← updateRemoteOutcome r.invocation outcome
    pure { r with invocation := v }

/-- Another implementation may be tried at once. -/
def allowsRetry (r : Run) : Failure → Bool
  | .connectionState _ => true
  | .connectionLost .. => r.invocation.idempotency.replaySafe
  | _ => false

def connectionLostMessage (connectionId invocationId : String) : String :=
  s!"Remote connection '{connectionId}' lost while invocation '{invocationId}' was pending."

def connectionDetails (v : Invocation) (connectionId : Option String) (invocationId : String)
    (outcome : Option RemoteOutcome) : JsonObject :=
  [("connection_id", optionalText connectionId), ("invocation_id", .str invocationId),
    ("remote_outcome_state", optionalText (outcome.map RemoteOutcome.value)),
    ("idempotency", .str v.idempotency.value),
    ("request_fingerprint", optionalText v.requestFingerprint)]

structure Verdict where
  attemptState : InvocationState
  attemptError : JsonObject
  /-- An attempt that a retry closed already stays as it is. -/
  unlessCompleted : Bool := false
  state : InvocationState
  changes : Changes
  raised : Raised

def connectionError (v : Invocation) (code message category causeType : String)
    (details : JsonObject) : CapabilityError :=
  { code, message, category, retryable := false, safeForClient := true,
    causeType := some causeType, capabilityId := some v.capabilityId,
    invocationId := some v.invocationId, details }

def waitForConnection (e : CapabilityError) : Verdict :=
  { attemptState := .failed, attemptError := e.modelDump, unlessCompleted := true,
    state := .waiting, changes := { waitReason := some .connection },
    raised := .capabilityError e }

def failWith (e : CapabilityError) (outcome : Option RemoteOutcome) : Verdict :=
  { attemptState := .failed, attemptError := e.modelDump, state := .failed,
    changes := { error := some e.modelDump, remoteOutcome := outcome },
    raised := .capabilityError e }

def stopWith (state : InvocationState) (error : JsonObject) (e : CapabilityError) : Verdict :=
  { attemptState := state, attemptError := error, state, changes := { error := some error },
    raised := .capabilityError e }

def timeoutDetails (s : Settings) : JsonObject :=
  if s.canonicalAgentToolHardTimeout then
    [("timeout_scope", .str "tool_call"), ("timeout_seconds", s.timeoutSeconds)] else []

def timeoutCode (s : Settings) : String :=
  if s.canonicalAgentToolHardTimeout then "TOOL_CALL_TIMEOUT" else "CAPABILITY_TIMEOUT"

/-- **The handlers**: how each failure closes the attempt and moves the invocation. -/
def verdict (s : Settings) (r : Run) : Failure → Verdict
  | .connectionState message =>
    waitForConnection (connectionError r.invocation "REMOTE_CONNECTION_LOST" message "CONNECTION"
      "ConnectionStateError"
      (connectionDetails r.invocation r.connectionId r.id r.invocation.remoteOutcome))
  | .connectionLost connectionId invocationId =>
    waitForConnection (connectionError r.invocation "REMOTE_OUTCOME_UNKNOWN"
      (connectionLostMessage connectionId invocationId) "RECONCILIATION" "RemoteConnectionLost"
      (connectionDetails r.invocation (some connectionId) invocationId (some .outcomeUnknown)))
  | .remoteError code message details =>
    failWith (connectionError r.invocation code message "REMOTE" "RemoteCapabilityError"
      [("remote_details", details), ("remote_outcome_state", .str "TERMINAL_COMMITTED")])
      (some .terminalCommitted)
  | .timeout message =>
    stopWith .timedOut
      ([("code", .str (timeoutCode s)), ("message", .str message)] ++
        (if timeoutDetails s = [] then [] else [("details", .obj (timeoutDetails s))]))
      { code := timeoutCode s, message := s!"Capability '{r.invocation.capabilityId}' timed out.",
        category := "TIMEOUT",
        retryable := !(r.driver.isRemote && r.invocation.remoteOutcome = some .outcomeUnknown),
        safeForClient := true, causeType := some "TimeoutError",
        capabilityId := some r.invocation.capabilityId, invocationId := some r.id,
        details := timeoutDetails s }
  | .cancelled message =>
    stopWith .cancelled [("code", .str "CAPABILITY_CANCELLED"), ("message", .str message)]
      { code := "CAPABILITY_CANCELLED",
        message := s!"Capability '{r.invocation.capabilityId}' was cancelled.",
        category := "CANCELLED", safeForClient := true, causeType := some "CancelledError",
        capabilityId := some r.invocation.capabilityId, invocationId := some r.id }
  | .guard code message retryable =>
    { attemptState := .failed
      attemptError :=
        [("code", .str code), ("message", .str message), ("retryable", .bool retryable)]
      unlessCompleted := true
      state := .waiting
      changes := { waitReason := some .connection, remoteOutcome := some .notDispatched }
      raised := .guardError code message retryable }
  | .capability e => failWith e none
  | .other causeType message code details retryable =>
    failWith
      { code := "CAPABILITY_EXECUTION_FAILED", message, category := "EXECUTION", retryable,
        causeType := some causeType, capabilityId := some r.invocation.capabilityId,
        invocationId := some r.id,
        details := (code.toList.map fun c => ("original_error_code", .str c)) ++
          (details.toList.map fun d => ("remote_details", d)) } none

/-- The attempt is closed; one that is closed already may stay as it is. -/
def closeAttempt (now : ℤ) (a : Attempt) (unlessCompleted : Bool) (state : InvocationState)
    (error : JsonObject) : Program Attempt :=
  if unlessCompleted ∧ a.completedAt ≠ none then pure a
  else finishAttempt now a state (some error)

def settle {α : Type} (s : Settings) (r : Run) (f : Failure) : Program α := do
  let d := verdict s r f
  let _ ← closeAttempt s.now r.attempt d.unlessCompleted d.attemptState d.attemptError
  let _ ← transition s.now r.invocation d.state d.changes
  throw d.raised

/-! ### Attempts -/

def retryError (r : Run) : Failure → JsonObject
  | .connectionState message =>
    [("code", .str "REMOTE_CONNECTION_LOST"), ("message", .str message),
      ("details", .obj (connectionDetails r.invocation r.connectionId r.id
        r.invocation.remoteOutcome))]
  | .connectionLost connectionId invocationId =>
    [("code", .str "REMOTE_OUTCOME_UNKNOWN"),
      ("message", .str (connectionLostMessage connectionId invocationId)),
      ("details", .obj (connectionDetails r.invocation (some connectionId) invocationId
        (some .outcomeUnknown)))]
  | _ => []

def Invocation.routedTo (v : Invocation) (i : Implementation) : Invocation :=
  { v with
    implementationId := some i.implementationId, driverKind := some i.driverKind,
    connectionId := i.connectionId, attempt := v.attempt + 1 }

def retryContext (s : Settings) (v : Invocation) : RequestContext :=
  { ownerId := s.userId, connectionId := s.routingConnectionId, target := v.target }

/-- `try_remote_retry`, once there are attempts left: whether the next attempt runs. -/
def tryRemoteRetry (s : Settings) (r : Run) (f : Failure) : Program (Bool × Run) :=
  match r.selectedImplementationId with
  | none => pure (false, r)
  | some selected =>
    if s.allowInternalRetry ∧ allowsRetry r f ∧ s.catalog then do
      let attempt ← closeAttempt s.now r.attempt true .failed (retryError r f)
      let v ← transition s.now r.invocation .retrying {}
      let r := { r with invocation := v, attempt, excluded := selected :: r.excluded }
      let env ← ask (.routing v r.excluded)
      match resolveExecutionDriver env (retryContext s v) s.preferredImplementationId
          r.excluded with
      | .unavailable => pure (false, r)
      | .legacy => throw (.runtimeError "selected_implementation_id is not None")
      | .selected i driver => do
        let v := v.routedTo i
        let attempt ← startAttempt v i.implementationId i.driverKind i.connectionId
        let v ← transition s.now v .dispatching {}
        let v ← transition s.now v .running {}
        pure (true, { r with
          invocation := v, attempt, driver, selectedImplementationId := some i.implementationId,
          connectionId := i.connectionId })
    else pure (false, r)

structure CapabilityResult where
  invocationId : String
  capabilityId : String
  output : PyValue
  metadata : JsonObject
  deriving DecidableEq

def complete (s : Settings) (r : Run) (output : PyValue) : Program CapabilityResult := do
  let _ ← finishAttempt s.now r.attempt .completed none
  let v ← transition s.now r.invocation .completed
    { output := output.encoded
      remoteOutcome := if r.driver.isRemote then some .terminalCommitted else none }
  pure
    { invocationId := r.id, capabilityId := v.capabilityId, output
      metadata := [("attempt", .int v.attempt)] ++
        (r.selectedImplementationId.toList.map fun i => ("implementation_id", .str i)) ++
        (s.continuationMode.toList.flatMap fun m =>
          [("continuation_mode", .str m.value),
            ("request_fingerprint", optionalText v.requestFingerprint)]) }

/-- `_run_invocation_attempt`.  The number of attempts that `max_attempts` still permits bounds the
loop: `invocation.attempt < invocation.max_attempts` is that there is one left. -/
def runInvocationAttempt (s : Settings) : (left : ℕ) → Run → Program CapabilityResult
  | left, r => do
    let (v, out) ← executeDriverOnce s r
    match out with
    | .ok output => complete s { r with invocation := v } output
    | .error f => do
      let r ← recordOutcome s { r with invocation := v } f
      match left with
      | 0 => settle s r f
      | left + 1 => do
        match ← tryRemoteRetry s r f with
        | (true, r) => runInvocationAttempt s left r
        | (false, r) => settle s r f

end AssistantRuntime.Capability

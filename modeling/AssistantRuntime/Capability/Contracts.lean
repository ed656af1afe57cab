/-
**Capability invocations: what they are and how they may change.**

An invocation is one logical use of a capability: a tool, a skill or an agent.  Its row keeps two
things apart: where the invocation is in its life (`InvocationState`), and how certain the server is
about what a remote client did with it (`RemoteOutcome`).  Each has its own table of permitted
moves.  An attempt is one physical run of an invocation by one driver.
-/

import AssistantRuntime.Json

namespace AssistantRuntime.Capability

/-! ### Vocabulary -/

/-- `CapabilityInvocationState`; attempts use it too. -/
inductive InvocationState
  | created
  | dispatching
  | running
  | waiting
  | retrying
  | completed
  | failed
  | cancelled
  | timedOut
  deriving DecidableEq

def InvocationState.value : InvocationState → String
  | .created => "CREATED"
  | .dispatching => "DISPATCHING"
  | .running => "RUNNING"
  | .waiting => "WAITING"
  | .retrying => "RETRYING"
  | .completed => "COMPLETED"
  | .failed => "FAILED"
  | .cancelled => "CANCELLED"
  | .timedOut => "TIMED_OUT"

def InvocationState.isTerminal : InvocationState → Bool
  | .completed | .failed | .cancelled | .timedOut => true
  | _ => false

/-- `CapabilityWaitReason`. -/
inductive WaitReason
  | connection
  | humanApproval
  | dependency
  | retryBackoff
  | resource
  deriving DecidableEq

/-- `ExistingInvocationContinuationMode`. -/
inductive ContinuationMode
  | dispatchNotDispatched
  | replaySafe
  deriving DecidableEq

def ContinuationMode.value : ContinuationMode → String
  | .dispatchNotDispatched => "DISPATCH_NOT_DISPATCHED"
  | .replaySafe => "REPLAY_SAFE"

/-- `RemoteOutcomeState`: how certain the server is about a remote side effect. -/
inductive RemoteOutcome
  | notDispatched
  | inFlight
  | outcomeUnknown
  | terminalCommitted
  deriving DecidableEq

def RemoteOutcome.value : RemoteOutcome → String
  | .notDispatched => "NOT_DISPATCHED"
  | .inFlight => "IN_FLIGHT"
  | .outcomeUnknown => "OUTCOME_UNKNOWN"
  | .terminalCommitted => "TERMINAL_COMMITTED"

/-- `CapabilityIdempotency`. -/
inductive Idempotency
  | idempotent
  | deduplicated
  | nonIdempotent
  | unknown
  deriving DecidableEq

def Idempotency.value : Idempotency → String
  | .idempotent => "IDEMPOTENT"
  | .deduplicated => "DEDUPLICATED"
  | .nonIdempotent => "NON_IDEMPOTENT"
  | .unknown => "UNKNOWN"

/-- The capability was declared safe to run again. -/
def Idempotency.replaySafe : Idempotency → Bool
  | .idempotent | .deduplicated => true
  | _ => false

/-- `CapabilityKind`. -/
inductive Kind
  | tool
  | skill
  | agent
  deriving DecidableEq

/-- `CapabilityExecutionMode`. -/
inductive ExecutionMode
  | contextOnly
  | oneShot
  | streaming
  | longRunning
  deriving DecidableEq

inductive ResourceScope
  | sandbox
  | clientLocal
  | asset
  | external
  | internalTrusted
  deriving DecidableEq

inductive FallbackPolicy
  | none
  | semanticallyEquivalentOnly
  deriving DecidableEq

/-- `CapabilityInvocationTarget`. -/
structure Target where
  resourceScope : ResourceScope
  resourceRef : Option String
  stableClientId : Option String
  fallbackPolicy : FallbackPolicy
  deriving DecidableEq

/-! ### Rows -/

/-- A row of `capability_invocations`, and the object in memory that is written to it. -/
structure Invocation where
  invocationId : String
  capabilityId : String
  capabilityVersion : Option String
  kind : Kind
  executionMode : ExecutionMode
  idempotency : Idempotency
  requestFingerprint : Option String
  target : Option Target
  ownerUserId : Option String
  originClientId : Option String
  remoteOutcome : Option RemoteOutcome
  implementationId : Option String
  driverKind : Option String
  state : InvocationState
  waitReason : Option WaitReason := none
  sessionId : Option String
  turnId : Option String
  executionId : Option String
  workflowId : Option String
  toolCallId : Option String
  connectionId : Option String
  attempt : ℕ
  maxAttempts : ℕ
  arguments : JsonObject
  output : Json
  error : Option JsonObject := none
  startedAt : Option ℤ := none
  completedAt : Option ℤ := none
  revision : ℕ
  deriving DecidableEq

structure Attempt where
  attemptId : String
  invocationId : String
  attemptNumber : ℕ
  implementationId : String
  driverKind : String
  connectionId : Option String
  state : InvocationState
  completedAt : Option ℤ := none
  error : Option JsonObject := none
  metadata : JsonObject := []
  deriving DecidableEq

/-! ### Failures -/

structure CapabilityError where
  code : String
  message : String
  category : String := "INTERNAL"
  retryable : Bool := false
  safeForClient : Bool := false
  causeType : Option String := none
  capabilityId : Option String := none
  invocationId : Option String := none
  details : JsonObject := []
  deriving DecidableEq

def optionalText : Option String → Json
  | none => .null
  | some s => .str s

def CapabilityError.modelDump (e : CapabilityError) : JsonObject :=
  [("code", .str e.code), ("message", .str e.message), ("category", .str e.category),
    ("retryable", .bool e.retryable), ("safe_for_client", .bool e.safeForClient),
    ("cause_type", optionalText e.causeType), ("capability_id", optionalText e.capabilityId),
    ("invocation_id", optionalText e.invocationId), ("details", .obj e.details)]

inductive Raised
  | capabilityError (error : CapabilityError)
  | invalidInvocationTransition (message : String)
  | runtimeError (message : String)
  | serializationConflict (message : String)
  | integrityError
  /-- The driver of the database refuses a value. -/
  | databaseError
  | keyError (message : String)
  /-- `CapabilityContinuationDispatchGuardError`. -/
  | guardError (code message : String) (retryable : Bool)
  | cancelledError
  /-- `ExecutionConflictError`. -/
  | executionConflict (message : String)
  /-- `AgentPersistenceSerializationError`, with the path of the value. -/
  | serializationError (path : String)
  /-- `dict` refuses a value. -/
  | conversionError
  deriving DecidableEq

/-! ### Moves -/

def transitions : InvocationState → List InvocationState
  | .created => [.dispatching, .cancelled, .timedOut, .failed]
  | .dispatching => [.running, .waiting, .failed, .cancelled, .timedOut]
  | .running => [.completed, .failed, .cancelled, .timedOut, .retrying, .waiting]
  | .waiting => [.dispatching, .completed, .failed, .cancelled, .timedOut]
  | .retrying => [.dispatching, .waiting, .failed, .cancelled, .timedOut]
  | .completed | .failed | .cancelled | .timedOut => []

def remoteOutcomeTransitions : Option RemoteOutcome → List RemoteOutcome
  | none => [.notDispatched]
  | some .notDispatched => [.inFlight, .outcomeUnknown, .terminalCommitted]
  -- a dispatch may turn out never to have reached the send boundary
  | some .inFlight => [.notDispatched, .outcomeUnknown, .terminalCommitted]
  | some .outcomeUnknown => [.terminalCommitted]
  | some .terminalCommitted => []

/-- `_validate_remote_outcome_transition`: the outcome may become `target`. -/
def remoteOutcomeTransition (current : Option RemoteOutcome) (target : RemoteOutcome) : Bool :=
  current = some target || target ∈ remoteOutcomeTransitions current

def outcomeName (outcome : Option RemoteOutcome) : String :=
  outcome.elim "NONE" RemoteOutcome.value

structure Changes where
  waitReason : Option WaitReason := none
  output : Json := .null
  error : Option JsonObject := none
  remoteOutcome : Option RemoteOutcome := none

def Invocation.move (v : Invocation) (state : InvocationState) (c : Changes) (now : ℤ) :
    Invocation :=
  { v with
    state := state
    waitReason := c.waitReason
    remoteOutcome := c.remoteOutcome.or v.remoteOutcome
    revision := v.revision + 1
    startedAt := if state = .running then v.startedAt.or (some now) else v.startedAt
    completedAt := if state.isTerminal then some now else v.completedAt
    output := if state.isTerminal then c.output else v.output
    error := if state.isTerminal then c.error else v.error }

def transitionInvocation (v : Invocation) (state : InvocationState) (c : Changes) (now : ℤ) :
    Except Raised Invocation :=
  if state ∉ transitions v.state then
    .error (.invalidInvocationTransition
      s!"Invalid invocation transition: {v.state.value} -> {state.value}")
  else if state = .waiting ∧ c.waitReason = none then
    .error (.invalidInvocationTransition "WAITING requires wait_reason")
  else if state ≠ .waiting ∧ c.waitReason ≠ none then
    .error (.invalidInvocationTransition "wait_reason is only valid for WAITING")
  else if !c.remoteOutcome.all (remoteOutcomeTransition v.remoteOutcome) then
    .error (.invalidInvocationTransition ("Invalid remote outcome transition: " ++
      outcomeName v.remoteOutcome ++ " -> " ++ outcomeName c.remoteOutcome))
  else .ok (v.move state c now)

/-- `update_remote_outcome`, without its write: `none` where the outcome is there already. -/
def changeRemoteOutcome (v : Invocation) (outcome : RemoteOutcome) :
    Except Raised (Option Invocation) :=
  if v.remoteOutcome = some outcome then .ok none
  else if remoteOutcomeTransition v.remoteOutcome outcome then
    .ok (some { v with remoteOutcome := some outcome, revision := v.revision + 1 })
  else .error (.invalidInvocationTransition ("Invalid remote outcome transition: " ++
    outcomeName v.remoteOutcome ++ " -> " ++ outcome.value))

/-! ### What moves do -/

/-- What no move changes: what the invocation is, whose it is, and what it was asked to do. -/
structure Invocation.Advances (v w : Invocation) : Prop where
  invocationId : w.invocationId = v.invocationId
  capabilityId : w.capabilityId = v.capabilityId
  capabilityVersion : w.capabilityVersion = v.capabilityVersion
  idempotency : w.idempotency = v.idempotency
  requestFingerprint : w.requestFingerprint = v.requestFingerprint
  target : w.target = v.target
  ownerUserId : w.ownerUserId = v.ownerUserId
  originClientId : w.originClientId = v.originClientId
  executionId : w.executionId = v.executionId
  toolCallId : w.toolCallId = v.toolCallId
  arguments : w.arguments = v.arguments

theorem Invocation.Advances.refl (v : Invocation) : v.Advances v := by
  constructor <;> rfl

theorem Invocation.Advances.trans {u v w : Invocation} (h : u.Advances v) (h' : v.Advances w) :
    u.Advances w where
  invocationId := h'.invocationId.trans h.invocationId
  capabilityId := h'.capabilityId.trans h.capabilityId
  capabilityVersion := h'.capabilityVersion.trans h.capabilityVersion
  idempotency := h'.idempotency.trans h.idempotency
  requestFingerprint := h'.requestFingerprint.trans h.requestFingerprint
  target := h'.target.trans h.target
  ownerUserId := h'.ownerUserId.trans h.ownerUserId
  originClientId := h'.originClientId.trans h.originClientId
  executionId := h'.executionId.trans h.executionId
  toolCallId := h'.toolCallId.trans h.toolCallId
  arguments := h'.arguments.trans h.arguments

theorem Invocation.advances_move (v : Invocation) (state : InvocationState) (c : Changes)
    (now : ℤ) : v.Advances (v.move state c now) := by
  constructor <;> rfl

variable {v w : Invocation} {state : InvocationState}

/-- **When a move is permitted, and what it does.** -/
theorem transitionInvocation_eq_ok {c : Changes} {now : ℤ} :
    transitionInvocation v state c now = .ok w ↔
      state ∈ transitions v.state ∧ (state = .waiting ↔ c.waitReason ≠ none) ∧
        (∀ o ∈ c.remoteOutcome, remoteOutcomeTransition v.remoteOutcome o = true) ∧
        w = v.move state c now := by
  have hall : c.remoteOutcome.all (remoteOutcomeTransition v.remoteOutcome) = true ↔
      ∀ o ∈ c.remoteOutcome, remoteOutcomeTransition v.remoteOutcome o = true := by
    simp [Option.all_eq_true]
  unfold transitionInvocation
  constructor
  · intro h
    split_ifs at h with hpermitted hmissing hextra houtcome
    refine ⟨hpermitted, ⟨fun hw hc => hmissing ⟨hw, hc⟩, fun hc => ?_⟩,
      hall.1 (by simpa using houtcome), (Except.ok.inj h).symm⟩
    by_contra hw
    exact hextra ⟨hw, hc⟩
  · rintro ⟨hpermitted, hreason, houtcome, rfl⟩
    rw [if_neg (not_not.2 hpermitted), if_neg (fun h => hreason.1 h.1 h.2),
      if_neg (fun h => h.1 (hreason.2 h.2)), if_neg (by simpa using hall.2 houtcome)]

/-- Only an invocation that nothing was dispatched for may begin to have a remote side effect. -/
theorem ne_none_of_remoteOutcomeTransition {current : Option RemoteOutcome}
    {target : RemoteOutcome} (h : remoteOutcomeTransition current target = true)
    (hne : target ≠ .notDispatched) : current ≠ none := by
  rintro rfl
  cases target with
  | notDispatched => exact hne rfl
  | _ => cases h

/-- A move that does not say so leaves open or closed whether there is a remote side effect. -/
theorem remoteOutcome_eq_none_iff_of_transition {c : Changes} {now : ℤ}
    (h : transitionInvocation v state c now = .ok w)
    (hnd : c.remoteOutcome = some .notDispatched → v.remoteOutcome ≠ none) :
    w.remoteOutcome = none ↔ v.remoteOutcome = none := by
  obtain ⟨-, -, houtcome, rfl⟩ := transitionInvocation_eq_ok.1 h
  cases hc : c.remoteOutcome with
  | none => simp [Invocation.move, hc]
  | some o =>
    have hv : v.remoteOutcome ≠ none := by
      by_cases ho : o = .notDispatched
      · exact hnd (ho ▸ hc)
      · exact ne_none_of_remoteOutcomeTransition (houtcome o hc) ho
    simp [Invocation.move, hc, hv]

variable {outcome : RemoteOutcome}

theorem changeRemoteOutcome_ok (h : changeRemoteOutcome v outcome = .ok (some w)) :
    remoteOutcomeTransition v.remoteOutcome outcome = true ∧ v.remoteOutcome ≠ some outcome ∧
      w = { v with remoteOutcome := some outcome, revision := v.revision + 1 } := by
  unfold changeRemoteOutcome at h
  split at h
  · cases h
  · rename_i hne
    split at h
    · rename_i hpermitted
      exact ⟨hpermitted, hne, (Option.some.inj (Except.ok.inj h)).symm⟩
    · cases h

theorem changeRemoteOutcome_none {v : Invocation} (h : changeRemoteOutcome v outcome = .ok none) :
    v.remoteOutcome = some outcome := by
  unfold changeRemoteOutcome at h
  split at h
  · next hsame => exact hsame
  · split at h <;> cases h

/-! ### Which implementation runs a capability

A capability may have several implementations, on the server and on connected clients.  The routing
policy picks one of the routable ones for a request; a retry asks again, without those that were
tried before. -/

/-- `CapabilityExecutionLocation`. -/
inductive Location
  | server
  | client
  | mcp
  | declarative
  deriving DecidableEq

/-- `CapabilityImplementation`, with the metadata that routing reads. -/
structure Implementation where
  implementationId : String
  location : Location
  driverKind : String
  ownerId : Option String := none
  connectionId : Option String := none
  /-- `metadata["client_id"]`, or the empty text. -/
  clientId : String := ""
  /-- `metadata["resource_scopes"]`. -/
  resourceScopes : List ResourceScope := []
  deriving DecidableEq

/-- A driver: the one that hands a request to a client, or one of those that run on the server. -/
inductive Driver
  /-- `RemoteClientDriver`. -/
  | remote (connectionId : String)
  | server
  deriving DecidableEq

/-- `isinstance(driver, RemoteClientDriver)`. -/
def Driver.isRemote : Driver → Bool
  | .remote _ => true
  | .server => false

/-- `CapabilityRequestContext`. -/
structure RequestContext where
  ownerId : Option String
  connectionId : Option String
  target : Option Target

/-- What routing reads of the running system. -/
structure RoutingState where
  contained : Bool
  routable : List Implementation
  active : List String
  /-- The caller has the scopes that the definition requires. -/
  scopesGranted : Bool
  /-- The implementations that a driver of this capability is bound to. -/
  bound : List String
  /-- There is a driver registered by the name of the capability alone. -/
  legacyDriver : Bool
  /-- `authorization.is_allowed` of the selected driver. -/
  allowed : Bool

/-- An optional text that is there and not empty. -/
def present (text : Option String) : Bool := text.any (· ≠ "")

def implementationSupportsTarget (i : Implementation) : Option Target → Bool
  | none => true
  | some t =>
    if t.resourceScope = .clientLocal then
      i.location = .client && i.clientId ≠ "" && t.stableClientId = some i.clientId
    else
      t.stableClientId.all (fun client => i.location = .client && i.clientId = client) &&
        t.resourceScope ∈ i.resourceScopes

def authorize (env : RoutingState) (context : RequestContext) (i : Implementation) : Bool :=
  (i.location ≠ .client ||
    present i.ownerId && present i.connectionId && context.ownerId = i.ownerId &&
      (if context.target = none then context.connectionId = i.connectionId
        else implementationSupportsTarget i context.target) &&
      i.connectionId.any (· ∈ env.active)) &&
    env.scopesGranted

/-- Client implementations of the request's own connection come first. -/
def onConnection (connectionId : String) (i : Implementation) : Bool :=
  i.location = .client && i.connectionId = some connectionId

/-- The candidates in the order in which they are tried, before a preference is applied. -/
def routingCandidates (context : RequestContext) (excluded : List String)
    (routable : List Implementation) : List Implementation :=
  let candidates := routable.filter (·.implementationId ∉ excluded)
  match context.target with
  | some t =>
    let candidates := candidates.filter (implementationSupportsTarget · (some t))
    let candidates := if excluded ≠ [] ∧ t.fallbackPolicy = .none then [] else candidates
    match context.connectionId with
    | none => candidates
    | some c => candidates.filter (onConnection c) ++ candidates.filter (!onConnection c ·)
  | none =>
    match context.connectionId with
    | none => candidates
    | some c => candidates.filter (onConnection c) ++ candidates.filter (·.location ≠ .client)

/-- The implementation that the request prefers comes first, or stands alone. -/
def preferring (target : Option Target) (preferred : Option String)
    (candidates : List Implementation) : List Implementation :=
  match preferred with
  | none => candidates
  | some p =>
    let first := candidates.filter (·.implementationId = p)
    match target.map Target.fallbackPolicy with
    | some .none => first
    | _ => first ++ candidates.filter (·.implementationId ≠ p)

def select (env : RoutingState) (context : RequestContext) (preferred : Option String)
    (excluded : List String) : Option Implementation :=
  (preferring context.target preferred (routingCandidates context excluded env.routable)).find?
    (authorize env context)

/-- What `_resolve_execution_driver` and the check of the driver that follows come to. -/
inductive Resolution
  /-- Nothing can run the capability, or the caller may not use what could. -/
  | unavailable
  /-- The catalog does not know the capability; a driver of that name does. -/
  | legacy
  | selected (i : Implementation) (driver : Driver)
  deriving DecidableEq

def resolveExecutionDriver (env : RoutingState) (context : RequestContext)
    (preferred : Option String) (excluded : List String) : Resolution :=
  if !env.allowed then .unavailable
  else if !env.contained then
    if context.target = none && env.legacyDriver then .legacy else .unavailable
  else match select env context preferred excluded with
    | none => .unavailable
    | some i =>
      if i.location = .client then
        match i.connectionId with
        | none => .unavailable
        | some c => if c = "" then .unavailable else .selected i (.remote c)
      else if i.implementationId ∈ env.bound || i.location = .server && env.legacyDriver then
        .selected i .server
      else .unavailable

end AssistantRuntime.Capability

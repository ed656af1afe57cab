/-
**One logical request over a chain of providers** (`provider/executor.py`, `provider/policies/retry.py`,
`provider/handlers/chat_handler.py`).

For each provider of its chain the handler asks for capabilities, projects assets, and dispatches the
request to the executor.  The executor passes the circuit breaker and lets the retry policy make
attempts, all on one budget of time and retries; a stream is never tried again once it was sent.
After a success the usage is settled, and the response or the rest of the stream goes to the caller.

A request is a program that asks its environment for everything that others decide: how long something
takes, what a provider answers, what a guard or a breaker says, what the caller does with a chunk.
Time passes only while the program waits.  What the program did is kept in `Call`.
-/

import AssistantRuntime.Concurrent.Program
import AssistantRuntime.Provider.CircuitBreaker
import AssistantRuntime.UserBudget.InferenceQuota

namespace AssistantRuntime.Provider

open Concurrent

/-! ### What a provider call raises

Exceptions are known by the classes that the retry policy, the executor and the handler tell apart.
Errors of `httpx` are turned into provider errors by their status; whether a failed attempt may be
made again is decided on the error as it was raised, and on the normalized one if it was no error of
`httpx`. -/

/-- The subclasses of `ProviderError` apart from the deadline. -/
inductive ProviderErrorKind
  | generic
  | fallbackExhausted
  | authentication
  | rateLimited
  | unavailable
  | modelUnavailable
  | responseInvalid
  deriving DecidableEq, Repr

/-- An exception.  `retryAfter` is the delay of its hint, if it has one. -/
inductive Fault
  /-- `ProviderError`, with the delay of its retry hint. -/
  | provider (kind : ProviderErrorKind) (retryAfter : Option ℤ)
  /-- `ProviderDeadlineExceededError`, a `ProviderError` too. -/
  | deadlineExceeded
  /-- `ProviderCallTimeoutError`. -/
  | callTimeout
  /-- `ProviderFirstResponseTimeoutError`. -/
  | firstResponseTimeout
  /-- `ProviderStreamIdleTimeoutError`. -/
  | streamIdleTimeout
  /-- `ProviderRecoveryAuthorityLostError`. -/
  | recoveryAuthorityLost
  /-- `ProviderRecoveryGuardError`, with `original_error`. -/
  | recoveryGuard (original : Fault)
  /-- `httpx.HTTPStatusError`, with the hint that its response carries. -/
  | httpStatus (statusCode : ℤ) (retryAfter : Option ℤ)
  /-- `httpx.TimeoutException`. -/
  | httpTimeout
  /-- `httpx.ConnectError`. -/
  | httpConnect
  /-- Any other `httpx.RequestError`. -/
  | httpRequest
  /-- `CircuitBreakerOpenError`. -/
  | circuitOpen
  /-- Any other `Exception`. -/
  | exception
  /-- `asyncio.CancelledError`, raised because the task of the caller is being cancelled or not. -/
  | cancelled (byCaller : Bool)
  /-- What is no `Exception`: the `GeneratorExit` of a stream that is closed, an interrupt. -/
  | baseException
  deriving DecidableEq, Repr

namespace Fault

def IsException : Fault → Prop
  | cancelled _ | baseException => False
  | _ => True

instance (f : Fault) : Decidable f.IsException := by
  cases f <;> unfold IsException <;> infer_instance

/-- `except (ProviderError, httpx.RequestError, httpx.HTTPStatusError)` catches it. -/
def IsProviderFailure : Fault → Prop
  | provider _ _ | deadlineExceeded | httpStatus _ _ | httpTimeout | httpConnect | httpRequest => True
  | _ => False

instance (f : Fault) : Decidable f.IsProviderFailure := by
  cases f <;> unfold IsProviderFailure <;> infer_instance

def IsServerError (statusCode : ℤ) : Prop := 500 ≤ statusCode ∧ statusCode < 600
  deriving Decidable

def wrapProviderException : Fault → Fault
  | provider kind retryAfter => provider kind retryAfter
  | deadlineExceeded => deadlineExceeded
  | httpStatus statusCode retryAfter =>
    if statusCode = 401 ∨ statusCode = 403 then provider .authentication none
    else if statusCode = 429 then provider .rateLimited retryAfter
    else if statusCode = 408 ∨ IsServerError statusCode then provider .unavailable none
    else provider .generic none
  | httpTimeout | httpConnect | httpRequest => provider .unavailable none
  | _ => provider .generic none

def normalizeError (raw : Fault) : Fault :=
  if raw.IsProviderFailure then raw.wrapProviderException else raw

def IsRetryable : Fault → Prop
  | httpTimeout | httpConnect => True
  | provider .rateLimited _ | provider .unavailable _ => True
  | httpStatus statusCode _ => statusCode = 429 ∨ IsServerError statusCode
  | _ => False

instance (f : Fault) : Decidable f.IsRetryable := by
  cases f with
  | provider kind _ => cases kind <;> unfold IsRetryable <;> infer_instance
  | httpStatus _ _ => exact inferInstanceAs (Decidable (_ ∨ _))
  | _ => unfold IsRetryable; infer_instance

def Retryable : Fault → Prop
  | httpStatus statusCode _ => statusCode = 429 ∨ IsServerError statusCode
  | httpTimeout | httpConnect => True
  | httpRequest => False
  | raw => raw.normalizeError.IsRetryable

instance (f : Fault) : Decidable f.Retryable := by
  cases f with
  | httpStatus _ _ => exact inferInstanceAs (Decidable (_ ∨ _))
  | _ => unfold Retryable; infer_instance

/-- `retry_after_seconds`, of the exceptions that have it. -/
def retryAfterSeconds : Fault → Option ℤ
  | provider _ retryAfter => retryAfter
  | _ => none

end Fault

/-! ### The state of a request -/

/-- A call of `provider.chat.chat`, or the first read of a stream of `provider.chat.chat_stream`. -/
structure Send where
  provider : String
  startedAt : ℤ
  deriving DecidableEq, Repr

/-- The local variables of `execute` and `execute_stream`. -/
structure ExecutorFlags where
  providerAttempted : Bool := false
  /-- `recovery_guard_aborted_before_send`. -/
  guardAborted : Bool := false
  /-- `recovery_guard_control_flow_error` is set. -/
  guardControlFlow : Bool := false
  /-- `half_open_probe_acquired`. -/
  probeAcquired : Bool := false

/-- The local variables of one round of `stream_with_fallback`. -/
structure StreamFlags where
  streamStarted : Bool := false
  /-- `stream_assembler.media_seen`. -/
  mediaSeen : Bool := false
  terminalSeen : Bool := false
  /-- `normalized_stream_usage`. -/
  usage : Option UserBudget.InferenceUsage := none
  /-- The number of the send that the stream comes from. -/
  source : Option ℕ := none

/-- The state of one logical request. -/
structure Call where
  now : ℤ
  /-- `call_budget.deadline_monotonic`. -/
  deadline : ℤ := 0
  maxRetries : ℕ := 0
  retriesUsed : ℕ := 0
  /-- `executor_dispatch_count`. -/
  dispatches : ℕ := 0
  assetAttemptTerminal : Bool := false
  executor : ExecutorFlags := {}
  stream : StreamFlags := {}
  sends : List Send := []
  /-- For every chunk that the caller got, the number of the send that it comes from. -/
  delivered : List ℕ := []
  settled : List UserBudget.InferenceUsage := []

def Call.retriesRemaining (c : Call) : ℤ := c.maxRetries - c.retriesUsed

/-! ### The environment -/

/-- What is raised by code that knows nothing of providers: the quota, the canonicalizer, the
consumer of a stream. -/
inductive Interruption
  | exception
  | cancelled (byCaller : Bool)
  | baseException
  deriving DecidableEq, Repr

def Interruption.fault : Interruption → Fault
  | exception => .exception
  | cancelled byCaller => .cancelled byCaller
  | baseException => .baseException

/-- A choice of a chunk, as the handler reads it. -/
structure StreamChoice where
  /-- `finish_reason` is set. -/
  finished : Bool := false
  /-- The delta has content, reasoning content or tool calls. -/
  semantic : Bool := false
  deriving DecidableEq, Repr

/-- `GatewayStreamChunk`, as the handler reads it. -/
structure Chunk where
  choices : List StreamChoice := []
  /-- `metadata.content_parts` is not empty. -/
  contentParts : Bool := false
  /-- `usage`, as `normalize_stream_usage` reads it. -/
  usage : Option UserBudget.InferenceUsage := none

/-- `GatewayResponse`, with its usage as `normalize_gateway_usage` reads it. -/
structure Response where
  usage : UserBudget.InferenceUsage

/-- What `asyncio.wait` for the next chunk ends with. -/
inductive StreamEvent
  | chunk (c : Chunk)
  /-- `StopAsyncIteration`. -/
  | stop
  | raised (f : Fault)
  /-- The next chunk did not come in time. -/
  | timedOut

/-- The next event of a stream, and what follows when it is a chunk: the assembler shows it, hides it
or raises, and the consumer takes its time and may close the stream. -/
structure Arrival where
  waited : ℕ
  event : StreamEvent
  observed : Except Interruption Bool := .ok true
  /-- `media_seen` afterwards. -/
  media : Bool := false
  held : ℕ := 0
  closed : Option Interruption := none

/-- How the wait of `await_with_provider_deadline` begins. -/
inductive TaskStart
  | started
  /-- The time was over before the task ran. -/
  | timedOut
  | callerCancelled
  deriving DecidableEq, Repr

inductive ModelCapability
  | chat
  | chatStream
  | toolCalling
  deriving DecidableEq, Repr

/-- What a request asks its environment. -/
inductive Question
  | reserveQuota
  /-- The breakers of the chain are asked which providers are healthy. -/
  | health (chain : List String)
  | startTask
  | probe (provider : String) (capability : ModelCapability)
  | projectAssets (provider : String)
  /-- `breaker.before_request`. -/
  | admission (provider : String)
  | recoveryGuard
  | chat (provider : String) (timeout : ℤ)
  /-- `random.uniform(0, 1)`. -/
  | jitter
  | sleep (delay : ℤ)
  | report (provider : String) (settlement : Settlement)
  | chatStream (provider : String) (timeout : ℤ)
  /-- The task of the first read of a stream waits for its turn. -/
  | startRead (remaining : ℤ)
  | settleQuota (usage : UserBudget.InferenceUsage)
  | canonicalize
  /-- `stream_assembler.finalize`. -/
  | finalize
  /-- The caller takes the canonical chunk. -/
  | takeCanonical

/-- A wait: how long it took and what came of it. -/
abbrev Wait (ε α : Type) := ℕ × Except ε α

/-- The answers.  A breaker refuses or admits, and says whether the request is its probe; a stream
answers with all that will come of it, as far as it is read. -/
def Answer : Question → Type
  | .reserveQuota => Wait Fault Unit
  | .health _ => Wait Interruption (List Bool)
  | .startTask => ℕ × TaskStart
  | .probe _ _ => Wait Fault Bool
  | .projectAssets _ => Wait Fault Unit
  | .admission _ => Wait Interruption (Option Bool)
  | .recoveryGuard => Wait Fault Unit
  | .chat _ _ => Wait Fault Response
  | .jitter => ℕ
  | .sleep _ => Wait Interruption Unit
  | .report _ _ => Wait Interruption Unit
  | .chatStream _ _ => List Arrival
  | .startRead _ => ℕ
  | .settleQuota _ => Wait Interruption Unit
  | .canonicalize => Wait Interruption Unit
  | .finalize => Wait Interruption Bool
  | .takeCanonical => Wait Interruption Unit

/-! ### Programs -/

/-- What a program raises.  `fromGuard` says that the exception is the original error of the guard
error that it was raised from.  `outOfRounds` is the end of the bound on the retry loop. -/
inductive Thrown
  | fault (f : Fault) (fromGuard : Bool)
  | outOfRounds
  deriving DecidableEq, Repr

abbrev Flow (α : Type) := ExceptT Thrown (Prog Call Question Answer) α

def raise {α : Type} (f : Fault) : Flow α := throw (.fault f false)

def whenever (b : Prop) [Decidable b] (x : Flow Unit) : Flow Unit := if b then x else pure ()

def getCall : Flow Call := ExceptT.lift (Prog.perform fun _ c => (c, c))

def modifyCall (f : Call → Call) : Flow Unit := ExceptT.lift (Prog.perform fun _ c => ((), f c))

def askFor (q : Question) : Flow (Answer q) := ExceptT.lift (Prog.query q)

def elapse (t : ℕ) : Flow Unit := modifyCall fun c => { c with now := c.now + t }

def awaited {α : Type} (w : Wait Fault α) : Flow α := do
  elapse w.1
  match w.2 with
  | .ok a => pure a
  | .error f => raise f

/-- The end of a wait for code that knows nothing of providers. -/
def awaitedOutside {α : Type} (w : Wait Interruption α) : Flow α := do
  elapse w.1
  match w.2 with
  | .ok a => pure a
  | .error e => raise e.fault

/-- `_remaining_or_raise`, and the same check of the retry policy and of `_remaining_timeout`. -/
def remainingOrRaise : Flow ℤ := do
  let c ← getCall
  if c.deadline - c.now ≤ 0 then raise .deadlineExceeded else pure (c.deadline - c.now)

def awaitWithProviderDeadline {α : Type} (operation : ℤ → Flow α) : Flow α := do
  let remaining ← remainingOrRaise
  let (waited, start) ← askFor .startTask
  elapse waited
  match start with
  | .timedOut => raise .deadlineExceeded
  | .callerCancelled => raise (.cancelled true)
  | .started =>
    match ← attempted (operation remaining) with
    | .error (.fault (.cancelled true) _) => raise (.cancelled true)
    | .error (.fault .baseException _) => raise .baseException
    | result => do
      let _ ← remainingOrRaise
      returned result

/-! ### The retry policy -/

def second : ℤ := 1000000

def raiseCurrent {α : Type} (raw : Fault) : Flow α := raise raw.normalizeError

def tryConsumeRetry : Flow Bool := do
  let c ← getCall
  if c.maxRetries ≤ c.retriesUsed then pure false
  else
    modifyCall fun c => { c with retriesUsed := c.retriesUsed + 1 }
    pure true

/-- The delay before the next attempt: exponential with a random part, or what the provider asked
for. -/
def effectiveDelay (providerRetryIndex jitter : ℕ) (raw : Fault) : ℤ :=
  max (2 ^ providerRetryIndex * second + jitter) (raw.normalizeError.retryAfterSeconds.getD 0)

/-- `_apply_budgeted`, for at most so many rounds of its loop. -/
def applyBudgeted {α : Type} (executionFunc : Flow α) : ℕ → ℕ → Flow α
  | 0, _ => throw .outOfRounds
  | rounds + 1, providerRetryIndex => do
    let _ ← remainingOrRaise
    match ← attempted executionFunc with
    | .ok a => pure a
    | .error .outOfRounds => throw .outOfRounds
    | .error (.fault raw fromGuard) =>
      if ¬ raw.IsException then throw (.fault raw fromGuard)
      else if ¬ raw.Retryable then raiseCurrent raw
      else
        let c ← getCall
        if c.retriesRemaining ≤ 0 then raiseCurrent raw
        else
          let jitter : ℕ ← askFor .jitter
          if c.deadline - c.now ≤ 0
              ∨ c.deadline - c.now ≤ effectiveDelay providerRetryIndex jitter raw then
            raiseCurrent raw
          else
            awaitedOutside (← askFor (.sleep (effectiveDelay providerRetryIndex jitter raw)))
            let _ ← remainingOrRaise
            if ← tryConsumeRetry then applyBudgeted executionFunc rounds (providerRetryIndex + 1)
            else raiseCurrent raw

/-! ### The executor -/

def setFlags (f : ExecutorFlags → ExecutorFlags) : Flow Unit :=
  modifyCall fun c => { c with executor := f c.executor }

def sendTo (provider : String) : Flow Unit :=
  modifyCall fun c =>
    { c with
      executor := { c.executor with providerAttempted := true }
      sends := c.sends ++ [⟨provider, c.now⟩] }

def runRecoveryGuard : Flow Unit := do
  match ← attempted (do awaited (← askFor .recoveryGuard)) with
  | .ok () => pure ()
  | .error .outOfRounds => throw .outOfRounds
  | .error (.fault f _) =>
    match f with
    | .recoveryAuthorityLost =>
      setFlags fun flags => { flags with guardAborted := true }
      raise .recoveryAuthorityLost
    | .cancelled _ | .baseException =>
      setFlags fun flags => { flags with guardAborted := true, guardControlFlow := true }
      raise f
    | _ =>
      setFlags fun flags => { flags with guardAborted := true }
      raise (.recoveryGuard f)

/-- The guard, and the deadline that dominates the loss of authority. -/
def guardAttempt : Flow Unit := do
  match ← attempted runRecoveryGuard with
  | .error (.fault .recoveryAuthorityLost _) =>
    let _ ← remainingOrRaise
    raise .recoveryAuthorityLost
  | result => returned result

def executionFunc (provider : String) (timeout : ℤ) (guarded : Bool) : Flow Response := do
  let _ ← remainingOrRaise
  whenever guarded guardAttempt
  let _ ← remainingOrRaise
  awaitWithProviderDeadline fun remaining => do
    let currentRemaining ← remainingOrRaise
    let bounded := min timeout (min remaining currentRemaining)
    sendTo provider
    awaited (← askFor (.chat provider bounded))

/-- The class of an exception, as the clauses of the executors see it. -/
def Fault.raised : Fault → Raised
  | .cancelled _ => .cancelled
  | .recoveryGuard _ => .recoveryGuard
  | .recoveryAuthorityLost => .recoveryAuthorityLost
  | .deadlineExceeded => .deadlineExceeded
  | .firstResponseTimeout | .streamIdleTimeout => .streamTimeout
  | .circuitOpen => .circuitOpen
  | .baseException => .baseException
  | _ => .exception

/-- How the guarded part of the executor ended. -/
def ExecutorFlags.ending (flags : ExecutorFlags) (f : Fault) : Ending :=
  { raised := some f.raised
    providerAttempted := flags.providerAttempted
    guardAborted := flags.guardAborted
    guardControlFlow := flags.guardControlFlow
    callerCancelled := f = .cancelled true }

/-- The breaker is told; only an outcome is a wait. -/
def reportTo (provider : String) : Settlement → Flow Unit
  | .nothing => pure ()
  | .release => do let _ ← askFor (.report provider .release)
  | s => do awaitedOutside (← askFor (.report provider s))

def executeRaises (flags : ExecutorFlags) : Fault → Thrown
  | .recoveryGuard original => .fault original true
  | .circuitOpen =>
    if flags.guardAborted then .fault .circuitOpen false else .fault (.provider .generic none) false
  | .cancelled byCaller => .fault (.cancelled byCaller) false
  | .recoveryAuthorityLost => .fault .recoveryAuthorityLost false
  | .deadlineExceeded => .fault .deadlineExceeded false
  | .baseException => .fault .baseException false
  | f => if flags.guardAborted then .fault f false else .fault f.wrapProviderException false

/-- The `try` block of `execute`. -/
def executeGuarded (provider : String) (timeout : ℤ) (guarded : Bool) : Flow Response := do
  let _ ← remainingOrRaise
  match ← awaitedOutside (← askFor (.admission provider)) with
  | none => raise .circuitOpen
  | some probe =>
    setFlags fun flags => { flags with probeAcquired := probe }
    let c ← getCall
    let response ← applyBudgeted (executionFunc provider timeout guarded) (c.maxRetries + 1) 0
    reportTo provider .success
    pure response

def execute (provider : String) (timeout : ℤ) (guarded : Bool) : Flow Response := do
  setFlags fun _ => {}
  match ← attempted (executeGuarded provider timeout guarded) with
  | .ok response => pure response
  | .error .outOfRounds => throw .outOfRounds
  | .error (.fault f _) =>
    let flags := (← getCall).executor
    reportTo provider (executeSettlement (flags.ending f) flags.probeAcquired)
    throw (executeRaises flags f)

/-! ### Streams -/

/-- `_has_stream_semantic_or_finish_progression`. -/
def Chunk.progression (c : Chunk) : Bool :=
  c.choices.any (fun choice => choice.finished || choice.semantic) || c.contentParts

def Chunk.terminal (c : Chunk) : Bool :=
  !c.choices.isEmpty && c.choices.all (·.finished)

structure HandlerSettings where
  timeout : ℤ
  maxRetries : ℤ
  /-- An inference quota is configured and enabled. -/
  quotaEnabled : Bool
  normalizationIdentity : String := ""
  firstResponseTimeout : Option ℤ := none
  streamIdleTimeout : Option ℤ := none

/-- How the reading of a stream ends without an exception of the executor. -/
inductive StreamEnd
  | finished
  /-- The body of the loop that reads the stream raised, and the stream is closed. -/
  | readerRaised (e : Thrown)

/-- The first read of a stream.  It is a task of its own, which sends in its first step, when the event
loop comes to it, and does not look at the clock again. -/
def openStream (provider : String) (remaining : ℤ) : Flow Unit := do
  let waited : ℕ ← askFor (.startRead remaining)
  elapse waited
  let c ← getCall
  sendTo provider
  modifyCall fun d => { d with stream := { d.stream with source := some c.sends.length } }

/-- The loop of `execute_stream`.  What is read is given to the body of the loop of the handler. A wait
that ends without a chunk ended because the deadline or the limit on the silence of the provider was
reached; a reader that stops closes the stream. -/
def pullChunks (cfg : HandlerSettings) (provider : String) (reader : Arrival → Chunk → Flow Unit) :
    List Arrival → Bool → Bool → Flow StreamEnd
  | [], _, _ => pure (.readerRaised (.fault .baseException false))
  | a :: rest, opened, semanticProgressSeen => do
    let remaining ← remainingOrRaise
    whenever (¬ opened) (openStream provider remaining)
    elapse a.waited
    match a.event with
    | .stop => pure .finished
    | .raised f => raise f
    | .timedOut =>
      let _ ← remainingOrRaise
      if ¬ semanticProgressSeen then
        if cfg.firstResponseTimeout.isSome then raise .firstResponseTimeout else raise .exception
      else if cfg.streamIdleTimeout.isSome then raise .streamIdleTimeout
      else raise .exception
    | .chunk c =>
      let _ ← remainingOrRaise
      match ← attempted (reader a c) with
      | .error e => pure (.readerRaised e)
      | .ok () => pullChunks cfg provider reader rest true (semanticProgressSeen || c.progression)

def executeStreamRaises : Fault → Fault
  | .firstResponseTimeout => .firstResponseTimeout
  | .streamIdleTimeout => .streamIdleTimeout
  | .deadlineExceeded => .deadlineExceeded
  | .circuitOpen => .provider .generic none
  | .cancelled byCaller => .cancelled byCaller
  | .baseException => .baseException
  | f => f.wrapProviderException

def executeStreamGuarded (cfg : HandlerSettings) (provider : String)
    (reader : Arrival → Chunk → Flow Unit) : Flow StreamEnd := do
  let _ ← remainingOrRaise
  match ← awaitedOutside (← askFor (.admission provider)) with
  | none => raise .circuitOpen
  | some _ =>
    let remaining ← remainingOrRaise
    let script : List Arrival ← askFor (.chatStream provider (min cfg.timeout remaining))
    match ← pullChunks cfg provider reader script false false with
    | .finished =>
      reportTo provider .success
      pure .finished
    | .readerRaised e => pure (.readerRaised e)

/-- `positive_optional` refuses the value. -/
def NotPositive (value : Option ℤ) : Prop := ∃ v ∈ value, v ≤ 0
  deriving Decidable

/-- `execute_stream`, with the body of the loop that reads it. -/
def executeStream (cfg : HandlerSettings) (provider : String)
    (reader : Arrival → Chunk → Flow Unit) : Flow StreamEnd := do
  setFlags fun _ => {}
  whenever (NotPositive cfg.firstResponseTimeout ∨ NotPositive cfg.streamIdleTimeout)
    (raise .exception)
  match ← attempted (executeStreamGuarded cfg provider reader) with
  | .ok outcome => pure outcome
  | .error .outOfRounds => throw .outOfRounds
  | .error (.fault f _) =>
    let flags := (← getCall).executor
    reportTo provider (executeStreamSettlement (flags.ending f))
    raise (executeStreamRaises f)

/-! ### The handler -/

structure ChatRequest where
  /-- `routing_policy.get_fallback_chain`. -/
  executionChain : List String
  toolsPresent : Bool := false
  /-- The body contains canonical assets that have to be projected. -/
  containsAssets : Bool := false
  callerDeadline : Option ℤ := none
  guarded : Bool := false

def newCallBudget (cfg : HandlerSettings) (req : ChatRequest) : Flow Unit := do
  whenever (cfg.timeout ≤ 0) (raise .deadlineExceeded)
  let c ← getCall
  let effectiveDeadline := match req.callerDeadline with
    | some callerDeadline => min (c.now + cfg.timeout) callerDeadline
    | none => c.now + cfg.timeout
  whenever (effectiveDeadline ≤ c.now) (raise .deadlineExceeded)
  modifyCall fun c =>
    { c with deadline := effectiveDeadline, maxRetries := cfg.maxRetries.toNat, retriesUsed := 0 }

def probeCapability (provider : String) (capability : ModelCapability) : Flow Bool :=
  awaitWithProviderDeadline fun _ => do awaited (← askFor (.probe provider capability))

def hasRequiredCapabilities (req : ChatRequest) (provider : String) (base : ModelCapability) :
    Flow Bool := do
  if ← probeCapability provider base then
    if req.toolsPresent then probeCapability provider .toolCalling else pure true
  else pure false

def projectAssetAttempt (provider : String) : Flow Unit :=
  awaitWithProviderDeadline fun _ => do awaited (← askFor (.projectAssets provider))

def unknownAmbiguousUsage (usage : UserBudget.InferenceUsage) : UserBudget.InferenceUsage :=
  { usage with
    inputTokens := none, outputTokens := none, totalTokens := none, computeUnits := none
    costUsd := none }

/-- The usage that is settled: that of the last attempt only if it was the only one. -/
def Call.settlementUsage (c : Call) (usage : UserBudget.InferenceUsage) :
    UserBudget.InferenceUsage :=
  if c.dispatches ≠ 1 ∨ c.retriesUsed ≠ 0 then unknownAmbiguousUsage usage else usage

def settleInferenceQuotaSuccess (usage : UserBudget.InferenceUsage) : Flow Unit := do
  let c ← getCall
  modifyCall fun c => { c with settled := c.settled ++ [c.settlementUsage usage] }
  awaitedOutside (← askFor (.settleQuota (c.settlementUsage usage)))

/-- The part of a round before the dispatch: whether the provider has what the request needs. -/
def prepareAttempt (req : ChatRequest) (provider : String) (base : ModelCapability) : Flow Bool := do
  modifyCall fun c => { c with assetAttemptTerminal := false, stream := {} }
  if ← hasRequiredCapabilities req provider base then
    modifyCall fun c => { c with assetAttemptTerminal := req.containsAssets }
    whenever (req.containsAssets ∧ req.guarded) (raise .recoveryAuthorityLost)
    whenever req.containsAssets (projectAssetAttempt provider)
    pure true
  else pure false

def countDispatch : Flow Unit := modifyCall fun c => { c with dispatches := c.dispatches + 1 }

/-- The `try` block of a round, which dispatches with `dispatch`: whether it returns. -/
def attemptRound (req : ChatRequest) (base : ModelCapability) (provider : String)
    (dispatch : Flow Unit) : Flow Bool := do
  if ← prepareAttempt req provider base then
    countDispatch
    dispatch
    pure true
  else pure false

/-- The `try` block of a round of `execute_with_fallback`. -/
def attemptProvider (cfg : HandlerSettings) (req : ChatRequest) (provider : String) : Flow Bool :=
  attemptRound req .chat provider do
    let response ← execute provider cfg.timeout req.guarded
    whenever cfg.quotaEnabled (settleInferenceQuotaSuccess response.usage)
    awaitedOutside (← askFor .canonicalize)

/-- The loop over the providers.  A round that does not return gives up its provider or raises: then
the next provider is tried if it `fallsBack`, and otherwise `terminal` says what is raised.  The last
exception goes from round to round. -/
def tryEach (attempt : String → Flow Bool) (fallsBack : Call → Thrown → Prop)
    [∀ c e, Decidable (fallsBack c e)] (terminal : Call → Thrown → Thrown)
    (exhausted : Option Thrown → Fault) : List String → Option Thrown → Flow Unit
  | [], last => do
    let _ ← remainingOrRaise
    raise (exhausted last)
  | provider :: rest, last => do
    match ← attempted (attempt provider) with
    | .ok true => pure ()
    | .ok false => tryEach attempt fallsBack terminal exhausted rest last
    | .error e =>
      let c ← getCall
      if fallsBack c e then tryEach attempt fallsBack terminal exhausted rest (some e)
      else throw (terminal c e)

/-- A round of `execute_with_fallback` that raised this goes on to the next provider. -/
def FallsBack (c : Call) : Thrown → Prop
  | .fault f fromGuard => f ≠ .deadlineExceeded ∧ f.IsProviderFailure ∧ fromGuard = false
      ∧ c.assetAttemptTerminal = false
  | .outOfRounds => False

instance (c : Call) (e : Thrown) : Decidable (FallsBack c e) := by
  cases e <;> unfold FallsBack <;> infer_instance

/-- What a round raises that goes to no other provider. -/
def terminalRaises (c : Call) : Thrown → Thrown
  | .fault f fromGuard =>
    if f ≠ .deadlineExceeded ∧ f.IsProviderFailure ∧ fromGuard = false
        ∧ c.assetAttemptTerminal = true then
      .fault f.wrapProviderException false
    else .fault f fromGuard
  | .outOfRounds => .outOfRounds

/-- The loop of `execute_with_fallback`. -/
def tryProviders (cfg : HandlerSettings) (req : ChatRequest) (chain : List String) : Flow Unit :=
  tryEach (attemptProvider cfg req) FallsBack terminalRaises
    (fun _ => .provider .fallbackExhausted none) chain none

def healthyFallbackChain (chain : List String) : Flow (List String) := do
  let results : List Bool ← awaitedOutside (← askFor (.health chain))
  pure (((chain.zip results).filter Prod.snd).map Prod.fst)

def openCall (cfg : HandlerSettings) (req : ChatRequest) : Flow (List String) := do
  whenever (req.executionChain = []) (raise (.provider .fallbackExhausted none))
  whenever cfg.quotaEnabled (do awaited (← askFor .reserveQuota))
  newCallBudget cfg req
  let chain ← healthyFallbackChain req.executionChain
  whenever (chain = []) (raise (.provider .fallbackExhausted none))
  pure chain

def executeWithFallback (cfg : HandlerSettings) (req : ChatRequest) : Flow Unit := do
  let chain ← openCall cfg req
  tryProviders cfg req chain

/-- What the handler notes of a chunk before the assembler gets it. -/
def StreamFlags.observe (flags : StreamFlags) (quotaEnabled : Bool) (c : Chunk) : StreamFlags :=
  let terminalSeen := flags.terminalSeen && !c.progression
  let usage := if c.progression then none else flags.usage
  let trusted := c.usage.isSome && (c.terminal || (terminalSeen && !c.progression))
  { flags with
    usage := if quotaEnabled && trusted then c.usage else usage
    terminalSeen := terminalSeen || c.terminal }

def Call.deliver (c : Call) : Call :=
  { c with
    stream := { c.stream with streamStarted := true }
    delivered := c.delivered ++ c.stream.source.toList }

/-- The body of the loop of `stream_with_fallback` that reads the stream. -/
def readChunk (cfg : HandlerSettings) (a : Arrival) (chunk : Chunk) : Flow Unit := do
  modifyCall fun c =>
    let flags := c.stream.observe cfg.quotaEnabled chunk
    { c with stream := { flags with mediaSeen := flags.mediaSeen || a.media } }
  match a.observed with
  | .error e => raise e.fault
  | .ok false => pure ()
  | .ok true =>
    modifyCall Call.deliver
    elapse a.held
    match a.closed with
    | some e => raise e.fault
    | none => pure ()

/-- What `stream_with_fallback` does after a stream that ended: the settlement of the usage, and the
canonical chunk of the assembler. -/
def answerStream (cfg : HandlerSettings) : Flow Unit := do
  let c ← getCall
  whenever cfg.quotaEnabled (settleInferenceQuotaSuccess
    (c.stream.usage.getD { normalizationIdentity := cfg.normalizationIdentity }))
  let canonical : Bool ← awaitedOutside (← askFor .finalize)
  whenever canonical (do
    modifyCall Call.deliver
    awaitedOutside (← askFor .takeCanonical))

/-- The `try` block of a round of `stream_with_fallback`. -/
def attemptStream (cfg : HandlerSettings) (req : ChatRequest) (provider : String) : Flow Bool :=
  attemptRound { req with guarded := false } .chatStream provider do
    match ← executeStream cfg provider (readChunk cfg) with
    | .readerRaised e => throw e
    | .finished => answerStream cfg

/-- Nothing of the stream was seen, and the round did not depend on assets. -/
def Call.Untouched (c : Call) : Prop :=
  c.stream.streamStarted = false ∧ c.assetAttemptTerminal = false ∧ c.stream.mediaSeen = false
  deriving Decidable

/-- A round of `stream_with_fallback` that raised this goes on to the next provider. -/
def StreamFallsBack (c : Call) : Thrown → Prop
  | .fault f _ => (f = .firstResponseTimeout ∨ f ≠ .deadlineExceeded ∧ f.IsProviderFailure)
      ∧ c.Untouched
  | .outOfRounds => False

instance (c : Call) (e : Thrown) : Decidable (StreamFallsBack c e) := by
  cases e <;> unfold StreamFallsBack <;> infer_instance

/-- What a round of `stream_with_fallback` raises that goes to no other provider. -/
def streamTerminalRaises : Thrown → Thrown
  | .fault f fromGuard =>
    if f ≠ .deadlineExceeded ∧ f.IsProviderFailure then .fault f.wrapProviderException false
    else .fault f fromGuard
  | .outOfRounds => .outOfRounds

def streamExhausted : Option Thrown → Fault
  | some (.fault .firstResponseTimeout _) => .firstResponseTimeout
  | _ => .provider .fallbackExhausted none

/-- The loop of `stream_with_fallback`. -/
def tryStreams (cfg : HandlerSettings) (req : ChatRequest) (chain : List String) : Flow Unit :=
  tryEach (attemptStream cfg req) StreamFallsBack (fun _ => streamTerminalRaises) streamExhausted
    chain none

def streamWithFallback (cfg : HandlerSettings) (req : ChatRequest) : Flow Unit := do
  let chain ← openCall cfg req
  tryStreams cfg req chain

end AssistantRuntime.Provider

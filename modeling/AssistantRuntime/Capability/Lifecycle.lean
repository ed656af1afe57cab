/-
**Workers on the store of invocations.**

The runtime of capabilities is a set of workers.  Each reads and writes the store call by call, and
between two calls waits for something it cannot compute: a client, a driver, a deadline.  The world
that workers share is the store, and next to it two records that no code reads: who may run an
invocation, and what was done for it outside the store.
-/

import AssistantRuntime.Capability.Store
import AssistantRuntime.Concurrent.RelyGuarantee
import AssistantRuntime.UserBudget.ToolQuota

namespace AssistantRuntime.Capability

open Concurrent UserBudget

/-! ### The world -/

/-- What happened for an invocation outside the store. -/
inductive Mark
  /-- The request frame was handed to a client socket. -/
  | handed
  /-- A driver on the server began to execute. -/
  | entered
  | settled
  /-- The quota reservation was given back. -/
  | released
  deriving DecidableEq

structure World where
  ledger : Ledger := {}
  /-- The worker that may run the invocation. -/
  holder : String → Option ℕ := fun _ => none
  /-- What happened for the invocation, the latest first. -/
  marks : String → List Mark := fun _ => []

/-- The invocation waits or is over: nobody runs it. -/
def InvocationState.isAtRest (s : InvocationState) : Bool := s = .waiting || s.isTerminal

namespace World

def create (v : Invocation) (_me : ℕ) (w : World) : Except Raised Unit × World :=
  match w.ledger.create v with
  | .error e => (.error e, w)
  | .ok ledger => (.ok (), { w with ledger })

def get (invocationId : String) (_me : ℕ) (w : World) : Option Invocation × World :=
  (w.ledger.invocations.find? invocationId, w)

def listAttempts (invocationId : String) (_me : ℕ) (w : World) : List Attempt × World :=
  (w.ledger.listAttempts invocationId, w)

/-- `compare_and_set`.  Whoever brings an invocation to rest no longer holds it. -/
def compareAndSet (v : Invocation) (expectedRevision : ℕ) (_me : ℕ) (w : World) : Bool × World :=
  match w.ledger.compareAndSet v expectedRevision with
  | (false, _) => (false, w)
  | (true, ledger) => (true, { w with
      ledger
      holder := if v.state.isAtRest then Function.update w.holder v.invocationId none
        else w.holder })

def beginInitialAttempt (v : Invocation) (expectedRevision : ℕ) (a : Attempt) (_me : ℕ)
    (w : World) : Bool × World :=
  match w.ledger.beginInitialAttempt v expectedRevision a with
  | (ok, ledger) => (ok, { w with ledger })

def beginContinuationAttempt (v : Invocation) (expectedRevision : ℕ) (a : Attempt) (_me : ℕ)
    (w : World) : Bool × World :=
  match w.ledger.beginContinuationAttempt v expectedRevision a with
  | (ok, ledger) => (ok, { w with ledger })

/-- `start_initial_attempt`: the worker that starts the attempt may run it. -/
def startInitialAttempt (v : Invocation) (expectedRevision : ℕ) (a : Attempt) (me : ℕ)
    (w : World) : Bool × World :=
  match w.ledger.startInitialAttempt v expectedRevision a with
  | (false, _) => (false, w)
  | (true, ledger) => (true, { w with
      ledger, holder := Function.update w.holder v.invocationId (some me) })

/-- `start_continuation_attempt`: the worker that starts the attempt may run it. -/
def startContinuationAttempt (v : Invocation) (expectedRevision : ℕ) (a : Attempt) (me : ℕ)
    (w : World) : Bool × World :=
  match w.ledger.startContinuationAttempt v expectedRevision a with
  | (false, _) => (false, w)
  | (true, ledger) => (true, { w with
      ledger, holder := Function.update w.holder v.invocationId (some me) })

/-- `save_attempt`: the worker whose attempt stands in the store may run it. -/
def saveAttempt (a : Attempt) (me : ℕ) (w : World) : Except Raised Unit × World :=
  match w.ledger.saveAttempt a with
  | .error e => (.error e, w)
  | .ok ledger => (.ok (), { w with
      ledger, holder := Function.update w.holder a.invocationId (some me) })

def updateAttempt (a : Attempt) (_me : ℕ) (w : World) : Unit × World :=
  ((), { w with ledger := w.ledger.updateAttempt a })

def mark (invocationId : String) (m : Mark) (_me : ℕ) (w : World) : Unit × World :=
  ((), { w with marks := Function.update w.marks invocationId (m :: w.marks invocationId) })

end World

/-! ### What drivers raise -/

/-- An exception of a driver, by the handler that catches it. -/
inductive Failure
  /-- `ConnectionStateError`. -/
  | connectionState (message : String)
  /-- `RemoteConnectionLost`. -/
  | connectionLost (connectionId invocationId : String)
  /-- `RemoteCapabilityError`. -/
  | remoteError (code message : String) (details : Json)
  | timeout (message : String)
  | cancelled (message : String)
  /-- `CapabilityContinuationDispatchGuardError`. -/
  | guard (code message : String) (retryable : Bool)
  | capability (error : CapabilityError)
  | other (causeType message : String) (code : Option String) (details : Option Json)
      (retryable : Bool)
  deriving DecidableEq

/-- Raised by the transport before the request frame reaches a socket. -/
def Failure.beforeSend : Failure → Bool
  | .connectionState _ | .timeout _ | .cancelled _ | .other .. => true
  | _ => false

/-- Raised by the transport once the request frame was handed to a socket. -/
def Failure.afterSend : Failure → Bool
  | .connectionLost .. | .remoteError .. | .timeout _ | .cancelled _ | .other .. => true
  | _ => false

/-- Raised by the guard of a continuation, or while it runs. -/
def Failure.byGuard : Failure → Bool
  | .guard .. | .capability _ | .timeout _ | .cancelled _ | .other .. => true
  | _ => false

/-- Raised by a driver on the server: it calls no dispatch guard. -/
def Failure.byServer : Failure → Bool
  | .guard .. => false
  | _ => true

/-- The deadline passes, or the call is cancelled. -/
inductive Interruption
  | timeout
  | cancelled
  deriving DecidableEq

def Interruption.failure : Interruption → Failure
  | .timeout => .timeout ""
  | .cancelled => .cancelled ""

/-! ### Questions -/

/-- `RemoteReconciliationStatus`. -/
inductive ReconciliationStatus
  | running
  | terminal
  | unknown
  | notFound
  | conflict
  deriving DecidableEq

/-- `RemoteTerminalType`. -/
inductive TerminalType
  | result
  | error
  | cancelled
  deriving DecidableEq

/-- `RemoteReconciliationResult`. -/
structure ReconciliationResult where
  status : ReconciliationStatus
  capabilityId : String
  capabilityVersion : String
  requestFingerprint : String
  terminalType : Option TerminalType := none
  terminalPayload : Option JsonObject := none
  deriving DecidableEq

inductive Query
  | attemptId
  /-- Whether the call was cancelled before the driver starts. -/
  | cancelled (invocationId : String) (driver : Driver)
  /-- Whether time is left when the remote driver starts. -/
  | deadline (invocationId : String)
  /-- An interruption while the dispatch is recorded, and whether the record was still written. -/
  | interruption (invocationId : String)
  | dispatchGuard (invocationId : String)
  /-- The active socket of the connection, and the pending entry for the answer. -/
  | socket (invocationId : String)
  | response (invocationId : String)
  | server (invocationId : String)
  /-- The state of the catalog, for a retry. -/
  | routing (v : Invocation) (excluded : List String)
  /-- The user that the quota is charged to. -/
  | owner (v : Invocation)
  /-- `reserve_tool_call`. -/
  | reserve (v : Invocation)
  /-- `find_tool_call_authority`. -/
  | authority (v : Invocation)
  /-- `recover_tool_call`. -/
  | recover (v : Invocation)
  /-- `_resolve_continuation_target`. -/
  | continuationTarget (v : Invocation) (targetConnectionId : Option String)
  /-- The owner and the installation of the connection that a reconciliation is sent on. -/
  | connection (connectionId : String)
  /-- The client's own record of the invocation. -/
  | reconciliation (v : Invocation)

abbrev Query.Answer : Query → Type
  | .attemptId => String
  | .cancelled _ _ => Bool
  | .deadline _ => Option Interruption
  | .interruption _ => Option (Interruption × Bool)
  | .dispatchGuard _ => Option { f : Failure // f.byGuard = true }
  | .socket _ => Option { f : Failure // f.beforeSend = true }
  | .response _ => Except { f : Failure // f.afterSend = true } Json
  | .server _ => Except { f : Failure // f.byServer = true } PyValue
  | .routing _ _ => RoutingState
  | .owner _ => Except CapabilityError (Option String)
  | .reserve _ => Except CapabilityError (Option ToolQuotaAdmission)
  | .authority _ => Except CapabilityError (Option ToolQuotaAdmission)
  | .recover _ => Except CapabilityError (Option ToolQuotaAdmission)
  | .continuationTarget _ _ => Except CapabilityError Implementation
  | .connection _ => Except Raised (Option String × String)
  | .reconciliation _ => Except Raised ReconciliationResult

/-- The invocation whose driver the worker is in. -/
def Query.drives : Query → Option String
  | .cancelled id _ | .deadline id | .interruption id | .dispatchGuard id | .socket id
  | .response id | .server id => some id
  | _ => none

abbrev Program := ExceptT Raised (Prog World Query Query.Answer)

def perform {ρ : Type} (f : ℕ → World → ρ × World) : Program ρ := ExceptT.lift (Prog.perform f)

def performOrRaise {ρ : Type} (f : ℕ → World → Except Raised ρ × World) : Program ρ :=
  ExceptT.mk (Prog.perform f)

def ask (q : Query) : Program q.Answer := ExceptT.lift (Prog.query q)

def orRaise {ρ : Type} (x : Except Raised ρ) : Program ρ := ExceptT.mk (pure x)

/-- What the call raises is raised as a `CapabilityError`. -/
def orCapabilityError {ρ : Type} (x : Except CapabilityError ρ) : Program ρ :=
  orRaise (x.mapError .capabilityError)

/-! ### The life cycle -/

def transition (now : ℤ) (v : Invocation) (state : InvocationState) (c : Changes) :
    Program Invocation := do
  let moved ← orRaise (transitionInvocation v state c now)
  let written ← perform (World.compareAndSet moved v.revision)
  if written then pure moved
  else throw (.runtimeError s!"Concurrent invocation update rejected: {v.invocationId}")

def updateRemoteOutcome (v : Invocation) (outcome : RemoteOutcome) : Program Invocation := do
  match ← orRaise (changeRemoteOutcome v outcome) with
  | none => pure v
  | some changed => do
    let written ← perform (World.compareAndSet changed v.revision)
    if written then pure changed
    else throw (.runtimeError
      s!"Concurrent invocation remote-outcome update rejected: {v.invocationId}")

def Invocation.atFirst (v : Invocation) (implementationId driverKind : String)
    (connectionId : Option String) : Invocation :=
  { v with
    implementationId := some implementationId, driverKind := some driverKind, connectionId,
    attempt := 1 }

def Invocation.atNext (v : Invocation) (implementationId driverKind : String)
    (connectionId : Option String) : Invocation :=
  { v with
    implementationId := some implementationId, driverKind := some driverKind, connectionId,
    attempt := v.attempt + 1, maxAttempts := max v.maxAttempts (v.attempt + 1) }

def beginInitialAttempt (now : ℤ) (v : Invocation) (implementationId driverKind : String)
    (connectionId : Option String) : Program (Invocation × Attempt) :=
  if v.state ≠ .created ∨ v.attempt ≠ 0 then
    throw (.invalidInvocationTransition
      "Initial attempt requires CREATED invocation with attempt=0")
  else do
    let candidate := v.atFirst implementationId driverKind connectionId
    let moved ← orRaise (transitionInvocation candidate .dispatching {} now)
    let attemptId ← ask .attemptId
    let attempt : Attempt :=
      { attemptId, invocationId := v.invocationId, attemptNumber := 1, implementationId, driverKind,
        connectionId, state := .dispatching,
        metadata := [("initial_attempt", .bool true), ("source_revision", .int v.revision)] }
    let begun ← perform (World.beginInitialAttempt moved v.revision attempt)
    if begun then pure (moved, attempt)
    else throw (.runtimeError
      s!"Concurrent invocation initial attempt rejected: {v.invocationId}")

def startInitialAttempt (now : ℤ) (v : Invocation) (a : Attempt) :
    Program (Invocation × Attempt) :=
  if v.state ≠ .dispatching ∨ v.attempt ≠ 1 ∨ a.attemptNumber ≠ 1 then
    throw (.invalidInvocationTransition "Initial attempt start requires DISPATCHING attempt #1")
  else do
    let moved ← orRaise (transitionInvocation v .running {} now)
    let running := { a with state := .running }
    let started ← perform (World.startInitialAttempt moved v.revision running)
    if started then pure (moved, running)
    else throw (.runtimeError
      s!"Concurrent invocation initial attempt start rejected: {v.invocationId}")

def beginContinuationAttempt (now : ℤ) (v : Invocation) (implementationId driverKind : String)
    (connectionId : Option String) (mode : ContinuationMode) : Program (Invocation × Attempt) :=
  if v.state ≠ .waiting then
    throw (.invalidInvocationTransition
      "Existing invocation continuation requires WAITING state")
  else do
    let candidate := v.atNext implementationId driverKind connectionId
    let moved ← orRaise (transitionInvocation candidate .dispatching {} now)
    let attemptId ← ask .attemptId
    let attempt : Attempt :=
      { attemptId, invocationId := v.invocationId, attemptNumber := moved.attempt,
        implementationId, driverKind, connectionId, state := .dispatching,
        metadata := [("continuation_mode", .str mode.value), ("source_revision", .int v.revision),
          ("source_remote_outcome_state",
            optionalText (v.remoteOutcome.map RemoteOutcome.value))] }
    let begun ← perform (World.beginContinuationAttempt moved v.revision attempt)
    if begun then pure (moved, attempt)
    else throw (.runtimeError
      s!"Concurrent invocation continuation rejected: {v.invocationId}")

def startContinuationAttempt (now : ℤ) (v : Invocation) (a : Attempt) :
    Program (Invocation × Attempt) :=
  if v.state ≠ .dispatching then
    throw (.invalidInvocationTransition "Continuation attempt start requires DISPATCHING state")
  else do
    let moved ← orRaise (transitionInvocation v .running {} now)
    let running := { a with state := .running }
    let started ← perform (World.startContinuationAttempt moved v.revision running)
    if started then pure (moved, running)
    else throw (.runtimeError
      s!"Concurrent continuation attempt start rejected: {v.invocationId}")

def startAttempt (v : Invocation) (implementationId driverKind : String)
    (connectionId : Option String) : Program Attempt := do
  let attemptId ← ask .attemptId
  let attempt : Attempt :=
    { attemptId, invocationId := v.invocationId, attemptNumber := v.attempt, implementationId,
      driverKind, connectionId, state := .running }
  performOrRaise (World.saveAttempt attempt)
  pure attempt

def finishAttempt (now : ℤ) (a : Attempt) (state : InvocationState)
    (error : Option JsonObject) : Program Attempt :=
  if !state.isTerminal then
    throw (.invalidInvocationTransition "Attempt completion must be terminal")
  else do
    let finished := { a with state, error, completedAt := some now }
    perform (World.updateAttempt finished)
    pure finished

end AssistantRuntime.Capability

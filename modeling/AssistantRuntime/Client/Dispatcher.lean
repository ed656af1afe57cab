/-
**The dispatcher of a client and its ledger** (`core/capability_dispatcher.py`,
`core/local_capability_executor.py`, `core/client_invocation_ledger.py`).

Invocations come as messages, which may be repeated, resent over a new connection, or changed.  The
dispatcher checks a message, looks the invocation up among those that run, among the outcomes it
remembers and in the ledger, and hands it to a worker thread.  The worker has the request approved,
marks it running in the ledger and calls the target; when its future is done, the outcome is recorded.
The ledger keeps a row for every invocation, under the installation, the signed-in principal and the
invocation id.

Each section under the lock, each call of the ledger and each call of the target is one step.  A crash
forgets everything but the ledger.
-/

import AssistantRuntime.Relational.Machine
import AssistantRuntime.Relational.Table
import Mathlib.Logic.Function.Basic

namespace AssistantRuntime.Client

open Relational

/-! ### The ledger -/

/-- `ClientInvocationLedgerState`. -/
inductive LedgerState
  | prepared
  | running
  | terminal
  deriving DecidableEq, Repr

/-- The order in which a row goes through its states. -/
def LedgerState.rank : LedgerState → ℕ
  | prepared => 0
  | running => 1
  | terminal => 2

/-- The primary key of `client_invocations`. -/
structure LedgerKey where
  clientId : String
  principalId : String
  invocationId : String
  deriving DecidableEq, Repr

/-- What makes two requests the same. -/
structure Semantics where
  capabilityId : String
  capabilityVersion : String
  requestFingerprint : String
  deriving DecidableEq, Repr

inductive TerminalType
  | result
  | error
  | cancelled
  deriving DecidableEq, Repr

/-- An outcome, with its payload in canonical encoding. -/
structure Outcome where
  terminalType : TerminalType
  payload : String
  deriving DecidableEq, Repr

/-- `ClientInvocationRecord`, without its times. -/
structure Record where
  key : LedgerKey
  semantics : Semantics
  idempotency : String
  state : LedgerState
  outcome : Option Outcome
  deriving DecidableEq, Repr

def Record.prepared (key : LedgerKey) (semantics : Semantics) (idempotency : String) : Record :=
  ⟨key, semantics, idempotency, .prepared, none⟩

abbrev Ledger := Table Record.key

inductive LedgerError
  /-- `ClientInvocationLedgerConflict`. -/
  | conflict
  /-- `LookupError`. -/
  | unknown
  deriving DecidableEq, Repr

namespace Ledger

def prepare (l : Ledger) (key : LedgerKey) (semantics : Semantics) (idempotency : String) :
    Except LedgerError (Record × Ledger) :=
  match l.find? key with
  | some existing =>
    if existing.semantics = semantics ∧ existing.idempotency = idempotency then .ok (existing, l)
    else .error .conflict
  | none =>
    match l.insert? (.prepared key semantics idempotency) with
    | some l' => .ok (.prepared key semantics idempotency, l')
    | none => .error .conflict

def markRunning (l : Ledger) (key : LedgerKey) : Except LedgerError Ledger :=
  match l.find? key with
  | none => .error .unknown
  | some existing =>
    match existing.state with
    | .terminal => .error .conflict
    | .prepared => .ok (l.put { existing with state := .running })
    | .running => .ok l

def commitTerminal (l : Ledger) (key : LedgerKey) (outcome : Outcome) : Except LedgerError Ledger :=
  match l.find? key with
  | none => .error .unknown
  | some existing =>
    match existing.state with
    | .terminal => if existing.outcome = some outcome then .ok l else .error .conflict
    | _ => .ok (l.put { existing with state := .terminal, outcome := some outcome })

end Ledger

/-! ### How rows change -/

/-- **A row moves forward**: what identifies the request stays, and so does an outcome. -/
structure Record.Forward (r r' : Record) : Prop where
  key : r'.key = r.key
  semantics : r'.semantics = r.semantics
  idempotency : r'.idempotency = r.idempotency
  rank_le : r.state.rank ≤ r'.state.rank
  outcome : r.state = .terminal → r'.state = .terminal ∧ r'.outcome = r.outcome

theorem Record.Forward.refl (r : Record) : r.Forward r :=
  ⟨rfl, rfl, rfl, le_rfl, fun h => ⟨h, rfl⟩⟩

theorem Record.Forward.trans {r1 r2 r3 : Record} (h12 : r1.Forward r2) (h23 : r2.Forward r3) :
    r1.Forward r3 := by
  refine ⟨h23.key.trans h12.key, h23.semantics.trans h12.semantics,
    h23.idempotency.trans h12.idempotency, h12.rank_le.trans h23.rank_le, fun h => ?_⟩
  obtain ⟨hterminal, houtcome⟩ := h12.outcome h
  obtain ⟨hterminal', houtcome'⟩ := h23.outcome hterminal
  exact ⟨hterminal', houtcome'.trans houtcome⟩

namespace Ledger

open Table

variable {l l' : Ledger} {key : LedgerKey} {r : Record}

/-- Every row stays and moves forward. -/
def Forward (l l' : Ledger) : Prop :=
  ∀ key r, l.find? key = some r → ∃ r', l'.find? key = some r' ∧ r.Forward r'

theorem Forward.refl (l : Ledger) : Forward l l := fun _ r h => ⟨r, h, .refl r⟩

theorem Forward.trans {l1 l2 l3 : Ledger} (h12 : Forward l1 l2) (h23 : Forward l2 l3) :
    Forward l1 l3 := by
  intro key r h
  obtain ⟨r2, h2, hr2⟩ := h12 key r h
  obtain ⟨r3, h3, hr3⟩ := h23 key r2 h2
  exact ⟨r3, h3, hr2.trans hr3⟩

theorem Forward.put {r' : Record} (hr : l.find? key = some r) (hforward : r.Forward r') :
    Forward l (l.put r') := by
  have hkey : r.key = key := key_of_find? hr
  intro k x hx
  by_cases hk : k = key
  · subst hk
    obtain rfl : r = x := Option.mem_unique hr hx
    exact ⟨r', find?_put_same hr hforward.key, hforward⟩
  · refine ⟨x, ?_, .refl x⟩
    rw [find?_put_of_ne (by rw [hforward.key, hkey]; exact hk)]
    exact hx

theorem Forward.insert (h : l.insert? r = some l') : Forward l l' := by
  intro key x hx
  refine ⟨x, ?_, .refl x⟩
  rw [find?_insert? h, if_neg]
  · exact hx
  · rintro rfl
    rw [fresh_insert? h] at hx
    cases hx

/-! ### The operations -/

variable {semantics : Semantics} {idempotency : String}

theorem prepare_ok (h : l.prepare key semantics idempotency = .ok (r, l')) :
    l'.find? key = some r ∧ r.idempotency = idempotency
      ∧ ((l.find? key = some r ∧ l' = l)
        ∨ (l.find? key = none ∧ r.state = .prepared ∧ l.insert? r = some l' ∧ r.key = key)) := by
  unfold prepare at h
  split at h
  · next existing hexisting =>
      split at h
      · next hsame =>
          obtain ⟨rfl, rfl⟩ := Prod.mk.inj (Except.ok.inj h)
          exact ⟨hexisting, hsame.2, .inl ⟨hexisting, rfl⟩⟩
      · cases h
  · next hnone =>
      split at h
      · next l1 hinsert =>
          obtain ⟨rfl, rfl⟩ := Prod.mk.inj (Except.ok.inj h)
          refine ⟨?_, rfl, .inr ⟨hnone, rfl, hinsert, rfl⟩⟩
          rw [find?_insert? hinsert]
          exact if_pos rfl
      · cases h

/-- What `mark_running` leaves: the row is running, and was prepared or running before. -/
theorem markRunning_ok (h : l.markRunning key = .ok l') :
    ∃ r, l.find? key = some r ∧ ((r.state = .running ∧ l' = l)
      ∨ (r.state = .prepared ∧ l' = l.put { r with state := .running })) := by
  unfold markRunning at h
  split at h
  · cases h
  · next r hr =>
      split at h
      · cases h
      · next hstate => exact ⟨r, hr, .inr ⟨hstate, (Except.ok.inj h).symm⟩⟩
      · next hstate => exact ⟨r, hr, .inl ⟨hstate, (Except.ok.inj h).symm⟩⟩

variable {outcome : Outcome}

/-- What `commit_terminal` leaves: an outcome that is there is the same one. -/
theorem commitTerminal_ok (h : l.commitTerminal key outcome = .ok l') :
    ∃ r, l.find? key = some r ∧ ((r.state = .terminal ∧ l' = l)
      ∨ (r.state ≠ .terminal
        ∧ l' = l.put { r with state := .terminal, outcome := some outcome })) := by
  unfold commitTerminal at h
  split at h
  · cases h
  · next r hr =>
      split at h
      · next hstate =>
          split at h
          · exact ⟨r, hr, .inl ⟨hstate, (Except.ok.inj h).symm⟩⟩
          · cases h
      · next hstate => exact ⟨r, hr, .inr ⟨hstate, (Except.ok.inj h).symm⟩⟩

theorem Forward.prepare (h : l.prepare key semantics idempotency = .ok (r, l')) : Forward l l' := by
  obtain ⟨-, -, ⟨-, rfl⟩ | ⟨-, -, hinsert, -⟩⟩ := prepare_ok h
  · exact .refl _
  · exact .insert hinsert

theorem Forward.markRunning (h : l.markRunning key = .ok l') : Forward l l' := by
  obtain ⟨r, hr, ⟨-, rfl⟩ | ⟨hstate, rfl⟩⟩ := markRunning_ok h
  · exact .refl _
  · exact .put hr ⟨rfl, rfl, rfl, by simp [hstate, LedgerState.rank], by simp [hstate]⟩

theorem Forward.commitTerminal (h : l.commitTerminal key outcome = .ok l') :
    Forward l l' := by
  obtain ⟨r, hr, ⟨-, rfl⟩ | ⟨hstate, rfl⟩⟩ := commitTerminal_ok h
  · exact .refl _
  · refine .put hr ⟨rfl, rfl, rfl, ?_, fun hterminal => absurd hterminal hstate⟩
    cases r.state <;> simp [LedgerState.rank]

end Ledger

/-! ### Messages -/

/-- `target` of a payload, as `_canonical_target_payload` sees it. -/
inductive Target
  | absent
  /-- Not of the canonical shape. -/
  | malformed
  /-- Canonical, with the installation that a client-local resource belongs to. -/
  | canonical (encoded : String) (clientLocal : Option String)
  deriving DecidableEq, Repr

/-- The envelope of a dispatch. -/
structure Message where
  invocationId : String
  connectionId : Option String
  capabilityId : Option String
  /-- The arguments in canonical encoding, if they are an object. -/
  arguments : Option String
  capabilityVersion : Option String
  target : Target
  declaredFingerprint : Option String
  deriving DecidableEq, Repr

/-- What `dispatch` reads before it takes the lock. -/
structure View where
  connectionId : Option String
  registeredCapabilities : List String
  version : String → String
  idempotency : String → String
  clientId : String
  /-- `_request_fingerprint`, of the capability, its version, the arguments and the target. -/
  requestFingerprint : String → String → String → Target → String

structure Request where
  invocationId : String
  semantics : Semantics
  idempotency : String
  deriving DecidableEq, Repr

/-- How `dispatch` turns a message away before it takes the lock. -/
inductive Rejection
  /-- A message without an invocation id is ignored. -/
  | ignored
  | error (code : String)
  | conflict
  deriving DecidableEq, Repr

/-- The target belongs to another installation. -/
def Target.Foreign (target : Target) (clientId : String) : Prop :=
  match target with
  | .canonical _ (some stableClientId) => clientId = "" ∨ stableClientId ≠ clientId
  | _ => False

instance (target : Target) (clientId : String) : Decidable (target.Foreign clientId) := by
  unfold Target.Foreign
  split <;> infer_instance

/-- The version that is asked for: the one of the payload, or the local one. -/
def Message.version (m : Message) (view : View) (capabilityId : String) : String :=
  match m.capabilityVersion with
  | some version => if version = "" then view.version capabilityId else version
  | none => view.version capabilityId

/-- The checks of `dispatch` before it takes the lock. -/
def Message.examine (m : Message) (view : View) : Except Rejection Request := do
  if m.invocationId = "" then throw .ignored
  if m.connectionId ≠ view.connectionId then throw (.error "CONNECTION_MISMATCH")
  let capabilityId := m.capabilityId.getD ""
  if capabilityId = "" then throw (.error "INVALID_CAPABILITY_ID")
  match m.arguments with
  | none => throw (.error "INVALID_ARGUMENTS")
  | some arguments =>
    if capabilityId ∉ view.registeredCapabilities then throw (.error "CAPABILITY_NOT_REGISTERED")
    if m.target = .malformed ∨ m.target.Foreign view.clientId then throw .conflict
    let version := m.version view capabilityId
    let fingerprint := view.requestFingerprint capabilityId version arguments m.target
    if version ≠ view.version capabilityId ∨ (∃ d ∈ m.declaredFingerprint, d ≠ fingerprint) then
      throw .conflict
    pure
      { invocationId := m.invocationId
        semantics := ⟨capabilityId, version, fingerprint⟩
        idempotency := view.idempotency capabilityId }

/-! ### The state of a client -/

def ReplaySafe (idempotency : String) : Prop :=
  idempotency = "IDEMPOTENT" ∨ idempotency = "DEDUPLICATED"
  deriving Decidable

/-- Where the future of an invocation is. -/
inductive Phase
  | pending
  /-- The target is resolved, the input is checked, and the user is asked. -/
  | checking
  /-- Approved and not cancelled; the next thing is `before_target_call`. -/
  | approved
  /-- `before_target_call` returned. -/
  | marked
  | called
  /-- The future is done, with the outcome that `_complete` makes of it. -/
  | done (outcome : Outcome)
  /-- `_complete` has taken the invocation out, and is about to record it. -/
  | recording (outcome : Outcome)
  deriving DecidableEq, Repr

/-- A future, with what `LocalInvocation` and the arguments of `_execute_local` hold. -/
structure Worker where
  request : Request
  key : LedgerKey
  replayExistingRunning : Bool
  epoch : ℕ
  cancelled : Bool := false
  phase : Phase := .pending
  deriving DecidableEq, Repr

/-- A future is cancelled: its event is set, and one that is queued is done. -/
def Worker.cancel (w : Worker) : Worker :=
  { w with
    cancelled := true
    phase := if w.phase = .pending then .done ⟨.cancelled, ""⟩ else w.phase }

/-- `TerminalOutcome`, with the semantics it was recorded for. -/
structure CachedOutcome where
  outcome : Outcome
  semantics : Option Semantics
  deriving DecidableEq, Repr

/-- The identity under which the ledger is kept, `_ledger_identity`; it is configured. -/
structure LedgerIdentity where
  clientId : String
  principalId : String
  configured : clientId ≠ "" ∧ principalId ≠ ""
  deriving DecidableEq

/-- `CapabilityDispatcher` with its ledger, and a record of the calls of targets with the idempotency of
the capability. -/
structure Dispatcher where
  ledger : Ledger := ∅
  identity : LedgerIdentity
  epoch : ℕ := 0
  capacity : ℕ
  /-- `_invocations`: the future of an invocation. -/
  invocations : String → Option ℕ := fun _ => none
  workers : ℕ → Option Worker := fun _ => none
  terminal : String → Option CachedOutcome := fun _ => none
  calls : List (LedgerKey × String) := []

namespace Dispatcher

def keyOf (s : Dispatcher) (invocationId : String) : LedgerKey :=
  ⟨s.identity.clientId, s.identity.principalId, invocationId⟩

def remember (s : Dispatcher) (invocationId : String) (cached : CachedOutcome) : Dispatcher :=
  match s.terminal invocationId with
  | some _ => s
  | none => { s with terminal := Function.update s.terminal invocationId (some cached) }

def recollect (s : Dispatcher) (r : Record) : Dispatcher :=
  match r.outcome with
  | some outcome =>
    { s with
      terminal := Function.update s.terminal r.key.invocationId (some ⟨outcome, some r.semantics⟩) }
  | none => s

def start (s : Dispatcher) (req : Request) (future : ℕ) (replay : Bool) : Dispatcher :=
  { s with
    capacity := s.capacity - 1
    invocations := Function.update s.invocations req.invocationId (some future)
    workers := Function.update s.workers future (some
      { request := req, key := s.keyOf req.invocationId, replayExistingRunning := replay
        epoch := s.epoch }) }

/-- `dispatch` from the acquisition of the capacity on. -/
def launch (s : Dispatcher) (req : Request) (future : ℕ) (replay : Bool) : Dispatcher :=
  if s.capacity = 0 then
    s.remember req.invocationId ⟨⟨.error, "CLIENT_BUSY"⟩, some req.semantics⟩
  else
    match s.ledger.prepare (s.keyOf req.invocationId) req.semantics req.idempotency with
    | .error _ => s
    | .ok (durable, ledger) =>
      match durable.state with
      | .terminal => { s with ledger }.recollect durable
      | .running =>
        if ReplaySafe req.idempotency then { s with ledger }.start req future true
        else { s with ledger }
      | .prepared => { s with ledger }.start req future replay

/-- `dispatch` under its lock, for a message that passed the checks. -/
def submit (s : Dispatcher) (req : Request) (future : ℕ) : Dispatcher :=
  if (s.invocations req.invocationId).isSome then s
  else if (s.terminal req.invocationId).isSome then s
  else
    match s.ledger.find? (s.keyOf req.invocationId) with
    | none => s.launch req future false
    | some durable =>
      if durable.semantics ≠ req.semantics ∨ durable.idempotency ≠ req.idempotency then s
      else
        match durable.state with
        | .terminal => s.recollect durable
        | .running => if ReplaySafe req.idempotency then s.launch req future true else s
        | .prepared => s.launch req future false

/-- `dispatch`.  The view is that of the time before the lock was taken. -/
def dispatch (s : Dispatcher) (view : View) (m : Message) (future : ℕ) : Dispatcher :=
  match m.examine view with
  | .ok req => s.submit req future
  | .error (.error code) => s.remember m.invocationId ⟨⟨.error, code⟩, none⟩
  | .error _ => s

def resume (s : Dispatcher) (future : ℕ) (w : Worker) : Dispatcher :=
  { s with workers := Function.update s.workers future (some w) }

def failed (s : Dispatcher) (future : ℕ) (w : Worker) (payload : String) : Dispatcher :=
  s.resume future { w with phase := .done ⟨.error, payload⟩ }

/-- `mark_running` as `before_target_call`; a worker that replays a running row has none. -/
def mark (s : Dispatcher) (future : ℕ) (w : Worker) : Dispatcher :=
  if w.replayExistingRunning then s.resume future { w with phase := .marked }
  else
    match s.ledger.markRunning w.key with
    | .ok ledger => { s with ledger }.resume future { w with phase := .marked }
    | .error _ => s.failed future w "LOCAL_EXECUTION_FAILED"

/-- The end of `_complete` and `_record_and_emit`: nothing happens if the principal was reset. -/
def record (s : Dispatcher) (future : ℕ) (w : Worker) (outcome : Outcome) : Dispatcher :=
  let s := { s with workers := Function.update s.workers future none }
  if w.epoch ≠ s.epoch then s
  else
    match s.ledger.commitTerminal w.key outcome with
    | .ok ledger =>
      { s with ledger }.remember w.request.invocationId ⟨outcome, some w.request.semantics⟩
    | .error _ => s

def cancel (s : Dispatcher) (invocationId : String) : Dispatcher :=
  match s.invocations invocationId with
  | none => s
  | some future =>
    { s with workers := Function.update s.workers future ((s.workers future).map Worker.cancel) }

/-- All invocations are cancelled: `fail_all`, and the end of `reset_principal`. -/
def failAll (s : Dispatcher) : Dispatcher :=
  { s with workers := fun future => (s.workers future).map fun w =>
      if s.invocations w.request.invocationId = some future then Worker.cancel w else w }

def resetPrincipal (s : Dispatcher) : Dispatcher :=
  { s with epoch := s.epoch + 1, terminal := fun _ => none }.failAll

end Dispatcher

/-! ### Runs -/

inductive Act
  | dispatch (view : View) (m : Message) (future : ℕ)
  /-- A worker thread takes the future. -/
  | begin (future : ℕ)
  /-- The target is not resolved, the input is not valid, or the user refuses. -/
  | refuse (future : ℕ) (payload : String)
  /-- The event was set before the target was called. -/
  | stop (future : ℕ)
  | approve (future : ℕ)
  | mark (future : ℕ)
  | call (future : ℕ)
  /-- The target returned or raised, or the event was set meanwhile. -/
  | finish (future : ℕ) (outcome : Outcome)
  /-- `_complete` takes the invocation out. -/
  | complete (future : ℕ)
  | record (future : ℕ)
  /-- A reconciliation is answered, or outcomes expire: some are forgotten. -/
  | forget (kept : String → Bool)
  | cancel (invocationId : String)
  | failAll
  | resetPrincipal
  | setIdentity (identity : LedgerIdentity)
  /-- The process dies, at any point, and another one starts. -/
  | restart (identity : LedgerIdentity) (capacity : ℕ)

open Dispatcher in
def step (s : Dispatcher) : Act → Option Dispatcher
  | .dispatch view m future => do
    guard (s.workers future = none)
    pure (s.dispatch view m future)
  | .begin future => do
    let w ← s.workers future
    guard (w.phase = .pending)
    pure (s.resume future { w with phase := .checking })
  | .refuse future payload => do
    let w ← s.workers future
    guard (w.phase = .checking)
    pure (s.failed future w payload)
  | .stop future => do
    let w ← s.workers future
    guard (w.phase = .checking ∧ w.cancelled = true)
    pure (s.resume future { w with phase := .done ⟨.cancelled, ""⟩ })
  | .approve future => do
    let w ← s.workers future
    guard (w.phase = .checking ∧ w.cancelled = false)
    pure (s.resume future { w with phase := .approved })
  | .mark future => do
    let w ← s.workers future
    guard (w.phase = .approved)
    pure (s.mark future w)
  | .call future => do
    let w ← s.workers future
    guard (w.phase = .marked)
    pure { s.resume future { w with phase := .called } with
      calls := s.calls ++ [(w.key, w.request.idempotency)] }
  | .finish future outcome => do
    let w ← s.workers future
    guard (w.phase = .called)
    pure (s.resume future { w with phase := .done outcome })
  | .complete future => do
    let w ← s.workers future
    match w.phase with
    | .done outcome =>
      pure { s.resume future { w with phase := .recording outcome } with
        invocations := Function.update s.invocations w.request.invocationId none
        capacity := s.capacity + 1 }
    | _ => none
  | .record future => do
    let w ← s.workers future
    match w.phase with
    | .recording outcome => pure (s.record future w outcome)
    | _ => none
  | .forget kept => some { s with terminal := fun i => if kept i then s.terminal i else none }
  | .cancel invocationId => some (s.cancel invocationId)
  | .failAll => some s.failAll
  | .resetPrincipal => some s.resetPrincipal
  | .setIdentity identity => some { s with identity }
  | .restart identity capacity => some { ledger := s.ledger, calls := s.calls, identity, capacity }

end AssistantRuntime.Client

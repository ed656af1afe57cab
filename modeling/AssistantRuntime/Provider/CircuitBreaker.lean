/-
**The circuit breaker and the requests that pass it.**

A breaker that is open lets no request through until its reset timeout is over; then it is half open
and lets one request through, the probe, which takes a lock.  The lock is given back by the report of
an outcome, by whichever request makes it, or by `execute` when it ends its probe without one.  The
three executors differ in what they do on each way out, and a success gives the lock back only if it is
the last one that the success threshold asks for.

Any number of requests are in flight, and each may end in any way.  `breaker_never_wedges_iff` says
exactly when the breaker is never left with a lock that no request in flight holds.  A report does not
say when its request was let through, so one from before the breaker opened may free the lock of the
probe; `one_probe_iff` says that nothing else leads to a second probe.
-/

import AssistantRuntime.Relational.Machine
import Mathlib.Data.Int.Notation
import Mathlib.Data.Nat.Notation
import Mathlib.Logic.Function.Basic

namespace AssistantRuntime.Provider

open Option

/-! ### The breaker -/

/-- `CircuitBreakerState`. -/
inductive BreakerState
  | opened
  | halfOpen
  | closed
  deriving DecidableEq

structure BreakerSettings where
  failureThreshold : ℤ
  resetTimeout : ℤ
  successThreshold : ℤ := 1

/-- `CircuitBreaker`, without its counters for diagnostics. -/
structure Breaker where
  state : BreakerState := .closed
  failureCount : ℕ := 0
  successCount : ℕ := 0
  lastFailureTime : ℤ := 0
  /-- `_half_open_lock` is taken. -/
  halfOpenLocked : Bool := false
  deriving DecidableEq

namespace Breaker

def ResetTimeoutExpired (cfg : BreakerSettings) (b : Breaker) (now : ℤ) : Prop :=
  cfg.resetTimeout < now - b.lastFailureTime
  deriving Decidable

/-- Reading the property `state`. -/
def observe (cfg : BreakerSettings) (b : Breaker) (now : ℤ) : Breaker :=
  if b.state = .opened ∧ b.ResetTimeoutExpired cfg now then
    { b with state := .halfOpen, successCount := 0 }
  else b

/-- `before_request`: whether the request is let through, and the breaker afterwards. -/
def beforeRequest (cfg : BreakerSettings) (b : Breaker) (now : ℤ) : Bool × Breaker :=
  let b := b.observe cfg now
  match b.state with
  | .opened => (false, b)
  | .halfOpen => if b.halfOpenLocked then (false, b) else (true, { b with halfOpenLocked := true })
  | .closed => (true, b)

def onSuccess (cfg : BreakerSettings) (b : Breaker) : Breaker :=
  match b.state with
  | .halfOpen =>
    if cfg.successThreshold ≤ (b.successCount + 1 : ℕ) then
      { b with state := .closed, failureCount := 0, successCount := 0, halfOpenLocked := false }
    else { b with successCount := b.successCount + 1 }
  | .closed => { b with failureCount := 0 }
  | .opened => b

def onFailure (cfg : BreakerSettings) (b : Breaker) (now : ℤ) : Breaker :=
  match b.state with
  | .halfOpen => { b with state := .opened, lastFailureTime := now, halfOpenLocked := false }
  | .closed =>
    if cfg.failureThreshold ≤ (b.failureCount + 1 : ℕ) then
      { b with state := .opened, failureCount := b.failureCount + 1, lastFailureTime := now }
    else { b with failureCount := b.failureCount + 1 }
  | .opened => b

/-- `_release_half_open_probe_without_provider_outcome`. -/
def releaseProbe (b : Breaker) (probeAcquired : Bool) : Breaker :=
  if probeAcquired ∧ b.state = .halfOpen then { b with halfOpenLocked := false } else b

/-- What `execute` reads after `before_request`: the request holds the probe. -/
def probeAcquired (b : Breaker) : Bool := b.state = .halfOpen ∧ b.halfOpenLocked

end Breaker

/-! ### How requests end -/

inductive Executor
  | execute
  | executeStream
  | executeGeneric
  deriving DecidableEq

/-- What the guarded part of a request raised, by the clauses that catch it. -/
inductive Raised
  /-- `asyncio.CancelledError`. -/
  | cancelled
  /-- `ProviderRecoveryGuardError`. -/
  | recoveryGuard
  /-- `ProviderRecoveryAuthorityLostError`. -/
  | recoveryAuthorityLost
  /-- `ProviderDeadlineExceededError`. -/
  | deadlineExceeded
  /-- `ProviderFirstResponseTimeoutError`, `ProviderStreamIdleTimeoutError`. -/
  | streamTimeout
  /-- `CircuitBreakerOpenError`, raised after the request was let through. -/
  | circuitOpen
  /-- Any other `Exception`. -/
  | exception
  /-- What is no `Exception`: the `GeneratorExit` of a stream that is abandoned, an interrupt. -/
  | baseException
  deriving DecidableEq

/-- How the guarded part of a request ends, with what its handlers look at. -/
structure Ending where
  raised : Option Raised
  providerAttempted : Bool := false
  /-- `recovery_guard_aborted_before_send`. -/
  guardAborted : Bool := false
  /-- `recovery_guard_control_flow_error` is what was raised. -/
  guardControlFlow : Bool := false
  /-- The task of the caller is being cancelled. -/
  callerCancelled : Bool := false
  deriving DecidableEq

/-- What a request tells the breaker when it ends. -/
inductive Settlement
  | success
  | failure
  /-- The probe is given back without an outcome. -/
  | release
  | nothing
  deriving DecidableEq

def executeSettlement (e : Ending) (probeAcquired : Bool) : Settlement :=
  match e.raised with
  | none => .success
  | some .cancelled =>
    if e.guardControlFlow then .release
    else if e.callerCancelled then .release
    else if probeAcquired then .failure
    else .nothing
  | some .recoveryGuard => .release
  | some .recoveryAuthorityLost => .release
  | some .deadlineExceeded => if e.providerAttempted then .failure else .release
  | some .circuitOpen => if e.guardAborted then .release else .nothing
  | some .streamTimeout | some .exception =>
    if e.guardAborted then .release else if e.providerAttempted then .failure else .release
  | some .baseException => if e.guardControlFlow then .release else .nothing

def executeStreamSettlement (e : Ending) : Settlement :=
  match e.raised with
  | none => .success
  | some .streamTimeout | some .deadlineExceeded =>
    if e.providerAttempted then .failure else .nothing
  | some .circuitOpen => .nothing
  | some .recoveryGuard | some .recoveryAuthorityLost | some .exception => .failure
  | some .cancelled | some .baseException => .nothing

def executeGenericSettlement (e : Ending) : Settlement :=
  match e.raised with
  | none => .success
  | some .deadlineExceeded => if e.providerAttempted then .failure else .nothing
  | some .circuitOpen => .nothing
  | some .recoveryGuard | some .recoveryAuthorityLost | some .streamTimeout | some .exception =>
    .failure
  | some .cancelled | some .baseException => .nothing

def settlement (executor : Executor) (e : Ending) (probeAcquired : Bool) : Settlement :=
  match executor with
  | .execute => executeSettlement e probeAcquired
  | .executeStream => executeStreamSettlement e
  | .executeGeneric => executeGenericSettlement e

def Breaker.settle (cfg : BreakerSettings) (b : Breaker) (now : ℤ) (probeAcquired : Bool) :
    Settlement → Breaker
  | .success => b.onSuccess cfg
  | .failure => b.onFailure cfg now
  | .release => b.releaseProbe probeAcquired
  | .nothing => b

/-! ### Traffic -/

/-- A request that was let through and has not ended. -/
structure Request where
  executor : Executor
  probeAcquired : Bool
  deriving DecidableEq

structure Traffic where
  breaker : Breaker := {}
  inFlight : ℕ → Option Request := fun _ => none

inductive Act
  /-- The health of the provider is asked for. -/
  | isOpen (now : ℤ)
  | request (i : ℕ) (executor : Executor) (now : ℤ)
  | finish (i : ℕ) (e : Ending) (now : ℤ)

namespace Traffic

def step (cfg : BreakerSettings) (s : Traffic) : Act → Option Traffic
  | .isOpen now => some { s with breaker := s.breaker.observe cfg now }
  | .request i executor now => do
    guard (s.inFlight i = none)
    let (admitted, b) := s.breaker.beforeRequest cfg now
    if admitted then
      pure { breaker := b
             inFlight := Function.update s.inFlight i (some ⟨executor, b.probeAcquired⟩) }
    else pure { s with breaker := b }
  | .finish i e now => do
    let r ← s.inFlight i
    pure { breaker := s.breaker.settle cfg now r.probeAcquired
             (settlement r.executor e r.probeAcquired)
           inFlight := Function.update s.inFlight i none }

def Quiet (s : Traffic) : Prop := ∀ i, s.inFlight i = none

/-- **The breaker is not wedged**: if no request is in flight and the reset timeout is over, the next
request is let through. -/
def Live (cfg : BreakerSettings) (s : Traffic) : Prop :=
  s.Quiet → ∀ now, s.breaker.ResetTimeoutExpired cfg now → (s.breaker.beforeRequest cfg now).1 = true

/-- What the request tells the breaker frees the lock of a breaker that is half open. -/
def Frees (cfg : BreakerSettings) (b : Breaker) (probeAcquired : Bool) : Settlement → Prop
  | .success => cfg.successThreshold ≤ (b.successCount + 1 : ℕ)
  | .failure => True
  | .release => probeAcquired = true
  | .nothing => False

/-- **The step strands the lock**: the last request in flight ends while the lock is taken, and what
it tells the breaker does not free it. -/
def Strands (cfg : BreakerSettings) (s : Traffic) : Act → Prop
  | .finish i e _ => ∃ r, s.inFlight i = some r ∧ (∀ j, j ≠ i → s.inFlight j = none) ∧
      s.breaker.halfOpenLocked = true ∧
      ¬ Frees cfg s.breaker r.probeAcquired (settlement r.executor e r.probeAcquired)
  | _ => False

end Traffic

/-! ### The lock -/

namespace Breaker

variable {cfg : BreakerSettings} {b : Breaker} {now : ℤ}

def Locks (b : Breaker) : Prop := b.halfOpenLocked = true → b.state = .halfOpen

@[simp] theorem observe_halfOpenLocked : (b.observe cfg now).halfOpenLocked = b.halfOpenLocked := by
  unfold observe
  split <;> rfl

theorem observe_of_locked (hb : b.Locks) (h : b.halfOpenLocked = true) : b.observe cfg now = b := by
  simp [observe, hb h]

theorem Locks.observe (hb : b.Locks) : (b.observe cfg now).Locks := by
  intro h
  rw [observe_halfOpenLocked] at h
  rw [observe_of_locked hb h]
  exact hb h

theorem Locks.beforeRequest (hb : b.Locks) : (b.beforeRequest cfg now).2.Locks := by
  unfold Breaker.beforeRequest
  have hlocks : (b.observe cfg now).Locks := hb.observe
  revert hlocks
  generalize b.observe cfg now = b'
  intro hlocks
  cases hstate : b'.state with
  | opened => simpa [hstate] using hlocks
  | closed => simpa [hstate] using hlocks
  | halfOpen => cases hlocked : b'.halfOpenLocked <;> simp [hstate, hlocked, Locks]

theorem beforeRequest_rejected (h : (b.beforeRequest cfg now).1 = false) :
    (b.beforeRequest cfg now).2.halfOpenLocked = b.halfOpenLocked := by
  have hobserve : (b.observe cfg now).halfOpenLocked = b.halfOpenLocked := observe_halfOpenLocked
  revert h hobserve
  unfold Breaker.beforeRequest
  generalize b.observe cfg now = b'
  intro h hobserve
  cases hstate : b'.state with
  | opened => simpa [hstate] using hobserve
  | closed => simp [hstate] at h
  | halfOpen =>
    cases hlocked : b'.halfOpenLocked with
    | false => simp [hstate, hlocked] at h
    | true => simpa [hstate, hlocked] using hobserve.symm

theorem beforeRequest_of_locked (hb : b.Locks) (h : b.halfOpenLocked = true) :
    (b.beforeRequest cfg now).1 = false := by
  simp [beforeRequest, observe_of_locked hb h, hb h, h]

/-- After its reset timeout, a breaker whose lock is free lets the next request through. -/
theorem beforeRequest_of_unlocked (h : b.halfOpenLocked = false)
    (hexp : b.ResetTimeoutExpired cfg now) : (b.beforeRequest cfg now).1 = true := by
  unfold beforeRequest observe
  cases hstate : b.state <;> simp [hstate, hexp, h]

/-- Nothing that a request tells the breaker takes the lock. -/
theorem settle_of_unlocked (h : b.halfOpenLocked = false) (probe : Bool) (st : Settlement) :
    (b.settle cfg now probe st).halfOpenLocked = false := by
  cases st with
  | success =>
    change (b.onSuccess cfg).halfOpenLocked = false
    unfold onSuccess
    split
    · split
      · rfl
      · exact h
    · exact h
    · exact h
  | failure =>
    change (b.onFailure cfg now).halfOpenLocked = false
    unfold onFailure
    split
    · rfl
    · split
      · exact h
      · exact h
    · exact h
  | release =>
    change (b.releaseProbe probe).halfOpenLocked = false
    unfold releaseProbe
    split
    · rfl
    · exact h
  | nothing => exact h

theorem settle_locked_iff (hb : b.Locks) (probe : Bool) (st : Settlement) :
    (b.settle cfg now probe st).halfOpenLocked = true ↔
      b.halfOpenLocked = true ∧ ¬ Traffic.Frees cfg b probe st := by
  cases hlocked : b.halfOpenLocked with
  | false => simp [settle_of_unlocked hlocked]
  | true =>
    have hstate := hb hlocked
    cases st with
    | success =>
      by_cases hlast : cfg.successThreshold ≤ (b.successCount + 1 : ℕ)
      · simp only [settle, onSuccess, hstate, Traffic.Frees, hlast]
        simp
      · simp only [settle, onSuccess, hstate, Traffic.Frees, hlast]
        simp [hlocked]
    | failure => simp [settle, onFailure, hstate, Traffic.Frees]
    | release => cases probe <;> simp [settle, releaseProbe, hstate, Traffic.Frees, hlocked]
    | nothing => simp [settle, Traffic.Frees, hlocked]

theorem Locks.settle (hb : b.Locks) (probe : Bool) (st : Settlement) :
    (b.settle cfg now probe st).Locks := by
  intro h
  obtain ⟨hlocked, hkept⟩ := (settle_locked_iff hb probe st).1 h
  have hstate := hb hlocked
  cases st with
  | success =>
    have hmore : ¬ cfg.successThreshold ≤ (b.successCount + 1 : ℕ) := hkept
    simp only [Breaker.settle, onSuccess, hstate, if_neg hmore]
  | failure => exact absurd trivial hkept
  | release =>
    have hno : probe = false := by simpa [Traffic.Frees] using hkept
    simpa [Breaker.settle, releaseProbe, hno] using hstate
  | nothing => exact hstate

end Breaker

/-! ### The result -/

namespace Traffic

variable {cfg : BreakerSettings} {s s' : Traffic}

/-- A breaker is wedged exactly when a lock is left that no request in flight holds. -/
theorem live_iff (hb : s.breaker.Locks) :
    s.Live cfg ↔ (s.Quiet → s.breaker.halfOpenLocked = false) := by
  constructor
  · intro h hquiet
    by_contra hlocked
    have hlocked : s.breaker.halfOpenLocked = true := by simpa using hlocked
    have hexp : s.breaker.ResetTimeoutExpired cfg
        (s.breaker.lastFailureTime + cfg.resetTimeout + 1) := by
      unfold Breaker.ResetTimeoutExpired
      omega
    exact absurd (h hquiet _ hexp) (by simp [Breaker.beforeRequest_of_locked hb hlocked])
  · intro h hquiet now hexp
    exact Breaker.beforeRequest_of_unlocked (h hquiet) hexp

/-- **One step**: the breaker stays live exactly if the step does not strand the lock. -/
theorem step_live {a : Act} (hb : s.breaker.Locks) (hlive : s.Live cfg)
    (h : s.step cfg a = some s') :
    s'.breaker.Locks ∧ (s'.Live cfg ↔ ¬ s.Strands cfg a) := by
  rw [live_iff hb] at hlive
  cases a with
  | isOpen now =>
    cases h
    refine ⟨hb.observe, ?_⟩
    rw [live_iff hb.observe]
    simpa [Strands, Quiet] using hlive
  | request i executor now =>
    simp only [step, bind_eq_bind, bind_eq_some_iff, guard_eq_some'] at h
    obtain ⟨-, hfree, h⟩ := h
    have hlocks : (s.breaker.beforeRequest cfg now).2.Locks := hb.beforeRequest
    split at h
    · next hadmitted =>
      -- a request is in flight now
      cases h
      refine ⟨hlocks, ?_⟩
      simp only [Strands, not_false_eq_true, iff_true]
      intro hquiet
      have hbusy := hquiet i
      simp at hbusy
    · next hrejected =>
      cases h
      refine ⟨hlocks, ?_⟩
      rw [live_iff hlocks]
      simp only [Strands, not_false_eq_true, iff_true]
      intro hquiet
      rw [Breaker.beforeRequest_rejected (by simpa using hrejected)]
      exact hlive hquiet
  | finish i e now =>
    simp only [step, bind_eq_bind, bind_eq_some_iff] at h
    obtain ⟨r, hr, h⟩ := h
    cases h
    have hlocks : (s.breaker.settle cfg now r.probeAcquired
        (settlement r.executor e r.probeAcquired)).Locks := hb.settle _ _
    refine ⟨hlocks, ?_⟩
    rw [live_iff hlocks]
    -- nobody is in flight afterwards exactly if nobody else was before
    have hquiet : Quiet { s with inFlight := Function.update s.inFlight i none } ↔
        ∀ j, j ≠ i → s.inFlight j = none := by
      constructor
      · intro hq j hj
        simpa [hj] using hq j
      · intro hq j
        by_cases hj : j = i
        · simp [hj]
        · simpa [hj] using hq j hj
    constructor
    · rintro h' ⟨r', hr', hothers, hlocked, hkept⟩
      cases hr.symm.trans hr'
      have hstill : (s.breaker.settle cfg now r.probeAcquired
          (settlement r.executor e r.probeAcquired)).halfOpenLocked = true :=
        (Breaker.settle_locked_iff hb _ _).2 ⟨hlocked, hkept⟩
      exact absurd ((h' (hquiet.2 hothers)).symm.trans hstill) (by simp)
    · intro hno hq
      by_contra hlocked
      have hlocked := (Breaker.settle_locked_iff hb _ _).1 (by simpa using hlocked)
      exact hno ⟨r, hr, hquiet.1 hq, hlocked⟩

end Traffic

/-- **The breaker is never wedged along a run exactly if no step of it strands the lock**, for all
thresholds and timeouts, and for any requests that end in any way. -/
theorem breaker_never_wedges_iff (cfg : BreakerSettings) (acts : List Act) :
    Relational.Throughout (Traffic.Live cfg) (Traffic.step cfg) {} acts ↔
      Relational.AllMeet (fun s a => ¬ Traffic.Strands cfg s a) (Traffic.step cfg) {} acts := by
  refine Relational.throughout_iff_allMeet (I := fun s => s.breaker.Locks) ?_ ?_ ?_ ?_
  · intro s a hnone
    cases a with
    | isOpen | request => exact id
    | finish i e now =>
      rintro ⟨r, hr, -⟩
      simp [Traffic.step, hr] at hnone
  · intro s a s' hb hlive h
    exact Traffic.step_live hb hlive h
  · simp [Breaker.Locks]
  · rw [Traffic.live_iff (by simp [Breaker.Locks])]
    exact fun _ => rfl

/-- A request fails and opens the breaker; after the timeout a stream is let through as the probe, and
its consumer abandons it. -/
def sampleAbandonedStream : List Act :=
  [.request 0 .execute 0, .finish 0 { raised := some .exception, providerAttempted := true } 0,
    .request 1 .executeStream 61,
    .finish 1 { raised := some .baseException, providerAttempted := true } 62]

def sampleFirstSuccess : List Act :=
  [.request 0 .execute 0, .finish 0 { raised := some .exception, providerAttempted := true } 0,
    .request 1 .execute 61, .finish 1 { raised := none, providerAttempted := true } 62]

/-- **The breaker is wedged** after a stream was abandoned, and after the first of two successes: no
request is in flight, and the next one is turned away however late it comes. -/
theorem breaker_wedged :
    (Relational.exec (Traffic.step { failureThreshold := 1, resetTimeout := 60 }) {}
        sampleAbandonedStream).map (fun s =>
          (s.inFlight 0, s.inFlight 1,
            (s.breaker.beforeRequest { failureThreshold := 1, resetTimeout := 60 } 1000000).1)) =
        some (none, none, false) ∧
      (Relational.exec (Traffic.step
          { failureThreshold := 1, resetTimeout := 60, successThreshold := 2 }) {}
        sampleFirstSuccess).map (fun s =>
          (s.inFlight 0, s.inFlight 1,
            (s.breaker.beforeRequest
              { failureThreshold := 1, resetTimeout := 60, successThreshold := 2 } 1000000).1)) =
        some (none, none, false) := by
  decide +kernel

/-! ### The probe -/

namespace Traffic

variable {cfg : BreakerSettings} {s s' : Traffic}

/-- While the breaker is half open, at most one request that was let through half open is in
flight. -/
def OneProbe (s : Traffic) : Prop :=
  s.breaker.state = .halfOpen → ∀ i j r r', s.inFlight i = some r → r.probeAcquired = true →
    s.inFlight j = some r' → r'.probeAcquired = true → i = j

/-- Only the end of a request that was let through half open moves the breaker out of that state. -/
def ProbeDecides (cfg : BreakerSettings) (s : Traffic) (a : Act) : Prop :=
  ∀ s' ∈ s.step cfg a, s.breaker.state = .halfOpen → s'.breaker.state ≠ .halfOpen →
    ∃ i e now r, a = .finish i e now ∧ s.inFlight i = some r ∧ r.probeAcquired = true

/-- **A late outcome**: a request that was let through before the breaker opened ends while it is
half open, with a failure or with the last success that the threshold asks for. -/
def Intrudes (cfg : BreakerSettings) (s : Traffic) : Act → Prop
  | .finish i e _ => ∃ r, s.inFlight i = some r ∧ r.probeAcquired = false ∧
      s.breaker.state = .halfOpen ∧ Frees cfg s.breaker false (settlement r.executor e false)
  | _ => False

/-- What moves a half-open breaker, for a request that is not its probe. -/
theorem settle_state_ne_iff {b : Breaker} (now : ℤ) (h : b.state = .halfOpen) (st : Settlement) :
    (b.settle cfg now false st).state ≠ .halfOpen ↔ Frees cfg b false st := by
  cases st with
  | success =>
    by_cases hlast : cfg.successThreshold ≤ (b.successCount + 1 : ℕ)
    all_goals
      simp only [Breaker.settle, Breaker.onSuccess, h, Frees, hlast]
      simp
  | failure => simp [Breaker.settle, Breaker.onFailure, h, Frees]
  | release => simp [Breaker.settle, Breaker.releaseProbe, h, Frees]
  | nothing => simp [Breaker.settle, h, Frees]

/-- Reading the state or asking for admission leaves a half-open breaker half open. -/
theorem beforeRequest_halfOpen {b : Breaker} {now : ℤ} (h : b.state = .halfOpen) :
    (b.beforeRequest cfg now).2.state = .halfOpen := by
  cases hlocked : b.halfOpenLocked <;> simp [Breaker.beforeRequest, Breaker.observe, h, hlocked]

theorem probeDecides_iff {a : Act} : s.ProbeDecides cfg a ↔ ¬ s.Intrudes cfg a := by
  cases a with
  | isOpen now =>
    refine ⟨fun _ => id, fun _ s' h hstate hleft => absurd ?_ hleft⟩
    cases h
    simp [Breaker.observe, hstate]
  | request i executor now =>
    refine ⟨fun _ => id, fun _ s' h hstate hleft => absurd ?_ hleft⟩
    simp only [step, bind_eq_bind, bind_eq_some_iff, mem_def] at h
    obtain ⟨-, -, h⟩ := h
    split at h <;> cases h <;> exact beforeRequest_halfOpen hstate
  | finish i e now =>
    constructor
    · rintro h ⟨r, hr, hprobe, hstate, hfrees⟩
      have hleft := (settle_state_ne_iff now hstate _).2 hfrees
      rw [← hprobe] at hleft
      obtain ⟨_, _, _, r', hact, hr', hprobe'⟩ := h _ (by simp only [step, hr]; rfl) hstate hleft
      cases hact
      cases hr.symm.trans hr'
      cases hprobe.symm.trans hprobe'
    · intro hno s' h hstate hleft
      simp only [step, bind_eq_bind, bind_eq_some_iff, mem_def] at h
      obtain ⟨r, hr, h⟩ := h
      cases h
      cases hprobe : r.probeAcquired with
      | true => exact ⟨i, e, now, r, rfl, hr, hprobe⟩
      | false =>
        rw [hprobe] at hleft
        exact absurd ⟨r, hr, hprobe, hstate, (settle_state_ne_iff now hstate _).1 hleft⟩ hno

/-- The request that was let through half open holds the lock, alone. -/
structure Guarded (s : Traffic) : Prop where
  locks : s.breaker.Locks
  locked : ∀ i r, s.inFlight i = some r → r.probeAcquired = true →
    s.breaker.halfOpenLocked = true
  unique : ∀ i j r r', s.inFlight i = some r → r.probeAcquired = true →
    s.inFlight j = some r' → r'.probeAcquired = true → i = j

/-- **One step**: without late outcomes the lock stays with the probe. -/
theorem Guarded.step {a : Act} (hs : s.Guarded) (hno : ¬ s.Intrudes cfg a)
    (h : s.step cfg a = some s') : s'.Guarded := by
  cases a with
  | isOpen now =>
    cases h
    refine ⟨hs.locks.observe, ?_, hs.unique⟩
    simpa using hs.locked
  | request i executor now =>
    simp only [Traffic.step, bind_eq_bind, bind_eq_some_iff,
      guard_eq_some'] at h
    obtain ⟨-, -, h⟩ := h
    split at h
    · next hadmitted =>
      -- a request that is let through finds the lock free, so there is no probe
      cases h
      have hfree : ∀ j r, s.inFlight j = some r → r.probeAcquired = false := by
        intro j r hr
        by_contra hprobe
        have hlocked := hs.locked j r hr (by simpa using hprobe)
        simp [Breaker.beforeRequest_of_locked hs.locks hlocked] at hadmitted
      have hself : ∀ j r, Function.update s.inFlight i (some ⟨executor,
          (s.breaker.beforeRequest cfg now).2.probeAcquired⟩) j = some r →
          r.probeAcquired = true → j = i ∧ (s.breaker.beforeRequest cfg now).2.probeAcquired := by
        intro j r hr hprobe
        by_cases hj : j = i
        · subst hj
          simp only [Function.update_self, Option.some.injEq] at hr
          subst hr
          exact ⟨rfl, hprobe⟩
        · rw [Function.update_of_ne hj] at hr
          cases (hfree j r hr).symm.trans hprobe
      refine ⟨hs.locks.beforeRequest, fun j r hr hprobe => ?_, fun j k r r' hr hp hr' hp' => ?_⟩
      · have := (hself j r hr hprobe).2
        simp only [Breaker.probeAcquired, decide_eq_true_eq] at this
        exact this.2
      · rw [(hself j r hr hp).1, (hself k r' hr' hp').1]
    · next hrejected =>
      cases h
      refine ⟨hs.locks.beforeRequest, ?_, hs.unique⟩
      rw [Breaker.beforeRequest_rejected (by simpa using hrejected)]
      exact hs.locked
  | finish i e now =>
    simp only [Traffic.step, bind_eq_bind, bind_eq_some_iff] at h
    obtain ⟨r, hr, h⟩ := h
    cases h
    have hother : ∀ {j q}, Function.update s.inFlight i none j = some q →
        j ≠ i ∧ s.inFlight j = some q := by
      intro j q hq
      by_cases hj : j = i
      · simp [hj] at hq
      · exact ⟨hj, by rwa [Function.update_of_ne hj] at hq⟩
    refine ⟨hs.locks.settle _ _, fun j q hq hprobe => ?_, fun j k q q' hq hp hq' hp' => ?_⟩
    · obtain ⟨hj, hq⟩ := hother hq
      have hlocked := hs.locked j q hq hprobe
      refine (Breaker.settle_locked_iff hs.locks _ _).2 ⟨hlocked, fun hfrees => ?_⟩
      cases hp : r.probeAcquired with
      | true => exact hj (hs.unique j i q r hq hprobe hr hp)
      | false =>
        rw [hp] at hfrees
        exact hno ⟨r, hr, hp, hs.locks hlocked, hfrees⟩
    · exact hs.unique j k q q' (hother hq).2 hp (hother hq').2 hp'

end Traffic

/-- **There is at most one probe, and only probes decide, exactly if no outcome comes late**: for all
thresholds, and for any requests that come and end in any order. -/
theorem one_probe_iff (cfg : BreakerSettings) (acts : List Act) :
    Relational.Throughout Traffic.OneProbe (Traffic.step cfg) {} acts ∧
        Relational.AllMeet (Traffic.ProbeDecides cfg) (Traffic.step cfg) {} acts ↔
      Relational.AllMeet (fun s a => ¬ Traffic.Intrudes cfg s a) (Traffic.step cfg) {} acts := by
  constructor
  · rintro ⟨-, h⟩
    exact h.mono fun _ _ => Traffic.probeDecides_iff.1
  · intro h
    refine ⟨?_, h.mono fun _ _ => Traffic.probeDecides_iff.2⟩
    have hguarded := h.throughout (I := Traffic.Guarded) (fun _ _ _ hs hno hstep =>
      hs.step hno hstep) ⟨by simp [Breaker.Locks], by simp, by simp⟩
    exact hguarded.mono fun _ hs _ => hs.unique

/-- Two requests are let through; the first one fails and opens the breaker.  After the timeout a third
one is the probe.  Then the second one fails late. -/
def sampleLateFailure : List Act :=
  [.request 0 .execute 0, .request 1 .execute 0,
    .finish 0 { raised := some .exception, providerAttempted := true } 0, .request 2 .execute 61,
    .finish 1 { raised := some .exception, providerAttempted := true } 62]

/-- **A late failure opens the breaker again while its probe is in flight**, and after the next timeout
there are two probes in flight. -/
theorem late_failure_frees_probe :
    (Relational.exec (Traffic.step { failureThreshold := 1, resetTimeout := 60 }) {}
        sampleLateFailure).map (fun s => (s.breaker.state, s.inFlight 2)) =
        some (.opened, some ⟨.execute, true⟩) ∧
      (Relational.exec (Traffic.step { failureThreshold := 1, resetTimeout := 60 }) {}
        (sampleLateFailure ++ [.request 3 .execute 123])).map (fun s =>
          (s.breaker.state, s.inFlight 2, s.inFlight 3)) =
        some (.halfOpen, some ⟨.execute, true⟩, some ⟨.execute, true⟩) := by
  decide +kernel

/-! ### The counters -/

/-- The counters of the breaker, against the thresholds at which it leaves its state. -/
def Breaker.Counted (cfg : BreakerSettings) (b : Breaker) : Prop :=
  match b.state with
  | .closed => b.failureCount = 0 ∨ b.failureCount < cfg.failureThreshold
  | .opened => cfg.failureThreshold ≤ b.failureCount
  | .halfOpen => cfg.failureThreshold ≤ b.failureCount ∧
      (b.successCount = 0 ∨ b.successCount < cfg.successThreshold)

theorem Traffic.counted_step {cfg : BreakerSettings} {s s' : Traffic} {a : Act}
    (h : s.breaker.Counted cfg) (hstep : s.step cfg a = some s') : s'.breaker.Counted cfg := by
  have hobserve (now : ℤ) : (s.breaker.observe cfg now).Counted cfg := by
    grind [Breaker.observe, Breaker.Counted]
  cases a with
  | isOpen now =>
    cases hstep
    exact hobserve now
  | request i executor now =>
    simp only [step, bind_eq_bind, bind_eq_some_iff] at hstep
    obtain ⟨-, -, hstep⟩ := hstep
    have hafter : (s.breaker.beforeRequest cfg now).2.Counted cfg := by
      grind [Breaker.beforeRequest, Breaker.Counted]
    split at hstep <;> cases hstep <;> exact hafter
  | finish i e now =>
    simp only [step, bind_eq_bind, bind_eq_some_iff] at hstep
    obtain ⟨r, -, hstep⟩ := hstep
    cases hstep
    cases settlement r.executor e r.probeAcquired <;> grind [Breaker.settle, Breaker.onSuccess,
      Breaker.onFailure, Breaker.releaseProbe, Breaker.Counted]

/-- **The breaker leaves its state at its thresholds**: along a run it is `CLOSED` only below the
number of failures that opens it, `OPEN` or `HALF_OPEN` only after that many, and `HALF_OPEN` only
below the number of successes that closes it. -/
theorem counters_within_thresholds (cfg : BreakerSettings) (acts : List Act) :
    Relational.Throughout (fun s => s.breaker.Counted cfg) (Traffic.step cfg) {} acts := by
  suffices ∀ s : Traffic, s.breaker.Counted cfg →
      Relational.Throughout (fun s => s.breaker.Counted cfg) (Traffic.step cfg) s acts from
    this {} (.inl rfl)
  induction acts with
  | nil => exact fun s h => h
  | cons a acts ih => exact fun s h => ⟨h, fun s' hs' => ih s' (Traffic.counted_step h hs')⟩

end AssistantRuntime.Provider

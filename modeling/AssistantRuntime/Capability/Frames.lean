/-
**What a terminal frame of a client leads to.**

A client ends an invocation with one frame: a result, an error or a cancellation.  The server learns
of it in one of two ways.  While the attempt runs, the frame resolves, rejects or cancels the future
that the driver waits on.  Later, the client's own record of the frame is asked for by a
reconciliation of the waiting invocation.
-/

import AssistantRuntime.Capability.Ownership

namespace AssistantRuntime.Capability

open Concurrent Relational Table UserBudget

variable {allow : (q : Query) → q.Answer → Prop} {me : ℕ} {now : ℤ} {w : World} {v v' : Invocation}
variable {a : Attempt} {α : Type} {E : Raised → World → Prop}

/-! ### Steps of a worker that runs alone -/

/-- What was settled and given back of the quota of the invocation. -/
def World.disposition (w : World) (id : String) : List Mark :=
  (w.marks id).filter fun m => m = .settled || m = .released

/-- What the worker has in memory is what the store holds, as far as the next write can tell, and
`quota` is what was done about the quota. -/
structure Stands (quota : List Mark) (w : World) (v : Invocation) (a : Attempt) : Prop where
  row : ∃ u, w.ledger.invocations.find? v.invocationId = some u ∧ u.revision = v.revision ∧
    u.target = v.target
  attempt : w.ledger.attempts.find? a.attemptId = some a
  invocationId : a.invocationId = v.invocationId
  attemptNumber : a.attemptNumber = v.attempt
  disposition : w.disposition v.invocationId = quota

def Holds (v : Invocation) (w : World) : Prop := w.ledger.invocations.find? v.invocationId = some v

/-- The invocation and its quota are left like this. -/
def Left (v : Invocation) (quota : List Mark) (w : World) : Prop :=
  Holds v w ∧ w.disposition v.invocationId = quota

variable {quota : List Mark}

theorem World.compareAndSet_of_row {u : Invocation} {revision : ℕ}
    (hu : w.ledger.invocations.find? v.invocationId = some u) (hrev : u.revision = revision)
    (htarget : u.target = v.target) (me : ℕ) :
    ∃ w', w.compareAndSet v revision me = (true, w') ∧ Holds v w' ∧
      w'.ledger.attempts = w.ledger.attempts ∧ w'.disposition = w.disposition := by
  have hguard : w.ledger.guarded? v revision (fun _ => true) = some u :=
    Ledger.guarded?_eq_some.2 ⟨hu, hrev, rfl, htarget⟩
  refine ⟨_, by simp only [World.compareAndSet, Ledger.compareAndSet, hguard]; rfl, ?_, ?_, ?_⟩
  · exact find?_put_self hu
  · rfl
  · rfl

theorem Stands.compareAndSet (h : Stands quota w v a) (v' : Invocation)
    (hid : v'.invocationId = v.invocationId) (htarget : v'.target = v.target)
    (hattempt : v'.attempt = v.attempt) (me : ℕ) :
    ∃ w', World.compareAndSet v' v.revision me w = (true, w') ∧ Stands quota w' v' a ∧
      Holds v' w' := by
  obtain ⟨u, hu, hrev, hut⟩ := h.row
  obtain ⟨w', hwritten, hrow, hattempts, hquota⟩ :=
    World.compareAndSet_of_row (hid ▸ hu) hrev (hut.trans htarget.symm) me
  exact ⟨w', hwritten, ⟨⟨v', hrow, rfl, rfl⟩, hattempts ▸ h.attempt, h.invocationId.trans hid.symm,
    h.attemptNumber.trans hattempt.symm, by rw [hquota, hid]; exact h.disposition⟩, hrow⟩

variable {P : α → World → Prop}

@[simp] theorem wp_orRaise_ok {x : α} :
    wp allow me (orRaise (.ok x)) P E w ↔ P x w := Iff.rfl

@[simp] theorem wp_orRaise_error {e : Raised} :
    wp allow me (orRaise (.error e)) P E w ↔ E e w := Iff.rfl

theorem wp_transition {state : InvocationState} {c : Changes} (me : ℕ)
    (h : Stands quota w v a) (hok : transitionInvocation v state c now = .ok v') :
    ∃ w', Stands quota w' v' a ∧ Holds v' w' ∧ ∀ {allow P E},
      wp allow me (transition now v state c) P E w ↔ P v' w' := by
  obtain ⟨-, -, -, rfl⟩ := transitionInvocation_eq_ok.1 hok
  obtain ⟨w', hwritten, hw'⟩ := h.compareAndSet (v.move state c now) rfl rfl rfl me
  refine ⟨w', hw'.1, hw'.2, ?_⟩
  simp [transition, perform, hok, hwritten]

theorem wp_updateRemoteOutcome {o : RemoteOutcome} (me : ℕ) (h : Stands quota w v a)
    (hok : remoteOutcomeTransition v.remoteOutcome o = true) :
    ∃ revision w', Stands quota w' { v with remoteOutcome := some o, revision } a ∧
      ∀ {allow P E}, wp allow me (updateRemoteOutcome v o) P E w ↔
        P { v with remoteOutcome := some o, revision } w' := by
  by_cases hsame : v.remoteOutcome = some o
  · have hv : { v with remoteOutcome := some o, revision := v.revision } = v := by rw [← hsame]
    refine ⟨v.revision, w, hv ▸ h, ?_⟩
    simp [updateRemoteOutcome, changeRemoteOutcome, hsame, hv]
  · obtain ⟨w', hwritten, hw'⟩ := h.compareAndSet
      { v with remoteOutcome := some o, revision := v.revision + 1 } rfl rfl rfl me
    refine ⟨v.revision + 1, w', hw'.1, ?_⟩
    simp [updateRemoteOutcome, changeRemoteOutcome, hsame, hok, perform, hwritten]

theorem wp_finishAttempt (me : ℕ) (now : ℤ) (state : InvocationState) (error : Option JsonObject)
    (h : Stands quota w v a) (hterminal : state.isTerminal = true) :
    ∃ w', Stands quota w' v { a with state, error, completedAt := some now } ∧
      ∀ {allow P E}, wp allow me (finishAttempt now a state error) P E w ↔
        P { a with state, error, completedAt := some now } w' := by
  refine ⟨(World.updateAttempt { a with state, error, completedAt := some now } me w).2,
    ⟨h.row, find?_put_self h.attempt, h.invocationId, h.attemptNumber, h.disposition⟩, ?_⟩
  simp [finishAttempt, hterminal, perform]

/-! ### Frames -/

structure TerminalFrame where
  type : TerminalType
  payload : JsonObject

/-- `str(payload.get(key, default))`, with `str` for what is not a text. -/
def textMember (str : Json → String) (payload : JsonObject) (key default : String) : String :=
  match Json.member? key payload with
  | none => default
  | some (.str text) => text
  | some value => str value

open TerminalFrame

/-- `handle_inbound`, as the caller of `invoke` sees it: a result resolves the pending future, an
error rejects it, and a cancellation cancels it. -/
def TerminalFrame.received (str : Json → String) (t : TerminalFrame) :
    Except { f : Failure // f.afterSend = true } Json :=
  match t.type with
  | .result => .ok ((Json.member? "output" t.payload).getD .null)
  | .error => .error ⟨.remoteError (textMember str t.payload "code" "REMOTE_CAPABILITY_ERROR")
      (textMember str t.payload "message" "Remote capability failed")
      ((Json.member? "details" t.payload).getD .null), rfl⟩
  | .cancelled => .error ⟨.cancelled "", rfl⟩

def TerminalFrame.Live (str : Json → String) (t : TerminalFrame) : (q : Query) → q.Answer → Prop
  | .cancelled _ _, cancelled => cancelled = false
  | .deadline _, interruption => interruption = none
  | .interruption _, interruption => interruption = none
  | .dispatchGuard _, failed => failed = none
  | .socket _, failed => failed = none
  | .response _, response => response = t.received str
  | _, _ => True

/-- The answers with which the owner's originating client reports the frame. -/
def TerminalFrame.Reported (t : TerminalFrame) (v : Invocation) : (q : Query) → q.Answer → Prop
  | .connection _, snapshot =>
    ∃ client, v.originClientId = some client ∧ snapshot = .ok (v.ownerUserId, client)
  | .reconciliation _, answer => ∃ result, answer = .ok result ∧ result.status = .terminal ∧
    validateResponseIdentity v result = .ok () ∧ result.terminalType = some t.type ∧
    result.terminalPayload = some t.payload
  | _, _ => True

/-- What the server knows of the frame: the state, how certain the outcome is, the output, and the code
of the error. -/
def Invocation.learned (v : Invocation) : InvocationState × Option RemoteOutcome × Json × Option Json :=
  (v.state, v.remoteOutcome, v.output, v.error.bind (Json.member? "code"))

/-- The metered run of the attempt, in which the frame is received, leaves the invocation as `v`, and
does `quota` about its quota. -/
def TerminalFrame.LeavesLive (t : TerminalFrame) (str : Json → String) (me : ℕ) (s : Settings)
    (left : ℕ) (admission : Option ToolQuotaAdmission) (r : Run) (w : World) (v : Invocation)
    (quota : List Mark) : Prop :=
  let ends := Left v (quota ++ w.disposition v.invocationId)
  wp (t.Live str) me (finalizing admission r.id (runInvocationAttempt s left r)) (fun _ => ends)
    (fun _ => ends) w

/-- The reconciliation of `u`, by which the frame is reported, leaves it as `v`, and does `quota` about
its quota. -/
def TerminalFrame.LeavesReconciled (t : TerminalFrame) (me : ℕ) (now : ℤ) (connectionId : String)
    (u : Invocation) (w : World) (v : Invocation) (quota : List Mark) : Prop :=
  let ends := Left v (quota ++ w.disposition v.invocationId)
  wp (t.Reported u) me (reconcile now u.invocationId connectionId) (fun _ => ends) (fun _ => ends) w

variable {t : TerminalFrame} {str : Json → String} {s : Settings} {r : Run} {connectionId : String}

theorem wp_executeDriverOnce_live (t : TerminalFrame) (str : Json → String) (s : Settings) (me : ℕ)
    (h : Stands quota w r.invocation r.attempt) (hdriver : r.driver = .remote connectionId)
    (hconn : r.connectionId = some connectionId) :
    ∃ v w', Stands quota w' v r.attempt ∧ v.invocationId = r.id ∧ v.state = r.invocation.state ∧
      (v.remoteOutcome = some .inFlight ∨ v.remoteOutcome = r.invocation.remoteOutcome) ∧
      ∀ {P E}, wp (t.Live str) me (executeDriverOnce s r) P E w ↔
        P (v, ((t.received str).map Json.toPy).mapError (·.1)) w' := by
  have hguard : ∀ {v : Invocation} {w1 P E},
      wp (t.Live str) me (runDispatchGuard s v) P E w1 ↔ P none w1 := by
    by_cases hguarded : s.guarded = true <;>
      simp [runDispatchGuard, hguarded, ask, TerminalFrame.Live]
  have hinvoke : ∀ {v : Invocation} {w1 P E}, wp (t.Live str) me (realtimeInvoke v) P E w1 ↔
      P (((t.received str).map Json.toPy).mapError (·.1))
        (World.mark v.invocationId .handed me w1).2 := by
    simp [realtimeInvoke, ask, perform, TerminalFrame.Live]
  have hstands : ∀ {v w1}, Stands quota w1 v r.attempt →
      Stands quota (World.mark v.invocationId .handed me w1).2 v r.attempt :=
    fun h => ⟨h.row, h.attempt, h.invocationId, h.attemptNumber, by
      simpa [World.disposition, World.mark] using h.disposition⟩
  by_cases hnd : r.invocation.remoteOutcome = some .notDispatched
  · obtain ⟨w', hwritten, hw'⟩ := h.compareAndSet r.invocation.markedStarted rfl rfl rfl me
    refine ⟨_, _, hstands hw'.1, rfl, rfl, .inl rfl, ?_⟩
    simp [executeDriverOnce, executeRemote, markStarted, hdriver, hconn, hnd, ask, perform,
      TerminalFrame.Live, hwritten, hguard, hinvoke]
  · refine ⟨_, _, hstands h, rfl, rfl, .inr rfl, ?_⟩
    simp [executeDriverOnce, executeRemote, markStarted, hdriver, hconn, hnd, ask,
      TerminalFrame.Live, hguard, hinvoke]

/-- What a live frame teaches: a cancellation is taken for one of the server's own, after which
nobody knows what the client did. -/
def TerminalFrame.live (str : Json → String) (t : TerminalFrame) :
    InvocationState × Option RemoteOutcome × Json × Option Json :=
  match t.type with
  | .result => (.completed, some .terminalCommitted,
      (Json.member? "output" t.payload).getD .null, none)
  | .error => (.failed, some .terminalCommitted, .null,
      some (.str (textMember str t.payload "code" "REMOTE_CAPABILITY_ERROR")))
  | .cancelled => (.cancelled, some .outcomeUnknown, .null, some (.str "CAPABILITY_CANCELLED"))

/-- What is done about the quota when the frame is received live, if there is a reservation. -/
def TerminalFrame.liveQuota (t : TerminalFrame) (admission : Option ToolQuotaAdmission) : List Mark :=
  if t.type ≠ .cancelled ∧ admission.any (!·.historicalBridge) then [.settled] else []

def TerminalFrame.reconciled (t : TerminalFrame) :
    InvocationState × Option RemoteOutcome × Json × Option Json :=
  match t.type with
  | .result => (.completed, some .terminalCommitted,
      (Json.member? "output" t.payload).getD .null, none)
  | .error => (.failed, some .terminalCommitted, .null, Json.member? "code" t.payload)
  | .cancelled => (.cancelled, some .terminalCommitted, .null, some (.str "CAPABILITY_CANCELLED"))

theorem remoteOutcomeTransition_terminalCommitted {o : Option RemoteOutcome} (hnone : o ≠ none) :
    remoteOutcomeTransition o .terminalCommitted = true := by
  cases o with
  | none => exact absurd rfl hnone
  | some o => cases o <;> rfl

/-- **Reconciliation commits the frame**, and leaves the quota alone. -/
theorem wp_reconcile (me : ℕ) (hv : Holds v w) (hwaiting : v.state = .waiting)
    (hsnapshot : requireReconciliationSnapshot v = .ok ()) (hnone : v.remoteOutcome ≠ none)
    (hcommitted : v.remoteOutcome ≠ some .terminalCommitted) :
    ∃ v', v'.learned = t.reconciled ∧ t.LeavesReconciled me now connectionId v w v' [] := by
  generalize hc : terminalChanges t.type t.payload = c
  have hok : transitionInvocation v c.1 c.2 now = .ok (v.move c.1 c.2 now) := by
    refine transitionInvocation_eq_ok.2 ⟨?_, ?_, ?_, rfl⟩ <;> subst hc <;> cases t.type <;>
      simp [terminalChanges, transitions, hwaiting, remoteOutcomeTransition_terminalCommitted hnone]
  obtain ⟨w', hwritten, hrow, -, hquota⟩ :=
    World.compareAndSet_of_row (v := v.move c.1 c.2 now) hv rfl rfl me
  have hlocal : localTerminal v = none := if_neg fun h => hcommitted h.1
  refine ⟨v.move c.1 c.2 now, ?_, ?_⟩
  · subst hc
    cases ht : t.type <;> simp [Invocation.learned, reconciled, ht, terminalChanges,
      Invocation.move, InvocationState.isTerminal, Json.member?]
  · have hleft : Left (v.move c.1 c.2 now) (w.disposition (v.move c.1 c.2 now).invocationId) w' :=
      ⟨hrow, congrFun hquota _⟩
    simp only [TerminalFrame.LeavesReconciled, reconcile, wp_bind, perform, wp_perform, World.get]
    simp only [show w.ledger.invocations.find? v.invocationId = some v from hv, hlocal, hsnapshot,
      orCapabilityError, Except.mapError, wp_bind, wp_orRaise_ok, ask, wp_query]
    rintro _ ⟨client, hclient, rfl⟩
    simp only [wp_orRaise_ok, requireOriginatingClient, hclient, ne_eq, not_true_eq_false, if_false,
      wp_bind, wp_query]
    rintro _ ⟨result, rfl, hstatus, hidentity, htype, hpayload⟩
    simpa [hidentity, hstatus, commitTerminal, hwaiting, htype, hpayload, hc, transition, hok,
      perform, hwritten] using hleft

theorem wp_close {k : Invocation → Program α} {state state' : InvocationState}
    {error : Option JsonObject} {c : Changes} (me : ℕ) (h : Stands quota w v a)
    (hterminal : state.isTerminal = true) (hok : transitionInvocation v state' c now = .ok v')
    (hk : ∀ w', Left v' quota w' → wp allow me (k v') P E w') :
    wp allow me (do
      let _ ← finishAttempt now a state error
      let x ← transition now v state' c
      k x) P E w := by
  obtain ⟨w1, hw1, hfinish⟩ := wp_finishAttempt me now state error h hterminal
  obtain ⟨w2, hw2, hrow, hmove⟩ := wp_transition me hw1 hok
  exact wp_bind.2 (hfinish.2 (wp_bind.2 (hmove.2 (hk w2 ⟨hrow, hw2.disposition⟩))))

theorem wp_complete {output : PyValue} (me : ℕ) (h : Stands quota w r.invocation r.attempt)
    (hok : transitionInvocation r.invocation .completed
      ⟨none, output.encoded, none, if r.driver.isRemote then some .terminalCommitted else none⟩
        s.now = .ok v') : wp allow me (complete s r output) (fun _ => Left v' quota) E w :=
  wp_close me h rfl hok fun _ hrow => hrow

/-- A failure of which no attempt is left to learn more is settled. -/
theorem wp_settle {left : ℕ} {f : Failure} {P : CapabilityResult → World → Prop} (me : ℕ)
    (h : Stands quota w r.invocation r.attempt) (hnew : (verdict s r f).unlessCompleted = false)
    (hok : transitionInvocation r.invocation (verdict s r f).state (verdict s r f).changes s.now =
      .ok v') :
    wp allow me (match left with
      | 0 => settle s r f
      | left + 1 => do
        match ← tryRemoteRetry s r f with
        | (true, r) => runInvocationAttempt s left r
        | (false, r) => settle s r f) P (fun _ => Left v' quota) w := by
  have hterminal : (verdict s r f).attemptState.isTerminal = true := by cases f <;> rfl
  have hretry : allowsRetry r f = false := by cases f <;> first | rfl | cases hnew
  have hno : tryRemoteRetry s r f = pure (false, r) := by
    unfold tryRemoteRetry
    split <;> simp [hretry]
  have hsettle : wp allow me (settle s r f) P (fun _ => Left v' quota) w := by
    simp only [settle, closeAttempt, hnew, Bool.false_eq_true, false_and, if_false]
    exact wp_close me h hterminal hok fun _ hrow => hrow
  cases left with
  | zero => exact hsettle
  | succ left => simpa only [hno, wp_bind, wp_pure] using hsettle

theorem wp_recordOutcome_cancelled (me : ℕ) (h : Stands quota w r.invocation r.attempt)
    (hremote : r.driver.isRemote = true) (hnone : r.invocation.remoteOutcome ≠ none)
    (hcommitted : r.invocation.remoteOutcome ≠ some .terminalCommitted) :
    ∃ v w', Stands quota w' v r.attempt ∧ v.invocationId = r.id ∧ v.state = r.invocation.state ∧
      v.remoteOutcome = some .outcomeUnknown ∧
      ∀ {allow P E}, wp allow me (recordOutcome s r (.cancelled "")) P E w ↔
        P { r with invocation := v } w' := by
  by_cases hunknown : r.invocation.remoteOutcome = some .outcomeUnknown
  · exact ⟨r.invocation, w, h, rfl, rfl, hunknown, fun {allow P E} => by
      simp [recordOutcome, outcomeAfter, hunknown]⟩
  · have hopen : r.invocation.remoteOutcome = some .notDispatched ∨
        r.invocation.remoteOutcome = some .inFlight := by
      revert hnone hcommitted hunknown
      generalize r.invocation.remoteOutcome = o
      rcases o with _ | _ | _ | _ | _ <;> simp
    obtain ⟨revision, w', hw', hupdate⟩ := wp_updateRemoteOutcome (o := .outcomeUnknown) me h
      (by obtain ho | ho := hopen <;> rw [ho] <;> rfl)
    exact ⟨_, w', hw', rfl, rfl, rfl, fun {allow P E} => by
      simp [recordOutcome, outcomeAfter, hremote, hopen, hupdate]⟩

/-- What the finalizer does about the quota follows from what was learned. -/
theorem wp_finalizing_live {run : Program α} (admission : Option ToolQuotaAdmission)
    (hlearned : v.learned = t.live str)
    (hrun : wp allow me run (fun _ => Left v quota) (fun _ => Left v quota) w) :
    let ends := Left v (t.liveQuota admission ++ quota)
    wp allow me (finalizing admission v.invocationId run) (fun _ => ends) (fun _ => ends) w := by
  intro ends
  have hfinal : ∀ (result : Except Raised α) w', Left v quota w' →
      wp allow me (do
        let persisted ← perform (World.get v.invocationId)
        finalizeToolQuotaForInvocation admission persisted
        orRaise result) (fun _ => ends) (fun _ => ends) w' := by
    intro result w' hleft
    have hresult : ∀ w'', ends w'' → wp allow me (orRaise result) (fun _ => ends) (fun _ => ends)
        w'' := by
      intro w'' hends
      cases result with
      | ok _ => exact hends
      | error _ => exact hends
    refine wp_bind.2 ?_
    simp only [perform, wp_perform, World.get, show _ = some v from hleft.1]
    refine wp_bind.2 ?_
    simp only [Invocation.learned, live] at hlearned
    rcases admission with _ | a
    · exact hresult w' (by simpa [ends, liveQuota] using hleft)
    by_cases hbridge : a.historicalBridge
    · simpa [finalizeToolQuotaForInvocation, hbridge] using
        hresult w' (by simpa [ends, liveQuota, hbridge] using hleft)
    cases ht : t.type with
    | result | error =>
      simp only [ht, Prod.mk.injEq] at hlearned
      simp only [finalizeToolQuotaForInvocation, hbridge, settlesQuota, hlearned, decide_true,
        Bool.or_true, Bool.true_or, Bool.false_eq_true, if_true, if_false, perform, wp_perform]
      refine hresult _ ⟨hleft.1, ?_⟩
      simp [World.disposition, World.mark, liveQuota, ht, hbridge, ← hleft.2]
    | cancelled =>
      simp only [ht, Prod.mk.injEq] at hlearned
      simpa [finalizeToolQuotaForInvocation, hbridge, settlesQuota, releasesQuota, hlearned] using
        hresult w' (by simpa [ends, liveQuota, ht] using hleft)
  refine wp_bind.2 ((wp_attempted (x := run)).2 (hrun.mono ?_ ?_))
  · exact fun x w' hleft => hfinal (.ok x) w' hleft
  · exact fun e w' hleft => hfinal (.error e) w' hleft

section Live

variable (h : Stands quota w r.invocation r.attempt) (hdriver : r.driver = .remote connectionId)
  (hconn : r.connectionId = some connectionId) (hrunning : r.invocation.state = .running)
  (hnone : r.invocation.remoteOutcome ≠ none)
  (hcommitted : r.invocation.remoteOutcome ≠ some .terminalCommitted)

include h hdriver hconn hrunning hnone hcommitted

/-- **The run takes the frame as it comes.** -/
theorem wp_run_live (t : TerminalFrame) (str : Json → String) (s : Settings) (left me : ℕ) :
    ∃ v, v.learned = t.live str ∧ v.invocationId = r.id ∧
      wp (t.Live str) me (runInvocationAttempt s left r) (fun _ => Left v quota)
        (fun _ => Left v quota) w := by
  obtain ⟨v, w1, hw1, hid, hstate, houtcome, hdriven⟩ :=
    wp_executeDriverOnce_live t str s me h hdriver hconn
  rw [hrunning] at hstate
  have hv : v.remoteOutcome ≠ none := by obtain h | h := houtcome <;> simp [h, hnone]
  have hcommitted' : v.remoteOutcome ≠ some .terminalCommitted := by
    obtain h | h := houtcome <;> simp [h, hcommitted]
  have hlegal := remoteOutcomeTransition_terminalCommitted hv
  rw [runInvocationAttempt]
  simp only [wp_bind, hdriven]
  cases ht : t.type with
  | result =>
    simp only [received, ht, Except.map, Except.mapError]
    refine ⟨_, ?_, ?_, wp_complete me hw1
      (transitionInvocation_eq_ok.2 ⟨by simp [hstate, transitions], by simp,
        by simpa [hdriver, Driver.isRemote] using hlegal, rfl⟩)⟩
    · simp [Invocation.learned, live, ht, Invocation.move, InvocationState.isTerminal,
        hdriver, Driver.isRemote, Json.toPy]
    · exact hid
  | error =>
    simp only [received, ht, Except.map, Except.mapError, recordOutcome, outcomeAfter]
    refine ⟨_, ?_, ?_, wp_settle me hw1 rfl
      (transitionInvocation_eq_ok.2 ⟨by simp [hstate, transitions, verdict, failWith],
        by simp [verdict, failWith], by simpa [verdict, failWith] using hlegal, rfl⟩)⟩
    · simp [Invocation.learned, live, ht, verdict, failWith, Invocation.move,
        InvocationState.isTerminal, CapabilityError.modelDump, connectionError, Json.member?]
    · exact hid
  | cancelled =>
    obtain ⟨v', w2, hw2, hid', hstate', hunknown, hrecord⟩ :=
      wp_recordOutcome_cancelled (r := { r with invocation := v }) (s := s) me hw1
        (by simp [hdriver, Driver.isRemote]) hv hcommitted'
    simp only [received, ht, Except.map, Except.mapError, wp_bind, hrecord]
    refine ⟨_, ?_, ?_, wp_settle me hw2 rfl
      (transitionInvocation_eq_ok.2 ⟨by simp [hstate', hstate, transitions, verdict, stopWith],
        by simp [verdict, stopWith], by simp [verdict, stopWith], rfl⟩)⟩
    · simp [Invocation.learned, live, ht, verdict, stopWith, Invocation.move,
        InvocationState.isTerminal, hunknown, Json.member?]
    · exact hid'.trans hid

/-- **The metered run takes the frame as it comes**, and settles what is certain. -/
theorem leavesLive {left : ℕ} (admission : Option ToolQuotaAdmission) (me : ℕ) :
    ∃ v, v.learned = t.live str ∧
      t.LeavesLive str me s left admission r w v (t.liveQuota admission) := by
  obtain ⟨v, hlive, hid, hrun⟩ := wp_run_live h hdriver hconn hrunning hnone hcommitted t str s
    left me
  have hmetered := wp_finalizing_live admission hlive hrun
  refine ⟨v, hlive, ?_⟩
  rw [TerminalFrame.LeavesLive, ← hid]
  have hquota : w.disposition v.invocationId = quota := hid ▸ h.disposition
  rw [hquota]
  exact hmetered

end Live

/-- The same is learned of a result, and of an error whose code is a text. -/
theorem TerminalFrame.live_eq_reconciled :
    t.live str = t.reconciled ↔ t.type = .result ∨
      t.type = .error ∧ ∃ code, Json.member? "code" t.payload = some (.str code) := by
  cases ht : t.type with
  | result => simp [live, reconciled, ht]
  | cancelled => simp [live, reconciled, ht]
  | error =>
    simp only [live, reconciled, ht, textMember]
    split
    · next hnone => simp [hnone]
    · next code hcode => simp [hcode]
    · next value hother hvalue =>
        have hne : Json.str (str value) ≠ value := fun h => hother _ h.symm
        simpa [hvalue, hne] using hother

theorem TerminalFrame.liveQuota_eq_nil {admission : Option ToolQuotaAdmission}
    (h : t.type ≠ .cancelled) :
    t.liveQuota admission = [] ↔ ∀ a ∈ admission, a.historicalBridge = true := by
  cases admission <;> simp [liveQuota, h]

/-- **Live and reconciled outcomes agree for results, and for errors whose code is a text, if there is
no reservation**: a reconciliation never settles one.  The first run is any metered run of a running
attempt that receives the frame; the second is any reconciliation of a waiting invocation by which the
frame is reported. -/
theorem live_eq_reconciled_iff {left : ℕ} {connectionId connectionId' : String} {w' : World}
    {admission : Option ToolQuotaAdmission} (me : ℕ) (h : Stands quota w r.invocation r.attempt)
    (hdriver : r.driver = .remote connectionId)
    (hconn : r.connectionId = some connectionId) (hrunning : r.invocation.state = .running)
    (hopen : r.invocation.remoteOutcome ≠ none ∧
      r.invocation.remoteOutcome ≠ some .terminalCommitted)
    (hv : Holds v w') (hwaiting : v.state = .waiting)
    (hsnapshot : requireReconciliationSnapshot v = .ok ())
    (hopen' : v.remoteOutcome ≠ none ∧ v.remoteOutcome ≠ some .terminalCommitted) :
    ∃ live reconciled liveQuota reconciledQuota,
      t.LeavesLive str me s left admission r w live liveQuota ∧
      t.LeavesReconciled me now connectionId' v w' reconciled reconciledQuota ∧
      (live.learned = reconciled.learned ∧ liveQuota = reconciledQuota ↔
        (t.type = .result ∨
          t.type = .error ∧ ∃ code, Json.member? "code" t.payload = some (.str code)) ∧
        ∀ a ∈ admission, a.historicalBridge = true) := by
  obtain ⟨live, hlive, hrun⟩ := leavesLive h hdriver hconn hrunning hopen.1 hopen.2 admission me
  obtain ⟨reconciled, hlearned, hreconcile⟩ :=
    wp_reconcile me hv hwaiting hsnapshot hopen'.1 hopen'.2
  refine ⟨live, reconciled, t.liveQuota admission, [], hrun, hreconcile, ?_⟩
  rw [hlive, hlearned, live_eq_reconciled]
  refine and_congr_right fun hframe => liveQuota_eq_nil ?_
  rcases hframe with ht | ⟨ht, -⟩ <;> simp [ht]

/-! ### A frame of a client's tool -/

def clientInvocation (state : InvocationState) : Invocation :=
  { clientToolCall.candidate onlyFingerprint with
    state, attempt := 1, remoteOutcome := some .outcomeUnknown }

def clientAttempt : Attempt where
  attemptId := "first"
  invocationId := "invocation"
  attemptNumber := 1
  implementationId := "client-notes"
  driverKind := "remote_client"
  connectionId := some "connection"
  state := .running

def clientWorld (state : InvocationState) : World where
  ledger := {
    invocations := ((∅ : Table Invocation.invocationId).insert? (clientInvocation state)).getD ∅
    attempts := ((∅ : Table Attempt.attemptId).insert? clientAttempt).getD ∅ }

theorem stands_clientWorld (state : InvocationState) :
    Stands [] (clientWorld state) (clientInvocation state) clientAttempt := by
  cases state <;> exact ⟨⟨_, rfl, rfl, rfl⟩, rfl, rfl, rfl, rfl⟩

def LiveClient (t : TerminalFrame) (admission : Option ToolQuotaAdmission) :
    Invocation → List Mark → Prop :=
  t.LeavesLive (fun _ => "") 0 clientToolCall.settings 1 admission
    (clientToolCall.run (clientInvocation .running) clientAttempt) (clientWorld .running)

def ReconciledClient (t : TerminalFrame) : Invocation → List Mark → Prop :=
  t.LeavesReconciled 0 0 "connection" (clientInvocation .waiting) (clientWorld .waiting)

theorem result_learned_in_both_ways : ∃ live reconciled quota,
    LiveClient ⟨.result, []⟩ none live quota ∧ ReconciledClient ⟨.result, []⟩ reconciled quota ∧
      live.learned = reconciled.learned := by
  obtain ⟨live, reconciled, quota, quota', hlive, hreconciled, hiff⟩ :
      ∃ live reconciled quota quota', LiveClient ⟨.result, []⟩ none live quota ∧
        ReconciledClient ⟨.result, []⟩ reconciled quota' ∧ _ :=
    live_eq_reconciled_iff 0 (stands_clientWorld .running) rfl rfl rfl ⟨nofun, nofun⟩ rfl rfl rfl
      ⟨nofun, nofun⟩
  obtain ⟨hlearned, rfl⟩ := hiff.2 ⟨.inl rfl, nofun⟩
  exact ⟨live, reconciled, quota, hlive, hreconciled, hlearned⟩

/-- The charge of the client's tool. -/
def clientAdmission : ToolQuotaAdmission where
  ownerUserId := "user"
  invocationId := "invocation"
  capabilityId := "notes"
  requestFingerprint := "fingerprint"
  reservationId := some "charge"
  reservationState := .reserved

/-- **A result settles its reservation only if it is received live**: a reconciliation commits the same
result and leaves the reservation as it is. -/
theorem result_settled_only_live : ∃ live reconciled,
    LiveClient ⟨.result, []⟩ (some clientAdmission) live [.settled] ∧
      ReconciledClient ⟨.result, []⟩ reconciled [] ∧
      live.state = .completed ∧ reconciled.state = .completed := by
  obtain ⟨live, hlive, hrun⟩ : ∃ v, v.learned = _ ∧
      LiveClient ⟨.result, []⟩ (some clientAdmission) v [.settled] :=
    leavesLive (stands_clientWorld .running) rfl rfl rfl (by decide) (by decide) _ 0
  obtain ⟨reconciled, hlearned, hreconcile⟩ :
      ∃ v, v.learned = _ ∧ ReconciledClient ⟨.result, []⟩ v [] :=
    wp_reconcile 0 (by rfl) (by rfl) (by rfl) (by decide) (by decide)
  exact ⟨live, reconciled, hrun, hreconcile, congrArg Prod.fst hlive, congrArg Prod.fst hlearned⟩

end AssistantRuntime.Capability

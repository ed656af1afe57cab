/-
**Who runs an invocation, how often, and who pays.**

What the protocol of the workers says of every reachable system.  One worker at a time runs an
invocation, and nobody takes it from that worker.  The attempts of an invocation at rest are numbered
without a gap, and an invocation that is over stays as it is.  A request that must not run twice is
handed to a client at most once, and nothing on the server runs after it.

Quota is given back by what the row of the invocation says at its end.  A server driver leaves the
row's record of the remote side effect as it found it, so a driver that was started under a record
that says that nothing was dispatched can fail without being paid for.

Main results:

* `Runs.ownership` — one worker, numbered attempts, final rows;
* `Runs.compareAndSet_iff` — no update is lost;
* `Runs.handed_at_most_once` — at most one dispatch;
* `RunsUnder.released_unrun` — quota is given back only for what never ran, if no server driver is
  started under a record that nothing was dispatched;
* `released_after_fallback` — without that condition it is not.
-/

import AssistantRuntime.Capability.Workers

namespace AssistantRuntime.Capability

open Concurrent Relational UserBudget List

variable {fingerprint : Fingerprint} {barred : Barred} {S S' : Runtime} {id : String}
  {v : Invocation}

/-! ### A client's tool -/

/-- A call of a tool that a client provides, with one more attempt. -/
def clientToolCall : Call where
  invocationId := "invocation"
  capabilityId := "notes"
  capabilityVersion := some "1"
  kind := .tool
  executionMode := .oneShot
  idempotency := .nonIdempotent
  userId := "user"
  originClientId := some "client"
  executionId := some "execution"
  toolCallId := some "call"
  connectionId := some "connection"
  maxAttempts := 2
  arguments := []
  driver := .remote "connection"
  selectedImplementationId := some "client-notes"
  effectiveDriverKind := "remote_client"
  quotaService := true
  canonicalAgentToolHardTimeout := false
  timeoutSeconds := .null
  catalog := true
  now := 0
  str _ := ""
  dict _ := none

def onlyFingerprint : Fingerprint := fun _ _ _ _ => "fingerprint"

/-- What the environment of a call does. -/
structure Scene where
  /-- Why the frame cannot be handed over. -/
  socket : Option { f : Failure // f.beforeSend = true } := none
  /-- What comes of the request once it was handed over. -/
  response : Except { f : Failure // f.afterSend = true } Json :=
    .error ⟨.connectionLost "connection" "invocation", rfl⟩
  /-- Server drivers are cancelled before they start. -/
  cancelsServer : Bool := false
  /-- What comes of a server driver. -/
  server : Except { f : Failure // f.byServer = true } PyValue :=
    .error ⟨.other "ValueError" "no notes" none none false, rfl⟩
  /-- The implementations that a retry may choose from. -/
  routable : List Implementation := []

def Scene.answers (c : Scene) : ℕ → (q : Query) → q.Answer
  | n, .attemptId => if n < 6 then "first" else "second"
  | _, .cancelled _ driver => !driver.isRemote && c.cancelsServer
  | _, .deadline _ => none
  | _, .interruption _ => none
  | _, .dispatchGuard _ => none
  | _, .socket _ => c.socket
  | _, .response _ => c.response
  | _, .server _ => c.server
  | _, .routing _ _ =>
    { contained := true, routable := c.routable, active := ["connection"], scopesGranted := true
      bound := c.routable.map (·.implementationId), legacyDriver := false, allowed := true }
  | _, .owner _ => .ok none
  | _, .reserve v => .ok (some
      { ownerUserId := "user", invocationId := v.invocationId, capabilityId := v.capabilityId
        requestFingerprint := "fingerprint", idempotencyKey := none, reservationId := some "charge"
        windowEpoch := none, reservationState := .reserved })
  | _, .authority _ => .ok none
  | _, .recover _ => .ok none
  | _, .continuationTarget _ _ =>
    .ok { implementationId := "client-notes", location := .client, driverKind := "remote_client" }
  | _, .connection _ => .ok (some "user", "client")
  | _, .reconciliation _ => .error (.runtimeError "no record")

/-- The store after the worker `i` made the call, if nobody else works. -/
def Scene.after (c : Scene) (call : Call) (i : ℕ) (w : World) : World :=
  ((worker (executeCapability onlyFingerprint call)).exec i c.answers 0 w).2

theorem Scene.runs (c : Scene) (call : Call) (S : Runtime) :
    ∃ S', Runs onlyFingerprint S S' ∧ S'.store = c.after call S.next S.store ∧
      S'.next = S.next + 1 :=
  System.reaches_spawn_exec (fun _ _ _ => trivial) (.execute call) S

/-- If no server driver is started, the run meets every condition on that. -/
theorem Scene.runsUnder (c : Scene) (call : Call) (barred : Barred)
    (h : c.cancelsServer = true) (S : Runtime) :
    ∃ S', RunsUnder onlyFingerprint barred S S' ∧ S'.store = c.after call S.next S.store ∧
      S'.next = S.next + 1 := by
  refine System.reaches_spawn_exec (fun n q w => ?_) (.execute call) S
  unfold Permitted
  split
  · intro hstarted
    simp [Scene.answers, Driver.isRemote, h] at hstarted
  · trivial

/-! ### Ownership -/

/-- **Ownership of one invocation**, in one state of the system. -/
structure Ownership (fingerprint : Fingerprint) (S : Runtime) (id : String) : Prop where
  /-- A worker that is in the driver of the invocation has the right to run it. -/
  entitled : ∀ i q k, S.workers i = some (.ask q k) → q.drives = some id →
    S.store.holder id = some i
  /-- So no two workers are. -/
  exclusive : ∀ i j q q' k k', S.workers i = some (.ask q k) → S.workers j = some (.ask q' k') →
    q.drives = some id → q'.drives = some id → i = j
  /-- Nobody else takes that right, or changes what it is about. -/
  undisturbed : ∀ i j ρ f k, S.store.holder id = some i → j ≠ i →
    S.workers j = some (.act ρ f k) →
      (f j S.store).2.holder id = some i ∧ (f j S.store).2.view id = S.store.view id
  /-- Nobody has it while the invocation waits or is over. -/
  resting : ∀ v, S.store.ledger.invocations.find? id = some v → v.state.isAtRest = true →
    S.store.holder id = none
  /-- The attempts of an invocation that waits or is over are numbered without gaps. -/
  numbered : ∀ v, S.store.ledger.invocations.find? id = some v → v.state.isAtRest = true →
    (S.store.ledger.attemptsOf id).map (·.attemptNumber) = List.range' 1 v.attempt
  /-- The attempts of an invocation that waits are over, and its history is accepted. -/
  continuable : ∀ v, S.store.ledger.invocations.find? id = some v → v.state = .waiting →
    (∀ a ∈ S.store.ledger.attemptsOf id, a.state.isTerminal = true) ∧
      validateAttemptHistory v (S.store.ledger.listAttempts id) = .ok ()
  /-- An invocation that is over stays as it is. -/
  final : ∀ v S', S.store.ledger.invocations.find? id = some v → v.state.isTerminal = true →
    Runs fingerprint S S' → S'.store.ledger.invocations.find? id = some v

/-- An invocation at rest is held by nobody, and all its attempts are over. -/
theorem Sound.finished_of_isAtRest {x : View} {holder : Option ℕ} (h : Sound barred x holder)
    (hrow : x.row = some v) (hrest : v.state.isAtRest = true) :
    holder = none ∧ Finished v.attempt x.attempts := by
  have hholder : holder = none := by
    by_contra hne
    have hbusy := (h.held v hrow hne).busy
    rw [hrest] at hbusy
    cases hbusy
  refine ⟨hholder, ?_⟩
  cases h.free v hrow hholder with
  | created state | dispatching state =>
    rw [state] at hrest
    cases hrest
  | waiting _ _ _ history _ => exact history
  | terminal _ history _ => exact history

theorem Finished.validateAttemptHistory {l : Ledger} (h : Finished v.attempt (l.attemptsOf id)) :
    validateAttemptHistory v (l.listAttempts id) = .ok () := by
  have hnumbered : Ledger.numbered v.attempt (l.attemptsOf id) = true := decide_eq_true h.1
  rw [Ledger.listAttempts_of_numbered hnumbered]
  refine if_pos ⟨hnumbered, ?_⟩
  rw [all_eq_true]
  exact h.2

/-- **In every reachable system**, whoever stopped in between. -/
theorem Runs.ownership (h : Runs fingerprint .empty S) (id : String) :
    Ownership fingerprint S id := by
  have hunder := Runs.unbarred h
  have hholds := hunder.holds
  have hentitled : ∀ i q k, S.workers i = some (.ask q k) → q.drives = some id →
      S.store.holder id = some i := fun i q k hi hq => (hholds.asks hi id hq).1
  refine ⟨hentitled, ?_, ?_, ?_, ?_, ?_, ?_⟩
  · intro i j q q' k k' hi hj hq hq'
    exact Option.mem_unique (hentitled i q k hi hq) (hentitled j q' k' hj hq')
  · intro i j ρ f k hholder hne hj
    obtain ⟨hview, hholder'⟩ := ((hholds.acts hj).2.1 id).others i hne.symm hholder
    exact ⟨hholder', hview⟩
  · intro v hv hrest
    exact ((hholds.inv id).finished_of_isAtRest hv hrest).1
  · intro v hv hrest
    exact ((hholds.inv id).finished_of_isAtRest hv hrest).2.1
  · intro v hv hwaiting
    have hrest : v.state.isAtRest = true := by
      rw [hwaiting]
      rfl
    have hfinished := ((hholds.inv id).finished_of_isAtRest hv hrest).2
    exact ⟨hfinished.2, hfinished.validateAttemptHistory⟩
  · intro v S' hv hterminal hrun
    obtain ⟨v', hv', -, -, -, hsame⟩ := hunder.progress (Runs.unbarred hrun) id v hv
    rw [hv', hsame hterminal]

/-- The client is lost while it works: the invocation waits, and can be continued. -/
theorem ownership_after_loss :
    ∃ S : Runtime, (∃ v, S.store.ledger.invocations.find? "invocation" = some v ∧
    v.state = .waiting ∧ v.attempt = 1) ∧ Ownership onlyFingerprint S "invocation" := by
  obtain ⟨S, hrun, hstore, -⟩ := Scene.runs {} clientToolCall .empty
  refine ⟨S, ?_, Runs.ownership hrun "invocation"⟩
  have hrow : (S.store.ledger.invocations.find? "invocation").map
      (fun v => (v.state, v.attempt)) = some (.waiting, 1) := by
    rw [hstore]
    decide +kernel
  obtain ⟨v, hv, hstate⟩ := Option.map_eq_some_iff.1 hrow
  exact ⟨v, hv, congrArg Prod.fst hstate, congrArg Prod.snd hstate⟩

/-! ### Guarded writes -/

/-- **No update is lost**: a write that names the revision of a row read at any earlier time takes
effect exactly if that row is still stored. -/
theorem Runs.compareAndSet_iff (h : Runs fingerprint .empty S) (hrun : Runs fingerprint S S')
    (w : Invocation) (hv : S.store.ledger.invocations.find? w.invocationId = some v) :
    (S'.store.ledger.compareAndSet w v.revision).1 = true ↔
      S'.store.ledger.invocations.find? w.invocationId = some v ∧ v.target = w.target := by
  obtain ⟨v', hv', hrevision, -⟩ := (Runs.unbarred h).progress (Runs.unbarred hrun) _ v hv
  have hsame : v'.revision = v.revision ↔ v' = v :=
    ⟨fun heq => hrevision.resolve_right (by omega), fun heq => by rw [heq]⟩
  unfold Ledger.compareAndSet Ledger.guarded?
  grind

/-- The client is lost, and the same call comes again. -/
theorem compareAndSet_iff_after_loss : ∃ S S' : Runtime, ∃ v,
    S.store.ledger.invocations.find? v.invocationId = some v ∧
    ((S'.store.ledger.compareAndSet v v.revision).1 = true ↔
      S'.store.ledger.invocations.find? v.invocationId = some v ∧ v.target = v.target) := by
  obtain ⟨S, hrun, hstore, -⟩ := Scene.runs {} clientToolCall .empty
  obtain ⟨S', hrun', -⟩ := Scene.runs {} clientToolCall S
  have hrow : (S.store.ledger.invocations.find? "invocation").isSome := by
    rw [hstore]
    decide +kernel
  obtain ⟨v, hv⟩ := Option.isSome_iff_exists.1 hrow
  rw [← Table.key_of_find? hv] at hv
  exact ⟨S, S', v, hv, Runs.compareAndSet_iff hrun hrun' v hv⟩

/-! ### At most one dispatch -/

/-- If nothing ran after a request was handed over, it was handed over once. -/
theorem HandedLast.count_le_one {marks : List Mark} (h : HandedLast marks) :
    marks.count .handed ≤ 1 := by
  induction marks with
  | nil => simp
  | cons m rest ih =>
    by_cases hmem : .handed ∈ rest
    · -- what came last is not a dispatch
      obtain ⟨later, earlier, rfl⟩ := append_of_mem hmem
      have hm := h (m :: later) earlier rfl m mem_cons_self
      have hne : m ≠ .handed := by
        rintro rfl
        cases hm
      rw [count_cons_of_ne hne]
      exact ih fun later' earlier' heq m' hm' =>
        h (m :: later') earlier' (by rw [heq]; rfl) m' (mem_cons_of_mem _ hm')
    · rw [count_cons, count_eq_zero_of_not_mem hmem]
      split <;> simp

/-- **At most one dispatch** of an invocation that must not run twice, and nothing on the server
after it. -/
theorem Runs.handed_at_most_once (h : Runs fingerprint .empty S) (id : String)
    (hdeclared : ∀ v, S.store.ledger.invocations.find? id = some v →
      v.idempotency ≠ .idempotent ∧ v.idempotency ≠ .deduplicated) :
    (S.store.marks id).count .handed ≤ 1 ∧
      ∀ later earlier, S.store.marks id = later ++ .handed :: earlier → .entered ∉ later := by
  have hlast : HandedLast (S.store.marks id) := by
    have hsound := (Runs.unbarred h).holds.inv id
    cases hrow : S.store.ledger.invocations.find? id with
    | none =>
      have hmarks : S.store.marks id = [] := (hsound.absent hrow).2.1
      rw [hmarks]
      exact .nil
    | some v =>
      refine (hsound.recorded v hrow).once ?_
      cases hv : v.idempotency <;> simp_all [Idempotency.replaySafe]
  refine ⟨hlast.count_le_one, fun later earlier heq hmem => ?_⟩
  cases hlast later earlier heq .entered hmem

theorem handed_once_after_loss : ∃ S : Runtime, .handed ∈ S.store.marks "invocation" ∧
    (S.store.marks "invocation").count .handed ≤ 1 ∧
      ∀ later earlier, S.store.marks "invocation" = later ++ .handed :: earlier →
        .entered ∉ later := by
  obtain ⟨S, hrun, hstore, -⟩ := Scene.runs {} clientToolCall .empty
  have hmarks : .handed ∈ S.store.marks "invocation" := by
    rw [hstore]
    decide +kernel
  refine ⟨S, hmarks, Runs.handed_at_most_once hrun "invocation" ?_⟩
  have hrow : (S.store.ledger.invocations.find? "invocation").map (·.idempotency) =
      some .nonIdempotent := by
    rw [hstore]
    decide +kernel
  intro v hv
  rw [hv] at hrow
  simp [Option.some.inj hrow]

/-! ### Quota -/

/-- **Quota is given back only for what never ran**, if no server driver is started under a record
that nothing was dispatched. -/
theorem RunsUnder.released_unrun (h : RunsUnder fingerprint (· = .notDispatched) .empty S)
    (hreleased : .released ∈ S.store.marks id) :
    .handed ∉ S.store.marks id ∧ .entered ∉ S.store.marks id := by
  have hsound := h.holds.inv id
  cases hrow : S.store.ledger.invocations.find? id with
  | none =>
    have hmarks : S.store.marks id = [] := (hsound.absent hrow).2.1
    simp [hmarks]
  | some v =>
    have hrecorded := hsound.recorded v hrow
    obtain ⟨-, hnd⟩ := hrecorded.released hreleased
    exact ⟨hrecorded.unsent hnd, hrecorded.unentered hnd rfl⟩

def serverNotes : Implementation where
  implementationId := "server-notes"
  location := .server
  driverKind := "local"

def closedSocket : Option { f : Failure // f.beforeSend = true } :=
  some ⟨.connectionState "connection is closed", rfl⟩

/-- The frame cannot be handed over, and the driver on the server is cancelled before it starts. -/
theorem released_before_server : ∃ S : Runtime, .released ∈ S.store.marks "invocation" ∧
    .handed ∉ S.store.marks "invocation" ∧ .entered ∉ S.store.marks "invocation" := by
  obtain ⟨S, hrun, hstore, -⟩ := Scene.runsUnder
    { socket := closedSocket, routable := [serverNotes], cancelsServer := true } clientToolCall
    (· = .notDispatched) rfl .empty
  have hreleased : .released ∈ S.store.marks "invocation" := by
    rw [hstore]
    decide +kernel
  exact ⟨S, hreleased, RunsUnder.released_unrun hrun hreleased⟩

/-- **Quota given back for a driver that ran**: the frame cannot be handed over, the retry goes to the
server, and the driver there fails. -/
theorem released_after_fallback : ∃ S, Runs onlyFingerprint .empty S ∧
    .released ∈ S.store.marks "invocation" ∧ .entered ∈ S.store.marks "invocation" := by
  obtain ⟨S, hrun, hstore, -⟩ := Scene.runs { socket := closedSocket, routable := [serverNotes] }
    clientToolCall .empty
  have hmarks : S.store.marks "invocation" = [.released, .entered] := by
    rw [hstore]
    decide +kernel
  refine ⟨S, hrun, ?_, ?_⟩
  · simp [hmarks]
  · simp [hmarks]

end AssistantRuntime.Capability

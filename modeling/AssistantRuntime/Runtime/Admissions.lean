/-
**Admissions and activations happen once.**

A fork, a retry and an aggregation carry a request id.  The unit of work that admits the new
execution also stores an admission under that id; a call that finds the admission answers from it.
Any number of calls may run at once, draw ids of their own for the rows they are about to write, and
be tried again: each attempt is one step of a run, and a call that ran into the admission of another
one may also answer from a look-up of its own (`_probe_fork_replay`, `_probe_retry_replay`).

The admitted execution runs at revision one, and nobody has started it.  Any number of workers may try
to activate it while its task is cancelled, its branch discarded or another branch adopted.  Each of
these wants to move it out of revision one, and revisions never go back: whoever commits first has
moved it for good.

Main results:

* `admitted_once` — of all calls with one request id, at most one admits anything, and all that
  return have its semantics and return its ids;
* `charged_once` — so it is with the charges to a budget;
* `activated_or_cancelled_once` — one activation or one cancellation commits, never two of either or
  one of each, and the slot is held exactly while the execution runs.
-/

import AssistantRuntime.Relational.Machine
import AssistantRuntime.Runtime.Accounting
import AssistantRuntime.Runtime.Retention

namespace AssistantRuntime.Runtime

open Relational Uow Table Agent TaskBudget Persistence Option

variable {D : Digests}

/-! ### Forks -/

/-- A call of `consume_fork_plan` returns `a`: from an attempt, or from the look-up after one that
was refused.  The fingerprint of the plan is compared before either. -/
def ForkReturns (plan : ForkPlan D.Plan) (a : ForkAdmission D.Plan) (db db' : Db D) : Prop :=
  (∃ branchId executionId startedAt evidence,
    consumeForkPlan plan branchId executionId startedAt evidence db = .ok (a, db')) ∨
  (D.plan (.fork plan.toForkPlanBody) = plan.planFingerprint ∧
    probeForkReplay plan db = .ok (some a, db'))

/-- One admission, one execution and one branch are stored, and the budget counts them once. -/
def ForkAdmits (plan : ForkPlan D.Plan) (a : ForkAdmission D.Plan) (db db' : Db D) : Prop :=
  ∃ receipt e branch b b', db.forkAdmissions.insert? receipt = some db'.forkAdmissions ∧
    receipt.key = (plan.taskId, plan.forkRequestId) ∧
    receipt.planFingerprint = plan.planFingerprint ∧ receipt.branchId = a.branchId ∧
    receipt.executionId = a.executionId ∧
    db.executions.insert? e = some db'.executions ∧ e.id = a.executionId ∧
    db.branches.insert? branch = some db'.branches ∧ branch.branchId = a.branchId ∧
    getTaskBudget db plan.taskId = some b ∧ db'.budgets = db.budgets.put b' ∧
    SlotTaken b b' e.parentExecutionId.isSome 1

variable {db db' : Db D}

/-- A call that returns found the admission and did nothing, or admits one. -/
theorem ForkReturns.effect {plan : ForkPlan D.Plan} {a : ForkAdmission D.Plan}
    (h : ForkReturns plan a db db') :
    D.plan (.fork plan.toForkPlanBody) = plan.planFingerprint ∧
      ((∃ r, getTaskForkAdmission db plan.taskId plan.forkRequestId = some r ∧
          r.planFingerprint = plan.planFingerprint ∧ a.branchId = r.branchId ∧
          a.executionId = r.executionId ∧ db' = db) ∨
        (getTaskForkAdmission db plan.taskId plan.forkRequestId = none ∧
          ForkAdmits plan a db db')) := by
  rcases h with ⟨branchId, executionId, startedAt, evidence, h⟩ | ⟨hplan, h⟩
  · obtain ⟨hplan, ⟨r, hr, hreplay⟩ | hadmitted⟩ := consumeForkPlan_ok h
    · obtain ⟨rfl, hmatch, hbranch, hexecution⟩ := replayForkAdmission_ok hreplay
      exact ⟨hplan, .inl ⟨r, hr, hmatch.1, hbranch, hexecution, rfl⟩⟩
    · obtain ⟨source, t, b, b', executions, branches, contexts, reservations, forks, -, -, hb, -,
        hslot, -, -, -, hexecutions, hbranches, hforks, hbranch, hexecution, rfl⟩ := hadmitted
      exact ⟨hplan, .inr ⟨fresh_insert? hforks, _, _, _, b, b', hforks, rfl, rfl,
        hbranch.symm, hexecution.symm, hexecutions, hexecution.symm, hbranches, hbranch.symm, hb,
        rfl, hslot⟩⟩
  · obtain ⟨rfl, hfound⟩ := probeForkReplay_ok h
    obtain ⟨r, hr, hmatch, hbranch, hexecution⟩ := hfound a rfl
    exact ⟨hplan, .inl ⟨r, hr, hmatch.1, hbranch, hexecution, rfl⟩⟩

theorem fork_receipted :
    Receipted (ForkReturns (D := D)) (Retains True) (fun plan => (plan.taskId, plan.forkRequestId))
      (fun k db => db.forkAdmissions.find? k)
      (fun r plan => r.planFingerprint = D.plan (.fork plan.toForkPlanBody))
      (fun a => (a.branchId, a.executionId)) (fun r => (r.branchId, r.executionId)) where
  kept hkept k r hr := by
    obtain ⟨r', hr', rfl⟩ := hkept.forkAdmissions _ _ hr
    exact hr'
  returns {plan a db db'} h := by
    obtain ⟨hplan, ⟨r, hr, hmatch, hbranch, hexecution, rfl⟩ | ⟨hnone, r, -, -, -, -, hinsert, hkey,
      hmatch, hbranch, hexecution, -⟩⟩ := h.effect
    · exact .inl ⟨r, hr, hmatch.trans hplan.symm, by rw [hbranch, hexecution], rfl⟩
    · refine .inr ⟨hnone, r, ?_, hmatch.trans hplan.symm, by rw [hbranch, hexecution]⟩
      rw [← hkey]
      exact find?_key ((mem_insert? hinsert).2 (.inr rfl))

/-! ### Retries -/

/-- A call of `consume_retry_plan` returns `a`. -/
def RetryReturns (plan : RetryPlan D.Plan) (a : RetryAdmission D.Plan) (db db' : Db D) : Prop :=
  (∃ executionId startedAt evidence,
    consumeRetryPlan plan executionId startedAt evidence db = .ok (a, db')) ∨
  (D.plan (.retry plan.toRetryPlanBody) = plan.planFingerprint ∧
    probeRetryReplay plan db = .ok (some a, db'))

/-- One admission and one execution are stored, no branch is, and the budget counts the execution
once. -/
def RetryAdmits (plan : RetryPlan D.Plan) (a : RetryAdmission D.Plan) (db db' : Db D) : Prop :=
  ∃ receipt e branch head b b', db.retryAdmissions.insert? receipt = some db'.retryAdmissions ∧
    receipt.key = (plan.taskId, plan.retryRequestId) ∧
    receipt.planFingerprint = plan.planFingerprint ∧ receipt.executionId = a.executionId ∧
    db.executions.insert? e = some db'.executions ∧ e.id = a.executionId ∧
    getTaskBranch db plan.branchId = some branch ∧ db'.branches = db.branches.put head ∧
    head.branchId = branch.branchId ∧ head.currentExecutionId = some a.executionId ∧
    getTaskBudget db plan.taskId = some b ∧ db'.budgets = db.budgets.put b' ∧
    SlotTaken b b' plan.parentExecutionId.isSome 0

theorem RetryReturns.effect {plan : RetryPlan D.Plan} {a : RetryAdmission D.Plan}
    (h : RetryReturns plan a db db') :
    D.plan (.retry plan.toRetryPlanBody) = plan.planFingerprint ∧
      ((∃ r, getTaskRetryAdmission db plan.taskId plan.retryRequestId = some r ∧
          r.planFingerprint = plan.planFingerprint ∧ a.executionId = r.executionId ∧ db' = db) ∨
        (getTaskRetryAdmission db plan.taskId plan.retryRequestId = none ∧
          RetryAdmits plan a db db')) := by
  rcases h with ⟨executionId, startedAt, evidence, h⟩ | ⟨hplan, h⟩
  · obtain ⟨hplan, ⟨r, hr, hreplay⟩ | hadmitted⟩ := consumeRetryPlan_ok h
    · obtain ⟨rfl, hmatch, hexecution⟩ := replayRetryAdmission_ok hreplay
      exact ⟨hplan, .inl ⟨r, hr, hmatch.1, hexecution, rfl⟩⟩
    · obtain ⟨s, t, b, b', br, executions, reservations, retries, -, -, hb, -, hslot, hbr, -, -, -,
        hexecutions, hretries, rfl, rfl⟩ := hadmitted
      exact ⟨hplan, .inr ⟨fresh_insert? hretries, _, _, br, _, b, b', hretries, rfl, rfl, rfl,
        hexecutions, rfl, hbr, rfl, rfl, rfl, hb, rfl, hslot⟩⟩
  · obtain ⟨rfl, hfound⟩ := probeRetryReplay_ok h
    obtain ⟨r, hr, hmatch, hexecution⟩ := hfound a rfl
    exact ⟨hplan, .inl ⟨r, hr, hmatch.1, hexecution, rfl⟩⟩

theorem retry_receipted :
    Receipted (RetryReturns (D := D)) (Retains True)
      (fun plan => (plan.taskId, plan.retryRequestId)) (fun k db => db.retryAdmissions.find? k)
      (fun r plan => r.planFingerprint = D.plan (.retry plan.toRetryPlanBody))
      (·.executionId) (·.executionId) where
  kept hkept k r hr := by
    obtain ⟨r', hr', rfl⟩ := hkept.retryAdmissions _ _ hr
    exact hr'
  returns {plan a db db'} h := by
    obtain ⟨hplan, ⟨r, hr, hmatch, hexecution, rfl⟩ | ⟨hnone, r, -, -, -, -, -, hinsert, hkey,
      hmatch, hexecution, -⟩⟩ := h.effect
    · exact .inl ⟨r, hr, hmatch.trans hplan.symm, hexecution, rfl⟩
    · refine .inr ⟨hnone, r, ?_, hmatch.trans hplan.symm, hexecution.symm⟩
      rw [← hkey]
      exact find?_key ((mem_insert? hinsert).2 (.inr rfl))

/-! ### Aggregations -/

def AggregateReturns (request : AggregateRequest) (a : AggregateAdmission D.Plan) (db db' : Db D) :
    Prop :=
  ∃ executionId admittedAt expectedGeneration timeoutSeconds,
    aggregateBranches request executionId admittedAt expectedGeneration timeoutSeconds db =
      .ok (a, db')

/-- What an aggregation asks for, besides its request id. -/
def AggregateRequest.semantics (request : AggregateRequest) : String × List String × String :=
  (request.targetBranchId, request.sourceBranchIds, request.targetUserId)

/-- What the admission of an aggregation keeps of it. -/
def receiptSemantics (r : AggregateAdmissionRow D.Plan) : String × List String × String :=
  (r.targetBranchId, r.sourceBranchSnapshots.map (·.branchId), r.createdBy)

/-- One admission and one execution are stored, no branch is, and the budget counts the execution
once. -/
def AggregateAdmits (request : AggregateRequest) (a : AggregateAdmission D.Plan) (db db' : Db D) :
    Prop :=
  ∃ receipt e branch head b b',
    db.aggregateAdmissions.insert? receipt = some db'.aggregateAdmissions ∧
    receipt.key = (request.taskId, request.aggregateRequestId) ∧
    receiptSemantics receipt = AggregateRequest.semantics request ∧
    receipt.executionId = a.executionId ∧
    db.executions.insert? e = some db'.executions ∧ e.id = a.executionId ∧
    getTaskBranch db request.targetBranchId = some branch ∧ db'.branches = db.branches.put head ∧
    head.branchId = branch.branchId ∧ head.currentExecutionId = some a.executionId ∧
    getTaskBudget db request.taskId = some b ∧ db'.budgets = db.budgets.put b' ∧
    SlotTaken b b' e.parentExecutionId.isSome 0

theorem AggregateReturns.effect {request : AggregateRequest} {a : AggregateAdmission D.Plan}
    (h : AggregateReturns request a db db') :
    (∃ r, getTaskAggregateAdmission db request.taskId request.aggregateRequestId = some r ∧
        receiptSemantics r = AggregateRequest.semantics request ∧
        a.executionId = r.executionId ∧ db' = db) ∨
      (getTaskAggregateAdmission db request.taskId request.aggregateRequestId = none ∧
        AggregateAdmits request a db db') := by
  obtain ⟨executionId, admittedAt, expectedGeneration, timeoutSeconds, h⟩ := h
  rcases aggregateBranches_ok h with ⟨r, hr, hreplay⟩ | hadmitted
  · obtain ⟨rfl, htarget, hids, huser, hexecution⟩ := replayAggregateAdmission_ok hreplay
    refine .inl ⟨r, hr, ?_, hexecution, rfl⟩
    unfold receiptSemantics AggregateRequest.semantics
    rw [htarget, hids, huser]
  · obtain ⟨e, t, b, b', br, sources, seed, executions, reservations, aggregates, -, -, hb, -, hslot,
      hbr, -, -, -, hid, -, -, -, -, hexecutions, hids, haggregates, hexecution, rfl⟩ := hadmitted
    refine .inr ⟨fresh_insert? haggregates, _, e, br, _, b, b', haggregates, rfl, ?_,
      hexecution.symm, hexecutions, hid.trans hexecution.symm, hbr, rfl, rfl, ?_, hb, rfl, hslot⟩
    · unfold receiptSemantics AggregateRequest.semantics
      simp [aggregateReceipt, aggregatePlan, ← hids, Function.comp_def]
    · rw [hexecution]
      rfl

theorem aggregate_receipted :
    Receipted (AggregateReturns (D := D)) (Retains True)
      (fun request => (request.taskId, request.aggregateRequestId))
      (fun k db => db.aggregateAdmissions.find? k)
      (fun r request => receiptSemantics r = AggregateRequest.semantics request)
      (·.executionId) (·.executionId) where
  kept hkept k r hr := by
    obtain ⟨r', hr', rfl⟩ := hkept.aggregateAdmissions _ _ hr
    exact hr'
  returns {request a db db'} h := by
    obtain ⟨r, hr, hmatch, hexecution, rfl⟩ | ⟨hnone, r, -, -, -, -, -, hinsert, hkey, hmatch,
      hexecution, -⟩ := h.effect
    · exact .inl ⟨r, hr, hmatch, hexecution, rfl⟩
    · refine .inr ⟨hnone, r, ?_, hmatch, hexecution.symm⟩
      rw [← hkey]
      exact find?_key ((mem_insert? hinsert).2 (.inr rfl))

/-! ### Once only -/

def sampleFail : Request transparentDigests :=
  finishRoot
    { state := some .failed, contextState := some (some (.obj [("limits", .obj [])])) } none

def sampleRetryBody : RetryPlanBody where
  taskId := "task"
  expectedTaskRevision := 1
  sessionId := "session"
  branchId := "r8_root_task"
  expectedBranchRevision := 0
  sourceExecutionId := "root"
  expectedExecutionRevision := 2
  sourceExecutionState := .failed
  sourceAgentId := "agent"
  expectedTaskBudgetRevision := 3
  expectedTaskBudgetIncarnationGeneration := 1
  budgetPolicyFingerprint :=
    transparentDigests.policy sampleLimits.toBudgetLimits samplePolicy.toBudgetPolicy
  correlationId := "correlation"
  requestFingerprint := "value"
  sourceContextFingerprint := "value"
  freshActiveBudgetSeconds := 30
  targetUserId := "user"

def sampleRetry : RetryPlan transparentDigests.Plan :=
  { sampleRetryBody with retryRequestId := "retry", planFingerprint := .retry sampleRetryBody }

def sampleEvidence : PlanEvidence where
  sideEffects := .ok []
  transcript := .ok []
  hasInvocations := false
  runtimeSeed := .ok .null
  timeoutSeconds := some 30

/-- One attempt of the retry, with the id it drew for the new execution. -/
def retryAs (executionId : String) : Request transparentDigests :=
  .consumeRetryPlan sampleRetry executionId 0 sampleEvidence

theorem succeed_in_turn {α β : Type} (db : Db D) (x : Tx D α) (y : Tx D β)
    (hx : (x db).toOption.isSome = true) (hy : (y (stored x db)).toOption.isSome = true) :
    ∃ a db₂ b db₃, x db = .ok (a, db₂) ∧ y db₂ = .ok (b, db₃) := by
  obtain ⟨⟨a, db₂⟩, h₁⟩ := Option.isSome_iff_exists.1 hx
  rw [stored_of_ok (ok_of_toOption h₁)] at hy
  obtain ⟨⟨b, db₃⟩, h₂⟩ := Option.isSome_iff_exists.1 hy
  exact ⟨a, db₂, b, db₃, ok_of_toOption h₁, ok_of_toOption h₂⟩

variable {τ x : String}

/-! ### Charges -/

/-- A call that charges a task budget, and writes nothing but the counters and its reservation. -/
structure Charge (D : Digests) extends Mutation D, BudgetCall where
  alone : sideEffect = pure () ∧ verifyIdempotent = pure ()

def Charge.key (c : Charge D) : String × ReservationKind × String :=
  (c.taskId, c.kind, c.reservationKey)

/-- The call returns, from an attempt or from the look-up after one that was refused. -/
def ChargeReturns (c : Charge D) (budget : Agent.TaskBudget) (db db' : Db D) : Prop :=
  ∃ settings legacyUnbound now,
    mutateWithReservation settings c.toBudgetCall c.toMutation legacyUnbound now db =
        .ok (budget, db') ∨
      loadIdempotent settings c.toBudgetCall c.toMutation legacyUnbound now db =
        .ok (some budget, db')

/-- The counters are charged, and one reservation is stored. -/
def Charged (c : Charge D) (budget : Agent.TaskBudget) (db db' : Db D) : Prop :=
  ∃ b generation values t, c.mutate b = .ok values ∧
    budget.toBudgetRow = values.apply b.revision b.toBudgetRow ∧
    db.reservations.insert? ⟨c.taskId, c.kind, c.reservationKey, generation, c.fingerprint⟩ = some t ∧
    db' = { db with budgets := db.budgets.put budget.toBudgetRow, reservations := t }

theorem ChargeReturns.effect {c : Charge D} {budget : Agent.TaskBudget}
    (h : ChargeReturns c budget db db') :
    (∃ r, db.reservations.find? c.key = some r ∧ r.payloadFingerprint = c.fingerprint ∧ db' = db) ∨
      Charged c budget db db' := by
  obtain ⟨settings, legacyUnbound, now, h | h⟩ := h
  · obtain ⟨b, -, ⟨r, hr, hmatch, hreplay, -⟩ | ⟨loaded, values, db1, generation, t, rfl, hvalues, -,
      hdone, hbudget, ht, rfl⟩⟩ := mutateWithReservation_ok h
    · rw [c.alone.2] at hreplay
      exact .inl ⟨r, (filter_eq_some_iff.1 hr).1, hmatch, congrArg Prod.snd (pure_ok.1 hreplay)⟩
    · rw [c.alone.1] at hdone
      cases pure_ok.1 hdone
      exact .inr ⟨loaded, generation, values, t, hvalues, hbudget, ht, by rw [hbudget]⟩
  · simp only [loadIdempotent, validateRecoveryMutationAuthority_bind_ok,
      requireCallFence_bind_ok, requireLegacyUnbound_bind_ok, steps_ok] at h
    obtain ⟨-, -, -, b, -, -, h⟩ := h
    rcases hr : getTaskBudgetReservation db c.taskId c.kind c.reservationKey
      (some b.incarnationGeneration) with _ | r <;> rw [hr] at h
    · cases h
    · simp only [c.alone.2, verifyReservation_bind_ok, pure_bind, requireCallFence_bind_ok,
        ← bind_pure_comp, loadBudget_bind_ok, pure_mk] at h
      obtain ⟨hfingerprint, -, _, -, -, rfl⟩ := h
      exact .inl ⟨r, (filter_eq_some_iff.1 hr).1, hfingerprint, rfl⟩

theorem charge_receipted :
    Receipted (ChargeReturns (D := D)) (Retains True) Charge.key
      (fun k db => db.reservations.find? k) (fun r c => r.payloadFingerprint = c.fingerprint)
      (fun _ => ()) (fun _ => ()) where
  kept hkept k r hr := by
    obtain ⟨r', hr', rfl⟩ := hkept.reservations _ _ hr
    exact hr'
  returns {c a db db'} h := by
    rcases h.effect with ⟨r, hr, hmatch, rfl⟩ | ⟨b, generation, values, t, -, -, ht, rfl⟩
    · exact .inl ⟨r, hr, hmatch, rfl, rfl⟩
    · exact .inr ⟨fresh_insert? ht, _, find?_key ((mem_insert? ht).2 (.inr rfl)), rfl, rfl⟩

/-- **A charge counts once.**  A call that returns charged the budget and stored its reservation, or
did nothing; whatever runs in between, every later call with its key did nothing, and was for the same
payload. -/
theorem charged_once :
    OnceOnly Event.Occurs (ChargeReturns (D := D)) Charged Charge.key (fun _ => ())
      (·.fingerprint) := by
  refine charge_receipted.onceOnly ?_ (fun _ _ _ => retains_of_run) ?_
  · intro c a db db' h
    exact h.effect.imp_left fun ⟨_, _, _, hsame⟩ => hsame
  · intro r c c' h h'
    exact h'.symm.trans h

/-- A report of ten tokens. -/
def sampleUsage : Charge transparentDigests where
  toMutation := usageMutation "usage" 10 1
  taskId := "task"
  alone := ⟨rfl, rfl⟩

/-- The report comes twice, and the tokens are counted once. -/
theorem charged_once_sampleUsage :
    ∃ budget db₂ budget' db₃, ChargeReturns sampleUsage budget (after {} (sampleStart.take 1)) db₂ ∧
      budget.usedTokens = 10 ∧ ChargeReturns sampleUsage budget' db₂ db₃ ∧ db₃ = db₂ := by
  let report := mutateWithReservation {} sampleUsage.toBudgetCall sampleUsage.toMutation false 0
  obtain ⟨budget, db₂, budget', db₃, h₁, h₂⟩ := succeed_in_turn (after {} (sampleStart.take 1))
    report report (by decide +kernel) (by decide +kernel)
  have htokens : (report (after {} (sampleStart.take 1))).toOption.map (·.1.usedTokens) = some 10 := by
    decide +kernel
  rw [h₁] at htokens
  have h₁ : ChargeReturns sampleUsage budget _ db₂ := ⟨{}, false, 0, .inl h₁⟩
  have h₂ : ChargeReturns sampleUsage budget' db₂ db₃ := ⟨{}, false, 0, .inl h₂⟩
  have honce := charged_once.2 sampleUsage sampleUsage budget budget' _ db₂ [] db₂ db₃ h₁ (.nil _) h₂
    rfl
  exact ⟨budget, db₂, budget', db₃, h₁, Option.some.inj htokens, h₂, honce.1⟩

/-! ### Two ways out of revision one -/

/-- The execution that an operation is asked to activate. -/
def Request.activates : Request D → Option String
  | activateFork bootstrap _ _ _ => some bootstrap.executionId
  | activateRetry bootstrap _ _ => some bootstrap.executionId
  | activateAggregate bootstrap _ _ _ => some bootstrap.executionId
  | _ => none

def Event.Activates (ev : Event D) (x : String) : Prop :=
  ev.request.activates = some x ∧ ∃ a, ev.outcome = .ok a

/-- An execution that runs at revision one is cancelled, by whichever operation. -/
def CancelledDormant (x : String) (db db' : Db D) : Prop :=
  ∃ e e', getExecution db x = some e ∧ e.state = .running ∧ e.revision = 1 ∧
    getExecution db' x = some e' ∧ e'.state = .cancelled

def LeavesOne (x : String) (db db' : Db D) : Prop :=
  ∃ e e', getExecution db x = some e ∧ e.revision = 1 ∧ getExecution db' x = some e' ∧
    e'.revision = 2

/-- Each of the three activations that commits does what an activation does. -/
theorem Event.Occurs.activates {ev : Event D} (h : ev.Occurs db db') (hx : ev.Activates x) :
    Persistence.Activates x db db' := by
  obtain ⟨hrequest, a, hok⟩ := hx
  unfold Event.Occurs at h
  rw [hok] at h
  obtain ⟨r, outcome⟩ := ev
  cases r <;> simp only [Request.activates, Option.some.injEq, reduceCtorEq] at hrequest
  all_goals subst hrequest
  · exact activateForkExecution_ok h
  · exact activateRetryExecution_ok h
  · exact activateAggregateExecution_ok h

theorem leavesOne_of_activates (h : Persistence.Activates x db db') : LeavesOne x db db' := by
  obtain ⟨e, e', he, -, hrevision, he', -, hrevision'⟩ := h.rows
  exact ⟨e, e', he, hrevision, he', hrevision'⟩

theorem CancelledDormant.leavesOne {ev : Event D} (h : CancelledDormant x db db')
    (hoccurs : ev.Occurs db db') : LeavesOne x db db' := by
  obtain ⟨e, e', he, hrunning, hrevision, he', hcancelled⟩ := h
  refine ⟨e, e', he, hrevision, he', ?_⟩
  obtain ⟨e1, he1, -, ⟨hsame, -⟩ | ⟨-, hmoved⟩⟩ := hoccurs.moves x e he
  · obtain rfl : e1 = e' := mem_unique he1 he'
    rw [hrunning, hcancelled] at hsame
    cases hsame
  · obtain rfl : e1 = e' := mem_unique he1 he'
    omega

theorem LeavesOne.once {db1 db2 : Db D} {later : List (Event D)} (h : LeavesOne x db db')
    (hlater : Run Event.Occurs db' later db1) : ¬ LeavesOne x db1 db2 := by
  rintro ⟨e1, -, he1, hone, -⟩
  obtain ⟨-, e', -, -, he', htwo⟩ := h
  obtain ⟨e1', he1', hle⟩ := revision_le_of_run hlater x e' he'
  obtain rfl : e1' = e1 := mem_unique he1' he1
  omega

/-! ### The slot of one execution -/

/-- A budget that counts what runs counts one execution exactly while it runs. -/
theorem active_eq_one_add {e : ExecutionRow} {b : BudgetRow} (hcounted : Counted db τ)
    (he : getExecution db x = some e) (htask : e.taskId = some τ)
    (hb : getTaskBudget db τ = some b) :
    b.activeExecutions = (if e.state = .running then 1 else 0) +
      db.executions.count fun e' => e'.runsFor τ && decide (e'.id ≠ x) := by
  have hactive := hcounted.active
  have hsplit := count_eq_add_others he (ExecutionRow.runsFor τ)
  have hself : e.runsFor τ = decide (e.state = .running) := by
    simp [ExecutionRow.runsFor, htask]
  rw [value_of_find? hb, hsplit, hself] at hactive
  simpa using hactive

/-- **An admitted execution is activated or cancelled once.**  Take any state `db` that the operations
lead to from before a task exists, and any execution of the task in it.  The budget counts the
execution exactly while it runs.  An activation that commits in this state found the execution running
at revision one and leaves it running at revision two.  And once an activation or a cancellation of
the execution at revision one has committed, no activation and no such cancellation commits in any
later state, whoever asks for it. -/
theorem activated_or_cancelled_once {db₀ : Db D} {events : List (Event D)} {e : ExecutionRow}
    (hpristine : Pristine db₀ τ) (hrun : Run Event.Occurs db₀ events db)
    (he : getExecution db x = some e) (htask : e.taskId = some τ) :
    (∀ b, getTaskBudget db τ = some b →
      b.activeExecutions = (if e.state = .running then 1 else 0) +
        db.executions.count fun e' => e'.runsFor τ && decide (e'.id ≠ x)) ∧
    ∀ (ev : Event D) (db₁ : Db D), ev.Occurs db db₁ →
      (ev.Activates x → e.state = .running ∧ e.revision = 1 ∧
        ∃ e₁, getExecution db₁ x = some e₁ ∧ e₁.state = .running ∧ e₁.revision = 2) ∧
      (ev.Activates x ∨ CancelledDormant x db db₁ →
        ∀ later db₂ (ev' : Event D) db₃, Run Event.Occurs db₁ later db₂ → ev'.Occurs db₂ db₃ →
          ¬ ev'.Activates x ∧ ¬ CancelledDormant x db₂ db₃) := by
  have hcounted : Counted db τ := counted_of_run hrun hpristine.counted
  refine ⟨fun b hb => active_eq_one_add hcounted he htask hb, ?_⟩
  intro ev db₁ hoccurs
  constructor
  · intro hactivates
    obtain ⟨e', e₁, he', hrunning, hone, he₁, hrunning₁, htwo⟩ :=
      (hoccurs.activates hactivates).rows
    obtain rfl : e' = e := mem_unique he' he
    exact ⟨hrunning, hone, e₁, he₁, hrunning₁, htwo⟩
  · intro hfirst later db₂ ev' db₃ hlater hoccurs'
    have hleft : LeavesOne x db db₁ := by
      rcases hfirst with hactivates | hcancelled
      · exact leavesOne_of_activates (hoccurs.activates hactivates)
      · exact hcancelled.leavesOne hoccurs
    constructor
    · intro hactivates
      exact hleft.once hlater (leavesOne_of_activates (hoccurs'.activates hactivates))
    · intro hcancelled
      exact hleft.once hlater (hcancelled.leavesOne hoccurs')

/-! The retry of the small task is activated, and then activated again. -/

def sampleBootstrap : Bootstrap transparentDigests.Plan where
  executionId := "first"
  expectedExecutionRevision := 1
  taskId := "task"
  branchId := "r8_root_task"
  requestId := "retry"
  planFingerprint := .retry sampleRetryBody
  runtimeSeedFingerprint := "plan"
  branchContextRevision := 0
  context :=
    { executionId := "first"
      sessionId := "session"
      agentId := "agent"
      correlationId := "correlation"
      taskId := some "task"
      branchId := some "r8_root_task"
      retryOfExecutionId := some "root"
      baseExecutionId := none
      branchRuntimeSeedFingerprint := some "plan"
      connectionId := none
      activeBudgetRunning := false
      remainingActiveBudgetSeconds := some 30
      input := .null
      branchBaseTranscript := [] }

def sampleActivate : Request transparentDigests := .activateRetry sampleBootstrap "user" 5

def sampleAdmitted : List (Request transparentDigests) :=
  sampleStart ++ [sampleFail, retryAs "first"]

/-- The first activation commits; the second one does not. -/
theorem activated_or_cancelled_once_sampleActivate :
    (sampleActivate.event (after {} sampleAdmitted)).Activates "first" ∧
      ¬ (sampleActivate.event (stored sampleActivate.perform (after {} sampleAdmitted))).Activates
        "first" := by
  have hrow : ((getExecution (after {} sampleAdmitted) "first").map (·.taskId)) =
      some (some "task") := by
    decide +kernel
  have hok : (sampleActivate.perform (after {} sampleAdmitted)).toOption.isSome = true := by
    decide +kernel
  obtain ⟨e, he, htask⟩ := map_eq_some_iff.1 hrow
  have hrun := history_run {} sampleAdmitted
  generalize after {} sampleAdmitted = s at *
  have hfirst : (sampleActivate.event s).Activates "first" := by
    refine ⟨rfl, ?_⟩
    obtain ⟨p, h⟩ := isSome_iff_exists.1 hok
    rw [Request.event, ok_of_toOption h]
    exact ⟨p.1, rfl⟩
  refine ⟨hfirst, ?_⟩
  obtain ⟨-, hstep⟩ := activated_or_cancelled_once (pristine_empty "task") hrun he htask
  exact ((hstep _ _ (sampleActivate.event_occurs s)).2 (.inl hfirst) [] _ _ _ (.nil _)
    (sampleActivate.event_occurs _)).1

end AssistantRuntime.Runtime

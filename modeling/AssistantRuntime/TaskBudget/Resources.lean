/-
**Resource accounting.**

Tool calls, inference calls and usage are charged to the task budget under keys of their own.  Where
a task is enrolled in the user budgets, the charge is mirrored there in the same unit of work; where
the user budgets have become the authority, the counter of the task budget only saturates.
-/

import AssistantRuntime.TaskBudget.Transition

namespace AssistantRuntime.TaskBudget

open Relational Uow Agent List

variable {D : Digests}

/-! ### The two paths of a charge -/

/-- What `_preflight_resource_accounting` found in a unit of work of its own: the binding of an
enrolled task, or the incarnation of the budget of another. -/
structure Preflight where
  binding : Option UserBudget.TaskBindingRow := none
  generation : Option ℤ := none

/-- The charge as the user budgets see it. -/
def mirrorSource (D : Digests) (binding : UserBudget.TaskBindingRow) (taskId : String)
    (kind : ReservationKind) (reservationKey : String) (fingerprint : D.Receipt) :
    UserBudget.MirrorSource :=
  ⟨taskId, binding.ownerUserId, kind.value, reservationKey, D.receiptText fingerprint⟩

/-- The binding of an enrolled task is still the one that the preflight saw. -/
def requireCurrentBinding (taskId : String) (binding : UserBudget.TaskBindingRow) : Tx D Unit := do
  let current ← expect (← reads (·.userBudgets.getTaskBinding taskId))
    (conflict "USER_BUDGET_BINDING_DRIFT: enrolled Task binding disappeared")
  requireSameBinding binding current

def mutateEnrolledResource (dual : DualAccounting) (taskId : String)
    (binding : UserBudget.TaskBindingRow) (m : Mutation D)
    (dimensions : List UserBudget.MirrorDimension) (now : ℤ) : Tx D Agent.TaskBudget := do
  ensure (m.reservationKey ≠ "") (.valueError "reservation_key must be non-empty")
  requireCurrentBinding taskId binding
  let record ← expect (← reads (getTaskBudget · taskId)) (required s!"TaskBudget missing: {taskId}")
  let generation := some record.incarnationGeneration
  let source := mirrorSource D binding taskId m.kind m.reservationKey m.fingerprint
  match ← reads (getTaskBudgetReservation · taskId m.kind m.reservationKey generation) with
  | some existing =>
    verifyReservation existing m.fingerprint
    requireMirrorReplay source dimensions
    loadBudget record
  | none =>
    let budget ← loadBudget record
    let values ← evidently (m.mutate budget)
    let updated ← orAbort
      (compareAndSetTaskBudget taskId budget.revision values generation) .lostRace
    saveTaskBudgetReservation taskId m.kind m.reservationKey m.fingerprint generation
    let _ ← onUserBudgets (UserBudget.mirrorResource D.userBudget dual.toDualAccountingSettings
      source dimensions now)
    loadBudget updated

def mutateResourceWithReservation (settings : Settings) (dual : DualAccounting) (taskId : String)
    (m : Mutation D) (dimensions : List UserBudget.MirrorDimension) (preflight : Preflight)
    (now : ℤ) : Tx D Agent.TaskBudget :=
  match preflight.binding with
  | some binding => mutateEnrolledResource dual taskId binding m dimensions now
  | none =>
    mutateWithReservation settings { taskId, expectedGeneration := preflight.generation } m true now

/-- The path of a charge that the user budgets may have taken over. -/
def chargeResource (settings : Settings) (call : BudgetCall) (m : Mutation D)
    (dimensions : List UserBudget.MirrorDimension) (preflight : Preflight) (now : ℤ) :
    Tx D Agent.TaskBudget :=
  if settings.userInferenceQuotaEnabled then mutateWithReservation settings call m false now
  else
    match settings.userBudgetDualAccounting with
    | none => mutateWithReservation settings call m false now
    | some dual =>
      if call.recoveryFence.isSome then
        abort (conflict "RECOVERY_TASK_BUDGET_DUAL_ACCOUNTING_UNSUPPORTED")
      else mutateResourceWithReservation settings dual call.taskId m dimensions preflight now

/-! ### Inference and usage -/

/-- The counter of inference calls after one more, or why there is no room. -/
def inferencePatch (settings : Settings) (budget : Agent.TaskBudget) :
    Except Failure BudgetPatch :=
  if budget.state ≠ .open then .error (isClosed budget.taskId)
  else if settings.userInferenceQuotaEnabled then
    let saturated := min (budget.usedInferenceCalls + 1) budget.limits.maxTotalInferenceCalls
    .ok { usedInferenceCalls := some saturated }
  else if budget.limits.maxTotalInferenceCalls ≤ budget.usedInferenceCalls then
    .error (exceeded "max_total_inference_calls reached")
  else if budget.limits.maxTotalTokens.any (· ≤ budget.usedTokens) then
    .error (exceeded "max_total_tokens reached")
  else if budget.limits.maxTotalCostUsd.any (· ≤ budget.usedCostUsd) then
    .error (exceeded "max_total_cost_usd reached")
  else .ok { usedInferenceCalls := some (budget.usedInferenceCalls + 1) }

def inferenceMutation (settings : Settings) (requestId : String) : Mutation D where
  kind := .inference
  reservationKey := requestId
  payload := .empty
  mutate := inferencePatch settings

def reserveInference (settings : Settings) (call : BudgetCall) (requestId : String)
    (preflight : Preflight) (now : ℤ) : Tx D Agent.TaskBudget :=
  chargeResource settings call (inferenceMutation settings requestId)
    UserBudget.inferenceDimensions preflight now

def usageMutation (usageKey : String) (tokens costUsd : ℤ) : Mutation D where
  kind := .usage
  reservationKey := usageKey
  payload := .usage tokens costUsd
  mutate := fun budget => .ok
    { usedTokens := some (budget.usedTokens + tokens)
      usedCostUsd := some (budget.usedCostUsd + costUsd) }

/-- `account_usage`, for a cost in quanta. -/
def accountUsage (settings : Settings) (call : BudgetCall) (usageKey : String)
    (tokens costUsd : ℤ) (preflight : Preflight) (now : ℤ) : Tx D Agent.TaskBudget := do
  ensure (0 ≤ tokens) (.valueError "tokens must be non-negative")
  ensure (0 ≤ costUsd) (.valueError "cost_usd must be non-negative")
  chargeResource settings call (usageMutation usageKey tokens costUsd)
    (UserBudget.usageDimensions tokens costUsd) preflight now

/-! ### Tool calls -/

structure ToolCall (D : Digests) where
  key : String
  fingerprint : D.Receipt
  capabilityId : String

/-- A member of a tool call as a text; empty where it is missing. -/
def textMember (D : Digests) (key : String) (call : JsonObject) : String :=
  D.strOrEmpty (Json.member? key call)

def toolCallOf (D : Digests) (call : JsonObject) : ToolCall D where
  key := textMember D "tool_call_id" call
  fingerprint := D.reservation .toolCall (textMember D "tool_call_id" call) (.toolCall (.obj call))
  capabilityId := textMember D "capability_id" call

/-- The calls of a batch, each once; `seen` are those before. -/
def normalizeToolCalls (seen : List (ToolCall D)) :
    List JsonObject → Except Failure (List (ToolCall D))
  | [] => .ok []
  | raw :: rest =>
    let call := toolCallOf D raw
    match (Json.obj raw).toJsonSafe with
    | none => .error (.serialization "task_budget.tool_call")
    | some _ =>
      if call.key = "" then .error (.valueError "tool_call_id must be non-empty")
      else
        match seen.find? (·.key = call.key) with
        | some prior =>
          if prior.fingerprint ≠ call.fingerprint then
            .error (conflict "tool_call_id was reused with a different payload")
          else normalizeToolCalls seen rest
        | none => (normalizeToolCalls (call :: seen) rest).map (call :: ·)

/-- Where a batch mirrors its calls: nowhere once the tool quota is the authority. -/
def batchMirror (settings : Settings) (preflight : Preflight) :
    Option (DualAccounting × UserBudget.TaskBindingRow) :=
  if settings.userToolQuotaEnabled then none
  else
    match settings.userBudgetDualAccounting, preflight.binding with
    | some dual, some binding => some (dual, binding)
    | _, _ => none

def requireBatchBinding (settings : Settings) (taskId : String) (preflight : Preflight) :
    Tx D Unit :=
  match preflight.binding with
  | some binding => requireCurrentBinding taskId binding
  | none =>
    requireLegacyUnbound settings true taskId "legacy tool batch observed a durable UBQ binding"

def requireToolCallMirror (taskId : String) (call : ToolCall D) :
    Option (DualAccounting × UserBudget.TaskBindingRow) → Tx D Unit
  | none => pure ()
  | some (_, binding) =>
    requireMirrorReplay (mirrorSource D binding taskId .toolCall call.key call.fingerprint)
      (UserBudget.toolCallDimensions call.capabilityId)

def mirrorToolCall (taskId : String) (call : ToolCall D) (now : ℤ) :
    Option (DualAccounting × UserBudget.TaskBindingRow) → Tx D Unit
  | none => pure ()
  | some (dual, binding) => onUserBudgets do
    let _ ← UserBudget.mirrorResource D.userBudget dual.toDualAccountingSettings
      (mirrorSource D binding taskId .toolCall call.key call.fingerprint)
      (UserBudget.toolCallDimensions call.capabilityId) now

def missingToolCalls (taskId : String) (generation : ℤ)
    (mirror : Option (DualAccounting × UserBudget.TaskBindingRow)) :
    List (ToolCall D) → Tx D (List (ToolCall D))
  | [] => pure []
  | call :: rest => do
    match ← reads (getTaskBudgetReservation · taskId .toolCall call.key (some generation)) with
    | none =>
      let missing ← missingToolCalls taskId generation mirror rest
      pure (call :: missing)
    | some existing =>
      verifyReservation existing call.fingerprint
      requireToolCallMirror taskId call mirror
      missingToolCalls taskId generation mirror rest

def saveToolCalls (taskId : String) (generation : ℤ)
    (mirror : Option (DualAccounting × UserBudget.TaskBindingRow)) (now : ℤ) :
    List (ToolCall D) → Tx D Unit
  | [] => pure ()
  | call :: rest => do
    saveTaskBudgetReservation taskId .toolCall call.key call.fingerprint (some generation)
    mirrorToolCall taskId call now mirror
    saveToolCalls taskId generation mirror now rest

/-- The counter of tool calls after some more, or why there is no room. -/
def toolCallsPatch (settings : Settings) (count : ℕ) (budget : Agent.TaskBudget) :
    Except Failure BudgetPatch :=
  let proposed := budget.usedToolCalls + count
  if budget.state ≠ .open then .error (isClosed budget.taskId)
  else if settings.userToolQuotaEnabled then
    .ok { usedToolCalls := some (min proposed budget.limits.maxTotalToolCalls) }
  else if budget.limits.maxTotalToolCalls < proposed then
    .error (exceeded "max_total_tool_calls exceeded")
  else .ok { usedToolCalls := some proposed }

def reserveToolCallBatch (settings : Settings) (taskId : String) (calls : List JsonObject)
    (preflight : Preflight) (expectedGeneration : Option ℤ) (now : ℤ) : Tx D Agent.TaskBudget := do
  let normalized ← evidently (normalizeToolCalls [] calls)
  ensure (normalized ≠ []) (.valueError "calls must not be empty")
  ensure (preflight.binding.isSome → ∀ call ∈ normalized, call.capabilityId ≠ "")
    (.taskBudget .unsupportedLegacyMirror "enrolled tool call requires canonical capability_id")
  requireBatchBinding settings taskId preflight
  let record ← requireIncarnation
    { taskId, expectedGeneration := preflight.generation.or expectedGeneration }
    "TaskBudget incarnation changed during tool batch"
  let generation := record.incarnationGeneration
  let budget ← loadBudget record
  let mirror := batchMirror settings preflight
  let missing ← missingToolCalls taskId generation mirror normalized
  if missing = [] then
    pure budget
  else
    let values ← evidently (toolCallsPatch settings missing.length budget)
    let updated ← orAbort
      (compareAndSetTaskBudget taskId budget.revision values (some generation)) .lostRace
    saveToolCalls taskId generation mirror now missing
    loadBudget updated

/-! ### Counters on their own -/

def reserveToolCalls (settings : Settings) (taskId reservationKey : String) (count : ℤ)
    (preflight : Preflight) (now : ℤ) : Tx D Agent.TaskBudget := do
  ensure (0 < count) (.valueError "count must be positive")
  ensure (preflight.binding.isNone)
    (.taskBudget .unsupportedLegacyMirror
      "enrolled Task requires per-call canonical capability_id")
  mutateWithReservation settings { taskId, expectedGeneration := preflight.generation }
    { kind := .toolCall
      reservationKey
      payload := .toolCount count
      mutate := fun budget =>
        if budget.state ≠ .open then .error (isClosed budget.taskId)
        else if budget.limits.maxTotalToolCalls < budget.usedToolCalls + count then
          .error (exceeded "max_total_tool_calls exceeded")
        else .ok { usedToolCalls := some (budget.usedToolCalls + count) } }
    settings.userBudgetDualAccounting.isSome now

def reserveResumeSlot (settings : Settings) (taskId executionId : String) (sourceRevision : ℕ)
    (delegated : Bool) (expectedGeneration : Option ℤ) (now : ℤ) : Tx D Agent.TaskBudget :=
  mutateWithReservation settings { taskId, expectedGeneration }
    { kind := .resumeExecution
      reservationKey := s!"{executionId}:{sourceRevision}"
      payload := .slot executionId delegated
      mutate := resumePatch delegated }
    false now

def releaseActiveExecution (settings : Settings) (taskId executionId : String)
    (targetRevision : ℕ) (delegated : Bool) (expectedGeneration : Option ℤ) (now : ℤ) :
    Tx D Agent.TaskBudget :=
  mutateWithReservation settings { taskId, expectedGeneration }
    { kind := .releaseExecution
      reservationKey := s!"{executionId}:{targetRevision}"
      payload := .slot executionId delegated
      mutate := releasePatch delegated }
    false now

def reserveBranchSlot (settings : Settings) (taskId reservationKey : String)
    (expectedGeneration : Option ℤ) (now : ℤ) : Tx D Agent.TaskBudget :=
  mutateWithReservation settings { taskId, expectedGeneration }
    { kind := .branch
      reservationKey
      payload := .empty
      mutate := fun budget =>
        if budget.state ≠ .open then .error (isClosed budget.taskId)
        else if budget.limits.maxActiveBranches ≤ budget.activeBranches then
          .error (exceeded "max_active_branches reached")
        else .ok { activeBranches := some (budget.activeBranches + 1) } }
    false now

def releaseBranchSlot (settings : Settings) (taskId reservationKey : String)
    (expectedGeneration : Option ℤ) (now : ℤ) : Tx D Agent.TaskBudget :=
  mutateWithReservation settings { taskId, expectedGeneration }
    { kind := .releaseBranch
      reservationKey
      payload := .empty
      mutate := fun budget =>
        if budget.activeBranches ≤ 0 then .error (conflict "active_branches is already zero")
        else .ok { activeBranches := some (budget.activeBranches - 1) } }
    false now

/-! ### What a charge did -/

section Outcomes

variable {db db' : Db D} {settings : Settings} {taskId : String} {now : ℤ}
  {budget : Agent.TaskBudget} {preflight : Preflight}

/-- A patch that charges resources: counters of use grow, counters of active things stay. -/
def Charges (b : BudgetRow) (patch : BudgetPatch) : Prop :=
  b.Grows (patch.apply b.revision b) ∧ patch.activeExecutions = none ∧
    patch.activeParallelAgents = none ∧ patch.activeBranches = none

variable {patch : BudgetPatch} {b : Agent.TaskBudget}

theorem inferencePatch_charges (h : inferencePatch settings b = .ok patch) :
    Charges b.toBudgetRow patch := by
  have hwithin : b.usedInferenceCalls ≤ b.limits.maxTotalInferenceCalls :=
    b.valid.2.2.1.2.2.2.2.2.2.2
  unfold inferencePatch at h
  split_ifs at h
  all_goals
    cases h
    refine ⟨?_, rfl, rfl, rfl⟩
    constructor <;> simp [BudgetPatch.apply, hwithin]

theorem toolCallsPatch_charges {count : ℕ} (h : toolCallsPatch settings count b = .ok patch) :
    Charges b.toBudgetRow patch := by
  have hwithin : b.usedToolCalls ≤ b.limits.maxTotalToolCalls := b.valid.2.2.1.2.2.2.2.2.2.1
  simp only [toolCallsPatch] at h
  split_ifs at h
  all_goals
    cases h
    refine ⟨?_, rfl, rfl, rfl⟩
    constructor <;> simp [BudgetPatch.apply, hwithin]

variable {tokens costUsd : ℤ} {usageKey : String}

theorem usageMutation_charges (htokens : 0 ≤ tokens) (hcost : 0 ≤ costUsd)
    (h : (usageMutation (D := D) usageKey tokens costUsd).mutate b = .ok patch) :
    Charges b.toBudgetRow patch := by
  cases h
  refine ⟨?_, rfl, rfl, rfl⟩
  constructor <;> simp [BudgetPatch.apply, htokens, hcost]

theorem commit_of_charge {b : BudgetRow} (hb : getTaskBudget db taskId = some b)
    (hcharges : Charges b patch) (hchecks : (patch.apply b.revision b).Checks)
    (htasks : db'.tasks = db.tasks)
    (hbudgets : db'.budgets = db.budgets.put (patch.apply b.revision b))
    (hexecutions : db'.executions = db.executions) (hbranches : db'.branches = db.branches)
    (hclaims : db'.claims = db.claims) : Commit db db' := by
  obtain ⟨hgrows, hactive, hparallel, hslots⟩ := hcharges
  refine .of_budget hb hgrows hchecks ?_ ?_ ?_ htasks hbudgets hexecutions hbranches hclaims
  · simp [BudgetPatch.apply, hactive]
  · simp [BudgetPatch.apply, hparallel]
  · simp [BudgetPatch.apply, hslots]

variable {dimensions : List UserBudget.MirrorDimension}

/-- **An enrolled charge replays, or moves one budget and its mirror.** -/
theorem mutateEnrolledResource_commit {dual : DualAccounting} {binding : UserBudget.TaskBindingRow}
    {m : Mutation D} (hcharges : ∀ b patch, m.mutate b = .ok patch → Charges b.toBudgetRow patch)
    (h : mutateEnrolledResource dual taskId binding m dimensions now db = .ok (budget, db')) :
    Commit db db' := by
  simp only [mutateEnrolledResource, steps_ok, requireCurrentBinding, requireSameBinding,
    bind_assoc] at h
  obtain ⟨-, _, -, -, b, hb, h⟩ := h
  rcases hr : getTaskBudgetReservation db taskId m.kind m.reservationKey
    (some b.incarnationGeneration) with _ | r
  · rw [hr] at h
    simp only [loadBudget_bind_ok, evidently_bind_ok, compareAndSetTaskBudget_bind_ok,
      saveTaskBudgetReservation_bind_ok] at h
    obtain ⟨loaded, rfl, patch, hpatch, b', hb', -, hchecks, _, _, _, reservations, -, h⟩ := h
    obtain rfl : b' = loaded.toBudgetRow := Option.mem_unique hb' hb
    obtain ⟨_, db1, hmirror, h⟩ := bind_ok.1 h
    obtain ⟨u, rfl⟩ := onUserBudgets_ok hmirror
    obtain ⟨-, rfl⟩ := loadBudget_ok h
    exact commit_of_charge hb (hcharges _ _ hpatch) hchecks rfl rfl rfl rfl rfl
  · rw [hr] at h
    simp only [verifyReservation_bind_ok] at h
    obtain ⟨-, h⟩ := h
    obtain ⟨_, db1, hmirror, h⟩ := bind_ok.1 h
    obtain ⟨u, rfl⟩ := onUserBudgets_ok hmirror
    obtain ⟨-, rfl⟩ := loadBudget_ok h
    exact .of_same rfl rfl rfl rfl rfl

variable {call : BudgetCall}

/-- **A charge moves one budget along its law, on whichever path it takes.** -/
theorem chargeResource_commit {m : Mutation D} (hside : m.sideEffect = pure ())
    (hverify : m.verifyIdempotent = pure ())
    (hcharges : ∀ b patch, m.mutate b = .ok patch → Charges b.toBudgetRow patch)
    (h : chargeResource settings call m dimensions preflight now db = .ok (budget, db')) :
    Commit db db' := by
  simp only [chargeResource, ite_ok] at h
  rcases h with ⟨-, hplain⟩ | ⟨-, hdual⟩
  · exact mutateWithReservation_commit hside hverify hcharges hplain
  · cases hd : settings.userBudgetDualAccounting with
    | none =>
      rw [hd] at hdual
      exact mutateWithReservation_commit hside hverify hcharges hdual
    | some dual =>
      simp only [hd, ite_ok, abort_ok, and_false, false_or] at hdual
      obtain ⟨-, hpath⟩ := hdual
      unfold mutateResourceWithReservation at hpath
      cases hb : preflight.binding with
      | none =>
        rw [hb] at hpath
        exact mutateWithReservation_commit hside hverify hcharges hpath
      | some binding =>
        rw [hb] at hpath
        exact mutateEnrolledResource_commit hcharges hpath

theorem reserveInference_commit {requestId : String}
    (h : reserveInference settings call requestId preflight now db = .ok (budget, db')) :
    Commit db db' :=
  chargeResource_commit rfl rfl (fun _ _ => inferencePatch_charges) h

theorem accountUsage_commit
    (h : accountUsage settings call usageKey tokens costUsd preflight now db = .ok (budget, db')) :
    Commit db db' := by
  simp only [accountUsage, steps_ok] at h
  obtain ⟨htokens, hcost, h⟩ := h
  exact chargeResource_commit rfl rfl (fun _ _ => usageMutation_charges htokens hcost) h

/-! ### What a batch did -/

variable {generation : ℤ} {mirror : Option (DualAccounting × UserBudget.TaskBindingRow)} {u : Unit}
  {call : ToolCall D}

theorem requireToolCallMirror_ok (h : requireToolCallMirror taskId call mirror db = .ok (u, db')) :
    ∃ users, db' = { db with userBudgets := users } := by
  rcases mirror with _ | p
  · obtain ⟨-, rfl⟩ := pure_mk.1 h
    exact ⟨_, rfl⟩
  · exact onUserBudgets_ok h

theorem mirrorToolCall_ok (h : mirrorToolCall taskId call now mirror db = .ok (u, db')) :
    ∃ users, db' = { db with userBudgets := users } := by
  rcases mirror with _ | p
  · obtain ⟨-, rfl⟩ := pure_mk.1 h
    exact ⟨_, rfl⟩
  · exact onUserBudgets_ok h

/-- The missing calls are those without a reservation; the others have the right one. -/
theorem missingToolCalls_ok {calls missing : List (ToolCall D)}
    (h : missingToolCalls taskId generation mirror calls db = .ok (missing, db')) :
    ∃ users, db' = { db with userBudgets := users } ∧
      missing = calls.filter (fun c =>
        (getTaskBudgetReservation db taskId .toolCall c.key (some generation)).isNone) ∧
      ∀ c ∈ calls, ∀ r ∈ getTaskBudgetReservation db taskId .toolCall c.key (some generation),
        r.payloadFingerprint = c.fingerprint := by
  induction calls generalizing db missing with
  | nil =>
    obtain ⟨rfl, rfl⟩ := pure_mk.1 h
    exact ⟨_, rfl, rfl, by simp⟩
  | cons call rest ih =>
    simp only [missingToolCalls, steps_ok] at h
    rcases hr : getTaskBudgetReservation db taskId .toolCall call.key (some generation) with
      _ | existing
    · rw [hr, bind_ok] at h
      obtain ⟨rest', db1, hrest, h⟩ := h
      obtain ⟨rfl, rfl⟩ := pure_mk.1 h
      obtain ⟨users, rfl, rfl, hmatch⟩ := ih hrest
      refine ⟨users, rfl, by simp [hr], fun c hc r hcr => ?_⟩
      rcases mem_cons.1 hc with rfl | hc
      · rw [hr] at hcr
        cases hcr
      · exact hmatch c hc r hcr
    · rw [hr] at h
      simp only [verifyReservation_bind_ok] at h
      obtain ⟨hfingerprint, h⟩ := h
      obtain ⟨_, db1, hmirror, h⟩ := bind_ok.1 h
      obtain ⟨users, rfl⟩ := requireToolCallMirror_ok hmirror
      obtain ⟨users', rfl, rfl, hmatch⟩ := ih h
      refine ⟨users', rfl, ?_, fun c hc r hcr => ?_⟩
      · rw [filter_cons_of_neg (by simp [hr])]
        rfl
      rcases mem_cons.1 hc with rfl | hc
      · rw [hr] at hcr
        exact Option.some.inj hcr ▸ hfingerprint
      · exact hmatch c hc r hcr

def ToolCall.row (taskId : String) (generation : ℤ) (call : ToolCall D) : ReservationRow D.Receipt :=
  ⟨taskId, .toolCall, call.key, generation, call.fingerprint⟩

theorem saveToolCalls_ok {calls : List (ToolCall D)}
    (h : saveToolCalls taskId generation mirror now calls db = .ok (u, db')) :
    ∃ reservations users, db' = { db with reservations, userBudgets := users } ∧
      reservations.rows = db.reservations.rows ++ calls.map (·.row taskId generation) := by
  induction calls generalizing db with
  | nil =>
    obtain ⟨-, rfl⟩ := pure_mk.1 h
    exact ⟨_, _, rfl, by simp⟩
  | cons call rest ih =>
    simp only [saveToolCalls, saveTaskBudgetReservation_bind_ok] at h
    obtain ⟨b, -, hgeneration, reservations, hinsert, h⟩ := h
    obtain ⟨_, db1, hmirror, h⟩ := bind_ok.1 h
    obtain ⟨users, rfl⟩ := mirrorToolCall_ok hmirror
    obtain ⟨reservations', users', rfl, hrows⟩ := ih h
    refine ⟨reservations', users', rfl, ?_⟩
    have hb : generation = b.incarnationGeneration := by simpa using hgeneration
    rw [hrows]
    rw [Table.rows_insert? hinsert, append_assoc, ← hb]
    rfl

theorem requireBatchBinding_bind_ok {α : Type} {g : Unit → Tx D α} {x : α × Db D}
    (h : (requireBatchBinding settings taskId preflight >>= g) db = .ok x) : g () db = .ok x := by
  unfold requireBatchBinding at h
  cases hb : preflight.binding with
  | none =>
    simp only [hb, requireLegacyUnbound_bind_ok] at h
    exact h.2
  | some binding =>
    simp only [hb, requireCurrentBinding, requireSameBinding, bind_assoc, steps_ok] at h
    obtain ⟨_, -, -, h⟩ := h
    exact h

/-- **A batch of tool calls moves one budget along its law.** -/
theorem reserveToolCallBatch_commit {calls : List JsonObject} {expectedGeneration : Option ℤ}
    (h : reserveToolCallBatch settings taskId calls preflight expectedGeneration now db =
      .ok (budget, db')) : Commit db db' := by
  simp only [reserveToolCallBatch, evidently_bind_ok, steps_ok] at h
  obtain ⟨normalized, -, -, -, h⟩ := h
  have h := requireBatchBinding_bind_ok h
  simp only [requireIncarnation_bind_ok, loadBudget_bind_ok] at h
  obtain ⟨b, hb, -, loaded, rfl, h⟩ := h
  obtain ⟨missing, db1, hmissing, h⟩ := bind_ok.1 h
  obtain ⟨users, rfl, -⟩ := missingToolCalls_ok hmissing
  simp only [ite_ok, pure_mk] at h
  rcases h with ⟨-, -, rfl⟩ | ⟨-, h⟩
  · exact .of_same rfl rfl rfl rfl rfl
  simp only [evidently_bind_ok, compareAndSetTaskBudget_bind_ok] at h
  obtain ⟨patch, hpatch, b', hb', -, hchecks, h⟩ := h
  obtain rfl : b' = loaded.toBudgetRow := Option.mem_unique hb' hb
  obtain ⟨_, db2, hsave, h⟩ := bind_ok.1 h
  obtain ⟨reservations, users', rfl, -⟩ := saveToolCalls_ok hsave
  obtain ⟨-, rfl⟩ := loadBudget_ok h
  exact commit_of_charge hb (toolCallsPatch_charges hpatch) hchecks rfl rfl rfl rfl rfl

end Outcomes

end AssistantRuntime.TaskBudget

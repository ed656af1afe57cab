/-
**The user budget repository.**

The statements of `UserBudgetRepository`, as bodies of units of work: lookups, inserts that lose
against an existing row, and updates guarded by a revision.  Each function is followed by one
lemma that says what a commit of it has read and written; the services above never look inside.
-/

import AssistantRuntime.UserBudget.Schema
import Mathlib.Tactic.Common

namespace AssistantRuntime.UserBudget

open Relational Uow Table List

/-- `_require_atomic_counter`: a counter fits a non-negative signed `BIGINT`. -/
def IsAtomicCounter (value : ℤ) : Prop := 0 ≤ value ∧ value ≤ userBudgetInt64Max
  deriving Decidable

/-! ### Lookups -/

namespace Db

def getTaskBinding (db : Db) (taskId : String) : Option TaskBindingRow :=
  db.taskBindings.find? taskId

def getDualAccountingReceipt (db : Db) (taskId taskBudgetKind reservationKey : String)
    (mirrorDimension : MirrorKind) : Option ReceiptRow :=
  db.receipts.rows.find? fun r =>
    r.source = (taskId, taskBudgetKind, reservationKey, mirrorDimension)

def getPolicy (db : Db) (ownerUserId policyId : String) : Option PolicyRow :=
  (db.policies.find? policyId).filter fun p => p.ownerUserId = ownerUserId

def getAccount (db : Db) (ownerUserId : String) : Option AccountRow :=
  db.accounts.find? ownerUserId

def getWindow (db : Db) (ownerUserId : String) (windowEpoch : ℤ) : Option WindowRow :=
  db.windows.find? (ownerUserId, windowEpoch)

/-- `_active_windows`; the order of the rows is never used beyond the first. -/
def activeWindows (db : Db) (ownerUserId : String) : List WindowRow :=
  db.windows.rows.filter fun w => w.ownerUserId = ownerUserId ∧ w.state = .active

def getToolUsage (db : Db) (ownerUserId : String) (windowEpoch : ℤ) (capabilityId : String) :
    Option ToolUsageRow :=
  db.toolUsage.find? (ownerUserId, windowEpoch, capabilityId)

def getReservation (db : Db) (ownerUserId idempotencyKey : String) : Option ReservationRow :=
  db.reservations.rows.find? fun r => r.ownerKey = (ownerUserId, idempotencyKey)

variable {owner : String} {db : Db}

theorem getReservation_eq_some {key : String} {r : ReservationRow}
    (h : db.getReservation owner key = some r) :
    r ∈ db.reservations ∧ r.ownerUserId = owner ∧ r.idempotencyKey = key := by
  have hk := find?_some h
  simp only [ReservationRow.ownerKey, Prod.mk.injEq, decide_eq_true_eq] at hk
  exact ⟨mem_of_find?_eq_some h, hk⟩

theorem getReservation_eq_none {key : String} (h : db.getReservation owner key = none) :
    ∀ r ∈ db.reservations, r.ownerKey ≠ (owner, key) := by
  intro r hr
  simpa using find?_eq_none.1 h r hr

theorem getWindow_eq_some {epoch : ℤ} {w : WindowRow} (h : db.getWindow owner epoch = some w) :
    w ∈ db.windows ∧ w.ownerUserId = owner ∧ w.epoch = epoch := by
  have hk := key_of_find? h
  simp only [WindowRow.key, Prod.mk.injEq] at hk
  exact ⟨mem_of_find? h, hk⟩

theorem getToolUsage_eq_some {capability : String} {epoch : ℤ} {u : ToolUsageRow}
    (h : db.getToolUsage owner epoch capability = some u) :
    u ∈ db.toolUsage ∧ u.ownerUserId = owner ∧ u.windowEpoch = epoch ∧
      u.capabilityId = capability := by
  have hk := key_of_find? h
  simp only [ToolUsageRow.key, Prod.mk.injEq] at hk
  exact ⟨mem_of_find? h, hk⟩

end Db

/-! ### Windows -/

def getActiveWindow (ownerUserId : String) : Tx (Option WindowRow) := do
  let account ← reads (·.getAccount ownerUserId)
  let windows ← reads (·.activeWindows ownerUserId)
  ensure (windows.length ≤ 1)
    ⟨.userBudgetIntegrity, "multiple ACTIVE user budget windows exist for one owner"⟩
  let active := windows.head?
  match account with
  | none =>
    ensure (active = none)
      ⟨.userBudgetIntegrity, "ACTIVE user budget window exists without owner account"⟩
    return none
  | some account =>
    match account.activeWindowEpoch with
    | none =>
      ensure (active = none)
        ⟨.userBudgetIntegrity, "account pointer is NULL while an ACTIVE window exists"⟩
      return none
    | some epoch =>
      let window ← expect (active.filter fun w => w.epoch = epoch)
        ⟨.userBudgetIntegrity,
          "account active_window_epoch does not match the ACTIVE window"⟩
      ensure (window.epoch < account.nextWindowEpoch)
        ⟨.userBudgetIntegrity, "account next_window_epoch is not strictly monotonic"⟩
      return some window

variable {owner : String} {db db' : Db}

/-- Reading the active window changes nothing, and what it returns is a stored row. -/
theorem getActiveWindow_ok {w? : Option WindowRow} (h : getActiveWindow owner db = .ok (w?, db')) :
    db' = db ∧ ∀ w, w? = some w → w ∈ db.windows ∧ w.ownerUserId = owner ∧ w.state = .active := by
  simp only [getActiveWindow, steps_ok] at h
  obtain ⟨-, h⟩ := h
  rcases hacc : db.getAccount owner with _ | account
  · simp only [hacc, steps_ok, pure_mk] at h
    obtain ⟨-, rfl, rfl⟩ := h
    exact ⟨rfl, fun w hw => by cases hw⟩
  · rcases hep : account.activeWindowEpoch with _ | epoch
    · simp only [hacc, hep, steps_ok, pure_mk] at h
      obtain ⟨-, rfl, rfl⟩ := h
      exact ⟨rfl, fun w hw => by cases hw⟩
    · simp only [hacc, hep, steps_ok, pure_mk] at h
      obtain ⟨w, hw, -, rfl, rfl⟩ := h
      refine ⟨rfl, ?_⟩
      have hmem := mem_of_mem_head? (Option.mem_def.2 (Option.filter_eq_some_iff.1 hw).1)
      simpa [Db.activeWindows, mem_def] using hmem

def WindowRow.opened (policy : PolicyRow) (ownerUserId : String) (epoch now : ℤ) : WindowRow where
  ownerUserId := ownerUserId
  epoch := epoch
  state := .active
  governingPolicyId := policy.policyId
  governingPolicyVersion := policy.policyVersion
  governingPolicyFingerprint := policy.policyFingerprint
  startedAt := now
  expiresAt := now + policy.windowDurationSeconds
  counters := {}
  revision := 0
  closedAt := none

/-- The new window must be the only active one of its owner
(`uq_user_budget_windows_one_active_owner`). -/
def insertWindow (row : WindowRow) : Tx Unit := do
  let windows ← reads Db.windows
  ensure (∀ w ∈ windows.rows, ¬ (w.ownerUserId = row.ownerUserId ∧ w.state = .active))
    ⟨.databaseIntegrity, "uq_user_budget_windows_one_active_owner"⟩
  let windows ← expect (windows.insert? row) ⟨.databaseIntegrity, "user_budget_windows_pkey"⟩
  writes fun db => { db with windows := windows }

def closeWindow (active : Option WindowRow) (now : ℤ) : Tx Unit :=
  match active with
  | some w => writes fun db => { db with
      windows := db.windows.put
        { w with state := .closed, closedAt := some now, revision := w.revision + 1 } }
  | none => pure ()

def rolloverWindow (ownerUserId : String) (expectedAccountRevision now : ℤ) : Tx WindowRow := do
  let account ← expect (← reads (·.getAccount ownerUserId))
    ⟨.userBudgetIntegrity, "user budget account must exist before rollover"⟩
  let active ← getActiveWindow ownerUserId
  match active.filter fun w => now < w.expiresAt with
  | some w => return w
  | none =>
    ensure (account.revision = expectedAccountRevision)
      ⟨.userBudgetConflict, "user budget account rollover CAS is stale"⟩
    let nextPolicyId ← expect account.nextPolicyId
      ⟨.userBudgetIntegrity, "user budget account has no selected policy for the next window"⟩
    let policy ← expect (← reads (·.getPolicy ownerUserId nextPolicyId))
      ⟨.userBudgetIntegrity,
        "selected user budget policy is missing or belongs to another owner"⟩
    let newEpoch := account.nextWindowEpoch
    ensure (0 < newEpoch ∧ newEpoch ≤ userBudgetInt64Max)
      ⟨.userBudgetIntegrity, "next user budget window epoch is invalid"⟩
    ensure (∀ w ∈ active, w.epoch < newEpoch)
      ⟨.userBudgetIntegrity, "user budget window epoch would be reused"⟩
    -- the expired window is closed before its successor is inserted
    closeWindow active now
    insertWindow (WindowRow.opened policy ownerUserId newEpoch now)
    ensure (newEpoch < userBudgetInt64Max)
      ⟨.userBudgetIntegrity, "user budget next window epoch would overflow signed BIGINT"⟩
    writes fun db => { db with
      accounts := db.accounts.put
        { account with
          activeWindowEpoch := some newEpoch
          nextWindowEpoch := newEpoch + 1
          revision := expectedAccountRevision + 1 } }
    let refreshed ← getActiveWindow ownerUserId
    expect (refreshed.filter fun w => w.epoch = newEpoch)
      ⟨.userBudgetIntegrity,
        "user budget rollover did not establish the canonical active pointer"⟩

/-- What a rollover leaves of the stored state: no counter of an existing window changes, a window
that is new starts at zero, and the other stores of a charge are not touched. -/
structure RolledOver (db db' : Db) : Prop where
  toolUsage : db'.toolUsage = db.toolUsage
  reservations : db'.reservations = db.reservations
  receipts : db'.receipts = db.receipts
  kept : ∀ w' ∈ db'.windows, (∃ w ∈ db.windows, w.key = w'.key ∧ w.counters = w'.counters) ∨
    (w'.counters = {} ∧ ∀ w ∈ db.windows, w.key ≠ w'.key)
  keys : ∀ w ∈ db.windows, ∃ w' ∈ db'.windows, w'.key = w.key

theorem RolledOver.refl (db : Db) : RolledOver db db where
  toolUsage := rfl
  reservations := rfl
  receipts := rfl
  kept w' hw' := .inl ⟨w', hw', rfl, rfl⟩
  keys w hw := ⟨w, hw, rfl⟩

theorem RolledOver.trans {a b c : Db} (h : RolledOver a b) (h' : RolledOver b c) :
    RolledOver a c where
  toolUsage := h'.toolUsage.trans h.toolUsage
  reservations := h'.reservations.trans h.reservations
  receipts := h'.receipts.trans h.receipts
  kept w' hw' := by
    rcases h'.kept w' hw' with ⟨w, hw, hk, hc⟩ | ⟨hc, hn⟩
    · rcases h.kept w hw with ⟨v, hv, hk', hc'⟩ | ⟨hc', hn⟩
      · exact .inl ⟨v, hv, hk'.trans hk, hc'.trans hc⟩
      · exact .inr ⟨hc ▸ hc', fun v hv => hk ▸ hn v hv⟩
    · refine .inr ⟨hc, fun v hv hvk => ?_⟩
      obtain ⟨w, hw, hwk⟩ := h.keys v hv
      exact hn w hw (hwk.trans hvk)
  keys w hw := by
    obtain ⟨v, hv, hk⟩ := h.keys w hw
    obtain ⟨v', hv', hk'⟩ := h'.keys v hv
    exact ⟨v', hv', hk'.trans hk⟩

def Db.closing (db : Db) (active : Option WindowRow) (now : ℤ) : Table WindowRow.key :=
  match active with
  | some w => db.windows.put
      { w with state := .closed, closedAt := some now, revision := w.revision + 1 }
  | none => db.windows

variable {w : WindowRow}

/-- **What a rollover did**: it found a window that has not expired, or it closed the active window
and opened the next one. -/
theorem rolloverWindow_cases {revision now : ℤ}
    (h : rolloverWindow owner revision now db = .ok (w, db')) :
    (w ∈ db'.windows ∧ w.ownerUserId = owner) ∧
      (db' = db ∨ ∃ account policy active windows row,
        db' = { db with windows := windows, accounts := db.accounts.put row } ∧
        db.getAccount owner = some account ∧ db.getPolicy owner policy.policyId = some policy ∧
        (∀ v ∈ active, v ∈ db.windows ∧ v.ownerUserId = owner ∧ v.expiresAt ≤ now) ∧
        (∀ v ∈ db.closing active now, ¬ (v.ownerUserId = owner ∧ v.state = .active)) ∧
        (db.closing active now).insert? (WindowRow.opened policy owner account.nextWindowEpoch now) =
          some windows ∧
        row.ownerUserId = owner ∧ row.activeWindowEpoch = some account.nextWindowEpoch ∧
        row.nextWindowEpoch = account.nextWindowEpoch + 1) := by
  simp only [rolloverWindow, steps_ok] at h
  obtain ⟨account, haccount, h⟩ := h
  rw [bind_ok] at h
  obtain ⟨active, db1, hact, h⟩ := h
  obtain ⟨rfl, hactive⟩ := getActiveWindow_ok hact
  rcases hf : active.filter fun w => now < w.expiresAt with _ | v
  swap
  · simp only [hf, pure_mk] at h
    obtain ⟨rfl, rfl⟩ := h
    obtain ⟨hmem, howner, -⟩ := hactive w (Option.filter_eq_some_iff.1 hf).1
    exact ⟨⟨hmem, howner⟩, .inl rfl⟩
  simp only [hf, steps_ok] at h
  obtain ⟨-, policyId, -, policy, hpolicy, -, -, h⟩ := h
  obtain ⟨_, db2, hclose, h⟩ := bind_ok.1 h
  have hdb2 : db2 = { db1 with windows := db1.closing active now } := by
    unfold closeWindow at hclose
    cases active with
    | none => exact (pure_mk.1 hclose).2
    | some v => exact (Prod.mk.inj (writes_ok.1 hclose)).2
  subst hdb2
  obtain ⟨_, db3, hins, h⟩ := bind_ok.1 h
  simp only [insertWindow, steps_ok, writes_ok, Prod.mk.injEq] at hins
  obtain ⟨hnone, windows, hwindows, -, rfl⟩ := hins
  simp only [steps_ok, writes_bind_ok] at h
  obtain ⟨-, h⟩ := h
  obtain ⟨refreshed, db4, hact', h⟩ := bind_ok.1 h
  obtain ⟨rfl, hrefreshed⟩ := getActiveWindow_ok hact'
  obtain ⟨w', hw', he⟩ := expect_ok.1 h
  cases he
  obtain ⟨hmem, hwowner, -⟩ := hrefreshed w (Option.filter_eq_some_iff.1 hw').1
  have hexpired : ∀ v ∈ active, v ∈ db1.windows ∧ v.ownerUserId = owner ∧ v.expiresAt ≤ now := by
    rintro v rfl
    obtain ⟨hmem, howner, -⟩ := hactive v rfl
    exact ⟨hmem, howner, not_lt.1 (by simpa [Option.filter] using hf)⟩
  have hid : policy.policyId = policyId :=
    key_of_find? (Option.filter_eq_some_iff.1 hpolicy).1
  have howner : account.ownerUserId = owner := key_of_find? haccount
  exact ⟨⟨hmem, hwowner⟩, .inr ⟨account, policy, active, windows, _, rfl, haccount, hid ▸ hpolicy,
    hexpired, hnone, hwindows, howner, rfl, rfl⟩⟩

theorem rolloverWindow_ok {rev now : ℤ} (h : rolloverWindow owner rev now db = .ok (w, db')) :
    RolledOver db db' ∧ w ∈ db'.windows ∧ w.ownerUserId = owner := by
  obtain ⟨hw, rfl | ⟨account, policy, active, windows, row, rfl, -, -, hactive, -, hins, -⟩⟩ :=
    rolloverWindow_cases h
  · exact ⟨.refl _, hw⟩
  refine ⟨⟨rfl, rfl, rfl, fun w' hw' => ?_, fun v hv => ?_⟩, hw⟩
  · rcases (mem_insert? hins).1 hw' with hw' | rfl
    · cases active with
      | none => exact .inl ⟨w', hw', rfl, rfl⟩
      | some u =>
        rcases mem_put.1 hw' with ⟨hw', -⟩ | ⟨rfl, -⟩
        · exact .inl ⟨w', hw', rfl, rfl⟩
        · exact .inl ⟨u, (hactive u rfl).1, rfl, rfl⟩
    · refine .inr ⟨rfl, fun v hv he => ?_⟩
      cases active with
      | none => exact (insert?_eq_some.1 hins).1 v hv he
      | some u =>
        obtain ⟨v', hv', hk⟩ := exists_key_put.2 ⟨v, hv, rfl⟩
        exact (insert?_eq_some.1 hins).1 v' hv' (hk.trans he)
  · cases active with
    | none => exact ⟨v, (mem_insert? hins).2 (.inl hv), rfl⟩
    | some u =>
      obtain ⟨v', hv', hk⟩ := exists_key_put.2 ⟨v, hv, rfl⟩
      exact ⟨v', (mem_insert? hins).2 (.inl hv'), hk⟩

/-! ### Counter updates -/

/-- The keyword arguments of `mutate_window_usage`: the target value of each counter, if given. -/
structure WindowTargets where
  computeUsedAtomic : Option ℤ := none
  computeReservedAtomic : Option ℤ := none
  inferenceUsed : Option ℤ := none
  inferenceReserved : Option ℤ := none
  inputTokensUsed : Option ℤ := none
  outputTokensUsed : Option ℤ := none
  totalTokensUsed : Option ℤ := none
  tokensReserved : Option ℤ := none
  toolCallsUsed : Option ℤ := none
  toolCallsReserved : Option ℤ := none
  costUsedAtomic : Option ℤ := none
  costReservedAtomic : Option ℤ := none

namespace WindowTargets

def supplied (t : WindowTargets) : List ℤ :=
  [t.computeUsedAtomic, t.computeReservedAtomic, t.inferenceUsed, t.inferenceReserved,
    t.inputTokensUsed, t.outputTokensUsed, t.totalTokensUsed, t.tokensReserved, t.toolCallsUsed,
    t.toolCallsReserved, t.costUsedAtomic, t.costReservedAtomic].reduceOption

/-- The targets of the counters that must not decrease, with their current values. -/
def monotonicUsed (t : WindowTargets) (c : WindowCounters) : List (Option ℤ × ℤ) :=
  [(t.computeUsedAtomic, c.computeUsedAtomic), (t.inferenceUsed, c.inferenceUsed),
    (t.inputTokensUsed, c.inputTokensUsed), (t.outputTokensUsed, c.outputTokensUsed),
    (t.totalTokensUsed, c.totalTokensUsed), (t.toolCallsUsed, c.toolCallsUsed),
    (t.costUsedAtomic, c.costUsedAtomic)]

def apply (t : WindowTargets) (c : WindowCounters) : WindowCounters where
  computeUsedAtomic := t.computeUsedAtomic.getD c.computeUsedAtomic
  computeReservedAtomic := t.computeReservedAtomic.getD c.computeReservedAtomic
  inferenceUsed := t.inferenceUsed.getD c.inferenceUsed
  inferenceReserved := t.inferenceReserved.getD c.inferenceReserved
  inputTokensUsed := t.inputTokensUsed.getD c.inputTokensUsed
  outputTokensUsed := t.outputTokensUsed.getD c.outputTokensUsed
  totalTokensUsed := t.totalTokensUsed.getD c.totalTokensUsed
  tokensReserved := t.tokensReserved.getD c.tokensReserved
  toolCallsUsed := t.toolCallsUsed.getD c.toolCallsUsed
  toolCallsReserved := t.toolCallsReserved.getD c.toolCallsReserved
  costUsedAtomic := t.costUsedAtomic.getD c.costUsedAtomic
  costReservedAtomic := t.costReservedAtomic.getD c.costReservedAtomic

end WindowTargets

def mutateWindowUsage (ownerUserId : String) (windowEpoch expectedRevision : ℤ)
    (targets : WindowTargets) : Tx WindowRow := do
  let current ← expect (← reads (·.getWindow ownerUserId windowEpoch))
    ⟨.keyError, "unknown user budget window"⟩
  ensure (current.revision = expectedRevision)
    ⟨.userBudgetConflict, "user budget window usage CAS is stale"⟩
  ensure (∀ value ∈ targets.supplied, IsAtomicCounter value)
    ⟨.valueError, "user budget counter exceeds signed BIGINT domain"⟩
  ensure (targets.supplied ≠ [])
    ⟨.valueError, "window usage mutation requires at least one target value"⟩
  ensure (∀ p ∈ targets.monotonicUsed current.counters, ∀ value ∈ p.1, p.2 ≤ value)
    ⟨.userBudgetIntegrity, "committed user budget usage cannot decrease"⟩
  let row := { current with
    counters := targets.apply current.counters, revision := expectedRevision + 1 }
  writes fun db => { db with windows := db.windows.put row }
  return row

theorem mutateWindowUsage_ok {epoch rev : ℤ} {targets : WindowTargets}
    (h : mutateWindowUsage owner epoch rev targets db = .ok (w, db')) :
    ∃ current, db.getWindow owner epoch = some current ∧
      w = { current with counters := targets.apply current.counters, revision := rev + 1 } ∧
      db' = { db with windows := db.windows.put w } := by
  simp only [mutateWindowUsage, steps_ok, writes_bind_ok, pure_mk] at h
  obtain ⟨current, hw, -, -, -, -, rfl, rfl⟩ := h
  exact ⟨current, hw, rfl, rfl⟩

def createOrGetToolUsage (ownerUserId : String) (windowEpoch : ℤ) (capabilityId : String) :
    Tx ToolUsageRow := do
  ensure (capabilityId ≠ "") ⟨.valueError, "canonical capability_id is required"⟩
  match ← reads (·.getToolUsage ownerUserId windowEpoch capabilityId) with
  | some existing => return existing
  | none =>
    let row : ToolUsageRow := ⟨ownerUserId, windowEpoch, capabilityId, 0, 0, 0⟩
    let toolUsage ← expect (← reads (·.toolUsage.insert? row))
      ⟨.databaseIntegrity, "user_tool_budget_usage_pkey"⟩
    writes fun db => { db with toolUsage := toolUsage }
    return row

variable {capability : String} {u : ToolUsageRow}

theorem createOrGetToolUsage_ok {epoch : ℤ}
    (h : createOrGetToolUsage owner epoch capability db = .ok (u, db')) :
    db'.getToolUsage owner epoch capability = some u ∧
      (db' = db ∨ (u = ⟨owner, epoch, capability, 0, 0, 0⟩ ∧ ∃ toolUsage,
        db.toolUsage.insert? u = some toolUsage ∧ db' = { db with toolUsage := toolUsage })) := by
  simp only [createOrGetToolUsage, steps_ok] at h
  obtain ⟨-, h⟩ := h
  rcases hu : db.getToolUsage owner epoch capability with _ | existing
  · simp only [hu, steps_ok, writes_bind_ok, pure_mk] at h
    obtain ⟨toolUsage, hins, rfl, rfl⟩ := h
    refine ⟨?_, .inr ⟨rfl, toolUsage, hins, rfl⟩⟩
    rw [Db.getToolUsage, find?_insert? hins]
    exact if_pos rfl
  · simp only [hu, pure_mk] at h
    obtain ⟨rfl, rfl⟩ := h
    exact ⟨hu, .inl rfl⟩

def mutateToolUsage (ownerUserId : String) (windowEpoch : ℤ) (capabilityId : String)
    (expectedRevision usedCalls reservedCalls : ℤ) : Tx ToolUsageRow := do
  let current ← expect (← reads (·.getToolUsage ownerUserId windowEpoch capabilityId))
    ⟨.keyError, "unknown per-capability user budget usage"⟩
  ensure (current.revision = expectedRevision)
    ⟨.userBudgetConflict, "per-capability user budget CAS is stale"⟩
  ensure (IsAtomicCounter usedCalls ∧ IsAtomicCounter reservedCalls)
    ⟨.valueError, "user budget counter exceeds signed BIGINT domain"⟩
  ensure (current.usedCalls ≤ usedCalls)
    ⟨.userBudgetIntegrity, "committed per-capability tool usage cannot decrease"⟩
  let row := { current with
    usedCalls := usedCalls, reservedCalls := reservedCalls, revision := expectedRevision + 1 }
  writes fun db => { db with toolUsage := db.toolUsage.put row }
  return row

theorem mutateToolUsage_ok {epoch rev used reserved : ℤ}
    (h : mutateToolUsage owner epoch capability rev used reserved db = .ok (u, db')) :
    ∃ current, db.getToolUsage owner epoch capability = some current ∧
      u = { current with usedCalls := used, reservedCalls := reserved, revision := rev + 1 } ∧
      db' = { db with toolUsage := db.toolUsage.put u } ∧ 0 ≤ u.usedCalls ∧ 0 ≤ u.reservedCalls := by
  simp only [mutateToolUsage, steps_ok, writes_bind_ok, pure_mk] at h
  obtain ⟨current, hu, -, ⟨⟨hused, -⟩, hreserved, -⟩, -, rfl, rfl⟩ := h
  exact ⟨current, hu, rfl, rfl, hused, hreserved⟩

/-! ### Reservations -/

/-- `UserBudgetReservationIntent`. -/
structure ReservationIntent where
  reservationId : String
  ownerUserId : String
  windowEpoch : ℤ
  idempotencyKey : String
  resourceKind : ResourceKind
  capabilityId : Option String := none
  reservedAmountAtomic : ℤ
  attribution : Attribution

namespace ReservationIntent

/-- A bounded non-empty text column. -/
def IsShortText (s : String) : Prop := 1 ≤ s.length ∧ s.length ≤ 255
  deriving Decidable

/-- The field constraints and `_validate_capability_scope`. -/
def Valid (intent : ReservationIntent) : Prop :=
  IsShortText intent.reservationId ∧ IsShortText intent.ownerUserId ∧
  (0 < intent.windowEpoch ∧ intent.windowEpoch ≤ userBudgetInt64Max) ∧
  IsShortText intent.idempotencyKey ∧
  (∀ c ∈ intent.capabilityId, c.length ≤ 255) ∧
  (0 < intent.reservedAmountAtomic ∧ intent.reservedAmountAtomic ≤ userBudgetInt64Max) ∧
  (intent.resourceKind = .toolCall → ∃ c ∈ intent.capabilityId, c ≠ "") ∧
  (intent.resourceKind ≠ .toolCall → intent.capabilityId = none)
  deriving Decidable

def payloadFingerprint (sha : Document → String) (intent : ReservationIntent) : String :=
  sha (.reservation intent.resourceKind intent.reservedAmountAtomic intent.capabilityId
    intent.attribution)

def row (sha : Document → String) (intent : ReservationIntent) : ReservationRow :=
  { intent with
    settledAmountAtomic := none
    state := .reserved
    payloadFingerprint := intent.payloadFingerprint sha
    revision := 0
    settledAt := none }

end ReservationIntent

section Reservations

variable (sha : Document → String)

/-- The insert of `create_or_get_reservation`: the primary key and the owner's idempotency key
must both be free. -/
def insertReservation (row : ReservationRow) : Tx Unit := do
  let reservations ← reads Db.reservations
  ensure (∀ r ∈ reservations.rows, r.ownerKey ≠ row.ownerKey)
    ⟨.databaseIntegrity, "uq_user_budget_reservation_owner_idempotency"⟩
  let reservations ← expect (reservations.insert? row)
    ⟨.databaseIntegrity, "user_budget_reservations_pkey"⟩
  writes fun db => { db with reservations := reservations }

def createOrGetReservation (intent : ReservationIntent) : Tx ReservationRow := do
  match ← reads (·.getReservation intent.ownerUserId intent.idempotencyKey) with
  | some existing =>
    ensure (existing.payloadFingerprint = intent.payloadFingerprint sha)
      ⟨.userBudgetConflict, "user budget idempotency key conflicts with canonical payload"⟩
    return existing
  | none =>
    -- a refused insert finds no winner under the owner's key, so the refusal is raised
    insertReservation (intent.row sha)
    return intent.row sha

variable {r : ReservationRow}

theorem createOrGetReservation_ok {intent : ReservationIntent} {db db' : Db}
    (h : createOrGetReservation sha intent db = .ok (r, db')) :
    (db' = db ∧ db.getReservation intent.ownerUserId intent.idempotencyKey = some r ∧
        r.payloadFingerprint = intent.payloadFingerprint sha) ∨
      (db.getReservation intent.ownerUserId intent.idempotencyKey = none ∧
        r = intent.row sha ∧ ∃ reservations, db.reservations.insert? r = some reservations ∧
          db' = { db with reservations := reservations }) := by
  simp only [createOrGetReservation, steps_ok] at h
  rcases hr : db.getReservation intent.ownerUserId intent.idempotencyKey with _ | existing
  · simp only [hr] at h
    obtain ⟨_, db1, hins, h⟩ := bind_ok.1 h
    obtain ⟨rfl, rfl⟩ := pure_mk.1 h
    simp only [insertReservation, steps_ok, writes_ok, Prod.mk.injEq] at hins
    obtain ⟨-, reservations, hres, -, rfl⟩ := hins
    exact .inr ⟨rfl, rfl, reservations, hres, rfl⟩
  · simp only [hr, steps_ok, pure_mk] at h
    obtain ⟨hfp, rfl, rfl⟩ := h
    exact .inl ⟨rfl, rfl, hfp⟩

/-- The amount and the instant of a settlement belong to `SETTLED` and to nothing else. -/
def SettlementFits (target : ReservationState) (amount settledAt : Option ℤ) : Prop :=
  (target = .settled → amount ≠ none ∧ settledAt ≠ none ∧ ∀ a ∈ amount, IsAtomicCounter a) ∧
  (target ≠ .settled → amount = none ∧ settledAt = none)
  deriving Decidable

def transitionReservation (ownerUserId idempotencyKey : String) (expectedRevision : ℤ)
    (target : ReservationState) (settledAmountAtomic settledAt : Option ℤ) :
    Tx ReservationRow := do
  ensure (target ≠ .reserved)
    ⟨.valueError, "reservation transition cannot reopen RESERVED state"⟩
  let current ← expect (← reads (·.getReservation ownerUserId idempotencyKey))
    ⟨.keyError, "unknown user budget reservation"⟩
  if current.state ≠ .reserved then
    ensure (∀ amount ∈ settledAmountAtomic, current.state = target → IsAtomicCounter amount)
      ⟨.valueError, "user budget counter exceeds signed BIGINT domain"⟩
    ensure (current.state = target ∧ current.settledAmountAtomic = settledAmountAtomic)
      ⟨.userBudgetConflict, "terminal or OUTCOME_UNKNOWN reservation state cannot be reopened"⟩
    return current
  else
    ensure (current.revision = expectedRevision)
      ⟨.userBudgetConflict, "user budget reservation CAS is stale"⟩
    ensure (SettlementFits target settledAmountAtomic settledAt)
      ⟨.valueError, if target = .settled then "SETTLED reservation requires amount and timestamp"
        else "non-SETTLED reservation transition cannot set settlement fields"⟩
    let row := { current with
      state := target
      settledAmountAtomic := settledAmountAtomic
      settledAt := settledAt
      revision := expectedRevision + 1 }
    writes fun db => { db with reservations := db.reservations.put row }
    return row

theorem transitionReservation_ok {owner key : String} {rev : ℤ} {target : ReservationState}
    {amount at_ : Option ℤ} {db db' : Db}
    (h : transitionReservation owner key rev target amount at_ db = .ok (r, db')) :
    ∃ current, db.getReservation owner key = some current ∧
      ((current.state ≠ .reserved ∧ r = current ∧ db' = db) ∨
        (current.state = .reserved ∧
          r = { current with
            state := target, settledAmountAtomic := amount, settledAt := at_,
            revision := rev + 1 } ∧
          db' = { db with reservations := db.reservations.put r })) := by
  simp only [transitionReservation, steps_ok] at h
  obtain ⟨-, current, hcur, h⟩ := h
  refine ⟨current, hcur, ?_⟩
  by_cases hs : current.state ≠ .reserved
  · simp only [if_pos hs, steps_ok, pure_mk] at h
    obtain ⟨-, -, rfl, rfl⟩ := h
    exact .inl ⟨hs, rfl, rfl⟩
  · simp only [if_neg hs, steps_ok, writes_bind_ok, pure_mk] at h
    obtain ⟨-, -, rfl, rfl⟩ := h
    exact .inr ⟨not_not.1 hs, rfl, rfl⟩

end Reservations

/-! ### Bindings, receipts, policies and accounts -/

def createTaskBinding (row : TaskBindingRow) : Tx TaskBindingRow := do
  match ← reads (·.getTaskBinding row.taskId) with
  | some existing =>
    ensure (existing.ownerUserId = row.ownerUserId ∧
        existing.resolutionFingerprint = row.resolutionFingerprint ∧
        existing.enrollmentVersion = row.enrollmentVersion)
      ⟨.userBudgetConflict, "Task is already bound to a different UBQ owner/provenance"⟩
    return existing
  | none =>
    let taskBindings ← expect (← reads (·.taskBindings.insert? row))
      ⟨.databaseIntegrity, "user_budget_task_bindings_pkey"⟩
    writes fun db => { db with taskBindings := taskBindings }
    return row

/-- The columns that a replayed receipt must repeat. -/
def ReceiptRow.SameCharge (r r' : ReceiptRow) : Prop :=
  r.bridgeReceiptId = r'.bridgeReceiptId ∧ r.ownerUserId = r'.ownerUserId ∧
  r.sourcePayloadFingerprint = r'.sourcePayloadFingerprint ∧ r.windowEpoch = r'.windowEpoch ∧
  r.ubqReservationId = r'.ubqReservationId ∧ r.ubqIdempotencyKey = r'.ubqIdempotencyKey ∧
  r.ubqPayloadFingerprint = r'.ubqPayloadFingerprint ∧ r.amountAtomic = r'.amountAtomic ∧
  r.capabilityId = r'.capabilityId
  deriving Decidable

def createOrGetDualAccountingReceipt (row : ReceiptRow) : Tx ReceiptRow := do
  match ← reads (·.getDualAccountingReceipt row.taskId row.taskBudgetKind
      row.taskBudgetReservationKey row.mirrorDimension) with
  | some existing =>
    ensure (existing.SameCharge row)
      ⟨.userBudgetConflict, "Dual-accounting bridge identity conflicts with durable receipt"⟩
    return existing
  | none =>
    let receipts ← expect (← reads (·.receipts.insert? row))
      ⟨.databaseIntegrity, "user_budget_dual_accounting_receipts_pkey"⟩
    writes fun db => { db with receipts := receipts }
    return row

theorem createOrGetDualAccountingReceipt_ok {row r : ReceiptRow}
    (h : createOrGetDualAccountingReceipt row db = .ok (r, db')) :
    (db' = db ∧ r.SameCharge row ∧ db.getDualAccountingReceipt row.taskId row.taskBudgetKind
        row.taskBudgetReservationKey row.mirrorDimension = some r) ∨
      (r = row ∧ ∃ receipts, db.receipts.insert? row = some receipts ∧
        db' = { db with receipts := receipts }) := by
  simp only [createOrGetDualAccountingReceipt, steps_ok] at h
  rcases hr : db.getDualAccountingReceipt row.taskId row.taskBudgetKind
    row.taskBudgetReservationKey row.mirrorDimension with _ | existing
  · simp only [hr, steps_ok, writes_bind_ok, pure_mk] at h
    obtain ⟨receipts, hins, rfl, rfl⟩ := h
    exact .inr ⟨rfl, receipts, hins, rfl⟩
  · simp only [hr, steps_ok, pure_mk] at h
    obtain ⟨hsame, rfl, rfl⟩ := h
    exact .inl ⟨rfl, hsame, rfl⟩

/-- A policy is stored once: a second policy under the same id, or under the same version of the
same owner, must be the same one. -/
def createOrGetImmutablePolicy (policy : PolicyRow) : Tx PolicyRow := do
  let stored ← reads fun db => (db.getPolicy policy.ownerUserId policy.policyId).orElse fun _ =>
    db.policies.rows.find? fun p =>
      p.ownerUserId = policy.ownerUserId ∧ p.policyVersion = policy.policyVersion
  match stored with
  | some existing =>
    ensure (existing.policyId = policy.policyId ∧ existing.policyVersion = policy.policyVersion ∧
        existing.policyFingerprint = policy.policyFingerprint)
      ⟨.userBudgetConflict,
        "user budget policy owner/version identity conflicts with immutable policy"⟩
    return existing
  | none =>
    let policies ← expect (← reads (·.policies.insert? policy))
      ⟨.databaseIntegrity, "user_budget_policies_pkey"⟩
    writes fun db => { db with policies := policies }
    return policy

def createOrGetAccount (ownerUserId : String) : Tx AccountRow := do
  match ← reads (·.getAccount ownerUserId) with
  | some existing => return existing
  | none =>
    let row : AccountRow := ⟨ownerUserId, 0, none, none, 1⟩
    let accounts ← expect (← reads (·.accounts.insert? row))
      ⟨.databaseIntegrity, "user_budget_accounts_pkey"⟩
    writes fun db => { db with accounts := accounts }
    return row

def selectNextPolicy (ownerUserId : String) (expectedRevision : ℤ) (nextPolicyId : String) :
    Tx AccountRow := do
  let _ ← expect (← reads (·.getPolicy ownerUserId nextPolicyId))
    ⟨.userBudgetIntegrity, "next policy must exist and belong to the same budget owner"⟩
  let account ← expect
    ((← reads (·.getAccount ownerUserId)).filter fun a => a.revision = expectedRevision)
    ⟨.userBudgetConflict, "user budget account policy CAS lost"⟩
  let row := { account with
    nextPolicyId := some nextPolicyId, revision := expectedRevision + 1 }
  writes fun db => { db with accounts := db.accounts.put row }
  return row

/-- A unit of work that leaves the three stores of a charge and its receipts alone. -/
def SameCharges (db db' : Db) : Prop :=
  db'.windows = db.windows ∧ db'.toolUsage = db.toolUsage ∧
    db'.reservations = db.reservations ∧ db'.receipts = db.receipts

theorem SameCharges.trans {a b c : Db} (h : SameCharges a b) (h' : SameCharges b c) :
    SameCharges a c :=
  ⟨h'.1.trans h.1, h'.2.1.trans h.2.1, h'.2.2.1.trans h.2.2.1, h'.2.2.2.trans h.2.2.2⟩

theorem SameCharges.rolledOver (h : SameCharges db db') : RolledOver db db' := by
  obtain ⟨hw, hu, hr, hc⟩ := h
  exact ⟨hu, hr, hc, fun w' hw' => .inl ⟨w', hw ▸ hw', rfl, rfl⟩, fun w hw' => ⟨w, hw ▸ hw', rfl⟩⟩

variable {row b : TaskBindingRow}

theorem createTaskBinding_cases (h : createTaskBinding row db = .ok (b, db')) :
    (db' = db ∧ db.getTaskBinding row.taskId = some b ∧ b.ownerUserId = row.ownerUserId) ∨
      (b = row ∧ ∃ taskBindings, db.taskBindings.insert? row = some taskBindings ∧
        db' = { db with taskBindings := taskBindings }) := by
  simp only [createTaskBinding, steps_ok] at h
  rcases hb : db.getTaskBinding row.taskId with _ | existing
  · simp only [hb, steps_ok, writes_bind_ok, pure_mk] at h
    obtain ⟨taskBindings, hins, rfl, rfl⟩ := h
    exact .inr ⟨rfl, taskBindings, hins, rfl⟩
  · simp only [hb, steps_ok, pure_mk] at h
    obtain ⟨⟨howner, -⟩, rfl, rfl⟩ := h
    exact .inl ⟨rfl, rfl, howner⟩

theorem createTaskBinding_ok (h : createTaskBinding row db = .ok (b, db')) :
    SameCharges db db' := by
  rcases createTaskBinding_cases h with ⟨rfl, -⟩ | ⟨-, _, -, rfl⟩ <;> exact ⟨rfl, rfl, rfl, rfl⟩

variable {policy p : PolicyRow}

variable (h : createOrGetImmutablePolicy policy db = .ok (p, db'))

include h

theorem createOrGetImmutablePolicy_cases :
    db' = db ∨ ∃ policies, db.policies.insert? policy = some policies ∧
      db' = { db with policies := policies } := by
  simp only [createOrGetImmutablePolicy, steps_ok] at h
  generalize (db.getPolicy policy.ownerUserId policy.policyId).orElse _ = stored at h
  rcases stored with _ | existing
  · simp only [steps_ok, writes_bind_ok, pure_mk] at h
    obtain ⟨policies, hins, -, rfl⟩ := h
    exact .inr ⟨policies, hins, rfl⟩
  · simp only [steps_ok, pure_mk] at h
    exact .inl h.2.2

theorem createOrGetImmutablePolicy_ok :
    SameCharges db db' := by
  rcases createOrGetImmutablePolicy_cases h with rfl | ⟨_, -, rfl⟩ <;> exact ⟨rfl, rfl, rfl, rfl⟩

omit h

variable {a : AccountRow}

theorem createOrGetAccount_cases (h : createOrGetAccount owner db = .ok (a, db')) :
    db' = db ∨ ∃ accounts, db.accounts.insert? ⟨owner, 0, none, none, 1⟩ = some accounts ∧
      db' = { db with accounts := accounts } := by
  simp only [createOrGetAccount, steps_ok] at h
  rcases ha : db.getAccount owner with _ | existing
  · simp only [ha, steps_ok, writes_bind_ok, pure_mk] at h
    obtain ⟨accounts, hins, -, rfl⟩ := h
    exact .inr ⟨accounts, hins, rfl⟩
  · simp only [ha, pure_mk] at h
    exact .inl h.2

theorem createOrGetAccount_ok (h : createOrGetAccount owner db = .ok (a, db')) :
    SameCharges db db' := by
  rcases createOrGetAccount_cases h with rfl | ⟨_, -, rfl⟩ <;> exact ⟨rfl, rfl, rfl, rfl⟩

theorem selectNextPolicy_ok {policyId : String} {rev : ℤ}
    (h : selectNextPolicy owner rev policyId db = .ok (a, db')) : SameCharges db db' := by
  simp only [selectNextPolicy, steps_ok, writes_bind_ok, pure_ok, Prod.mk.injEq] at h
  obtain ⟨_, -, _, -, -, rfl⟩ := h
  exact ⟨rfl, rfl, rfl, rfl⟩

end AssistantRuntime.UserBudget

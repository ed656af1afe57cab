/-
**The three stores of a tool-call charge agree.**

A charge is kept three times: as a counter of the window, as a counter of the capability's usage
row and as a reservation row.  They are written by separate guarded updates, so their agreement is
an invariant of the whole system rather than of one statement.  This module states it and proves
that every operation of the services keeps it, for any number of users and any interleaving.

Main results:

* `Balanced.move` — the one accounting argument: moving a window, a usage row and the reservation
  rows by the same amounts keeps the books balanced;
* `balanced_serve` — every operation keeps them balanced;
* `toolCounters_eq_reservations` — **in every reachable state the window counters are the numbers of
  reservations, and the usage rows add up to them**.
-/

import AssistantRuntime.UserBudget.Statements
import Mathlib.Tactic.Linarith

namespace AssistantRuntime.UserBudget

open Relational Uow Table List Option

/-! ### The books -/

/-- The tool-call reservations of one window that are in state `state`. -/
def Db.toolReservations (db : Db) (state : ReservationState) (owner : String) (epoch : ℤ) : ℕ :=
  db.reservations.count fun r =>
    r.resourceKind = .toolCall ∧ r.state = state ∧ r.ownerUserId = owner ∧ r.windowEpoch = epoch

/-- A quantity of the usage rows, summed over the capabilities of one window. -/
def Db.usageTotal (db : Db) (f : ToolUsageRow → ℤ) (owner : String) (epoch : ℤ) : ℤ :=
  db.toolUsage.total fun u => if u.ownerUserId = owner ∧ u.windowEpoch = epoch then f u else 0

/-- The columns of the books: the calls that are reserved, and those that were made. -/
inductive Column
  | reserved
  | used

namespace Column

def state : Column → ReservationState
  | reserved => .reserved
  | used => .settled

def calls : Column → ToolUsageRow → ℤ
  | reserved => ToolUsageRow.reservedCalls
  | used => ToolUsageRow.usedCalls

def counter : Column → WindowCounters → ℤ
  | reserved => WindowCounters.toolCallsReserved
  | used => WindowCounters.toolCallsUsed

end Column

/-- The books of one window agree. -/
def WindowBalanced (db : Db) (w : WindowRow) : Prop :=
  ∀ c : Column, c.counter w.counters = db.toolReservations c.state w.ownerUserId w.epoch ∧
    db.usageTotal c.calls w.ownerUserId w.epoch = c.counter w.counters

/-- A usage row counts calls of a window that exists. -/
def UsageFits (db : Db) (u : ToolUsageRow) : Prop :=
  (∃ w ∈ db.windows, w.key = (u.ownerUserId, u.windowEpoch)) ∧
    0 ≤ u.usedCalls ∧ 0 ≤ u.reservedCalls

/-- The invariant.  Besides the balance of every window, charges belong to windows that exist, and
a mirrored reservation has its receipt; the latter is what makes a mirror happen once. -/
structure Balanced (db : Db) : Prop where
  windows : ∀ w ∈ db.windows, WindowBalanced db w
  reservationWindow : ∀ r ∈ db.reservations, ∃ w ∈ db.windows,
    w.key = (r.ownerUserId, r.windowEpoch)
  usage : ∀ u ∈ db.toolUsage, UsageFits db u
  bridged : ∀ r ∈ db.reservations, ∀ d, r.idempotencyKey = "ubq2:v1:" ++ d →
    ∃ c ∈ db.receipts, c.bridgeReceiptId = "ubq2b:" ++ d

theorem balanced_empty : Balanced {} where
  windows w hw := absurd hw (not_mem_empty w)
  reservationWindow r hr := absurd hr (not_mem_empty r)
  usage u hu := absurd hu (not_mem_empty u)
  bridged r hr := absurd hr (not_mem_empty r)

variable {db : Db} {owner : String} {epoch : ℤ}

theorem Db.toolReservations_eq_zero
    (h : ∀ r ∈ db.reservations, (owner, epoch) ≠ (r.ownerUserId, r.windowEpoch))
    (state : ReservationState) : db.toolReservations state owner epoch = 0 := by
  refine count_eq_zero.2 fun r hr => ?_
  have := h r hr
  simp only [ne_eq, Prod.mk.injEq, not_and] at this
  simp only [decide_eq_false_iff_not, not_and]
  exact fun _ _ ho he => this ho.symm he.symm

theorem Db.usageTotal_eq_zero
    (h : ∀ u ∈ db.toolUsage, (owner, epoch) ≠ (u.ownerUserId, u.windowEpoch)) (f : ToolUsageRow →
      ℤ) :
    db.usageTotal f owner epoch = 0 := by
  refine total_eq_zero fun u hu => if_neg ?_
  rintro ⟨rfl, rfl⟩
  exact h u hu rfl

variable {db' : Db}

/-- A rollover keeps the books: no counter of an old window moves, and nothing has been charged to
a new one. -/
theorem Balanced.rolledOver (h : Balanced db) (hr : RolledOver db db') :
    Balanced db' := by
  have hres : ∀ state owner epoch,
      db'.toolReservations state owner epoch = db.toolReservations state owner epoch := by
    intro state owner epoch
    rw [Db.toolReservations, Db.toolReservations, hr.reservations]
  have husage : ∀ f owner epoch, db'.usageTotal f owner epoch = db.usageTotal f owner epoch := by
    intro f owner epoch
    rw [Db.usageTotal, Db.usageTotal, hr.toolUsage]
  refine ⟨fun w' hw' => ?_, fun r hmem => ?_, fun u hmem => ?_, fun r hmem d hd => ?_⟩
  · rcases hr.kept w' hw' with ⟨w, hw, hk, hc⟩ | ⟨hc, hnew⟩
    · simp only [WindowRow.key, Prod.mk.injEq] at hk
      simpa only [WindowBalanced, hres, husage, ← hc, ← hk.1, ← hk.2] using h.windows w hw
    · -- a window that is new has no charges, because charges belong to existing windows
      have h1 : ∀ r ∈ db.reservations, (w'.ownerUserId, w'.epoch) ≠ (r.ownerUserId, r.windowEpoch) :=
        fun r hmem he => by
          obtain ⟨w, hw, hk⟩ := h.reservationWindow r hmem
          exact hnew w hw (hk.trans he.symm)
      have h2 : ∀ u ∈ db.toolUsage, (w'.ownerUserId, w'.epoch) ≠ (u.ownerUserId, u.windowEpoch) :=
        fun u hmem he => by
          obtain ⟨⟨w, hw, hk⟩, -⟩ := h.usage u hmem
          exact hnew w hw (hk.trans he.symm)
      rintro ⟨⟩ <;> simp [hres, husage, hc, Db.toolReservations_eq_zero h1,
        Db.usageTotal_eq_zero h2, Column.counter]
  · obtain ⟨w, hw, hk⟩ := h.reservationWindow r (hr.reservations ▸ hmem)
    obtain ⟨w', hw', hk'⟩ := hr.keys w hw
    exact ⟨w', hw', hk'.trans hk⟩
  · obtain ⟨⟨w, hw, hk⟩, hcounts⟩ := h.usage u (hr.toolUsage ▸ hmem)
    obtain ⟨w', hw', hk'⟩ := hr.keys w hw
    exact ⟨⟨w', hw', hk'.trans hk⟩, hcounts⟩
  · rw [hr.receipts]
    exact h.bridged r (hr.reservations ▸ hmem) d hd

/-- What an update of a usage row does to the sum over the capabilities of a window. -/
theorem Db.usageTotal_put {u u' : ToolUsageRow} (hu : u ∈ db.toolUsage)
    (hk : u.key = u'.key) (f : ToolUsageRow → ℤ) (owner : String) (epoch : ℤ) :
    Db.usageTotal { db with toolUsage := db.toolUsage.put u' } f owner epoch =
      db.usageTotal f owner epoch +
        if (owner, epoch) = (u.ownerUserId, u.windowEpoch) then f u' - f u else 0 := by
  have hk' : u.ownerUserId = u'.ownerUserId ∧ u.windowEpoch = u'.windowEpoch := by
    simp only [ToolUsageRow.key, Prod.mk.injEq] at hk
    exact ⟨hk.1, hk.2.1⟩
  rw [Db.usageTotal, total_put hu hk]
  simp only [Db.usageTotal, ← hk'.1, ← hk'.2, Prod.mk.injEq, eq_comm (a := owner),
    eq_comm (a := epoch)]
  split <;> ring

variable {toolUsage : Table ToolUsageRow.key} {u : ToolUsageRow}

theorem Db.usageTotal_insert? (hins : db.toolUsage.insert? u = some toolUsage)
    {f : ToolUsageRow → ℤ} (hf : f u = 0) (owner : String) (epoch : ℤ) :
    Db.usageTotal { db with toolUsage := toolUsage } f owner epoch =
      db.usageTotal f owner epoch := by
  rw [Db.usageTotal, total_insert? hins, Db.usageTotal, hf, ite_self, add_zero]

theorem Balanced.addUsage (h : Balanced db) (hins : db.toolUsage.insert? u = some toolUsage)
    (hused : u.usedCalls = 0) (hreserved : u.reservedCalls = 0)
    (hw : ∃ w ∈ db.windows, w.key = (u.ownerUserId, u.windowEpoch)) :
    Balanced { db with toolUsage := toolUsage } := by
  refine ⟨fun w hmem c => ?_, h.reservationWindow,
    forall_insert? hins h.usage ⟨hw, hused.ge, hreserved.ge⟩, h.bridged⟩
  rw [Db.usageTotal_insert? hins (f := c.calls) (by cases c <;> assumption)]
  exact h.windows w hmem c

/-- How the books of one window move between two states. -/
structure Moves (db db' : Db) (w : WindowRow) (amount : Column → ℤ) : Prop where
  reservations : ∀ (c : Column) owner epoch, (db'.toolReservations c.state owner epoch : ℤ) =
    db.toolReservations c.state owner epoch + if (owner, epoch) = w.key then amount c else 0
  usage : ∀ (c : Column) owner epoch, db'.usageTotal c.calls owner epoch =
    db.usageTotal c.calls owner epoch + if (owner, epoch) = w.key then amount c else 0

/-- **The accounting argument.**  The window, the usage rows and the reservation rows move by the
same amounts; the other windows are in different rows, so they see nothing of it. -/
theorem Balanced.move (h : Balanced db) {w w' : WindowRow} (amount : Column → ℤ)
    (hw : w ∈ db.windows) (hk : w'.key = w.key) (hwin : db'.windows = db.windows.put w')
    (hmoves : Moves db db' w amount)
    (hcounter : ∀ c : Column, c.counter w'.counters = c.counter w.counters + amount c)
    (hres : ∀ r ∈ db'.reservations, ∃ v ∈ db.windows, v.key = (r.ownerUserId, r.windowEpoch))
    (husage : ∀ u ∈ db'.toolUsage, UsageFits db u)
    (hbridged : ∀ r ∈ db'.reservations, ∀ d, r.idempotencyKey = "ubq2:v1:" ++ d →
      ∃ c ∈ db'.receipts, c.bridgeReceiptId = "ubq2b:" ++ d) : Balanced db' := by
  refine ⟨fun v hv c => ?_, fun r hr => ?_, fun u hu => ?_, hbridged⟩
  · have hrows := hmoves.reservations c v.ownerUserId v.epoch
    have hcalls := hmoves.usage c v.ownerUserId v.epoch
    rw [hwin, mem_put_of_mem hw hk.symm] at hv
    rcases hv with ⟨hv, hne⟩ | rfl
    · have hne' : ¬ (v.ownerUserId, v.epoch) = w.key := fun he => hne (he.trans hk.symm)
      have hold := h.windows v hv c
      rw [if_neg hne'] at hrows hcalls
      omega
    · have hold := h.windows w hw c
      have hmoved := hcounter c
      have hkey : (v.ownerUserId, v.epoch) = w.key := hk
      obtain ⟨howner, hepoch⟩ := Prod.mk.inj hk
      rw [if_pos hkey, howner, hepoch] at hrows hcalls
      rw [howner, hepoch]
      omega
  · rw [hwin]
    exact exists_key_put.2 (hres r hr)
  · rw [UsageFits, hwin]
    exact ⟨exists_key_put.2 (husage u hu).1, (husage u hu).2⟩

/-! ### Reservation counts -/

/-- Whether a reservation is a tool call of the given window in the given state. -/
def ReservationRow.CountsAs (r : ReservationRow) (state : ReservationState) (key : String × ℤ) :
    Prop :=
  r.resourceKind = .toolCall ∧ r.state = state ∧ key = (r.ownerUserId, r.windowEpoch)
  deriving Decidable

theorem Db.toolReservations_eq_count (db : Db) (state : ReservationState) (owner : String)
    (epoch : ℤ) : db.toolReservations state owner epoch =
      db.reservations.count fun r => r.CountsAs state (owner, epoch) := by
  rw [Db.toolReservations]
  congr 1
  simp only [ReservationRow.CountsAs, Prod.mk.injEq, eq_comm (a := owner), eq_comm (a := epoch)]

theorem Db.toolReservations_insert? {r : ReservationRow}
    {reservations : Table ReservationRow.reservationId}
    (hins : db.reservations.insert? r = some reservations) (state : ReservationState)
    (owner : String) (epoch : ℤ) :
    (Db.toolReservations { db with reservations := reservations } state owner epoch : ℤ) =
      db.toolReservations state owner epoch + if r.CountsAs state (owner, epoch) then 1 else 0 := by
  rw [Db.toolReservations_eq_count, Db.toolReservations_eq_count, count_insert? hins]
  simp only [decide_eq_true_eq]
  split <;> simp

theorem Db.toolReservations_put {r r' : ReservationRow} (hr : r ∈ db.reservations)
    (hk : r.reservationId = r'.reservationId) (state : ReservationState) (owner : String)
    (epoch : ℤ) :
    (Db.toolReservations { db with reservations := db.reservations.put r' } state owner epoch : ℤ) =
      db.toolReservations state owner epoch + (if r'.CountsAs state (owner, epoch) then 1 else 0) -
        if r.CountsAs state (owner, epoch) then 1 else 0 := by
  have := count_put hr hk fun r => r.CountsAs state (owner, epoch)
  rw [Db.toolReservations_eq_count, Db.toolReservations_eq_count]
  simp only [decide_eq_true_eq] at this
  dsimp only
  split_ifs at this ⊢ <;> omega

theorem getWindow_of_mem {w current : WindowRow} (hw : w ∈ db.windows)
    (howner : w.ownerUserId = owner) (hepoch : w.epoch = epoch)
    (h : db.getWindow owner epoch = some current) : current = w := by
  obtain ⟨hmem, ho, he⟩ := Db.getWindow_eq_some h
  exact eq_of_key_eq hmem hw (by simp [WindowRow.key, ho, he, howner, hepoch])

/-! ### Admission -/

section Admission

variable {sha : Document → String} {db db' : Db} {owner : String} {call : ToolCall}

theorem toolIdempotencyKey_ne (sha : Document → String) (invocationId d : String) :
    toolIdempotencyKey sha invocationId ≠ "ubq2:v1:" ++ d := by
  intro h
  have := congrArg String.toList h
  simp [toolIdempotencyKey, String.toList_append] at this

variable {u : ToolUsageRow}

theorem balanced_chargeToolCall (h : Balanced db) {w : WindowRow} {r : ReservationRow}
    (hw : w ∈ db.windows) (howner : w.ownerUserId = owner)
    (hu : db.getToolUsage owner w.epoch call.capabilityId = some u)
    (hnew : db.getReservation owner (toolIdempotencyKey sha call.invocationId) = none)
    (hc : chargeToolCall sha owner call w u db = .ok (r, db')) : Balanced db' := by
  rw [chargeToolCall] at hc
  simp only [↓steps_ok, bind_ok, pure_mk] at hc
  obtain ⟨-, row, db1, hcreate, _, db2, hverify, w', db3, hmw, u', db4, hmu, rfl, rfl⟩ := hc
  obtain ⟨rfl, -⟩ := verifyDirectReservation_ok sha hverify
  rcases createOrGetReservation_ok sha hcreate with ⟨-, hget, -⟩ | ⟨-, hrow, reservations, hins, rfl⟩
  · exact absurd (hnew.symm.trans hget) (by simp)
  obtain ⟨current, hcur, hw', rfl⟩ := mutateWindowUsage_ok hmw
  obtain rfl := getWindow_of_mem hw howner rfl hcur
  obtain ⟨cu, hcu, hu', rfl, hcounts⟩ := mutateToolUsage_ok hmu
  obtain rfl : cu = u := mem_unique (by rw [hw'] at hcu; exact hcu) hu
  obtain ⟨humem, huo, hue, huc⟩ := Db.getToolUsage_eq_some hu
  have huk : cu.key = u'.key := by simp [ToolUsageRow.key, hu']
  have hscope : (cu.ownerUserId, cu.windowEpoch) = current.key := by
    simp [WindowRow.key, huo, hue, howner]
  refine h.move (fun | .reserved => 1 | .used => 0) hw (by simp [WindowRow.key, hw']) rfl
    ⟨fun c o e => ?_, fun c o e => ?_⟩ ?_ ?_ ?_ ?_
  · refine (Db.toolReservations_insert? hins c.state o e).trans ?_
    cases c <;> simp [hrow, ReservationRow.CountsAs, ReservationIntent.row, ToolCall.intent,
      WindowRow.key, howner, Column.state]
  · refine (Db.usageTotal_put humem huk c.calls o e).trans ?_
    cases c <;> simp [hscope, hu', Db.usageTotal, Column.calls]
  · rintro ⟨⟩ <;> simp [hw', WindowTargets.apply, Column.counter]
  · refine forall_insert? hins h.reservationWindow ⟨current, hw, ?_⟩
    simp [hrow, WindowRow.key, ReservationIntent.row, ToolCall.intent, howner]
  · obtain ⟨⟨v, hv, hvk⟩, -⟩ := h.usage cu humem
    exact forall_put h.usage ⟨⟨v, hv, by simpa [hu'] using hvk⟩, hcounts⟩
  · refine forall_insert? hins h.bridged fun d hd => absurd ?_
      (toolIdempotencyKey_ne sha call.invocationId d)
    simpa [hrow, ReservationIntent.row, ToolCall.intent] using hd

variable {now : ℤ} {account : AccountRow}

theorem currentWindow_ok {w : WindowRow} (h : currentWindow owner account now db = .ok (w, db')) :
    RolledOver db db' ∧ w ∈ db'.windows ∧ w.ownerUserId = owner := by
  rw [currentWindow, bind_ok] at h
  obtain ⟨active, db1, hact, h⟩ := h
  obtain ⟨rfl, hactive⟩ := getActiveWindow_ok hact
  rcases hf : active.filter fun w => now < w.expiresAt with _ | v
  · simp only [hf] at h
    exact rolloverWindow_ok h
  · simp only [hf, pure_mk] at h
    obtain ⟨rfl, rfl⟩ := h
    obtain ⟨hmem, howner, -⟩ := hactive w (filter_eq_some_iff.1 hf).1
    exact ⟨.refl _, hmem, howner⟩

theorem balanced_createOrGetToolUsage (h : Balanced db) {epoch : ℤ} {capability : String}
    (hw : ∃ w ∈ db.windows, w.key = (owner, epoch))
    (hc : createOrGetToolUsage owner epoch capability db = .ok (u, db')) :
    Balanced db' ∧ db'.windows = db.windows ∧ db'.reservations = db.reservations ∧
      db'.receipts = db.receipts ∧ db'.getToolUsage owner epoch capability = some u := by
  obtain ⟨hget, rfl | ⟨rfl, toolUsage, hins, rfl⟩⟩ := createOrGetToolUsage_ok hc
  · exact ⟨h, rfl, rfl, rfl, hget⟩
  · exact ⟨h.addUsage hins rfl rfl hw, rfl, rfl, rfl, hget⟩

theorem balanced_admitToolCall (h : Balanced db) {a : ToolQuotaAdmission}
    (hnew : db.getReservation owner (toolIdempotencyKey sha call.invocationId) = none)
    (hc : admitToolCall sha owner account call now db = .ok (a, db')) : Balanced db' := by
  rw [admitToolCall] at hc
  simp only [↓steps_ok, bind_ok, pure_mk] at hc
  obtain ⟨w, db1, hwin, -, -, -, u, db2, husage, -, -, r, db3, hcharge, -, rfl⟩ := hc
  obtain ⟨hroll, hw, howner⟩ := currentWindow_ok hwin
  obtain ⟨h2, hwindows, hres, -, hget⟩ := balanced_createOrGetToolUsage (h.rolledOver hroll)
    ⟨w, hw, by simp [WindowRow.key, howner]⟩ husage
  refine balanced_chargeToolCall h2 (hwindows ▸ hw) howner hget ?_ hcharge
  rw [Db.getReservation, hres, hroll.reservations]
  exact hnew

variable {directory : Directory} {identity : Identity}

theorem balanced_reserveToolCall (h : Balanced db) {enabled : Bool} {lineage : AgentLineage}
    {arguments : List (String × String)} {a : Option ToolQuotaAdmission}
    (hc : reserveToolCall sha enabled directory lineage identity call arguments now db = .ok (a,
      db')) : Balanced db' := by
  rw [reserveToolCall] at hc
  by_cases hen : enabled = false
  · simp only [if_pos hen, pure_mk] at hc
    exact hc.2 ▸ h
  simp only [if_neg hen, steps_ok] at hc
  obtain ⟨-, hc⟩ := hc
  obtain ⟨owner, -, hc⟩ := Respects.unchanged_bind hc
  simp only [steps_ok] at hc
  rcases hr : db.getReservation owner (toolIdempotencyKey sha call.invocationId) with _ | existing
  · simp only [hr] at hc
    obtain ⟨historical, -, hc⟩ := Respects.unchanged_bind hc
    rcases historical with _ | historical
    · simp only [steps_ok, hr] at hc
      obtain ⟨account, -, hc⟩ := hc
      obtain ⟨admission, db3, hadmitted, hc⟩ := bind_ok.1 hc
      exact (pure_mk.1 hc).2 ▸ balanced_admitToolCall h hr hadmitted
    · exact (pure_mk.1 hc).2 ▸ h
  · simp only [hr] at hc
    obtain ⟨admission, -, hc⟩ := Respects.unchanged_bind hc
    exact (pure_mk.1 hc).2 ▸ h

end Admission

/-! ### Settlement and release -/

section Terminal

variable {sha : Document → String} {db db' : Db} {target : ReservationState} {amount at_ : Option ℤ}

theorem transitionReservation_reserved {owner key : String} {rev : ℤ} {r row : ReservationRow}
    (h : transitionReservation owner key rev target amount at_ db = .ok (row, db'))
    (hget : db.getReservation owner key = some r) (hstate : r.state = .reserved) :
    row = { r with
        state := target, settledAmountAtomic := amount, settledAt := at_, revision := rev + 1 } ∧
      db' = { db with reservations := db.reservations.put row } := by
  obtain ⟨current, hcur, hcase⟩ := transitionReservation_ok h
  obtain rfl : r = current := mem_unique hget hcur
  rcases hcase with ⟨hne, -⟩ | ⟨-, hrow, hdb⟩
  · exact absurd hstate hne
  · exact ⟨hrow, hdb⟩

/-- What a column gains when a reserved call gets the state `target`. -/
def Column.left (target : ReservationState) : Column → ℤ
  | reserved => -1
  | used => if target = .settled then 1 else 0

/-- The books after a reserved call has left the reserved state: one reservation fewer in the
window and in the usage row, and one settled call more if it was settled. -/
theorem balanced_leave (h : Balanced db) {db1 db2 : Db} {owner key capability : String}
    {r row : ReservationRow} {w w' : WindowRow} {u u' : ToolUsageRow} {targets : WindowTargets}
    {used : ℤ} (hget : db.getReservation owner key = some r) (hkind : r.resourceKind = .toolCall)
    (hstate : r.state = .reserved) (htarget : target ≠ .reserved)
    (hwin : db.getWindow owner r.windowEpoch = some w)
    (husage : db.getToolUsage owner r.windowEpoch capability = some u)
    (hcounter : ∀ c : Column,
      c.counter (targets.apply w.counters) = c.counter w.counters + c.left target)
    (hused : used = u.usedCalls + Column.used.left target)
    (hmw : mutateWindowUsage owner w.epoch w.revision targets db = .ok (w', db1))
    (hmu : mutateToolUsage owner w.epoch capability u.revision used (u.reservedCalls - 1) db1 =
      .ok (u', db2))
    (hrow : transitionReservation owner key r.revision target amount at_ db2 = .ok (row, db')) :
    Balanced db' := by
  obtain ⟨hr, hrowner, -⟩ := Db.getReservation_eq_some hget
  obtain ⟨hw, hwo, hwe⟩ := Db.getWindow_eq_some hwin
  obtain ⟨hu, huo, hue, -⟩ := Db.getToolUsage_eq_some husage
  have hwk : w.key = (r.ownerUserId, r.windowEpoch) := by
    simp [WindowRow.key, hwo, hwe, hrowner]
  have huk : (u.ownerUserId, u.windowEpoch) = w.key := by
    simp [WindowRow.key, hwo, hwe, huo, hue]
  obtain ⟨current, hcur, hw', rfl⟩ := mutateWindowUsage_ok hmw
  obtain rfl := getWindow_of_mem hw hwo rfl hcur
  obtain ⟨cu, hcu, hu', rfl, hcounts⟩ := mutateToolUsage_ok hmu
  rw [hwe] at hcu
  obtain rfl : u = cu := mem_unique husage hcu
  obtain ⟨hr', rfl⟩ := transitionReservation_reserved hrow hget hstate
  have hid : r.reservationId = row.reservationId := by rw [hr']
  have hkey : u.key = u'.key := by rw [hu']; rfl
  refine h.move (·.left target) hw (by rw [hw']; rfl) rfl ⟨fun c o e => ?_, fun c o e => ?_⟩ ?_ ?_ ?_ ?_
  · refine (Db.toolReservations_put hr hid c.state o e).trans ?_
    rw [hwk]
    cases c <;> by_cases ht : target = .settled <;>
      simp [ReservationRow.CountsAs, Column.state, Column.left, hkind, hstate, hr', htarget, ht] <;>
      split_ifs <;> ring
  · refine (Db.usageTotal_put hu hkey c.calls o e).trans ?_
    rw [huk, hu']
    cases c <;> simp [Db.usageTotal, Column.calls, Column.left, hused]
  · intro c
    rw [hw']
    exact hcounter c
  · exact forall_put h.reservationWindow ⟨current, hw, by rw [hwk, hr']⟩
  · exact forall_put h.usage ⟨⟨current, hw, by rw [← huk, hu']⟩, hcounts⟩
  · exact forall_put h.bridged fun d hd => h.bridged r hr d (by rw [hr'] at hd; exact hd)

theorem balanced_terminalTransitionOf (h : Balanced db) {admission a : ToolQuotaAdmission}
    {key : String} {now : ℤ}
    (hc : terminalTransitionOf sha admission key target now db = .ok (a, db')) :
    Balanced db' := by
  simp only [terminalTransitionOf, steps_ok] at hc
  obtain ⟨htarget, r, hget, hc⟩ := hc
  rw [bind_ok] at hc
  obtain ⟨_, db1, hverify, hc⟩ := hc
  obtain ⟨rfl, hdirect⟩ := verifyDirectReservation_ok sha hverify
  by_cases hs : r.state = target
  · simp only [if_pos hs, pure_mk] at hc
    exact hc.2 ▸ h
  simp only [if_neg hs, steps_ok] at hc
  obtain ⟨hreserved, w, hwin, u, husage, -, hc⟩ := hc
  obtain ⟨row, db2, hwrites, hc⟩ := bind_ok.1 hc
  obtain ⟨-, rfl⟩ := pure_mk.1 hc
  rcases htarget with rfl | rfl
  all_goals
    simp only [leaveReserved, if_true, reduceCtorEq, if_false, settleCounters, releaseCounters,
      bind_ok] at hwrites
    obtain ⟨w', db3, hmw, u', db4, hmu, hwrites⟩ := hwrites
    refine balanced_leave h hget hdirect.kind hreserved (by decide) hwin husage ?_
      (by simp [Column.left]) hmw hmu hwrites
    rintro ⟨⟩ <;> simp [WindowTargets.apply, Column.counter, Column.left, Int.sub_eq_add_neg]

theorem balanced_terminalTransition (h : Balanced db) {admission a : Option ToolQuotaAdmission}
    {now : ℤ} (hc : terminalTransition sha admission target now db = .ok (a, db')) :
    Balanced db' := by
  rcases admission with _ | admission
  · simp only [terminalTransition, pure_mk] at hc
    exact hc.2 ▸ h
  · rw [terminalTransition] at hc
    by_cases hb : admission.historicalBridge = true
    · simp only [if_pos hb, pure_mk] at hc
      exact hc.2 ▸ h
    · simp only [if_neg hb, steps_ok] at hc
      obtain ⟨key, -, hc⟩ := hc
      obtain ⟨a', db1, hterm, hc⟩ := bind_ok.1 hc
      exact (pure_mk.1 hc).2 ▸ balanced_terminalTransitionOf h hterm

end Terminal

/-! ### The mirror -/

section Mirror

variable {sha : Document → String} {db db' : Db}

theorem Db.getReservation_insert? {r : ReservationRow}
    {reservations : Table ReservationRow.reservationId}
    (hins : db.reservations.insert? r = some reservations)
    (hnone : db.getReservation r.ownerUserId r.idempotencyKey = none) :
    Db.getReservation { db with reservations := reservations } r.ownerUserId r.idempotencyKey =
      some r := by
  rw [Db.getReservation] at hnone ⊢
  rw [rows_insert? hins, find?_append, hnone]
  simp [ReservationRow.ownerKey]

variable {kind : ResourceKind} {w : WindowRow}

/-- What a column gains when a charge is mirrored: a tool call counts as used. -/
def Column.mirrored (kind : ResourceKind) (amount : ℤ) : Column → ℤ
  | reserved => 0
  | used => if kind = .toolCall then amount else 0

/-- The usage row of a mirrored tool call gains the amount; no other row is touched. -/
theorem mirrorToolUsage_ok {capability : String} {amount : ℤ} {x : Unit} (hw : w ∈ db.windows)
    (husage : ∀ u ∈ db.toolUsage, UsageFits db u)
    (hc : mirrorToolUsage kind w.ownerUserId w.epoch capability amount db = .ok (x, db')) :
    (∃ toolUsage, db' = { db with toolUsage := toolUsage }) ∧
      (∀ u ∈ db'.toolUsage, UsageFits db u) ∧
      ∀ (c : Column) owner epoch, db'.usageTotal c.calls owner epoch =
        db.usageTotal c.calls owner epoch +
          if (owner, epoch) = w.key then c.mirrored kind amount else 0 := by
  by_cases hk : kind = .toolCall
  · simp only [mirrorToolUsage, if_pos hk] at hc
    simp only [bind_ok, pure_mk] at hc
    obtain ⟨u, db1, hcreate, u', db2, hmu, -, rfl⟩ := hc
    obtain ⟨cu, hcu, hu', rfl, hcounts⟩ := mutateToolUsage_ok hmu
    obtain ⟨hget, hcase⟩ := createOrGetToolUsage_ok hcreate
    obtain rfl : u = cu := mem_unique hget hcu
    obtain ⟨hu, huo, hue, -⟩ := Db.getToolUsage_eq_some hget
    have hkey : u.key = u'.key := by rw [hu']; rfl
    have hscope : (u.ownerUserId, u.windowEpoch) = w.key := by simp [WindowRow.key, huo, hue]
    -- the row that was looked up may be new, but then it counted nothing
    obtain ⟨⟨toolUsage, rfl⟩, husage1, hsame⟩ : (∃ toolUsage, db1 = { db with toolUsage }) ∧
        (∀ v ∈ db1.toolUsage, UsageFits db v) ∧ ∀ (c : Column) owner epoch,
          db1.usageTotal c.calls owner epoch = db.usageTotal c.calls owner epoch := by
      rcases hcase with rfl | ⟨rfl, toolUsage, hins, rfl⟩
      · exact ⟨⟨_, rfl⟩, husage, fun _ _ _ => rfl⟩
      · exact ⟨⟨_, rfl⟩, forall_insert? hins husage ⟨⟨w, hw, hscope.symm⟩, le_rfl, le_rfl⟩,
          fun c owner epoch => Db.usageTotal_insert? hins (by cases c <;> rfl) owner epoch⟩
    refine ⟨⟨_, rfl⟩, forall_put husage1 ⟨⟨w, hw, by rw [← hscope, hu']⟩, hcounts⟩,
      fun c owner epoch => ?_⟩
    refine (Db.usageTotal_put hu hkey c.calls owner epoch).trans ?_
    rw [hsame, hu', hscope]
    cases c <;> simp [Column.calls, Column.mirrored, hk]
  · simp only [mirrorToolUsage, if_neg hk, pure_mk] at hc
    obtain ⟨-, rfl⟩ := hc
    exact ⟨⟨_, rfl⟩, husage, by rintro ⟨⟩ <;> simp [Column.mirrored, hk]⟩

theorem mirrorTargets_apply {counters : WindowCounters} {amount : ℤ} {targets : WindowTargets}
    (h : mirrorTargets kind counters amount = some targets) (c : Column) :
    c.counter (targets.apply counters) = c.counter counters + c.mirrored kind amount := by
  cases kind <;> simp only [mirrorTargets, Option.some.injEq, reduceCtorEq] at h <;> subst h <;>
    cases c <;> simp [WindowTargets.apply, Column.counter, Column.mirrored]

theorem Db.getDualAccountingReceipt_insert? {c : ReceiptRow}
    {receipts : Table ReceiptRow.bridgeReceiptId} (hins : db.receipts.insert? c = some receipts)
    {taskId taskBudgetKind reservationKey : String} {kind : MirrorKind}
    (hne : c.mirrorDimension ≠ kind) :
    Db.getDualAccountingReceipt { db with receipts := receipts } taskId taskBudgetKind
        reservationKey kind =
      db.getDualAccountingReceipt taskId taskBudgetKind reservationKey kind := by
  rw [Db.getDualAccountingReceipt, Db.getDualAccountingReceipt, rows_insert? hins,
    find?_append]
  simp [ReceiptRow.source, hne]

/-- What one round of the mirror did: a settled reservation and its receipt are new, and the window
gained the amount. -/
structure MirrorRound (sha : Document → String) (source : MirrorSource) (d : MirrorDimension)
    (w w' : WindowRow) (db db' : Db) (kind : ResourceKind) (settled : ReservationRow) : Prop where
  dimension : d.resourceKind = .resource kind
  counted : ∃ targets, mirrorTargets kind w.counters d.amountAtomic = some targets ∧
    w' = { w with counters := targets.apply w.counters, revision := w.revision + 1 }
  windows : db'.windows = db.windows.put w'
  ownerKey : settled.ownerKey =
    (source.ownerUserId, "ubq2:v1:" ++ source.digest sha d.resourceKind)
  place : (settled.ownerUserId, settled.windowEpoch) = w.key
  resourceKind : settled.resourceKind = kind
  state : settled.state = .settled
  reservations : db.reservations.insert? settled = some db'.reservations
  receipts : db.receipts.insert? (source.receipt sha d (some w.epoch) (some settled)) =
    some db'.receipts
  usage : ∀ u ∈ db'.toolUsage, UsageFits db u
  calls : ∀ (c : Column) owner epoch, db'.usageTotal c.calls owner epoch =
    db.usageTotal c.calls owner epoch +
      if (owner, epoch) = w.key then c.mirrored kind d.amountAtomic else 0

variable {source : MirrorSource} {now : ℤ} {d : MirrorDimension}

/-- **One round of the mirror.**  The reservation is a new one: an old one would have its receipt,
and the receipt of this round could not have been stored. -/
theorem mirrorDimension_ok (h : Balanced db) {res : WindowRow × ReceiptRow} (hw : w ∈ db.windows)
    (howner : w.ownerUserId = source.ownerUserId)
    (hmiss : db.getDualAccountingReceipt source.taskId source.taskBudgetKind source.reservationKey
      d.resourceKind = none)
    (hc : mirrorDimension sha source d w now db = .ok (res, db')) :
    ∃ kind settled, MirrorRound sha source d w res.1 db db' kind settled := by
  rw [mirrorDimension] at hc
  simp only [↓steps_ok, bind_ok, pure_mk] at hc
  obtain ⟨kind, hkind, -, -, -, -, row, db1, hcreate, targets, htargets, w', db2, hmw, _, db3,
    hmu, settled, db4, htrans, receipt, db5, hreceipt, rfl, rfl⟩ := hc
  have hdk : d.resourceKind = .resource kind := by
    rcases hd : d.resourceKind with k | _ <;> rw [hd] at hkind <;> cases hkind
    rfl
  -- the window and the usage row
  have hdb1 : db1.windows = db.windows ∧ db1.toolUsage = db.toolUsage ∧
      db1.receipts = db.receipts := by
    rcases createOrGetReservation_ok sha hcreate with ⟨rfl, -⟩ | ⟨-, -, _, -, rfl⟩ <;>
      exact ⟨rfl, rfl, rfl⟩
  obtain ⟨current, hcur, hw', rfl⟩ := mutateWindowUsage_ok hmw
  obtain rfl := getWindow_of_mem (hdb1.1.symm ▸ hw) howner rfl hcur
  have hwk : w'.key = current.key := by rw [hw']; rfl
  have hput : w' ∈ db1.windows.put w' :=
    mem_put.2 (.inr ⟨rfl, current, hdb1.1.symm ▸ hw, hwk.symm⟩)
  have howner' : w'.ownerUserId = source.ownerUserId := by rw [hw']; exact howner
  have hepoch' : w'.epoch = current.epoch := by rw [hw']
  rw [← howner'] at hmu
  obtain ⟨⟨toolUsage, rfl⟩, husage, hcalls⟩ := mirrorToolUsage_ok hput
    (fun u hu => by
      have := h.usage u (hdb1.2.1 ▸ hu)
      exact ⟨exists_key_put.2 (hdb1.1 ▸ this.1), this.2⟩) hmu
  -- the receipt is new, hence so is the reservation
  have hdb4 : db4.receipts = db.receipts := by
    obtain ⟨_, -, ⟨-, -, rfl⟩ | ⟨-, -, rfl⟩⟩ := transitionReservation_ok htrans <;>
      exact hdb1.2.2
  obtain ⟨receipts, hrec, rfl⟩ : ∃ receipts,
      db.receipts.insert? (source.receipt sha d (some w'.epoch) (some settled)) = some receipts ∧
        db' = { db4 with receipts := receipts } := by
    rcases createOrGetDualAccountingReceipt_ok hreceipt with ⟨-, -, hfound⟩ | ⟨-, receipts, hrec, he⟩
    · rw [Db.getDualAccountingReceipt, hdb4] at hfound
      exact absurd (hmiss.symm.trans hfound) (by simp)
    · exact ⟨receipts, hdb4 ▸ hrec, he⟩
  have hnone : db.getReservation source.ownerUserId
      ("ubq2:v1:" ++ source.digest sha (.resource kind)) = none := by
    rcases hr : db.getReservation source.ownerUserId
      ("ubq2:v1:" ++ source.digest sha (.resource kind)) with _ | r
    · rfl
    · obtain ⟨hmem, -, hkey⟩ := Db.getReservation_eq_some hr
      obtain ⟨c, hc, hid⟩ := h.bridged r hmem _ hkey
      refine absurd ?_ ((insert?_eq_some.1 hrec).1 c hc)
      rw [hid, MirrorSource.receipt, hdk]
  rcases createOrGetReservation_ok sha hcreate with ⟨-, hget, -⟩ | ⟨-, hrow, reservations, hins, rfl⟩
  · exact absurd (hnone.symm.trans hget) (by simp)
  have hget := Db.getReservation_insert? hins (by rw [hrow]; exact hnone)
  rw [hrow] at hget
  obtain ⟨hsettled, rfl⟩ := transitionReservation_reserved htrans hget rfl
  have hid : settled.reservationId = row.reservationId := by rw [hsettled, hrow]
  exact ⟨kind, settled,
    { dimension := hdk
      counted := ⟨targets, htargets, hw'⟩
      windows := rfl
      ownerKey := by rw [hsettled, hdk]; rfl
      place := by rw [hsettled]; simp [WindowRow.key, ReservationIntent.row, howner]
      resourceKind := by rw [hsettled]; rfl
      state := by rw [hsettled]
      reservations := insert?_put hins hid
      receipts := hepoch' ▸ hrec
      usage := fun u hu => ⟨exists_key_put.1 (husage u hu).1, (husage u hu).2⟩
      calls := fun c o e => by
        refine (hcalls c o e).trans ?_
        rw [hwk]
        rfl }⟩

variable {settled : ReservationRow}

theorem MirrorRound.balanced (h : Balanced db) {w' : WindowRow}
    (hr : MirrorRound sha source d w w' db db' kind settled) (hw : w ∈ db.windows)
    (hone : d.resourceKind = .resource .toolCall → d.amountAtomic = 1) : Balanced db' := by
  obtain ⟨targets, htargets, hw'⟩ := hr.counted
  refine h.move (·.mirrored kind d.amountAtomic) hw (by rw [hw']; rfl) hr.windows
    ⟨fun c o e => ?_, hr.calls⟩ ?_ ?_ hr.usage ?_
  · refine (Db.toolReservations_insert? hr.reservations c.state o e).trans ?_
    simp only [ReservationRow.CountsAs, hr.resourceKind, hr.state, hr.place]
    by_cases hk : kind = .toolCall
    · cases c <;> simp [Column.state, Column.mirrored, hk, hone (hk ▸ hr.dimension)]
    · cases c <;> simp [Column.mirrored, hk]
  · rw [hw']
    exact mirrorTargets_apply htargets
  · exact forall_insert? hr.reservations h.reservationWindow ⟨w, hw, hr.place.symm⟩
  · intro x hx digest hdig
    rcases (mem_insert? hr.reservations).1 hx with hx | rfl
    · obtain ⟨c, hc, hcid⟩ := h.bridged x hx digest hdig
      exact ⟨c, (mem_insert? hr.receipts).2 (.inl hc), hcid⟩
    · refine ⟨_, (mem_insert? hr.receipts).2 (.inr rfl), ?_⟩
      have hkey : "ubq2:v1:" ++ source.digest sha d.resourceKind = "ubq2:v1:" ++ digest := by
        rw [← hdig]
        exact (Prod.mk.inj hr.ownerKey).2.symm
      rw [MirrorSource.receipt, (String.append_right_inj _).1 hkey]

/-- After a round, the window is stored and the other dimensions are as they were. -/
theorem MirrorRound.next {w' : WindowRow} (hr : MirrorRound sha source d w w' db db' kind settled)
    (hw : w ∈ db.windows) :
    w' ∈ db'.windows ∧ w'.ownerUserId = w.ownerUserId ∧
      ∀ k, k ≠ d.resourceKind → db'.getDualAccountingReceipt source.taskId source.taskBudgetKind
        source.reservationKey k = db.getDualAccountingReceipt source.taskId
          source.taskBudgetKind source.reservationKey k := by
  obtain ⟨targets, -, hw'⟩ := hr.counted
  refine ⟨?_, by rw [hw'], fun k hk => ?_⟩
  · rw [hr.windows]
    exact mem_put.2 (.inr ⟨rfl, w, hw, by rw [hw']; rfl⟩)
  · exact Eq.trans rfl (Db.getDualAccountingReceipt_insert? hr.receipts hk.symm)

/-- The dimensions a charge is mirrored in: each resource once, and one call at a time. -/
def FitsMirror (dimensions : List MirrorDimension) : Prop :=
  (dimensions.map (·.resourceKind)).Nodup ∧
    ∀ d ∈ dimensions, d.resourceKind = .resource .toolCall → d.amountAtomic = 1

theorem fitsMirror_inferenceDimensions : FitsMirror inferenceDimensions := by
  simp [FitsMirror, inferenceDimensions]

theorem fitsMirror_toolCallDimensions (capability : String) :
    FitsMirror (toolCallDimensions capability) := by
  simp [FitsMirror, toolCallDimensions]

theorem fitsMirror_usageDimensions (tokens cost : ℤ) : FitsMirror (usageDimensions tokens cost) := by
  by_cases ht : 0 < tokens <;> by_cases hc : 0 < cost <;>
    simp [FitsMirror, usageDimensions, ht, hc]

variable {dimensions : List MirrorDimension} {receipts : List ReceiptRow}

/-- The loop of the mirror: the induction is on the dimensions that are left, and carries the
window and the receipts that are still missing. -/
theorem balanced_mirrorDimensions (h : Balanced db) (hfits : FitsMirror dimensions)
    (hw : w ∈ db.windows) (howner : w.ownerUserId = source.ownerUserId)
    (hmiss : ∀ d ∈ dimensions,
      db.getDualAccountingReceipt source.taskId source.taskBudgetKind source.reservationKey
      d.resourceKind = none)
    (hc : mirrorDimensions sha source now dimensions w db = .ok (receipts, db')) :
    Balanced db' := by
  induction dimensions generalizing db w receipts with
  | nil =>
    simp only [mirrorDimensions, pure_mk] at hc
    exact hc.2 ▸ h
  | cons d rest ih =>
    obtain ⟨hnodup, hone⟩ := hfits
    rw [map_cons, nodup_cons] at hnodup
    simp only [mirrorDimensions, bind_ok, pure_mk] at hc
    obtain ⟨res, db1, hround, tail, db2, hrest, -, rfl⟩ := hc
    obtain ⟨kind, settled, hr⟩ := mirrorDimension_ok h hw howner
      (hmiss d mem_cons_self) hround
    have h1 := hr.balanced h hw (hone d mem_cons_self)
    obtain ⟨hw1, howner1, hsame⟩ := hr.next hw
    refine ih h1 ⟨hnodup.2, fun x hx => hone x (mem_cons_of_mem _ hx)⟩ hw1
      (howner1.trans howner) ?_ hrest
    intro x hx
    rw [hsame x.resourceKind fun he => hnodup.1 (he ▸ mem_map_of_mem hx)]
    exact hmiss x (mem_cons_of_mem _ hx)

variable {owner : String}

theorem requireShadowSelection_ok {policyId : String} {account a : AccountRow}
    (h : requireShadowSelection sha owner account policyId db = .ok (a, db')) :
    SameCharges db db' := by
  rw [requireShadowSelection] at h
  rcases hp : account.nextPolicyId with _ | selected
  · simp only [hp] at h
    exact selectNextPolicy_ok h
  · simp only [hp, steps_ok, pure_mk] at h
    obtain ⟨-, -, rfl⟩ := h
    exact ⟨rfl, rfl, rfl, rfl⟩

variable {settings : DualAccountingSettings}

theorem ensureShadowAccount_ok
    {a : AccountRow} (h : ensureShadowAccount sha settings owner db = .ok (a, db')) :
    SameCharges db db' := by
  rw [ensureShadowAccount] at h
  simp only [↓steps_ok, bind_ok, pure_mk] at h
  obtain ⟨policy, db1, hpolicy, account, db2, haccount, account', db3, hselect, active, db4, hactive,
    -, -, rfl⟩ := h
  obtain ⟨rfl, -⟩ := getActiveWindow_ok hactive
  exact ((createOrGetImmutablePolicy_ok hpolicy).trans (createOrGetAccount_ok haccount)).trans
    (requireShadowSelection_ok hselect)

theorem ensureActiveShadowWindow_ok
    (h : ensureActiveShadowWindow sha settings owner now db = .ok (w, db')) :
    RolledOver db db' ∧ w ∈ db'.windows ∧ w.ownerUserId = owner := by
  rw [ensureActiveShadowWindow, bind_ok] at h
  obtain ⟨account, db1, haccount, h⟩ := h
  obtain ⟨hroll, hw, howner⟩ := currentWindow_ok h
  exact ⟨(ensureShadowAccount_ok haccount).rolledOver.trans hroll, hw, howner⟩

theorem balanced_createOrGetDualAccountingReceipt (h : Balanced db) {row r : ReceiptRow}
    (hc : createOrGetDualAccountingReceipt row db = .ok (r, db')) : Balanced db' := by
  rcases createOrGetDualAccountingReceipt_ok hc with ⟨rfl, -⟩ | ⟨-, receipts, hins, rfl⟩
  · exact h
  · refine { h with bridged := fun x hx d hd => ?_ }
    obtain ⟨c, hcm, hid⟩ := h.bridged x hx d hd
    exact ⟨c, (mem_insert? hins).2 (.inl hcm), hid⟩

theorem balanced_mirrorResource (h : Balanced db) (hfits : FitsMirror dimensions)
    (hc : mirrorResource sha settings source dimensions now db = .ok (receipts, db')) :
    Balanced db' := by
  simp only [mirrorResource, steps_ok] at hc
  obtain ⟨-, -, hc⟩ := hc
  by_cases hall : ((source.receipts dimensions db).filterMap (·.2)).length = dimensions.length
  · simp only [if_pos hall, pure_mk] at hc
    exact hc.2 ▸ h
  simp only [if_neg hall, steps_ok] at hc
  obtain ⟨hnone, hc⟩ := hc
  have hmiss : ∀ d ∈ dimensions, db.getDualAccountingReceipt source.taskId source.taskBudgetKind
      source.reservationKey d.resourceKind = none := by
    intro d hd
    have := filterMap_eq_nil_iff.1 hnone (d, _) (mem_map_of_mem hd)
    exact this
  by_cases hno : dimensions.map (·.resourceKind) = [.noCharge]
  · simp only [if_pos hno] at hc
    obtain ⟨receipt, db1, hreceipt, hc⟩ := bind_ok.1 hc
    exact (pure_mk.1 hc).2 ▸ balanced_createOrGetDualAccountingReceipt h hreceipt
  · simp only [if_neg hno] at hc
    obtain ⟨w, db1, hwin, hc⟩ := bind_ok.1 hc
    obtain ⟨hroll, hw, howner⟩ := ensureActiveShadowWindow_ok hwin
    refine balanced_mirrorDimensions (h.rolledOver hroll) hfits hw howner ?_ hc
    intro d hd
    rw [Db.getDualAccountingReceipt, hroll.receipts]
    exact hmiss d hd

end Mirror

/-! ### Runs of the services -/

/-- The operations on user budgets.  Every retry of a service is a request of its own. -/
inductive Request
  | createPolicy (policy : PolicyRow)
  | createAccount (owner : String)
  | selectNextPolicy (owner : String) (expectedRevision : ℤ) (policyId : String)
  | rollover (owner : String) (expectedRevision now : ℤ)
  | bindTask (binding : TaskBindingRow)
  | reserve (enabled : Bool) (directory : Directory) (lineage : AgentLineage)
      (identity : Identity) (call : ToolCall) (arguments : List (String × String)) (now : ℤ)
  | settle (admission : Option ToolQuotaAdmission) (now : ℤ)
  | release (admission : Option ToolQuotaAdmission) (now : ℤ)
  | recover (enabled : Bool) (lineage : AgentLineage) (owner : String) (call : ToolCall)
      (arguments : List (String × String))
  | ensureShadowAccount (settings : DualAccountingSettings) (owner : String)
  | mirrorInference (settings : DualAccountingSettings) (source : MirrorSource) (now : ℤ)
  | mirrorToolCall (settings : DualAccountingSettings) (source : MirrorSource)
      (capabilityId : String) (now : ℤ)
  | mirrorUsage (settings : DualAccountingSettings) (source : MirrorSource)
      (tokens costAtomic now : ℤ)

section Serve

variable (sha : Document → String)

/-- The unit of work of a request; what it answers does not matter for the stored state. -/
def serve : Request → Tx Unit
  | .createPolicy policy => do let _ ← createOrGetImmutablePolicy policy
  | .createAccount owner => do let _ ← createOrGetAccount owner
  | .selectNextPolicy owner rev policyId => do let _ ← selectNextPolicy owner rev policyId
  | .rollover owner rev now => do let _ ← rolloverWindow owner rev now
  | .bindTask binding => do let _ ← createTaskBinding binding
  | .reserve enabled directory lineage identity call arguments now => do
      let _ ← reserveToolCall sha enabled directory lineage identity call arguments now
  | .settle admission now => do let _ ← settleToolCall sha admission now
  | .release admission now => do let _ ← releaseToolCall sha admission now
  | .recover enabled lineage owner call arguments => do
      let _ ← recoverToolCall sha enabled lineage owner call arguments
  | .ensureShadowAccount settings owner => do let _ ← ensureShadowAccount sha settings owner
  | .mirrorInference settings source now => do
      let _ ← mirrorResource sha settings source inferenceDimensions now
  | .mirrorToolCall settings source capabilityId now => do
      let _ ← mirrorResource sha settings source (toolCallDimensions capabilityId) now
  | .mirrorUsage settings source tokens costAtomic now => do
      let _ ← mirrorResource sha settings source (usageDimensions tokens costAtomic) now

/-- One step of the system: a request is served, and an aborted one changes nothing. -/
def Step (request : Request) (db db' : Db) : Prop := db' = (serve sha request).stored db

def serveAll (db : Db) : List Request → Db
  | [] => db
  | request :: rest => serveAll ((serve sha request).stored db) rest

theorem run_serveAll (db : Db) (requests : List Request) :
    Run (Step sha) db requests (serveAll sha db requests) := by
  induction requests generalizing db with
  | nil => exact .nil db
  | cons request rest ih => exact .cons rfl (ih _)

end Serve

variable {sha : Document → String}

/-- **Every operation keeps the books balanced.** -/
theorem balanced_serve {request : Request} {x : Unit}
    (h : Balanced db) (hc : serve sha request db = .ok (x, db')) : Balanced db' := by
  cases request <;> simp only [serve] at hc <;> rw [bind_ok] at hc <;>
    obtain ⟨_, db1, hop, hc⟩ := hc <;> simp only [pure_mk] at hc <;>
    obtain ⟨-, rfl⟩ := hc
  case createPolicy => exact h.rolledOver (createOrGetImmutablePolicy_ok hop).rolledOver
  case createAccount => exact h.rolledOver (createOrGetAccount_ok hop).rolledOver
  case selectNextPolicy => exact h.rolledOver (selectNextPolicy_ok hop).rolledOver
  case rollover => exact h.rolledOver (rolloverWindow_ok hop).1
  case bindTask => exact h.rolledOver (createTaskBinding_ok hop).rolledOver
  case reserve => exact balanced_reserveToolCall h hop
  case settle => exact balanced_terminalTransition h hop
  case release => exact balanced_terminalTransition h hop
  case recover => exact Respects.unchanged hop ▸ h
  case ensureShadowAccount => exact h.rolledOver (ensureShadowAccount_ok hop).rolledOver
  case mirrorInference => exact balanced_mirrorResource h fitsMirror_inferenceDimensions hop
  case mirrorToolCall => exact balanced_mirrorResource h (fitsMirror_toolCallDimensions _) hop
  case mirrorUsage => exact balanced_mirrorResource h (fitsMirror_usageDimensions _ _) hop

theorem balanced_step (request : Request) (db db' : Db)
    (h : Balanced db) (hstep : Step sha request db db') : Balanced db' := by
  rw [hstep]
  rcases stored_cases (serve sha request) db with he | ⟨x, hok⟩
  · rw [he]; exact h
  · exact balanced_serve h hok

/-- **The counters of a window are the numbers of its reservations.**  In every state reached from
empty tables by any requests of any users, for every window: the reserved counter is the number of
tool-call reservations in state `RESERVED`, the used counter the number in state `SETTLED`, the
usage rows of the window's capabilities add up to the same two numbers, and no counter is
negative. -/
theorem toolCounters_eq_reservations (sha : Document → String) {requests : List Request} {db : Db}
    (hrun : Run (Step sha) {} requests db) :
    (∀ w ∈ db.windows,
      w.counters.toolCallsReserved = db.toolReservations .reserved w.ownerUserId w.epoch ∧
      w.counters.toolCallsUsed = db.toolReservations .settled w.ownerUserId w.epoch ∧
      db.usageTotal ToolUsageRow.reservedCalls w.ownerUserId w.epoch =
        w.counters.toolCallsReserved ∧
      db.usageTotal ToolUsageRow.usedCalls w.ownerUserId w.epoch = w.counters.toolCallsUsed ∧
      0 ≤ w.counters.toolCallsReserved ∧ 0 ≤ w.counters.toolCallsUsed) ∧
    ∀ u ∈ db.toolUsage, 0 ≤ u.usedCalls ∧ 0 ≤ u.reservedCalls := by
  have h : Balanced db := hrun.invariant balanced_step balanced_empty
  refine ⟨fun w hw => ?_, fun u hu => (h.usage u hu).2⟩
  obtain ⟨hres, hur⟩ := h.windows w hw .reserved
  obtain ⟨hused, huu⟩ := h.windows w hw .used
  exact ⟨hres, hused, hur, huu, hres.ge.trans' (Int.natCast_nonneg _),
    hused.ge.trans' (Int.natCast_nonneg _)⟩

/-! A run in which one user reserves two calls and settles the first. -/

def sampleDigest : Document → String
  | .toolIdentity _ invocationId => invocationId
  | _ => "digest"

def samplePolicy : PolicyRow where
  policyId := "p1"
  ownerUserId := "u1"
  policyVersion := "v1"
  policyFingerprint := "f1"
  windowDurationSeconds := 3600
  maxToolCallsTotal := some 5
  toolLimits := []

def sampleReserve (invocationId : String) : Request :=
  .reserve true ⟨fun _ => true, fun _ => none, fun _ => none, fun _ => none⟩
    ⟨fun _ => none, fun _ _ => none, fun _ => none, fun _ _ _ _ => none⟩
    ⟨.userSession, some "u1", none, none, none⟩
    { invocationId := invocationId, capabilityId := "shell", requestFingerprint := "r" } [] 10

def sampleSettle (invocationId : String) : Request :=
  .settle (some
    { ownerUserId := "u1"
      invocationId := invocationId
      capabilityId := "shell"
      requestFingerprint := "r"
      idempotencyKey := some ("ubq3:v1:" ++ invocationId)
      reservationId := some ("ubq3r:" ++ invocationId)
      windowEpoch := some 1
      reservationState := .reserved }) 20

def sampleRequests : List Request :=
  [.createPolicy samplePolicy, .createAccount "u1", .selectNextPolicy "u1" 0 "p1",
    sampleReserve "i1", sampleReserve "i2", sampleSettle "i1"]

theorem toolCounters_sampleRequests :
    (serveAll sampleDigest {} sampleRequests).windows.rows.map
        (fun w => (w.counters.toolCallsReserved, w.counters.toolCallsUsed)) = [(1, 1)] ∧
      ∀ w ∈ (serveAll sampleDigest {} sampleRequests).windows,
        w.counters.toolCallsReserved = (serveAll sampleDigest {} sampleRequests).toolReservations
          .reserved w.ownerUserId w.epoch :=
  ⟨by decide +kernel, fun w hw =>
    ((toolCounters_eq_reservations sampleDigest (run_serveAll _ _ _)).1 w hw).1⟩

end AssistantRuntime.UserBudget

/-
**The books of the inference quota agree.**

An admission writes up to six reservations and the counters of the window in separate statements; a
settlement moves some of them, perhaps not all at once, and windows roll over in between.  That the
counters are the sums over the reservations is therefore an invariant of whole runs.  It is proved
for any number of users and any interleaving.

The reservations of a request are found by digests of its identity.  All that is asked of the digest
is that different identities have different ones.
-/

import AssistantRuntime.UserBudget.ToolAccounting

namespace AssistantRuntime.UserBudget

open Relational Uow Table List

variable {sha : Document → String} {db db' : Db}

/-! ### The books -/

def WindowCounters.usedOf (c : WindowCounters) : ResourceKind → ℤ
  | .inferenceCall => c.inferenceUsed
  | .inputToken => c.inputTokensUsed
  | .outputToken => c.outputTokensUsed
  | .totalToken => c.totalTokensUsed
  | .toolCall => c.toolCallsUsed
  | .computeUnit => c.computeUsedAtomic
  | .costUsd => c.costUsedAtomic

/-- The counter of what is reserved of a resource; input and output tokens have none. -/
def WindowCounters.reservedOf (c : WindowCounters) : ResourceKind → Option ℤ
  | .inferenceCall => some c.inferenceReserved
  | .totalToken => some c.tokensReserved
  | .toolCall => some c.toolCallsReserved
  | .computeUnit => some c.computeReservedAtomic
  | .costUsd => some c.costReservedAtomic
  | .inputToken => none
  | .outputToken => none

def ReservationRow.IsIn (r : ReservationRow) (kind : ResourceKind) (owner : String) (epoch : ℤ) :
    Prop :=
  r.resourceKind = kind ∧ r.ownerUserId = owner ∧ r.windowEpoch = epoch
  deriving Decidable

def ReservationRow.pending (r : ReservationRow) : ℤ :=
  if r.state = .reserved then r.reservedAmountAtomic else 0

def ReservationRow.settled (r : ReservationRow) : ℤ :=
  if r.state = .settled then r.settledAmountAtomic.getD 0 else 0

/-- The counter of a column; what is reserved of some resources is not counted. -/
def Column.of (counters : WindowCounters) : Column → ResourceKind → Option ℤ
  | reserved => counters.reservedOf
  | used => fun kind => some (counters.usedOf kind)

/-- What a reservation adds to a column. -/
def Column.amount : Column → ReservationRow → ℤ
  | reserved => ReservationRow.pending
  | used => ReservationRow.settled

/-- A contribution of the reservations of a resource in a window, added up. -/
def Db.tally (db : Db) (f : ReservationRow → ℤ) (kind : ResourceKind) (owner : String) (epoch : ℤ) :
    ℤ :=
  db.reservations.total fun r => if r.IsIn kind owner epoch then f r else 0

/-- What was used of a resource in a window, by its reservations. -/
def Db.settledAmount (db : Db) (kind : ResourceKind) (owner : String) (epoch : ℤ) : ℤ :=
  db.tally ReservationRow.settled kind owner epoch

theorem Db.pendingAmount_eq_tally (db : Db) (kind : ResourceKind) (owner : String) (epoch : ℤ) :
    db.pendingAmount kind owner epoch = db.tally Column.reserved.amount kind owner epoch := by
  unfold Db.pendingAmount Db.tally
  congr 1
  funext r
  by_cases hin : r.IsIn kind owner epoch
  · obtain ⟨hkind, howner, hepoch⟩ := hin
    rw [if_pos (show r.IsIn kind owner epoch from ⟨hkind, howner, hepoch⟩)]
    simp [Column.amount, ReservationRow.pending, hkind, howner, hepoch]
  · rw [if_neg hin, if_neg]
    rintro ⟨hkind, -, howner, hepoch⟩
    exact hin ⟨hkind, howner, hepoch⟩

/-- The counters of every window are the sums over its reservations. -/
structure CountersAgree (db : Db) : Prop where
  counters : ∀ w ∈ db.windows, ∀ (c : Column) kind, ∀ n ∈ c.of w.counters kind,
    n = db.tally c.amount kind w.ownerUserId w.epoch
  reservationWindow : ∀ r ∈ db.reservations, ∃ w ∈ db.windows,
    w.key = (r.ownerUserId, r.windowEpoch)

theorem CountersAgree.reserved_eq (h : CountersAgree db) {w : WindowRow} (hw : w ∈ db.windows)
    (kind : ResourceKind) {n : ℤ} (hn : n ∈ w.counters.reservedOf kind) :
    n = db.pendingAmount kind w.ownerUserId w.epoch := by
  rw [Db.pendingAmount_eq_tally]
  exact h.counters w hw .reserved kind n hn

theorem Db.tally_eq_zero {f : ReservationRow → ℤ} {kind : ResourceKind} {owner : String} {epoch : ℤ}
    (h : ∀ r ∈ db.reservations, (r.ownerUserId, r.windowEpoch) ≠ (owner, epoch)) :
    db.tally f kind owner epoch = 0 := by
  refine total_eq_zero fun r hr => if_neg ?_
  rintro ⟨-, rfl, rfl⟩
  exact h r hr rfl

/-- A rollover keeps the books: old counters stay, and a new window has no reservations. -/
theorem CountersAgree.rolledOver (h : CountersAgree db) (hr : RolledOver db db') :
    CountersAgree db' := by
  have htally : ∀ f kind owner epoch,
      db'.tally f kind owner epoch = db.tally f kind owner epoch := by
    intro f kind owner epoch
    rw [Db.tally, Db.tally, hr.reservations]
  have hnone : ∀ w' ∈ db'.windows, (∀ w ∈ db.windows, w.key ≠ w'.key) →
      ∀ r ∈ db.reservations, (r.ownerUserId, r.windowEpoch) ≠ (w'.ownerUserId, w'.epoch) := by
    intro w' _ hnew r hmem he
    obtain ⟨w, hw, hk⟩ := h.reservationWindow r hmem
    exact hnew w hw (hk.trans he)
  refine ⟨fun w' hw' c kind n hn => ?_, fun r hmem => ?_⟩
  · rw [htally]
    rcases hr.kept w' hw' with ⟨w, hw, hk, hc⟩ | ⟨hc, hnew⟩
    · obtain ⟨ho, he⟩ := Prod.mk.inj hk
      rw [← hc] at hn
      rw [← ho, ← he]
      exact h.counters w hw c kind n hn
    · rw [Db.tally_eq_zero (hnone w' hw' hnew)]
      rw [hc] at hn
      cases c <;> cases kind <;> cases hn <;> rfl
  · obtain ⟨w, hw, hk⟩ := h.reservationWindow r (hr.reservations ▸ hmem)
    obtain ⟨w', hw', hk'⟩ := hr.keys w hw
    exact ⟨w', hw', hk'.trans hk⟩

/-- The reservations of one window move, and so do its counters, by the same amounts. -/
structure Shifts (db db' : Db) (w : WindowRow) (amount : Column → ResourceKind → ℤ) : Prop where
  tally : ∀ (c : Column) kind owner epoch, db'.tally c.amount kind owner epoch =
    db.tally c.amount kind owner epoch + if (owner, epoch) = w.key then amount c kind else 0
  windows : ∀ v ∈ db'.windows, (v ∈ db.windows ∧ v.key ≠ w.key) ∨ (v.key = w.key ∧
    ∀ (c : Column) kind, c.of v.counters kind = (c.of w.counters kind).map (· + amount c kind))
  keys : ∀ v ∈ db.windows, ∃ v' ∈ db'.windows, v'.key = v.key
  places : ∀ r' ∈ db'.reservations, (∃ r ∈ db.reservations,
    (r.ownerUserId, r.windowEpoch) = (r'.ownerUserId, r'.windowEpoch)) ∨
    (r'.ownerUserId, r'.windowEpoch) = w.key

/-- **The accounting argument.** -/
theorem CountersAgree.move (h : CountersAgree db) {w : WindowRow} (hw : w ∈ db.windows)
    {amount : Column → ResourceKind → ℤ} (hs : Shifts db db' w amount) : CountersAgree db' := by
  refine ⟨fun v hv c kind n hn => ?_, fun r' hr' => ?_⟩
  · rw [hs.tally]
    rcases hs.windows v hv with ⟨hv, hne⟩ | ⟨hk, hcounters⟩
    · rw [if_neg (show (v.ownerUserId, v.epoch) ≠ w.key from hne), add_zero]
      exact h.counters v hv c kind n hn
    · obtain ⟨ho, he⟩ := Prod.mk.inj hk
      rw [hcounters, Option.mem_def, Option.map_eq_some_iff] at hn
      obtain ⟨m, hm, rfl⟩ := hn
      rw [if_pos (show (v.ownerUserId, v.epoch) = w.key from hk), h.counters w hw c kind m hm, ho,
        he]
  · rcases hs.places r' hr' with ⟨r, hr, hplace⟩ | hplace
    · obtain ⟨v, hv, hk⟩ := h.reservationWindow r hr
      obtain ⟨v', hv', hk'⟩ := hs.keys v hv
      exact ⟨v', hv', hk'.trans (hk.trans hplace)⟩
    · obtain ⟨v', hv', hk'⟩ := hs.keys w hw
      exact ⟨v', hv', hk'.trans hplace.symm⟩

/-! ### The reservations of a request -/

/-- Different identities of reservations have different digests. -/
def DistinctIdentities (sha : Document → String) : Prop :=
  ∀ lid kind lid' kind', sha (.inferenceIdentity ubq4ReservationVersion lid kind) =
    sha (.inferenceIdentity ubq4ReservationVersion lid' kind') → lid = lid' ∧ kind = kind'

theorem inferenceIdempotencyKey_inj (hsha : DistinctIdentities sha) {lid lid' : String}
    {kind kind' : ResourceKind}
    (h : inferenceIdempotencyKey sha lid kind = inferenceIdempotencyKey sha lid' kind') :
    lid = lid' ∧ kind = kind' :=
  hsha _ _ _ _ (by simpa [inferenceIdempotencyKey] using h)

def ReservationRow.logicalRequestId (r : ReservationRow) : Option String :=
  r.attribution.get "logical_request_id"

/-- A reservation is one of a request whose call is reserved in the same window. -/
def IsCharge (sha : Document → String) (db : Db) (r : ReservationRow) : Prop :=
  ∃ lid, r.logicalRequestId = some lid ∧
    r.reservationId = inferenceReservationId sha lid r.resourceKind ∧
    r.idempotencyKey = inferenceIdempotencyKey sha lid r.resourceKind ∧
    0 < r.reservedAmountAtomic ∧ (r.resourceKind = .inferenceCall → r.reservedAmountAtomic = 1) ∧
    ∃ r₀ ∈ db.reservations, r₀.reservationId = inferenceReservationId sha lid .inferenceCall ∧
      r₀.resourceKind = .inferenceCall ∧
      r₀.ownerKey = (r.ownerUserId, inferenceIdempotencyKey sha lid .inferenceCall) ∧
      r₀.windowEpoch = r.windowEpoch

/-- The invariant: counters agree with reservations, which belong to requests, and no owner has two
under one key. -/
structure InferenceAccounted (sha : Document → String) (db : Db) : Prop where
  agree : CountersAgree db
  charges : ∀ r ∈ db.reservations, IsCharge sha db r
  keys : (db.reservations.rows.map ReservationRow.ownerKey).Nodup

theorem inferenceAccounted_empty (sha : Document → String) : InferenceAccounted sha {} where
  agree :=
    { counters := fun w hw => absurd hw (not_mem_empty w)
      reservationWindow := fun r hr => absurd hr (not_mem_empty r) }
  charges r hr := absurd hr (not_mem_empty r)
  keys := nodup_nil

theorem InferenceAccounted.rolledOver (h : InferenceAccounted sha db) (hr : RolledOver db db') :
    InferenceAccounted sha db' where
  agree := h.agree.rolledOver hr
  charges r hmem := by
    obtain ⟨lid, hid, hrid, hkey, hpos, hone, r0, hr0, hrest⟩ := h.charges r (hr.reservations ▸ hmem)
    exact ⟨lid, hid, hrid, hkey, hpos, hone, r0, hr.reservations ▸ hr0, hrest⟩
  keys := by
    rw [hr.reservations]
    exact h.keys

def chargeRow (sha : Document → String) (context : InferenceContext) (owner fingerprint : String)
    (epoch : ℤ) (p : ResourceKind × ℤ) : ReservationRow :=
  (context.intent sha owner epoch fingerprint p.1 p.2).row sha

section Reserve

variable {context : InferenceContext} {owner fingerprint : String} {epoch : ℤ}
  {amounts : List (ResourceKind × ℤ)} {keys : List (ResourceKind × String)}

/-- **The loop of an admission stores one new reservation per resource.** -/
theorem reserveKinds_ok (hsha : DistinctIdentities sha) (hfresh : ∀ p ∈ amounts,
      db.getReservation owner (inferenceIdempotencyKey sha context.logicalRequestId p.1) = none)
    (hnodup : (amounts.map Prod.fst).Nodup)
    (h : reserveKinds sha context owner fingerprint epoch amounts db = .ok (keys, db')) :
    keys = amounts.map (fun p =>
        (p.1, inferenceIdempotencyKey sha context.logicalRequestId p.1)) ∧
      (∀ p ∈ amounts, 0 < p.2) ∧
      ∃ reservations, reservations.rows =
          db.reservations.rows ++ amounts.map (chargeRow sha context owner fingerprint epoch) ∧
        db' = { db with reservations := reservations } := by
  induction amounts generalizing db keys with
  | nil =>
    obtain ⟨rfl, rfl⟩ := pure_mk.1 h
    exact ⟨rfl, by simp, db'.reservations, by simp, rfl⟩
  | cons p rest ih =>
    simp only [reserveKinds, steps_ok] at h
    obtain ⟨hvalid, h⟩ := h
    obtain ⟨row, db1, hcreate, h⟩ := bind_ok.1 h
    rw [bind_ok] at h
    obtain ⟨_, db2, hverify, h⟩ := h
    obtain ⟨-, hdb2⟩ := Prod.mk.inj (ensure_ok.1 hverify).2
    subst hdb2
    obtain ⟨keys', db3, hrest, h⟩ := bind_ok.1 h
    obtain ⟨rfl, rfl⟩ := pure_mk.1 h
    -- the key of this resource is free, so a row is inserted
    have hnone := hfresh _ mem_cons_self
    rcases createOrGetReservation_ok sha hcreate with ⟨-, hfound, -⟩ | ⟨-, rfl, reservations, hins,
      rfl⟩
    · exact absurd (hnone.symm.trans hfound) (by simp)
    rw [map_cons, nodup_cons] at hnodup
    have hfresh' : ∀ p ∈ rest, Db.getReservation { db with reservations := reservations } owner
        (inferenceIdempotencyKey sha context.logicalRequestId p.1) = none := by
      intro p hp
      have hold := hfresh p (mem_cons_of_mem _ hp)
      unfold Db.getReservation at hold ⊢
      rw [rows_insert? hins, find?_append, hold, Option.none_or,
        find?_singleton, if_neg]
      simp only [decide_eq_true_eq]
      intro hkey
      have hkind := (inferenceIdempotencyKey_inj hsha (Prod.mk.inj hkey).2).2
      exact hnodup.1 (mem_map.2 ⟨p, hp, hkind.symm⟩)
    obtain ⟨rfl, hpos, reservations', hrows, rfl⟩ := ih hfresh' hnodup.2 hrest
    refine ⟨rfl, ?_, reservations', ?_, rfl⟩
    · intro p hp
      rcases mem_cons.1 hp with rfl | hp
      · exact hvalid.2.2.2.2.2.1.1
      · exact hpos p hp
    · rw [hrows, rows_insert? hins, append_assoc]
      rfl

theorem Db.tally_append {rows : List ReservationRow}
    (h : db'.reservations.rows = db.reservations.rows ++ rows) (f : ReservationRow → ℤ)
    (kind : ResourceKind) (o : String) (e : ℤ) :
    db'.tally f kind o e = db.tally f kind o e +
      (rows.map fun r => if r.IsIn kind o e then f r else 0).sum := by
  rw [Db.tally, Db.tally, Table.total, Table.total, h, map_append, sum_append]

theorem amountOf_nil (kind : ResourceKind) : amountOf kind [] = 0 := rfl

theorem amountOf_cons (kind k : ResourceKind) (amount : ℤ) :
    amountOf kind ((k, amount) :: amounts) = if kind = k then amount else amountOf kind amounts := by
  unfold amountOf
  rw [lookup_cons]
  by_cases hk : kind = k
  · simp [hk]
  · rw [if_neg hk, beq_eq_false_iff_ne.2 hk]

variable {kind : ResourceKind}

theorem amountOf_eq_zero (h : kind ∉ amounts.map Prod.fst) :
    amountOf kind amounts = 0 := by
  induction amounts with
  | nil => rfl
  | cons p rest ih =>
    rw [map_cons, mem_cons, not_or] at h
    rw [show p = (p.1, p.2) from rfl, amountOf_cons, if_neg h.1]
    exact ih h.2

theorem sum_settled_chargeRow (kind : ResourceKind) (o : String) (e : ℤ) :
    ((amounts.map (chargeRow sha context owner fingerprint epoch)).map fun r =>
      if r.IsIn kind o e then r.settled else 0).sum = 0 := by
  rw [map_map]
  refine sum_eq_zero fun x hx => ?_
  obtain ⟨p, -, rfl⟩ := mem_map.1 hx
  simp [chargeRow, ReservationIntent.row, ReservationRow.settled]

theorem sum_pending_chargeRow (hnodup : (amounts.map Prod.fst).Nodup) (kind : ResourceKind)
    (o : String) (e : ℤ) :
    ((amounts.map (chargeRow sha context owner fingerprint epoch)).map fun r =>
      if r.IsIn kind o e then r.pending else 0).sum =
      if (o, e) = (owner, epoch) then amountOf kind amounts else 0 := by
  induction amounts with
  | nil => simp [amountOf]
  | cons p rest ih =>
    obtain ⟨k, amount⟩ := p
    rw [map_cons, nodup_cons] at hnodup
    rw [map_cons, map_cons, sum_cons, ih hnodup.2, amountOf_cons]
    have hin : (chargeRow sha context owner fingerprint epoch (k, amount)).IsIn kind o e ↔
        k = kind ∧ (o, e) = (owner, epoch) := by
      simp only [chargeRow, ReservationIntent.row, InferenceContext.intent, ReservationRow.IsIn,
        Prod.mk.injEq]
      rw [@eq_comm _ owner, @eq_comm _ epoch]
    have hpending : (chargeRow sha context owner fingerprint epoch (k, amount)).pending = amount :=
      if_pos rfl
    rw [hpending]
    by_cases hplace : (o, e) = (owner, epoch)
    · by_cases hk : k = kind
      · -- no later resource is this one
        subst hk
        rw [if_pos (hin.2 ⟨rfl, hplace⟩), if_pos hplace, if_pos hplace, if_pos rfl,
          amountOf_eq_zero hnodup.1, add_zero]
      · rw [if_neg (fun hcontra => hk (hin.1 hcontra).1), if_pos hplace, if_pos hplace,
          if_neg (Ne.symm hk), zero_add]
    · rw [if_neg (fun hcontra => hplace (hin.1 hcontra).2), if_neg hplace, if_neg hplace, add_zero]

structure AmountsFit (estimate : InferenceEstimate) (amounts : List (ResourceKind × ℤ)) : Prop where
  nodup : (amounts.map Prod.fst).Nodup
  call : (.inferenceCall, 1) ∈ amounts
  calls : ∀ n, (.inferenceCall, n) ∈ amounts → n = 1
  inferenceCall : amountOf .inferenceCall amounts = 1
  inputToken : amountOf .inputToken amounts = estimate.inputTokens
  outputToken : amountOf .outputToken amounts = estimate.outputTokens
  totalToken : amountOf .totalToken amounts = estimate.totalTokens
  toolCall : amountOf .toolCall amounts = 0

theorem optionalAmount_ok {included : Bool} {estimate : Option ℤ}
    {missing : String} (h : optionalAmount kind included estimate missing db = .ok (amounts, db')) :
    db' = db ∧ (amounts = [] ∨ ∃ n, amounts = [(kind, n)]) := by
  simp only [optionalAmount, ite_ok, steps_ok, pure_mk] at h
  rcases h with ⟨-, n, -, -, rfl, rfl⟩ | ⟨-, rfl, rfl⟩
  · exact ⟨rfl, .inr ⟨n, rfl⟩⟩
  · exact ⟨rfl, .inl rfl⟩

variable {estimate : InferenceEstimate} {policy : PolicyRow}

theorem inferenceAmounts_ok (h : inferenceAmounts estimate policy db = .ok (amounts, db')) :
    db' = db ∧ AmountsFit estimate amounts := by
  obtain ⟨compute, db1, hcompute, h⟩ := bind_ok.1 h
  obtain ⟨cost, db2, hcost, h⟩ := bind_ok.1 h
  obtain ⟨rfl, rfl⟩ := pure_mk.1 h
  obtain ⟨rfl, hunits⟩ := optionalAmount_ok hcompute
  obtain ⟨rfl, husd⟩ := optionalAmount_ok hcost
  refine ⟨rfl, ?_⟩
  rcases hunits with rfl | ⟨n, rfl⟩ <;> rcases husd with rfl | ⟨m, rfl⟩ <;>
    constructor <;> simp [amountOf_cons, amountOf_nil]

theorem InferenceAccounted.fresh (h : InferenceAccounted sha db) (hsha : DistinctIdentities sha)
    {lid : String}
    (hnone : db.getReservation owner (inferenceIdempotencyKey sha lid .inferenceCall) = none)
    (kind : ResourceKind) :
    db.getReservation owner (inferenceIdempotencyKey sha lid kind) = none := by
  cases hfind : db.getReservation owner (inferenceIdempotencyKey sha lid kind) with
  | none => rfl
  | some r =>
    obtain ⟨hr, howner, hkey⟩ := Db.getReservation_eq_some hfind
    obtain ⟨lid', -, -, hkey', -, -, r0, hr0, -, -, hcall, -⟩ := h.charges r hr
    have hlid := (inferenceIdempotencyKey_inj hsha (hkey'.symm.trans hkey)).1
    rw [howner, hlid] at hcall
    exact absurd hcall (Db.getReservation_eq_none hnone r0 hr0)

theorem chargeRow_isCharge {p : ResourceKind × ℤ} (hpos : 0 < p.2)
    (hone : p.1 = .inferenceCall → p.2 = 1)
    (hcall : chargeRow sha context owner fingerprint epoch (.inferenceCall, 1) ∈ db.reservations) :
    IsCharge sha db (chargeRow sha context owner fingerprint epoch p) :=
  ⟨context.logicalRequestId, rfl, rfl, rfl, hpos, hone, _, hcall, rfl, rfl, rfl, rfl⟩

/-- The reservations after an admission still belong to requests, one under each key. -/
theorem InferenceAccounted.charged (h : InferenceAccounted sha db) (hsha : DistinctIdentities sha)
    (hfit : AmountsFit estimate amounts) (hpos : ∀ p ∈ amounts, 0 < p.2)
    (hnone : db.getReservation owner
      (inferenceIdempotencyKey sha context.logicalRequestId .inferenceCall) = none)
    (hrows : db'.reservations.rows =
      db.reservations.rows ++ amounts.map (chargeRow sha context owner fingerprint epoch)) :
    (∀ r ∈ db'.reservations, IsCharge sha db' r) ∧
      (db'.reservations.rows.map ReservationRow.ownerKey).Nodup := by
  have hmem : ∀ {r}, r ∈ db'.reservations ↔ r ∈ db.reservations ∨
      ∃ p ∈ amounts, chargeRow sha context owner fingerprint epoch p = r := by
    intro r
    rw [mem_def, hrows, mem_append, mem_map, mem_def]
  refine ⟨fun r hr => ?_, ?_⟩
  · rcases hmem.1 hr with hold | ⟨p, hp, rfl⟩
    · obtain ⟨lid, hid, hrid, hkey, hamount, hone, r0, hr0, hrest⟩ := h.charges r hold
      exact ⟨lid, hid, hrid, hkey, hamount, hone, r0, hmem.2 (.inl hr0), hrest⟩
    · refine chargeRow_isCharge (hpos p hp) (fun hk => ?_) (hmem.2 (.inr ⟨_, hfit.call, rfl⟩))
      exact hfit.calls p.2 (hk ▸ hp)
  · rw [hrows, map_append, nodup_append]
    refine ⟨h.keys, ?_, ?_⟩
    · have hkeys : (amounts.map (chargeRow sha context owner fingerprint epoch)).map
          ReservationRow.ownerKey = (amounts.map Prod.fst).map fun kind =>
            (owner, inferenceIdempotencyKey sha context.logicalRequestId kind) := by
        rw [map_map, map_map]
        rfl
      rw [hkeys]
      refine hfit.nodup.map fun kind kind' hk => ?_
      exact (inferenceIdempotencyKey_inj hsha (Prod.mk.inj hk).2).2
    · intro k hk k' hk' he
      obtain ⟨r, hr, rfl⟩ := mem_map.1 hk
      obtain ⟨_, hnew, rfl⟩ := mem_map.1 hk'
      obtain ⟨p, -, rfl⟩ := mem_map.1 hnew
      exact Db.getReservation_eq_none (h.fresh hsha hnone p.1) r hr he

/-- What an admission adds to the counters. -/
def reserveShift (amounts : List (ResourceKind × ℤ)) : Column → ResourceKind → ℤ
  | .reserved, kind => amountOf kind amounts
  | .used, _ => 0

theorem reservedTargets_apply (hfit : AmountsFit estimate amounts) (counters : WindowCounters)
    (c : Column) (kind : ResourceKind) :
    c.of ((reservedTargets counters estimate amounts).apply counters) kind =
      (c.of counters kind).map (· + reserveShift amounts c kind) := by
  have hoptional : ∀ current n : ℤ, (if n ≠ 0 then some (current + n) else none).getD current =
      current + n := by
    intro current n
    by_cases hn : n = 0
    · simp [hn]
    · simp [hn]
  cases c with
  | used =>
    cases kind <;>
      simp [Column.of, reserveShift, WindowCounters.usedOf, reservedTargets, WindowTargets.apply]
  | reserved =>
    cases kind with
    | computeUnit | costUsd => exact congrArg some (hoptional _ _)
    | inputToken | outputToken => rfl
    | inferenceCall | totalToken | toolCall =>
      simp [Column.of, reserveShift, WindowCounters.reservedOf, reservedTargets,
        WindowTargets.apply, hfit.inferenceCall, hfit.totalToken, hfit.toolCall]

/-! ### Admission -/

def PolicyRow.inferenceMaximum (p : PolicyRow) : ResourceKind → Option ℤ
  | .inferenceCall => p.maxInferenceCalls
  | .inputToken => p.maxInputTokens
  | .outputToken => p.maxOutputTokens
  | .totalToken => p.maxTotalTokens
  | .computeUnit => p.maxComputeAtomic
  | .costUsd => p.maxCostUsdAtomic
  | .toolCall => none

/-- What is used and pending in the window of an admission is within the policy of the window. -/
def WithinPolicy (db : Db) (a : InferenceAdmission) : Prop :=
  ∃ w p, db.getWindow a.ownerUserId a.windowEpoch = some w ∧
    db.getPolicy w.ownerUserId w.governingPolicyId = some p ∧
    ∀ kind, ∀ max ∈ p.inferenceMaximum kind,
      w.counters.usedOf kind + db.pendingAmount kind a.ownerUserId a.windowEpoch ≤ max

/-- The reservations that a handle names are stored, one per resource, in its window. -/
structure InferenceAdmission.Sound (db : Db) (a : InferenceAdmission) : Prop where
  nodup : (a.reservationKeys.map Prod.fst).Nodup
  rows : ∀ p ∈ a.reservationKeys, ∃ r ∈ db.reservations,
    r.ownerKey = (a.ownerUserId, p.2) ∧ r.resourceKind = p.1 ∧ r.windowEpoch = a.windowEpoch

theorem requireInferenceQuota_ok {w : WindowRow} (h : CountersAgree db) (hw : w ∈ db.windows)
    (hfit : AmountsFit estimate amounts) {u : Unit}
    (hq : requireInferenceQuota policy w.counters
      (db.pendingAmount .inputToken w.ownerUserId w.epoch)
      (db.pendingAmount .outputToken w.ownerUserId w.epoch) estimate amounts db = .ok (u, db')) :
    db' = db ∧ ∀ kind, ∀ max ∈ policy.inferenceMaximum kind,
      w.counters.usedOf kind + (db.pendingAmount kind w.ownerUserId w.epoch +
        amountOf kind amounts) ≤ max := by
  simp only [requireInferenceQuota, requireWithin, steps_ok, ensure_ok, Prod.mk.injEq] at hq
  obtain ⟨hcall, hinput, houtput, htotal, hcompute, hcost, -, hdb⟩ := hq
  refine ⟨hdb, fun kind max hmax => ?_⟩
  cases kind with
  | inferenceCall =>
    rw [← h.reserved_eq hw .inferenceCall rfl, hfit.inferenceCall, ← add_assoc]
    exact hcall max hmax
  | inputToken =>
    rw [hfit.inputToken, ← add_assoc]
    exact hinput max hmax
  | outputToken =>
    rw [hfit.outputToken, ← add_assoc]
    exact houtput max hmax
  | totalToken =>
    rw [← h.reserved_eq hw .totalToken rfl, hfit.totalToken, ← add_assoc]
    exact htotal max hmax
  | computeUnit =>
    rw [← h.reserved_eq hw .computeUnit rfl, ← add_assoc]
    exact hcompute max hmax
  | costUsd =>
    rw [← h.reserved_eq hw .costUsd rfl, ← add_assoc]
    exact hcost max hmax
  | toolCall => cases hmax

theorem sumPendingReservationAmount_ok {n : ℤ}
    (h : sumPendingReservationAmount owner epoch kind db = .ok (n, db')) :
    db' = db ∧ n = db.pendingAmount kind owner epoch := by
  simp only [sumPendingReservationAmount, steps_ok, pure_ok, Prod.mk.injEq] at h
  exact ⟨h.2.2, h.2.1⟩

theorem shifts_of_reserve {w : WindowRow} {rev : ℤ} (hfit : AmountsFit estimate amounts)
    (hrows : db'.reservations.rows = db.reservations.rows ++
      amounts.map (chargeRow sha context w.ownerUserId fingerprint w.epoch))
    (hwindows : db'.windows = db.windows.put { w with
      counters := (reservedTargets w.counters estimate amounts).apply w.counters,
      revision := rev }) :
    Shifts db db' w (reserveShift amounts) where
  tally c kind o e := by
    rw [Db.tally_append hrows]
    cases c with
    | reserved => exact congrArg _ (sum_pending_chargeRow hfit.nodup kind o e)
    | used => exact congrArg _ ((sum_settled_chargeRow kind o e).trans (ite_self 0).symm)
  windows v hv := by
    rw [hwindows] at hv
    rcases mem_put.1 hv with ⟨hv, hne⟩ | ⟨rfl, -⟩
    · exact .inl ⟨hv, hne⟩
    · exact .inr ⟨rfl, reservedTargets_apply hfit w.counters⟩
  keys v hv := by
    rw [hwindows]
    exact exists_key_put.2 ⟨v, hv, rfl⟩
  places r hr := by
    rw [mem_def, hrows, mem_append] at hr
    rcases hr with hr | hr
    · exact .inl ⟨r, hr, rfl⟩
    · obtain ⟨p, -, rfl⟩ := mem_map.1 hr
      exact .inr rfl

variable {a : InferenceAdmission} {now : ℤ}

/-- **A new admission keeps the books, returns a sound handle and is within the policy.** -/
theorem admitInference_ok (h : InferenceAccounted sha db) (hsha : DistinctIdentities sha)
    {account : AccountRow}
    (hnone : db.getReservation owner
      (inferenceIdempotencyKey sha context.logicalRequestId .inferenceCall) = none)
    (hadmitted : admitInference sha context estimate owner fingerprint account now db = .ok (a,
      db')) : InferenceAccounted sha db' ∧ a.Sound db' ∧ WithinPolicy db' a ∧
      ∀ r ∈ db.reservations, r ∈ db'.reservations := by
  unfold admitInference at hadmitted
  obtain ⟨w, db1, hcurrent, hadmitted⟩ := bind_ok.1 hadmitted
  obtain ⟨hrolled, hw, rfl⟩ := currentWindow_ok hcurrent
  have h1 := h.rolledOver hrolled
  rw [← hrolled.reservations]
  have hnone1 : db1.getReservation w.ownerUserId
      (inferenceIdempotencyKey sha context.logicalRequestId .inferenceCall) = none := by
    unfold Db.getReservation at hnone ⊢
    rwa [hrolled.reservations]
  simp only [steps_ok] at hadmitted
  obtain ⟨policy, hpolicy, -, hadmitted⟩ := hadmitted
  rw [bind_ok] at hadmitted
  obtain ⟨amounts, db2, hamounts, hadmitted⟩ := hadmitted
  obtain ⟨rfl, hfit⟩ := inferenceAmounts_ok hamounts
  rw [bind_ok] at hadmitted
  obtain ⟨pendingInput, db2, hinput, hadmitted⟩ := hadmitted
  obtain ⟨rfl, rfl⟩ := sumPendingReservationAmount_ok hinput
  rw [bind_ok] at hadmitted
  obtain ⟨pendingOutput, db2, houtput, hadmitted⟩ := hadmitted
  obtain ⟨rfl, rfl⟩ := sumPendingReservationAmount_ok houtput
  rw [bind_ok] at hadmitted
  obtain ⟨u, db2, hquota, hadmitted⟩ := hadmitted
  obtain ⟨rfl, hwithin⟩ := requireInferenceQuota_ok h1.agree hw hfit hquota
  obtain ⟨keys, db3, hkeys, hadmitted⟩ := bind_ok.1 hadmitted
  have hfresh := fun (p : ResourceKind × ℤ) (_ : p ∈ amounts) => h1.fresh hsha hnone1 p.1
  obtain ⟨rfl, hpos, reservations, hrows, rfl⟩ := reserveKinds_ok hsha hfresh hfit.nodup hkeys
  obtain ⟨w', db4, hmutate, hadmitted⟩ := bind_ok.1 hadmitted
  obtain ⟨rfl, rfl⟩ := pure_mk.1 hadmitted
  obtain ⟨current, hcurrent, rfl, hdb'⟩ := mutateWindowUsage_ok hmutate
  obtain rfl := getWindow_of_mem (by exact hw) rfl rfl hcurrent
  have hrows' : db'.reservations.rows = db2.reservations.rows ++
      amounts.map (chargeRow sha context current.ownerUserId fingerprint current.epoch) := by
    rw [hdb']
    exact hrows
  have hshift := shifts_of_reserve hfit hrows' (congrArg Db.windows hdb')
  have hcharged := h1.charged hsha hfit hpos hnone1 hrows'
  refine ⟨⟨h1.agree.move hw hshift, hcharged.1, hcharged.2⟩, ⟨?_, ?_⟩, ?_, ?_⟩
  · rw [map_map]
    exact hfit.nodup
  · intro q hq
    obtain ⟨p, hp, rfl⟩ := mem_map.1 hq
    refine ⟨chargeRow sha context current.ownerUserId fingerprint current.epoch p, ?_, rfl, rfl, rfl⟩
    rw [mem_def, hrows']
    exact mem_append_right _ (mem_map_of_mem hp)
  · have hpolicies : db'.policies = db2.policies := by rw [hdb']
    have hwindow : db'.getWindow current.ownerUserId current.epoch = some { current with
        counters := (reservedTargets current.counters estimate amounts).apply current.counters,
        revision := current.revision + 1 } := by
      rw [hdb']
      exact find?_put_self hcurrent
    refine ⟨_, policy, hwindow, ?_, fun kind max hmax => ?_⟩
    · unfold Db.getPolicy at hpolicy ⊢
      rw [hpolicies]
      exact (Option.filter_eq_some_iff.1 hpolicy).1
    · have hused := Option.some.inj (reservedTargets_apply hfit current.counters .used kind)
      have hpending := hshift.tally .reserved kind current.ownerUserId current.epoch
      rw [if_pos (show (current.ownerUserId, current.epoch) = current.key from rfl),
        ← Db.pendingAmount_eq_tally, ← Db.pendingAmount_eq_tally] at hpending
      simp only [hused, hpending, reserveShift, add_zero]
      exact hwithin kind max hmax
  · intro r hr
    rw [mem_def, hrows']
    exact mem_append_left _ hr

/-- The loop of a repeated request finds every reservation and changes nothing. -/
theorem replayKinds_ok
    (h : replayKinds sha context owner fingerprint epoch amounts db = .ok (keys, db')) :
    db' = db ∧ keys.map Prod.fst = amounts.map Prod.fst ∧ ∀ q ∈ keys, ∃ r ∈ db.reservations,
      r.ownerKey = (owner, q.2) ∧ r.resourceKind = q.1 ∧ r.windowEpoch = epoch := by
  induction amounts generalizing keys db' with
  | nil =>
    obtain ⟨rfl, rfl⟩ := pure_mk.1 h
    exact ⟨rfl, rfl, by simp⟩
  | cons p rest ih =>
    simp only [replayKinds, verifyInferenceRow, steps_ok] at h
    obtain ⟨row, hrow, -, hverify, h⟩ := h
    obtain ⟨keys', db1, hrest, h⟩ := bind_ok.1 h
    obtain ⟨rfl, rfl⟩ := pure_mk.1 h
    obtain ⟨rfl, hkinds, hrows⟩ := ih hrest
    refine ⟨rfl, by rw [map_cons, map_cons, hkinds], fun q hq => ?_⟩
    rcases mem_cons.1 hq with rfl | hq
    · obtain ⟨hmem, howner, hkey⟩ := Db.getReservation_eq_some hrow
      exact ⟨row, hmem, Prod.ext howner hkey, hverify.2.2.2.2.1, hverify.2.2.1⟩
    · exact hrows q hq

/-- A repeated request changes nothing and returns a sound handle. -/
theorem replayInference_ok {existing : ReservationRow}
    (h : replayInference sha context estimate owner fingerprint existing db = .ok (a, db')) :
    db' = db ∧ a.Sound db ∧ a.replayed = true := by
  simp only [replayInference, steps_ok] at h
  obtain ⟨-, window, -, policy, -, h⟩ := h
  rw [bind_ok] at h
  obtain ⟨amounts, db1, hamounts, h⟩ := h
  obtain ⟨rfl, hfit⟩ := inferenceAmounts_ok hamounts
  obtain ⟨keys, db2, hkeys, h⟩ := bind_ok.1 h
  obtain ⟨rfl, rfl⟩ := pure_mk.1 h
  obtain ⟨rfl, hkinds, hrows⟩ := replayKinds_ok hkeys
  refine ⟨rfl, ⟨?_, hrows⟩, rfl⟩
  rw [hkinds]
  exact hfit.nodup

variable {directory : Directory}

/-- What a reserve call did, whether it admitted or repeated. -/
structure Reserved (sha : Document → String) (db db' : Db) (a : InferenceAdmission) : Prop where
  accounted : InferenceAccounted sha db'
  sound : a.Sound db'
  kept : ∀ r ∈ db.reservations, r ∈ db'.reservations
  within : a.replayed = false → WithinPolicy db' a

variable {lineage : InferenceLineage}

theorem reserveEstimated_ok (h : InferenceAccounted sha db) (hsha : DistinctIdentities sha)
    (hr : reserveEstimated sha directory lineage context estimate fingerprint now db = .ok (a,
      db')) :
    Reserved sha db db' a := by
  unfold reserveEstimated at hr
  rw [bind_ok] at hr
  obtain ⟨owner, db1, howner, hr⟩ := hr
  obtain rfl := Respects.unchanged howner
  rw [reads_bind_ok] at hr
  rcases hfind : db1.getReservation owner
    (inferenceIdempotencyKey sha context.logicalRequestId .inferenceCall) with _ | existing
  · simp only [hfind] at hr
    rw [bind_ok] at hr
    obtain ⟨u, db2, hhistory, hr⟩ := hr
    obtain rfl := Respects.unchanged hhistory
    simp only [steps_ok] at hr
    obtain ⟨account, -, hr⟩ := hr
    obtain ⟨haccounted, hsound, hwithin, hkept⟩ := admitInference_ok h hsha hfind hr
    exact ⟨haccounted, hsound, hkept, fun _ => hwithin⟩
  · simp only [hfind] at hr
    obtain ⟨rfl, hsound, hreplayed⟩ := replayInference_ok hr
    exact ⟨h, hsound, fun r hmem => hmem, fun hfalse => absurd (hreplayed.symm.trans hfalse) (by simp)⟩

/-- **A reserve call keeps the books.** -/
theorem reserveInference_ok (h : InferenceAccounted sha db) (hsha : DistinctIdentities sha)
    {settings : InferenceQuotaSettings} {asked : Option InferenceContext} {body : InferenceBody}
    {streamingMode : Bool} {answer : Option InferenceAdmission}
    (hr : reserveInference sha settings directory lineage asked body streamingMode now db =
      .ok (answer, db')) :
    (answer = none ∧ db' = db) ∨ ∃ a, answer = some a ∧ Reserved sha db db' a := by
  unfold reserveInference at hr
  by_cases henabled : settings.enabled = false
  · rw [if_pos henabled] at hr
    obtain ⟨rfl, rfl⟩ := pure_mk.1 hr
    exact .inl ⟨rfl, rfl⟩
  · simp only [if_neg henabled, steps_ok, logicalFingerprint, bind_assoc, pure_bind] at hr
    obtain ⟨context, -, -, -, hr⟩ := hr
    rw [bind_ok] at hr
    obtain ⟨estimate, db1, hestimate, hr⟩ := hr
    obtain rfl := Respects.unchanged hestimate
    obtain ⟨a, db2, hr, hanswer⟩ := bind_ok.1 hr
    obtain ⟨rfl, rfl⟩ := pure_mk.1 hanswer
    exact .inr ⟨a, rfl, reserveEstimated_ok h hsha hr⟩

end Reserve

end AssistantRuntime.UserBudget

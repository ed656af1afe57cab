/-
**Settling inferences, and whole runs of the inference quota.**

A settlement reads the window and the reservations of a handle, updates the window, and then moves
the reservations one by one.  Along that loop the sums over the reservations move by what the window
has moved already.  A handle names at most one reservation per resource, and what is reserved of a
resource is the sum over its pending reservations, so that no counter can underflow.

Main results:

* `settleSuccess_ok` — a settlement keeps the books;
* `inference_accounted` — **in every reachable state the counters are the sums of the reservations,
  no settlement underflows, every request is charged in one window, and every admission is within
  the policy**.
-/

import AssistantRuntime.UserBudget.InferenceAccounting

namespace AssistantRuntime.UserBudget

open Relational Uow Table List

variable {sha : Document → String} {db db' : Db}

/-! ### The reservations of a handle -/

/-- A reservation without the columns that a settlement writes. -/
def ReservationRow.terms (r : ReservationRow) : ReservationRow :=
  { r with state := .reserved, settledAmountAtomic := none, settledAt := none, revision := 0 }

/-- The reservations are the same, up to what a settlement writes. -/
def Carried (db db' : Db) : Prop :=
  db'.reservations.rows.map ReservationRow.terms = db.reservations.rows.map ReservationRow.terms

variable {r : ReservationRow}

theorem Carried.mem (h : Carried db db') (hr : r ∈ db.reservations) :
    ∃ r' ∈ db'.reservations, r'.terms = r.terms := by
  have hmem : r.terms ∈ db'.reservations.rows.map ReservationRow.terms := by
    rw [h]
    exact mem_map_of_mem hr
  obtain ⟨r', hr', he⟩ := mem_map.1 hmem
  exact ⟨r', hr', he⟩

theorem Carried.symm (h : Carried db db') : Carried db' db := Eq.symm h

theorem Carried.ownerKeys (h : Carried db db') :
    db'.reservations.rows.map ReservationRow.ownerKey =
      db.reservations.rows.map ReservationRow.ownerKey := by
  have hterms := congrArg (List.map ReservationRow.ownerKey) h
  rw [map_map, map_map] at hterms
  exact hterms

theorem ReservationRow.columns_of_terms {r r' : ReservationRow} (h : r'.terms = r.terms) :
    r'.reservationId = r.reservationId ∧ r'.ownerKey = r.ownerKey ∧
      r'.windowEpoch = r.windowEpoch ∧ r'.resourceKind = r.resourceKind ∧
      r'.reservedAmountAtomic = r.reservedAmountAtomic ∧ r'.attribution = r.attribution := by
  simp only [terms, ReservationRow.mk.injEq] at h
  obtain ⟨hid, howner, hepoch, hkey, hkind, -, hamount, -, -, hattribution, -⟩ := h
  exact ⟨hid, Prod.ext howner hkey, hepoch, hkind, hamount, hattribution⟩

/-- Reservations that are carried along still belong to requests, one under each key. -/
theorem InferenceAccounted.carried (h : InferenceAccounted sha db) (hc : Carried db db')
    (hagree : CountersAgree db') : InferenceAccounted sha db' where
  agree := hagree
  charges r' hr' := by
    obtain ⟨r, hr, hterms⟩ := hc.symm.mem hr'
    obtain ⟨hid, hkey, hepoch, hkind, hamount, hattribution⟩ :=
      ReservationRow.columns_of_terms hterms
    obtain ⟨howner, hidem⟩ := Prod.mk.inj hkey
    obtain ⟨lid, hlid, hrid, hikey, hpos, hone, r0, hr0, hrid0, hkind0, hkey0, hepoch0⟩ :=
      h.charges r hr
    obtain ⟨r₁, hr1, hterms1⟩ := hc.mem hr0
    obtain ⟨hid1, hkey1, hepoch1, hkind1, -, -⟩ := ReservationRow.columns_of_terms hterms1
    refine ⟨lid, ?_, ?_, ?_, ?_, ?_, r₁, hr1, hid1.trans hrid0, hkind1.trans hkind0, ?_, ?_⟩
    · rw [ReservationRow.logicalRequestId, ← hattribution]
      exact hlid
    · rw [← hid, ← hkind]
      exact hrid
    · rw [← hidem, ← hkind]
      exact hikey
    · rw [← hamount]
      exact hpos
    · rw [← hamount, ← hkind]
      exact hone
    · rw [hkey1, hkey0, howner]
    · rw [hepoch1, hepoch0, hepoch]
  keys := by
    rw [hc.ownerKeys]
    exact h.keys

variable {a : InferenceAdmission}

theorem InferenceAdmission.Sound.carried (h : a.Sound db) (hc : Carried db db') : a.Sound db' where
  nodup := h.nodup
  rows p hp := by
    obtain ⟨r, hr, hkey, hkind, hepoch⟩ := h.rows p hp
    obtain ⟨r', hr', hterms⟩ := hc.mem hr
    obtain ⟨-, hkey', hepoch', hkind', -, -⟩ := ReservationRow.columns_of_terms hterms
    exact ⟨r', hr', hkey'.trans hkey, hkind'.trans hkind, hepoch'.trans hepoch⟩

/-- The reservations that a settlement is about to move: pending ones of the handle, at most one of
a resource. -/
structure Ready (db : Db) (owner : String) (epoch : ℤ) (transitions : List Settled) : Prop where
  nodup : (transitions.map Settled.kind).Nodup
  stored : ∀ s ∈ transitions, s.row ∈ db.reservations
  place : ∀ s ∈ transitions, s.row.IsIn s.kind owner epoch
  pending : ∀ s ∈ transitions, s.row.state = .reserved
  noToolCall : ∀ s ∈ transitions, s.kind ≠ .toolCall

variable {usage : InferenceUsage}

theorem settleKind_ok {kind : ResourceKind}
    {key : String} {t : Settled} (h : settleKind a usage kind key db = .ok (some t, db')) :
    t.kind = kind ∧ db.getReservation a.ownerUserId key = some t.row ∧ t.row.state = .reserved ∧
      t.kind ≠ .toolCall := by
  simp only [settleKind, steps_ok] at h
  obtain ⟨row, hrow, -, actual, hactual, h⟩ := h
  have htool : kind ≠ .toolCall := by
    rintro rfl
    cases hactual
  rcases actual with _ | n
  · cases pure_ok.1 h
  · by_cases hsettled : row.state = .settled
    · simp only [if_pos hsettled, steps_ok] at h
      cases pure_ok.1 h.2.2
    · simp only [if_neg hsettled, steps_ok] at h
      obtain ⟨-, hreserved, h⟩ := h
      cases pure_ok.1 h
      exact ⟨rfl, hrow, hreserved, htool⟩

variable {transitions : List Settled}

theorem settleKinds_ok {keys : List (ResourceKind × String)}
    (h : settleKinds a usage keys db = .ok (transitions, db')) :
    (transitions.map Settled.kind).Sublist (keys.map Prod.fst) ∧
      ∀ s ∈ transitions, ∃ p ∈ keys, s.kind = p.1 ∧
        db.getReservation a.ownerUserId p.2 = some s.row ∧ s.row.state = .reserved ∧
        s.kind ≠ .toolCall := by
  induction keys generalizing transitions db' with
  | nil =>
    obtain ⟨rfl, rfl⟩ := pure_mk.1 h
    exact ⟨.slnil, by simp⟩
  | cons p rest ih =>
    obtain ⟨kind, key⟩ := p
    rw [settleKinds, bind_ok] at h
    obtain ⟨settled, db1, hkind, h⟩ := h
    obtain rfl := Respects.unchanged hkind
    obtain ⟨ts, db2, hrest, h⟩ := bind_ok.1 h
    obtain ⟨rfl, rfl⟩ := pure_mk.1 h
    obtain ⟨hsub, hall⟩ := ih hrest
    have hlater : ∀ s ∈ ts, ∃ p ∈ (kind, key) :: rest, s.kind = p.1 ∧
        db1.getReservation a.ownerUserId p.2 = some s.row ∧ s.row.state = .reserved ∧
        s.kind ≠ .toolCall := by
      intro s hs
      obtain ⟨p, hp, hrow⟩ := hall s hs
      exact ⟨p, mem_cons_of_mem _ hp, hrow⟩
    rcases settled with _ | t
    · exact ⟨hsub.cons _, hlater⟩
    · obtain ⟨hk, hfind, hstate, htool⟩ := settleKind_ok hkind
      refine ⟨?_, fun s hs => ?_⟩
      · rw [Option.toList_some, singleton_append, map_cons, map_cons, hk]
        exact hsub.cons_cons _
      · rcases mem_cons.1 hs with rfl | hs
        · exact ⟨_, mem_cons_self .., hk, hfind, hstate, htool⟩
        · exact hlater s hs

theorem InferenceAdmission.Sound.ready (hs : a.Sound db) (h : InferenceAccounted sha db)
    (hkinds : settleKinds a usage a.reservationKeys db = .ok (transitions, db')) :
    Ready db a.ownerUserId a.windowEpoch transitions := by
  obtain ⟨hsub, hall⟩ := settleKinds_ok hkinds
  refine ⟨hs.nodup.sublist hsub, fun s hmem => ?_, fun s hmem => ?_, fun s hmem => ?_,
    fun s hmem => ?_⟩
  all_goals obtain ⟨p, hp, hkind, hfind, hstate, htool⟩ := hall s hmem
  · exact (Db.getReservation_eq_some hfind).1
  · -- the handle and the lookup mean the same reservation
    obtain ⟨r, hr, hkey, hrkind, hepoch⟩ := hs.rows p hp
    obtain ⟨hrow, howner, hidem⟩ := Db.getReservation_eq_some hfind
    have hsame : s.row = r :=
      inj_on_of_nodup_map h.keys hrow hr ((Prod.ext howner hidem).trans hkey.symm)
    rw [hsame, hkind]
    exact ⟨hrkind, (Prod.mk.inj hkey).1, hepoch⟩
  · exact hstate
  · exact htool

/-! ### Moving the reservations -/

section Moving

variable {owner : String} {epoch now : ℤ} {transitions : List Settled}

theorem reservedDecrement_cons (s : Settled) (rest : List Settled) (kind : ResourceKind) :
    reservedDecrement (s :: rest) kind =
      (if s.kind = kind then s.row.reservedAmountAtomic else 0) + reservedDecrement rest kind := by
  unfold reservedDecrement
  by_cases hk : s.kind = kind <;> simp [hk]

theorem deltas_eq_zero {kind : ResourceKind} (h : kind ∉ transitions.map Settled.kind) :
    usedDelta transitions kind = 0 ∧ reservedDecrement transitions kind = 0 := by
  have hnil : transitions.filter (·.kind = kind) = [] := by
    rw [filter_eq_nil_iff]
    intro s hs hk
    exact h (mem_map.2 ⟨s, hs, by simpa using hk⟩)
  rw [usedDelta, reservedDecrement, hnil]
  exact ⟨rfl, rfl⟩

/-- **No counter can underflow**: what is taken from it is one of the pending reservations that it
is the sum of. -/
theorem Ready.decrement_le (h : Ready db owner epoch transitions)
    (hpos : ∀ r ∈ db.reservations, 0 ≤ r.reservedAmountAtomic) (kind : ResourceKind) :
    reservedDecrement transitions kind ≤ db.tally ReservationRow.pending kind owner epoch := by
  have hnonneg : ∀ r ∈ db.reservations,
      0 ≤ if r.IsIn kind owner epoch then r.pending else 0 := by
    intro r hr
    have := hpos r hr
    unfold ReservationRow.pending
    split_ifs <;> omega
  induction transitions with
  | nil => exact total_nonneg hnonneg
  | cons s rest ih =>
    have hmem : s ∈ s :: rest := mem_cons_self ..
    have hnodup := h.nodup
    rw [map_cons, nodup_cons] at hnodup
    rw [reservedDecrement_cons]
    by_cases hk : s.kind = kind
    · -- no other reservation of this resource is moved
      rw [if_pos hk, (deltas_eq_zero (hk ▸ hnodup.1)).2, add_zero]
      have hin : s.row.IsIn kind owner epoch := hk ▸ h.place s hmem
      have hle := single_le_sum
        (fun x hx => by
          obtain ⟨r, hr, rfl⟩ := mem_map.1 hx
          exact hnonneg r hr)
        _ (mem_map_of_mem (h.stored s hmem))
      rw [if_pos hin, ReservationRow.pending, if_pos (h.pending s hmem)] at hle
      exact hle
    · rw [if_neg hk, zero_add]
      exact ih ⟨hnodup.2, fun t ht => h.stored t (mem_cons_of_mem _ ht),
        fun t ht => h.place t (mem_cons_of_mem _ ht),
        fun t ht => h.pending t (mem_cons_of_mem _ ht),
        fun t ht => h.noToolCall t (mem_cons_of_mem _ ht)⟩

/-- What the loop over the reservations does to the sums over them. -/
structure Moved (db db' : Db) (place : String × ℤ) (amount : Column → ResourceKind → ℤ) :
    Prop where
  carried : Carried db db'
  windows : db'.windows = db.windows
  tally : ∀ (c : Column) kind o e, db'.tally c.amount kind o e =
    db.tally c.amount kind o e + if (o, e) = place then amount c kind else 0

/-- What the settlement of one reservation adds to the counters. -/
def Settled.shift (s : Settled) : Column → ResourceKind → ℤ
  | .reserved, kind => -(if s.kind = kind then s.row.reservedAmountAtomic else 0)
  | .used, kind => if s.kind = kind then s.actual else 0

def settleShift (transitions : List Settled) : Column → ResourceKind → ℤ
  | .reserved, kind => -reservedDecrement transitions kind
  | .used, kind => usedDelta transitions kind

theorem settleShift_cons (s : Settled) (rest : List Settled) :
    settleShift (s :: rest) = fun c kind => s.shift c kind + settleShift rest c kind := by
  funext c kind
  cases c with
  | reserved =>
    simp only [settleShift, Settled.shift, reservedDecrement_cons]
    ring
  | used => by_cases hk : s.kind = kind <;> simp [settleShift, Settled.shift, usedDelta, hk]

theorem moved_of_transition (hkeys : (db.reservations.rows.map ReservationRow.ownerKey).Nodup)
    {s : Settled} (hstored : s.row ∈ db.reservations) (hplace : s.row.IsIn s.kind owner epoch)
    (hpending : s.row.state = .reserved) {r : ReservationRow}
    (h : transitionReservation owner s.row.idempotencyKey s.row.revision .settled (some s.actual)
      (some now) db = .ok (r, db')) :
    Moved db db' (owner, epoch) s.shift ∧
      ∀ x ∈ db.reservations, x ≠ s.row → x ∈ db'.reservations := by
  obtain ⟨current, hfind, hcases⟩ := transitionReservation_ok h
  have hcurrent : current = s.row := by
    obtain ⟨hmem, howner, hkey⟩ := Db.getReservation_eq_some hfind
    exact inj_on_of_nodup_map hkeys hmem hstored
      (Prod.ext (howner.trans hplace.2.1.symm) hkey)
  subst hcurrent
  rcases hcases with ⟨hstate, -⟩ | ⟨-, hr, rfl⟩
  · exact absurd hpending hstate
  have hid : s.row.reservationId = r.reservationId := by rw [hr]
  have hin : ∀ kind o e, r.IsIn kind o e ↔ s.row.IsIn kind o e := by
    intro kind o e
    rw [hr]
    rfl
  have hiff : ∀ kind o e, s.row.IsIn kind o e ↔ s.kind = kind ∧ (o, e) = (owner, epoch) := by
    intro kind o e
    obtain ⟨hk, ho, he⟩ := hplace
    simp only [ReservationRow.IsIn, hk, ho, he, Prod.mk.injEq]
    exact ⟨fun h => ⟨h.1, h.2.1.symm, h.2.2.symm⟩, fun h => ⟨h.1, h.2.1.symm, h.2.2.symm⟩⟩
  refine ⟨⟨?_, rfl, fun c kind o e => ?_⟩, fun x hx hne => ?_⟩
  · obtain ⟨l, l', hrows, hput⟩ := rows_put hstored hid
    rw [Carried, hput, hrows, map_append, map_append, map_cons, map_cons, hr]
    rfl
  · rw [Db.tally, total_put hstored hid, Db.tally]
    simp only [hin, hiff]
    have hnew : c.amount r - c.amount s.row = s.shift c s.kind := by
      cases c <;> simp [Column.amount, ReservationRow.pending, ReservationRow.settled, Settled.shift,
        hr, hpending]
    by_cases hk : s.kind = kind
    · subst hk
      by_cases hp : (o, e) = (owner, epoch) <;> simp [hp, ← hnew]
      ring
    · cases c <;> simp [hk, Settled.shift]
  · refine mem_put.2 (.inl ⟨hx, fun hsame => hne ?_⟩)
    exact eq_of_key_eq hx hstored (hsame.trans hid.symm)

theorem Moved.trans {db1 db2 db3 : Db} {place : String × ℤ} {m m' : Column → ResourceKind → ℤ}
    (h : Moved db1 db2 place m) (h' : Moved db2 db3 place m') :
    Moved db1 db3 place fun c kind => m c kind + m' c kind where
  carried := Eq.trans h'.carried h.carried
  windows := h'.windows.trans h.windows
  tally c kind o e := by
    rw [h'.tally, h.tally]
    split_ifs <;> ring

/-- **The loop over the reservations moves the sums by what was collected.** -/
theorem settleRows_ok (hready : Ready db owner epoch transitions)
    (hkeys : (db.reservations.rows.map ReservationRow.ownerKey).Nodup) {u : Unit}
    (h : settleRows owner now transitions db = .ok (u, db')) :
    Moved db db' (owner, epoch) (settleShift transitions) := by
  induction transitions generalizing db with
  | nil =>
    obtain ⟨-, rfl⟩ := pure_mk.1 h
    exact ⟨rfl, rfl, by rintro ⟨⟩ <;> simp [settleShift, usedDelta, reservedDecrement]⟩
  | cons s rest ih =>
    rw [settleRows, bind_ok] at h
    obtain ⟨r, db1, htransition, h⟩ := h
    have hmem : s ∈ s :: rest := mem_cons_self ..
    obtain ⟨hmoved, hothers⟩ := moved_of_transition hkeys (hready.stored s hmem)
      (hready.place s hmem) (hready.pending s hmem) htransition
    have hnodup := hready.nodup
    rw [map_cons, nodup_cons] at hnodup
    have hrest : Ready db1 owner epoch rest := by
      refine ⟨hnodup.2, fun t ht => ?_, fun t ht => hready.place t (mem_cons_of_mem _ ht),
        fun t ht => hready.pending t (mem_cons_of_mem _ ht),
        fun t ht => hready.noToolCall t (mem_cons_of_mem _ ht)⟩
      have ht' : t ∈ s :: rest := mem_cons_of_mem _ ht
      refine hothers _ (hready.stored t ht') fun hsame => ?_
      -- two reservations of a handle are of different resources
      have hkind : t.kind = s.kind := by
        rw [← (hready.place t ht').1, ← (hready.place s hmem).1, hsame]
      exact hnodup.1 (mem_map.2 ⟨t, ht, hkind⟩)
    have hkeys1 : (db1.reservations.rows.map ReservationRow.ownerKey).Nodup := by
      rw [hmoved.carried.ownerKeys]
      exact hkeys
    rw [settleShift_cons]
    exact hmoved.trans (ih hrest hkeys1 h)

/-! ### The window of a settlement -/

theorem shiftedTarget_getD (current delta : ℤ) :
    (shiftedTarget current delta).getD current = current + delta := by
  unfold shiftedTarget
  by_cases hd : delta = 0 <;> simp [hd]

theorem settledTargets_apply (hnone : ∀ s ∈ transitions, s.kind ≠ .toolCall)
    (counters : WindowCounters) (c : Column) (kind : ResourceKind) :
    c.of ((settledTargets counters transitions).apply counters) kind =
      (c.of counters kind).map (· + settleShift transitions c kind) := by
  have htool : ResourceKind.toolCall ∉ transitions.map Settled.kind := by
    intro hmem
    obtain ⟨s, hs, hk⟩ := mem_map.1 hmem
    exact hnone s hs hk
  obtain ⟨hused, hdecrement⟩ := deltas_eq_zero htool
  cases c with
  | used =>
    cases kind with
    | toolCall => simp [Column.of, settleShift, hused, WindowCounters.usedOf, settledTargets,
        WindowTargets.apply]
    | inferenceCall | inputToken | outputToken | totalToken | computeUnit | costUsd =>
      exact congrArg some (shiftedTarget_getD _ _)
  | reserved =>
    cases kind with
    | toolCall => simp [Column.of, settleShift, hdecrement, WindowCounters.reservedOf,
        settledTargets, WindowTargets.apply]
    | inputToken | outputToken => rfl
    | inferenceCall | totalToken | computeUnit | costUsd =>
      exact congrArg some (shiftedTarget_getD _ _)

theorem WindowTargets.apply_of_supplied {t : WindowTargets} (h : t.supplied = [])
    (c : WindowCounters) : t.apply c = c := by
  replace h : List.filterMap id _ = [] := h
  simp only [filterMap_eq_nil_iff, forall_mem_cons, id_eq] at h
  obtain ⟨h1, h2, h3, h4, h5, h6, h7, h8, h9, h10, h11, h12, -⟩ := h
  simp [apply, h1, h2, h3, h4, h5, h6, h7, h8, h9, h10, h11, h12]

theorem settleWindow_ok {w : WindowRow} (hw : db.getWindow owner epoch = some w) {u : Unit}
    (h : settleWindow owner epoch w transitions db = .ok (u, db')) :
    db'.reservations = db.reservations ∧
      (∀ v ∈ db'.windows, (v ∈ db.windows ∧ v.key ≠ w.key) ∨ (v.key = w.key ∧
        v.counters = (settledTargets w.counters transitions).apply w.counters)) ∧
      ∀ v ∈ db.windows, ∃ v' ∈ db'.windows, v'.key = v.key := by
  dsimp only [settleWindow] at h
  by_cases hs : (settledTargets w.counters transitions).supplied = []
  · rw [if_pos hs] at h
    obtain ⟨-, rfl⟩ := pure_mk.1 h
    refine ⟨rfl, fun v hv => ?_, fun v hv => ⟨v, hv, rfl⟩⟩
    by_cases hk : v.key = w.key
    · obtain ⟨hmem, -, -⟩ := Db.getWindow_eq_some hw
      rw [eq_of_key_eq hv hmem hk, WindowTargets.apply_of_supplied hs]
      exact .inr ⟨rfl, rfl⟩
    · exact .inl ⟨hv, hk⟩
  · rw [if_neg hs, bind_ok] at h
    obtain ⟨w', db1, hmutate, h⟩ := h
    obtain ⟨-, rfl⟩ := pure_mk.1 h
    obtain ⟨current, hcurrent, rfl, rfl⟩ := mutateWindowUsage_ok hmutate
    obtain rfl := Option.mem_unique hw hcurrent
    refine ⟨rfl, fun v hv => ?_, fun v hv => exists_key_put.2 ⟨v, hv, rfl⟩⟩
    rcases mem_put.1 hv with ⟨hv, hne⟩ | ⟨rfl, -⟩
    · exact .inl ⟨hv, hne⟩
    · exact .inr ⟨rfl, rfl⟩

end Moving

/-! ### Settlement -/

variable {settings : InferenceQuotaSettings}

/-- **A settlement keeps the books.** -/
theorem settleSuccess_ok (h : InferenceAccounted sha db) {asked : Option InferenceAdmission}
    (hsound : ∀ a ∈ asked, a.Sound db) {now : ℤ} {u : Unit}
    (hsettle : settleSuccess sha settings asked usage now db = .ok (u, db')) :
    InferenceAccounted sha db' ∧ Carried db db' := by
  rcases asked with _ | a
  · obtain ⟨-, rfl⟩ := pure_mk.1 hsettle
    exact ⟨h, rfl⟩
  simp only [settleSuccess, steps_ok] at hsettle
  obtain ⟨-, -, w, hw, hsettle⟩ := hsettle
  rw [bind_ok] at hsettle
  obtain ⟨transitions, db1, hkinds, hsettle⟩ := hsettle
  obtain rfl := Respects.unchanged hkinds
  have hready := (hsound a rfl).ready h hkinds
  rw [bind_ok] at hsettle
  obtain ⟨_, db2, hunderflow, hsettle⟩ := hsettle
  obtain rfl := Respects.unchanged hunderflow
  obtain ⟨_, db3, hwindow, hrows⟩ := bind_ok.1 hsettle
  obtain ⟨hreservations, hwindows, hkept⟩ := settleWindow_ok hw hwindow
  obtain ⟨hmem, howner, hepoch⟩ := Db.getWindow_eq_some hw
  have hplace : (a.ownerUserId, a.windowEpoch) = w.key := by rw [WindowRow.key, howner, hepoch]
  -- the reservations are still those that the loop has read
  have hready3 : Ready db3 a.ownerUserId a.windowEpoch transitions :=
    ⟨hready.nodup, fun s hs => hreservations ▸ hready.stored s hs, hready.place, hready.pending,
      hready.noToolCall⟩
  have hkeys3 : (db3.reservations.rows.map ReservationRow.ownerKey).Nodup := by
    rw [hreservations]
    exact h.keys
  have hmoved := settleRows_ok hready3 hkeys3 hrows
  have htally : ∀ f kind o e, db3.tally f kind o e = db2.tally f kind o e := by
    intro f kind o e
    rw [Db.tally, Db.tally, hreservations]
  have hcarried : Carried db2 db' := by
    have := hmoved.carried
    rwa [Carried, hreservations] at this
  have hcounters := settledTargets_apply hready.noToolCall w.counters
  have hshift : Shifts db2 db' w (settleShift transitions) := by
    refine ⟨fun c kind o e => ?_, fun v hv => ?_, fun v hv => ?_, fun r hr => ?_⟩
    · rw [hmoved.tally, htally, hplace]
    · rw [hmoved.windows] at hv
      rcases hwindows v hv with hold | ⟨hk, hc⟩
      · exact .inl hold
      · rw [hc]
        exact .inr ⟨hk, hcounters⟩
    · rw [hmoved.windows]
      exact hkept v hv
    · obtain ⟨r0, hr0, hterms⟩ := hcarried.symm.mem hr
      obtain ⟨-, hkey, hepoch, -, -, -⟩ := ReservationRow.columns_of_terms hterms
      exact .inl ⟨r0, hr0, Prod.ext (Prod.mk.inj hkey).1 hepoch⟩
  exact ⟨h.carried hcarried (h.agree.move hmem hshift), hcarried⟩

/-- The failure is one of a reserved counter that would become negative. -/
def Failure.IsUnderflow (f : Failure) : Prop := ∃ field, f = reservedUnderflow field

variable {f : Failure}

theorem not_isUnderflow_of_cls (h : f.cls ≠ .inferenceQuotaConflict) :
    ¬ f.IsUnderflow := by
  rintro ⟨field, rfl⟩
  exact h rfl

/-- The other conflicts have other messages. -/
theorem not_isUnderflow_of_head {message : String} (h : message.toList.head? ≠ some 'r') :
    ¬ (inferenceQuotaConflict message).IsUnderflow := by
  rintro ⟨field, hf⟩
  have hmessage : message = "reserved counter underflow: " ++ field := congrArg Failure.message hf
  rw [hmessage] at h
  simp [String.toList_append] at h

theorem raises_settleKinds (a : InferenceAdmission) (usage : InferenceUsage)
    (keys : List (ResourceKind × String)) :
    Raises (¬ Failure.IsUnderflow ·) (settleKinds a usage keys) := by
  induction keys with
  | nil => exact .pure _
  | cons p rest ih =>
    refine .bind ?_ fun _ => .bind ih fun _ => .pure _
    refine .bind (.reads _) fun _ => .bind (.expect ?_) fun _ => .bind (.ensure ?_) fun _ =>
      .bind (.expect ?_) fun actual => ?_
    · refine not_isUnderflow_of_head ?_
      simp [String.toList_append]
    · exact not_isUnderflow_of_head (by simp)
    · exact not_isUnderflow_of_cls (by simp)
    · cases actual with
      | none => exact .pure _
      | some n =>
        refine .bind (.ensure (not_isUnderflow_of_head (by simp))) fun _ => .ite ?_ ?_
        all_goals exact .bind (.ensure (not_isUnderflow_of_head (by simp))) fun _ => .pure _

theorem raises_mutateWindowUsage (owner : String) (epoch rev : ℤ) (targets : WindowTargets) :
    Raises (¬ Failure.IsUnderflow ·) (mutateWindowUsage owner epoch rev targets) := by
  refine .bind (.reads _) fun _ => .bind (.expect ?_) fun _ => .bind (.ensure ?_) fun _ =>
    .bind (.ensure ?_) fun _ => .bind (.ensure ?_) fun _ => .bind (.ensure ?_) fun _ =>
    .bind (.writes _) fun _ => .pure _
  all_goals exact not_isUnderflow_of_cls (by simp)

theorem raises_transitionReservation (owner key : String) (rev : ℤ) (target : ReservationState)
    (amount at_ : Option ℤ) :
    Raises (¬ Failure.IsUnderflow ·) (transitionReservation owner key rev target amount at_) := by
  refine .bind (.ensure ?_) fun _ => .bind (.reads _) fun _ => .bind (.expect ?_) fun _ =>
    .ite (.bind (.ensure ?_) fun _ => .bind (.ensure ?_) fun _ => .pure _)
      (.bind (.ensure ?_) fun _ => .bind (.ensure ?_) fun _ => .bind (.writes _) fun _ => .pure _)
  all_goals exact not_isUnderflow_of_cls (by simp)

theorem raises_settleRows (owner : String) (now : ℤ) (transitions : List Settled) :
    Raises (¬ Failure.IsUnderflow ·) (settleRows owner now transitions) := by
  induction transitions with
  | nil => exact .pure _
  | cons s rest ih => exact .bind (raises_transitionReservation _ _ _ _ _ _) fun _ => ih

theorem requireNoUnderflow_ok {columns : List (String × ResourceKind × ℤ)}
    (h : ∀ c ∈ columns, reservedDecrement transitions c.2.1 ≤ c.2.2) :
    requireNoUnderflow transitions columns db ≠ .error f := by
  induction columns with
  | nil => exact fun he => (pure_error.1 he).elim
  | cons c rest ih =>
    intro he
    rcases ensure_bind_error.1 he with ⟨hcheck, -⟩ | ⟨-, he⟩
    · exact hcheck fun _ => h _ mem_cons_self
    · exact ih (fun c hc => h c (mem_cons_of_mem _ hc)) he

theorem Ready.columns {owner : String} {epoch : ℤ}
    (hready : Ready db owner epoch transitions) (h : InferenceAccounted sha db) {w : WindowRow}
    (hw : db.getWindow owner epoch = some w) :
    ∀ c ∈ w.counters.reservedColumns, reservedDecrement transitions c.2.1 ≤ c.2.2 := by
  obtain ⟨hmem, rfl, rfl⟩ := Db.getWindow_eq_some hw
  have hpos : ∀ r ∈ db.reservations, 0 ≤ r.reservedAmountAtomic := by
    intro r hr
    obtain ⟨-, -, -, -, hpos, -⟩ := h.charges r hr
    exact hpos.le
  have hle : ∀ kind, ∀ n ∈ w.counters.reservedOf kind, reservedDecrement transitions kind ≤ n := by
    intro kind n hn
    rw [h.agree.counters w hmem .reserved kind n hn]
    exact hready.decrement_le hpos kind
  intro c hc
  simp only [WindowCounters.reservedColumns, mem_cons, not_mem_nil, or_false] at hc
  rcases hc with rfl | rfl | rfl | rfl
  · exact hle .inferenceCall _ rfl
  · exact hle .totalToken _ rfl
  · exact hle .computeUnit _ rfl
  · exact hle .costUsd _ rfl

/-- **A settlement never underflows.** -/
theorem settleSuccess_error (h : InferenceAccounted sha db) (hsound : a.Sound db) {now : ℤ}
    (he : settleSuccess sha settings (some a) usage now db = .error f) :
    ¬ f.IsUnderflow := by
  simp only [settleSuccess, ensure_bind_error, reads_bind_error, expect_bind_error] at he
  rcases he with ⟨-, rfl⟩ | ⟨-, ⟨-, rfl⟩ | ⟨-, ⟨-, rfl⟩ | ⟨w, hw, he⟩⟩⟩
  · exact not_isUnderflow_of_head (by simp)
  · exact not_isUnderflow_of_cls (by simp)
  · exact not_isUnderflow_of_head (by simp)
  rcases bind_error.1 he with hread | ⟨transitions, db1, hkinds, hcheck⟩
  · exact raises_settleKinds _ _ _ _ _ hread
  have hready := hsound.ready h hkinds
  rcases bind_error.1 hcheck with hunderflow | ⟨_, db2, -, hwrite⟩
  · exact absurd hunderflow (requireNoUnderflow_ok (hready.columns h hw))
  rcases bind_error.1 hwrite with hwindow | ⟨_, db3, -, hrows⟩
  · exact Raises.ite (.pure _) (.bind (raises_mutateWindowUsage _ _ _ _) fun _ => .pure _) _ _
      hwindow
  · exact raises_settleRows _ _ _ _ _ hrows

/-! ### Runs -/

/-- What the users of the inference quota do.  Policies, accounts and bindings of tasks have to
exist before anything is admitted. -/
inductive QuotaAct
  | createPolicy (policy : PolicyRow)
  | createAccount (owner : String)
  | bindTask (binding : TaskBindingRow)
  | selectNextPolicy (owner : String) (expectedRevision : ℤ) (policyId : String)
  | rollover (owner : String) (expectedRevision now : ℤ)
  | reserve (settings : InferenceQuotaSettings) (directory : Directory)
      (lineage : InferenceLineage) (context : Option InferenceContext) (body : InferenceBody)
      (streamingMode : Bool) (now : ℤ)
  | settle (settings : InferenceQuotaSettings) (admission : Option InferenceAdmission)
      (usage : InferenceUsage) (now : ℤ)

/-- A unit of work that returns no handle. -/
def silently {α : Type} (x : Tx α) : Tx (Option InferenceAdmission) := do
  let _ ← x
  return none

/-- The unit of work of an act, with the handle that a reserve call returns. -/
def QuotaAct.perform (sha : Document → String) : QuotaAct → Tx (Option InferenceAdmission)
  | createPolicy policy => silently (createOrGetImmutablePolicy policy)
  | createAccount owner => silently (createOrGetAccount owner)
  | bindTask binding => silently (createTaskBinding binding)
  | selectNextPolicy owner revision policyId =>
    silently (UserBudget.selectNextPolicy owner revision policyId)
  | rollover owner revision now => silently (rolloverWindow owner revision now)
  | reserve settings directory lineage context body streamingMode now =>
    reserveInference sha settings directory lineage context body streamingMode now
  | settle settings admission usage now => silently (settleSuccess sha settings admission usage now)

def QuotaAct.presented : QuotaAct → Option InferenceAdmission
  | settle _ admission _ _ => admission
  | _ => none

/-- The stored state and the handles that reserve calls have returned. -/
structure QuotaState where
  db : Db := {}
  issued : List InferenceAdmission := []

def QuotaState.after (sha : Document → String) (s : QuotaState) (act : QuotaAct) : QuotaState :=
  match act.perform sha s.db with
  | .ok (answer, db) => ⟨db, s.issued ++ answer.toList⟩
  | .error _ => s

/-- One act, committed or aborted, of a party that presents no handle but an issued one. -/
def QuotaStep (sha : Document → String) (act : QuotaAct) (s s' : QuotaState) : Prop :=
  (∀ a ∈ act.presented, a ∈ s.issued) ∧ s' = s.after sha act

structure QuotaSound (sha : Document → String) (s : QuotaState) : Prop where
  accounted : InferenceAccounted sha s.db
  issued : ∀ a ∈ s.issued, a.Sound s.db

variable {s : QuotaState}

theorem QuotaSound.rolledOver (h : QuotaSound sha s) {db' : Db} (hr : RolledOver s.db db') :
    QuotaSound sha ⟨db', s.issued ++ []⟩ where
  accounted := h.accounted.rolledOver hr
  issued a ha := by
    rw [append_nil] at ha
    obtain ⟨hnodup, hrows⟩ := h.issued a ha
    refine ⟨hnodup, ?_⟩
    rw [hr.reservations]
    exact hrows

theorem InferenceAdmission.Sound.kept (h : a.Sound db)
    (hk : ∀ r ∈ db.reservations, r ∈ db'.reservations) : a.Sound db' where
  nodup := h.nodup
  rows p hp := by
    obtain ⟨r, hr, hrow⟩ := h.rows p hp
    exact ⟨r, hk r hr, hrow⟩

variable {answer : Option InferenceAdmission}

theorem silently_ok {α : Type} {x : Tx α} (h : silently x db = .ok (answer, db')) :
    answer = none ∧ ∃ a, x db = .ok (a, db') := by
  obtain ⟨a, db1, hx, h⟩ := bind_ok.1 h
  obtain ⟨rfl, rfl⟩ := pure_mk.1 h
  exact ⟨rfl, a, hx⟩

theorem QuotaSound.committed (hsha : DistinctIdentities sha) (h : QuotaSound sha s) {act : QuotaAct}
    (hpresented : ∀ a ∈ act.presented, a ∈ s.issued) {db' : Db}
    (hact : act.perform sha s.db = .ok (answer, db')) :
    QuotaSound sha ⟨db', s.issued ++ answer.toList⟩ := by
  cases act with
  | createPolicy policy =>
    obtain ⟨rfl, _, hop⟩ := silently_ok hact
    exact h.rolledOver (createOrGetImmutablePolicy_ok hop).rolledOver
  | createAccount owner =>
    obtain ⟨rfl, _, hop⟩ := silently_ok hact
    exact h.rolledOver (createOrGetAccount_ok hop).rolledOver
  | bindTask binding =>
    obtain ⟨rfl, _, hop⟩ := silently_ok hact
    exact h.rolledOver (createTaskBinding_ok hop).rolledOver
  | selectNextPolicy owner revision policyId =>
    obtain ⟨rfl, _, hop⟩ := silently_ok hact
    exact h.rolledOver (selectNextPolicy_ok hop).rolledOver
  | rollover owner revision now =>
    obtain ⟨rfl, _, hop⟩ := silently_ok hact
    exact h.rolledOver (rolloverWindow_ok hop).1
  | reserve settings directory lineage context body streamingMode now =>
    rcases reserveInference_ok h.accounted hsha hact with ⟨rfl, rfl⟩ | ⟨a, rfl, hreserved⟩
    · rw [Option.toList_none, append_nil]
      exact h
    · refine ⟨hreserved.accounted, fun b hb => ?_⟩
      rcases mem_append.1 hb with hb | hb
      · exact (h.issued b hb).kept hreserved.kept
      · obtain rfl := mem_singleton.1 hb
        exact hreserved.sound
  | settle settings admission usage now =>
    obtain ⟨rfl, _, hop⟩ := silently_ok hact
    rw [Option.toList_none, append_nil]
    have hsound : ∀ a ∈ admission, a.Sound s.db := fun a ha => h.issued a (hpresented a ha)
    obtain ⟨haccounted, hcarried⟩ := settleSuccess_ok h.accounted hsound hop
    exact ⟨haccounted, fun a ha => (h.issued a ha).carried hcarried⟩

theorem QuotaStep.sound (hsha : DistinctIdentities sha) (act : QuotaAct) (s s' : QuotaState)
    (h : QuotaSound sha s) (hstep : QuotaStep sha act s s') : QuotaSound sha s' := by
  obtain ⟨hpresented, rfl⟩ := hstep
  unfold QuotaState.after
  cases hact : act.perform sha s.db with
  | error f => exact h
  | ok p => exact h.committed hsha hpresented hact

/-! ### The main result -/

/-- The number of inference calls that are reserved in a window. -/
def Db.reservedCalls (db : Db) (owner : String) (epoch : ℤ) : ℕ :=
  db.reservations.count fun r => r.IsIn .inferenceCall owner epoch ∧ r.state = .reserved

def ReservationRow.IsCallOf (r : ReservationRow) (logicalRequestId : String) : Prop :=
  r.resourceKind = .inferenceCall ∧ r.logicalRequestId = some logicalRequestId

theorem InferenceAccounted.pendingAmount_call (h : InferenceAccounted sha db) (owner : String)
    (epoch : ℤ) : db.pendingAmount .inferenceCall owner epoch = db.reservedCalls owner epoch := by
  rw [Db.pendingAmount_eq_tally, Db.tally, Db.reservedCalls, ← total_ite]
  refine total_congr fun r hr => ?_
  obtain ⟨-, -, -, -, -, hone, -⟩ := h.charges r hr
  by_cases hin : r.IsIn .inferenceCall owner epoch
  · simp [hin, Column.amount, ReservationRow.pending, hone hin.1]
  · simp [hin]

/-- **A request has one call, and all its reservations are in the window of that call.** -/
theorem InferenceAccounted.call (h : InferenceAccounted sha db) (hsha : DistinctIdentities sha)
    (hr : r ∈ db.reservations) :
    ∃ lid, r.logicalRequestId = some lid ∧ ∃ r0 ∈ db.reservations, r0.IsCallOf lid ∧
      (r0.ownerUserId, r0.windowEpoch) = (r.ownerUserId, r.windowEpoch) ∧
      ∀ r₁ ∈ db.reservations, r₁.IsCallOf lid → r₁ = r0 := by
  obtain ⟨lid, hlid, -, -, -, -, r0, hr0, hid0, hkind0, hkey0, hepoch0⟩ := h.charges r hr
  -- the identity of a call is the identity of its request
  have hidentity : ∀ {r₁}, r₁ ∈ db.reservations → r₁.IsCallOf lid →
      r₁.reservationId = inferenceReservationId sha lid .inferenceCall := by
    rintro r₁ hr1 ⟨hkind1, hlid1⟩
    obtain ⟨lid1, hlid1', hid1, -⟩ := h.charges r₁ hr1
    rw [hid1, hkind1, Option.mem_unique hlid1' hlid1]
  have hcall0 : r0.IsCallOf lid := by
    obtain ⟨lid0, hlid0, hid0', -⟩ := h.charges r0 hr0
    rw [hkind0, hid0] at hid0'
    have hsame : sha (.inferenceIdentity ubq4ReservationVersion lid .inferenceCall) =
        sha (.inferenceIdentity ubq4ReservationVersion lid0 .inferenceCall) := by
      simpa [inferenceReservationId] using hid0'
    rw [← (hsha _ _ _ _ hsame).1] at hlid0
    exact ⟨hkind0, hlid0⟩
  refine ⟨lid, hlid, r0, hr0, hcall0, Prod.ext (Prod.mk.inj hkey0).1 hepoch0, ?_⟩
  intro r₁ hr1 hcall1
  exact eq_of_key_eq hr1 hr0 ((hidentity hr1 hcall1).trans hid0.symm)

/-- **The inference quota is accounted for.**  In every state that any acts of any users reach from
empty tables:

* the reserved counters of every window are the number of its calls in state `RESERVED` and the sums
  of what its reservations in that state have reserved, and its used counters the sums of what was
  settled;
* no settlement of an issued handle fails because a counter would become negative;
* all reservations of a request are in one window, with exactly one for the call;
* a new admission that commits leaves what is used and pending of every limited resource within the
  policy that governs the window. -/
theorem inference_accounted (hsha : DistinctIdentities sha) {acts : List QuotaAct} {s : QuotaState}
    (hrun : Run (QuotaStep sha) {} acts s) :
    (∀ w ∈ s.db.windows,
      w.counters.inferenceReserved = s.db.reservedCalls w.ownerUserId w.epoch ∧
      w.counters.tokensReserved = s.db.pendingAmount .totalToken w.ownerUserId w.epoch ∧
      w.counters.computeReservedAtomic = s.db.pendingAmount .computeUnit w.ownerUserId w.epoch ∧
      w.counters.costReservedAtomic = s.db.pendingAmount .costUsd w.ownerUserId w.epoch ∧
      ∀ kind, w.counters.usedOf kind = s.db.settledAmount kind w.ownerUserId w.epoch) ∧
    (∀ a ∈ s.issued, ∀ settings usage now f,
      settleSuccess sha settings (some a) usage now s.db = .error f → ¬ f.IsUnderflow) ∧
    (∀ r ∈ s.db.reservations, ∃ lid, r.logicalRequestId = some lid ∧
      ∃ r₀ ∈ s.db.reservations, r₀.IsCallOf lid ∧
        (r₀.ownerUserId, r₀.windowEpoch) = (r.ownerUserId, r.windowEpoch) ∧
        ∀ r₁ ∈ s.db.reservations, r₁.IsCallOf lid → r₁ = r₀) ∧
    ∀ settings directory lineage context body streamingMode now a db',
      reserveInference sha settings directory lineage context body streamingMode now s.db =
        .ok (some a, db') → a.replayed = false → WithinPolicy db' a := by
  have h : QuotaSound sha s :=
    hrun.invariant (QuotaStep.sound hsha) ⟨inferenceAccounted_empty sha, by simp⟩
  have hagree := h.accounted.agree
  refine ⟨fun w hw => ?_, fun a ha settings usage now f he => ?_,
    fun r hr => h.accounted.call hsha hr, ?_⟩
  · refine ⟨?_, hagree.reserved_eq hw _ rfl, hagree.reserved_eq hw _ rfl,
      hagree.reserved_eq hw _ rfl, fun kind => hagree.counters w hw .used kind _ rfl⟩
    rw [← h.accounted.pendingAmount_call]
    exact hagree.reserved_eq hw _ rfl
  · exact settleSuccess_error h.accounted (h.issued a ha) he
  · intro settings directory lineage context body streamingMode now a db' hreserve hnew
    rcases reserveInference_ok h.accounted hsha hreserve with ⟨hnone, -⟩ | ⟨b, hb, hreserved⟩
    · cases hnone
    · obtain rfl := Option.some.inj hb
      exact hreserved.within hnew

/-! A run in which one inference is admitted and settled in part, the window is replaced, and another
inference is admitted. -/

def ResourceKind.letter : ResourceKind → Char
  | .inferenceCall => 'c'
  | .inputToken => 'i'
  | .outputToken => 'o'
  | .totalToken => 't'
  | .toolCall => 'f'
  | .computeUnit => 'u'
  | .costUsd => 'd'

def sampleInferenceDigest : Document → String
  | .inferenceIdentity _ lid kind => String.ofList (kind.letter :: lid.toList)
  | _ => "digest"

theorem distinctIdentities_sampleInferenceDigest : DistinctIdentities sampleInferenceDigest := by
  intro lid kind lid' kind' h
  obtain ⟨hletter, hlist⟩ := List.cons.inj (String.ofList_injective h)
  refine ⟨String.toList_injective hlist, ?_⟩
  cases kind <;> cases kind' <;> first | rfl | exact absurd hletter (by decide)

def sampleInferencePolicy : PolicyRow :=
  { samplePolicy with maxInferenceCalls := some 2, maxTotalTokens := some 100 }

def sampleInferenceSettings : InferenceQuotaSettings where
  enabled := true

def sampleInferenceContext (logicalRequestId : String) : InferenceContext where
  budgetIdentity := ⟨.userSession, some "u1", none, none, none⟩
  logicalRequestId := logicalRequestId
  sourceSurface := "CHAT"
  estimatorPolicyIdentity := sampleInferenceSettings.estimatorIdentity sampleInferenceDigest
  usageNormalizationIdentity := sampleInferenceSettings.normalizationIdentity sampleInferenceDigest

def sampleInferenceReserve (logicalRequestId : String) (now : ℤ) : QuotaAct :=
  .reserve sampleInferenceSettings ⟨fun _ => true, fun _ => none, fun _ => none, fun _ => none⟩
    ⟨fun _ => none, fun _ _ _ _ => none, fun _ => none⟩ (some (sampleInferenceContext logicalRequestId))
    { semantics := "hello", encodedLength := 20, maxTokens := some (some 30) } false now

def sampleInferenceHandle : InferenceAdmission where
  ownerUserId := "u1"
  logicalRequestId := "r1"
  logicalRequestFingerprint := "digest"
  windowEpoch := 1
  reservationKeys := [(.inferenceCall, "ubq4:v1:cr1"), (.inputToken, "ubq4:v1:ir1"),
    (.outputToken, "ubq4:v1:or1"), (.totalToken, "ubq4:v1:tr1")]

def sampleQuotaActs : List QuotaAct :=
  [.createPolicy sampleInferencePolicy, .createAccount "u1", .selectNextPolicy "u1" 0 "p1",
    sampleInferenceReserve "r1" 10,
    .settle sampleInferenceSettings (some sampleInferenceHandle)
      { inputTokens := some 18
        normalizationIdentity := sampleInferenceSettings.normalizationIdentity
          sampleInferenceDigest } 20,
    .rollover "u1" 2 4000, sampleInferenceReserve "r2" 4010]

def QuotaState.afterAll (sha : Document → String) (s : QuotaState) : List QuotaAct → QuotaState
  | [] => s
  | act :: rest => (s.after sha act).afterAll sha rest

/-- Every act presents an issued handle. -/
def QuotaState.Presents (sha : Document → String) (s : QuotaState) : List QuotaAct → Prop
  | [] => True
  | act :: rest => (∀ a ∈ act.presented, a ∈ s.issued) ∧ (s.after sha act).Presents sha rest

instance QuotaState.decidablePresents (sha : Document → String) :
    (s : QuotaState) → (acts : List QuotaAct) → Decidable (s.Presents sha acts)
  | _, [] => inferInstanceAs (Decidable True)
  | s, act :: rest =>
    have := decidablePresents sha (s.after sha act) rest
    inferInstanceAs (Decidable (_ ∧ _))

theorem QuotaState.run_afterAll {acts : List QuotaAct} (h : s.Presents sha acts) :
    Run (QuotaStep sha) s acts (s.afterAll sha acts) := by
  induction acts generalizing s with
  | nil => exact .nil s
  | cons act rest ih => exact .cons ⟨h.1, rfl⟩ (ih h.2)

theorem inference_accounted_sampleQuotaActs :
    (QuotaState.afterAll sampleInferenceDigest {} sampleQuotaActs).db.windows.rows.map
        (fun w => (w.epoch, w.counters.inferenceUsed, w.counters.inferenceReserved,
          w.counters.tokensReserved)) = [(1, 1, 0, 50), (2, 0, 1, 50)] ∧
      ∀ w ∈ (QuotaState.afterAll sampleInferenceDigest {} sampleQuotaActs).db.windows,
        w.counters.inferenceReserved =
          (QuotaState.afterAll sampleInferenceDigest {} sampleQuotaActs).db.reservedCalls
            w.ownerUserId w.epoch := by
  have hpresents : QuotaState.Presents sampleInferenceDigest {} sampleQuotaActs := by
    decide +kernel
  refine ⟨by decide +kernel, fun w hw => ?_⟩
  exact ((inference_accounted distinctIdentities_sampleInferenceDigest
    (QuotaState.run_afterAll hpresents)).1 w hw).1

end AssistantRuntime.UserBudget

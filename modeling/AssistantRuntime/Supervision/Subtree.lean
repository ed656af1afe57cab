/-
**What a cancellation reaches.**

The indices of the supervisor say exactly what its handles say: a pair of the children index is a
handle with its parent, a pair of the task index a handle with its task.  A cancellation therefore
follows the spawn tree through the executions that the supervisor still knows, and finds nothing
outside the subtree.  An execution that ended is no longer known, and what it spawned hangs below it
only: from further up the cancellation does not get past the gap.

Main results:

* `Sound.step` — every step keeps the invariant;
* `Sound.mem_expandDescendants` — the search finds exactly the linked executions;
* `cancelExecution_reaches_subtree_iff` — **a cancellation requests the cancellation of all running
  executions of the subtree exactly if none of them hangs below an execution that ended**, of none
  outside, and the indices are complete.
-/

import AssistantRuntime.Supervision.Supervisor

namespace AssistantRuntime.Supervision

open Relational Table List

variable {up : String → Option String} {s s' : Supervisor}

/-- The indices say what the handles and the reservations say. -/
structure Sound (up : String → Option String) (s : Supervisor) : Prop where
  children_iff : ∀ p c, (p, c) ∈ s.children ↔
    ∃ handle ∈ s.handles, handle.executionId = c ∧ handle.parentExecutionId = some p
  taskIndex_iff : ∀ t c, (t, c) ∈ s.taskIndex ↔
    ∃ handle ∈ s.handles, handle.executionId = c ∧ handle.taskId = some t
  handle_parent : ∀ handle ∈ s.handles, handle.parentExecutionId = up handle.executionId
  reservation_parent : ∀ r ∈ s.reservations, r.parentExecutionId = up r.token.executionId
  reserved : ∀ entry ∈ s.reservedByExecution, ∃ r ∈ s.reservations, r.token = ⟨entry.1, entry.2⟩

theorem sound_empty (up : String → Option String) : Sound up {} where
  children_iff := by simp
  taskIndex_iff := by simp
  handle_parent := by simp
  reservation_parent := by simp
  reserved := by simp

/-! ### Reservations -/

theorem Supervisor.add_ok {ρ : Type} {key : ρ → String} {t t' : Table key} {r : ρ}
    {e : OwnershipError} : add t r e = .ok t' ↔ t.insert? r = some t' := by
  unfold add
  cases t.insert? r <;> simp

variable {context : Context}

theorem Supervisor.reserve_ok {token : String} (h : s.reserve context token = .ok s') :
    s.ensureExecutionAvailable context.executionId = .ok () ∧
      ∃ r, r = ⟨⟨context.executionId, token⟩, context.taskId, context.parentExecutionId,
        context.cancellationEvent⟩ ∧ ∃ reservations reservedByExecution,
        s.reservations.insert? r = some reservations ∧
        s.reservedByExecution.insert? (context.executionId, token) = some reservedByExecution ∧
        s' = { s with reservations, reservedByExecution } := by
  unfold reserve at h
  simp only [bind, Except.bind] at h
  split at h
  · cases h
  cases ha : s.ensureExecutionAvailable context.executionId with
  | error e => simp [ha] at h
  | ok _ =>
  cases he : s.ensureUniqueCancellationEvent context.cancellationEvent with
  | error e => simp [ha, he] at h
  | ok _ =>
  simp only [ha, he] at h
  split at h
  · cases h
  next _ reservations hr =>
  split at h
  · cases h
  next _ reservedByExecution hb =>
  exact ⟨rfl, _, rfl, reservations, reservedByExecution, add_ok.1 hr, add_ok.1 hb,
    (Except.ok.inj h).symm⟩

theorem Sound.reserve {token : String} (hs : Sound up s)
    (hup : context.parentExecutionId = up context.executionId)
    (h : s.reserve context token = .ok s') : Sound up s' := by
  obtain ⟨-, r, hreserved, reservations, reservedByExecution, hr, hb, rfl⟩ :=
    Supervisor.reserve_ok h
  refine { hs with reservation_parent := ?_, reserved := ?_ }
  · exact forall_insert? hr hs.reservation_parent (by rw [hreserved, hup])
  · intro entry hentry
    rcases (mem_insert? hb).1 hentry with hentry | rfl
    · obtain ⟨x, hx, hxt⟩ := hs.reserved entry hentry
      exact ⟨x, (mem_insert? hr).2 (.inl hx), hxt⟩
    · exact ⟨r, (mem_insert? hr).2 (.inr rfl), by rw [hreserved]⟩

variable {r : Reservation}

theorem Sound.dropReservation (hs : Sound up s) (hr : r ∈ s.reservations) :
    Sound up (s.dropReservation r) := by
  refine { hs with reservation_parent := ?_, reserved := ?_ }
  · intro x hx
    exact hs.reservation_parent x (mem_deleteWhere.1 hx).1
  · intro entry hentry
    obtain ⟨hentry, hne⟩ := mem_deleteWhere.1 hentry
    obtain ⟨x, hx, hxt⟩ := hs.reserved entry hentry
    refine ⟨x, mem_deleteWhere.2 ⟨hx, ?_⟩, hxt⟩
    -- a reservation with the same token value is the one that is dropped, and so is its entry
    rw [beq_eq_false_iff_ne]
    intro heq
    have hxr : x = r := eq_of_key_eq hx hr heq
    rw [← hxr, hxt] at hne
    simp at hne

theorem Sound.releaseReserved (hs : Sound up s) (token : OwnershipToken) :
    Sound up (s.releaseReserved token) := by
  unfold Supervisor.releaseReserved
  split
  · next r hr =>
      split
      · exact hs.dropReservation (mem_of_find? hr)
      · exact hs
  · exact hs

/-! ### Handles -/

variable {token : OwnershipToken}

theorem Supervisor.startReserved_ok {task : ℕ} (h : s.startReserved token context task = .ok s') :
    ∃ r handle handles, r ∈ s.reservations ∧ r.token.executionId = context.executionId
      ∧ handle.done = false ∧ handle.executionId = context.executionId
      ∧ handle.taskId = context.taskId ∧ handle.parentExecutionId = context.parentExecutionId
      ∧ s.handles.insert? handle = some handles
      ∧ s' = (s.indexed context handles).dropReservation r := by
  unfold startReserved at h
  split at h
  · cases h
  next r hr =>
  simp only [bind, Except.bind] at h
  split at h
  · cases h
  next htoken =>
  split at h
  · cases h
  next hid =>
  split at h
  · cases h
  split at h
  · cases h
  next _ handles hh =>
  have howner : r.token.executionId = context.executionId := by
    rw [not_not.1 htoken, not_not.1 hid]
  exact ⟨r, _, handles, mem_of_find? hr, howner, rfl, rfl, rfl, rfl, add_ok.1 hh,
    (Except.ok.inj h).symm⟩

variable {l : List (String × String)} {x : String}

/-- The pairs of an index after one is added for a new handle, if the handle has the entry. -/
theorem mem_index_insert {entry : Option String} {p c : String} :
    (p, c) ∈ (match entry with | some q => l.insert (q, x) | none => l) ↔
      (p, c) ∈ l ∨ (x = c ∧ entry = some p) := by
  cases entry with
  | none => simp
  | some q =>
    simp only [mem_insert_iff, Prod.mk.injEq, Option.some.injEq]
    constructor
    · rintro (⟨rfl, rfl⟩ | h)
      · exact Or.inr ⟨rfl, rfl⟩
      · exact Or.inl h
    · rintro (h | ⟨rfl, rfl⟩)
      · exact Or.inr h
      · exact Or.inl ⟨rfl, rfl⟩

variable {handle : Handle} {f : Handle → Option String}

/-- An index that says what the handles say, after a handle and its entry are added. -/
theorem index_insert {t t' : Table Handle.executionId}
    (hl : ∀ p c, (p, c) ∈ l ↔ ∃ h ∈ t, h.executionId = c ∧ f h = some p)
    (ht : t.insert? handle = some t') (p c : String) :
    (p, c) ∈ (match f handle with | some q => l.insert (q, handle.executionId) | none => l) ↔
      ∃ h ∈ t', h.executionId = c ∧ f h = some p := by
  rw [mem_index_insert, hl]
  constructor
  · rintro (⟨h, hh, hc⟩ | hc)
    · exact ⟨h, (mem_insert? ht).2 (.inl hh), hc⟩
    · exact ⟨handle, (mem_insert? ht).2 (.inr rfl), hc⟩
  · rintro ⟨h, hh, hc⟩
    rcases (mem_insert? ht).1 hh with hh | rfl
    · exact Or.inl ⟨h, hh, hc⟩
    · exact Or.inr hc

theorem Sound.startReserved {task : ℕ} (hs : Sound up s)
    (hup : context.parentExecutionId = up context.executionId)
    (h : s.startReserved token context task = .ok s') : Sound up s' := by
  obtain ⟨r, handle, handles, hr, -, -, hid, htask, hparent, hh, rfl⟩ :=
    Supervisor.startReserved_ok h
  refine Sound.dropReservation ⟨?_, ?_, ?_, hs.reservation_parent, hs.reserved⟩ hr
  all_goals dsimp only [Supervisor.indexed]
  · rw [← hparent, ← hid]
    exact index_insert hs.children_iff hh
  · rw [← htask, ← hid]
    exact index_insert hs.taskIndex_iff hh
  · exact forall_insert? hh hs.handle_parent (by rw [hparent, hid, hup])

/-- An index that says what the handles say, after a handle and its entry are removed. -/
theorem index_remove {t : Table Handle.executionId}
    (hl : ∀ p c, (p, c) ∈ l ↔ ∃ h ∈ t, h.executionId = c ∧ f h = some p) (hh : handle ∈ t)
    (p c : String) :
    (p, c) ∈ (match f handle with
        | some q => l.filter (· ≠ (q, handle.executionId)) | none => l) ↔
      ∃ h ∈ t.deleteWhere fun h => h.executionId == handle.executionId,
        h.executionId = c ∧ f h = some p := by
  have hkeep : (p, c) ∈ (match f handle with
      | some q => l.filter (· ≠ (q, handle.executionId)) | none => l) ↔
      (p, c) ∈ l ∧ ¬(f handle = some p ∧ c = handle.executionId) := by
    cases f handle with
    | none => simp
    | some q =>
      simp only [mem_filter, decide_eq_true_eq, ne_eq, Prod.mk.injEq, Option.some.injEq]
      rw [@eq_comm _ p q]
  rw [hkeep, hl]
  constructor
  · rintro ⟨⟨h, hmem, rfl, hp⟩, hne⟩
    refine ⟨h, mem_deleteWhere.2 ⟨hmem, ?_⟩, rfl, hp⟩
    rw [beq_eq_false_iff_ne]
    intro heq
    have hhh : h = handle := eq_of_key_eq hmem hh heq
    exact hne ⟨hhh ▸ hp, heq⟩
  · rintro ⟨h, hmem, rfl, hp⟩
    obtain ⟨hmem, hne⟩ := mem_deleteWhere.1 hmem
    exact ⟨⟨h, hmem, rfl, hp⟩, fun heq => by simp [heq.2] at hne⟩

theorem Sound.forgetHandle (hs : Sound up s) (x : String) (task : ℕ) :
    Sound up (s.forgetHandle x task) := by
  unfold Supervisor.forgetHandle
  split
  · exact hs
  next handle hh =>
  split
  · exact hs
  obtain ⟨hmem, rfl⟩ := find?_eq_some.1 hh
  refine ⟨index_remove hs.children_iff hmem, index_remove hs.taskIndex_iff hmem, ?_,
    hs.reservation_parent, hs.reserved⟩
  intro h hmem
  exact hs.handle_parent h (mem_deleteWhere.1 hmem).1

theorem Sound.abandon (hs : Sound up s) (hh : s.handles.find? x = some handle) :
    Sound up { s with handles := s.handles.put { handle with done := true } } := by
  obtain ⟨hmem, rfl⟩ := find?_eq_some.1 hh
  have hput : ∀ h, h ∈ s.handles.put { handle with done := true } ↔
      (h ∈ s.handles ∧ h.executionId ≠ handle.executionId) ∨ h = { handle with done := true } :=
    fun h => mem_put_of_mem (r := { handle with done := true }) hmem rfl
  -- what the indices read of a handle is not what changes
  have hsame : ∀ {P : String → Option String → Option String → Prop},
      (∃ h ∈ s.handles.put { handle with done := true },
        P h.executionId h.taskId h.parentExecutionId) ↔
      ∃ h ∈ s.handles, P h.executionId h.taskId h.parentExecutionId := by
    intro P
    constructor
    · rintro ⟨h, hm, hP⟩
      rcases (hput h).1 hm with ⟨hm, -⟩ | rfl
      · exact ⟨h, hm, hP⟩
      · exact ⟨handle, hmem, hP⟩
    · rintro ⟨h, hm, hP⟩
      by_cases hid : h.executionId = handle.executionId
      · obtain rfl : h = handle := eq_of_key_eq hm hmem hid
        exact ⟨_, (hput _).2 (.inr rfl), hP⟩
      · exact ⟨h, (hput h).2 (.inl ⟨hm, hid⟩), hP⟩
  refine ⟨fun p c => ?_, fun t c => ?_, ?_, hs.reservation_parent, hs.reserved⟩
  · exact (hs.children_iff p c).trans
      (hsame (P := fun x _ parent => x = c ∧ parent = some p)).symm
  · exact (hs.taskIndex_iff t c).trans (hsame (P := fun x task _ => x = c ∧ task = some t)).symm
  · intro h hm
    rcases (hput h).1 hm with ⟨hm, -⟩ | rfl
    · exact hs.handle_parent h hm
    · exact hs.handle_parent handle hmem

/-! ### Cancellation -/

theorem Sound.reservationOf (hs : Sound up s) (h : s.reservationOf x = some r) :
    r ∈ s.reservations ∧ r.token.executionId = x := by
  obtain ⟨entry, hentry, hr⟩ := Option.bind_eq_some_iff.1 h
  obtain ⟨hmem, hx⟩ := find?_eq_some.1 hentry
  obtain ⟨hr, htoken⟩ := find?_eq_some.1 hr
  obtain ⟨y, hy, hyt⟩ := hs.reserved entry hmem
  have hyr : y = r := eq_of_key_eq hy hr (by rw [hyt, htoken])
  exact ⟨hr, by rw [← hyr, hyt, ← hx]⟩

/-- **Dropping reservations keeps the invariant and the handles**, and sets no event but those of the
reservations of the given executions. -/
theorem Sound.dropReservationsForExecutions (hs : Sound up s) (ids : List String) :
    Sound up (s.dropReservationsForExecutions ids).2
      ∧ (s.dropReservationsForExecutions ids).2.handles = s.handles
      ∧ ∀ sig ∈ (s.dropReservationsForExecutions ids).1, sig.executionId ∈ ids := by
  induction ids generalizing s with
  | nil => exact ⟨hs, rfl, by simp [Supervisor.dropReservationsForExecutions]⟩
  | cons x ids ih =>
    unfold Supervisor.dropReservationsForExecutions
    split
    · obtain ⟨hsound, hhandles, hids⟩ := ih hs
      exact ⟨hsound, hhandles, fun sig hsig => mem_cons_of_mem x (hids sig hsig)⟩
    · next r hr =>
        obtain ⟨hmem, hx⟩ := hs.reservationOf hr
        obtain ⟨hsound, hhandles, hids⟩ := ih (hs.dropReservation hmem)
        refine ⟨hsound, hhandles, ?_⟩
        intro sig hsig
        rcases mem_cons.1 hsig with rfl | hsig
        · exact hx ▸ mem_cons_self
        · exact mem_cons_of_mem x (hids sig hsig)

variable {current : Option ℕ} {ids : List String}

theorem Supervisor.mem_signalAndCancel {sig : Signal} :
    sig ∈ s.signalAndCancel current ids ↔
      ∃ handle ∈ s.handles, handle.executionId ∈ ids ∧ signal current handle = sig := by
  simp only [signalAndCancel, mem_filterMap, Option.map_eq_some_iff]
  constructor
  · rintro ⟨x, hx, handle, hh, rfl⟩
    obtain ⟨hmem, rfl⟩ := find?_eq_some.1 hh
    exact ⟨handle, hmem, hx, rfl⟩
  · rintro ⟨handle, hh, hx, rfl⟩
    exact ⟨_, hx, handle, find?_key hh, rfl⟩

theorem Sound.cancelAll (hs : Sound up s) (current : Option ℕ) (ids : List String) :
    Sound up (s.cancelAll current ids).2 :=
  (hs.dropReservationsForExecutions ids).1

theorem Sound.mem_cancelAll (hs : Sound up s) {sig : Signal} (h : sig ∈
      (s.cancelAll current ids).1) :
    sig.executionId ∈ ids := by
  obtain ⟨-, -, hids⟩ := hs.dropReservationsForExecutions ids
  rcases mem_append.1 h with h | h
  · exact hids sig h
  · obtain ⟨handle, -, hx, rfl⟩ := Supervisor.mem_signalAndCancel.1 h
    exact hx

theorem Sound.signal_mem_cancelAll (hs : Sound up s) (hh : handle ∈ s.handles)
    (hx : handle.executionId ∈ ids) :
    Supervisor.signal current handle ∈ (s.cancelAll current ids).1 := by
  obtain ⟨-, hhandles, -⟩ := hs.dropReservationsForExecutions ids
  refine mem_append_right _ (Supervisor.mem_signalAndCancel.2 ⟨handle, ?_, hx, rfl⟩)
  exact hhandles ▸ hh

/-! ### Runs -/

theorem Sound.quiesce (hs : Sound up s) : Sound up { s with closing := true } :=
  { hs with }

/-- What forgetting a handle keeps, the sweep of the handles keeps. -/
theorem foldl_forgetHandle {P : Supervisor → Prop}
    (hforget : ∀ s x task, P s → P (s.forgetHandle x task)) (l : List Handle) (hs : P s) :
    P (l.foldl (fun s handle =>
      if handle.done then s.forgetHandle handle.executionId handle.task else s) s) := by
  induction l generalizing s with
  | nil => exact hs
  | cons handle l ih =>
    refine ih ?_
    dsimp only
    split
    · exact hforget s _ _ hs
    · exact hs

theorem Sound.sweep (hs : Sound up s) : Sound up s.sweep := by
  have h := foldl_forgetHandle (fun _ x task hs => hs.forgetHandle x task) s.handles.rows hs
  exact ⟨h.children_iff, h.taskIndex_iff, h.handle_parent, by simp [Supervisor.sweep],
    by simp [Supervisor.sweep]⟩

theorem Sound.step {act : Act} (hs : Sound up s) (hup : Follows up s act)
    (h : step s act = some s') : Sound up s' := by
  cases act with
  | quiesce => exact Option.some.inj h ▸ hs.quiesce
  | reserve context token =>
    exact hs.reserve hup (toOption_eq_some.1 h)
  | releaseReserved token => exact Option.some.inj h ▸ hs.releaseReserved token
  | startReserved token context task =>
    exact hs.startReserved hup (toOption_eq_some.1 h)
  | finish x =>
    obtain ⟨handle, -, -, rfl⟩ := bind_guard_eq_some.1 h
    exact hs.forgetHandle x handle.task
  | abandon x =>
    obtain ⟨handle, hh, -, rfl⟩ := bind_guard_eq_some.1 h
    exact hs.abandon hh
  | cancelExecution x cascade current => exact Option.some.inj h ▸ hs.cancelAll current _
  | cancelTask taskId current =>
    obtain ⟨⟨signals, s1⟩, ht, rfl⟩ := Option.map_eq_some_iff.1 h
    have ht := toOption_eq_some.1 ht
    unfold Supervisor.cancelTask at ht
    split at ht
    · cases ht
    · have hs1 := congrArg Prod.snd (Except.ok.inj ht)
      exact hs1 ▸ hs.cancelAll current _
  | shutdown current =>
    obtain rfl := Option.some.inj h
    unfold Supervisor.shutdown
    split
    · exact hs
    · exact hs.quiesce.cancelAll current _
  | sweep =>
    obtain ⟨-, rfl⟩ := guard_eq_some.1 h
    exact hs.sweep

theorem Reaches.sound {acts : List Act} (h : Reaches up acts s) : Sound up s :=
  Run.invariant (fun _ _ _ hs hstep => hs.step hstep.1 hstep.2) h (sound_empty up)

/-! ### The subtree -/

/-- The children that a search finds: those that the supervisor knows. -/
theorem Sound.mem_childrenOf {p c : String} (hs : Sound up s) :
    c ∈ s.childrenOf p ↔ up c = some p ∧ s.Knows c := by
  simp only [Supervisor.childrenOf, mem_append, mem_map, mem_filter,
    decide_eq_true_eq, Prod.exists]
  constructor
  · rintro (⟨q, x, ⟨hedge, rfl⟩, rfl⟩ | ⟨r, ⟨hr, hp⟩, rfl⟩)
    · obtain ⟨handle, hh, rfl, hp⟩ := (hs.children_iff q x).1 hedge
      exact ⟨hs.handle_parent handle hh ▸ hp, Or.inl ⟨handle, hh, rfl⟩⟩
    · exact ⟨hs.reservation_parent r hr ▸ hp, Or.inr ⟨r, hr, rfl⟩⟩
  · rintro ⟨hp, ⟨handle, hh, rfl⟩ | ⟨r, hr, rfl⟩⟩
    · refine Or.inl ⟨p, _, ⟨(hs.children_iff p _).2 ⟨handle, hh, rfl, ?_⟩, rfl⟩, rfl⟩
      exact hs.handle_parent handle hh ▸ hp
    · exact Or.inr ⟨r, ⟨hr, hs.reservation_parent r hr ▸ hp⟩, rfl⟩

theorem Supervisor.childrenOf_subset (s : Supervisor) (p : String) :
    s.childrenOf p ⊆ s.childIds := by
  intro x hx
  rcases mem_append.1 hx with hx | hx
  · exact mem_append_left _ (map_subset _ (filter_subset_self _) hx)
  · exact mem_append_right _ (map_subset _ (filter_subset_self _) hx)

variable {n : String}

/-- **The search finds exactly the executions that are linked to the root.** -/
theorem Sound.mem_expandDescendants (hs : Sound up s) :
    x ∈ s.expandDescendants [n] ↔ LinkedTo up s x n := by
  rw [Supervisor.expandDescendants, mem_descendants s.childrenOf_subset]
  simp only [mem_singleton, exists_eq_left]
  rw [LinkedTo, ← Relation.reflTransGen_swap]
  simp only [hs.mem_childrenOf]

theorem LinkedTo.descends (h : LinkedTo up s x n) : Descends up x n := by
  induction h with
  | refl => exact .refl
  | tail _ hstep ih => exact .tail ih hstep.1

/-- A running execution is signalled exactly if it is linked to the cancelled one. -/
theorem Sound.signal_mem_cancelExecution_iff (hs : Sound up s) (hh : handle ∈ s.handles) :
    Supervisor.signal current handle ∈ (s.cancelExecution n true current).1 ↔
      LinkedTo up s handle.executionId n := by
  rw [← hs.mem_expandDescendants]
  constructor
  · intro h
    exact hs.mem_cancelAll h
  · intro h
    exact hs.signal_mem_cancelAll hh h

/-- **What a cancellation reaches.**  In every state of every run, every running execution is found
in the task index and in the children index; a cancellation signals nothing outside the subtree; and
it signals all running executions of the subtree exactly if the supervisor still knows every
execution between them and the cancelled one. -/
theorem cancelExecution_reaches_subtree_iff {up : String → Option String} {acts : List Act}
    {s : Supervisor} (h : Reaches up acts s) :
    (∀ handle, s.Running handle →
      (∀ t, handle.taskId = some t → (t, handle.executionId) ∈ s.taskIndex)
        ∧ ∀ p, handle.parentExecutionId = some p → (p, handle.executionId) ∈ s.children)
    ∧ ∀ n current,
      (∀ sig ∈ (s.cancelExecution n true current).1, Descends up sig.executionId n)
      ∧ ((∀ handle, s.Running handle → Descends up handle.executionId n →
            Supervisor.signal current handle ∈ (s.cancelExecution n true current).1) ↔
          ∀ handle, s.Running handle → Descends up handle.executionId n →
            LinkedTo up s handle.executionId n) := by
  have hs : Sound up s := h.sound
  refine ⟨?_, fun n current => ⟨?_, ?_⟩⟩
  · rintro handle ⟨hh, -⟩
    refine ⟨fun t ht => ?_, fun p hp => ?_⟩
    · exact (hs.taskIndex_iff t _).2 ⟨handle, hh, rfl, ht⟩
    · exact (hs.children_iff p _).2 ⟨handle, hh, rfl, hp⟩
  · intro sig hsig
    exact (hs.mem_expandDescendants.1 (hs.mem_cancelAll hsig)).descends
  · refine forall_congr' fun handle => imp_congr_right fun hrunning => imp_congr_right fun _ => ?_
    exact hs.signal_mem_cancelExecution_iff hrunning.1

def generations : String → Option String
  | "parent" => some "root"
  | "child" => some "parent"
  | _ => none

def generation (executionId : String) (event : ℕ) : Context :=
  ⟨executionId, some "task", generations executionId, event⟩

def spawnGenerations : List Act :=
  [("root", 0), ("parent", 1), ("child", 2)].flatMap fun (executionId, event) =>
    [.reserve (generation executionId event) executionId,
      .startReserved ⟨executionId, executionId⟩ (generation executionId event) event]

/-- All three generations run and are known, so the cancellation of the first reaches all. -/
theorem cancelExecution_reaches_generations :
    ∃ s, Reaches generations spawnGenerations s
      ∧ s.handles.rows.map (·.executionId) = ["root", "parent", "child"]
      ∧ ∀ handle, s.Running handle → Descends generations handle.executionId "root" →
        Supervisor.signal none handle ∈ (s.cancelExecution "root" true none).1 := by
  have hrun : exec step {} spawnGenerations
      = some ((exec step {} spawnGenerations).getD {}) := by decide +kernel
  have hids : ((exec step {} spawnGenerations).getD {}).handles.rows.map (·.executionId)
      = ["root", "parent", "child"] := by decide +kernel
  have h : Reaches generations spawnGenerations ((exec step {} spawnGenerations).getD {}) :=
    run_execWhen hrun (by decide +kernel)
  generalize (exec step {} spawnGenerations).getD {} = s at h hids
  refine ⟨s, h, hids, ((cancelExecution_reaches_subtree_iff h).2 "root" none).2.2 ?_⟩
  intro handle hrunning _
  have hknown : ∀ x ∈ ["root", "parent", "child"], s.Knows x := by
    rw [← hids]
    intro x hx
    obtain ⟨handle, hh, hid⟩ := mem_map.1 hx
    exact Or.inl ⟨handle, hh, hid⟩
  have hid := mem_map_of_mem (f := (·.executionId)) hrunning.1
  rw [hids] at hid
  have hparent : LinkedTo generations s "parent" "root" := .single ⟨rfl, hknown _ (by simp)⟩
  simp only [mem_cons, not_mem_nil, or_false] at hid
  rcases hid with hid | hid | hid <;> rw [hid]
  · exact .refl
  · exact hparent
  · exact .head ⟨rfl, hknown _ (by simp)⟩ hparent

/-- **The cancellation of an execution misses a running grandchild whose parent has ended.** -/
theorem cancelExecution_misses_grandchild :
    ∃ s, Reaches generations (spawnGenerations ++ [.finish "parent"]) s
      ∧ (∃ handle, s.Running handle ∧ handle.executionId = "child")
      ∧ Descends generations "child" "root"
      ∧ ∀ sig ∈ (s.cancelExecution "root" true none).1, sig.executionId ≠ "child" := by
  have hrun : exec step {} (spawnGenerations ++ [.finish "parent"])
      = some ((exec step {} (spawnGenerations ++ [.finish "parent"])).getD {}) := by decide +kernel
  refine ⟨_, run_execWhen hrun (by decide +kernel), ?_, ?_, by decide +kernel⟩
  · refine ⟨⟨"child", some "task", some "parent", 2, 2, false⟩, ⟨?_, rfl⟩, rfl⟩
    rw [mem_def]
    decide +kernel
  · exact .tail (.single rfl) rfl

end AssistantRuntime.Supervision

/-
**Whether a reservation can be started.**

A reservation is refused while a task of the execution runs, and is started only if the execution has
no handle.  These are two different questions.  They have the same answer as long as the handle of
every task that ended was forgotten, which the task itself sees to when it ends; a task that is
cancelled before its first step never does.
-/

import AssistantRuntime.Supervision.Subtree

namespace AssistantRuntime.Supervision

open Relational Table

variable {s s' : Supervisor}

/-- No handle is of a task that ended, and an execution with a handle has no reservation. -/
structure Tidy (s : Supervisor) : Prop where
  running : ∀ handle ∈ s.handles, handle.done = false
  unreserved : ∀ handle ∈ s.handles, ∀ r ∈ s.reservations,
    r.token.executionId ≠ handle.executionId

/-- What is reserved can be started by the next step, and the supervisor is tidy. -/
structure Orderly (s : Supervisor) : Prop extends Tidy s where
  startable : ∀ context token task s', s.reserve context token = .ok s' →
    ∃ s'', s'.startReserved ⟨context.executionId, token⟩ context task = .ok s''

/-- A task that was not done ends without its handle being forgotten. -/
def Abandons (s : Supervisor) : Act → Prop
  | .abandon executionId => ∃ handle ∈ s.handles.find? executionId, handle.done = false
  | _ => False

/-- The reservations are found by their executions. -/
def Indexed (s : Supervisor) : Prop :=
  ∀ r ∈ s.reservations, (r.token.executionId, r.token.token) ∈ s.reservedByExecution

/-! ### What is kept -/

theorem Tidy.mono (hs : Tidy s) (hhandles : ∀ h ∈ s'.handles, h ∈ s.handles)
    (hreservations : ∀ r ∈ s'.reservations, r ∈ s.reservations) : Tidy s' where
  running h hh := hs.running h (hhandles h hh)
  unreserved h hh r hr := hs.unreserved h (hhandles h hh) r (hreservations r hr)

theorem Tidy.find?_eq_none (hs : Tidy s) {x : String} (h : s.ensureExecutionAvailable x = .ok ()) :
    s.handles.find? x = none := by
  cases hfound : s.handles.find? x with
  | none => rfl
  | some handle =>
    have hrunning := hs.running handle (mem_of_find? hfound)
    simp [Supervisor.ensureExecutionAvailable, hfound, hrunning] at h

variable {context : Context}

theorem Tidy.startable (hs : Tidy s) {token : String} (task : ℕ)
    (h : s.reserve context token = .ok s') :
    ∃ s'', s'.startReserved ⟨context.executionId, token⟩ context task = .ok s'' := by
  obtain ⟨havailable, r, hreserved, reservations, reservedByExecution, hr, -, rfl⟩ :=
    Supervisor.reserve_ok h
  have hfound : reservations.find? token = some r := by
    rw [find?_insert? hr, if_pos (by rw [hreserved])]
  have hnone := hs.find?_eq_none havailable
  obtain ⟨handles, hhandles⟩ := insert?_isSome (t := s.handles)
    (r := ⟨context.executionId, context.taskId, context.parentExecutionId,
      context.cancellationEvent, task, false⟩) hnone
  simp [Supervisor.startReserved, hfound, hreserved, Supervisor.add, hhandles]

theorem Indexed.dropReservation (hs : Indexed s) (r : Reservation) :
    Indexed (s.dropReservation r) := by
  intro x hx
  obtain ⟨hx, hne⟩ := mem_deleteWhere.1 hx
  refine mem_deleteWhere.2 ⟨hs x hx, ?_⟩
  simp only [beq_eq_false_iff_ne, ne_eq] at hne ⊢
  exact fun heq => hne (congrArg Prod.snd heq)

theorem dropReservation_subset (s : Supervisor) (r : Reservation) :
    ∀ x ∈ (s.dropReservation r).reservations, x ∈ s.reservations :=
  fun _ hx => (mem_deleteWhere.1 hx).1

theorem dropReservationsForExecutions_keeps (ids : List String) (hs : Indexed s) (ht : Tidy s) :
    Indexed (s.dropReservationsForExecutions ids).2 ∧
      Tidy (s.dropReservationsForExecutions ids).2 := by
  induction ids generalizing s with
  | nil => exact ⟨hs, ht⟩
  | cons x ids ih =>
    unfold Supervisor.dropReservationsForExecutions
    split
    · exact ih hs ht
    · next r hr =>
      exact ih (hs.dropReservation r)
        (ht.mono (fun _ hh => hh) (dropReservation_subset s r))

theorem forgetHandle_subset (s : Supervisor) (x : String) (task : ℕ) :
    (∀ h ∈ (s.forgetHandle x task).handles, h ∈ s.handles) ∧
      (s.forgetHandle x task).reservations = s.reservations ∧
      (s.forgetHandle x task).reservedByExecution = s.reservedByExecution := by
  unfold Supervisor.forgetHandle
  split
  · exact ⟨fun _ hh => hh, rfl, rfl⟩
  · split
    · exact ⟨fun _ hh => hh, rfl, rfl⟩
    · exact ⟨fun _ hh => (mem_deleteWhere.1 hh).1, rfl, rfl⟩

theorem sweep_subset (s : Supervisor) : ∀ h ∈ s.sweep.handles, h ∈ s.handles :=
  foldl_forgetHandle (P := fun s1 => ∀ h ∈ s1.handles, h ∈ s.handles)
    (fun s1 x task hs1 h hh => hs1 h ((forgetHandle_subset s1 x task).1 h hh)) s.handles.rows
    fun _ hh => hh

/-! ### Steps -/

theorem keeps_reserve {token : String} (hs : Indexed s) (ht : Tidy s)
    (h : s.reserve context token = .ok s') : Indexed s' ∧ Tidy s' := by
  obtain ⟨havailable, r, hreserved, reservations, reservedByExecution, hr, hb, rfl⟩ :=
    Supervisor.reserve_ok h
  refine ⟨?_, ht.running, fun handle hh => ?_⟩
  · exact forall_insert? hr (fun x hx => (mem_insert? hb).2 (.inl (hs x hx)))
      ((mem_insert? hb).2 (.inr (by rw [hreserved])))
  · refine forall_insert? hr (ht.unreserved handle hh) ?_
    rw [hreserved]
    exact Ne.symm (find?_eq_none.1 (ht.find?_eq_none havailable) handle hh)

theorem keeps_startReserved {token : OwnershipToken} {task : ℕ} (hs : Indexed s) (ht : Tidy s)
    (h : s.startReserved token context task = .ok s') :
    Indexed s' ∧ Tidy s' := by
  obtain ⟨r, handle, handles, hr, howner, hdone, hid, -, -, hh, rfl⟩ := Supervisor.startReserved_ok h
  refine ⟨Indexed.dropReservation hs r, forall_insert? hh ht.running hdone,
    fun x hx y hy => ?_⟩
  · obtain ⟨hy, hne⟩ := mem_deleteWhere.1 hy
    rcases (mem_insert? hh).1 hx with hx | rfl
    · exact ht.unreserved x hx y hy
    · -- another reservation of the execution would have the same entry
      intro hsame
      have hentry := eq_of_key_eq (hs y hy) (hs r hr)
        (show y.token.executionId = r.token.executionId by rw [hsame, hid, howner])
      exact absurd (congrArg Prod.snd hentry) (by simpa using hne)

/-- **A step keeps the supervisor tidy exactly if it does not abandon a task.** -/
theorem tidy_step {act : Act} (hs : Indexed s) (ht : Tidy s) (h : step s act = some s') :
    Indexed s' ∧ (Tidy s' ↔ ¬Abandons s act) := by
  have hcalm : ¬Abandons s act → Indexed s' ∧ Tidy s' → Indexed s' ∧ (Tidy s' ↔ ¬Abandons s act) :=
    fun hact hkept => ⟨hkept.1, fun _ => hact, fun _ => hkept.2⟩
  cases act with
  | quiesce => exact hcalm id (Option.some.inj h ▸ ⟨hs, ht.mono (fun _ hh => hh) fun _ hr => hr⟩)
  | reserve context token => exact hcalm id (keeps_reserve hs ht (toOption_eq_some.1 h))
  | releaseReserved token =>
    refine hcalm id (Option.some.inj h ▸ ?_)
    unfold Supervisor.releaseReserved
    split
    · next r hr =>
      split
      · exact ⟨hs.dropReservation r, ht.mono (fun _ hh => hh) (dropReservation_subset s r)⟩
      · exact ⟨hs, ht⟩
    · exact ⟨hs, ht⟩
  | startReserved token context task =>
    exact hcalm id (keeps_startReserved hs ht (toOption_eq_some.1 h))
  | finish x =>
    obtain ⟨handle, -, -, rfl⟩ := bind_guard_eq_some.1 h
    obtain ⟨hhandles, hres, hentries⟩ := forgetHandle_subset s x handle.task
    refine hcalm id ⟨?_, ht.mono hhandles fun _ hr => hres ▸ hr⟩
    rw [Indexed, hres, hentries]
    exact hs
  | abandon x =>
    obtain ⟨handle, hfound, hdone, rfl⟩ := bind_guard_eq_some.1 h
    refine ⟨hs, fun hkept => ?_, fun hact => absurd ⟨handle, hfound, hdone⟩ hact⟩
    have hput : { handle with done := true } ∈ s.handles.put { handle with done := true } :=
      mem_put.2 (.inr ⟨rfl, handle, mem_of_find? hfound, rfl⟩)
    exact absurd (hkept.running _ hput) (by simp)
  | cancelExecution x cascade current =>
    exact hcalm id (Option.some.inj h ▸ dropReservationsForExecutions_keeps _ hs ht)
  | cancelTask taskId current =>
    obtain ⟨⟨signals, s1⟩, hcancel, rfl⟩ := Option.map_eq_some_iff.1 h
    have hcancel := toOption_eq_some.1 hcancel
    unfold Supervisor.cancelTask at hcancel
    split at hcancel
    · cases hcancel
    · exact hcalm id (congrArg Prod.snd (Except.ok.inj hcancel) ▸
        dropReservationsForExecutions_keeps _ hs ht)
  | shutdown current =>
    refine hcalm id (Option.some.inj h ▸ ?_)
    unfold Supervisor.shutdown
    split
    · exact ⟨hs, ht⟩
    · exact dropReservationsForExecutions_keeps _ hs (ht.mono (fun _ hh => hh) fun _ hr => hr)
  | sweep =>
    obtain ⟨-, rfl⟩ := guard_eq_some.1 h
    refine hcalm id ⟨fun r hr => ?_, ht.mono (sweep_subset s) fun r hr => ?_⟩
    · exact absurd hr (not_mem_empty r)
    · exact absurd hr (not_mem_empty r)

/-- **The supervisor is orderly throughout a history exactly if no task is cancelled before its first
step.** -/
theorem orderly_iff (acts : List Act) :
    Throughout Orderly step {} acts ↔ AllMeet (fun s act => ¬Abandons s act) step {} acts := by
  have horderly : ∀ s, Orderly s ↔ Tidy s := fun s =>
    ⟨Orderly.toTidy, fun ht => ⟨ht, fun _ _ task _ => ht.startable task⟩⟩
  refine throughout_iff_allMeet (I := Indexed) (fun s act hnone => ?_) (fun s act s' hs ht h => ?_)
    (by simp [Indexed]) ((horderly _).2 ⟨by simp, by simp⟩)
  · -- a task that could be abandoned would be a step
    cases act with
    | abandon x =>
      rintro ⟨handle, hfound, hdone⟩
      simp [step, Option.mem_def.1 hfound, hdone] at hnone
    | _ => exact id
  · rw [horderly]
    exact tidy_step hs ((horderly s).1 ht) h

/-- An execution is reserved, started, and cancelled before its task has run. -/
def sampleEarlyCancel : List Act :=
  [.reserve ⟨"e", none, none, 0⟩ "t", .startReserved ⟨"e", "t"⟩ ⟨"e", none, none, 0⟩ 0,
    .cancelExecution "e" true none, .abandon "e"]

/-- **After a task was cancelled before its first step**, its handle stays: the execution can be
reserved again, and the reservation cannot be started. -/
theorem reservation_not_startable :
    ∃ s s', exec step {} sampleEarlyCancel = some s ∧ s.handles.rows.length = 1 ∧
      s.reserve ⟨"e", none, none, 1⟩ "u" = .ok s' ∧
      s'.startReserved ⟨"e", "u"⟩ ⟨"e", none, none, 1⟩ 1 = .error (.alreadyRunning "e") := by
  refine ⟨(exec step {} sampleEarlyCancel).getD {},
    (((exec step {} sampleEarlyCancel).getD {}).reserve ⟨"e", none, none, 1⟩ "u").toOption.getD {},
    ?_, ?_, ?_, ?_⟩ <;> decide +kernel

end AssistantRuntime.Supervision

/-
**The guard of the activity update.**

`reconcile_multibranch_task_activity_in_uow` folds over the heads of the open branches and computes the
activity that they stand for; `compare_and_set_task_activity` joins branches and executions again and
writes the activity only if the joined rows still say so.  The two look at the same rows in different
ways, so the update could refuse what the fold computed, or accept what is no longer true.  It does
neither.

Main results:

* `activityHolds_of_derived` — the guard holds of the heads that an activity was derived from;
* `activity_update_succeeds` — **the update that is attempted succeeds, deriving the activity again
  changes nothing, and an activity that has become stale is not written**.
-/

import AssistantRuntime.Runtime.TaskActivity

namespace AssistantRuntime.Runtime

open Relational Uow Table Agent TaskBudget Persistence List Option

variable {D : Digests} {db : Db D} {τ : String} {hs : List ExecutionRow}

/-- The heads that the fold collected are those that the guard joins. -/
theorem openHeads_of_taskHeads (h : taskHeads db τ = some hs) : openHeads db τ = hs := by
  unfold taskHeads at h
  unfold openHeads
  generalize listTaskBranches db τ = bs at h ⊢
  induction bs generalizing hs with
  | nil =>
    cases h
    rfl
  | cons b bs ih =>
    simp only [currentExecutions] at h
    split_ifs at h with hopen
    · rw [filterMap_cons_none (by simp [hopen])]
      exact ih h
    rw [not_not] at hopen
    cases hx : b.currentExecutionId with
    | none =>
      rw [filterMap_cons_none (by simp [hopen, hx])]
      rw [hx] at h
      exact ih h
    | some x =>
      simp only [hx] at h
      cases he : getExecution db x with
      | none => simp [he] at h
      | some e =>
        simp only [he] at h
        split_ifs at h
        obtain ⟨rest, hrest, rfl⟩ := map_eq_some_iff.1 h
        rw [filterMap_cons_some (b := e) (by simp [hopen, hx, he]), ih hrest]

variable {target : TaskStatus} {reasons : List String}

/-- **The guard holds of the heads that an activity was derived from.** -/
theorem activityHolds_of_derived
    (h : derivedActivity hs = some (target, reasons)) : ActivityHolds hs target reasons := by
  rcases derivedActivity_cases h with ⟨hrunning, e, he, hactive⟩ | ⟨hwaiting, hquiet, e, he, hwaits⟩
  · cases hrunning
    exact any_eq_true.2 ⟨e, he, hactive⟩
  · cases hwaiting
    have hmem (r : String) :
        r ∈ sortedStrings (waitingReasons hs).dedup ↔ r ∈ waitingReasons hs :=
      (perm_insertionSort (· ≤ ·) _).mem_iff.trans mem_dedup
    have hnone : hs.any (·.state.isActiveHead) = false := by simpa using hquiet
    exact ⟨hnone, any_eq_true.2 ⟨e, he, hwaits.1⟩, fun r hr => (hmem r).2 hr,
      fun r hr => (hmem r).1 hr⟩

/-- The two targets of an update, and that a waiting task has a reason. -/
theorem derivedActivity_target (h : derivedActivity hs = some (target, reasons)) :
    (target = .running ∨ target = .waiting) ∧ (target = .waiting → reasons ≠ []) := by
  rcases derivedActivity_cases h with ⟨hrunning, -⟩ | ⟨hwaiting, -, e, he, hwaits⟩
  · cases hrunning
    exact ⟨.inl rfl, fun h => by cases h⟩
  · cases hwaiting
    refine ⟨.inr rfl, fun _ hnil => ?_⟩
    exact waitingReasons_eq_nil.1 ((dedup_eq_nil _).1 (sortedStrings_eq_nil hnil)) e he hwaits

/-- The update writes what was derived from the heads of the same state. -/
theorem compareAndSetTaskActivity_derived {t : TaskRow} (ht : getTask db τ = some t)
    (hheads : taskHeads db τ = some hs) (h : derivedActivity hs = some (target, reasons)) :
    ∃ t', t'.id = t.id ∧ t'.status = target ∧ t'.waitReasons = reasons ∧
      compareAndSetTaskActivity τ t.revision target reasons db =
        .ok (some t', { db with tasks := db.tasks.put t' }) := by
  obtain ⟨htarget, hreasons⟩ := derivedActivity_target h
  refine ⟨TaskPatch.apply { status := some target, waitReasons := some reasons } t.revision t, rfl,
    rfl, rfl, ?_⟩
  simp only [compareAndSetTaskActivity, steps_ok]
  refine ⟨htarget, hreasons, compareAndSet_some.2 ⟨t, ht, ⟨rfl, ?_⟩, rfl, rfl⟩⟩
  rw [openHeads_of_taskHeads hheads]
  exact activityHolds_of_derived h

/-- What deriving the activity of a live task with several branches does. -/
theorem reconcile_eq {t : TaskRow} (hid : t.id = τ) (hlive : t.status.isTerminal = false)
    (hmany : 1 < (listTaskBranches db τ).length) (hheads : taskHeads db τ = some hs)
    {x : Option TaskRow × Db D} :
    reconcileMultibranchTaskActivity τ t db = .ok x ↔
      match derivedActivity hs with
      | none => x = (some t, db)
      | some (target, reasons) =>
        if t.status = target ∧ sortedStrings t.waitReasons = reasons then x = (some t, db)
        else compareAndSetTaskActivity τ t.revision target reasons db = .ok x := by
  have hfew : ¬ (listTaskBranches db τ).length ≤ 1 := by omega
  unfold taskHeads at hheads
  simp only [reconcileMultibranchTaskActivity, steps_ok, hid, hlive, hfew, hheads,
    Bool.false_eq_true, if_false, true_and, Option.some.injEq, exists_eq_left']
  cases derivedActivity hs with
  | none => simp only [pure_ok]
  | some activity =>
    dsimp only
    split
    · exact pure_ok
    · rfl

/-- **The update that is attempted succeeds, deriving the activity again changes nothing, and an
activity that has become stale is not written.**  Take any live task with several branches.  If a head
does not belong to its branch, nothing is derived and nothing written.  Otherwise what the heads stand
for satisfies the guard; the reconciliation returns the task that is then stored; and the same call in
the state that it left returns the same.  A waiting activity that was computed from any heads is
refused in every state in which an open head runs. -/
theorem activity_update_succeeds {t : TaskRow} (ht : getTask db τ = some t)
    (hlive : t.status.isTerminal = false) (hmany : 1 < (listTaskBranches db τ).length) :
    (∀ target reasons, projectedActivity db τ = some (target, reasons) →
        ActivityHolds (openHeads db τ) target reasons ∧
        ∃ t', compareAndSetTaskActivity τ t.revision target reasons db =
          .ok (some t', { db with tasks := db.tasks.put t' })) ∧
      ((taskHeads db τ = none ∧ reconcileMultibranchTaskActivity τ t db = .error
          (conflict "TaskBranch current_execution_id has invalid durable lineage.")) ∨
        ∃ t' db', reconcileMultibranchTaskActivity τ t db = .ok (some t', db') ∧
          getTask db' τ = some t' ∧
          reconcileMultibranchTaskActivity τ t' db' = .ok (some t', db')) ∧
      ∀ (later : Db D) (heads : List ExecutionRow) (revision : ℕ) (reasons : List String) (e),
        derivedActivity heads = some (.waiting, reasons) → e ∈ openHeads later τ →
        e.state.isActiveHead = true →
        compareAndSetTaskActivity τ revision .waiting reasons later = .ok (none, later) := by
  have hid : t.id = τ := key_of_find? ht
  refine ⟨?_, ?_, ?_⟩
  · intro target reasons hprojected
    obtain ⟨hs, hheads, h⟩ := bind_eq_some_iff.1 hprojected
    obtain ⟨t', -, -, -, hset⟩ := compareAndSetTaskActivity_derived ht hheads h
    refine ⟨?_, t', hset⟩
    rw [openHeads_of_taskHeads hheads]
    exact activityHolds_of_derived h
  · cases hheads : taskHeads db τ with
    | none =>
      have hfew : ¬ (listTaskBranches db τ).length ≤ 1 := by omega
      unfold taskHeads at hheads
      refine .inl ⟨rfl, ?_⟩
      simp only [reconcileMultibranchTaskActivity, hlive, Bool.false_eq_true, if_false,
        ensure_bind_error, reads_bind_error, hfew, expect_bind_error, hheads]
      exact .inr ⟨hid, .inl ⟨trivial, trivial⟩⟩
    | some hs =>
      refine .inr ?_
      cases hderived : derivedActivity hs with
      | none =>
        have hsame := (reconcile_eq (x := (some t, db)) hid hlive hmany hheads).2
        rw [hderived] at hsame
        exact ⟨t, db, hsame rfl, ht, hsame rfl⟩
      | some activity =>
        obtain ⟨target, reasons⟩ := activity
        have hfirst := fun x => (reconcile_eq (x := x) hid hlive hmany hheads).2
        rw [hderived] at hfirst
        by_cases hsame : t.status = target ∧ sortedStrings t.waitReasons = reasons
        · simp only [if_pos hsame] at hfirst
          exact ⟨t, db, hfirst _ rfl, ht, hfirst _ rfl⟩
        · obtain ⟨t', hid', hstatus, hreasons, hset⟩ :=
            compareAndSetTaskActivity_derived ht hheads hderived
          simp only [if_neg hsame] at hfirst
          refine ⟨t', _, hfirst _ hset, find?_put_same ht hid', ?_⟩
          -- the heads are those of before, and the task says what they stand for
          have hlive' : t'.status.isTerminal = false := by
            rw [hstatus]
            rcases (derivedActivity_target hderived).1 with rfl | rfl <;> rfl
          have hheads' : taskHeads { db with tasks := db.tasks.put t' } τ = some hs :=
            hheads ▸ taskHeads_congr rfl rfl
          refine (reconcile_eq (hid'.trans hid) hlive' ?_ hheads').2 ?_
          · exact hmany
          rw [hderived, hstatus, hreasons]
          exact (if_pos ⟨rfl, derivedActivity_sorted hderived⟩).mpr rfl
  · intro later heads revision reasons e hwaiting he hactive
    have hreasons : reasons ≠ [] := (derivedActivity_target hwaiting).2 rfl
    simp only [compareAndSetTaskActivity, steps_ok]
    refine ⟨.inr trivial, fun _ => hreasons, compareAndSet_none.2 ⟨fun r _ hguard => ?_, rfl⟩⟩
    have hquiet : (openHeads later τ).any (·.state.isActiveHead) = false := hguard.2.1
    rw [any_eq_true.2 ⟨e, he, hactive⟩] at hquiet
    cases hquiet

/-- The fork is discarded: the task is written as waiting like its last head, and the second time is
idle. -/
theorem activity_update_succeeds_sampleDiscard :
    ∃ t t' db', getTask (after {} (sampleSplit ++ [sampleDiscard])) "task" = some t ∧
      t.status = .running ∧
      reconcileMultibranchTaskActivity "task" t (after {} (sampleSplit ++ [sampleDiscard])) =
        .ok (some t', db') ∧ t'.status = .waiting ∧
      reconcileMultibranchTaskActivity "task" t' db' = .ok (some t', db') := by
  generalize hs : after {} (sampleSplit ++ [sampleDiscard]) = s
  have htask : (getTask s "task").map (·.status) = some .running := by subst hs; decide +kernel
  have hmany : 1 < (listTaskBranches s "task").length := by subst hs; decide +kernel
  have hwritten : ((getTask s "task").bind fun t =>
      (reconcileMultibranchTaskActivity "task" t s).toOption.bind fun r => r.1.map (·.status)) =
      some .waiting := by subst hs; decide +kernel
  obtain ⟨t, ht, hrunning⟩ := map_eq_some_iff.1 htask
  rw [ht, bind_some] at hwritten
  rcases (activity_update_succeeds ht (by rw [hrunning]; rfl) hmany).2.1 with
    ⟨-, hfails⟩ | ⟨t', db', hfirst, -, hagain⟩
  · rw [hfails] at hwritten
    cases hwritten
  · rw [hfirst] at hwritten
    exact ⟨t, t', db', ht, hrunning, hfirst, Option.some.inj hwritten, hagain⟩

end AssistantRuntime.Runtime

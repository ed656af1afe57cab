/-
**The activity of a task follows its branches, except after a discard and a recovery.**

The activity of a task with several branches is derived from the heads of its open branches.  The
operations that change heads are spread over the runtime: a fork says itself that the task runs, a
consumed claim and an expired wait derive the activity again, and an activation leaves the states of
heads alone.  Two operations do nothing about the activity.  `discard_branch` may cancel the one head
that ran, and `recover_task_scoped_execution` may stop it; the task then goes on as running, although
its heads wait.

Main results:

* `activity_agrees_iff` — **a task that agrees with its heads agrees with them after an operation
  exactly if the operation does not silence it**;
* `activity_lost` — a discard that leaves a task running while its head waits.
-/

import AssistantRuntime.Runtime.BranchQuiet
import AssistantRuntime.TaskBudget.Projection

namespace AssistantRuntime.Runtime

open Relational Uow Table Agent TaskBudget Persistence List Option

variable {D : Digests} {db db' : Db D} {τ : String}

/-! ### Operations that derive the activity again -/

/-- The activity of a task was derived again, in a state `s` with the executions and branches of
`db'` and a task whose revision alone may have moved. -/
def TaskRederived (db db' : Db D) (taskId : String) (ended : Bool) : Prop :=
  ∃ (t t₁ t' : TaskRow) (s s' : Db D), getTask db taskId = some t ∧
    (t.status.isTerminal = false ∨ ended = true) ∧ t₁.status = t.status ∧
    t₁.waitReasons = t.waitReasons ∧ s.executions = db'.executions ∧
    s.branches = db'.branches ∧ getTask s taskId = some t₁ ∧
    (∀ σ, σ ≠ taskId → getTask s σ = getTask db σ) ∧
    reconcileMultibranchTaskActivity taskId t₁ s = .ok (some t', s') ∧ db'.tasks = s'.tasks

/-- An execution moved to a state in which it does not wait, and the activity of its task was derived
again. -/
def Rederives (db db' : Db D) : Prop :=
  ∃ e e', getExecution db e.id = some e ∧ e.SameLineage e' ∧ e'.state.isWaitingHead = false ∧
    db'.executions = db.executions.put e' ∧ db'.branches = db.branches ∧
    ((e.taskId = none ∧ db'.tasks = db.tasks) ∨
      ∃ taskId, e.taskId = some taskId ∧ TaskRederived db db' taskId e'.state.isTerminal)

variable {hs : List ExecutionRow} {e' : ExecutionRow}

/-- The heads of a task, after an execution moved that is not one of them. -/
theorem map_replacing (h : ∀ r ∈ hs, r.id ≠ e'.id) :
    hs.map (replacing e') = hs := by
  have hsame : ∀ r ∈ hs, replacing e' r = id r := fun r hr => if_neg (h r hr)
  rw [map_congr_left hsame, List.map_id]

theorem projectedActivity_of_heads (h : taskHeads db τ = some hs) :
    projectedActivity db τ = derivedActivity hs := by
  rw [projectedActivity, h]
  rfl

variable {e : ExecutionRow}

theorem taskHeads_other (he : getExecution db e.id = some e) (hlineage : e.SameLineage e')
    (hexecutions : db'.executions = db.executions.put e') (hbranches : db'.branches = db.branches)
    (hother : e.taskId ≠ some τ) :
    taskHeads db' τ = taskHeads db τ := by
  rw [taskHeads_put hexecutions hbranches he hlineage]
  cases hheads : taskHeads db τ with
  | none => rfl
  | some hs =>
    refine congrArg some (map_replacing fun r hr hid => hother ?_)
    obtain ⟨b, -, -, -, hget, htask, -⟩ := (mem_currentExecutions hheads).1 hr
    rw [hid, hlineage.id] at hget
    rw [mem_unique he hget]
    exact htask

/-- What heads stand for when one of them has stopped to wait, they stood for something before. -/
theorem derivedActivity_isSome (hwaiting : e'.state.isWaitingHead = false) {reasons : List String}
    (h : derivedActivity (hs.map (replacing e')) = some (.waiting, reasons)) :
    derivedActivity hs ≠ none := by
  rcases derivedActivity_cases h with ⟨hrunning, -⟩ | ⟨-, -, r', hr', hwaits⟩
  · cases hrunning
  · obtain ⟨r, hr, rfl⟩ := mem_map.1 hr'
    intro hnone
    refine (derivedActivity_eq_none.1 hnone r hr).2 ?_
    unfold replacing at hwaits
    split at hwaits
    · rw [Waits, hwaiting] at hwaits
      cases hwaits.1
    · exact hwaits

/-- Heads that stood for nothing stand for nothing when one more has ended. -/
theorem derivedActivity_ended
    (hended : e'.state.isTerminal = true) (h : derivedActivity hs = none) :
    derivedActivity (hs.map (replacing e')) = none := by
  refine derivedActivity_eq_none.2 fun r' hr' => ?_
  obtain ⟨r, hr, rfl⟩ := mem_map.1 hr'
  unfold replacing
  split
  · obtain ⟨hactive, hwaiting⟩ := not_active_of_terminal hended
    exact ⟨hactive, fun hwaits => by simp [Waits, hwaiting] at hwaits⟩
  · exact derivedActivity_eq_none.1 h r hr

variable {taskId : String}

theorem TaskRederived.getTask_other {ended : Bool}
    (h : TaskRederived db db' taskId ended) (hne : τ ≠ taskId) : getTask db' τ = getTask db τ := by
  obtain ⟨t, t1, t', s, s', -, -, -, -, -, -, ht1, hothers, hreconcile, htasks⟩ := h
  rw [← hothers τ hne, getTask, htasks]
  rcases reconcileMultibranchTaskActivity_some hreconcile with
    ⟨-, rfl⟩ | ⟨-, -, r, hr, -, hr', rfl⟩
  · rfl
  · have hkey : r.id = taskId := key_of_find? hr
    exact find?_put_of_ne fun hk => hne (hk.trans (hr'.trans hkey))

/-- **A task agrees with its heads after its activity was derived again.** -/
theorem Rederives.agrees (h : Rederives db db') (hmany : 1 < (listTaskBranches db τ).length)
    (hagrees : ActivityAgrees db τ) : ActivityAgrees db' τ := by
  obtain ⟨e, e', he, hlineage, hwaiting, hexecutions, hbranches, hcases⟩ := h
  by_cases hτ : e.taskId = some τ
  · obtain ⟨hnone, -⟩ | ⟨taskId, htask, hrederived⟩ := hcases
    · rw [hnone] at hτ
      cases hτ
    obtain rfl : taskId = τ := mem_unique htask hτ
    obtain ⟨t, t1, t', s, s', ht, hlive, hstatus, hreasons, hsexecutions, hsbranches, ht1, -,
      hreconcile, htasks⟩ := hrederived
    have hheads : taskHeads s taskId = (taskHeads db taskId).map (List.map (replacing e')) :=
      taskHeads_put (hsexecutions.trans hexecutions) (hsbranches.trans hbranches) he hlineage
    have hframe : s' = { s with tasks := s'.tasks } := by
      obtain ⟨-, -, -, hframe⟩ := reconcileMultibranchTaskActivity_log hreconcile ht1
      exact hframe
    have hprojected : projectedActivity db' taskId = projectedActivity s' taskId := by
      rw [hframe]
      exact projectedActivity_congr hsexecutions.symm hsbranches.symm
    have hgetTask : getTask db' taskId = getTask s' taskId := by
      rw [getTask, htasks]
      rfl
    refine ActivityAgrees.congr ?_ hgetTask hprojected
    cases hterminal : t.status.isTerminal with
    | false =>
      have hmany' : 1 < (listTaskBranches s taskId).length := by
        rw [listTaskBranches, hsbranches, hbranches]
        exact hmany
      refine reconcile_agrees hreconcile ht1 (hstatus ▸ hterminal) hmany' fun reasons hproj => ?_
      -- the heads stood for something before, so that the stored reasons are theirs
      rw [projectedActivity, hheads, bind_map] at hproj
      obtain ⟨hs, hold, hproj⟩ := bind_eq_some_iff.1 hproj
      obtain ⟨activity, hactivity⟩ :=
        ne_none_iff_exists'.1 (derivedActivity_isSome hwaiting hproj)
      have hbefore := (projectedActivity_of_heads hold).trans hactivity
      rw [hreasons, show t.waitReasons = activity.2 from
        congrArg Prod.snd (hagrees t activity ht hbefore)]
      exact derivedActivity_sorted hactivity
    | true =>
      have hended : e'.state.isTerminal = true := by
        rw [hterminal] at hlive
        simpa using hlive
      intro t2 activity ht2 hactivity
      have hnone := hagrees.none_of_terminal ht hterminal
      rw [hframe, show projectedActivity { s with tasks := s'.tasks } taskId =
        projectedActivity s taskId from projectedActivity_congr rfl rfl, projectedActivity,
        hheads, bind_map] at hactivity
      obtain ⟨hs, hold, hactivity⟩ := bind_eq_some_iff.1 hactivity
      rw [projectedActivity_of_heads hold] at hnone
      rw [Function.comp_apply, derivedActivity_ended hended hnone] at hactivity
      cases hactivity
  · -- the execution is not of this task
    refine hagrees.congr ?_ (congrArg (Option.bind · derivedActivity)
      (taskHeads_other he hlineage hexecutions hbranches hτ))
    rcases hcases with ⟨-, htasks⟩ | ⟨taskId, htask, hrederived⟩
    · rw [getTask, htasks]
      rfl
    · exact hrederived.getTask_other fun hne => hτ (hne ▸ htask)

/-! ### The operations that rederive -/

/-- The operation wrote no task, no execution and no branch. -/
def Aside (db db' : Db D) : Prop :=
  db'.tasks = db.tasks ∧ db'.executions = db.executions ∧ db'.branches = db.branches

theorem agrees_of_aside_or_rederives (h : Aside db db' ∨ Rederives db db')
    (hmany : 1 < (listTaskBranches db τ).length) (hagrees : ActivityAgrees db τ) :
    ActivityAgrees db' τ := by
  rcases h with ⟨htasks, hexecutions, hbranches⟩ | hrederives
  · refine hagrees.congr ?_ (projectedActivity_congr hexecutions hbranches)
    rw [getTask, htasks]
    rfl
  · exact hrederives.agrees hmany hagrees

variable {executionId : String}

theorem expireWaiting_activity {sourceRevision : ℕ} {values : ExecutionPatch} {o : Option ℕ}
    (h : expireTaskScopedWaitingExecution taskId executionId sourceRevision values db =
      .ok (o, db')) : Aside db db' ∨ Rederives db db' := by
  obtain rfl | ⟨task, e, task', htask, he, howner, -, -, hstate, hactivity⟩ :=
    expireTaskScopedWaitingExecution_ok h
  · exact .inl ⟨rfl, rfl, rfl⟩
  have hid : e.id = executionId := key_of_find? he
  obtain ⟨-, -, -, hframe⟩ := reconcileMultibranchTaskActivity_log hactivity htask
  refine .inr ⟨e, values.apply (sourceRevision + 1) e, hid ▸ he, ⟨rfl, rfl, rfl, rfl⟩, ?_, ?_, ?_,
    .inr ⟨taskId, howner, task, task, task',
      { db with executions := db.executions.put (values.apply (sourceRevision + 1) e) }, db', htask,
      .inr ?_, rfl, rfl, ?_, ?_, htask, fun _ _ => rfl, hactivity, rfl⟩⟩
  · rw [hstate]
    rfl
  · rw [hframe]
  · rw [hframe]
  · rw [hstate]
    rfl
  · rw [hframe]
  · rw [hframe]

variable {target : ClaimTarget} {task1 : Option TaskRow}

/-- The task of a claim is stored in `s` as `task₁`, and only its revision may have moved. -/
def KeepsTask (db s : Db D) (task₁ : Option TaskRow) : Option TaskRow → Prop
  | none => task₁ = none ∧ s.tasks = db.tasks
  | some t => ∃ t₁, task₁ = some t₁ ∧ t₁.id = t.id ∧ t₁.status = t.status ∧
      t₁.waitReasons = t.waitReasons ∧ getTask s t.id = some t₁ ∧
      ∀ σ, σ ≠ t.id → getTask s σ = getTask db σ

/-- What both kinds of claims do once they moved the execution. -/
theorem rederives_of_reconcileClaimTask {revision : ℕ} {s s' : Db D} {u : Unit}
    (hfits : target.Fits db executionId revision)
    (hreconcile : reconcileClaimTask task1 s = .ok (u, s'))
    (hexecutions : s.executions = db.executions.put e') (hbranches : s.branches = db.branches)
    (hlineage : target.execution.SameLineage e') (hwaiting : e'.state.isWaitingHead = false)
    (hkeeps : KeepsTask db s task1 target.task)
    (htasks' : db'.tasks = s'.tasks) (hexecutions' : db'.executions = s'.executions)
    (hbranches' : db'.branches = s'.branches) : Rederives db db' := by
  have hid : target.execution.id = executionId := key_of_find? hfits.execution
  have he : getExecution db target.execution.id = some target.execution := hid ▸ hfits.execution
  cases htarget : target.task with
  | none =>
    rw [htarget] at hkeeps
    obtain ⟨rfl, htasks⟩ := hkeeps
    obtain ⟨-, rfl⟩ := pure_mk.1 hreconcile
    have howner : target.execution.taskId = none := by
      simpa [htarget] using hfits.owned.symm
    exact ⟨_, e', he, hlineage, hwaiting, hexecutions'.trans hexecutions,
      hbranches'.trans hbranches, .inl ⟨howner, htasks'.trans htasks⟩⟩
  | some t =>
    obtain ⟨ht, howner⟩ := hfits.getTask_eq htarget
    rw [htarget] at hkeeps
    obtain ⟨t1, rfl, hid1, hstatus, hreasons, ht1, hothers⟩ := hkeeps
    simp only [reconcileClaimTask, orAbort_bind_ok, pure_mk] at hreconcile
    obtain ⟨t', s1, hactivity, -, hs⟩ := hreconcile
    subst hs
    rw [hid1] at hactivity
    obtain ⟨-, -, -, hframe⟩ := reconcileMultibranchTaskActivity_log hactivity ht1
    have hse : s'.executions = s.executions := by rw [hframe]
    have hsb : s'.branches = s.branches := by rw [hframe]
    exact ⟨_, e', he, hlineage, hwaiting, hexecutions'.trans (hse.trans hexecutions),
      hbranches'.trans (hsb.trans hbranches), .inr ⟨t.id, howner, t, t1, t', s, s', ht,
        .inl (hfits.live t htarget), hstatus, hreasons, (hexecutions'.trans hse).symm,
        (hbranches'.trans hsb).symm, ht1, hothers, hactivity, htasks'⟩⟩

/-- The task of an execution that wakes up, after its epoch moved and its budget gave a slot. -/
theorem Occupies.keepsTask {delegated : Bool} {revision : ℕ} {db1 : Db D}
    (hfits : target.Fits db executionId revision) (h : Occupies db delegated target.task db1) :
    KeepsTask db db1 (target.task.map fun t => { t with revision := t.revision + 1 })
      target.task := by
  cases ht : target.task with
  | none =>
    rw [ht] at h
    cases h
    exact ⟨rfl, rfl⟩
  | some t =>
    rw [ht] at h
    obtain ⟨b, reservations, -, -, -, rfl⟩ := h
    refine ⟨_, rfl, rfl, rfl, rfl, find?_put_same (hfits.getTask_eq ht).1 rfl, ?_⟩
    exact fun σ hσ => find?_put_of_ne hσ

variable {claim : ClaimRow D.Plan} {spec : ResumeClaimConsumeSpec D.Plan}
  {o : Except ClaimRejection ResumeClaimConsumeResult}

theorem expireWait_rederives
    (hfits : target.Fits db spec.plan.executionId spec.plan.expectedExecutionRevision)
    (h : expireWait spec claim target db = .ok (o, db')) : Rederives db db' := by
  simp only [expireWait, compareAndSetWaitingExecution, updateExecution_bind_ok,
    compareAndSetResumeClaim_bind_ok] at h
  obtain ⟨e, he, -, c, hc, -, h⟩ := h
  obtain rfl : e = target.execution := mem_unique he hfits.execution
  obtain ⟨u, db2, hreconcile, h⟩ := bind_ok.1 h
  obtain ⟨-, rfl⟩ := pure_mk.1 h
  refine rederives_of_reconcileClaimTask hfits hreconcile rfl rfl ⟨rfl, rfl, rfl, rfl⟩ rfl ?_ rfl rfl
    rfl
  cases ht : target.task with
  | none => exact ⟨rfl, rfl⟩
  | some t => exact ⟨t, rfl, rfl, rfl, rfl, (hfits.getTask_eq ht).1, fun _ _ => rfl⟩

theorem activated_rederives {claimId : String} {revision : ℕ}
    (hfits : target.Fits db executionId revision) (h : Activated db claimId target db') :
    Rederives db db' := by
  obtain ⟨db1, s, s', u, e', hreconcile, hoccupies, htasks, hexecutions, hbranches, hlineage, hrunning,
    htasks', hexecutions', hbranches'⟩ := h.derived
  refine rederives_of_reconcileClaimTask hfits hreconcile hexecutions hbranches hlineage
    (by rw [hrunning]; rfl) ?_ htasks' hexecutions' hbranches'
  have hkeeps := Occupies.keepsTask hfits hoccupies
  unfold KeepsTask getTask at hkeeps ⊢
  rwa [htasks]

/-- Consuming a claim derives the activity again wherever it moved an execution. -/
theorem aside_or_rederives_of_consumption (h : Consumption db db') :
    Aside db db' ∨ Rederives db db' := by
  cases h with
  | replayed => exact .inl ⟨rfl, rfl, rfl⟩
  | refused _ h =>
    rcases compareAndSetResumeClaim_ok h with ⟨c, -, -, -, rfl⟩ | ⟨-, rfl⟩ <;>
      exact .inl ⟨rfl, rfl, rfl⟩
  | timedOut hfits h => exact .inr (expireWait_rederives hfits h)
  | activated _ hfits h => exact .inr (activated_rederives hfits h)

/-! ### Operations that leave the activity as it is, or set it -/

theorem agrees_of_activates (h : Activates executionId db db')
    (hagrees : ActivityAgrees db τ) : ActivityAgrees db' τ := by
  obtain ⟨taskId, branchId, e, startedAt, he, ⟨-, hrunning, -⟩, hdb⟩ := h
  have htask : getTask db' τ = getTask db τ := by rw [hdb]; rfl
  have hexecutions : db'.executions = db.executions.put ((activationPatch startedAt).apply 2 e) := by
    rw [hdb]
  have hbranches : db'.branches = db.branches := by rw [hdb]
  refine hagrees.congr htask ?_
  rw [projectedActivity, projectedActivity,
    taskHeads_put hexecutions hbranches he ⟨rfl, rfl, rfl, rfl⟩]
  cases hheads : taskHeads db τ with
  | none => rfl
  | some hs =>
    refine derivedActivity_map fun r hr => ?_
    obtain ⟨-, -, -, -, hget, -⟩ := (mem_currentExecutions hheads).1 hr
    unfold replacing
    split
    · next hid =>
        -- the head with the id of the activated execution is that execution
        have hx : e.id = executionId := key_of_find? he
        rw [hid, show ((activationPatch startedAt).apply 2 e).id = e.id from rfl, hx] at hget
        obtain rfl : e = r := mem_unique he hget
        exact ⟨hrunning.symm, fun _ => rfl⟩
    · exact ⟨rfl, fun _ => rfl⟩

variable {branchId : String}

/-- The head of a new branch runs, and so does its task. -/
theorem consumeForkPlan_agrees {plan : ForkPlan D.Plan}
    {evidence : PlanEvidence} {a : ForkAdmission D.Plan}
    (h : consumeForkPlan plan branchId executionId now evidence db = .ok (a, db'))
    (hagrees : ActivityAgrees db τ) : ActivityAgrees db' τ := by
  obtain ⟨-, ⟨receipt, -, hreplay⟩ | ⟨source, t, b, b', executions, branches, contexts,
    reservations, forks, ht, -, -, -, -, -, -, -, hexecutions, hbranches, -, -, -, rfl⟩⟩ :=
    consumeForkPlan_ok h
  · obtain ⟨rfl, -⟩ := replayForkAdmission_ok hreplay
    exact hagrees
  have hid : t.id = plan.taskId := key_of_find? ht
  have hnew := find?_insert? hexecutions
  by_cases hτ : τ = plan.taskId
  · -- the task of the fork runs, as its new head does
    subst hτ
    intro t1 activity ht1 hactivity
    have hput := find?_put_same (r := runningPatch.apply plan.expectedTaskRevision t) ht rfl
    obtain rfl := mem_unique ht1 hput
    obtain ⟨hs, hheads, hderived⟩ := bind_eq_some_iff.1 hactivity
    have hmem : forkedExecution plan source branchId executionId now ∈ hs := by
      refine (mem_currentExecutions hheads).2 ⟨forkBranch plan branchId executionId, ?_, rfl, rfl,
        (hnew _).trans (if_pos rfl), rfl, rfl⟩
      simp [listTaskBranches, rows_insert? hbranches, forkBranch]
    rw [derivedActivity_of_active hmem rfl] at hderived
    exact Option.some.inj hderived
  · -- the branches and the executions of another task are as they were
    refine hagrees.congr (find?_put_of_ne fun hk => hτ (hk.trans hid)) ?_
    refine congrArg (Option.bind · derivedActivity) ?_
    have hsame : listTaskBranches { db with branches } τ = listTaskBranches db τ := by
      simp [listTaskBranches, rows_insert? hbranches, forkBranch, Ne.symm hτ]
    refine Eq.trans ?_ (congrArg (currentExecutions db τ) hsame)
    exact currentExecutions_insert hexecutions (fun hk => hτ (Option.some.inj hk).symm) _

/-! ### Operations that forget the activity -/

/-- The operation discards or recovers the last running head of a task, and others wait. -/
def Request.SilencesTask (db : Db D) (taskId : String) : Request D → Prop
  | .discardBranch _ branchId _ _ => ∃ hs, taskHeads db taskId = some hs ∧
      (∃ e ∈ hs, e.branchId = some branchId ∧ e.state = .running) ∧
      (∀ e ∈ hs, e.branchId ≠ some branchId → e.state.isActiveHead = false) ∧
      ∃ e ∈ hs, e.branchId ≠ some branchId ∧ Waits e
  | .recover _ executionId .. => ∃ hs, taskHeads db taskId = some hs ∧
      (∃ e ∈ hs, e.id = executionId ∧ e.state = .running) ∧
      ∀ e ∈ hs, e.id ≠ executionId → e.state.isActiveHead = false
  | _ => False

variable {result : BranchDiscardResult} {targetUserId : String}

/-- The heads of a task, after a branch was discarded: the head of that branch is none of them. -/
theorem taskHeads_discard {b : BranchRow}
    (h : discardBranch taskId branchId targetUserId now db = .ok (result, db'))
    (hb : getTaskBranch db branchId = some b) (hopen : b.resolutionState = .open) :
    taskHeads db' τ = (taskHeads db τ).map (List.filter fun e => e.branchId ≠ some branchId) := by
  have hstanding : Standing db db' := (Request.discardBranch taskId branchId targetUserId now).standing
    id h
  obtain ⟨task, budget, selected, -, -, hselected, hselTask, hcases⟩ := discardBranch_ok h
  obtain rfl : selected = b := mem_unique hselected hb
  rcases hcases with ⟨hdiscarded, -⟩ | ⟨-, -, -, released, executions, hrelease, -, hdb⟩
  · rw [hdiscarded] at hopen
    cases hopen
  obtain ⟨hhead, hothers⟩ := releaseHead_rows hrelease
  have hid : selected.branchId = branchId := key_of_find? hb
  obtain ⟨closed, hclosed⟩ : ∃ c, c =
      ({ resolutionState := some .discarded : BranchPatch }.apply selected.revision selected) :=
    ⟨_, rfl⟩
  rw [← hclosed] at hdb
  have hcid : closed.branchId = branchId := by
    rw [hclosed]
    exact hid
  -- the heads of the branches, one of which is closed, before the head of that one is released
  have hclose : currentExecutions db τ (listTaskBranches db' τ) =
      (taskHeads db τ).map (List.filter fun e => e.branchId ≠ some branchId) := by
    rw [listTaskBranches_put (by rw [hdb]) hb (by rw [hclosed]; rfl) (by rw [hclosed]; rfl), ← hcid]
    refine currentExecutions_close (by simp [hclosed, BranchPatch.apply]) fun r hr hrid x hx => ?_
    have hmem := mem_filter.1 hr
    obtain rfl : r = selected :=
      mem_unique (hrid.trans hcid ▸ find?_key hmem.1) hb
    obtain ⟨e, he, htask, hbranch, -⟩ := hhead x hx
    have hτ : r.taskId = τ := by simpa using hmem.2
    exact ⟨e, he, by rw [htask, ← hselTask, hτ], by rw [hbranch, hid]⟩
  rw [taskHeads, currentExecutions_standing hstanding, hclose]
  cases hheads : taskHeads db τ with
  | none => rfl
  | some hs =>
    refine congrArg some ?_
    -- the heads of the other branches did not move
    have hsame : ∀ e ∈ hs.filter (fun e => e.branchId ≠ some branchId), became db' e = id e := by
      intro e he
      obtain ⟨hmem, hbranch⟩ := mem_filter.1 he
      obtain ⟨-, -, -, -, hget, -⟩ := (mem_currentExecutions hheads).1 hmem
      have hne : selected.currentExecutionId ≠ some e.id := by
        intro hx
        obtain ⟨e0, he0, -, hon, -⟩ := hhead e.id hx
        obtain rfl : e0 = e := mem_unique he0 hget
        simp [hon] at hbranch
      have hget' : getExecution db' e.id = some e := by
        rw [hdb]
        exact (hothers e.id hne).trans hget
      simp [became, hget']
    rw [map_congr_left hsame, List.map_id]

theorem head_of_branch (hheads : taskHeads db τ = some hs) (he : e ∈ hs)
    (hbranch : e.branchId = some branchId) {b : BranchRow} (hb : getTaskBranch db branchId =
      some b) :
    b.resolutionState = .open ∧ b.taskId = τ ∧ b.currentExecutionId = some e.id ∧
      getExecution db e.id = some e := by
  obtain ⟨r, hr, hopen, hhead, hget, -, hon⟩ := (mem_currentExecutions hheads).1 he
  obtain ⟨hmem, htask⟩ := mem_filter.1 hr
  obtain rfl : branchId = r.branchId := mem_unique hbranch hon
  obtain rfl : r = b := mem_unique (find?_key hmem) hb
  exact ⟨hopen, by simpa using htask, hhead, hget⟩

/-- A task that runs, and whose row did not move, agrees with its heads as long as one of them is
active or none of them waits. -/
theorem agrees_iff_of_running {t : TaskRow} {hs' : List ExecutionRow}
    (hagrees : ActivityAgrees db τ) (ht : getTask db τ = some t)
    (hgetTask : getTask db' τ = getTask db τ) (hheads : taskHeads db τ = some hs)
    (hheads' : taskHeads db' τ = some hs') (he : e ∈ hs) (hrunning : e.state = .running) :
    ActivityAgrees db' τ ↔
      ¬ ((∀ r ∈ hs', r.state.isActiveHead = false) ∧ ∃ r ∈ hs', Waits r) := by
  have hactive : derivedActivity hs = some (.running, []) :=
    derivedActivity_of_active he (by rw [hrunning]; rfl)
  have hstored := hagrees t _ ht ((projectedActivity_of_heads hheads).trans hactive)
  constructor
  · rintro hafter ⟨hquiet, r, hr, hwaits⟩
    have hstored' := hafter t _ (hgetTask.trans ht)
      ((projectedActivity_of_heads hheads').trans (derivedActivity_of_waits hquiet hr hwaits))
    rw [hstored] at hstored'
    cases hstored'
  · intro hnot t1 activity ht1 hactivity
    rw [hgetTask] at ht1
    rw [projectedActivity_of_heads hheads'] at hactivity
    obtain rfl : t1 = t := mem_unique ht1 ht
    rcases derivedActivity_cases hactivity with ⟨rfl, -⟩ | ⟨-, hsilent⟩
    · exact hstored
    · exact absurd hsilent hnot

theorem agrees_of_taskHeads (h : taskHeads db τ = none) : ActivityAgrees db τ := by
  intro t activity _ hactivity
  rw [projectedActivity, h] at hactivity
  cases hactivity

/-- **A discard keeps the agreement exactly if it does not silence the task.** -/
theorem discardBranch_agrees_iff
    (h : discardBranch taskId branchId targetUserId now db = .ok (result, db'))
    (hagrees : ActivityAgrees db τ) :
    ActivityAgrees db' τ ↔
      ¬ (Request.discardBranch taskId branchId targetUserId now).SilencesTask db τ := by
  obtain ⟨task, budget, b, htask, -, hb, hbTask, hcases⟩ := discardBranch_ok h
  obtain ⟨hdiscarded, rfl⟩ | ⟨hopen, -, -, released, executions, hrelease, -, hdb⟩ := hcases
  · -- nothing happened, and no head is on a branch that is not open
    refine iff_of_true hagrees ?_
    rintro ⟨hs, hheads, ⟨e, he, hbranch, -⟩, -⟩
    have hopen := (head_of_branch hheads he hbranch hb).1
    rw [hdiscarded] at hopen
    cases hopen
  have hgetTask : getTask db' τ = getTask db τ := by
    rw [hdb]
    rfl
  have hheads' : taskHeads db' τ = _ := taskHeads_discard h hb hopen
  cases hheads : taskHeads db τ with
  | none =>
    rw [hheads] at hheads'
    exact iff_of_true (agrees_of_taskHeads hheads') (by simp [Request.SilencesTask, hheads])
  | some hs =>
    rw [hheads] at hheads'
    by_cases hrun : ∃ e ∈ hs, e.branchId = some branchId ∧ e.state = .running
    · -- the task runs; what the other heads stand for decides
      obtain ⟨e, he, hbranch, hrunning⟩ := hrun
      obtain ⟨-, hτ, -⟩ := head_of_branch hheads he hbranch hb
      obtain rfl : taskId = τ := hbTask.symm.trans hτ
      refine (agrees_iff_of_running hagrees htask hgetTask hheads hheads' he hrunning).trans
        (not_congr ?_)
      simp only [mem_filter, decide_eq_true_eq, Request.SilencesTask, hheads,
        Option.some.injEq, exists_eq_left', and_imp, and_assoc]
      exact ⟨fun hsilent => ⟨⟨e, he, hbranch, hrunning⟩, hsilent⟩, And.right⟩
    · -- the head of the branch has ended, if it has one
      refine iff_of_true (hagrees.congr hgetTask ?_) ?_
      · rw [projectedActivity_of_heads hheads, projectedActivity_of_heads hheads']
        refine derivedActivity_filter fun e he hp => ?_
        have hbranch : e.branchId = some branchId := by simpa using hp
        obtain ⟨-, -, hhead, hget⟩ := head_of_branch hheads he hbranch hb
        obtain ⟨e0, he0, -, -, e1, -, hterminal, hcases⟩ := (releaseHead_rows hrelease).1 _ hhead
        obtain rfl : e0 = e := mem_unique he0 hget
        rcases hcases with rfl | ⟨hrunning, -⟩
        · exact hterminal
        · exact absurd ⟨e0, he, hbranch, hrunning⟩ hrun
      · rintro ⟨hs', hsome, hexists, -⟩
        obtain rfl : hs' = hs := mem_unique hsome hheads
        exact hrun hexists

/-- **A recovery keeps the agreement exactly if it does not silence the task.** -/
theorem recover_agrees_iff {lease : ObservedLease}
    {observedRevision : Option ℕ} {expectedGeneration : Option ℤ} {evidence : RecoveryEvidence}
    {n : ℕ}
    (h : recoverTaskScopedExecution taskId executionId lease observedRevision expectedGeneration
      evidence db = .ok (n, db'))
    {t : TaskRow} (ht : getTask db τ = some t)
    (hagrees : ActivityAgrees db τ) :
    ActivityAgrees db' τ ↔
      ¬ (Request.recover taskId executionId lease observedRevision expectedGeneration
        evidence).SilencesTask db τ := by
  obtain ⟨e, b, he, htask, -, ⟨hwaiting, rfl⟩ | ⟨hlease, e', b', checkpoints, pendingInvocations,
    reservations, hlineage, -, hwaiting, hreason, -, -, -, hdb⟩⟩ := recoverTaskScopedExecution_ok h
  · refine iff_of_true hagrees ?_
    rintro ⟨hs, hheads, ⟨r, hr, hid, hrunning⟩, -⟩
    obtain ⟨-, -, -, -, hget, -⟩ := (mem_currentExecutions hheads).1 hr
    rw [hid] at hget
    obtain rfl : r = e := mem_unique hget he
    rw [hwaiting] at hrunning
    cases hrunning
  have hx : e.id = executionId := key_of_find? he
  have hx' : e'.id = executionId := hlineage.id.trans hx
  have hgetTask : getTask db' τ = getTask db τ := by
    rw [hdb]
    rfl
  have hheads' : taskHeads db' τ = _ :=
    taskHeads_put (by rw [hdb]) (by rw [hdb]) he hlineage
  cases hheads : taskHeads db τ with
  | none =>
    rw [hheads] at hheads'
    exact iff_of_true (agrees_of_taskHeads hheads') (by simp [Request.SilencesTask, hheads])
  | some hs =>
    rw [hheads] at hheads'
    by_cases hmem : e ∈ hs
    · -- the task runs; whether another head is active decides
      have hwaits : Waits e' := by
        rw [Waits, ExecutionRow.normalizedWaitReason, hwaiting, hreason]
        exact ⟨rfl, rfl⟩
      have hmem' : e' ∈ hs.map (replacing e') :=
        mem_map.2 ⟨e, hmem, if_pos hlineage.id.symm⟩
      refine (agrees_iff_of_running hagrees ht hgetTask hheads hheads' hmem hlease.1).trans
        (not_congr ⟨fun hsilent => ?_, ?_⟩)
      · refine ⟨hs, hheads, ⟨e, hmem, hx, hlease.1⟩, fun r hr hne => ?_⟩
        have hsame : replacing e' r = r := if_neg fun hid => hne (hid.trans hx')
        exact hsame ▸ hsilent.1 _ (mem_map.2 ⟨r, hr, rfl⟩)
      · rintro ⟨hs', hsome, -, hquiet⟩
        obtain rfl : hs' = hs := mem_unique hsome hheads
        refine ⟨fun r' hr' => ?_, e', hmem', hwaits⟩
        obtain ⟨r, hr, rfl⟩ := mem_map.1 hr'
        unfold replacing
        split
        · rw [hwaiting]
          rfl
        · next hne => exact hquiet r hr fun hid => hne (hid.trans hx'.symm)
    · -- the execution is no head of the task
      have hne : ∀ r ∈ hs, r.id ≠ e'.id := by
        intro r hr hid
        obtain ⟨-, -, -, -, hget, -⟩ := (mem_currentExecutions hheads).1 hr
        rw [hid, hx'] at hget
        obtain rfl : r = e := mem_unique hget he
        exact hmem hr
      rw [map_some, map_replacing hne] at hheads'
      refine iff_of_true (hagrees.congr hgetTask ((projectedActivity_of_heads hheads').trans
        (projectedActivity_of_heads hheads).symm)) ?_
      rintro ⟨hs', hsome, ⟨r, hr, hid, -⟩, -⟩
      obtain rfl : hs' = hs := mem_unique hsome hheads
      exact hne r hr (hid.trans hx'.symm)

/-! ### The activity of a task -/

/-- Operations that change the heads of branches or what becomes of them: a discard, a fork, an
activation, a recovery, a consumed claim and an expired wait. -/
def Request.ConcernsHeads : Request D → Prop
  | .discardBranch .. => True
  | .consumeForkPlan .. => True
  | .activateFork .. => True
  | .activateRetry .. => True
  | .activateAggregate .. => True
  | .recover .. => True
  | .consumeResumeClaim .. => True
  | .consumeRecoveryClaim .. => True
  | .expireWaiting .. => True
  | _ => False

/-- **A task with several branches that agrees with its heads agrees with them after an operation
exactly if the operation does not discard or recover its last running head.** -/
theorem activity_agrees_iff {t : TaskRow} (ht : getTask db τ = some t)
    (hmany : 1 < (listTaskBranches db τ).length) (hagrees : ActivityAgrees db τ) (r : Request D)
    (hr : r.ConcernsHeads) {a : r.Answer} (h : r.perform db = .ok (a, db')) :
    ActivityAgrees db' τ ↔ ¬ r.SilencesTask db τ := by
  cases r with
  | discardBranch => exact discardBranch_agrees_iff h hagrees
  | recover => exact recover_agrees_iff h ht hagrees
  | consumeForkPlan => exact iff_of_true (consumeForkPlan_agrees h hagrees) id
  | activateFork => exact iff_of_true (agrees_of_activates (activateForkExecution_ok h) hagrees) id
  | activateRetry => exact iff_of_true (agrees_of_activates (activateRetryExecution_ok h) hagrees) id
  | activateAggregate =>
    exact iff_of_true (agrees_of_activates (activateAggregateExecution_ok h) hagrees) id
  | consumeResumeClaim =>
    exact iff_of_true (agrees_of_aside_or_rederives
      (aside_or_rederives_of_consumption (consumeResumeClaimOnce_cases h)) hmany hagrees) id
  | consumeRecoveryClaim =>
    exact iff_of_true (agrees_of_aside_or_rederives
      (aside_or_rederives_of_consumption (consumeRecoveryClaimOnce_cases h)) hmany hagrees) id
  | expireWaiting =>
    exact iff_of_true (agrees_of_aside_or_rederives (expireWaiting_activity h) hmany hagrees) id
  | _ => exact absurd hr id

/-! ### A task that goes on as running while its head waits

The root waits for its client and is forked, and the fork is discarded before it is activated. -/

/-- What a task says, and what its heads stand for. -/
def activities (db : Db D) (taskId : String) :
    Option (TaskStatus × List String) × Option (TaskStatus × List String) :=
  ((getTask db taskId).map fun t => (t.status, t.waitReasons), projectedActivity db taskId)

theorem agrees_of_activities {activity : TaskStatus × List String}
    (h : activities db τ = (some activity, some activity)) : ActivityAgrees db τ := by
  obtain ⟨hstored, hprojected⟩ := Prod.mk.inj h
  intro t activity' ht hactivity'
  rw [ht, map_some] at hstored
  exact Option.some.inj (hstored.trans (hprojected.symm.trans hactivity'))

theorem not_agrees_of_activities {activity activity' : TaskStatus × List String}
    (h : activities db τ = (some activity, some activity')) (hne : activity ≠ activity') :
    ¬ ActivityAgrees db τ := by
  obtain ⟨hstored, hprojected⟩ := Prod.mk.inj h
  obtain ⟨t, ht, hcolumns⟩ := map_eq_some_iff.1 hstored
  exact fun hagrees => hne (hcolumns.symm.trans (hagrees t activity' ht hprojected))

def sampleSplit : List (Request transparentDigests) :=
  sampleStart.take 3 ++ [sampleWait, forkAt 2]

def sampleDiscard : Request transparentDigests := .discardBranch "task" "r8_fork_1" "user" 9

/-- **The task runs and its head waits**, after a discard that was committed in a state in which the
two agreed. -/
theorem activity_lost :
    ActivityAgrees (after {} sampleSplit) "task" ∧
      (listTaskBranches (after {} sampleSplit) "task").length = 2 ∧
      (sampleDiscard.perform (after {} sampleSplit)).toOption.isSome = true ∧
      ¬ ActivityAgrees (stored sampleDiscard.perform (after {} sampleSplit)) "task" := by
  have hsplit : activities (after {} sampleSplit) "task" =
      (some (.running, []), some (.running, [])) := by decide +kernel
  have hdiscarded : activities (stored sampleDiscard.perform (after {} sampleSplit)) "task" =
      (some (.running, []), some (.waiting, ["CONNECTION"])) := by decide +kernel
  refine ⟨agrees_of_activities hsplit, by decide +kernel, by decide +kernel, ?_⟩
  exact not_agrees_of_activities hdiscarded (by decide)

/-- The root is resumed beside its fork: the task agrees with its heads again. -/
theorem activity_agrees_iff_sampleConsume :
    ActivityAgrees (stored sampleConsume.perform (after {} (sampleSplit ++ [sampleClaim])))
      "task" := by
  have hbefore : activities (after {} (sampleSplit ++ [sampleClaim])) "task" =
      (some (.running, []), some (.running, [])) := by decide +kernel
  have hmany : 1 < (listTaskBranches (after {} (sampleSplit ++ [sampleClaim])) "task").length := by
    decide +kernel
  have hok : (sampleConsume.perform (after {} (sampleSplit ++ [sampleClaim]))).toOption.isSome =
      true := by decide +kernel
  generalize after {} (sampleSplit ++ [sampleClaim]) = s at *
  obtain ⟨t, ht, -⟩ := map_eq_some_iff.1 (Prod.mk.inj hbefore).1
  obtain ⟨p, h⟩ := isSome_iff_exists.1 hok
  have h := ok_of_toOption h
  rw [stored_of_ok h]
  exact (activity_agrees_iff ht hmany (agrees_of_activities hbefore) sampleConsume trivial h).2 id

end AssistantRuntime.Runtime

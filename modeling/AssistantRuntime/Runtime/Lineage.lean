/-
**Where new executions come from.**

Five operations store executions: a root start, a delegated start, a fork, a retry and an
aggregation.  All others leave the executions where they stand.  This file says where a new execution
stands: on a branch that is open or new, and with the parent of nobody, of the head it continues, or
with the one that the caller of a delegated start gave.
-/

import AssistantRuntime.Runtime.Retention

namespace AssistantRuntime.Runtime

open Relational Uow Table Agent TaskBudget Persistence Option

variable {D : Digests} {db db' : Db D}

/-! ### Operations that store no execution -/

theorem standing_onUserBudgets {α : Type} (x : UserBudget.Tx α) :
    Respects Standing (onUserBudgets x : Tx D α) := by
  have : Respects (fun _ _ => True) x := ⟨fun _ => trivial⟩
  exact .within (T := fun _ _ => True) fun _ _ _ => .of_same rfl rfl

instance (taskId : String) (resolution : Option BudgetOwnerResolution) :
    Respects Standing (bindEnrolledTask taskId resolution : Tx D Unit) := by
  cases resolution with
  | none =>
    unfold bindEnrolledTask
    infer_instance
  | some resolution => exact standing_onUserBudgets _

instance (settings : Settings) (task : TaskRow) (limits : Option TaskBudgetLimits)
    (policy : Option TaskBudgetPolicy) (identity : Option Identity) :
    Respects Standing (createTaskWithBudget settings task limits policy identity : Tx D TaskRow) := by
  dsimp only [createTaskWithBudget, requireParentTask]
  exact .along

/-- **An operation that stores no execution leaves all of them standing.** -/
theorem Request.standing (r : Request D) (hr : ¬ r.Admits) {a : r.Answer}
    (h : r.perform db = .ok (a, db')) : Standing db db' := by
  refine (respects_perform r (fun _ => rfl) (fun hadmits => absurd hadmits hr) fun hcreates => ?_).rel h
  cases r <;> first
    | exact hcreates.elim
    | (dsimp only [Request.perform, Request.Answer]
       infer_instance)

/-! ### Operations that store one -/

/-- One execution of a task is stored, on a branch of the task that is open or new. -/
structure Admission (db db' : Db D) (taskId : String) (e : ExecutionRow) : Prop where
  stored : db.executions.insert? e = some db'.executions
  task : e.taskId = some taskId
  branch : ∃ β, e.branchId = some β ∧
    (∀ b, getTaskBranch db β = some b → b.resolutionState = .open) ∧
    ∃ b', getTaskBranch db' β = some b' ∧ b'.taskId = taskId
  heads : ∀ b' ∈ db'.branches,
    (b'.currentExecutionId = some e.id ∧ b'.taskId = taskId) ∨ b'.HeadIn db
  used : ∃ b b', getTaskBudget db taskId = some b ∧ getTaskBudget db' taskId = some b' ∧
    b'.usedExecutions = b.usedExecutions + 1

/-- The id that an operation drew for a new branch. -/
def Request.drawnBranch : Request D → Option String
  | consumeForkPlan _ branchId .. => some branchId
  | _ => none

/-- Whom a new execution has its parent from. -/
inductive Origin (r : Request D) (db : Db D) (taskId : String) (e : ExecutionRow) : Prop
  /-- The first execution of a task has none. -/
  | root (hparent : e.parentExecutionId = none) (hbranch : e.branchId ≠ some "")
  /-- An execution that continues the head of a branch, there or on a branch that was drawn, has the
  parent of that head. -/
  | head {b : BranchRow} {source : ExecutionRow} (hb : b ∈ db.branches) (htask : b.taskId = taskId)
      (hhead : b.currentExecutionId = some source.id)
      (hsource : getExecution db source.id = some source)
      (hparent : e.parentExecutionId = source.parentExecutionId)
      (hbranch : e.branchId = source.branchId ∨ e.branchId = r.drawnBranch)

/-- A delegated start: the caller gives the parent, and the depth. -/
structure Delegation (r : Request D) (db db' : Db D) (taskId : String) (e : ExecutionRow) : Prop where
  request : ∃ settings executionId depth generation now,
    r = .start settings taskId executionId e depth generation now ∧
      ∃ b, getTaskBudget db taskId = some b ∧ depth ≤ b.limits.maxDelegationDepth
  delegated : e.parentExecutionId.isSome
  joins : JoinsOpenBranch db taskId e
  branches : db'.branches = db.branches

variable {b : BranchRow} {taskId : String} {branches : Table BranchRow.branchId}

theorem heads_of_insert {x : String} (h : db.branches.insert? b = some branches)
    (hx : b.currentExecutionId = some x) (htask : b.taskId = taskId) :
    ∀ b' ∈ branches, (b'.currentExecutionId = some x ∧ b'.taskId = taskId) ∨ b'.HeadIn db :=
  forall_insert? h (fun b' hold => .inr ⟨b', hold, rfl, rfl, rfl⟩) (.inl ⟨hx, htask⟩)

theorem branch_of_insert {branchId : String} (h : db.branches.insert? b = some branches)
    (hid : b.branchId = branchId) (htask : b.taskId = taskId) :
    (∀ b0, getTaskBranch db branchId = some b0 → b0.resolutionState = .open) ∧
      ∃ b', branches.find? branchId = some b' ∧ b'.taskId = taskId := by
  subst hid
  refine ⟨fun b0 hb0 => ?_, b, (find?_insert? h _).trans (if_pos rfl), htask⟩
  have hfresh : getTaskBranch db b.branchId = none := fresh_insert? h
  rw [hb0] at hfresh
  cases hfresh

variable {revision : ℕ}

theorem heads_of_headPatch {x : String} (htask : b.taskId = taskId) :
    ∀ b' ∈ db.branches.put ((headPatch x).apply revision b),
      (b'.currentExecutionId = some x ∧ b'.taskId = taskId) ∨ b'.HeadIn db :=
  forall_put (fun b' hold => .inr ⟨b', hold, rfl, rfl, rfl⟩) (.inl ⟨rfl, htask⟩)

theorem branch_of_headPatch {branchId x : String} (hb : getTaskBranch db branchId = some b)
    (hopen : b.resolutionState = .open) (htask : b.taskId = taskId) :
    (∀ b0, getTaskBranch db branchId = some b0 → b0.resolutionState = .open) ∧
      ∃ b', (db.branches.put ((headPatch x).apply revision b)).find? branchId = some b' ∧
        b'.taskId = taskId := by
  refine ⟨fun b0 hb0 => ?_, _, find?_put_same hb rfl, htask⟩
  rw [mem_unique hb0 hb]
  exact hopen

theorem SlotTaken.used {b b' : BudgetRow} {delegated : Bool} {n : ℤ}
    (h : SlotTaken b b' delegated n) (hb : getTaskBudget db taskId = some b) :
    ∃ b0 b1, getTaskBudget db taskId = some b0 ∧ (db.budgets.put b').find? taskId = some b1 ∧
      b1.usedExecutions = b0.usedExecutions + 1 :=
  ⟨b, b', hb, find?_put_same hb h.grows.taskId, h.usedExecutions⟩

/-- What an operation that may store an execution did. -/
def Originates (r : Request D) (db db' : Db D) : Prop :=
  Standing db db' ∨ ∃ taskId e, Admission db db' taskId e ∧
    (Origin r db taskId e ∨ Delegation r db db' taskId e)

variable {generation : Option ℤ} {values : ExecutionRow} {executionId : String}

theorem startRoot_originates {r : Request D} {a : RootExecutionAdmission}
    (h : startRootTaskScopedExecution taskId executionId values generation db = .ok (a, db')) :
    Originates r db db' := by
  obtain ⟨⟨hid, htask, -, -, hparent⟩, rfl | ⟨t, b, b', executions, branches, contexts, reservations,
    -, -, hb, -, hslot, hexecutions, hbranches, rfl⟩⟩ := startRootTaskScopedExecution_ok h
  · exact .inl (.refl _)
  · have hbranch : (rootExecution D taskId values).branchId ≠ some "" := by
      simp [rootExecution, rootBranchId]
    refine .inr ⟨taskId, rootExecution D taskId values, ?_, .inl (.root hparent hbranch)⟩
    exact ⟨hexecutions, htask, ⟨_, rfl, branch_of_insert hbranches rfl rfl⟩,
      heads_of_insert hbranches (congrArg some hid.symm) rfl, SlotTaken.used hslot hb⟩

theorem start_originates {settings : Settings} {depth now : ℤ}
    (h : startTaskScopedExecution settings taskId executionId values depth generation now db =
      .ok (revision, db')) :
    Originates (.start settings taskId executionId values depth generation now) db db' := by
  simp only [startTaskScopedExecution, steps_ok, ite_ok] at h
  obtain ⟨-, -, ⟨-, -, hroot⟩ | ⟨hparent, hdelegated⟩⟩ := h
  · obtain ⟨admission, db1, hstart, hdone⟩ := bind_ok.1 hroot
    cases pure_ok.1 hdone
    exact startRoot_originates hstart
  · obtain ⟨budget, db1, hreserve, hdone⟩ := bind_ok.1 hdelegated
    cases pure_ok.1 hdone
    have hsome : values.parentExecutionId.isSome = true := by
      simpa [isSome_iff_ne_none] using hparent
    obtain ⟨htask, rfl | ⟨b, b', executions, reservations, hb, -, hslot, hdepth, hjoins,
      hexecutions, rfl⟩⟩ := reserveNewExecution_ok hreserve
    · exact .inl (.refl _)
    · obtain ⟨parentId, hp⟩ := isSome_iff_exists.1 hsome
      obtain ⟨β, ⟨hβ, -⟩, ⟨b0, hb0, hbTask, hopen⟩, -⟩ := hjoins parentId hp
      refine .inr ⟨taskId, values, ⟨hexecutions, htask, ⟨β, hβ, ?_, b0, hb0, hbTask⟩, ?_,
        SlotTaken.used hslot hb⟩, .inr ⟨⟨_, _, _, _, _, rfl, b, hb, hdepth⟩, hsome, hjoins, rfl⟩⟩
      · intro b1 hb1
        obtain rfl : b1 = b0 := mem_unique hb1 hb0
        exact hopen
      · exact fun b' hb' => .inr ⟨b', hb', rfl, rfl, rfl⟩

/-- **An operation that stores an execution says where it comes from.** -/
theorem Request.originates (r : Request D) {a : r.Answer} (h : r.perform db = .ok (a, db')) :
    Originates r db db' := by
  by_cases hr : r.Admits
  swap
  · exact .inl (r.standing hr h)
  cases r with
  | startRoot => exact startRoot_originates h
  | start => exact start_originates h
  | consumeForkPlan plan branchId executionId startedAt evidence =>
    obtain ⟨-, ⟨receipt, -, hreplay⟩ | ⟨source, t, b, b', executions, branches, contexts,
      reservations, forks, -, -, hb, -, hslot, ⟨br, hbr, hat⟩, hsource, -, hexecutions, hbranches,
      -, -, -, rfl⟩⟩ := consumeForkPlan_ok h
    · obtain ⟨rfl, -⟩ := replayForkAdmission_ok hreplay
      exact .inl (.refl _)
    · have hid : source.id = plan.sourceExecutionId := key_of_find? hsource
      have hhead : br.currentExecutionId = some source.id := hid ▸ hat.2.2.2
      exact .inr ⟨plan.taskId, _, ⟨hexecutions, rfl,
        ⟨branchId, rfl, branch_of_insert hbranches rfl rfl⟩, heads_of_insert hbranches rfl rfl,
        SlotTaken.used hslot hb⟩,
        .inl (.head (mem_of_find? hbr) hat.1 hhead (hid.symm ▸ hsource) rfl (.inr rfl))⟩
  | consumeRetryPlan plan executionId startedAt evidence =>
    obtain ⟨-, ⟨receipt, -, hreplay⟩ | ⟨s, t, b, b', br, executions, reservations, retries, -, -,
      hb, -, hslot, hbr, hat, hsource, hnames, hexecutions, -, -, rfl⟩⟩ := consumeRetryPlan_ok h
    · obtain ⟨rfl, -⟩ := replayRetryAdmission_ok hreplay
      exact .inl (.refl _)
    · have hid : s.execution.id = plan.sourceExecutionId := key_of_find? hsource
      have hparent : s.execution.parentExecutionId = plan.parentExecutionId :=
        hnames.2.2.2.2.2.2.2.1
      have hhead : br.currentExecutionId = some s.execution.id := hid ▸ hat.2.2.2
      exact .inr ⟨plan.taskId, _, ⟨hexecutions, rfl,
        ⟨plan.branchId, rfl, branch_of_headPatch hbr hat.2.2.1 hat.1⟩, heads_of_headPatch hat.1,
        SlotTaken.used hslot hb⟩,
        .inl (.head (mem_of_find? hbr) hat.1 hhead (hid.symm ▸ hsource) hparent.symm
          (.inl hnames.2.1.symm))⟩
  | aggregateBranches request executionId admittedAt generation timeoutSeconds =>
    obtain ⟨receipt, -, hreplay⟩ | ⟨e, t, b, b', br, sources, seed, executions, reservations,
      aggregates, -, -, hb, -, hslot, hbr, hopen, hbrTask, ⟨source, hmem, hsource, hhead, hparent⟩, hid,
      -, -, htask, hbranch, hexecutions, -, -, -, rfl⟩ := aggregateBranches_ok h
    · obtain ⟨rfl, -⟩ := replayAggregateAdmission_ok hreplay
      exact .inl (.refl _)
    · subst hsource
      obtain ⟨x, hx, he⟩ := bind_eq_some_iff.1 hhead.1
      have hsid : source.execution.id = x := key_of_find? he
      subst hsid
      have hon : source.branch.branchId = request.targetBranchId := key_of_find? hbr
      exact .inr ⟨request.taskId, e, ⟨hexecutions, htask,
        ⟨request.targetBranchId, hbranch, branch_of_headPatch hbr hopen hbrTask⟩,
        hid ▸ heads_of_headPatch hbrTask, SlotTaken.used hslot hb⟩,
        .inl (.head (mem_of_find? hbr) hbrTask hx he hparent
          (.inl (by rw [hbranch, hhead.2.2.1, hon])))⟩
  | _ => exact absurd hr id

/-- **A step leaves every execution standing, or admits one.** -/
theorem Event.Occurs.origins {ev : Event D} (h : ev.Occurs db db') :
    Originates ev.request db db' := by
  unfold Event.Occurs at h
  split at h
  · exact ev.request.originates h
  · obtain ⟨-, rfl⟩ := h
    exact .inl (.refl _)

end AssistantRuntime.Runtime

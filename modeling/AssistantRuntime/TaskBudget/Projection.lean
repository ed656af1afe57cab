/-
**The activity that the branches of a task stand for.**

A task with several branches runs while the head of one of its open branches does, and waits, for
the reasons of its heads, while none runs and some wait.  Where neither is the case the branches say
nothing about the task.  This file states that projection and how it follows the changes that
operations make: an execution moves, a branch is closed, a branch is opened.
-/

import AssistantRuntime.Agent.Retention
import AssistantRuntime.TaskBudget.Activity

namespace AssistantRuntime.TaskBudget

open Relational Uow Table Agent List

variable {D : Digests} {db db' : Db D} {τ : String}

/-- The executions at the heads of the open branches of a task. -/
def taskHeads (db : Db D) (taskId : String) : Option (List ExecutionRow) :=
  currentExecutions db taskId (listTaskBranches db taskId)

/-- The activity that the open heads of a task stand for. -/
def projectedActivity (db : Db D) (taskId : String) : Option (TaskStatus × List String) :=
  (taskHeads db taskId).bind derivedActivity

/-- The stored task says what its open heads stand for, where they stand for anything. -/
def ActivityAgrees (db : Db D) (taskId : String) : Prop :=
  ∀ t activity, getTask db taskId = some t → projectedActivity db taskId = some activity →
    (t.status, t.waitReasons) = activity

/-! ### Heads -/

variable {f : ExecutionRow → ExecutionRow}

/-- The heads of branches, after every stored execution became another one of the same lineage. -/
theorem currentExecutions_map (hget : ∀ x, getExecution db' x = (getExecution db x).map f)
    (hkin : ∀ e ∈ db.executions, (f e).taskId = e.taskId ∧ (f e).branchId = e.branchId)
    (bs : List BranchRow) :
    currentExecutions db' τ bs = (currentExecutions db τ bs).map (List.map f) := by
  induction bs with
  | nil => rfl
  | cons b bs ih =>
    simp only [currentExecutions]
    split
    · exact ih
    · cases b.currentExecutionId with
      | none => exact ih
      | some x =>
        dsimp only
        rw [hget x]
        cases he : getExecution db x with
        | none => rfl
        | some e =>
          obtain ⟨htask, hbranch⟩ := hkin e (mem_of_find? he)
          dsimp only [Option.map_some]
          rw [htask, hbranch]
          split
          · rw [ih]
            cases currentExecutions db τ bs with
            | none => rfl
            | some hs => rfl
          · rfl

variable {hs : List ExecutionRow} {e : ExecutionRow} {bs : List BranchRow}

theorem mem_currentExecutions (h : currentExecutions db τ bs = some hs) :
    e ∈ hs ↔ ∃ b ∈ bs, b.resolutionState = .open ∧ b.currentExecutionId = some e.id ∧
      getExecution db e.id = some e ∧ e.taskId = some τ ∧ e.branchId = some b.branchId := by
  induction bs generalizing hs with
  | nil =>
    cases h
    simp
  | cons b bs ih =>
    simp only [mem_cons, exists_eq_or_imp]
    simp only [currentExecutions] at h
    split at h
    · next hclosed =>
        rw [ih h]
        exact ⟨.inr, fun hcases => hcases.resolve_left fun hb => hclosed hb.1⟩
    · next hopen =>
        cases hx : b.currentExecutionId with
        | none =>
          rw [hx] at h
          rw [ih h]
          simp
        | some x =>
          rw [hx] at h
          dsimp only at h
          cases he : getExecution db x with
          | none =>
            rw [he] at h
            cases h
          | some e0 =>
            rw [he] at h
            dsimp only at h
            split at h
            · next hvalid =>
                obtain ⟨tail, htail, rfl⟩ := Option.map_eq_some_iff.1 h
                have hid : e0.id = x := key_of_find? he
                rw [mem_cons, ih htail]
                refine or_congr_left ⟨?_, ?_⟩
                · rintro rfl
                  exact ⟨not_not.1 hopen, congrArg some hid.symm, hid ▸ he, hvalid⟩
                · rintro ⟨-, hhead, hget, -⟩
                  obtain rfl : x = e.id := Option.some.inj hhead
                  exact Option.mem_unique hget he
            · cases h

theorem currentExecutions_close {b' : BranchRow} (hclosed : b'.resolutionState ≠ .open)
    (hvalid : ∀ b ∈ bs, b.branchId = b'.branchId →
      ∀ x ∈ b.currentExecutionId, ∃ e, getExecution db x = some e ∧ e.taskId = some τ ∧
      e.branchId = some b.branchId) :
    currentExecutions db τ (bs.map fun b => if b.branchId = b'.branchId then b' else b) =
      (currentExecutions db τ bs).map (List.filter fun e => e.branchId ≠ some b'.branchId) := by
  induction bs with
  | nil => rfl
  | cons b bs ih =>
    have htail := ih fun b1 hb1 => hvalid b1 (mem_cons_of_mem _ hb1)
    simp only [map_cons]
    by_cases hb : b.branchId = b'.branchId
    · -- the closed branch has no head, and its old head is filtered out
      rw [if_pos hb]
      simp only [currentExecutions, if_pos hclosed, htail]
      split
      · rfl
      · cases hx : b.currentExecutionId with
        | none => rfl
        | some x =>
          obtain ⟨e, he, htask, hbranch⟩ := hvalid b mem_cons_self hb x hx
          dsimp only
          rw [he]
          dsimp only
          rw [if_pos ⟨htask, hbranch⟩]
          cases currentExecutions db τ bs with
          | none => rfl
          | some hs => simp [hbranch, hb]
    · rw [if_neg hb]
      simp only [currentExecutions]
      split
      · exact htail
      · cases b.currentExecutionId with
        | none => exact htail
        | some x =>
          dsimp only
          cases getExecution db x with
          | none => rfl
          | some e =>
            dsimp only
            split
            · next hkin =>
                rw [htail]
                cases currentExecutions db τ bs with
                | none => rfl
                | some hs => simp [hkin.2, hb]
            · rfl

def became (db' : Db D) (e : ExecutionRow) : ExecutionRow := (getExecution db' e.id).getD e

theorem currentExecutions_standing (h : Standing db db') (bs : List BranchRow) :
    currentExecutions db' τ bs = (currentExecutions db τ bs).map (List.map (became db')) := by
  refine currentExecutions_map (fun x => ?_) (fun e he => ?_) bs
  · cases hx : getExecution db x with
    | none => exact h.noneNew x hx
    | some e =>
      obtain ⟨e', he', -⟩ := h.kin x e hx
      have hid : e.id = x := key_of_find? hx
      have hget : getExecution db' x = some e' := he'
      simp [became, hid, hget]
  · obtain ⟨e', he', hkin⟩ := h.kin e.id e (find?_key he)
    have hget : getExecution db' e.id = some e' := he'
    simp [became, hget, hkin.taskId, hkin.branchId]

variable {e' : ExecutionRow}

theorem currentExecutions_insert (h : db.executions.insert? e' = some db'.executions)
    (hother : e'.taskId ≠ some τ) (bs : List BranchRow) :
    currentExecutions db' τ bs = currentExecutions db τ bs := by
  induction bs with
  | nil => rfl
  | cons b bs ih =>
    simp only [currentExecutions, ih]
    split
    · rfl
    · cases b.currentExecutionId with
      | none => rfl
      | some x =>
        dsimp only
        have hget : getExecution db' x = if x = e'.id then some e' else getExecution db x :=
          find?_insert? h x
        by_cases hx : x = e'.id
        · -- the new execution is no head of this task, and no other had its id
          have hfresh : getExecution db x = none := by
            rw [hx]
            exact fresh_insert? h
          rw [hget, if_pos hx, hfresh]
          exact if_neg fun hvalid => hother hvalid.1
        · rw [hget, if_neg hx]

theorem taskHeads_congr (hexecutions : db'.executions = db.executions)
    (hbranches : db'.branches = db.branches) : taskHeads db' τ = taskHeads db τ := by
  have hget (x : String) : getExecution db' x = (getExecution db x).map id := by
    rw [getExecution, hexecutions, Option.map_id]
    rfl
  unfold taskHeads listTaskBranches
  rw [hbranches, currentExecutions_map hget fun _ _ => ⟨rfl, rfl⟩, map_id_fun,
    Option.map_id_fun]
  rfl

theorem projectedActivity_congr (hexecutions : db'.executions = db.executions)
    (hbranches : db'.branches = db.branches) : projectedActivity db' τ = projectedActivity db τ :=
  congrArg (Option.bind · derivedActivity) (taskHeads_congr hexecutions hbranches)

def replacing (e' : ExecutionRow) (e : ExecutionRow) : ExecutionRow := if e.id = e'.id then e' else e

theorem getExecution_put (h : db'.executions = db.executions.put e') (x : String) :
    getExecution db' x = (getExecution db x).map (replacing e') := by
  rw [getExecution, h, find?_put]
  cases hx : db.executions.find? x with
  | none => simp [getExecution, hx]
  | some e =>
    have hid : e.id = x := key_of_find? hx
    simp only [getExecution, hx, Option.map_some, replacing, hid]
    split
    · rfl
    · rfl

theorem taskHeads_put {x : String} (hexecutions : db'.executions = db.executions.put e')
    (hbranches : db'.branches = db.branches) (he : getExecution db x = some e)
    (hlineage : e.SameLineage e') :
    taskHeads db' τ = (taskHeads db τ).map (List.map (replacing e')) := by
  unfold taskHeads listTaskBranches
  rw [hbranches]
  refine currentExecutions_map (getExecution_put hexecutions) ?_ _
  intro r hr
  unfold replacing
  split
  · next hid =>
      -- the row with the id of the moved execution is that execution
      rw [eq_of_key_eq hr (mem_of_find? he) (hid.trans hlineage.id)]
      exact ⟨hlineage.taskId, hlineage.branchId⟩
  · exact ⟨rfl, rfl⟩

theorem listTaskBranches_put {k : String} {b b' : BranchRow}
    (hbranches : db'.branches = db.branches.put b') (hb : getTaskBranch db k = some b)
    (hid : b'.branchId = b.branchId) (htask : b'.taskId = b.taskId) :
    listTaskBranches db' τ =
      (listTaskBranches db τ).map fun r => if r.branchId = b'.branchId then b' else r := by
  unfold listTaskBranches
  rw [hbranches]
  simp only [Table.put, filter_map]
  congr 1
  refine filter_congr fun r hr => ?_
  simp only [Function.comp_apply]
  split
  · next hrid =>
      rw [eq_of_key_eq hr (mem_of_find? hb) (hrid.trans hid), htask]
  · rfl

/-! ### What heads stand for -/

/-- The head lets its task wait, and says for what. -/
def Waits (e : ExecutionRow) : Prop :=
  e.state.isWaitingHead = true ∧ e.normalizedWaitReason.isSome = true

theorem not_active_of_terminal {s : ExecutionState} (h : s.isTerminal = true) :
    s.isActiveHead = false ∧ s.isWaitingHead = false := by
  cases s <;> simp_all [ExecutionState.isTerminal, ExecutionState.isActiveHead,
    ExecutionState.isWaitingHead]

theorem waitingReasons_eq_nil :
    waitingReasons hs = [] ↔ ∀ e ∈ hs, ¬ Waits e := by
  simp only [waitingReasons, filterMap_eq_nil_iff, mem_filter, and_imp, Waits, not_and,
    Bool.not_eq_true, Option.isSome_eq_false_iff, Option.isNone_iff_eq_none]

theorem derivedActivity_of_active (he : e ∈ hs)
    (hactive : e.state.isActiveHead = true) : derivedActivity hs = some (.running, []) := by
  have hany : hs.any (·.state.isActiveHead) = true := any_eq_true.2 ⟨e, he, hactive⟩
  simp [derivedActivity, hany]

theorem derivedActivity_of_waits (hquiet : ∀ e ∈ hs, e.state.isActiveHead = false) (he : e ∈ hs)
    (hwaits : Waits e) :
    derivedActivity hs = some (.waiting, sortedStrings (waitingReasons hs).dedup) := by
  have hany : hs.any (·.state.isActiveHead) = false := by
    simpa using hquiet
  have hreasons : waitingReasons hs ≠ [] := fun h => waitingReasons_eq_nil.1 h e he hwaits
  simp [derivedActivity, hany, hreasons]

theorem derivedActivity_eq_none :
    derivedActivity hs = none ↔
      ∀ e ∈ hs, e.state.isActiveHead = false ∧ ¬ Waits e := by
  constructor
  · intro h e he
    have hquiet : ∀ e ∈ hs, e.state.isActiveHead = false := by
      intro e1 he1
      by_contra hactive
      rw [derivedActivity_of_active he1 (by simpa using hactive)] at h
      cases h
    refine ⟨hquiet e he, fun hwaits => ?_⟩
    rw [derivedActivity_of_waits hquiet he hwaits] at h
    cases h
  · intro h
    have hany : hs.any (·.state.isActiveHead) = false := by
      simpa using fun e he => (h e he).1
    have hreasons : waitingReasons hs = [] := waitingReasons_eq_nil.2 fun e he => (h e he).2
    simp [derivedActivity, hany, hreasons]

variable {activity : TaskStatus × List String}

/-- Heads that stand for something: one is active, or none is and one waits. -/
theorem derivedActivity_cases (h : derivedActivity hs = some activity) :
    (activity = (.running, []) ∧ ∃ e ∈ hs, e.state.isActiveHead = true) ∨
      (activity = (.waiting, sortedStrings (waitingReasons hs).dedup) ∧
        (∀ e ∈ hs, e.state.isActiveHead = false) ∧ ∃ e ∈ hs, Waits e) := by
  by_cases hactive : ∃ e ∈ hs, e.state.isActiveHead = true
  · obtain ⟨e, he, hstate⟩ := hactive
    rw [derivedActivity_of_active he hstate] at h
    exact .inl ⟨(Option.some.inj h).symm, e, he, hstate⟩
  · have hquiet : ∀ e ∈ hs, e.state.isActiveHead = false := by
      intro e he
      by_contra hstate
      exact hactive ⟨e, he, by simpa using hstate⟩
    by_cases hwaits : ∃ e ∈ hs, Waits e
    · obtain ⟨e, he, hw⟩ := hwaits
      rw [derivedActivity_of_waits hquiet he hw] at h
      exact .inr ⟨(Option.some.inj h).symm, hquiet, e, he, hw⟩
    · have hnone : derivedActivity hs = none :=
        derivedActivity_eq_none.2 fun e he => ⟨hquiet e he, fun hw => hwaits ⟨e, he, hw⟩⟩
      rw [hnone] at h
      cases h

theorem derivedActivity_map
    (h : ∀ e ∈ hs, (f e).state = e.state ∧ (e.state.isWaitingHead = true →
      (f e).waitReason = e.waitReason)) : derivedActivity (hs.map f) = derivedActivity hs := by
  have hany : (hs.map f).any (·.state.isActiveHead) = hs.any (·.state.isActiveHead) := by
    rw [Bool.eq_iff_iff]
    simp only [any_map, any_eq_true, Function.comp_apply]
    refine exists_congr fun e => and_congr_right fun he => ?_
    rw [(h e he).1]
  have hreasons : waitingReasons (hs.map f) = waitingReasons hs := by
    unfold waitingReasons
    rw [filter_map, filterMap_map]
    have hfilter : hs.filter ((·.state.isWaitingHead) ∘ f) = hs.filter (·.state.isWaitingHead) :=
      filter_congr fun e he => by simp [(h e he).1]
    rw [hfilter]
    refine filterMap_congr fun e he => ?_
    obtain ⟨hmem, hwaiting⟩ := mem_filter.1 he
    obtain ⟨hstate, hreason⟩ := h e hmem
    simp [ExecutionRow.normalizedWaitReason, hstate, hreason hwaiting]
  simp only [derivedActivity, hany, hreasons]

theorem derivedActivity_filter {p : ExecutionRow → Bool}
    (h : ∀ e ∈ hs, p e = false → e.state.isTerminal = true) :
    derivedActivity (hs.filter p) = derivedActivity hs := by
  have hkept : ∀ e ∈ hs, e.state.isActiveHead = true ∨ e.state.isWaitingHead = true → p e = true := by
    intro e he hstate
    by_contra hp
    obtain ⟨hactive, hwaiting⟩ := not_active_of_terminal (h e he (by simpa using hp))
    rw [hactive, hwaiting] at hstate
    simp at hstate
  have hany : (hs.filter p).any (·.state.isActiveHead) = hs.any (·.state.isActiveHead) := by
    rw [Bool.eq_iff_iff]
    simp only [any_eq_true, mem_filter]
    refine exists_congr fun e => ⟨fun hx => ⟨hx.1.1, hx.2⟩, fun hx => ⟨⟨hx.1, ?_⟩, hx.2⟩⟩
    exact hkept e hx.1 (.inl hx.2)
  have hreasons : waitingReasons (hs.filter p) = waitingReasons hs := by
    unfold waitingReasons
    rw [filter_filter]
    congr 1
    refine filter_congr fun e he => ?_
    cases hw : e.state.isWaitingHead with
    | false => simp
    | true => simp [hkept e he (.inr hw)]
  simp only [derivedActivity, hany, hreasons]

/-! ### Sorted reasons -/

theorem sortedStrings_idem (l : List String) :
    sortedStrings (sortedStrings l) = sortedStrings l :=
  (pairwise_insertionSort (· ≤ ·) l).insertionSort_eq

theorem sortedStrings_eq_nil {l : List String} (h : sortedStrings l = []) : l = [] := by
  have hlength : (sortedStrings l).length = l.length := length_insertionSort (· ≤ ·) l
  rw [h] at hlength
  exact length_eq_zero_iff.1 hlength.symm

theorem derivedActivity_sorted (h : derivedActivity hs = some activity) :
    sortedStrings activity.2 = activity.2 := by
  rcases derivedActivity_cases h with ⟨rfl, -⟩ | ⟨rfl, -⟩
  · rfl
  · exact sortedStrings_idem _

/-! ### Deriving the activity again -/

theorem ActivityAgrees.congr (h : ActivityAgrees db τ) (htask : getTask db' τ = getTask db τ)
    (hprojected : projectedActivity db' τ = projectedActivity db τ) : ActivityAgrees db' τ := by
  intro t activity ht hactivity
  rw [htask] at ht
  rw [hprojected] at hactivity
  exact h t activity ht hactivity

theorem ActivityAgrees.none_of_terminal (h : ActivityAgrees db τ) {t : TaskRow}
    (ht : getTask db τ = some t) (hterminal : t.status.isTerminal = true) :
    projectedActivity db τ = none := by
  cases hactivity : projectedActivity db τ with
  | none => rfl
  | some activity =>
    have hagrees := h t activity ht hactivity
    obtain ⟨hs, -, hderived⟩ := Option.bind_eq_some_iff.1 hactivity
    have hstatus : t.status = .running ∨ t.status = .waiting := by
      rcases derivedActivity_cases hderived with ⟨rfl, -⟩ | ⟨rfl, -⟩
      · exact .inl (congrArg Prod.fst hagrees)
      · exact .inr (congrArg Prod.fst hagrees)
    rcases hstatus with hstatus | hstatus <;>
      · rw [hstatus] at hterminal
        cases hterminal

/-- **Deriving the activity makes a live task agree with its heads**, if the reasons that it has
stored are sorted where they matter. -/
theorem reconcile_agrees {t t' : TaskRow}
    (h : reconcileMultibranchTaskActivity τ t db = .ok (some t', db'))
    (ht : getTask db τ = some t) (hlive : t.status.isTerminal = false)
    (hmany : 1 < (listTaskBranches db τ).length)
    (hsorted : ∀ reasons, projectedActivity db τ = some (.waiting, reasons) →
      sortedStrings t.waitReasons = t.waitReasons) : ActivityAgrees db' τ := by
  simp only [reconcileMultibranchTaskActivity, steps_ok, ite_ok, pure_ok, Prod.mk.injEq,
    Option.some.injEq] at h
  obtain ⟨-, ⟨hterminal, -⟩ | ⟨-, ⟨hfew, -⟩ | ⟨-, heads, hheads, h⟩⟩⟩ := h
  · rw [hlive] at hterminal
    cases hterminal
  · omega
  have hprojected : projectedActivity db τ = derivedActivity heads := by
    rw [projectedActivity, taskHeads, hheads]
    rfl
  rcases hact : derivedActivity heads with _ | ⟨target, waitReasons⟩
  · simp only [hact, pure_mk, Option.some.injEq] at h
    obtain ⟨-, rfl⟩ := h
    intro t1 activity ht1 hactivity
    rw [hprojected, hact] at hactivity
    cases hactivity
  · simp only [hact, ite_ok, pure_mk, Option.some.injEq] at h
    rcases h with ⟨⟨hstatus, hreasons⟩, -, rfl⟩ | ⟨-, h⟩
    · -- the task is left alone: it has the reasons, up to their order
      intro t1 activity ht1 hactivity
      obtain rfl : t1 = t := Option.mem_unique ht1 ht
      rw [hprojected, hact] at hactivity
      obtain rfl := Option.some.inj hactivity
      rw [hstatus]
      rcases derivedActivity_cases hact with ⟨hrunning, -⟩ | ⟨hwaiting, -⟩
      · obtain ⟨-, rfl⟩ := Prod.mk.inj hrunning
        rw [sortedStrings_eq_nil hreasons]
      · obtain ⟨rfl, -⟩ := Prod.mk.inj hwaiting
        rw [← hreasons, hsorted waitReasons (hprojected.trans hact)]
    · obtain ⟨-, r, hr, -, rfl, rfl⟩ := compareAndSetTaskActivity_some h
      intro t1 activity ht1 hactivity
      have hsame : projectedActivity db τ = some activity := by
        rw [← hactivity]
        exact projectedActivity_congr rfl rfl
      rw [hprojected, hact] at hsame
      obtain rfl := Option.some.inj hsame
      have hput := find?_put_same (r := TaskPatch.apply
        { status := some target, waitReasons := some waitReasons } t.revision r) hr rfl
      obtain rfl := Option.mem_unique ht1 hput
      rfl

end AssistantRuntime.TaskBudget

/-
**Cancelling dormant executions.**

An execution that a fork, a retry or an aggregation admitted is `RUNNING` at revision one until its
runtime activates it.  Ending a task or resolving a branch cancels such executions and gives their
slots back.  The candidates are collected first, from the receipts of the admissions; the updates
follow, each under the full predicate, so that a candidate that two receipts name is cancelled and
counted once.
-/

import AssistantRuntime.Agent.ChangeLog

namespace AssistantRuntime.TaskBudget

open Relational Uow Table Agent List

variable {D : Digests}

/-! ### Candidates -/

/-- `exact_preactivation` of a fork. -/
def ForkIsDormant (taskId : String) (receipt : ForkAdmissionRow D.Plan) (branch : BranchRow)
    (execution : ExecutionRow) : Prop :=
  branch.taskId = taskId ∧ branch.currentExecutionId = some receipt.executionId ∧
    branch.parentBranchId = some receipt.sourceBranchId ∧
    branch.baseExecutionId = some receipt.sourceExecutionId ∧
    branch.baseCheckpointId = some receipt.sourceCheckpointId ∧
    execution.HasBase (some receipt.sourceExecutionId) (some receipt.sourceCheckpointId) ∧
    execution.IsDormant taskId receipt.branchId
  deriving Decidable

/-- `exact_preactivation` of a retry. -/
def RetryIsDormant (taskId : String) (receipt : RetryAdmissionRow D.Plan) (branch : BranchRow)
    (execution : ExecutionRow) : Prop :=
  branch.taskId = taskId ∧ branch.currentExecutionId = some receipt.executionId ∧
    execution.retryOfExecutionId = some receipt.sourceExecutionId ∧
    execution.IsDormant taskId receipt.branchId
  deriving Decidable

/-- `exact_preactivation` of an aggregation. -/
def AggregateIsDormant (taskId : String) (receipt : AggregateAdmissionRow D.Plan)
    (branch : BranchRow) (execution : ExecutionRow) : Prop :=
  branch.taskId = taskId ∧ branch.currentExecutionId = some receipt.executionId ∧
    execution.retryOfExecutionId = none ∧ execution.IsDormant taskId receipt.targetBranchId
  deriving Decidable

/-- The receipts whose execution is still dormant, with that execution.  A receipt without its
branch or its execution is a broken graph. -/
def collectDormant {ρ : Type} (label : String) (branchOf executionOf : ρ → String)
    (exact : ρ → BranchRow → ExecutionRow → Prop) [∀ r b e, Decidable (exact r b e)]
    (branches : List BranchRow) : List ρ → Tx D (List (ρ × ExecutionRow))
  | [] => pure []
  | receipt :: receipts => do
    let incomplete := conflict
      s!"{label} durable graph is incomplete for {executionOf receipt}."
    let stored ← reads (getExecution · (executionOf receipt))
    let branch ← expect (branches.find? (·.branchId = branchOf receipt)) incomplete
    let execution ← expect stored incomplete
    let others ← collectDormant label branchOf executionOf exact branches receipts
    pure (if exact receipt branch execution then (receipt, execution) :: others else others)

/-- A candidate as it was read: a running execution of the task at revision one. -/
def IsCandidate (db₀ : Db D) (taskId : String) (e : ExecutionRow) : Prop :=
  e ∈ db₀.executions ∧ e.state = .running ∧ e.revision = 1 ∧ e.taskId = some taskId

/-- Collecting reads only, and every stored execution it finds is a candidate. -/
theorem collectDormant_ok {ρ : Type} {label : String} {branchOf executionOf : ρ → String}
    {exact : ρ → BranchRow → ExecutionRow → Prop} [∀ r b e, Decidable (exact r b e)]
    {branches : List BranchRow} {receipts : List ρ} {db db' : Db D} {cs : List (ρ × ExecutionRow)}
    {taskId : String} (hdormant : ∀ r b e, exact r b e → ∃ branchId, e.IsDormant taskId branchId)
    (h : collectDormant label branchOf executionOf exact branches receipts db = .ok (cs, db')) :
    db' = db ∧ ∀ c ∈ cs, IsCandidate db taskId c.2 := by
  induction receipts generalizing cs db' with
  | nil =>
    cases pure_ok.1 h
    exact ⟨rfl, by simp⟩
  | cons receipt receipts ih =>
    simp only [collectDormant, steps_ok] at h
    obtain ⟨branch, -, execution, hexec, h⟩ := h
    rw [bind_ok] at h
    obtain ⟨others, db1, hothers, h⟩ := h
    obtain ⟨rfl, hcs⟩ := ih hothers
    cases pure_ok.1 h
    refine ⟨rfl, ?_⟩
    intro c hc
    split at hc
    · next hexact =>
        rcases mem_cons.1 hc with rfl | hc
        · obtain ⟨_, hrevision, hrunning, -, htask, -⟩ := hdormant _ _ _ hexact
          exact ⟨mem_of_find? hexec, hrunning, hrevision, htask⟩
        · exact hcs c hc
    · exact hcs c hc

/-! ### Cancellation -/

/-- The loop over some candidates: the slots that the updates that did not lose give back, and how
many of them are slots of parallel agents. -/
def cancelDormant {ρ : Type} (statement : ρ × ExecutionRow → Tx D (Option ExecutionRow)) :
    List (ρ × ExecutionRow) → Tx D (ℤ × ℤ)
  | [] => pure (0, 0)
  | c :: cs => do
    let cancelled ← statement c
    let counts ← cancelDormant statement cs
    pure (counts.1 + (if cancelled.isSome then 1 else 0),
      counts.2 + if cancelled.isSome ∧ c.2.parentExecutionId.isSome then 1 else 0)

/-- A statement that cancels one execution at revision one, or does nothing. -/
def CancelsDormant (executionId : String) (x : Tx D (Option ExecutionRow)) : Prop :=
  ∀ db o db', x db = .ok (o, db') → (o = none ∧ db' = db) ∨
    ∃ e e', getExecution db executionId = some e ∧ e.revision = 1 ∧ e.SameLineage e' ∧
      e'.state = .cancelled ∧ e'.revision = 2 ∧ o = some e' ∧
      db' = { db with executions := db.executions.put e' }

/-- Every update that sets what a preactivation cancel sets is such a statement. -/
theorem updateExecution_cancelsDormant {executionId : String} {guard : ExecutionRow → Prop}
    [DecidablePred guard] {completedAt : ℤ} {error : String}
    (hguard : ∀ e, guard e → e.revision = 1) :
    CancelsDormant (D := D) executionId (updateExecution executionId guard (fun _ => 2)
      fun _ => preactivationCancelPatch completedAt error) := by
  intro db o db' h
  rcases compareAndSet_ok.1 h with ⟨e, he, hg, rfl, rfl⟩ | ⟨-, rfl, rfl⟩
  · exact .inr ⟨e, (preactivationCancelPatch completedAt error).apply 2 e, he, hguard e hg,
      ⟨rfl, rfl, rfl, rfl⟩, rfl, rfl, rfl, rfl⟩
  · exact .inl ⟨rfl, rfl⟩

/-- One cancelled execution of a task, before and after. -/
structure IsCancellation (taskId : String) (p : ExecutionRow × ExecutionRow) : Prop where
  taskId : p.1.taskId = some taskId
  running : p.1.state = .running
  revision : p.1.revision = 1
  lineage : p.1.SameLineage p.2
  cancelled : p.2.state = .cancelled
  revision' : p.2.revision = 2

def cancellations (l : List (ExecutionRow × ExecutionRow)) : List (RowWrite ExecutionRow) :=
  l.map fun p => .update p.1 p.2

/-- The slots of parallel agents among some cancellations. -/
def delegatedCount (l : List (ExecutionRow × ExecutionRow)) : ℕ :=
  l.countP fun p => p.1.parentExecutionId.isSome

/-- What is known of the executions while dormant ones are being cancelled: they are as they were at
the beginning, or at revision two. -/
def OnlyCancelled (db₀ db : Db D) : Prop :=
  ∀ e ∈ db.executions, e ∈ db₀.executions ∨ e.revision = 2

/-- Executions of the task were cancelled and nothing else happened; `released` counts them, and
those of parallel agents among them. -/
def Cancels (taskId : String) (released : ℤ × ℤ) (db db' : Db D) : Prop :=
  ∃ l t, db' = { db with executions := t } ∧ TableLog db.executions (cancellations l) t ∧
    (∀ p ∈ l, IsCancellation taskId p) ∧ released = (↑l.length, ↑(delegatedCount l))

section Cancels

variable {db db1 db' : Db D} {taskId : String} {released released' : ℤ × ℤ}

theorem Cancels.refl (db : Db D) (taskId : String) : Cancels taskId (0, 0) db db :=
  ⟨[], db.executions, rfl, .nil _, by simp, rfl⟩

theorem Cancels.one {e e' : ExecutionRow} (he : getExecution db e.id = some e)
    (hc : IsCancellation taskId (e, e')) :
    Cancels taskId (1, if e.parentExecutionId.isSome then 1 else 0) db
      { db with executions := db.executions.put e' } := by
  refine ⟨[(e, e')], _, rfl, .of_put he hc.lineage.id, by simpa using hc, ?_⟩
  simp [delegatedCount, countP_cons]

theorem Cancels.trans (h : Cancels taskId released db db1) (h' : Cancels taskId released' db1 db') :
    Cancels taskId (released.1 + released'.1, released.2 + released'.2) db db' := by
  obtain ⟨l, t, rfl, hlog, hl, rfl⟩ := h
  obtain ⟨l', t', rfl, hlog', hl', rfl⟩ := h'
  refine ⟨l ++ l', t', rfl, ?_, forall_mem_append.2 ⟨hl, hl'⟩, by simp [delegatedCount]⟩
  simpa [cancellations] using hlog.append hlog'

end Cancels

/-- **The loop cancels executions of the task, as many as it counts.** -/
theorem cancelDormant_ok {ρ : Type} {statement : ρ × ExecutionRow → Tx D (Option ExecutionRow)}
    {cs : List (ρ × ExecutionRow)} {db0 db db' : Db D} {taskId : String} {counts : ℤ × ℤ}
    (hst : ∀ c ∈ cs, CancelsDormant c.2.id (statement c))
    (hcand : ∀ c ∈ cs, IsCandidate db0 taskId c.2) (hdb : OnlyCancelled db0 db)
    (h : cancelDormant statement cs db = .ok (counts, db')) :
    Cancels taskId counts db db' ∧ OnlyCancelled db0 db' := by
  induction cs generalizing db counts with
  | nil =>
    cases pure_ok.1 h
    exact ⟨.refl db' taskId, hdb⟩
  | cons c cs ih =>
    simp only [cancelDormant] at h
    obtain ⟨o, db1, hstatement, h⟩ := bind_ok.1 h
    obtain ⟨tail, db2, hloop, h⟩ := bind_ok.1 h
    obtain ⟨hres, rfl⟩ := pure_mk.1 h
    have hst' : ∀ c' ∈ cs, CancelsDormant c'.2.id (statement c') :=
      fun c' hc' => hst c' (mem_cons_of_mem _ hc')
    have hcand' : ∀ c' ∈ cs, IsCandidate db0 taskId c'.2 :=
      fun c' hc' => hcand c' (mem_cons_of_mem _ hc')
    rcases hst c mem_cons_self _ _ _ hstatement with ⟨rfl, rfl⟩ |
      ⟨e, e', he, hrev, hline, hstate, hrev', rfl, rfl⟩
    · obtain ⟨hcancels, hdb'⟩ := ih hst' hcand' hdb hloop
      exact ⟨by simpa [hres] using hcancels, hdb'⟩
    · -- the row under the candidate's id is still the candidate: any other would be at revision two
      obtain ⟨hmem, hrun, -, htask⟩ := hcand c mem_cons_self
      have hce : e = c.2 := by
        rcases hdb e (mem_of_find? he) with hold | htwo
        · exact eq_of_key_eq hold hmem (key_of_find? he)
        · omega
      have hnext : OnlyCancelled db0 { db with executions := db.executions.put e' } :=
        forall_put hdb (.inr hrev')
      obtain ⟨hcancels, hdb'⟩ := ih hst' hcand' hnext hloop
      subst hce
      have hone := Cancels.one he ⟨htask, hrun, hrev, hline, hstate, hrev'⟩
      exact ⟨by simpa [hres, add_comm] using hone.trans hcancels, hdb'⟩

/-! ### What cancellations are -/

section Cancellations

variable {taskId : String} {l : List (ExecutionRow × ExecutionRow)}

variable (hl : ∀ p ∈ l, IsCancellation taskId p)

include hl

theorem cancellations_lawful (db : Db D) :
    ∀ w ∈ cancellations l, LawfulExecution db w := by
  intro w hw
  obtain ⟨p, hp, rfl⟩ := mem_map.1 hw
  have hc := hl p hp
  refine ⟨⟨hc.lineage, .inr ⟨by rw [hc.running]; rfl, ?_⟩⟩, fun hnot _ => absurd hc.running hnot⟩
  have := hc.revision
  have := hc.revision'
  omega

theorem cancellations_not_entering (τ : String) :
    ∀ w ∈ cancellations l, ¬ RowWrite.EntersRunning τ w := by
  intro w hw
  obtain ⟨p, hp, rfl⟩ := mem_map.1 hw
  exact fun henters => henters.2.1 (hl p hp).running

theorem cancellations_moved {t t' : Table ExecutionRow.id} (hlog : TableLog t
      (cancellations l) t') :
    ((cancellations l).filterMap RowWrite.moved).Nodup := by
  have hnodup := TableLog.nodup_updated hlog (P := fun e => e.state = .running) fun p hp =>
    ⟨(hl p hp).running, by rw [(hl p hp).cancelled]; decide⟩
  have hmoved : (cancellations l).filterMap RowWrite.moved = l.map fun p => p.2.id := by
    rw [cancellations, filterMap_map, ← filterMap_eq_map']
    refine filterMap_congr fun p hp => ?_
    have h1 := (hl p hp).revision
    have h2 := (hl p hp).revision'
    simp [RowWrite.moved, h1, h2]
  rw [hmoved]
  exact hnodup

/-- **What cancellations take from the running executions of a task** that meet a condition. -/
theorem cancellations_count (τ : String) (q : ExecutionRow → Bool) :
    ((cancellations l).map (·.countDelta fun e => e.runsFor τ && q e)).sum =
      if taskId = τ then -(l.countP fun p => q p.1 : ℤ) else 0 := by
  induction l with
  | nil => simp [cancellations]
  | cons p l ih =>
    have hp := hl p mem_cons_self
    have htail := ih fun q hq => hl q (mem_cons_of_mem _ hq)
    have hhead : (RowWrite.update p.1 p.2).countDelta (fun e => e.runsFor τ && q e) =
        -(if taskId = τ ∧ q p.1 then 1 else 0) := by
      simp [RowWrite.countDelta, ExecutionRow.runsFor, hp.running, hp.cancelled, hp.taskId]
    simp only [cancellations, map_cons, sum_cons, countP_cons] at htail ⊢
    rw [htail, hhead]
    by_cases hτ : taskId = τ <;> by_cases hq : q p.1 <;> simp [hτ, hq]

variable {b b' : BudgetRow} {ts : List (RowWrite TaskRow)} {bs : List (RowWrite BranchRow)}
  {cs : List (RowWrite (ClaimRow D.Plan))}

/-- Cancellations are balanced by a budget that takes back the slots of what was cancelled. -/
theorem cancellations_balanced (hid : b'.taskId = taskId)
    (hactive : b'.activeExecutions = b.activeExecutions - l.length)
    (hparallel : b'.activeParallelAgents = b.activeParallelAgents - delegatedCount l)
    (hbranches : ∀ τ, (if taskId = τ then b'.activeBranches - b.activeBranches else 0) =
      (bs.map (·.countDelta (BranchRow.openFor τ))).sum) :
    Changes.Balanced
      { tasks := ts, budgets := [.update b b'], executions := cancellations l, branches := bs
        claims := cs } := by
  refine ⟨⟨fun τ => ?_, fun τ => ?_⟩, fun τ => ?_⟩
  · have hrunning := cancellations_count hl τ fun _ => true
    simp only [Bool.and_true, countP_true] at hrunning
    rw [hrunning]
    simp [RowWrite.valueDelta, hid, hactive]
  · rw [← hbranches τ]
    simp [RowWrite.valueDelta, hid]
  · have hdelegated : ExecutionRow.delegatedFor τ =
        fun e => e.runsFor τ && e.parentExecutionId.isSome := by
      ext e
      simp [ExecutionRow.delegatedFor]
    rw [hdelegated, cancellations_count hl τ fun e => e.parentExecutionId.isSome]
    simp [RowWrite.valueDelta, hid, hparallel, delegatedCount]

theorem cancellations_isExecutionOfTask {db db' : Db D}
    (h : TableLog db.executions (cancellations l) db'.executions) (τ executionId : String) :
    isExecutionOfTask db' τ executionId = isExecutionOfTask db τ executionId := by
  have hws : ∀ w ∈ cancellations l, ∃ e e', w = .update e e' ∧ e.SameLineage e' := by
    intro w hw
    obtain ⟨p, hp, rfl⟩ := mem_map.1 hw
    exact ⟨p.1, p.2, rfl, (hl p hp).lineage⟩
  generalize cancellations l = ws at h hws
  simp only [isExecutionOfTask, getExecution]
  generalize db.executions = t at h
  generalize db'.executions = t' at h
  induction h with
  | nil => rfl
  | cons hw _ ih =>
    rw [ih fun w hw' => hws w (mem_cons_of_mem _ hw')]
    obtain ⟨e, e', rfl, hline⟩ := hws _ mem_cons_self
    rw [RowWrite.Applies.find? hw]
    split
    · next hk =>
        subst hk
        have hold : _ = some e := hw.1
        simp only [RowWrite.row]
        rw [hold]
        simp [hline.taskId]
    · rfl

end Cancellations

end AssistantRuntime.TaskBudget

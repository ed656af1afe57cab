/-
**A discarded branch, and what still runs on it.**

`discard_branch` looks at the head of the branch: a terminal head is left alone, a dormant one is
cancelled, any other refuses the discard.  Executions that the head delegated to live on the same
branch and are not looked at.  A head that has ended may have left them running or waiting, and then
the branch is discarded under them.

Nothing new comes to a discarded branch: executions are stored on open branches only, and an execution
that has ended makes no move.  So a branch is quiet for good from the moment at which all its
executions have ended, and a discard makes it so exactly if the executions below the head have.

Main results:

* `Event.Occurs.allEnded` — on a branch that is not open, what has ended is all there will be;
* `quiet_after_discard` — when a discarded branch is quiet;
* `discarded_under_child` — a branch that is discarded under a running execution.
-/

import AssistantRuntime.Runtime.Admissions
import AssistantRuntime.Runtime.ClaimLifeCycle
import AssistantRuntime.Runtime.Lineage

namespace AssistantRuntime.Runtime

open Relational Uow Table Agent TaskBudget Persistence Option

variable {D : Digests} {db db' : Db D} {τ β : String}

/-! ### Quiet branches -/

def Stirs (e : ExecutionRow) : Prop := e.state = .running ∨ e.state = .waiting

/-- No execution of the branch runs or waits. -/
def Quiet (db : Db D) (branchId : String) : Prop :=
  ∀ e ∈ db.executions, e.branchId = some branchId → ¬ Stirs e

/-- All executions of the branch have ended. -/
def AllEnded (db : Db D) (branchId : String) : Prop :=
  ∀ e ∈ db.executions, e.branchId = some branchId → e.state.isTerminal = true

/-- Every execution of the branch that is not at its head has ended. -/
def QuietBelow (db : Db D) (b : BranchRow) : Prop :=
  ∀ e ∈ db.executions, e.branchId = some b.branchId → b.currentExecutionId ≠ some e.id →
    e.state.isTerminal = true

theorem not_stirs_of_terminal {e : ExecutionRow} (h : e.state.isTerminal = true) : ¬ Stirs e := by
  rintro (hs | hs) <;>
    · rw [hs] at h
      cases h

theorem AllEnded.quiet (h : AllEnded db β) : Quiet db β :=
  fun e he hbranch => not_stirs_of_terminal (h e he hbranch)

variable {b : BranchRow}

/-- **On a branch that is not open, what has ended is all there will be.** -/
theorem Event.Occurs.allEnded {ev : Event D} (h : ev.Occurs db db')
    (hb : getTaskBranch db β = some b) (hclosed : b.resolutionState ≠ .open)
    (hended : AllEnded db β) : AllEnded db' β := by
  intro e' he' hbranch
  cases hold : getExecution db e'.id with
  | some e =>
    -- an execution that was there has ended, and makes no move
    obtain ⟨e1, he1, hlineage, hcases⟩ := h.moves e'.id e hold
    obtain rfl : e1 = e' := mem_unique he1 (find?_key he')
    have hover := hended e (mem_of_find? hold) (hlineage.branchId.symm.trans hbranch)
    rcases hcases with ⟨hstate, -⟩ | ⟨hlive, -⟩
    · rw [hstate]
      exact hover
    · rw [hover] at hlive
      cases hlive
  | none =>
    -- a new execution is on an open branch
    rcases h.origins with hstanding | ⟨taskId, e, hadmission, -⟩
    · have hnone := hstanding.noneNew e'.id hold
      rw [show getExecution db' e'.id = some e' from find?_key he'] at hnone
      cases hnone
    · rcases (mem_insert? hadmission.stored).1 he' with hmem | rfl
      · rw [show getExecution db e'.id = some e' from find?_key hmem] at hold
        cases hold
      · obtain ⟨β', hβ', hopen, -⟩ := hadmission.branch
        obtain rfl : β' = β := mem_unique hβ' hbranch
        exact absurd (hopen b hb) hclosed

theorem Event.Occurs.branch_closed {ev : Event D} (h : ev.Occurs db db')
    (hb : getTaskBranch db β = some b) (hclosed : b.resolutionState ≠ .open) :
    getTaskBranch db' β = some b := by
  obtain ⟨c, hlawful, -⟩ := h.commit
  obtain ⟨b', hb', hsettles⟩ := hlawful.branches_settled β b hb
  rw [← hsettles.2 hclosed]
  exact hb'

theorem allEnded_of_run {events : List (Event D)} (h : Run Event.Occurs db events db')
    (hb : getTaskBranch db β = some b) (hclosed : b.resolutionState ≠ .open)
    (hended : AllEnded db β) : AllEnded db' β := by
  refine (h.invariant (P := fun s => getTaskBranch s β = some b ∧ AllEnded s β) ?_
    ⟨hb, hended⟩).2
  rintro ev s s' ⟨hbs, hs⟩ hoccurs
  exact ⟨hoccurs.branch_closed hbs hclosed, hoccurs.allEnded hbs hclosed hs⟩

/-! ### Discarding -/

section Discards

variable {targetUserId : String} {now : ℤ} {result : BranchDiscardResult} {b : BranchRow}

variable (h : discardBranch τ β targetUserId now db = .ok (result, db'))

include h

/-- The rows of a discard: the head has ended, and the other executions are as they were. -/
theorem discard_rows (hb : getTaskBranch db β = some b) (hopen : b.resolutionState = .open) :
    (∀ x ∈ b.currentExecutionId, ∃ e', getExecution db' x = some e' ∧ e'.state.isTerminal = true) ∧
      (∀ x, b.currentExecutionId ≠ some x → getExecution db' x = getExecution db x) ∧
      ∃ b', getTaskBranch db' β = some b' ∧ b'.resolutionState = .discarded := by
  obtain ⟨task, budget, selected, -, -, hselected, -, hcases⟩ := discardBranch_ok h
  obtain rfl : selected = b := mem_unique hselected hb
  rcases hcases with ⟨hdiscarded, -⟩ | ⟨-, -, -, released, executions, hrelease, -, rfl⟩
  · rw [hdiscarded] at hopen
    cases hopen
  · obtain ⟨hhead, hothers⟩ := releaseHead_rows hrelease
    refine ⟨?_, hothers, _, find?_put_same hb rfl, rfl⟩
    intro x hx
    obtain ⟨-, -, -, -, e', he', hterminal, -⟩ := hhead x hx
    exact ⟨e', he', hterminal⟩

/-- What was below the head of a discarded branch is there as it was; the rest has ended. -/
theorem discard_cases (hb : getTaskBranch db β = some b) (hopen : b.resolutionState = .open)
    {e' : ExecutionRow} (he' : e' ∈ db'.executions) :
    e'.state.isTerminal = true ∨ (e' ∈ db.executions ∧ b.currentExecutionId ≠ some e'.id) := by
  obtain ⟨hhead, hothers, -⟩ := discard_rows h hb hopen
  by_cases hx : b.currentExecutionId = some e'.id
  · obtain ⟨e1, he1, hterminal⟩ := hhead _ hx
    obtain rfl : e1 = e' := mem_unique he1 (find?_key he')
    exact .inl hterminal
  · have hsame : getExecution db e'.id = some e' :=
      (hothers _ hx).symm.trans (find?_key he')
    exact .inr ⟨mem_of_find? hsame, hx⟩

omit h

/-- **When a discarded branch is quiet.**  After `discard_branch` has committed for an open branch no
execution of the branch runs or waits exactly if none but the head did so before; and if the
executions below the head had ended, then none of the branch runs or waits in any later state. -/
theorem quiet_after_discard (h : discardBranch τ β targetUserId now db = .ok (result, db'))
    (hb : getTaskBranch db β = some b) (hopen : b.resolutionState = .open) :
    ((∀ e ∈ db'.executions, e.branchId = some β → ¬ (e.state = .running ∨ e.state = .waiting)) ↔
        ∀ e ∈ db.executions, e.branchId = some β → b.currentExecutionId ≠ some e.id →
          ¬ (e.state = .running ∨ e.state = .waiting)) ∧
      (QuietBelow db b → ∀ later s, Run Event.Occurs db' later s →
        ∀ e ∈ s.executions, e.branchId = some β → ¬ (e.state = .running ∨ e.state = .waiting)) := by
  obtain ⟨-, hothers, b', hb', hdiscarded⟩ := discard_rows h hb hopen
  refine ⟨⟨?_, ?_⟩, ?_⟩
  · intro hquiet e he hbranch hx
    have hsame : getExecution db' e.id = some e := (hothers _ hx).trans (find?_key he)
    exact hquiet e (mem_of_find? hsame) hbranch
  · intro hbelow e' he' hbranch
    rcases discard_cases h hb hopen he' with hterminal | ⟨he, hx⟩
    · exact not_stirs_of_terminal hterminal
    · exact hbelow e' he hbranch hx
  · intro hbelow later s hrun
    have hid : b.branchId = β := key_of_find? hb
    have hended : AllEnded db' β := by
      intro e' he' hbranch
      rcases discard_cases h hb hopen he' with hterminal | ⟨he, hx⟩
      · exact hterminal
      · exact hbelow e' he (hbranch.trans (congrArg some hid.symm)) hx
    have hclosed : b'.resolutionState ≠ .open := by
      rw [hdiscarded]
      decide
    exact (allEnded_of_run hrun hb' hclosed hended).quiet

end Discards

/-! ### A branch that is discarded under a delegated execution

The root delegates, waits, and is forked; then its wait expires.  Its branch can be discarded, with
the execution that it delegated to still running there. -/

/-- A plan to fork the waiting root, made when the budget was at the given revision. -/
def sampleForkBody (budgetRevision : ℕ) : ForkPlanBody :=
  { sampleRetryBody with
    sourceBranchId := "r8_root_task"
    sourceCheckpointId := "checkpoint"
    checkpointIteration := 1
    expectedTaskBudgetRevision := budgetRevision
    baseTranscript := []
    baseTranscriptFingerprint := "value"
    sideEffects := []
    sideEffectFingerprint := "side-effects"
    runtimeSeed := .null
    runtimeSeedFingerprint := "value"
    overlayMessages := [] }

def forkAt (budgetRevision : ℕ) : Request transparentDigests :=
  .consumeForkPlan
    { sampleForkBody budgetRevision with
      forkRequestId := "fork", planFingerprint := .fork (sampleForkBody budgetRevision) }
    "r8_fork_1" "forked" 0 sampleEvidence

def sampleExpire : Request transparentDigests :=
  .expireWaiting "task" "root" 2 { state := some .timeout }

def sampleForked : List (Request transparentDigests) :=
  sampleStart.take 3 ++ [sampleDelegate, sampleWait, forkAt 3, sampleExpire]

/-- **A branch is discarded and an execution of it runs on.** -/
theorem discarded_under_child :
    ∃ result s e b, discardBranch "task" "r8_root_task" "user" 9 (after {} sampleForked) =
        .ok (result, s) ∧
      getTaskBranch s "r8_root_task" = some b ∧ b.resolutionState = .discarded ∧
      getExecution s "child" = some e ∧ e.branchId = some "r8_root_task" ∧ e.state = .running := by
  have hok : ((discardBranch "task" "r8_root_task" "user" 9
      (after {} sampleForked)).toOption.map fun r =>
        ((getTaskBranch r.2 "r8_root_task").map (·.resolutionState),
          (getExecution r.2 "child").map fun e => (e.branchId, e.state))) =
      some (some .discarded, some (some "r8_root_task", .running)) := by
    decide +kernel
  generalize after {} sampleForked = s₀ at hok ⊢
  simp only [map_eq_some_iff, Prod.mk.injEq] at hok
  obtain ⟨⟨result, s⟩, h, ⟨b, hb, hdiscarded⟩, e, he, hbranch, hrunning⟩ := hok
  exact ⟨result, s, e, b, ok_of_toOption h, hb, hdiscarded, he, hbranch, hrunning⟩

/-- The forked branch has nothing below its head: discarded, it is quiet for good. -/
theorem quiet_after_discard_sampleForked :
    ∃ result s, discardBranch "task" "r8_fork_1" "user" 9 (after {} sampleForked) =
        .ok (result, s) ∧
      ∀ later s', Run Event.Occurs s later s' → ∀ e ∈ s'.executions, e.branchId = some "r8_fork_1" →
        ¬ (e.state = .running ∨ e.state = .waiting) := by
  have hok : (discardBranch "task" "r8_fork_1" "user" 9
      (after {} sampleForked)).toOption.isSome = true := by
    decide +kernel
  have hbranch : (getTaskBranch (after {} sampleForked) "r8_fork_1").map
      (fun b => (b.branchId, b.resolutionState, b.currentExecutionId)) =
        some ("r8_fork_1", .open, some "forked") := by
    decide +kernel
  have hbelow : (after {} sampleForked).executions.rows.all (fun e =>
      e.branchId ≠ some "r8_fork_1" ∨ e.id = "forked") = true := by
    decide +kernel
  generalize after {} sampleForked = s₀ at *
  obtain ⟨b, hb, hcolumns⟩ := map_eq_some_iff.1 hbranch
  simp only [Prod.mk.injEq] at hcolumns
  obtain ⟨hid, hopen, hhead⟩ := hcolumns
  obtain ⟨p, h⟩ := isSome_iff_exists.1 hok
  have h := ok_of_toOption h
  refine ⟨p.1, p.2, h, (quiet_after_discard h hb hopen).2 ?_⟩
  intro e he hon hx
  rw [hid] at hon
  rcases of_decide_eq_true (List.all_eq_true.1 hbelow e he) with hoff | hat
  · exact absurd hon hoff
  · exact absurd (hhead.trans (congrArg some hat.symm)) hx

end AssistantRuntime.Runtime

/-
**The life of a resume claim.**

A claim is made by one client, may be rebound to another connection, and ends consumed, expired or
rejected.  Whoever consumes it wakes the execution it is about.  Creation, rebinding, handoffs and
consumption read the claim in transactions of their own, so that what holds of one claim over its
whole life is a fact about runs: consumption is the only step that leaves a claim consumed, it moves
the execution out of the revision that the claim names, and revisions never come back.

Main results:

* `Event.Occurs.retains_or_wakes` — a step consumes no claim, or wakes one execution;
* `claim_life_cycle` — a claim ends once, a revision is claimed once, consumption is the move it
  pays for, and a rebinding changes the connection only.
-/

import AssistantRuntime.Runtime.Accounting
import AssistantRuntime.Runtime.Retention

namespace AssistantRuntime.Runtime

open Relational Uow Table Agent TaskBudget Persistence

variable {D : Digests} {db db' : Db D}

/-! ### The step that consumes a claim -/

/-- A claim of the database, and the waiting execution that its consumption woke up. -/
def WakesClaim (db db' : Db D) : Prop :=
  ∃ (claim : ClaimRow D.Plan) (target : ClaimTarget),
    getResumeClaim db claim.claimId = some claim ∧
    target.Fits db claim.executionId claim.expectedExecutionRevision ∧
    Wakes db claim.claimId target db'

theorem retains_or_wakes_of_consumption (h : Consumption db db') :
    Retains False db db' ∨ WakesClaim db db' := by
  cases h with
  | replayed => exact .inl (.refl _)
  | refused hp h => rcases hp with ⟨_, _, rfl⟩ | ⟨_, rfl⟩ <;> exact .inl (Respects.rel h)
  | timedOut _ h => exact .inl (Respects.rel h)
  | activated hclaim hfits h => exact .inr ⟨_, _, hclaim, hfits, h.toWakes⟩

variable {ev : Event D}

/-- **A step consumes no claim, or wakes the execution of one.** -/
theorem Event.Occurs.retains_or_wakes (h : ev.Occurs db db') :
    Retains False db db' ∨ WakesClaim db db' := by
  have hretains := h.retains
  obtain ⟨request, outcome⟩ := ev
  cases outcome with
  | error e =>
    obtain ⟨-, rfl⟩ := h
    exact .inl (.refl _)
  | ok a =>
    have hok : request.perform db = .ok (a, db') := h
    cases request with
    | consumeResumeClaim spec evidence =>
      exact retains_or_wakes_of_consumption (consumeResumeClaimOnce_cases hok)
    | consumeRecoveryClaim spec evidence =>
      exact retains_or_wakes_of_consumption (consumeRecoveryClaimOnce_cases hok)
    | _ => exact .inl hretains

/-- What the step that consumes `claim` does: the claim was in state `CREATED`, its execution goes
from `WAITING` at the revision the claim expects to `RUNNING` at the next one, and the budget of its
task gives one unit of active capacity. -/
structure ConsumedIn (claim : ClaimRow D.Plan) (db db' : Db D) : Prop where
  created : ∃ c, getResumeClaim db claim.claimId = some c ∧ c.state = .created
  moved : ∃ e e', getExecution db claim.executionId = some e ∧
    getExecution db' claim.executionId = some e' ∧
    e.state = .waiting ∧ e.revision = claim.expectedExecutionRevision ∧
    e'.state = .running ∧ e'.revision = claim.expectedExecutionRevision + 1 ∧
    ∀ τ, e.taskId = some τ → ∃ b b', getTaskBudget db τ = some b ∧ getTaskBudget db' τ = some b' ∧
      b'.activeExecutions = b.activeExecutions + 1

variable {c' : ClaimRow D.Plan}

theorem Event.Occurs.consumedIn (h : ev.Occurs db db') (hc' : c' ∈ db'.claims)
    (hconsumed : c'.state = .consumed)
    (hbefore : ∀ c, getResumeClaim db c'.claimId = some c → c.state ≠ .consumed) :
    ConsumedIn c' db db' := by
  rcases h.retains_or_wakes with hretains | ⟨claim, target, hclaim, hfits, hwakes⟩
  · rcases hretains.consumed c' hc' hconsumed with himpossible | ⟨c, hc, hstate⟩
    · exact himpossible.elim
    · exact absurd hstate (hbefore c hc)
  rcases hwakes.claims_cases hc' with ⟨c, hc, hcreated, hid, hexecution, hrevision⟩ | ⟨hold, -⟩
  · cases Option.mem_unique hclaim hc
    rw [← hexecution, ← hrevision] at hfits
    obtain ⟨e', hexecutions, hsteps, hrunning⟩ := hwakes.execution
    have he' : getExecution db' c'.executionId = some e' := by
      rw [getExecution, hexecutions]
      exact find?_put_same hfits.execution hsteps.lineage.id
    refine ⟨⟨claim, by rwa [hid], hcreated⟩, target.execution, e', hfits.execution, he',
      hfits.waiting, hfits.revision, hrunning, ?_, fun τ hτ => hwakes.active hfits hτ⟩
    rw [hsteps.revision, hfits.revision]
  · exact absurd hconsumed (hbefore c' (find?_key hold))

/-! ### One claim for a revision -/

/-- The execution of a consumed claim is past the revision that the claim names, and no other claim
was consumed for that revision. -/
structure Spent (db : Db D) : Prop where
  past : ∀ c ∈ db.claims, c.state = .consumed →
    ∃ e, getExecution db c.executionId = some e ∧ c.expectedExecutionRevision < e.revision
  once : ∀ c₁ ∈ db.claims, ∀ c₂ ∈ db.claims, c₁.state = .consumed → c₂.state = .consumed →
    c₁.executionId = c₂.executionId →
    c₁.expectedExecutionRevision = c₂.expectedExecutionRevision → c₁ = c₂

/-- Before a claim is consumed there is nothing to spend. -/
theorem Spent.of_unconsumed (h : ∀ c ∈ db.claims, c.state ≠ .consumed) : Spent db where
  past c hc hconsumed := absurd hconsumed (h c hc)
  once c1 hc1 _ _ hconsumed := absurd hconsumed (h c1 hc1)

/-- A step leaves the execution of a claim at a later revision, or where it was. -/
theorem Event.Occurs.past (h : ev.Occurs db db') {x : String} {r : ℕ}
    (hpast : ∃ e, getExecution db x = some e ∧ r < e.revision) :
    ∃ e, getExecution db' x = some e ∧ r < e.revision := by
  obtain ⟨e, he, hr⟩ := hpast
  obtain ⟨e', he', hle⟩ := revision_le_of_run (.cons h (.nil _)) x e he
  exact ⟨e', he', by omega⟩

/-- A claim that is consumed after a step was consumed before it, or is consumed in it. -/
theorem Event.Occurs.consumed_cases (h : ev.Occurs db db') (hc' : c' ∈ db'.claims)
    (hconsumed : c'.state = .consumed) :
    (∃ c ∈ db.claims, c.Ages c' ∧ c.state = .consumed) ∨ ConsumedIn c' db db' := by
  by_cases hbefore : ∃ c, getResumeClaim db c'.claimId = some c ∧ c.state = .consumed
  · obtain ⟨c, hc, hstate⟩ := hbefore
    obtain ⟨r, hr, hages⟩ := h.retains.claims c'.claimId c hc
    cases Option.mem_unique hr (find?_key hc')
    exact .inl ⟨c, mem_of_find? hc, hages, hstate⟩
  · exact .inr (h.consumedIn hc' hconsumed fun c hc hstate => hbefore ⟨c, hc, hstate⟩)

/-- The execution of a claim that a step consumes was at the revision that the claim names. -/
theorem ConsumedIn.not_past {c : ClaimRow D.Plan} (h : ConsumedIn c db db') {x : String} {r : ℕ}
    (hx : x = c.executionId) (hr : r = c.expectedExecutionRevision) :
    ¬ ∃ e, getExecution db x = some e ∧ r < e.revision := by
  rintro ⟨e, he, hlt⟩
  obtain ⟨e1, -, he1, -, -, hrevision, -⟩ := h.moved
  subst hx
  cases Option.mem_unique he he1
  omega

theorem Event.Occurs.consumedIn_unique (h : ev.Occurs db db')
    {c1 c2 : ClaimRow D.Plan} (hc1 : c1 ∈ db'.claims) (hc2 : c2 ∈ db'.claims)
    (hconsumed1 : c1.state = .consumed) (hconsumed2 : c2.state = .consumed)
    (h1 : ConsumedIn c1 db db') (h2 : ConsumedIn c2 db db') : c1 = c2 := by
  -- a claim that is consumed in the step is not a claim of the database before it
  have hfresh {c : ClaimRow D.Plan} (hin : ConsumedIn c db db') (hconsumed : c.state = .consumed)
      (hold : c ∈ db.claims) : False := by
    obtain ⟨r, hr, hcreated⟩ := hin.created
    cases Option.mem_unique hr (find?_key hold)
    exact nomatch hconsumed.symm.trans hcreated
  rcases h.retains_or_wakes with hretains | ⟨claim, target, hclaim, -, hwakes⟩
  · rcases hretains.consumed c1 hc1 hconsumed1 with himpossible | ⟨c, hc, hstate⟩
    · exact himpossible.elim
    · obtain ⟨r, hr, hcreated⟩ := h1.created
      cases Option.mem_unique hr hc
      exact nomatch hstate.symm.trans hcreated
  · rcases hwakes.claims_cases hc1 with ⟨r1, hr1, -, hid1, -⟩ | ⟨hold, -⟩
    · rcases hwakes.claims_cases hc2 with ⟨r2, hr2, -, hid2, -⟩ | ⟨hold, -⟩
      · cases Option.mem_unique hr1 hr2
        exact eq_of_key_eq hc1 hc2 (hid1.trans hid2.symm)
      · exact (hfresh h2 hconsumed2 hold).elim
    · exact (hfresh h1 hconsumed1 hold).elim

/-- **A step keeps spent claims spent.** -/
theorem Event.Occurs.spent (h : ev.Occurs db db') (hspent : Spent db) :
    Spent db' where
  past c' hc' hconsumed := by
    rcases h.consumed_cases hc' hconsumed with ⟨c, hc, hages, hstate⟩ | hin
    · rw [hages.executionId, hages.expectedExecutionRevision]
      exact h.past (hspent.past c hc hstate)
    · obtain ⟨-, e', -, he', -, -, -, hrevision, -⟩ := hin.moved
      exact ⟨e', he', by omega⟩
  once c1 hc1 c2 hc2 hconsumed1 hconsumed2 hexecution hrevision := by
    rcases h.consumed_cases hc1 hconsumed1 with ⟨r1, hr1, hages1, hstate1⟩ | hin1
    · rcases h.consumed_cases hc2 hconsumed2 with ⟨r2, hr2, hages2, hstate2⟩ | hin2
      · rw [hages1.executionId, hages2.executionId] at hexecution
        rw [hages1.expectedExecutionRevision, hages2.expectedExecutionRevision] at hrevision
        have hsame := hspent.once r1 hr1 r2 hr2 hstate1 hstate2 hexecution hrevision
        refine eq_of_key_eq hc1 hc2 (hages1.claimId.trans ?_)
        rw [hsame, hages2.claimId]
      · rw [hages1.executionId] at hexecution
        rw [hages1.expectedExecutionRevision] at hrevision
        exact (hin2.not_past hexecution hrevision (hspent.past r1 hr1 hstate1)).elim
    · rcases h.consumed_cases hc2 hconsumed2 with ⟨r2, hr2, hages2, hstate2⟩ | hin2
      · rw [hages2.executionId] at hexecution
        rw [hages2.expectedExecutionRevision] at hrevision
        exact (hin1.not_past hexecution.symm hrevision.symm (hspent.past r2 hr2 hstate2)).elim
      · exact h.consumedIn_unique hc1 hc2 hconsumed1 hconsumed2 hin1 hin2

/-! ### Rebinding -/

/-- A claim that a rebinding returned: the stored one, or the stored one at another connection. -/
theorem rebindCreatedResumeClaim_ok {claimId : String} {plan : ResumePlan D.Plan}
    {resumeRequestId : String} {now : ℤ}
    (h : rebindCreatedResumeClaim claimId plan resumeRequestId now db = .ok (.ok c', db')) :
    ∃ c, getResumeClaim db claimId = some c ∧
      (c' = c ∧ db' = db ∨
        c' = { c with
          connectionId := plan.targetConnectionId, planFingerprint := plan.planFingerprint
          revision := c.revision + 1 } ∧ db' = { db with claims := db.claims.put c' }) := by
  simp only [rebindCreatedResumeClaim, requireReconnectPlan, bind_assoc, steps_ok,
    lockClaimTask_bind_ok, ite_ok, pure_ok, rebindClaim, compareAndSetResumeClaim_bind_ok,
    Prod.mk.injEq] at h
  obtain ⟨-, -, -, -, task, -, -, record, hrecord, ⟨-, hanswer, rfl⟩ | ⟨-, -, e, -, ⟨-, h⟩ |
    ⟨-, ⟨-, hanswer, rfl⟩ | ⟨-, c, hc, ⟨hrevision, -⟩, hanswer, rfl⟩⟩⟩⟩ := h
  · exact ⟨record, hrecord, .inl ⟨Except.ok.inj hanswer, rfl⟩⟩
  · simp only [rejectForTerminalTask, compareAndSetResumeClaim_bind_ok, pure_mk,
      reduceCtorEq, false_and, and_false] at h
    exact h.choose_spec.elim
  · exact ⟨record, hrecord, .inl ⟨Except.ok.inj hanswer, rfl⟩⟩
  · have hkey : record.claimId = claimId := key_of_find? hrecord
    cases Option.mem_unique (hkey ▸ hc) hrecord
    cases Except.ok.inj hanswer
    exact ⟨_, hrecord, .inr ⟨rfl, rfl⟩⟩

/-! ### The whole life -/

/-- **The life of a resume claim.**  Let no claim be consumed at first, let anything happen up to
`s`, and more up to `s'`.  A claim of `s` is still there in `s'`, with the identity it had, and in the
state it had unless that was `CREATED`.  No two claims of `s'` are consumed for one revision of one
execution.  Whatever step comes next, a claim that it leaves consumed, and that was not consumed
before, is consumed in it.  And a rebinding that returns a claim leaves it as it was, or gives it
another connection and another plan fingerprint. -/
theorem claim_life_cycle {s₀ s s' : Db D} {before events : List (Event D)}
    (hstart : ∀ c ∈ s₀.claims, c.state ≠ .consumed) (hbefore : Run Event.Occurs s₀ before s)
    (hrun : Run Event.Occurs s events s') :
    (∀ claimId c, getResumeClaim s claimId = some c →
      ∃ c', getResumeClaim s' claimId = some c' ∧ c.Ages c') ∧
    (∀ c₁ ∈ s'.claims, ∀ c₂ ∈ s'.claims, c₁.state = .consumed → c₂.state = .consumed →
      c₁.executionId = c₂.executionId →
      c₁.expectedExecutionRevision = c₂.expectedExecutionRevision → c₁ = c₂) ∧
    (∀ ev s₁, Event.Occurs ev s' s₁ → ∀ c ∈ s₁.claims, c.state = .consumed →
      (∀ old, getResumeClaim s' c.claimId = some old → old.state ≠ .consumed) →
      ConsumedIn c s' s₁) ∧
    ∀ claimId plan resumeRequestId now c' s₁,
      rebindCreatedResumeClaim claimId plan resumeRequestId now s' = .ok (.ok c', s₁) →
      ∃ c, getResumeClaim s' claimId = some c ∧
        (c' = c ∧ s₁ = s' ∨
          c' = { c with
            connectionId := plan.targetConnectionId, planFingerprint := plan.planFingerprint
            revision := c.revision + 1 } ∧ s₁ = { s' with claims := s'.claims.put c' }) := by
  have hspent : Spent s' :=
    (hbefore.append hrun).invariant (fun _ _ _ hs ho => ho.spent hs) (.of_unconsumed hstart)
  refine ⟨fun claimId c hc => (retains_of_run hrun).claims claimId c hc, hspent.once, ?_, ?_⟩
  · intro ev s₁ hstep c hc hconsumed hfresh
    exact hstep.consumedIn hc hconsumed hfresh
  · intro claimId plan resumeRequestId now c' s₁ hrebind
    exact rebindCreatedResumeClaim_ok hrebind

def sampleWait : Request transparentDigests :=
  finishRoot { state := some .waiting, waitReason := some (some "CONNECTION") } <| some
    { checkpointId := "checkpoint"
      executionId := "root"
      executionRevision := 2
      sessionId := "session"
      taskId := some "task"
      branchId := some "r8_root_task"
      iteration := 1
      waitReason := "CONNECTION"
      remainingActiveBudgetSeconds := some 30
      originClientId := some "client"
      originConnectionId := some "first"
      transcriptSnapshot := some [] }

def samplePlanBody : ResumePlanBody where
  executionId := "root"
  checkpointId := "checkpoint"
  expectedExecutionRevision := 2
  lineage :=
    { agentId := "agent"
      sessionId := "session"
      taskId := some "task"
      branchId := some "r8_root_task" }
  correlationId := "correlation"
  iteration := 1
  orderedToolCallIds := []
  transcriptSnapshot := []
  remainingActiveBudgetSeconds := 30
  targetUserId := "user"
  targetClientId := some "client"
  targetConnectionId := some "second"
  invocationActions := []

def sampleClaim : Request transparentDigests :=
  .getOrCreateResumeClaim
    { resumeRequestId := "request"
      executionId := "root"
      checkpointId := "checkpoint"
      expectedExecutionRevision := 2
      planFingerprint := .resume samplePlanBody
      userId := "user"
      waitReason := "CONNECTION"
      triggerType := .clientReconnect
      claimExpiresAt := 10
      clientId := some "client"
      connectionId := some "second" }
    "claim" (some "task") 1

def sampleConsume : Request transparentDigests :=
  .consumeResumeClaim
    { plan := { samplePlanBody with planFingerprint := .resume samplePlanBody }
      claimId := "claim"
      resumeRequestId := "request"
      expectedClaimRevision := 0
      now := 2 }
    { resultCommitted := fun _ => false
      snapshotFits := fun _ => false
      invocationFits := fun _ => false }

theorem claim_life_cycle_sampleConsume :
    ∃ c s s₁, s = after {} (sampleStart ++ [sampleWait, sampleClaim]) ∧
      s₁ = stored sampleConsume.perform s ∧
      getResumeClaim s₁ "claim" = some c ∧ c.state = .consumed ∧ ConsumedIn c s s₁ := by
  have hbefore : (getResumeClaim (after {} (sampleStart ++ [sampleWait, sampleClaim])) "claim").map
      (·.state) = some .created := by
    decide +kernel
  have hafter : (getResumeClaim (stored sampleConsume.perform
      (after {} (sampleStart ++ [sampleWait, sampleClaim]))) "claim").map (·.state) =
        some .consumed := by
    decide +kernel
  have hrun := history_run {} (sampleStart ++ [sampleWait, sampleClaim])
  obtain ⟨c, hc, hconsumed⟩ := Option.map_eq_some_iff.1 hafter
  generalize hs : after {} (sampleStart ++ [sampleWait, sampleClaim]) = s at *
  refine ⟨c, s, _, rfl, rfl, hc, hconsumed, ?_⟩
  have hid : c.claimId = "claim" := key_of_find? hc
  refine (claim_life_cycle (by simp) hrun (.nil s)).2.2.1 _ _
    (Request.event_occurs sampleConsume s) c (mem_of_find? hc) hconsumed ?_
  intro old hold hstate
  rw [hid] at hold
  rw [hold] at hbefore
  simp [hstate] at hbefore

end AssistantRuntime.Runtime

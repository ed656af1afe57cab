/-
**Delegation is bounded.**

An execution delegates in two units of work: `resolve_delegation_admission` derives the depth and the
ancestors of the new execution, and a later start stores it.  Anything may happen between the two.
What the first one found stays true nevertheless, for executions keep their parents, their agents and
their places for good.  So every chain of parents is finite, stays on one branch of its task, and is
as deep and as free of repeated agents as the budget asks.

The heads of branches have no parents.  A fork, a retry and an aggregation continue a head, and so
none of them starts inside a chain.

Main results:

* `DelegationStep.delegates` — every step keeps the chains within their bounds;
* `delegation_bounded` — **chains are finite and within their bounds in every state, and no
  admission finds them broken**.
-/

import AssistantRuntime.Runtime.Lineage
import AssistantRuntime.Runtime.Accounting
import AssistantRuntime.TaskBudget.Delegation
import AssistantRuntime.TaskBudget.Projection

namespace AssistantRuntime.Runtime

open Relational Uow Agent TaskBudget Persistence List Option Table

variable {D : Digests} {db db' : Db D} {τ : String}

/-! ### Resolved admissions and starts -/

/-- The stored state, and the admissions that were resolved. -/
structure DelegationState (D : Digests) where
  db : Db D
  resolved : List DelegationAdmission

/-- What happens: an admission is resolved, or anything else. -/
inductive DelegationAct (D : Digests)
  | resolve (taskId : String) (parentExecutionId : Option String) (childAgentId : String)
  | event (ev : Event D)

/-- What callers promise: a delegated execution is started with the parent, the agent and the depth
of an admission that was resolved, and a drawn branch id is not empty. -/
def Request.StartsResolved (resolved : List DelegationAdmission) : Request D → Prop
  | start _ taskId _ values depth _ _ => values.parentExecutionId.isSome → ∃ a ∈ resolved,
      a.taskId = taskId ∧ a.parentExecutionId = values.parentExecutionId ∧
      a.childAgentId = values.agentId ∧ (a.delegationDepth : ℤ) = depth
  | consumeForkPlan _ branchId .. => branchId ≠ ""
  | _ => True

/-- The steps of the runtime, together with resolved admissions. -/
inductive DelegationStep : DelegationAct D → DelegationState D → DelegationState D → Prop
  | resolve {s : DelegationState D} {taskId childAgentId : String}
      {parentExecutionId : Option String} {a : DelegationAdmission} {db' : Db D}
      (h : resolveDelegationAdmission taskId parentExecutionId childAgentId s.db = .ok (a, db')) :
      DelegationStep (.resolve taskId parentExecutionId childAgentId) s ⟨db', a :: s.resolved⟩
  | event {s : DelegationState D} {ev : Event D} {db' : Db D} (h : ev.Occurs s.db db')
      (hresolved : ev.request.StartsResolved s.resolved) :
      DelegationStep (.event ev) s ⟨db', s.resolved⟩

/-! ### Chains -/

/-- The execution is on a branch of the task, and so are its ancestors; they are no more than the
budget allows, and with a policy against it no agent comes twice. -/
def Lineal (db : Db D) (taskId : String) (e : ExecutionRow) : Prop :=
  ∃ β l b, (e.branchId = some β ∧ β ≠ "") ∧
    (∃ br, getTaskBranch db β = some br ∧ br.taskId = taskId) ∧
    Ancestry db e.parentExecutionId l ∧
    (∀ r ∈ l, r.taskId = some taskId ∧ r.branchId = some β) ∧
    getTaskBudget db taskId = some b ∧ (l.length : ℤ) ≤ b.limits.maxDelegationDepth ∧
    (b.denyRecursiveAgentCycle = true → (e.agentId :: l.map (·.agentId)).Nodup)

/-- The ancestors that an admission found are still those of its parent. -/
def StillResolved (db : Db D) (taskId : String) (a : DelegationAdmission) : Prop :=
  ∀ p ∈ a.parentExecutionId, ∃ l b, Ancestry db (some p) l ∧ a.delegationDepth = l.length ∧
    getTaskBudget db taskId = some b ∧ (l.length : ℤ) ≤ b.limits.maxDelegationDepth ∧
    (b.denyRecursiveAgentCycle = true → a.childAgentId ∉ l.map (·.agentId))

/-- What is kept: heads have no parents, chains are within bounds, a budget has counted every
execution, and resolved admissions still say the truth. -/
structure Delegates (s : DelegationState D) (taskId : String) : Prop where
  heads : ∀ b ∈ s.db.branches, b.taskId = taskId → ∀ x ∈ b.currentExecutionId,
    ∃ e, getExecution s.db x = some e ∧ e.taskId = some taskId ∧ e.parentExecutionId = none
  lineal : ∀ e ∈ s.db.executions, e.taskId = some taskId → Lineal s.db taskId e
  used : ∀ b, getTaskBudget s.db taskId = some b →
    (s.db.executions.count (fun e => e.taskId = some taskId) : ℤ) ≤ b.usedExecutions
  sound : BudgetsSound s.db taskId
  resolved : ∀ a ∈ s.resolved, a.taskId = taskId → StillResolved s.db taskId a

/-- What a step keeps of places, parents, branches and budgets. -/
structure Succeeds (db db' : Db D) : Prop where
  kin : db.executions.Evolves ExecutionRow.SameKin db'.executions
  branches : db.branches.Evolves (fun b b' => b'.taskId = b.taskId) db'.branches
  budgets : db.budgets.Evolves BudgetRow.Grows db'.budgets

variable {ev : Event D}

theorem Event.Occurs.succeeds (h : ev.Occurs db db') : Succeeds db db' where
  kin := by
    rcases h.origins with hstanding | ⟨taskId, e, hadmission, -⟩
    · exact hstanding.kin
    · intro x r hr
      have hne : x ≠ e.id := by
        rintro rfl
        have hfresh := fresh_insert? hadmission.stored
        rw [hfresh] at hr
        cases hr
      refine ⟨r, ?_, .refl r⟩
      rw [Table.find?_insert? hadmission.stored, if_neg hne]
      exact hr
  branches := by
    obtain ⟨c, hlawful, -⟩ := h.commit
    intro x b hb
    obtain ⟨b', hb', hsettles⟩ := hlawful.branches_settled x b hb
    exact ⟨b', hb', hsettles.1⟩
  budgets := h.commit.budgetLog.grows

/-- The ancestors of an execution, later. -/
theorem Succeeds.ancestry (h : Succeeds db db') {o : Option String} {l : List ExecutionRow}
    (hl : Ancestry db o l) :
    ∃ l', Ancestry db' o l' ∧ l'.length = l.length ∧ l'.map (·.agentId) = l.map (·.agentId) ∧
      ∀ p : ExecutionRow → Prop, (∀ r r', r.SameKin r' → p r → p r') → (∀ r ∈ l, p r) →
        ∀ r ∈ l', p r := by
  induction hl with
  | nil => exact ⟨[], .nil, rfl, rfl, by simp⟩
  | @cons k e l he _ ih =>
    obtain ⟨e', he', hkin⟩ := h.kin k e he
    obtain ⟨l', hl', hlength, hagents, hall⟩ := ih
    refine ⟨e' :: l', .cons he' (hkin.parentExecutionId ▸ hl'), by simp [hlength],
      by simp [hagents, hkin.agentId], fun p hp hmem => ?_⟩
    simp only [mem_cons, forall_eq_or_imp] at hmem ⊢
    exact ⟨hp e e' hkin hmem.1, hall p hp hmem.2⟩

theorem Lineal.succeeds {e e' : ExecutionRow} (h : Lineal db τ e) (hs : Succeeds db db')
    (hkin : e.SameKin e') : Lineal db' τ e' := by
  obtain ⟨β, l, b, ⟨hβ, hne⟩, ⟨br, hbr, hbrTask⟩, hl, hall, hb, hdepth, hcycle⟩ := h
  obtain ⟨l', hl', hlength, hagents, hkeeps⟩ := hs.ancestry hl
  obtain ⟨br', hbr', hbrTask'⟩ := hs.branches β br hbr
  obtain ⟨b', hb', hgrows⟩ := hs.budgets τ b hb
  refine ⟨β, l', b', ⟨hkin.branchId.trans hβ, hne⟩, ⟨br', hbr', hbrTask'.trans hbrTask⟩,
    hkin.parentExecutionId ▸ hl', hkeeps _ ?_ hall, hb', ?_, ?_⟩
  · exact fun r r' hr hp => ⟨hr.taskId.trans hp.1, hr.branchId.trans hp.2⟩
  · rw [hlength, hgrows.limits]
    exact hdepth
  · rw [hgrows.denyRecursiveAgentCycle, hagents, hkin.agentId]
    exact hcycle

variable {a : DelegationAdmission}

theorem StillResolved.succeeds (h : StillResolved db τ a) (hs : Succeeds db db') :
    StillResolved db' τ a := by
  intro p hp
  obtain ⟨l, b, hl, hdepth, hb, hbound, hcycle⟩ := h p hp
  obtain ⟨l', hl', hlength, hagents, -⟩ := hs.ancestry hl
  obtain ⟨b', hb', hgrows⟩ := hs.budgets τ b hb
  refine ⟨l', b', hl', hdepth.trans hlength.symm, hb', ?_, ?_⟩
  · rw [hlength, hgrows.limits]
    exact hbound
  · rw [hgrows.denyRecursiveAgentCycle, hagents]
    exact hcycle

/-! ### A step -/

variable {resolved : List DelegationAdmission}

theorem Event.Occurs.heads (h : ev.Occurs db db') (hs : Delegates ⟨db, resolved⟩ τ) :
    ∀ b ∈ db'.branches, b.taskId = τ → ∀ x ∈ b.currentExecutionId,
      ∃ e, getExecution db' x = some e ∧ e.taskId = some τ ∧ e.parentExecutionId = none := by
  have hkept : ∀ b' ∈ db'.branches, b'.HeadIn db → b'.taskId = τ → ∀ x ∈ b'.currentExecutionId,
      ∃ e, getExecution db' x = some e ∧ e.taskId = some τ ∧ e.parentExecutionId = none := by
    rintro b' - ⟨b, hb, -, htask, hhead⟩ hτ x hx
    obtain ⟨e, he, heTask, hparent⟩ := hs.heads b hb (htask.trans hτ) x (hhead ▸ hx)
    obtain ⟨e', he', hkin⟩ := h.succeeds.kin x e he
    exact ⟨e', he', hkin.taskId.trans heTask, hkin.parentExecutionId.trans hparent⟩
  intro b' hb' hτ x hx
  rcases h.origins with hstanding | ⟨taskId, e, hadmission, horigin⟩
  · exact hkept b' hb' (hstanding.heads b' hb') hτ x hx
  · rcases hadmission.heads b' hb' with ⟨hhead, htask⟩ | hold
    swap
    · exact hkept b' hb' hold hτ x hx
    -- the new execution is the head: it continues another head, or it is the first one
    obtain rfl : x = e.id := mem_unique hx hhead
    obtain rfl : taskId = τ := htask.symm.trans hτ
    have hnew : getExecution db' e.id = some e := by
      unfold getExecution
      rw [Table.find?_insert? hadmission.stored, if_pos rfl]
    refine ⟨e, hnew, hadmission.task, ?_⟩
    rcases horigin with horigin | hdelegation
    · cases horigin with
      | root hparent => exact hparent
      | @head b source hb hbTask hbHead hsource hparent =>
        obtain ⟨source', hsource', -, hnone⟩ := hs.heads b hb hbTask source.id hbHead
        obtain rfl : source' = source := mem_unique hsource' hsource
        exact hparent.trans hnone
    · -- a delegated start leaves the heads, and this execution was not stored before
      obtain ⟨e0, he0, -, -⟩ := hs.heads b' (hdelegation.branches ▸ hb') hτ e.id hx
      have hfresh : getExecution db e.id = none := fresh_insert? hadmission.stored
      rw [hfresh] at he0
      cases he0

variable {e : ExecutionRow}

/-- A new execution without a parent is within the bounds. -/
theorem lineal_of_orphan {taskId : String} (h : Admission db db' taskId e)
    (hsound : BudgetsSound db' taskId) (hbranch : e.branchId ≠ some "")
    (hparent : e.parentExecutionId = none) : Lineal db' taskId e := by
  obtain ⟨β, hβ, -, b', hb', hbTask⟩ := h.branch
  obtain ⟨-, budget, -, hbudget, -⟩ := h.used
  have hpositive : 0 < budget.limits.maxDelegationDepth := (hsound budget hbudget).1.2.1.2.2.2.2.2.2.1
  refine ⟨β, [], budget, ⟨hβ, ?_⟩, ⟨b', hb', hbTask⟩, hparent ▸ .nil, by simp, hbudget, ?_, by simp⟩
  · rintro rfl
    exact hbranch hβ
  · simpa using hpositive.le

/-- A new execution whose admission was resolved is within the bounds. -/
theorem lineal_of_resolved {p : String} (hsucceeds : Succeeds db db')
    (hs : Delegates ⟨db, resolved⟩ τ) (hjoins : JoinsOpenBranch db τ e)
    (hparent : e.parentExecutionId = some p) (hresolved : StillResolved db τ a)
    (haParent : a.parentExecutionId = some p) (haChild : a.childAgentId = e.agentId) :
    Lineal db' τ e := by
  obtain ⟨β, ⟨hβ, hne⟩, ⟨br, hbr, hbrTask, -⟩, parent, hp, hpTask, hpBranch⟩ := hjoins p hparent
  obtain ⟨l, b, hl, -, hb, hbound, hcycle⟩ := hresolved p haParent
  obtain ⟨β', up, budget, ⟨hβ', -⟩, -, hup, hall, hbudget, -, hnodup⟩ :=
    hs.lineal parent (mem_of_find? hp) hpTask
  obtain rfl : β = β' := mem_unique hpBranch hβ'
  obtain rfl : b = budget := mem_unique hb hbudget
  obtain rfl : l = parent :: up := hl.unique (.cons hp hup)
  have hlineal : Lineal db τ e := by
    refine ⟨β, parent :: up, b, ⟨hβ, hne⟩, ⟨br, hbr, hbrTask⟩, hparent ▸ hl, ?_, hb, hbound, ?_⟩
    · simp only [mem_cons, forall_eq_or_imp]
      exact ⟨⟨hpTask, hpBranch⟩, hall⟩
    · intro hdeny
      rw [nodup_cons]
      exact ⟨haChild ▸ hcycle hdeny, by simpa using hnodup hdeny⟩
  exact hlineal.succeeds hsucceeds (.refl e)

theorem Event.Occurs.lineal (h : ev.Occurs db db') (hs : Delegates ⟨db, resolved⟩ τ)
    (hresolved : ev.request.StartsResolved resolved) :
    ∀ e ∈ db'.executions, e.taskId = some τ → Lineal db' τ e := by
  have hkept : ∀ e' ∈ db'.executions, ∀ e, getExecution db e'.id = some e → e'.taskId = some τ →
      Lineal db' τ e' := by
    intro e' he' e he hτ
    obtain ⟨e1, he1, hkin⟩ := h.succeeds.kin _ e he
    obtain rfl : e1 = e' := mem_unique he1 (find?_key he')
    exact (hs.lineal e (mem_of_find? he) (hkin.taskId.symm.trans hτ)).succeeds h.succeeds hkin
  intro e' he' hτ
  rcases h.origins with hstanding | ⟨taskId, e, hadmission, horigin⟩
  · cases hold : getExecution db e'.id with
    | none =>
      have hnone := hstanding.noneNew _ hold
      rw [getExecution, find?_key he'] at hnone
      cases hnone
    | some e => exact hkept e' he' e hold hτ
  · rcases (mem_insert? hadmission.stored).1 he' with hold | rfl
    · exact hkept e' he' e' (find?_key hold) hτ
    obtain rfl : taskId = τ := mem_unique hadmission.task hτ
    have hsound := h.commit.budgetLog.sound hs.sound
    rcases horigin with horigin | hdelegation
    · cases horigin with
      | root hparent hbranch => exact lineal_of_orphan hadmission hsound hbranch hparent
      | @head b source hb hbTask hbHead hsource hparent hbranch =>
        obtain ⟨source', hsource', hsTask, hnone⟩ := hs.heads b hb hbTask source.id hbHead
        obtain rfl : source' = source := mem_unique hsource' hsource
        refine lineal_of_orphan hadmission hsound ?_ (hparent.trans hnone)
        rcases hbranch with hbranch | hdrawn
        · obtain ⟨β, -, -, ⟨hβ, hne⟩, -⟩ := hs.lineal source' (mem_of_find? hsource) hsTask
          rw [hbranch, hβ]
          simpa using hne
        · intro hempty
          rw [hempty] at hdrawn
          generalize ev.request = r at hdrawn hresolved
          cases r with
          | consumeForkPlan => exact hresolved (Option.some.inj hdrawn).symm
          | _ => cases hdrawn
    · obtain ⟨settings, executionId, depth, generation, now, hrequest, -⟩ := hdelegation.request
      rw [hrequest] at hresolved
      obtain ⟨a, ha, haTask, haParent, haChild, -⟩ := hresolved hdelegation.delegated
      obtain ⟨p, hp⟩ := isSome_iff_exists.1 hdelegation.delegated
      exact lineal_of_resolved h.succeeds hs hdelegation.joins hp (hs.resolved a ha haTask)
        (haParent.trans hp) haChild

theorem Delegates.count_eq_zero {s : DelegationState D} (hs : Delegates s τ)
    (hb : getTaskBudget s.db τ = none) :
    s.db.executions.count (fun e => e.taskId = some τ) = 0 := by
  rw [Table.count_eq_zero]
  intro e he
  rw [decide_eq_false_iff_not]
  intro hτ
  obtain ⟨-, -, b, -, -, -, -, hsome, -⟩ := hs.lineal e he hτ
  rw [hb] at hsome
  cases hsome

/-- A budget has counted every execution of its task. -/
theorem Event.Occurs.used (h : ev.Occurs db db') (hs : Delegates ⟨db, resolved⟩ τ) :
    ∀ b', getTaskBudget db' τ = some b' →
      (db'.executions.count (fun e => e.taskId = some τ) : ℤ) ≤ b'.usedExecutions := by
  intro b' hb'
  have hbefore : (db.executions.count (fun e => e.taskId = some τ) : ℤ) ≤ b'.usedExecutions := by
    cases hb : getTaskBudget db τ with
    | none =>
      have hnonneg : 0 ≤ b'.usedExecutions :=
        (h.commit.budgetLog.sound hs.sound b' hb').1.2.2.1.1
      rw [hs.count_eq_zero hb]
      exact_mod_cast hnonneg
    | some b =>
      obtain ⟨b1, hb1, hgrows⟩ := h.succeeds.budgets τ b hb
      obtain rfl : b1 = b' := mem_unique hb1 hb'
      exact (hs.used b hb).trans hgrows.usedExecutions
  rcases h.origins with hstanding | ⟨taskId, e, hadmission, -⟩
  · rw [hstanding.count]
    exact hbefore
  · rw [count_insert? hadmission.stored, hadmission.task]
    by_cases hτ : taskId = τ
    · -- the new execution took a slot of the budget
      subst hτ
      obtain ⟨b, b1, hb, hb1, hused⟩ := hadmission.used
      obtain rfl : b1 = b' := mem_unique hb1 hb'
      have hold : (db.executions.count (fun e => e.taskId = some taskId) : ℤ) ≤ b.usedExecutions :=
        hs.used b hb
      simp only [decide_true, if_true, Nat.cast_add, Nat.cast_one]
      omega
    · simpa [hτ] using hbefore

/-- **A step keeps chains within their bounds.** -/
theorem DelegationStep.delegates {act : DelegationAct D} {s s' : DelegationState D}
    (h : DelegationStep act s s') (hs : Delegates s τ) : Delegates s' τ := by
  cases h with
  | @resolve _ taskId childAgentId parentExecutionId a db' h =>
    obtain ⟨rfl, htask, hparent, hchild, b, hb, hfound⟩ := resolveDelegationAdmission_ok h
    refine { hs with resolved := ?_ }
    intro a' ha' haTask
    rcases mem_cons.1 ha' with rfl | hold
    swap
    · exact hs.resolved a' hold haTask
    intro p hp
    obtain ⟨l, hl, hdepth, hbound, hcycle⟩ := hfound p (hparent ▸ hp)
    have hτ : taskId = τ := htask.symm.trans haTask
    exact ⟨l, b, hl, hdepth, hτ ▸ hb, hbound, hchild.symm ▸ hcycle⟩
  | event h hresolved =>
    exact ⟨h.heads hs, h.lineal hs hresolved, h.used hs, h.commit.budgetLog.sound hs.sound,
      fun a ha haTask => (hs.resolved a ha haTask).succeeds h.succeeds⟩

theorem Pristine.delegates (h : Pristine db τ) : Delegates ⟨db, []⟩ τ where
  heads b hb hτ := absurd hτ (h.branches b hb)
  lineal e he hτ := absurd hτ (h.executions e he)
  used b hb := by
    rw [h.budget] at hb
    cases hb
  sound := h.budgetsSound
  resolved := by simp

/-! ### Every run -/

/-- **Delegation is bounded**: whatever happens from before a task is created, the chain of parents of
each of its executions visits no execution twice, stays on one branch of the task, is as deep as the
budget allows at most and, with a policy against it, visits no agent twice; and to resolve an
admission below any of them never fails because a chain is broken. -/
theorem delegation_bounded {acts : List (DelegationAct D)} {s : DelegationState D}
    (hpristine : Pristine db τ) (hrun : Run DelegationStep ⟨db, []⟩ acts s) {e : ExecutionRow}
    (he : e ∈ s.db.executions) (htask : e.taskId = some τ) :
    (∃ β l b, Ancestry s.db (some e.id) (e :: l) ∧ ((e :: l).map (·.id)).Nodup ∧
      (∀ r ∈ e :: l, r.taskId = some τ ∧ r.branchId = some β) ∧
      getTaskBudget s.db τ = some b ∧ (l.length : ℤ) ≤ b.limits.maxDelegationDepth ∧
      (b.denyRecursiveAgentCycle = true → ((e :: l).map (·.agentId)).Nodup)) ∧
    ∀ childAgentId f,
      resolveDelegationAdmission τ (some e.id) childAgentId s.db = .error f →
        ¬ IsLineageCorruption f ∧
        (f = conflict "Delegated execution requires an OPEN normalized TaskBranch." →
          ∃ b, e.branchId.bind (getTaskBranch s.db) = some b ∧ b.taskId = τ ∧
            b.resolutionState ≠ .open) := by
  have hs : Delegates s τ :=
    hrun.invariant (P := (Delegates · τ)) (fun _ _ _ hs h => h.delegates hs) hpristine.delegates
  obtain ⟨β, l, b, ⟨hβ, hne⟩, ⟨br, hbr, hbrTask⟩, hl, hall, hb, hbound, hcycle⟩ := hs.lineal e he htask
  have hchain : Ancestry s.db (some e.id) (e :: l) := .cons (find?_key he) hl
  have hkin : ∀ r ∈ e :: l, r.taskId = some τ ∧ r.branchId = some β := by
    simp only [mem_cons, forall_eq_or_imp]
    exact ⟨⟨htask, hβ⟩, hall⟩
  refine ⟨⟨β, l, b, hchain, ancestry_nodup hchain, hkin, hb, hbound, by simpa using hcycle⟩, ?_⟩
  intro childAgentId f hf
  have hused : ∀ b, getTaskBudget s.db τ = some b → ((e :: l).length : ℤ) ≤ b.usedExecutions := by
    intro b hb
    have hcount : (e :: l).length ≤ s.db.executions.count fun e => e.taskId = some τ :=
      length_le_count (ancestry_nodup hchain) fun r hr =>
        ⟨mem_of_ancestry hchain hr, by simpa using (hkin r hr).1⟩
    have hle := hs.used b hb
    omega
  obtain ⟨hwhole, hopen⟩ :=
    resolveDelegationAdmission_error hchain hkin hne hbr hbrTask hused hf
  exact ⟨hwhole, fun h => ⟨br, by simpa [hβ] using hbr, hbrTask, hopen h⟩⟩

theorem delegationRun_of_history (db : Db D) (resolved : List DelegationAdmission)
    (rs : List (Request D)) (h : ∀ r ∈ rs, r.StartsResolved resolved) :
    Run DelegationStep ⟨db, resolved⟩ ((history db rs).map .event) ⟨after db rs, resolved⟩ := by
  induction rs generalizing db with
  | nil => exact .nil _
  | cons r rs ih =>
    have hfirst := DelegationStep.event (s := ⟨db, resolved⟩) (r.event_occurs db)
      (h r mem_cons_self)
    exact .cons hfirst (ih _ fun r' hr' => h r' (mem_cons_of_mem _ hr'))

def sampleDelegation : List (DelegationAct transparentDigests) :=
  (history {} (sampleStart.take 3)).map .event ++
    [.resolve "task" (some "root") "helper",
      .event (sampleDelegate.event (after {} (sampleStart.take 3)))]

theorem delegation_bounded_sampleDelegation :
    ∃ s, Run DelegationStep ⟨{}, []⟩ sampleDelegation s ∧
      ∃ e ∈ s.db.executions, e.id = "child" ∧ e.taskId = some "task" ∧
        ∃ β l b, Ancestry s.db (some e.id) (e :: l) ∧ ((e :: l).map (·.id)).Nodup ∧
          (∀ r ∈ e :: l, r.taskId = some "task" ∧ r.branchId = some β) ∧
          getTaskBudget s.db "task" = some b ∧ (l.length : ℤ) ≤ b.limits.maxDelegationDepth ∧
          (b.denyRecursiveAgentCycle = true → ((e :: l).map (·.agentId)).Nodup) := by
  have hresolves : ((resolveDelegationAdmission "task" (some "root") "helper"
      (after {} (sampleStart.take 3))).toOption.map fun r =>
        (r.1.taskId, r.1.parentExecutionId, r.1.childAgentId, r.1.delegationDepth)) =
      some ("task", some "root", "helper", 1) := by
    decide +kernel
  have hchild : ((getExecution (stored sampleDelegate.perform (after {} (sampleStart.take 3)))
      "child").map fun e => (e.id, e.taskId)) = some ("child", some "task") := by
    decide +kernel
  have hstart : Run DelegationStep ⟨{}, []⟩ ((history {} (sampleStart.take 3)).map .event)
      ⟨after {} (sampleStart.take 3), []⟩ :=
    delegationRun_of_history _ _ _ (by simp [sampleStart, Request.StartsResolved])
  unfold sampleDelegation
  generalize after {} (sampleStart.take 3) = s₀ at *
  simp only [map_eq_some_iff, Prod.mk.injEq] at hresolves hchild
  obtain ⟨⟨a, s₁⟩, h, haTask, haParent, haChild, haDepth⟩ := hresolves
  have h := ok_of_toOption h
  obtain rfl : s₁ = s₀ := (resolveDelegationAdmission_ok h).1
  obtain ⟨e, he, hid, htask⟩ := hchild
  have hpromise : (sampleDelegate.event s₁).request.StartsResolved [a] := by
    intro _
    exact ⟨a, mem_singleton_self a, haTask, haParent, haChild, by simpa using haDepth⟩
  have hrun : Run DelegationStep ⟨{}, []⟩ _ _ :=
    hstart.append (.cons (.resolve h)
      (.cons (.event (sampleDelegate.event_occurs s₁) hpromise) (.nil _)))
  refine ⟨_, hrun, e, mem_of_find? he, hid, htask, ?_⟩
  exact (delegation_bounded (pristine_empty "task") hrun (mem_of_find? he) htask).1

end AssistantRuntime.Runtime

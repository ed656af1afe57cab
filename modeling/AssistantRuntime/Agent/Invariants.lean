/-
**What every commit keeps.**

The laws of a commit speak about the rows it wrote.  This file says what they mean for the database
before and after it: counters that were right stay right, a budget that its validator accepts is
replaced by one that it accepts, an execution moves its revision at most once, and a branch or a task
that is settled stays as it is.  Each statement is about one commit and an arbitrary task; runs are
put together from them elsewhere.
-/

import AssistantRuntime.Agent.ChangeLog

namespace AssistantRuntime.Agent

open Relational Uow Table List Option

variable {D : Digests} {db db' : Db D} {c : Changes D.Plan} {τ : String}

/-! ### Counters -/

/-- The counters of active executions and active branches are the numbers of running executions and
open branches. -/
structure Counted (db : Db D) (taskId : String) : Prop where
  active : db.budgets.value BudgetRow.activeExecutions taskId =
    db.executions.count (ExecutionRow.runsFor taskId)
  branches : db.budgets.value BudgetRow.activeBranches taskId =
    db.branches.count (BranchRow.openFor taskId)

/-- The counter of parallel agents is the number of delegated running executions. -/
def Paired (db : Db D) (taskId : String) : Prop :=
  db.budgets.value BudgetRow.activeParallelAgents taskId =
    db.executions.count (ExecutionRow.delegatedFor taskId)

/-- A commit moves the counter of active executions by the change in the number of running
executions. -/
theorem Lawful.active_balance (h : Lawful db c db') (hc : c.Settled) (τ : String) :
    db'.budgets.value BudgetRow.activeExecutions τ +
        db.executions.count (ExecutionRow.runsFor τ) =
      db.budgets.value BudgetRow.activeExecutions τ +
        db'.executions.count (ExecutionRow.runsFor τ) := by
  have hvalue := h.log.budgets.value BudgetRow.activeExecutions τ
  have hcount := h.log.executions.count (ExecutionRow.runsFor τ)
  have hsame := hc.active τ
  omega

theorem Lawful.branches_balance (h : Lawful db c db') (hc : c.Settled) (τ : String) :
    db'.budgets.value BudgetRow.activeBranches τ + db.branches.count (BranchRow.openFor τ) =
      db.budgets.value BudgetRow.activeBranches τ + db'.branches.count (BranchRow.openFor τ) := by
  have hvalue := h.log.budgets.value BudgetRow.activeBranches τ
  have hcount := h.log.branches.count (BranchRow.openFor τ)
  have hsame := hc.branches τ
  omega

variable {live fits : Prop}

/-- **A commit keeps the counters of executions and branches right.** -/
theorem CommitIf.counted (h : CommitIf live fits db db') (hcounted : Counted db τ) :
    Counted db' τ := by
  obtain ⟨c, hlawful, hsettled, -, -⟩ := h
  have hactive := hlawful.active_balance hsettled τ
  have hbranches := hlawful.branches_balance hsettled τ
  constructor
  · have := hcounted.active
    omega
  · have := hcounted.branches
    omega

/-- **A commit whose caller kept its promise keeps the counter of parallel agents right.** -/
theorem CommitIf.paired (h : CommitIf live fits db db') (hfits : fits) (hpaired : Paired db τ) :
    Paired db' τ := by
  obtain ⟨c, hlawful, -, -, hsame⟩ := h
  have hvalue := hlawful.log.budgets.value BudgetRow.activeParallelAgents τ
  have hcount := hlawful.log.executions.count (ExecutionRow.delegatedFor τ)
  have hdelta := hsame hfits τ
  unfold Paired at *
  omega

/-! ### Budgets -/

theorem BudgetRow.Grows.refl (b : BudgetRow) : b.Grows b :=
  ⟨rfl, rfl, rfl, rfl, rfl, rfl, le_rfl, le_rfl, le_rfl, le_rfl, le_rfl, id⟩

theorem BudgetRow.Grows.trans {b1 b2 b3 : BudgetRow} (h : b1.Grows b2) (h' : b2.Grows b3) :
    b1.Grows b3 where
  taskId := h'.taskId.trans h.taskId
  incarnationGeneration := h'.incarnationGeneration.trans h.incarnationGeneration
  limits := h'.limits.trans h.limits
  policyVersion := h'.policyVersion.trans h.policyVersion
  policyFingerprint := h'.policyFingerprint.trans h.policyFingerprint
  denyRecursiveAgentCycle := h'.denyRecursiveAgentCycle.trans h.denyRecursiveAgentCycle
  usedExecutions := h.usedExecutions.trans h'.usedExecutions
  usedToolCalls := h.usedToolCalls.trans h'.usedToolCalls
  usedInferenceCalls := h.usedInferenceCalls.trans h'.usedInferenceCalls
  usedTokens := h.usedTokens.trans h'.usedTokens
  usedCostUsd := h.usedCostUsd.trans h'.usedCostUsd
  state := fun hclosed => h'.state (h.state hclosed)

/-- Some lawful writes lead from one table of budgets to the other. -/
def BudgetLog (db db' : Db D) : Prop :=
  ∃ bs, TableLog db.budgets bs db'.budgets ∧ ∀ w ∈ bs, LawfulBudget w

theorem CommitIf.budgetLog (h : CommitIf live fits db db') : BudgetLog db db' := by
  obtain ⟨c, hlawful, -⟩ := h
  exact ⟨c.budgets, hlawful.log.budgets, hlawful.budgets⟩

theorem BudgetLog.refl (db : Db D) : BudgetLog db db := ⟨[], .nil _, by simp⟩

/-- **A budget is never deleted, and its counters of use never decrease.** -/
theorem BudgetLog.grows (h : BudgetLog db db') :
    db.budgets.Evolves BudgetRow.Grows db'.budgets := by
  obtain ⟨bs, hlog, hbs⟩ := h
  exact hlog.evolves BudgetRow.Grows.refl (fun _ _ _ => BudgetRow.Grows.trans)
    fun old new hw => (hbs _ hw).1

/-- The stored budget of a task, if it has one, meets the constraints of its table and of its
policy. -/
def BudgetsSound (db : Db D) (taskId : String) : Prop :=
  ∀ b, getTaskBudget db taskId = some b → b.Checks ∧ b.PolicyFits

/-- The policy of an updated budget is that of the budget it replaces. -/
theorem BudgetLog.sound (h : BudgetLog db db') (hsound : BudgetsSound db τ) : BudgetsSound db' τ := by
  obtain ⟨bs, hlog, hbs⟩ := h
  intro b hb
  have hfind : db'.budgets.find? τ = some b := hb
  have hkey := key_of_find? hfind
  by_contra hnot
  refine (hlog.traced (P := fun b => b.taskId = τ ∧ ¬ (b.Checks ∧ b.PolicyFits)) (Q := False)
    (mem_of_find? hfind) ⟨hkey, hnot⟩ ?_ ?_).elim ?_ id
  · intro new hw hnew
    exact hnew.2 ⟨(hbs _ hw).checks, (hbs _ hw).policyFits⟩
  · rintro old new hw hkey ⟨hτ, hnot⟩
    obtain ⟨hgrows, hchecks⟩ := hbs _ hw
    refine .inl ⟨hkey.trans hτ, fun hold => hnot ⟨hchecks, ?_⟩⟩
    unfold BudgetRow.PolicyFits
    rw [hgrows.policyVersion, hgrows.policyFingerprint]
    exact hold.2
  · rintro ⟨b0, hb0, rfl, hnot0⟩
    exact hnot0 (hsound b0 (find?_key hb0))

/-! ### Executions -/

variable {e e' : ExecutionRow} {e1 : ExecutionRow}

theorem ExecutionRow.Moves.trans_of_same (h : e.Moves e1) (hrevision : e1.revision = e.revision)
    (h' : e1.Moves e') : e.Moves e' := by
  obtain ⟨hlineage, ⟨hstate, -, hresult, hcheckpoint⟩ | ⟨-, hmoved⟩⟩ := h
  · obtain ⟨hlineage', hcases⟩ := h'
    refine ⟨hlineage.trans hlineage', ?_⟩
    rw [hstate, hrevision, hresult, hcheckpoint] at hcases
    exact hcases
  · omega

theorem ExecutionRow.Moves.trans_same (h : e.Moves e1) (h' : e1.Moves e')
    (hrevision : e'.revision = e1.revision) : e.Moves e' := by
  obtain ⟨hlineage', ⟨hstate, -, hresult, hcheckpoint⟩ | ⟨-, hmoved⟩⟩ := h'
  · obtain ⟨hlineage, hcases⟩ := h
    refine ⟨hlineage.trans hlineage', ?_⟩
    rw [← hstate, ← hrevision, ← hresult, ← hcheckpoint] at hcases
    exact hcases
  · omega

variable {x : String}

theorem RowWrite.moved_eq_some :
    RowWrite.moved (.update e e') = some x ↔ e'.revision ≠ e.revision ∧ e'.id = x := by
  by_cases h : e'.revision = e.revision <;> simp [RowWrite.moved, h]

variable {t' : Table ExecutionRow.id} {ws : List (RowWrite ExecutionRow)}
  {t : Table ExecutionRow.id}

/-- An execution that a list of writes moves at most once makes one move, and none if it is not
moved. -/
theorem moves_of_log (h : TableLog t ws t') (hws : ∀ e e', .update e e' ∈ ws → e.Moves e')
    (hnodup : (ws.filterMap RowWrite.moved).Nodup) (he : t.find? x = some e) :
    ∃ e', t'.find? x = some e' ∧ e.Moves e' ∧
      (x ∉ ws.filterMap RowWrite.moved → e'.revision = e.revision) := by
  induction h generalizing e with
  | nil => exact ⟨e, he, ⟨.refl e, .inl ⟨rfl, rfl, rfl, rfl⟩⟩, fun _ => rfl⟩
  | @cons t t1 t' w ws hw _ ih =>
    have hrest := fun e e' hm => hws e e' (mem_cons_of_mem _ hm)
    have htail : List.Sublist (ws.filterMap RowWrite.moved) ((w :: ws).filterMap RowWrite.moved) :=
      (sublist_cons_self w ws).filterMap _
    obtain ⟨new, rfl, rfl, hnew⟩ | hkept := hw.cases_of_find? he
    · obtain ⟨e', he', hmoves', hsame'⟩ := ih hrest (hnodup.sublist htail) hnew
      have hmoves := hws e new mem_cons_self
      by_cases hsame : new.revision = e.revision
      · exact ⟨e', he', hmoves.trans_of_same hsame hmoves',
          fun hx => (hsame' fun hmem => hx (htail.subset hmem)).trans hsame⟩
      · -- the one move of this execution is spent: what follows keeps the revision
        rw [filterMap_cons, RowWrite.moved_eq_some.2 ⟨hsame, rfl⟩] at hnodup ⊢
        have hrevision := hsame' (nodup_cons.1 hnodup).1
        exact ⟨e', he', hmoves.trans_same hmoves' hrevision, fun hx => absurd (by simp) hx⟩
    · obtain ⟨e', he', hmoves', hsame'⟩ := ih hrest (hnodup.sublist htail) hkept
      exact ⟨e', he', hmoves', fun hx => hsame' fun hmem => hx (htail.subset hmem)⟩

/-- **A commit moves every execution at most once.** -/
theorem Lawful.moves (h : Lawful db c db') :
    db.executions.Evolves ExecutionRow.Moves db'.executions := by
  intro x e he
  obtain ⟨e', he', hmoves, -⟩ :=
    moves_of_log h.log.executions (fun _ _ hw => (h.executions _ hw).1) h.moved he
  exact ⟨e', he', hmoves⟩

/-- An execution that runs after some writes ran before them, or some write let it run. -/
theorem running_of_log (h : TableLog t ws t') (hws : ∀ e e', .update e e' ∈ ws → e.Moves e')
    (he' : e' ∈ t') (htask : e'.taskId = some τ) (hrunning : e'.state = .running) :
    (∃ e, t.find? e'.id = some e ∧ e.taskId = some τ ∧ e.state = .running) ∨
      ∃ w ∈ ws, RowWrite.EntersRunning τ w := by
  refine (h.traced (P := fun e => e.id = e'.id ∧ e.taskId = some τ ∧ e.state = .running) he'
    ⟨rfl, htask, hrunning⟩ ?_ ?_).imp_left ?_
  · intro new hw hnew
    exact ⟨_, hw, hnew.2.1⟩
  · rintro old new hw hkey ⟨hid, hof, hruns⟩
    have hofOld : old.taskId = some τ := (hws old new hw).1.taskId ▸ hof
    by_cases hran : old.state = .running
    · exact .inl ⟨hkey.trans hid, hofOld, hran⟩
    · exact .inr ⟨_, hw, hofOld, hran, hruns⟩
  · rintro ⟨e, he, hid, hof, hran⟩
    exact ⟨e, hid ▸ find?_key he, hof, hran⟩

theorem LawfulExecution.budgetOpen {w : RowWrite ExecutionRow} (h : LawfulExecution db w)
    (henters : RowWrite.EntersRunning τ w) : BudgetOpen db τ := by
  cases w with
  | insert new => exact h.2.2 τ henters
  | update old new => exact h.2 henters.2.1 henters.2.2 τ henters.1

/-- **No execution of a task starts to run while the budget of the task is not open.** -/
theorem Lawful.running_of_not_open (h : Lawful db c db') (hbudget : ¬ BudgetOpen db τ)
    (he' : e' ∈ db'.executions) (htask : e'.taskId = some τ) (hrunning : e'.state = .running) :
    ∃ e, getExecution db e'.id = some e ∧ e.taskId = some τ ∧ e.state = .running := by
  rcases running_of_log h.log.executions (fun _ _ hw => (h.executions _ hw).1) he' htask hrunning
    with hran | ⟨w, hw, henters⟩
  · exact hran
  · exact absurd ((h.executions w hw).budgetOpen henters) hbudget

/-! ### Branches -/

/-- A branch that is not open stays as it is; an open one keeps its task. -/
def BranchRow.Settles (b b' : BranchRow) : Prop :=
  b'.taskId = b.taskId ∧ (b.resolutionState ≠ .open → b' = b)

theorem BranchRow.Settles.refl (b : BranchRow) : b.Settles b := ⟨rfl, fun _ => rfl⟩

theorem BranchRow.Settles.trans {b1 b2 b3 : BranchRow} (h : b1.Settles b2) (h' : b2.Settles b3) :
    b1.Settles b3 := by
  refine ⟨h'.1.trans h.1, fun hne => ?_⟩
  have h2 := h.2 hne
  rw [h'.2 (h2 ▸ hne), h2]

/-- **A branch that has left `OPEN` is never written again.** -/
theorem Lawful.branches_settled (h : Lawful db c db') :
    db.branches.Evolves BranchRow.Settles db'.branches := by
  refine h.log.branches.evolves BranchRow.Settles.refl (fun _ _ _ => BranchRow.Settles.trans) ?_
  intro old new hw
  obtain ⟨hopen, htask⟩ := h.branches _ hw
  exact ⟨htask, fun hne => absurd hopen hne⟩

variable {b : BranchRow}

theorem not_budgetOpen {b : BudgetRow} (hb : getTaskBudget db τ = some b)
    (hclosed : b.state = .closed) : ¬ BudgetOpen db τ := by
  rintro ⟨b', hb', hopen⟩
  obtain rfl : b' = b := mem_unique hb' hb
  rw [hclosed] at hopen
  cases hopen

theorem Lawful.budget_closed (h : Lawful db c db')
    (hclosed : ∃ b, getTaskBudget db τ = some b ∧ b.state = .closed) :
    ∃ b, getTaskBudget db' τ = some b ∧ b.state = .closed := by
  obtain ⟨b, hb, hstate⟩ := hclosed
  have hlog : BudgetLog db db' := ⟨c.budgets, h.log.budgets, h.budgets⟩
  obtain ⟨b', hb', hgrows⟩ := hlog.grows τ b hb
  exact ⟨b', hb', hgrows.state hstate⟩

/-! ### Tasks -/

def TaskRow.Ends (t t' : TaskRow) : Prop := t.status.isTerminal = true → t' = t

theorem TaskRow.Ends.trans {t1 t2 t3 : TaskRow} (h : t1.Ends t2) (h' : t2.Ends t3) :
    t1.Ends t3 := by
  intro hterm
  have h2 := h hterm
  rw [h' (h2 ▸ hterm), h2]

/-- **A task that is over is never written again.** -/
theorem Lawful.tasks_end (h : Lawful db c db') : db.tasks.Evolves TaskRow.Ends db'.tasks := by
  refine h.log.tasks.evolves (fun _ _ => rfl) (fun _ _ _ => TaskRow.Ends.trans) ?_
  intro old new hw hterm
  have hlive : old.status.isTerminal = false := h.tasks _ hw
  rw [hterm] at hlive
  cases hlive

/-! ### Adoption -/

/-- **Adoption is for good**: whatever an adopted branch settled stays as it was. -/
theorem Lawful.adopted (h : Lawful db c db') (hadopted : Adopted db b) :
    Adopted db' b := by
  obtain ⟨⟨t, ht, hcompleted, x, e, r, hx, he, hdone, hresult, hsafe, hsome⟩, hbudget, hsettled⟩ :=
    hadopted
  refine ⟨?_, h.budget_closed hbudget, ?_⟩
  · obtain ⟨t', ht', hends⟩ := h.tasks_end b.taskId t ht
    obtain rfl := hends (by rw [hcompleted]; rfl)
    obtain ⟨e', he', -, ⟨hstate, -, hresult', -⟩ | ⟨hlive, -⟩⟩ := h.moves x e he
    · exact ⟨t', ht', hcompleted, x, e', r, hx, he', hstate.trans hdone, hresult'.trans hresult,
        hsafe, hsome⟩
    · -- an execution that completed makes no move
      rw [hdone] at hlive
      cases hlive
  · intro b' hb' htask hopen
    obtain ⟨bu, hbu, hclosed⟩ := hbudget
    -- an open branch was open before the commit, or was opened under an open budget
    obtain ⟨b0, hb0, htask0, hopen0⟩ | hbo :=
      h.log.branches.traced (P := fun a => a.taskId = b.taskId ∧ a.resolutionState = .open)
        hb' ⟨htask, hopen⟩ (fun _ hw hnew => hnew.1 ▸ (h.branches _ hw).2)
        fun _ _ hw _ hnew => .inl ⟨(h.branches _ hw).2.symm.trans hnew.1, (h.branches _ hw).1⟩
    · exact hsettled b0 hb0 htask0 hopen0
    · exact not_budgetOpen hbu hclosed hbo

/-- Every adopted branch of a task settles it, and there is at most one. -/
structure AdoptionSettles (db : Db D) (taskId : String) : Prop where
  adopted : ∀ b ∈ db.branches, b.taskId = taskId → b.resolutionState = .adopted → Adopted db b
  unique : ∀ b ∈ db.branches, ∀ b' ∈ db.branches, b.taskId = taskId → b'.taskId = taskId →
    b.resolutionState = .adopted → b'.resolutionState = .adopted → b = b'

/-- An adopted branch after a commit was adopted before it, or the commit adopted it while the task
was alive. -/
theorem Lawful.adopted_cases (h : Lawful db c db') (hb : b ∈ db'.branches)
    (hadopted : b.resolutionState = .adopted) :
    b ∈ db.branches ∨ ∃ a, .update a b ∈ c.branches ∧ TaskLive db b.taskId ∧ Adopted db' b := by
  rcases h.log.branches.mem hb with hold | ⟨w, hw, rfl⟩
  · exact .inl hold
  · cases w with
    | insert new =>
      have hopen : new.resolutionState = .open := (h.branches _ hw).1
      rw [show (RowWrite.insert new).row = new from rfl, hopen] at hadopted
      cases hadopted
    | update old new =>
      obtain ⟨hlive, hsettles, -⟩ := h.adopts old new hw hadopted
      exact .inr ⟨old, hw, hlive, hsettles⟩

theorem Adopted.not_live (h : Adopted db b) : ¬ TaskLive db b.taskId := by
  obtain ⟨t, ht, hcompleted, -⟩ := h.task
  rintro ⟨t', ht', hlive⟩
  obtain rfl : t' = t := mem_unique ht' ht
  rw [hcompleted] at hlive
  cases hlive

theorem Lawful.adoptionSettles (h : Lawful db c db') (hs : AdoptionSettles db τ) :
    AdoptionSettles db' τ := by
  constructor
  · intro b hb htask hadopted
    rcases h.adopted_cases hb hadopted with hold | ⟨-, -, -, hsettles⟩
    · exact h.adopted (hs.adopted b hold htask hadopted)
    · exact hsettles
  · intro b hb b' hb' htask htask' hadopted hadopted'
    rcases h.adopted_cases hb hadopted with hold | ⟨a, hw, hlive, -⟩
    · rcases h.adopted_cases hb' hadopted' with hold' | ⟨-, -, hlive', -⟩
      · exact hs.unique b hold b' hold' htask htask' hadopted hadopted'
      · rw [htask', ← htask] at hlive'
        exact absurd hlive' (hs.adopted b hold htask hadopted).not_live
    · rcases h.adopted_cases hb' hadopted' with hold' | ⟨a', hw', -, -⟩
      · rw [htask, ← htask'] at hlive
        exact absurd hlive (hs.adopted b' hold' htask' hadopted').not_live
      · exact ((h.adopts a b hw hadopted).2.2 a' b' hw' hadopted').symm

/-! ### Claims -/

variable (h : Lawful db c db')

include h

/-- A claim of the later state is on an execution of the earlier one. -/
theorem Lawful.claims_anchored
    (hanchored : ∀ k ∈ db.claims, ∃ e, getExecution db k.executionId = some e) :
    ∀ k ∈ db'.claims, ∃ e, getExecution db k.executionId = some e := by
  intro k hk
  by_contra hno
  obtain ⟨k0, hk0, hno0⟩ | hfalse :=
    h.log.claims.traced (P := fun k => ¬ ∃ e, getExecution db k.executionId = some e) (Q := False)
      hk hno (fun k hw hno => hno ((h.claims _ hw).imp fun _ he => he.1))
      fun k k' hw _ hno => .inl ((h.claims _ hw).1 ▸ hno)
  · exact hno0 (hanchored k0 hk0)
  · exact hfalse

/-- An execution of the earlier state belongs to the same task later. -/
theorem Lawful.isExecutionOfTask_iff (he : getExecution db x = some e) (τ : String) :
    isExecutionOfTask db' τ x = isExecutionOfTask db τ x := by
  obtain ⟨e', he', hlineage, -⟩ := h.moves x e he
  have hfind : getExecution db' x = some e' := he'
  simp [isExecutionOfTask, he, hfind, hlineage.taskId]

theorem Lawful.sealed (hanchored : ∀ k ∈ db.claims, ∃ e, getExecution db k.executionId = some e)
    {t : TaskRow} (ht : getTask db τ = some t) (hterm : t.status.isTerminal = true)
    (hsealed : Sealed db τ) :
    Sealed db' τ := by
  refine ⟨h.budget_closed hsealed.budget, ?_⟩
  intro k hk hcreated
  obtain ⟨e, he⟩ := h.claims_anchored hanchored k hk
  rw [h.isExecutionOfTask_iff he]
  obtain ⟨k0, hk0, hexecution, hcreated0⟩ | ⟨e0, he0, hlive⟩ :=
    h.log.claims.traced (P := fun a => a.executionId = k.executionId ∧ a.state = .created)
      (Q := ∃ e, getExecution db k.executionId = some e ∧ ∀ τ ∈ e.taskId, TaskLive db τ)
      hk ⟨rfl, hcreated⟩ (fun a hw hnew => hnew.1 ▸ h.claims _ hw)
      fun a a' hw _ hnew => .inl ⟨(h.claims _ hw).1.symm.trans hnew.1, (h.claims _ hw).2 hnew.2⟩
  · rw [← hexecution]
    exact hsealed.claims k0 hk0 hcreated0
  · -- a claim made in this commit is on an execution of a live task, so not of this one
    obtain rfl : e0 = e := mem_unique he0 he
    by_contra hof
    have htask : e0.taskId = some τ := by simpa [isExecutionOfTask, he] using hof
    obtain ⟨t', ht', halive⟩ := hlive τ htask
    obtain rfl : t' = t := mem_unique ht' ht
    rw [hterm] at halive
    cases halive

/-- A task that is over after a commit was over before it, or the commit ended it. -/
theorem Lawful.terminal_cases (hstarts : ∀ t, .insert t ∈ c.tasks → t.status.isTerminal = false)
    {t : TaskRow} (ht : getTask db' τ = some t) (hterm : t.status.isTerminal = true) :
    getTask db τ = some t ∨
      (Sealed db' τ ∧ ∀ w ∈ c.executions, ¬ RowWrite.EntersRunning τ w) := by
  have hid : t.id = τ := key_of_find? ht
  rcases h.log.tasks.mem (mem_of_find? ht) with hold | ⟨w, hw, rfl⟩
  · exact .inl (hid ▸ find?_key hold)
  · cases w with
    | insert new =>
      rw [show (RowWrite.insert new).row = new from rfl, hstarts new hw] at hterm
      cases hterm
    | update old new => exact .inr (hid ▸ h.closes old new hw hterm)

end AssistantRuntime.Agent

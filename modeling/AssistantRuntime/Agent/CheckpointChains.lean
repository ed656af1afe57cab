/-
**Chains of waiting checkpoints.**

Each time an execution starts to wait, the checkpoint it leaves names the one it continued from.
Checkpoints are stored only in this way, in the transaction that also moves the execution; what else
happens to an execution keeps its lineage, and moves its revision or leaves its state and its
checkpoint alone.

A repeated move is compared with the stored checkpoint by Python's `==`, for which `1`, `1.0` and
`True` are equal; as messages they are different.

Main results:

* `Chained.run`, `Chained.parentChain` — parent links lead to older checkpoints of the same
  execution, and end;
* `Chained.accepts_iff` — what a repeated move is accepted with;
* `waitingCheckpoints_sound_iff` — **a repeated move is accepted, and another one is rejected unless
  Python's `==` takes its messages for the same.**
-/

import AssistantRuntime.Runtime.Requests

namespace AssistantRuntime.Agent

open Relational Uow Table List

/-! ### Moves -/

def ExecutionRow.Later (e e' : ExecutionRow) : Prop :=
  (e'.id = e.id ∧ e'.sessionId = e.sessionId ∧ e'.taskId = e.taskId ∧ e'.branchId = e.branchId) ∧
    (e.revision < e'.revision ∨ e'.revision = e.revision ∧ e'.state = e.state ∧
      e'.currentCheckpointId = e.currentCheckpointId)

theorem ExecutionRow.Later.refl (e : ExecutionRow) : e.Later e :=
  ⟨⟨rfl, rfl, rfl, rfl⟩, .inr ⟨rfl, rfl, rfl⟩⟩

theorem ExecutionRow.Later.trans (a b c : ExecutionRow) (h : a.Later b) (h' : b.Later c) :
    a.Later c := by
  unfold Later at *
  grind

theorem ExecutionRow.Later.revision_le {e e' : ExecutionRow} (h : e.Later e') :
    e.revision ≤ e'.revision := by
  rcases h.2 with h | h
  · exact h.le
  · exact h.1.ge

variable {D : Digests}

/-- A transaction that moves an execution to `WAITING`: the checkpoint is staged, and all is rolled
back unless the execution is still at the revision it was read at. -/
def startWaiting (executionId : String) (sourceRevision : ℕ) (transition : ExecutionPatch)
    (values : CheckpointValues) (pending : List PendingReference) (evidence : WaitingEvidence) :
    Tx D ExecutionRow := do
  let execution ← expect (← reads (getExecution · executionId))
    (checkpointConflict s!"Unknown execution: {executionId}")
  let patch ← stageWaitingCheckpoint execution sourceRevision
    { transition with state := some .waiting } values pending evidence
  orAbort (compareAndSetExecution executionId sourceRevision patch)
    (checkpointConflict "Execution changed.")

inductive CheckpointMove : Db D → Db D → Prop
  | wait {db db' : Db D} {executionId : String} {sourceRevision : ℕ} {transition : ExecutionPatch}
      {values : CheckpointValues} {pending : List PendingReference} {evidence : WaitingEvidence}
      {moved : ExecutionRow}
      (h : startWaiting executionId sourceRevision transition values pending evidence db =
        .ok (moved, db')) : CheckpointMove db db'
  | other {db db' : Db D} (hcheckpoints : db'.checkpoints = db.checkpoints)
      (hpending : db'.pendingInvocations = db.pendingInvocations)
      (hexecutions : db.executions.Evolves ExecutionRow.Later db'.executions) : CheckpointMove db db'

/-- Checkpoints and their pending invocations stay, and executions become later ones. -/
structure KeepsCheckpoints (db db' : Db D) : Prop where
  checkpoints : ∀ i c, getExecutionCheckpoint db i = some c → getExecutionCheckpoint db' i = some c
  pending : ∀ i c, getExecutionCheckpoint db i = some c →
    listCheckpointPendingInvocations db' i = listCheckpointPendingInvocations db i
  executions : db.executions.Evolves ExecutionRow.Later db'.executions

/-- What a transaction that starts to wait did to `e`, and the checkpoint `c` it left. -/
structure StartsWaiting (db db' : Db D) (e e' : ExecutionRow) (values : CheckpointValues)
    (pending : List PendingReference) (c : CheckpointRow) : Prop where
  stored : getExecution db e.id = some e
  moved : getExecution db' e.id = some e'
  target : e'.revision = e.revision + 1
  waiting : e'.state = .waiting ∧ e'.currentCheckpointId = some values.checkpointId
  key : c.checkpointId = values.checkpointId
  lineage : c.HasLineageOf e
  revision : c.executionRevision = e.revision + 1
  parent : ∀ p ∈ c.parentCheckpointId, ∃ c', getExecutionCheckpoint db p = some c' ∧
    c'.HasLineageOf e ∧ c'.executionRevision ≤ e.revision
  snapshot : KeepsSnapshot D values c.transcript
  checkpoints : db.checkpoints.insert? c = some db'.checkpoints
  pending : db'.pendingInvocations.rows = db.pendingInvocations.rows ++
    (sortedReferences pending).map (·.frozen values.checkpointId)
  keeps : KeepsCheckpoints db db'

section Moves

variable {db db₁ db' : Db D} {executionId : String} {sourceRevision : ℕ}
  {transition : ExecutionPatch} {values : CheckpointValues} {pending : List PendingReference}
  {evidence : WaitingEvidence} {e e' moved : ExecutionRow} {c : CheckpointRow}

theorem startWaiting_ok
    (h : startWaiting executionId sourceRevision transition values pending evidence db =
      .ok (moved, db')) :
    ∃ e c, e.id = executionId ∧ e.revision = sourceRevision ∧
      StartsWaiting db db' e moved values pending c := by
  simp only [startWaiting, steps_ok] at h
  obtain ⟨e, he, h⟩ := h
  obtain rfl : e.id = executionId := key_of_find? he
  obtain ⟨patch, db₁, hstage, h⟩ := bind_ok.1 h
  have hpending := fun i c => stageWaitingCheckpoint_pending (i := i) (c := c) hstage
  obtain ⟨transcript, checkpoints, pendingInvocations, hlineage, rfl, hparent, hrevision, hsnapshot,
    hinsert, hrows, hstate, hpoint, rfl⟩ := stageWaitingCheckpoint_ok hstage
  obtain ⟨r, hr, -, rfl, rfl⟩ := updateExecution_some.1 (orAbort_ok.1 h)
  obtain rfl : e = r := Option.some.inj (he.symm.trans hr)
  refine ⟨e, values.toRow e.currentCheckpointId transcript, rfl, rfl, {
    stored := he
    moved := find?_put_self he
    target := rfl
    waiting := by simp [ExecutionPatch.apply, hstate, hpoint]
    key := rfl
    lineage := hlineage
    revision := hrevision
    parent := hparent
    snapshot := hsnapshot
    checkpoints := hinsert
    pending := hrows
    keeps := ⟨fun i c hc => ?_, hpending, .of_put .refl he rfl ?_⟩ }⟩
  · have hevolves := Table.Evolves.of_insert (fun _ => rfl) hinsert
    obtain ⟨_, hc', rfl⟩ := hevolves i c hc
    exact hc'
  · exact ⟨⟨rfl, rfl, rfl, rfl⟩, .inl (Nat.lt_succ_self _)⟩

/-! ### What moves keep -/

theorem KeepsCheckpoints.trans (h : KeepsCheckpoints db db₁) (h' : KeepsCheckpoints db₁ db') :
    KeepsCheckpoints db db' where
  checkpoints i c hc := h'.checkpoints i c (h.checkpoints i c hc)
  pending i c hc := (h'.pending i c (h.checkpoints i c hc)).trans (h.pending i c hc)
  executions := h.executions.trans ExecutionRow.Later.trans h'.executions

theorem CheckpointMove.keeps (h : CheckpointMove db db') : KeepsCheckpoints db db' := by
  cases h with
  | wait h =>
    obtain ⟨_, _, -, -, hw⟩ := startWaiting_ok h
    exact hw.keeps
  | other hcheckpoints hpending hexecutions =>
    refine ⟨fun i c hc => ?_, fun i _ _ => ?_, hexecutions⟩
    · rw [getExecutionCheckpoint, hcheckpoints]
      exact hc
    · simp only [listCheckpointPendingInvocations, hpending]

abbrev CheckpointRun : Db D → Db D → Prop := Relation.ReflTransGen CheckpointMove

theorem CheckpointRun.keeps (h : CheckpointRun db db') : KeepsCheckpoints db db' := by
  induction h with
  | refl => exact ⟨fun _ _ hc => hc, fun _ _ _ => rfl, .refl .refl _⟩
  | tail _ hmove ih => exact ih.trans hmove.keeps

/-! ### What holds in every store -/

/-- Parents are older checkpoints of the same lineage; an execution has reached the revisions of its
checkpoints, and has one checkpoint at each; pending invocations are those of a checkpoint. -/
structure Chained (db : Db D) : Prop where
  parent : ∀ c ∈ db.checkpoints, ∀ p ∈ c.parentCheckpointId, ∃ c',
    getExecutionCheckpoint db p = some c' ∧ c'.executionId = c.executionId ∧
      c'.taskId = c.taskId ∧ c'.branchId = c.branchId ∧ c'.executionRevision < c.executionRevision
  reached : ∀ c ∈ db.checkpoints, ∃ e, getExecution db c.executionId = some e ∧
    c.executionRevision ≤ e.revision
  sole : ∀ c ∈ db.checkpoints, ∀ c' ∈ db.checkpoints, c.executionId = c'.executionId →
    c.executionRevision = c'.executionRevision → c = c'
  owned : ∀ r ∈ db.pendingInvocations, ∃ c, getExecutionCheckpoint db r.checkpointId = some c

theorem StartsWaiting.found (hw : StartsWaiting db db' e e' values pending c) :
    getExecutionCheckpoint db' values.checkpointId = some c := by
  rw [getExecutionCheckpoint, find?_insert? hw.checkpoints, if_pos hw.key.symm]

theorem Chained.wait (h : Chained db) (hw : StartsWaiting db db' e e' values pending c) :
    Chained db' := by
  -- the checkpoints of the execution so far are of earlier revisions
  have hearlier : ∀ c' ∈ db.checkpoints, c'.executionId = c.executionId →
      c'.executionRevision < c.executionRevision := by
    intro c' hc' hid
    obtain ⟨r, hr, hle⟩ := h.reached c' hc'
    rw [hid, hw.lineage.1, hw.stored] at hr
    cases hr
    rw [hw.revision]
    omega
  have hmem := fun x => mem_insert? (x := x) hw.checkpoints
  refine ⟨fun x hx p hp => ?_, fun x hx => ?_, fun x hx y hy hid hrev => ?_, fun r hr => ?_⟩
  · rcases (hmem x).1 hx with hx | rfl
    · obtain ⟨c', hc', hrest⟩ := h.parent x hx p hp
      exact ⟨c', hw.keeps.checkpoints p c' hc', hrest⟩
    · obtain ⟨c', hc', ⟨h1, -, h3, h4⟩, hle⟩ := hw.parent p hp
      obtain ⟨l1, -, l3, l4⟩ := hw.lineage
      exact ⟨c', hw.keeps.checkpoints p c' hc', h1.trans l1.symm, h3.trans l3.symm,
        h4.trans l4.symm, by rw [hw.revision]; omega⟩
  · rcases (hmem x).1 hx with hx | rfl
    · obtain ⟨r, hr, hle⟩ := h.reached x hx
      obtain ⟨r', hr', hlater⟩ := hw.keeps.executions _ r hr
      exact ⟨r', hr', hle.trans hlater.revision_le⟩
    · exact ⟨e', hw.lineage.1 ▸ hw.moved, by rw [hw.revision, hw.target]⟩
  · rcases (hmem x).1 hx with hx | rfl <;> rcases (hmem y).1 hy with hy | rfl
    · exact h.sole x hx y hy hid hrev
    · exact absurd hrev (hearlier x hx hid).ne
    · exact absurd hrev (hearlier y hy hid.symm).ne'
    · rfl
  · rw [mem_def, hw.pending, mem_append] at hr
    rcases hr with hr | hr
    · obtain ⟨c', hc'⟩ := h.owned r hr
      exact ⟨c', hw.keeps.checkpoints _ c' hc'⟩
    · obtain ⟨ref, -, rfl⟩ := mem_map.1 hr
      exact ⟨c, hw.found⟩

theorem Chained.move (h : Chained db) (hmove : CheckpointMove db db') : Chained db' := by
  cases hmove with
  | wait hwait =>
    obtain ⟨e, c, -, -, hw⟩ := startWaiting_ok hwait
    exact h.wait hw
  | other hcheckpoints hpending hexecutions =>
    refine ⟨?_, fun c hc => ?_, ?_, ?_⟩
    · simpa only [getExecutionCheckpoint, hcheckpoints] using h.parent
    · obtain ⟨e, he, hle⟩ := h.reached c (hcheckpoints ▸ hc)
      obtain ⟨e', he', hlater⟩ := hexecutions _ e he
      exact ⟨e', he', hle.trans hlater.revision_le⟩
    · simpa only [hcheckpoints] using h.sole
    · simpa only [getExecutionCheckpoint, hcheckpoints, hpending] using h.owned

theorem Chained.run (hrun : CheckpointRun {} db) : Chained db := by
  induction hrun with
  | refl => constructor <;> intro _ h <;> cases h
  | tail _ hmove ih => exact ih.move hmove

theorem Chained.parentChain (h : Chained db) {i : String}
    (hc : getExecutionCheckpoint db i = some c) :
    ∃ chain, ParentChain (getExecutionCheckpoint db) (·.parentCheckpointId) (some i) chain := by
  -- on the revision, which is smaller at a parent
  induction hn : c.executionRevision using Nat.strong_induction_on generalizing i c with
  | _ n ih =>
    cases hp : c.parentCheckpointId with
    | none => exact ⟨[c], .cons hc (hp ▸ .nil)⟩
    | some p =>
      obtain ⟨c', hc', -, -, -, hlt⟩ := h.parent c (mem_of_find? hc) p hp
      obtain ⟨chain, hchain⟩ := ih _ (hn ▸ hlt) hc' rfl
      exact ⟨c :: chain, .cons hc (hp ▸ hchain)⟩

/-! ### Repeated moves -/

mutual

/-- Two values are the same JSON document; unlike for Python's `==`, `1`, `1.0` and `true` differ. -/
def sameDocument : Json → Json → Bool
  | .arr items, .arr items' => sameDocuments items items'
  | .obj members, .obj members' => members.length = members'.length && sameMembers members members'
  | v, w => v.same w

def sameDocuments : List Json → List Json → Bool
  | [], [] => true
  | v :: vs, w :: ws => sameDocument v w && sameDocuments vs ws
  | _, _ => false

def sameMembers : List (String × Json) → List (String × Json) → Bool
  | [], _ => true
  | (k, v) :: ms, ns => (Json.member? k ns).any (sameDocument v) && sameMembers ms ns

end

def SameMessages (D : Digests) (values values' : CheckpointValues) : Prop :=
  ∃ m ∈ values.transcriptSnapshot.bind D.canonicalTranscript,
    ∃ m' ∈ values'.transcriptSnapshot.bind D.canonicalTranscript, sameDocuments m m' = true

/-- Two requests name the same checkpoint, messages and pending invocations. -/
def AsksForSame (D : Digests) (values : CheckpointValues) (pending : List PendingReference)
    (values' : CheckpointValues) (pending' : List PendingReference) : Prop :=
  values'.checkpointId = values.checkpointId ∧ SameMessages D values values' ∧
    sortedReferences pending' = sortedReferences pending

/-- A checkpoint that was just left has the pending invocations it was asked to have. -/
theorem StartsWaiting.reference_pending (hw : StartsWaiting db db' e e' values pending c)
    (h : Chained db) :
    (listCheckpointPendingInvocations db' values.checkpointId).map (·.reference) =
      sortedReferences pending := by
  have hnone : db.pendingInvocations.rows.filter (·.checkpointId = values.checkpointId) = [] := by
    refine filter_eq_nil_iff.2 fun r hr hid => ?_
    obtain ⟨c', hc'⟩ := h.owned r hr
    rw [of_decide_eq_true hid, ← hw.key, getExecutionCheckpoint,
      fresh_insert? hw.checkpoints] at hc'
    cases hc'
  have hall : ((sortedReferences pending).map (·.frozen values.checkpointId)).filter
      (·.checkpointId = values.checkpointId) =
        (sortedReferences pending).map (·.frozen values.checkpointId) := by
    simp [PendingReference.frozen]
  have hsorted : ((sortedReferences pending).map (·.frozen values.checkpointId)).Pairwise
      (·.ordinal ≤ ·.ordinal) := by
    rw [pairwise_map]
    exact pairwise_insertionSort _ pending
  rw [listCheckpointPendingInvocations, hw.pending, filter_append, hnone, hall,
    nil_append, hsorted.insertionSort_eq, map_map]
  exact map_id _

/-- **What a repeated move is accepted with**, at any time after the move. -/
theorem Chained.accepts_iff (h : Chained db)
    (hc : getExecutionCheckpoint db values.checkpointId = some c) (hlineage : c.HasLineageOf e)
    (hrevision : c.executionRevision = sourceRevision + 1)
    (hpending : (listCheckpointPendingInvocations db values.checkpointId).map (·.reference) =
      sortedReferences pending)
    (hwaiting : e.revision = sourceRevision + 1 →
      e.state = .waiting ∧ e.currentCheckpointId = some values.checkpointId)
    (values' : CheckpointValues) (pending' : List PendingReference) :
    verifyCommittedWaitingCheckpoint e sourceRevision values' pending' db = .ok ((), db) ↔
      values'.checkpointId = values.checkpointId ∧ KeepsSnapshot D values' c.transcript ∧
        sortedReferences pending' = sortedReferences pending := by
  rw [← bind_pure (verifyCommittedWaitingCheckpoint e sourceRevision values' pending'),
    verifyCommittedWaitingCheckpoint_bind_ok, pure_mk]
  constructor
  · rintro ⟨⟨⟨c', hc', hlineage', hrevision', hsnapshot⟩, hpending', -⟩, -⟩
    -- the execution has one checkpoint at this revision
    obtain rfl := h.sole c' (mem_of_find? hc') c (mem_of_find? hc)
      (hlineage'.1.trans hlineage.1.symm) (hrevision'.trans hrevision.symm)
    have hid : values'.checkpointId = values.checkpointId :=
      (key_of_find? hc').symm.trans (key_of_find? hc)
    rw [hid, hpending] at hpending'
    exact ⟨hid, hsnapshot, hpending'.symm⟩
  · rintro ⟨hid, hsnapshot, hsame⟩
    exact ⟨⟨⟨c, hid ▸ hc, hlineage, hrevision, hsnapshot⟩, by rw [hid, hpending, hsame],
      hid ▸ hwaiting⟩, rfl, rfl⟩

/-- **Checkpoints form sound chains, a repeated move is accepted at any later time, and one that
asks for something else is rejected, exactly unless its messages equal the stored ones for Python
and are not the same.** -/
theorem waitingCheckpoints_sound_iff {db₀ : Db D} (hbefore : CheckpointRun {} db₀)
    (hwait : startWaiting executionId sourceRevision transition values pending evidence db₀ =
      .ok (moved, db₁))
    (hafter : CheckpointRun db₁ db) (he : getExecution db executionId = some e) :
    (∀ i c, getExecutionCheckpoint db i = some c →
      (∀ p ∈ c.parentCheckpointId, ∃ c', getExecutionCheckpoint db p = some c' ∧
        c'.executionId = c.executionId ∧ c'.taskId = c.taskId ∧ c'.branchId = c.branchId ∧
        c'.executionRevision < c.executionRevision) ∧
      ∃ chain, ParentChain (getExecutionCheckpoint db) (·.parentCheckpointId) (some i) chain ∧
        (chain.map (·.checkpointId)).Nodup) ∧
    verifyCommittedWaitingCheckpoint e sourceRevision values pending db = .ok ((), db) ∧
    ∀ values' pending',
      (verifyCommittedWaitingCheckpoint e sourceRevision values' pending' db = .ok ((), db) →
        AsksForSame D values pending values' pending') ↔
      (values'.checkpointId = values.checkpointId →
        sortedReferences pending' = sortedReferences pending →
        (∃ c, getExecutionCheckpoint db values.checkpointId = some c ∧
          KeepsSnapshot D values' c.transcript) → SameMessages D values values') := by
  have hchained : Chained db := Chained.run ((hbefore.tail (.wait hwait)).trans hafter)
  have hkeeps := hafter.keeps
  obtain ⟨e₀, c, rfl, rfl, hw⟩ := startWaiting_ok hwait
  have hc := hkeeps.checkpoints _ c hw.found
  have hpending := hw.reference_pending (Chained.run hbefore)
  rw [← hkeeps.pending _ c hw.found] at hpending
  -- the execution as it was read and as it was moved, against what it is now
  obtain ⟨e', he', hlater⟩ := hkeeps.executions _ moved hw.moved
  cases he'.symm.trans he
  obtain ⟨e', he', hlater₀⟩ := (hw.keeps.trans hkeeps).executions _ e₀ hw.stored
  cases he'.symm.trans he
  have hlineage : c.HasLineageOf e := by
    obtain ⟨⟨h₁, h₂, h₃, h₄⟩, -⟩ := hlater₀
    obtain ⟨l₁, l₂, l₃, l₄⟩ := hw.lineage
    exact ⟨l₁.trans h₁.symm, l₂.trans h₂.symm, l₃.trans h₃.symm, l₄.trans h₄.symm⟩
  have haccepts := hchained.accepts_iff hc hlineage hw.revision hpending fun hrevision => by
    rcases hlater.2 with hlt | ⟨-, hstate, hpoint⟩
    · have := hw.target
      omega
    · exact ⟨hstate.trans hw.waiting.1, hpoint.trans hw.waiting.2⟩
  refine ⟨fun i c hc => ⟨hchained.parent c (mem_of_find? hc), ?_⟩,
    (haccepts values pending).2 ⟨rfl, hw.snapshot, rfl⟩, fun values' pending' => ?_⟩
  · obtain ⟨chain, hchain⟩ := hchained.parentChain hc
    exact ⟨chain, hchain, hchain.nodup fun _ _ => key_of_find?⟩
  · rw [haccepts]
    constructor
    · rintro h hid hsame ⟨c', hc', hsnapshot⟩
      cases hc.symm.trans hc'
      exact (h ⟨hid, hsnapshot, hsame⟩).2.1
    · rintro h ⟨hid, hsnapshot, hsame⟩
      exact ⟨hid, h hid hsame ⟨c, hc, hsnapshot⟩, hsame⟩

end Moves

def sampleMessage (content : Json) : Json :=
  .obj [("role", .str "user"), ("content", content), ("tool_calls", .arr []), ("name", .null),
    ("tool_call_id", .null), ("metadata", .obj [])]

def sampleValues (content : Json) : CheckpointValues where
  checkpointId := "checkpoint"
  executionId := "root"
  executionRevision := 2
  sessionId := "session"
  taskId := some "task"
  branchId := some "branch"
  iteration := 0
  waitReason := "USER"
  transcriptSnapshot := some [sampleMessage content, sampleMessage (.str "go on")]

def sampleStore : Db Runtime.transparentDigests :=
  { executions :=
      ((∅ : Table _).insert? (Runtime.sampleExecution "root" (some "branch") none)).getD ∅ }

def samplePending : List PendingReference := [⟨0, "invocation", "call", "notes"⟩]

def sampleWaits (sourceRevision : ℕ) (values : CheckpointValues) :
    Tx Runtime.transparentDigests ExecutionRow :=
  startWaiting "root" sourceRevision { waitReason := some (some "USER") } values samplePending
    { invocations := fun id => some ⟨id, some "root", "call", "notes", some "client"⟩
      transcript := .ok (values.transcriptSnapshot.getD []) }

/-- The execution starts to wait, after two messages of which the first is the number `1`. -/
def sampleStartWaiting : Tx Runtime.transparentDigests ExecutionRow :=
  sampleWaits 1 (sampleValues (.int 1))

/-- It is resumed. -/
def sampleResumed (db : Db Runtime.transparentDigests) (waiting : ExecutionRow) :
    Db Runtime.transparentDigests :=
  { db with executions := db.executions.put { waiting with state := .running, revision := 3 } }

/-- It starts to wait once more. -/
def sampleWaitsAgain : Tx Runtime.transparentDigests ExecutionRow :=
  sampleWaits 3 { sampleValues (.int 2) with checkpointId := "later", executionRevision := 4 }

theorem run_sampleStore : CheckpointRun {} sampleStore := by
  refine .single (.other rfl rfl ?_)
  rintro _ _ ⟨⟩

theorem sampleResumed_move {db : Db Runtime.transparentDigests} {waiting : ExecutionRow}
    (h : getExecution db "root" = some waiting) (hrevision : waiting.revision = 2) :
    CheckpointMove db (sampleResumed db waiting) := by
  refine .other rfl rfl (.of_put .refl h rfl ⟨⟨rfl, rfl, rfl, rfl⟩, .inl ?_⟩)
  rw [hrevision]
  exact Nat.lt_succ_self 2

/-- The first move is repeated after the second. -/
theorem verify_sampleStartWaiting : ∃ first db₁ second db,
    sampleStartWaiting sampleStore = .ok (first, db₁) ∧
    sampleWaitsAgain (sampleResumed db₁ first) = .ok (second, db) ∧
    verifyCommittedWaitingCheckpoint second 1 (sampleValues (.int 1)) samplePending db = .ok ((), db) ∧
    ∃ chain, ParentChain (getExecutionCheckpoint db) (·.parentCheckpointId) (some "later") chain ∧
      (chain.map (·.checkpointId)).Nodup := by
  refine ⟨_, _, _, _, rfl, rfl, ?_⟩
  have hsound := waitingCheckpoints_sound_iff run_sampleStore
    (show sampleStartWaiting sampleStore = .ok _ from rfl)
    ((Relation.ReflTransGen.single (sampleResumed_move rfl rfl)).tail
      (.wait (show sampleWaitsAgain _ = .ok _ from rfl))) rfl
  exact ⟨hsound.2.1, (hsound.1 "later" _ rfl).2⟩

/-- A repeated move whose message is `true` is accepted for the one whose message was `1`. -/
theorem verify_accepts_other_messages : ∃ moved db, CheckpointRun {} sampleStore ∧
    sampleStartWaiting sampleStore = .ok (moved, db) ∧
    verifyCommittedWaitingCheckpoint moved 1 (sampleValues (.bool true)) samplePending db =
      .ok ((), db) ∧
    ¬ AsksForSame Runtime.transparentDigests (sampleValues (.int 1)) samplePending
      (sampleValues (.bool true)) samplePending := by
  refine ⟨_, _, run_sampleStore, rfl, rfl, ?_⟩
  rintro ⟨-, ⟨_, ⟨⟩, _, ⟨⟩, h⟩, -⟩
  exact absurd h (by decide)

end AssistantRuntime.Agent

/-
**Batches of tool calls as sets.**

`reserve_tool_call_batch` drops the repetitions of a batch, looks every call up among the reservations
of the budget, and charges and reserves what is missing.  Without the renewable quota this is the union
of sets: a run of batches reserves the calls of those batches that succeeded, whatever their order and
however often a call is named, and the counter is the number of reserved ids.

Main results:

* `normalizeToolCalls_ok` — a batch without its repetitions;
* `Batch.reserves` — what one successful batch reserves and charges;
* `batches_are_unions` — **the reserved calls are a union, the counter is its size, and it never
  exceeds the limit**.
-/

import AssistantRuntime.Runtime.Requests

namespace AssistantRuntime.Runtime

open Relational Uow Table Agent TaskBudget List

variable {D : Digests} {db db' : Db D} {τ : String} {g : ℤ}

/-! ### One batch without its repetitions -/

/-- What is left of a batch: every call has its like there or among those seen before, nothing is new,
and no id comes twice. -/
theorem normalizeToolCalls_ok {seen out : List (ToolCall D)} {calls : List JsonObject}
    (h : normalizeToolCalls seen calls = .ok out) :
    (∀ c ∈ calls, ∃ n ∈ seen ++ out, n.key = (toolCallOf D c).key ∧
        n.fingerprint = (toolCallOf D c).fingerprint) ∧
      (∀ n ∈ out, (∃ c ∈ calls, n = toolCallOf D c) ∧ ∀ p ∈ seen, p.key ≠ n.key) ∧
      (out.map (·.key)).Nodup := by
  induction calls generalizing seen out with
  | nil =>
    cases h
    simp
  | cons raw rest ih =>
    simp only [normalizeToolCalls] at h
    split at h
    · cases h
    split_ifs at h
    split at h
    · next prior hprior =>
        split_ifs at h with hsame
        rw [not_not] at hsame
        obtain ⟨hcalls, hnew, hnodup⟩ := ih h
        refine ⟨fun c hc => ?_, fun n hn => ?_, hnodup⟩
        · rcases mem_cons.1 hc with rfl | hc
          · refine ⟨prior, mem_append_left _ (mem_of_find?_eq_some hprior), ?_, hsame⟩
            simpa using find?_some hprior
          · exact hcalls c hc
        · obtain ⟨⟨c, hc, rfl⟩, hseen⟩ := hnew n hn
          exact ⟨⟨c, mem_cons_of_mem _ hc, rfl⟩, hseen⟩
    · next hnone =>
        cases hrest : normalizeToolCalls (toolCallOf D raw :: seen) rest with
        | error e =>
          rw [hrest] at h
          cases h
        | ok out' =>
          rw [hrest] at h
          cases h
          obtain ⟨hcalls, hnew, hnodup⟩ := ih hrest
          refine ⟨fun c hc => ?_, fun n hn => ?_, nodup_cons.2 ⟨?_, hnodup⟩⟩
          · rcases mem_cons.1 hc with rfl | hc
            · exact ⟨toolCallOf D c, by simp, rfl, rfl⟩
            · obtain ⟨n, hn, hlike⟩ := hcalls c hc
              refine ⟨n, ?_, hlike⟩
              simp only [cons_append, mem_cons, mem_append] at hn ⊢
              tauto
          · rcases mem_cons.1 hn with rfl | hn
            · refine ⟨⟨raw, mem_cons_self, rfl⟩, fun p hp => ?_⟩
              simpa using find?_eq_none.1 hnone p hp
            · obtain ⟨⟨c, hc, rfl⟩, hseen⟩ := hnew n hn
              exact ⟨⟨c, mem_cons_of_mem _ hc, rfl⟩,
                fun p hp => hseen p (mem_cons_of_mem _ hp)⟩
          · intro hmem
            obtain ⟨n, hn, hkey⟩ := mem_map.1 hmem
            exact (hnew n hn).2 _ mem_cons_self hkey.symm

/-! ### Reserved calls -/

/-- The call is reserved, under this fingerprint, for this incarnation of the budget. -/
def Reserved (db : Db D) (taskId : String) (generation : ℤ) (key : String) (fingerprint : D.Receipt) :
    Prop :=
  ⟨taskId, .toolCall, key, generation, fingerprint⟩ ∈ db.reservations

def reservedIds (db : Db D) (taskId : String) (generation : ℤ) : List String :=
  (db.reservations.rows.filter fun r => r.taskId = taskId ∧ r.kind = .toolCall ∧
    r.taskBudgetIncarnationGeneration = generation).map (·.reservationKey)

variable {key : String}

theorem mem_reservedIds : key ∈ reservedIds db τ g ↔ ∃ f, Reserved db τ g key f := by
  simp only [reservedIds, mem_map, mem_filter, decide_eq_true_eq]
  constructor
  · rintro ⟨⟨_, _, _, _, f⟩, ⟨hr, rfl, rfl, rfl⟩, rfl⟩
    exact ⟨f, hr⟩
  · rintro ⟨f, hr⟩
    exact ⟨_, ⟨hr, rfl, rfl, rfl⟩, rfl⟩

theorem nodup_reservedIds (db : Db D) (τ : String) (g : ℤ) : (reservedIds db τ g).Nodup := by
  have hrows : db.reservations.rows.Nodup := db.reservations.nodup.of_map
  refine (hrows.filter _).map_on ?_
  intro r hr r' hr' hkey
  simp only [mem_filter, decide_eq_true_eq] at hr hr'
  refine inj_on_of_nodup_map db.reservations.nodup hr.1 hr'.1 ?_
  simp [ReservationRow.key, hr.2.1, hr'.2.1, hr.2.2.1, hr'.2.2.1, hkey]

theorem Reserved.unique {f f' : D.Receipt} (h : Reserved db τ g key f)
    (h' : Reserved db τ g key f') : f = f' := by
  have heq := inj_on_of_nodup_map db.reservations.nodup h h' rfl
  exact congrArg ReservationRow.payloadFingerprint heq

theorem getTaskBudgetReservation_toolCall {r : ReservationRow D.Receipt} :
    getTaskBudgetReservation db τ .toolCall key (some g) = some r ↔
      r = ⟨τ, .toolCall, key, g, r.payloadFingerprint⟩ ∧ Reserved db τ g key r.payloadFingerprint := by
  obtain ⟨taskId, kind, key', generation, fingerprint⟩ := r
  simp only [getTaskBudgetReservation, Option.filter_eq_some_iff, find?_eq_some,
    ReservationRow.key, Prod.mk.injEq, Option.all_some, decide_eq_true_eq, Reserved,
    ReservationRow.mk.injEq, and_true]
  constructor
  · rintro ⟨⟨hmem, rfl, rfl, rfl⟩, rfl⟩
    exact ⟨⟨rfl, rfl, rfl, rfl⟩, hmem⟩
  · rintro ⟨⟨rfl, rfl, rfl, rfl⟩, hmem⟩
    exact ⟨⟨hmem, rfl, rfl, rfl⟩, rfl⟩

/-! ### One batch -/

/-- A batch of calls for one task, with the renewable quota disabled. -/
structure Batch where
  settings : Settings
  quotaDisabled : settings.userToolQuotaEnabled = false
  taskId : String
  calls : List JsonObject
  preflight : Preflight
  expectedGeneration : Option ℤ
  now : ℤ

def Batch.perform (b : Batch) : Tx D Agent.TaskBudget :=
  reserveToolCallBatch b.settings b.taskId b.calls b.preflight b.expectedGeneration b.now

/-- What a successful batch did: the new reservations are those of some of its calls, the counter
moved by their number and stays within the limit, and all calls are reserved now. -/
structure Batch.Reserves (b : Batch) (db db' : Db D) (r r' : BudgetRow) (new : List (ToolCall D)) :
    Prop where
  before : getTaskBudget db b.taskId = some r
  after : ∀ τ, getTaskBudget db' τ = if τ = b.taskId then some r' else getTaskBudget db τ
  same : r'.incarnationGeneration = r.incarnationGeneration ∧ r'.limits = r.limits
  used : r'.usedToolCalls = r.usedToolCalls + new.length
  within : r'.usedToolCalls ≤ r.limits.maxTotalToolCalls
  rows : db'.reservations.rows =
    db.reservations.rows ++ new.map (·.row b.taskId r.incarnationGeneration)
  named : ∀ n ∈ new, ∃ c ∈ b.calls, n = toolCallOf D c
  all : ∀ c ∈ b.calls, Reserved db' b.taskId r.incarnationGeneration (toolCallOf D c).key
    (toolCallOf D c).fingerprint

theorem Batch.reserves {b : Batch} {answer : Agent.TaskBudget}
    (h : b.perform db = .ok (answer, db')) : ∃ r r' new, b.Reserves db db' r r' new := by
  simp only [Batch.perform, reserveToolCallBatch, evidently_bind_ok, steps_ok] at h
  obtain ⟨normalized, hnormalized, -, -, h⟩ := h
  have h := requireBatchBinding_bind_ok h
  simp only [requireIncarnation_bind_ok, loadBudget_bind_ok] at h
  obtain ⟨r, hr, -, loaded, rfl, h⟩ := h
  obtain ⟨missing, db1, hmissing, h⟩ := bind_ok.1 h
  obtain ⟨users, rfl, hfilter, hmatch⟩ := missingToolCalls_ok hmissing
  obtain ⟨hcalls, hnew, -⟩ := normalizeToolCalls_ok hnormalized
  have hnamed : ∀ n ∈ missing, ∃ c ∈ b.calls, n = toolCallOf D c := by
    intro n hn
    rw [hfilter] at hn
    exact (hnew n (mem_of_mem_filter hn)).1
  -- a call is among the missing ones or was reserved under its own fingerprint
  have hall : ∀ db2 : Db D, (∀ x, x ∈ db2.reservations ↔ x ∈ db.reservations ∨
        x ∈ missing.map (·.row b.taskId loaded.incarnationGeneration)) →
      ∀ c ∈ b.calls, Reserved db2 b.taskId loaded.incarnationGeneration (toolCallOf D c).key
        (toolCallOf D c).fingerprint := by
    intro db2 hrows c hc
    obtain ⟨n, hn, hkey, hfingerprint⟩ := hcalls c hc
    refine (hrows _).2 ?_
    cases hget : getTaskBudgetReservation db b.taskId .toolCall n.key
        (some loaded.incarnationGeneration) with
    | none =>
      refine .inr (mem_map.2 ⟨n, ?_, ?_⟩)
      · rw [hfilter]
        exact mem_filter.2 ⟨hn, by rw [hget]; rfl⟩
      · rw [ToolCall.row, hkey, hfingerprint]
    | some x =>
      have hx := (getTaskBudgetReservation_toolCall.1 hget).2
      rw [hmatch n hn x hget, hkey, hfingerprint] at hx
      exact .inl hx
  simp only [ite_ok, pure_mk] at h
  rcases h with ⟨hnone, -, rfl⟩ | ⟨-, h⟩
  · subst hnone
    have hwithin : loaded.usedToolCalls ≤ loaded.limits.maxTotalToolCalls :=
      loaded.valid.2.2.1.2.2.2.2.2.2.1
    refine ⟨_, _, [], hr, fun τ => ?_, ⟨rfl, rfl⟩, by simp, hwithin, by simp, hnamed,
      hall _ fun x => by simp⟩
    split
    · next hτ => exact hτ ▸ hr
    · rfl
  simp only [evidently_bind_ok, compareAndSetTaskBudget_bind_ok] at h
  obtain ⟨patch, hpatch, r', hr', -, -, h⟩ := h
  obtain rfl : r' = loaded.toBudgetRow := Option.mem_unique hr' hr
  obtain ⟨_, db2, hsave, h⟩ := bind_ok.1 h
  obtain ⟨reservations, users', rfl, hrows⟩ := saveToolCalls_ok hsave
  obtain ⟨-, rfl⟩ := loadBudget_ok h
  simp only [toolCallsPatch, b.quotaDisabled, Bool.false_eq_true, if_false] at hpatch
  split_ifs at hpatch with hopen hexceeds
  cases hpatch
  let patch : BudgetPatch := { usedToolCalls := some (loaded.usedToolCalls + missing.length) }
  refine ⟨_, patch.apply loaded.revision loaded.toBudgetRow, missing, hr, fun τ => ?_, ⟨rfl, rfl⟩, rfl,
    not_lt.1 hexceeds, hrows, hnamed, hall _ fun x => ?_⟩
  · show (db.budgets.put _).find? τ = _
    rw [find?_put]
    have hid : loaded.taskId = b.taskId := key_of_find? hr
    have hfound : db.budgets.find? b.taskId = some loaded.toBudgetRow := hr
    show (if τ = loaded.taskId then _ else _) = _
    rw [hid]
    split
    · next hτ => rw [hτ, hfound]; rfl
    · rfl
  · show x ∈ reservations.rows ↔ _
    rw [hrows, mem_append]
    rfl

namespace Batch.Reserves

variable {b : Batch} {r r' : BudgetRow} {new : List (ToolCall D)}

/-- **The reserved calls are the union of those before and those of the batch.** -/
theorem reserved_iff (h : b.Reserves db db' r r' new) {key : String} {f : D.Receipt} :
    Reserved db' τ g key f ↔ Reserved db τ g key f ∨ (τ = b.taskId ∧ g = r.incarnationGeneration ∧
      ∃ c ∈ b.calls, (toolCallOf D c).key = key ∧ (toolCallOf D c).fingerprint = f) := by
  constructor
  · intro hmem
    have hrow : _ ∈ db'.reservations.rows := hmem
    rw [h.rows, mem_append] at hrow
    refine hrow.imp_right fun hnew => ?_
    obtain ⟨n, hn, heq⟩ := mem_map.1 hnew
    obtain ⟨c, hc, rfl⟩ := h.named n hn
    cases heq
    exact ⟨rfl, rfl, c, hc, rfl, rfl⟩
  · rintro (hold | ⟨rfl, rfl, c, hc, rfl, rfl⟩)
    · show _ ∈ db'.reservations.rows
      rw [h.rows]
      exact mem_append_left _ hold
    · exact h.all c hc

theorem reservedIds_eq (h : b.Reserves db db' r r' new) :
    reservedIds db' τ g = reservedIds db τ g ++
      if τ = b.taskId ∧ g = r.incarnationGeneration then new.map (·.key) else [] := by
  unfold reservedIds
  rw [h.rows, filter_append, map_append, filter_map]
  congr 1
  split
  · next heq =>
      rw [heq.1, heq.2, filter_eq_self.2 (by simp [ToolCall.row]), map_map]
      rfl
  · next hne =>
      rw [filter_eq_nil_iff.2, map_nil, map_nil]
      intro n _ htrue
      simp only [ToolCall.row, Function.comp_apply, decide_eq_true_eq, true_and] at htrue
      exact hne ⟨htrue.1.symm, htrue.2.symm⟩

end Batch.Reserves

/-! ### Runs -/

/-- The database after some batches; one that fails stores nothing. -/
def runBatches (db : Db D) : List Batch → Db D
  | [] => db
  | b :: bs => runBatches (stored b.perform db) bs

def committedCalls (taskId : String) : Db D → List Batch → List JsonObject
  | _, [] => []
  | db, b :: bs =>
    (if b.taskId = taskId ∧ (b.perform db).isOk then b.calls else []) ++
      committedCalls taskId (stored b.perform db) bs

/-- The budget of a task in one incarnation: its counter is the number of reserved ids and within the
limit. -/
def CountsCalls (db : Db D) (taskId : String) (generation : ℤ) (limits : BudgetLimits) : Prop :=
  ∃ r, getTaskBudget db taskId = some r ∧ r.incarnationGeneration = generation ∧ r.limits = limits ∧
    r.usedToolCalls = (reservedIds db taskId generation).length ∧
    r.usedToolCalls ≤ limits.maxTotalToolCalls

variable {limits : BudgetLimits}

variable (h : CountsCalls db τ g limits)

include h

theorem CountsCalls.step (b : Batch) :
    CountsCalls (stored b.perform db) τ g limits := by
  rcases stored_cases b.perform db with hsame | ⟨answer, hok⟩
  · rw [hsame]
    exact h
  obtain ⟨r, r', new, hb⟩ := Batch.reserves hok
  obtain ⟨x, hx, hg, hlimits, hused, hwithin⟩ := h
  by_cases hτ : τ = b.taskId
  · subst hτ
    obtain rfl : x = r := Option.mem_unique hx hb.before
    refine ⟨r', (hb.after _).trans (if_pos rfl), hb.same.1.trans hg, hb.same.2.trans hlimits, ?_,
      hlimits ▸ hb.within⟩
    rw [hb.used, hb.reservedIds_eq, if_pos ⟨rfl, hg.symm⟩, length_append, length_map, hused]
    rfl
  · refine ⟨x, ((hb.after τ).trans (if_neg hτ)).trans hx, hg, hlimits, ?_, hwithin⟩
    rw [hb.reservedIds_eq, if_neg (fun heq => hτ heq.1), append_nil]
    exact hused

theorem CountsCalls.run (bs : List Batch) :
    CountsCalls (runBatches db bs) τ g limits := by
  induction bs generalizing db with
  | nil => exact h
  | cons b bs ih => exact ih (h.step b)

theorem CountsCalls.reserved_iff (bs : List Batch) {f : D.Receipt} :
    Reserved (runBatches db bs) τ g key f ↔ Reserved db τ g key f ∨
      ∃ c ∈ committedCalls τ db bs, (toolCallOf D c).key = key ∧ (toolCallOf D c).fingerprint = f := by
  induction bs generalizing db with
  | nil => simp [runBatches, committedCalls]
  | cons b bs ih =>
    have hrest := ih (h.step b)
    simp only [runBatches, committedCalls, mem_append, or_and_right, exists_or]
    rw [hrest, ← or_assoc]
    refine or_congr_left ?_
    cases hok : b.perform db with
    | error e => simp [stored, hok, Except.isOk, Except.toBool]
    | ok p =>
      obtain ⟨r, r', new, hb⟩ := Batch.reserves hok
      obtain ⟨x, hx, hg, -⟩ := h
      rw [show stored b.perform db = p.2 by simp [stored, hok], hb.reserved_iff]
      by_cases hτ : τ = b.taskId
      · subst hτ
        obtain rfl : x = r := Option.mem_unique hx hb.before
        simp [hg, Except.isOk, Except.toBool]
      · simp [hτ, Ne.symm hτ]

omit h

theorem length_reservedIds {ids : List String} (hids : ids.Nodup)
    (h : ∀ key, key ∈ ids ↔ ∃ f, Reserved db τ g key f) : (reservedIds db τ g).length = ids.length :=
  ((perm_ext_iff_of_nodup (nodup_reservedIds db τ g) hids).2 fun key => by
    rw [h, mem_reservedIds]).length_eq

/-- **A batch is a union of sets.**  Take a budget whose counter is the number of its reserved calls,
and any batches, for this task and for others, one after the other.  The counter is still that number,
no id counted twice, and within the limit; the reserved calls are those of before and those of the
batches that succeeded; so two lists of batches that committed the same calls, in any order and any
number of times, lead to the same reservations and the same counter.  And a further batch that would
exceed the limit, or names an id with two payloads or with another payload than the reserved one,
changes nothing.  Payloads differ here if their `canonical` forms do, which the fingerprints are taken
of and determine. -/
theorem batches_are_unions {limits : BudgetLimits} (h : CountsCalls db τ g limits)
    {C : Type} (canonical : Payload D.Plan → C)
    (hinjective : ∀ key p p', D.reservation .toolCall key p = D.reservation .toolCall key p' →
      canonical p = canonical p')
    (bs : List Batch) : (∃ r, getTaskBudget (runBatches db bs) τ = some r ∧
        r.usedToolCalls = (reservedIds (runBatches db bs) τ g).length ∧
        (reservedIds (runBatches db bs) τ g).Nodup ∧
        r.usedToolCalls ≤ limits.maxTotalToolCalls) ∧
      (∀ key f, Reserved (runBatches db bs) τ g key f ↔ Reserved db τ g key f ∨
        ∃ c ∈ committedCalls τ db bs, textMember D "tool_call_id" c = key ∧
          D.reservation .toolCall key (.toolCall (.obj c)) = f) ∧
      (∀ bs', (∀ c, c ∈ committedCalls τ db bs ↔ c ∈ committedCalls τ db bs') →
        (∀ key f, Reserved (runBatches db bs) τ g key f ↔ Reserved (runBatches db bs') τ g key f) ∧
        (getTaskBudget (runBatches db bs) τ).map (·.usedToolCalls) =
          (getTaskBudget (runBatches db bs') τ).map (·.usedToolCalls)) ∧
      ∀ b : Batch, b.taskId = τ →
        (limits.maxTotalToolCalls < ((reservedIds (runBatches db bs) τ g ++
            b.calls.map (textMember D "tool_call_id")).dedup.length : ℤ) ∨
          (∃ c ∈ b.calls, ∃ c' ∈ b.calls,
            canonical (.toolCall (.obj c)) ≠ canonical (.toolCall (.obj c')) ∧
            textMember D "tool_call_id" c = textMember D "tool_call_id" c') ∨
          ∃ c ∈ b.calls, ∃ p, canonical p ≠ canonical (.toolCall (.obj c)) ∧
            Reserved (runBatches db bs) τ g (textMember D "tool_call_id" c)
              (D.reservation .toolCall (textMember D "tool_call_id" c) p)) →
        stored b.perform (runBatches db bs) = runBatches db bs := by
  have hrun := h.run bs
  refine ⟨?_, fun key f => ?_, fun bs' hsame => ?_, ?_⟩
  · obtain ⟨r, hr, -, -, hused, hwithin⟩ := hrun
    exact ⟨r, hr, hused, nodup_reservedIds _ _ _, hwithin⟩
  · rw [h.reserved_iff bs]
    refine or_congr_right (exists_congr fun c => and_congr_right fun _ => and_congr_right ?_)
    rintro rfl
    rfl
  · have hiff (key : String) (f : D.Receipt) : Reserved (runBatches db bs) τ g key f ↔
        Reserved (runBatches db bs') τ g key f := by
      rw [h.reserved_iff bs, h.reserved_iff bs']
      simp only [hsame]
    refine ⟨hiff, ?_⟩
    obtain ⟨r, hr, -, -, hused, -⟩ := hrun
    obtain ⟨r', hr', -, -, hused', -⟩ := h.run bs'
    rw [hr, hr', Option.map_some, Option.map_some, hused, hused',
      length_reservedIds (nodup_reservedIds _ _ _) fun key => ?_]
    rw [mem_reservedIds]
    exact exists_congr fun f => (hiff key f).symm
  · generalize runBatches db bs = db₁ at hrun ⊢
    rintro b rfl hrefused
    rcases stored_cases b.perform db₁ with hsame | ⟨answer, hok⟩
    · exact hsame
    -- a batch that succeeds has one payload for each id and stays within the limit
    have hafter := hrun.step b
    generalize stored b.perform db₁ = db₂ at hok hafter ⊢
    obtain ⟨r, r', new, hb⟩ := Batch.reserves hok
    obtain ⟨x, hx, rfl, -⟩ := hrun
    obtain rfl : x = r := Option.mem_unique hx hb.before
    exfalso
    rcases hrefused with hexceeds | ⟨c, hc, c', hc', hne, hkey⟩ | ⟨c, hc, p, hne, hreserved⟩
    · obtain ⟨r₂, -, -, -, hused, hwithin⟩ := hafter
      have hlength : (reservedIds db₂ b.taskId x.incarnationGeneration).length =
          (reservedIds db₁ b.taskId x.incarnationGeneration ++
            b.calls.map (textMember D "tool_call_id")).dedup.length := by
        refine length_reservedIds (nodup_dedup _) fun key => ?_
        simp only [mem_dedup, mem_append, mem_map, mem_reservedIds, hb.reserved_iff,
          true_and, exists_or]
        refine or_congr_right ?_
        constructor
        · rintro ⟨c, hc, hkey⟩
          exact ⟨_, c, hc, hkey, rfl⟩
        · rintro ⟨f, c, hc, hkey, -⟩
          exact ⟨c, hc, hkey⟩
      omega
    · have hfirst := hb.all c hc
      rw [show (toolCallOf D c).key = (toolCallOf D c').key from hkey] at hfirst
      have hsame := hfirst.unique (hb.all c' hc')
      simp only [toolCallOf, hkey] at hsame
      exact hne (hinjective _ _ _ hsame)
    · have hkept := hb.reserved_iff.2 (.inl hreserved)
      exact hne (hinjective _ _ _ (hkept.unique (hb.all c hc)))

def sampleBatch (ids : List String) : Batch where
  settings := {}
  quotaDisabled := rfl
  taskId := "task"
  calls := ids.map fun id => [("tool_call_id", .str id)]
  preflight := {}
  expectedGeneration := none
  now := 0

/-- Two batches with repetitions: two ids. -/
theorem batches_are_unions_sampleBatch :
    ∃ r, getTaskBudget (runBatches (after {} (sampleStart.take 1))
        [sampleBatch ["a", "b", "a"], sampleBatch ["b"]]) "task" = some r ∧ r.usedToolCalls = 2 := by
  have hbudget : (getTaskBudget (after {} (sampleStart.take 1)) "task").map
      (fun r => (r.incarnationGeneration, r.limits, r.usedToolCalls)) =
        some (1, sampleLimits.toBudgetLimits, 0) := by
    decide +kernel
  have hids : reservedIds (after {} (sampleStart.take 1)) "task" 1 = [] := by decide +kernel
  have hlength : (reservedIds (runBatches (after {} (sampleStart.take 1))
      [sampleBatch ["a", "b", "a"], sampleBatch ["b"]]) "task" 1).length = 2 := by
    decide +kernel
  obtain ⟨r, hr, hcolumns⟩ := Option.map_eq_some_iff.1 hbudget
  simp only [Prod.mk.injEq] at hcolumns
  have hcounts : CountsCalls (after {} (sampleStart.take 1)) "task" 1 sampleLimits.toBudgetLimits :=
    ⟨r, hr, hcolumns.1, hcolumns.2.1, by rw [hids, hcolumns.2.2]; rfl,
      by rw [hcolumns.2.2]; decide⟩
  have hinjective (key : String) (p p' : Payload transparentDigests.Plan)
      (h : transparentDigests.reservation .toolCall key p =
        transparentDigests.reservation .toolCall key p') : p = p' := by
    cases h
    rfl
  obtain ⟨r', hr', hused, -⟩ := (batches_are_unions hcounts id hinjective
    [sampleBatch ["a", "b", "a"], sampleBatch ["b"]]).1
  exact ⟨r', hr', by rw [hused, hlength]; rfl⟩

end AssistantRuntime.Runtime

/-
**Dispatching events.**

An event that is published gets a dispatch task of its own.  The task asks the cache whether the id
of the event was processed, runs all handlers of the event at the same time, each up to a number of
attempts, and marks the id as processed when no handler raised.  Tasks run in any interleaving; what
is between two `await`s of the source is one step here.

The mark comes after the handlers, and only if all of them came through.  So a second task for the
same id that asks before the mark runs the handlers again, and so does one that comes after a task in
which some handlers completed and another one raised.  A handler that is registered twice runs twice
in one task.  `handler_completes_once` says that nothing else breaks the rule of one
completion; `handler_completes_twice` shows the runs in which it is broken.
-/

import AssistantRuntime.Relational.Machine
import Mathlib.Data.List.Nodup

namespace AssistantRuntime.EventBus

open Option

variable {H : Type}

/-! ### Events, handlers and tasks -/

/-- `BaseEvent`, as far as the dispatcher reads it.  An event without an id has the empty one. -/
structure Event where
  eventId : String
  eventName : String
  deriving DecidableEq

/-- `EventRegistry`. -/
structure Registry (H : Type) where
  handlersByName : String → List H := fun _ => []
  allEventHandlers : List H := []

/-- `get_handlers`: those of the name, then those of all events. -/
def Registry.getHandlers (r : Registry H) (name : String) : List H :=
  r.handlersByName name ++ r.allEventHandlers

/-- How one attempt at a handler, with the commit of its unit of work, ends. -/
inductive AttemptResult
  | succeeded
  | failed
  | cancelled
  deriving DecidableEq

/-- Where `_execute_handler` is. -/
inductive Progress
  | attempting (failures : ℕ)
  | completed
  /-- The last attempt failed, and its error was raised. -/
  | raised
  /-- It ended without a completed attempt and without an error that `gather` counts. -/
  | abandoned
  deriving DecidableEq

structure HandlerRun (H : Type) where
  handler : H
  progress : Progress
  deriving DecidableEq

/-- The call as it starts: with no attempt allowed, the loop of it is empty. -/
def beginRun (maxRetries : ℕ) (h : H) : HandlerRun H :=
  ⟨h, if maxRetries = 0 then .abandoned else .attempting 0⟩

/-- Where `_dispatch_event_task` is. -/
inductive Phase
  | queued
  /-- The id was not found among the processed ones. -/
  | checked
  | running
  /-- No handler raised; the id is about to be marked. -/
  | marking
  | ended
  deriving DecidableEq

structure DispatchTask (H : Type) where
  event : Event
  phase : Phase
  runs : List (HandlerRun H) := []
  deriving DecidableEq

/-- The task is past its question to the cache and has not ended. -/
def DispatchTask.Active (t : DispatchTask H) : Prop :=
  t.phase = .checked ∨ t.phase = .running ∨ t.phase = .marking
  deriving Decidable

def DispatchTask.completed (t : DispatchTask H) : List H :=
  (t.runs.filter fun r => r.progress = .completed).map (·.handler)

/-- The bus with its dispatcher.  `completions` is a record of what handlers did, newest first. -/
structure Bus (H : Type) where
  registry : Registry H := {}
  processed : List String := []
  sequence : ℕ := 0
  tasks : ℕ → Option (DispatchTask H) := fun _ => none
  completions : List (String × H) := []

/-! ### Steps -/

inductive Act (H : Type)
  | subscribe (name : String) (h : H)
  | unsubscribe (name : String) (h : H)
  | registerForAll (h : H)
  | publish (e : Event)
  /-- `_is_event_processed` answers. -/
  | check (i : ℕ)
  /-- The handlers of the event are looked up and called. -/
  | start (i : ℕ)
  /-- An attempt of the `k`-th call ends; `dlqId` is the id drawn for the event of a dead letter. -/
  | attempt (i k : ℕ) (result : AttemptResult) (dlqId : String)
  | gather (i : ℕ)
  /-- `_mark_event_as_processed`. -/
  | mark (i : ℕ)
  /-- The task is cancelled, before or after it was taken from the queue. -/
  | cancel (i : ℕ)

namespace Bus

def setTask (s : Bus H) (i : ℕ) (t : DispatchTask H) : Bus H :=
  { s with tasks := Function.update s.tasks i (some t) }

def publish (s : Bus H) (e : Event) : Bus H :=
  { s.setTask (s.sequence + 1) { event := e, phase := .queued } with sequence := s.sequence + 1 }

def deadLetter (s : Bus H) (dlqId : String) : Bus H :=
  s.publish ⟨dlqId, "system.event.failed"⟩

def setRun (s : Bus H) (i k : ℕ) (t : DispatchTask H) (h : H) (p : Progress) : Bus H :=
  s.setTask i { t with runs := t.runs.set k ⟨h, p⟩ }

/-- An attempt of the `k`-th call of the task `i` ends. -/
def attempt (maxRetries : ℕ) (s : Bus H) (i k : ℕ) (t : DispatchTask H) (r : HandlerRun H)
    (failures : ℕ) (dlqId : String) : AttemptResult → Bus H
  | .succeeded =>
    { s.setRun i k t r.handler .completed with
      completions := (t.event.eventId, r.handler) :: s.completions }
  | .failed =>
    if failures + 1 = maxRetries then (s.setRun i k t r.handler .raised).deadLetter dlqId
    else s.setRun i k t r.handler (.attempting (failures + 1))
  | .cancelled =>
    -- `except Exception` does not see a cancellation, and `gather` does not count it as an error
    s.setRun i k t r.handler .abandoned

/-- What `_dispatch_event_task` does when `gather` returns. -/
def afterGather (t : DispatchTask H) : DispatchTask H :=
  if ∃ r ∈ t.runs, r.progress = .raised then { t with phase := .ended }
  else if t.event.eventId ≠ "" then { t with phase := .marking }
  else { t with phase := .ended }

end Bus

def HandlerRun.Over (r : HandlerRun H) : Prop := ∀ n, r.progress ≠ .attempting n

instance (r : HandlerRun H) : Decidable r.Over :=
  match h : r.progress with
  | .attempting n => .isFalse fun hover => hover n h
  | .completed => .isTrue fun n hn => by simp [h] at hn
  | .raised => .isTrue fun n hn => by simp [h] at hn
  | .abandoned => .isTrue fun n hn => by simp [h] at hn

def step [DecidableEq H] (maxRetries : ℕ) (s : Bus H) : Act H → Option (Bus H)
  | .subscribe name h =>
    some { s with registry.handlersByName :=
      Function.update s.registry.handlersByName name (s.registry.handlersByName name ++ [h]) }
  | .unsubscribe name h =>
    some { s with registry.handlersByName :=
      Function.update s.registry.handlersByName name ((s.registry.handlersByName name).erase h) }
  | .registerForAll h =>
    some { s with registry.allEventHandlers := s.registry.allEventHandlers ++ [h] }
  | .publish e => some (s.publish e)
  | .check i => do
    let t ← s.tasks i
    guard (t.phase = .queued)
    if t.event.eventId ≠ "" ∧ t.event.eventId ∈ s.processed then
      pure (s.setTask i { t with phase := .ended })
    else pure (s.setTask i { t with phase := .checked })
  | .start i => do
    let t ← s.tasks i
    guard (t.phase = .checked)
    pure (s.setTask i { t with
      phase := .running
      runs := (s.registry.getHandlers t.event.eventName).map (beginRun maxRetries) })
  | .attempt i k result dlqId => do
    let t ← s.tasks i
    guard (t.phase = .running)
    let r ← t.runs[k]?
    match r.progress with
    | .attempting n => pure (s.attempt maxRetries i k t r n dlqId result)
    | _ => none
  | .gather i => do
    let t ← s.tasks i
    guard (t.phase = .running ∧ ∀ r ∈ t.runs, r.Over)
    pure (s.setTask i (Bus.afterGather t))
  | .mark i => do
    let t ← s.tasks i
    guard (t.phase = .marking)
    pure { s.setTask i { t with phase := .ended } with
      processed := t.event.eventId :: s.processed }
  | .cancel i => do
    let t ← s.tasks i
    guard (t.phase ≠ .ended)
    pure (s.setTask i { t with phase := .ended })

/-! ### Calls of a task -/

namespace DispatchTask

variable {t : DispatchTask H} {k : ℕ} {r : HandlerRun H}

variable (h : t.runs[k]? = some r)

include h

/-- The calls before and after the `k`-th one, which may be replaced between them. -/
theorem runs_split :
    ∃ before after, t.runs = before ++ r :: after ∧
      ∀ r', t.runs.set k r' = before ++ r' :: after := by
  obtain ⟨hk, rfl⟩ := List.getElem?_eq_some_iff.1 h
  refine ⟨t.runs.take k, t.runs.drop (k + 1), by simp, ?_⟩
  simp [List.set_eq_take_append_cons_drop, hk]

theorem handlers_set (p : Progress) :
    (t.runs.set k ⟨r.handler, p⟩).map (·.handler) = t.runs.map (·.handler) := by
  obtain ⟨before, after, hruns, hset⟩ := runs_split h
  rw [hset, hruns]
  simp

variable (hr : r.progress ≠ .completed)

include hr

/-- As long as the call does not complete, the completed handlers stay the same. -/
theorem completed_set_of_ne {p : Progress} (hp : p ≠ .completed) :
    completed { t with runs := t.runs.set k ⟨r.handler, p⟩ } = t.completed := by
  obtain ⟨before, after, hruns, hset⟩ := runs_split h
  simp only [completed, hset]
  rw [hruns]
  simp [hr, hp]

theorem count_completed_set [DecidableEq H] (x : H) :
    (completed { t with runs := t.runs.set k ⟨r.handler, .completed⟩ }).count x =
      t.completed.count x + if r.handler = x then 1 else 0 := by
  obtain ⟨before, after, hruns, hset⟩ := runs_split h
  simp only [completed, hset]
  rw [hruns]
  simp [hr, List.count_cons]
  omega

/-- Among calls of different handlers, one that is under way belongs to no completed handler. -/
theorem count_completed_eq_zero [DecidableEq H] (hnodup : (t.runs.map (·.handler)).Nodup) :
    t.completed.count r.handler = 0 := by
  obtain ⟨before, after, hruns, -⟩ := runs_split h
  rw [hruns] at hnodup
  have hne := List.nodup_middle.1 (by simpa using hnodup)
  rw [List.nodup_cons] at hne
  rw [List.count_eq_zero]
  intro hmem
  simp only [completed, hruns, List.filter_append, List.filter_cons, hr, decide_false,
    List.map_append, List.mem_append, List.mem_map, List.mem_filter] at hmem
  refine hne.1 ?_
  rw [List.mem_append]
  rcases hmem with ⟨q, hq, heq⟩ | ⟨q, hq, heq⟩
  · exact .inl (List.mem_map.2 ⟨q, hq.1, heq⟩)
  · exact .inr (List.mem_map.2 ⟨q, (List.mem_filter.1 hq).1, heq⟩)

omit hr

omit h

theorem completed_begun (t : DispatchTask H) (maxRetries : ℕ) (hs : List H) (p : Phase) :
    completed { t with phase := p, runs := hs.map (beginRun maxRetries) } = [] := by
  simp only [completed, List.map_eq_nil_iff, List.filter_eq_nil_iff, List.mem_map]
  by_cases hm : maxRetries = 0 <;> simp [beginRun, hm]

theorem handlers_begun (maxRetries : ℕ) (hs : List H) :
    (hs.map (beginRun maxRetries)).map (·.handler) = hs := by
  simp [beginRun, Function.comp_def]

end DispatchTask

/-! ### Orderly runs -/

namespace Bus

/-- Every other task of the id has not asked the cache yet, or has ended and none of its handlers
completed. -/
def Untouched (s : Bus H) (i : ℕ) (e : String) : Prop :=
  ∀ j ≤ s.sequence, j ≠ i → ∀ t ∈ s.tasks j, t.event.eventId = e →
    t.phase = .queued ∨ t.phase = .ended ∧ t.completed = []
  deriving Decidable

/-- The step does not make two tasks work on one id, or one task on what another one left half done,
and it calls no handler that is registered twice. -/
def Orderly (s : Bus H) : Act H → Prop
  | .check i => ∀ t ∈ s.tasks i, t.event.eventId ∉ s.processed → s.Untouched i t.event.eventId
  | .start i => ∀ t ∈ s.tasks i, (s.registry.getHandlers t.event.eventName).Nodup
  | _ => True

instance [DecidableEq H] (s : Bus H) (a : Act H) : Decidable (s.Orderly a) := by
  cases a <;> unfold Orderly <;> infer_instance

variable {s s' : Bus H} {i k : ℕ} {t t' : DispatchTask H}

theorem tasks_setTask_self (s : Bus H) (i : ℕ) (t : DispatchTask H) :
    (s.setTask i t).tasks i = some t := by
  simp [setTask]

theorem tasks_setTask_of_ne (s : Bus H) {i j : ℕ} (t : DispatchTask H) (h : j ≠ i) :
    (s.setTask i t).tasks j = s.tasks j := by
  simp [setTask, h]

theorem of_tasks_setTask {j : ℕ} {u : DispatchTask H} (h : (s.setTask i t').tasks j = some u) :
    j = i ∧ u = t' ∨ j ≠ i ∧ s.tasks j = some u := by
  by_cases hj : j = i
  · subst hj
    rw [tasks_setTask_self] at h
    exact .inl ⟨rfl, (Option.some.inj h).symm⟩
  · exact .inr ⟨hj, (tasks_setTask_of_ne s t' hj).symm.trans h⟩

/-- What holds of every task still does after one was replaced, if it holds of the new one. -/
theorem forall_setTask {P : DispatchTask H → Prop} {j : ℕ} {u : DispatchTask H}
    (hu : (s.setTask i t').tasks j = some u) (h : ∀ {j u}, s.tasks j = some u → P u)
    (hnew : P t') : P u := by
  rcases of_tasks_setTask hu with ⟨-, rfl⟩ | ⟨-, hu⟩
  · exact hnew
  · exact h hu

variable [DecidableEq H]

/-- What holds in orderly runs. -/
structure Sound (s : Bus H) : Prop where
  fresh : ∀ i, s.sequence < i → s.tasks i = none
  /-- A task has called nobody before it runs. -/
  idle : ∀ {i t}, s.tasks i = some t → t.phase = .queued ∨ t.phase = .checked → t.runs = []
  distinct : ∀ {i t}, s.tasks i = some t → (t.runs.map (·.handler)).Nodup
  /-- One task at a time is at work on an id. -/
  sole : ∀ {i j t u}, s.tasks i = some t → s.tasks j = some u → t.Active → u.Active →
    t.event.eventId = u.event.eventId → t.event.eventId ≠ "" → i = j
  /-- What was completed for an id that is worked on was completed by the task at work. -/
  counted : ∀ {i t}, s.tasks i = some t → t.Active → t.event.eventId ≠ "" →
    ∀ h, s.completions.count (t.event.eventId, h) = t.completed.count h
  recorded : ∀ {e h}, (e, h) ∈ s.completions →
    ∃ i t, s.tasks i = some t ∧ t.event.eventId = e ∧ t.completed ≠ []
  once : ∀ e h, e ≠ "" → s.completions.count (e, h) ≤ 1

/-- A bus with whatever handlers and whatever processed ids, before the first event. -/
theorem sound_init (r : Registry H) (ids : List String) :
    Sound { registry := r, processed := ids } where
  fresh _ _ := rfl
  idle h := by cases h
  distinct h := by cases h
  sole h := by cases h
  counted h := by cases h
  recorded h := by cases h
  once _ _ _ := by simp

variable (hs : s.Sound)

include hs

theorem Sound.congr (htasks : s'.tasks = s.tasks) (hseq : s'.sequence = s.sequence)
    (hlog : s'.completions = s.completions) : s'.Sound where
  fresh := by rw [htasks, hseq]; exact hs.fresh
  idle h := hs.idle (htasks ▸ h)
  distinct h := hs.distinct (htasks ▸ h)
  sole h h' := hs.sole (htasks ▸ h) (htasks ▸ h')
  counted h := by rw [hlog]; exact hs.counted (htasks ▸ h)
  recorded h := by rw [htasks]; exact hs.recorded (hlog ▸ h)
  once := by rw [hlog]; exact hs.once

theorem Sound.le_sequence (ht : s.tasks i = some t) : i ≤ s.sequence := by
  by_contra hlt
  simp [hs.fresh i (by omega)] at ht

theorem Sound.tasks_setTask_fresh (ht : s.tasks i = some t) {j : ℕ} (hj : s.sequence < j) :
    (s.setTask i t').tasks j = none := by
  have hne : j ≠ i := by
    rintro rfl
    simp [hs.fresh j hj] at ht
  rw [tasks_setTask_of_ne s t' hne]
  exact hs.fresh j hj

/-- One task at a time is at work on an id if no other one works on that of the new one. -/
theorem Sound.sole_setTask {j k : ℕ} {u v : DispatchTask H}
    (hnew : ∀ {j u}, j ≠ i → s.tasks j = some u → t'.Active → u.Active →
      t'.event.eventId = u.event.eventId → t'.event.eventId ≠ "" → False)
    (hu : (s.setTask i t').tasks j = some u) (hv : (s.setTask i t').tasks k = some v)
    (hua : u.Active) (hva : v.Active) (heq : u.event.eventId = v.event.eventId)
    (hne : u.event.eventId ≠ "") : j = k := by
  rcases of_tasks_setTask hu with ⟨hj, rfl⟩ | ⟨hj, hu'⟩ <;>
    rcases of_tasks_setTask hv with ⟨hk, rfl⟩ | ⟨hk, hv'⟩
  · rw [hj, hk]
  · exact (hnew hk hv' hua hva heq hne).elim
  · exact (hnew hj hu' hva hua heq.symm (heq ▸ hne)).elim
  · exact hs.sole hu' hv' hua hva heq hne

/-- **A task goes on** without completing a handler and without starting to work on its id. -/
theorem Sound.advance (ht : s.tasks i = some t) (hevent : t'.event = t.event)
    (hcompleted : t'.completed = t.completed) (hdistinct : (t'.runs.map (·.handler)).Nodup)
    (hidle : t'.phase = .queued ∨ t'.phase = .checked → t'.runs = [])
    (hactive : t'.Active → t.Active) : (s.setTask i t').Sound where
  fresh _ hj := hs.tasks_setTask_fresh ht hj
  idle hu := forall_setTask hu hs.idle hidle
  distinct hu := forall_setTask hu hs.distinct hdistinct
  sole := hs.sole_setTask fun hj hu ha hua heq hne => by
    -- the changed task was already at work under the same id
    rw [hevent] at heq hne
    exact hj (hs.sole ht hu (hactive ha) hua heq hne).symm
  counted hu hua hne h := by
    rcases of_tasks_setTask hu with ⟨rfl, rfl⟩ | ⟨-, hu⟩
    · rw [hcompleted, hevent]
      exact hs.counted ht (hactive hua) (hevent ▸ hne) h
    · exact hs.counted hu hua hne h
  recorded hmem := by
    obtain ⟨j, u, hu, he, hc⟩ := hs.recorded hmem
    by_cases hj : j = i
    · subst hj
      cases ht.symm.trans hu
      exact ⟨j, t', tasks_setTask_self s j t', hevent ▸ he, hcompleted ▸ hc⟩
    · exact ⟨j, u, (tasks_setTask_of_ne s t' hj).trans hu, he, hc⟩
  once := hs.once

theorem Sound.publish (e : Event) : (s.publish e).Sound where
  fresh j hj := by
    have hlt : s.sequence + 1 < j := hj
    refine (tasks_setTask_of_ne s _ (Nat.ne_of_gt hlt)).trans ?_
    exact hs.fresh j (by omega)
  idle hu := forall_setTask hu hs.idle fun _ => rfl
  distinct hu := forall_setTask hu hs.distinct List.nodup_nil
  sole := hs.sole_setTask fun _ _ ha => by simp [DispatchTask.Active] at ha
  counted hu hua hne h := by
    rcases of_tasks_setTask hu with ⟨-, rfl⟩ | ⟨-, hu⟩
    · simp [DispatchTask.Active] at hua
    · exact hs.counted hu hua hne h
  recorded hmem := by
    obtain ⟨j, u, hu, he, hc⟩ := hs.recorded hmem
    have hj : j ≠ s.sequence + 1 := by
      rintro rfl
      simp [hs.fresh _ (Nat.lt_succ_self _)] at hu
    exact ⟨j, u, (tasks_setTask_of_ne s _ hj).trans hu, he, hc⟩
  once := hs.once

theorem Sound.completed_nil (ht : s.tasks i = some t)
    (hphase : t.phase = .queued ∨ t.phase = .checked) : t.completed = [] := by
  simp [DispatchTask.completed, hs.idle ht hphase]

theorem Sound.count_eq_zero (ht : s.tasks i = some t) (hphase : t.phase = .queued)
    (hun : s.Untouched i t.event.eventId) (h : H) :
    s.completions.count (t.event.eventId, h) = 0 := by
  rw [List.count_eq_zero]
  intro hmem
  obtain ⟨j, u, hu, he, hc⟩ := hs.recorded hmem
  refine hc ?_
  by_cases hj : j = i
  · subst hj
    cases ht.symm.trans hu
    exact hs.completed_nil ht (.inl hphase)
  · rcases hun j (hs.le_sequence hu) hj u hu he with hq | ⟨-, hnil⟩
    · exact hs.completed_nil hu (.inl hq)
    · exact hnil

/-- **A task starts to work on an id** that no other task has touched. -/
theorem Sound.begin (ht : s.tasks i = some t) (hphase : t.phase = .queued)
    (hun : t.event.eventId ≠ "" → s.Untouched i t.event.eventId) :
    (s.setTask i { t with phase := .checked }).Sound where
  fresh _ hj := hs.tasks_setTask_fresh ht hj
  idle hu := forall_setTask hu hs.idle fun _ => (hs.idle ht (.inl hphase) :)
  distinct hu := forall_setTask hu hs.distinct (hs.distinct ht :)
  sole := hs.sole_setTask fun hj hu _ hua heq hne => by
    rcases hun hne _ (hs.le_sequence hu) hj _ hu heq.symm with hq | ⟨he, -⟩
    · simp [DispatchTask.Active, hq] at hua
    · simp [DispatchTask.Active, he] at hua
  counted hu hua hne h := by
    rcases of_tasks_setTask hu with ⟨-, rfl⟩ | ⟨-, hu⟩
    · have hnil : t.completed = [] := hs.completed_nil ht (.inl hphase)
      change _ = t.completed.count h
      rw [hnil, List.count_nil]
      exact hs.count_eq_zero ht hphase (hun hne) h
    · exact hs.counted hu hua hne h
  recorded hmem := by
    obtain ⟨j, u, hu, he, hc⟩ := hs.recorded hmem
    have hj : j ≠ i := by
      rintro rfl
      cases ht.symm.trans hu
      exact hc (hs.completed_nil ht (.inl hphase))
    exact ⟨j, u, (tasks_setTask_of_ne s _ hj).trans hu, he, hc⟩
  once := hs.once

omit hs

variable {r : HandlerRun H}

/-- **A handler completes** in a task that is at work. -/
theorem Sound.complete (hs : s.Sound) (ht : s.tasks i = some t) (hphase : t.phase = .running)
    (hr : t.runs[k]? = some r) (hopen : r.progress ≠ .completed) :
    Sound { s.setRun i k t r.handler .completed with
      completions := (t.event.eventId, r.handler) :: s.completions } where
  fresh _ hj := hs.tasks_setTask_fresh ht hj
  idle hu := forall_setTask hu hs.idle (by simp [hphase])
  distinct hu := forall_setTask hu hs.distinct
    ((DispatchTask.handlers_set hr _).symm ▸ hs.distinct ht)
  sole := hs.sole_setTask fun hj hu _ hua heq hne =>
    hj (hs.sole ht hu (.inr (.inl hphase)) hua heq hne).symm
  counted hu hua hne h := by
    have hta : t.Active := .inr (.inl hphase)
    rcases of_tasks_setTask hu with ⟨-, rfl⟩ | ⟨hj, hu⟩
    · have hold := hs.counted ht hta hne h
      rw [DispatchTask.count_completed_set hr hopen, List.count_cons, hold]
      by_cases hx : r.handler = h <;> simp [hx]
    · -- another task that is at work works on another id
      have hother : t.event.eventId ≠ _ := fun heq => hj (hs.sole hu ht hua hta heq.symm hne)
      rw [List.count_cons, hs.counted hu hua hne h]
      simp [hother]
  recorded hmem := by
    -- a handler that had completed in a task still has
    have hkept : ∀ x, 0 < t.completed.count x + (if r.handler = x then 1 else 0) →
        DispatchTask.completed { t with runs := t.runs.set k ⟨r.handler, .completed⟩ } ≠ [] := by
      intro x hpos hnil
      rw [← DispatchTask.count_completed_set hr hopen, hnil, List.count_nil] at hpos
      exact Nat.lt_irrefl 0 hpos
    rcases List.mem_cons.1 hmem with heq | hold
    · cases heq
      exact ⟨i, _, tasks_setTask_self s i _, rfl, hkept r.handler (by simp)⟩
    · obtain ⟨j, u, hu, he, hc⟩ := hs.recorded hold
      by_cases hj : j = i
      · subst hj
        cases ht.symm.trans hu
        obtain ⟨x, hx⟩ := List.exists_mem_of_ne_nil _ hc
        have hpos := List.count_pos_iff.2 hx
        exact ⟨j, _, tasks_setTask_self s j _, he, hkept x (by omega)⟩
      · exact ⟨j, u, (tasks_setTask_of_ne s _ hj).trans hu, he, hc⟩
  once e h hne := by
    by_cases heq : (t.event.eventId, r.handler) = (e, h)
    · cases heq
      -- the handler is called once in the task, and the call had not completed
      have hzero := hs.counted ht (.inr (.inl hphase)) hne r.handler
      rw [DispatchTask.count_completed_eq_zero hr hopen (hs.distinct ht)] at hzero
      simp [hzero]
    · have hold := hs.once e h hne
      simpa [heq] using hold

theorem Sound.setRun (hs : s.Sound) (ht : s.tasks i = some t) (hphase : t.phase = .running)
    (hr : t.runs[k]? = some r) (hopen : r.progress ≠ .completed) {p : Progress}
    (hp : p ≠ .completed) : (s.setRun i k t r.handler p).Sound := by
  refine hs.advance ht rfl (DispatchTask.completed_set_of_ne hr hopen hp) ?_ ?_ id
  · exact (DispatchTask.handlers_set hr p).symm ▸ hs.distinct ht
  · simp [hphase]

theorem Sound.end (hs : s.Sound) (ht : s.tasks i = some t) :
    (s.setTask i { t with phase := .ended }).Sound := by
  have hdistinct := hs.distinct ht
  exact hs.advance ht rfl rfl hdistinct (by simp) (by simp [DispatchTask.Active])

/-! ### The result -/

theorem Sound.step {maxRetries : ℕ} {a : Act H} (hs : s.Sound) (hord : s.Orderly a)
    (h : step maxRetries s a = some s') : s'.Sound := by
  cases a with
  | subscribe | unsubscribe | registerForAll =>
    cases h
    exact hs.congr rfl rfl rfl
  | publish e => cases h; exact hs.publish e
  | check i =>
    simp only [EventBus.step, bind_eq_bind, bind_eq_some_iff, guard_eq_some'] at h
    obtain ⟨t, ht, -, hphase, h⟩ := h
    split at h
    · cases h
      exact hs.end ht
    · next hnew =>
      cases h
      refine hs.begin ht hphase ?_
      intro hne
      exact hord t ht fun hmem => hnew ⟨hne, hmem⟩
  | start i =>
    obtain ⟨t, ht, hphase, h⟩ := Relational.bind_guard_eq_some.1 h
    cases h
    refine hs.advance ht rfl ?_ ?_ (by simp) (fun _ => .inl hphase)
    · rw [DispatchTask.completed_begun, hs.completed_nil ht (.inr hphase)]
    · rw [DispatchTask.handlers_begun]
      exact hord t ht
  | attempt i k result dlqId =>
    simp only [EventBus.step, bind_eq_bind, bind_eq_some_iff, guard_eq_some'] at h
    obtain ⟨t, ht, -, hphase, r, hr, h⟩ := h
    split at h
    · next n hn =>
      have hopen : r.progress ≠ .completed := by simp [hn]
      cases h
      cases result with
      | succeeded => exact hs.complete ht hphase hr hopen
      | cancelled => exact hs.setRun ht hphase hr hopen (by simp)
      | failed =>
        simp only [attempt]
        split
        · exact (hs.setRun ht hphase hr hopen (by simp)).publish _
        · exact hs.setRun ht hphase hr hopen (by simp)
    · cases h
  | gather i =>
    obtain ⟨t, ht, ⟨hphase, -⟩, h⟩ := Relational.bind_guard_eq_some.1 h
    cases h
    unfold afterGather
    split
    · exact hs.end ht
    · split
      · have hdistinct := hs.distinct ht
        exact hs.advance ht rfl rfl hdistinct (by simp) (fun _ => .inr (.inl hphase))
      · exact hs.end ht
  | mark i =>
    obtain ⟨t, ht, -, h⟩ := Relational.bind_guard_eq_some.1 h
    cases h
    exact (hs.end ht).congr rfl rfl rfl
  | cancel i =>
    obtain ⟨t, ht, -, h⟩ := Relational.bind_guard_eq_some.1 h
    cases h
    exact hs.end ht

end Bus

/-- **In orderly runs every handler completes at most once for an event id**, however often events
with it are published, however their tasks interleave and whatever handlers and attempts fail. -/
theorem handler_completes_once [DecidableEq H] {maxRetries : ℕ} {r : Registry H} {ids : List String}
    {acts : List (Act H)} {s : Bus H}
    (h : Relational.Run (Relational.TakesWhen Bus.Orderly (step maxRetries))
      { registry := r, processed := ids } acts s)
    (e : String) (he : e ≠ "") (x : H) : s.completions.count (e, x) ≤ 1 := by
  have hs : s.Sound := by
    refine h.invariant ?_ (Bus.sound_init r ids)
    rintro a s₁ s₂ hs₁ ⟨hord, hstep⟩
    exact hs₁.step hord hstep
  exact hs.once e x he

/-- Two handlers of one event, and two publications of it, one after the other. -/
def sampleOrderlyActs : List (Act ℕ) :=
  [.subscribe "turn.done" 0, .subscribe "turn.done" 1,
    .publish ⟨"evt", "turn.done"⟩, .publish ⟨"evt", "turn.done"⟩,
    .check 1, .start 1, .attempt 1 0 .succeeded "", .attempt 1 1 .failed "",
    .attempt 1 1 .succeeded "", .gather 1, .mark 1, .check 2]

theorem handler_completes_once_sampleOrderlyActs :
    ∃ s, Relational.exec (step 3) {} sampleOrderlyActs = some s ∧
      s.completions = [("evt", 1), ("evt", 0)] ∧ s.completions.count ("evt", 0) ≤ 1 := by
  have hmeet : Relational.AllMeet Bus.Orderly (step 3) {} sampleOrderlyActs := by decide +kernel
  have hlog : (Relational.exec (step 3) {} sampleOrderlyActs).map (·.completions) =
      some [("evt", 1), ("evt", 0)] := by decide +kernel
  obtain ⟨s, hs, hcompl⟩ := map_eq_some_iff.1 hlog
  exact ⟨s, hs, hcompl,
    handler_completes_once (Relational.run_execWhen hs hmeet) "evt" (by decide) 0⟩

/-- A handler completes, the other one raises, and the event is published again. -/
def sampleHalfDoneActs : List (Act ℕ) :=
  [.subscribe "turn.done" 0, .subscribe "turn.done" 1,
    .publish ⟨"evt", "turn.done"⟩, .check 1, .start 1, .attempt 1 0 .succeeded "",
    .attempt 1 1 .failed "dead", .gather 1,
    .publish ⟨"evt", "turn.done"⟩, .check 3, .start 3, .attempt 3 0 .succeeded ""]

/-- The event is published twice, and both tasks ask the cache before one of them marks the id. -/
def sampleOverlappingActs : List (Act ℕ) :=
  [.subscribe "turn.done" 0,
    .publish ⟨"evt", "turn.done"⟩, .publish ⟨"evt", "turn.done"⟩, .check 1, .check 2,
    .start 1, .attempt 1 0 .succeeded "", .gather 1, .mark 1,
    .start 2, .attempt 2 0 .succeeded ""]

/-- **Without order a handler may complete twice**: after a task that was left half done, and in two
tasks that overlap. -/
theorem handler_completes_twice :
    (Relational.exec (step 1) {} sampleHalfDoneActs).map (·.completions.count ("evt", 0)) =
        some 2 ∧
      (Relational.exec (step 1) {} sampleOverlappingActs).map (·.completions.count ("evt", 0)) =
        some 2 := by
  decide +kernel

end AssistantRuntime.EventBus

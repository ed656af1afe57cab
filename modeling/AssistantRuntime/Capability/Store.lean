/-
**The durable store of invocations.**

`SqlCapabilityInvocationStore` keeps the invocation rows and their attempt rows.  Every call is one
transaction.  The invocation row is guarded by its revision; an attempt row is written by its id,
without a guard of its own.  Next to them stand the tool calls and the tool results of agents, which
name invocations.

Main results: for each call, when it takes effect and what it leaves as it was.
-/

import AssistantRuntime.Capability.Contracts
import AssistantRuntime.Relational.Table

namespace AssistantRuntime.Capability

open Relational Table List

/-! ### Tables -/

structure ToolCall where
  executionId : String
  iterationId : String
  toolCallId : String
  invocationId : String
  capabilityId : String
  arguments : JsonObject
  deriving DecidableEq

def ToolCall.key (c : ToolCall) : String × String := (c.executionId, c.toolCallId)

inductive CommitState
  | provisional
  | committed
  deriving DecidableEq

/-- A tool result: `ω` is what its output is, `τ` what the texts of its error are. -/
structure ToolResultOf (ω τ : Type) where
  executionId : String
  iterationId : String
  toolCallId : String
  invocationId : String
  capabilityId : String
  success : Bool
  output : ω
  errorCode : τ
  errorMessage : τ
  retryable : Bool
  extraMetadata : JsonObject
  attempt : ℕ
  commitState : CommitState
  deriving DecidableEq

/-- A result as it is stored: `error_code` and `error_message` are text columns. -/
abbrev ToolResult := ToolResultOf Json (Option String)

/-- The values of a result that is to be stored. -/
abbrev ToolResultValues := ToolResultOf Json Json

def ToolResultOf.key {ω τ : Type} (r : ToolResultOf ω τ) : String × String :=
  (r.executionId, r.toolCallId)

abbrev ToolResults := Table (ToolResultOf.key : ToolResult → String × String)

structure Ledger where
  invocations : Table Invocation.invocationId := ∅
  attempts : Table Attempt.attemptId := ∅
  toolCalls : Table ToolCall.key := ∅
  toolResults : ToolResults := ∅

namespace Ledger

def attemptsOf (l : Ledger) (invocationId : String) : List Attempt :=
  l.attempts.rows.filter (·.invocationId = invocationId)

/-- `list_agent_tool_call_bindings`. -/
def bindings (l : Ledger) (invocationId : String) : List ToolCall :=
  l.toolCalls.rows.filter (·.invocationId = invocationId)

/-! ### Calls -/

def ToolCall.owns (c : ToolCall) (v : Invocation) : Bool :=
  v.executionId = some c.executionId && v.toolCallId = some c.toolCallId &&
    v.capabilityId = c.capabilityId

def create (l : Ledger) (v : Invocation) : Except Raised Ledger :=
  if (l.invocations.find? v.invocationId).isSome then
    .error (.serializationConflict "CapabilityInvocation id is already durably owned.")
  else if 1 < (l.bindings v.invocationId).length then
    .error (.serializationConflict
      "CapabilityInvocation id has ambiguous AgentToolCall ownership.")
  else if !(l.bindings v.invocationId).all (ToolCall.owns · v) then
    .error (.serializationConflict
      "CapabilityInvocation id conflicts with durable AgentToolCall ownership.")
  else match l.invocations.insert? v with
    | none => .error .integrityError
    | some invocations => .ok { l with invocations }

/-- The row that a guarded update may overwrite. -/
def guarded? (l : Ledger) (v : Invocation) (expectedRevision : ℕ) (p : Invocation → Bool) :
    Option Invocation :=
  (l.invocations.find? v.invocationId).filter fun existing =>
    existing.revision = expectedRevision && p existing && existing.target = v.target

def compareAndSet (l : Ledger) (v : Invocation) (expectedRevision : ℕ) : Bool × Ledger :=
  match l.guarded? v expectedRevision fun _ => true with
  | none => (false, l)
  | some _ => (true, { l with invocations := l.invocations.put v })

/-- The insert of an attempt row; refused by the primary key or by the unique key on invocation and
number. -/
def insertAttempt? (l : Ledger) (a : Attempt) : Option Ledger :=
  if (l.attemptsOf a.invocationId).any (·.attemptNumber = a.attemptNumber) then none
  else (l.attempts.insert? a).map fun attempts => { l with attempts }

/-- `list_attempts`: ordered by number. -/
def listAttempts (l : Ledger) (invocationId : String) : List Attempt :=
  (l.attemptsOf invocationId).mergeSort fun a b => a.attemptNumber ≤ b.attemptNumber

/-- The move of the invocation and the insert of its next attempt, in one transaction. -/
def beginAttempt (l : Ledger) (v : Invocation) (expectedRevision : ℕ) (a : Attempt)
    (p : Invocation → Bool) (history : List Attempt → Bool) : Bool × Ledger :=
  match l.guarded? v expectedRevision p with
  | none => (false, l)
  | some _ =>
    if history (l.listAttempts v.invocationId) then
      match insertAttempt? { l with invocations := l.invocations.put v } a with
      | none => (false, l)
      | some l' => (true, l')
    else (false, l)

def beginInitialAttempt (l : Ledger) (v : Invocation) (expectedRevision : ℕ) (a : Attempt) :
    Bool × Ledger :=
  if v.state = .dispatching ∧ v.attempt = 1 ∧ a.invocationId = v.invocationId ∧
      a.attemptNumber = 1 ∧ a.state = .dispatching then
    l.beginAttempt v expectedRevision a
      (fun existing => existing.state = .created && existing.attempt = 0) (·.isEmpty)
  else (false, l)

/-- The attempts are numbered from one on, without a gap. -/
def numbered (n : ℕ) (attempts : List Attempt) : Bool :=
  attempts.map (·.attemptNumber) = List.range' 1 n

def beginContinuationAttempt (l : Ledger) (v : Invocation) (expectedRevision : ℕ)
    (a : Attempt) : Bool × Ledger :=
  if 1 ≤ a.attemptNumber ∧ v.attempt = a.attemptNumber ∧ v.state = .dispatching then
    l.beginAttempt v expectedRevision a
      (fun existing => existing.state = .waiting && existing.attempt = a.attemptNumber - 1)
      (fun prior => numbered (a.attemptNumber - 1) prior && prior.all (·.state.isTerminal))
  else (false, l)

def startable? (l : Ledger) (v : Invocation) (a : Attempt) : Option Attempt :=
  (l.attempts.find? a.attemptId).filter fun row =>
    row.invocationId = v.invocationId && row.attemptNumber = v.attempt && row.state = .dispatching

def startContinuationAttempt (l : Ledger) (v : Invocation) (expectedRevision : ℕ)
    (a : Attempt) : Bool × Ledger :=
  if v.state = .running ∧ a.state = .running ∧ a.invocationId = v.invocationId ∧
      a.attemptNumber = v.attempt then
    match l.guarded? v expectedRevision
        fun existing => existing.state = .dispatching && existing.attempt = v.attempt,
      l.startable? v a with
    | some _, some row => (true, { l with
        invocations := l.invocations.put v
        attempts := l.attempts.put { row with state := .running } })
    | _, _ => (false, l)
  else (false, l)

/-- `start_initial_attempt`: the same for attempt number one. -/
def startInitialAttempt (l : Ledger) (v : Invocation) (expectedRevision : ℕ) (a : Attempt) :
    Bool × Ledger :=
  if v.attempt = 1 then l.startContinuationAttempt v expectedRevision a else (false, l)

def saveAttempt (l : Ledger) (a : Attempt) : Except Raised Ledger :=
  match l.insertAttempt? a with
  | none => .error .integrityError
  | some l' => .ok l'

/-- `update_attempt`: by id, whatever the row holds. -/
def updateAttempt (l : Ledger) (a : Attempt) : Ledger :=
  { l with attempts := l.attempts.put a }

/-! ### When the calls take effect -/

variable {l l' : Ledger} {v existing : Invocation} {a row : Attempt} {e : ℕ} {id : String}

theorem guarded?_eq_some {p : Invocation → Bool} :
    l.guarded? v e p = some existing ↔
      l.invocations.find? v.invocationId = some existing ∧ existing.revision = e ∧
        p existing = true ∧ existing.target = v.target := by
  simp [guarded?, Option.filter_eq_some_iff, and_assoc]

theorem startable?_eq_some :
    l.startable? v a = some row ↔
      l.attempts.find? a.attemptId = some row ∧ row.invocationId = v.invocationId ∧
        row.attemptNumber = v.attempt ∧ row.state = .dispatching := by
  simp [startable?, Option.filter_eq_some_iff, and_assoc]

theorem create_ok (h : l.create v = .ok l') :
    l.invocations.find? v.invocationId = none ∧
      ∃ invocations, l.invocations.insert? v = some invocations ∧
        l' = { l with invocations } := by
  unfold create at h
  split_ifs at h with hnone hone howned
  cases hinsert : l.invocations.insert? v with
  | none => simp [hinsert] at h
  | some invocations =>
    simp only [hinsert, Except.ok.injEq] at h
    exact ⟨by simpa using hnone, invocations, rfl, h.symm⟩

theorem compareAndSet_cases (l : Ledger) (v : Invocation) (e : ℕ) :
    l.compareAndSet v e = (false, l) ∨
      ∃ existing, l.invocations.find? v.invocationId = some existing ∧ existing.revision = e ∧
        existing.target = v.target ∧
        l.compareAndSet v e = (true, { l with invocations := l.invocations.put v }) := by
  unfold compareAndSet
  cases hguard : l.guarded? v e fun _ => true with
  | none => exact .inl rfl
  | some existing =>
    obtain ⟨hfind, hrev, -, htarget⟩ := guarded?_eq_some.1 hguard
    exact .inr ⟨existing, hfind, hrev, htarget, rfl⟩

theorem insertAttempt?_some (h : l.insertAttempt? a = some l') :
    (∀ x ∈ l.attemptsOf a.invocationId, x.attemptNumber ≠ a.attemptNumber) ∧
      ∃ attempts, l.attempts.insert? a = some attempts ∧ l' = { l with attempts } := by
  unfold insertAttempt? at h
  split_ifs at h with htaken
  obtain ⟨attempts, hinsert, rfl⟩ := Option.map_eq_some_iff.1 h
  refine ⟨?_, attempts, hinsert, rfl⟩
  intro x hx heq
  exact htaken (any_eq_true.2 ⟨x, hx, by simpa using heq⟩)

theorem beginAttempt_cases (l : Ledger) (v : Invocation) (e : ℕ) (a : Attempt)
    (p : Invocation → Bool) (history : List Attempt → Bool) :
    l.beginAttempt v e a p history = (false, l) ∨
      ∃ existing l', l.invocations.find? v.invocationId = some existing ∧
        existing.revision = e ∧ p existing = true ∧ existing.target = v.target ∧
        history (l.listAttempts v.invocationId) = true ∧
        insertAttempt? { l with invocations := l.invocations.put v } a = some l' ∧
        l.beginAttempt v e a p history = (true, l') := by
  unfold beginAttempt
  cases hguard : l.guarded? v e p with
  | none => exact .inl rfl
  | some existing =>
    obtain ⟨hfind, hrev, hp, htarget⟩ := guarded?_eq_some.1 hguard
    by_cases hhistory : history (l.listAttempts v.invocationId) = true
    · cases hinsert : insertAttempt? { l with invocations := l.invocations.put v } a with
      | none => exact .inl (by simp [hhistory])
      | some l' =>
        exact .inr ⟨existing, l', hfind, hrev, hp, htarget, hhistory, rfl, by simp [hhistory]⟩
    · exact .inl (by simp [hhistory])

theorem startContinuationAttempt_cases (l : Ledger) (v : Invocation) (e : ℕ) (a : Attempt) :
    l.startContinuationAttempt v e a = (false, l) ∨
      ∃ existing row, l.invocations.find? v.invocationId = some existing ∧
        existing.revision = e ∧ existing.state = .dispatching ∧ existing.attempt = v.attempt ∧
        existing.target = v.target ∧ v.state = .running ∧ a.invocationId = v.invocationId ∧
        a.attemptNumber = v.attempt ∧ l.attempts.find? a.attemptId = some row ∧
        row.invocationId = v.invocationId ∧ row.attemptNumber = v.attempt ∧
        row.state = .dispatching ∧
        l.startContinuationAttempt v e a = (true, { l with
          invocations := l.invocations.put v
          attempts := l.attempts.put { row with state := .running } }) := by
  unfold startContinuationAttempt
  by_cases hshape : v.state = .running ∧ a.state = .running ∧ a.invocationId = v.invocationId ∧
      a.attemptNumber = v.attempt
  · rw [if_pos hshape]
    cases hguard : l.guarded? v e
        fun existing => existing.state = .dispatching && existing.attempt = v.attempt with
    | none => exact .inl rfl
    | some existing =>
      cases hrow : l.startable? v a with
      | none => exact .inl rfl
      | some row =>
        obtain ⟨hfind, hrev, hp, htarget⟩ := guarded?_eq_some.1 hguard
        simp only [Bool.and_eq_true, decide_eq_true_eq] at hp
        obtain ⟨hrfind, hrinv, hrnum, hrstate⟩ := startable?_eq_some.1 hrow
        exact .inr ⟨existing, row, hfind, hrev, hp.1, hp.2, htarget, hshape.1, hshape.2.2.1,
          hshape.2.2.2, hrfind, hrinv, hrnum, hrstate, rfl⟩
  · exact .inl (if_neg hshape)

/-! ### The attempts of one invocation -/

theorem mem_attemptsOf : a ∈ l.attemptsOf id ↔ a ∈ l.attempts ∧ a.invocationId = id := by
  simp [attemptsOf, mem_def]

theorem attemptsOf_insert {attempts : Table Attempt.attemptId}
    (h : l.attempts.insert? a = some attempts) (id : String) :
    attemptsOf { l with attempts } id =
      if a.invocationId = id then l.attemptsOf id ++ [a] else l.attemptsOf id := by
  simp only [attemptsOf, rows_insert? h, filter_append]
  split <;> simp_all

theorem attemptsOf_put_of_ne (hrow : row ∈ l.attempts) (hkey : row.attemptId = a.attemptId)
    (hsame : row.invocationId = a.invocationId) (hne : a.invocationId ≠ id) :
    attemptsOf { l with attempts := l.attempts.put a } id = l.attemptsOf id := by
  obtain ⟨l1, l2, hl, hl'⟩ := rows_put hrow hkey
  simp [attemptsOf, hl, hl', hne, hsame]

theorem attemptsOf_put_last {prior : List Attempt} (h : l.attemptsOf id = prior ++ [row])
    (hid : a.invocationId = id) (hkey : row.attemptId = a.attemptId) :
    attemptsOf { l with attempts := l.attempts.put a } id = prior ++ [a] := by
  subst hid
  have hrow : row ∈ l.attempts ∧ row.invocationId = a.invocationId :=
    mem_attemptsOf.1 (h ▸ mem_append_right _ (mem_singleton_self _))
  obtain ⟨l1, l2, hl, hl'⟩ := rows_put hrow.1 hkey
  simp only [attemptsOf, hl, hl', filter_append, filter_cons, hrow.2, decide_true,
    if_true] at h ⊢
  -- the rows after it are of other invocations, for otherwise they would come after the last one
  have hlast : l2.filter (·.invocationId = a.invocationId) = [] := by
    rcases eq_nil_or_concat (l2.filter (·.invocationId = a.invocationId)) with
      hnil | ⟨rest, z, hz⟩
    · exact hnil
    · exfalso
      rw [hz, concat_eq_append, ← cons_append, ← append_assoc] at h
      have hzrow : z = row := by simpa using append_inj_right' h rfl
      have hmem : row ∈ l2 := by
        have hin : z ∈ l2.filter (·.invocationId = a.invocationId) := by simp [hz]
        exact hzrow ▸ (mem_filter.1 hin).1
      have hnodup := l.attempts.nodup
      rw [hl, map_append, map_cons, nodup_append, nodup_cons] at hnodup
      exact hnodup.2.1.1 (mem_map_of_mem hmem)
  rw [hlast] at h ⊢
  rw [(append_inj_left' h rfl : _ = prior)]

theorem attemptsOf_eq_nil (h : l.listAttempts id = []) : l.attemptsOf id = [] := by
  have hlength := congrArg List.length h
  rw [listAttempts, length_mergeSort] at hlength
  exact eq_nil_of_length_eq_zero hlength

/-- Attempts that were inserted in the order of their numbers are listed as they stand. -/
theorem listAttempts_of_numbered {n : ℕ} (h : numbered n (l.attemptsOf id) = true) :
    l.listAttempts id = l.attemptsOf id := by
  refine mergeSort_of_pairwise ?_
  have hsorted : (List.range' 1 n).Pairwise (· < ·) := pairwise_lt_range' 
  rw [← of_decide_eq_true h, pairwise_map] at hsorted
  exact hsorted.imp fun hlt => by simpa using hlt.le

end Ledger

end AssistantRuntime.Capability

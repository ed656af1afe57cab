/-
**Tool calls from a stream of deltas** (`core/content_processor.py`).

A delta says by its index which call it belongs to and carries a piece of its name and of its
arguments.  What comes of a call depends on its own deltas only.
-/

import Mathlib

namespace AssistantRuntime.Client

open List

structure FunctionDelta where
  name : Option String
  arguments : Option String

structure ToolCallDelta where
  index : Option ℕ
  id : Option String
  function : Option FunctionDelta

/-- `getattr(delta, "index", 0) or 0`. -/
def ToolCallDelta.slot (delta : ToolCallDelta) : ℕ := delta.index.getD 0

/-- A piece that is absent or empty adds nothing. -/
def ToolCallDelta.namePiece (delta : ToolCallDelta) : String :=
  (delta.function.bind (·.name)).getD ""

def ToolCallDelta.argumentPiece (delta : ToolCallDelta) : String :=
  (delta.function.bind (·.arguments)).getD ""

/-- An accumulated call; a new one is empty. -/
@[ext]
structure ToolCall where
  id : String := ""
  type : String := "function"
  name : String := ""
  arguments : String := ""

def ToolCall.merge (target : ToolCall) (delta : ToolCallDelta) : ToolCall :=
  { target with
    id := if delta.id.getD "" ≠ "" ∧ target.id = "" then delta.id.getD "" else target.id
    name := target.name ++ delta.namePiece
    arguments := target.arguments ++ delta.argumentPiece }

/-- One round of the loop: the list is filled up to the index. -/
def mergeOne (acc : List ToolCall) (delta : ToolCallDelta) : List ToolCall :=
  (acc ++ replicate (delta.slot + 1 - acc.length) ({} : ToolCall)).modify delta.slot (·.merge delta)

def mergeToolCallDelta (acc : List ToolCall) (deltas : List ToolCallDelta) : List ToolCall :=
  deltas.foldl mergeOne acc

/-- The deltas, in their order, carry the name and the arguments of the call in pieces, and its id at
least once. -/
def Splits (call : ToolCall) (deltas : List ToolCallDelta) : Prop :=
  call.type = "function" ∧ (∀ d ∈ deltas, ∀ id ∈ d.id, id = "" ∨ id = call.id) ∧
    (∃ d ∈ deltas, d.id = some call.id) ∧
    String.join (deltas.map (·.namePiece)) = call.name ∧
    String.join (deltas.map (·.argumentPiece)) = call.arguments
  deriving Decidable

variable {acc : List ToolCall} {deltas : List ToolCallDelta} {i : ℕ}

theorem getD_mergeOne (delta : ToolCallDelta) :
    (mergeOne acc delta).getD i {} =
      if delta.slot = i then (acc.getD i {}).merge delta else acc.getD i {} := by
  unfold mergeOne
  generalize hl : acc ++ replicate (delta.slot + 1 - acc.length) ({} : ToolCall) = l
  have hpad : l.getD i {} = acc.getD i {} := by
    rw [← hl]
    rcases lt_or_ge i acc.length with hi | hi
    · simp [getElem?_append_left hi, hi]
    · simp [getElem?_append_right hi, getElem?_replicate, getElem?_eq_none hi]
      split_ifs <;> rfl
  have hlong : delta.slot < l.length := by
    rw [← hl, length_append, length_replicate]
    omega
  rw [← hpad]
  split_ifs with hslot
  · subst hslot
    simp [hlong]
  · simp [hslot]

/-- **The entry of an index is put together from its own deltas.** -/
theorem getD_merge : (mergeToolCallDelta acc deltas).getD i {} =
    (deltas.filter (·.slot = i)).foldl ToolCall.merge (acc.getD i {}) := by
  induction deltas generalizing acc with
  | nil => rfl
  | cons delta deltas ih =>
    rw [mergeToolCallDelta, foldl_cons, ← mergeToolCallDelta, ih, getD_mergeOne]
    by_cases hslot : delta.slot = i <;> simp [hslot]

theorem lt_length_merge :
    i < (mergeToolCallDelta acc deltas).length ↔ i < acc.length ∨ ∃ d ∈ deltas, i ≤ d.slot := by
  induction deltas generalizing acc with
  | nil => simp [mergeToolCallDelta]
  | cons delta deltas ih =>
    have hone : i < (mergeOne acc delta).length ↔ i < acc.length ∨ i ≤ delta.slot := by
      simp only [mergeOne, length_modify, length_append, length_replicate]
      omega
    rw [mergeToolCallDelta, foldl_cons, ← mergeToolCallDelta, ih, hone]
    simp [or_assoc]

/-- The id of a call, once it has come. -/
theorem id_merge {c : String} {t : ToolCall} (hids : ∀ d ∈ deltas, ∀ id ∈ d.id, id = "" ∨ id = c)
    (ht : t.id = c ∨ t.id = "" ∧ ∃ d ∈ deltas, d.id = some c) :
    (deltas.foldl ToolCall.merge t).id = c := by
  induction deltas generalizing t with
  | nil => simpa using ht
  | cons d deltas ih =>
    obtain ⟨hd, hids⟩ := forall_mem_cons.1 hids
    refine ih hids ?_
    rcases hid : d.id with _ | id
    · simpa [ToolCall.merge, hid] using ht
    · by_cases hempty : t.id = "" <;> rcases hd id hid with rfl | rfl <;>
        simp_all [ToolCall.merge, eq_comm (a := "")]

theorem Splits.merge {call : ToolCall} (h : Splits call deltas) :
    deltas.foldl ToolCall.merge {} = call := by
  obtain ⟨htype, hids, hid, hname, harguments⟩ := h
  have hrest (t : ToolCall) : (deltas.foldl ToolCall.merge t).type = t.type ∧
      (deltas.foldl ToolCall.merge t).name = t.name ++ String.join (deltas.map (·.namePiece)) ∧
      (deltas.foldl ToolCall.merge t).arguments =
        t.arguments ++ String.join (deltas.map (·.argumentPiece)) := by
    clear * -
    induction deltas generalizing t with
    | nil => simp
    | cons d deltas ih => simp [ih, ToolCall.merge, String.append_assoc]
  obtain ⟨htype', hname', harguments'⟩ := hrest {}
  refine ToolCall.ext (id_merge hids (.inr ⟨rfl, hid⟩)) (htype'.trans htype.symm) ?_ ?_
  · simpa [hname] using hname'
  · simpa [harguments] using harguments'

/-- **However the calls are cut into deltas, interleaved and batched, merging gives them back.** -/
theorem merge_batches {calls : List ToolCall} {batches : List (List ToolCallDelta)}
    (hslots : ∀ d ∈ batches.flatten, d.slot < calls.length)
    (hsplits : ∀ i (h : i < calls.length), Splits calls[i] (batches.flatten.filter (·.slot = i))) :
    batches.foldl mergeToolCallDelta [] = calls := by
  have hflat : batches.foldl mergeToolCallDelta [] = mergeToolCallDelta [] batches.flatten := by
    rw [mergeToolCallDelta, foldl_flatten]
    rfl
  have hlength : (mergeToolCallDelta [] batches.flatten).length = calls.length := by
    refine eq_of_forall_lt_iff fun i => ?_
    rw [lt_length_merge]
    constructor
    · rintro (h | ⟨d, hd, hi⟩)
      · cases h
      · exact hi.trans_lt (hslots d hd)
    · intro hi
      obtain ⟨-, -, ⟨d, hd, -⟩, -⟩ := hsplits i hi
      simp only [mem_filter, decide_eq_true_eq] at hd
      exact .inr ⟨d, hd.1, hd.2.ge⟩
  rw [hflat]
  refine ext_getElem hlength fun i h1 h2 => ?_
  rw [← getD_eq_getElem _ {} h1, getD_merge]
  exact (hsplits i h2).merge

/-- Two calls, one of them in two pieces. -/
theorem merge_batches_two :
    [[⟨some 0, some "a", some ⟨some "f", some "x"⟩⟩, ⟨some 1, some "b", some ⟨some "g", none⟩⟩],
      [⟨none, none, some ⟨none, some "y"⟩⟩]].foldl mergeToolCallDelta [] =
    [{ id := "a", name := "f", arguments := "xy" }, { id := "b", name := "g" }] :=
  merge_batches (by decide +kernel) (by decide +kernel)

end AssistantRuntime.Client

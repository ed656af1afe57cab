/-
**The order in which the branches of a task are deleted.**

A branch can be deleted when no other branch names it as its parent any more, so the collector deletes
the deepest ones first.  It computes the depths along the parents and remembers them.
-/

import AssistantRuntime.Agent.Schema
import Mathlib.Data.List.Sort
import Mathlib.Data.Prod.Lex
import Mathlib.Data.String.Basic

namespace AssistantRuntime.Agent

open Relation Relational List

def branchIds (rows : List BranchRow) : List String := (rows.map (·.branchId)).dedup

/-- The parent of a branch, if it is among the rows.  Of two rows with one id the last one counts. -/
def parentIn (rows : List BranchRow) (id : String) : Option String :=
  ((rows.reverse.find? (·.branchId = id)).bind (·.parentBranchId)).filter (· ∈ branchIds rows)

def Parent (rows : List BranchRow) (child parent : String) : Prop :=
  parentIn rows child = some parent

abbrev Memo := List (String × ℕ)

variable {rows : List BranchRow} {memo memo' : Memo} {visiting ids : List String} {id p e : String}
variable {d n : ℕ}

theorem Parent.mem (h : Parent rows id p) : id ∈ branchIds rows ∧ p ∈ branchIds rows := by
  obtain ⟨hparent, hp⟩ := Option.filter_eq_some_iff.1 h
  obtain ⟨row, hrow, -⟩ := Option.bind_eq_some_iff.1 hparent
  have hid : row.branchId = id := by simpa using find?_some hrow
  have hmem := mem_reverse.1 (mem_of_find?_eq_some hrow)
  exact ⟨mem_dedup.2 (mem_map.2 ⟨row, hmem, hid⟩), by simpa using hp⟩

/-- `depth`, with what it leaves in `memo`. -/
def depth (rows : List BranchRow) (memo : Memo) (visiting : List String) (id : String) :
    Except String (ℕ × Memo) :=
  match memo.lookup id with
  | some d => .ok (d, memo)
  | none =>
    if id ∈ visiting then .error "R11-F1-C branch lineage cycle detected during deletion."
    else
      match _ : parentIn rows id with
      | none => .ok (0, (id, 0) :: memo)
      | some p =>
        match depth rows memo (id :: visiting) p with
        | .error e => .error e
        | .ok (d, memo) => .ok (d + 1, (id, d + 1) :: memo)
-- every call marks one more of the rows
termination_by ((branchIds rows).filter (· ∉ visiting)).length
decreasing_by
  rename_i hid hp
  have hless : (branchIds rows).filter (· ∉ id :: visiting) =
      ((branchIds rows).filter (· ∉ visiting)).filter (· ≠ id) := by
    simp [List.filter_filter]
  rw [hless]
  exact List.length_filter_lt_length_iff_exists.2 ⟨id, by simp [Parent.mem hp, hid], by simp⟩

def depths (rows : List BranchRow) : Memo → List String → Except String Memo
  | memo, [] => .ok memo
  | memo, id :: ids =>
    match depth rows memo [] id with
    | .error e => .error e
    | .ok (_, memo) => depths rows memo ids

/-- The key by which a branch is sorted: the deepest first, then by id. -/
def sortKey (memo : Memo) (id : String) : ℤ ×ₗ String :=
  toLex (-((memo.lookup id).getD 0 : ℤ), id)

def branchDeleteOrder (rows : List BranchRow) : Except String (List String) :=
  match depths rows [] (branchIds rows) with
  | .error e => .error e
  | .ok memo =>
    .ok ((((branchIds rows).map (sortKey memo)).insertionSort (· ≤ ·)).map fun key => (ofLex key).2)

/-- **Without a depth there is a cycle**: the branches on the way lead to the one that is asked for. -/
theorem depth_error (h : depth rows memo visiting id = .error e)
    (hv : ∀ v ∈ visiting, TransGen (Parent rows) v id) : ∃ v, TransGen (Parent rows) v v := by
  fun_induction depth rows memo visiting id generalizing e with
  | case1 | case3 | case5 => cases h
  | case2 visiting id hn hid => exact ⟨id, hv id hid⟩
  | case4 visiting id hn hid p hp e hdepth ih =>
    refine ih hdepth (forall_mem_cons.2 ⟨.single hp, fun v hv' => ?_⟩)
    exact (hv v hv').tail hp

theorem depths_error (h : depths rows memo ids = .error e) : ∃ v, TransGen (Parent rows) v v := by
  fun_induction depths rows memo ids with
  | case1 => cases h
  | case2 memo id ids e' hdepth => exact depth_error hdepth (by simp)
  | case3 memo id ids d memo1 hdepth ih => exact ih h

/-- The branch has so many ancestors among the rows. -/
def HasDepth (rows : List BranchRow) (id : String) (d : ℕ) : Prop :=
  ∃ l, ParentChain some (parentIn rows) (parentIn rows id) l ∧ l.length = d

theorem HasDepth.of_parent (hd : HasDepth rows id d) (hp : Parent rows id p)
    (hn : HasDepth rows p n) : d = n + 1 := by
  obtain ⟨l, hl, rfl⟩ := hd
  obtain ⟨l', hl', rfl⟩ := hn
  rw [hp] at hl
  rw [hl.unique (.cons rfl hl'), length_cons]

theorem mem_of_lookup (h : memo.lookup id = some d) : (id, d) ∈ memo := by
  obtain ⟨l1, l2, rfl, -⟩ := lookup_eq_some_iff.1 h
  exact mem_append_right _ mem_cons_self

theorem depth_ok (h : depth rows memo visiting id = .ok (d, memo'))
    (hm : ∀ x ∈ memo, HasDepth rows x.1 x.2) :
    (∀ x ∈ memo', HasDepth rows x.1 x.2) ∧ (id, d) ∈ memo' ∧ memo ⊆ memo' := by
  fun_induction depth rows memo visiting id generalizing d memo' with
  | case1 visiting id n hn =>
    cases h
    exact ⟨hm, mem_of_lookup hn, List.Subset.refl _⟩
  | case2 | case4 => cases h
  | case3 visiting id hn hid hp =>
    cases h
    have hroot : HasDepth rows id 0 := ⟨[], hp ▸ .nil, rfl⟩
    exact ⟨forall_mem_cons.2 ⟨hroot, hm⟩, mem_cons_self, subset_cons_self _ _⟩
  | case5 visiting id hn hid p hp n memo1 hdepth ih =>
    cases h
    obtain ⟨hright, hmem, hsub⟩ := ih hdepth
    obtain ⟨l, hl, rfl⟩ := hright _ hmem
    have hchild : HasDepth rows id (l.length + 1) := ⟨p :: l, hp ▸ .cons rfl hl, rfl⟩
    exact ⟨forall_mem_cons.2 ⟨hchild, hright⟩, mem_cons_self,
      subset_cons_of_subset _ hsub⟩

theorem depths_ok (h : depths rows memo ids = .ok memo')
    (hm : ∀ x ∈ memo, HasDepth rows x.1 x.2) :
    (∀ x ∈ memo', HasDepth rows x.1 x.2) ∧ memo ⊆ memo' ∧ ∀ id ∈ ids, ∃ d, (id, d) ∈ memo' := by
  fun_induction depths rows memo ids with
  | case1 =>
    cases h
    exact ⟨hm, List.Subset.refl _, by simp⟩
  | case2 => cases h
  | case3 memo id ids d memo1 hdepth ih =>
    obtain ⟨hright, hmem, hsub⟩ := depth_ok hdepth hm
    obtain ⟨hright', hsub', hall⟩ := ih h hright
    exact ⟨hright', List.Subset.trans hsub hsub', forall_mem_cons.2 ⟨⟨d, hsub' hmem⟩, hall⟩⟩

/-- **The order is a permutation of the branches in which every branch comes before its parent, and
there is none exactly if there is a cycle.** -/
theorem branchDeleteOrder_sound (rows : List BranchRow) :
    match branchDeleteOrder rows with
    | .ok order => (∀ v, ¬ TransGen (Parent rows) v v) ∧ order.Perm (branchIds rows) ∧
        ∀ child parent, Parent rows child parent → [child, parent].Sublist order
    | .error _ => ∃ v, TransGen (Parent rows) v v := by
  unfold branchDeleteOrder
  cases hdepths : depths rows [] (branchIds rows) with
  | error e => exact depths_error hdepths
  | ok memo =>
    obtain ⟨hright, -, hall⟩ := depths_ok hdepths (by simp)
    have hdepth {id} (hid : id ∈ branchIds rows) : HasDepth rows id ((memo.lookup id).getD 0) := by
      obtain ⟨d, hd⟩ := hall id hid
      have hknown := lookup_isSome_iff.2 ⟨_, hd, beq_self_eq_true id⟩
      obtain ⟨n, hn⟩ := Option.isSome_iff_exists.1 hknown
      rw [hn]
      exact hright _ (mem_of_lookup hn)
    have hlt child parent (h : Parent rows child parent) :
        sortKey memo child < sortKey memo parent := by
      have hone := (hdepth h.mem.1).of_parent h (hdepth h.mem.2)
      exact Prod.Lex.toLex_lt_toLex.2 (.inl (by simp only; omega))
    refine ⟨fun v hv => ?_, ?_, fun child parent h => ?_⟩
    · have hloop : TransGen (· < ·) (sortKey memo v) (sortKey memo v) :=
        TransGen.lift (sortKey memo) hlt _ _ hv
      rw [transGen_eq_self] at hloop
      exact lt_irrefl _ hloop
    · have hperm := (perm_insertionSort (· ≤ ·) ((branchIds rows).map (sortKey memo))).map
        fun key => (ofLex key).2
      simpa [Function.comp_def, sortKey] using hperm
    · have hpair : [sortKey memo child, sortKey memo parent].Subperm
          ((branchIds rows).map (sortKey memo)) :=
        subperm_of_subset (by simp [(hlt child parent h).ne])
          (by simp [mem_map_of_mem, h.mem])
      exact (pair_sublist_insertionSort' (hlt child parent h).le hpair).map
        fun key => (ofLex key).2

end AssistantRuntime.Agent

/-
**Tables with a primary key.**

A relational table as the programs of this development use it: a list of rows no two of which have
the same primary key.  The uniqueness of the key is a field of the structure, so a table that
breaks it cannot be built, and an insert that would break it is refused.

Main results:

* `Table.find?_eq_some` — a lookup by key finds exactly the row with that key;
* `Table.mem_insert?`, `Table.mem_put` — the rows after a write;
* `Table.count_put`, `Table.total_put` — **what one row update does to a count or a sum**, from the
  old and the new row only;
* `ParentChain.unique`, `ParentChain.nodup` — a key has one chain, and no row occurs in it twice.
-/

import Mathlib.Algebra.BigOperators.Group.List.Basic
import Mathlib.Algebra.Order.BigOperators.Group.List
import Mathlib.Data.Finset.Card
import Mathlib.Data.List.Nodup
import Mathlib.Tactic.Ring

namespace Relational

open Option List

universe u v

variable {ρ : Type u} {κ : Type v}

/-- A table whose rows are identified by `key`. -/
structure Table (key : ρ → κ) where
  rows : List ρ
  nodup : (rows.map key).Nodup

namespace Table

variable {key : ρ → κ}

instance : Membership ρ (Table key) := ⟨fun t r => r ∈ t.rows⟩

variable {t : Table key}

theorem mem_def {r : ρ} : r ∈ t ↔ r ∈ t.rows := Iff.rfl

@[ext] theorem ext_rows {t' : Table key} (h : t.rows = t'.rows) : t = t' := by
  cases t; cases t'; congr

def empty : Table key := ⟨[], nodup_nil⟩

instance : EmptyCollection (Table key) := ⟨empty⟩

instance : Inhabited (Table key) := ⟨empty⟩

@[simp] theorem rows_empty : (∅ : Table key).rows = [] := rfl

@[simp] theorem not_mem_empty (r : ρ) : r ∉ (∅ : Table key) := by simp [mem_def]

instance [DecidableEq ρ] : DecidableEq (Table key) := fun t t' =>
  decidable_of_iff (t.rows = t'.rows) ⟨ext_rows, fun h => h ▸ rfl⟩

theorem eq_of_key_eq {r r' : ρ} (h : r ∈ t) (h' : r' ∈ t) (hk : key r = key r') : r = r' :=
  inj_on_of_nodup_map t.nodup h h' hk

section Operations

variable [DecidableEq κ]

def find? (t : Table key) (k : κ) : Option ρ := t.rows.find? fun r => key r = k

/-- Inserts a new row; refused when its key is taken. -/
def insert? (t : Table key) (r : ρ) : Option (Table key) :=
  if h : key r ∈ t.rows.map key then none
  else some ⟨t.rows ++ [r], by
    rw [map_append, nodup_append]
    refine ⟨t.nodup, by simp, ?_⟩
    intro a ha b hb hab
    simp only [map_cons, map_nil, mem_singleton] at hb
    exact h (hb ▸ hab ▸ ha)⟩

theorem map_key_replace (r : ρ) (l : List ρ) :
    (l.map fun x => if key x = key r then r else x).map key = l.map key := by
  rw [List.map_map]
  refine map_congr_left ?_
  intro x _
  simp only [Function.comp_apply]
  split
  · next h => exact h.symm
  · rfl

/-- Overwrites the row that has the key of `r`; nothing happens when there is none. -/
def put (t : Table key) (r : ρ) : Table key :=
  ⟨t.rows.map fun x => if key x = key r then r else x, by
    rw [map_key_replace]; exact t.nodup⟩

end Operations

def deleteWhere (t : Table key) (p : ρ → Bool) : Table key :=
  ⟨t.rows.filter fun r => !p r, t.nodup.sublist (filter_sublist.map key)⟩

def count (t : Table key) (p : ρ → Bool) : ℕ := t.rows.countP p

def total (t : Table key) (f : ρ → ℤ) : ℤ := (t.rows.map f).sum

/-! ### Lookups -/

section Lookups

variable [DecidableEq κ] {t : Table key} {r r' : ρ} {k : κ}

theorem find?_eq_some : t.find? k = some r ↔ r ∈ t ∧ key r = k := by
  constructor
  · intro h
    exact ⟨mem_of_find?_eq_some h, by simpa using find?_some h⟩
  · rintro ⟨hr, rfl⟩
    cases h : t.find? (key r) with
    | none => simpa using find?_eq_none.1 h r hr
    | some x =>
      have hx : key x = key r := by simpa using find?_some h
      rw [eq_of_key_eq (mem_of_find?_eq_some h) hr hx]

theorem find?_eq_none : t.find? k = none ↔ ∀ r ∈ t, key r ≠ k := by
  simp [find?, List.find?_eq_none, mem_def]

theorem mem_of_find? (h : t.find? k = some r) : r ∈ t := (find?_eq_some.1 h).1

theorem key_of_find? (h : t.find? k = some r) : key r = k := (find?_eq_some.1 h).2

theorem find?_key (h : r ∈ t) : t.find? (key r) = some r := find?_eq_some.2 ⟨h, rfl⟩

@[simp] theorem find?_empty : (∅ : Table key).find? k = none := rfl

end Lookups

/-! ### Inserts -/

section Inserts

variable [DecidableEq κ] {t t' : Table key} {r : ρ}

theorem insert?_eq_some :
    t.insert? r = some t' ↔ (∀ x ∈ t, key x ≠ key r) ∧ t'.rows = t.rows ++ [r] := by
  unfold insert?
  split
  · next h =>
      obtain ⟨x, hx, hk⟩ := List.mem_map.1 h
      simpa using fun hn : ∀ x ∈ t, key x ≠ key r => absurd hk (hn x hx)
  · next h =>
      have hn : ∀ x ∈ t, key x ≠ key r := fun x hx hk => h (List.mem_map.2 ⟨x, hx, hk⟩)
      constructor
      · intro he
        exact ⟨hn, by rw [← Option.some.inj he]⟩
      · intro he
        exact congrArg some (ext_rows he.2.symm)

theorem rows_insert? (h : t.insert? r = some t') : t'.rows = t.rows ++ [r] :=
  (insert?_eq_some.1 h).2

theorem fresh_insert? (h : t.insert? r = some t') : t.find? (key r) = none :=
  find?_eq_none.2 (insert?_eq_some.1 h).1

theorem insert?_isSome (h : t.find? (key r) = none) : ∃ t', t.insert? r = some t' := by
  unfold insert?
  rw [dif_neg]
  · exact ⟨_, rfl⟩
  · intro hm
    obtain ⟨x, hx, hk⟩ := List.mem_map.1 hm
    exact find?_eq_none.1 h x hx hk

variable (h : t.insert? r = some t')

include h

theorem mem_insert? {x : ρ} : x ∈ t' ↔ x ∈ t ∨ x = r := by
  rw [mem_def, rows_insert? h, mem_append, mem_singleton, mem_def]

theorem forall_insert? {P : ρ → Prop} (hold : ∀ x ∈ t, P x) (hnew : P r) : ∀ x ∈ t', P x := by
  intro x hx
  rcases (mem_insert? h).1 hx with hx | rfl
  · exact hold x hx
  · exact hnew

theorem find?_insert? (k : κ) :
    t'.find? k = if k = key r then some r else t.find? k := by
  split
  · next hk => exact find?_eq_some.2 ⟨(mem_insert? h).2 (.inr rfl), hk.symm⟩
  · next hk =>
      cases ht : t.find? k with
      | some x => exact find?_eq_some.2 ⟨(mem_insert? h).2 (.inl (mem_of_find? ht)), key_of_find? ht⟩
      | none =>
        refine find?_eq_none.2 fun x hx => ?_
        rcases (mem_insert? h).1 hx with hx | rfl
        · exact find?_eq_none.1 ht x hx
        · exact fun hk' => hk hk'.symm

theorem count_insert? (p : ρ → Bool) :
    t'.count p = t.count p + if p r then 1 else 0 := by
  simp [count, rows_insert? h, countP_append, countP_singleton]

theorem total_insert? (f : ρ → ℤ) :
    t'.total f = t.total f + f r := by
  simp [total, rows_insert? h]

end Inserts

/-! ### Updates -/

section Updates

variable [DecidableEq κ] {t : Table key} {r old : ρ}

/-- The rows after an update: the other rows, and the new row if its key was there. -/
theorem mem_put {x : ρ} :
    x ∈ t.put r ↔ (x ∈ t ∧ key x ≠ key r) ∨ (x = r ∧ ∃ y ∈ t, key y = key r) := by
  rw [mem_def, put, List.mem_map]
  constructor
  · rintro ⟨y, hy, h⟩
    split at h
    · next hk => exact .inr ⟨h.symm, y, hy, hk⟩
    · next hk => exact .inl ⟨h ▸ hy, h ▸ hk⟩
  · rintro (⟨hx, hk⟩ | ⟨rfl, y, hy, hk⟩)
    · exact ⟨x, hx, if_neg hk⟩
    · exact ⟨y, hy, if_pos hk⟩

theorem forall_put {P : ρ → Prop} (hold : ∀ x ∈ t, P x) (hnew : P r) : ∀ x ∈ t.put r, P x := by
  intro x hx
  rcases mem_put.1 hx with ⟨hx, -⟩ | ⟨rfl, -⟩
  · exact hold x hx
  · exact hnew

/-- An update of a row that is there, for a reader who has that row at hand. -/
theorem mem_put_of_mem (h : old ∈ t) (hk : key old = key r) {x : ρ} :
    x ∈ t.put r ↔ (x ∈ t ∧ key x ≠ key r) ∨ x = r := by
  rw [mem_put]
  exact or_congr_right ⟨fun hx => hx.1, fun hx => ⟨hx, old, h, hk⟩⟩

variable {k : κ}

theorem exists_key_put : (∃ x ∈ t.put r, key x = k) ↔ ∃ x ∈ t, key x = k := by
  have h : (t.put r).rows.map key = t.rows.map key := map_key_replace r t.rows
  have := congrArg (k ∈ ·) h
  simpa [List.mem_map, mem_def] using this

theorem find?_put (k : κ) :
    (t.put r).find? k = if k = key r then (t.find? k).map fun _ => r else t.find? k := by
  split
  · next hk =>
      subst hk
      cases ht : t.find? (key r) with
      | none =>
        refine find?_eq_none.2 fun x hx => ?_
        rcases mem_put.1 hx with ⟨hx, -⟩ | ⟨-, y, hy, hk⟩
        · exact find?_eq_none.1 ht x hx
        · exact absurd hk (find?_eq_none.1 ht y hy)
      | some y =>
        exact find?_eq_some.2 ⟨mem_put.2 (.inr ⟨rfl, y, mem_of_find? ht, key_of_find? ht⟩), rfl⟩
  · next hk =>
      cases ht : t.find? k with
      | none =>
        refine find?_eq_none.2 fun x hx => ?_
        rcases mem_put.1 hx with ⟨hx, -⟩ | ⟨rfl, -⟩
        · exact find?_eq_none.1 ht x hx
        · exact fun h => hk h.symm
      | some y =>
        have hy := key_of_find? ht
        exact find?_eq_some.2 ⟨mem_put.2 (.inl ⟨mem_of_find? ht, fun h => hk (hy ▸ h)⟩), hy⟩

theorem find?_put_self (h : t.find? (key r) = some old) : (t.put r).find? (key r) = some r := by
  rw [find?_put, if_pos rfl, h, map_some]

theorem find?_put_same (h : t.find? k = some old) (hk : key r = key old) :
    (t.put r).find? k = some r := by
  have hkey : key old = k := key_of_find? h
  rw [find?_put, if_pos (hk.trans hkey).symm, h, map_some]

theorem find?_put_of_ne (h : k ≠ key r) : (t.put r).find? k = t.find? k := by
  rw [find?_put, if_neg h]

theorem put_put {r' : ρ} (hk : key r' = key r) : (t.put r).put r' = t.put r' := by
  refine ext_rows ?_
  simp only [put, List.map_map]
  refine map_congr_left fun x _ => ?_
  by_cases hx : key x = key r
  · simp [hx, hk]
  · simp [hx, hk]

/-- An update changes one row in place: the rows before and after it stay. -/
theorem rows_put (h : old ∈ t) (hk : key old = key r) :
    ∃ l1 l2, t.rows = l1 ++ old :: l2 ∧ (t.put r).rows = l1 ++ r :: l2 := by
  obtain ⟨l1, l2, hl⟩ := append_of_mem (mem_def.1 h)
  have hn := t.nodup
  rw [hl, map_append, map_cons, nodup_append, nodup_cons] at hn
  obtain ⟨-, ⟨hn2, -⟩, hn1⟩ := hn
  -- no other row has the key, so the replacement is the identity on both sides
  have h1 : (l1.map fun x => if key x = key r then r else x) = l1 := by
    refine (map_congr_left fun x hx => if_neg fun hxr => ?_).trans (map_id _)
    exact hn1 _ (mem_map_of_mem hx) _ mem_cons_self (hxr.trans hk.symm)
  have h2 : (l2.map fun x => if key x = key r then r else x) = l2 := by
    refine (map_congr_left fun x hx => if_neg fun hxr => ?_).trans (map_id _)
    exact hn2 (List.mem_map.2 ⟨x, hx, hxr.trans hk.symm⟩)
  refine ⟨l1, l2, hl, ?_⟩
  simp only [put]
  rw [hl, map_append, map_cons, h1, h2, if_pos hk]

theorem insert?_put {t' : Table key} {r' : ρ} (h : t.insert? r = some t') (hk : key r' = key r) :
    t.insert? r' = some (t'.put r') := by
  obtain ⟨hfresh, hrows⟩ := insert?_eq_some.1 h
  refine insert?_eq_some.2 ⟨fun x hx => hk ▸ hfresh x hx, ?_⟩
  have hold : (t.rows.map fun x => if key x = key r then r' else x) = t.rows :=
    (map_congr_left fun x hx => if_neg (hfresh x hx)).trans (map_id _)
  simp only [put, hk, hrows, map_append, hold, map_cons, map_nil, if_true]

/-- **What an update does to a count.** -/
theorem count_put (h : old ∈ t) (hk : key old = key r) (p : ρ → Bool) :
    (t.put r).count p + (if p old then 1 else 0) = t.count p + if p r then 1 else 0 := by
  obtain ⟨l1, l2, hl, hl'⟩ := rows_put h hk
  simp only [count, hl, hl', countP_append, countP_cons]
  omega

/-- **What an update does to a sum.** -/
theorem total_put (h : old ∈ t) (hk : key old = key r) (f : ρ → ℤ) :
    (t.put r).total f = t.total f - f old + f r := by
  obtain ⟨l1, l2, hl, hl'⟩ := rows_put h hk
  simp only [total, hl, hl', map_append, map_cons, sum_append, sum_cons]
  ring

end Updates

/-! ### Deletions and counting -/

variable {p : ρ → Bool}

@[simp] theorem mem_deleteWhere {r : ρ} :
    r ∈ t.deleteWhere p ↔ r ∈ t ∧ p r = false := by
  simp [mem_def, deleteWhere]

theorem count_eq_zero : t.count p = 0 ↔ ∀ r ∈ t, p r = false := by
  simp [count, countP_eq_zero, mem_def]

theorem total_nonneg {f : ρ → ℤ} (h : ∀ r ∈ t, 0 ≤ f r) : 0 ≤ t.total f := by
  refine sum_nonneg ?_
  intro x hx
  obtain ⟨r, hr, rfl⟩ := List.mem_map.1 hx
  exact h r hr

theorem total_eq_zero {f : ρ → ℤ} (h : ∀ r ∈ t, f r = 0) : t.total f = 0 := by
  refine sum_eq_zero ?_
  intro x hx
  obtain ⟨r, hr, rfl⟩ := List.mem_map.1 hx
  exact h r hr

theorem total_congr {f g : ρ → ℤ} (h : ∀ r ∈ t, f r = g r) :
    t.total f = t.total g := by
  rw [total, total, map_congr_left h]

theorem total_ite (t : Table key) (p : ρ → Bool) :
    (t.total fun r => if p r then 1 else 0) = t.count p := by
  unfold total count
  induction t.rows with
  | nil => rfl
  | cons r rest ih =>
    rw [map_cons, sum_cons, ih, countP_cons]
    push_cast
    exact add_comm _ _

/-! ### Which rows have a property -/

section Keys

variable [DecidableEq κ] {t : Table key} {p : ρ → Bool}

def keysWhere (t : Table key) (p : ρ → Bool) : Finset κ := ((t.rows.filter p).map key).toFinset

theorem mem_keysWhere {k : κ} : k ∈ t.keysWhere p ↔ ∃ r, t.find? k = some r ∧ p r = true := by
  simp only [keysWhere, List.mem_toFinset, List.mem_map, List.mem_filter, find?_eq_some, mem_def]
  constructor
  · rintro ⟨r, ⟨hr, hp⟩, hk⟩
    exact ⟨r, ⟨hr, hk⟩, hp⟩
  · rintro ⟨r, ⟨hr, hk⟩, hp⟩
    exact ⟨r, ⟨hr, hp⟩, hk⟩

theorem card_keysWhere : (t.keysWhere p).card = t.count p := by
  have hnodup : ((t.rows.filter p).map key).Nodup :=
    t.nodup.sublist (filter_sublist.map key)
  rw [keysWhere, toFinset_card_of_nodup hnodup, length_map, count,
    countP_eq_length_filter]

/-- One row counts for itself, the others for the rest. -/
theorem count_eq_add_others {k : κ} {r : ρ} (h : t.find? k = some r) (p : ρ → Bool) :
    t.count p = (if p r then 1 else 0) + t.count fun x => p x && decide (key x ≠ k) := by
  have hrest : k ∉ t.keysWhere fun x => p x && decide (key x ≠ k) := by
    rw [mem_keysWhere]
    rintro ⟨x, hx, hp⟩
    simp [key_of_find? hx] at hp
  have hother : ∀ k', k' ≠ k →
      (k' ∈ t.keysWhere p ↔ k' ∈ t.keysWhere fun x => p x && decide (key x ≠ k)) := by
    intro k' hne
    simp only [mem_keysWhere]
    constructor
    · rintro ⟨x, hx, hp⟩
      exact ⟨x, hx, by simpa [hp, key_of_find? hx] using hne⟩
    · rintro ⟨x, hx, hp⟩
      exact ⟨x, hx, (Bool.and_eq_true_iff.1 hp).1⟩
  rw [← card_keysWhere, ← card_keysWhere]
  by_cases hp : p r
  · rw [if_pos hp, Nat.add_comm, ← Finset.card_insert_of_notMem hrest]
    congr 1
    ext k'
    by_cases hk : k' = k
    · subst hk
      simpa using mem_keysWhere.2 ⟨r, h, hp⟩
    · simp only [Finset.mem_insert, hk, false_or]
      exact hother k' hk
  · rw [if_neg hp, Nat.zero_add]
    congr 1
    ext k'
    by_cases hk : k' = k
    · subst hk
      refine iff_of_false ?_ hrest
      rw [mem_keysWhere]
      rintro ⟨x, hx, hpx⟩
      obtain rfl : x = r := mem_unique hx h
      exact hp hpx
    · exact hother k' hk

/-- **The number of rows with a property changes by those that lose it and those that gain it.** -/
theorem count_add_lost (t t' : Table key) (p : ρ → Bool) :
    t'.count p + (t.keysWhere p \ t'.keysWhere p).card =
      t.count p + (t'.keysWhere p \ t.keysWhere p).card := by
  have hlost := Finset.card_sdiff_add_card (t.keysWhere p) (t'.keysWhere p)
  have hgained := Finset.card_sdiff_add_card (t'.keysWhere p) (t.keysWhere p)
  rw [Finset.union_comm] at hgained
  rw [← card_keysWhere, ← card_keysWhere]
  omega

end Keys

end Table

/-! ### Chains of parents

Rows that name a parent row form chains.  A chain is finite by its definition, so a row that has one
is on no cycle: a key that came back would have two chains of different lengths. -/

section

variable {κ ν ν' : Type}

/-- The rows that are reached from a key by parent links; the last one has no parent. -/
inductive ParentChain (row : κ → Option ν) (up : ν → Option κ) : Option κ → List ν → Prop
  | nil : ParentChain row up none []
  | cons {k : κ} {v : ν} {l : List ν} (h : row k = some v) (hl : ParentChain row up (up v) l) :
      ParentChain row up (some k) (v :: l)

namespace ParentChain

variable {row : κ → Option ν} {up : ν → Option κ} {o : Option κ} {l l' : List ν}

theorem unique (h : ParentChain row up o l) (h' : ParentChain row up o l') : l = l' := by
  induction h generalizing l' with
  | nil =>
    cases h'
    rfl
  | cons hv _ ih =>
    cases h' with
    | cons hv' hl' =>
      obtain rfl := mem_unique hv hv'
      rw [ih hl']

theorem of_mem (h : ParentChain row up o l) {v : ν} (hv : v ∈ l) :
    ∃ k l', row k = some v ∧ ParentChain row up (some k) l' ∧ l'.length ≤ l.length := by
  induction h with
  | nil => cases hv
  | @cons k u l hu hl ih =>
    rcases mem_cons.1 hv with rfl | hmem
    · exact ⟨k, _, hu, .cons hu hl, le_refl _⟩
    · obtain ⟨k', l', hk', hl', hle⟩ := ih hmem
      exact ⟨k', l', hk', hl', hle.trans (Nat.le_succ _)⟩

/-- **No row occurs twice in a chain.** -/
theorem nodup {key : ν → κ} (hkey : ∀ k v, row k = some v → key v = k)
    (h : ParentChain row up o l) : (l.map key).Nodup := by
  induction h with
  | nil => simp
  | @cons k v l hv hl ih =>
    rw [map_cons, nodup_cons]
    refine ⟨fun hmem => ?_, ih⟩
    -- a row with the same key would have this chain, and a shorter one
    obtain ⟨u, hu, hku⟩ := List.mem_map.1 hmem
    obtain ⟨k', l', hk', hl', hle⟩ := hl.of_mem hu
    obtain rfl : k' = k := by rw [← hkey k' u hk', hku, hkey k v hv]
    have hsame := hl'.unique (.cons hv hl)
    rw [hsame, length_cons] at hle
    omega

end ParentChain

variable {ρ : Type} [DecidableEq κ] {key : ρ → κ} {p : ρ → Bool}

/-- A list of rows with different keys is no longer than there are rows of its kind. -/
theorem Table.length_le_count {t : Table key} {l : List ρ} (hnodup : (l.map key).Nodup)
    (h : ∀ r ∈ l, r ∈ t ∧ p r = true) : l.length ≤ t.count p := by
  have hsub : (l.map key).toFinset ⊆ t.keysWhere p := by
    intro k hk
    obtain ⟨r, hr, rfl⟩ := List.mem_map.1 (mem_toFinset.1 hk)
    obtain ⟨hmem, hp⟩ := h r hr
    rw [Table.mem_keysWhere, Table.find?_key hmem]
    simpa using hp
  have hcard := Finset.card_le_card hsub
  rwa [toFinset_card_of_nodup hnodup, length_map, Table.card_keysWhere] at hcard

theorem Table.count_congr {t t' : Table key}
    (h : ∀ k, (∃ r, t.find? k = some r ∧ p r = true) ↔ ∃ r, t'.find? k = some r ∧ p r = true) :
    t.count p = t'.count p := by
  rw [← Table.card_keysWhere, ← Table.card_keysWhere]
  congr 1
  ext k
  rw [Table.mem_keysWhere, Table.mem_keysWhere]
  exact h k

end

end Relational

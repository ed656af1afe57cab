/-
**What a write does to a table.**

A unit of work changes a table one row at a time: it inserts a row or it replaces one.  This file
says what either does to the things that invariants speak about: how many rows have a property, the
value some row holds in a column, and what becomes of the rows that were there.

Main results:

* `RowWrite.Applies.count`, `RowWrite.Applies.value` — a count and a value change by what the
  written row contributes;
* `RowWrite.Applies.evolves` — rows evolve along a relation that the write respects;
* `TableLog.count`, `TableLog.value`, `TableLog.evolves`, `TableLog.mem`, `TableLog.traced` — the
  same for a list of writes;
* `TableLog.nodup_updated` — updates that all leave a property touch every row once.
-/

import AssistantRuntime.Relational.Table
import AssistantRuntime.Relational.UnitOfWork

namespace Relational

open List

variable {ρ κ : Type} {key : ρ → κ} [DecidableEq κ]

/-! ### Columns and evolution of a table -/

namespace Table

/-- A column of the row with key `k`, or zero. -/
def value (t : Table key) (f : ρ → ℤ) (k : κ) : ℤ := ((t.find? k).map f).getD 0

theorem value_of_find? {t : Table key} {f : ρ → ℤ} {k : κ} {r : ρ} (h : t.find? k = some r) :
    t.value f k = f r := by
  simp [value, h]

/-- Every row of `t` is a row of `t'` that it is related to by `R`. -/
def Evolves (R : ρ → ρ → Prop) (t t' : Table key) : Prop :=
  ∀ k r, t.find? k = some r → ∃ r', t'.find? k = some r' ∧ R r r'

variable {R : ρ → ρ → Prop} {t t1 t' : Table key}

theorem Evolves.refl (hR : ∀ r, R r r) (t : Table key) : t.Evolves R t :=
  fun _ r h => ⟨r, h, hR r⟩

theorem Evolves.trans (hR : ∀ a b c, R a b → R b c → R a c) (h : t.Evolves R t1)
    (h' : t1.Evolves R t') : t.Evolves R t' := by
  intro k r hr
  obtain ⟨r1, hr1, h1⟩ := h k r hr
  obtain ⟨r', hr', h2⟩ := h' k r1 hr1
  exact ⟨r', hr', hR _ _ _ h1 h2⟩

end Table

/-! ### One write -/

/-- One row inserted, or one row replaced by another with its key. -/
inductive RowWrite (ρ : Type)
  | insert (new : ρ)
  | update (old new : ρ)

namespace RowWrite

def Applies (t t' : Table key) : RowWrite ρ → Prop
  | .insert new => t.insert? new = some t'
  | .update old new => t.find? (key new) = some old ∧ t' = t.put new

/-- What a write adds to the number of rows with a property. -/
def countDelta (p : ρ → Bool) : RowWrite ρ → ℤ
  | .insert new => if p new then 1 else 0
  | .update old new => (if p new then 1 else 0) - if p old then 1 else 0

/-- What a write adds to a column of the row with key `k`. -/
def valueDelta (key : ρ → κ) (f : ρ → ℤ) (k : κ) : RowWrite ρ → ℤ
  | .insert new => if key new = k then f new else 0
  | .update old new => if key new = k then f new - f old else 0

def row : RowWrite ρ → ρ
  | .insert new => new
  | .update _ new => new

namespace Applies

variable {t t' : Table key} {w : RowWrite ρ}

variable (h : w.Applies t t')

include h

theorem count (p : ρ → Bool) :
    (t'.count p : ℤ) = t.count p + w.countDelta p := by
  cases w with
  | insert new =>
    have hc := Table.count_insert? h p
    simp only [countDelta, hc]
    push_cast
    rfl
  | update old new =>
    obtain ⟨ho, rfl⟩ := h
    have hc := Table.count_put (Table.mem_of_find? ho) (Table.key_of_find? ho) p
    have hz : ((t.put new).count p : ℤ) + (if p old then 1 else 0) =
        t.count p + if p new then 1 else 0 := by
      exact_mod_cast hc
    simp only [countDelta]
    omega

theorem find? (k : κ) :
    t'.find? k = if k = key w.row then some w.row else t.find? k := by
  cases w with
  | insert new => exact Table.find?_insert? h k
  | update old new =>
    obtain ⟨ho, rfl⟩ := h
    rw [Table.find?_put]
    by_cases hk : k = key new
    · subst hk
      simp [row, ho]
    · simp [row, hk]

theorem value (f : ρ → ℤ) (k : κ) :
    t'.value f k = t.value f k + w.valueDelta key f k := by
  cases w with
  | insert new =>
    simp only [Table.value, valueDelta, find? h k, row]
    by_cases hk : k = key new
    · subst hk
      simp [Table.fresh_insert? h]
    · simp [hk, Ne.symm hk]
  | update old new =>
    simp only [Table.value, valueDelta, find? h k, row]
    by_cases hk : k = key new
    · subst hk
      simp [h.1]
    · simp [hk, Ne.symm hk]

/-- The row under a key before a write was replaced by it, or is still there. -/
theorem cases_of_find? {k : κ} {r : ρ} (hr : t.find? k = some r) :
    (∃ new, w = .update r new ∧ key new = k ∧ t'.find? k = some new) ∨ t'.find? k = some r := by
  rw [find? h k]
  by_cases hk : k = key w.row
  · subst hk
    cases w with
    | insert new =>
      have hfresh : t.find? (key new) = none := Table.fresh_insert? h
      cases hfresh.symm.trans hr
    | update old new =>
      have hold : t.find? (key new) = some old := h.1
      cases hold.symm.trans hr
      exact .inl ⟨new, rfl, rfl, if_pos rfl⟩
  · rw [if_neg hk]
    exact .inr hr

omit h

/-- **Rows evolve along a relation that the write respects.** -/
theorem evolves {R : ρ → ρ → Prop} (hR : ∀ r, R r r) (h : w.Applies t t')
    (hw : ∀ old new, w = .update old new → R old new) : t.Evolves R t' := by
  intro k r hr
  rcases h.cases_of_find? hr with ⟨new, rfl, -, hnew⟩ | hkept
  · exact ⟨new, hnew, hw r new rfl⟩
  · exact ⟨r, hkept, hR r⟩

theorem mem (h : w.Applies t t') {r : ρ} (hr : r ∈ t') : r ∈ t ∨ r = w.row := by
  have hf : t'.find? (key r) = some r := Table.find?_key hr
  rw [find? h] at hf
  split at hf
  · exact .inr (Option.some.inj hf).symm
  · exact .inl (Table.mem_of_find? hf)

end Applies

end RowWrite

namespace Table

variable {R : ρ → ρ → Prop} {t t' : Table key}

theorem Evolves.of_insert (hR : ∀ r, R r r) {new : ρ} (h : t.insert? new = some t') :
    t.Evolves R t' := by
  have happ : RowWrite.Applies t t' (.insert new) := h
  exact happ.evolves hR fun _ _ hw => by cases hw

theorem Evolves.of_put (hR : ∀ r, R r r) {k : κ} {old new : ρ} (h : t.find? k = some old)
    (hk : key new = key old) (hnew : R old new) : t.Evolves R (t.put new) := by
  have hold : t.find? (key new) = some old := by
    rw [hk, key_of_find? h]
    exact h
  have happ : RowWrite.Applies t (t.put new) (.update old new) := ⟨hold, rfl⟩
  refine happ.evolves hR ?_
  intro old' new' hw
  cases hw
  exact hnew

end Table

/-! ### A list of writes -/

/-- A table before and after a list of writes. -/
abbrev TableLog (t : Table key) (ws : List (RowWrite ρ)) (t' : Table key) : Prop :=
  Run (fun w t t' => RowWrite.Applies t t' w) t ws t'

namespace TableLog

variable {t t1 t' : Table key} {ws : List (RowWrite ρ)}

theorem of_insert {new : ρ} (h : t.insert? new = some t') : TableLog t [.insert new] t' :=
  Run.cons (h) (Run.nil _)

variable {k : κ}

theorem of_put {old new : ρ} (h : t.find? k = some old) (hk : key new = key old) :
    TableLog t [.update old new] (t.put new) := by
  have hold : t.find? (key new) = some old := by
    rw [hk, Table.key_of_find? h]
    exact h
  exact Run.cons (⟨hold, rfl⟩) (Run.nil _)

theorem of_eq (h : t' = t) : TableLog t [] t' := h ▸ Run.nil _

theorem of_eq_put {old new : ρ} (ht : t' = t.put new) (h : t.find? k = some old)
    (hk : key new = key old) : TableLog t [.update old new] t' :=
  ht ▸ of_put h hk

theorem count (h : TableLog t ws t') (p : ρ → Bool) :
    (t'.count p : ℤ) = t.count p + (ws.map (·.countDelta p)).sum := by
  induction h with
  | nil => simp
  | cons hw _ ih =>
    rw [ih, RowWrite.Applies.count hw p, map_cons, sum_cons]
    omega

theorem value (h : TableLog t ws t') (f : ρ → ℤ) (k : κ) :
    t'.value f k = t.value f k + (ws.map (·.valueDelta key f k)).sum := by
  induction h with
  | nil => simp
  | cons hw _ ih =>
    rw [ih, RowWrite.Applies.value hw f k, map_cons, sum_cons]
    omega

/-- **Rows evolve along a preorder that every update respects.** -/
theorem evolves {R : ρ → ρ → Prop} (hrefl : ∀ r, R r r) (htrans : ∀ a b c, R a b → R b c → R a c)
    (h : TableLog t ws t') (hws : ∀ old new, .update old new ∈ ws → R old new) :
    t.Evolves R t' := by
  induction h with
  | nil => exact Table.Evolves.refl hrefl _
  | cons hw _ ih =>
    have hhead := RowWrite.Applies.evolves hrefl hw fun old new he => hws old new (by simp [he])
    exact hhead.trans htrans (ih fun old new hm => hws old new (mem_cons_of_mem _ hm))

theorem mem (h : TableLog t ws t') {r : ρ} (hr : r ∈ t') : r ∈ t ∨ ∃ w ∈ ws, w.row = r := by
  induction h with
  | nil => exact .inl hr
  | cons hw _ ih =>
    rcases ih hr with h1 | ⟨w, hw', rfl⟩
    · rcases RowWrite.Applies.mem hw h1 with h0 | rfl
      · exact .inl h0
      · exact .inr ⟨_, mem_cons_self .., rfl⟩
    · exact .inr ⟨w, mem_cons_of_mem _ hw', rfl⟩

variable {P : ρ → Prop}

/-- **Tracing a row back**: a row with a property after some writes stands for one that had it
before them, unless one of the writes gave it the property. -/
theorem traced {Q : Prop} (h : TableLog t ws t') {r : ρ} (hr : r ∈ t') (hP : P r)
    (hinsert : ∀ r, .insert r ∈ ws → P r → Q)
    (hupdate : ∀ r r', .update r r' ∈ ws → key r = key r' → P r' → P r ∨ Q) :
    (∃ r ∈ t, P r) ∨ Q := by
  induction h with
  | nil => exact .inl ⟨r, hr, hP⟩
  | @cons t t1 t' w ws hw _ ih =>
    obtain ⟨r1, hr1, hP1⟩ | hQ := ih hr (fun r hm => hinsert r (mem_cons_of_mem _ hm))
      fun r r' hm => hupdate r r' (mem_cons_of_mem _ hm)
    · rcases hw.mem hr1 with hr0 | rfl
      · exact .inl ⟨r1, hr0, hP1⟩
      · cases w with
        | insert new => exact .inr (hinsert new mem_cons_self hP1)
        | update old new =>
          rcases hupdate old new mem_cons_self (Table.key_of_find? hw.1) hP1 with hold | hQ
          · exact .inl ⟨old, Table.mem_of_find? hw.1, hold⟩
          · exact .inr hQ
    · exact .inr hQ

variable {l : List (ρ × ρ)}

theorem not_updated {r : ρ} (h : TableLog t (l.map fun p => .update p.1 p.2) t')
    (hP : ∀ p ∈ l, P p.1) (hr : t.find? k = some r) (hnot : ¬ P r) :
    k ∉ (l.map fun p => key p.2) ∧ t'.find? k = some r := by
  induction l generalizing t with
  | nil =>
    cases h
    exact ⟨by simp, hr⟩
  | cons p l ih =>
    cases h with
    | cons hw hrest =>
      have hhead : P p.1 := hP p mem_cons_self
      have hkey : k ≠ key p.2 := by
        rintro rfl
        rw [hw.1] at hr
        cases hr
        exact hnot hhead
      have hkept := RowWrite.Applies.find? hw k
      rw [show (RowWrite.update p.1 p.2).row = p.2 from rfl, if_neg hkey, hr] at hkept
      obtain ⟨hk, hstays⟩ := ih hrest (fun q hq => hP q (mem_cons_of_mem _ hq)) hkept
      rw [map_cons, mem_cons, not_or]
      exact ⟨⟨hkey, hk⟩, hstays⟩

/-- **Updates that all leave a property update every row once.** -/
theorem nodup_updated (h : TableLog t (l.map fun p => .update p.1 p.2) t')
    (hP : ∀ p ∈ l, P p.1 ∧ ¬ P p.2) :
    (l.map fun p => key p.2).Nodup := by
  induction l generalizing t with
  | nil => simp
  | cons p l ih =>
    cases h with
    | cons hw hrest =>
      have htail : ∀ q ∈ l, P q.1 ∧ ¬ P q.2 := fun q hq => hP q (mem_cons_of_mem _ hq)
      have hnew := RowWrite.Applies.find? hw (key p.2)
      rw [show (RowWrite.update p.1 p.2).row = p.2 from rfl, if_pos rfl] at hnew
      rw [map_cons, nodup_cons]
      refine ⟨?_, ih hrest htail⟩
      exact (not_updated hrest (fun q hq => (htail q hq).1) hnew
        (hP p mem_cons_self).2).1

end TableLog

end Relational

/-
**Statements on tables.**

The writes a repository issues inside a unit of work: an insert, which fails when the primary key is
taken, and a compare-and-set, which updates one row if it still satisfies a condition and otherwise
reports that it changed nothing.  A stored state may have any number of tables; a statement names
its own by the two functions that read and replace it.
-/

import AssistantRuntime.Relational.Table
import AssistantRuntime.Relational.UnitOfWork
import Mathlib.Order.Defs.Unbundled

namespace Relational.Uow

variable {σ τ ε δ α β ρ κ : Type} {key : ρ → κ} [DecidableEq κ]

/-- Aborts with `e` when `x` returns nothing. -/
def orAbort (x : Uow σ ε (Option α)) (e : ε) : Uow σ ε α := x >>= fun o => expect o e

theorem orAbort_ok {x : Uow σ ε (Option α)} {e : ε} {s s' : σ} {a : α} :
    orAbort x e s = .ok (a, s') ↔ x s = .ok (some a, s') := by
  unfold orAbort
  rw [bind_ok]
  constructor
  · rintro ⟨o, s1, hx, h⟩
    obtain ⟨b, rfl, he⟩ := expect_ok.1 h
    cases he
    exact hx
  · intro hx
    exact ⟨some a, s', hx, expect_ok.2 ⟨a, rfl, rfl⟩⟩

@[simp] theorem orAbort_bind_ok {x : Uow σ ε (Option β)} {e : ε} {g : β → Uow σ ε α} {s : σ}
    {r : α × σ} :
    (orAbort x e >>= g) s = .ok r ↔ ∃ b s1, x s = .ok (some b, s1) ∧ g b s1 = .ok r := by
  rw [bind_ok]
  constructor
  · rintro ⟨b, s1, hx, h⟩
    exact ⟨b, s1, orAbort_ok.1 hx, h⟩
  · rintro ⟨b, s1, hx, h⟩
    exact ⟨b, s1, orAbort_ok.2 hx, h⟩

section Statements

variable (get : σ → Table key) (set : Table key → σ → σ)

/-- Inserts a row; fails with `e` when its key is taken. -/
def insertRow (row : ρ) (e : ε) : Uow σ ε Unit := fun s =>
  match (get s).insert? row with
  | some t => .ok ((), set t s)
  | none => .error e

/-- Replaces the row with key `k` by its image under `f` if it satisfies `p`, and returns the new
row; changes nothing and returns `none` otherwise. -/
def compareAndSet (k : κ) (p : ρ → Prop) [DecidablePred p] (f : ρ → ρ) : Uow σ ε (Option ρ) :=
  fun s =>
    match (get s).find? k with
    | some r => if p r then .ok (some (f r), set ((get s).put (f r)) s) else .ok (none, s)
    | none => .ok (none, s)

variable {get set} {s s' : σ} {row : ρ} {e : ε} {k : κ} {p : ρ → Prop} [DecidablePred p]
  {f : ρ → ρ}

theorem insertRow_ok {r : Unit × σ} :
    insertRow get set row e s = .ok r ↔
      ∃ t, (get s).insert? row = some t ∧ r = ((), set t s) := by
  unfold insertRow
  cases (get s).insert? row with
  | none => simp
  | some t => simp [eq_comm]

@[simp] theorem insertRow_bind_ok {g : Unit → Uow σ ε α} {r : α × σ} :
    (insertRow get set row e >>= g) s = .ok r ↔
      ∃ t, (get s).insert? row = some t ∧ g () (set t s) = .ok r := by
  rw [bind_ok]
  constructor
  · rintro ⟨_, _, hx, h⟩
    obtain ⟨t, ht, he⟩ := insertRow_ok.1 hx
    cases he
    exact ⟨t, ht, h⟩
  · rintro ⟨t, ht, h⟩
    exact ⟨(), set t s, insertRow_ok.2 ⟨t, ht, rfl⟩, h⟩

/-- **A compare-and-set changed the one row it names, or nothing.** -/
theorem compareAndSet_ok {o : Option ρ} :
    (compareAndSet get set k p f : Uow σ ε (Option ρ)) s = .ok (o, s') ↔
      (∃ r, (get s).find? k = some r ∧ p r ∧ o = some (f r) ∧
        s' = set ((get s).put (f r)) s) ∨
      ((∀ r, (get s).find? k = some r → ¬ p r) ∧ o = none ∧ s' = s) := by
  unfold compareAndSet
  cases hr : (get s).find? k with
  | none => simp [eq_comm]
  | some r =>
    by_cases hp : p r
    · simp [hp, eq_comm]
    · simp [hp, eq_comm]

/-- A compare-and-set that must succeed, followed by the rest of the body. -/
theorem compareAndSet_some {r' : ρ} :
    (compareAndSet get set k p f : Uow σ ε (Option ρ)) s = .ok (some r', s') ↔
      ∃ r, (get s).find? k = some r ∧ p r ∧ r' = f r ∧ s' = set ((get s).put (f r)) s := by
  rw [compareAndSet_ok]
  constructor
  · rintro (⟨r, hr, hp, ho, hs⟩ | ⟨-, ho, -⟩)
    · exact ⟨r, hr, hp, Option.some.inj ho, hs⟩
    · cases ho
  · rintro ⟨r, hr, hp, rfl, hs⟩
    exact .inl ⟨r, hr, hp, rfl, hs⟩

theorem compareAndSet_none :
    (compareAndSet get set k p f : Uow σ ε (Option ρ)) s = .ok (none, s') ↔
      (∀ r, (get s).find? k = some r → ¬ p r) ∧ s' = s := by
  rw [compareAndSet_ok]
  constructor
  · rintro (⟨r, -, -, ho, -⟩ | ⟨h, -, hs⟩)
    · cases ho
    · exact ⟨h, hs⟩
  · rintro ⟨h, hs⟩
    exact .inr ⟨h, rfl, hs⟩

/-- A compare-and-set that aborts when it loses, followed by the rest of the body. -/
theorem orAbort_compareAndSet_bind_ok {g : ρ → Uow σ ε α} {x : α × σ} :
    (orAbort (compareAndSet get set k p f) e >>= g) s = .ok x ↔
      ∃ r, (get s).find? k = some r ∧ p r ∧ g (f r) (set ((get s).put (f r)) s) = .ok x := by
  rw [orAbort_bind_ok]
  constructor
  · rintro ⟨r', s1, hx, h⟩
    obtain ⟨r, hr, hp, rfl, rfl⟩ := compareAndSet_some.1 hx
    exact ⟨r, hr, hp, h⟩
  · rintro ⟨r, hr, hp, h⟩
    exact ⟨f r, _, compareAndSet_some.2 ⟨r, hr, hp, rfl, rfl⟩, h⟩

end Statements

/-- Runs a unit of work on a part of the stored state; its failures become failures of the whole. -/
def within (get : σ → τ) (set : τ → σ → σ) (lift : δ → ε) (x : Uow τ δ α) : Uow σ ε α := fun s =>
  match x (get s) with
  | .ok (a, t) => .ok (a, set t s)
  | .error e => .error (lift e)

theorem within_ok {get : σ → τ} {set : τ → σ → σ} {lift : δ → ε} {x : Uow τ δ α} {s s' : σ}
    {a : α} :
    within get set lift x s = .ok (a, s') ↔ ∃ t, x (get s) = .ok (a, t) ∧ s' = set t s := by
  unfold within
  cases hx : x (get s) with
  | error e => simp
  | ok r =>
    obtain ⟨b, t⟩ := r
    simp only [Except.ok.injEq, Prod.mk.injEq]
    constructor
    · rintro ⟨rfl, rfl⟩
      exact ⟨t, ⟨rfl, rfl⟩, rfl⟩
    · rintro ⟨t', ⟨rfl, rfl⟩, rfl⟩
      exact ⟨rfl, rfl⟩

/-! ### Respect for a relation

If every statement takes the stored state to one that a preorder relates it to, so does the whole unit
of work.  The rules are instances, so that the relation is found along the text of the unit of work. -/

/-- Whatever the unit of work commits is related to what it found. -/
class Respects (R : σ → σ → Prop) (x : Uow σ ε α) : Prop where
  rel : ∀ {s a s'}, x s = .ok (a, s') → R s s'

namespace Respects

variable {R : σ → σ → Prop}

theorem stored [Std.Refl R] (x : Uow σ ε α) [Respects R x] (s : σ) : R s (x.stored s) := by
  rcases stored_cases x s with hsame | ⟨a, hok⟩
  · rw [hsame]
    exact refl_of R s
  · exact rel hok

variable {x : Uow σ ε α}

theorem unchanged [Respects Eq x] {s s' : σ} {a : α} (h : x s = .ok (a, s')) :
    s' = s := (rel (R := Eq) h).symm

theorem unchanged_bind [Respects Eq x] {f : α → Uow σ ε β} {s : σ} {r : β × σ}
    (h : (x >>= f) s = .ok r) : ∃ a, x s = .ok (a, s) ∧ f a s = .ok r := by
  obtain ⟨a, s1, hx, hf⟩ := bind_ok.1 h
  obtain rfl := unchanged hx
  exact ⟨a, hx, hf⟩

/-! ### Rules -/

instance pure [Std.Refl R] (a : α) : Respects R (Pure.pure a : Uow σ ε α) where
  rel h := by
    cases pure_ok.1 h
    exact refl_of R _

instance bind [IsTrans σ R] (x : Uow σ ε α) (f : α → Uow σ ε β) [hx : Respects R x]
    [hf : ∀ a, Respects R (f a)] : Respects R (x >>= f) where
  rel h := by
    obtain ⟨a, s1, h1, h2⟩ := bind_ok.1 h
    exact trans_of R (hx.rel h1) ((hf a).rel h2)

theorem seq [IsTrans σ R] (x : Uow σ ε α) (f : α → Uow σ ε β) [Respects R x]
    (hf : ∀ a, Respects R (f a)) : Respects R (x >>= f) := bind x f

theorem both [IsTrans σ R] {f : α → Uow σ ε β} (hx : Respects R x) (hf : ∀ a, Respects R (f a)) :
    Respects R (x >>= f) := bind x f

/-- The rules, along the text of a unit of work. -/
theorem along (h : Respects R x := by
    repeat' first | with_reducible refine .both ?_ fun _ => ?_ | infer_instance | split) :
    Respects R x := h

instance ensure [Std.Refl R] (p : Prop) [Decidable p] (e : ε) :
    Respects R (Uow.ensure p e : Uow σ ε Unit) where
  rel h := by
    obtain ⟨-, h⟩ := ensure_ok.1 h
    cases h
    exact refl_of R _

instance expect [Std.Refl R] (o : Option α) (e : ε) :
    Respects R (Uow.expect o e : Uow σ ε α) where
  rel h := by
    obtain ⟨_, -, h⟩ := expect_ok.1 h
    cases h
    exact refl_of R _

instance reads [Std.Refl R] (f : σ → α) : Respects R (Uow.reads f : Uow σ ε α) where
  rel h := by
    cases reads_ok.1 h
    exact refl_of R _

instance abort (e : ε) : Respects R (Uow.abort e : Uow σ ε α) where
  rel h := (abort_ok.1 h).elim

instance ite (p : Prop) [Decidable p] (x y : Uow σ ε α) [hx : Respects R x] [hy : Respects R y] :
    Respects R (if p then x else y) := by
  split
  · exact hx
  · exact hy

instance mapError (f : ε → ε) (x : Uow σ ε α) [hx : Respects R x] :
    Respects R (Uow.mapError f x) where
  rel h := hx.rel (mapError_ok.1 h)

instance orAbort (x : Uow σ ε (Option α)) (e : ε) [hx : Respects R x] :
    Respects R (Uow.orAbort x e) where
  rel h := hx.rel (orAbort_ok.1 h)

/-! ### Statements -/

theorem writes {f : σ → σ} (h : ∀ s, R s (f s)) : Respects R (Uow.writes f : Uow σ ε Unit) where
  rel hok := by
    cases writes_ok.1 hok
    exact h _

variable {get : σ → Table key} {set : Table key → σ → σ}

theorem insertRow {row : ρ} {e : ε} (h : ∀ s t, (get s).insert? row = some t → R s (set t s)) :
    Respects R (Uow.insertRow get set row e) where
  rel hok := by
    obtain ⟨t, ht, hr⟩ := insertRow_ok.1 hok
    cases hr
    exact h _ t ht

theorem compareAndSet [Std.Refl R] {k : κ} {p : ρ → Prop} [DecidablePred p] {f : ρ → ρ}
    (h : ∀ s r, (get s).find? k = some r → p r → R s (set ((get s).put (f r)) s)) :
    Respects R (Uow.compareAndSet get set k p f : Uow σ ε (Option ρ)) where
  rel hok := by
    rcases compareAndSet_ok.1 hok with ⟨r, hr, hp, -, rfl⟩ | ⟨-, -, rfl⟩
    · exact h _ r hr hp
    · exact refl_of R _

/-- A unit of work on a part of the state. -/
theorem within {T : τ → τ → Prop} {get : σ → τ} {set : τ → σ → σ} {lift : δ → ε} {x : Uow τ δ α}
    [hx : Respects T x] (h : ∀ s t, T (get s) t → R s (set t s)) :
    Respects R (Uow.within get set lift x) where
  rel hok := by
    obtain ⟨t, ht, rfl⟩ := within_ok.1 hok
    exact h _ t (hx.rel ht)

end Respects

end Relational.Uow

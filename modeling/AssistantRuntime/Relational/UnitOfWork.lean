/-
**Units of work and runs of a transactional system.**

A unit of work reads and writes a stored state and either commits or aborts.  An abort discards
every write, so what other parties see of a unit of work is one atomic step or nothing.  A system
is then a relation between stored states, labelled by the request that was served, and its
behaviours are the finite runs of that relation.

Main results:

* `Uow.bind_ok` and its companions take a committed body apart, statement by statement, and
  `Uow.bind_error` and its companions an aborted one;
* `Run.invariant` — **a property that every step preserves holds along every run**.
-/

import Mathlib.Logic.Basic

namespace Relational

/-- A transaction body over the stored state `σ` that may abort with an error of type `ε`. -/
abbrev Uow (σ ε : Type) := StateT σ (Except ε)

namespace Uow

variable {σ ε α β : Type}

def ensure (p : Prop) [Decidable p] (e : ε) : Uow σ ε Unit := fun s =>
  if p then .ok ((), s) else .error e

def expect (o : Option α) (e : ε) : Uow σ ε α := fun s =>
  match o with
  | some a => .ok (a, s)
  | none => .error e

def reads (f : σ → α) : Uow σ ε α := fun s => .ok (f s, s)

def writes (f : σ → σ) : Uow σ ε Unit := fun s => .ok ((), f s)

def abort (e : ε) : Uow σ ε α := fun _ => .error e

def mapError (f : ε → ε) (x : Uow σ ε α) : Uow σ ε α := fun s =>
  match x s with
  | .ok r => .ok r
  | .error e => .error (f e)

/-- The stored state after a unit of work: an aborted one leaves it as it was. -/
def stored (x : Uow σ ε α) (s : σ) : σ :=
  match x s with
  | .ok (_, s') => s'
  | .error _ => s

section Inversion

variable {s s' : σ} {a : α} {r : α × σ} {x : Uow σ ε α}

theorem bind_ok {f : α → Uow σ ε β} {r : β × σ} :
    (x >>= f) s = .ok r ↔ ∃ a s1, x s = .ok (a, s1) ∧ f a s1 = .ok r := by
  constructor
  · intro h
    cases hx : x s with
    | error e =>
      have : (x >>= f) s = .error e := by simp [bind, StateT.bind, hx, Except.bind]
      rw [this] at h
      cases h
    | ok p =>
      have : (x >>= f) s = f p.1 p.2 := by simp [bind, StateT.bind, hx, Except.bind]
      exact ⟨p.1, p.2, rfl, this ▸ h⟩
  · rintro ⟨a, s1, hx, hf⟩
    have : (x >>= f) s = f a s1 := by simp [bind, StateT.bind, hx, Except.bind]
    rw [this, hf]

theorem pure_ok : (pure a : Uow σ ε α) s = .ok r ↔ r = (a, s) :=
  ⟨fun h => (Except.ok.inj h).symm, fun h => h ▸ rfl⟩

theorem pure_mk {b : α} : (pure a : Uow σ ε α) s = .ok (b, s') ↔ b = a ∧ s' = s :=
  pure_ok.trans (Prod.mk.injEq .. ▸ Iff.rfl)

variable {e : ε} {p : Prop}

theorem ensure_ok [Decidable p] {r : Unit × σ} :
    ensure p e s = .ok r ↔ p ∧ r = ((), s) := by
  unfold ensure
  split
  · next h => exact ⟨fun he => ⟨h, (Except.ok.inj he).symm⟩, fun he => he.2 ▸ rfl⟩
  · next h => exact ⟨nofun, fun he => absurd he.1 h⟩

theorem expect_ok {o : Option α} :
    expect o e s = .ok r ↔ ∃ a, o = some a ∧ r = (a, s) := by
  cases o with
  | none => simp [expect]
  | some a => simp [expect, eq_comm]

theorem reads_ok {f : σ → α} : (reads f : Uow σ ε α) s = .ok r ↔ r = (f s, s) :=
  ⟨fun h => (Except.ok.inj h).symm, fun h => h ▸ rfl⟩

theorem writes_ok {f : σ → σ} {r : Unit × σ} :
    (writes f : Uow σ ε Unit) s = .ok r ↔ r = ((), f s) :=
  ⟨fun h => (Except.ok.inj h).symm, fun h => h ▸ rfl⟩

theorem abort_ok : (abort e : Uow σ ε α) s = .ok r ↔ False :=
  ⟨nofun, False.elim⟩

theorem mapError_ok {f : ε → ε} : mapError f x s = .ok r ↔ x s = .ok r := by
  unfold mapError
  cases x s <;> simp

theorem ite_ok {c : Prop} [Decidable c] {y : Uow σ ε α} :
    (if c then x else y) s = .ok r ↔ (c ∧ x s = .ok r) ∨ (¬ c ∧ y s = .ok r) := by
  by_cases hc : c
  · simp [hc]
  · simp [hc]

/-! The same, for a statement followed by the rest of the body. -/

@[simp] theorem ensure_bind_ok [Decidable p] {f : Unit → Uow σ ε α} :
    (ensure p e >>= f) s = .ok r ↔ p ∧ f () s = .ok r := by
  rw [bind_ok]
  constructor
  · rintro ⟨_, _, hx, h⟩
    obtain ⟨hp, he⟩ := ensure_ok.1 hx
    cases he
    exact ⟨hp, h⟩
  · rintro ⟨hp, h⟩
    exact ⟨(), s, ensure_ok.2 ⟨hp, rfl⟩, h⟩

variable {f : β → Uow σ ε α}

@[simp] theorem expect_bind_ok {o : Option β} :
    (expect o e >>= f) s = .ok r ↔ ∃ b, o = some b ∧ f b s = .ok r := by
  rw [bind_ok]
  constructor
  · rintro ⟨_, _, hx, h⟩
    obtain ⟨_, hb, he⟩ := expect_ok.1 hx
    cases he
    exact ⟨_, hb, h⟩
  · rintro ⟨b, hb, h⟩
    exact ⟨b, s, expect_ok.2 ⟨b, hb, rfl⟩, h⟩

@[simp] theorem reads_bind_ok {g : σ → β} :
    ((reads g : Uow σ ε β) >>= f) s = .ok r ↔ f (g s) s = .ok r := Iff.rfl

@[simp] theorem writes_bind_ok {g : σ → σ} {f : Unit → Uow σ ε α} :
    ((writes g : Uow σ ε Unit) >>= f) s = .ok r ↔ f () (g s) = .ok r := Iff.rfl

@[simp] theorem pure_bind_ok {b : β} :
    ((pure b : Uow σ ε β) >>= f) s = .ok r ↔ f b s = .ok r := Iff.rfl

/-- The checks and the reads of a body, for `simp` to take off one after another. -/
theorem steps_ok :
    (∀ {e : ε} {p : Prop} [Decidable p] {f : Unit → Uow σ ε α},
      (ensure p e >>= f) s = .ok r ↔ p ∧ f () s = .ok r) ∧
    (∀ {e : ε} {β : Type} {f : β → Uow σ ε α} {o : Option β},
      (expect o e >>= f) s = .ok r ↔ ∃ b, o = some b ∧ f b s = .ok r) ∧
    ∀ {β : Type} {f : β → Uow σ ε α} {g : σ → β},
      ((reads g : Uow σ ε β) >>= f) s = .ok r ↔ f (g s) s = .ok r :=
  ⟨ensure_bind_ok, expect_bind_ok, reads_bind_ok⟩

attribute [simp] pure_ok ensure_ok expect_ok reads_ok writes_ok abort_ok

/-! What a body aborted with. -/

theorem bind_error {f : α → Uow σ ε β} :
    (x >>= f) s = .error e ↔
      x s = .error e ∨ ∃ a s1, x s = .ok (a, s1) ∧ f a s1 = .error e := by
  cases hx : x s with
  | error e' =>
    have hbind : (x >>= f) s = .error e' := by simp [bind, StateT.bind, hx, Except.bind]
    rw [hbind]
    simp
  | ok p =>
    have hbind : (x >>= f) s = f p.1 p.2 := by simp [bind, StateT.bind, hx, Except.bind]
    rw [hbind]
    constructor
    · exact fun h => .inr ⟨p.1, p.2, rfl, h⟩
    · rintro (h | ⟨a, s1, h, hf⟩)
      · cases h
      · cases h
        exact hf

theorem ensure_bind_error [Decidable p] {e' : ε} {f : Unit → Uow σ ε α} :
    (ensure p e >>= f) s = .error e' ↔ (¬ p ∧ e' = e) ∨ (p ∧ f () s = .error e') := by
  rw [bind_error]
  unfold ensure
  by_cases hp : p
  · simp only [hp, if_true, not_true_eq_false, false_and, true_and, false_or, reduceCtorEq]
    constructor
    · rintro ⟨_, _, hx, hf⟩
      cases hx
      exact hf
    · exact fun hf => ⟨(), s, rfl, hf⟩
  · simp [hp, eq_comm]

theorem expect_bind_error {o : Option β} {e' : ε} :
    (expect o e >>= f) s = .error e' ↔
      (o = none ∧ e' = e) ∨ ∃ b, o = some b ∧ f b s = .error e' := by
  rw [bind_error]
  cases o with
  | none => simp [expect, eq_comm]
  | some b => simp [expect, and_assoc]

theorem reads_bind_error {g : σ → β} :
    ((reads g : Uow σ ε β) >>= f) s = .error e ↔ f (g s) s = .error e := by
  rw [bind_error]
  simp [reads, and_assoc]

theorem pure_error : (pure a : Uow σ ε α) s = .error e ↔ False := by
  constructor
  · intro h
    cases h
  · exact False.elim

/-- What a unit of work leaves stored is what it was, or what a commit wrote. -/
theorem stored_cases (x : Uow σ ε α) (s : σ) :
    stored x s = s ∨ ∃ a, x s = .ok (a, stored x s) := by
  cases h : x s with
  | error e => exact .inl (by simp [stored, h])
  | ok p => exact .inr ⟨p.1, by simp [stored, h]⟩

theorem ok_of_toOption {r : Except ε α} (h : r.toOption = some a) : r = .ok a := by
  cases r with
  | error e => cases h
  | ok b => exact congrArg _ (Option.some.inj h)

theorem stored_of_ok (h : x s = .ok (a, s')) : stored x s = s' := by
  simp [stored, h]

end Inversion

/-! ### Errors

That no error of a body is of a certain kind is shown by one rule per statement. -/

/-- Every error that the unit of work aborts with satisfies the predicate. -/
def Raises (P : ε → Prop) (x : Uow σ ε α) : Prop := ∀ s e, x s = .error e → P e

namespace Raises

variable {P : ε → Prop}

theorem pure (a : α) : Raises P (Pure.pure a : Uow σ ε α) := by
  intro s e h
  exact (pure_error.1 h).elim

theorem reads (f : σ → α) : Raises P (Uow.reads f : Uow σ ε α) := by
  intro s e h
  cases h

theorem writes (f : σ → σ) : Raises P (Uow.writes f : Uow σ ε Unit) := by
  intro s e h
  cases h

theorem ensure {p : Prop} [Decidable p] {e : ε} (he : P e) :
    Raises P (Uow.ensure p e : Uow σ ε Unit) := by
  intro s e' h
  unfold Uow.ensure at h
  split at h
  · cases h
  · cases h
    exact he

theorem expect {o : Option α} {e : ε} (he : P e) : Raises P (Uow.expect o e : Uow σ ε α) := by
  intro s e' h
  cases o with
  | some a => cases h
  | none =>
    cases h
    exact he

theorem bind {x : Uow σ ε α} {f : α → Uow σ ε β} (hx : Raises P x) (hf : ∀ a, Raises P (f a)) :
    Raises P (x >>= f) := by
  intro s e h
  rcases bind_error.1 h with herror | ⟨a, s1, -, herror⟩
  · exact hx s e herror
  · exact hf a s1 e herror

theorem ite {p : Prop} [Decidable p] {x y : Uow σ ε α} (hx : Raises P x) (hy : Raises P y) :
    Raises P (if p then x else y) := by
  split
  · exact hx
  · exact hy

end Raises

end Uow

/-! ### Runs -/

section Runs

variable {σ ℓ : Type} {step : ℓ → σ → σ → Prop}

/-- The finite runs of a labelled transition relation. -/
inductive Run (step : ℓ → σ → σ → Prop) : σ → List ℓ → σ → Prop
  | nil (s : σ) : Run step s [] s
  | cons {s s₁ s' : σ} {l : ℓ} {ls : List ℓ} :
      step l s s₁ → Run step s₁ ls s' → Run step s (l :: ls) s'

namespace Run

variable {s s1 s' : σ} {l : ℓ} {ls ls' : List ℓ}

/-- **The invariant rule.** -/
theorem invariant {P : σ → Prop} (hstep : ∀ l s s', P s → step l s s' → P s')
    (h : Run step s ls s') (hs : P s) : P s' := by
  induction h with
  | nil => exact hs
  | cons hl _ ih => exact ih (hstep _ _ _ hs hl)

/-- A relation that holds across every step and composes holds across a run. -/
theorem composes {R : σ → σ → Prop} (hrefl : ∀ s, R s s)
    (htrans : ∀ {a b c}, R a b → R b c → R a c) (hstep : ∀ l s s', step l s s' → R s s')
    (h : Run step s ls s') : R s s' := by
  induction h with
  | nil => exact hrefl _
  | cons hl _ ih => exact htrans (hstep _ _ _ hl) ih

theorem append (h : Run step s ls s1) (h' : Run step s1 ls' s') : Run step s (ls ++ ls') s' := by
  induction h with
  | nil => exact h'
  | cons hl _ ih => exact .cons hl (ih h')

/-- A run under a relation is a run under any relation that allows its steps. -/
theorem mono {step' : ℓ → σ → σ → Prop} (hsub : ∀ l s s', step l s s' → step' l s s')
    (h : Run step s ls s') : Run step' s ls s' := by
  induction h with
  | nil => exact .nil _
  | cons hl _ ih => exact .cons (hsub _ _ _ hl) ih

end Run

end Runs

end Relational

/-
**Machines given by a step function, and calls that leave receipts.**

A machine takes one step after the other; a step is a function of the state and of what happens, and
is undefined where it cannot be taken.  `Run` is about step relations; here are the ones
of machines, with and without a condition on their steps, and the run that a list of acts leads to.

Main results:

* `run_exec` — what the function computes is a run;
* `run_execWhen` — the same for steps that meet a condition;
* `throughout_iff_allMeet` — a property that a step keeps exactly if it meets the condition holds on
  the whole way exactly if all steps meet it;
* `Receipted.onceOnly` — **of the calls with one key only the first does anything**.
-/

import AssistantRuntime.Relational.UnitOfWork
import Mathlib.Data.Option.Basic

namespace Relational

open Option

variable {σ ℓ : Type} {step : σ → ℓ → Option σ} {ok : σ → ℓ → Prop} {s s' : σ} {ls : List ℓ}

def Takes (step : σ → ℓ → Option σ) (l : ℓ) (s s' : σ) : Prop := step s l = some s'

def TakesWhen (ok : σ → ℓ → Prop) (step : σ → ℓ → Option σ) (l : ℓ) (s s' : σ) : Prop :=
  ok s l ∧ step s l = some s'

def exec (step : σ → ℓ → Option σ) : σ → List ℓ → Option σ
  | s, [] => some s
  | s, l :: ls => (step s l).bind fun s₁ => exec step s₁ ls

theorem toOption_eq_some {ε α : Type} {x : Except ε α} {a : α} :
    x.toOption = some a ↔ x = .ok a := by
  cases x <;> simp [Except.toOption]

/-- A step that is taken under a condition on something that has to be there. -/
theorem bind_guard_eq_some {α β : Type} {o : Option α} {P : α → Prop} [DecidablePred P] {f : α → β}
    {b : β} :
    (do let a ← o; guard (P a); pure (f a)) = some b ↔ ∃ a, o = some a ∧ P a ∧ f a = b := by
  simp [bind_eq_some_iff, guard_eq_some']

theorem guard_eq_some {β : Type} {p : Prop} [Decidable p] {b b' : β} :
    (do guard p; pure b) = some b' ↔ p ∧ b = b' := by
  simp [bind_eq_some_iff, guard_eq_some']

theorem run_exec (h : exec step s ls = some s') : Run (Takes step) s ls s' := by
  induction ls generalizing s with
  | nil =>
    cases h
    exact .nil _
  | cons l ls ih =>
    obtain ⟨s1, hl, hls⟩ := bind_eq_some_iff.1 h
    exact .cons hl (ih hls)

/-- The acts of a list all meet the condition in the state in which they are taken. -/
def AllMeet (ok : σ → ℓ → Prop) (step : σ → ℓ → Option σ) : σ → List ℓ → Prop
  | _, [] => True
  | s, l :: ls => ok s l ∧ ∀ s₁ ∈ step s l, AllMeet ok step s₁ ls

instance AllMeet.decidable [∀ s l, Decidable (ok s l)] :
    ∀ s ls, Decidable (AllMeet ok step s ls)
  | _, [] => .isTrue trivial
  | s, l :: ls =>
    have : ∀ s1, Decidable (AllMeet ok step s1 ls) := fun s1 => AllMeet.decidable s1 ls
    inferInstanceAs (Decidable (ok s l ∧ ∀ s1 ∈ step s l, AllMeet ok step s1 ls))

/-- What the machine computes for acts that all meet the condition is a run under it. -/
theorem run_execWhen (h : exec step s ls = some s') (hok : AllMeet ok step s ls) :
    Run (TakesWhen ok step) s ls s' := by
  induction ls generalizing s with
  | nil =>
    cases h
    exact .nil _
  | cons l ls ih =>
    obtain ⟨s1, hl, hls⟩ := bind_eq_some_iff.1 h
    exact .cons ⟨hok.1, hl⟩ (ih hls (hok.2 s1 hl))

/-- The property holds of all states on the way. -/
def Throughout (P : σ → Prop) (step : σ → ℓ → Option σ) : σ → List ℓ → Prop
  | s, [] => P s
  | s, l :: ls => P s ∧ ∀ s₁ ∈ step s l, Throughout P step s₁ ls

theorem Throughout.head {P : σ → Prop} (h : Throughout P step s ls) : P s := by
  cases ls with
  | nil => exact h
  | cons l ls => exact h.1

theorem Throughout.mono {P Q : σ → Prop} (hPQ : ∀ s, P s → Q s) (h : Throughout P step s ls) :
    Throughout Q step s ls := by
  induction ls generalizing s with
  | nil => exact hPQ s h
  | cons l ls ih => exact ⟨hPQ s h.1, fun s1 hl => ih (h.2 s1 hl)⟩

theorem AllMeet.mono {ok' : σ → ℓ → Prop} (hok : ∀ s l, ok s l → ok' s l)
    (h : AllMeet ok step s ls) : AllMeet ok' step s ls := by
  induction ls generalizing s with
  | nil => trivial
  | cons l ls ih => exact ⟨hok s l h.1, fun s1 hl => ih (h.2 s1 hl)⟩

/-- What a step keeps if it meets the condition holds on the way of acts that all meet it. -/
theorem AllMeet.throughout {I : σ → Prop}
    (hstep : ∀ s l s', I s → ok s l → step s l = some s' → I s') (hs : I s)
    (h : AllMeet ok step s ls) : Throughout I step s ls := by
  induction ls generalizing s with
  | nil => exact hs
  | cons l ls ih => exact ⟨hs, fun s1 hl => ih (hstep s l s1 hs h.1 hl) (h.2 s1 hl)⟩

/-- **A property is kept on the way exactly if every step meets the condition**, when the condition is
exactly what keeps it in one step. -/
theorem throughout_iff_allMeet {I P : σ → Prop} (hidle : ∀ s l, step s l = none → ok s l)
    (hstep : ∀ s l s', I s → P s → step s l = some s' → I s' ∧ (P s' ↔ ok s l))
    (hinv : I s) (hs : P s) : Throughout P step s ls ↔ AllMeet ok step s ls := by
  induction ls generalizing s with
  | nil => exact ⟨fun _ => trivial, fun _ => hs⟩
  | cons l ls ih =>
    cases hl : step s l with
    | none => simp [Throughout, AllMeet, hl, hs, hidle s l hl]
    | some s1 =>
      obtain ⟨hinv1, hiff⟩ := hstep s l s1 hinv hs hl
      simp only [Throughout, AllMeet, hl, mem_some_iff, forall_eq', hs, true_and]
      constructor
      · intro h
        exact ⟨hiff.1 h.head, (ih hinv1 h.head).1 h⟩
      · rintro ⟨hok, h⟩
        exact (ih hinv1 (hiff.2 hok)).2 h

/-! ### Calls that leave a receipt

A call carries a key of its own.  The first call with a key leaves a receipt under that key, together
with whatever it does; a later call with the key finds the receipt, compares itself with it, and
answers from it.  If receipts are never lost, only the first call with a key does anything. -/

section

variable {σ γ α κ ρ ι ω ℓ : Type}

/-- Calls `c : γ` return answers `a : α` and take states to states.  `look k` is the receipt under
the key `k`, `Agrees r c` says that the receipt is one of the call, and `idsOf r` is what the answer
repeats of it. -/
structure Receipted (Returns : γ → α → σ → σ → Prop) (Kept : σ → σ → Prop) (key : γ → κ)
    (look : κ → σ → Option ρ) (Agrees : ρ → γ → Prop) (ids : α → ι) (idsOf : ρ → ι) : Prop where
  /-- Receipts are never lost. -/
  kept : ∀ {s s'}, Kept s s' → ∀ {k r}, look k s = some r → look k s' = some r
  /-- A call answers from the receipt of its key and does nothing, or it leaves that receipt. -/
  returns : ∀ {c a s s'}, Returns c a s s' →
    (∃ r, look (key c) s = some r ∧ Agrees r c ∧ ids a = idsOf r ∧ s' = s) ∨
      (look (key c) s = none ∧ ∃ r, look (key c) s' = some r ∧ Agrees r c ∧ ids a = idsOf r)

namespace Receipted

variable {Returns : γ → α → σ → σ → Prop} {Kept : σ → σ → Prop} {key : γ → κ}
  {look : κ → σ → Option ρ} {Agrees : ρ → γ → Prop} {ids : α → ι} {idsOf : ρ → ι}

variable (h : Receipted Returns Kept key look Agrees ids idsOf)

include h

theorem receipt {c : γ} {a : α} {s s' : σ} (hc : Returns c a s s') :
    ∃ r, look (key c) s' = some r ∧ Agrees r c ∧ ids a = idsOf r := by
  rcases h.returns hc with ⟨r, hr, hagrees, hids, rfl⟩ | ⟨-, r, hr, hagrees, hids⟩
  · exact ⟨r, hr, hagrees, hids⟩
  · exact ⟨r, hr, hagrees, hids⟩

/-- **Of two calls with one key only the first does anything, and both answer from one receipt.** -/
theorem once {c c' : γ} {a a' : α} {s1 s2 s3 s4 : σ} (hfirst : Returns c a s1 s2)
    (hkept : Kept s2 s3) (hlater : Returns c' a' s3 s4) (hkey : key c' = key c) :
    s4 = s3 ∧ ids a' = ids a ∧ ∃ r, Agrees r c ∧ Agrees r c' := by
  obtain ⟨r, hr, hagrees, hids⟩ := h.receipt hfirst
  have hr3 := h.kept hkept hr
  rcases h.returns hlater with ⟨r', hr', hagrees', hids', rfl⟩ | ⟨hnone, -⟩
  · -- the receipt that the later call found is the one that the first call left
    rw [hkey, hr3] at hr'
    cases hr'
    exact ⟨rfl, hids'.trans hids.symm, r, hagrees, hagrees'⟩
  · rw [hkey, hr3] at hnone
    cases hnone

end Receipted

/-- **Once only.**  A call that returns did nothing or what its kind does (`Does`); and a call that
returns at any time after another one with its key did nothing, returns the same ids, and means the
same. -/
def OnceOnly (step : ℓ → σ → σ → Prop) (Returns Does : γ → α → σ → σ → Prop) (key : γ → κ)
    (ids : α → ι) (semantics : γ → ω) : Prop :=
  (∀ c a s s', Returns c a s s' → s' = s ∨ Does c a s s') ∧
    ∀ c c' a a' s₁ s₂ ls s₃ s₄, Returns c a s₁ s₂ → Run step s₂ ls s₃ → Returns c' a' s₃ s₄ →
      key c' = key c → s₄ = s₃ ∧ ids a' = ids a ∧ semantics c' = semantics c

/-- Calls that leave receipts happen once, if runs keep receipts and a receipt agrees with calls of
one meaning only. -/
theorem Receipted.onceOnly {step : ℓ → σ → σ → Prop} {Returns Does : γ → α → σ → σ → Prop}
    {Kept : σ → σ → Prop} {key : γ → κ} {look : κ → σ → Option ρ} {Agrees : ρ → γ → Prop}
    {ids : α → ι} {idsOf : ρ → ι} {semantics : γ → ω}
    (h : Receipted Returns Kept key look Agrees ids idsOf)
    (hdoes : ∀ c a s s', Returns c a s s' → s' = s ∨ Does c a s s')
    (hkept : ∀ s ls s', Run step s ls s' → Kept s s')
    (hagrees : ∀ r c c', Agrees r c → Agrees r c' → semantics c' = semantics c) :
    OnceOnly step Returns Does key ids semantics := by
  refine ⟨hdoes, ?_⟩
  intro c c' a a' s1 s2 ls s3 s4 hfirst hrun hlater hkey
  obtain ⟨hsame, hids, r, hr, hr'⟩ := h.once hfirst (hkept _ _ _ hrun) hlater hkey
  exact ⟨hsame, hids, hagrees r c c' hr hr'⟩

end

end Relational

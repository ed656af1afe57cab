/-
**Rely and guarantee for programs that share a store.**

What a worker may count on while others act is its *rely*; what it lets others count on is its
*guarantee*.  If the guarantee of every worker is within the rely of every other one, then each
program can be examined on its own, action by action, and what was shown of each of them holds in all
interleavings of any number of them.

* `Protocol` — an invariant of the store, the relies and the guarantees of workers, and what a
  worker must know when it asks a question;
* `Safe` — a program keeps to the protocol from a state on, and its result satisfies a
  postcondition;
* `Safe.bind`, `Safe.mono`, `Safe.stable` — the rules of it;
* `Keeps` — the same for calls that may raise;
* `Protocol.Holds.reaches` — **in every reachable system the invariant holds and every worker keeps
  to the protocol**;
* `Protocol.Holds.relates` — what every guarantee implies holds between any two states of a run.
-/

import AssistantRuntime.Concurrent.Program

namespace Concurrent

variable {σ Q : Type} {A : Q → Type} {α β ε : Type}

/-! ### Protocols -/

structure Protocol (σ Q : Type) where
  /-- Holds of the store at all times. -/
  inv : σ → Prop
  /-- How the store may change while the worker is not acting. -/
  rely : ℕ → σ → σ → Prop
  /-- How an action of the worker may change the store. -/
  guar : ℕ → σ → σ → Prop
  /-- What holds when the worker asks a question. -/
  may : ℕ → Q → σ → Prop
  /-- The store knows nothing of the worker. -/
  fresh : ℕ → σ → Prop
  rely_refl : ∀ i s, rely i s s
  rely_trans : ∀ {i s₁ s₂ s₃}, rely i s₁ s₂ → rely i s₂ s₃ → rely i s₁ s₃
  guar_rely : ∀ {i j s s'}, i ≠ j → inv s → guar j s s' → rely i s s'
  guar_inv : ∀ {i s s'}, inv s → guar i s s' → inv s'
  guar_fresh : ∀ {i j s s'}, i ≠ j → guar j s s' → fresh i s → fresh i s'

variable (P : Protocol σ Q) (allow : (q : Q) → A q → σ → Prop)

/-- **The program keeps to the protocol** when the worker `i` runs it from the state `s` on, whatever
others do in between, and ends in a state that satisfies `post`. -/
def Safe (i : ℕ) : Prog σ Q A α → (α → σ → Prop) → σ → Prop
  | .ret a, post, s => post a s
  | .act _ f k, post, s => ∀ s₁, P.inv s₁ → P.rely i s s₁ →
      P.guar i s₁ (f i s₁).2 ∧ Safe i (k (f i s₁).1) post (f i s₁).2
  | .ask q k, post, s => ∀ s₁, P.inv s₁ → P.rely i s s₁ →
      P.may i q s₁ ∧ ∀ a, allow q a s₁ → Safe i (k a) post s₁

variable {P allow} {i : ℕ} {s s' : σ}

namespace Safe

variable {p : Prog σ Q A α}

theorem bind {g : α → Prog σ Q A β} {post : β → σ → Prop}
    (h : Safe P allow i p (fun a s => Safe P allow i (g a) post s) s) :
    Safe P allow i (p >>= g) post s := by
  induction p generalizing s with
  | ret a => exact h
  | act ρ f k ih =>
    intro s1 hinv hrely
    obtain ⟨hguar, hrest⟩ := h s1 hinv hrely
    exact ⟨hguar, ih _ hrest⟩
  | ask q k ih =>
    intro s1 hinv hrely
    obtain ⟨hmay, hrest⟩ := h s1 hinv hrely
    exact ⟨hmay, fun a ha => ih a (hrest a ha)⟩

theorem mono {post post' : α → σ → Prop} (hpost : ∀ a s, post a s → post' a s)
    (h : Safe P allow i p post s) : Safe P allow i p post' s := by
  induction p generalizing s with
  | ret a => exact hpost a s h
  | act ρ f k ih =>
    intro s1 hinv hrely
    obtain ⟨hguar, hrest⟩ := h s1 hinv hrely
    exact ⟨hguar, ih _ hrest⟩
  | ask q k ih =>
    intro s1 hinv hrely
    obtain ⟨hmay, hrest⟩ := h s1 hinv hrely
    exact ⟨hmay, fun a ha => ih a (hrest a ha)⟩

/-- A program without a postcondition that others could break stays safe while others act. -/
theorem stable (h : Safe P allow i p (fun _ _ => True) s) (hrely : P.rely i s s') :
    Safe P allow i p (fun _ _ => True) s' := by
  cases p with
  | ret a => trivial
  | act | ask => exact fun s1 hinv hrely' => h s1 hinv (P.rely_trans hrely hrely')

end Safe

/-! ### Calls that may raise -/

/-- **The call keeps to the protocol**, and if it returns, what it returns satisfies `post`. -/
def Keeps (P : Protocol σ Q) (allow : (q : Q) → A q → σ → Prop) (i : ℕ)
    (x : ExceptT ε (Prog σ Q A) α) (post : α → σ → Prop) (s : σ) : Prop :=
  Safe P allow i x.run (fun r s => ∀ a, r = .ok a → post a s) s

namespace Keeps

variable {x : ExceptT ε (Prog σ Q A) α} {g : α → ExceptT ε (Prog σ Q A) β} {post : β → σ → Prop}

theorem pure {a : α} {post : α → σ → Prop} (h : post a s) :
    Keeps P allow i (Pure.pure a : ExceptT ε (Prog σ Q A) α) post s :=
  fun _ hb => (Except.ok.inj hb) ▸ h

theorem throw {e : ε} {post : α → σ → Prop} :
    Keeps P allow i (throw e : ExceptT ε (Prog σ Q A) α) post s :=
  fun _ hb => nomatch hb

theorem bind (h : Keeps P allow i x (fun a s => Keeps P allow i (g a) post s) s) :
    Keeps P allow i (x >>= g) post s := by
  refine Safe.bind ?_
  refine .mono ?_ h
  intro r s hr
  cases r with
  | ok a => exact hr a rfl
  | error e => exact throw

theorem mono {post post' : α → σ → Prop} (hpost : ∀ a s, post a s → post' a s)
    (h : Keeps P allow i x post s) : Keeps P allow i x post' s :=
  Safe.mono (fun _ s hr a ha => hpost a s (hr a ha)) h

theorem perform {ρ : Type} {f : ℕ → σ → ρ × σ} {post : ρ → σ → Prop}
    (h : ∀ s1, P.inv s1 → P.rely i s s1 →
      P.guar i s1 (f i s1).2 ∧ post (f i s1).1 (f i s1).2) :
    Keeps P allow i (ExceptT.lift (Prog.perform f) : ExceptT ε (Prog σ Q A) ρ) post s := by
  intro s1 hinv hrely
  obtain ⟨hguar, hpost⟩ := h s1 hinv hrely
  exact ⟨hguar, fun _ ha => Except.ok.inj ha ▸ hpost⟩

theorem performOrRaise {ρ : Type} {f : ℕ → σ → Except ε ρ × σ} {post : ρ → σ → Prop}
    (h : ∀ s1, P.inv s1 → P.rely i s s1 →
      P.guar i s1 (f i s1).2 ∧ ∀ a, (f i s1).1 = .ok a → post a (f i s1).2) :
    Keeps P allow i (ExceptT.mk (Prog.perform f) : ExceptT ε (Prog σ Q A) ρ) post s := h

theorem query {q : Q} {post : A q → σ → Prop}
    (h : ∀ s1, P.inv s1 → P.rely i s s1 → P.may i q s1 ∧ ∀ a, allow q a s1 → post a s1) :
    Keeps P allow i (ExceptT.lift (Prog.query q) : ExceptT ε (Prog σ Q A) (A q)) post s := by
  intro s1 hinv hrely
  obtain ⟨hmay, hpost⟩ := h s1 hinv hrely
  exact ⟨hmay, fun a ha _ hb => Except.ok.inj hb ▸ hpost a ha⟩

theorem decided {r : Except ε α} {post : α → σ → Prop} (h : ∀ a, r = .ok a → post a s) :
    Keeps P allow i (ExceptT.mk (Pure.pure r) : ExceptT ε (Prog σ Q A) α) post s := h

theorem caught {post : Except ε α → σ → Prop}
    (h : Safe P allow i x.run post s) :
    Keeps P allow i (ExceptT.mk (x.run >>= fun r => Pure.pure (.ok r)) :
      ExceptT ε (Prog σ Q A) (Except ε α)) post s := by
  refine Safe.bind (.mono ?_ h)
  intro r s hr a ha
  exact Except.ok.inj ha ▸ hr

theorem discard {f : Except ε α → Unit} {post : α → σ → Prop} (h : Keeps P allow i x post s) :
    Safe P allow i (x.run >>= fun r => Pure.pure (f r)) (fun _ _ => True) s :=
  .bind (.mono (fun _ _ _ => trivial) h)

end Keeps

/-! ### All interleavings -/

/-- What holds of every reachable system. -/
structure Protocol.Holds (P : Protocol σ Q) (allow : (q : Q) → A q → σ → Prop)
    (S : System σ Q A) : Prop where
  inv : P.inv S.store
  worker : ∀ i p, S.workers i = some p →
    i < S.next ∧ Safe P allow i p (fun _ _ => True) S.store
  fresh : ∀ i, S.next ≤ i → P.fresh i S.store

namespace Protocol.Holds

variable {entry : Prog σ Q A Unit → Prop} {S S' : System σ Q A}

theorem worker_cases {i j : ℕ} {p : Option (Prog σ Q A Unit)}
    {q : Prog σ Q A Unit} (h : (S.resume i p).workers j = some q) :
    j = i ∧ p = some q ∨ j ≠ i ∧ S.workers j = some q := by
  by_cases hj : j = i
  · subst hj
    exact .inl ⟨rfl, by simpa using h⟩
  · exact .inr ⟨hj, by simpa [System.resume, hj] using h⟩

section Reachable

variable (hS : P.Holds allow S)
  (hentry : ∀ p, entry p → ∀ i s, P.inv s → P.fresh i s → Safe P allow i p (fun _ _ => True) s)

include hS hentry

/-- **A step keeps to the protocol.** -/
theorem step (h : System.Step allow entry S S') : P.Holds allow S' := by
  cases h with
  | spawn p hp =>
    refine ⟨hS.inv, fun i q hq => ?_, fun i hi => hS.fresh i (Nat.le_of_succ_le hi)⟩
    rcases worker_cases hq with ⟨rfl, hp'⟩ | ⟨-, hq⟩
    · cases hp'
      exact ⟨Nat.lt_succ_self _, hentry p hp _ _ hS.inv (hS.fresh _ (Nat.le_refl _))⟩
    · exact (hS.worker i q hq).imp_left Nat.lt_succ_of_lt
  | act i ρ f k hi =>
    obtain ⟨hknown, hsafe⟩ := hS.worker i _ hi
    obtain ⟨hguar, hrest⟩ := hsafe S.store hS.inv (P.rely_refl i _)
    refine ⟨P.guar_inv hS.inv hguar, fun j q hq => ?_, fun j hj => ?_⟩
    · rcases worker_cases hq with ⟨rfl, hp'⟩ | ⟨hne, hq⟩
      · cases hp'
        exact ⟨hknown, hrest⟩
      · exact (hS.worker j q hq).imp_right (·.stable (P.guar_rely hne hS.inv hguar))
    · exact P.guar_fresh (Nat.ne_of_gt (Nat.lt_of_lt_of_le hknown hj)) hguar (hS.fresh j hj)
  | ask i q k a hi ha =>
    obtain ⟨hknown, hsafe⟩ := hS.worker i _ hi
    refine ⟨hS.inv, fun j p hp => ?_, hS.fresh⟩
    rcases worker_cases hp with ⟨rfl, hp'⟩ | ⟨-, hp⟩
    · cases hp'
      exact ⟨hknown, (hsafe S.store hS.inv (P.rely_refl _ _)).2 a ha⟩
    · exact hS.worker j p hp
  | crash i =>
    refine ⟨hS.inv, fun j p hp => ?_, hS.fresh⟩
    rcases worker_cases hp with ⟨-, himpossible⟩ | ⟨-, hp⟩
    · cases himpossible
    · exact hS.worker j p hp

/-- **Every reachable system keeps to the protocol.** -/
theorem reaches (h : System.Reaches allow entry S S') : P.Holds allow S' := by
  induction h with
  | refl => exact hS
  | tail _ hstep ih => exact ih.step hentry hstep

end Reachable

theorem start (hinv : P.inv s) (hfresh : ∀ i, P.fresh i s) :
    P.Holds allow (System.start s : System σ Q A) where
  inv := hinv
  worker := by simp [System.start]
  fresh i _ := hfresh i

theorem asks (hS : P.Holds allow S) {i : ℕ} {q : Q} {k : A q → Prog σ Q A Unit}
    (h : S.workers i = some (.ask q k)) : P.may i q S.store :=
  ((hS.worker i _ h).2 S.store hS.inv (P.rely_refl i _)).1

theorem acts (hS : P.Holds allow S) {i : ℕ} {ρ : Type} {f : ℕ → σ → ρ × σ}
    {k : ρ → Prog σ Q A Unit} (h : S.workers i = some (.act ρ f k)) :
    P.guar i S.store (f i S.store).2 :=
  ((hS.worker i _ h).2 S.store hS.inv (P.rely_refl i _)).1

/-- **What every guarantee implies relates the stores before and after a run.** -/
theorem relates {R : σ → σ → Prop} (hrefl : ∀ s, R s s)
    (htrans : ∀ s1 s2 s3, R s1 s2 → R s2 s3 → R s1 s3)
    (hguar : ∀ i s s', P.inv s → P.guar i s s' → R s s') (hS : P.Holds allow S)
    (hentry : ∀ p, entry p → ∀ i s, P.inv s → P.fresh i s →
      Safe P allow i p (fun _ _ => True) s)
    (h : System.Reaches allow entry S S') : R S.store S'.store := by
  induction h with
  | refl => exact hrefl _
  | tail hreach hstep ih =>
    have hmid := hS.reaches hentry hreach
    refine htrans _ _ _ ih ?_
    cases hstep with
    | act i ρ f k hi => exact hguar i _ _ hmid.inv (hmid.acts hi)
    | spawn p hp => exact hrefl _
    | ask i q k a hi ha => exact hrefl _
    | crash i => exact hrefl _

end Protocol.Holds

end Concurrent

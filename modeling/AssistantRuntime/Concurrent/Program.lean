/-
**Programs that share a store.**

A worker is a program that acts on a shared store, one atomic action after the other, and asks its
environment for what it cannot compute: what a peer answers, which id was drawn, whether a call was
cancelled.  Any number of workers run at the same time, in any interleaving of their actions, and any
of them may stop for good between two actions.

* `Prog` — a program: a result, an action on the store, or a question;
* `System`, `System.Step` — workers at their next actions, and one step of one of them; a crash is a
  step of its own;
* `Prog.exec` — one worker alone, with the answers of an oracle;
* `System.reaches_exec` — what a worker does alone is a run of the system;
* `wp` — the weakest precondition of a call that runs alone, where only some answers are possible.
-/

import Mathlib.Data.Nat.Notation
import Mathlib.Logic.Function.Basic
import Mathlib.Logic.Relation

namespace Concurrent

/-! ### Programs -/

/-- A program over the store `σ`.  An action reads and writes the store in one piece and knows the
worker that runs it; a question `q` is answered by the environment with any element of `A q`. -/
inductive Prog (σ Q : Type) (A : Q → Type) (α : Type) : Type 1
  | ret (a : α)
  | act (ρ : Type) (f : ℕ → σ → ρ × σ) (k : ρ → Prog σ Q A α)
  | ask (q : Q) (k : A q → Prog σ Q A α)

namespace Prog

variable {σ Q : Type} {A : Q → Type} {α β ε : Type}

protected def bind : Prog σ Q A α → (α → Prog σ Q A β) → Prog σ Q A β
  | ret a, g => g a
  | act ρ f k, g => act ρ f fun r => (k r).bind g
  | ask q k, g => ask q fun a => (k a).bind g

instance : Monad (Prog σ Q A) where
  pure := ret
  bind := Prog.bind

def perform {ρ : Type} (f : ℕ → σ → ρ × σ) : Prog σ Q A ρ := act ρ f ret

def query (q : Q) : Prog σ Q A (A q) := ask q ret

/-- What a worker does alone: the `n`-th question is answered by the oracle. -/
def exec (i : ℕ) (oracle : ℕ → (q : Q) → A q) : Prog σ Q A α → ℕ → σ → α × σ
  | ret a, _, s => (a, s)
  | act _ f k, n, s => exec i oracle (k (f i s).1) n (f i s).2
  | ask q k, n, s => exec i oracle (k (oracle n q)) (n + 1) s

end Prog

/-! ### Systems of workers -/

/-- A store and the workers that share it, each at what it does next. -/
structure System (σ Q : Type) (A : Q → Type) where
  store : σ
  workers : ℕ → Option (Prog σ Q A Unit)
  next : ℕ

namespace System

variable {σ Q : Type} {A : Q → Type}

def start (s : σ) : System σ Q A := ⟨s, fun _ => none, 0⟩

def resume (S : System σ Q A) (i : ℕ) (p : Option (Prog σ Q A Unit)) : System σ Q A :=
  { S with workers := Function.update S.workers i p }

/-- **One step**: a worker starts on one of the programs `entry`, acts, gets an answer that the
environment may give in this state of the store, or stops for good. -/
inductive Step (allow : (q : Q) → A q → σ → Prop) (entry : Prog σ Q A Unit → Prop) :
    System σ Q A → System σ Q A → Prop
  | spawn (S : System σ Q A) (p : Prog σ Q A Unit) (hp : entry p) :
      Step allow entry S { S.resume S.next (some p) with next := S.next + 1 }
  | act (S : System σ Q A) (i : ℕ) (ρ : Type) (f : ℕ → σ → ρ × σ) (k : ρ → Prog σ Q A Unit)
      (h : S.workers i = some (.act ρ f k)) :
      Step allow entry S
        { S.resume i (some (k (f i S.store).1)) with store := (f i S.store).2 }
  | ask (S : System σ Q A) (i : ℕ) (q : Q) (k : A q → Prog σ Q A Unit) (a : A q)
      (h : S.workers i = some (.ask q k)) (ha : allow q a S.store) :
      Step allow entry S (S.resume i (some (k a)))
  | crash (S : System σ Q A) (i : ℕ) : Step allow entry S (S.resume i none)

/-- The states that steps lead to. -/
abbrev Reaches (allow : (q : Q) → A q → σ → Prop) (entry : Prog σ Q A Unit → Prop) :
    System σ Q A → System σ Q A → Prop :=
  Relation.ReflTransGen (Step allow entry)

variable {allow : (q : Q) → A q → σ → Prop} {entry : Prog σ Q A Unit → Prop}

@[simp] theorem resume_self (S : System σ Q A) (i : ℕ) (p : Option (Prog σ Q A Unit)) :
    (S.resume i p).workers i = p := by
  simp [resume]

/-- Answers that may come under one rule may come under a weaker one. -/
theorem Reaches.mono {allow' : (q : Q) → A q → σ → Prop}
    (hallow : ∀ q a s, allow q a s → allow' q a s) {S S' : System σ Q A}
    (h : Reaches allow entry S S') : Reaches allow' entry S S' := by
  refine Relation.ReflTransGen.mono ?_ _ _ h
  intro S1 S2 hstep
  cases hstep with
  | spawn p hp => exact .spawn _ p hp
  | act i ρ f k hi => exact .act _ i ρ f k hi
  | ask i q k a hi ha => exact .ask _ i q k a hi (hallow q a _ ha)
  | crash i => exact .crash _ i

variable {oracle : ℕ → (q : Q) → A q}

/-- **What a worker does alone is a run of the system**, if the environment may answer as the oracle
does. -/
theorem reaches_exec (hallow : ∀ n q s, allow q (oracle n q) s) (p : Prog σ Q A Unit)
    {S : System σ Q A} {i : ℕ} (h : S.workers i = some p) (n : ℕ) :
    ∃ S', Reaches allow entry S S' ∧ S'.store = (p.exec i oracle n S.store).2 ∧
      S'.next = S.next := by
  induction p generalizing S n with
  | ret a => exact ⟨S, .refl, rfl, rfl⟩
  | act ρ f k ih =>
    have hstep : Step allow entry S _ := .act S i ρ f k h
    obtain ⟨S', hreach, hstore, hnext⟩ := ih (f i S.store).1
      (S := { S.resume i (some (k (f i S.store).1)) with store := (f i S.store).2 })
      (S.resume_self i _) n
    exact ⟨S', .head hstep hreach, hstore, hnext⟩
  | ask q k ih =>
    have hstep : Step allow entry S _ := .ask S i q k (oracle n q) h (hallow n q S.store)
    obtain ⟨S', hreach, hstore, hnext⟩ := ih (oracle n q)
      (S.resume_self i _) (n + 1)
    exact ⟨S', .head hstep hreach, hstore, hnext⟩

/-- A new worker may do all its work before anybody else moves. -/
theorem reaches_spawn_exec (hallow : ∀ n q s, allow q (oracle n q) s) {p : Prog σ Q A Unit}
    (hp : entry p) (S : System σ Q A) :
    ∃ S', Reaches allow entry S S' ∧ S'.store = (p.exec S.next oracle 0 S.store).2 ∧
      S'.next = S.next + 1 := by
  have hstep : Step allow entry S _ := .spawn S p hp
  obtain ⟨S', hreach, hstore, hnext⟩ := reaches_exec hallow p
    (S := { S.resume S.next (some p) with next := S.next + 1 }) (S.resume_self S.next _) 0
  exact ⟨S', .head hstep hreach, hstore, hnext⟩

end System

/-! ### Weakest preconditions of calls that may raise

A program that nobody interferes with still meets an environment: it asks, and any possible answer may
come.  The weakest precondition of a call says from which states the call ends as wanted, whatever
possible answers it gets.  It commutes with the sequencing of calls in both directions, so it can be
computed through a program step by step, to show that the call ends well and also to show that it does
not; the rules in the namespace `wp` are for calls whose postconditions are given. -/

section

variable {σ Q : Type} {A : Q → Type} {α β ε ρ : Type} {allow : (q : Q) → A q → Prop} {i : ℕ} {s : σ}

/-- Whatever the answers are, as long as they are possible, the program ends in `post`. -/
def Prog.wp (allow : (q : Q) → A q → Prop) (i : ℕ) :
    Prog σ Q A α → (α → σ → Prop) → σ → Prop
  | .ret a, post, s => post a s
  | .act _ f k, post, s => wp allow i (k (f i s).1) post (f i s).2
  | .ask q k, post, s => ∀ a, allow q a → wp allow i (k a) post s

theorem Prog.wp_bind {p : Prog σ Q A α} {g : α → Prog σ Q A β} {post : β → σ → Prop} :
    (p >>= g).wp allow i post s ↔ p.wp allow i (fun a => (g a).wp allow i post) s := by
  induction p generalizing s with
  | ret a => exact Iff.rfl
  | act ρ f k ih => exact ih _
  | ask q k ih => exact forall₂_congr fun a _ => ih a

theorem Prog.wp_mono {p : Prog σ Q A α} {post post' : α → σ → Prop} (h : p.wp allow i post s)
    (hpost : ∀ a s, post a s → post' a s) : p.wp allow i post' s := by
  induction p generalizing s with
  | ret a => exact hpost a s h
  | act ρ f k ih => exact ih _ h
  | ask q k ih => exact fun a ha => ih a (h a ha)

/-- What holds for all possible answers holds of what the program computes with those of an oracle. -/
theorem Prog.wp_exec {p : Prog σ Q A α} {post : α → σ → Prop} {oracle : ℕ → (q : Q) → A q}
    (hallow : ∀ n q, allow q (oracle n q)) (h : p.wp allow i post s) (n : ℕ) :
    post (p.exec i oracle n s).1 (p.exec i oracle n s).2 := by
  induction p generalizing s n with
  | ret a => exact h
  | act ρ f k ih => exact ih _ h n
  | ask q k ih => exact ih (oracle n q) (h _ (hallow n q)) (n + 1)

def attempted (x : ExceptT ε (Prog σ Q A) α) : ExceptT ε (Prog σ Q A) (Except ε α) :=
  ExceptT.mk (x.run >>= fun r => pure (.ok r))

def returned : Except ε α → ExceptT ε (Prog σ Q A) α
  | .ok a => pure a
  | .error e => throw e

/-- **The weakest precondition of a call**: if it returns it ends in `P`, and if it raises, in `E`. -/
def wp (allow : (q : Q) → A q → Prop) (i : ℕ) (x : ExceptT ε (Prog σ Q A) α) (P : α → σ → Prop)
    (E : ε → σ → Prop) (s : σ) : Prop :=
  x.run.wp allow i (fun | .ok a => P a | .error e => E e) s

variable {x : ExceptT ε (Prog σ Q A) α} {g : α → ExceptT ε (Prog σ Q A) β}
variable {P : α → σ → Prop} {P' : β → σ → Prop} {E : ε → σ → Prop}

@[simp] theorem wp_pure {a : α} :
    wp allow i (pure a : ExceptT ε (Prog σ Q A) α) P E = P a := rfl

@[simp] theorem wp_throw {e : ε} :
    wp allow i (throw e : ExceptT ε (Prog σ Q A) α) P E = E e := rfl

@[simp] theorem wp_perform {f : ℕ → σ → ρ × σ} {P : ρ → σ → Prop} :
    wp allow i (ExceptT.lift (Prog.perform f) : ExceptT ε (Prog σ Q A) ρ) P E s ↔
      P (f i s).1 (f i s).2 := Iff.rfl

@[simp] theorem wp_query {q : Q} {P : A q → σ → Prop} :
    wp allow i (ExceptT.lift (Prog.query q) : ExceptT ε (Prog σ Q A) (A q)) P E s ↔
      ∀ a, allow q a → P a s := Iff.rfl

@[simp] theorem wp_bind :
    wp allow i (x >>= g) P' E s ↔ wp allow i x (fun a => wp allow i (g a) P' E) E s := by
  refine (Prog.wp_bind).trans (Eq.to_iff ?_)
  refine congrArg (fun post => x.run.wp allow i post s) (funext fun r => ?_)
  cases r with
  | ok a => rfl
  | error e => rfl

@[simp] theorem wp_attempted {P : Except ε α → σ → Prop} :
    wp allow i (attempted x) P E s ↔ wp allow i x (fun a => P (.ok a)) (fun e => P (.error e)) s := by
  refine (Prog.wp_bind).trans (Eq.to_iff ?_)
  refine congrArg (fun post => x.run.wp allow i post s) (funext fun r => ?_)
  cases r with
  | ok a => rfl
  | error e => rfl

namespace wp

theorem pure {a : α} (h : P a s) : wp allow i (Pure.pure a : ExceptT ε (Prog σ Q A) α) P E s := h

theorem throw {e : ε} (h : E e s) :
    wp allow i (throw e : ExceptT ε (Prog σ Q A) α) P E s := h

theorem perform {f : ℕ → σ → ρ × σ} {P : ρ → σ → Prop} (h : P (f i s).1 (f i s).2) :
    wp allow i (ExceptT.lift (Prog.perform f) : ExceptT ε (Prog σ Q A) ρ) P E s := h

theorem query {q : Q} {P : A q → σ → Prop} (h : ∀ a, allow q a → P a s) :
    wp allow i (ExceptT.lift (Prog.query q) : ExceptT ε (Prog σ Q A) (A q)) P E s := h

theorem mono {P' : α → σ → Prop} {E' : ε → σ → Prop} (h : wp allow i x P E s)
    (hpost : ∀ a s', P a s' → P' a s') (hE : ∀ e s', E e s' → E' e s') :
    wp allow i x P' E' s := by
  refine Prog.wp_mono h ?_
  intro r s' hr
  cases r with
  | ok a => exact hpost a s' hr
  | error e => exact hE e s' hr

theorem bind (h : wp allow i x P E s) (hg : ∀ a s', P a s' → wp allow i (g a) P' E s') :
    wp allow i (x >>= g) P' E s :=
  wp_bind.2 (h.mono hg fun _ _ he => he)

theorem attempted {E' : ε → σ → Prop} (h : wp allow i x P E s) :
    wp allow i (Concurrent.attempted x) (fun | .ok a => P a | .error e => E e) E' s :=
  wp_attempted.2 h

theorem returned {r : Except ε α} (hok : ∀ a, r = .ok a → P a s)
    (herror : ∀ e, r = .error e → E e s) :
    wp allow i (Concurrent.returned r : ExceptT ε (Prog σ Q A) α) P E s := by
  cases r with
  | ok a => exact hok a rfl
  | error e => exact herror e rfl

end wp

end

end Concurrent

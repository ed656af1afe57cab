/-
**Worklists.**

A worklist search keeps the elements seen so far and those whose successors are still to be looked
at.  It takes one pending element after the other, and what it has not seen before becomes seen and
pending.  The number of rounds is bounded by the roots and by a list of all elements that are the
successor of something, so the search is a total function; and it has enough rounds to end with
nothing pending.

Main results:

* `explore_sound` — what the search sees is reachable;
* `explore_closed` — with enough rounds, what it has seen is closed under successors;
* `mem_descendants` — **the search sees exactly what is reachable from its roots**.
-/

import Mathlib.Data.Finset.Card
import Mathlib.Logic.Relation

namespace Relational

open List

variable {α : Type} [DecidableEq α] {succ : α → List α} {roots universe_ seen pending : List α}
variable {fuel : ℕ} {x p : α}

/-- The successors of `p` that were not seen before, each once. -/
def unseen (succ : α → List α) (seen : List α) (p : α) : List α :=
  (succ p).dedup.filter fun c => c ∉ seen

theorem mem_unseen : x ∈ unseen succ seen p ↔ x ∈ succ p ∧ x ∉ seen := by
  simp [unseen]

theorem nodup_unseen (succ : α → List α) (seen : List α) (p : α) : (unseen succ seen p).Nodup :=
  (nodup_dedup _).filter _

/-- One pending element after the other, for at most so many rounds. -/
def explore (succ : α → List α) : ℕ → List α → List α → List α
  | 0, seen, _ => seen
  | _ + 1, seen, [] => seen
  | fuel + 1, seen, p :: pending =>
    explore succ fuel (seen ++ unseen succ seen p) (unseen succ seen p ++ pending)

/-- Everything reachable from the roots, when the elements of the given list include every successor
of an element. -/
def descendants (succ : α → List α) (universe_ roots : List α) : List α :=
  explore succ (roots.length + universe_.length) roots roots

theorem seen_subset_explore : seen ⊆ explore succ fuel seen pending := by
  induction fuel generalizing seen pending with
  | zero => exact List.Subset.refl _
  | succ fuel ih =>
    cases pending with
    | nil => exact List.Subset.refl _
    | cons p pending => exact List.Subset.trans (subset_append_left _ _) ih

/-- **What the search sees has every property of the roots that passes to successors.** -/
theorem explore_sound {P : α → Prop} (hsucc : ∀ p c, P p → c ∈ succ p → P c)
    (hseen : ∀ x ∈ seen, P x) (hpending : ∀ x ∈ pending, P x) :
    ∀ x ∈ explore succ fuel seen pending, P x := by
  induction fuel generalizing seen pending with
  | zero => exact hseen
  | succ fuel ih =>
    cases pending with
    | nil => exact hseen
    | cons p pending =>
      have hp : P p := hpending p mem_cons_self
      have hnew : ∀ x ∈ unseen succ seen p, P x :=
        fun x hx => hsucc p x hp (mem_unseen.1 hx).1
      refine ih ?_ ?_
      · intro x hx
        exact (mem_append.1 hx).elim (hseen x) (hnew x)
      · intro x hx
        refine (mem_append.1 hx).elim (hnew x) fun hx => ?_
        exact hpending x (mem_cons_of_mem p hx)

/-- A round uses up as many elements not seen before as it makes pending. -/
theorem card_sdiff_unseen (seen : List α) (hU : succ p ⊆ universe_) :
    (universe_.toFinset \ (seen ++ unseen succ seen p).toFinset).card
      + (unseen succ seen p).length = (universe_.toFinset \ seen.toFinset).card := by
  have hsub : (unseen succ seen p).toFinset ⊆ universe_.toFinset \ seen.toFinset := by
    intro x hx
    obtain ⟨hx, hnot⟩ := mem_unseen.1 (mem_toFinset.1 hx)
    simp [hU hx, hnot]
  have hsdiff : universe_.toFinset \ (seen ++ unseen succ seen p).toFinset
      = (universe_.toFinset \ seen.toFinset) \ (unseen succ seen p).toFinset := by
    ext x
    simp [and_assoc]
  rw [hsdiff, ← toFinset_card_of_nodup (nodup_unseen succ seen p)]
  exact Finset.card_sdiff_add_card_eq_card hsub

/-- **With enough rounds the search ends with everything looked at.**  The rounds left are at least
the pending elements and those that were not seen yet. -/
theorem explore_closed (hU : ∀ p, succ p ⊆ universe_)
    (hfuel : pending.length + (universe_.toFinset \ seen.toFinset).card ≤ fuel)
    (hclosed : ∀ x ∈ seen, x ∉ pending → succ x ⊆ seen) :
    ∀ x ∈ explore succ fuel seen pending, succ x ⊆ explore succ fuel seen pending := by
  induction fuel generalizing seen pending with
  | zero =>
    have hnil : pending = [] := eq_nil_of_length_eq_zero (by omega)
    subst hnil
    exact fun x hx => hclosed x hx not_mem_nil
  | succ fuel ih =>
    cases pending with
    | nil => exact fun x hx => hclosed x hx not_mem_nil
    | cons p pending =>
      have hcard := card_sdiff_unseen seen (hU p)
      refine ih ?_ ?_
      · simp only [length_append, length_cons] at hfuel ⊢
        omega
      · intro x hx hnot c hc
        simp only [mem_append, not_or] at hx hnot ⊢
        by_cases hcs : c ∈ seen
        · exact Or.inl hcs
        by_cases hxp : x = p
        · exact Or.inr (mem_unseen.2 ⟨hxp ▸ hc, hcs⟩)
        · have hx := hx.resolve_right hnot.1
          exact absurd (hclosed x hx (by simp [hxp, hnot.2]) hc) hcs

/-- **The search sees exactly what is reachable from its roots.** -/
theorem mem_descendants (hU : ∀ p, succ p ⊆ universe_) :
    x ∈ descendants succ universe_ roots ↔
      ∃ r ∈ roots, Relation.ReflTransGen (fun p c => c ∈ succ p) r x := by
  constructor
  · intro hx
    refine explore_sound (P := fun x => ∃ r ∈ roots, Relation.ReflTransGen _ r x) ?_ ?_ ?_ x hx
    · rintro p c ⟨r, hr, hp⟩ hc
      exact ⟨r, hr, hp.tail hc⟩
    · exact fun r hr => ⟨r, hr, .refl⟩
    · exact fun r hr => ⟨r, hr, .refl⟩
  · rintro ⟨r, hr, hx⟩
    have hclosed : ∀ y ∈ descendants succ universe_ roots,
        succ y ⊆ descendants succ universe_ roots := by
      refine explore_closed hU ?_ ?_
      · have hle : (universe_.toFinset \ roots.toFinset).card ≤ universe_.length :=
          (Finset.card_le_card Finset.sdiff_subset).trans (toFinset_card_le _)
        omega
      · exact fun y hy hnot => absurd hy hnot
    induction hx with
    | refl => exact seen_subset_explore hr
    | tail _ hc ih => exact hclosed _ ih hc

end Relational

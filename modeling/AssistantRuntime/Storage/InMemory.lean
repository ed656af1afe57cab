/-
**The in-memory driver** (`inmemory/driver.py`).

An entry that has expired stays in `_data` until an operation other than `exists` comes upon it, and
`exists` looks at `_data` only.
-/

import Mathlib

namespace AssistantRuntime.Storage.InMemory

open Function Option

variable {V : Type}

/-- `_data` and `_expires`; a value may be `None`. -/
structure Driver (V : Type) where
  data : String → Option (Option V) := fun _ => none
  expires : String → Option ℚ := fun _ => none

namespace Driver

variable (d : Driver V) (key : String) (now : ℚ)

def IsExpired : Prop := ∃ t ∈ d.expires key, t ≤ now

instance : Decidable (d.IsExpired key now) := by
  unfold IsExpired
  infer_instance

def deleteUnlocked : Driver V := ⟨update d.data key none, update d.expires key none⟩

def get : Option V × Driver V :=
  match d.data key with
  | none => (none, d)
  | some value => if d.IsExpired key now then (none, d.deleteUnlocked key) else (value, d)

def set (value : Option V) (expire : Option ℤ) : Driver V :=
  if ∃ e ∈ expire, e ≤ 0 then d.deleteUnlocked key
  else ⟨update d.data key (some value), update d.expires key (expire.map (now + ·))⟩

def exists_ : Bool := (d.data key).isSome

end Driver

/-- The map: values with the instants at which they disappear. -/
abbrev Entries (V : Type) := String → Option (Option V × Option ℚ)

def Entries.lookup (m : Entries V) (key : String) (now : ℚ) : Option (Option V) :=
  (m key).bind fun entry => if ∃ t ∈ entry.2, t ≤ now then none else some entry.1

inductive Act (V : Type) where
  | set (key : String) (value : Option V) (expire : Option ℤ)
  | get (key : String)
  | exists_ (key : String)
  | delete (key : String)
  | advance (time : ℚ)

/-- The driver, the map, and the clock. -/
structure State (V : Type) where
  driver : Driver V := {}
  entries : Entries V := fun _ => none
  now : ℚ := 0

def State.step (s : State V) : Act V → State V
  | .set key value expire => { s with
      driver := s.driver.set key s.now value expire
      entries := update s.entries key (some (value, expire.map (s.now + ·))) }
  | .get key => { s with driver := (s.driver.get key s.now).2 }
  | .exists_ _ => s
  | .delete key => { s with
      driver := s.driver.deleteUnlocked key, entries := update s.entries key none }
  | .advance time => { s with now := max s.now time }

/-- What is stored under the key and has not expired. -/
def Driver.live (d : Driver V) (key : String) (now : ℚ) : Option (Option V) :=
  if d.IsExpired key now then none else d.data key

theorem Driver.live_deleteUnlocked (d : Driver V) (k key : String) (t : ℚ) :
    (d.deleteUnlocked k).live key t = if key = k then none else d.live key t := by
  by_cases hk : key = k <;> simp [live, deleteUnlocked, IsExpired, hk]

/-- What the driver holds is what the map holds, now and later. -/
def State.Agrees (s : State V) : Prop :=
  ∀ key t, s.now ≤ t → s.driver.live key t = s.entries.lookup key t

theorem State.Agrees.step {s : State V} (h : s.Agrees) (a : Act V) : (s.step a).Agrees := by
  intro key t ht
  cases a with
  | set k value expire =>
    have hold := h key t ht
    by_cases hk : key = k
    · subst hk
      simp only [State.step, Driver.set, Entries.lookup, update_self]
      split_ifs with hnow
      · -- the time to live has elapsed at once
        obtain ⟨e, rfl, he⟩ := hnow
        have hpast : s.now + e ≤ t := (add_le_of_nonpos_right (Int.cast_nonpos.2 he)).trans ht
        simp [Driver.live_deleteUnlocked, hpast]
      · simp [Driver.live, Driver.IsExpired]
    · simp only [State.step, Driver.set, Entries.lookup, update_of_ne hk]
      split_ifs with hnow
      · rw [Driver.live_deleteUnlocked, if_neg hk]
        exact hold
      · simpa [Driver.live, Driver.IsExpired, Entries.lookup, hk] using hold
  | get k =>
    have hold := h key t ht
    simp only [State.step, Driver.get]
    split
    · exact hold
    · split_ifs with hexpired
      · rw [Driver.live_deleteUnlocked]
        split_ifs with hk
        · subst hk
          obtain ⟨u, hu, hle⟩ := hexpired
          rw [← hold, Driver.live, if_pos ⟨u, hu, hle.trans ht⟩]
        · exact hold
      · exact hold
  | exists_ k => exact h key t ht
  | delete k =>
    simp only [State.step, Driver.live_deleteUnlocked]
    by_cases hk : key = k
    · simp [Entries.lookup, hk]
    · simpa [Entries.lookup, hk] using h key t ht
  | advance time => exact h key t ((le_max_left _ _).trans ht)

theorem State.agrees_run (acts : List (Act V)) : (acts.foldl State.step {}).Agrees := by
  induction acts using List.reverseRecOn with
  | nil => exact fun key t _ => by simp [Driver.live, Driver.IsExpired, Entries.lookup]
  | append_singleton acts a ih =>
    rw [List.foldl_concat]
    exact ih.step a

/-- **`get` is the map, and `exists` is exactly where no entry has expired.** -/
theorem agrees_iff (acts : List (Act V)) (key : String) :
    let s := acts.foldl State.step {}
    (s.driver.get key s.now).1 = (s.entries.lookup key s.now).join ∧
    (s.driver.exists_ key = (s.entries.lookup key s.now).isSome ↔
      ∀ v, s.driver.data key = some v → ¬s.driver.IsExpired key s.now) ∧
    (s.driver.exists_ key = (s.driver.get key s.now).1.isSome ↔
      ∀ v, s.driver.data key = some v → ¬s.driver.IsExpired key s.now ∧ v ≠ none) := by
  intro s
  have hlive : s.driver.live key s.now = _ := State.agrees_run acts key s.now le_rfl
  rw [← hlive]
  simp only [Driver.live, Driver.get, Driver.exists_]
  by_cases hexpired : s.driver.IsExpired key s.now <;> cases hdata : s.driver.data key with
  | none => simp [hexpired]
  | some v => cases v <;> simp [hexpired]

/-- An entry outlives its time for `exists`. -/
theorem exists_after_expiry :
    let s := [Act.set "k" (some 0) (some 1), .advance 2].foldl State.step {}
    s.driver.exists_ "k" = true ∧ (s.driver.get "k" s.now).1 = none := by
  decide +kernel

end AssistantRuntime.Storage.InMemory

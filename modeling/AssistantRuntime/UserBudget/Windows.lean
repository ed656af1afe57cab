/-
**The windows of a user budget.**

The account of a user names its active window and the epoch of the next one; a rollover closes the
window that has expired, opens the next and moves the account on, in three statements.  Between them
other units of work select policies and charge windows.  That no window is lost, reopened or used
twice is a joint property of accounts and windows; it is stated here once, and every service keeps it
because every statement of the repository does.

Main results:

* `writes_ages` — every statement keeps the agreement and lets windows only age;
* `windows_only_age` — **in every run an account has at most one active window, the one it points
  to; windows never reopen, change their policy or lose use, and epochs are never reused**.
-/

import AssistantRuntime.UserBudget.ToolAccounting
import AssistantRuntime.Relational.RowWrite

namespace AssistantRuntime.UserBudget

open Relational Uow Table Option

variable {db db' : Db}

/-! ### How windows change -/

structure WindowCounters.UsedLe (c c' : WindowCounters) : Prop where
  computeUsedAtomic : c.computeUsedAtomic ≤ c'.computeUsedAtomic
  inferenceUsed : c.inferenceUsed ≤ c'.inferenceUsed
  inputTokensUsed : c.inputTokensUsed ≤ c'.inputTokensUsed
  outputTokensUsed : c.outputTokensUsed ≤ c'.outputTokensUsed
  totalTokensUsed : c.totalTokensUsed ≤ c'.totalTokensUsed
  toolCallsUsed : c.toolCallsUsed ≤ c'.toolCallsUsed
  costUsedAtomic : c.costUsedAtomic ≤ c'.costUsedAtomic

theorem WindowCounters.UsedLe.refl (c : WindowCounters) : c.UsedLe c := by
  constructor <;> exact le_refl _

theorem WindowCounters.UsedLe.trans {c1 c2 c3 : WindowCounters} (h : c1.UsedLe c2)
    (h' : c2.UsedLe c3) : c1.UsedLe c3 where
  computeUsedAtomic := h.computeUsedAtomic.trans h'.computeUsedAtomic
  inferenceUsed := h.inferenceUsed.trans h'.inferenceUsed
  inputTokensUsed := h.inputTokensUsed.trans h'.inputTokensUsed
  outputTokensUsed := h.outputTokensUsed.trans h'.outputTokensUsed
  totalTokensUsed := h.totalTokensUsed.trans h'.totalTokensUsed
  toolCallsUsed := h.toolCallsUsed.trans h'.toolCallsUsed
  costUsedAtomic := h.costUsedAtomic.trans h'.costUsedAtomic

/-- How a window may change: its counters of use grow, and it closes. -/
structure WindowRow.Ages (w w' : WindowRow) : Prop where
  ownerUserId : w'.ownerUserId = w.ownerUserId
  epoch : w'.epoch = w.epoch
  governingPolicyId : w'.governingPolicyId = w.governingPolicyId
  governingPolicyVersion : w'.governingPolicyVersion = w.governingPolicyVersion
  governingPolicyFingerprint : w'.governingPolicyFingerprint = w.governingPolicyFingerprint
  startedAt : w'.startedAt = w.startedAt
  expiresAt : w'.expiresAt = w.expiresAt
  closed : w.state = .closed → w'.state = .closed
  used : w.counters.UsedLe w'.counters

theorem WindowRow.Ages.refl (w : WindowRow) : w.Ages w :=
  ⟨rfl, rfl, rfl, rfl, rfl, rfl, rfl, id, .refl _⟩

theorem WindowRow.Ages.trans {w1 w2 w3 : WindowRow} (h : w1.Ages w2) (h' : w2.Ages w3) :
    w1.Ages w3 where
  ownerUserId := h'.ownerUserId.trans h.ownerUserId
  epoch := h'.epoch.trans h.epoch
  governingPolicyId := h'.governingPolicyId.trans h.governingPolicyId
  governingPolicyVersion := h'.governingPolicyVersion.trans h.governingPolicyVersion
  governingPolicyFingerprint := h'.governingPolicyFingerprint.trans h.governingPolicyFingerprint
  startedAt := h'.startedAt.trans h.startedAt
  expiresAt := h'.expiresAt.trans h.expiresAt
  closed hw := h'.closed (h.closed hw)
  used := h.used.trans h'.used

/-- Accounts and windows agree. -/
structure WindowsSound (db : Db) : Prop where
  pointed : ∀ w ∈ db.windows, w.state = .active →
    ∃ a, db.getAccount w.ownerUserId = some a ∧ a.activeWindowEpoch = some w.epoch
  pointer : ∀ a ∈ db.accounts, ∀ epoch ∈ a.activeWindowEpoch,
    ∃ w, db.getWindow a.ownerUserId epoch = some w ∧ w.state = .active
  below : ∀ w ∈ db.windows, ∃ a, db.getAccount w.ownerUserId = some a ∧ w.epoch < a.nextWindowEpoch
  governed : ∀ w ∈ db.windows, ∃ p, db.getPolicy w.ownerUserId w.governingPolicyId = some p ∧
    p.policyVersion = w.governingPolicyVersion ∧ p.policyFingerprint = w.governingPolicyFingerprint

/-- Windows only age, a new one has a later epoch than all before, and policies stay. -/
structure Aged (db db' : Db) : Prop where
  windows : db.windows.Evolves WindowRow.Ages db'.windows
  later : ∀ w' ∈ db'.windows, db.windows.find? w'.key = none →
    ∀ w ∈ db.windows, w.ownerUserId = w'.ownerUserId → w.epoch < w'.epoch
  policies : ∀ policyId p, db.policies.find? policyId = some p →
    db'.policies.find? policyId = some p

theorem Aged.refl (db : Db) : Aged db db where
  windows := .refl .refl _
  later w' hw' hnew := by
    rw [find?_key hw'] at hnew
    cases hnew
  policies _ _ h := h

theorem Aged.trans {db1 : Db} (h : Aged db db1) (h' : Aged db1 db') : Aged db db' where
  windows := h.windows.trans (fun _ _ _ => .trans) h'.windows
  later w' hw' hnew w hw howner := by
    cases hmid : db1.windows.find? w'.key with
    | some v =>
      -- the window is new in the first part
      have hkey : v.key = w'.key := key_of_find? hmid
      obtain ⟨ho, he⟩ := Prod.mk.inj hkey
      have hlt := h.later v (mem_of_find? hmid) (hkey ▸ hnew) w hw (howner.trans ho.symm)
      rwa [he] at hlt
    | none =>
      obtain ⟨v, hv, hages⟩ := h.windows w.key w (find?_key hw)
      have hlt := h'.later w' hw' hmid v (mem_of_find? hv) (hages.ownerUserId.trans howner)
      rwa [hages.epoch] at hlt
  policies policyId p hp := h'.policies policyId p (h.policies policyId p hp)

/-- Where accounts and windows agree, they still do, and windows have only aged. -/
def Ages (db db' : Db) : Prop := WindowsSound db → WindowsSound db' ∧ Aged db db'

instance : IsPreorder Db Ages where
  refl db hs := ⟨hs, .refl db⟩
  trans _ _ _ h h' hs := by
    obtain ⟨hs1, haged⟩ := h hs
    obtain ⟨hs2, haged'⟩ := h' hs1
    exact ⟨hs2, haged.trans haged'⟩

theorem Ages.of_same (hw : db'.windows = db.windows) (ha : db'.accounts = db.accounts)
    (hp : db'.policies = db.policies) : Ages db db' := by
  intro hs
  refine ⟨⟨?_, ?_, ?_, ?_⟩, ?_, ?_, ?_⟩
  · simpa only [Db.getAccount, hw, ha] using hs.pointed
  · simpa only [Db.getWindow, hw, ha] using hs.pointer
  · simpa only [Db.getAccount, hw, ha] using hs.below
  · simpa only [Db.getPolicy, hw, hp] using hs.governed
  · rw [hw]
    exact .refl .refl _
  · rw [hw]
    exact (Aged.refl db).later
  · rw [hp]
    exact (Aged.refl db).policies

/-! ### Statements on policies and accounts -/

theorem ages_of_policy {policy : PolicyRow} {policies : Table PolicyRow.policyId}
    (h : db.policies.insert? policy = some policies) :
    Ages db { db with policies := policies } := by
  have hkept : ∀ policyId p, db.policies.find? policyId = some p →
      policies.find? policyId = some p := by
    intro policyId p hp
    rw [find?_insert? h]
    split
    · next hid =>
        rw [hid, fresh_insert? h] at hp
        cases hp
    · exact hp
  intro hs
  refine ⟨{ hs with governed := ?_ }, .refl .refl _, (Aged.refl db).later, hkept⟩
  intro w hw
  obtain ⟨p, hp, hrest⟩ := hs.governed w hw
  obtain ⟨hfind, howner⟩ := filter_eq_some_iff.1 hp
  exact ⟨p, filter_eq_some_iff.2 ⟨hkept _ _ hfind, howner⟩, hrest⟩

variable {owner : String}

theorem ages_of_account {accounts : Table AccountRow.ownerUserId}
    (h : db.accounts.insert? ⟨owner, 0, none, none, 1⟩ = some accounts) :
    Ages db { db with accounts := accounts } := by
  have hkept : ∀ o a, db.getAccount o = some a → accounts.find? o = some a := by
    intro o a ha
    rw [find?_insert? h]
    split
    · next hid =>
        have hfresh : db.getAccount owner = none := fresh_insert? h
        rw [hid] at ha
        exact absurd (ha.symm.trans hfresh) (by simp)
    · exact ha
  intro hs
  refine ⟨⟨?_, ?_, ?_, hs.governed⟩, .refl .refl _, (Aged.refl db).later, fun _ _ hp => hp⟩
  · intro w hw hactive
    obtain ⟨a, ha, hepoch⟩ := hs.pointed w hw hactive
    exact ⟨a, hkept _ _ ha, hepoch⟩
  · exact forall_insert? h hs.pointer (by simp)
  · intro w hw
    obtain ⟨a, ha, hlt⟩ := hs.below w hw
    exact ⟨a, hkept _ _ ha, hlt⟩

theorem ages_of_selection {account row : AccountRow}
    (h : db.getAccount owner = some account) (howner : row.ownerUserId = account.ownerUserId)
    (hactive : row.activeWindowEpoch = account.activeWindowEpoch)
    (hnext : row.nextWindowEpoch = account.nextWindowEpoch) :
    Ages db { db with accounts := db.accounts.put row } := by
  have hid : account.ownerUserId = owner := key_of_find? h
  have hkept : ∀ o a, db.getAccount o = some a → ∃ a', (db.accounts.put row).find? o = some a' ∧
      a'.activeWindowEpoch = a.activeWindowEpoch ∧ a'.nextWindowEpoch = a.nextWindowEpoch := by
    intro o a ha
    by_cases ho : o = owner
    · subst ho
      obtain rfl : a = account := mem_unique ha h
      exact ⟨row, find?_put_same h howner, hactive, hnext⟩
    · have hne : o ≠ row.ownerUserId := fun hk => ho (hk.trans (howner.trans hid))
      exact ⟨a, (find?_put_of_ne hne).trans ha, rfl, rfl⟩
  intro hs
  refine ⟨⟨?_, ?_, ?_, hs.governed⟩, .refl .refl _, (Aged.refl db).later, fun _ _ hp => hp⟩
  · intro w hw hopen
    obtain ⟨a, ha, hepoch⟩ := hs.pointed w hw hopen
    obtain ⟨a', ha', hsame, -⟩ := hkept _ _ ha
    exact ⟨a', ha', hsame.trans hepoch⟩
  · refine forall_put hs.pointer fun epoch hepoch => ?_
    rw [howner]
    exact hs.pointer account (mem_of_find? h) epoch (hactive ▸ hepoch)
  · intro w hw
    obtain ⟨a, ha, hlt⟩ := hs.below w hw
    obtain ⟨a', ha', -, hsame⟩ := hkept _ _ ha
    exact ⟨a', ha', hsame ▸ hlt⟩

/-! ### Charges -/

theorem WindowTargets.usedLe_apply {t : WindowTargets} {c : WindowCounters}
    (h : ∀ p ∈ t.monotonicUsed c, ∀ value ∈ p.1, p.2 ≤ value) : c.UsedLe (t.apply c) := by
  have hle : ∀ p ∈ t.monotonicUsed c, p.2 ≤ p.1.getD p.2 := by
    rintro ⟨target, current⟩ hp
    cases target with
    | none => exact le_refl _
    | some value => exact h _ hp value rfl
  simp only [monotonicUsed, List.forall_mem_cons] at hle
  obtain ⟨h1, h2, h3, h4, h5, h6, h7, -⟩ := hle
  exact ⟨h1, h2, h3, h4, h5, h6, h7⟩

variable {w : WindowRow}

/-- A window that is replaced by an older version of itself, at the same state. -/
theorem ages_of_charge {epoch : ℤ} {w' : WindowRow}
    (h : db.getWindow owner epoch = some w) (hages : w.Ages w') (hstate : w'.state = w.state) :
    Ages db { db with windows := db.windows.put w' } := by
  have hkey : w'.key = w.key := Prod.ext hages.ownerUserId hages.epoch
  have hmem : w ∈ db.windows := mem_of_find? h
  have hold : ∀ v ∈ db.windows.put w', ∃ v0 ∈ db.windows, v0.Ages v ∧ v.state = v0.state :=
    forall_put (fun v hv => ⟨v, hv, .refl v, rfl⟩) ⟨w, hmem, hages, hstate⟩
  have hevolves : db.windows.Evolves (fun v v' => v.Ages v' ∧ v'.state = v.state)
      (db.windows.put w') :=
    .of_put (fun v => ⟨.refl v, rfl⟩) h hkey ⟨hages, hstate⟩
  intro hs
  refine ⟨⟨?_, ?_, ?_, ?_⟩, ?_, ?_, fun _ _ hp => hp⟩
  · intro v hv hactive
    obtain ⟨v0, hv0, hv0v, hsame⟩ := hold v hv
    rw [hv0v.ownerUserId, hv0v.epoch]
    exact hs.pointed v0 hv0 (hsame ▸ hactive)
  · intro a ha e he
    obtain ⟨v0, hv0, hactive⟩ := hs.pointer a ha e he
    obtain ⟨v, hv, -, hsame⟩ := hevolves _ v0 hv0
    exact ⟨v, hv, hsame.trans hactive⟩
  · intro v hv
    obtain ⟨v0, hv0, hv0v, -⟩ := hold v hv
    rw [hv0v.ownerUserId, hv0v.epoch]
    exact hs.below v0 hv0
  · intro v hv
    obtain ⟨v0, hv0, hv0v, -⟩ := hold v hv
    rw [hv0v.ownerUserId, hv0v.governingPolicyId, hv0v.governingPolicyVersion,
      hv0v.governingPolicyFingerprint]
    exact hs.governed v0 hv0
  · intro k v hv
    obtain ⟨v', hv', hvages, -⟩ := hevolves k v hv
    exact ⟨v', hv', hvages⟩
  · intro v hv hnew
    obtain ⟨v0, hv0, hv0v, -⟩ := hold v hv
    have hfound : db.windows.find? v.key = some v0 := by
      rw [show v.key = v0.key from Prod.ext hv0v.ownerUserId hv0v.epoch]
      exact find?_key hv0
    rw [hfound] at hnew
    cases hnew

theorem mutateWindowUsage_ages {epoch revision : ℤ} {targets : WindowTargets}
    (h : mutateWindowUsage owner epoch revision targets db = .ok (w, db')) : Ages db db' := by
  simp only [mutateWindowUsage, steps_ok, writes_bind_ok, pure_mk] at h
  obtain ⟨current, hw, -, -, -, hused, rfl, rfl⟩ := h
  exact ages_of_charge hw
    ⟨rfl, rfl, rfl, rfl, rfl, rfl, rfl, id, WindowTargets.usedLe_apply hused⟩ rfl

/-! ### Rollovers -/

/-- A window that has expired was closed, if there was an active one. -/
def ClosesExpired (db : Db) (owner : String) (now : ℤ) (closed : Table WindowRow.key) : Prop :=
  closed = db.windows ∨ ∃ v v', closed = db.windows.put v' ∧ v.Ages v' ∧ v ∈ db.windows ∧
    v.ownerUserId = owner ∧ v.expiresAt ≤ now

theorem closesExpired_closing {now : ℤ} {active : Option WindowRow}
    (h : ∀ v ∈ active, v ∈ db.windows ∧ v.ownerUserId = owner ∧ v.expiresAt ≤ now) :
    ClosesExpired db owner now (db.closing active now) := by
  cases active with
  | none => exact .inl rfl
  | some v =>
    refine .inr ⟨v, _, rfl, ?_, h v rfl⟩
    exact ⟨rfl, rfl, rfl, rfl, rfl, rfl, rfl, fun _ => rfl, .refl _⟩

/-- The windows that a rollover leaves: older versions of those that were there. -/
theorem ClosesExpired.old {now : ℤ} {closed : Table WindowRow.key}
    (h : ClosesExpired db owner now closed) :
    (∀ v ∈ closed, ∃ v0 ∈ db.windows, v0.Ages v) ∧ db.windows.Evolves WindowRow.Ages closed ∧
      ∀ o epoch, o ≠ owner → closed.find? (o, epoch) = db.getWindow o epoch := by
  rcases h with rfl | ⟨v, v', rfl, hages, hv, howner, -⟩
  · exact ⟨fun v hv => ⟨v, hv, .refl v⟩, .refl .refl _, fun _ _ _ => rfl⟩
  · have hkey : v'.key = v.key := Prod.ext hages.ownerUserId hages.epoch
    refine ⟨fun u hu => ?_, .of_put .refl (find?_key hv) hkey hages, fun o epoch ho => ?_⟩
    · rcases mem_put.1 hu with ⟨hu, -⟩ | ⟨rfl, -⟩
      · exact ⟨u, hu, .refl u⟩
      · exact ⟨v, hv, hages⟩
    · refine find?_put_of_ne fun hk => ho ?_
      exact (Prod.mk.inj hk).1.trans (hages.ownerUserId.trans howner)

variable {revision now : ℤ}

theorem rolloverWindow_ages (h : rolloverWindow owner revision now db = .ok (w, db')) :
    Ages db db' := by
  rcases (rolloverWindow_cases h).2 with rfl | ⟨account, policy, active, windows, row, rfl, haccount,
    hpolicy, hexpired, hnone, hwindows, howner, hactive, hnext⟩
  · exact refl_of Ages _
  obtain ⟨hold, hevolves, hothers⟩ := (closesExpired_closing hexpired).old
  generalize db.closing active now = closed at *
  intro hs
  have hid : account.ownerUserId = owner := key_of_find? haccount
  have hrow : (db.accounts.put row).find? owner = some row :=
    find?_put_same haccount (howner.trans hid.symm)
  have hother : ∀ o, o ≠ owner → (db.accounts.put row).find? o = db.getAccount o := fun o ho =>
    find?_put_of_ne fun hk => ho (hk.trans howner)
  have hbelow : ∀ v ∈ closed, ∃ a, (db.accounts.put row).find? v.ownerUserId = some a ∧
      v.epoch < a.nextWindowEpoch := by
    intro v hv
    obtain ⟨v0, hv0, hages⟩ := hold v hv
    obtain ⟨a, ha, hlt⟩ := hs.below v0 hv0
    rw [← hages.ownerUserId, ← hages.epoch] at *
    by_cases ho : v.ownerUserId = owner
    · rw [ho] at ha ⊢
      obtain rfl : a = account := mem_unique ha haccount
      exact ⟨row, hrow, by omega⟩
    · exact ⟨a, (hother _ ho).trans ha, hlt⟩
  refine ⟨⟨?_, ?_, ?_, ?_⟩, ?_, ?_, fun _ _ hp => hp⟩
  · intro v hv hopen
    rcases (mem_insert? hwindows).1 hv with hv | rfl
    · -- the owner has no other active window, and other accounts are as before
      have ho : v.ownerUserId ≠ owner := fun ho => hnone v hv ⟨ho, hopen⟩
      have hv0 : v ∈ db.windows := by
        have hfind := hothers v.ownerUserId v.epoch ho
        rw [show closed.find? (v.ownerUserId, v.epoch) = some v from find?_key hv] at hfind
        exact mem_of_find? hfind.symm
      obtain ⟨a, ha, hepoch⟩ := hs.pointed v hv0 hopen
      exact ⟨a, (hother _ ho).trans ha, hepoch⟩
    · exact ⟨row, hrow, hactive⟩
  · intro a ha epoch hepoch
    have hnew : windows.find? (owner, account.nextWindowEpoch) =
        some (WindowRow.opened policy owner account.nextWindowEpoch now) :=
      (find?_insert? hwindows _).trans (if_pos rfl)
    rcases mem_put.1 ha with ⟨hold, hne⟩ | ⟨rfl, -⟩
    · obtain ⟨v, hv, hopen⟩ := hs.pointer a hold epoch hepoch
      have ho : a.ownerUserId ≠ owner := fun ho => hne (ho.trans howner.symm)
      refine ⟨v, ?_, hopen⟩
      have hk : (a.ownerUserId, epoch) ≠
          (WindowRow.opened policy owner account.nextWindowEpoch now).key :=
        fun hk => ho (Prod.mk.inj hk).1
      exact (find?_insert? hwindows _).trans ((if_neg hk).trans ((hothers _ _ ho).trans hv))
    · rw [hactive] at hepoch
      obtain rfl := Option.some.inj hepoch
      rw [howner]
      exact ⟨_, hnew, rfl⟩
  · intro v hv
    rcases (mem_insert? hwindows).1 hv with hv | rfl
    · exact hbelow v hv
    · refine ⟨row, hrow, ?_⟩
      rw [hnext]
      exact Int.lt_succ _
  · intro v hv
    rcases (mem_insert? hwindows).1 hv with hv | rfl
    · obtain ⟨v0, hv0, hages⟩ := hold v hv
      rw [hages.ownerUserId, hages.governingPolicyId, hages.governingPolicyVersion,
        hages.governingPolicyFingerprint]
      exact hs.governed v0 hv0
    · exact ⟨policy, hpolicy, rfl, rfl⟩
  · exact hevolves.trans (fun _ _ _ => .trans) (.of_insert .refl hwindows)
  · intro v hv hnew u hu ho
    rcases (mem_insert? hwindows).1 hv with hv | rfl
    · obtain ⟨v0, hv0, hages⟩ := hold v hv
      rw [show v.key = v0.key from Prod.ext hages.ownerUserId hages.epoch, find?_key hv0] at hnew
      cases hnew
    · -- the new epoch is the one the account kept for it
      obtain ⟨a, ha, hlt⟩ := hs.below u hu
      rw [ho] at ha
      obtain rfl : a = account := mem_unique ha haccount
      exact hlt

/-! ### Every service -/

/-- **Every statement keeps accounts and windows in agreement and lets windows only age.** -/
instance writes_ages : Writes Ages where
  rolloverWindow _ _ _ := ⟨rolloverWindow_ages⟩
  mutateWindowUsage _ _ _ _ := ⟨mutateWindowUsage_ages⟩
  createOrGetToolUsage _ _ _ :=
    { rel := fun h => by
        rcases (createOrGetToolUsage_ok h).2 with rfl | ⟨-, _, -, rfl⟩
        · exact refl_of Ages _
        · exact .of_same rfl rfl rfl }
  mutateToolUsage _ _ _ _ _ _ :=
    { rel := fun h => by
        obtain ⟨_, -, -, rfl, -⟩ := mutateToolUsage_ok h
        exact .of_same rfl rfl rfl }
  createOrGetReservation sha _ :=
    { rel := fun h => by
        rcases createOrGetReservation_ok sha h with ⟨rfl, -⟩ | ⟨-, -, _, -, rfl⟩
        · exact refl_of Ages _
        · exact .of_same rfl rfl rfl }
  transitionReservation _ _ _ _ _ _ :=
    { rel := fun h => by
        obtain ⟨_, -, ⟨-, -, rfl⟩ | ⟨-, -, rfl⟩⟩ := transitionReservation_ok h
        · exact refl_of Ages _
        · exact .of_same rfl rfl rfl }
  createOrGetDualAccountingReceipt _ :=
    { rel := fun h => by
        rcases createOrGetDualAccountingReceipt_ok h with ⟨rfl, -⟩ | ⟨-, _, -, rfl⟩
        · exact refl_of Ages _
        · exact .of_same rfl rfl rfl }
  createOrGetImmutablePolicy _ :=
    { rel := fun h => by
        rcases createOrGetImmutablePolicy_cases h with rfl | ⟨policies, hins, rfl⟩
        · exact refl_of Ages _
        · exact ages_of_policy hins }
  createOrGetAccount _ :=
    { rel := fun h => by
        rcases createOrGetAccount_cases h with rfl | ⟨accounts, hins, rfl⟩
        · exact refl_of Ages _
        · exact ages_of_account hins }
  selectNextPolicy _ _ _ :=
    { rel := fun h => by
        simp only [selectNextPolicy, steps_ok, writes_bind_ok, pure_ok, Prod.mk.injEq] at h
        obtain ⟨-, -, account, haccount, -, rfl⟩ := h
        exact ages_of_selection (filter_eq_some_iff.1 haccount).1 rfl rfl rfl }

instance (binding : TaskBindingRow) : Respects Ages (createTaskBinding binding) where
  rel h := by
    rcases createTaskBinding_cases h with ⟨rfl, -⟩ | ⟨-, _, -, rfl⟩
    · exact refl_of Ages _
    · exact .of_same rfl rfl rfl

/-- What may happen to windows: any request to the services, and any direct update of counters. -/
inductive WindowAct
  | request (request : Request)
  | reserveInference (settings : InferenceQuotaSettings) (directory : Directory)
      (lineage : InferenceLineage) (context : Option InferenceContext) (body : InferenceBody)
      (streamingMode : Bool) (now : ℤ)
  | settleInference (settings : InferenceQuotaSettings) (admission : Option InferenceAdmission)
      (usage : InferenceUsage) (now : ℤ)
  | mutateUsage (owner : String) (epoch expectedRevision : ℤ) (targets : WindowTargets)

section Steps

variable (sha : Document → String)

def WindowAct.perform : WindowAct → Tx Unit
  | request r => serve sha r
  | reserveInference settings directory lineage context body streamingMode now => do
      let _ ← UserBudget.reserveInference sha settings directory lineage context body streamingMode
        now
  | settleInference settings admission usage now => settleSuccess sha settings admission usage now
  | mutateUsage owner epoch revision targets => do
      let _ ← mutateWindowUsage owner epoch revision targets

def WindowStep (act : WindowAct) (db db' : Db) : Prop := db' = (act.perform sha).stored db

instance (act : WindowAct) : Respects Ages (act.perform sha) := by
  cases act with
  | request r =>
    cases r <;> dsimp only [WindowAct.perform, serve, settleToolCall, releaseToolCall] <;>
      infer_instance
  | _ =>
    dsimp only [WindowAct.perform]
    infer_instance

end Steps

/-! ### Every run -/

theorem windowsSound_empty : WindowsSound {} where
  pointed w hw := absurd hw (not_mem_empty w)
  pointer a ha := absurd ha (not_mem_empty a)
  below w hw := absurd hw (not_mem_empty w)
  governed w hw := absurd hw (not_mem_empty w)

theorem ages_of_run {sha : Document → String} {acts : List WindowAct}
    (h : Run (WindowStep sha) db acts db') : Ages db db' := by
  refine h.composes (fun s => refl_of Ages s) (trans_of Ages) ?_
  intro act s s' hstep
  rw [hstep]
  exact Respects.stored _ s

theorem rolloverWindow_expired {v v' : WindowRow}
    (h : rolloverWindow owner revision now db = .ok (w, db')) (hv : v ∈ db.windows)
    (hactive : v.state = .active) (hv' : db'.windows.find? v.key = some v')
    (hclosed : v'.state = .closed) : v.expiresAt ≤ now := by
  have hsame : db'.windows.find? v.key = some v → False := by
    intro hfind
    obtain rfl : v' = v := mem_unique hv' hfind
    rw [hactive] at hclosed
    cases hclosed
  rcases (rolloverWindow_cases h).2 with rfl | ⟨account, policy, active, windows, row, rfl, -, -,
    hexpired, -, hwindows, -⟩
  · exact (hsame (find?_key hv)).elim
  · replace hexpired := closesExpired_closing hexpired
    generalize db.closing active now = closed at *
    have hkept : closed.find? v.key = some v → False := by
      intro hfind
      refine hsame ((find?_insert? hwindows _).trans ?_)
      rw [if_neg, hfind]
      intro hk
      rw [hk, fresh_insert? hwindows] at hfind
      cases hfind
    rcases hexpired with rfl | ⟨u, u', rfl, hages, hu, -, hu'⟩
    · exact (hkept (find?_key hv)).elim
    · have hkey : u'.key = u.key := Prod.ext hages.ownerUserId hages.epoch
      by_cases hk : v.key = u'.key
      · -- the window that was closed is the one that had expired
        have hvu : v = u := Option.some.inj
          ((find?_key hv).symm.trans (by rw [hk, hkey]; exact find?_key hu))
        rw [hvu]
        exact hu'
      · exact (hkept ((find?_put_of_ne hk).trans (find?_key hv))).elim

/-- **Windows only age.**  In every state that is reached from empty tables, an owner has at most one
active window, which is the one that its account points to; a rollover from there closes no window
before it expires; and whatever happens next, every window keeps its epoch, its policy and its
times, stays closed once it is, loses no use, and a new window has a later epoch than all before. -/
theorem windows_only_age (sha : Document → String) {acts acts' : List WindowAct}
    (h : Run (WindowStep sha) {} acts db) (h' : Run (WindowStep sha) db acts' db') :
    (∀ v ∈ db.windows, ∀ w ∈ db.windows, v.ownerUserId = w.ownerUserId → v.state = .active →
      w.state = .active → v = w) ∧
    (∀ w ∈ db.windows, w.state = .active ↔
      ∃ a, db.getAccount w.ownerUserId = some a ∧ a.activeWindowEpoch = some w.epoch) ∧
    (∀ a ∈ db.accounts, ∀ epoch ∈ a.activeWindowEpoch,
      ∃ w, db.getWindow a.ownerUserId epoch = some w ∧ w.state = .active) ∧
    (∀ owner revision now w s, rolloverWindow owner revision now db = .ok (w, s) →
      ∀ v ∈ db.windows, v.state = .active → ∀ v', s.windows.find? v.key = some v' →
        v'.state = .closed → v.expiresAt ≤ now) ∧
    (∀ w ∈ db.windows, ∃ w', db'.windows.find? w.key = some w' ∧ w.Ages w' ∧
      ∃ p, db.getPolicy w.ownerUserId w.governingPolicyId = some p ∧
        db'.getPolicy w'.ownerUserId w'.governingPolicyId = some p) ∧
    (∀ w' ∈ db'.windows, db.windows.find? w'.key = none →
      ∀ w ∈ db.windows, w.ownerUserId = w'.ownerUserId → w.epoch < w'.epoch) := by
  have hs : WindowsSound db := (ages_of_run h windowsSound_empty).1
  obtain ⟨-, haged⟩ := ages_of_run h' hs
  refine ⟨?_, ?_, hs.pointer, ?_, ?_, haged.later⟩
  · intro v hv w hw howner hvActive hwActive
    obtain ⟨a, ha, hav⟩ := hs.pointed v hv hvActive
    obtain ⟨b, hb, hbw⟩ := hs.pointed w hw hwActive
    rw [howner] at ha
    obtain rfl : a = b := mem_unique ha hb
    have hepoch : v.epoch = w.epoch := mem_unique hav hbw
    have hfind := find?_key hv
    rw [show v.key = w.key from Prod.ext howner hepoch, find?_key hw] at hfind
    exact (Option.some.inj hfind).symm
  · intro w hw
    refine ⟨hs.pointed w hw, ?_⟩
    rintro ⟨a, ha, hepoch⟩
    obtain ⟨v, hv, hactive⟩ := hs.pointer a (mem_of_find? ha) w.epoch hepoch
    have howner : a.ownerUserId = w.ownerUserId := key_of_find? ha
    rw [howner] at hv
    obtain rfl : v = w := mem_unique hv (find?_key hw)
    exact hactive
  · intro owner revision now w s hroll v hv hactive v' hv' hclosed
    exact rolloverWindow_expired hroll hv hactive hv' hclosed
  · intro w hw
    obtain ⟨w', hw', hages⟩ := haged.windows w.key w (find?_key hw)
    obtain ⟨p, hp, -⟩ := hs.governed w hw
    refine ⟨w', hw', hages, p, hp, ?_⟩
    rw [hages.ownerUserId, hages.governingPolicyId]
    obtain ⟨hfind, howner⟩ := filter_eq_some_iff.1 hp
    exact filter_eq_some_iff.2 ⟨haged.policies _ _ hfind, howner⟩

def performAll (sha : Document → String) (db : Db) : List WindowAct → Db
  | [] => db
  | act :: rest => performAll sha ((act.perform sha).stored db) rest

theorem run_performAll (sha : Document → String) (db : Db) (acts : List WindowAct) :
    Run (WindowStep sha) db acts (performAll sha db acts) := by
  induction acts generalizing db with
  | nil => exact .nil db
  | cons act rest ih => exact .cons rfl (ih _)

/-- One window is opened and charged; later it has expired and is replaced. -/
def sampleWindowActs : List WindowAct :=
  [.request (.createPolicy samplePolicy), .request (.createAccount "u1"),
    .request (.selectNextPolicy "u1" 0 "p1"), .request (.rollover "u1" 1 10),
    .mutateUsage "u1" 1 0 { toolCallsUsed := some 2 }]

theorem windows_only_age_sampleWindowActs :
    (performAll sampleDigest {} sampleWindowActs).windows.rows.map
        (fun w => (w.epoch, w.state, w.counters.toolCallsUsed)) = [(1, .active, 2)] ∧
      (performAll sampleDigest (performAll sampleDigest {} sampleWindowActs)
          [.request (.rollover "u1" 2 4000)]).windows.rows.map
        (fun w => (w.epoch, w.state)) = [(1, .closed), (2, .active)] ∧
      ∀ w ∈ (performAll sampleDigest {} sampleWindowActs).windows,
        ∃ w', (performAll sampleDigest (performAll sampleDigest {} sampleWindowActs)
          [.request (.rollover "u1" 2 4000)]).windows.find? w.key = some w' ∧ w.Ages w' := by
  refine ⟨by decide +kernel, by decide +kernel, fun w hw => ?_⟩
  obtain ⟨w', hw', hages, -⟩ := (windows_only_age sampleDigest (run_performAll _ _ _)
    (run_performAll _ _ [.request (.rollover "u1" 2 4000)])).2.2.2.2.1 w hw
  exact ⟨w', hw', hages⟩

end AssistantRuntime.UserBudget

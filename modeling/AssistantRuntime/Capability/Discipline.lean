/-
**What workers agree on about an invocation.**

The row of an invocation, its attempts and what was done for it are advanced by separate calls.  That
they fit together at every moment, whoever acts and whoever stopped in between, is an agreement:

* an invocation that nobody holds is in one of five shapes, and its attempts tell how it got there;
* an invocation that somebody holds is touched by nobody else: it shows no attempt that could be
  started, and it is not at rest;
* what was handed out or run on the server for an invocation agrees with what its row says.

Main results: the calls of the store keep to the protocol (`Holding.guar`,
`Effect.guar_free`).
-/

import AssistantRuntime.Capability.Calls
import AssistantRuntime.Capability.ToolResults

namespace AssistantRuntime.Capability

open Concurrent Relational Table List Option

/-! ### Views -/

structure View where
  row : Option Invocation
  attempts : List Attempt
  marks : List Mark

def World.view (w : World) (id : String) : View :=
  ⟨w.ledger.invocations.find? id, w.ledger.attemptsOf id, w.marks id⟩

/-- The driver of an attempt, remote or on the server, began. -/
def Mark.isRun : Mark → Bool
  | .handed | .entered => true
  | .settled | .released => false

/-- After the request was handed over, nothing was run any more. -/
def HandedLast (marks : List Mark) : Prop :=
  ∀ later earlier, marks = later ++ .handed :: earlier → ∀ m ∈ later, m.isRun = false

theorem HandedLast.nil : HandedLast [] := by
  intro later earlier h
  simp at h

variable {marks : List Mark}

theorem HandedLast.cons_of_unsent {m : Mark} (h : .handed ∉ marks) :
    HandedLast (m :: marks) := by
  intro later earlier heq
  cases later with
  | nil => simp
  | cons x rest =>
    simp only [cons_append, List.cons.injEq] at heq
    exact absurd (heq.2 ▸ mem_append_right _ mem_cons_self) h

theorem HandedLast.cons_of_not_isRun {m : Mark} (hm : m.isRun = false) (h : HandedLast marks) :
    HandedLast (m :: marks) := by
  intro later earlier heq
  cases later with
  | nil => simp
  | cons x rest =>
    simp only [cons_append, List.cons.injEq] at heq
    intro y hy
    rcases mem_cons.1 hy with rfl | hy
    · exact heq.1 ▸ hm
    · exact h rest earlier heq.2 y hy

/-! ### Soundness -/

/-- The outcomes that no server driver is run under. -/
abbrev Barred := RemoteOutcome → Prop

/-- What was done for the invocation agrees with its row. -/
structure Recorded (barred : Barred) (v : Invocation) (marks : List Mark) : Prop where
  once : v.idempotency.replaySafe = false → HandedLast marks
  unsent : v.remoteOutcome = some .notDispatched → .handed ∉ marks
  unentered : v.remoteOutcome = some .notDispatched → barred .notDispatched → .entered ∉ marks
  released : .released ∈ marks → v.state.isTerminal = true ∧
    v.remoteOutcome = some .notDispatched
  committed : v.remoteOutcome = some .terminalCommitted → v.state.isTerminal = true
  completed : v.state = .completed → ∀ o, v.remoteOutcome = some o →
    o = .terminalCommitted ∨ ¬barred o

/-- The outcome is not in the middle of a dispatch and not final. -/
def Invocation.isSettledOpen (v : Invocation) : Prop :=
  v.remoteOutcome ≠ some .inFlight ∧ v.remoteOutcome ≠ some .terminalCommitted

/-- The request may be handed over: it was not yet, or it may be more than once. -/
def Dispatchable (v : Invocation) (marks : List Mark) : Prop :=
  v.idempotency.replaySafe = true ∨ .handed ∉ marks

/-- The attempts before the current one: all that were made, and all over. -/
def Finished (n : ℕ) (attempts : List Attempt) : Prop :=
  attempts.map (·.attemptNumber) = List.range' 1 n ∧ ∀ a ∈ attempts, a.state.isTerminal = true

variable {attempts : List Attempt}

/-- The shape of an invocation that nobody holds. -/
inductive Free (v : Invocation) (attempts : List Attempt) (marks : List Mark) : Prop
  | created (state : v.state = .created) (attempt : v.attempt = 0) (revision : v.revision = 0)
      (attempts : attempts = []) (marks : marks = []) (outcome : v.isSettledOpen)
  | dispatching (state : v.state = .dispatching) (outcome : v.isSettledOpen)
      (ready : Dispatchable v marks)
      (history : ∃ prior last, attempts = prior ++ [last] ∧ Finished (v.attempt - 1) prior ∧
        last.attemptNumber = v.attempt ∧ last.state = .dispatching ∧ last.completedAt = none)
      (attempt : 1 ≤ v.attempt)
  | waiting (state : v.state = .waiting) (reason : v.waitReason = some .connection)
      (outcome : v.isSettledOpen) (history : Finished v.attempt attempts)
      (attempt : 1 ≤ v.attempt)
  | terminal (state : v.state.isTerminal = true) (history : Finished v.attempt attempts)
      (attempt : 1 ≤ v.attempt)

theorem Finished.first {n : ℕ} (h : Finished n attempts) (hn : 1 ≤ n) :
    ∃ a ∈ attempts, a.attemptNumber = 1 := by
  have hone : 1 ∈ attempts.map (·.attemptNumber) := by
    rw [h.1, mem_range'_1]
    omega
  simpa using hone

theorem Free.first {v : Invocation} (h : Free v attempts marks) (hstate : v.state ≠ .created) :
    ∃ a ∈ attempts, a.attemptNumber = 1 := by
  cases h with
  | created state => exact absurd state hstate
  | dispatching _ _ _ history attempt =>
    obtain ⟨prior, last, rfl, hprior, hlast, -, -⟩ := history
    by_cases hone : v.attempt = 1
    · exact ⟨last, mem_append_right _ (mem_singleton_self _), hlast.trans hone⟩
    · obtain ⟨a, ha, hnumber⟩ := hprior.first (by omega)
      exact ⟨a, mem_append_left _ ha, hnumber⟩
  | waiting _ _ _ history attempt => exact history.first attempt
  | terminal _ history attempt => exact history.first attempt

/-- An invocation that somebody holds shows nothing that another worker could take up. -/
structure Held (v : Invocation) (attempts : List Attempt) : Prop where
  busy : v.state.isAtRest = false
  first : ∃ a ∈ attempts, a.attemptNumber = 1
  started : ∀ a ∈ attempts, a.state ≠ .dispatching

/-- **The agreement about one invocation.** -/
structure Sound (barred : Barred) (x : View) (holder : Option ℕ) : Prop where
  absent : x.row = none → x.attempts = [] ∧ x.marks = [] ∧ holder = none
  held : ∀ v, x.row = some v → holder ≠ none → Held v x.attempts
  free : ∀ v, x.row = some v → holder = none → Free v x.attempts x.marks
  recorded : ∀ v, x.row = some v → Recorded barred v x.marks

/-! ### Progress -/

/-- How the row of an invocation may change: every change raises the revision, keeps what the
invocation is and whether it has a remote side effect at all, and comes to an end when the invocation
is over. -/
def Progress (x y : Option Invocation) : Prop :=
  ∀ v, x = some v → ∃ v', y = some v' ∧ (v' = v ∨ v.revision < v'.revision) ∧ v.Advances v' ∧
    (v'.remoteOutcome = none ↔ v.remoteOutcome = none) ∧ (v.state.isTerminal = true → v' = v)

theorem Progress.refl (x : Option Invocation) : Progress x x :=
  fun v hv => ⟨v, hv, .inl rfl, .refl v, .rfl, fun _ => rfl⟩

theorem Progress.trans {x y z : Option Invocation} (h : Progress x y) (h' : Progress y z) :
    Progress x z := by
  intro v hv
  obtain ⟨v', hv', hrev, hadv, hnull, hterm⟩ := h v hv
  obtain ⟨v'', hv'', hrev', hadv', hnull', hterm'⟩ := h' v' hv'
  refine ⟨v'', hv'', ?_, hadv.trans hadv', hnull'.trans hnull, fun ht => ?_⟩
  · rcases hrev with rfl | hrev
    · exact hrev'
    · rcases hrev' with rfl | hrev'
      · exact .inr hrev
      · exact .inr (hrev.trans hrev')
  · have hv : v' = v := hterm ht
    exact (hterm' (hv ▸ ht)).trans hv

/-! ### Final results -/

/-- What entitles a result to be final: it claims that nothing was dispatched, or its invocation has no
remote side effect, or it carries the data of the invocation, which is final itself. -/
def Authorized (w : World) (r : ToolResult) : Prop :=
  r.isPreDispatch = true ∨ ∃ v, w.ledger.invocations.find? r.invocationId = some v ∧
    (v.remoteOutcome = none ∨
      v.remoteOutcome = some .terminalCommitted ∧ r.SameContent (terminalProjection r v))

/-- How tool results may change: what is final stays, and what becomes so is entitled to it. -/
structure Filed (w w' : World) : Prop where
  kept : ∀ key r, w.ledger.toolResults.find? key = some r → r.commitState = .committed →
    w'.ledger.toolResults.find? key = some r
  entitled : ∀ key r, w'.ledger.toolResults.find? key = some r → r.commitState = .committed →
    w.ledger.toolResults.find? key = some r ∨ Authorized w' r

theorem Filed.of_same {w w' : World} (h : w'.ledger.toolResults = w.ledger.toolResults) :
    Filed w w' :=
  ⟨fun _ _ hr _ => h ▸ hr, fun _ _ hr _ => .inl (h ▸ hr)⟩

/-! ### The protocol -/

/-- How an action of the worker `i` may change one invocation: what others hold stays theirs. -/
structure RespectsOthers (i : ℕ) (w w' : World) (id : String) : Prop where
  others : ∀ j ≠ i, w.holder id = some j → w'.view id = w.view id ∧ w'.holder id = some j
  taken : ∀ j ≠ i, w'.holder id = some j → w.holder id = some j
  progress : Progress (w.view id).row (w'.view id).row

/-- What the worker `i` may count on. -/
structure Relies (i : ℕ) (w w' : World) (id : String) : Prop where
  mine : w.holder id = some i → w'.view id = w.view id ∧ w'.holder id = some i
  taken : w'.holder id = some i → w.holder id = some i
  progress : Progress (w.view id).row (w'.view id).row

/-- **The protocol of the workers.** -/
def discipline (barred : Barred) : Protocol World Query where
  inv w := ∀ id, Sound barred (w.view id) (w.holder id)
  rely i w w' := ∀ id, Relies i w w' id
  guar i w w' := (∀ id, Sound barred (w'.view id) (w'.holder id)) ∧
    (∀ id, RespectsOthers i w w' id) ∧ Filed w w'
  may i q w := ∀ id, q.drives = some id → w.holder id = some i ∧
    ∃ v, (w.view id).row = some v ∧ v.state = .running
  fresh i w := ∀ id, w.holder id ≠ some i
  rely_refl i w id := ⟨fun h => ⟨rfl, h⟩, fun h => h, .refl _⟩
  rely_trans := by
    intro i w₁ w₂ w₃ h h' id
    refine ⟨fun hmine => ?_, fun htaken => (h id).taken ((h' id).taken htaken),
      (h id).progress.trans (h' id).progress⟩
    obtain ⟨hview, hholder⟩ := (h id).mine hmine
    obtain ⟨hview', hholder'⟩ := (h' id).mine hholder
    exact ⟨hview'.trans hview, hholder'⟩
  guar_rely := by
    intro i j w w' hne _ h id
    exact ⟨(h.2.1 id).others i hne, (h.2.1 id).taken i hne, (h.2.1 id).progress⟩
  guar_inv := fun _ h => h.1
  guar_fresh := by
    intro i j w w' hne h hfresh id hholder
    exact hfresh id ((h.2.1 id).taken i hne hholder)

variable {barred : Barred} {i : ℕ} {w w' : World} {id : String} {v v' : Invocation}
  {marks : List Mark}

/-- The action touches one invocation only, and leaves it so. -/
structure Effect (w w' : World) (id : String) (x : View) (holder : Option ℕ) : Prop where
  elsewhere : ∀ k ≠ id, w'.view k = w.view k ∧ w'.holder k = w.holder k
  view : w'.view id = x
  holder : w'.holder id = holder
  results : w'.ledger.toolResults = w.ledger.toolResults

variable {h' : Option ℕ} {x : View}

/-- **An action that touches one invocation** keeps to the protocol if it does so for that one. -/
theorem Effect.guar (heffect : Effect w w' id x h') (hinv : (discipline barred).inv w)
    (hsound : Sound barred x h') (hrespects : RespectsOthers i w w' id) :
    (discipline barred).guar i w w' := by
  refine ⟨fun k => ?_, fun k => ?_, .of_same heffect.results⟩
  · by_cases hk : k = id
    · rw [hk, heffect.view, heffect.holder]
      exact hsound
    · rw [(heffect.elsewhere k hk).1, (heffect.elsewhere k hk).2]
      exact hinv k
  · by_cases hk : k = id
    · exact hk ▸ hrespects
    · obtain ⟨hview, hholder⟩ := heffect.elsewhere k hk
      exact ⟨fun j _ hj => ⟨hview, hholder.trans hj⟩, fun j _ hj => hholder ▸ hj,
        hview ▸ .refl _⟩

theorem guar_of_same (hinv : (discipline barred).inv w) (hview : ∀ k, w'.view k = w.view k)
    (hholder : w'.holder = w.holder) (hfiled : Filed w w') : (discipline barred).guar i w w' := by
  refine ⟨fun k => ?_, fun k => ⟨fun j _ hj => ⟨hview k, hholder ▸ hj⟩, fun j _ hj => hholder ▸ hj,
    hview k ▸ .refl _⟩, hfiled⟩
  rw [hview, hholder]
  exact hinv k

theorem guar_refl (hinv : (discipline barred).inv w) : (discipline barred).guar i w w :=
  guar_of_same hinv (fun _ => rfl) rfl (.of_same rfl)

/-! ### What workers know -/

/-- What the holder of an invocation knows: everything. -/
structure Holding (i : ℕ) (v : Invocation) (attempts : List Attempt) (marks : List Mark)
    (w : World) : Prop where
  holder : w.holder v.invocationId = some i
  view : w.view v.invocationId = ⟨some v, attempts, marks⟩

variable (h : Holding i v attempts marks w)

include h

theorem Holding.stable (hrely : (discipline barred).rely i w w') :
    Holding i v attempts marks w' := by
  obtain ⟨hview, hholder⟩ := (hrely v.invocationId).mine h.holder
  exact ⟨hholder, hview.trans h.view⟩

theorem Holding.row :
    w.ledger.invocations.find? v.invocationId = some v := congrArg View.row h.view

theorem Holding.attemptsOf :
    w.ledger.attemptsOf v.invocationId = attempts := congrArg View.attempts h.view

theorem Holding.marks_eq :
    w.marks v.invocationId = marks := congrArg View.marks h.view

theorem Holding.recorded (hinv : (discipline barred).inv w) :
    Recorded barred v marks := by
  have hsound := (hinv v.invocationId).recorded v (by rw [h.view])
  rwa [h.view] at hsound

theorem Holding.held (hinv : (discipline barred).inv w) :
    Held v attempts := by
  have hsound := (hinv v.invocationId).held v (by rw [h.view]) (by simp [h.holder])
  rwa [h.view] at hsound

omit h

/-- What a reader of a row knows: it was the row, and whatever came later has another revision. -/
def Seen (v : Invocation) (w : World) : Prop :=
  ∃ row, w.ledger.invocations.find? v.invocationId = some row ∧
    (row = v ∨ v.revision < row.revision) ∧ (v.state.isTerminal = true → row = v)

theorem Seen.stable (h : Seen v w) (hrely : (discipline barred).rely i w w') : Seen v w' := by
  obtain ⟨row, hrow, hcase, hterm⟩ := h
  obtain ⟨row', hrow', hrev, -, -, hterm'⟩ := (hrely v.invocationId).progress row hrow
  refine ⟨row', hrow', ?_, fun ht => ?_⟩
  · rcases hcase with rfl | hlt
    · exact hrev
    · rcases hrev with rfl | hlt'
      · exact .inr hlt
      · exact .inr (hlt.trans hlt')
  · have hv := hterm ht
    exact (hterm' (hv ▸ ht)).trans hv

theorem Seen.of_row (h : w.ledger.invocations.find? id = some v) : Seen v w :=
  ⟨v, by rw [key_of_find? h]; exact h, .inl rfl, fun _ => rfl⟩

theorem Seen.eq_of_revision {row : Invocation} (h : Seen v w)
    (hrow : w.ledger.invocations.find? v.invocationId = some row)
    (hrev : row.revision = v.revision) : row = v := by
  obtain ⟨row', hrow', hcase, -⟩ := h
  cases mem_unique hrow hrow'
  rcases hcase with heq | hlt
  · exact heq
  · omega

/-! ### Actions of the holder -/

/-- The worker that acts holds the invocation afterwards, or nobody does. -/
theorem RespectsOthers.of_effect (heffect : Effect w w' id x h')
    (hbefore : w.holder id = some i ∨ w.holder id = none) (hafter : h' = some i ∨ h' = none)
    (hprogress : Progress (w.view id).row x.row) : RespectsOthers i w w' id := by
  refine ⟨fun j hj hw => ?_, fun j hj hw => ?_, by rw [heffect.view]; exact hprogress⟩
  · rcases hbefore with h | h
    · exact absurd (mem_unique hw h) hj
    · exact absurd (hw.symm.trans h) (by simp)
  · rcases hafter with h | h
    · exact absurd (mem_unique hw (heffect.holder.trans h)) hj
    · exact absurd (hw.symm.trans (heffect.holder.trans h)) (by simp)

/-- **An action of the holder** on what it holds. -/
theorem Holding.guar (hhold : Holding i v attempts marks w) (hinv : (discipline barred).inv w)
    (heffect : Effect w w' v.invocationId x h') (hmine : h' = some i ∨ h' = none)
    (hsound : Sound barred x h') (hprogress : Progress (some v) x.row) :
    (discipline barred).guar i w w' :=
  heffect.guar hinv hsound
    (.of_effect heffect (.inl hhold.holder) hmine (by rw [hhold.view]; exact hprogress))

/-- **An action on an invocation that nobody holds**, which the worker may take by it. -/
theorem Effect.guar_free (heffect : Effect w w' id x h') (hinv : (discipline barred).inv w)
    (hfree : w.holder id = none) (hmine : h' = some i ∨ h' = none) (hsound : Sound barred x h')
    (hprogress : Progress (w.view id).row x.row) : (discipline barred).guar i w w' :=
  heffect.guar hinv hsound (.of_effect heffect (.inr hfree) hmine hprogress)

/-! ### What the actions do -/

theorem World.compareAndSet_cases (v' : Invocation) (e i : ℕ) (w : World) :
    World.compareAndSet v' e i w = (false, w) ∨
      ∃ existing, w.ledger.invocations.find? v'.invocationId = some existing ∧
        existing.revision = e ∧ (World.compareAndSet v' e i w).1 = true ∧
        Effect w (World.compareAndSet v' e i w).2 v'.invocationId
          { w.view v'.invocationId with row := some v' }
          (if v'.state.isAtRest then none else w.holder v'.invocationId) := by
  rcases Ledger.compareAndSet_cases w.ledger v' e with h | ⟨existing, hfind, hrev, -, h⟩
  · exact .inl (by simp [World.compareAndSet, h])
  · refine .inr ⟨existing, hfind, hrev, ?_⟩
    simp only [World.compareAndSet, h, true_and]
    refine ⟨fun k hk => ⟨?_, ?_⟩, ?_, ?_, rfl⟩
    · simp only [World.view, find?_put_of_ne hk]
      rfl
    · dsimp only
      split
      · exact Function.update_of_ne hk _ _
      · rfl
    · simp only [World.view, find?_put_self hfind]
      rfl
    · dsimp only
      split
      · exact Function.update_self ..
      · rfl

variable {a : Attempt}

theorem World.updateAttempt_effect {last : Attempt} {prior : List Attempt} (i : ℕ)
    (hid : a.invocationId = id) (h : w.ledger.attemptsOf id = prior ++ [last])
    (hkey : last.attemptId = a.attemptId) :
    Effect w (World.updateAttempt a i w).2 id { w.view id with attempts := prior ++ [a] }
      (w.holder id) := by
  have hlast : last ∈ w.ledger.attempts ∧ last.invocationId = id :=
    Ledger.mem_attemptsOf.1 (h ▸ mem_append_right _ (mem_singleton_self _))
  refine ⟨fun k hk => ⟨?_, rfl⟩, ?_, rfl, rfl⟩
  · have hsame := Ledger.attemptsOf_put_of_ne hlast.1 hkey (hlast.2.trans hid.symm)
      (fun h => hk (h.symm.trans hid))
    simp only [World.view, World.updateAttempt, Ledger.updateAttempt, hsame]
  · have hput := Ledger.attemptsOf_put_last h hid hkey
    simp only [World.view, World.updateAttempt, Ledger.updateAttempt, hput]

theorem World.saveAttempt_cases (hid : a.invocationId = id) (i : ℕ) (w : World) :
    (∃ e, World.saveAttempt a i w = (.error e, w)) ∨
      (∀ x ∈ w.ledger.attemptsOf id, x.attemptNumber ≠ a.attemptNumber) ∧
        (World.saveAttempt a i w).1 = .ok () ∧
        Effect w (World.saveAttempt a i w).2 id
          { w.view id with attempts := w.ledger.attemptsOf id ++ [a] } (some i) := by
  subst hid
  cases hsave : w.ledger.insertAttempt? a with
  | none => exact .inl ⟨.integrityError, by simp [World.saveAttempt, Ledger.saveAttempt, hsave]⟩
  | some ledger =>
    obtain ⟨hnew, attempts, hinsert, rfl⟩ := Ledger.insertAttempt?_some hsave
    refine .inr ⟨hnew, ?_⟩
    simp only [World.saveAttempt, Ledger.saveAttempt, hsave, true_and]
    refine ⟨fun k hk => ⟨?_, Function.update_of_ne hk _ _⟩, ?_, Function.update_self .., rfl⟩
    · simp only [World.view, Ledger.attemptsOf_insert hinsert, if_neg fun h => hk (Eq.symm h)]
    · simp only [World.view, Ledger.attemptsOf_insert hinsert, if_pos]

theorem World.mark_effect (id : String) (m : Mark) (i : ℕ) (w : World) :
    Effect w (World.mark id m i w).2 id { w.view id with marks := m :: w.marks id }
      (w.holder id) := by
  refine ⟨fun k hk => ⟨?_, rfl⟩, ?_, rfl, rfl⟩
  · simp only [World.view, World.mark, Function.update_of_ne hk]
  · simp only [World.view, World.mark, Function.update_self]

theorem World.create_cases (v : Invocation) (i : ℕ) (w : World) :
    (∃ e, World.create v i w = (.error e, w)) ∨
      w.ledger.invocations.find? v.invocationId = none ∧ (World.create v i w).1 = .ok () ∧
        Effect w (World.create v i w).2 v.invocationId
          { w.view v.invocationId with row := some v } (w.holder v.invocationId) := by
  cases hcreate : w.ledger.create v with
  | error e => exact .inl ⟨e, by simp [World.create, hcreate]⟩
  | ok ledger =>
    obtain ⟨hnone, invocations, hinsert, rfl⟩ := Ledger.create_ok hcreate
    refine .inr ⟨hnone, ?_⟩
    simp only [World.create, hcreate, true_and]
    refine ⟨fun k hk => ⟨?_, rfl⟩, ?_, rfl, rfl⟩
    · simp only [World.view, find?_insert? hinsert, if_neg hk]
      rfl
    · simp only [World.view, find?_insert? hinsert, if_pos]
      rfl

theorem Effect.of_begin {ledger : Ledger} {existing : Invocation}
    (hfind : w.ledger.invocations.find? v.invocationId = some existing)
    (hinsert : Ledger.insertAttempt? { w.ledger with invocations := w.ledger.invocations.put v } a =
      some ledger) (ha : a.invocationId = v.invocationId) :
    Effect w { w with ledger } v.invocationId
      ⟨some v, w.ledger.attemptsOf v.invocationId ++ [a], w.marks v.invocationId⟩
      (w.holder v.invocationId) := by
  obtain ⟨-, attempts, hattempts, rfl⟩ := Ledger.insertAttempt?_some hinsert
  have hof := Ledger.attemptsOf_insert hattempts
  refine ⟨fun k hk => ⟨?_, rfl⟩, ?_, rfl, rfl⟩
  · simp only [World.view, hof k, ha, if_neg fun h => hk (Eq.symm h), find?_put_of_ne hk]
    rfl
  · simp only [World.view, hof v.invocationId, ha, if_pos, find?_put_self hfind]
    rfl

/-- What a statement that begins an attempt does: nothing, or it finds a row as it expects it, writes
the invocation and adds the attempt. -/
def World.Begins (f : World → Bool × World) (v : Invocation) (e : ℕ) (a : Attempt)
    (p : Invocation → List Attempt → Prop) (w : World) : Prop :=
  f w = (false, w) ∨ ∃ existing, w.ledger.invocations.find? v.invocationId = some existing ∧
    existing.revision = e ∧ p existing (w.ledger.listAttempts v.invocationId) ∧ (f w).1 = true ∧
    Effect w (f w).2 v.invocationId
      ⟨some v, w.ledger.attemptsOf v.invocationId ++ [a], w.marks v.invocationId⟩
      (w.holder v.invocationId)

theorem World.begins_of_ledger {f : World → Bool × World} {r : Bool × Ledger} {e : ℕ}
    {p : Invocation → Bool} {history : List Attempt → Bool} {q : Invocation → List Attempt → Prop}
    (ha : a.invocationId = v.invocationId) (hf : f w = (r.1, { w with ledger := r.2 }))
    (hr : r = (false, w.ledger) ∨ r = w.ledger.beginAttempt v e a p history)
    (hq : ∀ x l, p x = true → history l = true → q x l) : World.Begins f v e a q w := by
  rcases hr with rfl | rfl
  · exact .inl hf
  rcases Ledger.beginAttempt_cases w.ledger v e a p history with
    h | ⟨existing, ledger, hfind, hrev, hp, -, hhistory, hinsert, h⟩
  · exact .inl (by rw [hf, h])
  · refine .inr ⟨existing, hfind, hrev, hq _ _ hp hhistory, by rw [hf, h], ?_⟩
    rw [hf, h]
    exact .of_begin hfind hinsert ha

theorem World.begins_initial (v : Invocation) (e i : ℕ) (w : World)
    (ha : a.invocationId = v.invocationId) :
    World.Begins (World.beginInitialAttempt v e a i) v e a (fun _ l => l = []) w := by
  apply World.begins_of_ledger ha rfl
  · exact (ite_eq_or_eq ..).symm
  · exact fun _ _ _ hhistory => isEmpty_iff.1 hhistory

theorem World.begins_continuation (v : Invocation) (e i : ℕ) (w : World)
    (ha : a.invocationId = v.invocationId) :
    World.Begins (World.beginContinuationAttempt v e a i) v e a (fun x _ => x.state = .waiting) w := by
  apply World.begins_of_ledger ha rfl
  · exact (ite_eq_or_eq ..).symm
  · intro x _ hp _
    simp only [Bool.and_eq_true, decide_eq_true_eq] at hp
    exact hp.1

theorem World.startContinuationAttempt_cases (v : Invocation) (e : ℕ) (a : Attempt) (i : ℕ)
    (w : World) :
    World.startContinuationAttempt v e a i w = (false, w) ∨
      ∃ existing row, w.ledger.invocations.find? v.invocationId = some existing ∧
        existing.revision = e ∧ row ∈ w.ledger.attemptsOf v.invocationId ∧
        row.attemptId = a.attemptId ∧ row.attemptNumber = v.attempt ∧ row.state = .dispatching ∧
        a.invocationId = v.invocationId ∧ a.attemptNumber = v.attempt ∧
        (World.startContinuationAttempt v e a i w).1 = true ∧
        ∀ prior, w.ledger.attemptsOf v.invocationId = prior ++ [row] →
          Effect w (World.startContinuationAttempt v e a i w).2 v.invocationId
            ⟨some v, prior ++ [{ row with state := .running }], w.marks v.invocationId⟩
            (some i) := by
  rcases Ledger.startContinuationAttempt_cases w.ledger v e a with
    h | ⟨existing, row, hfind, hrev, -, -, -, -, hainv, hanum, hrfind, hrinv, hrnum, hrstate, h⟩
  · exact .inl (by simp [World.startContinuationAttempt, h])
  · have hrow : row ∈ w.ledger.attempts := mem_of_find? hrfind
    refine .inr ⟨existing, row, hfind, hrev, Ledger.mem_attemptsOf.2 ⟨hrow, hrinv⟩,
      key_of_find? hrfind, hrnum, hrstate, hainv, hanum, ?_⟩
    simp only [World.startContinuationAttempt, h, true_and]
    intro prior hprior
    have hput := Ledger.attemptsOf_put_last (a := { row with state := .running }) hprior hrinv rfl
    refine ⟨fun k hk => ⟨?_, Function.update_of_ne hk _ _⟩, ?_, Function.update_self .., rfl⟩
    · have hne : row.invocationId ≠ k := fun h => hk (h ▸ hrinv)
      have hkeep := Ledger.attemptsOf_put_of_ne (a := { row with state := .running }) hrow rfl rfl
        hne
      simp only [World.view, find?_put_of_ne hk]
      exact congrArg₂ (View.mk _) hkeep rfl
    · simp only [World.view, find?_put_self hfind]
      exact congrArg₂ (View.mk _) hput rfl

theorem World.startInitialAttempt_eq (v : Invocation) (e : ℕ) (a : Attempt) (i : ℕ) (w : World) :
    World.startInitialAttempt v e a i w = (false, w) ∨
      World.startInitialAttempt v e a i w = World.startContinuationAttempt v e a i w := by
  unfold World.startInitialAttempt World.startContinuationAttempt Ledger.startInitialAttempt
  split_ifs
  · exact .inr rfl
  · exact .inl rfl

end AssistantRuntime.Capability

/-
**The life cycle, step by step, by a worker that keeps to the protocol.**

For each call of the life cycle: what its worker must know before it, and what it knows afterwards,
whatever other workers do in the meantime.  A worker that holds an invocation knows the row, the
attempts and the marks; a worker that only read a row knows that a guarded write to it succeeds only
if nobody wrote in between.
-/

import AssistantRuntime.Capability.Discipline

namespace AssistantRuntime.Capability

open Concurrent Relational List Option

/-- The answers that are considered: a server driver is started only under an outcome that is not
barred. -/
def Permitted (barred : Barred) : (q : Query) → q.Answer → World → Prop
  | .cancelled id .server, answer, w => answer = false →
      ∀ v, w.ledger.invocations.find? id = some v → ∀ o, v.remoteOutcome = some o → ¬barred o
  | _, _, _ => True

abbrev Disciplined {α : Type} (barred : Barred) (i : ℕ) (p : Program α) (post : α → World → Prop)
    (w : World) : Prop :=
  Keeps (discipline barred) (Permitted barred) i p post w

variable {barred : Barred} {i : ℕ} {w w' : World} {id : String} {u v v' moved : Invocation}
  {attempts prior : List Attempt} {a last : Attempt} {marks : List Mark}

/-! ### Agreement after a move -/

theorem Sound.of_held (hheld : Held v attempts) (hrecorded : Recorded barred v marks) :
    Sound barred ⟨some v, attempts, marks⟩ (some i) where
  absent h := nomatch h
  held _ h _ := Option.some.inj h ▸ hheld
  free _ _ h := nomatch h
  recorded _ h := Option.some.inj h ▸ hrecorded

theorem Sound.of_free (hfree : Free v attempts marks) (hrecorded : Recorded barred v marks) :
    Sound barred ⟨some v, attempts, marks⟩ none where
  absent h := nomatch h
  held _ _ h := absurd rfl h
  free _ h _ := Option.some.inj h ▸ hfree
  recorded _ h := Option.some.inj h ▸ hrecorded

theorem InvocationState.isTerminal_of_not_isAtRest {s : InvocationState} (h : s.isAtRest = false) :
    s.isTerminal = false := by
  cases s <;> first | rfl | cases h

theorem Recorded.busy (h : Recorded barred v marks) (hv : v.state.isTerminal = false)
    (hidem : u.idempotency = v.idempotency) (houtcome : u.remoteOutcome = v.remoteOutcome)
    (hu : u.state.isTerminal = false) : Recorded barred u marks where
  once hsafe := h.once (hidem ▸ hsafe)
  unsent ho := h.unsent (houtcome ▸ ho)
  unentered ho := h.unentered (houtcome ▸ ho)
  released hr := by cases hv.symm.trans (h.released hr).1
  committed ho := by cases hv.symm.trans (h.committed (houtcome ▸ ho))
  completed hc := by
    rw [hc] at hu
    cases hu

/-- An invocation that is not over becomes so, or learns about its side effect. -/
theorem Recorded.learns (h : Recorded barred v marks) (hv : v.state.isTerminal = false)
    (hidem : u.idempotency = v.idempotency)
    (hunsent : u.remoteOutcome = some .notDispatched →
      .handed ∉ marks ∧ (barred .notDispatched → .entered ∉ marks))
    (hcommitted : u.remoteOutcome = some .terminalCommitted → u.state.isTerminal = true)
    (hcompleted : u.state = .completed → ∀ o, u.remoteOutcome = some o →
      o = .terminalCommitted ∨ ¬barred o) : Recorded barred u marks where
  once hsafe := h.once (hidem ▸ hsafe)
  unsent ho := (hunsent ho).1
  unentered ho := (hunsent ho).2
  released hr := by cases hv.symm.trans (h.released hr).1
  committed := hcommitted
  completed := hcompleted

theorem Progress.of_write (hrev : v.revision < u.revision) (hadv : v.Advances u)
    (hnull : u.remoteOutcome = none ↔ v.remoteOutcome = none)
    (hv : v.state.isTerminal = false) : Progress (some v) (some u) := by
  intro x hx
  cases hx
  exact ⟨u, rfl, .inr hrev, hadv, hnull, fun ht => by cases hv.symm.trans ht⟩

/-! ### Moves of the holder -/

theorem Holding.keeps_perform {ρ : Type} {f : ℕ → World → ρ × World} {post : ρ → World → Prop}
    (hhold : Holding i v attempts marks w)
    (h : ∀ w1, (discipline barred).inv w1 → Holding i v attempts marks w1 →
      (discipline barred).guar i w1 (f i w1).2 ∧ post (f i w1).1 (f i w1).2) :
    Disciplined barred i (perform f) post w :=
  .perform fun w1 hinv hrely => h w1 hinv (hhold.stable hrely)

/-- A move that is refused raises. -/
theorem keeps_moved {α : Type} {p : Prop} [Decidable p] {e : Raised} {state : InvocationState}
    {now : ℤ} {k : Invocation → Program α} {post : α → World → Prop}
    (h : Disciplined barred i (k (u.move state {} now)) post w) : Disciplined barred i
      (if p then throw e else orRaise (transitionInvocation u state {} now) >>= k) post w := by
  split
  · exact .throw
  · refine .bind (.decided fun moved hmoved => ?_)
    obtain ⟨-, -, -, rfl⟩ := transitionInvocation_eq_ok.1 hmoved
    exact h

theorem Holding.keeps_compareAndSet {e : ℕ} (hhold : Holding i v attempts marks w)
    (hid : u.invocationId = v.invocationId) (hadv : v.Advances u) (hrev : e < u.revision)
    (hsound : e = v.revision → Recorded barred v marks → Held v attempts →
      Sound barred ⟨some u, attempts, marks⟩ (if u.state.isAtRest then none else some i) ∧
        (u.remoteOutcome = none ↔ v.remoteOutcome = none)) :
    Disciplined barred i (perform (World.compareAndSet u e))
      (fun written w' => if written then Recorded barred u marks ∧
          (u.state.isAtRest = false → Holding i u attempts marks w')
        else Holding i v attempts marks w') w := by
  refine hhold.keeps_perform fun w1 hinv hhold1 => ?_
  rcases World.compareAndSet_cases u e i w1 with h | ⟨existing, hfind, hex, hok, heffect⟩
  · rw [h]
    exact ⟨guar_refl hinv, by simpa using hhold1⟩
  · rw [hid] at hfind heffect
    cases mem_unique hfind hhold1.row
    rw [hhold1.view, hhold1.holder] at heffect
    have hheld := hhold1.held hinv
    obtain ⟨hsound, hnull⟩ := hsound hex.symm (hhold1.recorded hinv) hheld
    refine ⟨hhold1.guar hinv heffect ?_ hsound (.of_write (hex ▸ hrev) hadv hnull
      (InvocationState.isTerminal_of_not_isAtRest hheld.busy)), ?_⟩
    · split
      · exact .inr rfl
      · exact .inl rfl
    · rw [hok, if_pos rfl]
      refine ⟨hsound.recorded u rfl, fun hbusy => ?_⟩
      rw [hbusy] at heffect
      constructor
      · rw [hid]
        exact heffect.holder
      · rw [hid]
        exact heffect.view

variable {state : InvocationState} {now : ℤ} {post : Invocation → World → Prop} {c : Changes}

/-- **The holder moves the invocation.** -/
theorem Holding.keeps_transition (hhold : Holding i v attempts marks w) (hadv : v.Advances u)
    (houtcome : u.remoteOutcome = v.remoteOutcome)
    (hnd : c.remoteOutcome = some .notDispatched → u.remoteOutcome ≠ none)
    (hsound : ∀ moved, transitionInvocation u state c now = .ok moved → u.revision = v.revision →
      Recorded barred v marks → Held v attempts →
      Sound barred ⟨some moved, attempts, marks⟩ (if state.isAtRest then none else some i))
    (hpost : ∀ moved w', transitionInvocation u state c now = .ok moved →
      Recorded barred moved marks → (state.isAtRest = false → Holding i moved attempts marks w') →
      post moved w') : Disciplined barred i (transition now u state c) post w := by
  refine .bind (.decided fun moved hmoved => ?_)
  obtain ⟨-, -, -, rfl⟩ := transitionInvocation_eq_ok.1 hmoved
  refine .bind (.mono ?_ (hhold.keeps_compareAndSet
    hadv.invocationId (hadv.trans (u.advances_move state c now)) (Nat.lt_succ_self _)
    (fun hrev hrecorded hheld => ⟨hsound _ hmoved hrev hrecorded hheld,
      houtcome ▸ remoteOutcome_eq_none_iff_of_transition hmoved hnd⟩)))
  intro written w' h
  cases written with
  | false => exact .throw
  | true => exact .pure (hpost _ w' hmoved h.1 h.2)

theorem Holding.keeps_busy (hstate : state.isAtRest = false) (hhold : Holding i v attempts marks w)
    (hadv : v.Advances u) (houtcome : u.remoteOutcome = v.remoteOutcome) :
    Disciplined barred i (transition now u state {})
      (fun moved w' => moved = u.move state {} now ∧ Recorded barred moved marks ∧
        Holding i moved attempts marks w') w := by
  refine hhold.keeps_transition hadv houtcome (nofun) ?_ ?_
  · intro moved hmoved _ hrecorded hheld
    obtain ⟨-, -, -, rfl⟩ := transitionInvocation_eq_ok.1 hmoved
    rw [hstate, if_neg (by simp)]
    have hv := InvocationState.isTerminal_of_not_isAtRest hheld.busy
    have hbusy := InvocationState.isTerminal_of_not_isAtRest hstate
    refine .of_held ⟨hstate, hheld.first, hheld.started⟩ ?_
    exact hrecorded.busy hv hadv.idempotency (by simpa [Invocation.move] using houtcome) hbusy
  · intro moved w' hmoved hrecorded hhold'
    obtain ⟨-, -, -, rfl⟩ := transitionInvocation_eq_ok.1 hmoved
    exact ⟨rfl, hrecorded, hhold' hstate⟩

/-- **The holder brings the invocation to rest.** -/
theorem Holding.keeps_rest (hstate : state.isAtRest = true) (hhold : Holding i v attempts marks w)
    (hnd : c.remoteOutcome = some .notDispatched → v.remoteOutcome ≠ none)
    (hfree : ∀ moved, transitionInvocation v state c now = .ok moved → Recorded barred v marks →
      v.state.isTerminal = false → Free moved attempts marks ∧ Recorded barred moved marks)
    (hpost : ∀ moved w', transitionInvocation v state c now = .ok moved → post moved w') :
    Disciplined barred i (transition now v state c) post w := by
  refine hhold.keeps_transition (.refl v) rfl hnd ?_ fun moved w' hmoved _ _ =>
    hpost moved w' hmoved
  intro moved hmoved _ hrecorded hheld
  rw [hstate, if_pos rfl]
  obtain ⟨hf, hr⟩ := hfree moved hmoved hrecorded
    (InvocationState.isTerminal_of_not_isAtRest hheld.busy)
  exact .of_free hf hr

theorem Holding.keeps_updateRemoteOutcome {o : RemoteOutcome}
    (hhold : Holding i v attempts marks w) (htc : o ≠ .terminalCommitted)
    (hnd : o = .notDispatched → v.remoteOutcome ≠ none) (hbusy : v.state.isAtRest = false)
    (hunsent : o = .notDispatched →
      .handed ∉ marks ∧ (barred .notDispatched → .entered ∉ marks)) :
    Disciplined barred i (updateRemoteOutcome v o)
      (fun v' w' => Holding i v' attempts marks w' ∧
        ∃ revision, v' = { v with remoteOutcome := some o, revision }) w := by
  refine .bind (.decided fun changed hchanged => ?_)
  cases changed with
  | none =>
    refine .pure ⟨hhold, v.revision, ?_⟩
    rw [← changeRemoteOutcome_none hchanged]
  | some changed =>
    obtain ⟨hpermitted, -, rfl⟩ := changeRemoteOutcome_ok hchanged
    have hopen : v.remoteOutcome ≠ none := by
      by_cases ho : o = .notDispatched
      · exact hnd ho
      · exact ne_none_of_remoteOutcomeTransition hpermitted ho
    refine .bind (.mono ?_ (hhold.keeps_compareAndSet rfl
      (by constructor <;> rfl) (Nat.lt_succ_self _) ?_))
    · intro written w' h
      cases written with
      | false => exact .throw
      | true => exact .pure ⟨h.2 hbusy, v.revision + 1, rfl⟩
    · intro _ hrecorded hheld
      rw [hbusy, if_neg (by simp)]
      refine ⟨.of_held ⟨hbusy, hheld.first, hheld.started⟩ ?_, by simp [hopen]⟩
      refine hrecorded.learns (InvocationState.isTerminal_of_not_isAtRest hbusy) rfl
        (fun ho => hunsent (Option.some.inj ho)) (fun ho => absurd (Option.some.inj ho) htc) ?_
      intro hc
      rw [hc] at hbusy
      cases hbusy

variable {error : Option JsonObject}

/-- **The holder closes the attempt.** -/
theorem Holding.keeps_finishAttempt (hhold : Holding i v (prior ++ [last]) marks w)
    (hid : a.invocationId = v.invocationId) (hkey : last.attemptId = a.attemptId)
    (hnumber : last.attemptNumber = a.attemptNumber) :
    Disciplined barred i (finishAttempt now a state error)
      (fun a' w' => a' = { a with state, error, completedAt := some now } ∧
        state.isTerminal = true ∧ Holding i v (prior ++ [a']) marks w') w := by
  unfold finishAttempt
  split
  · exact .throw
  · rename_i hterminal
    have hterminal : state.isTerminal = true := by simpa using hterminal
    refine .bind (hhold.keeps_perform fun w1 hinv hhold1 => ?_)
    have heffect := World.updateAttempt_effect (a := { a with state, error, completedAt := some now })
      i hid hhold1.attemptsOf hkey
    rw [hhold1.view, hhold1.holder] at heffect
    have hheld := hhold1.held hinv
    refine ⟨hhold1.guar hinv heffect (.inl rfl) (.of_held ⟨hheld.busy, ?_, ?_⟩
      (hhold1.recorded hinv)) (.refl _), .pure ⟨rfl, hterminal, heffect.holder, heffect.view⟩⟩
    · obtain ⟨x, hx, hone⟩ := hheld.first
      rcases mem_append.1 hx with hx | hx
      · exact ⟨x, mem_append_left _ hx, hone⟩
      · cases mem_singleton.1 hx
        exact ⟨_, mem_append_right _ (mem_singleton_self _), hnumber ▸ hone⟩
    · intro x hx
      rcases mem_append.1 hx with hx | hx
      · exact hheld.started x (mem_append_left _ hx)
      · cases mem_singleton.1 hx
        intro hdispatching
        dsimp only at hdispatching
        rw [hdispatching] at hterminal
        cases hterminal

variable {implementationId driverKind : String} {connectionId : Option String}

variable (hhold : Holding i v attempts marks w)

include hhold

theorem Holding.keeps_startAttempt (hid : u.invocationId = v.invocationId) :
    Disciplined barred i (startAttempt u implementationId driverKind connectionId)
      (fun a' w' => a'.invocationId = u.invocationId ∧ a'.attemptNumber = u.attempt ∧
        a'.state = .running ∧ a'.completedAt = none ∧ Holding i v (attempts ++ [a']) marks w') w := by
  refine .bind (.query fun w1 _ hrely => ⟨nofun, fun attemptId _ => ?_⟩)
  have hhold1 := hhold.stable hrely
  refine .bind (.performOrRaise fun w2 hinv hrely2 => ?_)
  have hhold2 := hhold1.stable hrely2
  generalize hattempt : ({ attemptId, invocationId := u.invocationId, attemptNumber := u.attempt, .. }
    : Attempt) = a'
  have hfields : a'.invocationId = u.invocationId ∧ a'.attemptNumber = u.attempt ∧
      a'.state = .running ∧ a'.completedAt = none := by
    subst hattempt
    exact ⟨rfl, rfl, rfl, rfl⟩
  obtain ⟨hid', hnumber, hrunning, hopen⟩ := hfields
  rcases World.saveAttempt_cases (hid'.trans hid) i w2 with ⟨e, h⟩ | ⟨-, hok, heffect⟩
  · rw [h]
    exact ⟨guar_refl hinv, nofun⟩
  · rw [hhold2.attemptsOf, hhold2.view] at heffect
    have hheld := hhold2.held hinv
    refine ⟨hhold2.guar hinv heffect (.inl rfl) (.of_held ⟨hheld.busy, ?_, ?_⟩
      (hhold2.recorded hinv)) (.refl _), fun _ _ => .pure
        ⟨hid', hnumber, hrunning, hopen, heffect.holder, heffect.view⟩⟩
    · obtain ⟨x, hx, hone⟩ := hheld.first
      exact ⟨x, mem_append_left _ hx, hone⟩
    · intro x hx
      rcases mem_append.1 hx with hx | hx
      · exact hheld.started x hx
      · cases mem_singleton.1 hx
        simp [hrunning]

theorem Holding.keeps_mark {m : Mark}
    (hrecorded : Recorded barred v marks → Recorded barred v (m :: marks)) :
    Disciplined barred i (perform (World.mark v.invocationId m))
      (fun _ w' => Holding i v attempts (m :: marks) w') w := by
  refine hhold.keeps_perform fun w1 hinv hhold1 => ?_
  have heffect := World.mark_effect v.invocationId m i w1
  rw [hhold1.view, hhold1.holder, hhold1.marks_eq] at heffect
  exact ⟨hhold1.guar hinv heffect (.inl rfl) (.of_held (hhold1.held hinv)
    (hrecorded (hhold1.recorded hinv))) (.refl _), heffect.holder, heffect.view⟩

theorem Holding.keeps_ask {q : Query} (hstate : v.state = .running)
    (hq : q.drives = some v.invocationId ∨ q.drives = none) :
    Disciplined barred i (ask q)
      (fun answer w' => Holding i v attempts marks w' ∧ Permitted barred q answer w') w := by
  refine .query fun w1 _ hrely => ⟨fun id hid => ?_, fun answer ha => ⟨hhold.stable hrely, ha⟩⟩
  rcases hq with hq | hq
  · cases mem_unique hq hid
    have hhold1 := hhold.stable hrely
    exact ⟨hhold1.holder, v, by rw [hhold1.view], hstate⟩
  · cases hq.symm.trans hid

omit hhold

/-! ### How an invocation comes to be held -/

theorem keeps_get {id : String} :
    Disciplined barred i (perform (World.get id))
      (fun row w' => ∀ v, row = some v → Seen v w' ∧ v.invocationId = id ∧
        (v.remoteOutcome = some .terminalCommitted → v.state.isTerminal = true)) w := by
  refine .perform fun w1 hinv _ => ⟨guar_refl hinv, fun v hv => ?_⟩
  exact ⟨.of_row hv, Table.key_of_find? hv, ((hinv id).recorded v hv).committed⟩

/-- What a call of `execute_capability` creates. -/
structure Invocation.IsNew (v : Invocation) : Prop where
  state : v.state = .created
  attempt : v.attempt = 0
  revision : v.revision = 0
  outcome : v.isSettledOpen

theorem Invocation.IsNew.keeps_create (hnew : v.IsNew) :
    Disciplined barred i (performOrRaise (World.create v)) (fun _ w' => Seen v w') w := by
  refine .performOrRaise fun w1 hinv _ => ?_
  rcases World.create_cases v i w1 with ⟨e, h⟩ | ⟨hnone, hok, heffect⟩
  · rw [h]
    exact ⟨guar_refl hinv, nofun⟩
  · obtain ⟨hattempts, hmarks, hholder⟩ := (hinv v.invocationId).absent hnone
    dsimp only at heffect
    rw [hattempts, hmarks, hholder] at heffect
    refine ⟨heffect.guar_free hinv hholder (.inr rfl) (.of_free
      (.created hnew.state hnew.attempt hnew.revision rfl rfl hnew.outcome) ?_) ?_, fun _ _ => ?_⟩
    · refine ⟨fun _ => .nil, fun _ => by simp, fun _ _ => by simp, by simp,
        fun ho => absurd ho hnew.outcome.2, fun hc => ?_⟩
      rw [hnew.state] at hc
      cases hc
    · have hrow : (w1.view v.invocationId).row = none := hnone
      rw [hrow]
      exact fun _ h => (nomatch h)
    · exact .of_row (congrArg View.row heffect.view)

variable {holder : Option ℕ} {x : View}

/-- An invocation without a first attempt was never taken up. -/
theorem Sound.created_of_unattempted (h : Sound barred x holder) (hrow : x.row = some v)
    (hnone : ∀ a ∈ x.attempts, a.attemptNumber ≠ 1) :
    holder = none ∧ v.state = .created ∧ v.attempt = 0 ∧ v.revision = 0 ∧ x.attempts = [] ∧
      x.marks = [] ∧ v.isSettledOpen := by
  have hholder : holder = none := by
    by_contra hne
    obtain ⟨a, ha, hone⟩ := (h.held v hrow hne).first
    exact hnone a ha hone
  refine ⟨hholder, ?_⟩
  have hfree := h.free v hrow hholder
  by_cases hstate : v.state = .created
  · cases hfree with
    | created state attempt revision hattempts hmarks outcome =>
      exact ⟨state, attempt, revision, hattempts, hmarks, outcome⟩
    | dispatching state | waiting state => exact absurd (state.symm.trans hstate) (by simp)
    | terminal state =>
      rw [hstate] at state
      cases state
  · obtain ⟨a, ha, hone⟩ := hfree.first hstate
    exact absurd hone (hnone a ha)

/-- An invocation that waits is held by nobody, and its attempts are over. -/
theorem Sound.of_waiting (h : Sound barred x holder) (hrow : x.row = some v)
    (hwaiting : v.state = .waiting) :
    holder = none ∧ v.isSettledOpen ∧ Finished v.attempt x.attempts ∧ 1 ≤ v.attempt := by
  have hholder : holder = none := by
    by_contra hne
    have hbusy := (h.held v hrow hne).busy
    rw [hwaiting] at hbusy
    cases hbusy
  refine ⟨hholder, ?_⟩
  cases h.free v hrow hholder with
  | waiting _ _ outcome history attempt => exact ⟨outcome, history, attempt⟩
  | created state | dispatching state => exact absurd (state.symm.trans hwaiting) (by simp)
  | terminal state =>
    rw [hwaiting] at state
    cases state

/-- A worker without a quota takes up the invocation that it created, if nobody else did. -/
theorem Invocation.IsNew.keeps_startAttempt (hnew : v.IsNew) (hseen : Seen v w)
    (hid : u.invocationId = v.invocationId) (hone : u.attempt = 1) :
    Disciplined barred i (startAttempt u implementationId driverKind connectionId)
      (fun a' w' => a'.invocationId = u.invocationId ∧ a'.attemptNumber = u.attempt ∧
        a'.state = .running ∧ a'.completedAt = none ∧ Holding i v [a'] [] w') w := by
  refine .bind (.query fun w1 _ hrely => ⟨nofun, fun attemptId _ => ?_⟩)
  have hseen1 := hseen.stable hrely
  refine .bind (.performOrRaise fun w2 hinv hrely2 => ?_)
  have hseen2 := hseen1.stable hrely2
  generalize hattempt : ({ attemptId, invocationId := u.invocationId, attemptNumber := u.attempt, .. }
    : Attempt) = a'
  have hfields : a'.invocationId = u.invocationId ∧ a'.attemptNumber = u.attempt ∧
      a'.state = .running ∧ a'.completedAt = none := by
    subst hattempt
    exact ⟨rfl, rfl, rfl, rfl⟩
  obtain ⟨hid', hnumber, hrunning, hopen⟩ := hfields
  rcases World.saveAttempt_cases (hid'.trans hid) i w2 with ⟨e, h⟩ | ⟨hfresh, hok, heffect⟩
  · rw [h]
    exact ⟨guar_refl hinv, nofun⟩
  · have ⟨row, hrow, _⟩ := hseen2
    obtain ⟨hholder, hstate, -, hrev, hattempts, hmarks, -⟩ :=
      (hinv v.invocationId).created_of_unattempted hrow (fun a ha => by
        rw [← hone, ← hnumber]
        exact hfresh a ha)
    cases hseen2.eq_of_revision hrow (hrev.trans hnew.revision.symm)
    have hview : w2.view v.invocationId = ⟨some v, [], []⟩ := by
      rw [← hattempts, ← hmarks, ← hrow]
      rfl
    have hof : w2.ledger.attemptsOf v.invocationId = [] := congrArg View.attempts hview
    rw [hof, hview] at heffect
    refine ⟨heffect.guar_free hinv hholder (.inl rfl) (.of_held ⟨?_, ?_, ?_⟩ ?_) ?_, fun _ _ =>
      .pure ⟨hid', hnumber, hrunning, hopen, heffect.holder, heffect.view⟩⟩
    · rw [hstate]
      rfl
    · exact ⟨a', by simp, hnumber.trans hone⟩
    · intro a ha
      cases mem_singleton.1 ha
      simp [hrunning]
    · have := (hinv v.invocationId).recorded v hrow
      rwa [hview] at this
    · rw [hview]
      exact .refl _

theorem Sound.of_dispatching (hrecorded : Recorded barred v marks)
    (hv : v.state.isTerminal = false) (hadv : v.Advances u)
    (houtcome : u.remoteOutcome = v.remoteOutcome) (hopen : v.isSettledOpen)
    (hready : Dispatchable v marks) (hprior : Finished (u.attempt - 1) prior)
    (hone : 1 ≤ u.attempt) (hnumber : last.attemptNumber = u.attempt)
    (hstate : last.state = .dispatching) (hcompleted : last.completedAt = none) :
    Sound barred ⟨some (u.move .dispatching {} now), prior ++ [last], marks⟩ none := by
  have hsame : (u.move .dispatching {} now).remoteOutcome = v.remoteOutcome := by
    simpa [Invocation.move] using houtcome
  refine .of_free (.dispatching rfl ?_ ?_
    ⟨prior, last, rfl, hprior, hnumber, hstate, hcompleted⟩ hone) ?_
  · exact ⟨hsame ▸ hopen.1, hsame ▸ hopen.2⟩
  · refine hready.imp_left fun hsafe => ?_
    exact (congrArg Idempotency.replaySafe hadv.idempotency).trans hsafe
  · exact hrecorded.busy hv hadv.idempotency hsame rfl

variable {f : ℕ → World → Bool × World}

/-- **An attempt is begun**, of an invocation that nobody holds and that may be dispatched. -/
theorem Seen.keeps_begin {e : Raised} {p : Invocation → List Attempt → Prop} (hseen : Seen v w)
    (hadv : v.Advances u) (houtcome : u.remoteOutcome = v.remoteOutcome)
    (hrevision : u.revision = v.revision) (hone : 1 ≤ u.attempt)
    (hnumber : a.attemptNumber = u.attempt) (hstate : a.state = .dispatching)
    (hcompleted : a.completedAt = none)
    (hf : ∀ w1, World.Begins (f i) (u.move .dispatching {} now) v.revision a p w1)
    (hready : ∀ w1 : World, Sound barred (w1.view v.invocationId) (w1.holder v.invocationId) →
      w1.ledger.invocations.find? v.invocationId = some v →
      p v (w1.ledger.listAttempts v.invocationId) →
      w1.holder v.invocationId = none ∧ v.state.isTerminal = false ∧ v.isSettledOpen ∧
      Dispatchable v (w1.marks v.invocationId) ∧
      Finished (u.attempt - 1) (w1.ledger.attemptsOf v.invocationId)) : Disciplined barred i
      (do
        let begun ← perform f
        if begun then pure (u.move .dispatching {} now, a) else throw e)
      (fun begun w' => Seen begun.1 w' ∧ begun.1.remoteOutcome = v.remoteOutcome ∧
        begun.2.completedAt = none) w := by
  refine .bind (.perform fun w1 hinv hrely => ?_)
  rcases hf w1 with h | ⟨existing, hfind, hrev, hp, hok, heffect⟩
  · rw [h]
    exact ⟨guar_refl hinv, .throw⟩
  · have hid : (u.move .dispatching {} now).invocationId = v.invocationId := hadv.invocationId
    rw [hid] at hfind hp heffect
    cases (hseen.stable hrely).eq_of_revision hfind hrev
    obtain ⟨hholder, hterminal, hsettled, hdispatchable, hfinished⟩ :=
      hready w1 (hinv v.invocationId) hfind hp
    rw [hholder] at heffect
    have hrow : (w1.view v.invocationId).row = some v := hfind
    refine ⟨heffect.guar_free hinv hholder (.inr rfl) ?_ ?_, ?_⟩
    · exact .of_dispatching ((hinv v.invocationId).recorded v hrow) hterminal hadv houtcome hsettled
        hdispatchable hfinished hone hnumber hstate hcompleted
    · rw [hrow]
      exact .of_write (hrevision ▸ Nat.lt_succ_self _) (hadv.trans (Invocation.advances_move ..))
        (houtcome ▸ .rfl) hterminal
    · rw [hok]
      exact .pure ⟨.of_row (hid ▸ congrArg View.row heffect.view), houtcome, hcompleted⟩

/-- The first attempt: the invocation is still there for anybody to start. -/
theorem Seen.keeps_beginInitialAttempt (hseen : Seen v w) :
    Disciplined barred i (beginInitialAttempt now v implementationId driverKind connectionId)
      (fun begun w' => Seen begun.1 w' ∧ begun.2.completedAt = none) w := by
  refine keeps_moved (.bind (.query fun w1 _ hrely => ⟨nofun, fun attemptId _ => ?_⟩))
  refine .mono (fun _ _ h => ⟨h.1, h.2.2⟩) ((hseen.stable hrely).keeps_begin
    (by constructor <;> rfl) rfl rfl le_rfl rfl rfl rfl
    (fun w2 => World.begins_initial _ _ i w2 rfl) ?_)
  intro w2 hsound hfind hnone
  have hof : w2.ledger.attemptsOf v.invocationId = [] := Ledger.attemptsOf_eq_nil hnone
  obtain ⟨hholder, hstate, -, -, -, hmarks, hsettled⟩ :=
    hsound.created_of_unattempted hfind (by simp [World.view, hof])
  have hmarks : w2.marks v.invocationId = [] := hmarks
  exact ⟨hholder, by rw [hstate]; rfl, hsettled, .inr (by simp [hmarks]), by
    rw [hof]
    exact ⟨rfl, by simp⟩⟩

/-- The attempt of a continuation, of an invocation that waits. -/
theorem Seen.keeps_beginContinuationAttempt {mode : ContinuationMode} (hseen : Seen v w)
    (hpermits : mode.permits v = true) :
    Disciplined barred i
      (beginContinuationAttempt now v implementationId driverKind connectionId mode)
      (fun begun w' => Seen begun.1 w' ∧ begun.1.remoteOutcome = v.remoteOutcome ∧
        begun.2.completedAt = none) w := by
  refine keeps_moved (.bind (.query fun w1 _ hrely => ⟨nofun, fun attemptId _ => ?_⟩))
  refine (hseen.stable hrely).keeps_begin (by constructor <;> rfl) rfl rfl
    (Nat.succ_le_succ (Nat.zero_le _)) rfl rfl rfl
    (fun w2 => World.begins_continuation _ _ i w2 rfl) ?_
  intro w2 hsound hfind hwaiting
  obtain ⟨hholder, hsettled, hfinished, -⟩ := hsound.of_waiting hfind hwaiting
  refine ⟨hholder, by rw [hwaiting]; rfl, hsettled, ?_, hfinished⟩
  cases mode with
  | dispatchNotDispatched =>
    exact .inr ((hsound.recorded v hfind).unsent (by simpa [ContinuationMode.permits] using hpermits))
  | replaySafe =>
    simp only [ContinuationMode.permits, Bool.and_eq_true] at hpermits
    exact .inl hpermits.2

/-- The current attempt of an invocation is the last one, and it is not closed yet. -/
structure OpenAttempt (v : Invocation) (a : Attempt) (prior : List Attempt) (last : Attempt) :
    Prop where
  history : Finished (v.attempt - 1) prior
  attempt : 1 ≤ v.attempt
  sameId : last.attemptId = a.attemptId
  number : last.attemptNumber = a.attemptNumber
  own : a.invocationId = v.invocationId
  current : a.attemptNumber = v.attempt
  unfinished : a.completedAt = none

theorem OpenAttempt.finished (h : OpenAttempt v a prior last) {a' : Attempt}
    (hnumber : a'.attemptNumber = a.attemptNumber) (hterminal : a'.state.isTerminal = true) :
    Finished v.attempt (prior ++ [a']) := by
  obtain ⟨n, hn⟩ := Nat.exists_eq_add_of_le' h.attempt
  refine ⟨?_, fun x hx => ?_⟩
  · have hprior := h.history.1
    rw [hn, Nat.add_sub_cancel] at hprior
    rw [map_append, hprior, hn, List.range'_concat, map_singleton, hnumber, h.current, hn]
    simp [Nat.add_comm]
  · rcases mem_append.1 hx with hx | hx
    · exact h.history.2 x hx
    · cases mem_singleton.1 hx
      exact hterminal

theorem OpenAttempt.keeps_finishAttempt (h : OpenAttempt v a prior last)
    (hhold : Holding i v (prior ++ [last]) marks w) :
    Disciplined barred i (finishAttempt now a state error)
      (fun a' w' => a'.completedAt ≠ none ∧
        ∃ attempts, Finished v.attempt attempts ∧ Holding i v attempts marks w') w := by
  refine .mono ?_ (hhold.keeps_finishAttempt h.own h.sameId h.number)
  rintro a' w' ⟨rfl, hterminal, hhold'⟩
  refine ⟨by simp, _, ?_, hhold'⟩
  exact h.finished rfl hterminal

/-- **An attempt is under way**: what its worker knows when the driver is about to run. -/
structure Underway (barred : Barred) (i : ℕ) (v : Invocation) (a : Attempt) (prior : List Attempt)
    (last : Attempt) (marks : List Mark) (w : World) : Prop extends
    OpenAttempt v a prior last where
  holding : Holding i v (prior ++ [last]) marks w
  state : v.state = .running
  outcome : v.isSettledOpen
  ready : Dispatchable v marks
  recorded : Recorded barred v marks

/-- An attempt that nobody started yet is the last one. -/
theorem Sound.dispatching_of_startable {row : Attempt} (h : Sound barred x holder)
    (hrow : x.row = some v) (hmem : row ∈ x.attempts) (hstate : row.state = .dispatching) :
    holder = none ∧ v.state = .dispatching ∧ v.isSettledOpen ∧ Dispatchable v x.marks ∧
      1 ≤ v.attempt ∧ row.completedAt = none ∧
      ∃ prior, x.attempts = prior ++ [row] ∧ Finished (v.attempt - 1) prior := by
  have hholder : holder = none := by
    by_contra hne
    exact (h.held v hrow hne).started row hmem hstate
  refine ⟨hholder, ?_⟩
  cases h.free v hrow hholder with
  | created _ _ _ hattempts =>
    rw [hattempts] at hmem
    cases hmem
  | dispatching state outcome ready history attempt =>
    obtain ⟨prior, last, hattempts, hprior, hlast, -, hcompleted⟩ := history
    rw [hattempts] at hmem
    rcases mem_append.1 hmem with hin | hin
    · -- the earlier attempts are over
      have := hprior.2 row hin
      rw [hstate] at this
      cases this
    · cases mem_singleton.1 hin
      exact ⟨state, outcome, ready, attempt, hcompleted, prior, hattempts, hprior⟩
  | waiting _ _ _ history | terminal _ history =>
    have := history.2 row hmem
    rw [hstate] at this
    cases this

/-- **The attempt is started**: from here on the invocation is held. -/
theorem Seen.started (now : ℤ) (hseen : Seen v w) (hinv : (discipline barred).inv w)
    (hcompleted : a.completedAt = none) (hf : f i w = (false, w) ∨
      f i w = World.startContinuationAttempt (v.move .running {} now) v.revision
        { a with state := .running } i w) :
    f i w = (false, w) ∨ (discipline barred).guar i w (f i w).2 ∧
      ∃ prior last marks, Underway barred i (v.move .running {} now) { a with state := .running }
        prior last marks (f i w).2 := by
  rcases hf with hf | hf
  · exact .inl hf
  rw [hf]
  rcases World.startContinuationAttempt_cases (v.move .running {} now) v.revision
      { a with state := .running } i w with
    h | ⟨existing, row, hfind, hrev, hmem, hkey, hnumber, hdispatching, hown, hcurrent, -, heffect⟩
  · exact .inl h
  · refine .inr ?_
    cases hseen.eq_of_revision hfind hrev
    have hrow : (w.view v.invocationId).row = some v := hfind
    obtain ⟨hholder, hstate, hsettled, hready, hone, -, prior, hattempts, hprior⟩ :=
      (hinv v.invocationId).dispatching_of_startable hrow hmem hdispatching
    have hrecorded := (hinv v.invocationId).recorded v hrow
    have heffect := heffect prior hattempts
    have hterminal : v.state.isTerminal = false := by
      rw [hstate]
      rfl
    have hadv : v.Advances (v.move .running {} now) := v.advances_move ..
    have hrecorded' : Recorded barred (v.move .running {} now) (w.marks v.invocationId) :=
      hrecorded.busy hterminal rfl rfl rfl
    have hheld : Held (v.move .running {} now) (prior ++ [{ row with state := .running }]) := by
      refine ⟨rfl, ?_, ?_⟩
      · by_cases h : v.attempt = 1
        · exact ⟨_, mem_append_right _ (mem_singleton_self _), hnumber.trans h⟩
        · obtain ⟨x, hx, hfirst⟩ := hprior.first (by omega)
          exact ⟨x, mem_append_left _ hx, hfirst⟩
      · intro x hx hx'
        rcases mem_append.1 hx with hx | hx
        · have := hprior.2 x hx
          rw [hx'] at this
          cases this
        · cases mem_singleton.1 hx
          cases hx'
    refine ⟨heffect.guar_free hinv hholder (.inl rfl) (.of_held hheld hrecorded') ?_, prior,
      { row with state := .running }, _,
      ⟨hprior, hone, hkey, hnumber.trans hcurrent.symm, hown, hcurrent, hcompleted⟩, ⟨heffect.holder, heffect.view⟩, rfl, hsettled, hready, hrecorded'⟩
    exact hrow ▸ .of_write (Nat.lt_succ_self _) hadv .rfl hterminal

variable (hseen : Seen v w)

include hseen

variable (hcompleted : a.completedAt = none)

include hcompleted

theorem Seen.keeps_start {e : Raised}
    (hf : ∀ w1, f i w1 = (false, w1) ∨ f i w1 = World.startContinuationAttempt
      (v.move .running {} now) v.revision { a with state := .running } i w1) : Disciplined barred i
      (do
        let started ← perform f
        if started then pure (v.move .running {} now, { a with state := .running })
        else throw e)
      (fun started w' => ∃ prior last marks,
        started.1 = v.move .running {} now ∧
          Underway barred i started.1 started.2 prior last marks w') w := by
  refine .bind (.perform fun w1 hinv hrely => ?_)
  rcases (hseen.stable hrely).started now hinv hcompleted (hf w1) with
    h | ⟨hguar, prior, last, marks, hunder⟩
  · rw [h]
    exact ⟨guar_refl hinv, .throw⟩
  · refine ⟨hguar, ?_⟩
    split
    · exact .pure ⟨prior, last, marks, rfl, hunder⟩
    · exact .throw

theorem Seen.keeps_startInitialAttempt :
    Disciplined barred i (startInitialAttempt now v a)
      (fun started w' => ∃ prior last marks, started.1 = v.move .running {} now ∧
        Underway barred i started.1 started.2 prior last marks w') w := by
  exact keeps_moved (hseen.keeps_start hcompleted fun w1 => World.startInitialAttempt_eq ..)

theorem Seen.keeps_startContinuationAttempt :
    Disciplined barred i (startContinuationAttempt now v a)
      (fun started w' => ∃ prior last marks, started.1 = v.move .running {} now ∧
        Underway barred i started.1 started.2 prior last marks w') w := by
  exact keeps_moved (hseen.keeps_start hcompleted fun w1 => .inr rfl)

omit hcompleted

/-! ### Writes to an invocation at rest -/

/-- **A waiting invocation is closed with what the client reports.** -/
theorem Seen.keeps_commit (hwaiting : v.state = .waiting) (hstate : state.isTerminal = true)
    (houtcome : c.remoteOutcome = some .terminalCommitted) :
    Disciplined barred i (transition now v state c) (fun _ _ => True) w := by
  refine .bind (.decided fun moved hmoved => ?_)
  have hnull := remoteOutcome_eq_none_iff_of_transition hmoved (by simp [houtcome])
  obtain ⟨-, -, -, rfl⟩ := transitionInvocation_eq_ok.1 hmoved
  refine .bind (.perform fun w1 hinv hrely => ⟨?_, ?_⟩)
  · rcases World.compareAndSet_cases (v.move state c now) v.revision i w1 with
      h | ⟨existing, hfind, hrev, -, heffect⟩
    · rw [h]
      exact guar_refl hinv
    · cases (hseen.stable hrely).eq_of_revision hfind hrev
      have hrow : (w1.view v.invocationId).row = some v := hfind
      have hterminal : v.state.isTerminal = false := by
        rw [hwaiting]
        rfl
      obtain ⟨hholder, -, history, attempt⟩ := (hinv v.invocationId).of_waiting hrow hwaiting
      have hrest : (v.move state c now).state.isAtRest = true := by
        simp [Invocation.move, InvocationState.isAtRest, hstate]
      rw [hrest, if_pos rfl] at heffect
      refine heffect.guar_free hinv hholder (.inr rfl)
        (.of_free (.terminal hstate history attempt) ?_) ?_
      · have hcommitted : (v.move state c now).remoteOutcome = some .terminalCommitted := by
          simp [Invocation.move, houtcome]
        refine ((hinv v.invocationId).recorded v hrow).learns hterminal rfl ?_ (fun _ => hstate) ?_
        · intro h
          cases h.symm.trans hcommitted
        · intro _ o ho
          exact .inl (mem_unique ho hcommitted)
      · exact hrow ▸ .of_write (Nat.lt_succ_self _) (v.advances_move ..) hnull hterminal
  · split
    · exact .pure trivial
    · exact .throw

theorem Seen.keeps_quota {m : Mark} (hterminal : v.state.isTerminal = true)
    (hm : m = .settled ∨ m = .released ∧ v.remoteOutcome = some .notDispatched) :
    Disciplined barred i (perform (World.mark v.invocationId m)) (fun _ _ => True) w := by
  refine .perform fun w1 hinv hrely => ⟨?_, trivial⟩
  obtain ⟨row, hfind, -, hsame⟩ := hseen.stable hrely
  cases hsame hterminal
  have hrow : (w1.view v.invocationId).row = some v := hfind
  have hholder : w1.holder v.invocationId = none := by
    by_contra hne
    have hbusy := InvocationState.isTerminal_of_not_isAtRest
      ((hinv v.invocationId).held v hrow hne).busy
    rw [hterminal] at hbusy
    cases hbusy
  have hquiet : m.isRun = false := by
    rcases hm with rfl | ⟨rfl, -⟩ <;> rfl
  have heffect := World.mark_effect v.invocationId m i w1
  rw [hholder] at heffect
  have hrecorded := (hinv v.invocationId).recorded v hrow
  refine heffect.guar_free hinv hholder (.inr rfl) ?_ (.refl _)
  have hview : ({ w1.view v.invocationId with marks := m :: w1.marks v.invocationId } : View) =
      ⟨some v, w1.ledger.attemptsOf v.invocationId, m :: w1.marks v.invocationId⟩ := by
    rw [← hrow]
    rfl
  rw [hview]
  refine .of_free ?_ ⟨fun h => .cons_of_not_isRun hquiet (hrecorded.once h), ?_, ?_, ?_,
    hrecorded.committed, hrecorded.completed⟩
  · cases (hinv v.invocationId).free v hrow hholder with
    | terminal _ history attempt => exact .terminal hterminal history attempt
    | created h | dispatching h | waiting h =>
      rw [h] at hterminal
      cases hterminal
  · intro ho hmem
    rcases mem_cons.1 hmem with rfl | hmem
    · cases hquiet
    · exact hrecorded.unsent ho hmem
  · intro ho hbarred hmem
    rcases mem_cons.1 hmem with rfl | hmem
    · cases hquiet
    · exact hrecorded.unentered ho hbarred hmem
  · intro hmem
    rcases mem_cons.1 hmem with rfl | hmem
    · rcases hm with h | ⟨-, ho⟩
      · cases h
      · exact ⟨hterminal, ho⟩
    · exact hrecorded.released hmem

end AssistantRuntime.Capability

/-
**At most one call per invocation.**

Two things keep a target from being called twice.  Within a process, an invocation has at most one
future at a time, and a row that was prepared when the future was made can be marked running by nobody
else.  Across processes, a row is running before its target is called, and a row that is running is not
tried again unless the capability may be repeated.

Main results:

* `Guarded.step` — every step keeps the invariant;
* `Dispatcher.forward_step` — in every step, rows of the ledger move forward;
* `target_called_at_most_once` — **a target that may not be called again is called at most once per
  installation, principal and invocation, rows only move forward and outcomes never change**.
-/

import AssistantRuntime.Client.Dispatcher

namespace AssistantRuntime.Client

open Relational Table Option Function

variable {s s' : Dispatcher} {i j : ℕ} {w : Worker} {k : LedgerKey}

/-- The number of calls for the key of capabilities that may not be repeated. -/
def Dispatcher.callsOf (s : Dispatcher) (k : LedgerKey) : ℕ :=
  s.calls.countP fun call => call.1 = k ∧ ¬ ReplaySafe call.2

/-- The worker has not come to `before_target_call`. -/
def Phase.Early : Phase → Prop
  | pending | checking | approved => True
  | _ => False

/-- `_complete` has not taken the invocation out. -/
def Phase.Held : Phase → Prop
  | recording _ => False
  | _ => True

/-- **What is known of a worker**, in a client. -/
structure Worker.Sound (s : Dispatcher) (i : ℕ) (w : Worker) : Prop where
  /-- Until it is completed, the worker is the one of its invocation. -/
  owner : w.phase.Held → s.invocations w.request.invocationId = some i
  key : w.key.invocationId = w.request.invocationId
  replay : w.replayExistingRunning = true → ReplaySafe w.request.idempotency
  /-- Its row is there; nobody has marked it as running if the worker is going to. -/
  row : ∃ r, s.ledger.find? w.key = some r ∧ r.idempotency = w.request.idempotency
    ∧ (w.phase.Early → w.replayExistingRunning = false → r.state ≠ .running)
    ∧ (w.phase = .marked → ¬ ReplaySafe w.request.idempotency → r.state ≠ .prepared)
  /-- It is about to make the first call. -/
  first : w.phase = .marked → ¬ ReplaySafe w.request.idempotency → s.callsOf w.key = 0

/-- **The invariant**: what is known of the workers, and that a target was called only for a row that
was marked, and at most once. -/
structure Guarded (s : Dispatcher) : Prop where
  worker : ∀ i w, s.workers i = some w → w.Sound s i
  called : ∀ k, s.callsOf k ≠ 0 → ∃ r, s.ledger.find? k = some r ∧ r.state ≠ .prepared
  once : ∀ k, s.callsOf k ≤ 1

/-! ### Workers -/

namespace Worker.Sound

theorem move (hw : w.Sound s i) {p : Phase} {cancelled : Bool}
    (hheld : p.Held → w.phase.Held) (hearly : p.Early → w.phase.Early)
    (hmarked : p = .marked → w.phase = .marked) :
    Worker.Sound s i { w with phase := p, cancelled } := by
  obtain ⟨r, hr, hidem, hrunning, hprepared⟩ := hw.row
  exact ⟨fun h => hw.owner (hheld h), hw.key, hw.replay,
    ⟨r, hr, hidem, fun h => hrunning (hearly h), fun h => hprepared (hmarked h)⟩,
    fun h => hw.first (hmarked h)⟩

theorem transfer (hw : w.Sound s i)
    (howner : w.phase.Held → s.invocations w.request.invocationId = some i →
      s'.invocations w.request.invocationId = some i)
    (hrow : ∀ r, s.ledger.find? w.key = some r → ∃ r', s'.ledger.find? w.key = some r'
      ∧ r'.idempotency = r.idempotency
      ∧ (w.phase.Early → r.state ≠ .running → r'.state ≠ .running)
      ∧ (r.state ≠ .prepared → r'.state ≠ .prepared))
    (hcalls : w.phase = .marked → s'.callsOf w.key = s.callsOf w.key) : w.Sound s' i := by
  obtain ⟨r, hr, hidem, hrunning, hprepared⟩ := hw.row
  obtain ⟨r', hr', hidem', hrunning', hprepared'⟩ := hrow r hr
  refine ⟨fun h => howner h (hw.owner h), hw.key, hw.replay,
    ⟨r', hr', hidem'.trans hidem, fun h hreplay => hrunning' h (hrunning h hreplay),
      fun h hsafe => hprepared' (hprepared h hsafe)⟩, fun h hsafe => ?_⟩
  rw [hcalls h]
  exact hw.first h hsafe

theorem unique {w' : Worker} (hw : w.Sound s i) (hw' : w'.Sound s j) (hheld : w.phase.Held)
    (hheld' : w'.phase.Held) (hkey : w.key = w'.key) : i = j := by
  have hid : w.request.invocationId = w'.request.invocationId := by
    rw [← hw.key, ← hw'.key, hkey]
  have howner := hw.owner hheld
  rw [hid, hw'.owner hheld'] at howner
  exact (some.inj howner).symm

end Worker.Sound

theorem Phase.Early.held {p : Phase} (h : p.Early) : p.Held := by
  cases p <;> first | exact trivial | exact absurd h id

theorem Phase.held_marked {p : Phase} (h : p = .marked) : p.Held := by
  subst h
  trivial

/-! ### Steps -/

namespace Guarded

theorem congr (hs : Guarded s) (hworkers : s'.workers = s.workers)
    (hinvocations : s'.invocations = s.invocations) (hledger : s'.ledger = s.ledger)
    (hcalls : s'.calls = s.calls) : Guarded s' := by
  have hcallsOf : ∀ k, s'.callsOf k = s.callsOf k := fun k => by rw [Dispatcher.callsOf, hcalls]; rfl
  refine ⟨fun i w hw => ?_, fun k => ?_, fun k => ?_⟩
  · rw [hworkers] at hw
    refine (hs.worker i w hw).transfer (fun _ h => ?_) (fun r hr => ?_) fun _ => hcallsOf _
    · rw [hinvocations]
      exact h
    · rw [hledger]
      exact ⟨r, hr, rfl, fun _ h => h, fun h => h⟩
  · rw [hcallsOf, hledger]
    exact hs.called k
  · rw [hcallsOf]
    exact hs.once k

theorem resume (hs : Guarded s) {w' : Worker} (hw' : w'.Sound s i) : Guarded (s.resume i w') := by
  refine ⟨fun j x hx => ?_, hs.called, hs.once⟩
  by_cases hj : j = i
  · subst hj
    simp only [Dispatcher.resume, update_self, some.injEq] at hx
    subst hx
    exact { hw' with }
  · simp only [Dispatcher.resume, update_of_ne hj] at hx
    have hx := hs.worker j x hx
    exact { hx with }

theorem advance (hs : Guarded s) (hw : s.workers i = some w) {p : Phase} {cancelled : Bool}
    (hheld : p.Held → w.phase.Held) (hearly : p.Early → w.phase.Early)
    (hmarked : p = .marked → w.phase = .marked) :
    Guarded (s.resume i { w with phase := p, cancelled }) :=
  hs.resume ((hs.worker i w hw).move hheld hearly hmarked)

variable {outcome : Outcome}

theorem ends (hs : Guarded s) (hw : s.workers i = some w) (hheld : w.phase.Held) :
    Guarded (s.resume i { w with phase := .done outcome }) :=
  hs.advance hw (fun _ => hheld) (fun h => absurd h id) (fun h => by cases h)

variable {r : Record}

variable (hs : Guarded s)

include hs

theorem drop (i : ℕ) :
    Guarded { s with workers := update s.workers i none } := by
  refine ⟨fun j x hx => ?_, hs.called, hs.once⟩
  have hx : update s.workers i none j = some x := hx
  have hj : j ≠ i := by
    rintro rfl
    simp at hx
  rw [update_of_ne hj] at hx
  have hxs := hs.worker j x hx
  exact { hxs with }

/-- A row may leave the prepared state, unless a worker that comes before the mark would find it
running. -/
theorem put (hr : s.ledger.find? k = some r) {r' : Record} (hkey : r'.key = r.key)
    (hidem : r'.idempotency = r.idempotency) (hstate : r'.state ≠ .prepared)
    (hearly : ∀ j x, s.workers j = some x → x.key = k → x.phase.Early → r'.state ≠ .running) :
    Guarded { s with ledger := s.ledger.put r' } := by
  have hself : (s.ledger.put r').find? k = some r' := find?_put_same hr hkey
  have hother : ∀ k', k' ≠ k → (s.ledger.put r').find? k' = s.ledger.find? k' := fun k' hk =>
    find?_put_of_ne (by rw [hkey, show r.key = k from key_of_find? hr]; exact hk)
  refine ⟨fun j x hx => ?_, fun k' hk' => ?_, hs.once⟩
  · refine (hs.worker j x hx).transfer (fun _ h => h) (fun r1 hr1 => ?_) fun _ => rfl
    by_cases hk : x.key = k
    · rw [hk] at hr1 ⊢
      obtain rfl : r = r1 := mem_unique hr hr1
      exact ⟨_, hself, hidem, fun h _ => hearly j x hx hk h, fun _ => hstate⟩
    · exact ⟨r1, (hother _ hk).trans hr1, rfl, fun _ h => h, fun h => h⟩
  · obtain ⟨r1, hr1, hstate1⟩ := hs.called k' hk'
    by_cases hk : k' = k
    · exact ⟨_, hk ▸ hself, hstate⟩
    · exact ⟨r1, (hother k' hk).trans hr1, hstate1⟩

variable (hw : s.workers i = some w)

include hw

theorem marked (hearly : w.phase.Early) (hr : s.ledger.find? w.key = some r)
    (hidem : r.idempotency = w.request.idempotency) (hstate : r.state = .prepared) :
    Guarded (({ s with ledger := s.ledger.put { r with state := .running } } : Dispatcher).resume i
      { w with phase := .marked }) := by
  have hsound := hs.worker i w hw
  -- nobody called the target while the row was prepared
  have hnone : s.callsOf w.key = 0 := by
    by_contra hcalls
    obtain ⟨r1, hr1, hstate1⟩ := hs.called w.key hcalls
    obtain rfl : r = r1 := mem_unique hr hr1
    exact hstate1 hstate
  have hput : Guarded { s with
      ledger := s.ledger.put { r with state := .running }
      workers := update s.workers i none } := by
    refine (hs.drop i).put hr rfl rfl (by simp) ?_
    intro j x hx hk hx_early
    have hx : update s.workers i none j = some x := hx
    have hj : j ≠ i := by
      rintro rfl
      simp at hx
    rw [update_of_ne hj] at hx
    -- the other worker is not held, since this one is
    exact absurd ((hs.worker j x hx).unique hsound hx_early.held hearly.held hk) hj
  have hmarked : Worker.Sound { s with
      ledger := s.ledger.put { r with state := .running }
      workers := update s.workers i none } i { w with phase := .marked } :=
    ⟨fun _ => hsound.owner hearly.held, hsound.key, hsound.replay,
      ⟨_, find?_put_same hr rfl, hidem, fun h => absurd h id, fun _ _ => by simp⟩,
      fun _ _ => hnone⟩
  simpa [Dispatcher.resume] using hput.resume hmarked

/-- **A row is marked by the only worker that is held for it.** -/
theorem mark (hphase : w.phase = .approved) :
    Guarded (s.mark i w) := by
  have hsound := hs.worker i w hw
  have hearly : w.phase.Early := by rw [hphase]; trivial
  obtain ⟨r, hr, hidem, hrunning, -⟩ := hsound.row
  unfold Dispatcher.mark
  split
  · next hreplay =>
      -- a row that is replayed is one of a capability that may be repeated
      have hsafe := hsound.replay hreplay
      refine hs.resume ⟨fun _ => hsound.owner hearly.held, hsound.key, hsound.replay, ⟨r, hr, hidem, ?_,
        fun _ h => absurd hsafe h⟩, fun _ h => absurd hsafe h⟩
      exact fun h => absurd h id
  · next hreplay =>
      have hreplay : w.replayExistingRunning = false := by simpa using hreplay
      split
      · next ledger hmark =>
          obtain ⟨r1, hr1, ⟨hstate, -⟩ | ⟨hstate, rfl⟩⟩ := Ledger.markRunning_ok hmark
          · obtain rfl : r = r1 := mem_unique hr hr1
            exact absurd hstate (hrunning hearly hreplay)
          · obtain rfl : r = r1 := mem_unique hr hr1
            exact hs.marked hw hearly hr hidem hstate
      · exact hs.ends hw hearly.held

/-- **The call of a worker that marked its row is the first one.** -/
theorem call (hphase : w.phase = .marked) :
    Guarded { s.resume i { w with phase := .called } with
      calls := s.calls ++ [(w.key, w.request.idempotency)] } := by
  have hsound := hs.worker i w hw
  have hheld : w.phase.Held := Phase.held_marked hphase
  have hcalled : Guarded (s.resume i { w with phase := .called, cancelled := w.cancelled }) :=
    hs.advance hw (fun _ => hheld) (fun h => absurd h id) (fun h => by cases h)
  have hcount : ∀ k, Dispatcher.callsOf { s.resume i { w with phase := .called } with
        calls := s.calls ++ [(w.key, w.request.idempotency)] } k
      = s.callsOf k + if w.key = k ∧ ¬ ReplaySafe w.request.idempotency then 1 else 0 := by
    intro k
    simp only [Dispatcher.callsOf, List.countP_append, List.countP_singleton, decide_eq_true_eq]
  refine ⟨fun j x hx => ?_, fun k hk => ?_, fun k => ?_⟩
  · have hxs := hcalled.worker j x hx
    refine hxs.transfer (fun _ h => h) (fun r hr => ⟨r, hr, rfl, fun _ h => h, fun h => h⟩) ?_
    intro hmarked
    rw [hcount, if_neg]
    · rfl
    -- another worker that is about to call is not there for the same key
    rintro ⟨hkey, -⟩
    have hwi : (s.resume i { w with phase := .called }).workers i
        = some { w with phase := .called } := by simp [Dispatcher.resume]
    have hji : j = i :=
      hxs.unique (hcalled.worker i _ hwi) (Phase.held_marked hmarked) trivial hkey.symm
    subst hji
    obtain rfl : x = { w with phase := .called } := mem_unique hx hwi
    cases hmarked
  · rw [hcount] at hk
    split at hk
    · next hkey =>
        obtain ⟨r, hr, -, -, hprepared⟩ := hsound.row
        exact ⟨r, hkey.1 ▸ hr, hprepared hphase hkey.2⟩
    · exact hs.called k hk
  · rw [hcount]
    split
    · next hkey =>
        rw [← hkey.1, hsound.first hphase hkey.2]
    · exact hs.once k

/-- `_complete` takes an invocation out that nobody else is held for. -/
theorem complete (hphase : w.phase = .done outcome) {capacity : ℕ} :
    Guarded { s.resume i { w with phase := .recording outcome } with
      invocations := update s.invocations w.request.invocationId none
      capacity } := by
  have hsound := hs.worker i w hw
  have hrecording : Guarded
      (s.resume i { w with phase := .recording outcome, cancelled := w.cancelled }) :=
    hs.advance hw (fun h => absurd h id) (fun h => absurd h id) (fun h => by cases h)
  refine ⟨fun j x hx => ?_, hrecording.called, hrecording.once⟩
  have hxs := hrecording.worker j x hx
  refine hxs.transfer (fun hheld h => ?_) (fun r hr => ⟨r, hr, rfl, fun _ h => h, fun h => h⟩)
    fun _ => rfl
  change update s.invocations w.request.invocationId none x.request.invocationId = some j
  rw [update_of_ne]
  · exact h
  -- the invocation is the one of the worker that is completed
  intro hid
  have howner : s.invocations w.request.invocationId = some i := hsound.owner (by rw [hphase]; trivial)
  have hji : j = i := by
    have h : s.invocations x.request.invocationId = some j := h
    rw [hid, howner] at h
    exact (some.inj h).symm
  subst hji
  have hwi : (s.resume j { w with phase := .recording outcome }).workers j
      = some { w with phase := .recording outcome } := by simp [Dispatcher.resume]
  obtain rfl : x = { w with phase := .recording outcome } := mem_unique hx hwi
  exact hheld

omit hw

variable {ledger : Ledger}

/-- A row that takes its outcome is neither prepared nor running. -/
theorem commitTerminal (h : s.ledger.commitTerminal k outcome = .ok ledger) :
    Guarded { s with ledger } := by
  obtain ⟨r, hr, ⟨-, rfl⟩ | ⟨-, rfl⟩⟩ := Ledger.commitTerminal_ok h
  · exact hs.congr rfl rfl rfl rfl
  exact hs.put hr rfl rfl (by simp) fun _ _ _ _ _ => by simp

theorem remember (invocationId : String) (cached : CachedOutcome) :
    Guarded (s.remember invocationId cached) := by
  unfold Dispatcher.remember
  split
  · exact hs
  · exact hs.congr rfl rfl rfl rfl

theorem recollect (r : Record) : Guarded (s.recollect r) := by
  unfold Dispatcher.recollect
  split
  · exact hs.congr rfl rfl rfl rfl
  · exact hs

theorem record (i : ℕ) (w : Worker) (outcome : Outcome) :
    Guarded (s.record i w outcome) := by
  have hdrop := hs.drop i
  change Guarded (if w.epoch ≠ s.epoch then _ else _)
  split
  · exact hdrop
  · split
    · next ledger hcommit => exact (hdrop.commitTerminal hcommit).remember _ _
    · exact hdrop

/-! ### Dispatch -/

theorem prepare {semantics : Semantics} {idempotency : String}
    (h : s.ledger.prepare k semantics idempotency = .ok (r, ledger)) :
    Guarded { s with ledger } := by
  obtain ⟨-, -, ⟨-, rfl⟩ | ⟨-, -, hinsert, -⟩⟩ := Ledger.prepare_ok h
  · exact hs.congr rfl rfl rfl rfl
  have hkeep : ∀ k' r', s.ledger.find? k' = some r' → ledger.find? k' = some r' := by
    intro k' r' hr'
    rw [find?_insert? hinsert, if_neg]
    · exact hr'
    · rintro rfl
      rw [fresh_insert? hinsert] at hr'
      cases hr'
  refine ⟨fun j x hx => ?_, fun k' hk' => ?_, hs.once⟩
  · refine (hs.worker j x hx).transfer (fun _ h => h) (fun r1 hr1 => ?_) fun _ => rfl
    exact ⟨r1, hkeep _ _ hr1, rfl, fun _ h => h, fun h => h⟩
  · obtain ⟨r1, hr1, hstate1⟩ := hs.called k' hk'
    exact ⟨r1, hkeep _ _ hr1, hstate1⟩

omit hs

variable {req : Request}

/-- **A future is made for an invocation that has none**, and for a row that is prepared unless the
capability may be repeated. -/
theorem start (hs : Guarded s) {replay : Bool} (hnone : s.invocations req.invocationId = none)
    (hr : s.ledger.find? (s.keyOf req.invocationId) = some r)
    (hidem : r.idempotency = req.idempotency) (hreplay : replay = true → ReplaySafe req.idempotency)
    (hstate : replay = false → r.state = .prepared) : Guarded (s.start req i replay) := by
  refine ⟨fun j x hx => ?_, hs.called, hs.once⟩
  by_cases hj : j = i
  · subst hj
    simp only [Dispatcher.start, update_self, some.injEq] at hx
    subst hx
    refine ⟨fun _ => ?_, rfl, hreplay, ⟨r, hr, hidem, fun _ h => ?_, fun h => by cases h⟩,
      fun h => by cases h⟩
    · simp [Dispatcher.start]
    · rw [hstate h]
      simp
  · simp only [Dispatcher.start, update_of_ne hj] at hx
    refine (hs.worker j x hx).transfer (fun _ h => ?_)
      (fun r1 hr1 => ⟨r1, hr1, rfl, fun _ h => h, fun h => h⟩) fun _ => rfl
    simp only [Dispatcher.start]
    rw [update_of_ne]
    · exact h
    · intro hid
      rw [hid, hnone] at h
      cases h

theorem launch (hs : Guarded s) {replay : Bool} (hnone : s.invocations req.invocationId = none)
    (hreplay : replay = true → ReplaySafe req.idempotency) : Guarded (s.launch req i replay) := by
  unfold Dispatcher.launch
  split
  · exact hs.remember _ _
  split
  · exact hs
  next r ledger hprepare =>
  have hledger := hs.prepare hprepare
  obtain ⟨hr, hidem, -⟩ := Ledger.prepare_ok hprepare
  split
  · exact hledger.recollect r
  · split
    · next hsafe => exact hledger.start hnone hr hidem (fun _ => hsafe) (fun h => by cases h)
    · exact hledger
  · next hstate => exact hledger.start hnone hr hidem hreplay fun _ => hstate

theorem submit (hs : Guarded s) :
    Guarded (s.submit req i) := by
  unfold Dispatcher.submit
  split
  · exact hs
  next hinvocations =>
  have hnone : s.invocations req.invocationId = none := by simpa using hinvocations
  split
  · exact hs
  split
  · exact hs.launch hnone (fun h => by cases h)
  next durable hdurable =>
  split
  · exact hs
  split
  · exact hs.recollect durable
  · split
    · next hsafe => exact hs.launch hnone fun _ => hsafe
    · exact hs
  · exact hs.launch hnone (fun h => by cases h)

theorem dispatch (hs : Guarded s) {view : View} {m : Message} :
    Guarded (s.dispatch view m i) := by
  unfold Dispatcher.dispatch
  split
  · exact hs.submit
  · exact hs.remember _ _
  · exact hs

/-! ### Cancellation -/

theorem sound_cancel (hw : w.Sound s i) : Worker.Sound s i w.cancel := by
  unfold Worker.cancel
  split
  · next hphase =>
      exact hw.move (fun _ => by rw [hphase]; trivial) (fun h => absurd h id) (fun h => by cases h)
  · exact hw.move (fun h => h) (fun h => h) fun h => h

theorem cancel (hs : Guarded s) (invocationId : String) : Guarded (s.cancel invocationId) := by
  unfold Dispatcher.cancel
  split
  · exact hs
  next future _ =>
  cases hw : s.workers future with
  | none =>
    refine hs.congr ?_ rfl rfl rfl
    simp [update_eq_self_iff, hw]
  | some w => exact hs.resume (sound_cancel (hs.worker future w hw))

theorem failAll (hs : Guarded s) : Guarded s.failAll := by
  refine ⟨fun j x hx => ?_, hs.called, hs.once⟩
  obtain ⟨w, hw, rfl⟩ := map_eq_some_iff.1 hx
  have hsound := hs.worker j w hw
  have hx : Worker.Sound s j
      (if s.invocations w.request.invocationId = some j then w.cancel else w) := by
    split
    · exact sound_cancel hsound
    · exact hsound
  exact { hx with }

/-! ### Runs -/

theorem step {act : Act} (hs : Guarded s) (h : step s act = some s') : Guarded s' := by
  cases act with
  | dispatch view m future =>
    obtain ⟨-, rfl⟩ := guard_eq_some.1 h
    exact hs.dispatch
  | begin future =>
    obtain ⟨w, hw, hphase, rfl⟩ := bind_guard_eq_some.1 h
    have hearly : w.phase.Early := by rw [hphase]; trivial
    exact hs.advance hw (fun _ => hearly.held) (fun _ => hearly) (fun h => by cases h)
  | refuse future payload | finish future outcome =>
    obtain ⟨w, hw, hphase, rfl⟩ := bind_guard_eq_some.1 h
    exact hs.ends hw (by rw [hphase]; trivial)
  | stop future =>
    obtain ⟨w, hw, ⟨hphase, -⟩, rfl⟩ := bind_guard_eq_some.1 h
    exact hs.ends hw (by rw [hphase]; trivial)
  | approve future =>
    obtain ⟨w, hw, ⟨hphase, -⟩, rfl⟩ := bind_guard_eq_some.1 h
    have hearly : w.phase.Early := by rw [hphase]; trivial
    exact hs.advance hw (fun _ => hearly.held) (fun _ => hearly) (fun h => by cases h)
  | mark future =>
    obtain ⟨w, hw, hphase, rfl⟩ := bind_guard_eq_some.1 h
    exact hs.mark hw hphase
  | call future =>
    obtain ⟨w, hw, hphase, rfl⟩ := bind_guard_eq_some.1 h
    exact hs.call hw hphase
  | complete future =>
    obtain ⟨w, hw, h⟩ := bind_eq_some_iff.1 h
    split at h
    · next outcome hphase => exact some.inj h ▸ hs.complete hw hphase
    · cases h
  | record future =>
    obtain ⟨w, -, h⟩ := bind_eq_some_iff.1 h
    split at h
    · next outcome hphase => exact some.inj h ▸ hs.record future w outcome
    · cases h
  | forget kept => exact some.inj h ▸ hs.congr rfl rfl rfl rfl
  | cancel invocationId => exact some.inj h ▸ hs.cancel invocationId
  | failAll => exact some.inj h ▸ hs.failAll
  | resetPrincipal =>
    have hreset : Guarded { s with epoch := s.epoch + 1, terminal := fun _ => none } :=
      hs.congr rfl rfl rfl rfl
    exact some.inj h ▸ hreset.failAll
  | setIdentity identity => exact some.inj h ▸ hs.congr rfl rfl rfl rfl
  | restart identity capacity =>
    obtain rfl := some.inj h
    exact ⟨fun _ _ hw => (by cases hw), hs.called, hs.once⟩

end Guarded

/-! ### The ledger -/

namespace Dispatcher

@[simp] theorem ledger_remember (invocationId : String) (cached : CachedOutcome) :
    (s.remember invocationId cached).ledger = s.ledger := by
  unfold remember
  split <;> rfl

@[simp] theorem ledger_recollect (r : Record) : (s.recollect r).ledger = s.ledger := by
  unfold recollect
  split <;> rfl

theorem forward_launch {req : Request} {replay : Bool} :
    s.ledger.Forward (s.launch req i replay).ledger := by
  unfold launch
  split
  · rw [ledger_remember]
    exact .refl _
  split
  · exact .refl _
  next r ledger hprepare =>
  have hforward : s.ledger.Forward ledger := .prepare hprepare
  split
  · rw [ledger_recollect]
    exact hforward
  · split <;> exact hforward
  · exact hforward

theorem forward_submit {req : Request} : s.ledger.Forward (s.submit req i).ledger := by
  unfold submit
  repeat' split
  all_goals first | exact .refl _ | exact forward_launch | (rw [ledger_recollect]; exact .refl _)

theorem forward_dispatch {view : View} {m : Message} :
    s.ledger.Forward (s.dispatch view m i).ledger := by
  unfold dispatch
  split
  · exact forward_submit
  · rw [ledger_remember]
    exact .refl _
  · exact .refl _

theorem forward_mark : s.ledger.Forward (s.mark i w).ledger := by
  unfold mark
  split
  · exact .refl _
  split
  · next hmark => exact .markRunning hmark
  · exact .refl _

theorem forward_record {outcome : Outcome} : s.ledger.Forward (s.record i w outcome).ledger := by
  change s.ledger.Forward (if w.epoch ≠ s.epoch then _ else _ : Dispatcher).ledger
  split
  · exact .refl _
  split
  · next hcommit =>
      rw [ledger_remember]
      exact .commitTerminal hcommit
  · exact .refl _

/-- **In every step, rows of the ledger move forward.** -/
theorem forward_step {act : Act} (h : Client.step s act = some s') :
    s.ledger.Forward s'.ledger := by
  cases act with
  | dispatch view m future =>
    obtain ⟨-, rfl⟩ := guard_eq_some.1 h
    exact forward_dispatch
  | mark future =>
    obtain ⟨w, -, -, rfl⟩ := bind_guard_eq_some.1 h
    exact forward_mark
  | record future =>
    obtain ⟨w, -, h⟩ := bind_eq_some_iff.1 h
    split at h
    · exact some.inj h ▸ forward_record
    · cases h
  | complete future =>
    obtain ⟨w, -, h⟩ := bind_eq_some_iff.1 h
    split at h
    · exact some.inj h ▸ .refl _
    · cases h
  | cancel invocationId =>
    obtain rfl := some.inj h
    unfold cancel
    split <;> exact .refl _
  | begin future | refuse future payload | stop future | approve future | call future
  | finish future outcome =>
    obtain ⟨w, -, -, rfl⟩ := bind_guard_eq_some.1 h
    exact .refl _
  | forget kept | failAll | resetPrincipal | setIdentity identity | restart identity capacity =>
    exact some.inj h ▸ .refl _

end Dispatcher

/-! ### The result -/

theorem guarded_empty (identity : LedgerIdentity) (capacity : ℕ) :
    Guarded { identity, capacity } :=
  ⟨fun _ _ hw => (by cases hw), fun _ h => absurd rfl h, fun _ => Nat.zero_le 1⟩

/-- **A target that may not be called again is called at most once** per installation, principal and
invocation, in every run of dispatches, workers, cancellations, resets, changes of identity and
crashes; and from any state of a run on, every row of the ledger stays and moves forward, and its
outcome is never changed. -/
theorem target_called_at_most_once {identity : LedgerIdentity} {capacity : ℕ}
    {acts acts' : List Act} {s s' : Dispatcher} (h : Run (Takes step) { identity, capacity } acts s)
    (h' : Run (Takes step) s acts' s') : (∀ k, s.callsOf k ≤ 1)
      ∧ ∀ k r, s.ledger.find? k = some r → ∃ r', s'.ledger.find? k = some r' ∧ r.Forward r' := by
  have hguarded : Guarded s :=
    h.invariant (fun _ _ _ hs hstep => hs.step hstep) (guarded_empty identity capacity)
  have hforward : s.ledger.Forward s'.ledger :=
    h'.composes (R := fun a b => a.ledger.Forward b.ledger) (fun s => .refl s.ledger)
      (fun hab hbc => hab.trans hbc) fun _ _ _ hstep => Dispatcher.forward_step hstep
  exact ⟨hguarded.once, hforward⟩

def sampleIdentity : LedgerIdentity := ⟨"installation", "user", by decide⟩

def sampleView : View where
  connectionId := some "connection"
  registeredCapabilities := ["file.write"]
  version := fun _ => "1.0"
  idempotency := fun _ => "NON_IDEMPOTENT"
  clientId := "installation"
  requestFingerprint := fun _ _ _ _ => "fingerprint"

def sampleMessage : Message :=
  ⟨"invocation", some "connection", some "file.write", some "arguments", none, .absent, none⟩

/-- The invocation is dispatched and its target is called; the process dies before the outcome is
recorded, and the message comes again. -/
def sampleCrash : List Act :=
  [.dispatch sampleView sampleMessage 0, .begin 0, .approve 0, .mark 0, .call 0,
    .restart sampleIdentity 1, .dispatch sampleView sampleMessage 0]

theorem target_called_at_most_once_sampleCrash :
    ∃ s, Run (Takes step) { identity := sampleIdentity, capacity := 1 } sampleCrash s
      ∧ s.callsOf ⟨"installation", "user", "invocation"⟩ = 1
      ∧ s.workers 0 = none
      ∧ ∀ k, s.callsOf k ≤ 1 := by
  have hcalls : (exec step { identity := sampleIdentity, capacity := 1 } sampleCrash).map
      (fun s => (s.callsOf ⟨"installation", "user", "invocation"⟩, s.workers 0))
      = some (1, none) := by decide +kernel
  obtain ⟨s, hs, hcount⟩ := map_eq_some_iff.1 hcalls
  have hrun := run_exec hs
  exact ⟨s, hrun, congrArg Prod.fst hcount, congrArg Prod.snd hcount,
    (target_called_at_most_once hrun (.nil s)).1⟩

end AssistantRuntime.Client

/-
**The attempt loop keeps to the protocol.**

The loop of `_run_invocation_attempt` is followed from the moment an attempt is under way to the
moment the invocation is at rest, or its worker gives up.  Three things can come of the driver:
nothing left the server, the request was handed over, or a driver on the server ran.  Which of them
it was decides what a failure may say about the remote side effect, and whether another attempt may
follow.
-/

import AssistantRuntime.Capability.Custody

namespace AssistantRuntime.Capability

open Concurrent Relational List

variable {barred : Barred} {i : ℕ} {w w' : World} {s : Settings} {r r' : Run} {f : Failure}
  {v : Invocation} {attempts prior : List Attempt} {a last : Attempt} {marks marks' : List Mark}

/-! ### The driver -/

/-- The invocation in memory after the driver: as before, or with its dispatch recorded. -/
def Run.Dispatched (r : Run) (v : Invocation) : Prop :=
  v = r.invocation ∨ r.driver.isRemote = true ∧
    r.invocation.remoteOutcome = some .notDispatched ∧ v = r.invocation.markedStarted

inductive Came (barred : Barred) (s : Settings) (r : Run) (marks : List Mark) :
    Invocation → Except Failure PyValue → List Mark → Prop
  /-- Nothing left the server. -/
  | kept (v : Invocation) (f : Failure) (hv : r.Dispatched v)
      (hguard : (∃ c m b, f = .guard c m b) → s.guarded = true) :
      Came barred s r marks v (.error f) marks
  /-- The request was handed to a client. -/
  | sent (v : Invocation) (out : Except Failure PyValue) (hremote : r.driver.isRemote = true)
      (hv : r.Dispatched v) (hout : ∀ f, out = .error f → f.afterSend = true) :
      Came barred s r marks v out (.handed :: marks)
  /-- A driver on the server ran. -/
  | ran (out : Except Failure PyValue) (hserver : r.driver.isRemote = false)
      (hfree : ∀ o, r.invocation.remoteOutcome = some o → ¬barred o)
      (hout : ∀ f, out = .error f → f.byServer = true) :
      Came barred s r marks r.invocation out (.entered :: marks)

/-- The dispatch was recorded in memory only. -/
def Run.Stale (s : Settings) (r : Run) (v : Invocation) (out : Except Failure PyValue) : Prop :=
  r.invocation.remoteOutcome = some .notDispatched ∧ v = r.invocation.markedStarted ∧
    ∃ f, out = .error f ∧ outcomeAfter s { r with invocation := v } f = some .outcomeUnknown

def AfterDriver (barred : Barred) (i : ℕ) (s : Settings) (r : Run) (attempts : List Attempt)
    (marks : List Mark) (result : Invocation × Except Failure PyValue) (w : World) : Prop :=
  (∃ marks', Came barred s r marks result.1 result.2 marks' ∧
      Holding i result.1 attempts marks' w) ∨
    Holding i r.invocation attempts marks w ∧ r.Stale s result.1 result.2

theorem outcomeAfter_interruption (s : Settings) {r : Run} (h : r.driver.isRemote = true)
    (ho : r.invocation.remoteOutcome = some .inFlight) (x : Interruption) :
    outcomeAfter s r x.failure = some .outcomeUnknown := by
  cases x <;> simp [Interruption.failure, outcomeAfter, h, ho]

variable (hhold : Holding i v attempts marks w)

include hhold

theorem keeps_markStarted (hstate : v.state = .running) :
    Disciplined barred i (markStarted v)
      (fun started w' =>
        Holding i started.1 attempts marks w' ∧
            (started.1 = v ∧ v.remoteOutcome ≠ some .notDispatched ∧ started.2 = none ∨
              v.remoteOutcome = some .notDispatched ∧ started.1 = v.markedStarted ∧
                (started.2 = none ∨ ∃ x : Interruption, started.2 = some x.failure)) ∨
          Holding i v attempts marks w' ∧ v.remoteOutcome = some .notDispatched ∧
            started.1 = v.markedStarted ∧ ∃ f, started.2 = some f ∧
              ∀ s r, r.driver.isRemote = true → r.invocation = v.markedStarted →
                outcomeAfter s r f = some .outcomeUnknown) w := by
  unfold markStarted
  split
  · rename_i hnd
    have hbusy : v.markedStarted.state.isAtRest = false := by
      simp [Invocation.markedStarted, hstate, InvocationState.isAtRest, InvocationState.isTerminal]
    -- the guarded write of the record, by the holder
    have hwrite : ∀ w1, Holding i v attempts marks w1 →
        Disciplined barred i (perform (World.compareAndSet v.markedStarted v.revision))
          (fun written w' => if written then Holding i v.markedStarted attempts marks w'
            else Holding i v attempts marks w') w1 := by
      intro w1 hhold1
      refine .mono ?_ (hhold1.keeps_compareAndSet rfl
        (by constructor <;> rfl) (Nat.lt_succ_self _) ?_)
      · intro written w' h
        cases written with
        | false => exact h
        | true => exact h.2 hbusy
      · intro _ hrecorded hheld
        rw [hbusy, if_neg (by simp)]
        refine ⟨.of_held ⟨hbusy, hheld.first, hheld.started⟩ (hrecorded.learns
          (InvocationState.isTerminal_of_not_isAtRest hheld.busy) rfl ?_ ?_ ?_), ?_⟩
        · rintro ⟨⟩
        · rintro ⟨⟩
        · intro h
          exact absurd (hstate.symm.trans h) (by simp)
        · simp [Invocation.markedStarted, hnd]
    have hstale : ∀ (x : Interruption) (s : Settings) (r : Run), r.driver.isRemote = true →
        r.invocation = v.markedStarted → outcomeAfter s r x.failure = some .outcomeUnknown :=
      fun x s r hr hv => outcomeAfter_interruption s hr (by rw [hv]; rfl) x
    refine .bind (.mono ?_ (hhold.keeps_ask hstate (.inl rfl)))
    rintro answer w1 ⟨hhold1, -⟩
    split
    · exact .pure (.inr ⟨hhold1, hnd, rfl, _, rfl, hstale _⟩)
    · refine .bind (.mono ?_ (hwrite w1 hhold1))
      intro written w2 h
      cases written with
      | false => exact .pure (.inr ⟨h, hnd, rfl, _, rfl, hstale _⟩)
      | true => exact .pure (.inl ⟨h, .inr ⟨hnd, rfl, .inr ⟨_, rfl⟩⟩⟩)
    · refine .bind (.mono ?_ (hwrite w1 hhold1))
      intro written w2 h
      cases written with
      | false =>
        refine .pure (.inr ⟨h, hnd, rfl, _, rfl, fun s r hr hv => ?_⟩)
        simp [outcomeAfter, hr, hv, Invocation.markedStarted]
      | true => exact .pure (.inl ⟨h, .inr ⟨hnd, rfl, .inl rfl⟩⟩)
  · rename_i hnd
    exact .pure (.inl ⟨hhold, .inl ⟨rfl, hnd, rfl⟩⟩)

theorem keeps_runDispatchGuard (hstate : v.state = .running) :
    Disciplined barred i (runDispatchGuard s v)
      (fun failed w' => Holding i v attempts marks w' ∧ (failed ≠ none → s.guarded = true)) w := by
  unfold runDispatchGuard
  split
  · rename_i hguarded
    refine .bind (.mono ?_ (hhold.keeps_ask hstate (.inl rfl)))
    rintro answer w1 ⟨hhold1, -⟩
    exact .pure ⟨hhold1, fun _ => hguarded⟩
  · exact .pure ⟨hhold, fun h => absurd rfl h⟩

/-- **The request is handed over**, once its dispatch is recorded. -/
theorem keeps_realtimeInvoke (hstate : v.state = .running) (hready : Dispatchable v marks)
    (hnd : v.remoteOutcome ≠ some .notDispatched) :
    Disciplined barred i (realtimeInvoke v)
      (fun out w' =>
        Holding i v attempts marks w' ∧ (∃ f, out = .error f ∧ f.beforeSend = true) ∨
          Holding i v attempts (.handed :: marks) w' ∧
            ∀ f, out = .error f → f.afterSend = true) w := by
  refine .bind (.mono ?_ (hhold.keeps_ask hstate (.inl rfl)))
  rintro answer w1 ⟨hhold1, -⟩
  split
  · rename_i failure
    exact .pure (.inl ⟨hhold1, _, rfl, failure.2⟩)
  · refine .bind (.mono ?_ (hhold1.keeps_mark ?_))
    · intro _ w2 hhold2
      refine .bind (.mono ?_ (hhold2.keeps_ask hstate (.inl rfl)))
      rintro response w3 ⟨hhold3, -⟩
      refine .pure (.inr ⟨hhold3, ?_⟩)
      intro f hf
      cases response with
      | ok output => cases hf
      | error failure =>
        cases hf
        exact failure.2
    · intro h
      refine ⟨fun hsafe => ?_, fun ho => absurd ho hnd, fun ho => absurd ho hnd, fun hmem => ?_,
        h.committed, h.completed⟩
      · refine .cons_of_unsent (hready.resolve_left ?_)
        simp [hsafe]
      · exact h.released ((mem_cons.1 hmem).resolve_left (by simp))

omit hhold

/-- A failure of the transport before the send boundary, or of an interruption, is no guard's. -/
theorem Failure.not_guard_of_beforeSend (h : f.beforeSend = true) : ¬∃ c m b, f = .guard c m b := by
  rintro ⟨c, m, b, rfl⟩
  cases h

theorem Interruption.not_guard (x : Interruption) : ¬∃ c m b, x.failure = .guard c m b := by
  rintro ⟨c, m, b, h⟩
  cases x <;> cases h

theorem Underway.keeps_executeRemote {connectionId : String}
    (h : Underway barred i r.invocation r.attempt prior last marks w)
    (hremote : r.driver.isRemote = true) :
    Disciplined barred i (executeRemote s r connectionId)
      (AfterDriver barred i s r (prior ++ [last]) marks) w := by
  have hsame : ∀ (f : Failure) (w1 : World), Holding i r.invocation (prior ++ [last]) marks w1 →
      (¬∃ c m b, f = .guard c m b) →
      AfterDriver barred i s r (prior ++ [last]) marks (r.invocation, .error f) w1 :=
    fun f w1 hhold hguard => .inl ⟨marks, .kept _ f (.inl rfl) (fun hg => absurd hg hguard), hhold⟩
  unfold executeRemote
  split
  · exact .pure (hsame _ w h.holding (by simp [wrongConnection]))
  · refine .bind (.mono ?_ (h.holding.keeps_ask h.state (.inl rfl)))
    rintro late w1 ⟨hhold1, -⟩
    split
    · rename_i x
      exact .pure (hsame _ w1 hhold1 x.not_guard)
    · refine .bind (.mono ?_ (keeps_markStarted hhold1 h.state))
      rintro ⟨v, failed⟩ w2 hstarted
      rcases hstarted with ⟨hhold2, hv⟩ | ⟨hhold2, hnd, hv, f, hf, hstale⟩
      · -- what is in memory is what is stored
        have hdispatched : r.Dispatched v := by
          rcases hv with ⟨hv, -, -⟩ | ⟨hnd, hv, -⟩
          · exact .inl hv
          · exact .inr ⟨hremote, hnd, hv⟩
        have hoff : v.remoteOutcome ≠ some .notDispatched := by
          rcases hv with ⟨rfl, hnd, -⟩ | ⟨-, rfl, -⟩
          · exact hnd
          · simp [Invocation.markedStarted]
        have hstate : v.state = .running := by
          rcases hv with ⟨rfl, -, -⟩ | ⟨-, rfl, -⟩ <;> exact h.state
        have hready : Dispatchable v marks := by
          rcases hv with ⟨rfl, -, -⟩ | ⟨-, rfl, -⟩ <;> exact h.ready
        cases failed with
        | some f =>
          refine .pure (.inl ⟨marks, .kept v f hdispatched ?_, hhold2⟩)
          intro hg
          rcases hv with ⟨-, -, hnone⟩ | ⟨-, -, hnone | ⟨x, hx⟩⟩
          · cases hnone
          · cases hnone
          · cases hx
            exact absurd hg x.not_guard
        | none =>
          refine .bind (.mono ?_ (keeps_runDispatchGuard hhold2 hstate))
          rintro refused w3 ⟨hhold3, hguarded⟩
          cases refused with
          | some f =>
            exact .pure (.inl ⟨marks, .kept v f hdispatched (fun _ => hguarded (by simp)),
              hhold3⟩)
          | none =>
            refine .bind (.mono ?_
              (keeps_realtimeInvoke hhold3 hstate hready hoff))
            rintro out w4 (⟨hhold4, f, rfl, hf⟩ | ⟨hhold4, hout⟩)
            · exact .pure (.inl ⟨marks, .kept v f hdispatched (fun hg =>
                absurd hg (Failure.not_guard_of_beforeSend hf)), hhold4⟩)
            · exact .pure (.inl ⟨.handed :: marks, .sent v out hremote hdispatched hout,
                hhold4⟩)
      · -- the record was made in memory only
        subst hv hf
        exact .pure (.inr ⟨hhold2, hnd, rfl, f, rfl, hstale s _ hremote rfl⟩)

theorem Underway.keeps_executeDriverOnce
    (h : Underway barred i r.invocation r.attempt prior last marks w) :
    Disciplined barred i (executeDriverOnce s r)
      (AfterDriver barred i s r (prior ++ [last]) marks) w := by
  refine .bind (.mono ?_ (h.holding.keeps_ask h.state (.inl rfl)))
  rintro cancelled w1 ⟨hhold1, hpermitted⟩
  have h1 : Underway barred i r.invocation r.attempt prior last marks w1 :=
    { h with holding := hhold1 }
  cases cancelled with
  | true =>
    refine .pure (.inl ⟨marks, .kept _ _ (.inl rfl) ?_, hhold1⟩)
    rintro ⟨c, m, b, hg⟩
    cases hg
  | false =>
    cases hdriver : r.driver with
    | remote connectionId =>
      exact h1.keeps_executeRemote (by rw [hdriver]; rfl)
    | server =>
      rw [hdriver] at hpermitted
      have hfree := hpermitted rfl r.invocation hhold1.row
      refine .bind (.mono ?_ (hhold1.keeps_mark ?_))
      · intro _ w2 hhold2
        refine .bind (.mono ?_ (hhold2.keeps_ask h.state (.inl rfl)))
        rintro out w3 ⟨hhold3, -⟩
        refine .pure (.inl ⟨.entered :: marks, .ran _ (by rw [hdriver]; rfl) hfree ?_,
          hhold3⟩)
        intro f hf
        cases out with
        | ok output => cases hf
        | error failure =>
          cases hf
          exact failure.2
      · intro hrecorded
        refine ⟨fun hsafe => ?_, fun ho hmem => ?_, fun ho hb => absurd hb (hfree _ ho),
          fun hmem => ?_, hrecorded.committed, hrecorded.completed⟩
        · exact .cons_of_unsent (h.ready.resolve_left (by simp [hsafe]))
        · exact hrecorded.unsent ho ((mem_cons.1 hmem).resolve_left (by simp))
        · exact hrecorded.released ((mem_cons.1 hmem).resolve_left (by simp))

/-! ### The record after a failure -/

/-- The invocation waits for its client after such a failure, and another attempt may follow. -/
def Failure.waits : Failure → Bool
  | .connectionState _ | .connectionLost .. => true
  | _ => false

def Failure.isGuard : Failure → Bool
  | .guard .. => true
  | _ => false

/-- What the settings of a run promise about its invocation. -/
structure Fits (s : Settings) (v : Invocation) : Prop where
  guarded : s.guarded = true → v.remoteOutcome ≠ none
  replay : s.continuationMode = some .replaySafe → v.remoteOutcome ≠ some .notDispatched

/-- What holds of an attempt that failed, once the outcome is recorded. -/
structure Failed (barred : Barred) (s : Settings) (f : Failure) (v : Invocation)
    (marks : List Mark) : Prop where
  waits : f.waits = true → v.isSettledOpen
  guards : f.isGuard = true → v.remoteOutcome ≠ none ∧
    (remoteOutcomeTransition v.remoteOutcome .notDispatched = true →
      .handed ∉ marks ∧ (barred .notDispatched → .entered ∉ marks))
  ready : f.waits = true → v.idempotency.replaySafe = true ∨ f.afterSend = false →
    Dispatchable v marks
  fits : Fits s v

/-- An outcome that is unknown permits no more than a final one. -/
theorem Failed.of_outcomeUnknown (ho : v.remoteOutcome = some .outcomeUnknown)
    (hready : f.waits = true → v.idempotency.replaySafe = true ∨ f.afterSend = false →
      Dispatchable v marks) : Failed barred s f v marks where
  waits _ := ⟨by simp [ho], by simp [ho]⟩
  guards _ := by
    refine ⟨by simp [ho], fun h => ?_⟩
    rw [ho] at h
    exact absurd h (by decide)
  ready := hready
  fits := ⟨fun _ => by simp [ho], fun _ => by simp [ho]⟩

/-- What a worker knows after a failure, once the outcome is recorded. -/
structure AfterFailure (barred : Barred) (i : ℕ) (s : Settings) (f : Failure) (r r' : Run)
    (attempts : List Attempt) (marks : List Mark) (w : World) : Prop where
  holding : Holding i r'.invocation attempts marks w
  failed : Failed barred s f r'.invocation marks
  run : r' = { r with invocation := r'.invocation }
  advances : r.invocation.Advances r'.invocation
  state : r'.invocation.state = r.invocation.state
  attempt : r'.invocation.attempt = r.invocation.attempt

theorem Run.Dispatched.advances (h : r.Dispatched v) : r.invocation.Advances v := by
  rcases h with rfl | ⟨-, -, rfl⟩
  · exact .refl _
  · constructor <;> rfl

theorem Run.Dispatched.state (h : r.Dispatched v) : v.state = r.invocation.state := by
  rcases h with rfl | ⟨-, -, rfl⟩ <;> rfl

theorem Run.Dispatched.attempt (h : r.Dispatched v) : v.attempt = r.invocation.attempt := by
  rcases h with rfl | ⟨-, -, rfl⟩ <;> rfl

variable {out : Except Failure PyValue}

variable (h : Came barred s r marks v out marks')

include h

theorem Came.dispatchable (hf : out = .error f) (hready : Dispatchable r.invocation marks)
    (hsafe : v.idempotency.replaySafe = true ∨ f.afterSend = false) : Dispatchable v marks' := by
  cases h with
  | kept v f' hv _ =>
    exact hready.imp_left fun h => (congrArg Idempotency.replaySafe hv.advances.idempotency).trans h
  | sent v out _ hv hout =>
    rcases hsafe with hsafe | hsafe
    · exact .inl hsafe
    · exact absurd (hout f hf) (by simp [hsafe])
  | ran out hserver _ _ =>
    refine hready.imp_right fun hunsent hmem => ?_
    exact hunsent ((mem_cons.1 hmem).resolve_left (by simp))

/-- Where the failure says nothing new, what was known stays. -/
theorem Came.failed_of_unchanged (hf : out = .error f)
    (hunder : Underway barred i r.invocation r.attempt prior last marks w)
    (hfits : Fits s r.invocation) (hnone : outcomeAfter s { r with invocation := v } f = none) :
    Failed barred s f v marks' := by
  have hready := hunder.ready
  cases h with
  | kept v f' hv hguard =>
    cases hf
    rcases hv with rfl | ⟨hremote, hnd, rfl⟩
    · -- the outcome is as it was before the attempt
      refine ⟨fun _ => hunder.outcome, fun hg => ?_, fun _ _ => hready, hfits⟩
      have hsome : r.invocation.remoteOutcome ≠ none := by
        refine hfits.guarded (hguard ?_)
        cases f with
        | guard => exact ⟨_, _, _, rfl⟩
        | _ => cases hg
      refine ⟨hsome, fun htransition => ?_⟩
      have hnd : r.invocation.remoteOutcome = some .notDispatched := by
        have hopen := hunder.outcome
        cases ho : r.invocation.remoteOutcome with
        | none => exact absurd ho hsome
        | some o =>
          rw [ho] at htransition
          cases o with
          | notDispatched => rfl
          | inFlight => exact absurd ho hopen.1
          | outcomeUnknown => exact absurd htransition (by decide)
          | terminalCommitted => exact absurd ho hopen.2
      exact ⟨hunder.recorded.unsent hnd, hunder.recorded.unentered hnd⟩
    · -- the dispatch was recorded, and nothing was sent
      refine ⟨fun hw => ?_, fun _ => ⟨by simp [Invocation.markedStarted], fun _ =>
        ⟨hunder.recorded.unsent hnd, hunder.recorded.unentered hnd⟩⟩, fun _ _ => hready, ?_⟩
      · cases f with
        | connectionState message =>
          have hmode : s.continuationMode ≠ some .replaySafe :=
            fun hm => hfits.replay hm hnd
          simp [outcomeAfter, hremote, Invocation.markedStarted, hmode] at hnone
        | connectionLost c id => simp [outcomeAfter, hremote, Invocation.markedStarted] at hnone
        | _ => cases hw
      · exact ⟨fun _ => by simp [Invocation.markedStarted],
          fun _ => by simp [Invocation.markedStarted]⟩
  | sent v out hremote hv hout =>
    have hafter := hout f hf
    refine ⟨fun hw => ?_, fun hg => ?_, fun hw hsafe => ?_, ?_⟩
    · -- only a lost connection waits after the request was handed over, and it is recorded
      cases f with
      | connectionLost c id =>
        have ho : v.remoteOutcome = some .outcomeUnknown := by
          simpa [outcomeAfter, hremote] using hnone
        exact ⟨by simp [ho], by simp [ho]⟩
      | connectionState message => cases hafter
      | _ => cases hw
    · cases f with
      | guard => cases hafter
      | _ => cases hg
    · rcases hsafe with hsafe | hsafe
      · exact .inl hsafe
      · cases hafter.symm.trans hsafe
    · rcases hv with rfl | ⟨-, -, rfl⟩
      · exact hfits
      · exact ⟨fun _ => by simp [Invocation.markedStarted],
          fun _ => by simp [Invocation.markedStarted]⟩
  | ran out hserver hfree hout =>
    refine ⟨fun _ => hunder.outcome, fun hg => ?_, fun _ _ => ?_, hfits⟩
    · have hby := hout f hf
      cases f with
      | guard => cases hby
      | _ => cases hg
    · refine hready.imp_right fun hunsent hmem => ?_
      exact hunsent ((mem_cons.1 hmem).resolve_left (by simp))

/-- An outcome that becomes known as not dispatched was so before the attempt. -/
theorem Came.unsent_of_notDispatched (hf : out = .error f)
    (hunder : Underway barred i r.invocation r.attempt prior last marks w)
    (hsome : outcomeAfter s { r with invocation := v } f = some .notDispatched) :
    v.remoteOutcome = some .inFlight ∧ s.continuationMode ≠ some .replaySafe ∧
      .handed ∉ marks' ∧ (barred .notDispatched → .entered ∉ marks') := by
  -- only a connection that was refused before the send boundary says so
  obtain ⟨message, rfl⟩ : ∃ message, f = .connectionState message := by
    cases f with
    | connectionState message => exact ⟨message, rfl⟩
    | _ => simp [outcomeAfter] at hsome
  simp only [outcomeAfter] at hsome
  split at hsome
  · rename_i hcase
    obtain ⟨hremote, hinflight, hmode⟩ := hcase
    refine ⟨hinflight, hmode, ?_⟩
    cases h with
    | kept v f' hv _ =>
      rcases hv with rfl | ⟨-, hnd, rfl⟩
      · exact absurd hinflight hunder.outcome.1
      · exact ⟨hunder.recorded.unsent hnd, hunder.recorded.unentered hnd⟩
    | sent v out _ _ hout => cases hout _ hf
    | ran out hserver _ _ =>
      cases hserver.symm.trans hremote
  · cases hsome

omit h

/-- A failure says of the remote side effect that it did not happen, or that nobody knows. -/
theorem outcomeAfter_cases {o : RemoteOutcome} (h : outcomeAfter s r f = some o) :
    o = .notDispatched ∨ o = .outcomeUnknown := by
  cases f <;> simp only [outcomeAfter] at h
  all_goals first
    | cases h
    | (split at h
       · first
          | exact .inl (Option.some.inj h).symm
          | exact .inr (Option.some.inj h).symm
       · cases h)

theorem Came.dispatched (h : Came barred s r marks v out marks') :
    r.invocation.Advances v ∧ v.state = r.invocation.state ∧
      v.attempt = r.invocation.attempt := by
  cases h with
  | kept v f hv _ => exact ⟨hv.advances, hv.state, hv.attempt⟩
  | sent v out _ hv _ => exact ⟨hv.advances, hv.state, hv.attempt⟩
  | ran out => exact ⟨.refl _, rfl, rfl⟩

/-- **The outcome is recorded after a failure.** -/
theorem keeps_recordOutcome (hunder : Underway barred i r.invocation r.attempt prior last marks w)
    (hfits : Fits s r.invocation)
    (hafter : AfterDriver barred i s r (prior ++ [last]) marks (v, .error f) w') :
    Disciplined barred i (recordOutcome s { r with invocation := v } f)
      (fun r' w'' => ∃ marks', AfterFailure barred i s f r r' (prior ++ [last]) marks' w'') w' := by
  unfold recordOutcome
  rcases hafter with ⟨marks', hcame, hhold⟩ | ⟨hhold, hnd, hv, f', hf', hstale⟩
  · obtain ⟨hadv, hstate, hattempt⟩ := hcame.dispatched
    cases houtcome : outcomeAfter s { r with invocation := v } f with
    | none =>
      exact .pure ⟨marks', hhold,
        hcame.failed_of_unchanged rfl hunder hfits houtcome, rfl, hadv, hstate, hattempt⟩
    | some o =>
      have htc : o ≠ .terminalCommitted := by
        rcases outcomeAfter_cases houtcome with rfl | rfl <;> simp
      have hbusy : v.state.isAtRest = false := by
        rw [hstate, hunder.state]
        rfl
      refine .bind (.mono ?_ (hhold.keeps_updateRemoteOutcome htc ?_ hbusy ?_))
      · rintro v' w'' ⟨hhold', revision, rfl⟩
        refine .pure ⟨marks', hhold', ?_, rfl, hadv.trans (by constructor <;> rfl), hstate,
          hattempt⟩
        have hready := fun hsafe => hcame.dispatchable rfl hunder.ready hsafe
        rcases outcomeAfter_cases houtcome with rfl | rfl
        · obtain ⟨-, hmode, hunsent⟩ := hcame.unsent_of_notDispatched rfl hunder houtcome
          exact ⟨fun _ => ⟨by simp, by simp⟩, fun _ => ⟨by simp, fun _ => hunsent⟩, fun _ h => hready h,
            ⟨fun _ => by simp, fun h => absurd h hmode⟩⟩
        · exact .of_outcomeUnknown rfl fun _ h => hready h
      · rintro rfl
        intro hnone
        cases (hcame.unsent_of_notDispatched rfl hunder houtcome).1.symm.trans hnone
      · rintro rfl
        exact (hcame.unsent_of_notDispatched rfl hunder houtcome).2.2
  · -- the row never had the record that memory has, and the guarded write is refused
    cases hf'
    subst hv
    rw [hstale]
    refine .bind (.bind (.decided fun changed hchanged => ?_))
    cases changed with
    | none => cases changeRemoteOutcome_none hchanged
    | some changed =>
      obtain ⟨-, -, rfl⟩ := changeRemoteOutcome_ok hchanged
      refine .bind (.mono ?_ (hhold.keeps_compareAndSet
        rfl (by constructor <;> rfl)
        (Nat.lt_succ_self _) ?_))
      · intro written w'' h
        cases written with
        | false => exact .throw
        | true =>
          have hbusy : r.invocation.state.isAtRest = false := by
            rw [hunder.state]
            rfl
          refine .pure (.pure ⟨marks, h.2 hbusy, .of_outcomeUnknown rfl fun _ hsafe => ?_,
            rfl, by constructor <;> rfl, rfl, rfl⟩)
          exact hunder.ready
      · intro h
        exact absurd h (Nat.succ_ne_self _)

/-! ### Closing an attempt -/

/-- What a worker knows when it closes an attempt that failed. -/
structure Closing (barred : Barred) (i : ℕ) (s : Settings) (f : Failure) (r : Run)
    (attempts : List Attempt) (marks : List Mark) (w : World) : Prop where
  holding : Holding i r.invocation attempts marks w
  busy : r.invocation.state.isAtRest = false
  failed : Failed barred s f r.invocation marks
  attempt : 1 ≤ r.invocation.attempt
  /-- The attempt is open, or a retry that found no other implementation closed it. -/
  history : (∃ prior last, attempts = prior ++ [last] ∧
      OpenAttempt r.invocation r.attempt prior last) ∨
    f.waits = true ∧ r.attempt.completedAt ≠ none ∧ Finished r.invocation.attempt attempts

/-- What each handler does: it waits or it ends; only the guard's says that nothing was sent, and
only a reported error is final. -/
theorem verdict_cases (s : Settings) (r : Run) (f : Failure) :
    (verdict s r f).state = .waiting ∧ (verdict s r f).changes.waitReason = some .connection ∧
        (verdict s r f).unlessCompleted = true ∧
        (f.waits = true ∧ (verdict s r f).changes.remoteOutcome = none ∨
          f.isGuard = true ∧ (verdict s r f).changes.remoteOutcome = some .notDispatched) ∨
      (verdict s r f).state.isTerminal = true ∧ (verdict s r f).state ≠ .completed ∧
        f.waits = false ∧
        ((verdict s r f).changes.remoteOutcome = none ∨
          (verdict s r f).changes.remoteOutcome = some .terminalCommitted) := by
  cases f with
  | connectionState | connectionLost => exact .inl ⟨rfl, rfl, rfl, .inl ⟨rfl, rfl⟩⟩
  | guard => exact .inl ⟨rfl, rfl, rfl, .inr ⟨rfl, rfl⟩⟩
  | remoteError => exact .inr ⟨rfl, by simp [verdict, failWith], rfl, .inr rfl⟩
  | timeout | cancelled => exact .inr ⟨rfl, by simp [verdict, stopWith], rfl, .inl rfl⟩
  | capability | other => exact .inr ⟨rfl, by simp [verdict, failWith], rfl, .inl rfl⟩

theorem verdict_isAtRest (s : Settings) (r : Run) (f : Failure) :
    (verdict s r f).state.isAtRest = true := by
  rcases verdict_cases s r f with ⟨h, -⟩ | ⟨h, -⟩
  · rw [h]
    rfl
  · simp [InvocationState.isAtRest, h]

theorem Failed.rests {now : ℤ} {moved : Invocation} (h : Failed barred s f r.invocation marks)
    (hmoved : transitionInvocation r.invocation (verdict s r f).state (verdict s r f).changes now =
      .ok moved) (hrecorded : Recorded barred r.invocation marks)
    (hterminal : r.invocation.state.isTerminal = false)
    (hfinished : Finished r.invocation.attempt attempts) (hone : 1 ≤ r.invocation.attempt) :
    Free moved attempts marks ∧ Recorded barred moved marks := by
  obtain ⟨-, -, houtcome, rfl⟩ := transitionInvocation_eq_ok.1 hmoved
  rcases verdict_cases s r f with ⟨hstate, hreason, -, hcase⟩ | ⟨hstate, hnot, -, hcase⟩
  · rcases hcase with ⟨hwaits, hnone⟩ | ⟨hguard, hsome⟩
    · -- the outcome stays as it is
      have hsame : (r.invocation.move (verdict s r f).state (verdict s r f).changes now).remoteOutcome
          = r.invocation.remoteOutcome := by simp [Invocation.move, hnone]
      have hopen := h.waits hwaits
      refine ⟨.waiting hstate hreason ⟨hsame ▸ hopen.1, hsame ▸ hopen.2⟩ hfinished hone,
        hrecorded.busy hterminal rfl hsame ?_⟩
      simp [Invocation.move, hstate, InvocationState.isTerminal]
    · -- the guard refused before anything was sent
      have hnd : (r.invocation.move (verdict s r f).state (verdict s r f).changes now).remoteOutcome
          = some .notDispatched := by simp [Invocation.move, hsome]
      have hunsent := (h.guards hguard).2 (houtcome _ hsome)
      refine ⟨.waiting hstate hreason ⟨by simp [hnd], by simp [hnd]⟩ hfinished hone,
        hrecorded.learns hterminal rfl (fun _ => hunsent) ?_ ?_⟩
      · intro hc
        cases hnd.symm.trans hc
      · intro hc
        cases hstate.symm.trans hc
  · refine ⟨.terminal hstate hfinished hone, ?_⟩
    refine hrecorded.learns hterminal rfl ?_ (fun _ => hstate) (fun hc => absurd hc hnot)
    intro hnd
    rcases hcase with hnone | hsome
    · have hsame : r.invocation.remoteOutcome = some .notDispatched := by
        simpa [Invocation.move, hnone] using hnd
      exact ⟨hrecorded.unsent hsame, hrecorded.unentered hsame⟩
    · simp [Invocation.move, hsome] at hnd

/-- **The attempt is closed and the invocation comes to rest.** -/
theorem Closing.keeps_settle {α : Type} {post : α → World → Prop}
    (h : Closing barred i s f r attempts marks w) :
    Disciplined barred i (settle s r f) post w := by
  -- all attempts are closed before the invocation moves
  have hclosed : Disciplined barred i
      (closeAttempt s.now r.attempt (verdict s r f).unlessCompleted (verdict s r f).attemptState
        (verdict s r f).attemptError)
      (fun _ w' => ∃ attempts', Finished r.invocation.attempt attempts' ∧
        Holding i r.invocation attempts' marks w') w := by
    unfold closeAttempt
    rcases h.history with ⟨prior, last, rfl, hopen⟩ | ⟨hwaits, hcompleted, hfinished⟩
    · rw [if_neg fun hc => hc.2 hopen.unfinished]
      exact .mono (fun _ _ hclosed => hclosed.2) (hopen.keeps_finishAttempt h.holding)
    · have hunless : (verdict s r f).unlessCompleted = true := by
        rcases verdict_cases s r f with ⟨-, -, h, -⟩ | ⟨-, -, hnot, -⟩
        · exact h
        · cases hwaits.symm.trans hnot
      rw [if_pos ⟨hunless, hcompleted⟩]
      exact .pure ⟨attempts, hfinished, h.holding⟩
  refine .bind (.mono ?_ hclosed)
  rintro _ w1 ⟨attempts', hfinished, hhold⟩
  refine .bind (hhold.keeps_rest (verdict_isAtRest s r f) ?_ ?_ fun _ _ _ => .throw)
  · intro hnd
    rcases verdict_cases s r f with ⟨-, -, -, ⟨-, hnone⟩ | ⟨hguard, -⟩⟩ | ⟨-, -, -, hnone | hcommitted⟩
    · cases hnone.symm.trans hnd
    · exact (h.failed.guards hguard).1
    · cases hnone.symm.trans hnd
    · cases hcommitted.symm.trans hnd
  intro moved hmoved hrecorded hterminal
  exact h.failed.rests hmoved hrecorded hterminal hfinished h.attempt

theorem OpenAttempt.of_advances (h : OpenAttempt r.invocation a prior last)
    (hadv : r.invocation.Advances v) (hattempt : v.attempt = r.invocation.attempt) :
    OpenAttempt v a prior last where
  history := hattempt ▸ h.history
  attempt := hattempt ▸ h.attempt
  sameId := h.sameId
  number := h.number
  own := h.own.trans hadv.invocationId.symm
  current := h.current.trans hattempt.symm
  unfinished := h.unfinished

/-- **The attempt delivered**: the invocation is completed. -/
theorem keeps_complete {output : PyValue}
    (hunder : Underway barred i r.invocation r.attempt prior last marks w)
    (hafter : AfterDriver barred i s r (prior ++ [last]) marks (v, .ok output) w') :
    Disciplined barred i (complete s { r with invocation := v } output) (fun _ _ => True) w' := by
  rcases hafter with ⟨marks', hcame, hhold⟩ | ⟨-, -, -, f, hf, -⟩
  · obtain ⟨hadv, -, hattempt⟩ := hcame.dispatched
    have hopen := hunder.toOpenAttempt.of_advances hadv hattempt
    refine .bind (.mono ?_ (hopen.keeps_finishAttempt hhold))
    rintro _ w1 ⟨-, attempts, hfinished, hhold1⟩
    refine .bind (hhold1.keeps_rest rfl ?_ ?_ fun _ _ _ => .pure trivial)
    · split <;> intro hnd <;> cases hnd
    intro moved hmoved hrecorded hbusy
    obtain ⟨-, -, -, rfl⟩ := transitionInvocation_eq_ok.1 hmoved
    refine ⟨.terminal rfl hfinished hopen.attempt,
      hrecorded.learns hbusy rfl (fun hnd => ?_) (fun _ => rfl) (fun _ o ho => ?_)⟩
    · cases hremote : r.driver.isRemote with
      | true => simp [Invocation.move, hremote] at hnd
      | false =>
        have hsame : v.remoteOutcome = some .notDispatched := by
          simpa [Invocation.move, hremote] using hnd
        exact ⟨hrecorded.unsent hsame, hrecorded.unentered hsame⟩
    · cases hcame with
      | sent _ _ hremote =>
        refine .inl ?_
        simpa [Invocation.move, hremote] using ho.symm
      | ran _ hserver hfree =>
        refine .inr (hfree o ?_)
        simpa [Invocation.move, hserver] using ho
  · cases hf

/-! ### The next attempt -/

/-- A retry is permitted after failures of the connection, before the request was handed over or of
an invocation that may run twice. -/
theorem allowsRetry_cases (h : allowsRetry r f = true) :
    f.waits = true ∧ (r.invocation.idempotency.replaySafe = true ∨ f.afterSend = false) := by
  cases f with
  | connectionState => exact ⟨rfl, .inr rfl⟩
  | connectionLost => exact ⟨rfl, .inl h⟩
  | _ => cases h

/-- What is known of a failure does not depend on the state of the invocation. -/
theorem Failed.of_same {u : Invocation} (h : Failed barred s f v marks)
    (houtcome : u.remoteOutcome = v.remoteOutcome) (hidem : u.idempotency = v.idempotency) :
    Failed barred s f u marks where
  waits hwaits := ⟨houtcome ▸ (h.waits hwaits).1, houtcome ▸ (h.waits hwaits).2⟩
  guards hguard := houtcome ▸ h.guards hguard
  ready hwaits hsafe := by
    have := h.ready hwaits (hidem ▸ hsafe)
    exact this.imp_left fun hs => (congrArg Idempotency.replaySafe hidem).trans hs
  fits := ⟨fun hg => houtcome ▸ h.fits.guarded hg, fun hm => houtcome ▸ h.fits.replay hm⟩

/-- **The retry**: the next attempt is under way, or the attempt is to be closed. -/
theorem Closing.keeps_tryRemoteRetry (h : Closing barred i s f r (prior ++ [last]) marks w)
    (hopen : OpenAttempt r.invocation r.attempt prior last) :
    Disciplined barred i (tryRemoteRetry s r f)
      (fun result w' => if result.1 then Fits s result.2.invocation ∧
          ∃ prior last, Underway barred i result.2.invocation result.2.attempt prior last marks w'
        else ∃ attempts, Closing barred i s f result.2 attempts marks w') w := by
  unfold tryRemoteRetry
  split
  · exact .pure ⟨_, h⟩
  · split_ifs with hallow
    · obtain ⟨hwaits, hsafe⟩ := allowsRetry_cases hallow.2.1
      -- the attempt is closed and the invocation is between two attempts
      have hclose : closeAttempt s.now r.attempt true .failed (retryError r f) =
          finishAttempt s.now r.attempt .failed (some (retryError r f)) :=
        if_neg fun hc => hc.2 hopen.unfinished
      rw [hclose]
      refine .bind (.mono ?_ (hopen.keeps_finishAttempt h.holding))
      rintro closed w1 ⟨hclosed, attempts, hfinished, hhold1⟩
      refine .bind (.mono ?_ (hhold1.keeps_busy rfl (.refl _) rfl))
      rintro retrying w2 ⟨rfl, -, hhold2⟩
      refine .bind (.query fun w3 _ hrely => ⟨by rintro _ ⟨⟩, fun env _ => ?_⟩)
      have hhold3 := hhold2.stable hrely
      split
      · refine .pure ?_
        exact ⟨_, hhold3, rfl, h.failed.of_same rfl rfl, h.attempt, .inr ⟨hwaits, hclosed, hfinished⟩⟩
      · exact .throw
      · refine .bind (.mono ?_ (hhold3.keeps_startAttempt rfl))
        rintro a' w4 ⟨hown, hnumber, hrunning, hunfinished, hhold4⟩
        refine .bind (.mono ?_
          (hhold4.keeps_busy rfl (by constructor <;> rfl) rfl))
        rintro dispatching w5 ⟨rfl, -, hhold5⟩
        refine .bind (.mono ?_ (hhold5.keeps_busy rfl (.refl _) rfl))
        rintro running w6 ⟨rfl, hrecorded, hhold6⟩
        refine .pure ?_
        refine ⟨⟨h.failed.fits.guarded, h.failed.fits.replay⟩, attempts, a', ?_⟩
        exact
          { history := hfinished
            attempt := Nat.succ_le_succ (Nat.zero_le _)
            sameId := rfl
            number := rfl
            own := hown
            current := hnumber
            unfinished := hunfinished
            holding := hhold6
            state := rfl
            outcome := h.failed.waits hwaits
            ready := h.failed.ready hwaits hsafe
            recorded := hrecorded }
    · exact .pure ⟨_, h⟩

/-! ### The loop -/

theorem AfterFailure.closing (h : AfterFailure barred i s f r r' (prior ++ [last]) marks' w')
    (hunder : Underway barred i r.invocation r.attempt prior last marks w) :
    OpenAttempt r'.invocation r'.attempt prior last ∧
      Closing barred i s f r' (prior ++ [last]) marks' w' := by
  have hattempt : r'.attempt = r.attempt := by
    rw [h.run]
  have hopen : OpenAttempt r'.invocation r'.attempt prior last := by
    rw [hattempt]
    exact hunder.toOpenAttempt.of_advances h.advances h.attempt
  have hbusy : r'.invocation.state.isAtRest = false := by
    rw [h.state, hunder.state]
    rfl
  exact ⟨hopen, h.holding, hbusy, h.failed, hopen.attempt, .inl ⟨prior, last, rfl, hopen⟩⟩

theorem Underway.keeps_attempt {onFailure : Run → Failure → Program CapabilityResult}
    (hunder : Underway barred i r.invocation r.attempt prior last marks w)
    (hfits : Fits s r.invocation)
    (hfailure : ∀ f r' marks' w', OpenAttempt r'.invocation r'.attempt prior last →
      Closing barred i s f r' (prior ++ [last]) marks' w' →
      Disciplined barred i (onFailure r' f) (fun _ _ => True) w') :
    Disciplined barred i
      (executeDriverOnce s r >>= fun (v, out) =>
        match out with
        | .ok output => complete s { r with invocation := v } output
        | .error f => recordOutcome s { r with invocation := v } f >>= fun r' => onFailure r' f)
      (fun _ _ => True) w := by
  refine .bind (.mono ?_ hunder.keeps_executeDriverOnce)
  rintro ⟨v, out⟩ w1 hafter
  cases out with
  | ok output => exact keeps_complete hunder hafter
  | error f =>
    refine .bind (.mono ?_ (keeps_recordOutcome hunder hfits hafter))
    rintro r' w2 ⟨marks', hfailed⟩
    obtain ⟨hopen, hclosing⟩ := hfailed.closing hunder
    exact hfailure f r' marks' w2 hopen hclosing

/-- **The loop**: whatever comes of the attempts, they keep to the protocol. -/
theorem Underway.keeps_runInvocationAttempt (left : ℕ) :
    ∀ {r : Run} {prior : List Attempt} {last : Attempt} {marks : List Mark} {w : World},
      Underway barred i r.invocation r.attempt prior last marks w → Fits s r.invocation →
      Disciplined barred i (runInvocationAttempt s left r) (fun _ _ => True) w := by
  -- on the number of attempts left; an attempt that fails is closed, or the next one is under way
  induction left with
  | zero =>
    intro r prior last marks w hunder hfits
    unfold runInvocationAttempt
    refine hunder.keeps_attempt hfits ?_
    intro f r' marks' w' _ hclosing
    exact hclosing.keeps_settle
  | succ left ih =>
    intro r prior last marks w hunder hfits
    unfold runInvocationAttempt
    refine hunder.keeps_attempt hfits ?_
    intro f r' marks' w' hopen hclosing
    refine .bind (.mono ?_ (hclosing.keeps_tryRemoteRetry hopen))
    rintro ⟨retried, r''⟩ w'' h
    cases retried with
    | true =>
      obtain ⟨hfits', prior', last', hunder'⟩ := h
      exact ih hunder' hfits'
    | false =>
      obtain ⟨attempts', hclosing'⟩ := h
      exact hclosing'.keeps_settle

end AssistantRuntime.Capability

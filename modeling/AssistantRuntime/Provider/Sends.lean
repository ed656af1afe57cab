/-
**What a logical request sends, delivers and settles.**

A send takes a slot: a dispatch gives one, and so does a retry that is taken from the budget.  Every
loop of a request is followed with the slots in mind.  The retry loop leaves no slot unused when it
goes round, the loop over the providers opens one per provider, so there are never more sends than
providers and retries together.  A chunk is delivered with the number of the send it comes from, and
once one was delivered no round of the loop goes on to another provider.
-/

import AssistantRuntime.Provider.Fallback

namespace AssistantRuntime.Provider

open Concurrent List

/-! ### The account of the sends -/

/-- What is assumed of the environment: which answers can come, and whether the first read of a stream
takes its first step before the deadline. -/
class Environment where
  possible : (q : Question) → Answer q → Prop
  punctual : Prop

variable [Environment]

namespace Call

/-- **The account of the sends**: one for every dispatch and for every retry that was taken, each
before the deadline if the environment is punctual. -/
structure Tallied (c : Call) : Prop where
  used_le : c.retriesUsed ≤ c.maxRetries
  sends_le : c.sends.length ≤ c.dispatches + c.retriesUsed
  timely : Environment.punctual → ∀ s ∈ c.sends, s.startedAt < c.deadline

/-- There is a dispatch or a retry that nothing was sent for. -/
def Slot (c : Call) : Prop := c.sends.length < c.dispatches + c.retriesUsed

/-- Only the clock and the flags of the executor differ. -/
structure Same (c c' : Call) : Prop where
  deadline : c'.deadline = c.deadline
  maxRetries : c'.maxRetries = c.maxRetries
  retriesUsed : c'.retriesUsed = c.retriesUsed
  dispatches : c'.dispatches = c.dispatches
  stream : c'.stream = c.stream
  sends : c'.sends = c.sends
  delivered : c'.delivered = c.delivered
  settled : c'.settled = c.settled

theorem Same.tallied {c c' : Call} (h : Same c c') (hc : c.Tallied) : c'.Tallied := by
  refine ⟨?_, ?_, ?_⟩
  · rw [h.retriesUsed, h.maxRetries]
    exact hc.used_le
  · rw [h.sends, h.dispatches, h.retriesUsed]
    exact hc.sends_le
  · rw [h.sends, h.deadline]
    exact hc.timely

omit [Environment] in
theorem Same.slot {c c' : Call} (h : Same c c') (hc : c.Slot) : c'.Slot := by
  rw [Slot, h.sends, h.dispatches, h.retriesUsed]
  exact hc

end Call

/-! ### Programs that keep an invariant -/

variable {α β : Type} {I J : Call → Prop} {P : α → Call → Prop} {c : Call}

/-- The clock and the flags of the executor do not matter. -/
def Stable (I : Call → Prop) : Prop := ∀ c c', Call.Same c c' → I c → I c'

/-- **The call ends well**, whatever possible answers it gets: if it returns, the result satisfies
`post`, and if it raises, the exception satisfies `raises`. -/
abbrev Outcome (x : Flow α) (post : α → Call → Prop) (raises : Thrown → Call → Prop) (c : Call) :
    Prop :=
  wp Environment.possible 0 x post raises c

/-- **The program keeps the invariant**, however it ends; its result satisfies the postcondition, and
it does not run out of rounds. -/
def Runs (I : Call → Prop) (P : α → Call → Prop) (x : Flow α) (c : Call) : Prop :=
  Outcome x (fun a c' => I c' ∧ P a c') (fun e c' => I c' ∧ e ≠ .outOfRounds) c

namespace Runs

variable {x : Flow α} {P' : β → Call → Prop} {g : α → Flow β}

theorem bind (h : Runs I P x c) (hIJ : ∀ c, I c → J c)
    (hg : ∀ a c', I c' → P a c' → Runs J P' (g a) c') :
    Runs J P' (x >>= g) c := by
  refine wp.bind (.mono h (fun _ _ hr => hr) ?_) ?_
  · intro e c' he
    exact ⟨hIJ c' he.1, he.2⟩
  · intro a c' ha
    exact hg a c' ha.1 ha.2

/-- The rule for an invariant that does not change. -/
theorem then_ (h : Runs I P x c) (hg : ∀ a c', I c' → P a c' → Runs I P' (g a) c') :
    Runs I P' (x >>= g) c :=
  h.bind (fun _ hI => hI) hg

theorem mono {P' : α → Call → Prop} (h : Runs I P x c) (hIJ : ∀ c, I c → J c)
    (hpost : ∀ a c', I c' → P a c' → P' a c') : Runs J P' x c := by
  refine wp.mono h ?_ ?_
  · intro a c' ha
    exact ⟨hIJ c' ha.1, hpost a c' ha.1 ha.2⟩
  · intro e c' he
    exact ⟨hIJ c' he.1, he.2⟩

theorem pure {a : α} (hI : I c) (h : P a c) : Runs I P (Pure.pure a) c :=
  wp.pure ⟨hI, h⟩

variable {f : Fault}

theorem raise (hI : I c) : Runs I P (Provider.raise f) c :=
  .throw ⟨hI, by simp⟩

theorem throw {fromGuard : Bool} (hI : I c) :
    Runs I P (MonadExcept.throw (Thrown.fault f fromGuard) : Flow α) c :=
  wp.throw ⟨hI, by simp⟩

theorem attempted (h : Runs I P x c) :
    Runs I (fun r c' => (∀ a, r = .ok a → P a c') ∧ r ≠ .error .outOfRounds)
      (Concurrent.attempted x) c := by
  refine wp.mono (.attempted h) ?_ (fun _ _ he => he)
  intro r c' hr
  cases r with
  | ok a => exact ⟨hr.1, by rintro b ⟨⟩; exact hr.2, by simp⟩
  | error e => exact ⟨hr.1, by simp, by simpa using hr.2⟩

theorem getCall (hI : I c) : Runs I (fun d c' => d = c' ∧ c' = c) getCall c :=
  .perform ⟨hI, rfl, rfl⟩

theorem modifyCall {f : Call → Call} {P : Unit → Call → Prop} (hI : I (f c))
    (h : P () (f c)) : Runs I P (modifyCall f) c :=
  .perform ⟨hI, h⟩

theorem askFor {q : Question} (hI : I c) : Runs I (fun _ c' => c' = c) (askFor q) c :=
  .query fun _ _ => ⟨hI, rfl⟩

theorem whenever {b : Prop} [Decidable b] {x : Flow Unit}
    (hx : b → Runs I (fun _ _ => True) x c) (hc : I c) :
    Runs I (fun _ _ => True) (whenever b x) c := by
  unfold Provider.whenever
  split
  · next hb => exact hx hb
  · exact pure hc trivial

/-- After a check that raises, the condition is false and nothing has changed. -/
theorem checked {b : Prop} [Decidable b] (hc : I c) :
    Runs I (fun _ c' => c' = c ∧ ¬ b) (Provider.whenever b (Provider.raise f)) c := by
  unfold Provider.whenever
  split
  · exact raise hc
  · next hb => exact pure hc ⟨rfl, hb⟩

/-! ### What changes the clock and the flags only -/

section Quiet

variable (hI : Stable I)
include hI

theorem elapse {t : ℕ} (hc : I c) : Runs I (fun _ _ => True) (elapse t) c :=
  modifyCall (hI c _ ⟨rfl, rfl, rfl, rfl, rfl, rfl, rfl, rfl⟩ hc) trivial

theorem setFlags {f : ExecutorFlags → ExecutorFlags} (hc : I c) :
    Runs I (fun _ _ => True) (setFlags f) c :=
  modifyCall (hI c _ ⟨rfl, rfl, rfl, rfl, rfl, rfl, rfl, rfl⟩ hc) trivial

theorem awaited {w : Wait Fault α} (hc : I c) : Runs I (fun _ _ => True) (awaited w) c := by
  refine (elapse hI hc).then_ fun _ c' hc' _ => ?_
  cases w.2 with
  | ok a => exact pure hc' trivial
  | error f => exact raise hc'

theorem awaitedOutside {w : Wait Interruption α} (hc : I c) :
    Runs I (fun _ _ => True) (awaitedOutside w) c := by
  refine (elapse hI hc).then_ fun _ c' hc' _ => ?_
  cases w.2 with
  | ok a => exact pure hc' trivial
  | error e => exact raise hc'

omit hI in
theorem remainingOrRaise (hc : I c) :
    Runs I (fun remaining c' => c' = c ∧ c.now < c.deadline ∧ c.deadline = c.now + remaining)
      remainingOrRaise c := by
  refine (getCall hc).then_ ?_
  rintro d c' hc' ⟨rfl, rfl⟩
  split
  · exact raise hc'
  · exact pure hc' ⟨rfl, by omega, by omega⟩

theorem reportTo {provider : String} {s : Settlement} (hc : I c) :
    Runs I (fun _ _ => True) (reportTo provider s) c := by
  have hask : ∀ s, Runs I (fun _ _ => True)
      (do Provider.awaitedOutside (← Provider.askFor (.report provider s))) c := by
    intro s
    refine (askFor hc).then_ fun w c' hc' _ => ?_
    exact awaitedOutside hI hc'
  cases s with
  | nothing => exact pure hc trivial
  | release => exact (askFor hc).then_ fun _ c' hc' _ => pure hc' trivial
  | success => exact hask _
  | failure => exact hask _

/-- **The rule for operations under the deadline**: the operation starts in a state like this one, and
its result is kept or replaced by an exception. -/
theorem awaitWithProviderDeadline {operation : ℤ → Flow α} (hIJ : ∀ c, I c → J c)
    (hop : ∀ remaining c', I c' → Runs J P (operation remaining) c') (hc : I c) :
    Runs J P (awaitWithProviderDeadline operation) c := by
  refine (remainingOrRaise hc).bind hIJ ?_
  rintro remaining _ hc ⟨rfl, -⟩
  refine (askFor hc).bind hIJ ?_
  rintro ⟨waited, start⟩ _ hc rfl
  refine (elapse hI hc).bind hIJ fun _ c1 hc1 _ => ?_
  cases start with
  | timedOut => exact raise (hIJ c1 hc1)
  | callerCancelled => exact raise (hIJ c1 hc1)
  | started =>
    refine (attempted (hop remaining c1 hc1)).then_ ?_
    rintro r c2 hJ ⟨hok, hrounds⟩
    have hrest : Runs J P (do
        let _ ← Provider.remainingOrRaise
        returned r) c2 := by
      refine (remainingOrRaise hJ).then_ ?_
      rintro _ _ hJ ⟨rfl, -⟩
      refine .returned (fun a ha => ⟨hJ, hok a ha⟩) fun e he => ⟨hJ, ?_⟩
      rintro rfl
      exact hrounds he
    split
    · exact raise hJ
    · exact raise hJ
    · exact hrest

end Quiet

end Runs

/-! ### Attempts -/

/-- The state within a dispatch that began in `c₀`, when `used` retries were taken. -/
structure Since (c₀ : Call) (used : ℕ) (c : Call) : Prop where
  deadline : c.deadline = c₀.deadline
  maxRetries : c.maxRetries = c₀.maxRetries
  dispatches : c.dispatches = c₀.dispatches
  delivered : c.delivered = c₀.delivered
  settled : c.settled = c₀.settled
  retriesUsed : c.retriesUsed = used
  tallied : c.Tallied

/-- The same, with a slot for the next attempt. -/
def Ready (c₀ : Call) (used : ℕ) (c : Call) : Prop := Since c₀ used c ∧ c.Slot

variable {c0 : Call} {used : ℕ}

theorem stable_since : Stable (Since c0 used) := by
  intro c c' h hc
  exact ⟨h.deadline.trans hc.deadline, h.maxRetries.trans hc.maxRetries,
    h.dispatches.trans hc.dispatches, h.delivered.trans hc.delivered, h.settled.trans hc.settled,
    h.retriesUsed.trans hc.retriesUsed, h.tallied hc.tallied⟩

theorem stable_ready : Stable (Ready c0 used) :=
  fun c c' h hc => ⟨stable_since c c' h hc.1, h.slot hc.2⟩

theorem Ready.since (h : Ready c0 used c) : Since c0 used c := h.1

theorem Ready.sent (h : Ready c0 used c) (hnow : c.now < c.deadline) (provider : String) :
    Since c0 used { c with
      executor := { c.executor with providerAttempted := true }
      sends := c.sends ++ [⟨provider, c.now⟩] } := by
  obtain ⟨⟨hd, hm, hdis, hdel, hset, hused, htally⟩, hslot⟩ := h
  refine ⟨hd, hm, hdis, hdel, hset, hused, htally.used_le, ?_, ?_⟩
  · have hslot : c.sends.length < c.dispatches + c.retriesUsed := hslot
    simp only [length_append, length_singleton]
    omega
  · intro hpunctual s hs
    rcases mem_append.1 hs with hs | hs
    · exact htally.timely hpunctual s hs
    · rw [mem_singleton.1 hs]
      exact hnow

theorem runs_runRecoveryGuard (hI : Stable I) (hc : I c) :
    Runs I (fun _ _ => True) runRecoveryGuard c := by
  have hask : Runs I (fun _ _ => True) (do awaited (← askFor .recoveryGuard)) c :=
    (Runs.askFor hc).then_ fun w c' hc' _ => .awaited hI hc'
  refine hask.attempted.then_ ?_
  rintro r c' hc' ⟨-, hrounds⟩
  split
  · exact .pure hc' trivial
  · exact absurd rfl hrounds
  · split
    all_goals exact (Runs.setFlags hI hc').then_ fun _ c' hc' _ => .raise hc'

theorem runs_guardAttempt (hI : Stable I) (hc : I c) :
    Runs I (fun _ _ => True) guardAttempt c := by
  refine (runs_runRecoveryGuard hI hc).attempted.then_ ?_
  rintro r c' hc' ⟨-, hrounds⟩
  split
  · exact (Runs.remainingOrRaise hc').then_ fun _ c' hc' _ => .raise hc'
  · refine .returned (fun _ _ => ⟨hc', trivial⟩) fun e he => ⟨hc', ?_⟩
    rintro rfl
    exact hrounds he

variable {provider : String}

/-- **An attempt sends at most once**, and it has sent if it succeeds. -/
theorem runs_executionFunc {timeout : ℤ} {guarded : Bool} (hc : Ready c0 used c) :
    Runs (Since c0 used) (fun _ c' => c'.sends ≠ []) (executionFunc provider timeout guarded) c := by
  have hguard : ∀ c, Ready c0 used c →
      Runs (Ready c0 used) (fun _ _ => True) (whenever guarded guardAttempt) c :=
    fun c hc => .whenever (fun _ => runs_guardAttempt stable_ready hc) hc
  refine (Runs.remainingOrRaise hc).bind (fun _ => Ready.since) fun _ c1 hc1 _ => ?_
  refine (hguard c1 hc1).bind (fun _ => Ready.since) fun _ c2 hc2 _ => ?_
  refine (Runs.remainingOrRaise hc2).bind (fun _ => Ready.since) fun _ c3 hc3 _ => ?_
  refine .awaitWithProviderDeadline stable_ready (fun _ => Ready.since) ?_ hc3
  intro remaining c4 hc4
  refine (Runs.remainingOrRaise hc4).bind (fun _ => Ready.since) ?_
  rintro current _ hc5 ⟨rfl, hnow, -⟩
  -- the deadline was checked, and nothing waits between the check and the send
  refine (Runs.modifyCall (P := fun _ c' => c'.sends ≠ [])
    (hc5.sent hnow provider) (by simp)).then_ ?_
  intro _ c6 hc6 hsends
  refine (Runs.askFor hc6).then_ ?_
  rintro w _ hc6 rfl
  have hstable : Stable fun c' => Since c0 used c' ∧ c'.sends ≠ [] :=
    fun d d' h hd => ⟨stable_since d d' h hd.1, h.sends ▸ hd.2⟩
  refine (Runs.awaited hstable ⟨hc6, hsends⟩).mono (fun _ h => h.1) fun _ _ h _ => h.2

/-! ### Retries -/

/-- A retry that is taken opens a slot, and one that is not leaves everything as it was. -/
theorem runs_tryConsumeRetry (hc : Since c0 used c) :
    Outcome tryConsumeRetry
      (fun taken c' => if taken then Ready c0 (used + 1) c' else Since c0 used c')
      (fun e c' => Since c0 used c' ∧ e ≠ .outOfRounds) c := by
  refine .bind (P := fun d c' => d = c ∧ c' = c) (.perform ⟨rfl, rfl⟩) ?_
  rintro _ _ ⟨rfl, rfl⟩
  split
  · exact .pure hc
  · next hlt =>
      obtain ⟨hd, hm, hdis, hdel, hset, hused, htally⟩ := hc
      have hsends := htally.sends_le
      refine ⟨⟨hd, hm, hdis, hdel, hset, by rw [← hused], ?_, ?_, htally.timely⟩, ?_⟩
      · exact Nat.lt_of_not_le hlt
      · exact hsends.trans (by simp only; omega)
      · simp only [Call.Slot]
        omega

/-- **The retry loop**, on any attempt that uses one slot: every way out keeps the account, and the loop
does not run out of rounds. -/
theorem runs_applyBudgeted {f : Flow α}
    (hf : ∀ used c, Ready c0 used c → Runs (Since c0 used) P f c)
    (rounds index : ℕ) (hc : Ready c0 used c) (hrounds : c0.maxRetries < rounds + used) :
    Runs (fun c' => ∃ used', Since c0 used' c') P (applyBudgeted f rounds index) c := by
  induction rounds generalizing index used c with
  | zero =>
    -- the retries that were taken are within the budget
    have hle := hc.1.tallied.used_le
    rw [hc.1.retriesUsed, hc.1.maxRetries] at hle
    omega
  | succ rounds ih =>
    have hweak : ∀ {used c}, Since c0 used c → ∃ used', Since c0 used' c := fun h => ⟨_, h⟩
    refine (Runs.remainingOrRaise hc).bind (fun _ h => hweak h.1) ?_
    rintro _ _ hc ⟨rfl, -⟩
    refine (hf used _ hc).attempted.bind (fun _ => hweak) ?_
    rintro r c1 hc1 ⟨hok, hout⟩
    split
    · exact .pure (hweak hc1) (hok _ rfl)
    · exact absurd rfl hout
    next raw fromGuard =>
    split
    · exact .throw (hweak hc1)
    split
    · exact .raise (hweak hc1)
    refine (Runs.getCall hc1).bind (fun _ => hweak) ?_
    rintro _ _ hc1 ⟨rfl, rfl⟩
    split
    · exact .raise (hweak hc1)
    refine (Runs.askFor hc1).bind (fun _ => hweak) ?_
    rintro jitter _ hc1 rfl
    split
    · exact .raise (hweak hc1)
    refine (Runs.askFor hc1).bind (fun _ => hweak) ?_
    rintro w _ hc1 rfl
    refine (Runs.awaitedOutside stable_since hc1).bind (fun _ => hweak) fun _ c2 hc2 _ => ?_
    refine (Runs.remainingOrRaise hc2).bind (fun _ => hweak) ?_
    rintro _ _ hc2 ⟨rfl, -⟩
    refine wp.bind (.mono (runs_tryConsumeRetry hc2) (fun _ _ h => h) ?_) ?_
    · exact fun e c' he => ⟨hweak he.1, he.2⟩
    · intro taken c3 hc3
      cases taken with
      | true => exact ih (index + 1) hc3 (by omega)
      | false => exact Runs.raise (hweak hc3)

/-! ### The executor -/

/-- The state within a dispatch that began in `c₀`. -/
def Within (c₀ : Call) (c : Call) : Prop := ∃ used, Since c₀ used c

theorem stable_within : Stable (Within c0) :=
  fun c c' h ⟨used, hc⟩ => ⟨used, stable_since c c' h hc⟩

omit [Environment] in
theorem executeRaises_ne_outOfRounds (flags : ExecutorFlags) (f : Fault) :
    executeRaises flags f ≠ .outOfRounds := by
  cases f <;> simp only [executeRaises] <;> (try split) <;> simp

/-- **`execute` sends at most once for its dispatch and for every retry that it takes**, and it has
sent if it succeeds. -/
theorem runs_execute {timeout : ℤ} {guarded : Bool} (hc : Ready c0 used c) :
    Runs (Within c0) (fun _ c' => c'.sends ≠ []) (execute provider timeout guarded) c := by
  have hweak : ∀ c, Ready c0 used c → Within c0 c := fun _ h => ⟨used, h.1⟩
  have hbody : ∀ c, Ready c0 used c → Runs (Within c0) (fun _ c' => c'.sends ≠ [])
      (executeGuarded provider timeout guarded) c := by
    intro c hc
    refine (Runs.remainingOrRaise hc).bind hweak ?_
    rintro _ _ hc ⟨rfl, -⟩
    refine (Runs.askFor hc).bind hweak ?_
    rintro w _ hc rfl
    refine (Runs.awaitedOutside stable_ready hc).bind hweak fun admitted c1 hc1 _ => ?_
    cases admitted with
    | none => exact .raise (hweak c1 hc1)
    | some probe =>
      refine (Runs.setFlags stable_ready hc1).bind hweak fun _ c2 hc2 _ => ?_
      refine (Runs.getCall hc2).bind hweak ?_
      rintro c2 _ hc2 ⟨rfl, rfl⟩
      have hrounds : c0.maxRetries < c2.maxRetries + 1 + used := by
        rw [hc2.1.maxRetries]
        omega
      refine (runs_applyBudgeted (fun _ _ => runs_executionFunc) _ 0 hc2 hrounds).then_ ?_
      intro response c3 hc3 hsends
      have hstable : Stable fun c' => Within c0 c' ∧ c'.sends ≠ [] :=
        fun d d' h hd => ⟨stable_within d d' h hd.1, h.sends ▸ hd.2⟩
      refine (Runs.reportTo hstable ⟨hc3, hsends⟩).bind (fun _ h => h.1) fun _ c4 hc4 _ => ?_
      exact .pure hc4.1 hc4.2
  refine (Runs.setFlags stable_ready hc).bind hweak fun _ c1 hc1 _ => ?_
  refine (hbody c1 hc1).attempted.then_ ?_
  rintro r c2 hc2 ⟨hok, hout⟩
  split
  · exact .pure hc2 (hok _ rfl)
  · exact absurd rfl hout
  next f _ =>
  refine (Runs.getCall hc2).then_ ?_
  rintro _ _ hc2 ⟨rfl, rfl⟩
  refine (Runs.reportTo stable_within hc2).then_ fun _ c3 hc3 _ => ?_
  exact wp.throw ⟨hc3, executeRaises_ne_outOfRounds _ f⟩

/-! ### Settlement -/

/-- Some dimension of the usage is known. -/
def Known (usage : UserBudget.InferenceUsage) : Prop :=
  usage.inputTokens.isSome ∨ usage.outputTokens.isSome ∨ usage.totalTokens.isSome
    ∨ usage.computeUnits.isSome ∨ usage.costUsd.isSome

/-- At most `k` dispatches, on a budget of `m` retries and the deadline `d`. -/
structure Tracked (d : ℤ) (m k : ℕ) (c : Call) : Prop where
  deadline : c.deadline = d
  maxRetries : c.maxRetries = m
  dispatches_le : c.dispatches ≤ k
  tallied : c.Tallied

/-- **The account of a request**: all that was delivered comes from the last send, and known usage was
settled only if there was one send. -/
structure Accounted (d : ℤ) (m k : ℕ) (c : Call) : Prop extends Tracked d m k c where
  single : ∀ n ∈ c.delivered, n + 1 = c.sends.length
  exact_once : ∀ usage ∈ c.settled, Known usage → c.sends.length = 1

/-- The same, when nothing was delivered or settled yet. -/
structure Unanswered (d : ℤ) (m k : ℕ) (c : Call) : Prop extends Tracked d m k c where
  delivered : c.delivered = []
  settled : c.settled = []

variable {d : ℤ} {m k : ℕ}

/-- What the calls to the executor and the bookkeeping after them leave alone. -/
theorem Tracked.frame {c' : Call} (h : Tracked d m k c) (hdeadline : c'.deadline = c.deadline)
    (hmax : c'.maxRetries = c.maxRetries) (hused : c'.retriesUsed = c.retriesUsed)
    (hdispatches : c'.dispatches = c.dispatches) (hsends : c'.sends = c.sends) :
    Tracked d m k c' := by
  obtain ⟨hd, hm, hk, hle, hsent, htimely⟩ := h
  refine ⟨hdeadline.trans hd, hmax.trans hm, hdispatches ▸ hk, ?_, ?_, ?_⟩
  · rwa [hused, hmax]
  · rwa [hsends, hdispatches, hused]
  · rwa [hsends, hdeadline]

theorem stable_tracked : Stable (Tracked d m k) :=
  fun _ _ h hc => hc.frame h.deadline h.maxRetries h.retriesUsed h.dispatches h.sends

theorem Unanswered.accounted (h : Unanswered d m k c) : Accounted d m k c :=
  ⟨h.toTracked, by simp [h.delivered], by simp [h.settled]⟩

theorem Accounted.weaken {k' : ℕ} (h : Accounted d m k c) (hk : k ≤ k') : Accounted d m k' c :=
  { h with dispatches_le := h.dispatches_le.trans hk }

theorem stable_accounted : Stable (Accounted d m k) := by
  intro c c' h hc
  refine ⟨stable_tracked c c' h hc.toTracked, ?_, ?_⟩
  · rw [h.delivered, h.sends]
    exact hc.single
  · rw [h.settled, h.sends]
    exact hc.exact_once

theorem stable_unanswered : Stable (Unanswered d m k) := fun c c' h hc =>
  ⟨stable_tracked c c' h hc.toTracked, h.delivered.trans hc.delivered, h.settled.trans hc.settled⟩

/-- A dispatch that began without an answer ends without one. -/
theorem Within.unanswered (h : Within c0 c) (h0 : Unanswered d m k c0) : Unanswered d m k c := by
  obtain ⟨used, h⟩ := h
  exact ⟨⟨h.deadline.trans h0.deadline, h.maxRetries.trans h0.maxRetries,
    h.dispatches ▸ h0.dispatches_le, h.tallied⟩, h.delivered.trans h0.delivered,
    h.settled.trans h0.settled⟩

theorem Unanswered.dispatched (h : Unanswered d m k c) :
    Unanswered d m (k + 1) { c with dispatches := c.dispatches + 1 }
      ∧ Call.Slot { c with dispatches := c.dispatches + 1 } := by
  have hsends := h.tallied.sends_le
  refine ⟨⟨⟨h.deadline, h.maxRetries, Nat.succ_le_succ h.dispatches_le, ⟨h.tallied.used_le, ?_,
    h.tallied.timely⟩⟩, h.delivered, h.settled⟩, ?_⟩
  · simp only
    omega
  · simp only [Call.Slot]
    omega

/-- **Usage that is known is settled only if there was one dispatch and no retry**, so that there was
one send. -/
theorem Accounted.settle (h : Accounted d m k c) (hsettled : c.settled = []) (hsends : c.sends ≠ [])
    (usage : UserBudget.InferenceUsage) :
    Accounted d m k { c with settled := c.settled ++ [c.settlementUsage usage] } := by
  refine ⟨h.frame rfl rfl rfl rfl rfl, h.single, ?_⟩
  intro u hu hknown
  rw [hsettled, nil_append, mem_singleton] at hu
  subst hu
  unfold Call.settlementUsage at hknown
  split at hknown
  · simp [Known, unknownAmbiguousUsage] at hknown
  · next honce =>
      have hle := h.tallied.sends_le
      have hpos : 0 < c.sends.length := length_pos_iff.2 hsends
      simp only
      omega

/-- What is raised by code that knows nothing of providers. -/
def Thrown.Outside (e : Thrown) : Prop := ∃ i : Interruption, e = .fault i.fault false

theorem outcome_awaitedOutside {w : Wait Interruption α} (hI : Stable I) (hc : I c) :
    Outcome (awaitedOutside w) (fun _ c' => I c') (fun e c' => I c' ∧ e.Outside) c := by
  refine .bind (P := fun _ c' => I c')
    (.perform (hI c _ ⟨rfl, rfl, rfl, rfl, rfl, rfl, rfl, rfl⟩ hc)) fun _ c' hc' => ?_
  cases w.2 with
  | ok a => exact .pure hc'
  | error e => exact .throw ⟨hc', e, rfl⟩

theorem outcome_settle {usage : UserBudget.InferenceUsage} (hI : Stable I)
    (hc : I { c with settled := c.settled ++ [c.settlementUsage usage] }) :
    Outcome (settleInferenceQuotaSuccess usage) (fun _ => I) (fun e c' => I c' ∧ e.Outside) c := by
  refine .bind (P := fun d c' => c' = c ∧ d = c) (.perform ⟨rfl, rfl⟩) ?_
  rintro _ _ ⟨rfl, rfl⟩
  refine .bind (P := fun _ => I) (.perform hc) fun _ c' hc' => ?_
  refine .bind (.query fun _ _ => hc') ?_
  exact fun w c' hc' => outcome_awaitedOutside hI hc'

/-! ### The handler -/

theorem runs_probeCapability {capability : ModelCapability} (hI : Stable I)
    (hc : I c) : Runs I (fun _ _ => True) (probeCapability provider capability) c := by
  refine .awaitWithProviderDeadline hI (fun _ h => h) ?_ hc
  intro _ c' hc'
  exact (Runs.askFor hc').then_ fun _ c' hc' _ => .awaited hI hc'

variable {req : ChatRequest} {base : ModelCapability}

theorem runs_hasRequiredCapabilities (hI : Stable I) (hc : I c) :
    Runs I (fun _ _ => True) (hasRequiredCapabilities req provider base) c := by
  refine (runs_probeCapability hI hc).then_ fun answer c' hc' _ => ?_
  cases answer with
  | false => exact .pure hc' trivial
  | true =>
    change Runs I _ (if req.toolsPresent then _ else _) c'
    split
    · exact runs_probeCapability hI hc'
    · exact .pure hc' trivial

/-- What comes before the dispatch sends nothing, and the round starts with a clean slate. -/
theorem runs_prepareAttempt (hc : Unanswered d m k c) :
    Runs (Unanswered d m k) (fun _ c' => c'.stream = {}) (prepareAttempt req provider base) c := by
  have hstable : Stable fun c' => Unanswered d m k c' ∧ c'.stream = {} :=
    fun c1 c2 h hc => ⟨stable_unanswered c1 c2 h hc.1, h.stream.trans hc.2⟩
  have hclean : Runs (fun c' => Unanswered d m k c' ∧ c'.stream = {}) (fun _ _ => True)
      (prepareAttempt req provider base) c := by
    refine (Runs.modifyCall (P := fun _ _ => True)
      ⟨⟨hc.frame rfl rfl rfl rfl rfl, hc.delivered, hc.settled⟩, rfl⟩ trivial).then_
      fun _ c1 hc1 _ => ?_
    refine (runs_hasRequiredCapabilities hstable hc1).then_ fun capable c2 hc2 _ => ?_
    cases capable with
    | false => exact .pure hc2 trivial
    | true =>
      refine (Runs.modifyCall (P := fun _ _ => True)
        ⟨⟨hc2.1.frame rfl rfl rfl rfl rfl, hc2.1.delivered, hc2.1.settled⟩, hc2.2⟩ trivial).then_
        fun _ c3 hc3 _ => ?_
      refine (Runs.checked hc3).then_ fun _ c4 hc4 _ => ?_
      refine (Runs.whenever (fun _ => ?_) hc4).then_ fun _ c5 hc5 _ => .pure hc5 trivial
      refine .awaitWithProviderDeadline hstable (fun _ h => h) ?_ hc4
      intro _ c' hc'
      exact (Runs.askFor hc').then_ fun _ c' hc' _ => .awaited hstable hc'
  exact wp.mono hclean (fun _ _ h => ⟨h.1.1, h.1.2⟩) fun _ _ h => ⟨h.1.1, h.2⟩

variable {e : Thrown}

omit [Environment] in
theorem Thrown.Outside.ne_outOfRounds (h : e.Outside) : e ≠ .outOfRounds := by
  obtain ⟨i, rfl⟩ := h
  simp

omit [Environment] in
theorem Thrown.Outside.not_fallsBack (h : e.Outside) : ¬ FallsBack c e := by
  obtain ⟨i, rfl⟩ := h
  cases i <;> simp [FallsBack, Interruption.fault, Fault.IsProviderFailure]

/-- How a round ends that raises: if the next provider is tried, nothing was delivered or settled. -/
structure RoundRaises (falls : Call → Thrown → Prop) (d : ℤ) (m k : ℕ) (e : Thrown) (c : Call) :
    Prop where
  accounted : Accounted d m k c
  bounded : e ≠ .outOfRounds
  unanswered : falls c e → Unanswered d m k c

variable {falls : Call → Thrown → Prop}

theorem RoundRaises.of_unanswered (hc : Unanswered d m k c) (he : e ≠ .outOfRounds) :
    RoundRaises falls d m k e c :=
  ⟨hc.accounted, he, fun _ => hc⟩

theorem RoundRaises.of_outside (hc : Accounted d m k c) (he : e.Outside) (hfalls : ¬ falls c e) :
    RoundRaises falls d m k e c :=
  ⟨hc, he.ne_outOfRounds, fun h => absurd h hfalls⟩

theorem Unanswered.weaken {k' : ℕ} (h : Unanswered d m k c) (hk : k ≤ k') : Unanswered d m k' c :=
  { h with dispatches_le := h.dispatches_le.trans hk }

variable {cfg : HandlerSettings}

/-- How a round ends that returns: if it did not answer, the next provider is tried. -/
def RoundReturns (d : ℤ) (m k : ℕ) (answered : Bool) (c : Call) : Prop :=
  Accounted d m k c ∧ (answered = false → Unanswered d m k c)

/-- **One round** is one more dispatch at most, whatever it dispatches with. -/
theorem outcome_attemptRound {dispatch : Flow Unit}
    (hdispatch : ∀ c, Unanswered d m (k + 1) c → c.Slot → c.stream = {} →
      Outcome dispatch (fun _ => Accounted d m (k + 1)) (RoundRaises falls d m (k + 1)) c)
    (hc : Unanswered d m k c) :
    Outcome (attemptRound req base provider dispatch) (RoundReturns d m (k + 1))
      (RoundRaises falls d m (k + 1)) c := by
  refine .bind (.mono (runs_prepareAttempt hc) (fun _ _ h => h) ?_) ?_
  · exact fun e c' he => .of_unanswered (he.1.weaken k.le_succ) he.2
  rintro capable c1 ⟨hc1, hclean⟩
  cases capable with
  | false =>
    have hc1 := hc1.weaken k.le_succ
    exact .pure ⟨hc1.accounted, fun _ => hc1⟩
  | true =>
    obtain ⟨hdispatched, hslot⟩ := hc1.dispatched
    refine .bind (P := fun _ c' => Unanswered d m (k + 1) c' ∧ c'.Slot ∧ c'.stream = {})
      (.perform ⟨hdispatched, hslot, hclean⟩) ?_
    rintro _ c2 ⟨hc2, hslot2, hclean2⟩
    refine .bind (hdispatch c2 hc2 hslot2 hclean2) ?_
    exact fun _ c3 hc3 => .pure ⟨hc3, by simp⟩

theorem outcome_attemptProvider (hc : Unanswered d m k c) :
    Outcome (attemptProvider cfg req provider) (RoundReturns d m (k + 1))
      (RoundRaises FallsBack d m (k + 1)) c := by
  refine outcome_attemptRound (fun c2 hc2 hslot _ => ?_) hc
  have hready : Ready c2 c2.retriesUsed c2 := ⟨⟨rfl, rfl, rfl, rfl, rfl, rfl, hc2.tallied⟩, hslot⟩
  refine .bind (.mono (runs_execute hready) (fun _ _ h => h) ?_) ?_
  · exact fun e c' he => .of_unanswered (he.1.unanswered hc2) he.2
  rintro response c3 ⟨hc3, hsends⟩
  have hc3 := hc3.unanswered hc2
  have hsettle : Outcome
      (whenever cfg.quotaEnabled (settleInferenceQuotaSuccess response.usage))
      (fun _ => Accounted d m (k + 1)) (RoundRaises FallsBack d m (k + 1)) c3 := by
    unfold whenever
    split
    · have hsettled := hc3.accounted.settle hc3.settled hsends response.usage
      exact (outcome_settle stable_accounted hsettled).mono (fun _ _ h => h)
        fun _ _ h => .of_outside h.1 h.2 h.2.not_fallsBack
    · exact .pure hc3.accounted
  refine .bind hsettle fun _ c4 hc4 => ?_
  refine .bind (.query fun _ _ => hc4) ?_
  intro w c5 hc5
  exact (outcome_awaitedOutside stable_accounted hc5).mono (fun _ _ h => h)
    fun _ _ h => .of_outside h.1 h.2 h.2.not_fallsBack

omit [Environment] in
theorem terminalRaises_ne_outOfRounds (he : e ≠ .outOfRounds) :
    terminalRaises c e ≠ .outOfRounds := by
  cases e with
  | fault f fromGuard =>
    simp only [terminalRaises]
    split <;> simp
  | outOfRounds => exact absurd rfl he

/-- **The loop over the providers** makes one dispatch per provider at most. -/
theorem runs_tryEach [∀ c e, Decidable (falls c e)] {attempt : String → Flow Bool}
    {terminal : Call → Thrown → Thrown} {exhausted : Option Thrown → Fault}
    (hround : ∀ {k c} provider, Unanswered d m k c →
      Outcome (attempt provider) (RoundReturns d m (k + 1)) (RoundRaises falls d m (k + 1)) c)
    (hterminal : ∀ c e, e ≠ .outOfRounds → terminal c e ≠ .outOfRounds)
    (chain : List String) (last : Option Thrown) (hc : Unanswered d m k c) :
    Runs (Accounted d m (k + chain.length)) (fun _ _ => True)
      (tryEach attempt falls terminal exhausted chain last) c := by
  induction chain generalizing k c last with
  | nil =>
    refine (Runs.remainingOrRaise hc).bind (fun _ h => h.accounted) fun _ c' hc' _ => ?_
    exact .raise hc'.accounted
  | cons provider chain ih =>
    have hk : k + (provider :: chain).length = k + 1 + chain.length := by
      simp only [length_cons]
      omega
    rw [hk]
    have hle : k + 1 ≤ k + 1 + chain.length := Nat.le_add_right _ _
    refine wp.bind (.attempted (hround provider hc)) ?_
    rintro (e | answered) c1 hc1
    · refine .bind (P := fun d c' => d = c1 ∧ c' = c1) (.perform ⟨rfl, rfl⟩) ?_
      rintro _ _ ⟨rfl, rfl⟩
      split
      · next hfalls => exact ih (some e) (hc1.unanswered hfalls)
      · exact .throw ⟨hc1.accounted.weaken hle, hterminal _ _ hc1.bounded⟩
    · cases answered with
      | true => exact .pure ⟨hc1.1.weaken hle, trivial⟩
      | false => exact ih last (hc1.2 rfl)

end AssistantRuntime.Provider

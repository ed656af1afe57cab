/-
**Streams, and the whole of a logical request.**

A stream is opened by its first read, which is the only send of its round.  The handler marks the round
as started with the first chunk that the caller gets, and a round that is marked goes on to no other
provider: what the caller gets all comes from the last send of the request.

Main results:

* `outcome_readChunk`, `outcome_pullChunks` — the body and the loop that read a stream;
* `outcome_attemptStream` — one round of the loop over the providers;
* `logical_request_accounted` — **a logical request sends at most once per provider and retry,
  delivers chunks of one send only, and settles known usage only if it sent once**; it sends nothing
  after its deadline if the event loop comes to the first read of a stream in time;
* `stream_sent_late` — a stream that is sent after its deadline.
-/

import AssistantRuntime.Provider.Sends

namespace AssistantRuntime.Provider

open Concurrent List Option

section Account

variable [Environment] {c : Call} {d : ℤ} {m k : ℕ} {cfg : HandlerSettings} {req : ChatRequest}

/-! ### Reading a stream -/

/-- **The account while a stream is read**: nothing is settled, the stream comes from the last send, and
so does all that was delivered; what was delivered is marked. -/
structure Streaming (d : ℤ) (m k : ℕ) (c : Call) : Prop extends Tracked d m k c where
  settled : c.settled = []
  single : ∀ n ∈ c.delivered, n + 1 = c.sends.length
  marked : c.delivered ≠ [] → c.stream.streamStarted = true
  source : ∀ n ∈ c.stream.source, n + 1 = c.sends.length

theorem Streaming.accounted (h : Streaming d m k c) : Accounted d m k c :=
  ⟨h.toTracked, h.single, by simp [h.settled]⟩

theorem Streaming.unanswered (h : Streaming d m k c) (hstarted : c.stream.streamStarted = false) :
    Unanswered d m k c := by
  refine ⟨h.toTracked, ?_, h.settled⟩
  by_contra hdelivered
  simpa [hstarted] using h.marked hdelivered

theorem Unanswered.streaming (h : Unanswered d m k c) (hstream : c.stream = {}) :
    Streaming d m k c :=
  ⟨h.toTracked, h.settled, by simp [h.delivered], by simp [h.delivered], by simp [hstream]⟩

theorem stable_streaming : Stable (Streaming d m k) := by
  intro c c' h hc
  refine ⟨stable_tracked c c' h hc.toTracked, h.settled.trans hc.settled, ?_, ?_, ?_⟩
  · rw [h.delivered, h.sends]
    exact hc.single
  · rw [h.delivered, h.stream]
    exact hc.marked
  · rw [h.stream, h.sends]
    exact hc.source

theorem Streaming.deliver (h : Streaming d m k c) : Streaming d m k c.deliver := by
  refine ⟨h.frame rfl rfl rfl rfl rfl, h.settled, ?_, fun _ => rfl, h.source⟩
  intro n hn
  rcases mem_append.1 hn with hn | hn
  · exact h.single n hn
  · exact h.source n (mem_toList.1 hn)

theorem Streaming.observe (h : Streaming d m k c) {flags : StreamFlags}
    (hstarted : flags.streamStarted = c.stream.streamStarted)
    (hsource : flags.source = c.stream.source) : Streaming d m k { c with stream := flags } := by
  refine ⟨h.frame rfl rfl rfl rfl rfl, h.settled, h.single, ?_, ?_⟩
  · intro hdelivered
    rw [hstarted]
    exact h.marked hdelivered
  · intro n hn
    exact h.source n (hsource ▸ hn)

/-- **The body of the loop that reads the stream** delivers chunks of the stream, and raises nothing
that another provider is tried for. -/
theorem outcome_readChunk {P : Call → Prop} (hP : Stable P) (hdeliver : ∀ c, P c → P c.deliver)
    (hobserve : ∀ c flags, P c → flags.streamStarted = c.stream.streamStarted →
      flags.source = c.stream.source → P { c with stream := flags })
    (a : Arrival) (chunk : Chunk) (hc : P c) :
    Outcome (readChunk cfg a chunk) (fun _ c' => P c') (fun e c' => P c' ∧ e.Outside) c := by
  refine .bind (P := fun _ => P) (.perform (hobserve c _ hc rfl rfl)) ?_
  intro _ c1 hc1
  split
  · exact .throw ⟨hc1, _, rfl⟩
  · exact .pure hc1
  · refine .bind (P := fun _ => P) (.perform (hdeliver c1 hc1)) fun _ c2 hc2 => ?_
    refine .bind (P := fun _ => P)
      (.perform (hP c2 _ ⟨rfl, rfl, rfl, rfl, rfl, rfl, rfl, rfl⟩ hc2)) fun _ c3 hc3 => ?_
    split
    · exact .throw ⟨hc3, _, rfl⟩
    · exact .pure hc3

/-- The stream is open and its request was sent, or it is not and nothing was delivered. -/
def Reading (d : ℤ) (m k : ℕ) (opened : Bool) (c : Call) : Prop :=
  Streaming d m k c ∧ if opened then c.sends ≠ [] else c.Slot ∧ c.delivered = []

theorem stable_reading {opened : Bool} : Stable (Reading d m k opened) := by
  intro c c' h hc
  refine ⟨stable_streaming c c' h hc.1, ?_⟩
  cases opened with
  | true => exact h.sends ▸ hc.2
  | false => exact ⟨h.slot hc.2.1, h.delivered.trans hc.2.2⟩

/-- How a stream ends that the executor did not raise on. -/
def Ended (d : ℤ) (m k : ℕ) (outcome : StreamEnd) (c : Call) : Prop :=
  Streaming d m k c ∧ match outcome with
    | .finished => c.sends ≠ []
    | .readerRaised e => e.Outside

/-- How a stream ends that the executor raised on. -/
def Broken (d : ℤ) (m k : ℕ) (e : Thrown) (c : Call) : Prop := Streaming d m k c ∧ e ≠ .outOfRounds

theorem Runs.broken {α : Type} {x : Flow α} {post : α → Call → Prop} {opened : Bool}
    (h : Runs (Reading d m k opened) post x c) :
    Outcome x (fun a c' => Reading d m k opened c' ∧ post a c') (Broken d m k) c :=
  .mono h (fun _ _ h => h) fun _ _ h => ⟨h.1.1, h.2⟩

variable {provider : String}

/-- The event loop comes to the first read of a stream in the time that remains. -/
def InTime : (q : Question) → Answer q → Prop
  | .startRead remaining, (waited : ℕ) => 0 < remaining → waited < remaining
  | _, _ => True

section Punctual

variable (hloop : Environment.punctual → ∀ q a, Environment.possible q a → InTime q a)
include hloop

/-- **The first read sends the request**, before the deadline if the event loop is in time. -/
theorem runs_openStream {remaining : ℤ} (hc : Reading d m k false c) (hnow : c.now < c.deadline)
    (hremaining : c.deadline = c.now + remaining) :
    Runs (Reading d m k true) (fun _ _ => True) (openStream provider remaining) c := by
  obtain ⟨hs, hslot, hdelivered⟩ := hc
  refine wp.bind (x := askFor (.startRead remaining))
    (P := fun (waited : ℕ) c' => c' = c ∧ (Environment.punctual → waited < remaining))
    (.query fun waited h => ⟨rfl, fun hpunctual => hloop hpunctual _ waited h (by omega)⟩) ?_
  rintro waited _ ⟨rfl, hwaited⟩
  refine .bind (P := fun _ c' => c' = _) (.perform rfl) ?_
  rintro _ _ rfl
  refine .bind (P := fun d c' => d = _ ∧ c' = _) (.perform ⟨rfl, rfl⟩) ?_
  rintro _ _ ⟨rfl, rfl⟩
  refine .bind (P := fun _ c' => c' = _) (.perform rfl) ?_
  rintro _ _ rfl
  refine .perform ⟨⟨⟨⟨hs.deadline, hs.maxRetries, hs.dispatches_le, ⟨hs.tallied.used_le, ?_, ?_⟩⟩,
    hs.settled, ?_, ?_, ?_⟩, ?_⟩, trivial⟩
  · simp only [length_append, length_singleton]
    exact hslot
  · intro hpunctual s hsend
    rcases mem_append.1 hsend with hsend | hsend
    · exact hs.tallied.timely hpunctual s hsend
    · rw [mem_singleton.1 hsend]
      have hwaited := hwaited hpunctual
      simp only
      omega
  · simp [hdelivered]
  · exact hs.marked
  · simp
  · simp

theorem outcome_openOnce {remaining : ℤ} {opened : Bool} (hc : Reading d m k opened c)
    (hnow : c.now < c.deadline) (hremaining : c.deadline = c.now + remaining) :
    Outcome (whenever (¬ opened) (openStream provider remaining)) (fun _ => Reading d m k true)
      (Broken d m k) c := by
  cases opened with
  | true => exact .pure hc
  | false =>
    exact (runs_openStream hloop hc hnow hremaining).broken.mono (fun _ _ h => h.1) fun _ _ h => h

/-- **The loop that reads a stream** opens it once. -/
theorem outcome_pullChunks (script : List Arrival) (opened seen : Bool)
    (hc : Reading d m k opened c) :
    Outcome (pullChunks cfg provider (readChunk cfg) script opened seen)
      (Ended d m k) (Broken d m k) c := by
  induction script generalizing opened seen c with
  | nil => exact .pure ⟨hc.1, .baseException, rfl⟩
  | cons a rest ih =>
    have hraise : ∀ {f : Fault} {c'}, Reading d m k true c' →
        Outcome (raise f) (Ended d m k) (Broken d m k) c' :=
      fun h => .throw ⟨h.1, by simp⟩
    refine .bind (Runs.remainingOrRaise hc).broken ?_
    rintro _ _ ⟨-, rfl, hnow, hremaining⟩
    refine .bind (outcome_openOnce hloop hc hnow hremaining) fun _ c1 hc1 => ?_
    refine .bind (Runs.elapse stable_reading hc1).broken ?_
    rintro _ c2 ⟨hc2, -⟩
    split
    · exact .pure ⟨hc2.1, hc2.2⟩
    · exact hraise hc2
    · refine .bind (Runs.remainingOrRaise hc2).broken ?_
      rintro _ c3 ⟨hc3, -⟩
      split
      · split
        · exact hraise hc3
        · exact hraise hc3
      · split
        · exact hraise hc3
        · exact hraise hc3
    · next chunk _ =>
        refine .bind (Runs.remainingOrRaise hc2).broken ?_
        rintro _ c3 ⟨hc3, -⟩
        refine .bind (.attempted (outcome_readChunk stable_reading ?_ ?_ a chunk hc3)) ?_
        · exact fun c hc => ⟨hc.1.deliver, hc.2⟩
        · exact fun c flags hc hstarted hsource => ⟨hc.1.observe hstarted hsource, hc.2⟩
        rintro (e | ⟨⟩) c4 hc4
        · exact .pure ⟨hc4.1.1, hc4.2⟩
        · exact ih true _ hc4

/-- **The `try` block of `execute_stream`**. -/
theorem outcome_executeStreamGuarded (hc : Reading d m k false c) :
    Outcome (executeStreamGuarded cfg provider (readChunk cfg))
      (Ended d m k) (Broken d m k) c := by
  refine .bind (Runs.remainingOrRaise hc).broken ?_
  rintro _ _ ⟨hc, rfl, -⟩
  refine .bind (Runs.askFor hc).broken ?_
  rintro w _ ⟨hc, rfl⟩
  refine .bind (Runs.awaitedOutside stable_reading hc).broken ?_
  rintro admitted c1 ⟨hc1, -⟩
  cases admitted with
  | none => exact .throw ⟨hc1.1, by simp⟩
  | some probe =>
    refine .bind (Runs.remainingOrRaise hc1).broken ?_
    rintro remaining _ ⟨hc1, rfl, -⟩
    refine .bind (Runs.askFor hc1).broken ?_
    rintro script _ ⟨hc1, rfl⟩
    refine .bind (outcome_pullChunks hloop script false false hc1) ?_
    rintro (_ | e) c2 ⟨hc2, houtcome⟩
    · have hsent : Reading d m k true c2 := ⟨hc2, houtcome⟩
      refine .bind (Runs.reportTo stable_reading hsent).broken ?_
      exact fun _ c3 hc3 => .pure hc3.1
    · exact .pure ⟨hc2, houtcome⟩

/-- **`execute_stream` sends at most once.** -/
theorem outcome_executeStream (hc : Reading d m k false c) :
    Outcome (executeStream cfg provider (readChunk cfg))
      (Ended d m k) (Broken d m k) c := by
  refine .bind (Runs.setFlags stable_reading hc).broken ?_
  rintro _ c1 ⟨hc1, -⟩
  refine .bind (Runs.checked hc1).broken ?_
  rintro _ _ ⟨hc1, rfl, -⟩
  refine .bind (.attempted (outcome_executeStreamGuarded hloop hc1)) ?_
  rintro (e | outcome) c2 hc2
  · cases e with
    | outOfRounds => exact absurd rfl hc2.2
    | fault f fromGuard =>
      refine .bind (P := fun _ => Streaming d m k) (.perform hc2.1) ?_
      intro flags c3 hc3
      refine .bind (.mono (Runs.reportTo stable_streaming hc3) (fun _ _ h => h.1)
        fun _ _ h => h) fun _ c4 hc4 => ?_
      exact .throw ⟨hc4, by simp⟩
  · exact .pure hc2

end Punctual

/-! ### The loop over the providers -/

variable {e : Thrown}

omit [Environment] in
theorem Thrown.Outside.not_streamFallsBack (h : e.Outside) :
    ¬ StreamFallsBack c e := by
  obtain ⟨i, rfl⟩ := h
  cases i <;> simp [StreamFallsBack, Interruption.fault, Fault.IsProviderFailure]

omit [Environment] in
theorem StreamFallsBack.untouched (h : StreamFallsBack c e) :
    c.stream.streamStarted = false := by
  cases e with
  | fault f fromGuard => exact h.2.1
  | outOfRounds => exact absurd h id

theorem RoundRaises.of_streaming (hc : Streaming d m k c) (he : e ≠ .outOfRounds) :
    RoundRaises StreamFallsBack d m k e c :=
  ⟨hc.accounted, he, fun h => hc.unanswered h.untouched⟩

/-- What follows a stream that ended: the settlement, and the canonical chunk. -/
structure Answering (d : ℤ) (m k : ℕ) (c : Call) : Prop extends Accounted d m k c where
  source : ∀ n ∈ c.stream.source, n + 1 = c.sends.length

theorem stable_answering : Stable (Answering d m k) :=
  fun c c' h hc => ⟨stable_accounted c c' h hc.toAccounted, by
    rw [h.stream, h.sends]
    exact hc.source⟩

theorem Answering.deliver (h : Answering d m k c) : Answering d m k c.deliver := by
  refine ⟨⟨h.frame rfl rfl rfl rfl rfl, ?_, h.exact_once⟩, h.source⟩
  intro n hn
  rcases mem_append.1 hn with hn | hn
  · exact h.single n hn
  · exact h.source n (mem_toList.1 hn)

/-- After the end of the stream its usage is settled and the canonical chunk is delivered; nothing that
is raised there is a reason to try another provider. -/
theorem outcome_answerStream (hc : Streaming d m k c) (hsends : c.sends ≠ []) :
    Outcome (answerStream cfg) (fun _ => Accounted d m k) (RoundRaises StreamFallsBack d m k) c := by
  have houtside : ∀ {α : Type} {x : Flow α} {c},
      Outcome x (fun _ => Answering d m k) (fun e c' => Answering d m k c' ∧ e.Outside) c →
      Outcome x (fun _ => Answering d m k) (RoundRaises StreamFallsBack d m k) c :=
    fun h => h.mono (fun _ _ h => h) fun _ _ h =>
      .of_outside h.1.toAccounted h.2 h.2.not_streamFallsBack
  refine .bind (P := fun _ c' => c' = c) (.perform rfl) ?_
  rintro flags c0 rfl
  have hsettle : ∀ usage, Outcome (whenever cfg.quotaEnabled (settleInferenceQuotaSuccess usage))
      (fun _ => Answering d m k) (RoundRaises StreamFallsBack d m k) c0 := by
    intro usage
    unfold whenever
    split
    · refine houtside (outcome_settle stable_answering ⟨?_, hc.source⟩)
      exact hc.accounted.settle hc.settled hsends usage
    · exact .pure ⟨hc.accounted, hc.source⟩
  refine .bind (hsettle _) fun _ c1 hc1 => ?_
  refine .bind (.query fun _ _ => hc1) ?_
  intro w c2 hc2
  refine .bind (houtside (outcome_awaitedOutside stable_answering hc2)) ?_
  intro canonical c3 hc3
  unfold whenever
  split
  · refine .bind (P := fun _ => Answering d m k) (.perform hc3.deliver) ?_
    intro _ c4 hc4
    refine .bind (.query fun _ _ => hc4) ?_
    intro w c5 hc5
    exact (houtside (outcome_awaitedOutside stable_answering hc5)).mono
      (fun _ _ h => h.toAccounted) fun _ _ h => h
  · exact .pure hc3.toAccounted

theorem outcome_attemptStream
    (hloop : Environment.punctual → ∀ q a, Environment.possible q a → InTime q a)
    (hc : Unanswered d m k c) :
    Outcome (attemptStream cfg req provider) (RoundReturns d m (k + 1))
      (RoundRaises StreamFallsBack d m (k + 1)) c := by
  refine outcome_attemptRound (fun c2 hc2 hslot hclean => ?_) hc
  refine .bind (.mono (outcome_executeStream hloop
    ⟨hc2.streaming hclean, hslot, hc2.delivered⟩) (fun _ _ h => h) ?_) ?_
  · exact fun e c' he => .of_streaming he.1 he.2
  rintro (_ | e) c3 ⟨hc3, houtcome⟩
  · exact outcome_answerStream hc3 houtcome
  · exact .throw (.of_outside hc3.accounted houtcome houtcome.not_streamFallsBack)

omit [Environment] in
theorem streamTerminalRaises_ne_outOfRounds (he : e ≠ .outOfRounds) :
    streamTerminalRaises e ≠ .outOfRounds := by
  cases e with
  | fault f fromGuard =>
    simp only [streamTerminalRaises]
    split <;> simp
  | outOfRounds => exact absurd rfl he

/-! ### The request -/

/-- Nothing has happened yet. -/
structure Blank (c : Call) : Prop where
  retriesUsed : c.retriesUsed = 0
  dispatches : c.dispatches = 0
  sends : c.sends = []
  delivered : c.delivered = []
  settled : c.settled = []

omit [Environment] in
theorem stable_blank : Stable Blank := fun _ _ h hc =>
  ⟨h.retriesUsed.trans hc.retriesUsed, h.dispatches.trans hc.dispatches, h.sends.trans hc.sends,
    h.delivered.trans hc.delivered, h.settled.trans hc.settled⟩

/-- The account at the end of a request. -/
structure Settled (cfg : HandlerSettings) (req : ChatRequest) (c : Call) : Prop where
  sends_le : c.sends.length ≤ req.executionChain.length + cfg.maxRetries.toNat
  timely : Environment.punctual → ∀ s ∈ c.sends, s.startedAt < c.deadline
    ∧ ∀ callerDeadline ∈ req.callerDeadline, s.startedAt < callerDeadline
  single : ∀ n ∈ c.delivered, n + 1 = c.sends.length
  exact_once : ∀ usage ∈ c.settled, Known usage → c.sends.length = 1

theorem Blank.settled_ (h : Blank c) : Settled cfg req c :=
  ⟨by simp [h.sends], by simp [h.sends], by simp [h.delivered], by simp [h.settled]⟩

theorem Accounted.settled_ (h : Accounted d cfg.maxRetries.toNat k c)
    (hk : k ≤ req.executionChain.length)
    (hd : ∀ callerDeadline ∈ req.callerDeadline, d ≤ callerDeadline) : Settled cfg req c := by
  refine ⟨?_, ?_, h.single, h.exact_once⟩
  · have hsends := h.tallied.sends_le
    have hused := h.tallied.used_le
    have hdispatches := h.dispatches_le
    rw [h.maxRetries] at hused
    omega
  · intro hpunctual s hs
    have htimely := h.tallied.timely hpunctual s hs
    refine ⟨htimely, fun callerDeadline hcaller => ?_⟩
    rw [h.deadline] at htimely
    exact htimely.trans_le (hd callerDeadline hcaller)

/-- What is known of the budget once it is there. -/
def Budgeted (cfg : HandlerSettings) (req : ChatRequest) (c : Call) : Prop :=
  Unanswered c.deadline cfg.maxRetries.toNat 0 c
    ∧ ∀ callerDeadline ∈ req.callerDeadline, c.deadline ≤ callerDeadline

theorem stable_budgeted : Stable (Budgeted cfg req) := by
  intro c c' h hc
  rw [Budgeted, h.deadline]
  exact ⟨stable_unanswered c c' h hc.1, hc.2⟩

theorem Budgeted.settled_ (h : Budgeted cfg req c) : Settled cfg req c :=
  h.1.accounted.settled_ (Nat.zero_le _) h.2

theorem runs_newCallBudget (hc : Blank c) :
    Runs (Settled cfg req) (fun _ => Budgeted cfg req) (newCallBudget cfg req) c := by
  refine (Runs.checked hc).bind (fun _ => Blank.settled_) ?_
  rintro _ c1 hc1 ⟨rfl, -⟩
  refine (Runs.getCall hc1).bind (fun _ => Blank.settled_) ?_
  rintro _ c2 hc2 ⟨rfl, rfl⟩
  refine (Runs.checked hc2).bind (fun _ => Blank.settled_) ?_
  rintro _ c3 hc3 ⟨rfl, -⟩
  refine .mono (P := fun _ _ => True) (.modifyCall ⟨⟨⟨rfl, rfl, hc3.dispatches.le,
    ⟨Nat.zero_le _, ?_, ?_⟩⟩, hc3.delivered, hc3.settled⟩, ?_⟩ trivial)
    (fun _ => Budgeted.settled_) fun _ _ h _ => h
  · simp [hc3.sends]
  · simp [hc3.sends]
  · intro callerDeadline hcaller
    simp only [mem_def.1 hcaller]
    exact min_le_right _ _

/-- **What comes before the loops**: no more providers than the chain has, and nothing was sent. -/
theorem runs_openCall (hc : Blank c) : Runs (Settled cfg req)
    (fun chain c' => Budgeted cfg req c' ∧ chain.length ≤ req.executionChain.length)
    (openCall cfg req) c := by
  refine (Runs.checked hc).bind (fun _ => Blank.settled_) ?_
  rintro _ c1 hc1 ⟨rfl, -⟩
  have hreserve : Runs Blank (fun _ _ => True) (do awaited (← askFor .reserveQuota)) c1 :=
    (Runs.askFor hc1).then_ fun _ _ hc' _ => .awaited stable_blank hc'
  refine (Runs.whenever (fun _ => hreserve) hc1).bind (fun _ => Blank.settled_) fun _ c2 hc2 _ => ?_
  refine (runs_newCallBudget hc2).then_ fun _ c3 _ hc3 => ?_
  have hhealthy : Runs (Budgeted cfg req)
      (fun chain _ => chain.length ≤ req.executionChain.length)
      (healthyFallbackChain req.executionChain) c3 := by
    refine (Runs.askFor hc3).then_ ?_
    rintro w _ hc3 rfl
    refine (Runs.awaitedOutside stable_budgeted hc3).then_ fun results c4 hc4 _ => ?_
    refine .pure hc4 ?_
    rw [length_map]
    exact (length_filter_le _ _).trans (by simp)
  refine hhealthy.bind (fun _ => Budgeted.settled_) fun chain c4 hc4 hlength => ?_
  refine (Runs.checked hc4).bind (fun _ => Budgeted.settled_) fun _ c5 hc5 _ => ?_
  exact .pure hc5.settled_ ⟨hc5, hlength⟩

/-- The entry points of the handler. -/
inductive Mode
  | once
  | streaming

/-- `execute_with_fallback` and `stream_with_fallback`. -/
def handle (cfg : HandlerSettings) (req : ChatRequest) : Mode → Flow Unit
  | .once => executeWithFallback cfg req
  | .streaming => streamWithFallback cfg req

theorem runs_handle (cfg : HandlerSettings) (req : ChatRequest) (mode : Mode)
    (hloop : mode = .streaming → Environment.punctual →
      ∀ q a, Environment.possible q a → InTime q a) (hc : Blank c) :
    Runs (Settled cfg req) (fun _ _ => True) (handle cfg req mode) c := by
  cases mode with
  | once =>
    refine (runs_openCall hc).then_ fun chain c1 _ hc1 => ?_
    exact (runs_tryEach (fun _ => outcome_attemptProvider)
      (fun _ _ => terminalRaises_ne_outOfRounds) chain none hc1.1.1).mono
      (fun _ h => h.settled_ (by simpa using hc1.2) hc1.1.2) fun _ _ _ _ => trivial
  | streaming =>
    refine (runs_openCall hc).then_ fun chain c1 _ hc1 => ?_
    exact (runs_tryEach (fun _ => outcome_attemptStream (hloop rfl))
      (fun _ _ => streamTerminalRaises_ne_outOfRounds) chain none hc1.1.1).mono
      (fun _ h => h.settled_ (by simpa using hc1.2) hc1.1.2) fun _ _ _ _ => trivial

end Account

/-- **A logical request never mixes or over-sends.**  For every chain, settings, deadline and whatever
the environment answers, a request ends without running out of the bound on its retry loops; it has
sent at most as often as there are providers and retries; all chunks that the caller got come from one
send, the last one; and known usage was settled only if there was exactly one send.  Every send was
started before the deadline of its budget and that of its caller, for a stream if the event loop comes
to its first read in time. -/
theorem logical_request_accounted (cfg : HandlerSettings) (req : ChatRequest) (mode : Mode)
    (now : ℤ) (oracle : ℕ → (q : Question) → Answer q) :
    let (result, c) := (handle cfg req mode).run.exec 0 oracle 0 { now }
    result ≠ .error .outOfRounds
      ∧ c.sends.length ≤ req.executionChain.length + cfg.maxRetries.toNat
      ∧ ((mode = .streaming → ∀ n q, InTime q (oracle n q)) → ∀ s ∈ c.sends,
          s.startedAt < c.deadline ∧ ∀ callerDeadline ∈ req.callerDeadline,
            s.startedAt < callerDeadline)
      ∧ (∀ n ∈ c.delivered, n + 1 = c.sends.length)
      ∧ ∀ usage ∈ c.settled, Known usage → c.sends.length = 1 := by
  -- a request that reads no stream needs no punctual environment
  let punctual := mode = .streaming → ∀ n q, InTime q (oracle n q)
  let _ : Environment := ⟨fun q a => mode = .streaming → punctual → InTime q a, punctual⟩
  have hblank : Blank ({ now } : Call) := ⟨rfl, rfl, rfl, rfl, rfl⟩
  have houtcome : Outcome (handle cfg req mode) _ _ _ :=
    runs_handle cfg req mode (fun hmode hpunctual q a h => h hmode hpunctual) hblank
  have hend := Prog.wp_exec (fun n q hmode hpunctual => hpunctual hmode n q) houtcome 0
  generalize (handle cfg req mode).run.exec 0 oracle 0 { now } = r at hend ⊢
  obtain ⟨result, c⟩ := r
  obtain ⟨hsettled, hrounds⟩ : Settled cfg req c ∧ result ≠ .error .outOfRounds := by
    cases result with
    | ok _ => exact ⟨hend.1, by simp⟩
    | error e => exact ⟨hend.1, by simpa using hend.2⟩
  exact ⟨hrounds, hsettled.sends_le, hsettled.timely, hsettled.single, hsettled.exact_once⟩

/-- Providers that answer at once and end their streams, where the event loop comes to the first read
after a delay. -/
def readsAfter (delay : ℤ → ℕ) : ℕ → (q : Question) → Answer q
  | _, .health chain => (0, .ok (chain.map fun _ => true))
  | _, .startTask => (0, .started)
  | _, .probe _ _ => (0, .ok true)
  | _, .admission _ => (0, .ok (some false))
  | _, .chat _ _ => (0, .ok { usage := { normalizationIdentity := "" } })
  | _, .jitter => (0 : ℕ)
  | _, .chatStream _ _ => [{ waited := 0, event := .stop }]
  | _, .startRead remaining => delay remaining
  | _, .finalize => (0, .ok false)
  | _, .reserveQuota | _, .projectAssets _ | _, .recoveryGuard => (0, .ok ())
  | _, .sleep _ | _, .report _ _ | _, .settleQuota _ | _, .canonicalize | _, .takeCanonical =>
    (0, .ok ())

/-- A stream with ten units of time. -/
def streamAfter (delay : ℤ → ℕ) : Call :=
  ((handle { timeout := 10, maxRetries := 0, quotaEnabled := false } { executionChain := ["p"] }
    .streaming).run.exec 0 (readsAfter delay) 0 { now := 0 }).2

theorem stream_sent_in_time : let c := streamAfter fun remaining => (remaining - 1).toNat
    c.sends = [⟨"p", 9⟩] ∧ ∀ s ∈ c.sends, s.startedAt < c.deadline := by
  refine ⟨rfl, fun s hs => ?_⟩
  have h := logical_request_accounted { timeout := 10, maxRetries := 0, quotaEnabled := false }
    { executionChain := ["p"] } .streaming 0 (readsAfter fun remaining => (remaining - 1).toNat)
  refine (h.2.2.1 ?_ s hs).1
  rintro - n (_ | _)
  case startRead remaining =>
    intro hpos
    simp only [readsAfter]
    omega
  all_goals trivial

/-- **A stream is sent after its deadline** when the event loop is busy for that long. -/
theorem stream_sent_late : let c := streamAfter fun _ => 20
    c.sends = [⟨"p", 20⟩] ∧ c.deadline = 10 :=
  ⟨rfl, rfl⟩

end AssistantRuntime.Provider

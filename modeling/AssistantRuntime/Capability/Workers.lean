/-
**The workers of the capability runtime.**

A worker makes one call: it executes a capability, continues an invocation that waits for its
client, reconciles one with the client's record, or stores and loads what an agent keeps of its tool
calls.  Workers are started at any time and may stop between any two of their calls of the store.
-/

import AssistantRuntime.Capability.Attempts

namespace AssistantRuntime.Capability

open Concurrent Relational Table UserBudget

/-! ### Workers -/

def World.onLedger {ρ : Type} (f : Ledger → Except Raised (ρ × Ledger)) (_me : ℕ) (w : World) :
    Except Raised ρ × World :=
  match f w.ledger with
  | .error e => (.error e, w)
  | .ok (r, ledger) => (.ok r, { w with ledger })

/-- A worker makes one call, whatever comes of it. -/
def worker {α : Type} (p : Program α) : Prog World Query Query.Answer Unit :=
  p.run >>= fun _ => pure ()

/-- **The calls that workers make.** -/
inductive Entry (fingerprint : Fingerprint) : Prog World Query Query.Answer Unit → Prop
  | execute (c : Call) : Entry fingerprint (worker (executeCapability fingerprint c))
  | resume (c : Continuation) : Entry fingerprint (worker (continueInvocation fingerprint c))
  | reconcile (now : ℤ) (invocationId connectionId : String) :
      Entry fingerprint (worker (reconcile now invocationId connectionId))
  | saveToolCall (values : ToolCall) :
      Entry fingerprint (worker (performOrRaise (World.onLedger (·.saveToolCall values))))
  | saveToolResult (convert : Json → Option String) (values : ToolResultOf PyValue Json) :
      Entry fingerprint (worker (performOrRaise (World.onLedger (·.saveToolResult convert values))))
  | loadCommittedToolResult (convert : Json → Option String) (executionId toolCallId : String) :
      Entry fingerprint (worker (performOrRaise
        (World.onLedger (·.loadCommittedToolResult convert executionId toolCallId))))

variable {barred : Barred} {i : ℕ} {w w' : World} {v : Invocation} {a : Attempt}
  {fingerprint : Fingerprint}

/-! ### Reading and asking -/

theorem keeps_ask_quiet {q : Query} {post : q.Answer → World → Prop} (hq : q.drives = none)
    (h : ∀ answer w1, (discipline barred).rely i w w1 → post answer w1) :
    Disciplined barred i (ask q) post w := by
  refine .query fun w1 _ hrely => ⟨fun id hid => ?_, fun answer _ => h answer w1 hrely⟩
  cases hq.symm.trans hid

variable {ρ : Type}

theorem keeps_orCapabilityError {x : Except CapabilityError ρ} {post : ρ → World → Prop}
    (h : ∀ r, x = .ok r → post r w) :
    Disciplined barred i (orCapabilityError x) post w := by
  refine .decided fun r hr => h r ?_
  cases x with
  | ok r' => exact congrArg Except.ok (Except.ok.inj hr)
  | error e => cases hr

theorem keeps_ask_orCapabilityError {q : Query} {post : ρ → World → Prop}
    {g : q.Answer → Except CapabilityError ρ} (hq : q.drives = none)
    (h : ∀ answer w1, (discipline barred).rely i w w1 → post answer w1) :
    Disciplined barred i (ask q >>= fun answer => orCapabilityError (g answer)) post w :=
  .bind (keeps_ask_quiet hq fun _ w1 hrely => keeps_orCapabilityError fun r _ => h r w1 hrely)

/-- The attempts as somebody listed them: one that could be started is open. -/
theorem Seen.keeps_listAttempts (hseen : Seen v w) :
    Disciplined barred i (perform (World.listAttempts v.invocationId))
      (fun attempts w' => Seen v w' ∧
        ∀ a ∈ attempts, a.state = .dispatching → a.completedAt = none) w := by
  refine .perform fun w1 hinv hrely => ⟨guar_refl hinv,
    hseen.stable hrely, fun a ha hstate => ?_⟩
  obtain ⟨row, hrow, -⟩ := hseen.stable hrely
  have hmem : a ∈ (w1.view v.invocationId).attempts := List.mem_mergeSort.1 ha
  exact ((hinv v.invocationId).dispatching_of_startable hrow hmem hstate).2.2.2.2.2.1

/-! ### Quota -/

/-- The quota is finalized only of an invocation that is over. -/
theorem isTerminal_of_settlesQuota (hcommitted : v.remoteOutcome = some .terminalCommitted →
    v.state.isTerminal = true) (h : settlesQuota v = true) : v.state.isTerminal = true := by
  simp only [settlesQuota, Bool.or_eq_true, Bool.and_eq_true, decide_eq_true_eq] at h
  rcases h with (h | h) | ⟨h, -⟩
  · rw [h]
    rfl
  · exact hcommitted h
  · rw [h]
    rfl

variable {admission : Option ToolQuotaAdmission}

theorem Seen.keeps_finalize (hseen : Seen v w)
    (hcommitted : v.remoteOutcome = some .terminalCommitted → v.state.isTerminal = true) :
    Disciplined barred i (finalizeToolQuotaForInvocation admission (some v))
      (fun _ _ => True) w := by
  unfold finalizeToolQuotaForInvocation
  cases admission with
  | none => exact .pure trivial
  | some admission =>
    dsimp only
    split_ifs with hbridge hsettles hreleases
    · exact .pure trivial
    · exact hseen.keeps_quota (isTerminal_of_settlesQuota hcommitted hsettles) (.inl rfl)
    · simp only [releasesQuota, Bool.and_eq_true, decide_eq_true_eq] at hreleases
      exact hseen.keeps_quota hreleases.1.2 (.inr ⟨rfl, hreleases.2⟩)
    · exact .pure trivial

theorem keeps_finalizing {α : Type} {id : String} {run : Program α}
    (h : Disciplined barred i run (fun _ _ => True) w) :
    Disciplined barred i (finalizing admission id run) (fun _ _ => True) w := by
  refine .bind (.caught (.mono ?_ h))
  intro result w1 _
  refine .bind (.mono ?_ keeps_get)
  intro row w2 hrow
  have hlast : ∀ w3, Disciplined barred i (orRaise result) (fun _ _ => True) w3 :=
    fun w3 => .decided fun _ _ => trivial
  have hfinalized : Disciplined barred i (finalizeToolQuotaForInvocation admission row)
      (fun _ _ => True) w2 := by
    cases row with
    | none => cases admission <;> exact .pure trivial
    | some v =>
      obtain ⟨hseen, -, hcommitted⟩ := hrow v rfl
      exact hseen.keeps_finalize hcommitted
  exact .bind (.mono (fun _ w3 _ => hlast w3) hfinalized)

/-! ### `execute_capability` -/

theorem Call.candidate_isNew (c : Call) (owner : Option String) :
    Invocation.IsNew { c.candidate fingerprint with ownerUserId := owner } where
  state := rfl
  attempt := rfl
  revision := rfl
  outcome := by
    simp only [Invocation.isSettledOpen, Call.candidate]
    split <;> simp

theorem Call.fits (c : Call) (v : Invocation) : Fits c.settings v :=
  ⟨nofun, nofun⟩

theorem keeps_executeUnmetered (c : Call) :
    Disciplined barred i (executeUnmetered fingerprint c) (fun _ _ => True) w := by
  have hnew : (c.candidate fingerprint).IsNew := c.candidate_isNew (some c.userId)
  refine .bind (.mono ?_ hnew.keeps_create)
  intro _ w1 hseen
  refine .bind (.mono ?_ (hnew.keeps_startAttempt hseen rfl rfl))
  rintro a w2 ⟨hown, hnumber, hrunning, hunfinished, hhold2⟩
  refine .bind (.mono ?_ (hhold2.keeps_busy rfl (by constructor <;> rfl) rfl))
  rintro dispatching w3 ⟨rfl, -, hhold3⟩
  refine .bind (.mono ?_ (hhold3.keeps_busy rfl (.refl _) rfl))
  rintro running w4 ⟨rfl, hrecorded, hhold4⟩
  refine Underway.keeps_runInvocationAttempt _ (?_ : Underway barred i _ a [] a [] w4) (c.fits _)
  exact
    { history := ⟨rfl, by simp⟩
      attempt := le_rfl
      sameId := rfl
      number := rfl
      own := hown
      current := hnumber
      unfinished := hunfinished
      holding := hhold4
      state := rfl
      outcome := hnew.outcome
      ready := .inr (by simp)
      recorded := hrecorded }

theorem Invocation.IsNew.keeps_createOrAdopt (hnew : v.IsNew) :
    Disciplined barred i (createOrAdopt v) (fun u w' => Seen u w' ∧
      (u.remoteOutcome = some .terminalCommitted → u.state.isTerminal = true)) w := by
  refine .bind (.caught (.mono ?_ hnew.keeps_create))
  intro created w1 hcreated
  cases created with
  | ok _ => exact .pure ⟨hcreated () rfl, fun h => absurd h hnew.outcome.2⟩
  | error e =>
    refine .bind (.mono ?_ keeps_get)
    intro winner w2 hwinner
    cases winner with
    | none => exact .throw
    | some u =>
      obtain ⟨hseen, -, hcommitted⟩ := hwinner u rfl
      exact .bind (keeps_orCapabilityError fun _ _ => .pure ⟨hseen, hcommitted⟩)

theorem Seen.keeps_initialAttempt (c : Call) (hseen : Seen v w) :
    Disciplined barred i (initialAttempt c v)
      (fun started w' => ∃ prior last marks,
        Underway barred i started.1 started.2 prior last marks w') w := by
  have hstart : ∀ {u : Invocation} {a : Attempt} {w1 : World}, Seen u w1 → a.completedAt = none →
      Disciplined barred i (startInitialAttempt c.now u a)
        (fun started w' => ∃ prior last marks,
          Underway barred i started.1 started.2 prior last marks w') w1 := by
    intro u a w1 hseen1 hcompleted
    refine .mono ?_ (hseen1.keeps_startInitialAttempt hcompleted)
    rintro started w' ⟨prior, last, marks, -, hunder⟩
    exact ⟨prior, last, marks, hunder⟩
  unfold initialAttempt
  split_ifs
  · refine .bind (.mono ?_ hseen.keeps_beginInitialAttempt)
    rintro begun w1 ⟨hseen1, hcompleted⟩
    exact hstart hseen1 hcompleted
  · refine .bind (.mono ?_ hseen.keeps_listAttempts)
    rintro attempts w1 ⟨hseen1, hopen⟩
    cases hinitial : isInitialAttempt attempts with
    | none => exact .throw
    | some a =>
      have ha : a ∈ attempts ∧ a.state = .dispatching := by
        unfold isInitialAttempt at hinitial
        split at hinitial
        · split_ifs at hinitial with h
          cases hinitial
          exact ⟨List.mem_singleton_self _, h.2⟩
        · cases hinitial
      dsimp only
      split_ifs
      · exact hstart hseen1 (hopen a ha.1 ha.2)
      · exact .throw
  · exact .throw

theorem Invocation.IsNew.keeps_takeUp {existing : Option Invocation} (hnew : v.IsNew)
    (hexisting : ∀ u, existing = some u → Seen u w ∧
      (u.remoteOutcome = some .terminalCommitted → u.state.isTerminal = true)) :
    Disciplined barred i (takeUp v existing) (fun u w' => Seen u w' ∧
      (u.remoteOutcome = some .terminalCommitted → u.state.isTerminal = true)) w := by
  cases existing with
  | none => exact hnew.keeps_createOrAdopt
  | some u => exact .bind (keeps_orCapabilityError fun _ _ => .pure (hexisting u rfl))

/-- What the call finds out before it takes up the invocation changes nothing. -/
theorem keeps_preflight (c : Call) (candidate : Invocation) :
    Disciplined barred i (preflight c candidate) (fun _ _ => True) w := by
  refine .bind (.mono ?_ keeps_get)
  intro row w1 hrow
  cases row with
  | none => exact .pure trivial
  | some v =>
    obtain ⟨hseen, -, -⟩ := hrow v rfl
    refine .bind (.bind (keeps_orCapabilityError fun _ _ => ?_))
    split_ifs
    iterate 2
      refine .bind (.mono ?_ hseen.keeps_listAttempts)
      intro attempts w2 _
      split_ifs
      · exact .pure (.pure trivial)
      · exact .throw
    · exact .pure (.pure trivial)
    · exact .throw

theorem keeps_quotaAdmission (candidate : Invocation)
    (existing : Option (Invocation × ExistingMode)) :
    Disciplined barred i (quotaAdmission candidate existing) (fun _ _ => True) w := by
  cases existing with
  | none => exact keeps_ask_orCapabilityError rfl fun _ _ _ => trivial
  | some found =>
    obtain ⟨v, mode⟩ := found
    refine .bind (keeps_ask_quiet rfl fun answer w1 _ =>
      .bind (keeps_orCapabilityError fun authority _ => ?_))
    have hreserve : Disciplined barred i
        (do orCapabilityError (← ask (.reserve candidate))) (fun _ _ => True) w1 :=
      keeps_ask_orCapabilityError rfl fun _ _ _ => trivial
    cases authority with
    | none =>
      cases mode
      · exact hreserve
      · exact hreserve
      · exact .throw
    | some authority =>
      cases mode
      iterate 2
        dsimp only
        split_ifs
        · exact .throw
        · exact .pure trivial
      exact .pure trivial

theorem keeps_executeMetered (c : Call) :
    Disciplined barred i (executeMetered fingerprint c) (fun _ _ => True) w := by
  refine .bind (keeps_ask_quiet rfl fun answer w1 _ =>
    .bind (keeps_orCapabilityError fun owner _ => ?_))
  refine .bind (.mono ?_ (keeps_preflight c _))
  intro preexisting w2 _
  refine .bind (.mono ?_ (keeps_quotaAdmission _ preexisting))
  intro admission w3 _
  refine .bind (.mono ?_ keeps_get)
  intro existing w4 hexisting
  refine .bind (keeps_orCapabilityError fun _ _ => ?_)
  refine .bind (.mono ?_ ((c.candidate_isNew _).keeps_takeUp fun u hu =>
    ⟨(hexisting u hu).1, (hexisting u hu).2.2⟩))
  rintro v w5 ⟨hseen, hcommitted⟩
  split_ifs
  · refine .bind (.mono ?_ (hseen.keeps_finalize hcommitted))
    intro _ w6 _
    unfold replayedTerminalResult
    split_ifs
    · exact .pure trivial
    · dsimp only
      split <;> exact .throw
  · refine .bind (.mono ?_ (hseen.keeps_initialAttempt c))
    rintro ⟨v', a⟩ w6 ⟨prior, last, marks, hunder⟩
    exact keeps_finalizing (hunder.keeps_runInvocationAttempt _ (c.fits _))

theorem keeps_executeCapability (c : Call) :
    Disciplined barred i (executeCapability fingerprint c) (fun _ _ => True) w := by
  unfold executeCapability
  split_ifs
  · exact keeps_executeMetered c
  · exact keeps_executeUnmetered c

/-! ### `continue_invocation` -/

variable {c : Continuation}

theorem permits_of_validate (h : validateExistingContinuation fingerprint v c = .ok ()) :
    c.mode.permits v = true := by
  unfold validateExistingContinuation at h
  split_ifs at h with _ _ _ _ _ hpermits
  simpa using hpermits

theorem Continuation.fits {u : Invocation} (h : c.mode.permits v = true)
    (houtcome : u.remoteOutcome = v.remoteOutcome) : Fits c.settings u := by
  refine ⟨fun _ hnone => ?_, fun hmode hnd => ?_⟩
  · rw [houtcome] at hnone
    cases hm : c.mode <;> simp [hm, ContinuationMode.permits, hnone] at h
  · rw [houtcome] at hnd
    have hm : c.mode = .replaySafe := Option.some.inj hmode
    simp [hm, ContinuationMode.permits, hnd] at h

theorem keeps_recoverAdmission (c : Continuation) (hseen : Seen v w) :
    Disciplined barred i (recoverAdmission c v) (fun _ w' => Seen v w') w := by
  unfold recoverAdmission
  split_ifs
  · refine .bind (keeps_ask_quiet rfl fun answer w1 hrely =>
      .bind (keeps_orCapabilityError fun admission _ => ?_))
    cases admission with
    | none => exact .throw
    | some admission => exact .pure (hseen.stable hrely)
  · exact .pure hseen

theorem Seen.keeps_beginContinuation {implementation : Implementation} (hseen : Seen v w)
    (hpermits : c.mode.permits v = true) :
    Disciplined barred i (beginContinuation c v implementation)
      (fun begun w' => Seen begun.1 w' ∧ begun.1.remoteOutcome = v.remoteOutcome ∧
        begun.2.completedAt = none) w := by
  refine .bind (.caught (.mono ?_ (hseen.keeps_beginContinuationAttempt hpermits)))
  intro result w1 hresult
  cases result with
  | ok begun =>
    exact .pure (hresult begun rfl)
  | error e =>
    cases e with
    | runtimeError message => exact .bind (.mono (fun _ _ _ => .throw) keeps_get)
    | _ => exact .throw

theorem Seen.keeps_startContinuation (hseen : Seen v w) (hcompleted : a.completedAt = none) :
    Disciplined barred i (startContinuation c v a)
      (fun started w' => ∃ prior last marks, started.1.remoteOutcome = v.remoteOutcome ∧
        Underway barred i started.1 started.2 prior last marks w') w := by
  refine .bind (.caught (.mono ?_
    (hseen.keeps_startContinuationAttempt hcompleted)))
  intro result w1 hresult
  cases result with
  | ok started =>
    obtain ⟨prior, last, marks, hstarted, hunder⟩ := hresult started rfl
    have houtcome : started.1.remoteOutcome = v.remoteOutcome := by
      rw [hstarted]
      rfl
    exact .pure ⟨prior, last, marks, houtcome, hunder⟩
  | error e =>
    cases e with
    | runtimeError message => exact .throw
    | _ => exact .throw

theorem keeps_continueInvocation (c : Continuation) :
    Disciplined barred i (continueInvocation fingerprint c) (fun _ _ => True) w := by
  refine .bind (.mono ?_ keeps_get)
  intro row w1 hrow
  cases row with
  | none => exact .throw
  | some v =>
    obtain ⟨hseen, -, -⟩ := hrow v rfl
    refine .bind (keeps_orCapabilityError fun _ hvalid => ?_)
    have hpermits := permits_of_validate hvalid
    refine .bind (.mono ?_ hseen.keeps_listAttempts)
    rintro attempts w2 ⟨hseen2, -⟩
    refine .bind (keeps_orCapabilityError fun _ _ => ?_)
    refine .bind (.mono ?_ (keeps_recoverAdmission c hseen2))
    intro admission w3 hseen3
    refine .bind (keeps_ask_quiet rfl fun answer w4 hrely =>
      .bind (keeps_orCapabilityError fun implementation _ => ?_))
    have hseen4 := hseen3.stable hrely
    refine .bind (.mono ?_ (hseen4.keeps_beginContinuation hpermits))
    rintro ⟨begun, a⟩ w5 ⟨hseen5, hbegun, hcompleted⟩
    refine .bind (.mono ?_ (hseen5.keeps_startContinuation hcompleted))
    rintro ⟨started, a'⟩ w6 ⟨prior, last, marks, hstarted, hunder⟩
    exact keeps_finalizing (hunder.keeps_runInvocationAttempt _
      (Continuation.fits hpermits (hstarted.trans hbegun)))

/-! ### `reconcile` -/

theorem terminalChanges_isTerminal (type : TerminalType) (payload : JsonObject) :
    (terminalChanges type payload).1.isTerminal = true ∧
      (terminalChanges type payload).2.remoteOutcome = some .terminalCommitted := by
  cases type <;> exact ⟨rfl, rfl⟩

theorem Seen.keeps_commitTerminal {now : ℤ} {result : ReconciliationResult} (hseen : Seen v w) :
    Disciplined barred i (commitTerminal now v result) (fun _ _ => True) w := by
  unfold commitTerminal
  split_ifs with hstate
  · exact .throw
  · split
    · rename_i type payload _ _
      obtain ⟨hterminal, houtcome⟩ := terminalChanges_isTerminal type payload
      refine .bind (.mono ?_ (hseen.keeps_commit (by simpa using hstate) hterminal
        houtcome))
      exact fun _ _ _ => .pure trivial
    · exact .throw

theorem keeps_reconcile (now : ℤ) (invocationId connectionId : String) :
    Disciplined barred i (reconcile now invocationId connectionId) (fun _ _ => True) w := by
  refine .bind (.mono ?_ keeps_get)
  intro row w1 hrow
  cases row with
  | none => exact .throw
  | some v =>
    obtain ⟨hseen, -, -⟩ := hrow v rfl
    dsimp only
    cases localTerminal v with
    | some result => exact .pure trivial
    | none =>
      refine .bind (keeps_orCapabilityError fun _ _ => ?_)
      refine .bind (keeps_ask_quiet rfl fun answer w2 hrely =>
        .bind (.decided fun snapshot _ => ?_))
      refine .bind (keeps_orCapabilityError fun _ _ => ?_)
      refine .bind (keeps_ask_quiet rfl fun answer w3 hrely' =>
        .bind (.decided fun result _ => ?_))
      refine .bind (keeps_orCapabilityError fun _ _ => ?_)
      have hseen3 := (hseen.stable hrely).stable hrely'
      split_ifs
      · exact .throw
      · exact .bind (.mono (fun _ _ _ => .pure trivial)
          hseen3.keeps_commitTerminal)
      · exact .pure trivial

/-! ### Tool calls and results -/

/-- What is stored of tool calls and results says nothing about invocations. -/
theorem keeps_onLedger {f : Ledger → Except Raised (ρ × Ledger)}
    (hf : ∀ (w : World) r l', f w.ledger = .ok (r, l') →
      l'.invocations = w.ledger.invocations ∧ l'.attempts = w.ledger.attempts ∧
      Filed w { w with ledger := l' }) :
    Disciplined barred i (performOrRaise (World.onLedger f)) (fun _ _ => True) w := by
  refine .performOrRaise fun w1 hinv _ => ⟨?_, fun _ _ => trivial⟩
  unfold World.onLedger
  split
  · exact guar_refl hinv
  · rename_i r ledger hok
    obtain ⟨hinvocations, hattempts, hfiled⟩ := hf _ _ _ hok
    refine guar_of_same hinv (fun k => ?_) rfl hfiled
    simp only [World.view, Ledger.attemptsOf, hinvocations, hattempts]

variable {values resolved : ToolResultValues} {row : ToolResult} {convert : Json → Option String}

theorem authorized_of_resolve
    (h : resolveToolResult values (w.ledger.invocationOf values.invocationId) = .ok resolved)
    (hrow : toRow convert resolved = .ok row) (hcommitted : row.commitState = .committed) :
    Authorized w row := by
  obtain ⟨heq, hcontent⟩ := toRow_ok hrow
  rw [heq] at hcommitted
  cases hv : w.ledger.invocationOf values.invocationId with
  | none =>
    rw [hv] at h
    cases h
    refine .inl ?_
    rw [heq]
    by_contra hnot
    have hclaims : values.isPreDispatch = false := Bool.eq_false_iff.2 hnot
    simp [hclaims] at hcommitted
  | some v =>
    rw [hv] at h
    have hfind : w.ledger.invocations.find? values.invocationId = some v := by
      unfold Ledger.invocationOf at hv
      split_ifs at hv
      exact hv
    obtain ⟨_, -, h⟩ := except_bind_ok.1 h
    split at h
    · rename_i hnone
      cases h
      exact .inr ⟨v, by rw [heq]; exact hfind, .inl hnone⟩
    · rename_i hterminal
      cases h
      exact .inr ⟨v, by rw [heq]; exact hfind, .inr ⟨hterminal, hcontent.projected row⟩⟩
    · cases h
      cases hcommitted

theorem Filed.of_put {r existing : ToolResult} {key : String × String}
    (hexisting : w.ledger.toolResults.find? key = some existing) (hkey : r.key = key)
    (hopen : existing.commitState ≠ .committed)
    (hauthorized : r.commitState = .committed → Authorized w r) :
    Filed w { w with ledger := { w.ledger with toolResults := w.ledger.toolResults.put r } } := by
  refine ⟨fun key' r' hr' hcommitted => ?_, fun key' r' hr' hcommitted => ?_⟩
  · have hne : key' ≠ r.key := by
      rintro rfl
      rw [hkey] at hr'
      cases hexisting.symm.trans hr'
      exact hopen hcommitted
    rw [← hr']
    exact find?_put_of_ne hne
  · by_cases hkey' : key' = r.key
    · subst hkey'
      have hself : (w.ledger.toolResults.put r).find? r.key = some r :=
        find?_put_self (hkey ▸ hexisting)
      cases hself.symm.trans hr'
      exact .inr (hauthorized hcommitted)
    · refine .inl ?_
      rw [← hr']
      exact (find?_put_of_ne hkey').symm

theorem Filed.of_insert {r : ToolResult} {toolResults : ToolResults}
    (hnone : w.ledger.toolResults.find? r.key = none)
    (hinsert : w.ledger.toolResults.insert? r = some toolResults)
    (hauthorized : r.commitState = .committed → Authorized w r) :
    Filed w { w with ledger := { w.ledger with toolResults } } := by
  refine ⟨fun key r' hr' _ => ?_, fun key r' hr' hcommitted => ?_⟩
  · have hne : key ≠ r.key := by
      rintro rfl
      cases hnone.symm.trans hr'
    rwa [find?_insert? hinsert, if_neg hne]
  · rw [find?_insert? hinsert] at hr'
    split_ifs at hr'
    · cases hr'
      exact .inr (hauthorized hcommitted)
    · exact .inl hr'

theorem key_of_resolve {invocation : Option Invocation}
    (h : resolveToolResult values invocation = .ok resolved) : resolved.key = values.key := by
  cases invocation with
  | none =>
    cases h
    rfl
  | some v =>
    obtain ⟨_, -, h⟩ := except_bind_ok.1 h
    split at h <;> cases h <;> rfl

theorem Filed.of_saveToolResult {values : ToolResultOf PyValue Json} {l' : Ledger}
    (h : w.ledger.saveToolResult convert values = .ok (row, l')) :
    l'.invocations = w.ledger.invocations ∧ l'.attempts = w.ledger.attempts ∧
      Filed w { w with ledger := l' } := by
  obtain ⟨values, resolved, hresolved, hcase⟩ := Ledger.saveToolResult_cases h
  have hkey : toRow convert resolved = .ok row → row.key = values.key := by
    intro hrow
    rw [(toRow_ok hrow).1]
    exact key_of_resolve hresolved
  rcases hcase with ⟨hnone, hrow, toolResults, hinsert, rfl⟩ | ⟨existing, hexisting, hcase⟩
  · exact ⟨rfl, rfl, .of_insert (hkey hrow ▸ hnone) hinsert (authorized_of_resolve hresolved hrow)⟩
  · rcases hcase with ⟨-, -, -, rfl⟩ | ⟨hopen, -, hrow, rfl⟩ | ⟨-, -, -, rfl⟩
    · exact ⟨rfl, rfl, .of_same rfl⟩
    · exact ⟨rfl, rfl,
        .of_put hexisting (hkey hrow) hopen (authorized_of_resolve hresolved hrow)⟩
    · exact ⟨rfl, rfl, .of_same rfl⟩

theorem Filed.of_loadCommittedToolResult {executionId toolCallId : String} {r : Option ToolResult}
    {l' : Ledger}
    (h : w.ledger.loadCommittedToolResult convert executionId toolCallId = .ok (r, l')) :
    l'.invocations = w.ledger.invocations ∧ l'.attempts = w.ledger.attempts ∧
      Filed w { w with ledger := l' } := by
  rcases Ledger.loadCommittedToolResult_cases h with
    ⟨rfl, -⟩ | ⟨record, v, row, hrecord, hopen, hv, hterminal, hrow, -, rfl⟩
  · exact ⟨rfl, rfl, .of_same rfl⟩
  · obtain ⟨heq, hcontent⟩ := toRow_ok hrow
    have hkey : row.key = record.key := by rw [heq]; rfl
    refine ⟨rfl, rfl, .of_put hrecord (hkey.trans (key_of_find? hrecord)) hopen fun _ => ?_⟩
    exact .inr ⟨v, by rw [heq]; exact hv, .inr ⟨hterminal, hcontent.projected row⟩⟩

/-! ### All workers -/

/-- **Every worker keeps to the protocol.** -/
theorem Entry.safe {p : Prog World Query Query.Answer Unit} (h : Entry fingerprint p) (i : ℕ)
    (w : World) : Safe (discipline barred) (Permitted barred) i p (fun _ _ => True) w := by
  cases h with
  | execute c => exact Keeps.discard (keeps_executeCapability c)
  | resume c => exact Keeps.discard (keeps_continueInvocation c)
  | reconcile now id connectionId => exact Keeps.discard (keeps_reconcile now id connectionId)
  | saveToolCall values =>
    refine Keeps.discard (keeps_onLedger fun w r l' hok => ?_)
    rcases Ledger.saveToolCall_cases hok with rfl | ⟨_, rfl⟩
    · exact ⟨rfl, rfl, .of_same rfl⟩
    · exact ⟨rfl, rfl, .of_same rfl⟩
  | saveToolResult convert values =>
    exact Keeps.discard (keeps_onLedger fun _ _ _ hok => Filed.of_saveToolResult hok)
  | loadCommittedToolResult convert executionId toolCallId =>
    exact Keeps.discard (keeps_onLedger fun _ _ _ hok => Filed.of_loadCommittedToolResult hok)

/-- A store of invocations and the workers on it. -/
abbrev Runtime := System World Query Query.Answer

def Runtime.empty : Runtime := System.start {}

/-- The runs of the workers, whatever the environment answers. -/
abbrev Runs (fingerprint : Fingerprint) : Runtime → Runtime → Prop :=
  System.Reaches (fun _ _ _ => True) (Entry fingerprint)

/-- The runs in which a server driver is started only under an outcome that is not barred. -/
abbrev RunsUnder (fingerprint : Fingerprint) (barred : Barred) : Runtime → Runtime → Prop :=
  System.Reaches (Permitted barred) (Entry fingerprint)

variable {S S' : Runtime}

/-- If nothing is barred, every answer is permitted. -/
theorem Runs.unbarred (h : Runs fingerprint S S') : RunsUnder fingerprint (fun _ => False) S S' := by
  refine System.Reaches.mono (fun q answer w _ => ?_) h
  unfold Permitted
  split
  · exact fun _ _ _ _ _ hbarred => hbarred
  · trivial

/-- **Every reachable system keeps to the protocol.** -/
theorem RunsUnder.holds (h : RunsUnder fingerprint barred .empty S) :
    (discipline barred).Holds (Permitted barred) S := by
  refine (Protocol.Holds.start ?_ ?_).reaches (fun p hp i w _ _ => hp.safe i w) h
  · exact fun id => ⟨fun _ => ⟨rfl, rfl, rfl⟩, fun _ h => (nomatch h), fun _ h => (nomatch h),
      fun _ h => (nomatch h)⟩
  · exact nofun

/-- How rows change along a run. -/
theorem RunsUnder.progress (hS : RunsUnder fingerprint barred .empty S)
    (h : RunsUnder fingerprint barred S S') (id : String) :
    Progress (S.store.ledger.invocations.find? id) (S'.store.ledger.invocations.find? id) := by
  refine hS.holds.relates (R := fun w w' => Progress (w.view id).row (w'.view id).row)
    ?_ ?_ ?_ (fun p hp i w _ _ => hp.safe i w) h
  · exact fun w => .refl _
  · exact fun w1 w2 w3 h h' => Progress.trans h h'
  · exact fun i w w' _ hguar => (hguar.2.1 id).progress

end AssistantRuntime.Capability

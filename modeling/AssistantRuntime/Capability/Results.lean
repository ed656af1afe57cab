/-
**Final results of tool calls.**

What an agent stores of a tool call becomes final once, and stays.  It is entitled to that in one of
three ways: the caller says that nothing was dispatched, the invocation has no remote side effect, or
the invocation is final itself and the result carries its data.  Whether an invocation has a remote
side effect at all is decided when it is created, so a result never becomes final too early, unless
the caller was wrong about the dispatch.

An invocation that was completed by a server driver under a record of a dispatch keeps that record,
and its result never becomes final.

Main results:

* `Runs.final_results_stay` — what is final stays, and agrees with the invocation as far as its
  columns can hold that;
* `final_against_invocation` — a caller's word that nothing was dispatched is not checked against a
  later dispatch;
* `RunsUnder.completed_is_final` — the result of a completed invocation becomes final, if server
  drivers are started only without a record of a dispatch and both stores write the same output;
* `completed_stays_provisional` — without that condition it does not.
-/

import AssistantRuntime.Capability.Ownership

namespace AssistantRuntime.Capability

open Concurrent Relational Table List Option

variable {fingerprint : Fingerprint} {barred : Barred} {S S' : Runtime} {w w' : World}
  {id : String} {v : Invocation} {r : ToolResult} {convert : Json → Option String}

/-! ### Final results -/

/-- What entitles a result stays: an invocation that is final does not change. -/
theorem Authorized.stable (h : Authorized w r) (hinv : (discipline barred).inv w)
    (hprogress : ∀ id, Progress (w.view id).row (w'.view id).row) : Authorized w' r := by
  rcases h with hclaim | ⟨v, hv, hcase⟩
  · exact .inl hclaim
  · obtain ⟨v', hv', -, -, hnull, hsame⟩ := hprogress r.invocationId v hv
    refine .inr ⟨v', hv', ?_⟩
    rcases hcase with hnone | ⟨hterminal, hcontent⟩
    · exact .inl (hnull.2 hnone)
    · have hover := ((hinv r.invocationId).recorded v hv).committed hterminal
      rw [hsame hover]
      exact .inr ⟨hterminal, hcontent⟩

/-- Every result that is final is entitled to it. -/
def ResultsAuthorized (w : World) : Prop :=
  ∀ key r, w.ledger.toolResults.find? key = some r → r.commitState = .committed → Authorized w r

/-- How results change along a run. -/
structure ResultsKept (w w' : World) : Prop where
  kept : ∀ key r, w.ledger.toolResults.find? key = some r → r.commitState = .committed →
    w'.ledger.toolResults.find? key = some r
  authorized : ResultsAuthorized w → ResultsAuthorized w'

theorem resultsKept_of_guar {i : ℕ} (hinv : (discipline barred).inv w)
    (hguar : (discipline barred).guar i w w') : ResultsKept w w' := by
  obtain ⟨-, hrespects, hfiled⟩ := hguar
  refine ⟨hfiled.kept, fun h key r hr hcommitted => ?_⟩
  rcases hfiled.entitled key r hr hcommitted with hold | hnew
  · exact (h key r hold hcommitted).stable hinv fun id => (hrespects id).progress
  · exact hnew

theorem RunsUnder.resultsKept (hS : RunsUnder fingerprint barred .empty S)
    (h : RunsUnder fingerprint barred S S') : ResultsKept S.store S'.store := by
  refine hS.holds.relates ?_ ?_ ?_ (fun p hp i w _ _ => hp.safe i w) h
  · exact fun w => ⟨fun _ _ hr _ => hr, fun h => h⟩
  · exact fun w1 w2 w3 h h' => ⟨fun key r hr hc => h'.kept key r (h.kept key r hr hc) hc,
      fun ha => h'.authorized (h.authorized ha)⟩
  · exact fun i w w' hinv hguar => resultsKept_of_guar hinv hguar

/-- **What is final stays**, and unless the caller said that nothing was dispatched, it carries the
data of the invocation wherever that ever had a remote side effect: the code and the message of its
error only where they are a text or null, which is what their columns hold. -/
theorem Runs.final_results_stay (hS : Runs fingerprint .empty S) (h : Runs fingerprint S S') :
    (∀ key r, S.store.ledger.toolResults.find? key = some r → r.commitState = .committed →
      S'.store.ledger.toolResults.find? key = some r) ∧
    ∀ id v key r, S.store.ledger.invocations.find? id = some v → v.remoteOutcome ≠ none →
      S'.store.ledger.toolResults.find? key = some r → r.commitState = .committed →
      r.invocationId = id → r.isPreDispatch = false →
      ∃ v', S'.store.ledger.invocations.find? id = some v' ∧
        v'.remoteOutcome = some .terminalCommitted ∧ r.SameContent (terminalProjection r v') := by
  have hunder := Runs.unbarred hS
  have hrun := Runs.unbarred h
  refine ⟨(hunder.resultsKept hrun).kept, ?_⟩
  rintro id v key r hv hremote hr hcommitted rfl hclaim
  obtain ⟨v', hv', -, -, hnull, -⟩ := hunder.progress hrun r.invocationId v hv
  have hauthorized := (RunsUnder.resultsKept .refl (hunder.trans hrun)).authorized nofun
    key r hr hcommitted
  rcases hauthorized with hclaim' | ⟨v'', hv'', hcase⟩
  · rw [hclaim] at hclaim'
    cases hclaim'
  · cases mem_unique hv' hv''
    rcases hcase with hnone | ⟨hterminal, hcontent⟩
    · exact absurd (hnull.1 hnone) hremote
    · exact ⟨v', hv', hterminal, hcontent⟩

def notesFound : Except { f : Failure // f.afterSend = true } Json := .ok (.str "notes")

def transportResult (success : Bool) (metadata : JsonObject) : ToolResultOf PyValue Json where
  executionId := "execution"
  iterationId := "iteration"
  toolCallId := "call"
  invocationId := "invocation"
  capabilityId := "notes"
  success := success
  output := Json.null.toPy
  errorCode := .null
  errorMessage := .null
  retryable := false
  extraMetadata := metadata
  attempt := 1
  commitState := .provisional

/-- A driver of the database that converts nothing. -/
def noConversion : Json → Option String := fun _ => none

/-- The store after the worker `i` saved a result, if nobody else works. -/
def World.afterSave (w : World) (i : ℕ) (values : ToolResultOf PyValue Json) : World :=
  ((worker (performOrRaise (World.onLedger (·.saveToolResult noConversion values)))).exec i
    (Scene.answers {}) 0 w).2

theorem Runs.afterSave (S : Runtime) (values : ToolResultOf PyValue Json) :
    ∃ S', Runs fingerprint S S' ∧ S'.store = S.store.afterSave S.next values ∧
      S'.next = S.next + 1 :=
  System.reaches_spawn_exec (fun _ _ _ => trivial) (.saveToolResult noConversion values) S

/-- The client reports, and its caller saves something else: what the client reported becomes
final. -/
theorem final_result_of_client : ∃ S' : Runtime, ∃ v' r,
    S'.store.ledger.toolResults.find? ("execution", "call") = some r ∧
      r.commitState = .committed ∧ S'.store.ledger.invocations.find? "invocation" = some v' ∧
      v'.remoteOutcome = some .terminalCommitted ∧ r.SameContent (terminalProjection r v') := by
  obtain ⟨S, hrun, hstore, hnext⟩ := Scene.runs { response := notesFound } clientToolCall .empty
  obtain ⟨S', hrun', hstore', -⟩ := Runs.afterSave S (transportResult false [])
  rw [hnext, hstore] at hstore'
  have hresult : (S'.store.ledger.toolResults.find? ("execution", "call")).map
      (fun r => (r.commitState, r.invocationId, r.isPreDispatch)) =
        some (.committed, "invocation", false) := by
    rw [hstore']
    decide +kernel
  have hrow : (S.store.ledger.invocations.find? "invocation").map (·.remoteOutcome) =
      some (some .terminalCommitted) := by
    rw [hstore]
    decide +kernel
  obtain ⟨r, hr, hfields⟩ := map_eq_some_iff.1 hresult
  obtain ⟨v, hv, hremote⟩ := map_eq_some_iff.1 hrow
  obtain ⟨hcommitted, hid, hclaim⟩ : r.commitState = .committed ∧
      r.invocationId = "invocation" ∧ r.isPreDispatch = false := by simpa using hfields
  obtain ⟨v', hv', hterminal, hcontent⟩ := (Runs.final_results_stay hrun hrun').2 "invocation" v _ r
    hv (by simp [hremote]) hr hcommitted hid hclaim
  exact ⟨S', v', r, hr, hcommitted, hv', hterminal, hcontent⟩

/-- A caller that says that nothing was dispatched. -/
def preDispatch : JsonObject := [("r7_commit_authority", .str "AGENT_PRE_DISPATCH")]

/-- **A final result against its invocation**: the caller says that nothing was dispatched, before the
invocation exists, and then the call is made. -/
theorem final_against_invocation : ∃ S, Runs onlyFingerprint .empty S ∧ ∃ v r,
    S.store.ledger.invocations.find? "invocation" = some v ∧
      v.remoteOutcome = some .terminalCommitted ∧
      S.store.ledger.toolResults.find? ("execution", "call") = some r ∧
      r.commitState = .committed ∧ r.invocationId = "invocation" ∧
      ¬r.SameContent (terminalProjection r v) := by
  obtain ⟨S, hrun, hstore, hnext⟩ := Runs.afterSave .empty (transportResult false preDispatch)
  obtain ⟨S', hrun', hstore', -⟩ := Scene.runs { response := notesFound } clientToolCall S
  rw [hnext, hstore] at hstore'
  have hresult : (S'.store.ledger.toolResults.find? ("execution", "call")).map
      (fun r => (r.commitState, r.invocationId, r.success)) =
        some (.committed, "invocation", false) := by
    rw [hstore']
    decide +kernel
  have hrow : (S'.store.ledger.invocations.find? "invocation").map
      (fun v => (v.state, v.remoteOutcome)) = some (.completed, some .terminalCommitted) := by
    rw [hstore']
    decide +kernel
  obtain ⟨r, hr, hfields⟩ := map_eq_some_iff.1 hresult
  obtain ⟨v, hv, hfields'⟩ := map_eq_some_iff.1 hrow
  obtain ⟨hcommitted, hid, hfailed⟩ : r.commitState = .committed ∧
      r.invocationId = "invocation" ∧ r.success = false := by simpa using hfields
  obtain ⟨hstate, hterminal⟩ : v.state = .completed ∧
      v.remoteOutcome = some .terminalCommitted := by simpa using hfields'
  refine ⟨S', hrun.trans hrun', v, r, hv, hterminal, hr, hcommitted, hid, fun hsame => ?_⟩
  have hsuccess := hsame.success
  simp [terminalProjection, hstate, hfailed] at hsuccess

/-! ### Results of completed invocations -/

/-- What an agent saves of an invocation that was completed. -/
structure ToolResultOf.Reports (values : ToolResultOf PyValue Json) (v : Invocation) : Prop where
  invocationId : values.invocationId = v.invocationId
  capabilityId : values.capabilityId = v.capabilityId
  executionId : ∀ e, v.executionId = some e → values.executionId = e
  toolCallId : ∀ c, v.toolCallId = some c → values.toolCallId = c
  success : values.success = true
  output : values.output.encoded = v.output
  /-- `error_code` is `str | None`. -/
  errorCode : values.errorCode.asText?.isSome
  errorMessage : values.errorMessage.asText?.isSome

/-- `to_json_safe` accepts what is saved, and makes of the output what the invocation store wrote. -/
structure ToolResultOf.Storable (values : ToolResultOf PyValue Json) : Prop where
  output : values.output.safe = some values.output.encoded
  extraMetadata : (Json.toJsonSafe (.obj values.extraMetadata)).isSome

/-- The values with the output that the invocation has. -/
def ToolResultOf.toldBy (values : ToolResultOf PyValue Json) (v : Invocation) : ToolResultValues :=
  { values with output := v.output }

theorem requireFields_eq_ok {what : String} {fields : List (String × Bool)} :
    requireFields what fields = .ok () ↔ ∀ x ∈ fields, x.2 = true := by
  unfold requireFields
  cases hfind : fields.find? (!·.2) with
  | none => simpa using hfind
  | some x =>
    have hx := find?_some hfind
    have hmem := mem_of_find?_eq_some hfind
    simp only [reduceCtorEq, false_iff, not_forall]
    exact ⟨x, hmem, by simpa using hx⟩

variable {values : ToolResultOf PyValue Json}

theorem ToolResultOf.Storable.normalize (hsafe : values.Storable) (h : values.Reports v) :
    normalizeJsonFields values = .ok (values.toldBy v) := by
  obtain ⟨metadata, hmetadata⟩ := isSome_iff_exists.1 hsafe.extraMetadata
  simp only [normalizeJsonFields, hsafe.output, hmetadata, ToolResultOf.toldBy, ← h.output]

theorem ToolResultOf.Reports.identity (h : values.Reports v) :
    validateToolResultInvocationIdentity (values.toldBy v) v = .ok () := by
  unfold validateToolResultInvocationIdentity
  rw [requireFields_eq_ok]
  have hexecution : v.executionId.all (values.executionId = ·) = true := by
    cases he : v.executionId with
    | none => rfl
    | some e => simpa using h.executionId e he
  have hcall : v.toolCallId.all (values.toolCallId = ·) = true := by
    cases hc : v.toolCallId with
    | none => rfl
    | some c => simpa using h.toolCallId c hc
  simp [ToolResultOf.toldBy, h.invocationId, h.capabilityId, hexecution, hcall]

/-- What is resolved of a report is final, says what the invocation says, and can be written. -/
theorem ToolResultOf.Reports.resolve (h : values.Reports v) (convert : Json → Option String)
    (hcompleted : v.state = .completed)
    (houtcome : v.remoteOutcome = none ∨ v.remoteOutcome = some .terminalCommitted) :
    ∃ resolved row, resolveToolResult (values.toldBy v) (some v) = .ok resolved ∧
      validateExistingToolResultIdentity values resolved = .ok () ∧
      resolved.commitState = .committed ∧ toRow convert resolved = .ok row ∧
      row.key = values.key ∧ row.commitState = .committed ∧ row.success = true ∧
      row.output = v.output := by
  obtain ⟨resolved, hresolved, hsame, hkey, hcommitted, hsuccess, houtput, hcode, hmessage⟩ :
      ∃ resolved, resolveToolResult (values.toldBy v) (some v) = .ok resolved ∧
        validateExistingToolResultIdentity values resolved = .ok () ∧ resolved.key = values.key ∧
        resolved.commitState = .committed ∧ resolved.success = true ∧ resolved.output = v.output ∧
        resolved.errorCode.asText?.isSome ∧ resolved.errorMessage.asText?.isSome := by
    simp only [resolveToolResult, h.identity]
    rcases houtcome with hnone | hterminal
    · rw [hnone]
      refine ⟨_, rfl, ?_, rfl, rfl, h.success, rfl, h.errorCode, h.errorMessage⟩
      simp [validateExistingToolResultIdentity, requireFields_eq_ok, ToolResultOf.toldBy]
    · rw [hterminal]
      refine ⟨_, rfl, ?_, rfl, rfl, ?_, rfl, ?_, ?_⟩
      · simp [validateExistingToolResultIdentity, requireFields_eq_ok, terminalProjection,
          ToolResultOf.toldBy]
      all_goals simp [terminalProjection, hcompleted, Json.asText?]
  obtain ⟨row, hrow⟩ := toRow_of_texts convert hcode hmessage
  obtain ⟨heq, hcontent⟩ := toRow_ok hrow
  refine ⟨resolved, row, hresolved, hsame, hcommitted, hrow, ?_, ?_,
    hcontent.success.trans hsuccess, hcontent.output.trans houtput⟩
  · rw [heq]
    exact hkey
  · rw [heq]
    exact hcommitted

/-- The same call, of the same iteration and invocation. -/
theorem validateExistingToolResultIdentity_trans {ω τ ω' τ' ω'' τ'' : Type} {a : ToolResultOf ω τ}
    {b : ToolResultOf ω' τ'} {c : ToolResultOf ω'' τ''}
    (h : validateExistingToolResultIdentity a b = .ok ())
    (h' : validateExistingToolResultIdentity b c = .ok ()) :
    validateExistingToolResultIdentity a c = .ok () := by
  simp only [validateExistingToolResultIdentity, requireFields_eq_ok, mem_cons,
    not_mem_nil, or_false, forall_eq_or_imp, forall_eq, decide_eq_true_eq] at h h' ⊢
  obtain ⟨h1, h2, h3, h4, h5⟩ := h
  obtain ⟨h1', h2', h3', h4', h5'⟩ := h'
  exact ⟨h1'.trans h1, h2'.trans h2, h3'.trans h3, h4'.trans h4, h5'.trans h5⟩

/-- A completed invocation has no remote side effect, or one that is final. -/
theorem RunsUnder.completed_outcome (h : RunsUnder fingerprint (fun _ => True) .empty S)
    (hv : S.store.ledger.invocations.find? id = some v) (hcompleted : v.state = .completed) :
    v.remoteOutcome = none ∨ v.remoteOutcome = some .terminalCommitted := by
  have hrecorded := (h.holds.inv id).recorded v hv
  cases ho : v.remoteOutcome with
  | none => exact .inl rfl
  | some o =>
    rcases hrecorded.completed hcompleted o ho with rfl | hbarred
    · exact .inr rfl
    · exact absurd trivial hbarred

/-- A report is saved as final, and found so. -/
theorem ToolResultOf.Reports.saves {l : Ledger} (h : values.Reports v) (hid : v.invocationId ≠ "")
    (hv : l.invocations.find? v.invocationId = some v) (hcompleted : v.state = .completed)
    (houtcome : v.remoteOutcome = none ∨ v.remoteOutcome = some .terminalCommitted)
    (hsafe : values.Storable)
    (hopen : ∀ existing, l.toolResults.find? values.key = some existing →
      existing.commitState ≠ .committed ∧
        validateExistingToolResultIdentity existing values = .ok ()) :
    ∃ r l', l.saveToolResult convert values = .ok (r, l') ∧ r.commitState = .committed ∧
      r.success = true ∧ r.output = v.output ∧
      l'.loadCommittedToolResult convert values.executionId values.toolCallId =
        .ok (some r, l') := by
  obtain ⟨resolved, row, hresolved, hsame, hcommitted, hrow, hkey, hfinal, hsuccess, houtput⟩ :=
    h.resolve convert hcompleted houtcome
  have hnormalize := hsafe.normalize h
  have hinvocation : l.invocationOf (values.toldBy v).invocationId = some v := by
    change l.invocationOf values.invocationId = some v
    rw [Ledger.invocationOf, h.invocationId, if_neg hid, hv]
  -- what is stored now is what the next load finds
  have hload : ∀ l' : Ledger, l'.toolResults.find? values.key = some row →
      l'.loadCommittedToolResult convert values.executionId values.toolCallId =
        .ok (some row, l') := by
    intro l' hl'
    have hl' : l'.toolResults.find? (values.executionId, values.toolCallId) = some row := hl'
    simp only [Ledger.loadCommittedToolResult, hl', hfinal, if_true]
  refine ⟨row, ?_⟩
  cases hexisting : l.toolResults.find? values.key with
  | none =>
    have hexisting' : l.toolResults.find? (values.toldBy v).key = none := hexisting
    obtain ⟨toolResults, hinsert⟩ := insert?_isSome (hkey ▸ hexisting)
    refine ⟨{ l with toolResults }, ?_, hfinal, hsuccess, houtput, hload _ ?_⟩
    · simp only [Ledger.saveToolResult, hnormalize, hinvocation, hresolved, hexisting', hrow, hinsert,
        bind, Except.bind]
    · dsimp only
      rw [find?_insert? hinsert, if_pos hkey.symm]
  | some existing =>
    have hexisting' : l.toolResults.find? (values.toldBy v).key = some existing := hexisting
    obtain ⟨hprovisional, hidentity⟩ := hopen existing hexisting
    have hidentity' := validateExistingToolResultIdentity_trans hidentity hsame
    refine ⟨{ l with toolResults := l.toolResults.put row }, ?_,
      hfinal, hsuccess, houtput, hload _ ?_⟩
    · simp only [Ledger.saveToolResult, hnormalize, hinvocation, hresolved, hexisting', hidentity',
        hprovisional, hcommitted, hrow, bind, Except.bind, if_true, if_false]
    · have hself := find?_put_self (hkey ▸ hexisting)
      exact hkey ▸ hself

/-- A result that is not final yet becomes so when it is loaded, once its invocation is completed. -/
theorem loads_of_terminalCommitted {l : Ledger} {executionId toolCallId : String}
    (hr : l.toolResults.find? (executionId, toolCallId) = some r)
    (hopen : r.commitState ≠ .committed) (hv : l.invocations.find? r.invocationId = some v)
    (hterminal : v.remoteOutcome = some .terminalCommitted) (hcompleted : v.state = .completed)
    (hidentity : validateToolResultInvocationIdentity r v = .ok ())
    (houtput : v.output.toJsonSafe.isSome)
    (hmetadata : (Json.toJsonSafe (.obj (terminalProjection r v).extraMetadata)).isSome) :
    ∃ row l', l.loadCommittedToolResult convert executionId toolCallId = .ok (some row, l') ∧
      row.commitState = .committed ∧ row.success = true ∧ row.output = v.output := by
  obtain ⟨output, houtput⟩ := isSome_iff_exists.1 houtput
  obtain ⟨metadata, hmetadata⟩ := isSome_iff_exists.1 hmetadata
  have hsafe : normalizeJsonFields { terminalProjection r v with
      output := (terminalProjection r v).output.toPy } = .ok (terminalProjection r v) := by
    have houtput' : (terminalProjection r v).output.toPy.safe = some v.output :=
      houtput.trans (congrArg some (Json.toJsonSafe_eq_some houtput))
    simp only [normalizeJsonFields, houtput', hmetadata]
    rfl
  obtain ⟨row, hrow⟩ : ∃ row, toRow convert (terminalProjection r v) = .ok row :=
    toRow_of_texts _ (by simp [terminalProjection, hcompleted, Json.asText?])
      (by simp [terminalProjection, hcompleted, Json.asText?])
  obtain ⟨heq, hcontent⟩ := toRow_ok hrow
  refine ⟨row, { l with toolResults := l.toolResults.put row }, ?_, ?_, ?_, hcontent.output⟩
  · simp only [Ledger.loadCommittedToolResult, hr, hopen, hv, hidentity, hterminal, hsafe, hrow,
      bind, Except.bind, if_true, if_false]
  · rw [heq]
    rfl
  · rw [hcontent.success]
    simp [terminalProjection, hcompleted]

/-- **The result of a completed invocation becomes final**, with its output, if server drivers are
started only where no dispatch is on record: when it is saved, and when one that was saved before is
loaded.  What is saved has to be accepted by `to_json_safe`, which is narrower than the encoder of the
invocation store. -/
theorem RunsUnder.completed_is_final (h : RunsUnder fingerprint (fun _ => True) .empty S)
    (hid : id ≠ "") (hv : S.store.ledger.invocations.find? id = some v)
    (hcompleted : v.state = .completed) (convert : Json → Option String) :
    (∀ values : ToolResultOf PyValue Json, values.Reports v → values.Storable →
      (∀ existing, S.store.ledger.toolResults.find? values.key = some existing →
        existing.commitState ≠ .committed ∧
          validateExistingToolResultIdentity existing values = .ok ()) →
      ∃ r l', S.store.ledger.saveToolResult convert values = .ok (r, l') ∧
        r.commitState = .committed ∧ r.success = true ∧ r.output = v.output ∧
        l'.loadCommittedToolResult convert values.executionId values.toolCallId =
          .ok (some r, l')) ∧
    ∀ executionId toolCallId record, v.remoteOutcome ≠ none →
      S.store.ledger.toolResults.find? (executionId, toolCallId) = some record →
      record.invocationId = id → record.commitState ≠ .committed →
      validateToolResultInvocationIdentity record v = .ok () → v.output.toJsonSafe.isSome →
      (Json.toJsonSafe (.obj (terminalProjection record v).extraMetadata)).isSome →
      ∃ r l', S.store.ledger.loadCommittedToolResult convert executionId toolCallId =
          .ok (some r, l') ∧
        r.commitState = .committed ∧ r.success = true ∧ r.output = v.output := by
  have houtcome := h.completed_outcome hv hcompleted
  have hkey : v.invocationId = id := key_of_find? hv
  refine ⟨fun values hreports hsafe hopen => ?_, ?_⟩
  · exact hreports.saves (hkey ▸ hid) (hkey ▸ hv) hcompleted houtcome hsafe hopen
  · rintro executionId toolCallId record hremote hrecord rfl hopen hidentity houtput hmetadata
    exact loads_of_terminalCommitted hrecord hopen hv (houtcome.resolve_left hremote) hcompleted
      hidentity houtput hmetadata

def notesResult : ToolResultOf PyValue Json :=
  { transportResult true [] with output := (Json.str "notes").toPy }

/-- The invocation of the client's tool delivered, and says so of its side effect. -/
def Invocation.deliveredNotes (outcome : RemoteOutcome) (v : Invocation) : Bool :=
  v.state = .completed && v.remoteOutcome = some outcome && v.invocationId = "invocation" &&
    v.capabilityId = "notes" && v.executionId = some "execution" &&
    v.toolCallId = some "call" && v.output = .str "notes"

theorem Invocation.deliveredNotes.reports {outcome : RemoteOutcome}
    (h : v.deliveredNotes outcome = true) : v.state = .completed ∧
      v.remoteOutcome = some outcome ∧ v.output = .str "notes" ∧ notesResult.Reports v := by
  simp only [Invocation.deliveredNotes, Bool.and_eq_true, decide_eq_true_eq] at h
  obtain ⟨⟨⟨⟨⟨⟨hcompleted, houtcome⟩, hinvocation⟩, hcapability⟩, hexecution⟩, hcall⟩, houtput⟩ := h
  refine ⟨hcompleted, houtcome, houtput, hinvocation.symm, hcapability.symm, ?_, ?_, rfl,
    houtput.symm, rfl, rfl⟩
  · intro e he
    exact mem_unique hexecution he
  · intro c hc
    exact mem_unique hcall hc

theorem client_result_is_final : ∃ (S : Runtime) (r : ToolResult) (l' : Ledger),
    S.store.ledger.saveToolResult noConversion notesResult = .ok (r, l') ∧
      r.commitState = .committed ∧ r.success = true ∧ r.output = .str "notes" := by
  obtain ⟨S, hrun, hstore, -⟩ := Scene.runsUnder { response := notesFound, cancelsServer := true }
    clientToolCall (fun _ => True) rfl .empty
  have hrow : (S.store.ledger.invocations.find? "invocation").any
      (·.deliveredNotes .terminalCommitted) = true := by
    rw [hstore]
    decide +kernel
  have hnone : S.store.ledger.toolResults.find? notesResult.key = none := by
    rw [hstore]
    decide +kernel
  obtain ⟨v, hv, hdelivered⟩ := (any_eq_true _ _).1 hrow
  obtain ⟨hcompleted, -, houtput, hreports⟩ := Invocation.deliveredNotes.reports hdelivered
  obtain ⟨r, l', hsave, hcommitted, hsuccess, hout, -⟩ :=
    (RunsUnder.completed_is_final hrun (by decide) hv hcompleted noConversion).1 notesResult
      hreports ⟨rfl, rfl⟩ (by simp [hnone])
  exact ⟨S, r, l', hsave, hcommitted, hsuccess, hout.trans houtput⟩

/-- **A completed invocation whose result never becomes final**: the frame cannot be handed over, and
the retry on the server delivers. -/
theorem completed_stays_provisional : ∃ S, Runs onlyFingerprint .empty S ∧ ∃ v r l',
    S.store.ledger.invocations.find? "invocation" = some v ∧ v.state = .completed ∧
      notesResult.Reports v ∧ S.store.ledger.toolResults.find? notesResult.key = none ∧
      S.store.ledger.saveToolResult noConversion notesResult = .ok (r, l') ∧
      r.commitState = .provisional ∧
      l'.loadCommittedToolResult noConversion "execution" "call" = .ok (none, l') := by
  obtain ⟨S, hrun, hstore, -⟩ := Scene.runs
    { socket := closedSocket, server := .ok (Json.str "notes").toPy, routable := [serverNotes] }
    clientToolCall .empty
  have hrow : (S.store.ledger.invocations.find? "invocation").any
      (·.deliveredNotes .notDispatched) = true := by
    rw [hstore]
    decide +kernel
  have hnone : S.store.ledger.toolResults.find? notesResult.key = none := by
    rw [hstore]
    decide +kernel
  obtain ⟨v, hv, hdelivered⟩ := (any_eq_true _ _).1 hrow
  obtain ⟨hcompleted, houtcome, -, hreports⟩ := Invocation.deliveredNotes.reports hdelivered
  have hstorable : notesResult.Storable := ⟨rfl, rfl⟩
  have hnormalize := hstorable.normalize hreports
  have hresolved : resolveToolResult (notesResult.toldBy v) (some v) = .ok (notesResult.toldBy v) := by
    simp only [resolveToolResult, hreports.identity, houtcome, bind, Except.bind]
    rfl
  obtain ⟨row, hwritten⟩ : ∃ row, toRow noConversion (notesResult.toldBy v) = .ok row :=
    toRow_of_texts _ rfl rfl
  obtain ⟨heq, -⟩ := toRow_ok hwritten
  have hkey : row.key = notesResult.key := by
    rw [heq]
    rfl
  have hprovisional : row.commitState = .provisional := by
    rw [heq]
    rfl
  obtain ⟨toolResults, hinsert⟩ := insert?_isSome (hkey ▸ hnone)
  have hinvocation : S.store.ledger.invocationOf (notesResult.toldBy v).invocationId = some v := hv
  have hnone' : S.store.ledger.toolResults.find? (notesResult.toldBy v).key = none := hnone
  refine ⟨S, hrun, v, row, { S.store.ledger with toolResults }, hv, hcompleted, hreports,
    hnone, ?_, hprovisional, ?_⟩
  · simp only [Ledger.saveToolResult, hnormalize, hinvocation, hresolved, hnone', hwritten, hinsert,
      bind, Except.bind]
  · have hstored : toolResults.find? ("execution", "call") = some row := by
      rw [find?_insert? hinsert]
      exact if_pos hkey.symm
    have hv' : S.store.ledger.invocations.find? row.invocationId = some v := by
      rw [heq]
      exact hv
    have hidentity : validateToolResultInvocationIdentity row v = .ok () := by
      rw [heq]
      exact hreports.identity
    simp only [Ledger.loadCommittedToolResult, hstored, hprovisional, hv', hidentity, houtcome,
      bind, Except.bind, reduceCtorEq, if_false]
    rfl

end AssistantRuntime.Capability

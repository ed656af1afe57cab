/-
**Tool results.**

An agent stores what came of a tool call twice over: the call before it is dispatched, and the result
as the caller saw it.  What the caller saw is final only if no remote side effect is in doubt.  A
result of a remote invocation becomes final when the invocation itself has, and then with the
invocation's own data.
-/

import AssistantRuntime.Capability.Store

namespace AssistantRuntime.Capability

open Relational

/-- A conflict with what is stored, by the field that differs. -/
def conflictingField (what field : String) : Raised :=
  .executionConflict s!"Conflicting {what} {field}."

/-- The first field that does not agree. -/
def requireFields (what : String) (fields : List (String × Bool)) : Except Raised Unit :=
  match fields.find? (!·.2) with
  | none => .ok ()
  | some (field, _) => .error (conflictingField what field)

def validateExistingToolCallIdentity (existing values : ToolCall) : Except Raised Unit :=
  requireFields "durable tool-call"
    [("execution_id", values.executionId = existing.executionId),
      ("iteration_id", values.iterationId = existing.iterationId),
      ("invocation_id", values.invocationId = existing.invocationId),
      ("tool_call_id", values.toolCallId = existing.toolCallId),
      ("capability_id", values.capabilityId = existing.capabilityId),
      ("arguments", Json.pyEq (.obj values.arguments) (.obj existing.arguments))]

def Ledger.saveToolCall (l : Ledger) (values : ToolCall) : Except Raised (ToolCall × Ledger) :=
  match Json.toJsonSafe (.obj values.arguments) with
  | none => .error (.serializationError "agent_tool_calls.arguments")
  | some _ =>
    match l.toolCalls.find? values.key with
    | some existing => do
      validateExistingToolCallIdentity existing values
      .ok (existing, l)
    | none =>
      if (l.invocations.find? values.invocationId).isSome then
        .error (.executionConflict ("Fresh AgentToolCall invocation_id is already bound to an " ++
          "existing CapabilityInvocation."))
      else match l.toolCalls.insert? values with
        | none => .error .integrityError
        | some toolCalls => .ok (values, { l with toolCalls })

/-! ### Results -/

variable {ω τ ω' τ' : Type}

def validateExistingToolResultIdentity (existing : ToolResultOf ω τ) (values : ToolResultOf ω' τ') :
    Except Raised Unit :=
  requireFields "durable tool-result"
    [("execution_id", values.executionId = existing.executionId),
      ("iteration_id", values.iterationId = existing.iterationId),
      ("invocation_id", values.invocationId = existing.invocationId),
      ("tool_call_id", values.toolCallId = existing.toolCallId),
      ("capability_id", values.capabilityId = existing.capabilityId)]

/-- What a text column is read as. -/
def ofColumn : Option String → Json
  | none => .null
  | some s => .str s

def validateCommittedToolResultContent (existing : ToolResult) (values : ToolResultValues) :
    Except Raised Unit :=
  requireFields "COMMITTED tool-result"
    [("success", values.success = existing.success),
      ("output", Json.pyEq values.output existing.output),
      ("error_code", Json.pyEq values.errorCode (ofColumn existing.errorCode)),
      ("error_message", Json.pyEq values.errorMessage (ofColumn existing.errorMessage)),
      ("retryable", values.retryable = existing.retryable)]

def validateToolResultInvocationIdentity (values : ToolResultOf ω τ) (v : Invocation) :
    Except Raised Unit :=
  requireFields "CapabilityInvocation authority"
    [("invocation_id", values.invocationId = v.invocationId),
      ("capability_id", values.capabilityId = v.capabilityId),
      ("execution_id", v.executionId.all (values.executionId = ·)),
      ("tool_call_id", v.toolCallId.all (values.toolCallId = ·))]

/-- `error.get(key) or error.get(other)`. -/
def firstTruthy (error : JsonObject) (key other : String) : Json :=
  match Json.member? key error with
  | some v => if v.truthy then v else (Json.member? other error).getD .null
  | none => (Json.member? other error).getD .null

def terminalProjection (values : ToolResultOf ω τ) (v : Invocation) : ToolResultValues :=
  let error := v.error.getD []
  let succeeded : Bool := v.state = .completed
  { values with
    success := succeeded
    output := v.output
    errorCode := if succeeded then .null else firstTruthy error "error_code" "code"
    errorMessage := if succeeded then .null else firstTruthy error "error_message" "message"
    retryable := !succeeded && ((Json.member? "retryable" error).map Json.truthy).getD false
    commitState := .committed
    extraMetadata := Json.setMember "r7_invocation_revision" (.int v.revision)
      (Json.setMember "r7_commit_authority" (.str "CAPABILITY_INVOCATION") values.extraMetadata) }

/-- The result claims to be of a call that was settled before any dispatch. -/
def ToolResultOf.isPreDispatch (r : ToolResultOf ω τ) : Bool :=
  Json.member? "r7_commit_authority" r.extraMetadata = some (.str "AGENT_PRE_DISPATCH")

/-- The values that are stored: whether they are final, and whose data they carry. -/
def resolveToolResult (values : ToolResultValues) (invocation : Option Invocation) :
    Except Raised ToolResultValues :=
  match invocation with
  | none => .ok { values with
      commitState := if values.isPreDispatch then .committed else .provisional }
  | some v => do
    validateToolResultInvocationIdentity values v
    match v.remoteOutcome with
    | none => .ok { values with commitState := .committed }
    | some .terminalCommitted => .ok (terminalProjection values v)
    | some _ => .ok { values with commitState := .provisional }

/-- `_normalize_json_fields` of the values of a result. -/
def normalizeJsonFields (values : ToolResultOf PyValue τ) : Except Raised (ToolResultOf Json τ) :=
  match values.output.safe, Json.toJsonSafe (.obj values.extraMetadata) with
  | none, _ => .error (.serializationError "agent_tool_results.output")
  | _, none => .error (.serializationError "agent_tool_results.extra_metadata")
  | some output, some _ => .ok { values with output }

/-- What the text columns take: a value that is neither a text nor null is converted by the driver of
the database, or refused. -/
def toColumn (convert : Json → Option String) (v : Json) : Except Raised (Option String) :=
  match v.asText?, convert v with
  | some text, _ => .ok text
  | none, some text => .ok (some text)
  | none, none => .error .databaseError

def toRow (convert : Json → Option String) (values : ToolResultValues) : Except Raised ToolResult := do
  let errorCode ← toColumn convert values.errorCode
  let errorMessage ← toColumn convert values.errorMessage
  .ok { values with errorCode, errorMessage }

def Ledger.invocationOf (l : Ledger) (invocationId : String) : Option Invocation :=
  if invocationId = "" then none else l.invocations.find? invocationId

/-- `save_tool_result`, without a recovery fence: the row that is stored then. -/
def Ledger.saveToolResult (l : Ledger) (convert : Json → Option String)
    (values : ToolResultOf PyValue Json) : Except Raised (ToolResult × Ledger) := do
  let values ← normalizeJsonFields values
  let resolved ← resolveToolResult values (l.invocationOf values.invocationId)
  match l.toolResults.find? values.key with
  | none => do
    let row ← toRow convert resolved
    match l.toolResults.insert? row with
    | none => .error .integrityError
    | some toolResults => .ok (row, { l with toolResults })
  | some existing => do
    validateExistingToolResultIdentity existing resolved
    if existing.commitState = .committed then do
      validateCommittedToolResultContent existing resolved
      .ok (existing, l)
    else if resolved.commitState = .committed then do
      let row ← toRow convert resolved
      .ok (row, { l with toolResults := l.toolResults.put row })
    else .ok (existing, l)

/-- `load_committed_tool_result`, without a recovery fence. -/
def Ledger.loadCommittedToolResult (l : Ledger) (convert : Json → Option String)
    (executionId toolCallId : String) : Except Raised (Option ToolResult × Ledger) :=
  match l.toolResults.find? (executionId, toolCallId) with
  | none => .ok (none, l)
  | some record =>
    if record.commitState = .committed then .ok (some record, l)
    else match l.invocations.find? record.invocationId with
      | none => .ok (none, l)
      | some v => do
        validateToolResultInvocationIdentity record v
        if v.remoteOutcome = some .terminalCommitted then do
          let projected := terminalProjection record v
          let values ← normalizeJsonFields { projected with output := projected.output.toPy }
          let row ← toRow convert values
          .ok (some row, { l with toolResults := l.toolResults.put row })
        else .ok (none, l)

/-! ### What the calls do -/

theorem except_bind_ok {ε α β : Type} {x : Except ε α} {f : α → Except ε β} {b : β} :
    (x >>= f) = .ok b ↔ ∃ a, x = .ok a ∧ f a = .ok b := by
  cases x with
  | error e => simp [bind, Except.bind]
  | ok a => simp [bind, Except.bind]

variable {l l' : Ledger}

theorem Ledger.saveToolCall_cases {values r : ToolCall}
    (h : l.saveToolCall values = .ok (r, l')) :
    l' = l ∨ ∃ toolCalls, l' = { l with toolCalls } := by
  unfold Ledger.saveToolCall at h
  split at h
  · cases h
  · split at h
    · obtain ⟨_, -, heq⟩ := except_bind_ok.1 h
      cases heq
      exact .inl rfl
    · split_ifs at h
      split at h
      · cases h
      · cases h
        exact .inr ⟨_, rfl⟩

/-- A stored result says what the values say, wherever these have a text or null for its texts. -/
structure ToolResultOf.SameContent (r : ToolResult) (values : ToolResultValues) : Prop where
  success : r.success = values.success
  output : r.output = values.output
  errorCode : ∀ text ∈ values.errorCode.asText?, r.errorCode = text
  errorMessage : ∀ text ∈ values.errorMessage.asText?, r.errorMessage = text
  retryable : r.retryable = values.retryable

variable {convert : Json → Option String} {row : ToolResult}

theorem toColumn_ok {x : Json} {column : Option String} (h : toColumn convert x = .ok column) :
    ∀ text ∈ x.asText?, column = text := by
  intro text htext
  simp only [toColumn, Option.mem_def.1 htext] at h
  cases h
  rfl

/-- Values whose texts are texts or null are written, whatever the driver of the database converts. -/
theorem toRow_of_texts (convert : Json → Option String) {values : ToolResultValues}
    (hcode : values.errorCode.asText?.isSome) (hmessage : values.errorMessage.asText?.isSome) :
    ∃ row, toRow convert values = .ok row := by
  obtain ⟨errorCode, hcode⟩ := Option.isSome_iff_exists.1 hcode
  obtain ⟨errorMessage, hmessage⟩ := Option.isSome_iff_exists.1 hmessage
  exact ⟨_, by simp only [toRow, toColumn, hcode, hmessage]; rfl⟩

theorem toRow_ok {values : ToolResultValues} (h : toRow convert values = .ok row) :
    row = { values with errorCode := row.errorCode, errorMessage := row.errorMessage } ∧
      row.SameContent values := by
  obtain ⟨errorCode, hcode, h⟩ := except_bind_ok.1 h
  obtain ⟨errorMessage, hmessage, h⟩ := except_bind_ok.1 h
  cases h
  exact ⟨rfl, rfl, rfl, toColumn_ok hcode, toColumn_ok hmessage, rfl⟩

/-- **A result is saved**: it is new, it makes a provisional one final, or nothing changes. -/
theorem Ledger.saveToolResult_cases {values : ToolResultOf PyValue Json}
    (h : l.saveToolResult convert values = .ok (row, l')) :
    ∃ values resolved, resolveToolResult values (l.invocationOf values.invocationId) = .ok resolved ∧
      ((l.toolResults.find? values.key = none ∧ toRow convert resolved = .ok row ∧
          ∃ toolResults, l.toolResults.insert? row = some toolResults ∧
            l' = { l with toolResults }) ∨
        ∃ existing, l.toolResults.find? values.key = some existing ∧
          ((existing.commitState = .committed ∧
              validateCommittedToolResultContent existing resolved = .ok () ∧
              row = existing ∧ l' = l) ∨
            (existing.commitState ≠ .committed ∧ resolved.commitState = .committed ∧
              toRow convert resolved = .ok row ∧
              l' = { l with toolResults := l.toolResults.put row }) ∨
            (existing.commitState ≠ .committed ∧ resolved.commitState ≠ .committed ∧
              row = existing ∧ l' = l))) := by
  obtain ⟨values, -, h⟩ := except_bind_ok.1 h
  obtain ⟨resolved, hresolved, h⟩ := except_bind_ok.1 h
  refine ⟨values, resolved, hresolved, ?_⟩
  split at h
  · rename_i hnone
    obtain ⟨row, hrow, h⟩ := except_bind_ok.1 h
    split at h
    · cases h
    · rename_i toolResults hinsert
      cases h
      exact .inl ⟨hnone, hrow, toolResults, hinsert, rfl⟩
  · rename_i existing hexisting
    refine .inr ⟨existing, hexisting, ?_⟩
    obtain ⟨_, -, h⟩ := except_bind_ok.1 h
    split_ifs at h with hcommitted hresolves
    · obtain ⟨_, hcontent, h⟩ := except_bind_ok.1 h
      cases h
      exact .inl ⟨hcommitted, hcontent, rfl, rfl⟩
    · obtain ⟨row, hrow, h⟩ := except_bind_ok.1 h
      cases h
      exact .inr (.inl ⟨hcommitted, hresolves, hrow, rfl⟩)
    · cases h
      exact .inr (.inr ⟨hcommitted, hresolves, rfl, rfl⟩)

/-- The content of a projection is that of the invocation, whatever it is projected from. -/
theorem ToolResultOf.SameContent.projected {values : ToolResultOf ω τ} {v : Invocation}
    (h : row.SameContent (terminalProjection values v)) (values' : ToolResultOf ω' τ') :
    row.SameContent (terminalProjection values' v) :=
  { h with }

/-- What came as JSON and is accepted stays as it is. -/
theorem normalizeJsonFields_toPy {values data : ToolResultOf Json τ}
    (h : normalizeJsonFields { values with output := values.output.toPy } = .ok data) :
    data = values := by
  unfold normalizeJsonFields at h
  split at h
  · cases h
  · cases h
  · rename_i output _ houtput _
    cases h
    rw [Json.toJsonSafe_eq_some houtput]

/-- **A result is loaded**: it is final, or becomes so with the invocation's own data. -/
theorem Ledger.loadCommittedToolResult_cases {executionId toolCallId : String}
    {r : Option ToolResult}
    (h : l.loadCommittedToolResult convert executionId toolCallId = .ok (r, l')) :
    (l' = l ∧ ∀ record, r = some record →
        l.toolResults.find? (executionId, toolCallId) = some record ∧
          record.commitState = .committed) ∨
      ∃ record v row, l.toolResults.find? (executionId, toolCallId) = some record ∧
        record.commitState ≠ .committed ∧
        l.invocations.find? record.invocationId = some v ∧
        v.remoteOutcome = some .terminalCommitted ∧
        toRow convert (terminalProjection record v) = .ok row ∧ r = some row ∧
        l' = { l with toolResults := l.toolResults.put row } := by
  unfold Ledger.loadCommittedToolResult at h
  have hnone : ∀ record, (none : Option ToolResult) = some record →
      l.toolResults.find? (executionId, toolCallId) = some record ∧
        record.commitState = .committed := by
    intro record hrecord
    cases hrecord
  split at h
  · cases h
    exact .inl ⟨rfl, hnone⟩
  · rename_i record hrecord
    split_ifs at h with hcommitted
    · cases h
      refine .inl ⟨rfl, fun _ h => ?_⟩
      cases h
      exact ⟨hrecord, hcommitted⟩
    · split at h
      · cases h
        exact .inl ⟨rfl, hnone⟩
      · rename_i v hv
        obtain ⟨_, -, h⟩ := except_bind_ok.1 h
        split_ifs at h with houtcome
        · obtain ⟨values, hvalues, h⟩ := except_bind_ok.1 h
          obtain ⟨row, hrow, h⟩ := except_bind_ok.1 h
          cases h
          rw [normalizeJsonFields_toPy hvalues] at hrow
          exact .inr ⟨record, v, row, hrecord, hcommitted, hv, houtcome, hrow, rfl, rfl⟩
        · cases h
          exact .inl ⟨rfl, hnone⟩

end AssistantRuntime.Capability

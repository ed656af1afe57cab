/-
**Relations that every service on user budgets respects.**

The services are put together from few statements of the repository.  A preorder on the stored state
that each of these statements respects is respected by whatever the services do, so that the walk
along the services is made here once, for all such relations.  One of them is that the binding of a
task and the receipt of a mirrored charge are never changed or removed.
-/

import AssistantRuntime.Relational.Statement
import AssistantRuntime.UserBudget.InferenceQuota

namespace AssistantRuntime.UserBudget

open Relational Uow

/-- Every statement of the repository respects the relation, the binding of a task apart. -/
class Writes (R : Db → Db → Prop) : Prop extends IsPreorder Db R where
  rolloverWindow (owner : String) (revision now : ℤ) :
    Respects R (UserBudget.rolloverWindow owner revision now)
  mutateWindowUsage (owner : String) (epoch revision : ℤ) (targets : WindowTargets) :
    Respects R (UserBudget.mutateWindowUsage owner epoch revision targets)
  createOrGetToolUsage (owner : String) (epoch : ℤ) (capability : String) :
    Respects R (UserBudget.createOrGetToolUsage owner epoch capability)
  mutateToolUsage (owner : String) (epoch : ℤ) (capability : String) (revision used reserved : ℤ) :
    Respects R (UserBudget.mutateToolUsage owner epoch capability revision used reserved)
  createOrGetReservation (sha : Document → String) (intent : ReservationIntent) :
    Respects R (UserBudget.createOrGetReservation sha intent)
  transitionReservation (owner key : String) (revision : ℤ) (target : ReservationState)
    (amount settledAt : Option ℤ) :
    Respects R (UserBudget.transitionReservation owner key revision target amount settledAt)
  createOrGetDualAccountingReceipt (row : ReceiptRow) :
    Respects R (UserBudget.createOrGetDualAccountingReceipt row)
  createOrGetImmutablePolicy (policy : PolicyRow) :
    Respects R (UserBudget.createOrGetImmutablePolicy policy)
  createOrGetAccount (owner : String) : Respects R (UserBudget.createOrGetAccount owner)
  selectNextPolicy (owner : String) (revision : ℤ) (policyId : String) :
    Respects R (UserBudget.selectNextPolicy owner revision policyId)

attribute [instance] Writes.rolloverWindow Writes.mutateWindowUsage Writes.createOrGetToolUsage
  Writes.mutateToolUsage Writes.createOrGetReservation Writes.transitionReservation
  Writes.createOrGetDualAccountingReceipt Writes.createOrGetImmutablePolicy
  Writes.createOrGetAccount Writes.selectNextPolicy

instance respects_getActiveWindow {R : Db → Db → Prop} [Std.Refl R] (owner : String) :
    Respects R (getActiveWindow owner) where
  rel h := by
    rw [(getActiveWindow_ok h).1]
    exact refl_of R _

/-! ### Services that only read -/

section Reads

variable {R : Db → Db → Prop} [IsPreorder Db R] (sha : Document → String)

instance (settings : InferenceQuotaSettings) (body : InferenceBody) :
    Respects R (estimateInference settings body) := by
  unfold estimateInference outputTokenBound
  exact .along

instance (lineage : InferenceLineage) (owner : String) (context : InferenceContext) :
    Respects R (requireNoHistoricalInference sha lineage owner context) := by
  unfold requireNoHistoricalInference
  exact .along

instance (admission : InferenceAdmission) (usage : InferenceUsage) (kind : ResourceKind)
    (key : String) : Respects R (settleKind admission usage kind key) := by
  unfold settleKind
  exact .along

instance (admission : InferenceAdmission) (usage : InferenceUsage)
    (keys : List (ResourceKind × String)) : Respects R (settleKinds admission usage keys) := by
  induction keys with
  | nil =>
    unfold settleKinds
    infer_instance
  | cons p rest ih =>
    unfold settleKinds
    infer_instance

instance (transitions : List Settled) (columns : List (String × ResourceKind × ℤ)) :
    Respects R (requireNoUnderflow transitions columns) := by
  induction columns with
  | nil =>
    unfold requireNoUnderflow
    infer_instance
  | cons p rest ih =>
    dsimp only [requireNoUnderflow]
    infer_instance

variable (directory : Directory) (identity : Identity)

instance : Respects R (resolveBudgetOwner directory identity) := by
  unfold resolveBudgetOwner
  exact .along

instance (taskId : Option String) : Respects R (resolveOwner directory identity taskId) := by
  unfold resolveOwner
  infer_instance

instance (context : InferenceContext) : Respects R (resolveInferenceOwner directory context) := by
  unfold resolveInferenceOwner
  infer_instance

variable (enabled : Bool) (lineage : AgentLineage) (owner : String) (call : ToolCall)
  (arguments : List (String × String))

instance (row : ReservationRow) : Respects R (replayToolCall sha row owner call) := by
  unfold replayToolCall verifyDirectReservation
  infer_instance

instance : Respects R (historicalBridgeAdmission sha lineage owner call arguments) := by
  dsimp only [historicalBridgeAdmission]
  exact .along

instance respects_recoverToolCall :
    Respects R (recoverToolCall sha enabled lineage owner call arguments) := by
  dsimp only [recoverToolCall, findToolCallAuthority]
  exact .along

end Reads

section Services

variable {R : Db → Db → Prop} [Writes R] (sha : Document → String)
  (owner : String) (account : AccountRow) (now : ℤ)

instance : Respects R (currentWindow owner account now) := by
  unfold currentWindow
  exact .along

/-! ### The mirror -/

variable (settings : DualAccountingSettings)

instance respects_ensureShadowAccount :
    Respects R (ensureShadowAccount sha settings owner) := by
  unfold ensureShadowAccount requireShadowSelection
  exact .along

variable (source : MirrorSource) (window : WindowRow)

instance (dimensions : List MirrorDimension) :
    Respects R (mirrorDimensions sha source now dimensions window) := by
  induction dimensions generalizing window with
  | nil =>
    unfold mirrorDimensions
    infer_instance
  | cons dimension rest ih =>
    dsimp only [mirrorDimensions, mirrorDimension, mirrorToolUsage]
    exact .along

instance respects_mirrorResource (dimensions : List MirrorDimension) :
    Respects R (mirrorResource sha settings source dimensions now) := by
  dsimp only [mirrorResource, ensureActiveShadowWindow]
  exact .along

/-! ### The tool quota -/

variable (call : ToolCall)

instance respects_reserveToolCall (enabled : Bool) (directory : Directory) (lineage : AgentLineage)
    (identity : Identity) (arguments : List (String × String)) :
    Respects R (reserveToolCall sha enabled directory lineage identity call arguments now) := by
  dsimp only [reserveToolCall, admitToolCall, chargeToolCall, verifyDirectReservation]
  exact .along

/-- **Settlement and release of a tool call.** -/
instance respects_terminalTransition (admission : Option ToolQuotaAdmission)
    (target : ReservationState) :
    Respects R (terminalTransition sha admission target now) := by
  dsimp only [terminalTransition, terminalTransitionOf, verifyDirectReservation, leaveReserved,
    settleCounters, releaseCounters]
  exact .along

/-! ### The inference quota -/

variable (context : InferenceContext) (fingerprint : String) (amounts : List (ResourceKind × ℤ))

instance (epoch : ℤ) :
    Respects R (replayKinds sha context owner fingerprint epoch amounts) := by
  induction amounts with
  | nil =>
    unfold replayKinds
    infer_instance
  | cons p rest ih =>
    dsimp only [replayKinds, verifyInferenceRow]
    exact .along

instance (epoch : ℤ) :
    Respects R (reserveKinds sha context owner fingerprint epoch amounts) := by
  induction amounts with
  | nil =>
    unfold reserveKinds
    infer_instance
  | cons p rest ih =>
    dsimp only [reserveKinds, verifyInferenceRow]
    infer_instance

instance respects_reserveInference (settings : InferenceQuotaSettings) (directory : Directory)
    (lineage : InferenceLineage) (context : Option InferenceContext) (body : InferenceBody)
    (streamingMode : Bool) :
    Respects R (reserveInference sha settings directory lineage context body streamingMode now) := by
  dsimp only [reserveInference, logicalFingerprint, reserveEstimated, replayInference,
    admitInference, inferenceAmounts, optionalAmount, requireInferenceQuota, requireWithin,
    sumPendingReservationAmount]
  exact .along

instance (transitions : List Settled) :
    Respects R (settleRows owner now transitions) := by
  induction transitions with
  | nil =>
    unfold settleRows
    infer_instance
  | cons s rest ih =>
    unfold settleRows
    infer_instance

instance respects_settleSuccess (settings : InferenceQuotaSettings)
    (admission : Option InferenceAdmission) (usage : InferenceUsage) :
    Respects R (settleSuccess sha settings admission usage now) := by
  unfold settleSuccess settleWindow
  exact .along

end Services

/-! ### What the tables keep -/

/-- The bindings are the same, and every receipt is still there. -/
structure Retains (u u' : Db) : Prop where
  bindings : u'.taskBindings = u.taskBindings
  receipts : ∀ taskId kind key dimension r,
    u.getDualAccountingReceipt taskId kind key dimension = some r →
      u'.getDualAccountingReceipt taskId kind key dimension = some r

instance : IsPreorder Db Retains where
  refl _ := ⟨rfl, fun _ _ _ _ _ h => h⟩
  trans _ _ _ h h' :=
    ⟨h'.bindings.trans h.bindings, fun _ _ _ _ _ hr =>
      h'.receipts _ _ _ _ _ (h.receipts _ _ _ _ _ hr)⟩

theorem Retains.of_receipt {u : Db} {row : ReceiptRow} {receipts : Table ReceiptRow.bridgeReceiptId}
    (h : u.receipts.insert? row = some receipts) : Retains u { u with receipts := receipts } := by
  refine ⟨rfl, ?_⟩
  intro taskId kind key dimension r hr
  unfold Db.getDualAccountingReceipt at hr ⊢
  rw [Table.rows_insert? h, List.find?_append, hr]
  rfl

/-! ### Statements on the other tables -/

instance (g : Db → Table PolicyRow.policyId) :
    Respects Retains (writes fun db => { db with policies := g db } : Tx Unit) :=
  .writes fun _ => ⟨rfl, fun _ _ _ _ _ h => h⟩

instance (g : Db → Table AccountRow.ownerUserId) :
    Respects Retains (writes fun db => { db with accounts := g db } : Tx Unit) :=
  .writes fun _ => ⟨rfl, fun _ _ _ _ _ h => h⟩

instance (g : Db → Table WindowRow.key) :
    Respects Retains (writes fun db => { db with windows := g db } : Tx Unit) :=
  .writes fun _ => ⟨rfl, fun _ _ _ _ _ h => h⟩

instance (g : Db → Table ToolUsageRow.key) :
    Respects Retains (writes fun db => { db with toolUsage := g db } : Tx Unit) :=
  .writes fun _ => ⟨rfl, fun _ _ _ _ _ h => h⟩

instance (g : Db → Table ReservationRow.reservationId) :
    Respects Retains (writes fun db => { db with reservations := g db } : Tx Unit) :=
  .writes fun _ => ⟨rfl, fun _ _ _ _ _ h => h⟩

/-! ### The repository -/

instance (row : WindowRow) : Respects Retains (insertWindow row) := by
  unfold insertWindow
  infer_instance

instance (active : Option WindowRow) (now : ℤ) : Respects Retains (closeWindow active now) := by
  unfold closeWindow
  split <;> infer_instance

instance (row : ReservationRow) : Respects Retains (insertReservation row) := by
  unfold insertReservation
  infer_instance

/-- **Every statement keeps the bindings and the receipts of earlier charges.** -/
instance writes_retains : Writes Retains where
  rolloverWindow _ _ _ := by
    dsimp only [rolloverWindow]
    exact .along
  mutateWindowUsage _ _ _ _ := by
    dsimp only [mutateWindowUsage]
    exact .along
  createOrGetToolUsage _ _ _ := by
    dsimp only [createOrGetToolUsage]
    exact .along
  mutateToolUsage _ _ _ _ _ _ := by
    dsimp only [mutateToolUsage]
    exact .along
  createOrGetReservation _ _ := by
    unfold createOrGetReservation
    exact .along
  transitionReservation _ _ _ _ _ _ := by
    dsimp only [transitionReservation]
    exact .along
  createOrGetDualAccountingReceipt _ :=
    { rel := fun h => by
        rcases createOrGetDualAccountingReceipt_ok h with ⟨rfl, -⟩ | ⟨-, receipts, hins, rfl⟩
        · exact refl_of Retains _
        · exact .of_receipt hins }
  createOrGetImmutablePolicy _ := by
    dsimp only [createOrGetImmutablePolicy]
    exact .along
  createOrGetAccount _ := by
    dsimp only [createOrGetAccount]
    exact .along
  selectNextPolicy _ _ _ := by
    dsimp only [selectNextPolicy]
    infer_instance

/-! ### Enrollment -/

/-- What is kept where nothing is charged. -/
structure Enrolls (u u' : Db) : Prop extends Retains u u' where
  charges : SameCharges u u'

instance : IsPreorder Db Enrolls where
  refl u := ⟨refl_of Retains u, rfl, rfl, rfl, rfl⟩
  trans _ _ _ h h' := ⟨trans_of Retains h.toRetains h'.toRetains, h.charges.trans h'.charges⟩

end AssistantRuntime.UserBudget

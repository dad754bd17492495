import VendorDashboard.VendorIntegration.SopyoOrderPush

/-!
# The shipment intent of a Sopyo order

`SopyoShipmentIntent` with the two `CHECK` constraints on its status, the execution plan that
belongs to it, and the checks of `recordVerifiedSopyoShipmentIntent`.

A row is written whole: `checked` is what the database accepts.  A comparison with `NULL` does not
fail a `CHECK`.
-/

namespace VendorDashboard.VendorIntegration

open Finance (Id Instant VendorOutboundMethod VendorIntegrationProviderCode AllocationStatus)
open Text Transaction

/-! ## The rows -/

inductive SopyoShipmentIntentStatus
  | cargoVerified | selectionPending | planReady | submissionPending | outcomeUnknown
  | reconciliationPending | confirmed | conflict
  deriving DecidableEq

inductive SopyoConflictReason
  | cargoMismatch | shopifyPlanUnsafe | shopifyPlanChanged | shopifyReadIncomplete
  | shopifyCreateRejected | shopifyReconciliationAmbiguous
  deriving DecidableEq

structure SopyoShipmentIntent where
  vendorAllocationId : Id
  sopyoOrderPushId : Id
  assignedVendorId : Id
  sopyoOrderId : ℕ
  orderCode : Id
  carrier : String
  trackingNumber : String
  shopifyLocationGid : Option String
  status : SopyoShipmentIntentStatus
  conflictReasonCode : Option SopyoConflictReason
  conflictObservedAt : Option Instant
  submissionStartedAt : Option Instant
  confirmedAt : Option Instant
  shopifyFulfillmentId : Option String
  deriving DecidableEq

structure SopyoShopifyExecutionPlanLine where
  vendorAllocationLineItemId : Id
  fulfillmentOrderGid : String
  fulfillmentOrderLineItemGid : String
  shopifyOrderLineItemGid : String
  quantity : ℤ
  deriving DecidableEq

structure SopyoShopifyExecutionPlan where
  id : Id
  shopifyOrderGid : String
  shopifyLocationGid : String
  baselineFulfillmentIds : List String
  lines : List SopyoShopifyExecutionPlanLine
  deriving DecidableEq

/-- The statuses before a submission. -/
def SopyoShipmentIntentStatus.Plannable : SopyoShipmentIntentStatus → Prop
  | .cargoVerified | .selectionPending | .planReady => True
  | _ => False

instance : DecidablePred SopyoShipmentIntentStatus.Plannable := fun status => by
  cases status <;> unfold SopyoShipmentIntentStatus.Plannable <;> infer_instance

/-- `reconcilable`. -/
def SopyoShipmentIntentStatus.Reconcilable : SopyoShipmentIntentStatus → Prop
  | .submissionPending | .outcomeUnknown | .reconciliationPending => True
  | _ => False

instance : DecidablePred SopyoShipmentIntentStatus.Reconcilable := fun status => by
  cases status <;> unfold SopyoShipmentIntentStatus.Reconcilable <;> infer_instance

namespace SopyoShipmentIntent

variable (row : SopyoShipmentIntent)

/-- A cargo conflict, the only one that may hold a fulfillment. -/
def CargoConflict : Prop :=
  row.status = .conflict ∧ row.conflictReasonCode = some .cargoMismatch

instance : Decidable row.CargoConflict := inferInstanceAs (Decidable (_ ∧ _))

/-- `SopyoShipmentIntent_conflict_check`. -/
def ConflictCheck : Prop :=
  if row.status = .conflict then row.conflictObservedAt ≠ none
  else row.conflictReasonCode = none ∧ row.conflictObservedAt = none

/-- `SopyoShipmentIntent_submission_check`. -/
def SubmissionCheck : Prop :=
  ((row.status = .confirmed ∨ row.status = .conflict ∧
      ∀ reason ∈ row.conflictReasonCode, reason = .cargoMismatch) ∧
    row.shopifyFulfillmentId ≠ none ∧ row.submissionStartedAt ≠ none ∧ row.confirmedAt ≠ none) ∨
  (row.status ≠ .confirmed ∧ row.shopifyFulfillmentId = none ∧ row.confirmedAt = none)

/-- The `CHECK` constraints of the table that concern the status. -/
def Checked : Prop := row.ConflictCheck ∧ row.SubmissionCheck

instance : Decidable row.ConflictCheck := by unfold ConflictCheck; infer_instance

instance : Decidable row.SubmissionCheck := by unfold SubmissionCheck; infer_instance

instance : Decidable row.Checked := inferInstanceAs (Decidable (_ ∧ _))

/-- Into `CONFLICT` for a reason. -/
def markConflict (reason : SopyoConflictReason) (now : Instant) : SopyoShipmentIntent :=
  { row with
    status := .conflict
    conflictReasonCode := some reason
    conflictObservedAt := some now }

/-- The claim of the submission. -/
def submit (now : Instant) : SopyoShipmentIntent :=
  { row with
    status := .submissionPending
    submissionStartedAt := some now }

/-- Store the identity of a fulfillment. -/
def identify (id : String) (now : Instant) : SopyoShipmentIntent :=
  { row with
    shopifyFulfillmentId := some id
    confirmedAt := some now }

end SopyoShipmentIntent

/-! ## Recording a verified shipment -/

/-- The codes of the three error classes. -/
inductive SopyoShipmentError
  | invalidCargo | identityMismatch | notActionable | shopifyPlanUnsafe | shopifyPlanChanged
  | shopifyReadIncomplete | notReady | shopifyNotConfigured
  deriving DecidableEq

/-- What Sopyo says of an order. -/
structure VerifiedCargo where
  id : ℤ
  orderCode : Id
  orderType : String
  cargoCompany : Option String
  cargoTrackingNumber : Option String

structure RecordInput where
  pushId : Id
  detail : VerifiedCargo

/-- The columns of the allocation and its order that the Sopyo services read. -/
structure SopyoAllocation where
  id : Id
  assignedVendorId : Id
  allocationStatus : AllocationStatus
  cancellationReason : Option String
  reassignmentRequired : Bool
  outboundMethodSnapshot : Option VendorOutboundMethod
  outboundIntegrationProviderSnapshot : Option VendorIntegrationProviderCode
  shopifyLocationGidSnapshot : Option String
  sourceShopifyOrderId : String
  orderCancelledAt : Option Instant

/-- What `recordVerifiedSopyoShipmentIntent` reads beside the intent: the allocation that
`assertAllocationActionable` returns, unless it throws, and whether a customer cancellation holds
the allocation. -/
structure RecordReads where
  actionable : Option Id
  allocation : Option SopyoAllocation
  pendingHold : Bool
  push : Option SopyoOrderPush

def boundedCargo (value : Option String) : Option String :=
  let normalized := trim (value.getD "")
  if normalized ≠ "" ∧ utf16Length normalized ≤ 200 ∧
      normalized.toList.all fun c => decide (0x1f < c.toNat ∧ c.toNat ≠ 0x7f) then
    some normalized
  else none

/-- A positive safe integer. -/
def canonicalSopyoOrderId (id : ℤ) : Option ℕ :=
  if 1 ≤ id ∧ id ≤ 9007199254740991 then some id.toNat else none

def isTruthy (value : Option String) : Bool := value.any fun v => decide (v ≠ "")

/-- The allocation can still be shipped. -/
def SopyoAllocation.shippable (allocation : SopyoAllocation) : Bool :=
  decide (allocation.allocationStatus = .active) && !isTruthy allocation.cancellationReason &&
    !allocation.reassignmentRequired

def SopyoAllocation.sentBySopyo (allocation : SopyoAllocation) : Bool :=
  decide (allocation.outboundMethodSnapshot = some .vendorIntegration) &&
    decide (allocation.outboundIntegrationProviderSnapshot = some .sopyo)

/-- `value?.trim() || null`. -/
def trimmed (value : Option String) : Option String :=
  let text := trim (value.getD "")
  if text = "" then none else some text

/-- The intent that a verified detail describes.  The error is `none` where another guard or the
database throws. -/
def verifiedIntent (input : RecordInput) (reads : RecordReads) :
    Except (Option SopyoShipmentError) SopyoShipmentIntent := do
  let detail := input.detail
  let carrier ← getOrThrow (boundedCargo detail.cargoCompany) (some .invalidCargo)
  let trackingNumber ← getOrThrow (boundedCargo detail.cargoTrackingNumber) (some .invalidCargo)
  let sopyoOrderId ← getOrThrow (canonicalSopyoOrderId detail.id) (some .identityMismatch)
  require (detail.orderType = "SOPYOAPI") (some .identityMismatch)
  let actionable ← getOrThrow reads.actionable none
  let allocation ← getOrThrow reads.allocation (some .notActionable)
  require allocation.shippable (some .notActionable)
  require (allocation.orderCancelledAt = none) none
  require (reads.pendingHold = false) none
  let push ← getOrThrow reads.push (some .identityMismatch)
  require (actionable = allocation.id ∧ allocation.sentBySopyo ∧ push.status = .succeeded ∧
    push.vendorAllocationId = allocation.id ∧
    push.assignedVendorId = allocation.assignedVendorId ∧ push.orderCode = allocation.id ∧
    detail.orderCode = push.orderCode ∧ push.sopyoOrderId = some sopyoOrderId)
    (some .identityMismatch)
  pure
    { vendorAllocationId := allocation.id
      sopyoOrderPushId := input.pushId
      assignedVendorId := allocation.assignedVendorId
      sopyoOrderId
      orderCode := push.orderCode
      carrier
      trackingNumber
      shopifyLocationGid := trimmed allocation.shopifyLocationGidSnapshot
      status := .cargoVerified
      conflictReasonCode := none
      conflictObservedAt := none
      submissionStartedAt := none
      confirmedAt := none
      shopifyFulfillmentId := none }

/-- The two intents are of one shipment. -/
def SopyoShipmentIntent.sameIdentity (existing verified : SopyoShipmentIntent) : Bool :=
  decide (existing.sopyoOrderPushId = verified.sopyoOrderPushId) &&
    decide (existing.assignedVendorId = verified.assignedVendorId) &&
    decide (existing.sopyoOrderId = verified.sopyoOrderId) &&
    decide (existing.orderCode = verified.orderCode) &&
    decide (existing.shopifyLocationGid = verified.shopifyLocationGid)

end VendorDashboard.VendorIntegration

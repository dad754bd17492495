import VendorDashboard.Framework.Interleaving
import VendorDashboard.Orders.RefundReconciliation

/-!
# An administrator's refund

`previewShopifyRefundForAdminOrder` and `executeShopifyRefundForAdminOrder`: an execution checks
the allocation, looks for an active attempt and otherwise locks one, has Shopify classify and cancel
the fulfillment orders, takes the order's shipping claim when the shipping may be refunded, and
calls `createShopifyRefund` under the key of the attempt.  Afterwards it reads Shopify again and
records the submission.

Each statement and each call to Shopify is a step, which may fail, or take effect and lose its
answer; and a call may crash between any two.  Shopify executes a refund once for each key: a key
that it has seen is answered with the refund of that key.

The rows of tables that no step here writes are answers from outside: the shipments and returns of
the allocations and their settlements.  Customer refund completion and the classification of the
fulfillment orders are answers too.
-/

namespace VendorDashboard.Orders

open Finance (Id Instant CancelRefundReviewStatus)
open Table Transaction Text Interleaving
open CancellationDb (ClaimAcquisition ownClaimOutcome)

/-! ## The shipping of an order -/

inductive CustomerCheckoutShippingRefundEligibility
  | eligible | notEligible | unresolved
  deriving DecidableEq

structure ShipmentEvidence where
  providerShipmentId : Option String
  trackingNumber : Option String
  trackingUrl : Option String
  shipmentStatus : String

structure FulfillmentEvidence where
  fulfilledAt : Option Instant
  shipmentCreatedAt : Option Instant
  shipmentUpdatedAt : Option Instant
  shopifyFulfillmentId : Option String
  trackingNumber : Option String
  trackingUrl : Option String

structure CustomerCheckoutShippingAllocationEvidence where
  id : Id
  allocationStatus : String
  reassignmentRequired : Bool
  fulfillmentStatus : String
  shippingStatus : String
  trackingNumber : Option String
  carrier : Option String
  fulfillment : Option FulfillmentEvidence
  shipmentExecutions : List ShipmentEvidence

def PRE_SHIPMENT_FULFILLMENT_STATUSES : List String :=
  ["pending", "unfulfilled", "cancelled", "canceled"]

def PRE_SHIPMENT_SHIPPING_STATUSES : List String :=
  ["awaiting shipment", "awaiting_shipment", "not required", "not_required"]

def INACTIVE_SHIPMENT_EXECUTION_STATUSES : List String := ["failed", "cancelled", "canceled"]

/-- `trim().toLowerCase()`. -/
def normalizeStatusText (s : String) : String := toLowerCase (trim s)

def hasText (s : Option String) : Bool := (presentText s).isSome

def FulfillmentEvidence.concrete (f : FulfillmentEvidence) : Bool :=
  f.fulfilledAt.isSome || f.shipmentCreatedAt.isSome || f.shipmentUpdatedAt.isSome ||
    hasText f.shopifyFulfillmentId || hasText f.trackingNumber || hasText f.trackingUrl

def ShipmentEvidence.concrete (e : ShipmentEvidence) : Bool :=
  hasText e.providerShipmentId || hasText e.trackingNumber || hasText e.trackingUrl ||
    decide (normalizeStatusText e.shipmentStatus ∉ INACTIVE_SHIPMENT_EXECUTION_STATUSES)

def hasConcreteShipmentEvidence (a : CustomerCheckoutShippingAllocationEvidence) : Bool :=
  hasText a.trackingNumber || hasText a.carrier || a.fulfillment.any (·.concrete) ||
    a.shipmentExecutions.any (·.concrete)

/-- What the first allocation that speaks against the refund says. -/
def shippingRefundObjection :
    List CustomerCheckoutShippingAllocationEvidence →
      Option (CustomerCheckoutShippingRefundEligibility × String)
  | [] => none
  | a :: allocations =>
      if hasConcreteShipmentEvidence a then
        some (.notEligible, "shipment_or_fulfillment_evidence_exists")
      else if normalizeStatusText a.fulfillmentStatus ∉ PRE_SHIPMENT_FULFILLMENT_STATUSES ∨
          normalizeStatusText a.shippingStatus ∉ PRE_SHIPMENT_SHIPPING_STATUSES then
        some (.unresolved, "pre_shipment_state_unresolved")
      else if normalizeStatusText a.allocationStatus ≠ "vendor_blocked" ∨
          a.reassignmentRequired = false then
        some (.notEligible, "customer_fulfillment_allocation_remains")
      else shippingRefundObjection allocations

def evaluateCustomerCheckoutShippingRefundEligibility (targetAllocationId : Id)
    (allocations : List CustomerCheckoutShippingAllocationEvidence) :
    CustomerCheckoutShippingRefundEligibility × String :=
  if allocations = [] then (.unresolved, "order_allocations_missing")
  else if targetAllocationId ∉ allocations.map (·.id) then (.unresolved, "target_allocation_missing")
  else (shippingRefundObjection allocations).getD
    (.eligible, "all_allocations_vendor_blocked_pre_shipment")

/-! ## The call -/

inductive ShopifyRefundRestockType
  | cancel | noRestock
  deriving DecidableEq

def normalizeShopifyRefundPreviewRestockType (value : Option String) :
    Except String ShopifyRefundRestockType :=
  match (value.map trim).map toUpperCase with
  | some "CANCEL" => .ok .cancel
  | some "NO_RESTOCK" => .ok .noRestock
  | _ => .error "Refund preview restockType must be CANCEL or NO_RESTOCK."

def normalizeShopifyRefundExecutionNote (note : Option String) : Except String String :=
  match presentText note with
  | none => .error "Shopify refund note is required."
  | some normalized =>
      if 1000 < utf16Length normalized then
        .error "Shopify refund note must be 1000 characters or fewer."
      else .ok normalized

structure AdminShopifyRefundExecutionInput where
  confirmRefund : Bool
  restockType : Option String
  note : Option String
  confirmPostRefundFulfillmentCheck : Bool
  confirmMixedFulfillmentOrderDirectRefundProbe : Bool

inductive AdminRefundCall
  | preview (shopifyOrderId allocationId : Id) (restockType : Option String)
  | execute (shopifyOrderId allocationId : Id) (input : AdminShopifyRefundExecutionInput)

/-- What a call carries once its input is checked. -/
structure RefundTarget where
  shopifyOrderId : Id
  allocationId : Id
  restockType : ShopifyRefundRestockType
  deriving DecidableEq

structure ConfirmedExecution where
  confirmPostRefundFulfillmentCheck : Bool
  confirmMixedFulfillmentOrderDirectRefundProbe : Bool
  deriving DecidableEq

/-- The target, and the confirmations of an execution. -/
def AdminRefundCall.check : AdminRefundCall →
    Except String (RefundTarget × Option ConfirmedExecution)
  | .preview shopifyOrderId allocationId restockType => do
      let restockType ← normalizeShopifyRefundPreviewRestockType restockType
      pure (⟨shopifyOrderId, allocationId, restockType⟩, none)
  | .execute shopifyOrderId allocationId input => do
      require (input.confirmRefund = true) "Shopify refund confirmation is required."
      let restockType ← normalizeShopifyRefundPreviewRestockType input.restockType
      let _ ← normalizeShopifyRefundExecutionNote input.note
      pure (⟨shopifyOrderId, allocationId, restockType⟩,
        some ⟨input.confirmPostRefundFulfillmentCheck,
          input.confirmMixedFulfillmentOrderDirectRefundProbe⟩)

/-! ## The allocation -/

/-- What the queries find of an allocation in tables that no step writes. -/
structure AdminRefundEvidence where
  hasShipmentEvidence : Bool
  /-- Every return record comes from a refund. -/
  onlyRefundDerivedReturnEvidence : Bool
  hasSettlementPayoutOrLogoEvidence : Bool
  deriving DecidableEq

structure AdminRefundAllocation where
  reviewStatus : Option CancelRefundReviewStatus
  hasRefundState : Bool
  hasReturnRecords : Bool
  hasCompletedEconomicTransfer : Bool
  hasFinanceIntegrityAlerts : Bool
  evidence : AdminRefundEvidence
  currency : Option String
  /-- Order line, when it is known, and quantity. -/
  lineItems : List (Option Id × ℕ)
  deriving DecidableEq

/-- The `findFirst` of both services. -/
def CancellationDb.findAdminRefundAllocation (db : CancellationDb) (target : RefundTarget)
    (evidence : AdminRefundEvidence) : Option AdminRefundAllocation := do
  let row ← db.findAllocation target.allocationId
  let order ← (db.findOrder row.orderId).filter fun o =>
    decide (o.sourceShopifyOrderId = target.shopifyOrderId)
  pure
    { reviewStatus := row.cancelRefundReviewStatus
      hasRefundState := !row.refundRecords.isEmpty
      hasReturnRecords := row.hasReturnRecords
      hasCompletedEconomicTransfer := row.hasCompletedEconomicTransfer
      hasFinanceIntegrityAlerts := row.hasOpenFinanceIntegrityAlert
      evidence := evidence
      currency := order.currency
      lineItems := (db.vendorAllocationLineItem.filter fun l =>
        decide (l.vendorAllocationId = target.allocationId)).map fun l =>
          (db.sourceLineItemIdOf l.shopifyLineItemId, l.quantity) }

inductive CustomerRefundCompletionStatus
  | noVerifiedMonetaryRefund | verifiedPartial | verifiedFull | unresolved
  deriving DecidableEq

/-- The end of `classifyRefundExecutionMode`, which a missing refund state does not reach; `true`
is `SHIPPING_ONLY`. -/
def executionModeOf (completion : Option CustomerRefundCompletionStatus) : Except String Bool :=
  match completion with
  | none => .error
      "Canonical Shopify customer refund evidence is unavailable for shipping-only remediation."
  | some .verifiedPartial => .ok true
  | some .verifiedFull => .error "Customer refund is already complete in canonical Shopify state."
  | some _ => .error
      "Canonical Shopify customer refund state is unresolved for shipping-only remediation."

namespace AdminRefundAllocation

variable (a : AdminRefundAllocation) (shippingOnly : Bool)

/-- The checks of an execution before it looks for an attempt. -/
def checkExecution : Except String Unit := do
  require (a.reviewStatus ≠ some .shopifyActionPending)
    "A Shopify refund action is already pending for this allocation."
  require (a.reviewStatus = some .pendingReview ∨ a.reviewStatus = some .customerContacted ∨
      (shippingOnly = true ∧ a.reviewStatus = some .resolved))
    "Allocation must be in cancel/refund review before Shopify refund execution."
  require (shippingOnly = true ∨ a.hasCompletedEconomicTransfer = false)
    "Allocation cannot be Shopify-refunded after economic transfer completed."
  require (a.evidence.hasShipmentEvidence = false) ("Allocation cannot be Shopify-refunded after " ++
    "fulfillment, shipment, carrier, or tracking evidence exists.")
  require (a.hasReturnRecords = false ∨
      (shippingOnly = true ∧ a.evidence.onlyRefundDerivedReturnEvidence = true))
    "Allocation cannot be Shopify-refunded after return evidence exists."
  require (a.hasRefundState = false ∨ shippingOnly = true)
    "Allocation cannot be Shopify-refunded after refund evidence exists."
  require (shippingOnly = true ∨ a.hasFinanceIntegrityAlerts = false)
    ("Allocation has open or acknowledged finance integrity alerts and cannot be " ++
      "Shopify-refunded.")
  require (shippingOnly = true ∨ a.evidence.hasSettlementPayoutOrLogoEvidence = false)
    ("Allocation cannot be Shopify-refunded through this flow after settlement, payout, vendor " ++
      "payment, or Logo invoice evidence exists.")

/-- The checks of a preview before it looks for an attempt. -/
def checkPreview : Except String Unit := do
  require (a.reviewStatus.any isBlockingReviewStatus = true ∨
      (shippingOnly = true ∧ a.reviewStatus = some .resolved))
    "Allocation must be in cancel/refund review before Shopify refund preview."
  require (shippingOnly = true ∨ a.hasCompletedEconomicTransfer = false)
    "Allocation cannot be previewed for Shopify refund after economic transfer completed."
  require (a.evidence.hasShipmentEvidence = false)
    ("Allocation cannot be previewed for Shopify refund after fulfillment, shipment, carrier, or " ++
      "tracking evidence exists.")
  require (a.hasReturnRecords = false ∨
      (shippingOnly = true ∧ a.evidence.onlyRefundDerivedReturnEvidence = true))
    "Allocation cannot be previewed for Shopify refund after return evidence exists."
  require (a.hasRefundState = false ∨ shippingOnly = true)
    "Allocation cannot be previewed for Shopify refund after refund evidence exists."
  require (shippingOnly = true ∨ a.hasFinanceIntegrityAlerts = false)
    ("Allocation has open or acknowledged finance integrity alerts and cannot be previewed for " ++
      "Shopify refund.")

/-- The lines of the allocation that can be refunded; a line without its order line is left
out. -/
def refundLineItems : List SubmittedRefundLine :=
  if shippingOnly then []
  else a.lineItems.filterMap fun l => l.1.map fun lineItemId =>
    ⟨lineItemId, l.2, none, none, none, none⟩

/-- A line lacks its order line or a quantity, or there is none at all. -/
def hasLineItemBlockers : Bool :=
  !shippingOnly && (a.lineItems.isEmpty || a.lineItems.any fun l => l.1.isNone || decide (l.2 = 0))

end AdminRefundAllocation

/-! ## The store -/

/-- What came of a call of `createShopifyRefund`. -/
inductive RefundCallOutcome
  /-- The refund of the key exists. -/
  | created (refundId : Id)
  | userErrors
  /-- The call failed without effect. -/
  | noEffect
  deriving DecidableEq

structure RefundCall where
  input : CreateShopifyRefundInput
  outcome : RefundCallOutcome
  /-- The owner of the active shipping claim of the order at the time of the call. -/
  shippingOwner : Option Id
  deriving DecidableEq

structure AdminRefundStore where
  db : CancellationDb
  /-- The calls of `createShopifyRefund` so far. -/
  calls : List RefundCall

namespace AdminRefundStore

variable (s : AdminRefundStore)

def withDb (db : CancellationDb) : AdminRefundStore := { s with db }

/-- The owner of the order's active claim. -/
def shippingOwner (shopifyOrderId : Id) : Option Id :=
  (s.db.orderShippingRefundClaim.find? fun c =>
    decide (c.status = .active) && decide (c.activeOrderKey = some shopifyOrderId)).map
      (·.ownerAttemptId)

/-- The refund that Shopify has created for the key. -/
def refundOf (key : ShopifyRefundIdempotencyKey) : Option Id :=
  (s.calls.filter fun c => decide (c.input.idempotencyKey = key)).findSome? fun c =>
    match c.outcome with
    | .created refundId => some refundId
    | _ => none

/-- Shopify may answer so: a key that it has seen with the refund of that key, and any other with a
new refund or none. -/
def Answers (input : CreateShopifyRefundInput) : RefundCallOutcome → Prop
  | .created refundId =>
      match s.refundOf input.idempotencyKey with
      | some earlier => refundId = earlier
      | none => ∀ c ∈ s.calls, c.outcome ≠ .created refundId
  | .userErrors => s.refundOf input.idempotencyKey = none
  | .noEffect => True

instance (input : CreateShopifyRefundInput) (outcome : RefundCallOutcome) :
    Decidable (s.Answers input outcome) := by
  cases outcome with
  | created refundId =>
      unfold Answers
      dsimp only
      split <;> infer_instance
  | userErrors => exact inferInstanceAs (Decidable (_ = _))
  | noEffect => exact inferInstanceAs (Decidable True)

def createShopifyRefund (input : CreateShopifyRefundInput) (outcome : RefundCallOutcome) :
    Option AdminRefundStore :=
  if s.Answers input outcome then
    some { s with calls := s.calls ++ [⟨input, outcome, s.shippingOwner input.orderId⟩] }
  else none

end AdminRefundStore

/-! ## Positions -/

/-- An execution that has passed its checks. -/
structure RefundRequest where
  target : RefundTarget
  confirmed : ConfirmedExecution
  currency : Option String
  shippingOnly : Bool
  refundLineItems : List SubmittedRefundLine

/-- An execution that has an attempt. -/
structure RefundExecution extends RefundRequest where
  attemptId : Id
  postRefundFulfillmentCheckRequired : Bool

namespace RefundExecution

variable (e : RefundExecution)

/-- `buildShopifyRefundIdempotencyKey`. -/
def key : ShopifyRefundIdempotencyKey := ⟨e.target.allocationId, e.attemptId⟩

end RefundExecution

inductive FulfillmentOrderCancellationOverallClassification
  | safeToCancel | noCancellationNeeded | postCheckRequired | blocked | unknown
  deriving DecidableEq

/-- What an execution uses of the classification of the fulfillment orders. -/
structure FulfillmentOrderCancellation where
  overallClassification : FulfillmentOrderCancellationOverallClassification
  /-- The verdict of `evaluateMixedFulfillmentOrderDirectRefundProbe`. -/
  probeEligible : Bool
  /-- `resolveRefundLineItemLocationIds` finds one location for each line. -/
  locationsResolved : Bool
  /-- The number of affected fulfillment orders that are safe to cancel. -/
  safeFulfillmentOrders : ℕ
  deriving DecidableEq

def createShippingOnlyFulfillmentClassification : FulfillmentOrderCancellation :=
  ⟨.noCancellationNeeded, false, true, 0⟩

inductive AdminRefundOutcome
  | previewed
  | submitted (attemptId : Id) (shopifyRefundId : Option Id)
      (postRefundFulfillmentCheck : Option String)
  | error (message : String)
  deriving DecidableEq

inductive AdminRefundPosition
  | readAllocation (target : RefundTarget) (confirmed : Option ConfirmedExecution)
  | readExecutionMode (target : RefundTarget) (confirmed : Option ConfirmedExecution)
      (allocation : AdminRefundAllocation)
  | readEligibility (target : RefundTarget) (confirmed : Option ConfirmedExecution)
      (allocation : AdminRefundAllocation) (shippingOnly : Bool)
  -- a preview
  | readPendingAttempt (target : RefundTarget) (allocation : AdminRefundAllocation)
      (shippingOnly : Bool)
  | previewShopify (target : RefundTarget) (refundLineItems : List SubmittedRefundLine)
  | readPreview (input : CreatePreviewAttemptInput)
  | writePreview (existing : Option Id) (input : CreatePreviewAttemptInput)
  -- an execution, up to its attempt
  | readActiveAttempt (request : RefundRequest) (blocked refundShipping : Bool)
  | readLock (request : RefundRequest) (refundShipping : Bool)
  | writeLock (existing : Option Id) (request : RefundRequest) (refundShipping : Bool)
  -- an execution, up to the refund
  | classify (e : RefundExecution)
  | cancelFulfillmentOrder (remaining : ℕ) (e : RefundExecution)
  | readEligibilityAgain (e : RefundExecution)
  | readClaimAttempt (e : RefundExecution)
  | readOwnClaim (e : RefundExecution)
  | createClaim (again : Bool) (e : RefundExecution)
  | readConflictingClaim (again : Bool) (e : RefundExecution)
  | previewShippingMaximum (e : RefundExecution)
  | previewRefund (shippingAmount : Option ℤ) (e : RefundExecution)
  | createShopifyRefund (input : CreateShopifyRefundInput) (e : RefundExecution)
  | failAttempt (response again : Bool) (e : RefundExecution)
  -- an execution, after the refund
  | checkShipping (refundId : Option Id) (e : RefundExecution)
  | checkCanonicalRefunds (refundId : Option Id) (e : RefundExecution)
  | checkFulfillment (refundId : Option Id) (e : RefundExecution)
  | markSubmitted (refundId : Option Id) (check : Option String) (e : RefundExecution)
  | updateReview (refundId : Option Id) (check : Option String) (e : RefundExecution)
  | ended (outcome : AdminRefundOutcome)

/-- What a statement or a call to Shopify answers. -/
inductive AdminRefundAnswer
  | statement (now : Instant)
  /-- A statement that may insert a row with the identifier. -/
  | inserted (id : Id) (now : Instant)
  | evidence (evidence : AdminRefundEvidence)
  | completion (completion : Option CustomerRefundCompletionStatus)
  | eligibility (allocations : List CustomerCheckoutShippingAllocationEvidence)
  | classification (classification : FulfillmentOrderCancellation)
  | cancelled (userErrors : Bool)
  | preview (result : PreviewSuggestedRefundResult)
  /-- What a preview makes of Shopify's answers. -/
  | previewed (refundShipping : Bool) (refundLineItems : List SubmittedRefundLine)
  /-- The refund exists; the answer need not name it. -/
  | created (refundId : Id) (named : Bool)
  | userErrors
  | fulfillmentCheck (passed : Bool)

inductive AdminRefundReply
  | answered (answer : AdminRefundAnswer)
  /-- The call took effect and its answer was lost. -/
  | lost (answer : AdminRefundAnswer)
  /-- The call failed without effect. -/
  | failed
  | crash

def CALL_FAILED : String := "The call failed."

def CALL_CRASHED : String := "The process crashed."

namespace AdminRefundPosition

def hasEnded : AdminRefundPosition → Bool
  | .ended _ => true
  | _ => false

def stop (message : String) : AdminRefundPosition := .ended (.error message)

/-- A call begins. -/
def start (call : AdminRefundCall) : AdminRefundPosition :=
  match call.check with
  | .error message => stop message
  | .ok (target, confirmed) => .readAllocation target confirmed

/-- The loop that cancels the fulfillment orders. -/
def cancelFulfillmentOrders (e : RefundExecution) : ℕ → AdminRefundPosition
  | 0 => .readEligibilityAgain e
  | remaining + 1 => .cancelFulfillmentOrder remaining e

/-- After the fulfillment orders are classified. -/
def classified (e : RefundExecution) (c : FulfillmentOrderCancellation) : AdminRefundPosition :=
  let probeAllowed := e.confirmed.confirmMixedFulfillmentOrderDirectRefundProbe && c.probeEligible
  let checkRequired := decide (c.overallClassification = .postCheckRequired) || probeAllowed
  if (c.overallClassification = .blocked ∨ c.overallClassification = .unknown) ∧
      probeAllowed = false then .failAttempt false false e
  else if checkRequired = true ∧ e.confirmed.confirmPostRefundFulfillmentCheck = false then
    .failAttempt false false e
  else if e.target.restockType = .cancel ∧ e.shippingOnly = false ∧ c.locationsResolved = false then
    .failAttempt false false e
  else cancelFulfillmentOrders { e with postRefundFulfillmentCheckRequired := checkRequired }
    (if probeAllowed then 0 else c.safeFulfillmentOrders)

/-- The attempt of an execution is known. -/
def withAttempt (request : RefundRequest) (attemptId : Id) : AdminRefundPosition :=
  let e : RefundExecution := ⟨request, attemptId, false⟩
  if request.shippingOnly then classified e createShippingOnlyFulfillmentClassification
  else .classify e

def claimed (e : RefundExecution) : ClaimAcquisition → AdminRefundPosition
  | .acquired | .sameOwner => .previewShippingMaximum e
  | .ownedByAnotherAttempt | .ownerTerminal => .failAttempt false false e

/-- What an execution makes of the shipping that may still be refunded. -/
def shippingMaximum (e : RefundExecution) (p : PreviewSuggestedRefundResult) :
    AdminRefundPosition :=
  let amount := p.suggestedRefund.bind (·.shippingMaximumRefundableAmount)
  let currency := p.suggestedRefund.bind (·.shippingCurrencyCode)
  if p.graphqlErrors ≠ [] then stop "Shopify current refundable checkout shipping read failed."
  else if amount = none ∨ presentText currency = none then
    stop "Shopify current refundable checkout shipping evidence is unavailable."
  else if isPositiveMoneyAmount amount then
    if currencyConflict e.currency currency then
      stop "Shopify checkout shipping currency conflicts with the order currency."
    else .previewRefund amount e
  else if e.shippingOnly then
    stop ("Shopify reports no remaining refundable checkout shipping; canonical reconciliation " ++
      "is required.")
  else .previewRefund none e

/-- What an execution makes of the suggested refund. -/
def suggestedRefund (e : RefundExecution) (shippingAmount : Option ℤ)
    (p : PreviewSuggestedRefundResult) : AdminRefundPosition :=
  let (blockers, transactions) := validateSuggestedRefundForSubmission p e.currency
  if blockers ≠ [] then .failAttempt true false e
  else if e.target.restockType = .cancel ∧
      ∃ l ∈ p.refundLineItemsPreview, l.1 ∉ e.refundLineItems.map (·.lineItemId) then
    stop "Missing Shopify locationId required for restockType CANCEL."
  else .createShopifyRefund
    { orderId := e.target.shopifyOrderId
      refundLineItems := p.refundLineItemsPreview
      locationId := none
      transactions := transactions
      shipping := shippingAmount
      idempotencyKey := e.key } e

def afterShippingChecks (refundId : Option Id) (e : RefundExecution) : AdminRefundPosition :=
  if e.postRefundFulfillmentCheckRequired then .checkFulfillment refundId e
  else .markSubmitted refundId none e

/-- The refund was submitted without user errors. -/
def refunded (refundId : Option Id) (shipping : Option ℤ) (e : RefundExecution) :
    AdminRefundPosition :=
  if shipping.isSome then .checkShipping refundId e else afterShippingChecks refundId e

def checkedFulfillment (refundId : Option Id) (passed : Bool) (e : RefundExecution) :
    AdminRefundPosition :=
  .markSubmitted refundId (some (if passed then "passed" else "warning")) e

/-- The checks after the allocation's eligibility is read. -/
def checkedAllocation (target : RefundTarget) (confirmed : Option ConfirmedExecution)
    (allocation : AdminRefundAllocation) (shippingOnly eligible : Bool) : AdminRefundPosition :=
  match confirmed with
  | none =>
      match allocation.checkPreview shippingOnly with
      | .error message => stop message
      | .ok _ => .readPendingAttempt target allocation shippingOnly
  | some confirmed =>
      match allocation.checkExecution shippingOnly with
      | .error message => stop message
      | .ok _ => .readActiveAttempt ⟨target, confirmed, allocation.currency, shippingOnly,
          allocation.refundLineItems shippingOnly⟩ (allocation.hasLineItemBlockers shippingOnly)
            eligible

end AdminRefundPosition

/-! ## Steps -/

namespace CancellationDb

variable (db : CancellationDb)

/-- `findOpenOutboundShopifyRefundAttemptForAllocation`. -/
def findOpenOutboundShopifyRefundAttemptForAllocation (vendorAllocationId : Id) :
    Option OutboundShopifyRefundAttempt :=
  latestBy OutboundShopifyRefundAttempt.requestedAt (db.outboundShopifyRefundAttempt.filter fun a =>
    decide (a.vendorAllocationId = vendorAllocationId) &&
      decide (a.status = .shopifyActionPending))

/-- The insert of a claim, none when it is not unique. -/
def insertShippingClaim (shopifyOrderId attemptId claimId : Id) (now : Instant) :
    Option CancellationDb :=
  if claimId ∈ db.orderShippingRefundClaim.map (·.id) then none
  else if (db.conflictingClaim shopifyOrderId attemptId).isSome then none
  else some { db with
    orderShippingRefundClaim := db.orderShippingRefundClaim ++
      [⟨claimId, shopifyOrderId, attemptId, some shopifyOrderId, .active, now⟩] }

/-- The last write of an execution. -/
def setReviewActionPending (vendorAllocationId : Id) : CancellationDb :=
  { db with
    vendorAllocation := updateWhere (fun a => decide (a.id = vendorAllocationId))
      (fun a => { a with cancelRefundReviewStatus := some .shopifyActionPending })
      db.vendorAllocation }

end CancellationDb

namespace AdminRefundPosition

/-- A step whose answer arrives. -/
def answer (s : AdminRefundStore) : AdminRefundPosition → AdminRefundAnswer →
    Option (AdminRefundStore × AdminRefundPosition)
  | .readAllocation target confirmed, .evidence evidence =>
      some (s, match s.db.findAdminRefundAllocation target evidence with
        | none => stop "Allocation not found for Shopify order."
        | some allocation =>
            if allocation.hasRefundState then .readExecutionMode target confirmed allocation
            else .readEligibility target confirmed allocation false)
  | .readExecutionMode target confirmed allocation, .completion completion =>
      some (s, match executionModeOf completion with
        | .error message => stop message
        | .ok shippingOnly => .readEligibility target confirmed allocation shippingOnly)
  | .readEligibility target confirmed allocation shippingOnly, .eligibility allocations =>
      some (s, checkedAllocation target confirmed allocation shippingOnly (decide
        ((evaluateCustomerCheckoutShippingRefundEligibility target.allocationId allocations).1 =
          .eligible)))
  | .readPendingAttempt target allocation shippingOnly, .statement _ =>
      let refundLineItems := allocation.refundLineItems shippingOnly
      some (s,
        if (s.db.findOpenOutboundShopifyRefundAttemptForAllocation target.allocationId).isSome then
          stop "A Shopify refund attempt is already pending for this allocation."
        else if allocation.hasLineItemBlockers shippingOnly then
          .readPreview ⟨target.allocationId, target.shopifyOrderId, false, refundLineItems⟩
        else .previewShopify target refundLineItems)
  | .previewShopify target _, .previewed refundShipping refundLineItems =>
      some (s, .readPreview
        ⟨target.allocationId, target.shopifyOrderId, refundShipping, refundLineItems⟩)
  | .readPreview input, .statement _ =>
      some (s, .writePreview ((s.db.existingPreview input.vendorAllocationId).map (·.id)) input)
  | .writePreview existing input, .inserted newId now =>
      (s.db.writePreview existing input newId now).toOption.map fun db =>
        (s.withDb db, .ended .previewed)
  | .readActiveAttempt request blocked refundShipping, .statement _ =>
      some (s,
        match s.db.findActiveOutboundShopifyRefundAttemptForAllocation request.target.allocationId
          with
        | none => if blocked then stop "Allocation has no line items to execute for refund."
            else .readLock request refundShipping
        | some attempt =>
            if attempt.status = .shopifyActionPending then
              stop "A Shopify refund attempt is already pending for this allocation."
            else if blocked then stop "Allocation has no line items to execute for refund."
            else withAttempt request attempt.id)
  | .readLock request refundShipping, .statement _ =>
      some (s, .writeLock ((s.db.existingPreview request.target.allocationId).map (·.id)) request
        refundShipping)
  | .writeLock existing request refundShipping, .inserted newId now =>
      (s.db.writeExecution existing ⟨request.target.allocationId, request.target.shopifyOrderId,
        refundShipping, request.refundLineItems⟩ newId now).toOption.map fun db =>
          (s.withDb db, withAttempt request (existing.getD newId))
  | .classify e, .classification c => some (s, classified e c)
  | .cancelFulfillmentOrder remaining e, .cancelled userErrors =>
      some (s, if userErrors then .failAttempt true true e
        else cancelFulfillmentOrders e remaining)
  | .readEligibilityAgain e, .eligibility allocations =>
      some (s, if (evaluateCustomerCheckoutShippingRefundEligibility e.target.allocationId
          allocations).1 = .eligible then .readClaimAttempt e else .previewRefund none e)
  | .readClaimAttempt e, .statement _ =>
      some (s, match (s.db.findAttempt e.attemptId).filter fun a =>
          decide (a.shopifyOrderId = e.target.shopifyOrderId) with
        | none => stop "Refund attempt does not belong to the requested Shopify order."
        | some attempt =>
            if attempt.status = .readyToSubmit ∨ attempt.status = .shopifyActionPending then
              .readOwnClaim e
            else stop "Refund attempt must be nonterminal before acquiring shipping ownership.")
  | .readOwnClaim e, .statement _ =>
      some (s, match findRow OrderShippingRefundClaim.ownerAttemptId e.attemptId
          s.db.orderShippingRefundClaim with
        | none => .createClaim false e
        | some claim =>
            if claim.shopifyOrderId = e.target.shopifyOrderId then
              claimed e (ownClaimOutcome claim e.target.shopifyOrderId)
            else stop "Refund attempt shipping ownership belongs to another Shopify order.")
  | .createClaim again e, .inserted claimId now =>
      match s.db.conflictingClaim e.target.shopifyOrderId e.attemptId with
      | some _ => some (s, .readConflictingClaim again e)
      | none => (s.db.insertShippingClaim e.target.shopifyOrderId e.attemptId claimId now).map
          fun db => (s.withDb db, claimed e .acquired)
  | .readConflictingClaim again e, .statement _ =>
      some (s, match s.db.conflictingClaim e.target.shopifyOrderId e.attemptId with
        | none => if again then stop ("Shipping refund ownership changed concurrently; retry the " ++
            "same logical attempt.") else .createClaim true e
        | some claim => claimed e (if claim.ownerAttemptId = e.attemptId then
            ownClaimOutcome claim e.target.shopifyOrderId else .ownedByAnotherAttempt))
  | .previewShippingMaximum e, .preview p => some (s, shippingMaximum e p)
  | .previewRefund shippingAmount e, .preview p => some (s, suggestedRefund e shippingAmount p)
  | .createShopifyRefund input e, .created refundId named =>
      (s.createShopifyRefund input (.created refundId)).map fun s =>
        (s, refunded (if named then some refundId else none) input.shipping e)
  | .createShopifyRefund input e, .userErrors =>
      (s.createShopifyRefund input .userErrors).map fun s => (s, .failAttempt true false e)
  | .failAttempt response again e, .statement _ =>
      some (s.withDb (s.db.markOutboundShopifyRefundAttemptFailed e.attemptId response),
        if again then .failAttempt true false e else stop "The refund attempt failed.")
  | .checkShipping refundId e, .preview _ => some (s, .checkCanonicalRefunds refundId e)
  | .checkCanonicalRefunds refundId e, .completion _ => some (s, afterShippingChecks refundId e)
  | .checkFulfillment refundId e, .fulfillmentCheck passed =>
      some (s, checkedFulfillment refundId passed e)
  | .markSubmitted refundId check e, .statement _ =>
      some (s.withDb (s.db.markOutboundShopifyRefundAttemptSubmitted e.attemptId refundId check),
        .updateReview refundId check e)
  | .updateReview refundId check e, .statement _ =>
      some (s.withDb (s.db.setReviewActionPending e.target.allocationId),
        .ended (.submitted e.attemptId refundId check))
  | _, _ => none

/-- Where a call goes on when a statement or a call to Shopify throws. -/
def thrown : AdminRefundPosition → AdminRefundPosition
  | .classify e => .failAttempt false false e
  | .cancelFulfillmentOrder _ e => .failAttempt true false e
  | .failAttempt _ true e => .failAttempt true false e
  | .checkShipping refundId e => .checkCanonicalRefunds refundId e
  | .checkCanonicalRefunds refundId e => afterShippingChecks refundId e
  | .checkFulfillment refundId e => checkedFulfillment refundId false e
  | _ => stop CALL_FAILED

/-- What a call that throws without effect leaves in the store. -/
def failed (s : AdminRefundStore) : AdminRefundPosition → Option AdminRefundStore
  | .createShopifyRefund input _ => s.createShopifyRefund input .noEffect
  | _ => some s

/-- The next step of a call. -/
def run (reply : AdminRefundReply) (s : AdminRefundStore) (position : AdminRefundPosition) :
    Option (AdminRefundStore × AdminRefundPosition) :=
  match position, reply with
  | .ended _, _ => none
  | _, .crash => some (s, stop CALL_CRASHED)
  | _, .failed => (position.failed s).map fun s => (s, position.thrown)
  | _, .lost .userErrors => none
  | _, .lost answer => (position.answer s answer).map fun (s, _) => (s, position.thrown)
  | _, .answered answer => position.answer s answer

end AdminRefundPosition

/-! ## The system -/

/-- A refund of Shopify that is ingested. -/
structure RefundWebhook where
  event : RefundEvent
  now : Instant

def RefundWebhook.ingest (webhook : RefundWebhook) (s : AdminRefundStore) :
    Option AdminRefundStore :=
  (s.db.ingestShopifyRefundWebhook webhook.event webhook.now).toOption.map s.withDb

/-- The calls over the tables, and `outside`, what else writes them. -/
def adminRefunds {ε : Type} (outside : ε → AdminRefundStore → Option AdminRefundStore) :
    Program AdminRefundStore AdminRefundPosition AdminRefundCall AdminRefundReply ε where
  start := .start
  run := fun _ reply s position => position.run reply s
  outside := outside

end VendorDashboard.Orders

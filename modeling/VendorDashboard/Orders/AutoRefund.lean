import VendorDashboard.Orders.RefundAttempts
import VendorDashboard.Orders.ShopifyAnswers

/-!
# The automatic refund of a cancellation item

The parts of `processCustomerCancellationAutoRefundItem`, in the order in which a job runs
them:

* `canonicalRefundsCoverItem` compares Shopify's refunds with what the item's attempt recorded,
  and `reconcileItem` commits a positive answer;
* `classifyCustomerCancellationAutoRefundEligibility` decides, from local rows and Shopify's
  answers, whether the item may be refunded, and with which context;
* `approveAndCreateAttempt` approves the item and creates its attempt from a context;
* `buildCustomerCancellationRefundSubmission` turns a context into the request to Shopify.

A classification other than `CLEAN` is the error of the check that found it.
-/

namespace VendorDashboard.Orders

open Finance (Id Instant CustomerCancellationStatus)
open Table Transaction Text

inductive CustomerCancellationAutoRefundClassification
  | tooLate | conflicted | financeConflict | canonicalUnavailable | refundConflict
  | siblingInProgress | otherUnsafe
  deriving DecidableEq

/-- A classification that is not `CLEAN`, with its reason. -/
abbrev Rejection := CustomerCancellationAutoRefundClassification × String

structure CustomerCancellationAutoRefundCleanContext where
  sourceShopifyOrderId : Id
  orderCurrency : Option String
  allocationId : Id
  sourceLineItemId : Id
  requestedQuantity : ℕ
  preRefundCurrentQuantity : ℤ
  preRefundRefundableQuantity : ℤ
  locationId : Id
  productRefundAmount : Option ℤ
  shippingRefundAmount : Option ℤ
  shippingRefundCurrencyCode : Option String
  preview : PreviewSuggestedRefundResult

/-! ## Reconciliation with Shopify's refunds -/

/-- The refunds that moved money and, once the attempt carries a refund, are that refund. -/
def relevantRefunds (attempt : Option OutboundShopifyRefundAttempt) (refunds : CanonicalRefunds) :
    List CanonicalRefund :=
  let monetaryIds := ((classifyCanonicalRefundMonetaryEvidence refunds).filter fun e =>
    decide (e.2 = .monetaryRefund)).map Prod.fst
  refunds.refunds.filter fun r =>
    decide (r.sourceShopifyRefundId ∈ monetaryIds) &&
      (attempt.bind (·.shopifyRefundId)).all fun id => decide (r.sourceShopifyRefundId = id)

/-- The shipping that Shopify refunded for the whole order is what the attempt intended. -/
def shippingReconciles (submittedLine : SubmittedRefundLine) (refunds : CanonicalRefunds) : Bool :=
  match submittedLine.intendedShippingRefundMinor with
  | none => true
  | some intended =>
      decide (refunds.orderTotalRefundedShippingAmount.getD 0 = intended) &&
        (decide (intended ≤ 0) ||
          match normalizedCurrency submittedLine.intendedShippingRefundCurrencyCode,
            normalizedCurrency refunds.orderTotalRefundedShippingCurrencyCode with
          | some intendedCurrency, some refundedCurrency => intendedCurrency == refundedCurrency
          | _, _ => false)

/-- The line's quantities have fallen by the requested quantity since the attempt was created. -/
def quantitiesReconcile (submittedLine : SubmittedRefundLine) (order : OrderSnapshot)
    (sourceLineItemId : Id) (requestedQuantity : ℕ) : Bool :=
  match submittedLine.preRefundCurrentQuantity, submittedLine.preRefundRefundableQuantity,
      order.lineItems.find? fun l => decide (l.lineItemId = sourceLineItemId) with
  | some preCurrent, some preRefundable, some canonicalLine =>
      (canonicalLine.currentQuantity.any fun q => decide (requestedQuantity ≤ preCurrent - q)) &&
        canonicalLine.refundableQuantity.any fun q =>
          decide (requestedQuantity ≤ preRefundable - q)
  | _, _, _ => false

/-- The evidence check of `reconcileCustomerCancellationItemFromCanonicalRefunds`. -/
def canonicalRefundsCoverItem (attempt : Option OutboundShopifyRefundAttempt)
    (sourceLineItemId : Id) (requestedQuantity : ℕ) (refunds : CanonicalRefunds)
    (order : OrderSnapshot) : Bool :=
  decide (((relevantRefunds attempt refunds).map fun r =>
      exactRefundedQuantity r sourceLineItemId).sum = requestedQuantity) &&
    (attempt.bind (·.refundLineItemsJson.head?)).any fun submittedLine =>
      quantitiesReconcile submittedLine order sourceLineItemId requestedQuantity &&
        shippingReconciles submittedLine refunds

namespace CancellationDb

variable (db : CancellationDb)

/-- The transaction of `reconcileCustomerCancellationItemFromCanonicalRefunds`. -/
def reconcileItem (itemId : Id) (now : Instant) : CancellationDb :=
  match db.findItem itemId with
  | none => db
  | some current =>
      if current.status ≠ .approvedForRefund then db
      else
        let statuses := statusesWith (db.itemsOf current.requestId) itemId
          .refundedAwaitingOrderCancel
        let moved := db.moveItem current .refundedAwaitingOrderCancel
          (some current.requestedQuantity) statuses
          (if allTerminal statuses then some now else none)
        { moved with
          outboundShopifyRefundAttempt :=
            updateWhere (fun a => decide (a.customerCancellationRequestItemId = some itemId))
              (fun a => { a with status := .resolved }) moved.outboundShopifyRefundAttempt }

/-- The whole of `reconcileCustomerCancellationItemFromCanonicalRefunds`, for the answers of
Shopify to its two reads: what it returns, and the tables after it. -/
def reconcileCustomerCancellationItemFromCanonicalRefunds (itemId : Id)
    (refunds : Option CanonicalRefunds) (order : Option OrderSnapshot) (now : Instant) :
    Bool × CancellationDb :=
  match db.findItem itemId with
  | none => (false, db)
  | some item =>
      if item.status = .refundedAwaitingOrderCancel then (true, db)
      else if item.status ≠ .approvedForRefund then (false, db)
      else match refunds, order, db.sourceLineItemIdOf item.shopifyOrderLineItemId with
        | some refunds, some order, some sourceLineItemId =>
            if canonicalRefundsCoverItem (db.attemptOf itemId) sourceLineItemId
                item.requestedQuantity refunds order then
              (true, db.reconcileItem itemId now)
            else (false, db)
        | _, _, _ => (false, db)

/-! ## Classification -/

/-- A sibling of the item has an attempt on its way. -/
def activeSiblingAttempt (item : CustomerCancellationRequestItem) : Bool :=
  (db.itemsOf item.requestId).any fun candidate =>
    decide (candidate.id ≠ item.id) &&
      (db.attemptOf candidate.id).any fun a => a.status.isActive

/-- The item is on exactly one line of its allocation, with enough quantity. -/
def hasExactMapping (item : CustomerCancellationRequestItem) : Bool :=
  match (db.allocationLineItemsOf item.shopifyOrderLineItemId).filter fun l =>
      decide (l.vendorAllocationId = item.vendorAllocationId) with
  | [l] => decide (item.requestedQuantity ≤ l.quantity)
  | _ => false

def classifyLocal (item : CustomerCancellationRequestItem) (allocation : VendorAllocation)
    (sourceLineItemId : Id) : Except Rejection Unit := do
  require (item.status = .pending ∨ item.status = .approvedForRefund)
    (.otherUnsafe, "Cancellation item is terminal or not processable.")
  require (db.hasExactMapping item = true)
    (.conflicted, "Exact local allocation/line/quantity mapping is unavailable.")
  require (allocation.allocationStatus = .active ∧ allocation.reassignmentRequired = false ∧
      allocation.hasCancellationReason = false ∧ allocation.cancelRefundReviewStatus = none)
    (.conflicted, "Allocation authority is not clean and active.")
  require (allocation.localShipmentConflict = false)
    (.tooLate, "Local shipment or fulfillment authority exists.")
  require (allocation.hasReturnRecords = false)
    (.conflicted, "Local return evidence overlaps the allocation.")
  require (∀ refund ∈ allocation.refundRecords, ∀ line ∈ refund,
      ¬(line.1 = sourceLineItemId ∧ 0 < line.2))
    (.refundConflict, "Local refund evidence overlaps the exact line item.")
  require (db.activeSiblingAttempt item = false)
    (.siblingInProgress, "A sibling full-order refund item is still active.")
  require (∀ a ∈ db.activeAttemptsOf allocation.id,
      a.customerCancellationRequestItemId = some item.id)
    (.refundConflict, "Another active refund attempt owns the allocation.")
  require (allocation.hasCompletedEconomicTransfer = false ∧
      allocation.hasOpenFinanceIntegrityAlert = false ∧ allocation.hasFinanceConflict = false)
    (.financeConflict, "Vendor economics have progressed or require finance review.")
  require (0 < item.requestedQuantity ∧ item.requestedQuantity ≤ MAX_SAFE_INTEGER)
    (.otherUnsafe, "Requested quantity is invalid.")

end CancellationDb

/-- The one fulfillment order that owns the line, with the location to restock to. -/
def classifyFulfillmentOrders (fulfillmentOrders : List FulfillmentOrder) (sourceLineItemId : Id)
    (requestedQuantity : ℕ) : Except Rejection Id := do
  let owners := fulfillmentOrders.filter fun o =>
    o.lineItems.any fun l => decide (l.lineItemId = sourceLineItemId)
  let owner ← getOrThrow (if owners.length = 1 then owners.head? else none)
    (.conflicted, "FulfillmentOrder ownership is ambiguous.")
  require (owner.status.map toUpperCase = some "OPEN" ∧
      owner.requestStatus.map toUpperCase = some "UNSUBMITTED" ∧
      ((owner.lineItems.find? fun l => decide (l.lineItemId = sourceLineItemId)).bind
        (·.remainingQuantity)).any (fun q => decide ((requestedQuantity : ℤ) ≤ q)) = true)
    (.tooLate,
      "FulfillmentOrder is not clean OPEN/UNSUBMITTED with sufficient remaining quantity.")
  getOrThrow owner.assignedLocationId (.otherUnsafe, "Required restock location is unavailable.")

/-- The quantity of a line in a preview is the requested one. -/
def previewQuantityMatches (preview : PreviewSuggestedRefundResult) (sourceLineItemId : Id)
    (requestedQuantity : ℕ) : Bool :=
  (preview.refundLineItemsPreview.find? fun l => decide (l.1 = sourceLineItemId)).any fun l =>
    decide (l.2 = requestedQuantity)

/-- A blocker list as the reason of a rejection. -/
def joinBlockers (blockers : List String) : String :=
  if blockers = [] then "Suggested refund quantity did not match."
  else String.intercalate " " blockers

/-- The checks of Shopify's order, refunds, returns and fulfillment orders; they answer with the
line's quantities and the restock location. -/
def classifyCanonicalReads (reads : CanonicalReads) (sourceLineItemId : Id)
    (requestedQuantity : ℕ) : Except Rejection (ℤ × ℤ × Id) := do
  let order ← getOrThrow reads.order (.canonicalUnavailable,
    "Canonical Shopify order/refund/return evidence is unavailable.")
  let refunds ← getOrThrow reads.refunds (.canonicalUnavailable,
    "Canonical Shopify order/refund/return evidence is unavailable.")
  let returns ← getOrThrow reads.returns (.canonicalUnavailable,
    "Canonical Shopify order/refund/return evidence is unavailable.")
  require (order.cancelled = false) (.conflicted, "Canonical Shopify order is cancelled.")
  let canonicalLine := order.lineItems.find? fun l => decide (l.lineItemId = sourceLineItemId)
  let current ← getOrThrow (canonicalLine.bind (·.currentQuantity))
    (.conflicted, "Canonical current/refundable quantity is insufficient.")
  let refundable ← getOrThrow (canonicalLine.bind (·.refundableQuantity))
    (.conflicted, "Canonical current/refundable quantity is insufficient.")
  require ((requestedQuantity : ℤ) ≤ current ∧ (requestedQuantity : ℤ) ≤ refundable)
    (.conflicted, "Canonical current/refundable quantity is insufficient.")
  require (∀ refund ∈ refunds.refunds, exactRefundedQuantity refund sourceLineItemId = 0)
    (.refundConflict, "Canonical refund evidence already overlaps the line item.")
  require (∀ record ∈ returns, sourceLineItemId ∉ record)
    (.conflicted, "Canonical return evidence overlaps the line item.")
  let locationId ← classifyFulfillmentOrders reads.fulfillmentOrders sourceLineItemId
    requestedQuantity
  pure (current, refundable, locationId)

/-- The shipping that may still be refunded, with its currency. -/
def classifyShippingMaximum (preview : PreviewSuggestedRefundResult)
    (orderCurrency : Option String) : Except Rejection (ℤ × Option String) := do
  require (preview.graphqlErrors = [])
    (.financeConflict, String.intercalate " " (preview.graphqlErrors.map fun e =>
      "Shopify shipping refund maximum returned GraphQL error: " ++ e))
  let maximum ← getOrThrow (preview.suggestedRefund.bind (·.shippingMaximumRefundableAmount))
    (.financeConflict, "Shopify current refundable checkout shipping amount is unavailable.")
  let currencyCode := preview.suggestedRefund.bind (·.shippingCurrencyCode)
  require ((decide (0 < maximum) && currencyConflict orderCurrency currencyCode) = false)
    (.financeConflict, "Shopify checkout shipping currency conflicts with the order currency.")
  pure (maximum, currencyCode)

namespace CancellationDb

variable (db : CancellationDb)

/-- `classifyCustomerCancellationAutoRefundEligibility`; a call that throws makes the canonical
evidence unavailable. -/
def classifyCustomerCancellationAutoRefundEligibility (itemId : Id) (answers : ShopifyAnswers) :
    Except Rejection CustomerCancellationAutoRefundCleanContext := do
  let notFound : Rejection := (.otherUnsafe, "Cancellation item was not found.")
  let unavailable : Rejection := (.canonicalUnavailable, "Canonical Shopify reads failed.")
  let item ← getOrThrow (db.findItem itemId) notFound
  let request ← getOrThrow (db.findRequest item.requestId) notFound
  let order ← getOrThrow (db.findOrder request.shopifyOrderId) notFound
  let allocation ← getOrThrow (db.findAllocation item.vendorAllocationId) notFound
  let sourceLineItemId ← getOrThrow (db.sourceLineItemIdOf item.shopifyOrderLineItemId) notFound
  db.classifyLocal item allocation sourceLineItemId
  let reads ← getOrThrow answers.reads unavailable
  let (current, refundable, locationId) ← classifyCanonicalReads reads sourceLineItemId
    item.requestedQuantity
  let refundLineItems := [(sourceLineItemId, item.requestedQuantity)]
  let productPreview ← getOrThrow (answers.previewSuggestedRefund refundLineItems none) unavailable
  let productBlockers := (validateSuggestedRefundForSubmission productPreview order.currency).1
  require (productBlockers = [] ∧
      previewQuantityMatches productPreview sourceLineItemId item.requestedQuantity = true)
    (.financeConflict, joinBlockers productBlockers)
  let shippingMaximumPreview ← getOrThrow (answers.previewSuggestedRefund [] none) unavailable
  let (maximum, currencyCode) ← classifyShippingMaximum shippingMaximumPreview order.currency
  let preview ← getOrThrow (answers.previewSuggestedRefund refundLineItems
    (if 0 < maximum then some maximum else none)) unavailable
  let blockers := (validateSuggestedRefundForSubmission preview order.currency).1
  require (blockers = []) (.financeConflict, joinBlockers blockers)
  require (previewQuantityMatches preview sourceLineItemId item.requestedQuantity = true)
    (.financeConflict, "Combined suggested refund quantity did not match.")
  pure
    { sourceShopifyOrderId := order.sourceShopifyOrderId
      orderCurrency := order.currency
      allocationId := item.vendorAllocationId
      sourceLineItemId := sourceLineItemId
      requestedQuantity := item.requestedQuantity
      preRefundCurrentQuantity := current
      preRefundRefundableQuantity := refundable
      locationId := locationId
      productRefundAmount := productPreview.suggestedRefund.bind (·.totalRefundAmount)
      shippingRefundAmount := some maximum
      shippingRefundCurrencyCode := currencyCode
      preview := preview }

/-! ## Approval -/

/-- The attempt of an item, recorded with the quantities and the shipping of its context. -/
def cancellationAttempt (item : CustomerCancellationRequestItem)
    (context : CustomerCancellationAutoRefundCleanContext) (attemptId : Id) (now : Instant) :
    OutboundShopifyRefundAttempt where
  id := attemptId
  vendorAllocationId := item.vendorAllocationId
  shopifyOrderId := context.sourceShopifyOrderId
  customerCancellationRequestItemId := some item.id
  status := .readyToSubmit
  refundShipping := isPositiveMoneyAmount context.shippingRefundAmount
  shopifyRefundId := none
  requestedAt := now
  refundLineItemsJson :=
    [{ lineItemId := context.sourceLineItemId
       quantity := context.requestedQuantity
       preRefundCurrentQuantity := some context.preRefundCurrentQuantity
       preRefundRefundableQuantity := some context.preRefundRefundableQuantity
       intendedShippingRefundMinor := context.shippingRefundAmount
       intendedShippingRefundCurrencyCode := context.shippingRefundCurrencyCode }]
  postRefundFulfillmentCheck := none
  orderCancelJobId := none

/-- The item approved, when it was pending. -/
def autoApproveItem (current : CustomerCancellationRequestItem) : CancellationDb :=
  if current.status = .pending then
    db.moveItem current .approvedForRefund current.resolvedQuantity
      (statusesWith (db.itemsOf current.requestId) current.id .approvedForRefund) none
  else db

/-- Approve the item and create its attempt; an attempt that exists is left as it is. -/
def approveAndCreateAttempt (itemId : Id) (context : CustomerCancellationAutoRefundCleanContext)
    (attemptId : Id) (now : Instant) :
    Except String (CancellationDb × OutboundShopifyRefundAttempt) := do
  let current ← getOrThrow (db.findItem itemId) "Customer cancellation item disappeared."
  let allocation ← getOrThrow (db.findAllocation current.vendorAllocationId)
    "Customer cancellation item disappeared."
  require (current.status = .pending ∨ current.status = .approvedForRefund)
    "Customer cancellation item no longer has processable authority."
  require (db.activeSiblingAttempt current = false)
    "A sibling full-order refund item is still active."
  require (allocation.allocationStatus = .active ∧ allocation.reassignmentRequired = false ∧
      allocation.hasCancellationReason = false ∧ allocation.cancelRefundReviewStatus = none ∧
      allocation.localShipmentConflict = false)
    "Local allocation authority changed before auto-approval."
  require (db.hasExactMapping current = true)
    "Local allocation line authority changed before auto-approval."
  let approved := db.autoApproveItem current
  match approved.attemptOf itemId with
  | some attempt => pure (approved, attempt)
  | none =>
      let attempt := cancellationAttempt current context attemptId now
      let inserted ← approved.insertAttempt attempt
      pure (inserted, attempt)

end CancellationDb

/-! ## Submission -/

/-- The blockers, and the request that is sent when there are none. -/
def buildCustomerCancellationRefundSubmission (attemptId : Id)
    (context : CustomerCancellationAutoRefundCleanContext) :
    List String × CreateShopifyRefundInput :=
  let validation := validateSuggestedRefundForSubmission context.preview context.orderCurrency
  (validation.1,
    { orderId := context.sourceShopifyOrderId
      refundLineItems := [(context.sourceLineItemId, context.requestedQuantity)]
      locationId := some context.locationId
      transactions := validation.2
      shipping := if isPositiveMoneyAmount context.shippingRefundAmount then
        context.shippingRefundAmount else none
      idempotencyKey := ⟨context.allocationId, attemptId⟩ })

namespace CancellationDb

variable (db : CancellationDb)

/-- A response with user errors fails the attempt. -/
def failSubmission (attemptId : Id) : CancellationDb :=
  db.markOutboundShopifyRefundAttemptFailed attemptId true

/-- A response without them records the refund that it names. -/
def recordSubmission (attemptId : Id) (refundId : Option Id) : CancellationDb :=
  db.markOutboundShopifyRefundAttemptSubmitted attemptId refundId none

end CancellationDb

end VendorDashboard.Orders

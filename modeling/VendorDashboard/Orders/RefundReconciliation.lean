import VendorDashboard.Orders.RefundAttempts
import VendorDashboard.Orders.ShopifyAnswers

/-!
# What a refund webhook resolves

The part of the refund ingestion that writes the cancellation tables.  A refund with lines
resolves the review and the attempts of every allocation whose evidence it accepts
(`resolveCancelRefundReviewAfterRefundIngestion`) and then moves the cancellation items whose
lines it covers (`reconcileCustomerCancellationItemsFromVerifiedRefund`).  A refund without
lines is matched to the one shipping claim whose attempt carries its identifier
(`reconcileVerifiedShippingOnlyRefund`).

Which allocations accept the evidence is decided by the finance part of the ingestion; here
the accepted ones are part of the input.
-/

namespace VendorDashboard.Orders

open Finance (Id Instant CancelRefundReviewStatus)
open Table Transaction Text

/-- `CANCEL_REFUND_REVIEW_BLOCKING_STATUSES`. -/
def isBlockingReviewStatus (s : CancelRefundReviewStatus) : Bool :=
  match s with
  | .pendingReview | .customerContacted | .shopifyActionPending => true
  | _ => false

def hasBlockingPostRefundFulfillmentCheck (status : Option String) : Bool :=
  status.any fun s => decide (trim s ≠ "") && decide (toLowerCase (trim s) ≠ "passed")

def hasPositiveIntendedCustomerCancellationShippingRefund (lines : List SubmittedRefundLine) :
    Bool :=
  lines.head?.any fun l => isPositiveMoneyAmount l.intendedShippingRefundMinor

structure RefundEvent where
  sourceShopifyRefundId : Id
  sourceShopifyOrderId : Id
  /-- Order line and quantity. -/
  refundLineItems : List (Id × ℕ)
  /-- The refund is verified to have moved money. -/
  monetaryRefund : Bool
  targetVendorAllocationId : Option Id
  /-- The allocations whose evidence the ingestion accepts. -/
  acceptedAllocationIds : List Id

namespace CancellationDb

variable (db : CancellationDb)

/-! ## Reviews and attempts of an allocation -/

/-- The latest pending attempt of the allocation reported a fulfillment problem. -/
def shouldKeepReviewOpen (vendorAllocationId : Id) : Bool :=
  (latestBy OutboundShopifyRefundAttempt.requestedAt (db.outboundShopifyRefundAttempt.filter
    fun a => decide (a.vendorAllocationId = vendorAllocationId) &&
      decide (a.status = .shopifyActionPending))).any fun a =>
    hasBlockingPostRefundFulfillmentCheck a.postRefundFulfillmentCheck

def resolveReview (vendorAllocationId : Id) : CancellationDb :=
  { db with
    vendorAllocation :=
      updateWhere (fun a => decide (a.id = vendorAllocationId) &&
          a.cancelRefundReviewStatus.any isBlockingReviewStatus)
        (fun a => { a with cancelRefundReviewStatus := some .resolved }) db.vendorAllocation }

/-- The attempts of the allocation are given the refund's identifier and resolved. -/
def resolveAttempts (vendorAllocationId sourceShopifyRefundId : Id) : CancellationDb :=
  { db with
    outboundShopifyRefundAttempt :=
      updateWhere (fun a => decide (a.vendorAllocationId = vendorAllocationId) &&
          (decide (a.status = .previewed) || decide (a.status = .shopifyActionPending)))
        (fun a => { a with status := .resolved, shopifyRefundId := some sourceShopifyRefundId })
        db.outboundShopifyRefundAttempt }

/-- The pending attempts of the allocation are given the refund's identifier. -/
def linkPendingAttempts (vendorAllocationId sourceShopifyRefundId : Id) : CancellationDb :=
  { db with
    outboundShopifyRefundAttempt :=
      updateWhere (fun a => decide (a.vendorAllocationId = vendorAllocationId) &&
          decide (a.status = .shopifyActionPending))
        (fun a => { a with shopifyRefundId := some sourceShopifyRefundId })
        db.outboundShopifyRefundAttempt }

def resolveCancelRefundReviewAfterRefundIngestion (vendorAllocationId : Id)
    (cancelRefundReviewStatus : Option CancelRefundReviewStatus) (sourceShopifyRefundId : Id) :
    CancellationDb :=
  if db.shouldKeepReviewOpen vendorAllocationId then
    db.linkPendingAttempts vendorAllocationId sourceShopifyRefundId
  else
    let reviewed := if cancelRefundReviewStatus.any isBlockingReviewStatus then
      db.resolveReview vendorAllocationId else db
    (reviewed.resolveAttempts vendorAllocationId
      sourceShopifyRefundId).releaseResolvedOrderShippingRefundClaimsForAllocation
      vendorAllocationId

/-- The records of an accepted refund of an allocation. -/
def recordRefund (vendorAllocationId sourceShopifyRefundId : Id) (lines : List (Id × ℕ)) :
    CancellationDb :=
  { db with
    refundEvidenceSnapshot :=
      db.refundEvidenceSnapshot ++ [(sourceShopifyRefundId, vendorAllocationId)]
    vendorAllocation :=
      updateWhere (fun a => decide (a.id = vendorAllocationId))
        (fun a =>
          { a with refundRecords := a.refundRecords ++ [lines], hasReturnRecords := true })
        db.vendorAllocation }

/-! ## Cancellation items -/

/-- The approved items of the refunded lines whose attempt is submitted and carries no other
refund. -/
def reconciliationCandidates (event : RefundEvent) : List CustomerCancellationRequestItem :=
  db.customerCancellationRequestItem.filter fun i =>
    decide (i.status = .approvedForRefund) &&
      event.targetVendorAllocationId.all (fun a => decide (i.vendorAllocationId = a)) &&
      (db.sourceLineItemIdOf i.shopifyOrderLineItemId).any (fun l =>
        decide (l ∈ event.refundLineItems.map Prod.fst)) &&
      (db.attemptOf i.id).any fun a =>
        decide (a.status = .shopifyActionPending) &&
          a.shopifyRefundId.all fun r => decide (r = event.sourceShopifyRefundId)

/-- The refund takes exactly the requested quantity of the item's line, and no shipping was to
be refunded with it. -/
def refundCoversItem (event : RefundEvent) (item : CustomerCancellationRequestItem) : Bool :=
  !((db.attemptOf item.id).any fun a =>
      hasPositiveIntendedCustomerCancellationShippingRefund a.refundLineItemsJson) &&
    (db.sourceLineItemIdOf item.shopifyOrderLineItemId).any fun l =>
      decide (refundedQuantity event.refundLineItems l = item.requestedQuantity)

/-- The writes for one item; `items` are the items of its request as they were read before the
loop. -/
def applyRefundToItem (items : List CustomerCancellationRequestItem) (sourceShopifyRefundId : Id)
    (item : CustomerCancellationRequestItem) (now : Instant) : CancellationDb :=
  let statuses := statusesWith items item.id .refundedAwaitingOrderCancel
  let moved := db.moveItem item .refundedAwaitingOrderCancel (some item.requestedQuantity) statuses
    (if allTerminal statuses then some now else none)
  { moved with
    outboundShopifyRefundAttempt :=
      updateWhere (fun a => decide (a.customerCancellationRequestItemId = some item.id))
        (fun a => { a with status := .resolved, shopifyRefundId := some sourceShopifyRefundId })
        moved.outboundShopifyRefundAttempt }

/-- The items that a refund moves. -/
def itemsCoveredBy (event : RefundEvent) : List CustomerCancellationRequestItem :=
  (db.reconciliationCandidates event).filter (db.refundCoversItem event)

def reconcileCustomerCancellationItemsFromVerifiedRefund (event : RefundEvent) (now : Instant) :
    CancellationDb :=
  -- every item's siblings are those that one query read before the first write
  (db.itemsCoveredBy event).foldl (fun acc item =>
    acc.applyRefundToItem (db.itemsOf item.requestId) event.sourceShopifyRefundId item now) db

/-! ## Shipping-only refunds -/

/-- The claims whose attempt submitted shipping and carries the refund's identifier. -/
def matchingClaims (sourceShopifyOrderId sourceShopifyRefundId : Id) :
    List OrderShippingRefundClaim :=
  db.orderShippingRefundClaim.filter fun c =>
    decide (c.shopifyOrderId = sourceShopifyOrderId) &&
      (db.findAttempt c.ownerAttemptId).any fun a =>
        decide (a.shopifyOrderId = sourceShopifyOrderId) && a.refundShipping &&
          decide (a.shopifyRefundId = some sourceShopifyRefundId)

def reconcileVerifiedShippingOnlyRefund (sourceShopifyOrderId sourceShopifyRefundId : Id)
    (targetVendorAllocationId : Option Id) : Except String CancellationDb := do
  let claims := db.matchingClaims sourceShopifyOrderId sourceShopifyRefundId
  require (claims.length = 1)
    "Shipping-only refund could not be matched to one exact order shipping refund owner."
  let claim ← getOrThrow claims.head?
    "Shipping-only refund could not be matched to one exact order shipping refund owner."
  let attempt ← getOrThrow (db.findAttempt claim.ownerAttemptId)
    "Shipping-only refund ownership evidence does not match the submitted refund attempt."
  let allocation ← getOrThrow (db.findAllocation attempt.vendorAllocationId)
    "Shipping-only refund ownership evidence does not match the submitted refund attempt."
  require ((db.findOrder allocation.orderId).any (fun o =>
      decide (o.sourceShopifyOrderId = sourceShopifyOrderId)) = true ∧
      attempt.refundLineItemsJson.isEmpty = true)
    "Shipping-only refund ownership evidence does not match the submitted refund attempt."
  if targetVendorAllocationId.any fun a => decide (a ≠ attempt.vendorAllocationId) then pure db
  else if attempt.status = .resolved ∧ claim.status = .released ∧ claim.activeOrderKey = none then
    pure db
  else
    require (attempt.status = .shopifyActionPending ∧ claim.status = .active ∧
        claim.activeOrderKey = some sourceShopifyOrderId)
      "Shipping-only refund owner is not the active pending attempt for this Shopify order."
    let resolved := db.updateAttempt attempt.id fun a => { a with status := .resolved }
    let reviewed := if allocation.cancelRefundReviewStatus.any isBlockingReviewStatus then
      resolved.resolveReview attempt.vendorAllocationId else resolved
    pure (reviewed.releaseResolvedOrderShippingRefundClaimsForAllocation attempt.vendorAllocationId)

/-! ## The ingestion -/

/-- The allocations that own a line of the refund. -/
def refundedAllocationIds (event : RefundEvent) : List Id :=
  (db.vendorAllocationLineItem.filter fun l =>
    (db.sourceLineItemIdOf l.shopifyLineItemId).any (fun s =>
        decide (s ∈ event.refundLineItems.map Prod.fst)) &&
      event.targetVendorAllocationId.all fun a =>
        decide (l.vendorAllocationId = a)).map (·.vendorAllocationId)

/-- One accepted group of refund lines; `before` is the state that the transaction read the
allocations in. -/
def acceptRefundGroup (before : CancellationDb) (event : RefundEvent) (vendorAllocationId : Id) :
    CancellationDb :=
  (db.recordRefund vendorAllocationId event.sourceShopifyRefundId
    event.refundLineItems).resolveCancelRefundReviewAfterRefundIngestion vendorAllocationId
    ((before.findAllocation vendorAllocationId).bind (·.cancelRefundReviewStatus))
    event.sourceShopifyRefundId

def ingestShopifyRefundWebhook (event : RefundEvent) (now : Instant) :
    Except String CancellationDb := do
  require (db.shopifyOrder.any (fun o =>
      decide (o.sourceShopifyOrderId = event.sourceShopifyOrderId)) = true)
    "No ingested Shopify order found for refund order id."
  if event.refundLineItems.isEmpty then
    require (event.monetaryRefund = true)
      "Shopify refunds/create payload did not include refund line items."
    db.reconcileVerifiedShippingOnlyRefund event.sourceShopifyOrderId event.sourceShopifyRefundId
      event.targetVendorAllocationId
  else
    require (event.acceptedAllocationIds.Nodup ∧
        ∀ a ∈ event.acceptedAllocationIds, a ∈ db.refundedAllocationIds event ∧
          (event.sourceShopifyRefundId, a) ∉ db.refundEvidenceSnapshot)
      "Canonical refund evidence requires finance review."
    let accepted := event.acceptedAllocationIds.foldl
      (fun acc a => acc.acceptRefundGroup db event a) db
    pure (if event.monetaryRefund then
      accepted.reconcileCustomerCancellationItemsFromVerifiedRefund event now else accepted)

end CancellationDb

end VendorDashboard.Orders

import VendorDashboard.Orders.CancellationSchema
import VendorDashboard.Framework.Transaction

/-!
# Creating and approving a cancellation request

`createPendingCustomerCancellationRequest` opens one item per order line at its full quantity,
or answers with the request that the same idempotency key created before.
`approveCustomerCancellationItemForRefund` is the manual approval of one item.

Every service that moves an item writes the item and then its request, whose status it derives
from the statuses of all items with the moved one replaced; `moveItem` is that pair of writes.
-/

namespace VendorDashboard.Orders

open Finance (Id Instant CustomerCancellationStatus)
open Table Transaction Text

def UNIQUE_CONSTRAINT_FAILED : String := "P2002"

/-- The statuses of `items` with the one of `itemId` replaced. -/
def statusesWith (items : List CustomerCancellationRequestItem) (itemId : Id)
    (status : CustomerCancellationStatus) : List CustomerCancellationStatus :=
  items.map fun candidate => if candidate.id = itemId then status else candidate.status

namespace CancellationDb

variable (db : CancellationDb)

def updateItem (id : Id)
    (f : CustomerCancellationRequestItem → CustomerCancellationRequestItem) : CancellationDb :=
  { db with
    customerCancellationRequestItem :=
      updateWhere (fun i => decide (i.id = id)) f db.customerCancellationRequestItem }

def updateRequest (id : Id) (f : CustomerCancellationRequest → CustomerCancellationRequest) :
    CancellationDb :=
  { db with
    customerCancellationRequest :=
      updateWhere (fun r => decide (r.id = id)) f db.customerCancellationRequest }

/-- Move an item to `status` and its request to the aggregate of `statuses`. -/
def moveItem (item : CustomerCancellationRequestItem) (status : CustomerCancellationStatus)
    (resolvedQuantity : Option ℕ) (statuses : List CustomerCancellationStatus)
    (resolvedAt : Option Instant) : CancellationDb :=
  (db.updateItem item.id fun i =>
      { i with status := status, resolvedQuantity := resolvedQuantity }).updateRequest
    item.requestId fun r => { r with status := aggregate statuses, resolvedAt := resolvedAt }

end CancellationDb

/-! ## Input -/

structure VerifiedCustomerCancellationRequestItemInput where
  shopifyOrderLineItemId : Id
  vendorAllocationId : Id
  requestedQuantity : ℕ
  deriving DecidableEq

structure CreateVerifiedCustomerCancellationRequestInput where
  shopifyOrderId : Id
  shopDomain : String
  shopifyCustomerId : String
  reasonCode : String
  idempotencyKey : String
  items : List VerifiedCustomerCancellationRequestItemInput

def normalizeRequiredText (value field : String) : Except String String := do
  require (trim value ≠ "") (field ++ " is required.")
  pure (trim value)

/-- The largest integer that a source number holds exactly. -/
def MAX_SAFE_INTEGER : ℕ := 2 ^ 53 - 1

def normalizeInput (input : CreateVerifiedCustomerCancellationRequestInput) :
    Except String CreateVerifiedCustomerCancellationRequestInput := do
  require (input.items ≠ []) "At least one cancellation request item is required."
  require (∀ i ∈ input.items, 0 < i.requestedQuantity ∧ i.requestedQuantity ≤ MAX_SAFE_INTEGER)
    "requestedQuantity must be a positive integer."
  require (input.items.map fun i => (i.shopifyOrderLineItemId, i.vendorAllocationId)).Nodup
    "Cancellation request items must be unique by Shopify line item and allocation."
  let shopDomain ← normalizeRequiredText input.shopDomain "shopDomain"
  let shopifyCustomerId ← normalizeRequiredText input.shopifyCustomerId "shopifyCustomerId"
  let reasonCode ← normalizeRequiredText input.reasonCode "reasonCode"
  let idempotencyKey ← normalizeRequiredText input.idempotencyKey "idempotencyKey"
  pure
    { input with
      shopDomain := toLowerCase shopDomain
      shopifyCustomerId := shopifyCustomerId
      reasonCode := reasonCode
      idempotencyKey := idempotencyKey }

namespace CancellationDb

variable (db : CancellationDb)

/-! ## Creation -/

/-- `line.allocationLineItems`. -/
def allocationLineItemsOf (shopifyLineItemId : Id) : List VendorAllocationLineItem :=
  db.vendorAllocationLineItem.filter fun l => decide (l.shopifyLineItemId = shopifyLineItemId)

/-- The attempts of an allocation that are on their way. -/
def activeAttemptsOf (vendorAllocationId : Id) : List OutboundShopifyRefundAttempt :=
  db.outboundShopifyRefundAttempt.filter fun a =>
    decide (a.vendorAllocationId = vendorAllocationId) && a.status.isActive

def findIdempotentRequest (input : CreateVerifiedCustomerCancellationRequestInput) :
    Option CustomerCancellationRequest :=
  db.customerCancellationRequest.find? fun r =>
    decide (r.shopDomain = input.shopDomain) &&
      decide (r.shopifyCustomerId = input.shopifyCustomerId) &&
      decide (r.idempotencyKey = input.idempotencyKey)

/-- The items that cover every line of the order at its full quantity. -/
def expectedScope (order : ShopifyOrder) :
    Except String (List VerifiedCustomerCancellationRequestItemInput) :=
  order.lineItems.mapM fun line =>
    match db.allocationLineItemsOf line.id with
    | [l] =>
        if l.quantity = line.quantity then .ok ⟨line.id, l.vendorAllocationId, line.quantity⟩
        else .error "The complete Shopify order does not have an exact one-allocation mapping."
    | _ => .error "The complete Shopify order does not have an exact one-allocation mapping."

/-- An allocation whose cancellation is no longer plainly safe. -/
def locallyUnsafe (allocation : VendorAllocation) : Bool :=
  decide (allocation.existingShipmentAuthority ≠ .pending) ||
    decide (allocation.allocationStatus ≠ .active) || allocation.reassignmentRequired ||
    allocation.hasCancellationReason || allocation.cancelRefundReviewStatus.isSome ||
    allocation.hasReturnRecords || !allocation.refundRecords.isEmpty ||
    !(db.activeAttemptsOf allocation.id).isEmpty || allocation.hasCompletedEconomicTransfer ||
    allocation.hasOpenFinanceIntegrityAlert || allocation.hasProgressedFinance

/-- The query behind `hasPendingCustomerCancellationHold`: the items that hold an allocation. -/
def pendingHoldItems (vendorAllocationIds : List Id) : List CustomerCancellationRequestItem :=
  db.customerCancellationRequestItem.filter fun i =>
    decide (i.vendorAllocationId ∈ vendorAllocationIds) && isActiveHoldItemStatus i.status &&
      (db.findRequest i.requestId).any fun r => isActiveRequestStatus r.status

def hasPendingCustomerCancellationHold (vendorAllocationId : Id) : Bool :=
  !(db.pendingHoldItems [vendorAllocationId]).isEmpty

/-- The check of one requested item against its allocation line. -/
def checkAllocationLine (order : ShopifyOrder)
    (item : VerifiedCustomerCancellationRequestItemInput) : Except String Unit := do
  let line ← getOrThrow ((db.allocationLineItemsOf item.shopifyOrderLineItemId).find? fun l =>
      decide (l.vendorAllocationId = item.vendorAllocationId) &&
        (db.findAllocation l.vendorAllocationId).any (fun a => decide (a.orderId = order.id)) &&
        order.lineItems.any fun x => decide (x.id = l.shopifyLineItemId))
    "Cancellation request item does not belong to the verified Shopify order allocation."
  require (item.requestedQuantity ≤ line.quantity)
    "requestedQuantity exceeds the verified allocation line-item quantity."

/-- The row of a requested item, under the identifier paired with it. -/
def newItem (requestId : Id) (item : Id × VerifiedCustomerCancellationRequestItemInput) :
    CustomerCancellationRequestItem where
  id := item.1
  requestId := requestId
  shopifyOrderLineItemId := item.2.shopifyOrderLineItemId
  vendorAllocationId := item.2.vendorAllocationId
  requestedQuantity := item.2.requestedQuantity
  resolvedQuantity := none
  status := .pending

/-- The row of a new request. -/
def newRequest (input : CreateVerifiedCustomerCancellationRequestInput) (requestId : Id) :
    CustomerCancellationRequest where
  id := requestId
  shopifyOrderId := input.shopifyOrderId
  shopDomain := input.shopDomain
  shopifyCustomerId := input.shopifyCustomerId
  idempotencyKey := input.idempotencyKey
  status := .pending
  resolvedAt := none

/-- The rows of a new request; the item rows take the identifiers `itemIds`. -/
def insertRequest (input : CreateVerifiedCustomerCancellationRequestInput) (requestId : Id)
    (itemIds : List Id) : Except String CancellationDb := do
  let requests ← insertRows CustomerCancellationRequest.id db.customerCancellationRequest
    [newRequest input requestId] UNIQUE_CONSTRAINT_FAILED
  require (itemIds.length = input.items.length) UNIQUE_CONSTRAINT_FAILED
  let items ← insertRows CustomerCancellationRequestItem.id db.customerCancellationRequestItem
    ((itemIds.zip input.items).map (newItem requestId)) UNIQUE_CONSTRAINT_FAILED
  pure
    { db with
      customerCancellationRequest := requests
      customerCancellationRequestItem := items }

/-- Creation under the order lock, from normalized input. -/
def createPendingCustomerCancellationRequestInTransaction
    (input : CreateVerifiedCustomerCancellationRequestInput) (requestId : Id)
    (itemIds : List Id) : Except String CancellationDb := do
  let order ← getOrThrow (db.findOrder input.shopifyOrderId) "Shopify order was not found."
  match db.findIdempotentRequest input with
  | some _ => pure db
  | none =>
      let expectedScope ← db.expectedScope order
      require (expectedScope ≠ [] ∧ expectedScope.Perm input.items)
        "Customer cancellation must cover every Shopify order line at its full quantity."
      input.items.forM (db.checkAllocationLine order)
      let affectedIds := (input.items.map (·.vendorAllocationId)).eraseDups
      let affectedAllocations := db.vendorAllocation.filter fun a =>
        decide (a.id ∈ affectedIds) && decide (a.orderId = order.id)
      require (affectedAllocations.length = affectedIds.length ∧
          ∀ a ∈ affectedAllocations, db.locallyUnsafe a = false)
        "The complete order changed and is no longer safely cancellable."
      require (db.pendingHoldItems affectedIds = [])
        "An unresolved customer cancellation request already affects this allocation."
      db.insertRequest input requestId itemIds

def createPendingCustomerCancellationRequest
    (rawInput : CreateVerifiedCustomerCancellationRequestInput) (requestId : Id)
    (itemIds : List Id) : Except String CancellationDb := do
  let input ← normalizeInput rawInput
  db.createPendingCustomerCancellationRequestInTransaction input requestId itemIds

/-! ## Manual approval -/

def approveCustomerCancellationItemForRefund (requestId itemId : Id) :
    Except String CancellationDb := do
  let currentItem ← getOrThrow (db.findItem itemId)
    "Customer cancellation request item was not found."
  require (currentItem.requestId = requestId) "Customer cancellation request item was not found."
  let request ← getOrThrow (db.findRequest requestId)
    "Customer cancellation request item was not found."
  require (currentItem.status = .pending ∧ isActiveRequestStatus request.status = true)
    "Only a pending customer cancellation item can be approved for refund."
  pure (db.moveItem currentItem .approvedForRefund currentItem.resolvedQuantity
    (statusesWith (db.itemsOf requestId) itemId .approvedForRefund) none)

end CancellationDb

end VendorDashboard.Orders

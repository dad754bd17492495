import VendorDashboard.Finance.Holds
import VendorDashboard.Finance.Queries

/-!
# The cancellation tables

The rows behind a customer's cancellation of a whole order: the request with one item per order
line, the outbound refund attempt of each item, and the claim on an order's checkout shipping.
Requests and items are written by the services of `Orders`; attempts and claims also by the
refund ingestion.

Of an allocation the model keeps what these services read.  Where they reduce other tables to a
yes or no (shipments, returns, transfers, alerts, settlements), the row holds the answer.
-/

namespace VendorDashboard.Orders

open Finance (Id Instant CustomerCancellationStatus CancelRefundReviewStatus AllocationStatus)
open Table

inductive RefundAttemptStatus
  | previewed | readyToSubmit | shopifyActionPending | resolved | failed
  deriving DecidableEq

inductive ShippingClaimStatus
  | active | released
  deriving DecidableEq

structure ShopifyOrderLineItem where
  id : Id
  sourceLineItemId : Id
  quantity : ℕ

structure ShopifyOrder where
  id : Id
  sourceShopifyOrderId : Id
  currency : Option String
  lineItems : List ShopifyOrderLineItem

structure VendorAllocationLineItem where
  vendorAllocationId : Id
  shopifyLineItemId : Id
  quantity : ℕ

structure VendorAllocation where
  id : Id
  /-- The order row that the allocation belongs to. -/
  orderId : Id
  allocationStatus : AllocationStatus
  reassignmentRequired : Bool
  hasCancellationReason : Bool
  cancelRefundReviewStatus : Option CancelRefundReviewStatus
  /-- The verdict of `classifyExistingShipmentAuthority`. -/
  existingShipmentAuthority : CustomerCancellationStatus
  localShipmentConflict : Bool
  hasReturnRecords : Bool
  /-- The lines of each refund record: order line and quantity. -/
  refundRecords : List (List (Id × ℕ))
  hasCompletedEconomicTransfer : Bool
  hasOpenFinanceIntegrityAlert : Bool
  /-- A sale row is not `PENDING`, or an uncancelled settlement or payout holds it. -/
  hasProgressedFinance : Bool
  /-- A sale row is `PAID`, or an uncancelled settlement or payout holds it. -/
  hasFinanceConflict : Bool

structure CustomerCancellationRequest where
  id : Id
  shopifyOrderId : Id
  shopDomain : String
  shopifyCustomerId : String
  idempotencyKey : String
  status : CustomerCancellationStatus
  resolvedAt : Option Instant

structure CustomerCancellationRequestItem where
  id : Id
  requestId : Id
  shopifyOrderLineItemId : Id
  vendorAllocationId : Id
  requestedQuantity : ℕ
  resolvedQuantity : Option ℕ
  status : CustomerCancellationStatus
  deriving DecidableEq

/-- One entry of `refundLineItemsJson`; the last four fields only a customer cancellation
writes. -/
structure SubmittedRefundLine where
  lineItemId : Id
  quantity : ℕ
  preRefundCurrentQuantity : Option ℤ
  preRefundRefundableQuantity : Option ℤ
  intendedShippingRefundMinor : Option ℤ
  intendedShippingRefundCurrencyCode : Option String

structure OutboundShopifyRefundAttempt where
  id : Id
  vendorAllocationId : Id
  shopifyOrderId : Id
  customerCancellationRequestItemId : Option Id
  status : RefundAttemptStatus
  refundShipping : Bool
  /-- The numeric part of the refund's identifier; rows spell it with or without the prefix
  `gid://shopify/Refund/`, and every reader accepts both. -/
  shopifyRefundId : Option Id
  requestedAt : Instant
  refundLineItemsJson : List SubmittedRefundLine
  /-- `mutationResponseJson.postRefundFulfillmentCheck.status`. -/
  postRefundFulfillmentCheck : Option String
  /-- `mutationResponseJson.orderCancel.jobId`. -/
  orderCancelJobId : Option Id

structure OrderShippingRefundClaim where
  id : Id
  shopifyOrderId : Id
  ownerAttemptId : Id
  activeOrderKey : Option Id
  status : ShippingClaimStatus
  acquiredAt : Instant

structure CancellationDb where
  shopifyOrder : List ShopifyOrder
  vendorAllocation : List VendorAllocation
  vendorAllocationLineItem : List VendorAllocationLineItem
  customerCancellationRequest : List CustomerCancellationRequest
  customerCancellationRequestItem : List CustomerCancellationRequestItem
  outboundShopifyRefundAttempt : List OutboundShopifyRefundAttempt
  orderShippingRefundClaim : List OrderShippingRefundClaim
  /-- The accepted evidence: refund and allocation. -/
  refundEvidenceSnapshot : List (Id × Id)

namespace CancellationDb

def empty : CancellationDb := ⟨[], [], [], [], [], [], [], []⟩

variable (db : CancellationDb)

def findOrder (id : Id) : Option ShopifyOrder := findRow ShopifyOrder.id id db.shopifyOrder

def findAllocation (id : Id) : Option VendorAllocation :=
  findRow VendorAllocation.id id db.vendorAllocation

def findRequest (id : Id) : Option CustomerCancellationRequest :=
  findRow CustomerCancellationRequest.id id db.customerCancellationRequest

def findItem (id : Id) : Option CustomerCancellationRequestItem :=
  findRow CustomerCancellationRequestItem.id id db.customerCancellationRequestItem

def findAttempt (id : Id) : Option OutboundShopifyRefundAttempt :=
  findRow OutboundShopifyRefundAttempt.id id db.outboundShopifyRefundAttempt

/-- The attempt of an item; the column is unique. -/
def attemptOf (itemId : Id) : Option OutboundShopifyRefundAttempt :=
  findRow OutboundShopifyRefundAttempt.customerCancellationRequestItemId (some itemId)
    db.outboundShopifyRefundAttempt

/-- `request.items`. -/
def itemsOf (requestId : Id) : List CustomerCancellationRequestItem :=
  db.customerCancellationRequestItem.filter fun i => decide (i.requestId = requestId)

/-- `item.shopifyOrderLineItem.sourceLineItemId`. -/
def sourceLineItemIdOf (shopifyOrderLineItemId : Id) : Option Id :=
  ((db.shopifyOrder.flatMap (·.lineItems)).find? fun l =>
    decide (l.id = shopifyOrderLineItemId)).map (·.sourceLineItemId)

end CancellationDb

/-! ## Statuses -/

/-- The item statuses that hold an allocation. -/
def isActiveHoldItemStatus (s : CustomerCancellationStatus) : Bool :=
  match s with
  | .pending | .approvedForRefund | .refundedAwaitingOrderCancel => true
  | _ => false

/-- The request statuses that hold an allocation. -/
def isActiveRequestStatus (s : CustomerCancellationStatus) : Bool :=
  match s with
  | .pending | .partiallyResolved | .approvedForRefund | .refundedAwaitingOrderCancel => true
  | _ => false

/-- A request and one of its items put a hold on the item's allocation. -/
def isPendingCustomerCancellationHoldState (requestStatus itemStatus : CustomerCancellationStatus) :
    Bool :=
  isActiveRequestStatus requestStatus && isActiveHoldItemStatus itemStatus

/-- An attempt that is on its way. -/
def RefundAttemptStatus.isActive (s : RefundAttemptStatus) : Bool :=
  match s with
  | .previewed | .readyToSubmit | .shopifyActionPending => true
  | _ => false

/-- The common status, or `PARTIALLY_RESOLVED`. -/
def aggregate (statuses : List CustomerCancellationStatus) : CustomerCancellationStatus :=
  match statuses.eraseDups with
  | [s] => s
  | _ => .partiallyResolved

/-- Whether every item is settled for good; the test before `resolvedAt` is set. -/
def allTerminal (statuses : List CustomerCancellationStatus) : Bool :=
  statuses.all fun s => !isActiveHoldItemStatus s && decide (s ≠ .partiallyResolved)

end VendorDashboard.Orders

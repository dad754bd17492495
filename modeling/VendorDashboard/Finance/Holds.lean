import VendorDashboard.Finance.Money
import VendorDashboard.Framework.Text

/-!
# Holds and settlement delay

What keeps an allocation's money from moving: a cancelled order, a cancel/refund review, a
blocked vendor, a pending customer cancellation, an approved open return and the settlement
delay after delivery.

A query reads a ledger row together with its allocation, the active ledger rows of that
allocation and the settlement and payout lines that hold it.  `LedgerRow` is that projection;
`AllocationView` is its allocation part.
-/

namespace VendorDashboard.Finance

open Text

/-! ## The projections that the checks read -/

/-- A settlement line seen from its ledger row. -/
structure ApprovalLineRef where
  lineId : Id
  settlementApprovalId : Id
  status : SettlementApprovalStatus
  approvedAt : Option Instant

/-- A payout line seen from its ledger row. -/
structure BatchLineRef where
  lineId : Id
  payoutBatchId : Id
  status : PayoutBatchStatus

/-- A ledger row of an allocation, with the lines that hold it. -/
structure LedgerSnapshot where
  entry : FinanceLedgerEntry
  payoutBatchLines : List BatchLineRef
  settlementApprovalLines : List ApprovalLineRef

structure AllocationView where
  allocation : VendorAllocation
  financeEntries : List LedgerSnapshot

structure LedgerRow where
  entry : FinanceLedgerEntry
  vendorAllocation : Option AllocationView
  settlementApprovalLines : List ApprovalLineRef
  payoutBatchLines : List BatchLineRef

/-! ## Order and allocation holds -/

def FULL_ORDER_CANCELLATION_BLOCKED_MESSAGE : String :=
  "Full Shopify order cancellation blocks this operation."

def CANCEL_REFUND_REVIEW_HOLD_REASON : String :=
  "Allocation is under cancel/refund review and cannot move through settlement or payout."

def VENDOR_BLOCKED_FINANCE_HOLD_REASON : String :=
  "Vendor allocation is blocked and awaiting admin resolution."

def CUSTOMER_CANCELLATION_FINANCE_HOLD_REASON : String :=
  "CUSTOMER_CANCELLATION_PENDING: finance progression is held while customer cancellation " ++
    "review is pending."

def APPROVED_OPEN_RETURN_HOLD_REASON : String := "Open approved return pending refund outcome"

def isFullOrderCancelled (view : Option AllocationView) : Bool :=
  view.any fun v => v.allocation.orderCancelledAt.isSome

def hasBlockingCancelRefundReviewStatus (view : Option AllocationView) : Bool :=
  view.any fun v =>
    match v.allocation.cancelRefundReviewStatus with
    | some .pendingReview | some .customerContacted | some .shopifyActionPending => true
    | _ => false

def hasVendorBlockedAllocationStatus (v : AllocationView) : Bool :=
  v.allocation.allocationStatus = .vendorBlocked

/-- A blocked allocation is resolved once its review is resolved and a refund exists for it.
The queries modelled here never select outbound refund attempts, so those do not count. -/
def isVendorBlockedResolvedByRefund (v : AllocationView) : Bool :=
  hasVendorBlockedAllocationStatus v &&
    decide (v.allocation.cancelRefundReviewStatus = some .resolved) &&
    (!v.allocation.refundRecords.isEmpty ||
      v.financeEntries.any fun s => decide (s.entry.entryType = .refund))

def hasActiveVendorBlockedFinanceHold (view : Option AllocationView) : Bool :=
  view.any fun v => hasVendorBlockedAllocationStatus v && !isVendorBlockedResolvedByRefund v

def isPendingCustomerCancellationHoldState (item : CustomerCancellationRequestItem) : Bool :=
  (match item.requestStatus with
    | .pending | .partiallyResolved | .approvedForRefund | .refundedAwaitingOrderCancel => true
    | _ => false) &&
  match item.status with
    | .pending | .approvedForRefund | .refundedAwaitingOrderCancel => true
    | _ => false

def hasActiveCustomerCancellationFinanceHold (view : Option AllocationView) : Bool :=
  view.any fun v =>
    v.allocation.customerCancellationRequestItems.any isPendingCustomerCancellationHoldState

/-! ## Approved open returns -/

def hasRefundImpact (a : VendorAllocation) : Bool :=
  !a.refundRecords.isEmpty || a.returnRecords.any (·.hasShopifyRefundId)

/-- The lifecycle status of a return record, or its own status when that is blank. -/
def getCanonicalReturnStatus (r : ReturnRecord) : ReturnStatus :=
  r.returnLifecycleStatus.getD r.status

def hasApprovedOpenReturnHold (row : LedgerRow) : Bool :=
  decide (row.entry.entryType = .sale) &&
    row.vendorAllocation.any fun v =>
      !hasRefundImpact v.allocation &&
        v.allocation.returnRecords.any fun r =>
          decide (getCanonicalReturnStatus r = .approved)

/-! ## Settlement delay -/

def DEFAULT_SETTLEMENT_DELAY_DAYS : ℤ := 21

def MISSING_DELIVERY_DATE_REASON : String := "Missing delivery date for settlement eligibility"

def SETTLEMENT_DELAY_PENDING_REASON : String := "Settlement delay period has not elapsed"

def normalizeSettlementDelayDays (days : ℤ) : ℤ :=
  if days < 0 then DEFAULT_SETTLEMENT_DELAY_DAYS else days

def addDays (date : Instant) (days : ℤ) : Instant := date + days * 24 * 60 * 60 * 1000

def resolveSettlementDeliveryDate (view : Option AllocationView) : Option Instant := do
  let v ← view
  let observation ← v.allocation.deliveredObservation
  let method ← v.allocation.outboundMethodSnapshot
  if observation.vendorAllocationId = v.allocation.id ∧ observation.outboundMethod = method ∧
      observation.outboundIntegrationProvider = v.allocation.outboundIntegrationProviderSnapshot
  then some observation.firstObservedDeliveredAt
  else none

structure SettlementDelay where
  applies : Bool
  eligible : Bool
  delayDays : ℤ
  deliveryDate : Option Instant
  eligibleAt : Option Instant
  blockerReason : Option String

def evaluateSaleSettlementDelay (row : LedgerRow) (now : Instant) : SettlementDelay :=
  let delayDays := normalizeSettlementDelayDays row.entry.settlementDelayDaysSnapshot
  if row.entry.entryType ≠ .sale then
    { applies := false, eligible := true, delayDays, deliveryDate := none, eligibleAt := none
      blockerReason := none }
  else
    match resolveSettlementDeliveryDate row.vendorAllocation with
    | none =>
        { applies := true, eligible := false, delayDays, deliveryDate := none
          eligibleAt := none, blockerReason := some MISSING_DELIVERY_DATE_REASON }
    | some deliveryDate =>
        let eligibleAt := addDays deliveryDate delayDays
        let eligible := decide (eligibleAt ≤ now)
        { applies := true, eligible, delayDays, deliveryDate := some deliveryDate
          eligibleAt := some eligibleAt
          blockerReason := if eligible then none else some SETTLEMENT_DELAY_PENDING_REASON }

/-! ## Fulfilment evidence -/

/-- The three lifecycle texts of an allocation, joined and lower-cased.  The allocation status
is an enumeration whose only value that a later search can hit is `FULFILLED`. -/
def lifecycleText (parts : List String) : String :=
  toLowerCase (" ".intercalate (parts.filter fun s => s ≠ ""))

def AllocationStatus.text : AllocationStatus → String
  | .active => "ACTIVE"
  | .vendorBlocked => "VENDOR_BLOCKED"
  | .pendingReassignment => "PENDING_REASSIGNMENT"
  | .reassigned => "REASSIGNED"
  | .fulfilled => "FULFILLED"

def isFulfilledForSettlement (view : Option AllocationView) : Bool :=
  view.any fun v =>
    let lifecycle := lifecycleText
      [v.allocation.allocationStatus.text, v.allocation.fulfillmentStatus,
        v.allocation.shippingStatus]
    v.allocation.fulfilledAt.isSome || includes lifecycle "fulfilled" ||
      includes lifecycle "shipped" || includes lifecycle "in transit" ||
      includes lifecycle "delivered"

end VendorDashboard.Finance

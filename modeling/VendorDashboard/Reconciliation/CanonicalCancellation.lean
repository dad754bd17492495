import VendorDashboard.Framework.Interleaving
import VendorDashboard.Framework.Text
import VendorDashboard.Finance.System

/-!
# Canonical order cancellation

What a cancellation on Shopify does to the sales of an order.  There are two implementations.
The order repair calls `applyCanonicalCancellationInTransaction`, which reads the local order and
voids its sale rows in one transaction.  Webhooks and the reconciliation call
`reconcileShopifyOrderCancellation`, which reads the local order, stores the cancellation and voids
the rows in three database calls of their own.

The database is the finance tables with the columns of orders, allocations and ledger rows that
those tables leave out.  `system` runs any number of `reconcileShopifyOrderCancellation` calls,
one database call a step, among the transactions of the finance system and of the order repair.
-/

namespace VendorDashboard.CanonicalCancellation

open Table Transaction Finance Interleaving

inductive CancellationReason
  | outOfStock | vendorCancelled | damagedInventory | fulfillmentIssue
  deriving DecidableEq

/-! ## The order on Shopify -/

structure CanonicalLineItem where
  sourceLineItemId : String
  quantity : Option ℤ
  currentQuantity : Option ℤ

structure CanonicalShopifyOrderSnapshot where
  sourceShopifyOrderId : String
  cancelledAt : Option Instant
  cancelReason : Option String
  lineItems : List CanonicalLineItem

inductive CanonicalOrderCancellationState
  | none | fullOrderCancelled | unknownRequiresManualReview
  deriving DecidableEq

structure CancellationClassification where
  state : CanonicalOrderCancellationState
  affectedLineItemIds : List String
  reason : Option String

/-- A line of which fewer items are left than were ordered. -/
def CanonicalLineItem.isReduced (l : CanonicalLineItem) : Bool :=
  match l.currentQuantity, l.quantity with
  | some current, some quantity => decide (current < quantity)
  | _, _ => false

def classifyCanonicalCancellation (snapshot : CanonicalShopifyOrderSnapshot) :
    CancellationClassification :=
  let ambiguousReducedLines := snapshot.lineItems.filter (·.isReduced)
  if snapshot.cancelledAt.isSome then
    { state := .fullOrderCancelled
      affectedLineItemIds := snapshot.lineItems.map (·.sourceLineItemId)
      reason := some (snapshot.cancelReason.getD "shopify_order_cancelled") }
  else if ¬ambiguousReducedLines.isEmpty then
    { state := .unknownRequiresManualReview
      affectedLineItemIds := ambiguousReducedLines.map (·.sourceLineItemId)
      reason := some "line_quantity_reduced_without_full_order_cancellation" }
  else
    { state := .none
      affectedLineItemIds := []
      reason := none }

/-! ## The local order -/

structure ShopifyOrder where
  id : Id
  sourceShopifyOrderId : String
  cancelledAt : Option Instant
  cancelReason : Option String

/-- The columns of an allocation that the finance tables leave out. -/
structure AllocationColumns where
  assignedVendorId : Id
  trackingNumber : Option String
  carrier : Option String
  cancellationReason : Option CancellationReason
  reassignmentRequired : Bool

structure OrderDb where
  finance : FinanceDb
  shopifyOrder : List ShopifyOrder
  allocationColumns : Id → AllocationColumns
  /-- The column `voidReason` of a ledger row. -/
  voidReason : Id → Option String

/-- A sale row as it is read, with the status of every settlement and payout batch that has a
line on it. -/
structure SaleLedger where
  id : Id
  vendorId : Id
  payoutStatus : PayoutStatus
  voidedAt : Option Instant
  settlementStatuses : List SettlementApprovalStatus
  payoutBatchStatuses : List PayoutBatchStatus

structure LocalAllocation where
  id : Id
  assignedVendorId : Id
  fulfillmentStatus : String
  shippingStatus : String
  trackingNumber : Option String
  carrier : Option String
  refundRecords : List RefundRecord
  returnRecords : List ReturnRecord
  financeEntries : List SaleLedger

structure LocalOrder where
  id : Id
  allocations : List LocalAllocation

/-- A text that is neither missing nor empty. -/
def isPresent (s : Option String) : Bool := s.any fun t => !t.isEmpty

def isFulfillmentConflict (allocation : LocalAllocation) : Bool :=
  let statusText :=
    Text.toLowerCase (allocation.fulfillmentStatus ++ " " ++ allocation.shippingStatus)
  Text.includes statusText "fulfilled" || Text.includes statusText "delivered" ||
    Text.includes statusText "shipped" || isPresent allocation.trackingNumber ||
    isPresent allocation.carrier

/-- Fulfillment, refund or return evidence that a cancellation must not override. -/
def isOperationalConflict (allocation : LocalAllocation) : Bool :=
  isFulfillmentConflict allocation || !allocation.refundRecords.isEmpty ||
    !allocation.returnRecords.isEmpty

def isFinanceReviewRequired (ledger : SaleLedger) : Bool :=
  decide (ledger.payoutStatus = .paid) ||
    ledger.settlementStatuses.any (fun s => decide (s = .approved)) ||
    ledger.payoutBatchStatuses.any fun s => decide (s ≠ .cancelled)

/-- The sale rows of the order that are not voided, each with its allocation. -/
def LocalOrder.activeLedgers (o : LocalOrder) : List (LocalAllocation × SaleLedger) :=
  o.allocations.flatMap fun allocation =>
    (allocation.financeEntries.filter fun l => l.voidedAt.isNone).map fun l => (allocation, l)

namespace OrderDb

variable (db : OrderDb)

def saleLedger (e : FinanceLedgerEntry) : SaleLedger where
  id := e.id
  vendorId := e.vendorId
  payoutStatus := e.payoutStatus
  voidedAt := e.voidedAt
  settlementStatuses := (db.finance.settlementApprovalLine.filter fun l =>
    decide (l.financeLedgerEntryId = e.id)).filterMap fun l =>
      (db.finance.findApproval l.settlementApprovalId).map (·.status)
  payoutBatchStatuses := (db.finance.payoutBatchLine.filter fun l =>
    decide (l.financeLedgerEntryId = e.id)).filterMap fun l =>
      (db.finance.findBatch l.payoutBatchId).map (·.status)

def localAllocation (a : VendorAllocation) : LocalAllocation where
  id := a.id
  assignedVendorId := (db.allocationColumns a.id).assignedVendorId
  fulfillmentStatus := a.fulfillmentStatus
  shippingStatus := a.shippingStatus
  trackingNumber := (db.allocationColumns a.id).trackingNumber
  carrier := (db.allocationColumns a.id).carrier
  refundRecords := a.refundRecords
  returnRecords := a.returnRecords
  financeEntries := (db.finance.financeLedgerEntry.filter fun e =>
    decide (e.vendorAllocationId = some a.id) && decide (e.entryType = .sale)).map db.saleLedger

def findLocalOrderForCancellation (sourceShopifyOrderId : String) : Option LocalOrder :=
  (findRow ShopifyOrder.sourceShopifyOrderId sourceShopifyOrderId db.shopifyOrder).map fun o =>
    { id := o.id
      allocations := (db.finance.vendorAllocation.filter fun a =>
        decide (a.orderId = some o.id)).map db.localAllocation }

/-! ## Writes -/

def persistCanonicalCancellationMetadata (orderId : Id)
    (canonicalOrder : CanonicalShopifyOrderSnapshot) : OrderDb :=
  { db with
    shopifyOrder := updateWhere (fun o => decide (o.id = orderId)) (fun o => { o with
      cancelledAt := canonicalOrder.cancelledAt
      cancelReason := canonicalOrder.cancelReason }) db.shopifyOrder }

/-- Mark the allocations cancelled by the vendor. -/
def cancelAllocations (ids : List Id) : OrderDb :=
  { db with
    allocationColumns := fun id =>
      if id ∈ ids then { db.allocationColumns id with
        cancellationReason := some .vendorCancelled, reassignmentRequired := false }
      else db.allocationColumns id }

/-- Hold and void one ledger row. -/
def voidLedger (voidedAt : Instant) (voidReason : String) (db : OrderDb) (id : Id) : OrderDb :=
  { db with
    finance := { db.finance with
      financeLedgerEntry := updateWhere (fun e => decide (e.id = id)) (fun e => { e with
        payoutStatus := .hold
        settlementStatus := .held
        settlementHoldReason := some "Canonical Shopify order cancellation."
        voidedAt := some voidedAt }) db.finance.financeLedgerEntry }
    voidReason := Function.update db.voidReason id (some voidReason) }

/-- Cancel the allocations of the order and void its ledger rows. -/
def voidSales (canonicalOrder : CanonicalShopifyOrderSnapshot) (localOrder : LocalOrder)
    (now : Instant) : OrderDb :=
  let reason := (classifyCanonicalCancellation canonicalOrder).reason
  (localOrder.activeLedgers.map (·.2.id)).foldl
    (voidLedger (canonicalOrder.cancelledAt.getD now)
      ("canonical_order_cancelled:" ++ reason.getD "shopify"))
    (db.cancelAllocations (localOrder.allocations.map (·.id)))

end OrderDb

/-! ## The order repair -/

inductive CancellationConflict
  | none | operationalState | financeReview
  deriving DecidableEq

structure TransactionalCanonicalCancellationResult where
  applied : Bool
  conflict : CancellationConflict
  affectedAllocationIds : List Id
  ledgerIds : List Id
  warnings : List String

def PARTIAL_CANCELLATION : String :=
  "Partial Shopify order cancellation requires manual review and cannot be repaired automatically."

def LOCAL_ORDER_MISSING : String :=
  "Canonical cancellation cannot be applied because the local Shopify order is missing."

def applyCanonicalCancellationInTransaction (db : OrderDb)
    (canonicalOrder : CanonicalShopifyOrderSnapshot) (now : Instant) :
    Except String (TransactionalCanonicalCancellationResult × OrderDb) :=
  match (classifyCanonicalCancellation canonicalOrder).state with
  | .none => .ok (⟨false, .none, [], [], []⟩, db)
  | .unknownRequiresManualReview => .error PARTIAL_CANCELLATION
  | .fullOrderCancelled => do
      let localOrder ← getOrThrow
        (db.findLocalOrderForCancellation canonicalOrder.sourceShopifyOrderId) LOCAL_ORDER_MISSING
      let stored := db.persistCanonicalCancellationMetadata localOrder.id canonicalOrder
      let affectedAllocationIds := localOrder.allocations.map (·.id)
      if localOrder.allocations.any isOperationalConflict then
        pure (⟨true, .operationalState, affectedAllocationIds, [],
          ["Canonical cancellation metadata was stored, but existing fulfillment, refund, or " ++
            "return evidence requires review."]⟩, stored)
      else if localOrder.activeLedgers.any (fun l => isFinanceReviewRequired l.2) then
        pure (⟨true, .financeReview, affectedAllocationIds, [],
          ["Canonical cancellation metadata was stored, but settlement, payout, or paid " ++
            "evidence requires Finance review."]⟩, stored)
      else
        pure (⟨true, .none, affectedAllocationIds, localOrder.activeLedgers.map (·.2.id), []⟩,
          stored.voidSales canonicalOrder localOrder now)

/-! ## The reconciliation -/

inductive ItemStatus
  | reconciled | alreadyCurrent | skipped | failed
  deriving DecidableEq

structure ItemResult where
  status : ItemStatus
  reason : String
  vendorId : Option Id
  allocationId : Option Id
  financeLedgerEntryId : Option Id

structure CancellationReport where
  shopifyOrderId : String
  cancellationState : CanonicalOrderCancellationState
  affectedAllocations : List Id
  affectedLineItems : List String
  ledgersHeldOrVoided : List Id
  skippedCount : ℕ
  failedCount : ℕ
  signalsCreatedOrUpdated : ℕ
  results : List ItemResult

def buildEmptyReport (shopifyOrderId : String) (c : CancellationClassification) :
    CancellationReport where
  shopifyOrderId := shopifyOrderId
  cancellationState := c.state
  affectedAllocations := []
  affectedLineItems := c.affectedLineItemIds
  ledgersHeldOrVoided := []
  skippedCount := 0
  failedCount := 0
  signalsCreatedOrUpdated := 0
  results := []

/-- The report of a call that gives up for one reason. -/
def CancellationReport.failed (report : CancellationReport) (r : ItemResult) :
    CancellationReport :=
  { report with
    failedCount := report.failedCount + 1
    signalsCreatedOrUpdated := report.signalsCreatedOrUpdated + 1
    results := report.results ++ [r] }

/-- Where a call of `reconcileShopifyOrderCancellation` stands. -/
inductive ReconcileCall
  /-- About to ask Shopify for the order. -/
  | fetching (sourceShopifyOrderId : String)
  /-- About to read the local order. -/
  | locating (canonicalOrder : CanonicalShopifyOrderSnapshot) (report : CancellationReport)
  /-- About to store the cancellation of the order that was read. -/
  | storing (canonicalOrder : CanonicalShopifyOrderSnapshot) (localOrder : LocalOrder)
      (report : CancellationReport)
  /-- About to void the sales of the order that was read. -/
  | voiding (canonicalOrder : CanonicalShopifyOrderSnapshot) (localOrder : LocalOrder)
      (report : CancellationReport)
  /-- Returned; no report when Shopify does not know the order. -/
  | returned (report : Option CancellationReport)

/-- An answer from outside: the order on Shopify, and the clock. -/
structure Answer where
  canonicalOrder : Option CanonicalShopifyOrderSnapshot
  now : Instant

/-- The call after Shopify answered. -/
def afterFetch (sourceShopifyOrderId : String) (canonicalOrder : CanonicalShopifyOrderSnapshot) :
    ReconcileCall :=
  let classification := classifyCanonicalCancellation canonicalOrder
  let report := buildEmptyReport sourceShopifyOrderId classification
  match classification.state with
  | .none => .returned (some report)
  | .unknownRequiresManualReview => .returned (some { report with
      signalsCreatedOrUpdated := report.signalsCreatedOrUpdated + 1
      skippedCount := report.skippedCount + max classification.affectedLineItemIds.length 1
      results := report.results ++ [⟨.skipped,
        "canonical_order_partial_cancellation_requires_manual_review", none, none, none⟩] })
  | .fullOrderCancelled => .locating canonicalOrder report

/-- The call after the cancellation was stored: what the local order allows, as it was read. -/
def afterStore (canonicalOrder : CanonicalShopifyOrderSnapshot) (localOrder : LocalOrder)
    (report : CancellationReport) : ReconcileCall :=
  let report := { report with affectedAllocations := localOrder.allocations.map (·.id) }
  match localOrder.allocations.find? isOperationalConflict with
  | some conflict => .returned (some (report.failed ⟨.failed,
      "canonical_order_cancellation_conflicts_with_operational_state",
      some conflict.assignedVendorId, some conflict.id, none⟩))
  | none =>
      match localOrder.activeLedgers.find? fun l => isFinanceReviewRequired l.2 with
      | some review => .returned (some (report.failed ⟨.failed,
          "canonical_order_cancellation_requires_finance_review",
          some review.2.vendorId, some review.1.id, some review.2.id⟩))
      | none => .voiding canonicalOrder localOrder report

/-- The report of a call whose transaction committed. -/
def reconciledReport (localOrder : LocalOrder) (report : CancellationReport) :
    CancellationReport :=
  { report with
    ledgersHeldOrVoided := localOrder.activeLedgers.map (·.2.id)
    signalsCreatedOrUpdated := report.signalsCreatedOrUpdated + 1
    results := report.results ++
      if localOrder.activeLedgers.isEmpty then
        localOrder.allocations.map fun a =>
          ⟨.alreadyCurrent, "no_active_sale_ledgers", some a.assignedVendorId, some a.id, none⟩
      else localOrder.activeLedgers.map fun l =>
        ⟨.reconciled, "canonical_order_cancelled", some l.2.vendorId, some l.1.id, some l.2.id⟩ }

/-- The next call of `reconcileShopifyOrderCancellation` to Shopify or to the database. -/
def reconcileShopifyOrderCancellation (answer : Answer) (db : OrderDb) (call : ReconcileCall) :
    Option (OrderDb × ReconcileCall) :=
  match call with
  | .fetching sourceShopifyOrderId =>
      match answer.canonicalOrder with
      | none => some (db, .returned none)
      | some canonicalOrder => some (db, afterFetch sourceShopifyOrderId canonicalOrder)
  | .locating canonicalOrder report =>
      match db.findLocalOrderForCancellation report.shopifyOrderId with
      | none => some (db, .returned (some (report.failed ⟨.failed,
          "canonical_order_cancellation_missing_local_order", none, none, none⟩)))
      | some localOrder => some (db, .storing canonicalOrder localOrder report)
  | .storing canonicalOrder localOrder report =>
      some (db.persistCanonicalCancellationMetadata localOrder.id canonicalOrder,
        afterStore canonicalOrder localOrder report)
  | .voiding canonicalOrder localOrder report =>
      some (db.voidSales canonicalOrder localOrder answer.now,
        .returned (some (reconciledReport localOrder report)))
  | .returned _ => none

/-! ## The system -/

/-- What happens to the tables besides the calls. -/
inductive OutsideMove
  | finance (action : Finance.Action)
  | repairOrder (canonicalOrder : CanonicalShopifyOrderSnapshot) (now : Instant)
  /-- An order comes in. -/
  | recordOrder (order : ShopifyOrder)
  /-- Any other change to the columns of an allocation. -/
  | updateAllocation (id : Id) (columns : AllocationColumns)

def outside (m : OutsideMove) (db : OrderDb) : Option OrderDb :=
  match m with
  | .finance action => (Finance.step action db.finance).toOption.map fun f => { db with finance := f }
  | .repairOrder canonicalOrder now =>
      (applyCanonicalCancellationInTransaction db canonicalOrder now).toOption.map Prod.snd
  | .recordOrder order =>
      (insertRows (fun o => (o.id, o.sourceShopifyOrderId)) db.shopifyOrder [order] ()).toOption.map
        fun orders => { db with shopifyOrder := orders }
  | .updateAllocation id columns =>
      some { db with allocationColumns := Function.update db.allocationColumns id columns }

/-- Any number of `reconcileShopifyOrderCancellation` calls over the database. -/
def system : Program OrderDb ReconcileCall String Answer OutsideMove where
  start := .fetching
  run := fun _ => reconcileShopifyOrderCancellation
  outside := outside

/-- The database before any row was written. -/
def OrderDb.empty : OrderDb where
  finance := FinanceDb.empty
  shopifyOrder := []
  allocationColumns := fun _ => ⟨0, none, none, none, false⟩
  voidReason := fun _ => none

end VendorDashboard.CanonicalCancellation

import VendorDashboard.Finance.Money
import VendorDashboard.Framework.Text
import Mathlib.Data.List.Sort

/-!
# The plan of an allocation split

`planAllocationSplitForLineItemReject` looks for everything that forbids to move the selected lines
of an allocation to a child allocation, and computes the two parts.

A line names its allocation, and the database rejects a line without one: `SplitDb` carries this
foreign key as a proof.  The order of an allocation and the order line of a line are parts of their
rows.
-/

namespace VendorDashboard.AllocationSplit

open Finance (Instant AllocationStatus VendorOutboundMethod VendorIntegrationProviderCode
  ShippingMode PayoutStatus SettlementStatus toMinorUnits)
open Table Text

/-! ## Rows -/

inductive CancellationReason
  | outOfStock | vendorCancelled | damagedInventory | fulfillmentIssue
  deriving DecidableEq, Repr

inductive ShipmentExecutionStatus
  | pending | created | failed | inTransit | delivered | returned | cancelled
  deriving DecidableEq, Repr

structure ShopifyOrder where
  id : String
  sourceShopifyOrderId : String
  sourceShopifyOrderNumber : String
  currency : Option String
  cancelledAt : Option Instant
  deriving DecidableEq

structure VendorAllocation where
  id : String
  order : ShopifyOrder
  sourceShopifyOrderNumber : String
  originalVendorId : String
  assignedVendorId : String
  outboundMethodSnapshot : Option VendorOutboundMethod
  outboundIntegrationProviderSnapshot : Option VendorIntegrationProviderCode
  shopifyLocationGidSnapshot : Option String
  allocationStatus : AllocationStatus
  cancellationReason : Option CancellationReason
  reassignmentRequired : Bool
  cancelRefundReviewStatus : Option String
  fulfillmentStatus : String
  shippingStatus : String
  trackingNumber : Option String
  carrier : Option String
  createdAt : Instant
  deriving DecidableEq

structure ShopifyOrderLineItem where
  sourceLineItemId : String
  deriving DecidableEq

structure VendorAllocationLineItem where
  id : String
  vendorAllocationId : String
  shopifyLineItemId : String
  shopifyOrderLineItem : ShopifyOrderLineItem
  quantity : ℤ
  lineAmount : Option ℚ
  deriving DecidableEq

/-- The columns that a replacement ledger copies. -/
structure SaleSnapshot where
  commissionPercentSnapshot : Option ℚ
  commissionVatPercentSnapshot : Option ℚ
  deductShippingEnabledSnapshot : Option Bool
  shippingModeSnapshot : Option ShippingMode
  fixedShippingFeeSnapshot : Option ℚ
  shippingCostSnapshot : Option ℚ
  shippingVatAmountSnapshot : Option ℚ
  shippingCostSourceSnapshot : Option String
  shippingCostProviderSnapshot : Option String
  shippingCostIdSnapshot : Option String
  financialProfileIdSnapshot : Option String
  settlementDelayDaysSnapshot : ℤ
  deriving DecidableEq

structure FinanceLedgerEntry where
  id : String
  vendorAllocationId : Option String
  vendorId : String
  entryType : String
  amount : ℚ
  payoutStatus : PayoutStatus
  description : Option String
  snapshot : SaleSnapshot
  settlementStatus : SettlementStatus
  accruedAt : Option Instant
  voidedAt : Option Instant
  voidReason : Option String
  supersededByLedgerId : Option String
  deriving DecidableEq

structure AllocationSplitEvent where
  id : String
  sourceAllocationId : String
  childAllocationId : String
  reason : CancellationReason
  note : Option String
  actorUserId : Option String
  movedVendorAllocationLineItemIdsJson : List String
  movedShopifyLineItemIdsJson : List String
  sourceFinanceLedgerEntryId : String
  remainingFinanceLedgerEntryId : String
  childFinanceLedgerEntryId : String
  deriving DecidableEq

structure AllocationAssignmentHistory where
  vendorAllocationId : String
  action : String
  fromVendorId : String
  toVendorId : String
  reason : String
  actorUserId : Option String
  deriving DecidableEq

inductive FinanceEventType
  | saleRecorded | commissionReserved | commissionVatReserved | vendorPayableReserved
  deriving DecidableEq

structure FinanceEvent where
  idempotencyKey : String
  eventType : FinanceEventType
  amountMinor : ℤ
  vendorId : String
  shopifyOrderId : String
  financeLedgerEntryId : String
  currency : String
  referenceType : String
  referenceId : String
  createdBy : String
  deriving DecidableEq

structure VendorShippingConfig where
  vendorId : String
  outboundMethod : Option VendorOutboundMethod
  selectedIntegrationProvider : Option VendorIntegrationProviderCode
  shopifyLocationGid : Option String
  deriving DecidableEq

structure ShipmentExecution where
  allocationId : String
  shipmentStatus : ShipmentExecutionStatus
  deriving DecidableEq

structure FinanceIntegrityAlert where
  vendorAllocationId : Option String
  severity : String
  status : String
  deriving DecidableEq

structure AllocationEconomicTransfer where
  vendorAllocationId : String
  status : String
  deriving DecidableEq

/-- What a split reads and does not write.  Rows of which only the existence matters are the id
they point to. -/
structure SplitEvidence where
  fulfillments : List String
  shipmentExecutions : List ShipmentExecution
  returnRecords : List String
  refundRecords : List String
  economicTransfers : List AllocationEconomicTransfer
  financeIntegrityAlerts : List FinanceIntegrityAlert
  /-- The ledgers of the settlement lines. -/
  settlementApprovalLines : List String
  /-- The ledgers of the payout lines. -/
  payoutBatchLines : List String
  fullRefundTerminalFacts : List String
  vendorShippingConfigs : List VendorShippingConfig
  deriving DecidableEq

structure SplitDb where
  vendorAllocation : List VendorAllocation
  vendorAllocationLineItem : List VendorAllocationLineItem
  financeLedgerEntry : List FinanceLedgerEntry
  allocationSplitEvent : List AllocationSplitEvent
  allocationAssignmentHistory : List AllocationAssignmentHistory
  financeEvent : List FinanceEvent
  evidence : SplitEvidence
  /-- The foreign key of the lines. -/
  line_allocation : ∀ line ∈ vendorAllocationLineItem,
    ∃ allocation ∈ vendorAllocation, allocation.id = line.vendorAllocationId
  deriving DecidableEq

namespace SplitDb

def allocation (db : SplitDb) (id : String) : Option VendorAllocation :=
  findRow VendorAllocation.id id db.vendorAllocation

def lineItems (db : SplitDb) (allocationId : String) : List VendorAllocationLineItem :=
  db.vendorAllocationLineItem.filter fun line => line.vendorAllocationId == allocationId

def financeEntries (db : SplitDb) (allocationId : String) : List FinanceLedgerEntry :=
  db.financeLedgerEntry.filter fun entry => entry.vendorAllocationId == some allocationId

end SplitDb

/-! ## Identifiers -/

/-- The ids of an input, trimmed and not empty. -/
def normalizeIds (ids : Option (List String)) : List String :=
  ((ids.getD []).map trim).filter fun id => id != ""

/-- `sha256` is the hexadecimal digest. -/
def buildAllocationSplitSelectedLineHash (sha256 : String → String) (selectedLineIds : List String) :
    String :=
  slice 16 (sha256 (String.intercalate "|"
    (selectedLineIds.insertionSort fun s t => codeUnits s ≤ codeUnits t)))

def buildDeterministicChildAllocationId (sha256 : String → String) (sourceAllocationId : String)
    (selectedLineIds : List String) : String :=
  let digest := buildAllocationSplitSelectedLineHash sha256 selectedLineIds
  let base := "alloc-split-" ++ sourceAllocationId ++ "-" ++ digest
  if utf16Length base ≤ 120 then base else "alloc-split-" ++ digest

def buildSaleLedgerEntryId (vendorId sourceShopifyOrderId vendorAllocationId : String) : String :=
  "fin-" ++ vendorId ++ "-sale-" ++ sourceShopifyOrderId ++ "-" ++ vendorAllocationId

/-! ## The planner -/

structure AllocationSplitPlannerBlocker where
  code : String
  message : String
  deriving DecidableEq

inductive PlannerDecision
  | canSplit | useFullAllocationReject | blocked
  deriving DecidableEq

/-- The text of a decision, which stands for a code where there is none. -/
def PlannerDecision.text : PlannerDecision → String
  | .canSplit => "can_split"
  | .useFullAllocationReject => "use_full_allocation_reject"
  | .blocked => "blocked"

structure AllocationSplitPlannerLine where
  id : String
  shopifyLineItemId : String
  sourceLineItemId : String
  quantity : ℤ
  lineAmount : ℚ
  deriving DecidableEq

structure AmountPlan where
  originalAmount : ℚ
  selectedAmount : ℚ
  remainingAmount : ℚ
  deriving DecidableEq

structure AllocationSplitPlannerResult where
  decision : PlannerDecision
  blockers : List AllocationSplitPlannerBlocker
  warnings : List AllocationSplitPlannerBlocker
  selectedLines : List AllocationSplitPlannerLine
  remainingLines : List AllocationSplitPlannerLine
  amountPlan : AmountPlan
  sourceSaleLedgerId : Option String
  sourceSaleLedgerAmount : Option ℚ

structure AllocationSplitPlannerInput where
  vendorAllocationId : String
  selectedVendorAllocationLineItemIds : Option (List String)
  selectedShopifyLineItemIds : Option (List String)
  actorVendorId : Option String

def BLOCKING_ALERT_STATUSES : List String := ["OPEN", "ACKNOWLEDGED"]

def BLOCKING_ALERT_SEVERITIES : List String := ["WARNING", "CRITICAL"]

def ACTIVE_REVIEW_STATUSES : List String :=
  ["PENDING_REVIEW", "CUSTOMER_CONTACTED", "SHOPIFY_ACTION_PENDING"]

def BLOCKING_TRANSFER_STATUSES : List String :=
  ["PENDING", "IN_PROGRESS", "PROCESSING", "STARTED", "FAILED", "FAILURE", "ERROR", "COMPLETED"]

def normalizeUpper (value : String) : String := toUpperCase (trim value)

/-- `value?.trim()` is a text. -/
def hasText (value : Option String) : Bool := trim (value.getD "") != ""

/-- A condition of the plan with the blocker it adds. -/
def blockerIf (p : Prop) [Decidable p] (code message : String) :
    List AllocationSplitPlannerBlocker :=
  if p then [{ code := code, message := message }] else []

def isFullOrderCancelled (order : ShopifyOrder) : Bool := order.cancelledAt.isSome

def Planner.isActiveSaleLedger (entry : FinanceLedgerEntry) : Bool :=
  normalizeUpper entry.entryType == "SALE" && entry.voidedAt.isNone &&
    entry.supersededByLedgerId.isNone

def hasBlockingShipmentExecution (execution : ShipmentExecution) : Bool :=
  execution.shipmentStatus != .failed && execution.shipmentStatus != .cancelled

def mapLine (line : VendorAllocationLineItem) : AllocationSplitPlannerLine where
  id := line.id
  shopifyLineItemId := line.shopifyLineItemId
  sourceLineItemId := line.shopifyOrderLineItem.sourceLineItemId
  quantity := line.quantity
  lineAmount := line.lineAmount.getD 0

/-- Whether a Shopify id of the input names the line. -/
def matchesShopifyId (ids : List String) (line : VendorAllocationLineItem) : Bool :=
  ids.contains line.shopifyLineItemId || ids.contains line.shopifyOrderLineItem.sourceLineItemId

def selectsLine (allocationLineIds shopifyLineIds : List String)
    (line : VendorAllocationLineItem) : Bool :=
  allocationLineIds.contains line.id || matchesShopifyId shopifyLineIds line

/-- The conditions on the allocation and its rows. -/
def allocationBlockers (db : SplitDb) (input : AllocationSplitPlannerInput)
    (allocation : VendorAllocation) : List AllocationSplitPlannerBlocker :=
  blockerIf (input.actorVendorId.getD "" ≠ "" ∧
      input.actorVendorId ≠ some allocation.assignedVendorId)
    "actor_vendor_mismatch" "Actor vendor does not own this allocation." ++
  blockerIf (allocation.allocationStatus ≠ .active) "allocation_not_active"
    "Only active allocations can be planned for line-item rejection split." ++
  blockerIf (isFullOrderCancelled allocation.order) "order_cancelled"
    "Cancelled orders cannot be split." ++
  blockerIf (allocation.cancellationReason.isSome) "allocation_cancelled"
    "Cancelled allocations cannot be split." ++
  blockerIf (allocation.reassignmentRequired) "reassignment_already_required"
    "Allocation already requires reassignment." ++
  blockerIf (normalizeUpper (allocation.cancelRefundReviewStatus.getD "") ∈ ACTIVE_REVIEW_STATUSES)
    "cancel_refund_review_active"
    "Cancel/refund review is already active for this allocation." ++
  blockerIf (hasText allocation.trackingNumber) "tracking_exists"
    "Allocation already has tracking evidence." ++
  blockerIf (hasText allocation.carrier) "carrier_exists"
    "Allocation already has carrier evidence." ++
  blockerIf (allocation.id ∈ db.evidence.fulfillments) "fulfillment_exists"
    "Allocation already has fulfillment evidence." ++
  blockerIf (db.evidence.shipmentExecutions.any fun execution =>
      execution.allocationId == allocation.id && hasBlockingShipmentExecution execution)
    "shipment_execution_exists" "Allocation already has shipment execution evidence." ++
  blockerIf (allocation.id ∈ db.evidence.refundRecords) "refund_exists"
    "Allocation already has refund records." ++
  blockerIf (allocation.id ∈ db.evidence.returnRecords) "return_exists"
    "Allocation already has return records." ++
  blockerIf (db.evidence.financeIntegrityAlerts.any fun alert =>
      alert.vendorAllocationId == some allocation.id &&
        BLOCKING_ALERT_STATUSES.contains (normalizeUpper alert.status) &&
        BLOCKING_ALERT_SEVERITIES.contains (normalizeUpper alert.severity))
    "finance_integrity_alert_exists"
    "Open or acknowledged finance integrity alert blocks allocation split planning." ++
  blockerIf (db.evidence.economicTransfers.any fun transfer =>
      transfer.vendorAllocationId == allocation.id &&
        BLOCKING_TRANSFER_STATUSES.contains (normalizeUpper transfer.status))
    "economic_transfer_exists" "Economic transfer already exists for this allocation."

/-- The conditions on the ledgers of the allocation. -/
def ledgerBlockers (db : SplitDb) (entries : List FinanceLedgerEntry) :
    List AllocationSplitPlannerBlocker :=
  let saleLedgers := entries.filter fun entry => normalizeUpper entry.entryType == "SALE"
  let activeSaleLedgers := entries.filter Planner.isActiveSaleLedger
  (if activeSaleLedgers.isEmpty then
    if saleLedgers.any fun entry => entry.voidedAt.isSome || entry.supersededByLedgerId.isSome then
      [{ code := "source_sale_ledger_voided"
         message := "Source sale ledger is already voided or superseded." }]
    else
      [{ code := "source_sale_ledger_missing"
         message := "Allocation has no active source sale ledger." }]
  else []) ++
  blockerIf (1 < activeSaleLedgers.length) "multiple_active_sale_ledgers"
    "Allocation has multiple active sale ledgers." ++
  blockerIf (entries.any fun entry => db.evidence.settlementApprovalLines.contains entry.id)
    "settlement_approval_exists" "Allocation already has settlement approval evidence." ++
  blockerIf (entries.any fun entry => db.evidence.payoutBatchLines.contains entry.id)
    "payout_batch_exists" "Allocation already has payout batch evidence."

/-- The conditions on the selection: it is not empty, names no line twice and only lines of the
allocation. -/
def selectionBlockers (lines : List VendorAllocationLineItem)
    (allocationLineIds shopifyLineIds : List String) : List AllocationSplitPlannerBlocker :=
  blockerIf (allocationLineIds = [] ∧ shopifyLineIds = []) "selected_lines_empty"
    "Select at least one allocation line item." ++
  blockerIf (¬ allocationLineIds.Nodup ∨ ¬ shopifyLineIds.Nodup) "duplicate_selected_lines"
    "Selected line items must be unique." ++
  (allocationLineIds.flatMap fun id =>
    blockerIf (¬ lines.any fun line => line.id == id) "selected_line_not_owned"
      ("Selected allocation line item " ++ id ++ " is not owned by this allocation.")) ++
  (shopifyLineIds.flatMap fun id =>
    blockerIf (¬ lines.any (matchesShopifyId [id])) "selected_line_not_owned"
      ("Selected Shopify line item " ++ id ++ " is not owned by this allocation."))

def allLinesSelectedWarning : AllocationSplitPlannerBlocker where
  code := "all_lines_selected"
  message := "All allocation lines were selected; use full allocation reject instead of split."

def emptyResult (blockers : List AllocationSplitPlannerBlocker) : AllocationSplitPlannerResult where
  decision := .blocked
  blockers := blockers
  warnings := []
  selectedLines := []
  remainingLines := []
  amountPlan := { originalAmount := 0, selectedAmount := 0, remainingAmount := 0 }
  sourceSaleLedgerId := none
  sourceSaleLedgerAmount := none

def planLoadedAllocation (db : SplitDb) (input : AllocationSplitPlannerInput)
    (allocation : VendorAllocation) : AllocationSplitPlannerResult :=
  let lines := db.lineItems allocation.id
  let entries := db.financeEntries allocation.id
  let allocationLineIds := normalizeIds input.selectedVendorAllocationLineItemIds
  let shopifyLineIds := normalizeIds input.selectedShopifyLineItemIds
  let blockers := allocationBlockers db input allocation ++ ledgerBlockers db entries ++
    selectionBlockers lines allocationLineIds shopifyLineIds
  let selectedRaw := lines.filter (selectsLine allocationLineIds shopifyLineIds)
  let selectedLines := selectedRaw.map mapLine
  let remainingLines :=
    (lines.filter fun line => !(selectedRaw.map VendorAllocationLineItem.id).contains line.id).map
      mapLine
  let sourceSaleLedger := match entries.filter Planner.isActiveSaleLedger with
    | [entry] => some entry
    | _ => none
  let allSelected := blockers = [] ∧ selectedLines.length = lines.length
  { decision :=
      if allSelected then .useFullAllocationReject
      else if blockers = [] then .canSplit
      else .blocked
    blockers := blockers
    warnings := if allSelected then [allLinesSelectedWarning] else []
    selectedLines := selectedLines
    remainingLines := remainingLines
    amountPlan :=
      { originalAmount := (lines.map fun line => line.lineAmount.getD 0).sum
        selectedAmount := (selectedLines.map AllocationSplitPlannerLine.lineAmount).sum
        remainingAmount := (remainingLines.map AllocationSplitPlannerLine.lineAmount).sum }
    sourceSaleLedgerId := sourceSaleLedger.map FinanceLedgerEntry.id
    sourceSaleLedgerAmount := sourceSaleLedger.map FinanceLedgerEntry.amount }

def planAllocationSplitForLineItemReject (db : SplitDb) (input : AllocationSplitPlannerInput) :
    AllocationSplitPlannerResult :=
  let vendorAllocationId := trim input.vendorAllocationId
  if vendorAllocationId = "" then
    emptyResult [{ code := "allocation_missing", message := "Vendor allocation id is required." }]
  else match db.allocation vendorAllocationId with
    | none =>
        emptyResult
          [{ code := "allocation_missing", message := "Vendor allocation could not be found." }]
    | some allocation => planLoadedAllocation db input allocation

end VendorDashboard.AllocationSplit

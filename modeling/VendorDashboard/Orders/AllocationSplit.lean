import VendorDashboard.Framework.Transaction
import VendorDashboard.Orders.AllocationSplitPlan

/-!
# Splitting an allocation

`splitAllocationForLineItemReject` moves the selected lines of an allocation to a blocked child
allocation and replaces the sale ledger by two.  The ids of the child, the event and the ledgers are
computed from the selected lines, so that a second call finds a split that is complete and returns
it.

The call is one transaction.  Foreign keys other than that of the lines are not checked.
-/

namespace VendorDashboard.AllocationSplit

open Finance (Instant VendorOutboundMethod VendorIntegrationProviderCode toMinorUnits)
open Table Text Transaction

structure SplitAllocationForLineItemRejectInput where
  vendorAllocationId : String
  selectedVendorAllocationLineItemIds : Option (List String)
  selectedShopifyLineItemIds : Option (List String)
  actorVendorId : Option String
  actorUserId : Option String
  reason : String
  note : Option String
  confirmSplit : Bool

structure AllocationSplitServiceResult where
  splitEventId : String
  sourceAllocationId : String
  childAllocationId : String
  movedVendorAllocationLineItemIds : List String
  movedShopifyLineItemIds : List String
  sourceSaleLedgerId : String
  remainingSaleLedgerId : String
  childSaleLedgerId : String
  amountPlan : AmountPlan
  idempotent : Bool
  deriving DecidableEq

inductive SplitFailure
  /-- `AllocationSplitValidationError`. -/
  | validation (code message : String) (statusCode : ℕ)
  /-- `AllocationActionabilityGuardError`. -/
  | actionability (code message : String)
  | error (message : String)
  | uniqueConstraint
  | foreignKeyConstraint
  deriving DecidableEq

def MAX_NOTE_LENGTH : ℕ := 1000

/-! ## The input -/

def reasonOf (s : String) : Option CancellationReason :=
  if s = "OUT_OF_STOCK" then some .outOfStock
  else if s = "VENDOR_CANCELLED" then some .vendorCancelled
  else if s = "DAMAGED_INVENTORY" then some .damagedInventory
  else if s = "FULFILLMENT_ISSUE" then some .fulfillmentIssue
  else none

def CancellationReason.text : CancellationReason → String
  | .outOfStock => "OUT_OF_STOCK"
  | .vendorCancelled => "VENDOR_CANCELLED"
  | .damagedInventory => "DAMAGED_INVENTORY"
  | .fulfillmentIssue => "FULFILLMENT_ISSUE"

def normalizeReason (reason : String) : Except SplitFailure CancellationReason :=
  getOrThrow (reasonOf (normalizeUpper reason))
    (.validation "invalid_reason" "Allocation split reason is required." 400)

def normalizeNote (note : Option String) : Except SplitFailure String := do
  let normalized := trim (note.getD "")
  require (utf16Length normalized ≤ MAX_NOTE_LENGTH) (.validation "note_too_long"
    "Allocation split note must be 1000 characters or fewer." 400)
  pure normalized

def buildLineReason (reason : CancellationReason) (note : String) : String :=
  if note = "" then reason.text else reason.text ++ ": " ++ note

/-! ## The ids of a split -/

def buildSplitEventId (childAllocationId : String) : String := "split-event-" ++ childAllocationId

def buildRemainingReplacementLedgerId (vendorId sourceShopifyOrderId sourceAllocationId
    selectedLineHash : String) : String :=
  "fin-" ++ vendorId ++ "-sale-" ++ sourceShopifyOrderId ++ "-" ++ sourceAllocationId ++
    "-split-rem-" ++ selectedLineHash

structure SplitIds where
  vendorAllocationId : String
  selectedLineIds : List String
  childAllocationId : String
  splitEventId : String
  normalSourceLedgerId : String
  remainingLedgerId : String
  childLedgerId : String
  deriving DecidableEq

/-- `selectedLineIdsForHash`: without allocation line ids, the lines of the source that the Shopify
ids name. -/
def selectedLineIdsForHash (db : SplitDb) (input : SplitAllocationForLineItemRejectInput)
    (source : VendorAllocation) : List String :=
  let selectedInputLineIds := normalizeIds input.selectedVendorAllocationLineItemIds
  if selectedInputLineIds ≠ [] then selectedInputLineIds
  else
    ((db.lineItems source.id).filter
      (matchesShopifyId ((input.selectedShopifyLineItemIds.getD []).map trim))).map
        VendorAllocationLineItem.id

def splitIds (sha256 : String → String) (source : VendorAllocation)
    (selectedLineIds : List String) : SplitIds :=
  let childAllocationId := buildDeterministicChildAllocationId sha256 source.id selectedLineIds
  { vendorAllocationId := source.id
    selectedLineIds := selectedLineIds
    childAllocationId := childAllocationId
    splitEventId := buildSplitEventId childAllocationId
    normalSourceLedgerId := buildSaleLedgerEntryId source.assignedVendorId
      source.order.sourceShopifyOrderId source.id
    remainingLedgerId := buildRemainingReplacementLedgerId source.assignedVendorId
      source.order.sourceShopifyOrderId source.id
      (buildAllocationSplitSelectedLineHash sha256 selectedLineIds)
    childLedgerId := buildSaleLedgerEntryId source.assignedVendorId
      source.order.sourceShopifyOrderId childAllocationId }

/-! ## An existing split -/

structure ExistingSplitArtifacts where
  sourceAllocation : Option VendorAllocation
  sourceLines : List VendorAllocationLineItem
  childAllocation : Option VendorAllocation
  childLines : List VendorAllocationLineItem
  splitEvent : Option AllocationSplitEvent
  sourceLedger : Option FinanceLedgerEntry
  remainingLedger : Option FinanceLedgerEntry
  childLedger : Option FinanceLedgerEntry

def loadExistingSplitArtifacts (db : SplitDb) (ids : SplitIds) : ExistingSplitArtifacts where
  sourceAllocation := db.allocation ids.vendorAllocationId
  sourceLines := db.lineItems ids.vendorAllocationId
  childAllocation := db.allocation ids.childAllocationId
  childLines := db.lineItems ids.childAllocationId
  splitEvent := findRow AllocationSplitEvent.id ids.splitEventId db.allocationSplitEvent
  sourceLedger := findRow FinanceLedgerEntry.id ids.normalSourceLedgerId db.financeLedgerEntry
  remainingLedger := findRow FinanceLedgerEntry.id ids.remainingLedgerId db.financeLedgerEntry
  childLedger := findRow FinanceLedgerEntry.id ids.childLedgerId db.financeLedgerEntry

def splitVoidReason (splitEventId : String) : String := "allocation_split:" ++ splitEventId

def isCompleteSplitEvent (ids : SplitIds) (event : AllocationSplitEvent) : Bool :=
  event.id == ids.splitEventId && event.sourceAllocationId == ids.vendorAllocationId &&
    event.childAllocationId == ids.childAllocationId &&
    event.remainingFinanceLedgerEntryId == ids.remainingLedgerId &&
    event.childFinanceLedgerEntryId == ids.childLedgerId

def isReplacedLedger (ids : SplitIds) (ledger : FinanceLedgerEntry) : Bool :=
  ledger.voidedAt.isSome && ledger.voidReason == some (splitVoidReason ids.splitEventId) &&
    ledger.supersededByLedgerId == some ids.remainingLedgerId

def isActiveSaleLedger (entry : FinanceLedgerEntry) : Bool :=
  toLowerCase (trim entry.entryType) == "sale" && entry.voidedAt.isNone &&
    entry.supersededByLedgerId.isNone

def isReplacementLedger (allocationId : String) (ledger : FinanceLedgerEntry) : Bool :=
  isActiveSaleLedger ledger && ledger.vendorAllocationId == some allocationId

def isCompleteExistingSplit (ids : SplitIds) (artifacts : ExistingSplitArtifacts) : Bool :=
  artifacts.sourceAllocation.isSome && artifacts.childAllocation.isSome &&
    artifacts.splitEvent.any (isCompleteSplitEvent ids) &&
    artifacts.sourceLedger.any (isReplacedLedger ids) &&
    artifacts.remainingLedger.any (isReplacementLedger ids.vendorAllocationId) &&
    artifacts.childLedger.any (isReplacementLedger ids.childAllocationId) &&
    ids.selectedLineIds.all (artifacts.childLines.map VendorAllocationLineItem.id).contains &&
    !artifacts.sourceLines.isEmpty

def assertNoInconsistentExistingSplit (artifacts : ExistingSplitArtifacts) :
    Except SplitFailure Unit := do
  require (¬ (artifacts.childAllocation.isSome ∧ artifacts.splitEvent.isNone))
    (.validation "allocation_split_inconsistent_existing_child"
      "Split child allocation already exists without a complete matching split event." 409)
  require (¬ (artifacts.remainingLedger.isSome ∨ artifacts.childLedger.isSome ∨
      artifacts.splitEvent.isSome))
    (.validation "allocation_split_inconsistent_replacement_ledger"
      ("Allocation split replacement ledger or event already exists without a complete matching " ++
        "split.") 409)
  require (artifacts.sourceLedger.all fun ledger => ledger.voidedAt.isNone)
    (.validation "allocation_split_inconsistent_voided_source_ledger"
      "Source sale ledger is already voided without a complete matching split." 409)

def existingSplitResult (ids : SplitIds) (artifacts : ExistingSplitArtifacts) :
    AllocationSplitServiceResult where
  splitEventId := ids.splitEventId
  sourceAllocationId := ids.vendorAllocationId
  childAllocationId := ids.childAllocationId
  movedVendorAllocationLineItemIds := ids.selectedLineIds
  movedShopifyLineItemIds := artifacts.childLines.map VendorAllocationLineItem.shopifyLineItemId
  sourceSaleLedgerId := ids.normalSourceLedgerId
  remainingSaleLedgerId := ids.remainingLedgerId
  childSaleLedgerId := ids.childLedgerId
  amountPlan :=
    { originalAmount := (artifacts.sourceLedger.map FinanceLedgerEntry.amount).getD 0
      selectedAmount := (artifacts.childLedger.map FinanceLedgerEntry.amount).getD 0
      remainingAmount := (artifacts.remainingLedger.map FinanceLedgerEntry.amount).getD 0 }
  idempotent := true

/-! ## The checks of a new split -/

def assertAllocationActionable (db : SplitDb) (vendorAllocationId : String) :
    Except SplitFailure Unit := do
  let allocation ← getOrThrow (db.allocation vendorAllocationId)
    (.actionability "ALLOCATION_NOT_FOUND" "Allocation was not found.")
  require (trim allocation.order.sourceShopifyOrderId ≠ "")
    (.actionability "ALLOCATION_CANONICAL_ORDER_IDENTITY_MISSING"
      "Allocation canonical Shopify order identity is unavailable.")
  require (vendorAllocationId ∉ db.evidence.fullRefundTerminalFacts)
    (.actionability "ALLOCATION_REFUND_TERMINAL"
      "Allocation is operationally closed by a verified full refund.")

def assertPlanned (planner : AllocationSplitPlannerResult) : Except SplitFailure Unit :=
  match planner.decision, planner.blockers ++ planner.warnings with
  | .canSplit, _ => .ok ()
  | _, blocker :: _ => .error (.validation blocker.code blocker.message 409)
  | decision, [] => .error (.validation decision.text "Allocation cannot be split." 409)

def assertLineSetStillMatches (selectedLineIds remainingLineIds currentLineIds : List String) :
    Except SplitFailure Unit :=
  let expectedLineIds := (selectedLineIds ++ remainingLineIds).dedup
  require (currentLineIds.dedup.length = expectedLineIds.length ∧
      ∀ id ∈ expectedLineIds, id ∈ currentLineIds)
    (.validation "source_line_set_changed"
      "Source allocation line item set changed during allocation split." 409)

def getActiveSourceSaleLedger (entries : List FinanceLedgerEntry) :
    Except SplitFailure FinanceLedgerEntry :=
  match entries.filter isActiveSaleLedger with
  | [ledger] => .ok ledger
  | [] => .error (.validation "source_sale_ledger_missing"
      "Allocation has no active source sale ledger." 409)
  | _ => .error (.validation "multiple_active_sale_ledgers"
      "Allocation has multiple active source sale ledgers." 409)

def assertMinorAmountIntegrity (plan : AmountPlan) (sourceLedgerAmount : ℚ) :
    Except SplitFailure Unit :=
  require (toMinorUnits plan.selectedAmount + toMinorUnits plan.remainingAmount =
      toMinorUnits sourceLedgerAmount)
    (.validation "amount_plan_mismatch"
      "Selected and remaining line amounts must exactly equal the source sale ledger amount." 409)

/-- The checks after the plan.  They give the sale ledger to replace. -/
def checkSource (db : SplitDb) (source : VendorAllocation) (planner : AllocationSplitPlannerResult) :
    Except SplitFailure FinanceLedgerEntry := do
  require (source.allocationStatus = .active)
    (.validation "allocation_not_active" "Source allocation is no longer active." 409)
  require (¬ (isFullOrderCancelled source.order ∨ source.cancellationReason.isSome))
    (.validation "order_cancelled" "Cancelled orders cannot be split." 409)
  assertLineSetStillMatches (planner.selectedLines.map AllocationSplitPlannerLine.id)
    (planner.remainingLines.map AllocationSplitPlannerLine.id)
    ((db.lineItems source.id).map VendorAllocationLineItem.id)
  let sourceLedger ← getActiveSourceSaleLedger (db.financeEntries source.id)
  require (some sourceLedger.id = planner.sourceSaleLedgerId)
    (.validation "source_sale_ledger_changed"
      "Active source sale ledger changed during allocation split." 409)
  require (toMinorUnits sourceLedger.amount = toMinorUnits (planner.sourceSaleLedgerAmount.getD 0))
    (.validation "source_sale_ledger_amount_changed"
      "Active source sale ledger amount changed during allocation split." 409)
  assertMinorAmountIntegrity planner.amountPlan sourceLedger.amount
  pure sourceLedger

/-! ## The child allocation -/

structure OutboundSnapshot where
  outboundMethodSnapshot : Option VendorOutboundMethod
  outboundIntegrationProviderSnapshot : Option VendorIntegrationProviderCode
  shopifyLocationGidSnapshot : Option String

/-- `resolveVendorOutboundSelection` without an input: the pairs of the vendor that it accepts. -/
def resolveVendorOutboundSelection (method : Option VendorOutboundMethod)
    (provider : Option VendorIntegrationProviderCode) : Except SplitFailure Unit :=
  match method, provider with
  | none, none => .ok ()
  | some .kargonomi, _ => .ok ()
  | some .vendorIntegration, some .sopyo => .ok ()
  | some .vendorIntegration, none => .error (.error "providerCode must be SOPYO.")
  | none, some _ => .error (.error "Invalid outbound shipping method/provider selection.")

def resolveAllocationOutboundSnapshot (db : SplitDb) (vendorId : String) :
    Except SplitFailure OutboundSnapshot := do
  let config := findRow VendorShippingConfig.vendorId vendorId db.evidence.vendorShippingConfigs
  let method := config.bind VendorShippingConfig.outboundMethod
  -- a Kargonomi vendor has no provider, whatever its row says
  let provider :=
    if method = some .kargonomi then none
    else config.bind VendorShippingConfig.selectedIntegrationProvider
  let location := config.bind VendorShippingConfig.shopifyLocationGid
  resolveVendorOutboundSelection method provider
  require (¬ (method = some .vendorIntegration ∧ provider = some .sopyo ∧ !hasText location))
    (.error "Shopify Location GID is required before creating a Sopyo allocation.")
  pure { outboundMethodSnapshot := method
         outboundIntegrationProviderSnapshot := provider
         shopifyLocationGidSnapshot := location }

def childAllocation (now : Instant) (childAllocationId : String) (source : VendorAllocation)
    (snapshot : OutboundSnapshot) (reason : CancellationReason) : VendorAllocation where
  id := childAllocationId
  order := source.order
  sourceShopifyOrderNumber := source.sourceShopifyOrderNumber
  originalVendorId := source.originalVendorId
  assignedVendorId := source.assignedVendorId
  outboundMethodSnapshot := snapshot.outboundMethodSnapshot
  outboundIntegrationProviderSnapshot := snapshot.outboundIntegrationProviderSnapshot
  shopifyLocationGidSnapshot := snapshot.shopifyLocationGidSnapshot
  allocationStatus := .vendorBlocked
  cancellationReason := some reason
  reassignmentRequired := true
  cancelRefundReviewStatus := none
  fulfillmentStatus := "Pending"
  shippingStatus := "Awaiting Shipment"
  trackingNumber := none
  carrier := none
  createdAt := now

def SplitDb.createAllocation (db : SplitDb) (allocation : VendorAllocation) :
    Except SplitFailure SplitDb :=
  if ((db.vendorAllocation ++ [allocation]).map VendorAllocation.id).Nodup then
    .ok { db with
      vendorAllocation := db.vendorAllocation ++ [allocation]
      line_allocation := fun line hline =>
        let ⟨owner, howner, hid⟩ := db.line_allocation line hline
        ⟨owner, List.mem_append_left _ howner, hid⟩ }
  else .error .uniqueConstraint

/-- The lines of `source` with these ids, attached to `child`. -/
def movedLines (ids : List String) (source child : String) (lines : List VendorAllocationLineItem) :
    List VendorAllocationLineItem :=
  updateWhere (fun line => ids.contains line.id && line.vendorAllocationId == source)
    (fun line => { line with vendorAllocationId := child }) lines

lemma movedLines_allocation {ids : List String} {source child : String} {db : SplitDb}
    (hchild : ∃ allocation ∈ db.vendorAllocation, allocation.id = child) :
    ∀ line ∈ movedLines ids source child db.vendorAllocationLineItem,
      ∃ allocation ∈ db.vendorAllocation, allocation.id = line.vendorAllocationId := by
  intro line hline
  obtain ⟨old, hold, rfl⟩ := mem_updateWhere.mp hline
  split
  · exact hchild
  · exact db.line_allocation old hold

def SplitDb.moveLines (db : SplitDb) (ids : List String) (source child : String) :
    Except SplitFailure SplitDb :=
  if hchild : ∃ allocation ∈ db.vendorAllocation, allocation.id = child then
    .ok { db with
      vendorAllocationLineItem := movedLines ids source child db.vendorAllocationLineItem
      line_allocation := movedLines_allocation hchild }
  else .error .foreignKeyConstraint

/-! ## The ledgers -/

/-- `toFixed(2)`, which rounds a tie away from zero. -/
def toAmount (value : ℚ) : ℚ :=
  if value < 0 then -(round (-value * 100) / 100) else round (value * 100) / 100

/-- A vendor with Sopyo pays its own carrier. -/
def vendorOwnedSopyoSaleShippingOverride (allocation : VendorAllocation) (snapshot : SaleSnapshot) :
    SaleSnapshot :=
  if allocation.outboundMethodSnapshot = some .vendorIntegration ∧
      allocation.outboundIntegrationProviderSnapshot = some .sopyo then
    { snapshot with
      deductShippingEnabledSnapshot := some false
      shippingModeSnapshot := some .disabled
      fixedShippingFeeSnapshot := some 0
      shippingCostSnapshot := none
      shippingVatAmountSnapshot := none
      shippingCostSourceSnapshot := none
      shippingCostProviderSnapshot := none
      shippingCostIdSnapshot := none }
  else snapshot

def splitSaleLedger (ledgerId : String) (allocation : VendorAllocation)
    (sourceLedger : FinanceLedgerEntry) (amount : ℚ) : FinanceLedgerEntry where
  id := ledgerId
  vendorAllocationId := some allocation.id
  vendorId := allocation.assignedVendorId
  entryType := "sale"
  amount := toAmount amount
  payoutStatus := .pending
  description := some ("Allocated sale for Shopify order " ++
    allocation.order.sourceShopifyOrderNumber)
  snapshot := vendorOwnedSopyoSaleShippingOverride allocation sourceLedger.snapshot
  settlementStatus := .accruing
  accruedAt := some allocation.createdAt
  voidedAt := none
  voidReason := none
  supersededByLedgerId := none

/-- The four events of a replacement ledger. -/
def splitSaleEvents (ledgerId : String) (allocation : VendorAllocation)
    (sourceLedger : FinanceLedgerEntry) (amount : ℚ) (splitEventId : String) : List FinanceEvent :=
  let grossMinor := toMinorUnits amount
  let commissionMinor := round ((grossMinor : ℚ) *
    (max (sourceLedger.snapshot.commissionPercentSnapshot.getD 0) 0 / 100))
  let commissionVatMinor := round ((commissionMinor : ℚ) *
    (max (sourceLedger.snapshot.commissionVatPercentSnapshot.getD 0) 0 / 100))
  let event (eventType : FinanceEventType) (amountMinor : ℤ) (key : String) : FinanceEvent :=
    { idempotencyKey := ledgerId ++ ":" ++ key
      eventType := eventType
      amountMinor := amountMinor
      vendorId := allocation.assignedVendorId
      shopifyOrderId := allocation.order.id
      financeLedgerEntryId := ledgerId
      currency := allocation.order.currency.getD "TRY"
      referenceType := "allocation_split"
      referenceId := splitEventId
      createdBy := "system:allocation_split" }
  [event .saleRecorded grossMinor "SALE_RECORDED",
   event .commissionReserved commissionMinor "COMMISSION_RESERVED",
   event .commissionVatReserved commissionVatMinor "COMMISSION_VAT_RESERVED",
   event .vendorPayableReserved (grossMinor - commissionMinor - commissionVatMinor)
     "VENDOR_PAYABLE_RESERVED"]

/-- Events whose key is taken are skipped. -/
def createEventsIdempotently (events new : List FinanceEvent) : List FinanceEvent :=
  new.foldl (fun events event =>
    if events.any fun e => e.idempotencyKey == event.idempotencyKey then events
    else events ++ [event]) events

def createSplitSaleLedger (db : SplitDb) (ledgerId : String) (allocation : VendorAllocation)
    (sourceLedger : FinanceLedgerEntry) (amount : ℚ) (splitEventId : String) :
    Except SplitFailure SplitDb := do
  let ledgers ← insertRows FinanceLedgerEntry.id db.financeLedgerEntry
    [splitSaleLedger ledgerId allocation sourceLedger amount] .uniqueConstraint
  pure { db with
    financeLedgerEntry := ledgers
    financeEvent := createEventsIdempotently db.financeEvent
      (splitSaleEvents ledgerId allocation sourceLedger amount splitEventId) }

/-- The source ledger after the split. -/
def replacedLedger (now : Instant) (ids : SplitIds) (ledger : FinanceLedgerEntry) :
    FinanceLedgerEntry :=
  { ledger with
    voidedAt := some now
    voidReason := some (splitVoidReason ids.splitEventId)
    supersededByLedgerId := some ids.remainingLedgerId }

/-! ## The split -/

def splitEvent (input : SplitAllocationForLineItemRejectInput) (reason : CancellationReason)
    (note : String) (ids : SplitIds) (planner : AllocationSplitPlannerResult)
    (sourceLedger : FinanceLedgerEntry) : AllocationSplitEvent where
  id := ids.splitEventId
  sourceAllocationId := ids.vendorAllocationId
  childAllocationId := ids.childAllocationId
  reason := reason
  note := if note = "" then none else some note
  actorUserId := input.actorUserId
  movedVendorAllocationLineItemIdsJson :=
    planner.selectedLines.map AllocationSplitPlannerLine.id
  movedShopifyLineItemIdsJson :=
    planner.selectedLines.map AllocationSplitPlannerLine.shopifyLineItemId
  sourceFinanceLedgerEntryId := sourceLedger.id
  remainingFinanceLedgerEntryId := ids.remainingLedgerId
  childFinanceLedgerEntryId := ids.childLedgerId

def splitHistory (input : SplitAllocationForLineItemRejectInput) (reason : CancellationReason)
    (note : String) (ids : SplitIds) (source : VendorAllocation) :
    List AllocationAssignmentHistory :=
  [{ vendorAllocationId := ids.vendorAllocationId
     action := "allocation_split_source_updated"
     fromVendorId := source.assignedVendorId
     toVendorId := source.assignedVendorId
     reason := "Split selected line items into " ++ ids.childAllocationId ++ ". " ++
       buildLineReason reason note
     actorUserId := input.actorUserId },
   { vendorAllocationId := ids.childAllocationId
     action := "vendor_blocked"
     fromVendorId := source.assignedVendorId
     toVendorId := source.assignedVendorId
     reason := buildLineReason reason note
     actorUserId := input.actorUserId }]

def splitResult (ids : SplitIds) (planner : AllocationSplitPlannerResult)
    (sourceLedger : FinanceLedgerEntry) : AllocationSplitServiceResult where
  splitEventId := ids.splitEventId
  sourceAllocationId := ids.vendorAllocationId
  childAllocationId := ids.childAllocationId
  movedVendorAllocationLineItemIds := planner.selectedLines.map AllocationSplitPlannerLine.id
  movedShopifyLineItemIds :=
    planner.selectedLines.map AllocationSplitPlannerLine.shopifyLineItemId
  sourceSaleLedgerId := sourceLedger.id
  remainingSaleLedgerId := ids.remainingLedgerId
  childSaleLedgerId := ids.childLedgerId
  amountPlan := planner.amountPlan
  idempotent := false

/-- The lines that `updateMany` moves, and the ones that stay. -/
def SplitDb.moveSelectedLines (db : SplitDb) (ids : SplitIds)
    (planner : AllocationSplitPlannerResult) : Except SplitFailure SplitDb := do
  let selectedLineIds := planner.selectedLines.map AllocationSplitPlannerLine.id
  let moved := (db.lineItems ids.vendorAllocationId).filter fun line =>
    selectedLineIds.contains line.id
  let db ← db.moveLines selectedLineIds ids.vendorAllocationId ids.childAllocationId
  require (moved.length = selectedLineIds.length)
    (.validation "selected_line_set_changed" "Selected line items changed during allocation split."
      409)
  let remainingCount := (db.lineItems ids.vendorAllocationId).length
  require (remainingCount = planner.remainingLines.length ∧ remainingCount ≠ 0)
    (.validation "source_remaining_lines_invalid"
      "Source allocation must retain remaining line items after split." 409)
  pure db

/-- The writes of a new split. -/
def writeSplit (now : Instant) (input : SplitAllocationForLineItemRejectInput)
    (reason : CancellationReason) (note : String) (ids : SplitIds) (source : VendorAllocation)
    (planner : AllocationSplitPlannerResult) (sourceLedger : FinanceLedgerEntry) (db : SplitDb) :
    Except SplitFailure SplitDb := do
  let snapshot ← resolveAllocationOutboundSnapshot db source.assignedVendorId
  let child := childAllocation now ids.childAllocationId source snapshot reason
  let db ← db.createAllocation child
  let db ← db.moveSelectedLines ids planner
  let db ← createSplitSaleLedger db ids.remainingLedgerId source sourceLedger
    planner.amountPlan.remainingAmount ids.splitEventId
  let db ← createSplitSaleLedger db ids.childLedgerId child sourceLedger
    planner.amountPlan.selectedAmount ids.splitEventId
  let events ← insertRows AllocationSplitEvent.id db.allocationSplitEvent
    [splitEvent input reason note ids planner sourceLedger] .uniqueConstraint
  pure { db with
    financeLedgerEntry := updateWhere (fun entry => entry.id == sourceLedger.id)
      (replacedLedger now ids) db.financeLedgerEntry
    allocationSplitEvent := events
    allocationAssignmentHistory := db.allocationAssignmentHistory ++
      splitHistory input reason note ids source }

/-- A split whose artifacts do not exist yet. -/
def newSplit (now : Instant) (input : SplitAllocationForLineItemRejectInput)
    (reason : CancellationReason) (note : String) (ids : SplitIds) (source : VendorAllocation)
    (db : SplitDb) : Except SplitFailure (AllocationSplitServiceResult × SplitDb) := do
  assertNoInconsistentExistingSplit (loadExistingSplitArtifacts db ids)
  assertAllocationActionable db ids.vendorAllocationId
  let planner := planAllocationSplitForLineItemReject db
    { vendorAllocationId := ids.vendorAllocationId
      selectedVendorAllocationLineItemIds := input.selectedVendorAllocationLineItemIds
      selectedShopifyLineItemIds := input.selectedShopifyLineItemIds
      actorVendorId := input.actorVendorId }
  assertPlanned planner
  let sourceLedger ← checkSource db source planner
  let db ← writeSplit now input reason note ids source planner sourceLedger db
  pure (splitResult ids planner sourceLedger, db)

def splitAllocationForLineItemReject (sha256 : String → String) (now : Instant)
    (input : SplitAllocationForLineItemRejectInput) (db : SplitDb) :
    Except SplitFailure (AllocationSplitServiceResult × SplitDb) := do
  require input.confirmSplit (.validation "confirm_split_required"
    "Allocation split requires explicit confirmation." 400)
  require (trim input.vendorAllocationId ≠ "")
    (.validation "allocation_missing" "Vendor allocation id is required." 400)
  let reason ← normalizeReason input.reason
  let note ← normalizeNote input.note
  let source ← getOrThrow (db.allocation (trim input.vendorAllocationId))
    (.validation "allocation_missing" "Vendor allocation could not be found." 404)
  require (selectedLineIdsForHash db input source ≠ [])
    (.validation "selected_lines_empty" "Select at least one allocation line item." 400)
  let ids := splitIds sha256 source (selectedLineIdsForHash db input source)
  if isCompleteExistingSplit ids (loadExistingSplitArtifacts db ids) then
    pure (existingSplitResult ids (loadExistingSplitArtifacts db ids), db)
  else newSplit now input reason note ids source db

end VendorDashboard.AllocationSplit

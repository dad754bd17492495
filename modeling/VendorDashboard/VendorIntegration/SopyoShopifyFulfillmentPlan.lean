import VendorDashboard.VendorIntegration.SopyoShipmentIntent
import Mathlib.Data.List.Sort

/-!
# Planning the Shopify fulfillment of a Sopyo shipment

`loadSopyoShopifyPlanningContext`, which checks everything local that a plan rests on, and
`buildSopyoShopifyExecutionLines`, which selects the fulfillment order lines of an allocation from
what Shopify says of the order.

Sorting by `localeCompare` uses a comparison of strings that is a parameter.
-/

namespace VendorDashboard.VendorIntegration

open Finance (Id Instant VendorOutboundMethod VendorIntegrationProviderCode AllocationStatus)
open Text Transaction

/-- `localeCompare`: whether the first string may stand before the second. -/
abbrev LocaleCompare := String → String → Bool

/-! ## What Shopify says -/

structure FulfillmentOrderLineItem where
  id : String
  lineItemId : String
  remainingQuantity : Option ℤ
  totalQuantity : Option ℤ

structure FulfillmentOrder where
  id : String
  supportedActions : Option (List String)
  assignedLocationId : Option String
  lineItems : List FulfillmentOrderLineItem
  existingFulfillmentIds : List String

structure ShopifySopyoFulfillmentPlanRead where
  orderGid : String
  fulfillmentOrders : List FulfillmentOrder

/-! ## The lines of a plan -/

structure LocalLine where
  id : Id
  shopifyLineItemId : Id
  sourceLineItemId : String
  quantity : ℤ
  deriving DecidableEq

def lineItemGid : String := "gid://shopify/LineItem/"

def canonicalOrderLineGid (value : String) : Option String :=
  let trimmed := trim value
  if startsWith trimmed lineItemGid ∧
      isPositiveDecimal (String.ofList (trimmed.toList.drop lineItemGid.length)) then
    some trimmed
  else if isPositiveDecimal trimmed then some (lineItemGid ++ trimmed)
  else none

def isSafeInteger (n : ℤ) : Bool := decide (-9007199254740991 ≤ n ∧ n ≤ 9007199254740991)

def sortedLines (le : LocaleCompare) (lines : List SopyoShopifyExecutionPlanLine) :
    List SopyoShopifyExecutionPlanLine :=
  lines.insertionSort fun a b =>
    le a.fulfillmentOrderLineItemGid b.fulfillmentOrderLineItemGid = true

/-- `sums.set(key, (sums.get(key) ?? 0) + quantity)`, in the order of insertion. -/
def addQuantity (key : String) (quantity : ℤ) : List (String × ℤ) → List (String × ℤ)
  | [] => [(key, quantity)]
  | (k, total) :: sums =>
      if k = key then (k, total + quantity) :: sums else (k, total) :: addQuantity key quantity sums

/-- The lines of the allocation by their Shopify identity; `none` is `SHOPIFY_PLAN_UNSAFE`. -/
def ownedLines (lines : List LocalLine) : Option (List (String × LocalLine)) :=
  lines.foldlM (fun owned line => do
    let gid ← canonicalOrderLineGid line.sourceLineItemId
    if isSafeInteger line.quantity ∧ 0 < line.quantity ∧ owned.lookup gid = none then
      some (owned ++ [(gid, line)])
    else none) []

/-- The accumulators of the selection. -/
structure Selection where
  totals : List (String × ℤ)
  seenFulfillmentOrderLines : List String
  selected : List SopyoShopifyExecutionPlanLine

/-- A line of a fulfillment order that belongs to the allocation. -/
def FulfillmentOrder.selectable (order : FulfillmentOrder) (frozenLocationGid : String)
    (seen : List String) (line : FulfillmentOrderLineItem) : Option ℤ := do
  let remaining ← line.remainingQuantity
  let total ← line.totalQuantity
  if order.assignedLocationId = some frozenLocationGid ∧ order.existingFulfillmentIds = [] ∧
      (∃ actions ∈ order.supportedActions, "CREATE_FULFILLMENT" ∈ actions) ∧
      startsWith line.id "gid://shopify/FulfillmentOrderLineItem/" ∧ line.id ∉ seen ∧
      isSafeInteger remaining ∧ 0 ≤ remaining ∧ isSafeInteger total ∧ remaining ≤ total then
    some remaining
  else none

def selectLine (owned : List (String × LocalLine)) (frozenLocationGid : String)
    (order : FulfillmentOrder) (sel : Selection) (line : FulfillmentOrderLineItem) :
    Option Selection :=
  match owned.lookup line.lineItemId with
  | none => some sel
  | some owner => do
      let quantity ← order.selectable frozenLocationGid sel.seenFulfillmentOrderLines line
      some
        { totals := addQuantity line.lineItemId quantity sel.totals
          seenFulfillmentOrderLines := sel.seenFulfillmentOrderLines ++ [line.id]
          selected := if 0 < quantity then
              sel.selected ++ [⟨owner.id, order.id, line.id, line.lineItemId, quantity⟩]
            else sel.selected }

def selectOrder (owned : List (String × LocalLine)) (frozenLocationGid : String)
    (sel : Selection) (order : FulfillmentOrder) : Option Selection :=
  if startsWith order.id "gid://shopify/FulfillmentOrder/" then
    order.lineItems.foldlM (selectLine owned frozenLocationGid order) sel
  else none

/-- `none` is `SHOPIFY_PLAN_UNSAFE`. -/
def buildSopyoShopifyExecutionLines (le : LocaleCompare) (allocationLineItems : List LocalLine)
    (otherAllocationLineItemIds : List Id) (frozenLocationGid : String)
    (canonical : ShopifySopyoFulfillmentPlanRead) : Option (List SopyoShopifyExecutionPlanLine) :=
  if allocationLineItems = [] ∨ otherAllocationLineItemIds ≠ [] then none
  else do
    let owned ← ownedLines allocationLineItems
    let sel ← canonical.fulfillmentOrders.foldlM (selectOrder owned frozenLocationGid) ⟨[], [], []⟩
    if sel.selected ≠ [] ∧
        ∀ entry ∈ owned, sel.totals.lookup entry.1 = some entry.2.quantity then
      some (sortedLines le sel.selected)
    else none

/-! ## The planning context -/

/-- What `loadSopyoShopifyPlanningContext` reads beside the intent; `actionable` is whether
`assertAllocationActionable` returns. -/
structure PlanningReads where
  allocation : SopyoAllocation
  lineItems : List LocalLine
  otherAllocationLineItemIds : List Id
  push : SopyoOrderPush
  actionable : Bool
  pendingHold : Bool

structure PlanningContext where
  intent : SopyoShipmentIntent
  shopifyLocationGid : String
  sourceShopifyOrderId : String
  allocationLineItems : List LocalLine
  otherAllocationLineItemIds : List Id

/-- The intent stands for the allocation and the push as they are. -/
def SopyoShipmentIntent.authorizedBy (intent : SopyoShipmentIntent) (reads : PlanningReads)
    (frozenLocationGid : String) : Bool :=
  let allocation := reads.allocation
  let push := reads.push
  decide (allocation.id = intent.vendorAllocationId) &&
    decide (allocation.assignedVendorId = intent.assignedVendorId) && allocation.shippable &&
    allocation.sentBySopyo &&
    decide (allocation.shopifyLocationGidSnapshot = some frozenLocationGid) &&
    decide (trim intent.carrier ≠ "") && decide (trim intent.trackingNumber ≠ "") &&
    decide (push.status = .succeeded) && decide (push.vendorAllocationId = allocation.id) &&
    decide (push.assignedVendorId = allocation.assignedVendorId) &&
    decide (push.orderCode = allocation.id) &&
    decide (push.sopyoOrderId = some intent.sopyoOrderId)

/-- The error is `none` where another guard throws. -/
def loadSopyoShopifyPlanningContext (intent : Option SopyoShipmentIntent) (reads : PlanningReads) :
    Except (Option SopyoShipmentError) PlanningContext := do
  let intent ← getOrThrow intent (some .notActionable)
  require intent.status.Plannable (some .notActionable)
  let frozenLocationGid ← getOrThrow (intent.shopifyLocationGid.filter fun gid =>
    decide (trim gid ≠ "")) (some .identityMismatch)
  require (reads.actionable = true) none
  require (reads.allocation.orderCancelledAt = none) none
  require (reads.pendingHold = false) none
  require (intent.authorizedBy reads frozenLocationGid = true) (some .identityMismatch)
  pure
    { intent
      shopifyLocationGid := frozenLocationGid
      sourceShopifyOrderId := reads.allocation.sourceShopifyOrderId
      allocationLineItems := reads.lineItems.insertionSort fun a b => a.id ≤ b.id
      otherAllocationLineItemIds := reads.otherAllocationLineItemIds.insertionSort (· ≤ ·) }

def expectedOrderGid (sourceId : String) : String :=
  if startsWith sourceId "gid://shopify/Order/" then sourceId else "gid://shopify/Order/" ++ sourceId

/-- The second context is of the same allocation as the first. -/
def PlanningContext.unchangedSince (current before : PlanningContext) : Bool :=
  decide (current.allocationLineItems = before.allocationLineItems) &&
    decide (current.otherAllocationLineItemIds = before.otherAllocationLineItemIds) &&
    decide (current.sourceShopifyOrderId = before.sourceShopifyOrderId) &&
    decide (current.shopifyLocationGid = before.shopifyLocationGid)

/-- The plan says what was planned now. -/
def SopyoShopifyExecutionPlan.agrees (le : LocaleCompare) (existing : SopyoShopifyExecutionPlan)
    (orderGid locationGid : String) (lines : List SopyoShopifyExecutionPlanLine) : Bool :=
  decide (existing.shopifyOrderGid = orderGid) &&
    decide (existing.shopifyLocationGid = locationGid) &&
    decide (existing.baselineFulfillmentIds = []) &&
    decide (sortedLines le existing.lines = lines)

end VendorDashboard.VendorIntegration

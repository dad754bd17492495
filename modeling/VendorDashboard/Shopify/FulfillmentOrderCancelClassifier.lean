import VendorDashboard.Orders.AdminRefund

/-!
# Which fulfillment orders a refund may cancel

`classifyFulfillmentOrderCancellationSafety` looks at the fulfillment orders that contain a line of
a refund.  The classification of an order is overwritten line by line, then looked at once more with
the status of the order, and four tests in a row turn the classifications of all orders into one.

Lower-casing is a parameter.  A remaining quantity that is not a finite number counts as a missing
one.
-/

namespace VendorDashboard.Shopify

open Orders (FulfillmentOrderCancellationOverallClassification)
open Text (lastSegment trim)

inductive FulfillmentOrderCancellationClassification
  | safeToCancel
  | openUnsubmittedRefundRequiresPostCheck
  | unsafeMixedFulfillmentOrder
  | alreadyClosedOrCancelled
  | unsupportedRequestStatus
  | quantityMismatch
  | unknown
  deriving DecidableEq

/-! ## The input -/

structure FulfillmentOrderCancellationLineItem where
  id : String
  lineItemId : String
  remainingQuantity : Option ℚ
  totalQuantity : Option ℚ
  deriving DecidableEq

structure FulfillmentOrderForCancellationClassification where
  id : String
  status : Option String
  requestStatus : Option String
  supportedActions : Option (List String)
  assignedLocationId : Option String
  lineItems : List FulfillmentOrderCancellationLineItem
  deriving DecidableEq

structure SelectedLineItem where
  lineItemId : String
  quantity : ℚ
  deriving DecidableEq

structure LocalLineItemOwner where
  sourceLineItemId : String
  allocationId : String
  vendorId : String
  deriving DecidableEq

structure CancellationSafetyInput where
  allocationId : String
  selectedLineItems : List SelectedLineItem
  fulfillmentOrders : List FulfillmentOrderForCancellationClassification
  localLineItemOwners : List LocalLineItemOwner

/-! ## The result -/

structure FulfillmentOrderCancellationLineItemClassification where
  fulfillmentOrderLineItemId : String
  shopifyLineItemId : String
  selected : Bool
  ownerAllocationId : Option String
  selectedQuantity : Option ℚ
  remainingQuantity : Option ℚ
  totalQuantity : Option ℚ
  deriving DecidableEq

structure FulfillmentOrderCancellationAffectedOrder where
  fulfillmentOrderId : String
  status : Option String
  requestStatus : Option String
  supportedActions : Option (List String)
  assignedLocationId : Option String
  classification : FulfillmentOrderCancellationClassification
  blockers : List String
  warnings : List String
  lineItems : List FulfillmentOrderCancellationLineItemClassification
  deriving DecidableEq

structure FulfillmentOrderCancellationClassificationResult where
  affectedFulfillmentOrders : List FulfillmentOrderCancellationAffectedOrder
  overallClassification : FulfillmentOrderCancellationOverallClassification
  blockers : List String
  warnings : List String
  deriving DecidableEq

/-! ## Texts -/

def TERMINAL_FULFILLMENT_ORDER_STATUSES : List String :=
  ["closed", "cancelled", "canceled", "incomplete"]

def CANCELLATION_COMPATIBLE_STATUSES : List String := ["submitted", "cancellation_requested"]

def DIRECT_CANCEL_ACTIONS : List String := ["cancel", "cancel_fulfillment_order"]

variable (toLowerCase : String → String)

def normalizeShopifyIdentifier (value : String) : String :=
  let text := trim value
  if text = "" then ""
  else
    let segment := toLowerCase (trim (lastSegment text))
    if segment = "" then toLowerCase text else segment

def normalizeToken (value : Option String) : String :=
  (value.map fun text => toLowerCase (trim text)).getD ""

def normalizeAction (value : String) : String := toLowerCase (trim value)

namespace FulfillmentOrderForCancellationClassification

variable (order : FulfillmentOrderForCancellationClassification)

def isTerminalFulfillmentOrder : Bool :=
  decide (normalizeToken toLowerCase order.status ∈ TERMINAL_FULFILLMENT_ORDER_STATUSES)

def hasDirectCancelAction : Bool :=
  (order.supportedActions.getD []).any fun action =>
    decide (normalizeAction toLowerCase action ∈ DIRECT_CANCEL_ACTIONS)

def hasConfirmedCancellationCompatibleStatus : Bool :=
  decide (normalizeToken toLowerCase order.status ∈ CANCELLATION_COMPATIBLE_STATUSES ∨
    normalizeToken toLowerCase order.requestStatus ∈ CANCELLATION_COMPATIBLE_STATUSES)

def isOpenUnsubmittedFulfillmentOrder : Bool :=
  decide (normalizeToken toLowerCase order.status = "open" ∧
    normalizeToken toLowerCase order.requestStatus = "unsubmitted")

end FulfillmentOrderForCancellationClassification

/-! ## Local knowledge -/

/-- The selected quantities by line; the last one of a line stands first. -/
def selectedQuantitiesByLineItemId (selected : List SelectedLineItem) : List (String × ℚ) :=
  selected.foldl (fun quantities item =>
    let normalizedLineItemId := normalizeShopifyIdentifier toLowerCase item.lineItemId
    if normalizedLineItemId = "" then quantities
    else (normalizedLineItemId, item.quantity) :: quantities) []

/-- The owners by line, the last one of a line first, and the lines with several of them. -/
structure LineItemOwners where
  ownersByLineItemId : List (String × LocalLineItemOwner)
  ambiguousLineItemIds : List String

def LineItemOwners.add (known : LineItemOwners) (owner : LocalLineItemOwner) : LineItemOwners :=
  let normalizedLineItemId := normalizeShopifyIdentifier toLowerCase owner.sourceLineItemId
  if normalizedLineItemId = "" then known
  else
    { ownersByLineItemId := (normalizedLineItemId, owner) :: known.ownersByLineItemId
      ambiguousLineItemIds :=
        if (known.ownersByLineItemId.lookup normalizedLineItemId).isSome then
          normalizedLineItemId :: known.ambiguousLineItemIds
        else known.ambiguousLineItemIds }

def localOwners (owners : List LocalLineItemOwner) : LineItemOwners :=
  owners.foldl (LineItemOwners.add toLowerCase) ⟨[], []⟩

def lineItemClassification (quantities : List (String × ℚ)) (owners : LineItemOwners)
    (lineItem : FulfillmentOrderCancellationLineItem) :
    FulfillmentOrderCancellationLineItemClassification :=
  let normalizedLineItemId := normalizeShopifyIdentifier toLowerCase lineItem.lineItemId
  let selectedQuantity := quantities.lookup normalizedLineItemId
  let owner := owners.ownersByLineItemId.lookup normalizedLineItemId
  { fulfillmentOrderLineItemId := lineItem.id
    shopifyLineItemId := lineItem.lineItemId
    selected := selectedQuantity.isSome
    ownerAllocationId := owner.map (·.allocationId)
    selectedQuantity
    remainingQuantity := lineItem.remainingQuantity
    totalQuantity := lineItem.totalQuantity }

/-! ## One fulfillment order -/

/-- The variables of the loop over the lines and of the tests after it. -/
structure ClassificationState where
  classification : FulfillmentOrderCancellationClassification
  blockers : List String
  warnings : List String

namespace ClassificationState

variable (s : ClassificationState)

def block (message : String) : ClassificationState :=
  { s with blockers := s.blockers ++ [message] }

def warn (message : String) : ClassificationState :=
  { s with warnings := s.warnings ++ [message] }

def classify (classification : FulfillmentOrderCancellationClassification) : ClassificationState :=
  { s with classification }

/-- `if (classification === 'safe_to_cancel') classification = ...`. -/
def classifyIfSafe (classification : FulfillmentOrderCancellationClassification) :
    ClassificationState :=
  if s.classification = .safeToCancel then s.classify classification else s

/-- The overwrites that keep a mixed fulfillment order. -/
def classifyUnlessMixed (classification : FulfillmentOrderCancellationClassification) :
    ClassificationState :=
  if s.classification = .unsafeMixedFulfillmentOrder then s else s.classify classification

end ClassificationState

def classifyLineItem (allocationId : String) (ambiguousLineItemIds : List String)
    (fulfillmentOrderId : String) (s : ClassificationState)
    (lineItem : FulfillmentOrderCancellationLineItemClassification) : ClassificationState :=
  let normalizedLineItemId := normalizeShopifyIdentifier toLowerCase lineItem.shopifyLineItemId
  if normalizedLineItemId = "" then
    (s.block ("Fulfillment order " ++ fulfillmentOrderId ++
      " has a line item without a Shopify line item id.")).classify .unknown
  else if normalizedLineItemId ∈ ambiguousLineItemIds then
    (s.block ("Shopify line item " ++ lineItem.shopifyLineItemId ++
      " maps to multiple local allocations.")).classify .unknown
  else if lineItem.ownerAllocationId.getD "" = "" then
    (s.block ("Shopify line item " ++ lineItem.shopifyLineItemId ++
      " is not mapped to a local allocation.")).classify .unknown
  else if lineItem.selected = false ∨ lineItem.ownerAllocationId ≠ some allocationId then
    (s.block ("Fulfillment order " ++ fulfillmentOrderId ++ " contains Shopify line item " ++
      lineItem.shopifyLineItemId ++ " outside the selected allocation refund.")).classify
        .unsafeMixedFulfillmentOrder
  else if lineItem.remainingQuantity = none then
    (s.block ("Fulfillment order line item " ++ lineItem.fulfillmentOrderLineItemId ++
      " is missing remainingQuantity.")).classifyUnlessMixed .unknown
  else if lineItem.selectedQuantity ≠ lineItem.remainingQuantity then
    (s.block ("Selected refund quantity for Shopify line item " ++ lineItem.shopifyLineItemId ++
      " does not match fulfillment order remainingQuantity.")).classifyUnlessMixed .quantityMismatch
  else s

/-- The test of the actions of an order. -/
def checkSupportedActions (order : FulfillmentOrderForCancellationClassification)
    (s : ClassificationState) : ClassificationState :=
  if order.supportedActions = none then
    (s.block ("fulfillment_order_supported_actions_missing: Fulfillment order " ++ order.id ++
      " is missing supportedActions from Shopify.")).classifyIfSafe .unknown
  else if s.classification = .safeToCancel ∧ order.hasDirectCancelAction toLowerCase = false ∧
      order.isOpenUnsubmittedFulfillmentOrder toLowerCase = true then
    (s.classify .openUnsubmittedRefundRequiresPostCheck).warn ("Open unsubmitted fulfillment order "
      ++ order.id ++ ": refund requires post-check before operational closure.")
  else if order.hasDirectCancelAction toLowerCase = false then
    (s.block ("fulfillment_order_cancel_action_not_supported: Fulfillment order " ++ order.id ++
      " does not advertise a direct cancel action.")).classifyIfSafe .unsupportedRequestStatus
  else s

/-- The test of the status of an order. -/
def checkRequestStatus (order : FulfillmentOrderForCancellationClassification)
    (s : ClassificationState) : ClassificationState :=
  if normalizeToken toLowerCase order.requestStatus = "" then
    (s.block ("fulfillment_order_request_status_missing: Fulfillment order " ++ order.id ++
      " is missing requestStatus from Shopify.")).classifyIfSafe .unknown
  else if s.classification ≠ .openUnsubmittedRefundRequiresPostCheck ∧
      order.hasConfirmedCancellationCompatibleStatus toLowerCase = false then
    (s.block ("fulfillment_order_status_not_confirmed_cancelable: Fulfillment order " ++ order.id ++
      " status/requestStatus is not confirmed compatible with fulfillmentOrderCancel."))
        |>.classifyIfSafe .unsupportedRequestStatus
  else s

def warnIfSafe (s : ClassificationState) : ClassificationState :=
  if s.classification = .safeToCancel then
    s.warn "Affected fulfillment orders must be cancelled before refundCreate."
  else s

/-- `none`: the order contains no selected line. -/
def classifyFulfillmentOrder (allocationId : String) (quantities : List (String × ℚ))
    (owners : LineItemOwners) (order : FulfillmentOrderForCancellationClassification) :
    Option FulfillmentOrderCancellationAffectedOrder :=
  let lineItems := order.lineItems.map (lineItemClassification toLowerCase quantities owners)
  if lineItems.any (·.selected) = false then none
  else
    let s : ClassificationState :=
      if order.isTerminalFulfillmentOrder toLowerCase = true then
        ⟨.alreadyClosedOrCancelled, [], []⟩
      else
        let checked := lineItems.foldl (classifyLineItem toLowerCase allocationId
          owners.ambiguousLineItemIds order.id) ⟨.safeToCancel, [], []⟩
        warnIfSafe
          (checkRequestStatus toLowerCase order (checkSupportedActions toLowerCase order checked))
    some
      { fulfillmentOrderId := order.id
        status := order.status
        requestStatus := order.requestStatus
        supportedActions := order.supportedActions
        assignedLocationId := order.assignedLocationId
        classification := s.classification
        blockers := s.blockers
        warnings := s.warnings
        lineItems }

/-! ## All fulfillment orders -/

/-- The four tests, one after the other. -/
def overallOf (affected : List FulfillmentOrderCancellationAffectedOrder) :
    FulfillmentOrderCancellationOverallClassification :=
  let active := affected.filter fun order =>
    decide (order.classification ≠ .alreadyClosedOrCancelled)
  let first : FulfillmentOrderCancellationOverallClassification :=
    if active.any fun order => decide (order.classification = .unknown) then .unknown
    else .noCancellationNeeded
  let second := if active.any fun order => decide (order.classification ∈
      [.unsafeMixedFulfillmentOrder, .unsupportedRequestStatus, .quantityMismatch]) then
      .blocked else first
  let third := if second ≠ .blocked ∧ second ≠ .unknown ∧ (active.any fun order =>
      decide (order.classification = .openUnsubmittedRefundRequiresPostCheck)) then
      .postCheckRequired else second
  if active ≠ [] ∧ active.all fun order => decide (order.classification = .safeToCancel) then
    .safeToCancel else third

def classifyFulfillmentOrderCancellationSafety (input : CancellationSafetyInput) :
    FulfillmentOrderCancellationClassificationResult :=
  let quantities := selectedQuantitiesByLineItemId toLowerCase input.selectedLineItems
  let owners := localOwners toLowerCase input.localLineItemOwners
  let affected := input.fulfillmentOrders.filterMap
    (classifyFulfillmentOrder toLowerCase input.allocationId quantities owners)
  { affectedFulfillmentOrders := affected
    overallClassification := overallOf affected
    blockers := affected.flatMap (·.blockers)
    warnings := affected.flatMap (·.warnings) }

end VendorDashboard.Shopify

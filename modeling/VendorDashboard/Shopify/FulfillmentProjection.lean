import Mathlib.Data.List.Sort
import VendorDashboard.Finance.Schema
import VendorDashboard.Framework.Text
import VendorDashboard.Orders.AllocationFullRefundTerminal

/-!
# The projection of Shopify's fulfillments

Shopify's fulfillments of an order are projected into the order's allocations on two paths: by the
webhook (`ingestFulfillmentWebhook`) and by the reconciliation (`reconcileAllocation`).  Both match
lines by their ids, and one fulfillment stands for all of an allocation: the last one with the first
line of the allocation that is on any.

Times are as parsed, and an event without a time counts as the oldest.  `now` is the moment of
writing.
-/

namespace VendorDashboard.Shopify.FulfillmentProjection

open Finance (Id Instant VendorOutboundMethod VendorIntegrationProviderCode)
open Text

/-! ## Shopify's answer -/

structure ShopifyOrderFulfillmentLineItem where
  lineItemGid : String
  sourceLineItemId : String
  quantity : ℤ

structure FulfillmentEvent where
  status : Option String
  happenedAt : Option Instant
  deriving DecidableEq

structure TrackingInfo where
  company : Option String
  number : Option String
  url : Option String
  deriving DecidableEq

structure ShopifyOrderFulfillment where
  id : String
  sourceFulfillmentId : String
  status : String
  createdAt : Option Instant
  updatedAt : Option Instant
  events : List FulfillmentEvent
  trackingInfo : List TrackingInfo
  lineItems : List ShopifyOrderFulfillmentLineItem

structure ShopifyFulfillmentOrder where
  status : String
  lineItemIds : List String

structure ShopifyOrderFulfillmentState where
  fulfillments : List ShopifyOrderFulfillment
  fulfillmentOrders : List ShopifyFulfillmentOrder

/-! ## Reading a fulfillment -/

def normalizeLineItemId (value : String) : String :=
  let tail := trim (lastSegment value)
  if tail = "" then value else tail

def ShopifyOrderFulfillmentLineItem.lineId (lineItem : ShopifyOrderFulfillmentLineItem) : String :=
  normalizeLineItemId
    (if lineItem.sourceLineItemId = "" then lineItem.lineItemGid else lineItem.sourceLineItemId)

def isCancelledStatus (value : String) : Bool :=
  decide (toLowerCase (trim value) = "cancelled" ∨ toLowerCase (trim value) = "canceled")

/-- The usable ids of the lines of a fulfillment. -/
def ShopifyOrderFulfillment.lineIds (f : ShopifyOrderFulfillment) : List String :=
  (f.lineItems.map (·.lineId)).filter (· ≠ "")

def isPresent (value : Option String) : Bool := value.any fun text => decide (text ≠ "")

def getTrackingInfo (f : ShopifyOrderFulfillment) : Option TrackingInfo :=
  f.trackingInfo.find? fun tracking =>
    isPresent tracking.number || isPresent tracking.company || isPresent tracking.url

def FulfillmentEvent.time (event : FulfillmentEvent) : Instant := event.happenedAt.getD 0

/-- The latest of the events that say anything. -/
def getLatestFulfillmentEvent (f : ShopifyOrderFulfillment) : Option FulfillmentEvent :=
  ((f.events.filter fun event => isPresent event.status || event.happenedAt.isSome).insertionSort
    fun a b => b.time ≤ a.time).head?

def latestDate (values : List (Option Instant)) : Option Instant := (values.filterMap id).max?

inductive DeliveryStatus
  | delivered | inTransit | failure
  deriving DecidableEq

def normalizeFulfillmentEventStatus (status : String) : Option DeliveryStatus :=
  if status = "delivered" then some .delivered
  else if status = "in_transit" ∨ status = "out_for_delivery" ∨ status = "confirmed" then
    some .inTransit
  else if status = "failure" ∨ status = "failed" ∨ status = "attempted_delivery" then some .failure
  else none

/-- The event that a `fulfillment_events/create` webhook brings. -/
structure WebhookDelivery where
  status : Option DeliveryStatus
  fulfillmentId : Option String

inductive ProjectionPath
  | webhook (delivery : WebhookDelivery)
  | reconciliation

/-- The status of the latest event; the reconciliation also trims it. -/
def getCanonicalEventStatus (path : ProjectionPath) (f : ShopifyOrderFulfillment) :
    Option DeliveryStatus :=
  let status := toLowerCase (((getLatestFulfillmentEvent f).bind (·.status)).getD "")
  match path with
  | .webhook _ => normalizeFulfillmentEventStatus status
  | .reconciliation => normalizeFulfillmentEventStatus (toLowerCase (trim status))

/-- The event of a webhook comes before those of its fulfillment. -/
def effectiveDeliveryStatus (path : ProjectionPath) (f : ShopifyOrderFulfillment) :
    Option DeliveryStatus :=
  match path with
  | .webhook delivery =>
      if delivery.status.isSome ∧ delivery.fulfillmentId.any (· ≠ "") ∧
          delivery.fulfillmentId = some f.sourceFulfillmentId then delivery.status
      else getCanonicalEventStatus path f
  | .reconciliation => getCanonicalEventStatus path f

/-! ## The lines of the answer -/

structure CanonicalLineItemMaps where
  fulfilledLineItemIds : List String
  cancelledLineItemIds : List String
  fulfillmentByLineItemId : String → Option ShopifyOrderFulfillment

def CanonicalLineItemMaps.add (maps : CanonicalLineItemMaps) (f : ShopifyOrderFulfillment) :
    CanonicalLineItemMaps :=
  if isCancelledStatus f.status then
    { maps with cancelledLineItemIds := maps.cancelledLineItemIds ++ f.lineIds }
  else
    { maps with
      fulfilledLineItemIds := maps.fulfilledLineItemIds ++ f.lineIds
      fulfillmentByLineItemId := fun id =>
        if id ∈ f.lineIds then some f else maps.fulfillmentByLineItemId id }

def cancelledOrderLineIds (state : ShopifyOrderFulfillmentState) : List String :=
  (state.fulfillmentOrders.filter fun order => isCancelledStatus order.status).flatMap fun order =>
    (order.lineItemIds.map normalizeLineItemId).filter (· ≠ "")

def buildCanonicalLineItemMaps (state : ShopifyOrderFulfillmentState) : CanonicalLineItemMaps :=
  let maps := state.fulfillments.foldl CanonicalLineItemMaps.add ⟨[], [], fun _ => none⟩
  { maps with cancelledLineItemIds := maps.cancelledLineItemIds ++ cancelledOrderLineIds state }

/-! ## Allocations -/

structure AllocationLineItem where
  sourceLineItemId : String
  quantity : ℤ
  deriving DecidableEq

def AllocationLineItem.lineId (line : AllocationLineItem) : String :=
  normalizeLineItemId line.sourceLineItemId

structure DeliveredObservation where
  vendorAllocationId : Id
  outboundMethod : VendorOutboundMethod
  outboundIntegrationProvider : Option VendorIntegrationProviderCode
  deriving DecidableEq

structure FulfillmentRow where
  fulfillmentStatus : String
  trackingNumber : Option String
  carrier : Option String
  trackingUrl : Option String
  shopifyFulfillmentId : Option String
  fulfilledAt : Option Instant
  shipmentCreatedAt : Option Instant
  shipmentUpdatedAt : Option Instant
  syncStatus : String
  deriving DecidableEq

structure ProjectedAllocation where
  id : Id
  outboundMethodSnapshot : Option VendorOutboundMethod
  outboundIntegrationProviderSnapshot : Option VendorIntegrationProviderCode
  deliveredObservation : Option DeliveredObservation
  fulfillmentStatus : String
  shippingStatus : String
  trackingNumber : Option String
  carrier : Option String
  lineItems : List AllocationLineItem
  fulfillment : Option FulfillmentRow
  deriving DecidableEq

def ordinaryProgression : List String :=
  ["shipped", "in_transit", "partially_shipped", "awaiting_shipment"]

/-- The allocation is delivered, and Sopyo was observed to have delivered it. -/
def holdsVerifiedDelivery (a : ProjectedAllocation) : Bool :=
  decide (toLowerCase (trim a.shippingStatus) = "delivered") &&
    decide (a.outboundMethodSnapshot = some .vendorIntegration) &&
    decide (a.outboundIntegrationProviderSnapshot = some .sopyo) &&
    a.deliveredObservation.any fun observation =>
      decide (observation.vendorAllocationId = a.id) &&
        decide (observation.outboundMethod = .vendorIntegration) &&
        decide (observation.outboundIntegrationProvider = some .sopyo)

def preserveVerifiedSopyoDelivered (a : ProjectedAllocation) (nextStatus : String) : Bool :=
  decide (nextStatus ∈ ordinaryProgression) && holdsVerifiedDelivery a

/-! ## What a fulfillment shows -/

/-- What is to be written of an allocation and its fulfillment. -/
@[ext]
structure Projection where
  fulfillmentStatus : String
  shippingStatus : String
  trackingNumber : Option String
  carrier : Option String
  trackingUrl : Option String
  fulfilledAt : Option Instant
  shipmentCreatedAt : Option Instant
  shipmentUpdatedAt : Option Instant
  deriving DecidableEq

def derivedShippingStatus (all : Bool) : Option DeliveryStatus → String
  | some .delivered => "delivered"
  | some .inTransit => "in_transit"
  | some .failure => "fulfillment_event_attention"
  | none => if all then "shipped" else "partially_shipped"

/-- The projection of an allocation for which the fulfillment stands; `all` says whether each of its
lines is on a fulfillment. -/
def shownBy (path : ProjectionPath) (all : Bool) (a : ProjectedAllocation)
    (f : ShopifyOrderFulfillment) : Projection :=
  let derived := derivedShippingStatus all (effectiveDeliveryStatus path f)
  let tracking := getTrackingInfo f
  { fulfillmentStatus := if all then "fulfilled" else "partially_fulfilled"
    shippingStatus := if preserveVerifiedSopyoDelivered a derived then "delivered" else derived
    trackingNumber := tracking.bind (·.number)
    carrier := tracking.bind (·.company)
    trackingUrl := tracking.bind (·.url)
    fulfilledAt := f.createdAt
    shipmentCreatedAt := f.createdAt
    shipmentUpdatedAt := latestDate
      [(getLatestFulfillmentEvent f).bind (·.happenedAt), f.updatedAt, f.createdAt] }

/-- What is written of an allocation whose lines were cancelled. -/
def cancelledProjection : Projection :=
  ⟨"pending", "awaiting_shipment", none, none, none, none, none, none⟩

def ProjectedAllocation.lineIds (a : ProjectedAllocation) : List String :=
  a.lineItems.map (·.lineId)

section Allocation

variable (maps : CanonicalLineItemMaps) (a : ProjectedAllocation)

def matchedLineItemIds : List String := a.lineIds.filter (· ∈ maps.fulfilledLineItemIds)

def cancelledMatchedLineItemIds : List String := a.lineIds.filter (· ∈ maps.cancelledLineItemIds)

/-- The fulfillment of the first line that is on one. -/
def representativeFulfillment : Option ShopifyOrderFulfillment :=
  (matchedLineItemIds maps a).head?.bind maps.fulfillmentByLineItemId

def allAllocationItemsFulfilled : Bool :=
  decide ((matchedLineItemIds maps a).length = a.lineIds.length)

def ProjectedAllocation.write (p : Projection) (row : FulfillmentRow) : ProjectedAllocation :=
  { a with
    fulfillmentStatus := p.fulfillmentStatus
    shippingStatus := p.shippingStatus
    trackingNumber := p.trackingNumber
    carrier := p.carrier
    fulfillment := some row }

/-- The row of the fulfillment that is written with a projection. -/
def projectedRow (p : Projection) (rowStatus : String) (shopifyFulfillmentId : Option String)
    (shipmentUpdatedAt : Option Instant) (syncStatus : String) : FulfillmentRow where
  fulfillmentStatus := rowStatus
  trackingNumber := p.trackingNumber
  carrier := p.carrier
  trackingUrl := p.trackingUrl
  shopifyFulfillmentId := shopifyFulfillmentId
  fulfilledAt := p.fulfilledAt
  shipmentCreatedAt := p.shipmentCreatedAt
  shipmentUpdatedAt := shipmentUpdatedAt
  syncStatus := syncStatus

/-! ## The webhook -/

def storedFulfillmentId : Option String := a.fulfillment.bind (·.shopifyFulfillmentId)

/-- An allocation in the loop of the webhook; `none` when it is not touched. -/
def ingestAllocation (delivery : WebhookDelivery) (now : Instant) :
    Except String (Option ProjectedAllocation) :=
  if matchedLineItemIds maps a = [] then
    if cancelledMatchedLineItemIds maps a = [] then .ok none
    else .ok <| some <| a.write cancelledProjection <| projectedRow cancelledProjection "cancelled"
      (storedFulfillmentId a) (some now) "shopify_inbound_cancelled"
  else
    match representativeFulfillment maps a with
    | none => .error s!"Unable to resolve Shopify fulfillment for allocation {a.id}."
    | some f =>
        let p := shownBy (.webhook delivery) (allAllocationItemsFulfilled maps a) a f
        .ok <| some <| a.write p <| projectedRow p p.fulfillmentStatus
          (some f.sourceFulfillmentId) p.shipmentUpdatedAt "shopify_inbound_synced"

/-! ## The reconciliation -/

/-- What the reconciliation wants, unless it finds nothing about the allocation. -/
def desiredProjection : Option Projection :=
  match representativeFulfillment maps a with
  | some f =>
      some (shownBy .reconciliation
        (decide (0 < a.lineIds.length) && allAllocationItemsFulfilled maps a) a f)
  | none => if cancelledMatchedLineItemIds maps a = [] then none else some cancelledProjection

/-- The names of the fields in which the allocation is not as wanted. -/
def staleFields (p : Projection) : List String :=
  (if a.fulfillmentStatus = p.fulfillmentStatus then [] else ["fulfillmentStatus"]) ++
  (if a.shippingStatus = p.shippingStatus then [] else ["shippingStatus"]) ++
  (if a.trackingNumber = p.trackingNumber then [] else ["trackingNumber"]) ++
  (if a.carrier = p.carrier then [] else ["carrier"]) ++
  (if a.fulfillment.bind (·.trackingUrl) = p.trackingUrl then [] else ["trackingUrl"]) ++
  (if a.fulfillment.bind (·.fulfilledAt) = p.fulfilledAt then [] else ["fulfilledAt"]) ++
  (if a.fulfillment.bind (·.shipmentCreatedAt) = p.shipmentCreatedAt then []
    else ["shipmentCreatedAt"]) ++
  if a.fulfillment.bind (·.shipmentUpdatedAt) = p.shipmentUpdatedAt then []
    else ["shipmentUpdatedAt"]

/-- The repair of an allocation, and the fields that are repaired. -/
def reconcileAllocation (transferRepairBlocked : Bool) (now : Instant) :
    ProjectedAllocation × List String :=
  match desiredProjection maps a with
  | none => (a, [])
  | some p =>
      if staleFields a p = [] ∨ transferRepairBlocked then (a, [])
      else
        let syncStatus := if cancelledMatchedLineItemIds maps a = [] then "shopify_reconciled"
          else "shopify_reconciled_cancelled"
        (a.write p (projectedRow p p.fulfillmentStatus (storedFulfillmentId a)
          (some (p.shipmentUpdatedAt.getD now)) syncStatus), staleFields a p)

end Allocation

/-! ## The order -/

/-- A fulfillment without lines, or with a line without an id, is an error for the webhook. -/
def fulfillmentProblem (f : ShopifyOrderFulfillment) : Option String :=
  if f.lineItems.isEmpty then
    some s!"Shopify fulfillment {f.id} did not include fulfillment line items."
  else if f.lineItems.any fun lineItem => decide (lineItem.lineId = "") then
    some s!"Shopify fulfillment {f.id} has a line item without a usable id."
  else none

/-- The allocations of the order after the webhook. -/
def ingestFulfillmentWebhook (delivery : WebhookDelivery) (now : Instant)
    (sourceShopifyOrderId : String) (state : ShopifyOrderFulfillmentState)
    (allocations : List ProjectedAllocation) : Except String (List ProjectedAllocation) :=
  match state.fulfillments.findSome? fulfillmentProblem with
  | some problem => .error problem
  | none =>
      let maps := buildCanonicalLineItemMaps state
      if maps.fulfilledLineItemIds = [] ∧ maps.cancelledLineItemIds = [] then
        .error (s!"Shopify order {sourceShopifyOrderId} has no canonical fulfillment or " ++
          "cancellation line items to sync.")
      else
        match allocations.mapM fun a => ingestAllocation maps a delivery now with
        | .error message => .error message
        | .ok updated =>
            if updated.all (·.isNone) = true then
              .error (s!"Shopify fulfillment state for order {sourceShopifyOrderId} did not " ++
                "match any allocation line items.")
            else .ok ((allocations.zip updated).map fun u => u.2.getD u.1)

end VendorDashboard.Shopify.FulfillmentProjection

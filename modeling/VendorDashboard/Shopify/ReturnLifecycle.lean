import VendorDashboard.Framework.Table
import VendorDashboard.Framework.Text
import VendorDashboard.Framework.Transaction
import VendorDashboard.Finance.Schema

/-!
# The lifecycle webhooks of a return

A `returns/request` webhook reads the return from Shopify and writes one record for each of its
lines (`ingestReturnRequestWebhook`); the other four webhooks give all records of the return another
status (`applyReturnLifecycleStatusWebhook`).  Each of them is one transaction on the records.

The economic owner of an allocation and the pickup that is booked for an approved return come from
outside; the pickup writes other columns of the records only.
-/

namespace VendorDashboard.Shopify

open Finance (Instant)
open Table Transaction Text

/-! ## Rows -/

/-- `returnLifecycleStatus` and `status` are texts. -/
inductive ReturnLifecycleStatus
  | requested | approved | declined | closed | cancelled
  | other (text : String)
  deriving DecidableEq

inductive ReturnLifecycleTopic
  | request | approve | decline | close | cancel
  deriving DecidableEq

structure ReturnRecord where
  id : String
  vendorAllocationId : String
  ownerVendorId : Option String
  sourceShopifyOrderId : String
  sourceShopifyOrderNumber : String
  sourceShopifyRefundId : Option String
  sourceShopifyReturnId : Option String
  sourceShopifyReturnGid : Option String
  sourceShopifyLineItemId : Option String
  returnLifecycleStatus : Option ReturnLifecycleStatus
  returnRequestSource : Option String
  requestCreatedAt : Option Instant
  requestUpdatedAt : Option Instant
  status : ReturnLifecycleStatus
  reason : Option String
  returnReasonNote : Option String
  returnCarrierName : Option String
  returnTrackingNumber : Option String
  returnTrackingUrl : Option String

structure ReturnOrderLineItem where
  id : String
  sourceLineItemId : String
  sku : Option String

structure ReturnOrder where
  id : String
  sourceShopifyOrderId : String
  lineItems : List ReturnOrderLineItem

structure ReturnAllocation where
  id : String
  originalVendorId : String
  sourceShopifyOrderNumber : String

/-- A `VendorAllocationLineItem` with its allocation. -/
structure AllocationLineOwner where
  shopifyLineItemId : String
  vendorAllocation : ReturnAllocation

inductive ReturnEventStatus
  | received | processing | processed | failed
  deriving DecidableEq

/-- The `WebhookEvent` of a lifecycle webhook. -/
structure ReturnEventRow where
  id : String
  status : ReturnEventStatus
  errorMessage : Option String
  processedAt : Option Instant
  shopifyOrderId : Option String

structure ReturnDb where
  webhookEvent : List ReturnEventRow
  shopifyOrder : List ReturnOrder
  allocationLineOwner : List AllocationLineOwner
  returnRecord : List ReturnRecord

/-! ## Identity -/

/-- A payload value where an identifier may stand; a number by its decimal text. -/
inductive PayloadId
  | number (text : String)
  | text (text : String)
  | other

def toIdString : PayloadId → Option String
  | .number text => some text
  | .text text => if trim text = "" then none else some (trim text)
  | .other => none

structure ReturnWebhookPayload where
  adminGraphqlApiId : PayloadId
  id : PayloadId
  status : PayloadId

structure ReturnIdentity where
  sourceShopifyReturnId : String
  sourceShopifyReturnGid : String
  deriving DecidableEq

/-- What follows the last slash. -/
def extractShopifyGidTail (gid : String) : Option String :=
  let tail := trim (String.ofList (gid.toList.reverse.takeWhile (· ≠ '/')).reverse)
  if tail = "" then none else some tail

def RETURN_GID_PREFIX : String := "gid://shopify/Return/"

/-- The identity that the GraphQL identifier gives. -/
def gidIdentity (payload : ReturnWebhookPayload) : Option ReturnIdentity := do
  let gid ← (toIdString payload.adminGraphqlApiId).filter fun g => startsWith g RETURN_GID_PREFIX
  let tail ← extractShopifyGidTail gid
  pure ⟨tail, gid⟩

def resolveReturnIdentity (payload : ReturnWebhookPayload) : Option ReturnIdentity :=
  (gidIdentity payload).or <|
    (toIdString payload.id).map fun id => ⟨id, RETURN_GID_PREFIX ++ id⟩

/-- The record belongs to the return. -/
def ReturnIdentity.Owns (identity : ReturnIdentity) (r : ReturnRecord) : Prop :=
  r.sourceShopifyReturnGid = some identity.sourceShopifyReturnGid ∨
    r.sourceShopifyReturnId = some identity.sourceShopifyReturnId

instance (identity : ReturnIdentity) (r : ReturnRecord) : Decidable (identity.Owns r) :=
  inferInstanceAs (Decidable (_ ∨ _))

def mapLifecycleStatus : ReturnLifecycleTopic → ReturnLifecycleStatus
  | .request => .requested
  | .approve => .approved
  | .decline => .declined
  | .close => .closed
  | .cancel => .cancelled

/-- The topic as it stands in messages. -/
def ReturnLifecycleTopic.text : ReturnLifecycleTopic → String
  | .request => "returns/request"
  | .approve => "returns/approve"
  | .decline => "returns/decline"
  | .close => "returns/close"
  | .cancel => "returns/cancel"

/-! ## What Shopify knows of a return -/

structure ReturnDetailLine where
  returnLineItemGid : String
  lineItemGid : Option String
  sku : Option String
  returnReason : Option String
  returnReasonNote : Option String
  customerNote : Option String

structure ReturnTracking where
  carrierName : Option String
  trackingNumber : Option String
  trackingUrl : Option String

structure ReturnDetails where
  orderGid : String
  lineItems : List ReturnDetailLine
  returnTracking : Option ReturnTracking

def readReturnReason (value : Option String) : Option String :=
  (value.map trim).filter fun text => decide (text ≠ "") && decide (toLowerCase text ≠ "unknown")

def resolveReturnReasonNote (line : ReturnDetailLine) : Option String :=
  (readReturnReason line.customerNote).or (readReturnReason line.returnReasonNote)

def deriveReasonFromPayload (payload : ReturnWebhookPayload) : String :=
  match toIdString payload.status with
  | some status => "Shopify return lifecycle status: " ++ status
  | none => "Shopify return lifecycle event"

/-- The tracking columns of a record. -/
def ReturnRecord.withTracking (r : ReturnRecord) (tracking : Option ReturnTracking) :
    ReturnRecord :=
  { r with
    returnCarrierName := tracking.bind (·.carrierName)
    returnTrackingNumber := tracking.bind (·.trackingNumber)
    returnTrackingUrl := tracking.bind (·.trackingUrl) }

/-! ## The transactions -/

/-- What an event finds outside: Shopify's answer, the economic owner of each allocation, what came
of booking the pickups, and the clock. -/
structure ReturnAnswer where
  details : Except String ReturnDetails
  economicOwner : String → Except String String
  pickups : Except String (ℕ × ℕ)
  now : Instant

structure ReturnIngestion where
  shopifyReturnGid : String
  affectedRecordCount : ℕ
  autoCreateAttemptedCount : ℕ
  autoCreateSkippedCount : ℕ

/-- A line of a return with the allocation that owns it. -/
structure MappedReturnLine where
  line : ReturnDetailLine
  allocation : ReturnAllocation
  sourceLineItemId : String

def MappedReturnLine.recordId (m : MappedReturnLine) (sourceShopifyReturnId : String) : String :=
  "return-request-" ++ sourceShopifyReturnId ++ "-" ++ m.allocation.originalVendorId ++ "-" ++
    m.sourceLineItemId

namespace ReturnDb

variable (db : ReturnDb)

def updateEvent (eventId : String) (f : ReturnEventRow → ReturnEventRow) : ReturnDb :=
  { db with webhookEvent := updateWhere (fun e => decide (e.id = eventId)) f db.webhookEvent }

def failWebhook (eventId errorMessage : String) : ReturnDb :=
  db.updateEvent eventId fun e => { e with status := .failed, errorMessage := some errorMessage }

def startProcessing (eventId : String) : ReturnDb :=
  db.updateEvent eventId fun e => { e with status := .processing, errorMessage := none }

/-- `resolveAllocationForShopifyOrderLineItem`. -/
def resolveAllocation (order : ReturnOrder) (shopifyOrderLineItemId sourceLineItemId : String) :
    Except String ReturnAllocation :=
  match order.lineItems.filter fun l => decide (l.id = shopifyOrderLineItemId) ||
      decide (l.sourceLineItemId = shopifyOrderLineItemId) ||
      (decide (sourceLineItemId ≠ "") && decide (l.sourceLineItemId = sourceLineItemId)) with
  | [] => .error "No Shopify order line item found for ownership resolution."
  | [l] =>
      match db.allocationLineOwner.filter fun o => decide (o.shopifyLineItemId = l.id) with
      | [] => .error "No vendor allocation owner found for Shopify line item."
      | [o] => .ok o.vendorAllocation
      | _ => .error "Multiple vendor allocation owners found for Shopify line item."
  | _ => .error "Multiple Shopify order line items matched ownership resolution input."

/-- The Shopify identifier of a return line's order line. -/
def sourceLineItemIdOf (line : ReturnDetailLine) : String :=
  match line.lineItemGid.filter fun g => decide (g ≠ "") with
  | some gid => (extractShopifyGidTail gid).getD gid
  | none => (extractShopifyGidTail line.returnLineItemGid).getD line.returnLineItemGid

/-- The order line of a return line. -/
def matchedOrderLineItem (order : ReturnOrder) (sku sourceLineItemId : String) :
    Except String ReturnOrderLineItem :=
  let matching := order.lineItems.filter fun l => decide (l.sku = some sku)
  let found := if sourceLineItemId ≠ "" then
      matching.find? fun l => decide (l.sourceLineItemId = sourceLineItemId)
    else match matching with
      | [l] => some l
      | _ => none
  getOrThrow found <|
    if 1 < matching.length then "Return SKU " ++ sku ++
      " matched multiple original order line items and could not be resolved safely."
    else "No original order mapping found for return SKU " ++ sku ++ "."

def mapReturnLine (order : ReturnOrder) (line : ReturnDetailLine) :
    Except String MappedReturnLine := do
  let sku ← getOrThrow (line.sku.filter fun s => decide (s ≠ ""))
    ("Return line item " ++ line.returnLineItemGid ++ " is missing SKU.")
  let sourceLineItemId := sourceLineItemIdOf line
  let matched ← matchedOrderLineItem order sku sourceLineItemId
  let allocation ← db.resolveAllocation order matched.id matched.sourceLineItemId
  pure ⟨line, allocation, sourceLineItemId⟩

/-- The columns that a request writes on a record. -/
def requestedRecord (identity : ReturnIdentity) (payload : ReturnWebhookPayload)
    (sourceShopifyOrderId : String) (tracking : Option ReturnTracking) (now : Instant)
    (m : MappedReturnLine) (r : ReturnRecord) : ReturnRecord :=
  { r with
    vendorAllocationId := m.allocation.id
    sourceShopifyOrderId
    sourceShopifyOrderNumber := m.allocation.sourceShopifyOrderNumber
    sourceShopifyRefundId := none
    sourceShopifyReturnId := some identity.sourceShopifyReturnId
    sourceShopifyReturnGid := some identity.sourceShopifyReturnGid
    sourceShopifyLineItemId := some m.sourceLineItemId
    returnLifecycleStatus := some (mapLifecycleStatus .request)
    returnRequestSource := some "shopify_return_request"
    requestCreatedAt := some now
    requestUpdatedAt := some now
    status := mapLifecycleStatus .request
    reason := some ((readReturnReason m.line.returnReason).getD (deriveReasonFromPayload payload))
    returnReasonNote := resolveReturnReasonNote m.line }.withTracking tracking

/-- A new record, before the columns of the request. -/
def emptyRecord (id vendorAllocationId ownerVendorId : String) : ReturnRecord where
  id
  vendorAllocationId
  ownerVendorId := some ownerVendorId
  sourceShopifyOrderId := ""
  sourceShopifyOrderNumber := ""
  sourceShopifyRefundId := none
  sourceShopifyReturnId := none
  sourceShopifyReturnGid := none
  sourceShopifyLineItemId := none
  returnLifecycleStatus := none
  returnRequestSource := none
  requestCreatedAt := none
  requestUpdatedAt := none
  status := .other ""
  reason := none
  returnReasonNote := none
  returnCarrierName := none
  returnTrackingNumber := none
  returnTrackingUrl := none

/-- The upsert of one line: the row with the identifier is written, or a new one. -/
def upsertRequested (identity : ReturnIdentity) (payload : ReturnWebhookPayload)
    (sourceShopifyOrderId : String) (tracking : Option ReturnTracking) (answer : ReturnAnswer)
    (m : MappedReturnLine) : Except String ReturnDb := do
  let id := m.recordId identity.sourceShopifyReturnId
  let owner ← answer.economicOwner m.allocation.id
  let write := requestedRecord identity payload sourceShopifyOrderId tracking answer.now m
  pure { db with
    returnRecord := if db.returnRecord.any fun r => decide (r.id = id) then
        updateWhere (fun r => decide (r.id = id)) write db.returnRecord
      else db.returnRecord ++ [write (emptyRecord id m.allocation.id owner)] }

/-- The transaction of a request; returns how many records it wrote. -/
def ingestReturnRequest (identity : ReturnIdentity) (eventId : String)
    (payload : ReturnWebhookPayload) (answer : ReturnAnswer) : Except String (ReturnDb × ℕ) := do
  let details ← answer.details
  let sourceShopifyOrderId ← getOrThrow (extractShopifyGidTail details.orderGid)
    "Shopify return detail did not include a usable order id."
  let order ← getOrThrow
    (findRow ReturnOrder.sourceShopifyOrderId sourceShopifyOrderId db.shopifyOrder)
    ("No ingested Shopify order found for return request order id " ++ sourceShopifyOrderId ++ ".")
  let mapped ← details.lineItems.mapM (db.mapReturnLine order)
  let written ← mapped.foldlM (fun db m =>
    db.upsertRequested identity payload sourceShopifyOrderId details.returnTracking answer m)
    (db.startProcessing eventId)
  pure (written.updateEvent eventId fun e =>
    { e with
      status := .processed
      processedAt := some answer.now
      errorMessage := none
      shopifyOrderId := some order.id }, mapped.length)

/-- The columns that a later event writes on a record; without details the tracking stays. -/
def restatedRecord (topic : ReturnLifecycleTopic) (answer : ReturnAnswer) (r : ReturnRecord) :
    ReturnRecord :=
  let restated :=
    { r with
      returnLifecycleStatus := some (mapLifecycleStatus topic)
      requestUpdatedAt := some answer.now
      status := mapLifecycleStatus topic }
  match answer.details with
  | .ok details => restated.withTracking details.returnTracking
  | .error _ => restated

/-- The transaction of a later event. -/
def applyReturnLifecycleStatus (identity : ReturnIdentity) (topic : ReturnLifecycleTopic)
    (eventId : String) (answer : ReturnAnswer) : Except String (ReturnDb × ℕ) := do
  let count := (db.returnRecord.filter fun r => decide (identity.Owns r)).length
  require (count ≠ 0) ("No pending return request records found for Shopify return " ++
    identity.sourceShopifyReturnGid ++ ".")
  let started := db.startProcessing eventId
  let restated :=
    { started with
      returnRecord := updateWhere (fun r => decide (identity.Owns r)) (restatedRecord topic answer)
        started.returnRecord }
  pure (restated.updateEvent eventId fun e =>
    { e with status := .processed, processedAt := some answer.now, errorMessage := none }, count)

/-- The transaction of an event. -/
def ingest (identity : ReturnIdentity) (topic : ReturnLifecycleTopic) (eventId : String)
    (payload : ReturnWebhookPayload) (answer : ReturnAnswer) : Except String (ReturnDb × ℕ) :=
  match topic with
  | .request => db.ingestReturnRequest identity eventId payload answer
  | topic => db.applyReturnLifecycleStatus identity topic eventId answer

/-- The pickups that follow a transaction: of a request and of an approval they are tried. -/
def pickupCounts (topic : ReturnLifecycleTopic) (count : ℕ) (answer : ReturnAnswer) :
    Except String (ℕ × ℕ) :=
  match topic with
  | .request | .approve => answer.pickups
  | _ => .ok (0, count)

/-- `ingestReturnRequestWebhook` and `applyReturnLifecycleStatusWebhook`: a transaction that fails
leaves the event failed, and so does a failing pickup after the transaction. -/
def processReturnWebhook (topic : ReturnLifecycleTopic) (eventId : String)
    (payload : ReturnWebhookPayload) (answer : ReturnAnswer) :
    ReturnDb × Except String ReturnIngestion :=
  match resolveReturnIdentity payload with
  | none =>
      let error := "Shopify " ++ topic.text ++ " payload did not include a return id."
      (db.failWebhook eventId error, .error error)
  | some identity =>
      match db.ingest identity topic eventId payload answer with
      | .error error => (db.failWebhook eventId error, .error error)
      | .ok (db', count) =>
          match pickupCounts topic count answer with
          | .error error => (db'.failWebhook eventId error, .error error)
          | .ok (attempted, skipped) =>
              (db', .ok ⟨identity.sourceShopifyReturnGid, count, attempted, skipped⟩)

end ReturnDb

end VendorDashboard.Shopify

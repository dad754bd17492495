import VendorDashboard.Framework.Interleaving
import VendorDashboard.Framework.Text
import VendorDashboard.Finance.Schema

/-!
# Order updates by vendor integrations

`updateVendorIntegrationOrderShipment` and `updateVendorIntegrationOrderStatus`, by any clients on
any allocations, beside economic transfers and the rest of the system.  The two services run the
same statements and differ in their checks and in what they write.

Every statement is a step.  The writes of a call become visible when it commits, in one step.
`assertAllocationActionable` takes the advisory lock of the order, which a call keeps to the end of
its transaction; the transaction of a transfer that reassigns the allocation takes it too, so it is
one step that needs the lock free.
-/

namespace VendorDashboard.VendorIntegration

open Finance (Id Instant VendorOutboundMethod VendorIntegrationProviderCode AllocationStatus)
open Interleaving Text

/-! ## The rows -/

/-- The columns of `VendorAllocation` that the updates and the transfer read or write. -/
structure IntegrationAllocation where
  shopifyOrderId : Id
  assignedVendorId : Id
  outboundMethodSnapshot : Option VendorOutboundMethod
  outboundIntegrationProviderSnapshot : Option VendorIntegrationProviderCode
  allocationStatus : AllocationStatus
  reassignmentRequired : Bool
  cancellationReason : Option String
  carrier : Option String
  trackingNumber : Option String
  vendorIntegrationTrackingUrl : Option String
  vendorIntegrationShippedAt : Option Instant
  shippingStatus : String
  lastVendorIntegrationShipmentRequestId : Option String
  vendorIntegrationStatus : Option String
  vendorIntegrationStatusMessage : Option String
  vendorIntegrationStatusUpdatedAt : Option Instant
  vendorIntegrationProvider : Option String
  lastVendorIntegrationRequestId : Option String
  deriving DecidableEq

/-- The unique key of an event. -/
structure EventKey where
  clientId : Id
  vendorAllocationId : Id
  idempotencyKey : String
  deriving DecidableEq

structure ShipmentEvent where
  key : EventKey
  vendorIdentifier : Id
  providerName : String
  carrier : String
  trackingNumber : String
  trackingUrl : Option String
  shippedAt : Option Instant
  requestId : Option String
  deriving DecidableEq

structure StatusEvent where
  key : EventKey
  vendorIdentifier : Id
  providerName : String
  status : String
  message : Option String
  requestId : Option String
  deriving DecidableEq

structure IntegrationStore where
  allocation : Id → Option IntegrationAllocation
  /-- Of each order. -/
  cancelledAt : Id → Option Instant
  /-- Whether a customer cancellation holds the allocation. -/
  pendingHold : Id → Bool
  shipmentEvents : List ShipmentEvent
  statusEvents : List StatusEvent
  /-- The call that has the advisory lock of an order. -/
  lock : Id → Option ℕ

/-! ## The calls -/

structure VendorIntegrationContext where
  clientId : Id
  vendorIdentifier : Id
  providerName : String
  providerCode : Option VendorIntegrationProviderCode
  deriving DecidableEq

/-- What a call reports; the route has parsed `shippedAt`. -/
inductive OrderUpdate
  | shipment (carrier trackingNumber : String) (trackingUrl : Option String)
      (shippedAt : Option Instant)
  | status (status : String) (message : Option String)
  deriving DecidableEq

structure OrderUpdateInput where
  allocationId : Id
  context : VendorIntegrationContext
  idempotencyKey : String
  update : OrderUpdate
  requestId : Option String
  deriving DecidableEq

def OrderUpdateInput.key (input : OrderUpdateInput) : EventKey :=
  ⟨input.context.clientId, input.allocationId, input.idempotencyKey⟩

structure ShipmentReply where
  id : Id
  vendorIdentifier : Id
  carrier : Option String
  trackingNumber : Option String
  trackingUrl : Option String
  shippedAt : Option Instant
  shippingStatus : String
  lastVendorIntegrationShipmentRequestId : Option String
  deriving DecidableEq

structure StatusReply where
  id : Id
  vendorIdentifier : Id
  vendorIntegrationStatus : Option String
  vendorIntegrationStatusMessage : Option String
  vendorIntegrationStatusUpdatedAt : Option Instant
  vendorIntegrationProvider : Option String
  lastVendorIntegrationRequestId : Option String
  deriving DecidableEq

inductive UpdateReply
  | shipment (idempotent : Bool) (allocation : ShipmentReply)
  | status (idempotent : Bool) (allocation : StatusReply)
  deriving DecidableEq

def UpdateReply.allocationId : UpdateReply → Id
  | .shipment _ r => r.id
  | .status _ r => r.id

def UpdateReply.vendorIdentifier : UpdateReply → Id
  | .shipment _ r => r.vendorIdentifier
  | .status _ r => r.vendorIdentifier

inductive UpdateOutcome
  | replied (reply : UpdateReply)
  /-- `null`: the vendor has no such allocation. -/
  | notFound
  | threw
  deriving DecidableEq

/-! ## Checks and writes -/

def serializeShipment (id : Id) (allocation : IntegrationAllocation) : ShipmentReply where
  id
  vendorIdentifier := allocation.assignedVendorId
  carrier := allocation.carrier
  trackingNumber := allocation.trackingNumber
  trackingUrl := allocation.vendorIntegrationTrackingUrl
  shippedAt := allocation.vendorIntegrationShippedAt
  shippingStatus := allocation.shippingStatus
  lastVendorIntegrationShipmentRequestId := allocation.lastVendorIntegrationShipmentRequestId

def serializeAllocationStatus (id : Id) (allocation : IntegrationAllocation) : StatusReply where
  id
  vendorIdentifier := allocation.assignedVendorId
  vendorIntegrationStatus := allocation.vendorIntegrationStatus
  vendorIntegrationStatusMessage := allocation.vendorIntegrationStatusMessage
  vendorIntegrationStatusUpdatedAt := allocation.vendorIntegrationStatusUpdatedAt
  vendorIntegrationProvider := allocation.vendorIntegrationProvider
  lastVendorIntegrationRequestId := allocation.lastVendorIntegrationRequestId

/-- The reply for an allocation as it is now. -/
def OrderUpdate.reply (update : OrderUpdate) (idempotent : Bool) (id : Id)
    (allocation : IntegrationAllocation) : UpdateReply :=
  match update with
  | .shipment .. => .shipment idempotent (serializeShipment id allocation)
  | .status .. => .status idempotent (serializeAllocationStatus id allocation)

/-- `value?.trim()`, cut to a length, or `null`. -/
def normalizeText (length : ℕ) (value : Option String) : Option String :=
  let normalized := trim (value.getD "")
  if normalized = "" then none else some (slice length normalized)

def normalizeRequiredText (value : String) : Option String := normalizeText 200 (some value)

def normalizeTrackingUrl (value : Option String) : Option String := normalizeText 1000 value

def normalizeMessage (value : Option String) : Option String := normalizeText 500 value

def SHIPPED_STATUS : String := "In Transit"

/-- The order is not cancelled; `cancelledAt` is the one of the order. -/
def assertNotCancelled (allocation : IntegrationAllocation) (cancelledAt : Option Instant) : Bool :=
  decide (cancelledAt = none) &&
    !(allocation.cancellationReason.any fun reason => decide (reason ≠ ""))

/-- A Sopyo allocation takes shipments from a Sopyo client only. -/
def assertShipmentProviderAuthority (allocation : IntegrationAllocation)
    (context : VendorIntegrationContext) : Bool :=
  !(decide (allocation.outboundMethodSnapshot = some .vendorIntegration) &&
    decide (allocation.outboundIntegrationProviderSnapshot = some .sopyo) &&
    decide (context.providerCode ≠ some .sopyo))

/-- Whether the replay of an update answers. -/
def OrderUpdate.replayable (update : OrderUpdate) (allocation : IntegrationAllocation)
    (context : VendorIntegrationContext) : Bool :=
  match update with
  | .shipment .. => assertShipmentProviderAuthority allocation context
  | .status .. => true

/-- The checks of an update before its write, but for the hold. -/
def OrderUpdate.permitted (update : OrderUpdate) (allocation : IntegrationAllocation)
    (cancelledAt : Option Instant) (context : VendorIntegrationContext) : Bool :=
  match update with
  | .shipment .. =>
      assertNotCancelled allocation cancelledAt && decide (allocation.allocationStatus = .active) &&
        assertShipmentProviderAuthority allocation context
  | .status .. => assertNotCancelled allocation cancelledAt

/-- The update of the allocation. -/
def OrderUpdateInput.apply (input : OrderUpdateInput) (now : Instant)
    (allocation : IntegrationAllocation) : IntegrationAllocation :=
  match input.update with
  | .shipment carrier trackingNumber trackingUrl shippedAt =>
      { allocation with
        carrier := normalizeRequiredText carrier
        trackingNumber := normalizeRequiredText trackingNumber
        vendorIntegrationTrackingUrl := normalizeTrackingUrl trackingUrl
        vendorIntegrationShippedAt := shippedAt
        shippingStatus := SHIPPED_STATUS
        lastVendorIntegrationShipmentRequestId := input.requestId }
  | .status status message =>
      { allocation with
        vendorIntegrationStatus := some status
        vendorIntegrationStatusMessage := normalizeMessage message
        vendorIntegrationStatusUpdatedAt := some now
        vendorIntegrationProvider := some input.context.providerName
        lastVendorIntegrationRequestId := input.requestId }

namespace IntegrationStore

variable (s : IntegrationStore)

/-- `findUnique` by the key of an event. -/
def hasEvent (input : OrderUpdateInput) : Bool :=
  match input.update with
  | .shipment .. => s.shipmentEvents.any fun e => decide (e.key = input.key)
  | .status .. => s.statusEvents.any fun e => decide (e.key = input.key)

/-- `findFirst` by the id and the vendor of the context. -/
def findAssigned (input : OrderUpdateInput) : Option IntegrationAllocation :=
  (s.allocation input.allocationId).filter fun allocation =>
    decide (allocation.assignedVendorId = input.context.vendorIdentifier)

def setAllocation (id : Id) (allocation : IntegrationAllocation) : IntegrationStore :=
  { s with allocation := Function.update s.allocation id (some allocation) }

/-- Create the event of an update of an allocation. -/
def createEvent (input : OrderUpdateInput) (updated : IntegrationAllocation) : IntegrationStore :=
  match input.update with
  | .shipment .. =>
      { s with shipmentEvents := s.shipmentEvents ++
          [⟨input.key, input.context.vendorIdentifier, input.context.providerName,
            updated.carrier.getD "", updated.trackingNumber.getD "",
            updated.vendorIntegrationTrackingUrl, updated.vendorIntegrationShippedAt,
            input.requestId⟩] }
  | .status status message =>
      { s with statusEvents := s.statusEvents ++
          [⟨input.key, input.context.vendorIdentifier, input.context.providerName, status,
            normalizeMessage message, input.requestId⟩] }

section CreateEvent

variable (input : OrderUpdateInput) (updated : IntegrationAllocation)

@[simp] lemma createEvent_allocation : (s.createEvent input updated).allocation = s.allocation := by
  unfold createEvent
  split <;> rfl

@[simp] lemma createEvent_cancelledAt :
    (s.createEvent input updated).cancelledAt = s.cancelledAt := by
  unfold createEvent
  split <;> rfl

@[simp] lemma createEvent_pendingHold :
    (s.createEvent input updated).pendingHold = s.pendingHold := by
  unfold createEvent
  split <;> rfl

@[simp] lemma createEvent_lock : (s.createEvent input updated).lock = s.lock := by
  unfold createEvent
  split <;> rfl

end CreateEvent

/-- The writes of an update; `none` when the event exists or the allocation does not. -/
def commitUpdate (input : OrderUpdateInput) (now : Instant) :
    Option (IntegrationStore × IntegrationAllocation) :=
  if s.hasEvent input then none
  else
    (s.allocation input.allocationId).map fun allocation =>
      let updated := input.apply now allocation
      ((s.setAllocation input.allocationId updated).createEvent input updated, updated)

def acquire (order : Id) (i : ℕ) : IntegrationStore :=
  { s with lock := Function.update s.lock order (some i) }

def release (order : Id) : IntegrationStore :=
  { s with lock := Function.update s.lock order none }

end IntegrationStore

/-- An update does not change the vendor of an allocation. -/
@[simp] lemma OrderUpdateInput.apply_assignedVendorId (input : OrderUpdateInput) (now : Instant)
    (allocation : IntegrationAllocation) :
    (input.apply now allocation).assignedVendorId = allocation.assignedVendorId := by
  unfold apply
  split <;> rfl

/-- A reply is of the allocation and names its vendor. -/
@[simp] lemma OrderUpdate.reply_allocationId (update : OrderUpdate) (idempotent : Bool) (id : Id)
    (allocation : IntegrationAllocation) :
    (update.reply idempotent id allocation).allocationId = id := by
  cases update <;> rfl

/-! ## The steps of a call -/

/-- Where a call is; `order` is the one whose lock it has. -/
inductive UpdatePosition
  | findEvent
  | findAccessible
  | acquireLock
  | findAllocation (order : Id)
  /-- `assertNoPendingCustomerCancellationHold`, which only a shipment has. -/
  | checkHold (order : Id)
  | write (order : Id)
  | ended (outcome : UpdateOutcome)
  deriving DecidableEq

structure UpdateCall where
  input : OrderUpdateInput
  position : UpdatePosition
  deriving DecidableEq

inductive UpdateAnswer
  | statement (now : Instant)
  /-- A statement fails, or the connection is lost. -/
  | failed
  /-- The commit succeeds and its answer is lost. -/
  | lost (now : Instant)
  /-- The lock is granted; whether the allocation has a full refund terminal fact. -/
  | locked (fullRefundTerminalFact : Bool)

namespace UpdateCall

variable (c : UpdateCall)

def goTo (position : UpdatePosition) : UpdateCall := { c with position }

def finish (outcome : UpdateOutcome) : UpdateCall := c.goTo (.ended outcome)

/-- The event exists, or there is something to do. -/
def findEvent (s : IntegrationStore) : UpdateCall :=
  if s.hasEvent c.input then
    match s.allocation c.input.allocationId with
    | none => c.finish .threw
    | some allocation =>
        if c.input.update.replayable allocation c.input.context then
          c.finish (.replied (c.input.update.reply true c.input.allocationId allocation))
        else c.finish .threw
  else c.goTo .findAccessible

/-- `assertAllocationActionable`; `none` while another transaction has the lock. -/
def acquireLock (i : ℕ) (s : IntegrationStore) (fullRefundTerminalFact : Bool) :
    Option (IntegrationStore × UpdateCall) :=
  match s.allocation c.input.allocationId with
  | none => some (s, c.finish .threw)
  | some allocation =>
      if s.lock allocation.shopifyOrderId = none then
        if fullRefundTerminalFact then some (s, c.finish .threw)
        else some (s.acquire allocation.shopifyOrderId i,
          c.goTo (.findAllocation allocation.shopifyOrderId))
      else none

/-- The allocation under the lock, and the checks of the update. -/
def findAllocation (s : IntegrationStore) (order : Id) : IntegrationStore × UpdateCall :=
  match s.findAssigned c.input with
  | none => (s.release order, c.finish .notFound)
  | some allocation =>
      if c.input.update.permitted allocation (s.cancelledAt order) c.input.context then
        match c.input.update with
        | .shipment .. => (s, c.goTo (.checkHold order))
        | .status .. => (s, c.goTo (.write order))
      else (s.release order, c.finish .threw)

/-- The writes and the commit; `answered` is whether the answer arrives. -/
def commit (s : IntegrationStore) (order : Id) (now : Instant) (answered : Bool) :
    IntegrationStore × UpdateCall :=
  match s.commitUpdate c.input now with
  | none => (s.release order, c.finish .threw)
  | some (s', updated) =>
      (s'.release order, c.finish (if answered then
        .replied (c.input.update.reply false c.input.allocationId updated) else .threw))

def run (i : ℕ) (answer : UpdateAnswer) (s : IntegrationStore) (c : UpdateCall) :
    Option (IntegrationStore × UpdateCall) :=
  match c.position, answer with
  | .findEvent, .statement _ => some (s, c.findEvent s)
  | .findAccessible, .statement _ =>
      some (s, if (s.findAssigned c.input).isSome then c.goTo .acquireLock else c.finish .notFound)
  | .acquireLock, .locked fact => c.acquireLock i s fact
  | .findAllocation order, .statement _ => some (c.findAllocation s order)
  | .checkHold order, .statement _ =>
      some (if s.pendingHold c.input.allocationId then (s.release order, c.finish .threw)
        else (s, c.goTo (.write order)))
  | .write order, .statement now => some (c.commit s order now true)
  | .write order, .lost now => some (c.commit s order now false)
  | .findAllocation order, .failed | .checkHold order, .failed | .write order, .failed =>
      some (s.release order, c.finish .threw)
  | .findEvent, .failed | .findAccessible, .failed | .acquireLock, .failed =>
      some (s, c.finish .threw)
  | _, _ => none

end UpdateCall

/-! ## The surroundings -/

/-- What the rest of the system does. -/
inductive IntegrationMove
  | create (id : Id) (allocation : IntegrationAllocation)
  /-- Other columns of an allocation change. -/
  | edit (id : Id) (allocation : IntegrationAllocation)
  /-- The transaction of `transferAllocationEconomics` that reassigns the allocation. -/
  | transfer (id toVendorId : Id)
  /-- A customer cancellation holds the allocation, or no longer does. -/
  | hold (id : Id) (pending : Bool)
  | cancel (order : Id) (time : Instant)

def SHIPPED_STATUS_VALUES : List String :=
  ["shipped", "delivered", "in transit", "in_transit", "label created", "label_created"]

/-- What of `hasShipmentEvidence` is in these columns. -/
def hasShipmentEvidence (allocation : IntegrationAllocation) : Bool :=
  decide (toLowerCase (trim allocation.shippingStatus) ∈ SHIPPED_STATUS_VALUES) ||
    decide (trim (allocation.trackingNumber.getD "") ≠ "") ||
    decide (trim (allocation.carrier.getD "") ≠ "")

/-- What of `assertAllocationTransferable` is in these columns. -/
def assertAllocationTransferable (allocation : IntegrationAllocation) (toVendorId : Id) : Bool :=
  decide (allocation.assignedVendorId ≠ toVendorId) &&
    decide (allocation.allocationStatus = .vendorBlocked) && allocation.reassignmentRequired &&
    !hasShipmentEvidence allocation

namespace IntegrationStore

variable (s : IntegrationStore)

/-- The order of the allocation is not locked. -/
def Unlocked (id : Id) : Prop :=
  ∀ allocation ∈ s.allocation id, s.lock allocation.shopifyOrderId = none

instance (id : Id) : Decidable (s.Unlocked id) := by unfold Unlocked; infer_instance

def outside (e : IntegrationMove) : Option IntegrationStore :=
  match e with
  | .create id allocation =>
      if s.allocation id = none then some (s.setAllocation id allocation) else none
  | .edit id allocation =>
      if ∃ old ∈ s.allocation id, old.shopifyOrderId = allocation.shopifyOrderId ∧
          old.assignedVendorId = allocation.assignedVendorId then
        some (s.setAllocation id allocation)
      else none
  | .transfer id toVendorId =>
      match s.allocation id with
      | none => none
      | some allocation =>
          if s.lock allocation.shopifyOrderId = none ∧
              assertAllocationTransferable allocation toVendorId then
            some (s.setAllocation id
              { allocation with
                assignedVendorId := toVendorId
                allocationStatus := .active
                reassignmentRequired := false
                cancellationReason := none })
          else none
  | .hold id pending =>
      if s.Unlocked id then some { s with pendingHold := Function.update s.pendingHold id pending }
      else none
  | .cancel order time =>
      some { s with cancelledAt := Function.update s.cancelledAt order (some time) }

/-- A store without events and locks. -/
def New : Prop :=
  s.shipmentEvents = [] ∧ s.statusEvents = [] ∧ ∀ order, s.lock order = none

end IntegrationStore

/-- Any number of calls of both services. -/
def orderUpdates : Program IntegrationStore UpdateCall OrderUpdateInput UpdateAnswer
    IntegrationMove where
  start := fun input => ⟨input, .findEvent⟩
  run := UpdateCall.run
  outside := fun e s => IntegrationStore.outside s e

end VendorDashboard.VendorIntegration

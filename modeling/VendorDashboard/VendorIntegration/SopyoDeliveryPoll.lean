import VendorDashboard.VendorIntegration.OrderUpdates
import VendorDashboard.VendorIntegration.SopyoOrderPush

/-!
# Polling Sopyo for delivered orders

`pollSopyoDeliveredOrders`: a cycle reads the Sopyo allocations that no delivery was observed of,
asks the provider for the order of each successful push and for the orders of each tracking number
with live provenance, and records what is in status `6` (`recordVerifiedDeliveredObservation`).  A
transaction looks at the allocations again before it writes.

Every statement, every transaction and every answer of the provider is a step, which may fail.  The
provider gives each vendor the orders of its own account: they keep their id, code and tracking
number, and do not leave status `6`.

The push and the observation of an allocation are parts of its row.  `observedThrough` is not a
column: it keeps the tracking number through which the allocation was observed.
-/

namespace VendorDashboard.SopyoDelivery

open Finance (Id Instant VendorOutboundMethod VendorIntegrationProviderCode)
open VendorIntegration (SopyoOrderPushStatus SHIPPED_STATUS_VALUES)
open Interleaving Table Text

/-! ## Rows -/

structure OrderPush where
  id : Id
  vendorAllocationId : Id
  assignedVendorId : Id
  orderCode : Id
  status : SopyoOrderPushStatus
  sopyoOrderId : Option String
  deriving DecidableEq

structure DeliveredObservation where
  outboundMethod : VendorOutboundMethod
  outboundIntegrationProvider : Option VendorIntegrationProviderCode
  sourceReference : String
  shipmentExecutionId : Option Id
  vendorIntegrationClientId : Option Id
  sopyoOrderPushId : Option Id
  deriving DecidableEq

structure DeliveryAllocation where
  id : Id
  assignedVendorId : Id
  outboundMethodSnapshot : Option VendorOutboundMethod
  outboundIntegrationProviderSnapshot : Option VendorIntegrationProviderCode
  trackingNumber : Option String
  carrier : Option String
  shippingStatus : String
  sopyoOrderPush : Option OrderPush
  deliveredObservation : Option DeliveredObservation
  observedThrough : Option String
  deriving DecidableEq

structure ShipmentEvent where
  vendorAllocationId : Id
  clientId : Id
  vendorIdentifier : Id
  trackingNumber : String
  deriving DecidableEq

structure IntegrationClient where
  vendorIdentifier : Id
  providerCode : Option VendorIntegrationProviderCode
  enabled : Bool
  revokedAt : Option Instant
  scopes : List String
  deriving DecidableEq

/-- A Kargonomi execution; `delivered` is its status. -/
structure DeliveryExecution where
  allocationId : Id
  vendorId : Id
  delivered : Bool
  providerShipmentId : Option String
  deriving DecidableEq

/-- The value of a decimal numeral. -/
def decimalValue (s : String) : ℕ := s.toList.foldl (fun n c => 10 * n + (c.toNat - 48)) 0

def canonicalSopyoOrderId (value : Option String) : Option String :=
  value.filter fun v =>
    isPositiveDecimal v && decide (v.length ≤ 16) && decide (decimalValue v ≤ 9007199254740991)

/-- An order of the provider.  Its id is a positive safe integer. -/
structure SopyoOrder where
  id : String
  orderCode : Id
  orderType : String
  orderStatus : ℤ
  trackingNumber : String
  id_canonical : canonicalSopyoOrderId (some id) = some id
  deriving DecidableEq

structure DeliveryStore where
  allocations : List DeliveryAllocation
  shipmentEvents : List ShipmentEvent
  client : Id → Option IntegrationClient
  execution : Id → Option DeliveryExecution
  credentials : List Id
  /-- The orders in the account of a vendor. -/
  orders : Id → List SopyoOrder

/-- `candidateSelect`: a row with its shipment events and their clients. -/
structure Candidate where
  allocation : DeliveryAllocation
  events : List (ShipmentEvent × IntegrationClient)

namespace DeliveryStore

def allocation (s : DeliveryStore) (id : Id) : Option DeliveryAllocation :=
  findRow DeliveryAllocation.id id s.allocations

def candidate (s : DeliveryStore) (row : DeliveryAllocation) : Candidate where
  allocation := row
  events := (s.shipmentEvents.filter fun e => e.vendorAllocationId == row.id).filterMap fun e =>
    (s.client e.clientId).map fun client => (e, client)

def updateAllocation (s : DeliveryStore) (id : Id) (f : DeliveryAllocation → DeliveryAllocation) :
    DeliveryStore :=
  { s with allocations := updateWhere (fun row => row.id == id) f s.allocations }

end DeliveryStore

/-! ## Candidates -/

def successfulPush (allocation : DeliveryAllocation) : Option OrderPush :=
  allocation.sopyoOrderPush.filter fun push =>
    decide (push.status = .succeeded) && decide (push.vendorAllocationId = allocation.id) &&
      decide (push.assignedVendorId = allocation.assignedVendorId) &&
      decide (push.orderCode = allocation.id) && (canonicalSopyoOrderId push.sopyoOrderId).isSome

def trackingMatchesPush (allocation : DeliveryAllocation) (orderId : String) : Bool :=
  allocation.sopyoOrderPush.isNone ||
    (successfulPush allocation).any fun push => push.sopyoOrderId == some orderId

def tracking (value : Option String) : Option String :=
  let normalized := trim (value.getD "")
  if normalized ≠ "" ∧ utf16Length normalized ≤ 200 then some normalized else none

structure Authority where
  trackingNumber : String
  clientId : Option Id
  deriving DecidableEq

/-- The event proves the tracking number for the vendor. -/
def provesTracking (vendorId : Id) (number : String) (event : ShipmentEvent × IntegrationClient) :
    Bool :=
  tracking (some event.1.trackingNumber) == some number && event.1.vendorIdentifier == vendorId &&
    event.2.vendorIdentifier == vendorId && event.2.providerCode == some .sopyo &&
    event.2.enabled && event.2.revokedAt.isNone && event.2.scopes.contains "shipment:write"

def authority (candidate : Candidate) : Option Authority :=
  match tracking candidate.allocation.trackingNumber with
  | none => none
  | some current =>
      match candidate.events.filter
          (provesTracking candidate.allocation.assignedVendorId current) with
      | [] => none
      | [event] => some { trackingNumber := current, clientId := some event.1.clientId }
      | _ => some { trackingNumber := current, clientId := none }

def isSopyo (row : DeliveryAllocation) : Bool :=
  row.outboundMethodSnapshot == some .vendorIntegration &&
    row.outboundIntegrationProviderSnapshot == some .sopyo

def sopyoUnobserved (row : DeliveryAllocation) : Bool :=
  isSopyo row && row.deliveredObservation.isNone

/-- What a cycle has to do for a vendor: the pushes and the tracking numbers. -/
structure VendorWork where
  vendorId : Id
  pushes : List Candidate
  groups : List (String × List Candidate)

def candidatesOf (vendorId : Id) (candidates : List Candidate) : List Candidate :=
  candidates.filter fun c => c.allocation.assignedVendorId == vendorId

/-- The candidates with live provenance, by their tracking number. -/
def groupByTracking (candidates : List Candidate) : List (String × List Candidate) :=
  (candidates.filterMap fun c => (authority c).map Authority.trackingNumber).eraseDups.map
    fun number => (number, candidates.filter fun c =>
      (authority c).map Authority.trackingNumber == some number)

/-- The vendors with a push come first. -/
def vendorWork (candidates : List Candidate) : List VendorWork :=
  let pushed := candidates.filter fun c => (successfulPush c.allocation).isSome
  let proven := candidates.filter fun c => (authority c).isSome
  ((pushed ++ proven).map fun c => c.allocation.assignedVendorId).eraseDups.map fun vendorId =>
    { vendorId := vendorId
      pushes := candidatesOf vendorId pushed
      groups := groupByTracking (candidatesOf vendorId proven) }

/-! ## Recording -/

inductive VerifiedDeliveredSource
  | kargonomi (shipmentExecutionId : Id) (sourceReference : String)
  | client (clientId : Id) (sourceReference : String)
  | push (pushId : Id) (sourceReference : String)

namespace VerifiedDeliveredSource

def method : VerifiedDeliveredSource → VendorOutboundMethod
  | .kargonomi .. => .kargonomi
  | .client .. => .vendorIntegration
  | .push .. => .vendorIntegration

def providerCode : VerifiedDeliveredSource → Option VendorIntegrationProviderCode
  | .kargonomi .. => none
  | .client .. => some .sopyo
  | .push .. => some .sopyo

def sourceReference : VerifiedDeliveredSource → String
  | .kargonomi _ reference => trim reference
  | .client _ reference => trim reference
  | .push _ reference => trim reference

/-- The observation that the source inserts. -/
def observation (source : VerifiedDeliveredSource) : DeliveredObservation where
  outboundMethod := source.method
  outboundIntegrationProvider := source.providerCode
  sourceReference := source.sourceReference
  shipmentExecutionId := match source with
    | .kargonomi id _ => some id
    | _ => none
  vendorIntegrationClientId := match source with
    | .client id _ => some id
    | _ => none
  sopyoOrderPushId := match source with
    | .push id _ => some id
    | _ => none

end VerifiedDeliveredSource

/-- The push is successful and names the order. -/
def pushNames (row : DeliveryAllocation) (push : OrderPush) (reference : String) : Bool :=
  decide (push.assignedVendorId = row.assignedVendorId) && decide (push.orderCode = row.id) &&
    decide (push.status = .succeeded) &&
    decide (canonicalSopyoOrderId push.sopyoOrderId = some reference)

/-- The source belongs to the allocation. -/
def sourceMatches (s : DeliveryStore) (row : DeliveryAllocation) : VerifiedDeliveredSource → Bool
  | .kargonomi executionId reference => (s.execution executionId).any fun execution =>
      decide (execution.allocationId = row.id) &&
        decide (execution.vendorId = row.assignedVendorId) && execution.delivered &&
        decide (execution.providerShipmentId = some (trim reference))
  | .push pushId reference => row.sopyoOrderPush.any fun push =>
      decide (push.id = pushId) && decide (push.vendorAllocationId = row.id) &&
        pushNames row push (trim reference)
  | .client clientId reference =>
      ((s.client clientId).any fun client =>
        decide (client.vendorIdentifier = row.assignedVendorId) &&
          decide (client.providerCode = some .sopyo) && client.enabled &&
          client.revokedAt.isNone && client.scopes.contains "shipment:write") &&
      row.sopyoOrderPush.all fun push => pushNames row push (trim reference)

/-- An observation of the same source may stay; any other is a conflict. -/
def sameSource (source : VerifiedDeliveredSource) (observation : DeliveredObservation) : Bool :=
  decide (observation.outboundMethod = source.method) &&
    decide (observation.outboundIntegrationProvider = source.providerCode) &&
    decide (observation.sourceReference = source.sourceReference) &&
    (decide (source.method = .vendorIntegration) ||
      decide (observation.shipmentExecutionId = source.observation.shipmentExecutionId))

def observedRow (source : VerifiedDeliveredSource) (through : Option String)
    (row : DeliveryAllocation) : DeliveryAllocation :=
  { row with deliveredObservation := some source.observation, observedThrough := through }

/-- `none` when it throws.  The first observation of an allocation stays. -/
def recordVerifiedDeliveredObservation (allocationId : Id) (source : VerifiedDeliveredSource)
    (through : Option String) (s : DeliveryStore) : Option DeliveryStore := do
  guard (source.sourceReference ≠ "" ∧ utf16Length source.sourceReference ≤ 256)
  let row ← s.allocation allocationId
  guard (row.outboundMethodSnapshot = some source.method ∧
    row.outboundIntegrationProviderSnapshot = source.providerCode)
  guard (sourceMatches s row source)
  match row.deliveredObservation with
  | some observation =>
      guard (sameSource source observation)
      pure s
  | none =>
      pure (s.updateAllocation allocationId (observedRow source through))

def markDelivered (allocationId : Id) (s : DeliveryStore) : DeliveryStore :=
  s.updateAllocation allocationId fun row => { row with shippingStatus := "delivered" }

/-- The allocation and the push that the transaction of the push route writes for: the looked-up
push, still successful and unobserved. -/
def pushedAllocation (s : DeliveryStore) (allocationId : Id) (push : OrderPush)
    (orderId : String) : Option (DeliveryAllocation × OrderPush) := do
  let current ← (s.allocation allocationId).filter sopyoUnobserved
  let currentPush ← successfulPush current
  if currentPush.id = push.id ∧ currentPush.sopyoOrderId = some orderId then
    some (current, currentPush)
  else none

/-- The transaction of the push route. -/
def writeByPush (allocationId : Id) (push : OrderPush) (orderId : String) (s : DeliveryStore) :
    Option DeliveryStore :=
  match pushedAllocation s allocationId push orderId with
  | none => some s
  | some (current, currentPush) =>
      (recordVerifiedDeliveredObservation current.id (.push currentPush.id orderId) none s).map
        (markDelivered current.id)

/-- The unobserved allocations of the vendor with live provenance for the number. -/
def provenFor (s : DeliveryStore) (vendorId : Id) (number : String) : List DeliveryAllocation :=
  s.allocations.filter fun row =>
    sopyoUnobserved row && row.assignedVendorId == vendorId &&
      (authority (s.candidate row)).map Authority.trackingNumber == some number

/-- The allocation and the client that the transaction of the tracking route writes for: the only
unobserved one with this number. -/
def trackedAllocation (s : DeliveryStore) (vendorId : Id) (number orderId : String) :
    Option (DeliveryAllocation × Id) :=
  match provenFor s vendorId number with
  | [row] => do
      let proven ← authority (s.candidate row)
      let clientId ← proven.clientId
      if trackingMatchesPush row orderId then some (row, clientId) else none
  | _ => none

/-- The transaction of the tracking route. -/
def writeByTracking (vendorId : Id) (number orderId : String) (s : DeliveryStore) :
    Option DeliveryStore :=
  match trackedAllocation s vendorId number orderId with
  | none => some s
  | some (row, clientId) =>
      (recordVerifiedDeliveredObservation row.id (.client clientId orderId) (some number) s).map
        (markDelivered row.id)

/-! ## A cycle -/

/-- Whether a step took effect. -/
inductive PollAnswer
  | done | failed
  deriving DecidableEq

inductive PollPosition
  | credentials
  | candidates (vendorIds : List Id)
  /-- The vendors that are left. -/
  | vendors (rest : List VendorWork)
  /-- The provider has accepted the vendor; its pushes are looked up first. -/
  | working (work : VendorWork) (rest : List VendorWork)
  | writePush (allocationId : Id) (push : OrderPush) (orderId : String) (work : VendorWork)
      (rest : List VendorWork)
  | writeTracking (number orderId : String) (work : VendorWork) (rest : List VendorWork)
  | ended

/-- The provider's answer about a push. -/
def deliveredByPush (s : DeliveryStore) (vendorId : Id) (push : OrderPush) : Option SopyoOrder := do
  let orderId ← push.sopyoOrderId
  let order ← findRow SopyoOrder.id orderId (s.orders vendorId)
  if order.orderCode = push.orderCode ∧ order.orderType = "SOPYOAPI" ∧ order.orderStatus = 6 then
    some order
  else none

/-- The provider's answer about a tracking number: one order, delivered and not another's. -/
def deliveredByTracking (s : DeliveryStore) (vendorId : Id) (row : DeliveryAllocation)
    (number : String) : Option SopyoOrder :=
  match (s.orders vendorId).filter fun order => trim order.trackingNumber == number with
  | [order] =>
      if order.orderStatus = 6 ∧ trackingMatchesPush row order.id then some order else none
  | _ => none

/-- The only local match of a tracking number, if its provenance and push allow a lookup. -/
def uniqueMatch : List Candidate → Option DeliveryAllocation
  | [c] =>
      if ((authority c).bind Authority.clientId).isSome ∧
          (c.allocation.sopyoOrderPush.isNone ∨ (successfulPush c.allocation).isSome) then
        some c.allocation
      else none
  | _ => none

/-- The position after the lookup for the next push or tracking number. -/
def lookup (answer : PollAnswer) (s : DeliveryStore) (work : VendorWork) (rest : List VendorWork) :
    PollPosition :=
  match work.pushes, work.groups with
  | c :: pushes, groups =>
      let left := { work with pushes := pushes, groups := groups }
      match answer, successfulPush c.allocation with
      | .done, some push =>
          match deliveredByPush s work.vendorId push with
          | some order => .writePush c.allocation.id push order.id left rest
          | none => .working left rest
      | _, _ => .working left rest
  | [], (number, localMatches) :: groups =>
      let left := { work with pushes := [], groups := groups }
      match answer, uniqueMatch localMatches with
      | .done, some row =>
          match deliveredByTracking s work.vendorId row number with
          | some order => .writeTracking number order.id left rest
          | none => .working left rest
      | _, _ => .working left rest
  | [], [] => .vendors rest

namespace PollPosition

/-- A transaction that fails leaves the store as it was. -/
def commit (answer : PollAnswer) (write : DeliveryStore → Option DeliveryStore)
    (s : DeliveryStore) (work : VendorWork) (rest : List VendorWork) :
    DeliveryStore × PollPosition :=
  match answer with
  | .done => ((write s).getD s, .working work rest)
  | .failed => (s, .working work rest)

def run (answer : PollAnswer) (s : DeliveryStore) :
    PollPosition → Option (DeliveryStore × PollPosition)
  | .credentials =>
      match answer with
      | .done => some (s, if s.credentials = [] then .ended else .candidates s.credentials)
      | .failed => some (s, .ended)
  | .candidates vendorIds =>
      match answer with
      | .done =>
          some (s, .vendors (vendorWork ((s.allocations.filter fun row =>
            sopyoUnobserved row && vendorIds.contains row.assignedVendorId).map s.candidate)))
      | .failed => some (s, .ended)
  | .vendors [] => some (s, .ended)
  | .vendors (work :: rest) =>
      if answer = .done ∧ work.vendorId ∈ s.credentials then some (s, .working work rest)
      else some (s, .vendors rest)
  | .working work rest => some (s, lookup answer s work rest)
  | .writePush allocationId push orderId work rest =>
      some (commit answer (writeByPush allocationId push orderId) s work rest)
  | .writeTracking number orderId work rest =>
      some (commit answer (writeByTracking work.vendorId number orderId) s work rest)
  | .ended => none

end PollPosition

/-! ## The surroundings -/

inductive DeliveryMove
  | createAllocation (row : DeliveryAllocation)
  /-- Tracking is set, changed or cleared. -/
  | setTracking (id : Id) (trackingNumber carrier : Option String)
  | addEvent (event : ShipmentEvent)
  /-- The intent to push an order. -/
  | createPush (push : OrderPush)
  /-- A push that has not succeeded gets another status, with the order when it succeeds. -/
  | setPush (allocationId : Id) (status : SopyoOrderPushStatus) (sopyoOrderId : Option String)
  | transfer (id toVendorId : Id)
  /-- A client is created, changed or disabled. -/
  | setClient (id : Id) (client : IntegrationClient)
  | setCredentials (vendorIds : List Id)
  | setExecution (id : Id) (execution : DeliveryExecution)
  | recordKargonomi (allocationId executionId : Id) (sourceReference : String)
  | placeOrder (vendorId : Id) (order : SopyoOrder)
  | setOrderStatus (vendorId : Id) (orderId : String) (status : ℤ)

/-- What of `hasShipmentEvidence` is in these columns. -/
def hasShipmentEvidence (row : DeliveryAllocation) : Bool :=
  decide (toLowerCase (trim row.shippingStatus) ∈ SHIPPED_STATUS_VALUES) ||
    decide (trim (row.trackingNumber.getD "") ≠ "") || decide (trim (row.carrier.getD "") ≠ "")

/-- Another status, unless the push has succeeded. -/
def setPushStatus (status : SopyoOrderPushStatus) (sopyoOrderId : Option String)
    (push : OrderPush) : OrderPush :=
  if push.status = .succeeded then push
  else { push with status := status, sopyoOrderId := sopyoOrderId }

/-- Another status, unless the order is delivered. -/
def setOrderStatus (status : ℤ) (order : SopyoOrder) : SopyoOrder :=
  if order.orderStatus = 6 then order else { order with orderStatus := status }

namespace DeliveryStore

def outside (e : DeliveryMove) (s : DeliveryStore) : Option DeliveryStore :=
  match e with
  | .createAllocation row =>
      if row.id ∉ s.allocations.map DeliveryAllocation.id ∧ row.sopyoOrderPush = none ∧
          row.deliveredObservation = none ∧ row.observedThrough = none then
        some { s with allocations := s.allocations ++ [row] }
      else none
  | .setTracking id trackingNumber carrier =>
      some (s.updateAllocation id fun row =>
        { row with trackingNumber := trackingNumber, carrier := carrier })
  | .addEvent event => some { s with shipmentEvents := s.shipmentEvents ++ [event] }
  | .createPush push =>
      if push.status ≠ .succeeded then
        some (s.updateAllocation push.vendorAllocationId fun row =>
          { row with sopyoOrderPush := some (row.sopyoOrderPush.getD push) })
      else none
  | .setPush allocationId status sopyoOrderId =>
      some (s.updateAllocation allocationId fun row =>
        { row with sopyoOrderPush := row.sopyoOrderPush.map (setPushStatus status sopyoOrderId) })
  | .transfer id toVendorId =>
      some (s.updateAllocation id fun row =>
        if hasShipmentEvidence row then row else { row with assignedVendorId := toVendorId })
  | .setClient id client => some { s with client := Function.update s.client id (some client) }
  | .setCredentials vendorIds => some { s with credentials := vendorIds }
  | .setExecution id execution =>
      some { s with execution := Function.update s.execution id (some execution) }
  | .recordKargonomi allocationId executionId sourceReference =>
      recordVerifiedDeliveredObservation allocationId (.kargonomi executionId sourceReference) none s
  | .placeOrder vendorId order =>
      if order.id ∉ (s.orders vendorId).map SopyoOrder.id then
        some { s with
          orders := Function.update s.orders vendorId (s.orders vendorId ++ [order]) }
      else none
  | .setOrderStatus vendorId orderId status =>
      some { s with
        orders := Function.update s.orders vendorId
          (updateWhere (fun order => order.id == orderId) (SopyoDelivery.setOrderStatus status)
            (s.orders vendorId)) }

/-- Rows and orders are told apart by their ids, and nothing was observed. -/
structure New (s : DeliveryStore) : Prop where
  allocations : KeyUnique DeliveryAllocation.id s.allocations
  orders : ∀ vendorId, KeyUnique SopyoOrder.id (s.orders vendorId)
  unobserved : ∀ row ∈ s.allocations, row.deliveredObservation = none

end DeliveryStore

/-- Any number of cycles. -/
def deliveryPolls : Program DeliveryStore PollPosition Unit PollAnswer DeliveryMove where
  start := fun _ => .credentials
  run := fun _ answer s p => p.run answer s
  outside := DeliveryStore.outside

end VendorDashboard.SopyoDelivery

import VendorDashboard.Finance.Schema
import VendorDashboard.Framework.Interleaving
import VendorDashboard.Framework.Json
import VendorDashboard.Framework.Table

/-!
# Creating a shipment at the provider

`createShipmentExecution`, `retryDryRunShipmentExecution` and `retryFailedShipmentExecution` of one
allocation, and `createVerifiedFact`, which closes it after a full refund.  A call checks the
allocation, claims the execution in a transaction under the lock of the order, asks the provider
for the shipment outside of any transaction, and then writes what came of it.

A transaction is a step, and so is every read outside of one.  A call that takes no further step
has crashed.  Of a snapshot the fields that only diagnostics show are left out, and of the
configuration of a vendor everything but the provider that it prefers.
-/

namespace VendorDashboard.Shipping

open Finance (AllocationStatus CustomerCancellationStatus Id Instant)
open Interleaving Table Text Transaction

/-! ## Rows -/

inductive ShippingProvider
  | hepsijet | kargoEntegrator | tryOto | kargonomi | navlungo | mng | yurtici | aras
  deriving DecidableEq

/-- The status of an execution, and that of an answer of the provider. -/
inductive ShipmentExecutionStatus
  | pending | created | failed | inTransit | delivered | returned | cancelled
  deriving DecidableEq

/-- The fields of a record; of a repeated name the last one counts. -/
abbrev Snapshot := List (String × Json)

structure ShipmentExecution where
  id : String
  vendorId : Id
  provider : ShippingProvider
  shipmentStatus : ShipmentExecutionStatus
  providerShipmentId : Option String
  trackingNumber : Option String
  trackingUrl : Option String
  labelUrl : Option String
  responseSnapshot : Snapshot
  /-- The call that has claimed the execution and not written its outcome; not a column. -/
  caller : Option ℕ

inductive CancellationReason
  | outOfStock | vendorCancelled | damagedInventory | fulfillmentIssue
  deriving DecidableEq

/-- The allocation, with what is read of its order and of its fulfillment. -/
structure VendorAllocation where
  id : String
  assignedVendorId : Id
  allocationStatus : AllocationStatus
  cancellationReason : Option CancellationReason
  sourceShopifyOrderId : String
  cancelledAt : Option Instant
  syncStatus : Option String

structure CustomerCancellationRequestItem where
  status : CustomerCancellationStatus
  requestStatus : CustomerCancellationStatus
  deriving DecidableEq

structure AllocationFullRefundTerminalFact where
  shopifyOrderGid : String
  verificationSource : String
  deriving DecidableEq

structure ShippingStore where
  allocation : VendorAllocation
  customerCancellationRequestItem : List CustomerCancellationRequestItem
  fullRefundTerminalFact : Option AllocationFullRefundTerminalFact
  shipmentExecution : List ShipmentExecution

/-! ## Providers -/

def mapProvider : ShippingProvider → String
  | .hepsijet => "hepsijet"
  | .kargoEntegrator => "kargo_entegrator"
  | .tryOto => "try_oto"
  | .kargonomi => "kargonomi"
  | .navlungo => "navlungo"
  | .mng => "mng"
  | .yurtici => "yurtici"
  | .aras => "aras"

def normalizeProvider (provider : ShippingProvider) : Except String ShippingProvider := do
  require (provider ≠ .kargoEntegrator) "Unsupported shipping provider."
  pure provider

def isPassiveShippingProvider (provider : ShippingProvider) : Bool :=
  provider == .tryOto || provider == .navlungo

def passiveShippingProviderLabel (provider : ShippingProvider) : String :=
  if provider = .tryOto then "Try OTO" else "Navlungo"

def assertActiveShippingProvider (provider : ShippingProvider) : Except String Unit :=
  require (isPassiveShippingProvider provider = false)
    (passiveShippingProviderLabel provider ++
      " is passive. Kargonomi is the only active shipping provider.")

def buildShipmentExecutionId (allocationId : String) (provider : ShippingProvider) : String :=
  "shipment-" ++ mapProvider provider ++ "-" ++ allocationId

/-! ## Reading an execution -/

/-- The column is set, and not to an empty text. -/
def truthy (value : Option String) : Bool := value.any fun text => decide (text ≠ "")

def hasDryRunRetryMarker (snapshot : Snapshot) : Bool :=
  (match (Json.object snapshot).field? "dryRun" with
    | some (.bool true) => true
    | _ => false) ||
  match (Json.object snapshot).field? "disabledGates" with
    | some (.array gates) => !gates.isEmpty
    | _ => false

def assertDryRunRetryEligible (execution : ShipmentExecution) : Except String Unit := do
  require (execution.shipmentStatus = .pending)
    "Only pending dry-run shipment executions can be retried."
  require (truthy execution.providerShipmentId = false)
    "Shipment execution already has a provider shipment id and cannot be retried."
  require (truthy execution.trackingNumber = false)
    "Shipment execution already has tracking and cannot be retried."
  require (hasDryRunRetryMarker execution.responseSnapshot = true)
    "Only dry-run shipment executions can be retried."

def assertFailedRetryEligible (execution : ShipmentExecution) : Except String Unit := do
  require (execution.shipmentStatus = .failed) "Only failed shipment executions can be retried."
  require (truthy execution.providerShipmentId = false)
    "Shipment execution already has a provider shipment id and cannot be retried."
  require (truthy execution.trackingNumber = false)
    "Shipment execution already has tracking and cannot be retried."
  require (truthy execution.labelUrl = false)
    "Shipment execution already has a label and cannot be retried."

def hasPersistedShipmentEvidence (execution : ShipmentExecution) : Bool :=
  truthy execution.providerShipmentId || truthy execution.trackingNumber ||
    truthy execution.trackingUrl || truthy execution.labelUrl

def canRetryStaleNavlungoExecution (execution : ShipmentExecution) : Bool :=
  execution.provider == .navlungo && !hasPersistedShipmentEvidence execution &&
    (execution.shipmentStatus == .pending || execution.shipmentStatus == .failed)

/-! ## Reading the allocation -/

def normalizeRequired (value : String) : Option String :=
  if trim value = "" then none else some (trim value)

/-- The canonical identifier of the order, under whose lock the transaction goes on. -/
def assertAllocationActionable (s : ShippingStore) : Except String String := do
  let canonicalShopifyOrderId ← getOrThrow (normalizeRequired s.allocation.sourceShopifyOrderId)
    "Allocation canonical Shopify order identity is unavailable."
  require (s.fullRefundTerminalFact = none)
    "Allocation is operationally closed by a verified full refund."
  pure canonicalShopifyOrderId

def assertFullOrderOperationallyEligible (allocation : VendorAllocation) : Except String Unit :=
  require (allocation.cancelledAt = none) "Full Shopify order cancellation blocks this operation."

def ACTIVE_CUSTOMER_CANCELLATION_REQUEST_STATUSES : List CustomerCancellationStatus :=
  [.pending, .partiallyResolved, .approvedForRefund, .refundedAwaitingOrderCancel]

def ACTIVE_CUSTOMER_CANCELLATION_HOLD_ITEM_STATUSES : List CustomerCancellationStatus :=
  [.pending, .approvedForRefund, .refundedAwaitingOrderCancel]

def hasPendingCustomerCancellationHold (s : ShippingStore) : Bool :=
  s.customerCancellationRequestItem.any fun item =>
    decide (item.status ∈ ACTIVE_CUSTOMER_CANCELLATION_HOLD_ITEM_STATUSES) &&
      decide (item.requestStatus ∈ ACTIVE_CUSTOMER_CANCELLATION_REQUEST_STATUSES)

def assertNoPendingCustomerCancellationHold (s : ShippingStore) : Except String Unit :=
  require (hasPendingCustomerCancellationHold s = false)
    "A pending customer cancellation request blocks new shipment and tracking actions."

def assertShipmentProviderCallMayBegin (s : ShippingStore) (vendorId : Id)
    (sourceShopifyOrderId : String) : Except String Unit := do
  let canonicalShopifyOrderId ← assertAllocationActionable s
  require (canonicalShopifyOrderId = sourceShopifyOrderId)
    "Allocation is no longer available for shipment execution."
  require (s.allocation.assignedVendorId = vendorId ∧
      s.allocation.sourceShopifyOrderId = sourceShopifyOrderId)
    "Allocation is no longer available for shipment execution."
  assertFullOrderOperationallyEligible s.allocation
  require (s.allocation.cancellationReason = none ∧ s.allocation.allocationStatus = .active)
    "Allocation is not eligible for shipment execution."
  assertNoPendingCustomerCancellationHold s

/-! ## The calls -/

inductive RetryKind
  | dryRun
  | failed (vendorId : Id) (useFullSenderDetailsForThisRetry : Bool)
  deriving DecidableEq

/-- What a process is called with. -/
inductive Input
  | createShipmentExecution (vendorId : Id) (provider : Option ShippingProvider)
  | retryShipmentExecution (kind : RetryKind) (shipmentExecutionId : String)
  | createVerifiedFact (verificationSource : String)

/-- A call for a shipment; a retry has read the execution. -/
inductive ShipmentRequest
  | create (vendorId : Id) (provider : Option ShippingProvider)
  | retry (kind : RetryKind) (existing : ShipmentExecution)

/-- The vendor on whose behalf the shipment is requested. -/
def ShipmentRequest.vendorId : ShipmentRequest → Id
  | .create vendorId _ => vendorId
  | .retry _ existing => existing.vendorId

def ShipmentRequest.provider : ShipmentRequest → Option ShippingProvider
  | .create _ provider => provider
  | .retry _ existing => some existing.provider

def ShipmentRequest.isDryRunRetry : ShipmentRequest → Bool
  | .retry .dryRun _ => true
  | _ => false

/-- A call that is about to claim its execution, or has claimed it.  `vendorId` and
`sourceShopifyOrderId` are those of the allocation as it was read last. -/
structure ProviderCall where
  request : ShipmentRequest
  provider : ShippingProvider
  executionId : String
  vendorId : Id
  sourceShopifyOrderId : String
  claimSnapshot : Snapshot

structure ShippingProviderCreateResult where
  providerShipmentId : Option String
  trackingNumber : Option String
  trackingUrl : Option String
  labelUrl : Option String
  shipmentStatus : ShipmentExecutionStatus
  responseSnapshot : Snapshot

/-- `responseSnapshot` is that of a `ShippingProviderExecutionError`. -/
structure ProviderError where
  message : String
  responseSnapshot : Option Snapshot

inductive TerminalVerification
  | qualifies (shopifyOrderGid : String)
  | doesNotQualify (reasonCode : String)
  | indeterminate (reasonCode : String)

inductive FactReply
  | created
  | alreadyExists
  | doesNotQualify (reasonCode : String)
  | indeterminate (reasonCode : String)
  | outboundClaimConflict (reasonCode : String)
  deriving DecidableEq

inductive Reply
  | threw (message : String)
  | shipmentExecution (id : String)
  | fact (reply : FactReply)
  deriving DecidableEq

/-- Where a call stands: what it does next. -/
inductive Position
  | existing (kind : RetryKind) (shipmentExecutionId : String)
  | operational (request : ShipmentRequest)
  | operationalOrder (request : ShipmentRequest)
  | customerCancellationHold (request : ShipmentRequest)
  | readiness (request : ShipmentRequest)
  | previewActionable (request : ShipmentRequest)
  | previewAllocation (request : ShipmentRequest)
  | previewConfig (request : ShipmentRequest)
  | allocation (request : ShipmentRequest) (provider : ShippingProvider)
  | existingExecution (call : ProviderCall)
  | claim (call : ProviderCall)
  | createShipment (call : ProviderCall)
  | persistResult (call : ProviderCall) (result : ShippingProviderCreateResult)
  | recordFailure (call : ProviderCall) (error : ProviderError)
  /-- The outcome could not be written: the call has thrown. -/
  | unrecorded (call : ProviderCall)
  | shopifySync (call : ProviderCall) (responseSnapshot : Snapshot)
  | verify (verificationSource : String)
  | commitFact (verificationSource shopifyOrderGid : String)
  | ended (reply : Reply)

/-- An answer from outside of the allocation: of the configuration, of the provider, of Shopify.
`databaseFails` says that a write fails. -/
inductive Answer
  | ok
  | databaseFails
  | diagnostics (executionReady : Bool) (missing : List String)
  /-- The provider that the vendor prefers; an error where the preview throws. -/
  | preview (preferredProvider : Except String ShippingProvider)
  | shipment (result : ShippingProviderCreateResult)
  | threw (error : ProviderError)
  | syncDiagnostics (fields : Option Snapshot)
  | verification (v : TerminalVerification)

def start : Input → Position
  | .createShipmentExecution vendorId provider => .previewActionable (.create vendorId provider)
  | .retryShipmentExecution kind shipmentExecutionId => .existing kind shipmentExecutionId
  | .createVerifiedFact verificationSource => .verify verificationSource

namespace ShippingStore

def findExecution (s : ShippingStore) (id : String) : Option ShipmentExecution :=
  s.shipmentExecution.find? fun r => r.id == id

/-- The row of the unique pair of allocation and provider. -/
def findByProvider (s : ShippingStore) (provider : ShippingProvider) : Option ShipmentExecution :=
  s.shipmentExecution.find? fun r => r.provider == provider

def updateExecution (s : ShippingStore) (id : String) (f : ShipmentExecution → ShipmentExecution) :
    ShippingStore :=
  { s with shipmentExecution := updateWhere (fun r => r.id == id) f s.shipmentExecution }

end ShippingStore

/-! ## Checks before the claim -/

/-- A step that only reads: the call goes on, or ends with the error. -/
def orThrow : Except String Position → Position
  | .ok q => q
  | .error message => .ended (.threw message)

def checkExisting (kind : RetryKind) (existing : ShipmentExecution) : Except String Unit :=
  match kind with
  | .dryRun => assertDryRunRetryEligible existing
  | .failed vendorId useFullSenderDetailsForThisRetry => do
      require (existing.vendorId = vendorId) "Shipment execution not found."
      require (useFullSenderDetailsForThisRetry = true → existing.provider = .navlungo)
        "Full sender detail retry is available only for Navlungo shipments."
      if canRetryStaleNavlungoExecution existing then pure ()
      else assertFailedRetryEligible existing

def readExisting (kind : RetryKind) (shipmentExecutionId : String) (s : ShippingStore) :
    Except String Position := do
  let existing ← getOrThrow (s.findExecution shipmentExecutionId) "Shipment execution not found."
  checkExisting kind existing
  pure (.operational (.retry kind existing))

def checkReadiness (request : ShipmentRequest) (executionReady : Bool) (missing : List String) :
    Except String Position := do
  match request.provider with
  | some provider => assertActiveShippingProvider provider
  | none => pure ()
  require (executionReady = true)
    ("Shipping provider execution is not ready. Missing: " ++
      (if missing = [] then "provider configuration" else ", ".intercalate missing) ++ ".")
  pure (.previewActionable request)

/-- The part of `buildShipmentRequestPreview` that reads the allocation. -/
def previewAllocation (request : ShipmentRequest) (s : ShippingStore) :
    Except String Position := do
  require (s.allocation.assignedVendorId = request.vendorId)
    "Allocation could not be found for the selected vendor."
  assertFullOrderOperationallyEligible s.allocation
  require (s.allocation.cancellationReason = none ∧ s.allocation.allocationStatus = .active)
    "Allocation is not eligible for shipment execution."
  pure (.previewConfig request)

def previewConfig (request : ShipmentRequest) (preferredProvider : Except String ShippingProvider) :
    Except String Position := do
  let preferred ← preferredProvider
  let provider ← normalizeProvider (request.provider.getD preferred)
  assertActiveShippingProvider provider
  pure (.allocation request provider)

def buildProviderCallClaimSnapshot (snapshot : Snapshot) (claimKind : String) : Snapshot :=
  snapshot ++ [("providerCallClaimKind", .string claimKind)]

def RetryKind.claimKind : RetryKind → String
  | .dryRun => "dry_run_retry"
  | .failed _ _ => "failed_retry"

/-- Reading the allocation again after the preview.  A retry compares its vendor. -/
def readAllocation (request : ShipmentRequest) (provider : ShippingProvider) (s : ShippingStore) :
    Except String Position :=
  match request with
  | .create _ _ =>
      pure (.existingExecution
        { request := request
          provider := provider
          executionId := buildShipmentExecutionId s.allocation.id provider
          vendorId := s.allocation.assignedVendorId
          sourceShopifyOrderId := s.allocation.sourceShopifyOrderId
          claimSnapshot := buildProviderCallClaimSnapshot [] "create" })
  | .retry kind existing => do
      require (provider = existing.provider)
        "Vendor shipping provider no longer matches the shipment execution provider."
      require (s.allocation.assignedVendorId = existing.vendorId)
        "Allocation could not be found for the selected shipment execution."
      pure (.claim
        { request := request
          provider := provider
          executionId := existing.id
          vendorId := s.allocation.assignedVendorId
          sourceShopifyOrderId := s.allocation.sourceShopifyOrderId
          claimSnapshot :=
            buildProviderCallClaimSnapshot existing.responseSnapshot kind.claimKind })

/-! ## The claim -/

def claimedExecution (i : ℕ) (call : ProviderCall) : ShipmentExecution where
  id := call.executionId
  vendorId := call.vendorId
  provider := call.provider
  shipmentStatus := .pending
  providerShipmentId := none
  trackingNumber := none
  trackingUrl := none
  labelUrl := none
  responseSnapshot := call.claimSnapshot
  caller := some i

/-- The transaction that claims the execution. -/
def claimExecution (i : ℕ) (call : ProviderCall) (s : ShippingStore) :
    Except String (ShippingStore × Position) := do
  assertShipmentProviderCallMayBegin s call.vendorId call.sourceShopifyOrderId
  match call.request with
  | .create _ _ =>
      match s.findByProvider call.provider with
      | some currentExecution => pure (s, .ended (.shipmentExecution currentExecution.id))
      | none => do
          require ((s.findExecution call.executionId).isNone) "Unique constraint failed."
          pure ({ s with shipmentExecution := s.shipmentExecution ++ [claimedExecution i call] },
            .createShipment call)
  | .retry .dryRun existing => do
      let currentExecution ← getOrThrow (s.findExecution existing.id)
        "Shipment execution not found."
      assertDryRunRetryEligible currentExecution
      -- the status stays as it is, and the snapshot keeps its marker
      pure (s.updateExecution existing.id fun r =>
        { r with responseSnapshot := call.claimSnapshot, caller := some i }, .createShipment call)
  | .retry (.failed _ _) existing => do
      let currentExecution ← getOrThrow (s.findExecution existing.id)
        "Shipment execution not found."
      if canRetryStaleNavlungoExecution existing then
        require (canRetryStaleNavlungoExecution currentExecution = true)
          "Shipment execution changed before the provider retry could begin."
      else assertFailedRetryEligible currentExecution
      pure (s.updateExecution existing.id fun r =>
        { r with
          shipmentStatus := .pending
          responseSnapshot := call.claimSnapshot
          caller := some i }, .createShipment call)

/-! ## The outcome -/

def providerCreated (result : ShippingProviderCreateResult) : Bool :=
  truthy result.providerShipmentId || truthy result.trackingNumber || truthy result.trackingUrl ||
    truthy result.labelUrl ||
    ((Json.object result.responseSnapshot).readRecordString ["post_number", "postNumber",
      "providerShipmentId", "tracking_url", "trackingUrl", "barcode"]).isSome

def persistedStatus (result : ShippingProviderCreateResult) : ShipmentExecutionStatus :=
  if providerCreated result then
    if result.shipmentStatus = .pending then .created else result.shipmentStatus
  else .pending

/-- The row with the provider's result. -/
def ShipmentExecution.withResult (result : ShippingProviderCreateResult) (r : ShipmentExecution) :
    ShipmentExecution :=
  { r with
    providerShipmentId := result.providerShipmentId
    trackingNumber := result.trackingNumber
    trackingUrl := result.trackingUrl
    labelUrl := result.labelUrl
    shipmentStatus := persistedStatus result
    responseSnapshot := result.responseSnapshot
    caller := none }

def persistProviderShipmentResult (call : ProviderCall) (result : ShippingProviderCreateResult)
    (s : ShippingStore) : ShippingStore :=
  let persisted := s.updateExecution call.executionId (·.withResult result)
  if providerCreated result then
    { persisted with
      allocation := { persisted.allocation with syncStatus := some "carrier_created" } }
  else persisted

def buildProviderFailureSnapshot (error : ProviderError) (provider : ShippingProvider)
    (baseSnapshot : Snapshot) : Snapshot :=
  match error.responseSnapshot with
  | some responseSnapshot => baseSnapshot ++ responseSnapshot ++ [("error", .string error.message)]
  | none =>
      baseSnapshot ++ [("error", .string error.message), ("provider", .string (mapProvider provider))]

def recordProviderFailure (call : ProviderCall) (error : ProviderError) (s : ShippingStore) :
    ShippingStore :=
  s.updateExecution call.executionId fun r =>
    { r with
      shipmentStatus := .failed
      responseSnapshot := buildProviderFailureSnapshot error call.provider call.claimSnapshot
      caller := none }

/-! ## The terminal fact -/

def verified (verificationSource : String) : TerminalVerification → Position
  | .qualifies shopifyOrderGid => .commitFact verificationSource shopifyOrderGid
  | .doesNotQualify reasonCode => .ended (.fact (.doesNotQualify reasonCode))
  | .indeterminate reasonCode => .ended (.fact (.indeterminate reasonCode))

/-- The transaction of `createVerifiedFact`. -/
def commitVerifiedFact (verificationSource shopifyOrderGid : String) (s : ShippingStore) :
    ShippingStore × FactReply :=
  if normalizeRequired s.allocation.sourceShopifyOrderId = none then
    (s, .indeterminate "canonical_shopify_order_identity_missing")
  else if s.fullRefundTerminalFact.isSome then (s, .alreadyExists)
  else if s.shipmentExecution.any fun r => r.shipmentStatus == .pending then
    (s, .outboundClaimConflict "shipment_execution_pending")
  else if s.allocation.syncStatus = some "fulfillment_submission_pending" then
    (s, .outboundClaimConflict "shopify_fulfillment_submission_pending")
  else
    ({ s with fullRefundTerminalFact := some ⟨shopifyOrderGid, verificationSource⟩ }, .created)

/-! ## The system -/

/-- The next step of a call. -/
def run (i : ℕ) (answer : Answer) (s : ShippingStore) :
    Position → Option (ShippingStore × Position)
  | .existing kind shipmentExecutionId =>
      some (s, orThrow (readExisting kind shipmentExecutionId s))
  | .operational request =>
      some (s, orThrow (do
        let _ ← assertAllocationActionable s
        pure (.operationalOrder request)))
  | .operationalOrder request =>
      some (s, orThrow (do
        assertFullOrderOperationallyEligible s.allocation
        pure (.customerCancellationHold request)))
  | .customerCancellationHold request =>
      some (s, orThrow (do
        assertNoPendingCustomerCancellationHold s
        pure (.readiness request)))
  | .readiness request =>
      match answer with
      | .diagnostics executionReady missing =>
          some (s, orThrow (checkReadiness request executionReady missing))
      | _ => none
  | .previewActionable request =>
      some (s, orThrow (do
        let _ ← assertAllocationActionable s
        pure (.previewAllocation request)))
  | .previewAllocation request => some (s, orThrow (previewAllocation request s))
  | .previewConfig request =>
      match answer with
      | .preview preferredProvider => some (s, orThrow (previewConfig request preferredProvider))
      | _ => none
  | .allocation request provider => some (s, orThrow (readAllocation request provider s))
  | .existingExecution call =>
      -- a stale Navlungo execution would be retried, but the preview has refused that provider
      match s.findByProvider call.provider with
      | some existing => some (s, .ended (.shipmentExecution existing.id))
      | none => some (s, .claim call)
  | .claim call =>
      match claimExecution i call s with
      | .ok next => some next
      | .error message => some (s, .ended (.threw message))
  | .createShipment call =>
      match answer with
      | .shipment result => some (s, .persistResult call result)
      | .threw error => some (s, .recordFailure call error)
      | _ => none
  | .persistResult call result =>
      match answer with
      | .ok => some (persistProviderShipmentResult call result s,
          .shopifySync call result.responseSnapshot)
      | .databaseFails => some (s, .unrecorded call)
      | _ => none
  | .recordFailure call error =>
      match answer with
      | .ok => some (recordProviderFailure call error s,
          .ended (.shipmentExecution call.executionId))
      | .databaseFails => some (s, .unrecorded call)
      | _ => none
  | .unrecorded _ => none
  | .shopifySync call responseSnapshot =>
      match answer with
      | .syncDiagnostics none => some (s, .ended (.shipmentExecution call.executionId))
      | .syncDiagnostics (some fields) =>
          some (s.updateExecution call.executionId fun r =>
            { r with responseSnapshot := responseSnapshot ++ fields },
            .ended (.shipmentExecution call.executionId))
      | .databaseFails => some (s, .ended (.threw "Database error."))
      | _ => none
  | .verify verificationSource =>
      match answer with
      | .verification v => some (s, verified verificationSource v)
      | _ => none
  | .commitFact verificationSource shopifyOrderGid =>
      let (s', reply) := commitVerifiedFact verificationSource shopifyOrderGid s
      some (s', .ended (.fact reply))
  | .ended _ => none

/-- What others do to the allocation: a transfer to another vendor, requests and decisions of
customer cancellations, and the changes of its order, its status and its fulfillment. -/
inductive Outside
  | transfer (vendorId : Id)
  | customerCancellation (items : List CustomerCancellationRequestItem)
  | cancelOrder (cancelledAt : Option Instant)
  | allocationStatus (status : AllocationStatus) (cancellationReason : Option CancellationReason)
  | fulfillmentSync (syncStatus : Option String)

def outside : Outside → ShippingStore → Option ShippingStore
  | .transfer vendorId, s =>
      some { s with allocation := { s.allocation with assignedVendorId := vendorId } }
  | .customerCancellation items, s => some { s with customerCancellationRequestItem := items }
  | .cancelOrder cancelledAt, s =>
      some { s with allocation := { s.allocation with cancelledAt := cancelledAt } }
  | .allocationStatus status cancellationReason, s =>
      some { s with
        allocation :=
          { s.allocation with
            allocationStatus := status
            cancellationReason := cancellationReason } }
  | .fulfillmentSync syncStatus, s =>
      some { s with allocation := { s.allocation with syncStatus := syncStatus } }

def shipmentSystem : Program ShippingStore Position Input Answer Outside where
  start := start
  run := run
  outside := outside

end VendorDashboard.Shipping

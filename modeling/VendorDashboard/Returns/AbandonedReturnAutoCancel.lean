import VendorDashboard.Finance.Schema
import VendorDashboard.Framework.Interleaving
import VendorDashboard.Framework.Table
import VendorDashboard.Framework.Text

/-!
# Cancelling abandoned approved returns

`runAbandonedApprovedReturnAutoCancel`: a run reads the oldest approved returns that nothing has
happened to for the days of the policy, and processes them one after another.  For each it reads
the records of the return again, asks Shopify for the state of the return, cancels it, and marks
the records that it has read as cancelled.

Every database statement and every call of Shopify is a step.  The order in which a query gives
rows that `requestUpdatedAt` does not tell apart is part of its answer.  The diagnostics of a dry
run are left out.
-/

namespace VendorDashboard.ReturnAutoCancel

open Finance (Id Instant)
open Interleaving Table Text

/-! ## Rows -/

inductive AutoCancelStatus
  | cancelled | dryRunReady | skipped | failed
  deriving DecidableEq

inductive AutoCancelDetails
  | none
  | skippedReturnRecord (id : Id)
  | error (message : String)
  | refunds (shopifyRefundCount shopifyTransactionCount : ℕ)
  | reverseDeliveries (reverseFulfillmentOrderCount reverseDeliveryCount : ℕ)
  | shopifyUserErrors (errors : List (List String × String))
  deriving DecidableEq

/-- The entry `abandonedApprovedReturnAutoCancel` of a snapshot. -/
structure AutoCancelAttempt where
  status : AutoCancelStatus
  skippedReason : Option String
  policyDays : ℕ
  attemptedAt : Instant
  shopifyReturnGidPresent : Bool
  canonicalStatus : Option String
  dryRun : Bool
  affectedReturnRecordIds : List Id
  details : AutoCancelDetails
  deriving DecidableEq

inductive SnapshotValue
  | text (value : String)
  | number (value : ℚ)
  | flag (value : Bool)
  | attempt (value : AutoCancelAttempt)
  | other
  deriving DecidableEq

/-- The object that `readSnapshot` makes of the column: no entries when it holds none. -/
abbrev ProviderSnapshot := List (String × SnapshotValue)

structure ReturnRecord where
  id : Id
  vendorAllocationId : Id
  sourceShopifyRefundId : Option String
  sourceShopifyReturnId : Option String
  sourceShopifyReturnGid : Option String
  returnLifecycleStatus : Option String
  returnRequestSource : Option String
  requestUpdatedAt : Option Instant
  status : String
  returnProviderShipmentId : Option String
  returnTrackingNumber : Option String
  returnLabel : Option String
  returnProviderSnapshot : ProviderSnapshot
  vendorReceivedAt : Option Instant
  vendorDecision : Option String
  createdAt : Instant
  updatedAt : Instant
  deriving DecidableEq

structure RefundRecord where
  vendorAllocationId : Id
  sourceShopifyRefundId : String
  deriving DecidableEq

structure ReturnStore where
  returnRecord : List ReturnRecord
  refundRecord : List RefundRecord
  /-- The allocations of the ledger entries of type `refund`. -/
  refundEntries : List Id
  clock : Instant

/-- A record with what the queries include: the refunds of its allocation. -/
structure ReturnAutoCancelRecord where
  record : ReturnRecord
  refundRecords : List RefundRecord
  financeEntries : List Id
  deriving DecidableEq

namespace ReturnStore

def included (s : ReturnStore) (record : ReturnRecord) : ReturnAutoCancelRecord where
  record := record
  refundRecords := s.refundRecord.filter fun r => r.vendorAllocationId == record.vendorAllocationId
  financeEntries := s.refundEntries.filter fun id => id == record.vendorAllocationId

/-- An update of the row `id`; the database sets `updatedAt`. -/
def update (s : ReturnStore) (id : Id) (f : ReturnRecord → ReturnRecord) : ReturnStore :=
  { s with
    returnRecord := updateWhere (fun r => r.id == id)
      (fun r => { f r with updatedAt := s.clock }) s.returnRecord }

end ReturnStore

/-! ## Reading a record -/

def DAY_MS : ℤ := 24 * 60 * 60 * 1000

/-- The text without white space at its ends, unless nothing is left. -/
def present (value : Option String) : Option String :=
  (value.map trim).filter fun text => decide (text ≠ "")

def normalize (value : Option String) : String := (value.map fun v => toLowerCase (trim v)).getD ""

def normalizeShopifyStatus (value : Option String) : String :=
  (value.map fun v => toUpperCase (trim v)).getD ""

def isApprovedLocalReturn (r : ReturnRecord) : Bool :=
  normalize r.returnLifecycleStatus == "approved" || normalize (some r.status) == "approved"

def isCancelledLocalReturn (r : ReturnRecord) : Bool :=
  normalize r.returnLifecycleStatus == "cancelled" ||
    normalize r.returnLifecycleStatus == "canceled" ||
    normalize (some r.status) == "cancelled" || normalize (some r.status) == "canceled"

def getApprovalTimestamp (r : ReturnRecord) : Instant := r.requestUpdatedAt.getD r.updatedAt

/-- One of the keys has a text or a number. -/
def readString (snapshot : ProviderSnapshot) (keys : List String) : Bool :=
  keys.any fun key => (snapshot.lookup key).any fun
    | .text value => decide (trim value ≠ "")
    | .number _ => true
    | _ => false

def readBoolean (snapshot : ProviderSnapshot) (keys : List String) : Bool :=
  keys.any fun key => snapshot.lookup key == some (.flag true)

def hasLocalReturnShipmentEvidence (r : ReturnRecord) : Bool :=
  (present r.returnProviderShipmentId).isSome || (present r.returnTrackingNumber).isSome ||
    (present r.returnLabel).isSome ||
    readString r.returnProviderSnapshot ["shopifyReverseDeliveryId", "reverseDeliveryId",
      "refreshedReturnProviderShipmentId", "navlungoReturnProviderTrackingId"] ||
    readBoolean r.returnProviderSnapshot ["returnProviderIdPresent", "returnTrackingPresent",
      "returnLabelPresent", "shopifyReturnTrackingSynced", "shopifyReturnLabelSynced",
      "kargonomiReturnShipmentSucceeded", "navlungoReturnPickupSucceeded",
      "reverseDeliveryIdPresent"]

def getLocalSkipReason (r : ReturnAutoCancelRecord) (now : Instant) (autoCancelDays : ℕ)
    (allowCancelled : Bool) : Option String :=
  if r.record.returnRequestSource ≠ some "shopify_return_request" then
    some "not_shopify_return_request"
  else if !isApprovedLocalReturn r.record then
    if allowCancelled && isCancelledLocalReturn r.record then none else some "return_not_approved"
  else if now - getApprovalTimestamp r.record < autoCancelDays * DAY_MS then
    some "approved_return_too_recent"
  else if (present r.record.sourceShopifyRefundId).isSome then some "return_refund_id_present"
  else if r.refundRecords ≠ [] then some "refund_record_exists"
  else if r.financeEntries ≠ [] then some "refund_ledger_exists"
  else if r.record.vendorReceivedAt.isSome then some "vendor_received"
  else if (present r.record.vendorDecision).isSome then some "vendor_decision_exists"
  else if hasLocalReturnShipmentEvidence r.record then some "return_shipment_evidence_exists"
  else none

def getShopifyReturnKey (r : ReturnRecord) : Option String :=
  (present r.sourceShopifyReturnGid).or (present r.sourceShopifyReturnId)

def resolveShopifyReturnGid (r : ReturnRecord) : Option String :=
  (present r.sourceShopifyReturnGid).or ((present r.sourceShopifyReturnId).map fun id =>
    if startsWith id "gid://shopify/Return/" then id else "gid://shopify/Return/" ++ id)

/-- The column is set, and not to an empty text. -/
def truthy (value : Option String) : Bool := value.any fun text => decide (text ≠ "")

/-- The rows share the return's gid or its id. -/
def sameReturn (r other : ReturnRecord) : Bool :=
  (truthy r.sourceShopifyReturnGid && other.sourceShopifyReturnGid == r.sourceShopifyReturnGid) ||
    (truthy r.sourceShopifyReturnId && other.sourceShopifyReturnId == r.sourceShopifyReturnId)

/-- The records of the return.  The table has them in the order of `createdAt`. -/
def findRelatedReturnRecords (s : ReturnStore) (candidate : ReturnAutoCancelRecord) :
    List ReturnAutoCancelRecord :=
  if truthy candidate.record.sourceShopifyReturnGid ||
      truthy candidate.record.sourceShopifyReturnId then
    (s.returnRecord.filter (sameReturn candidate.record)).map s.included
  else [candidate]

/-! ## Candidates -/

structure RunInput where
  now : Instant
  autoCancelDays : ℕ
  limit : ℕ
  dryRun : Bool
  deriving DecidableEq

def isCandidate (input : RunInput) (r : ReturnRecord) : Bool :=
  r.returnRequestSource == some "shopify_return_request" &&
    (input.dryRun || (r.vendorReceivedAt.isNone && r.vendorDecision.isNone &&
      r.sourceShopifyRefundId.isNone && r.returnProviderShipmentId.isNone &&
      r.returnTrackingNumber.isNone && r.returnLabel.isNone)) &&
    (r.returnLifecycleStatus == some "approved" || r.status == "approved") &&
    (r.sourceShopifyReturnGid.isSome || r.sourceShopifyReturnId.isSome) &&
    decide (getApprovalTimestamp r ≤ input.now - input.autoCancelDays * DAY_MS)

/-- `orderBy requestUpdatedAt asc`, in which no time comes last. -/
def before (a b : ReturnRecord) : Bool :=
  match a.requestUpdatedAt, b.requestUpdatedAt with
  | some x, some y => decide (x < y)
  | some _, none => true
  | none, _ => false

/-- What the query may give: the first `limit` candidates. -/
structure IsPage (input : RunInput) (records rows : List ReturnRecord) : Prop where
  nodup : rows.Nodup
  candidates : ∀ r ∈ rows, r ∈ records ∧ isCandidate input r = true
  sorted : rows.Pairwise fun a b => before b a = false
  length : rows.length = min input.limit (records.filter (isCandidate input)).length
  first : ∀ r ∈ records, isCandidate input r = true → r ∉ rows →
    ∀ a ∈ rows, before r a = false

instance (input : RunInput) (records rows : List ReturnRecord) :
    Decidable (IsPage input records rows) :=
  decidable_of_iff
    (rows.Nodup ∧ (∀ r ∈ rows, r ∈ records ∧ isCandidate input r = true) ∧
      rows.Pairwise (fun a b => before b a = false) ∧
      rows.length = min input.limit (records.filter (isCandidate input)).length ∧
      ∀ r ∈ records, isCandidate input r = true → r ∉ rows → ∀ a ∈ rows, before r a = false)
    ⟨fun ⟨a, b, c, d, e⟩ => ⟨a, b, c, d, e⟩, fun ⟨a, b, c, d, e⟩ => ⟨a, b, c, d, e⟩⟩

/-! ## Shopify -/

structure ShopifyReverseDeliveryInfo where
  id : String
  labelPublicFileUrl : Option String
  trackingNumber : Option String
  trackingUrl : Option String
  deriving DecidableEq

structure ShopifyReverseFulfillmentOrderInfo where
  status : Option String
  reverseDeliveries : List ShopifyReverseDeliveryInfo
  deriving DecidableEq

/-- `requestApprovedAt` is the parsed date. -/
structure ShopifyReturnCancellationState where
  status : String
  requestApprovedAt : Option Instant
  refundIds : List String
  transactionIds : List String
  reverseFulfillmentOrders : List ShopifyReverseFulfillmentOrderInfo
  deriving DecidableEq

structure CancelShopifyReturnResult where
  status : Option String
  userErrors : List (List String × String)
  deriving DecidableEq

def hasCanonicalReturnShipmentEvidence (state : ShopifyReturnCancellationState) : Bool :=
  state.reverseFulfillmentOrders.any fun order =>
    (truthy order.status && normalizeShopifyStatus order.status != "OPEN") ||
      order.reverseDeliveries.any fun delivery =>
        decide (delivery.id ≠ "") || (present delivery.labelPublicFileUrl).isSome ||
          (present delivery.trackingNumber).isSome || (present delivery.trackingUrl).isSome

def isCancelledState (state : ShopifyReturnCancellationState) : Bool :=
  normalizeShopifyStatus (some state.status) == "CANCELED" ||
    normalizeShopifyStatus (some state.status) == "CANCELLED"

/-- Why the return is not cancelled although it could be read. -/
def canonicalSkipReason (input : RunInput) (state : ShopifyReturnCancellationState) :
    Option (String × AutoCancelDetails) :=
  if normalizeShopifyStatus (some state.status) ≠ "OPEN" then
    some ("shopify_return_not_open", .none)
  else if state.refundIds ≠ [] ∨ state.transactionIds ≠ [] then
    some ("shopify_refund_or_transaction_exists",
      .refunds state.refundIds.length state.transactionIds.length)
  else if state.requestApprovedAt.any fun approvedAt =>
      decide (input.now - approvedAt < input.autoCancelDays * DAY_MS) then
    some ("shopify_approval_too_recent", .none)
  else if hasCanonicalReturnShipmentEvidence state then
    some ("shopify_reverse_delivery_evidence_exists",
      .reverseDeliveries state.reverseFulfillmentOrders.length
        (state.reverseFulfillmentOrders.map fun order => order.reverseDeliveries.length).sum)
  else none

def isCancelledResult (result : CancelShopifyReturnResult) : Bool :=
  result.userErrors.isEmpty && normalizeShopifyStatus result.status == "CANCELED"

/-! ## Writing -/

/-- The entry is written over the copy of the snapshot that was read. -/
def buildAutoCancelSnapshot (existing : ProviderSnapshot) (attempt : AutoCancelAttempt) :
    ProviderSnapshot :=
  existing.filter (fun entry => entry.1 != "abandonedApprovedReturnAutoCancel") ++
    [("abandonedApprovedReturnAutoCancel", .attempt attempt)]

def persistAutoCancelSnapshot (record : ReturnAutoCancelRecord) (attempt : AutoCancelAttempt)
    (s : ReturnStore) : ReturnStore :=
  s.update record.record.id fun r =>
    { r with
      returnProviderSnapshot :=
        buildAutoCancelSnapshot record.record.returnProviderSnapshot attempt }

/-- One of the updates of `markLocalReturnRecordsCancelled`. -/
def markLocalReturnRecordCancelled (record : ReturnAutoCancelRecord) (attempt : AutoCancelAttempt)
    (s : ReturnStore) : ReturnStore :=
  s.update record.record.id fun r =>
    { r with
      returnLifecycleStatus := some "cancelled"
      status := "cancelled"
      requestUpdatedAt := some attempt.attemptedAt
      returnProviderSnapshot :=
        buildAutoCancelSnapshot record.record.returnProviderSnapshot attempt }

/-! ## A run -/

structure AutoCancelResult where
  returnRecordId : Id
  shopifyReturnGid : Option String
  status : AutoCancelStatus
  skippedReason : Option String
  affectedReturnRecordIds : List Id
  deriving DecidableEq

structure RunState where
  input : RunInput
  /-- The candidates that are left. -/
  rest : List ReturnAutoCancelRecord
  processedReturnKeys : List String
  results : List AutoCancelResult
  deriving DecidableEq

/-- The next call of a run. -/
inductive AutoCancelCall
  | candidates (input : RunInput)
  | related (candidate : ReturnAutoCancelRecord) (gid : String) (run : RunState)
  | fetch (candidate : ReturnAutoCancelRecord) (gid : String)
      (relatedRecords : List ReturnAutoCancelRecord) (run : RunState)
  | cancel (candidate : ReturnAutoCancelRecord) (gid : String)
      (relatedRecords : List ReturnAutoCancelRecord) (canonicalStatus : String) (run : RunState)
  | persist (candidate : ReturnAutoCancelRecord) (attempt : AutoCancelAttempt)
      (result : AutoCancelResult) (run : RunState)
  /-- The record to mark and those after it. -/
  | mark (record : ReturnAutoCancelRecord) (left : List ReturnAutoCancelRecord)
      (attempt : AutoCancelAttempt) (result : AutoCancelResult) (run : RunState)
  | ended (run : RunState)
  deriving DecidableEq

inductive AutoCancelAnswer
  /-- The rows of the candidate query. -/
  | rows (rows : List ReturnRecord)
  | done
  | state (state : ShopifyReturnCancellationState)
  | cancelled (result : CancelShopifyReturnResult)
  | thrown (message : String)
  deriving DecidableEq

namespace RunState

def conclude (run : RunState) (result : AutoCancelResult) : RunState :=
  { run with results := run.results ++ [result] }

def attempt (run : RunState) (gid : Option String) (status : AutoCancelStatus)
    (skippedReason : Option String) (affected : List Id) (canonicalStatus : Option String)
    (details : AutoCancelDetails) : AutoCancelAttempt where
  status := status
  skippedReason := skippedReason
  policyDays := run.input.autoCancelDays
  attemptedAt := run.input.now
  shopifyReturnGidPresent := gid.isSome
  canonicalStatus := canonicalStatus
  dryRun := run.input.dryRun
  affectedReturnRecordIds := affected
  details := details

/-- The call for the next candidate whose return was not processed before. -/
def advance (run : RunState) : List ReturnAutoCancelRecord → AutoCancelCall
  | [] => .ended { run with rest := [] }
  | candidate :: rest =>
      let key := getShopifyReturnKey candidate.record
      if !run.input.dryRun && key.any (run.processedReturnKeys.contains ·) then run.advance rest
      else
        let next : RunState :=
          { run with
            rest := rest
            processedReturnKeys :=
              if run.input.dryRun then run.processedReturnKeys
              else run.processedReturnKeys ++ key.toList }
        match resolveShopifyReturnGid candidate.record with
        | some gid => .related candidate gid next
        | none =>
            let result : AutoCancelResult :=
              ⟨candidate.record.id, none, .skipped, some "shopify_return_id_missing",
                [candidate.record.id]⟩
            if run.input.dryRun then (run.conclude result).advance rest
            else .persist candidate (run.attempt none .skipped (some "shopify_return_id_missing")
              [candidate.record.id] none .none) result next

/-- The candidate is not cancelled: the reason goes into its snapshot, unless this is a dry run. -/
def stop (run : RunState) (candidate : ReturnAutoCancelRecord) (gid : String)
    (status : AutoCancelStatus) (reason : String) (affected : List Id)
    (canonicalStatus : Option String) (details : AutoCancelDetails) : AutoCancelCall :=
  let result : AutoCancelResult := ⟨candidate.record.id, some gid, status, some reason, affected⟩
  if run.input.dryRun then (run.conclude result).advance run.rest
  else .persist candidate
    (run.attempt (some gid) status (some reason) affected canonicalStatus details) result run

/-- The records are marked one after another. -/
def marking (run : RunState) (attempt : AutoCancelAttempt) (result : AutoCancelResult) :
    List ReturnAutoCancelRecord → AutoCancelCall
  | [] => (run.conclude result).advance run.rest
  | record :: left => .mark record left attempt result run

end RunState

/-- The first of the records that must not be cancelled. -/
def localSkip (run : RunState) (relatedRecords : List ReturnAutoCancelRecord) :
    Option (ReturnAutoCancelRecord × String) :=
  relatedRecords.findSome? fun r =>
    (getLocalSkipReason r run.input.now run.input.autoCancelDays true).map fun reason => (r, reason)

def idsOf (relatedRecords : List ReturnAutoCancelRecord) : List Id :=
  relatedRecords.map fun r => r.record.id

namespace AutoCancelCall

/-- After the records of the return were read. -/
@[irreducible] def afterRelated (candidate : ReturnAutoCancelRecord) (gid : String)
    (relatedRecords : List ReturnAutoCancelRecord) (run : RunState) : AutoCancelCall :=
  match localSkip run relatedRecords with
  | some (r, reason) =>
      run.stop candidate gid .skipped reason (idsOf relatedRecords) none
        (.skippedReturnRecord r.record.id)
  | none => .fetch candidate gid relatedRecords run

/-- After Shopify has given the state of the return. -/
@[irreducible] def afterFetch (candidate : ReturnAutoCancelRecord) (gid : String)
    (relatedRecords : List ReturnAutoCancelRecord) (run : RunState)
    (state : ShopifyReturnCancellationState) : AutoCancelCall :=
  let canonicalStatus := normalizeShopifyStatus (some state.status)
  let affected := idsOf relatedRecords
  let ready : AutoCancelResult := ⟨candidate.record.id, some gid, .dryRunReady, none, affected⟩
  if isCancelledState state then
    if run.input.dryRun then (run.conclude ready).advance run.rest
    else run.marking (run.attempt (some gid) .cancelled (some "shopify_already_cancelled") affected
        (some canonicalStatus) .none)
      ⟨candidate.record.id, some gid, .cancelled, some "shopify_already_cancelled", affected⟩
      relatedRecords
  else
    match canonicalSkipReason run.input state with
    | some (reason, details) =>
        run.stop candidate gid .skipped reason affected (some canonicalStatus) details
    | none =>
        if run.input.dryRun then (run.conclude ready).advance run.rest
        else .cancel candidate gid relatedRecords canonicalStatus run

/-- After Shopify has answered the cancellation. -/
@[irreducible] def afterCancel (candidate : ReturnAutoCancelRecord) (gid : String)
    (relatedRecords : List ReturnAutoCancelRecord) (canonicalStatus : String) (run : RunState)
    (result : CancelShopifyReturnResult) : AutoCancelCall :=
  let affected := idsOf relatedRecords
  if isCancelledResult result then
    run.marking (run.attempt (some gid) .cancelled none affected result.status .none)
      ⟨candidate.record.id, some gid, .cancelled, none, affected⟩ relatedRecords
  else
    run.stop candidate gid .failed "shopify_cancel_user_errors" affected
      (result.status.or (some canonicalStatus)) (.shopifyUserErrors result.userErrors)

def run (answer : AutoCancelAnswer) (s : ReturnStore) :
    AutoCancelCall → Option (ReturnStore × AutoCancelCall)
  | .candidates input =>
      match answer with
      | .rows rows =>
          if IsPage input s.returnRecord rows then
            some (s, RunState.advance ⟨input, [], [], []⟩ (rows.map s.included))
          else none
      | _ => none
  | .related candidate gid run =>
      match answer with
      | .done => some (s, afterRelated candidate gid (findRelatedReturnRecords s candidate) run)
      | _ => none
  | .fetch candidate gid relatedRecords run =>
      match answer with
      | .state state => some (s, afterFetch candidate gid relatedRecords run state)
      | .thrown message =>
          some (s, run.stop candidate gid .failed "canonical_fetch_failed" (idsOf relatedRecords)
            none (.error message))
      | _ => none
  | .cancel candidate gid relatedRecords canonicalStatus run =>
      match answer with
      | .cancelled result =>
          some (s, afterCancel candidate gid relatedRecords canonicalStatus run result)
      | .thrown message =>
          some (s, run.stop candidate gid .failed "shopify_cancel_failed" (idsOf relatedRecords)
            (some canonicalStatus) (.error message))
      | _ => none
  | .persist candidate attempt result run =>
      match answer with
      | .done =>
          some (persistAutoCancelSnapshot candidate attempt s,
            (run.conclude result).advance run.rest)
      | _ => none
  | .mark record left attempt result run =>
      match answer with
      | .done =>
          some (markLocalReturnRecordCancelled record attempt s, run.marking attempt result left)
      | _ => none
  | .ended _ => none

end AutoCancelCall

/-! ## The surroundings -/

inductive ReturnMove
  | tick (time : ℕ)
  | createReturn (record : ReturnRecord)
  /-- A returned request is written over the record. -/
  | requestReturn (id : Id) (returnId gid : Option String) (trackingNumber : Option String)
  /-- A lifecycle webhook, with the tracking number if Shopify could be asked. -/
  | lifecycle (returnId gid status : String) (trackingNumber : Option (Option String))
  | receive (id : Id)
  | decide (id : Id) (decision : String)
  | ship (id : Id) (shipmentId trackingNumber label : Option String) (snapshot : ProviderSnapshot)
  /-- Diagnostics of the shipping provider. -/
  | setSnapshot (id : Id) (snapshot : ProviderSnapshot)
  /-- A refund, with the record of the return it belongs to. -/
  | refund (allocationId : Id) (id : Option Id) (refundId : String)

namespace ReturnMove

/-- The move writes the row. -/
def writes (e : ReturnMove) (r : ReturnRecord) : Bool :=
  match e with
  | .tick _ => false
  | .createReturn _ => false
  | .requestReturn id .. => r.id == id
  | .lifecycle returnId gid .. =>
      r.sourceShopifyReturnGid == some gid || r.sourceShopifyReturnId == some returnId
  | .receive id => r.id == id
  | .decide id _ => r.id == id
  | .ship id .. => r.id == id
  | .setSnapshot id _ => r.id == id
  | .refund _ id _ => id == some r.id

def change (clock : Instant) (e : ReturnMove) (r : ReturnRecord) : ReturnRecord :=
  match e with
  | .requestReturn _ returnId gid trackingNumber =>
      { r with
        sourceShopifyRefundId := none
        sourceShopifyReturnId := returnId
        sourceShopifyReturnGid := gid
        returnLifecycleStatus := some "requested"
        returnRequestSource := some "shopify_return_request"
        requestUpdatedAt := some clock
        status := "requested"
        returnTrackingNumber := trackingNumber
        updatedAt := clock }
  | .lifecycle _ _ status trackingNumber =>
      { r with
        returnLifecycleStatus := some status
        requestUpdatedAt := some clock
        status := status
        returnTrackingNumber := trackingNumber.getD r.returnTrackingNumber
        updatedAt := clock }
  | .receive _ =>
      { r with vendorReceivedAt := r.vendorReceivedAt.or (some clock), updatedAt := clock }
  | .decide _ decision => { r with vendorDecision := some decision, updatedAt := clock }
  | .ship _ shipmentId trackingNumber label snapshot =>
      { r with
        returnProviderShipmentId := shipmentId
        returnTrackingNumber := trackingNumber
        returnLabel := label
        returnProviderSnapshot := snapshot
        updatedAt := clock }
  | .setSnapshot _ snapshot => { r with returnProviderSnapshot := snapshot, updatedAt := clock }
  | .refund _ _ refundId =>
      { r with sourceShopifyRefundId := some refundId, status := "processed", updatedAt := clock }
  | _ => r

end ReturnMove

namespace ReturnStore

def outside (e : ReturnMove) (s : ReturnStore) : Option ReturnStore :=
  let s' := { s with returnRecord := updateWhere e.writes (e.change s.clock) s.returnRecord }
  match e with
  | .tick time => some { s with clock := s.clock + time }
  | .createReturn record =>
      if record.id ∉ s.returnRecord.map ReturnRecord.id then
        some { s with returnRecord := s.returnRecord ++ [record] }
      else none
  | .refund allocationId _ refundId =>
      some { s' with
        refundRecord := s.refundRecord ++ [⟨allocationId, refundId⟩]
        refundEntries := s.refundEntries ++ [allocationId] }
  | _ => some s'

end ReturnStore

/-- Any number of runs. -/
def autoCancelRuns : Program ReturnStore AutoCancelCall RunInput AutoCancelAnswer ReturnMove where
  start := .candidates
  run := fun _ answer s p => p.run answer s
  outside := ReturnStore.outside

end VendorDashboard.ReturnAutoCancel

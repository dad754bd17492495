import VendorDashboard.Framework.Transaction
import VendorDashboard.Shopify.RefundMonetaryEvidence

/-!
# The full-refund terminal decision

`verifyAllocationFullRefundTerminal` decides whether everything that an allocation owns was
refunded, from the order and its refunds as Shopify has them now.  It walks over the lines of the
order, of the allocation, of the refunds and of the fulfillment orders and stops at the first check
that fails; the refusals are the errors here.
-/

namespace VendorDashboard.Orders

open Shopify Table Text Transaction

/-! ## What is compared -/

structure RelatedOrderLine where
  id : String
  sourceLineItemId : String
  deriving DecidableEq

structure TerminalAllocationLine where
  id : String
  shopifyLineItemId : String
  quantity : ℚ
  shopifyOrderLineItem : Option RelatedOrderLine
  deriving DecidableEq

structure TerminalAllocation where
  /-- The identifier that Shopify has for the order, when the allocation has an order. -/
  orderSourceShopifyOrderId : Option String
  lineItems : List TerminalAllocationLine
  deriving DecidableEq

structure CanonicalOrderLine where
  lineItemGid : String
  sourceLineItemId : String
  deriving DecidableEq

structure CanonicalFulfillmentLine where
  id : String
  lineItemId : Option String
  remainingQuantity : Option ℚ
  deriving DecidableEq

structure CanonicalFulfillmentOrder where
  id : String
  status : Option String
  lineItems : List CanonicalFulfillmentLine
  deriving DecidableEq

structure CanonicalOrderSnapshot where
  orderGid : String
  sourceShopifyOrderId : String
  lineItems : List CanonicalOrderLine
  fulfillmentOrders : List CanonicalFulfillmentOrder
  deriving DecidableEq

structure CanonicalCompleteness where
  orderLineItemsComplete : Bool
  fulfillmentOrderPaginationComplete : Bool
  fulfillmentOrderLineItemPaginationComplete : Bool
  deriving DecidableEq

structure TerminalInput where
  allocation : TerminalAllocation
  orderSnapshot : CanonicalOrderSnapshot
  refundCollection : RefundCollection
  completeness : CanonicalCompleteness
  deriving DecidableEq

/-! ## The answers -/

inductive IndeterminateReason
  | canonicalShopifyOrderIdentityMissing | canonicalOrderLineItemsIncomplete
  | canonicalFulfillmentCollectionsIncomplete | canonicalRefundsListIncomplete
  | canonicalOrderIdentityMismatch | allocationLineItemsMissing
  | canonicalOrderLineIdentityMissing | allocationLineIdentityMissingOrAmbiguous
  | allocationOwnedQuantityInvalid | canonicalOrderLineIdentityMissingOrAmbiguous
  | allocationLineOwnershipAmbiguous | canonicalRefundIdentityMissingOrAmbiguous
  | canonicalRefundLineItemsIncomplete | canonicalRefundTransactionsIncomplete
  | canonicalRefundTransactionIdentityOrStateUnknown | canonicalRefundLineIdentityMissing
  | canonicalRefundLineIdentityAmbiguous | canonicalRefundLineQuantityInvalid
  | canonicalMonetaryEvidence (reasonCode : RefundMonetaryEvidenceReasonCode)
  | canonicalRefundIdentityAmbiguous | canonicalFulfillmentLineIdentityMissing
  | canonicalFulfillmentOrderStatusUnknown | canonicalOpenFulfillmentRemainingQuantityUnknown
  | canonicalRefundSuccessTransactionMissing | canonicalRefundQuantityExceedsOwnedQuantity
  deriving DecidableEq

inductive ShortfallReason
  | refundQuantityBelowOwnedQuantity | openFulfillmentRemainingQuantityPositive
  deriving DecidableEq

inductive TerminalRefusal
  | indeterminate (reasonCode : IndeterminateReason)
  | doesNotQualify (reasonCode : ShortfallReason)
  deriving DecidableEq

structure SupportingRefundLine where
  shopifyRefundLineItemGid : String
  refundedQuantity : ℚ
  deriving DecidableEq

/-- A refund that supports a line.  All transactions listed are successful refunds. -/
structure SupportingRefund where
  shopifyRefundGid : String
  refundLineItems : List SupportingRefundLine
  transactions : List String
  deriving DecidableEq

structure OpenFulfillmentLine where
  shopifyFulfillmentOrderGid : String
  shopifyFulfillmentOrderLineItemGid : String
  remainingQuantity : Option ℚ
  deriving DecidableEq

structure TerminalEvidenceLine where
  vendorAllocationLineItemId : String
  shopifyLineItemGid : String
  ownedQuantity : ℚ
  successfullyRefundedQuantity : ℚ
  remainingFulfillableQuantity : ℚ
  refunds : List SupportingRefund
  fulfillmentOrderLines : List OpenFulfillmentLine
  deriving DecidableEq

/-- The answer `QUALIFIES`. -/
structure TerminalQualification where
  shopifyOrderGid : String
  lines : List TerminalEvidenceLine
  deriving DecidableEq

/-! ## Reading identifiers -/

def SUPPORTED_FULFILLMENT_ORDER_STATUSES : List String :=
  ["OPEN", "CLOSED", "CANCELLED", "CANCELED", "INCOMPLETE"]

def SUPPORTED_REFUND_TRANSACTION_KINDS : List String := ["REFUND", "VOID"]

def SUPPORTED_REFUND_TRANSACTION_STATUSES : List String :=
  ["SUCCESS", "PENDING", "FAILURE", "ERROR", "AWAITING_RESPONSE"]

def normalizeRequired (value : Option String) : Option String :=
  let normalized := (value.map trim).getD ""
  if normalized = "" then none else some normalized

variable (toUpperCase : String → String)

def normalizeStatus (value : Option String) : Option String :=
  (normalizeRequired value).map toUpperCase

def isPositiveInteger (value : ℚ) : Prop := value.den = 1 ∧ 0 < value

def isNonNegativeInteger (value : Option ℚ) : Prop := ∃ q, value = some q ∧ q.den = 1 ∧ 0 ≤ q

instance (value : ℚ) : Decidable (isPositiveInteger value) := inferInstanceAs (Decidable (_ ∧ _))

instance (value : Option ℚ) : Decidable (isNonNegativeInteger value) :=
  match value with
  | none => isFalse fun ⟨_, h, _⟩ => by cases h
  | some q => decidable_of_iff (q.den = 1 ∧ 0 ≤ q)
      ⟨fun h => ⟨q, rfl, h⟩, fun ⟨_, hq, h⟩ => Option.some.inj hq ▸ h⟩

/-! ## The lines of the order -/

structure CanonicalIndex where
  canonicalLineGids : List String
  /-- The lines under their source identifiers, in their order. -/
  canonicalBySourceId : List (String × CanonicalOrderLine)

def indexCanonicalLine (st : CanonicalIndex) (canonicalLine : CanonicalOrderLine) :
    Except TerminalRefusal CanonicalIndex := do
  let missing := TerminalRefusal.indeterminate .canonicalOrderLineIdentityMissing
  let sourceLineItemId ← getOrThrow (normalizeRequired (some canonicalLine.sourceLineItemId)) missing
  let lineItemGid ← getOrThrow (normalizeRequired (some canonicalLine.lineItemGid)) missing
  require (lastSegment lineItemGid = sourceLineItemId) missing
  require (lineItemGid ∉ st.canonicalLineGids) missing
  pure {
    canonicalLineGids := st.canonicalLineGids ++ [lineItemGid]
    canonicalBySourceId := st.canonicalBySourceId ++ [(sourceLineItemId, canonicalLine)] }

/-- The line of a source identifier, when there is exactly one. -/
def onlyMatch (canonicalBySourceId : List (String × CanonicalOrderLine))
    (sourceLineItemId : String) : Option CanonicalOrderLine :=
  match canonicalBySourceId.filter fun entry => entry.1 = sourceLineItemId with
  | [entry] => some entry.2
  | _ => none

/-! ## The lines of the allocation -/

structure ResolvedLines where
  resolvedAllocationLines : List (TerminalAllocationLine × CanonicalOrderLine)
  claimedCanonicalGids : List String
  allocationLineIds : List String

def resolveAllocationLine (canonicalBySourceId : List (String × CanonicalOrderLine))
    (st : ResolvedLines) (allocationLine : TerminalAllocationLine) :
    Except TerminalRefusal ResolvedLines := do
  let missing := TerminalRefusal.indeterminate .allocationLineIdentityMissingOrAmbiguous
  let allocationLineId ← getOrThrow (normalizeRequired (some allocationLine.id)) missing
  require (allocationLineId ∉ st.allocationLineIds) missing
  let localShopifyLineItemId ←
    getOrThrow (normalizeRequired (some allocationLine.shopifyLineItemId)) missing
  require (some localShopifyLineItemId =
    normalizeRequired (allocationLine.shopifyOrderLineItem.map (·.id))) missing
  let sourceLineItemId ← getOrThrow
    (normalizeRequired (allocationLine.shopifyOrderLineItem.map (·.sourceLineItemId))) missing
  require (isPositiveInteger allocationLine.quantity)
    (.indeterminate .allocationOwnedQuantityInvalid)
  let canonicalLine ← getOrThrow (onlyMatch canonicalBySourceId sourceLineItemId)
    (.indeterminate .canonicalOrderLineIdentityMissingOrAmbiguous)
  require (canonicalLine.lineItemGid ∉ st.claimedCanonicalGids)
    (.indeterminate .allocationLineOwnershipAmbiguous)
  pure {
    resolvedAllocationLines := st.resolvedAllocationLines ++ [(allocationLine, canonicalLine)]
    claimedCanonicalGids := st.claimedCanonicalGids ++ [canonicalLine.lineItemGid]
    allocationLineIds := st.allocationLineIds ++ [allocationLineId] }

/-! ## The refunds -/

def checkRefundTransaction (transaction : Shopify.RefundTransaction) :
    Except TerminalRefusal PUnit := do
  let unknown := TerminalRefusal.indeterminate .canonicalRefundTransactionIdentityOrStateUnknown
  let _ ← getOrThrow (normalizeRequired (some transaction.transactionGid)) unknown
  let kind ← getOrThrow (normalizeStatus toUpperCase transaction.kind) unknown
  let status ← getOrThrow (normalizeStatus toUpperCase transaction.status) unknown
  require (kind ∈ SUPPORTED_REFUND_TRANSACTION_KINDS ∧
    status ∈ SUPPORTED_REFUND_TRANSACTION_STATUSES) unknown

def checkRefundLine (seenRefundLineItemGids : List String) (refundLine : RefundLineItem) :
    Except TerminalRefusal (List String) := do
  let missing := TerminalRefusal.indeterminate .canonicalRefundLineIdentityMissing
  let refundLineItemGid ← getOrThrow (normalizeRequired (some refundLine.refundLineItemGid)) missing
  let lineItemGid ← getOrThrow (normalizeRequired refundLine.lineItemGid) missing
  let sourceLineItemId ← getOrThrow (normalizeRequired refundLine.sourceLineItemId) missing
  require (lastSegment lineItemGid = sourceLineItemId) missing
  require (refundLineItemGid ∉ seenRefundLineItemGids)
    (.indeterminate .canonicalRefundLineIdentityAmbiguous)
  require (isPositiveInteger refundLine.quantity)
    (.indeterminate .canonicalRefundLineQuantityInvalid)
  pure (seenRefundLineItemGids ++ [refundLineItemGid])

def checkRefund (seenRefundLineItemGids : List String) (refund : RefundSnapshot) :
    Except TerminalRefusal (List String) := do
  let missing := TerminalRefusal.indeterminate .canonicalRefundIdentityMissingOrAmbiguous
  let refundGid ← getOrThrow (normalizeRequired (some refund.refundGid)) missing
  let sourceShopifyRefundId ←
    getOrThrow (normalizeRequired (some refund.sourceShopifyRefundId)) missing
  require (lastSegment refundGid = sourceShopifyRefundId) missing
  require (refund.lineItemPaginationComplete = true)
    (.indeterminate .canonicalRefundLineItemsIncomplete)
  require (refund.transactionPaginationComplete = true)
    (.indeterminate .canonicalRefundTransactionsIncomplete)
  refund.transactions.forM (checkRefundTransaction toUpperCase)
  refund.refundLineItems.foldlM checkRefundLine seenRefundLineItemGids

/-! ## The fulfillment orders -/

def checkFulfillmentLine (claimedCanonicalGids : List String)
    (fulfillmentOrder : CanonicalFulfillmentOrder) (fulfillmentLine : CanonicalFulfillmentLine) :
    Except TerminalRefusal PUnit := do
  let missing := TerminalRefusal.indeterminate .canonicalFulfillmentLineIdentityMissing
  let unknown := TerminalRefusal.indeterminate .canonicalFulfillmentOrderStatusUnknown
  let _ ← getOrThrow (normalizeRequired (some fulfillmentLine.id)) missing
  let lineItemId ← getOrThrow (normalizeRequired fulfillmentLine.lineItemId) missing
  if lineItemId ∈ claimedCanonicalGids then do
    let _ ← getOrThrow (normalizeRequired (some fulfillmentOrder.id)) unknown
    let status ← getOrThrow (normalizeStatus toUpperCase fulfillmentOrder.status) unknown
    require (status ∈ SUPPORTED_FULFILLMENT_ORDER_STATUSES) unknown
    require (status = "OPEN" → isNonNegativeInteger fulfillmentLine.remainingQuantity)
      (.indeterminate .canonicalOpenFulfillmentRemainingQuantityUnknown)
  else pure ()

def checkFulfillmentOrder (claimedCanonicalGids : List String)
    (fulfillmentOrder : CanonicalFulfillmentOrder) : Except TerminalRefusal PUnit :=
  fulfillmentOrder.lineItems.forM
    (checkFulfillmentLine toUpperCase claimedCanonicalGids fulfillmentOrder)

/-! ## The evidence of a line -/

/-- `Map.set` of a successful refund under its identifier. -/
def collectSuccessfulTransaction (successfulTransactions : List String)
    (transaction : Shopify.RefundTransaction) : Except TerminalRefusal (List String) := do
  let unknown := TerminalRefusal.indeterminate .canonicalRefundTransactionIdentityOrStateUnknown
  let transactionGid ← getOrThrow (normalizeRequired (some transaction.transactionGid)) unknown
  let kind ← getOrThrow (normalizeStatus toUpperCase transaction.kind) unknown
  let status ← getOrThrow (normalizeStatus toUpperCase transaction.status) unknown
  pure <| if kind = "REFUND" ∧ status = "SUCCESS" ∧ transactionGid ∉ successfulTransactions then
    successfulTransactions ++ [transactionGid] else successfulTransactions

structure SupportedQuantity where
  supportingRefunds : List SupportingRefund
  successfullyRefundedQuantity : ℚ

/-- The lines of a refund that are for a line of the order. -/
def matchingRefundLines (canonicalLine : CanonicalOrderLine) (refund : RefundSnapshot) :
    List RefundLineItem :=
  refund.refundLineItems.filter fun refundLine =>
    refundLine.lineItemGid = some canonicalLine.lineItemGid

def IsVerifiedRefund (item : RefundItemMonetaryEvidence) : Prop :=
  item.classification = .monetaryRefund ∧ item.reasonCode = .monetaryRefundVerified

instance (item : RefundItemMonetaryEvidence) :
    Decidable (IsVerifiedRefund item) :=
  inferInstanceAs (Decidable (_ ∧ _))

def supportRefund (monetaryEvidence : RefundMonetaryEvidence) (canonicalLine : CanonicalOrderLine)
    (st : SupportedQuantity) (refund : RefundSnapshot) :
    Except TerminalRefusal SupportedQuantity :=
  if matchingRefundLines canonicalLine refund = [] then pure st
  else match findRow (·.sourceShopifyRefundId) refund.sourceShopifyRefundId
      monetaryEvidence.refunds with
    | none => pure st
    | some itemMonetaryEvidence =>
        if IsVerifiedRefund itemMonetaryEvidence then do
          let successfulTransactions ←
            refund.transactions.foldlM (collectSuccessfulTransaction toUpperCase) []
          require (successfulTransactions ≠ [])
            (.indeterminate .canonicalRefundSuccessTransactionMissing)
          let refundLineItems := (matchingRefundLines canonicalLine refund).map fun refundLine =>
            SupportingRefundLine.mk refundLine.refundLineItemGid refundLine.quantity
          pure {
            supportingRefunds := st.supportingRefunds ++
              [⟨refund.refundGid, refundLineItems, successfulTransactions⟩]
            successfullyRefundedQuantity := st.successfullyRefundedQuantity +
              (refundLineItems.map (·.refundedQuantity)).sum }
        else pure st

/-- The lines on open fulfillment orders. -/
def openFulfillmentLines (fulfillmentOrders : List CanonicalFulfillmentOrder)
    (canonicalLine : CanonicalOrderLine) : List OpenFulfillmentLine :=
  fulfillmentOrders.flatMap fun fulfillmentOrder =>
    if normalizeStatus toUpperCase fulfillmentOrder.status = some "OPEN" then
      (fulfillmentOrder.lineItems.filter fun fulfillmentLine =>
        fulfillmentLine.lineItemId = some canonicalLine.lineItemGid).map fun fulfillmentLine =>
          ⟨fulfillmentOrder.id, fulfillmentLine.id, fulfillmentLine.remainingQuantity⟩
    else []

def remainingQuantity (lines : List OpenFulfillmentLine) : ℚ :=
  (lines.map fun line => line.remainingQuantity.getD 0).sum

def verifyLine (input : TerminalInput) (monetaryEvidence : RefundMonetaryEvidence)
    (evidenceLines : List TerminalEvidenceLine)
    (resolved : TerminalAllocationLine × CanonicalOrderLine) :
    Except TerminalRefusal (List TerminalEvidenceLine) := do
  let supported ← input.refundCollection.refunds.foldlM
    (supportRefund toUpperCase monetaryEvidence resolved.2) ⟨[], 0⟩
  require (¬ resolved.1.quantity < supported.successfullyRefundedQuantity)
    (.indeterminate .canonicalRefundQuantityExceedsOwnedQuantity)
  require (¬ supported.successfullyRefundedQuantity < resolved.1.quantity)
    (.doesNotQualify .refundQuantityBelowOwnedQuantity)
  let fulfillmentOrderLines :=
    openFulfillmentLines toUpperCase input.orderSnapshot.fulfillmentOrders resolved.2
  require (¬ 0 < remainingQuantity fulfillmentOrderLines)
    (.doesNotQualify .openFulfillmentRemainingQuantityPositive)
  pure (evidenceLines ++ [{
    vendorAllocationLineItemId := resolved.1.id
    shopifyLineItemGid := resolved.2.lineItemGid
    ownedQuantity := resolved.1.quantity
    successfullyRefundedQuantity := supported.successfullyRefundedQuantity
    remainingFulfillableQuantity := remainingQuantity fulfillmentOrderLines
    refunds := supported.supportingRefunds
    fulfillmentOrderLines }])

/-! ## The decision -/

def verifyAllocationFullRefundTerminal (input : TerminalInput) :
    Except TerminalRefusal TerminalQualification := do
  let canonicalShopifyOrderId ←
    getOrThrow (normalizeRequired input.allocation.orderSourceShopifyOrderId)
      (.indeterminate .canonicalShopifyOrderIdentityMissing)
  require (input.completeness.orderLineItemsComplete = true)
    (.indeterminate .canonicalOrderLineItemsIncomplete)
  require (input.completeness.fulfillmentOrderPaginationComplete = true ∧
      input.completeness.fulfillmentOrderLineItemPaginationComplete = true)
    (.indeterminate .canonicalFulfillmentCollectionsIncomplete)
  require (input.refundCollection.refundsListComplete = true)
    (.indeterminate .canonicalRefundsListIncomplete)
  require (canonicalShopifyOrderId = input.orderSnapshot.sourceShopifyOrderId ∧
      input.refundCollection.sourceShopifyOrderId = input.orderSnapshot.sourceShopifyOrderId ∧
      input.refundCollection.orderGid = input.orderSnapshot.orderGid)
    (.indeterminate .canonicalOrderIdentityMismatch)
  require (input.allocation.lineItems ≠ []) (.indeterminate .allocationLineItemsMissing)
  let index ← input.orderSnapshot.lineItems.foldlM indexCanonicalLine ⟨[], []⟩
  let resolved ← input.allocation.lineItems.foldlM
    (resolveAllocationLine index.canonicalBySourceId) ⟨[], [], []⟩
  let _ ← input.refundCollection.refunds.foldlM (checkRefund toUpperCase) []
  require (input.refundCollection.refunds ≠ [])
    (.doesNotQualify .refundQuantityBelowOwnedQuantity)
  let monetaryEvidence :=
    Shopify.classifyCanonicalRefundMonetaryEvidence toUpperCase input.refundCollection
  require (monetaryEvidence.classification ≠ .zeroValueVoid)
    (.doesNotQualify .refundQuantityBelowOwnedQuantity)
  require (monetaryEvidence.classification = .monetaryRefund ∧
      monetaryEvidence.reasonCode = .monetaryRefundVerified)
    (.indeterminate (.canonicalMonetaryEvidence monetaryEvidence.reasonCode))
  require (KeyUnique (·.sourceShopifyRefundId) monetaryEvidence.refunds)
    (.indeterminate .canonicalRefundIdentityAmbiguous)
  input.orderSnapshot.fulfillmentOrders.forM
    (checkFulfillmentOrder toUpperCase resolved.claimedCanonicalGids)
  let lines ← resolved.resolvedAllocationLines.foldlM
    (verifyLine toUpperCase input monetaryEvidence) []
  pure ⟨input.orderSnapshot.orderGid, lines⟩

end VendorDashboard.Orders

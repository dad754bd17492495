import VendorDashboard.Orders.CancellationRequest

/-!
# Outbound refund attempts and the shipping claim

An attempt is one logical refund request to Shopify; its identifier is the idempotency key of
every submission made for it.  The services here write attempts (preview, execution, failure,
submission) and the claim by which one attempt owns the checkout shipping of an order.

Creating a preview or an execution attempt looks for the allocation's latest preview and then
writes it or a new row, in two statements without a transaction; the read and the write are
separate definitions.
-/

namespace VendorDashboard.Orders

open Finance (Id Instant)
open Table Transaction

/-- The first row in descending order of a time stamp. -/
def latestBy {α : Type} (time : α → Instant) : List α → Option α
  | [] => none
  | a :: l =>
      match latestBy time l with
      | some b => if time a < time b then some b else some a
      | none => some a

lemma mem_of_latestBy {α : Type} {time : α → Instant} {l : List α} {a : α}
    (h : latestBy time l = some a) : a ∈ l := by
  induction l generalizing a with
  | nil => simp [latestBy] at h
  | cons x l ih =>
      simp only [latestBy] at h
      cases hl : latestBy time l with
      | none =>
          rw [hl] at h
          simp only [Option.some.injEq] at h
          exact h ▸ List.mem_cons_self
      | some b =>
          rw [hl] at h
          simp only at h
          split at h
          · exact List.mem_cons_of_mem _ (ih (hl.trans h))
          · exact (Option.some.inj h) ▸ List.mem_cons_self

lemma latestBy_eq_none {α : Type} {time : α → Instant} {l : List α} :
    latestBy time l = none ↔ l = [] := by
  cases l with
  | nil => simp [latestBy]
  | cons x l =>
      unfold latestBy
      split
      · split <;> simp
      · simp

structure CreatePreviewAttemptInput where
  vendorAllocationId : Id
  shopifyOrderId : Id
  refundShipping : Bool
  refundLineItems : List SubmittedRefundLine

namespace CancellationDb

variable (db : CancellationDb)

def updateAttempt (id : Id)
    (f : OutboundShopifyRefundAttempt → OutboundShopifyRefundAttempt) : CancellationDb :=
  { db with
    outboundShopifyRefundAttempt :=
      updateWhere (fun a => decide (a.id = id)) f db.outboundShopifyRefundAttempt }

/-- Insert an attempt; an item has at most one. -/
def insertAttempt (attempt : OutboundShopifyRefundAttempt) : Except String CancellationDb := do
  require ((attempt.customerCancellationRequestItemId.any fun i => (db.attemptOf i).isSome) = false)
    UNIQUE_CONSTRAINT_FAILED
  let attempts ← insertRows OutboundShopifyRefundAttempt.id db.outboundShopifyRefundAttempt
    [attempt] UNIQUE_CONSTRAINT_FAILED
  pure { db with outboundShopifyRefundAttempt := attempts }

/-! ## Previews and executions -/

/-- The preview that a new preview or execution of the allocation reuses. -/
def existingPreview (vendorAllocationId : Id) : Option OutboundShopifyRefundAttempt :=
  latestBy OutboundShopifyRefundAttempt.requestedAt (db.outboundShopifyRefundAttempt.filter fun a =>
    decide (a.vendorAllocationId = vendorAllocationId) && decide (a.status = .previewed))

def findActiveOutboundShopifyRefundAttemptForAllocation (vendorAllocationId : Id) :
    Option OutboundShopifyRefundAttempt :=
  latestBy OutboundShopifyRefundAttempt.requestedAt (db.outboundShopifyRefundAttempt.filter fun a =>
    decide (a.vendorAllocationId = vendorAllocationId) &&
      (decide (a.status = .readyToSubmit) || decide (a.status = .shopifyActionPending)))

/-- The row that a preview or execution without a previous preview inserts. -/
def newAttempt (id : Id) (input : CreatePreviewAttemptInput) (status : RefundAttemptStatus)
    (now : Instant) : OutboundShopifyRefundAttempt where
  id := id
  vendorAllocationId := input.vendorAllocationId
  shopifyOrderId := input.shopifyOrderId
  customerCancellationRequestItemId := none
  status := status
  refundShipping := input.refundShipping
  shopifyRefundId := none
  requestedAt := now
  refundLineItemsJson := input.refundLineItems
  postRefundFulfillmentCheck := none
  orderCancelJobId := none

/-- The write of `createPreviewOutboundShopifyRefundAttempt`. -/
def writePreview (existing : Option Id) (input : CreatePreviewAttemptInput) (newId : Id)
    (now : Instant) : Except String CancellationDb :=
  match existing with
  | some id =>
      .ok (db.updateAttempt id fun a =>
        { a with
          shopifyOrderId := input.shopifyOrderId
          status := .previewed
          refundShipping := input.refundShipping
          requestedAt := now
          refundLineItemsJson := input.refundLineItems })
  | none => db.insertAttempt (newAttempt newId input .previewed now)

/-- The write of `createOrLockOutboundShopifyRefundExecutionAttempt`. -/
def writeExecution (existing : Option Id) (input : CreatePreviewAttemptInput) (newId : Id)
    (now : Instant) : Except String CancellationDb :=
  match existing with
  | some id =>
      .ok (db.updateAttempt id fun a =>
        { a with
          shopifyOrderId := input.shopifyOrderId
          status := .readyToSubmit
          refundShipping := input.refundShipping
          shopifyRefundId := none
          requestedAt := now
          refundLineItemsJson := input.refundLineItems })
  | none => db.insertAttempt (newAttempt newId input .readyToSubmit now)

/-- `response` says whether the call passes a mutation response, which replaces the stored
one. -/
def markOutboundShopifyRefundAttemptFailed (attemptId : Id) (response : Bool) : CancellationDb :=
  db.updateAttempt attemptId fun a =>
    { a with
      status := .failed
      postRefundFulfillmentCheck := if response then none else a.postRefundFulfillmentCheck
      orderCancelJobId := if response then none else a.orderCancelJobId }

def markOutboundShopifyRefundAttemptSubmitted (attemptId : Id) (shopifyRefundId : Option Id)
    (postRefundFulfillmentCheck : Option String) : CancellationDb :=
  db.updateAttempt attemptId fun a =>
    { a with
      status := .shopifyActionPending
      shopifyRefundId := shopifyRefundId
      postRefundFulfillmentCheck := postRefundFulfillmentCheck
      orderCancelJobId := none }

/-! ## The shipping claim -/

inductive ClaimAcquisition
  | acquired | sameOwner | ownedByAnotherAttempt | ownerTerminal
  deriving DecidableEq

/-- What an attempt learns from a claim of its own. -/
def ownClaimOutcome (claim : OrderShippingRefundClaim) (shopifyOrderId : Id) : ClaimAcquisition :=
  if claim.status = .active ∧ claim.activeOrderKey = some shopifyOrderId then .sameOwner
  else .ownerTerminal

/-- The reads of `acquireOrderShippingRefundClaim`; `none` goes on to create a claim. -/
def checkShippingClaim (shopifyOrderId attemptId : Id) : Except String (Option ClaimAcquisition) := do
  let attempt ← getOrThrow ((db.findAttempt attemptId).filter fun a =>
      decide (a.shopifyOrderId = shopifyOrderId))
    "Refund attempt does not belong to the requested Shopify order."
  require (attempt.status = .readyToSubmit ∨ attempt.status = .shopifyActionPending)
    "Refund attempt must be nonterminal before acquiring shipping ownership."
  match findRow OrderShippingRefundClaim.ownerAttemptId attemptId db.orderShippingRefundClaim with
  | none => pure none
  | some ownerClaim =>
      require (ownerClaim.shopifyOrderId = shopifyOrderId)
        "Refund attempt shipping ownership belongs to another Shopify order."
      pure (some (ownClaimOutcome ownerClaim shopifyOrderId))

/-- The claim that keeps a new one from being created. -/
def conflictingClaim (shopifyOrderId attemptId : Id) : Option OrderShippingRefundClaim :=
  latestBy OrderShippingRefundClaim.acquiredAt (db.orderShippingRefundClaim.filter fun c =>
    decide (c.activeOrderKey = some shopifyOrderId) || decide (c.ownerAttemptId = attemptId))

/-- The insert of `acquireOrderShippingRefundClaim`, and what it makes of a unique violation. -/
def createShippingClaim (shopifyOrderId attemptId claimId : Id) (now : Instant) :
    Except String (CancellationDb × ClaimAcquisition) :=
  match db.conflictingClaim shopifyOrderId attemptId with
  | some claim =>
      .ok (db, if claim.ownerAttemptId = attemptId then ownClaimOutcome claim shopifyOrderId
        else .ownedByAnotherAttempt)
  | none => do
      let claims ← insertRows OrderShippingRefundClaim.id db.orderShippingRefundClaim
        [{ id := claimId
           shopifyOrderId := shopifyOrderId
           ownerAttemptId := attemptId
           activeOrderKey := some shopifyOrderId
           status := .active
           acquiredAt := now }] UNIQUE_CONSTRAINT_FAILED
      pure ({ db with orderShippingRefundClaim := claims }, .acquired)

/-- Release the active claims of the allocation's resolved attempts. -/
def releaseResolvedOrderShippingRefundClaimsForAllocation (vendorAllocationId : Id) :
    CancellationDb :=
  { db with
    orderShippingRefundClaim :=
      updateWhere (fun c => decide (c.status = .active) && c.activeOrderKey.isSome &&
          (db.findAttempt c.ownerAttemptId).any fun a =>
            decide (a.vendorAllocationId = vendorAllocationId) && decide (a.status = .resolved))
        (fun c => { c with status := .released, activeOrderKey := none })
        db.orderShippingRefundClaim }

end CancellationDb

end VendorDashboard.Orders

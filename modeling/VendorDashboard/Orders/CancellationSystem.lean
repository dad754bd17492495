import VendorDashboard.Framework.Run
import VendorDashboard.Orders.AutoRefund
import VendorDashboard.Orders.OrderCancel
import VendorDashboard.Orders.RefundReconciliation
import VendorDashboard.Orders.ShopifyStore
import Mathlib.Logic.Function.Basic

/-!
# The cancellation system

The services of `Orders`, the refund webhooks and Shopify, running concurrently.  A `World` is
the local tables, Shopify's orders, the refund requests sent so far and the workers.

A worker runs one job: the automatic refund of an item (`JobStep`), or an administrator's
preview or refund of an allocation (`ExecutionStep`).  Between two database transactions or two
calls to Shopify it can be interrupted, so each of them is a step of its own, and the worker's
position holds what it has read so far.  Any number of workers may run the same job; a worker
may stop anywhere, and a new one may start at any time, which covers crashes, expired leases and
retries.

Shopify's answers are inputs of the steps.  They are arbitrary, except that a list of refunds
shows only executed refunds, with their lines, and that the identifier in a refund's response is
the one executed under the request's key.  Shopify executes a request at most once per key, at
any time after it was sent, whether or not the sender still waits.
-/

namespace VendorDashboard.Orders

open Finance (Id Instant CustomerCancellationStatus AllocationStatus)
open Table Transaction Run

/-! ## Workers -/

/-- Where the automatic refund of an item stands. -/
inductive JobStep
  /-- Load the item and, if it is approved, go on to fetch Shopify's refunds; `again` is the
  reconciliation after the submission. -/
  | reconcile (again : Bool)
  /-- Fetch Shopify's refunds for the item as it was loaded. -/
  | fetchEvidence (again : Bool) (attempt : Option OutboundShopifyRefundAttempt)
      (sourceLineItemId : Id) (requestedQuantity : ℕ)
  /-- Commit the reconciliation; the refunds that cover the line are `evidence`. -/
  | commitReconciliation (evidence : List Id)
  | classify
  | approve (context : CustomerCancellationAutoRefundCleanContext)
  | reclassify (attemptId : Id)
  | submit (attemptId : Id) (context : CustomerCancellationAutoRefundCleanContext)
  | awaitRefund (attemptId : Id) (key : ShopifyRefundIdempotencyKey)
  | failSubmission (attemptId : Id)
  | recordSubmission (attemptId : Id) (refundId : Option Id)
  | startOrderCancel
  | readBeforeCancel (existingJobId : Option Id)
  /-- Send the `cancelOrder` mutation. -/
  | sendOrderCancel
  | awaitOrderCancel
  | persistOrderCancel (jobId : Option Id) (userErrors : Bool)
  | pollJob (jobId : Id)
  | persistJob (jobId : Id) (completed : Bool)
  | readAfterCancel (jobId : Id)
  | persistConfirmation (jobId : Id)
  | finalizeApproved

/-- Where an administrator's preview or refund of an allocation stands. -/
inductive ExecutionStep
  | readPreview
  | writePreview (existing : Option Id)
  | readActiveAttempt
  | readLock
  | writeLock (existing : Option Id)
  /-- The checks between locking the attempt and asking for the shipping. -/
  | prepare (attemptId : Id)
  | createClaim (attemptId : Id)
  | submit (attemptId : Id)
  | awaitRefund (attemptId : Id) (key : ShopifyRefundIdempotencyKey)
  | failAttempt (attemptId : Id) (response : Bool)
  | recordSubmission (attemptId : Id) (refundId : Option Id)
  | markReview

inductive Worker
  | job (itemId : Id) (position : JobStep)
  | execution (input : CreatePreviewAttemptInput) (position : ExecutionStep)

structure World where
  db : CancellationDb
  shop : List StoreOrder
  submissions : List CreateShopifyRefundInput
  worker : Id → Option Worker

/-- What a step of a worker finds outside. -/
inductive Reply
  /-- Nothing but the clock and a fresh identifier. -/
  | local (now : Instant) (newId : Id)
  | threw
  | classification (answers : ShopifyAnswers)
  | evidence (refunds : Option CanonicalRefunds) (order : Option OrderSnapshot)
  | refundCreate (refundId : Option Id) (userErrors : Bool)
  | orderSnapshot (order : Option OrderSnapshot)
  | orderCancel (jobId : Option Id) (userErrors : Bool)
  | jobStatus (done : Bool)
  /-- A check of the execution fails the attempt. -/
  | executionFails (response : Bool)
  | claimShipping
  | noShipping
  | send (refundLineItems : List (Id × ℕ)) (shipping : Option ℤ)
  | submitted (refundId : Option Id) (postRefundFulfillmentCheck : Option String)

inductive Action
  | recordOrder (order : ShopifyOrder) (allocations : List VendorAllocation)
      (lines : List VendorAllocationLineItem) (shopOrder : StoreOrder)
  | updateAllocation (allocation : VendorAllocation)
  | merchantRefund (sourceShopifyOrderId : Id) (refund : StoreRefund)
  | cancelShopifyOrder (sourceShopifyOrderId : Id)
  | executeSubmission (submission : CreateShopifyRefundInput) (refundId : Id) (amountMinor : ℕ)
  | createRequest (input : CreateVerifiedCustomerCancellationRequestInput) (requestId : Id)
      (itemIds : List Id)
  | approveItem (requestId itemId : Id)
  | ingestRefund (event : RefundEvent) (now : Instant)
  | startJob (worker itemId : Id)
  | startPreview (worker : Id) (input : CreatePreviewAttemptInput)
  | startExecution (worker : Id) (input : CreatePreviewAttemptInput)
  | stop (worker : Id)
  | run (worker : Id) (reply : Reply)

namespace World

variable (w : World)

def init : World := ⟨CancellationDb.empty, [], [], fun _ => none⟩

/-- Every executed refund. -/
def refunds : List StoreRefund := w.shop.flatMap (·.refunds)

def putDb (db : CancellationDb) : World := { w with db := db }

/-- The worker goes on, or has finished. -/
def putWorker (i : Id) (position : Option Worker) : World :=
  { w with worker := Function.update w.worker i position }

/-! ## Shopify -/

/-- The listed refunds are executed refunds, each once and with its lines. -/
def Lists (w : World) (refunds : CanonicalRefunds) : Prop :=
  (refunds.refunds.map (·.sourceShopifyRefundId)).Nodup ∧
    ∀ r ∈ refunds.refunds, ∃ s ∈ w.refunds,
      s.id = r.sourceShopifyRefundId ∧ s.lines = r.refundLineItems

instance (refunds : CanonicalRefunds) : Decidable (w.Lists refunds) :=
  inferInstanceAs (Decidable (_ ∧ _))

/-- Shopify executes a refund of an order. -/
def executeRefund (sourceShopifyOrderId : Id) (refund : StoreRefund) : Except String World := do
  require (∀ o ∈ w.shop, o.sourceShopifyOrderId = sourceShopifyOrderId → o.Accepts refund)
    "Refund was not accepted."
  require (∀ x ∈ w.refunds, x.id ≠ refund.id ∧
      (refund.idempotencyKey.isSome → x.idempotencyKey ≠ refund.idempotencyKey))
    "Refund was not accepted."
  pure { w with
    shop := updateWhere (fun o => decide (o.sourceShopifyOrderId = sourceShopifyOrderId))
      (fun o => o.execute refund) w.shop }

def executeSubmission (submission : CreateShopifyRefundInput) (refundId : Id) (amountMinor : ℕ) :
    Except String World := do
  require (submission ∈ w.submissions) "Refund was not requested."
  w.executeRefund submission.orderId
    { id := refundId
      idempotencyKey := some submission.idempotencyKey
      lines := submission.refundLineItems
      shippingMinor := (submission.shipping.getD 0).toNat
      amountMinor := amountMinor }

/-- The refund in a response is the one executed under the key. -/
def RespondsWith (key : ShopifyRefundIdempotencyKey) (refundId : Option Id) : Prop :=
  ∀ r ∈ refundId, ∃ s ∈ w.refunds, s.id = r ∧ s.idempotencyKey = some key

instance (key : ShopifyRefundIdempotencyKey) (refundId : Option Id) :
    Decidable (w.RespondsWith key refundId) :=
  inferInstanceAs (Decidable (∀ r ∈ refundId, _))

/-- A new order with its allocations, as it is known on both sides. -/
def recordOrder (order : ShopifyOrder) (allocations : List VendorAllocation)
    (lines : List VendorAllocationLineItem) (shopOrder : StoreOrder) : Except String World := do
  require (order.sourceShopifyOrderId = shopOrder.sourceShopifyOrderId ∧ shopOrder.refunds = [] ∧
      shopOrder.cancelled = false ∧
      order.lineItems.map (fun l => (l.sourceLineItemId, l.quantity)) =
        shopOrder.lineItems.map fun l => (l.sourceLineItemId, l.quantity))
    "Order does not match Shopify."
  require (((w.db.shopifyOrder ++ [order]).flatMap (·.lineItems)).map
      (·.sourceLineItemId)).Nodup UNIQUE_CONSTRAINT_FAILED
  require (((w.db.shopifyOrder ++ [order]).flatMap (·.lineItems)).map (·.id)).Nodup
    UNIQUE_CONSTRAINT_FAILED
  require ((w.db.shopifyOrder ++ [order]).map (·.sourceShopifyOrderId)).Nodup
    UNIQUE_CONSTRAINT_FAILED
  let orders ← insertRows ShopifyOrder.id w.db.shopifyOrder [order] UNIQUE_CONSTRAINT_FAILED
  require (∀ a ∈ allocations, a.orderId = order.id) "Allocation belongs to another order."
  let allocations ← insertRows VendorAllocation.id w.db.vendorAllocation allocations
    UNIQUE_CONSTRAINT_FAILED
  pure
    { w with
      db :=
        { w.db with
          shopifyOrder := orders
          vendorAllocation := allocations
          vendorAllocationLineItem := w.db.vendorAllocationLineItem ++ lines }
      shop := w.shop ++ [shopOrder] }

/-- The operational state of an allocation changes. -/
def updateAllocation (allocation : VendorAllocation) : World :=
  w.putDb
    { w.db with
      vendorAllocation := updateWhere (fun a => decide (a.id = allocation.id))
        (fun a => { allocation with orderId := a.orderId }) w.db.vendorAllocation }

/-! ## The automatic refund -/

/-- After a reconciliation that did not succeed: classify, or stop when it was the second. -/
def notReconciled (again : Bool) : Option JobStep := if again then none else some .classify

/-- The refunds among `relevant` that cover the line. -/
def coveringRefunds (attempt : Option OutboundShopifyRefundAttempt) (refunds : CanonicalRefunds)
    (sourceLineItemId : Id) : List Id :=
  ((relevantRefunds attempt refunds).filter fun r =>
    decide (0 < exactRefundedQuantity r sourceLineItemId)).map (·.sourceShopifyRefundId)

/-- One step of the automatic refund of an item; the new position is `none` at the end. -/
def runJob (itemId : Id) : JobStep → Reply → Except String (World × Option JobStep)
  | .reconcile again, .local _ _ =>
      match w.db.findItem itemId with
      | none => .ok (w, notReconciled again)
      | some item =>
          if item.status = .refundedAwaitingOrderCancel then .ok (w, some .startOrderCancel)
          else if item.status ≠ .approvedForRefund then .ok (w, notReconciled again)
          else do
            let lineItemId ← getOrThrow (w.db.sourceLineItemIdOf item.shopifyOrderLineItemId)
              "Cancellation item was not found."
            pure (w, some (.fetchEvidence again (w.db.attemptOf itemId) lineItemId
              item.requestedQuantity))
  | .fetchEvidence _ _ _ _, .threw => .ok (w, none)
  | .fetchEvidence again attempt lineItemId requestedQuantity, .evidence refunds order => do
      require (∀ r ∈ refunds, w.Lists r) "Shopify lists executed refunds."
      match refunds, order with
      | some refunds, some order =>
          pure (w, if canonicalRefundsCoverItem attempt lineItemId requestedQuantity refunds order
            then some (.commitReconciliation (coveringRefunds attempt refunds lineItemId))
            else notReconciled again)
      | _, _ => pure (w, notReconciled again)
  | .commitReconciliation _, .local now _ =>
      .ok (w.putDb (w.db.reconcileItem itemId now), some .startOrderCancel)
  | .classify, .classification answers =>
      match w.db.classifyCustomerCancellationAutoRefundEligibility itemId answers with
      | .ok context => .ok (w, some (.approve context))
      | .error _ => .ok (w, none)
  | .approve context, .local now newId =>
      match w.db.approveAndCreateAttempt itemId context newId now with
      | .ok (db, attempt) =>
          .ok (w.putDb db, if attempt.status = .shopifyActionPending then none
            else some (.reclassify attempt.id))
      | .error _ => .ok (w, none)
  | .reclassify attemptId, .classification answers =>
      match w.db.classifyCustomerCancellationAutoRefundEligibility itemId answers with
      | .ok context => .ok (w, some (.submit attemptId context))
      | .error _ => .ok (w, none)
  | .submit attemptId context, .local _ _ =>
      let submission := buildCustomerCancellationRefundSubmission attemptId context
      if submission.1 ≠ [] then .ok (w, none)
      else .ok ({ w with submissions := w.submissions ++ [submission.2] },
        some (.awaitRefund attemptId submission.2.idempotencyKey))
  | .awaitRefund _ _, .threw => .ok (w, none)
  | .awaitRefund attemptId key, .refundCreate refundId userErrors => do
      require (w.RespondsWith key refundId) "Shopify answers with the executed refund."
      pure (w, some (if userErrors then .failSubmission attemptId
        else .recordSubmission attemptId refundId))
  | .failSubmission attemptId, .local _ _ => .ok (w.putDb (w.db.failSubmission attemptId), none)
  | .recordSubmission attemptId refundId, .local _ _ =>
      .ok (w.putDb (w.db.recordSubmission attemptId refundId), some (.reconcile true))
  | .startOrderCancel, .local _ _ =>
      match w.db.startOrderCancel itemId with
      | .proceed existingJobId => .ok (w, some (.readBeforeCancel existingJobId))
      | _ => .ok (w, none)
  | .readBeforeCancel existingJobId, .orderSnapshot order =>
      match order with
      | none => .ok (w, none)
      | some order =>
          if order.cancelled then .ok (w, some .finalizeApproved)
          else match existingJobId with
            | some jobId => .ok (w, some (.pollJob jobId))
            | none => .ok (w, some .sendOrderCancel)
  | .readBeforeCancel _, .threw => .ok (w, none)
  | .sendOrderCancel, .local _ _ => .ok (w, some .awaitOrderCancel)
  | .awaitOrderCancel, .threw => .ok (w, none)
  | .awaitOrderCancel, .orderCancel jobId userErrors =>
      .ok (w, some (.persistOrderCancel jobId userErrors))
  | .persistOrderCancel jobId userErrors, .local _ _ =>
      .ok (w.putDb (w.db.persistOrderCancelEvidence itemId jobId),
        if userErrors then none else jobId.map .pollJob)
  | .pollJob jobId, .threw => .ok (w, some (.persistJob jobId false))
  | .pollJob jobId, .jobStatus done => .ok (w, some (.persistJob jobId done))
  | .persistJob jobId completed, .local _ _ =>
      .ok (w.putDb (w.db.persistOrderCancelEvidence itemId (some jobId)),
        if completed then some (.readAfterCancel jobId) else none)
  | .readAfterCancel _, .threw => .ok (w, none)
  | .readAfterCancel jobId, .orderSnapshot order =>
      .ok (w, if order.any (·.cancelled) then some (.persistConfirmation jobId) else none)
  | .persistConfirmation jobId, .local _ _ =>
      .ok (w.putDb (w.db.persistOrderCancelEvidence itemId (some jobId)), some .finalizeApproved)
  | .finalizeApproved, .local now _ =>
      .ok (w.putDb (w.db.finalizeApproved itemId now), none)
  | _, _ => .error "Unexpected reply."

/-! ## An administrator's refund -/

/-- One step of an administrator's preview or refund of an allocation. -/
def runExecution (input : CreatePreviewAttemptInput) :
    ExecutionStep → Reply → Except String (World × Option ExecutionStep)
  | .readPreview, .local _ _ =>
      .ok (w, some (.writePreview ((w.db.existingPreview input.vendorAllocationId).map (·.id))))
  | .writePreview existing, .local now newId => do
      let db ← w.db.writePreview existing input newId now
      pure (w.putDb db, none)
  | .readActiveAttempt, .local _ _ =>
      match w.db.findActiveOutboundShopifyRefundAttemptForAllocation input.vendorAllocationId with
      | none => .ok (w, some .readLock)
      | some attempt =>
          -- a pending attempt refuses the request, a locked one is taken over
          if attempt.status = .shopifyActionPending then .ok (w, none)
          else .ok (w, some (.prepare attempt.id))
  | .readLock, .local _ _ =>
      .ok (w, some (.writeLock ((w.db.existingPreview input.vendorAllocationId).map (·.id))))
  | .writeLock existing, .local now newId => do
      let db ← w.db.writeExecution existing input newId now
      pure (w.putDb db, some (.prepare (existing.getD newId)))
  | .prepare _, .threw => .ok (w, none)
  | .prepare attemptId, .executionFails response =>
      .ok (w, some (.failAttempt attemptId response))
  | .prepare attemptId, .noShipping => .ok (w, some (.submit attemptId))
  | .prepare attemptId, .claimShipping =>
      match w.db.checkShippingClaim input.shopifyOrderId attemptId with
      | .error _ => .ok (w, none)
      | .ok none => .ok (w, some (.createClaim attemptId))
      | .ok (some .sameOwner) => .ok (w, some (.submit attemptId))
      | .ok (some _) => .ok (w, some (.failAttempt attemptId false))
  | .createClaim attemptId, .local now newId => do
      let (db, outcome) ← w.db.createShippingClaim input.shopifyOrderId attemptId newId now
      pure (w.putDb db, some (match outcome with
        | .acquired | .sameOwner => .submit attemptId
        | _ => .failAttempt attemptId false))
  | .submit _, .threw => .ok (w, none)
  | .submit attemptId, .executionFails response =>
      .ok (w, some (.failAttempt attemptId response))
  | .submit attemptId, .send refundLineItems shipping =>
      let key : ShopifyRefundIdempotencyKey := ⟨input.vendorAllocationId, attemptId⟩
      .ok ({ w with
        submissions := w.submissions ++
          [{ orderId := input.shopifyOrderId
             refundLineItems := refundLineItems
             locationId := none
             transactions := []
             shipping := shipping
             idempotencyKey := key }] }, some (.awaitRefund attemptId key))
  | .awaitRefund _ _, .threw => .ok (w, none)
  | .awaitRefund attemptId key, .refundCreate refundId userErrors => do
      require (w.RespondsWith key refundId) "Shopify answers with the executed refund."
      pure (w, some (if userErrors then .failAttempt attemptId true
        else .recordSubmission attemptId refundId))
  | .failAttempt attemptId response, .local _ _ =>
      .ok (w.putDb (w.db.markOutboundShopifyRefundAttemptFailed attemptId response), none)
  | .recordSubmission attemptId refundId, .submitted _ check =>
      .ok (w.putDb (w.db.markOutboundShopifyRefundAttemptSubmitted attemptId refundId check),
        some .markReview)
  | .markReview, .local _ _ =>
      .ok (w.putDb
        { w.db with
          vendorAllocation := updateWhere (fun a => decide (a.id = input.vendorAllocationId))
            (fun a => { a with cancelRefundReviewStatus := some .shopifyActionPending })
            w.db.vendorAllocation }, none)
  | _, _ => .error "Unexpected reply."

def runWorker (i : Id) (reply : Reply) : Except String World :=
  match w.worker i with
  | none => .error "Worker is not running."
  | some (.job itemId position) => do
      let (w', next) ← w.runJob itemId position reply
      pure (w'.putWorker i (next.map (.job itemId)))
  | some (.execution input position) => do
      let (w', next) ← w.runExecution input position reply
      pure (w'.putWorker i (next.map (.execution input)))

/-- A new worker, on a place that is not in use. -/
def startWorker (i : Id) (worker : Worker) : Except String World := do
  require ((w.worker i).isNone = true) "Worker is running."
  pure (w.putWorker i (some worker))

end World

/-- The transition function. -/
def step : Action → World → Except String World
  | .recordOrder order allocations lines shopOrder, w =>
      w.recordOrder order allocations lines shopOrder
  | .updateAllocation allocation, w => .ok (w.updateAllocation allocation)
  | .merchantRefund orderId refund, w =>
      w.executeRefund orderId { refund with idempotencyKey := none }
  | .cancelShopifyOrder orderId, w =>
      .ok { w with
        shop := updateWhere (fun o => decide (o.sourceShopifyOrderId = orderId))
          (fun o => { o with cancelled := true }) w.shop }
  | .executeSubmission submission refundId amountMinor, w =>
      w.executeSubmission submission refundId amountMinor
  | .createRequest input requestId itemIds, w =>
      w.putDb <$> w.db.createPendingCustomerCancellationRequest input requestId itemIds
  | .approveItem requestId itemId, w =>
      w.putDb <$> w.db.approveCustomerCancellationItemForRefund requestId itemId
  | .ingestRefund event now, w => do
      require (∃ o ∈ w.shop, o.sourceShopifyOrderId = event.sourceShopifyOrderId ∧
          ∃ s ∈ o.refunds, s.id = event.sourceShopifyRefundId ∧ s.lines = event.refundLineItems)
        "Shopify reports executed refunds."
      w.putDb <$> w.db.ingestShopifyRefundWebhook event now
  | .startJob i itemId, w => w.startWorker i (.job itemId (.reconcile false))
  | .startPreview i input, w => w.startWorker i (.execution input .readPreview)
  | .startExecution i input, w => w.startWorker i (.execution input .readActiveAttempt)
  | .stop i, w => .ok (w.putWorker i none)
  | .run i reply, w => w.runWorker i reply

/-- The worlds reachable by actions that all satisfy `ok`. -/
def ReachableWith (ok : World → Action → Prop) : World → Prop :=
  Reachable (fun w => w = World.init) (Commits step ok)

end VendorDashboard.Orders

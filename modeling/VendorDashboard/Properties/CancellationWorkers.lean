import VendorDashboard.Properties.CancellationItems

/-!
# Where the workers are

`WorkerStep` says how the place of one worker can change in a step: not at all, to nothing, to
the start of a job, or to the position after its own step.  An invariant that ties a worker's
position to the tables is proved from it: a step of the worker itself establishes it, and every
other step has to keep it.
-/

namespace VendorDashboard.Orders

open Finance (Id Instant)
open Table Transaction Run

/-- The first position of a job. -/
def Worker.IsStart : Worker → Prop
  | .job _ (.reconcile false) => True
  | .execution _ .readPreview => True
  | .execution _ .readActiveAttempt => True
  | _ => False

inductive WorkerStep (a : Action) (w w' : World) (k : Id) : Prop
  | same (h : w'.worker k = w.worker k)
  | stopped (h : w'.worker k = none)
  | started (worker : Worker) (hstart : worker.IsStart) (h : w'.worker k = some worker)
  | job (itemId : Id) (position : JobStep) (reply : Reply) (next : Option JobStep) (w₁ : World)
      (ha : a = .run k reply) (hworker : w.worker k = some (.job itemId position))
      (hrun : w.runJob itemId position reply = .ok (w₁, next))
      (hw' : w' = w₁.putWorker k (next.map (.job itemId)))
  | execution (input : CreatePreviewAttemptInput) (position : ExecutionStep) (reply : Reply)
      (next : Option ExecutionStep) (w₁ : World) (ha : a = .run k reply)
      (hworker : w.worker k = some (.execution input position))
      (hrun : w.runExecution input position reply = .ok (w₁, next))
      (hw' : w' = w₁.putWorker k (next.map (.execution input)))

namespace World

variable {w w' : World}

@[simp] lemma putWorker_submissions (i : Id) (position : Option Worker) :
    (w.putWorker i position).submissions = w.submissions := rfl

@[simp] lemma putWorker_worker_self (i : Id) (position : Option Worker) :
    (w.putWorker i position).worker i = position := by
  simp [putWorker]

lemma putWorker_worker_of_ne {i k : Id} (h : k ≠ i) (position : Option Worker) :
    (w.putWorker i position).worker k = w.worker k := by
  simp [putWorker, h]

lemma startWorker_workerStep {a : Action} {i : Id} {worker : Worker} (hstart : worker.IsStart)
    (h : w.startWorker i worker = .ok w') (k : Id) : WorkerStep a w w' k := by
  simp only [startWorker, bind_eq_ok, require_eq_ok, pure_eq_ok] at h
  obtain ⟨-, -, rfl⟩ := h
  by_cases hk : k = i
  · exact .started worker hstart (by rw [hk, putWorker_worker_self])
  · exact .same (putWorker_worker_of_ne hk _)

lemma executeRefund_worker {orderId : Id} {refund : StoreRefund}
    (h : w.executeRefund orderId refund = .ok w') : w'.worker = w.worker := by
  simp only [executeRefund, bind_eq_ok, require_eq_ok, pure_eq_ok] at h
  obtain ⟨_, -, _, -, rfl⟩ := h
  rfl

lemma recordOrder_worker {order : ShopifyOrder} {allocations : List VendorAllocation}
    {lines : List VendorAllocationLineItem} {shopOrder : StoreOrder}
    (h : w.recordOrder order allocations lines shopOrder = .ok w') : w'.worker = w.worker := by
  simp only [recordOrder, bind_eq_ok, require_eq_ok, insertRows_eq_ok, pure_eq_ok] at h
  obtain ⟨_, -, _, -, _, -, _, -, _, -, _, -, _, -, rfl⟩ := h
  rfl

lemma putDb_worker {x : Except String CancellationDb} (h : w.putDb <$> x = .ok w') :
    w'.worker = w.worker := by
  cases x with
  | error => cases h
  | ok db =>
      obtain rfl := Except.ok.inj h
      rfl

end World

/-- **What a step does to the place of a worker.** -/
theorem step_workerStep {a : Action} {w w' : World} (h : step a w = .ok w') (k : Id) :
    WorkerStep a w w' k := by
  cases a with
  | recordOrder order allocations lines shopOrder =>
      exact .same (congrFun (World.recordOrder_worker h) k)
  | updateAllocation allocation =>
      obtain rfl := Except.ok.inj h
      exact .same rfl
  | merchantRefund orderId refund => exact .same (congrFun (World.executeRefund_worker h) k)
  | cancelShopifyOrder orderId =>
      obtain rfl := Except.ok.inj h
      exact .same rfl
  | executeSubmission submission refundId amountMinor =>
      simp only [step, World.executeSubmission, bind_eq_ok, require_eq_ok] at h
      obtain ⟨-, -, h⟩ := h
      exact .same (congrFun (World.executeRefund_worker h) k)
  | createRequest input requestId itemIds => exact .same (congrFun (World.putDb_worker h) k)
  | approveItem requestId itemId => exact .same (congrFun (World.putDb_worker h) k)
  | ingestRefund event now =>
      simp only [step, bind_eq_ok, require_eq_ok] at h
      obtain ⟨-, -, h⟩ := h
      exact .same (congrFun (World.putDb_worker h) k)
  | startJob i itemId =>
      refine World.startWorker_workerStep ?_ h k
      trivial
  | startPreview i input =>
      refine World.startWorker_workerStep ?_ h k
      trivial
  | startExecution i input =>
      refine World.startWorker_workerStep ?_ h k
      trivial
  | stop i =>
      obtain rfl := Except.ok.inj h
      by_cases hk : k = i
      · exact .stopped (by rw [hk, World.putWorker_worker_self])
      · exact .same (World.putWorker_worker_of_ne hk _)
  | run i reply =>
      obtain ⟨itemId, position, w₁, next, hworker, hrun, rfl⟩ |
        ⟨input, position, w₁, next, hworker, hrun, rfl⟩ := World.runWorker_ok h
      · by_cases hk : k = i
        · subst hk
          exact .job itemId position reply next w₁ rfl hworker hrun rfl
        · refine .same ?_
          rw [World.putWorker_worker_of_ne hk, (World.runJob_shop hrun).2]
      · by_cases hk : k = i
        · subst hk
          exact .execution input position reply next w₁ rfl hworker hrun rfl
        · refine .same ?_
          rw [World.putWorker_worker_of_ne hk, (World.runExecution_shop hrun).2]

/-! ## The positions of a job -/

/-- After the cancellation of the order was sent, or found done. -/
def JobStep.IsConfirmation : JobStep → Prop
  | .awaitOrderCancel | .persistOrderCancel .. | .pollJob _ | .persistJob .. | .readAfterCancel _
  | .persistConfirmation _ | .finalizeApproved => True
  | _ => False

/-- How a job comes from one position to the next. -/
inductive JobNext (w : World) (itemId : Id) : JobStep → World → JobStep → Prop
  | notReconciled (position : JobStep) : JobNext w itemId position w .classify
  | refunded (again : Bool) : JobNext w itemId (.reconcile again) w .startOrderCancel
  | load (again : Bool) (item : CustomerCancellationRequestItem) (sourceLineItemId : Id)
      (hfind : w.db.findItem itemId = some item) (hstatus : item.status = .approvedForRefund)
      (hline : w.db.sourceLineItemIdOf item.shopifyOrderLineItemId = some sourceLineItemId) :
      JobNext w itemId (.reconcile again) w
        (.fetchEvidence again (w.db.attemptOf itemId) sourceLineItemId item.requestedQuantity)
  | covered (again : Bool) (attempt : Option OutboundShopifyRefundAttempt) (sourceLineItemId : Id)
      (requestedQuantity : ℕ) (refunds : CanonicalRefunds) (order : OrderSnapshot)
      (hlists : w.Lists refunds)
      (hcovers : canonicalRefundsCoverItem attempt sourceLineItemId requestedQuantity refunds order
        = true) :
      JobNext w itemId (.fetchEvidence again attempt sourceLineItemId requestedQuantity) w
        (.commitReconciliation (World.coveringRefunds attempt refunds sourceLineItemId))
  | committed (evidence : List Id) (now : Instant) :
      JobNext w itemId (.commitReconciliation evidence) (w.putDb (w.db.reconcileItem itemId now))
        .startOrderCancel
  | clean (answers : ShopifyAnswers) (context : CustomerCancellationAutoRefundCleanContext)
      (hclean : w.db.classifyCustomerCancellationAutoRefundEligibility itemId answers =
        .ok context) :
      JobNext w itemId .classify w (.approve context)
  | approved (context : CustomerCancellationAutoRefundCleanContext) (newId : Id) (now : Instant)
      (db' : CancellationDb) (attempt : OutboundShopifyRefundAttempt)
      (happrove : w.db.approveAndCreateAttempt itemId context newId now = .ok (db', attempt)) :
      JobNext w itemId (.approve context) (w.putDb db') (.reclassify attempt.id)
  | cleanAgain (attemptId : Id) (answers : ShopifyAnswers)
      (context : CustomerCancellationAutoRefundCleanContext)
      (hclean : w.db.classifyCustomerCancellationAutoRefundEligibility itemId answers =
        .ok context) :
      JobNext w itemId (.reclassify attemptId) w (.submit attemptId context)
  | submitted (attemptId : Id) (context : CustomerCancellationAutoRefundCleanContext) :
      JobNext w itemId (.submit attemptId context)
        { w with
          submissions := w.submissions ++
            [(buildCustomerCancellationRefundSubmission attemptId context).2] }
        (.awaitRefund attemptId
          (buildCustomerCancellationRefundSubmission attemptId context).2.idempotencyKey)
  | refused (attemptId : Id) (key : ShopifyRefundIdempotencyKey) :
      JobNext w itemId (.awaitRefund attemptId key) w (.failSubmission attemptId)
  | responded (attemptId : Id) (key : ShopifyRefundIdempotencyKey) (refundId : Option Id)
      (hresponds : w.RespondsWith key refundId) :
      JobNext w itemId (.awaitRefund attemptId key) w (.recordSubmission attemptId refundId)
  | recorded (attemptId : Id) (refundId : Option Id) :
      JobNext w itemId (.recordSubmission attemptId refundId)
        (w.putDb (w.db.recordSubmission attemptId refundId)) (.reconcile true)
  | proceed (existingJobId : Option Id)
      (hstart : w.db.startOrderCancel itemId = .proceed existingJobId) :
      JobNext w itemId .startOrderCancel w (.readBeforeCancel existingJobId)
  | send : JobNext w itemId (.readBeforeCancel none) w .sendOrderCancel
  | confirm (position : JobStep) (w' : World) (next : JobStep) (h : next.IsConfirmation) :
      JobNext w itemId position w' next

namespace World

variable {w w' : World}

lemma notReconciled_eq_some {again : Bool} {next : JobStep}
    (h : notReconciled again = some next) : next = .classify := by
  cases again
  · exact (Option.some.inj h).symm
  · simp [notReconciled] at h

/-- **The inversion of a job's step.** -/
theorem runJob_next {itemId : Id} {position next : JobStep} {reply : Reply}
    (h : w.runJob itemId position reply = .ok (w', some next)) :
    JobNext w itemId position w' next := by
  revert h
  fun_cases runJob w itemId position reply
  all_goals
    intro h
    simp only [bind_eq_ok, require_eq_ok, getOrThrow_eq_ok, pure_eq_ok, Except.ok.injEq,
      Prod.mk.injEq, reduceCtorEq, and_false] at h
  case case1 =>
    obtain ⟨rfl, h⟩ := h
    exact notReconciled_eq_some h ▸ .notReconciled _
  case case2 =>
    obtain ⟨rfl, ⟨⟩⟩ := h
    exact .refunded _
  case case3 =>
    obtain ⟨rfl, h⟩ := h
    exact notReconciled_eq_some h ▸ .notReconciled _
  case case4 item hfind _ hstatus =>
    obtain ⟨line, hline, rfl, ⟨⟩⟩ := h
    exact .load _ item line hfind (not_not.mp hstatus) hline
  case case6 =>
    obtain ⟨-, hlists, h⟩ := h
    split at h
    next _ _ refunds order =>
      simp only [pure_eq_ok, Prod.mk.injEq] at h
      obtain ⟨rfl, h⟩ := h
      split at h
      next hcovers =>
        obtain rfl := Option.some.inj h
        exact .covered _ _ _ _ refunds order (hlists refunds rfl) hcovers
      next => exact notReconciled_eq_some h ▸ .notReconciled _
    next =>
      simp only [pure_eq_ok, Prod.mk.injEq] at h
      obtain ⟨rfl, h⟩ := h
      exact notReconciled_eq_some h ▸ .notReconciled _
  case case7 now _ =>
    obtain ⟨rfl, ⟨⟩⟩ := h
    exact .committed _ now
  case case8 hclean =>
    obtain ⟨rfl, ⟨⟩⟩ := h
    exact .clean _ _ hclean
  case case10 happrove =>
    obtain ⟨rfl, h⟩ := h
    split at h
    next => simp only [reduceCtorEq] at h
    next =>
      obtain rfl := Option.some.inj h
      exact .approved _ _ _ _ _ happrove
  case case12 hclean =>
    obtain ⟨rfl, ⟨⟩⟩ := h
    exact .cleanAgain _ _ _ hclean
  case case15 =>
    obtain ⟨rfl, ⟨⟩⟩ := h
    exact .submitted _ _
  case case17 =>
    obtain ⟨-, hresponds, rfl, h⟩ := h
    obtain rfl := Option.some.inj h
    split
    · exact .refused _ _
    · exact .responded _ _ _ hresponds
  case case19 =>
    obtain ⟨rfl, ⟨⟩⟩ := h
    exact .recorded _ _
  case case20 hstart =>
    obtain ⟨rfl, ⟨⟩⟩ := h
    exact .proceed _ hstart
  case case25 =>
    obtain ⟨rfl, ⟨⟩⟩ := h
    exact .send
  case case30 jobId _ _ _ =>
    obtain ⟨rfl, h⟩ := h
    refine .confirm _ _ _ ?_
    split at h
    · simp only [reduceCtorEq] at h
    · obtain ⟨_, -, rfl⟩ := Option.map_eq_some_iff.mp h
      trivial
  case case33 =>
    obtain ⟨rfl, h⟩ := h
    refine .confirm _ _ _ ?_
    split at h
    · obtain rfl := Option.some.inj h
      trivial
    · simp only [reduceCtorEq] at h
  case case35 =>
    obtain ⟨rfl, h⟩ := h
    refine .confirm _ _ _ ?_
    split at h
    · obtain rfl := Option.some.inj h
      trivial
    · simp only [reduceCtorEq] at h
  -- the other positions come after the cancellation was sent or found done
  all_goals
    obtain ⟨rfl, ⟨⟩⟩ := h
    exact .confirm _ _ _ trivial

end World

/-! ## The positions of an administrator's refund -/

/-- How an administrator's preview or refund comes from one position to the next. -/
inductive ExecutionNext (w : World) (input : CreatePreviewAttemptInput) :
    ExecutionStep → World → ExecutionStep → Prop
  | preview : ExecutionNext w input .readPreview w
      (.writePreview ((w.db.existingPreview input.vendorAllocationId).map (·.id)))
  | noActive : ExecutionNext w input .readActiveAttempt w .readLock
  | takeOver (attempt : OutboundShopifyRefundAttempt)
      (hfind : w.db.findActiveOutboundShopifyRefundAttemptForAllocation input.vendorAllocationId =
        some attempt) :
      ExecutionNext w input .readActiveAttempt w (.prepare attempt.id)
  | lock : ExecutionNext w input .readLock w
      (.writeLock ((w.db.existingPreview input.vendorAllocationId).map (·.id)))
  | locked (existing : Option Id) (newId : Id) (now : Instant) (db' : CancellationDb)
      (hwrite : w.db.writeExecution existing input newId now = .ok db') :
      ExecutionNext w input (.writeLock existing) (w.putDb db') (.prepare (existing.getD newId))
  | prepared (attemptId : Id) : ExecutionNext w input (.prepare attemptId) w (.submit attemptId)
  | prepareFails (attemptId : Id) (response : Bool) :
      ExecutionNext w input (.prepare attemptId) w (.failAttempt attemptId response)
  | claim (attemptId : Id) :
      ExecutionNext w input (.prepare attemptId) w (.createClaim attemptId)
  | claimed (attemptId claimId : Id) (now : Instant) (db' : CancellationDb)
      (outcome : CancellationDb.ClaimAcquisition)
      (hclaim : w.db.createShippingClaim input.shopifyOrderId attemptId claimId now =
        .ok (db', outcome)) :
      ExecutionNext w input (.createClaim attemptId) (w.putDb db') (.submit attemptId)
  | claimFails (attemptId claimId : Id) (now : Instant) (db' : CancellationDb)
      (outcome : CancellationDb.ClaimAcquisition)
      (hclaim : w.db.createShippingClaim input.shopifyOrderId attemptId claimId now =
        .ok (db', outcome)) :
      ExecutionNext w input (.createClaim attemptId) (w.putDb db') (.failAttempt attemptId false)
  | submitFails (attemptId : Id) (response : Bool) :
      ExecutionNext w input (.submit attemptId) w (.failAttempt attemptId response)
  | submitted (attemptId : Id) (refundLineItems : List (Id × ℕ)) (shipping : Option ℤ) :
      ExecutionNext w input (.submit attemptId)
        { w with
          submissions := w.submissions ++
            [{ orderId := input.shopifyOrderId
               refundLineItems := refundLineItems
               locationId := none
               transactions := []
               shipping := shipping
               idempotencyKey := ⟨input.vendorAllocationId, attemptId⟩ }] }
        (.awaitRefund attemptId ⟨input.vendorAllocationId, attemptId⟩)
  | refused (attemptId : Id) (key : ShopifyRefundIdempotencyKey) :
      ExecutionNext w input (.awaitRefund attemptId key) w (.failAttempt attemptId true)
  | responded (attemptId : Id) (key : ShopifyRefundIdempotencyKey) (refundId : Option Id)
      (hresponds : w.RespondsWith key refundId) :
      ExecutionNext w input (.awaitRefund attemptId key) w (.recordSubmission attemptId refundId)
  | recorded (attemptId : Id) (refundId : Option Id) (check : Option String) :
      ExecutionNext w input (.recordSubmission attemptId refundId)
        (w.putDb (w.db.markOutboundShopifyRefundAttemptSubmitted attemptId refundId check))
        .markReview

namespace World

variable {w w' : World}

/-- **The inversion of a step of an administrator's refund.** -/
theorem runExecution_next {input : CreatePreviewAttemptInput} {position next : ExecutionStep}
    {reply : Reply} (h : w.runExecution input position reply = .ok (w', some next)) :
    ExecutionNext w input position w' next := by
  revert h
  fun_cases runExecution w input position reply
  all_goals
    intro h
    simp only [bind_eq_ok, require_eq_ok, pure_eq_ok, Except.ok.injEq, Prod.mk.injEq,
      reduceCtorEq, and_false, exists_false] at h
  case case5 hfind _ =>
    obtain ⟨rfl, ⟨⟩⟩ := h
    exact .takeOver _ hfind
  case case7 =>
    obtain ⟨_, hwrite, rfl, ⟨⟩⟩ := h
    exact .locked _ _ _ _ hwrite
  case case15 =>
    obtain ⟨⟨db', outcome⟩, hclaim, rfl, h⟩ := h
    obtain rfl := Option.some.inj h
    cases outcome
    case acquired => exact .claimed _ _ _ _ _ hclaim
    case sameOwner => exact .claimed _ _ _ _ _ hclaim
    all_goals exact .claimFails _ _ _ _ _ hclaim
  case case20 =>
    obtain ⟨-, hresponds, rfl, h⟩ := h
    obtain rfl := Option.some.inj h
    split
    · exact .refused _ _
    · exact .responded _ _ _ hresponds
  all_goals obtain ⟨rfl, ⟨⟩⟩ := h
  case case1 => exact .preview
  case case3 => exact .noActive
  case case6 => exact .lock
  case case9 => exact .prepareFails _ _
  case case10 => exact .prepared _
  case case12 => exact .claim _
  case case13 => exact .prepared _
  case case14 => exact .prepareFails _ _
  case case17 => exact .submitFails _ _
  case case18 => exact .submitted _ _ _
  case case22 => exact .recorded _ _ _

end World

end VendorDashboard.Orders

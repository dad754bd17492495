import VendorDashboard.Orders.CancellationSystem

/-!
# How cancellation items move

`ItemChange db db'` lists what one step of the system can do to the requests and their items:
nothing, a new request, or one item moved along its path

  `PENDING → APPROVED_FOR_REFUND → REFUNDED_AWAITING_ORDER_CANCEL → APPROVED`

with its request set to the aggregate.  Only a refund webhook does more, since it may move
several items.  `step_itemChange` is the inversion of the transition function to these cases;
the properties of requests and items are derived from it and never from the step function
itself.
-/

namespace VendorDashboard.Orders

open Finance (Id Instant CustomerCancellationStatus)
open Table Transaction Run

/-- The moves of an item. -/
inductive Advances : CustomerCancellationStatus → CustomerCancellationStatus → Prop
  | approve : Advances .pending .approvedForRefund
  | reconcile : Advances .approvedForRefund .refundedAwaitingOrderCancel
  | finalize : Advances .refundedAwaitingOrderCancel .approved

/-- The statuses that an item passes through. -/
def OnPath (s : CustomerCancellationStatus) : Prop :=
  s = .pending ∨ s = .approvedForRefund ∨ s = .refundedAwaitingOrderCancel ∨ s = .approved

lemma Advances.onPath {s t : CustomerCancellationStatus} (h : Advances s t) : OnPath t := by
  cases h <;> simp [OnPath]

lemma OnPath.reflTransGen {s t : CustomerCancellationStatus} (hs : OnPath s)
    (h : Relation.ReflTransGen Advances s t) : OnPath t := by
  induction h with
  | refl => exact hs
  | tail _ hadvance _ => exact hadvance.onPath

namespace CancellationDb

/-- The requests and items are the same. -/
structure SameItems (db db' : CancellationDb) : Prop where
  requests : db'.customerCancellationRequest = db.customerCancellationRequest
  items : db'.customerCancellationRequestItem = db.customerCancellationRequestItem

lemma SameItems.refl (db : CancellationDb) : SameItems db db := ⟨rfl, rfl⟩

lemma SameItems.trans {db db' db'' : CancellationDb} (h : SameItems db db')
    (h' : SameItems db' db'') : SameItems db db'' :=
  ⟨h'.requests.trans h.requests, h'.items.trans h.items⟩

lemma SameItems.itemsOf {db db' : CancellationDb} (h : SameItems db db') (requestId : Id) :
    db'.itemsOf requestId = db.itemsOf requestId := by
  unfold CancellationDb.itemsOf
  rw [h.items]

/-- The move of one item, with the request set to the aggregate of the current statuses. -/
def moveItemNow (db : CancellationDb) (item : CustomerCancellationRequestItem)
    (status : CustomerCancellationStatus) (resolvedQuantity : Option ℕ)
    (resolvedAt : Option Instant) : CancellationDb :=
  db.moveItem item status resolvedQuantity (statusesWith (db.itemsOf item.requestId) item.id status)
    resolvedAt

/-- What a step other than a webhook can do to the requests and items. -/
inductive ItemChange (db : CancellationDb) (db' : CancellationDb) : Prop
  | same (h : SameItems db db')
  | create (input : CreateVerifiedCustomerCancellationRequestInput) (requestId : Id)
      (itemIds : List Id)
      (h : db.createPendingCustomerCancellationRequest input requestId itemIds = .ok db')
  | move (item : CustomerCancellationRequestItem) (status : CustomerCancellationStatus)
      (resolvedQuantity : Option ℕ) (resolvedAt : Option Instant)
      (hitem : item ∈ db.customerCancellationRequestItem) (hadvance : Advances item.status status)
      (hresolved : resolvedAt.isSome =
        allTerminal (statusesWith (db.itemsOf item.requestId) item.id status))
      (h : SameItems (db.moveItemNow item status resolvedQuantity resolvedAt) db')

/-! ## Small facts -/

@[simp] lemma mem_itemsOf {db : CancellationDb} {requestId : Id}
    {i : CustomerCancellationRequestItem} :
    i ∈ db.itemsOf requestId ↔ i ∈ db.customerCancellationRequestItem ∧ i.requestId = requestId := by
  simp [CancellationDb.itemsOf]

lemma mem_of_findItem {db : CancellationDb} {id : Id} {item : CustomerCancellationRequestItem}
    (h : db.findItem id = some item) : item ∈ db.customerCancellationRequestItem ∧ item.id = id :=
  ⟨mem_of_findRow h, key_of_findRow h⟩

/-- The new status of the moved item is among the statuses. -/
lemma mem_statusesWith {db : CancellationDb} {item : CustomerCancellationRequestItem}
    (hitem : item ∈ db.customerCancellationRequestItem) (status : CustomerCancellationStatus) :
    status ∈ statusesWith (db.itemsOf item.requestId) item.id status := by
  unfold statusesWith
  refine List.mem_map.mpr ⟨item, mem_itemsOf.mpr ⟨hitem, rfl⟩, ?_⟩
  simp

lemma allTerminal_eq_false {statuses : List CustomerCancellationStatus}
    {s : CustomerCancellationStatus} (hs : s ∈ statuses) (ha : isActiveHoldItemStatus s = true) :
    allTerminal statuses = false := by
  unfold allTerminal
  rw [List.all_eq_false]
  exact ⟨s, hs, by simp [ha]⟩

/-! ## Creation -/

/-- **What creation does**: it finds the request again, or it adds one with pending items, on
allocations that no open item is on. -/
lemma create_ok {db db' : CancellationDb} {rawInput : CreateVerifiedCustomerCancellationRequestInput}
    {requestId : Id} {itemIds : List Id}
    (h : db.createPendingCustomerCancellationRequest rawInput requestId itemIds = .ok db') :
    db' = db ∨ ∃ input : CreateVerifiedCustomerCancellationRequestInput, ∃ order scope,
      db.findOrder input.shopifyOrderId = some order ∧ db.expectedScope order = .ok scope ∧
      scope.Perm input.items ∧ input.items ≠ [] ∧
      (∀ i ∈ input.items, 0 < i.requestedQuantity) ∧ itemIds.length = input.items.length ∧
      db.pendingHoldItems (input.items.map (·.vendorAllocationId)).eraseDups = [] ∧
      KeyUnique CustomerCancellationRequest.id
        (db.customerCancellationRequest ++ [newRequest input requestId]) ∧
      KeyUnique CustomerCancellationRequestItem.id
        (db.customerCancellationRequestItem ++
          (itemIds.zip input.items).map (newItem requestId)) ∧
      db' =
        { db with
          customerCancellationRequest :=
            db.customerCancellationRequest ++ [newRequest input requestId]
          customerCancellationRequestItem :=
            db.customerCancellationRequestItem ++
              (itemIds.zip input.items).map (newItem requestId) } := by
  simp only [createPendingCustomerCancellationRequest, bind_eq_ok] at h
  obtain ⟨input, hinput, h⟩ := h
  simp only [normalizeInput, bind_eq_ok, require_eq_ok, pure_eq_ok] at hinput
  obtain ⟨_, hnonempty, _, hpositive, _, -, _, -, _, -, _, -, _, -, hinput⟩ := hinput
  have hraw : rawInput.items = input.items := by rw [← hinput]
  rw [hraw] at hnonempty hpositive
  simp only [createPendingCustomerCancellationRequestInTransaction, bind_eq_ok,
    getOrThrow_eq_ok] at h
  obtain ⟨order, horder, h⟩ := h
  split at h
  next =>
    exact .inl (pure_eq_ok.mp h).symm
  next =>
    simp only [bind_eq_ok, require_eq_ok, insertRequest, insertRows_eq_ok, pure_eq_ok] at h
    obtain ⟨scope, hscope, _, ⟨-, hperm⟩, _, -, _, -, _, hpending, requests, ⟨hrequests, rfl⟩, _,
      hlength, items, ⟨hitems, rfl⟩, rfl⟩ := h
    exact .inr ⟨input, order, scope, horder, hscope, hperm, hnonempty, fun i hi => (hpositive i hi).1,
      hlength, hpending, hrequests, hitems, rfl⟩

/-! ## The services -/

variable {db db' : CancellationDb}

lemma approveItem_itemChange {requestId itemId : Id}
    (h : db.approveCustomerCancellationItemForRefund requestId itemId = .ok db') :
    ItemChange db db' := by
  simp only [approveCustomerCancellationItemForRefund, bind_eq_ok, getOrThrow_eq_ok,
    require_eq_ok, pure_eq_ok] at h
  obtain ⟨item, hfind, _, rfl, request, -, _, ⟨hpending, -⟩, rfl⟩ := h
  obtain ⟨hitem, rfl⟩ := mem_of_findItem hfind
  refine .move item .approvedForRefund item.resolvedQuantity none hitem
    (hpending ▸ .approve) ?_ (.refl _)
  exact (allTerminal_eq_false (mem_statusesWith hitem _) rfl).symm

lemma autoApproveItem_itemChange {item : CustomerCancellationRequestItem}
    (hitem : item ∈ db.customerCancellationRequestItem)
    (h : SameItems (db.autoApproveItem item) db') : ItemChange db db' := by
  unfold autoApproveItem at h
  split at h
  next hpending =>
    refine .move item .approvedForRefund item.resolvedQuantity none hitem
      (hpending ▸ .approve) ?_ h
    exact (allTerminal_eq_false (mem_statusesWith hitem _) rfl).symm
  next => exact .same h

lemma insertAttempt_sameItems {attempt : OutboundShopifyRefundAttempt}
    (h : db.insertAttempt attempt = .ok db') : SameItems db db' := by
  simp only [insertAttempt, bind_eq_ok, require_eq_ok, insertRows_eq_ok, pure_eq_ok] at h
  obtain ⟨-, -, attempts, -, rfl⟩ := h
  exact ⟨rfl, rfl⟩

lemma approveAndCreateAttempt_itemChange {itemId attemptId : Id} {now : Instant}
    {context : CustomerCancellationAutoRefundCleanContext} {attempt : OutboundShopifyRefundAttempt}
    (h : db.approveAndCreateAttempt itemId context attemptId now = .ok (db', attempt)) :
    ItemChange db db' := by
  simp only [approveAndCreateAttempt, bind_eq_ok, getOrThrow_eq_ok, require_eq_ok] at h
  obtain ⟨item, hfind, allocation, -, _, -, _, -, _, -, _, -, h⟩ := h
  obtain ⟨hitem, -⟩ := mem_of_findItem hfind
  split at h
  next =>
    simp only [pure_eq_ok, Prod.mk.injEq] at h
    obtain ⟨rfl, -⟩ := h
    exact autoApproveItem_itemChange hitem (.refl _)
  next =>
    simp only [bind_eq_ok, pure_eq_ok, Prod.mk.injEq] at h
    obtain ⟨inserted, hinsert, rfl, -⟩ := h
    exact autoApproveItem_itemChange hitem (insertAttempt_sameItems hinsert)

lemma isSome_ite (p : Bool) (now : Instant) :
    (if p = true then some now else none).isSome = p := by
  cases p <;> rfl

lemma reconcileItem_itemChange (itemId : Id) (now : Instant) :
    ItemChange db (db.reconcileItem itemId now) := by
  unfold reconcileItem
  cases hfind : db.findItem itemId with
  | none => exact .same (.refl _)
  | some item =>
      obtain ⟨hitem, rfl⟩ := mem_of_findItem hfind
      simp only
      split
      next => exact .same (.refl _)
      next hstatus =>
        rw [ne_eq, not_not] at hstatus
        exact .move item .refundedAwaitingOrderCancel _ _ hitem (hstatus ▸ .reconcile)
          (isSome_ite _ now) ⟨rfl, rfl⟩

lemma finalizeApproved_itemChange (itemId : Id) (now : Instant) :
    ItemChange db (db.finalizeApproved itemId now) := by
  unfold finalizeApproved
  cases hfind : db.findItem itemId with
  | none => exact .same (.refl _)
  | some item =>
      obtain ⟨hitem, rfl⟩ := mem_of_findItem hfind
      simp only
      split
      next => exact .same (.refl _)
      next hstatus =>
        rw [ne_eq, not_not] at hstatus
        exact .move item .approved _ _ hitem (hstatus ▸ .finalize) (isSome_ite _ now) (.refl _)

lemma persistOrderCancelEvidence_sameItems (itemId : Id) (jobId : Option Id) :
    SameItems db (db.persistOrderCancelEvidence itemId jobId) := by
  unfold persistOrderCancelEvidence
  split <;> exact ⟨rfl, rfl⟩

lemma writePreview_sameItems {existing : Option Id} {input : CreatePreviewAttemptInput}
    {newId : Id} {now : Instant} (h : db.writePreview existing input newId now = .ok db') :
    SameItems db db' := by
  cases existing with
  | none => exact insertAttempt_sameItems h
  | some id =>
      obtain rfl := Except.ok.inj h
      exact ⟨rfl, rfl⟩

lemma writeExecution_sameItems {existing : Option Id} {input : CreatePreviewAttemptInput}
    {newId : Id} {now : Instant} (h : db.writeExecution existing input newId now = .ok db') :
    SameItems db db' := by
  cases existing with
  | none => exact insertAttempt_sameItems h
  | some id =>
      obtain rfl := Except.ok.inj h
      exact ⟨rfl, rfl⟩

lemma createShippingClaim_sameItems {shopifyOrderId attemptId claimId : Id} {now : Instant}
    {outcome : ClaimAcquisition}
    (h : db.createShippingClaim shopifyOrderId attemptId claimId now = .ok (db', outcome)) :
    SameItems db db' := by
  unfold createShippingClaim at h
  split at h
  next =>
    simp only [Except.ok.injEq, Prod.mk.injEq] at h
    exact h.1 ▸ .refl _
  next =>
    simp only [bind_eq_ok, insertRows_eq_ok, pure_eq_ok, Prod.mk.injEq] at h
    obtain ⟨claims, -, rfl, -⟩ := h
    exact ⟨rfl, rfl⟩

end CancellationDb

/-! ## The workers -/

namespace World

open CancellationDb

variable {w w' : World}

/-- What a step of a job writes to the tables, by its position. -/
inductive JobWrite (db : CancellationDb) (itemId : Id) : JobStep → CancellationDb → Prop
  | none (position : JobStep) : JobWrite db itemId position db
  | reconcile (evidence : List Id) (now : Instant) :
      JobWrite db itemId (.commitReconciliation evidence) (db.reconcileItem itemId now)
  | approve (context : CustomerCancellationAutoRefundCleanContext) (attemptId : Id) (now : Instant)
      (db' : CancellationDb) (attempt : OutboundShopifyRefundAttempt)
      (h : db.approveAndCreateAttempt itemId context attemptId now = .ok (db', attempt)) :
      JobWrite db itemId (.approve context) db'
  | fail (attemptId : Id) :
      JobWrite db itemId (.failSubmission attemptId) (db.failSubmission attemptId)
  | record (attemptId : Id) (refundId : Option Id) :
      JobWrite db itemId (.recordSubmission attemptId refundId)
        (db.recordSubmission attemptId refundId)
  | persist (position : JobStep) (jobId : Option Id) :
      JobWrite db itemId position (db.persistOrderCancelEvidence itemId jobId)
  | finalize (now : Instant) :
      JobWrite db itemId .finalizeApproved (db.finalizeApproved itemId now)

lemma runJob_write {itemId : Id} {position : JobStep} {reply : Reply} {next : Option JobStep}
    (h : w.runJob itemId position reply = .ok (w', next)) :
    JobWrite w.db itemId position w'.db := by
  revert h
  fun_cases runJob w itemId position reply
  all_goals
    intro h
    simp only [bind_eq_ok, pure_eq_ok, Except.ok.injEq, Prod.mk.injEq, reduceCtorEq] at h
  case case4 =>
    obtain ⟨_, -, rfl, -⟩ := h
    exact .none _
  case case6 =>
    obtain ⟨_, -, h⟩ := h
    split at h <;> simp only [pure_eq_ok, Prod.mk.injEq] at h <;> exact h.1 ▸ .none _
  case case7 now _ => exact h.1 ▸ .reconcile _ now
  case case10 happrove => exact h.1 ▸ .approve _ _ _ _ _ happrove
  case case17 =>
    obtain ⟨_, -, rfl, -⟩ := h
    exact .none _
  case case18 => exact h.1 ▸ .fail _
  case case19 => exact h.1 ▸ .record _ _
  case case30 => exact h.1 ▸ .persist _ _
  case case33 => exact h.1 ▸ .persist _ _
  case case36 => exact h.1 ▸ .persist _ _
  case case37 now _ => exact h.1 ▸ .finalize now
  all_goals exact h.1 ▸ .none _

/-- A step of a job leaves Shopify and the other workers alone. -/
lemma runJob_shop {itemId : Id} {position : JobStep} {reply : Reply} {next : Option JobStep}
    (h : w.runJob itemId position reply = .ok (w', next)) :
    w'.shop = w.shop ∧ w'.worker = w.worker := by
  revert h
  fun_cases runJob w itemId position reply
  all_goals
    intro h
    simp only [bind_eq_ok, pure_eq_ok, Except.ok.injEq, Prod.mk.injEq, reduceCtorEq] at h
  case case4 =>
    obtain ⟨_, -, rfl, -⟩ := h
    exact ⟨rfl, rfl⟩
  case case6 =>
    obtain ⟨_, -, h⟩ := h
    split at h <;> simp only [pure_eq_ok, Prod.mk.injEq] at h <;> exact h.1 ▸ ⟨rfl, rfl⟩
  case case17 =>
    obtain ⟨_, -, rfl, -⟩ := h
    exact ⟨rfl, rfl⟩
  all_goals exact h.1 ▸ ⟨rfl, rfl⟩

/-- What a step of an administrator's refund writes to the tables, by its position. -/
inductive ExecutionWrite (db : CancellationDb) (input : CreatePreviewAttemptInput) :
    ExecutionStep → CancellationDb → Prop
  | none (position : ExecutionStep) : ExecutionWrite db input position db
  | preview (existing : Option Id) (newId : Id) (now : Instant) (db' : CancellationDb)
      (h : db.writePreview existing input newId now = .ok db') :
      ExecutionWrite db input (.writePreview existing) db'
  | lock (existing : Option Id) (newId : Id) (now : Instant) (db' : CancellationDb)
      (h : db.writeExecution existing input newId now = .ok db') :
      ExecutionWrite db input (.writeLock existing) db'
  | claim (attemptId claimId : Id) (now : Instant) (db' : CancellationDb)
      (outcome : ClaimAcquisition)
      (h : db.createShippingClaim input.shopifyOrderId attemptId claimId now = .ok (db', outcome)) :
      ExecutionWrite db input (.createClaim attemptId) db'
  | fail (attemptId : Id) (response : Bool) :
      ExecutionWrite db input (.failAttempt attemptId response)
        (db.markOutboundShopifyRefundAttemptFailed attemptId response)
  | record (attemptId : Id) (refundId : Option Id) (check : Option String) :
      ExecutionWrite db input (.recordSubmission attemptId refundId)
        (db.markOutboundShopifyRefundAttemptSubmitted attemptId refundId check)
  | review (f : List VendorAllocation → List VendorAllocation) :
      ExecutionWrite db input .markReview
        { db with vendorAllocation := f db.vendorAllocation }

lemma runExecution_write {input : CreatePreviewAttemptInput} {position : ExecutionStep}
    {reply : Reply} {next : Option ExecutionStep}
    (h : w.runExecution input position reply = .ok (w', next)) :
    ExecutionWrite w.db input position w'.db := by
  revert h
  fun_cases runExecution w input position reply
  all_goals
    intro h
    simp only [bind_eq_ok, pure_eq_ok, Except.ok.injEq, Prod.mk.injEq, reduceCtorEq] at h
  case case2 =>
    obtain ⟨db, hwrite, rfl, -⟩ := h
    exact .preview _ _ _ _ hwrite
  case case7 =>
    obtain ⟨db, hwrite, rfl, -⟩ := h
    exact .lock _ _ _ _ hwrite
  case case15 =>
    obtain ⟨⟨db, outcome⟩, hclaim, rfl, -⟩ := h
    exact .claim _ _ _ _ _ hclaim
  case case20 =>
    obtain ⟨_, -, rfl, -⟩ := h
    exact .none _
  case case21 => exact h.1 ▸ .fail _ _
  case case22 => exact h.1 ▸ .record _ _ _
  case case23 => exact h.1 ▸ .review (updateWhere _ _)
  all_goals exact h.1 ▸ .none _

lemma runExecution_shop {input : CreatePreviewAttemptInput} {position : ExecutionStep}
    {reply : Reply} {next : Option ExecutionStep}
    (h : w.runExecution input position reply = .ok (w', next)) :
    w'.shop = w.shop ∧ w'.worker = w.worker := by
  revert h
  fun_cases runExecution w input position reply
  all_goals
    intro h
    simp only [bind_eq_ok, pure_eq_ok, Except.ok.injEq, Prod.mk.injEq, reduceCtorEq] at h
  case case2 =>
    obtain ⟨_, -, rfl, -⟩ := h
    exact ⟨rfl, rfl⟩
  case case7 =>
    obtain ⟨_, -, rfl, -⟩ := h
    exact ⟨rfl, rfl⟩
  case case15 =>
    obtain ⟨_, -, rfl, -⟩ := h
    exact ⟨rfl, rfl⟩
  case case20 =>
    obtain ⟨_, -, rfl, -⟩ := h
    exact ⟨rfl, rfl⟩
  all_goals exact h.1 ▸ ⟨rfl, rfl⟩

lemma JobWrite.itemChange {db db' : CancellationDb} {itemId : Id} {position : JobStep}
    (h : JobWrite db itemId position db') : ItemChange db db' := by
  cases h with
  | none => exact .same (.refl _)
  | reconcile => exact reconcileItem_itemChange _ _
  | approve _ _ _ _ _ h => exact approveAndCreateAttempt_itemChange h
  | fail => exact .same ⟨rfl, rfl⟩
  | record => exact .same ⟨rfl, rfl⟩
  | persist => exact .same (persistOrderCancelEvidence_sameItems _ _)
  | finalize => exact finalizeApproved_itemChange _ _

lemma ExecutionWrite.sameItems {db db' : CancellationDb} {input : CreatePreviewAttemptInput}
    {position : ExecutionStep} (h : ExecutionWrite db input position db') : SameItems db db' := by
  cases h with
  | none => exact .refl _
  | preview _ _ _ _ h => exact writePreview_sameItems h
  | lock _ _ _ _ h => exact writeExecution_sameItems h
  | claim _ _ _ _ _ h => exact createShippingClaim_sameItems h
  | fail => exact ⟨rfl, rfl⟩
  | record => exact ⟨rfl, rfl⟩
  | review => exact ⟨rfl, rfl⟩

/-- A step of a worker is a step of its job, after which the worker's place is updated. -/
lemma runWorker_ok {i : Id} {reply : Reply} (h : w.runWorker i reply = .ok w') :
    (∃ itemId position w₁ next, w.worker i = some (.job itemId position) ∧
      w.runJob itemId position reply = .ok (w₁, next) ∧
      w' = w₁.putWorker i (next.map (.job itemId))) ∨
    ∃ input position w₁ next, w.worker i = some (.execution input position) ∧
      w.runExecution input position reply = .ok (w₁, next) ∧
      w' = w₁.putWorker i (next.map (.execution input)) := by
  unfold runWorker at h
  split at h
  next => simp only [reduceCtorEq] at h
  next itemId position hworker =>
    simp only [bind_eq_ok, pure_eq_ok] at h
    obtain ⟨⟨w₁, next⟩, hrun, rfl⟩ := h
    exact .inl ⟨itemId, position, w₁, next, hworker, hrun, rfl⟩
  next input position hworker =>
    simp only [bind_eq_ok, pure_eq_ok] at h
    obtain ⟨⟨w₁, next⟩, hrun, rfl⟩ := h
    exact .inr ⟨input, position, w₁, next, hworker, hrun, rfl⟩

lemma executeRefund_db {orderId : Id} {refund : StoreRefund}
    (h : w.executeRefund orderId refund = .ok w') : w'.db = w.db := by
  simp only [executeRefund, bind_eq_ok, require_eq_ok, pure_eq_ok] at h
  obtain ⟨_, -, _, -, rfl⟩ := h
  rfl

lemma recordOrder_sameItems {order : ShopifyOrder} {allocations : List VendorAllocation}
    {lines : List VendorAllocationLineItem} {shopOrder : StoreOrder}
    (h : w.recordOrder order allocations lines shopOrder = .ok w') : SameItems w.db w'.db := by
  simp only [recordOrder, bind_eq_ok, require_eq_ok, insertRows_eq_ok, pure_eq_ok] at h
  obtain ⟨_, -, _, -, _, -, _, -, _, -, _, -, _, -, rfl⟩ := h
  exact ⟨rfl, rfl⟩

lemma putDb_eq_ok {x : Except String CancellationDb} (h : w.putDb <$> x = .ok w') :
    x = .ok w'.db := by
  cases x with
  | error => cases h
  | ok db =>
      obtain rfl := Except.ok.inj h
      rfl

end World

/-- **What a step does to the requests and items.** -/
theorem step_itemChange {a : Action} {w w' : World} (h : step a w = .ok w') :
    w.db.ItemChange w'.db ∨ ∃ event now, a = .ingestRefund event now ∧
      w.db.ingestShopifyRefundWebhook event now = .ok w'.db := by
  cases a with
  | recordOrder order allocations lines shopOrder =>
      exact .inl (.same (World.recordOrder_sameItems h))
  | updateAllocation allocation =>
      obtain rfl := Except.ok.inj h
      exact .inl (.same ⟨rfl, rfl⟩)
  | merchantRefund orderId refund => exact .inl (.same (World.executeRefund_db h ▸ .refl _))
  | cancelShopifyOrder orderId =>
      obtain rfl := Except.ok.inj h
      exact .inl (.same ⟨rfl, rfl⟩)
  | executeSubmission submission refundId amountMinor =>
      simp only [step, World.executeSubmission, bind_eq_ok, require_eq_ok] at h
      obtain ⟨-, -, h⟩ := h
      exact .inl (.same (World.executeRefund_db h ▸ .refl _))
  | createRequest input requestId itemIds => exact .inl (.create _ _ _ (World.putDb_eq_ok h))
  | approveItem requestId itemId =>
      exact .inl (CancellationDb.approveItem_itemChange (World.putDb_eq_ok h))
  | ingestRefund event now =>
      simp only [step, bind_eq_ok, require_eq_ok] at h
      obtain ⟨-, -, h⟩ := h
      exact .inr ⟨event, now, rfl, World.putDb_eq_ok h⟩
  | startJob i itemId =>
      simp only [step, World.startWorker, bind_eq_ok, require_eq_ok, pure_eq_ok] at h
      obtain ⟨-, -, rfl⟩ := h
      exact .inl (.same (.refl _))
  | startPreview i input =>
      simp only [step, World.startWorker, bind_eq_ok, require_eq_ok, pure_eq_ok] at h
      obtain ⟨-, -, rfl⟩ := h
      exact .inl (.same (.refl _))
  | startExecution i input =>
      simp only [step, World.startWorker, bind_eq_ok, require_eq_ok, pure_eq_ok] at h
      obtain ⟨-, -, rfl⟩ := h
      exact .inl (.same (.refl _))
  | stop i =>
      obtain rfl := Except.ok.inj h
      exact .inl (.same (.refl _))
  | run i reply =>
      obtain ⟨_, _, w₁, _, -, hrun, rfl⟩ | ⟨_, _, w₁, _, -, hrun, rfl⟩ := World.runWorker_ok h
      · exact .inl (World.runJob_write hrun).itemChange
      · exact .inl (.same (World.runExecution_write hrun).sameItems)

/-! ## Identity and progress of the rows -/

namespace CancellationDb

variable {db db' : CancellationDb}

/-- Requests and items are identified; every item has its request and is on its path. -/
structure ItemsWellFormed (db : CancellationDb) : Prop where
  requestIds : KeyUnique CustomerCancellationRequest.id db.customerCancellationRequest
  itemIds : KeyUnique CustomerCancellationRequestItem.id db.customerCancellationRequestItem
  parent : ∀ i ∈ db.customerCancellationRequestItem,
    i.requestId ∈ db.customerCancellationRequest.map (·.id)
  onPath : ∀ i ∈ db.customerCancellationRequestItem, OnPath i.status

/-- What never changes about an item. -/
def SameScope (i i' : CustomerCancellationRequestItem) : Prop :=
  i'.id = i.id ∧ i'.requestId = i.requestId ∧
    i'.shopifyOrderLineItemId = i.shopifyOrderLineItemId ∧
    i'.vendorAllocationId = i.vendorAllocationId ∧ i'.requestedQuantity = i.requestedQuantity

/-- The same requests and items; each item may have moved on. -/
def ItemsMoved (db db' : CancellationDb) : Prop :=
  db'.customerCancellationRequest.map (·.id) = db.customerCancellationRequest.map (·.id) ∧
    ∃ f : CustomerCancellationRequestItem → CustomerCancellationRequestItem,
      db'.customerCancellationRequestItem = db.customerCancellationRequestItem.map f ∧
      (∀ i, SameScope i (f i)) ∧
      ∀ i ∈ db.customerCancellationRequestItem,
        Relation.ReflTransGen Advances i.status (f i).status

lemma ItemsMoved.of_same (h : SameItems db db') : ItemsMoved db db' :=
  ⟨by rw [h.requests], id, by rw [h.items, List.map_id], fun _ => ⟨rfl, rfl, rfl, rfl, rfl⟩,
    fun _ _ => .refl⟩

lemma SameScope.trans {i i' i'' : CustomerCancellationRequestItem} (h : SameScope i i')
    (h' : SameScope i' i'') : SameScope i i'' := by
  obtain ⟨h₁, h₂, h₃, h₄, h₅⟩ := h
  obtain ⟨h₁', h₂', h₃', h₄', h₅'⟩ := h'
  exact ⟨h₁'.trans h₁, h₂'.trans h₂, h₃'.trans h₃, h₄'.trans h₄, h₅'.trans h₅⟩

lemma ItemsMoved.trans {db'' : CancellationDb} (h : ItemsMoved db db')
    (h' : ItemsMoved db' db'') : ItemsMoved db db'' := by
  obtain ⟨hids, f, hf, hscope, hstatus⟩ := h
  obtain ⟨hids', g, hg, hscope', hstatus'⟩ := h'
  refine ⟨hids'.trans hids, g ∘ f, ?_, fun i => (hscope i).trans (hscope' (f i)), fun i hi => ?_⟩
  · rw [hg, hf, List.map_map]
  · exact (hstatus i hi).trans (hstatus' (f i) (hf ▸ List.mem_map_of_mem hi))

lemma ItemsWellFormed.moved (h : ItemsWellFormed db) (hm : ItemsMoved db db') :
    ItemsWellFormed db' := by
  obtain ⟨hids, f, hf, hscope, hstatus⟩ := hm
  refine ⟨?_, ?_, ?_, ?_⟩
  · unfold KeyUnique
    rw [hids]
    exact h.requestIds
  · unfold KeyUnique
    rw [hf, List.map_map]
    have hcomp : CustomerCancellationRequestItem.id ∘ f = CustomerCancellationRequestItem.id :=
      funext fun i => (hscope i).1
    rw [hcomp]
    exact h.itemIds
  · intro i hi
    rw [hf] at hi
    obtain ⟨j, hj, rfl⟩ := List.mem_map.mp hi
    rw [hids, (hscope j).2.1]
    exact h.parent j hj
  · intro i hi
    rw [hf] at hi
    obtain ⟨j, hj, rfl⟩ := List.mem_map.mp hi
    exact (h.onPath j hj).reflTransGen (hstatus j hj)

lemma ItemsWellFormed.empty : ItemsWellFormed CancellationDb.empty := by
  constructor <;> simp [CancellationDb.empty, KeyUnique]

lemma moveItem_moved (h : ItemsWellFormed db) {item : CustomerCancellationRequestItem}
    (hitem : item ∈ db.customerCancellationRequestItem) {status : CustomerCancellationStatus}
    (hadvance : Advances item.status status) (resolvedQuantity : Option ℕ)
    (statuses : List CustomerCancellationStatus) (resolvedAt : Option Instant) :
    ItemsMoved db (db.moveItem item status resolvedQuantity statuses resolvedAt) := by
  have hids : (db.moveItem item status resolvedQuantity statuses
      resolvedAt).customerCancellationRequest.map (·.id) =
        db.customerCancellationRequest.map (·.id) := by
    unfold moveItem updateRequest updateItem
    exact map_updateWhere (fun _ => by rfl) _
  refine ⟨hids, _, rfl, fun i => ?_, fun i hi => ?_⟩
  · simp only
    split <;> exact ⟨rfl, rfl, rfl, rfl, rfl⟩
  · simp only
    split
    next hid =>
      rw [decide_eq_true_eq] at hid
      rw [h.itemIds.eq hi hitem hid]
      exact .single hadvance
    next => exact .refl

/-- The loop of the refund webhook moves each of its items once. -/
lemma foldl_applyRefundToItem_moved (siblings : Id → List CustomerCancellationRequestItem)
    (refundId : Id) (now : Instant) {items : List CustomerCancellationRequestItem}
    (h : ItemsWellFormed db)
    (hitems : ∀ i ∈ items, i ∈ db.customerCancellationRequestItem ∧ i.status = .approvedForRefund)
    (hdistinct : items.Pairwise fun i j => i.id ≠ j.id) :
    ItemsMoved db (items.foldl (fun acc i =>
      acc.applyRefundToItem (siblings i.requestId) refundId i now) db) := by
  induction items generalizing db with
  | nil => exact .of_same (.refl db)
  | cons item items ih =>
      obtain ⟨hne, hdistinct⟩ := List.pairwise_cons.mp hdistinct
      obtain ⟨hitem, hstatus⟩ := hitems item List.mem_cons_self
      have hmoved : ItemsMoved db
          (db.applyRefundToItem (siblings item.requestId) refundId item now) :=
        moveItem_moved h hitem (hstatus ▸ .reconcile) _ _ _
      rw [List.foldl_cons]
      refine hmoved.trans (ih (h.moved hmoved) (fun i hi => ?_) hdistinct)
      obtain ⟨himem, histatus⟩ := hitems i (List.mem_cons_of_mem _ hi)
      refine ⟨mem_updateWhere.mpr ⟨i, himem, ?_⟩, histatus⟩
      simp [Ne.symm (hne i hi)]

lemma shippingOnly_sameItems {orderId refundId : Id} {target : Option Id}
    (h : db.reconcileVerifiedShippingOnlyRefund orderId refundId target = .ok db') :
    SameItems db db' := by
  simp only [reconcileVerifiedShippingOnlyRefund, bind_eq_ok, require_eq_ok, getOrThrow_eq_ok] at h
  obtain ⟨_, -, claim, -, attempt, -, allocation, -, _, -, h⟩ := h
  split at h
  next => exact (pure_eq_ok.mp h) ▸ .refl db
  next =>
    split at h
    next => exact (pure_eq_ok.mp h) ▸ .refl db
    next =>
      simp only [bind_eq_ok, require_eq_ok, pure_eq_ok] at h
      obtain ⟨_, -, rfl⟩ := h
      split <;> exact ⟨rfl, rfl⟩

lemma acceptRefundGroup_sameItems (before : CancellationDb) (event : RefundEvent)
    (vendorAllocationId : Id) :
    SameItems db (db.acceptRefundGroup before event vendorAllocationId) := by
  unfold acceptRefundGroup resolveCancelRefundReviewAfterRefundIngestion
  split
  · exact ⟨rfl, rfl⟩
  · split <;> exact ⟨rfl, rfl⟩

lemma foldl_acceptRefundGroup_sameItems (before : CancellationDb) (event : RefundEvent)
    (ids : List Id) :
    SameItems db (ids.foldl (fun acc a => acc.acceptRefundGroup before event a) db) := by
  induction ids generalizing db with
  | nil => exact .refl db
  | cons a ids ih => exact (acceptRefundGroup_sameItems before event a).trans ih

/-- **What a webhook does to the items**: it moves some of them, each once. -/
lemma ingest_moved (h : ItemsWellFormed db) {event : RefundEvent} {now : Instant}
    (hingest : db.ingestShopifyRefundWebhook event now = .ok db') : ItemsMoved db db' := by
  simp only [ingestShopifyRefundWebhook, bind_eq_ok, require_eq_ok] at hingest
  obtain ⟨_, -, hingest⟩ := hingest
  split at hingest
  next =>
    simp only [bind_eq_ok, require_eq_ok] at hingest
    obtain ⟨_, -, hingest⟩ := hingest
    exact .of_same (shippingOnly_sameItems hingest)
  next =>
    simp only [bind_eq_ok, require_eq_ok, pure_eq_ok] at hingest
    obtain ⟨_, -, hdb'⟩ := hingest
    have haccepted := @foldl_acceptRefundGroup_sameItems db db event
      event.acceptedAllocationIds
    generalize event.acceptedAllocationIds.foldl
      (fun acc a => acc.acceptRefundGroup db event a) db = accepted at hdb' haccepted
    have hmoved : ItemsMoved db accepted := .of_same haccepted
    split at hdb'
    next =>
      subst hdb'
      refine hmoved.trans (foldl_applyRefundToItem_moved _ _ now (h.moved hmoved)
        (fun i hi => ?_) ?_)
      · obtain ⟨hi, -⟩ := List.mem_filter.mp hi
        obtain ⟨hmem, hi⟩ := List.mem_filter.mp hi
        simp only [Bool.and_eq_true, decide_eq_true_eq] at hi
        exact ⟨hmem, hi.1.1.1⟩
      · have hdistinct : accepted.customerCancellationRequestItem.Pairwise
            fun i j => i.id ≠ j.id := List.pairwise_map.mp (h.moved hmoved).itemIds
        exact (hdistinct.filter _).filter _
    next => exact hdb' ▸ hmoved

/-- New items, of a request that had none. -/
def ItemsCreated (db db' : CancellationDb) : Prop :=
  ∃ requestId new, (∀ i ∈ new, i.requestId = requestId ∧ i.status = .pending) ∧
    (∀ i ∈ db.customerCancellationRequestItem, i.requestId ≠ requestId) ∧
    db'.customerCancellationRequestItem = db.customerCancellationRequestItem ++ new

lemma mem_newItems {requestId : Id} {itemIds : List Id}
    {inputs : List VerifiedCustomerCancellationRequestItemInput}
    {i : CustomerCancellationRequestItem}
    (h : i ∈ (itemIds.zip inputs).map (newItem requestId)) :
    i.requestId = requestId ∧ i.status = .pending ∧
      i.vendorAllocationId ∈ inputs.map (·.vendorAllocationId) := by
  obtain ⟨⟨itemId, input⟩, hmem, rfl⟩ := List.mem_map.mp h
  exact ⟨rfl, rfl, List.mem_map_of_mem (List.of_mem_zip hmem).2⟩

lemma ItemsWellFormed.create (h : ItemsWellFormed db)
    {rawInput : CreateVerifiedCustomerCancellationRequestInput} {requestId : Id}
    {itemIds : List Id}
    (hcreate : db.createPendingCustomerCancellationRequest rawInput requestId itemIds = .ok db') :
    ItemsWellFormed db' ∧ (ItemsMoved db db' ∨ ItemsCreated db db') := by
  obtain rfl | ⟨input, _, _, -, -, -, -, -, -, -, hrequests, hitems, rfl⟩ := create_ok hcreate
  · exact ⟨h, .inl (.of_same (.refl db'))⟩
  obtain ⟨-, -, hfresh⟩ := keyUnique_append.mp hrequests
  have hold : ∀ i ∈ db.customerCancellationRequestItem, i.requestId ≠ requestId := by
    intro i hi heq
    obtain ⟨r, hr, hid⟩ := List.mem_map.mp (h.parent i hi)
    exact hfresh r hr _ (List.mem_singleton.mpr rfl) (hid.trans heq)
  refine ⟨⟨hrequests, hitems, fun i hi => ?_, fun i hi => ?_⟩, .inr ⟨requestId, _, fun i hi => ?_,
    hold, rfl⟩⟩
  · rw [List.map_append, List.mem_append]
    rcases List.mem_append.mp hi with hi | hi
    · exact .inl (h.parent i hi)
    · refine .inr (List.mem_map.mpr ⟨_, List.mem_singleton.mpr rfl, ?_⟩)
      exact (mem_newItems hi).1.symm
  · rcases List.mem_append.mp hi with hi | hi
    · exact h.onPath i hi
    · exact .inl (mem_newItems hi).2.1
  · exact ⟨(mem_newItems hi).1, (mem_newItems hi).2.1⟩

lemma ItemsWellFormed.itemChange (h : ItemsWellFormed db) (hchange : ItemChange db db') :
    ItemsWellFormed db' ∧ (ItemsMoved db db' ∨ ItemsCreated db db') := by
  cases hchange with
  | same hs => exact ⟨h.moved (.of_same hs), .inl (.of_same hs)⟩
  | create _ _ _ hcreate => exact h.create hcreate
  | move item status resolvedQuantity resolvedAt hitem hadvance _ hs =>
      have hmoved : ItemsMoved db db' :=
        (moveItem_moved h hitem hadvance resolvedQuantity _ resolvedAt).trans (.of_same hs)
      exact ⟨h.moved hmoved, .inl hmoved⟩

end CancellationDb

/-- **The step lemma of the rows**: items are created or move on. -/
lemma itemsWellFormed_step {a : Action} {w w' : World} (h : w.db.ItemsWellFormed)
    (hstep : step a w = .ok w') :
    w'.db.ItemsWellFormed ∧ (w.db.ItemsMoved w'.db ∨ w.db.ItemsCreated w'.db) := by
  obtain hchange | ⟨event, now, -, hingest⟩ := step_itemChange hstep
  · exact h.itemChange hchange
  · have hmoved := CancellationDb.ingest_moved h hingest
    exact ⟨h.moved hmoved, .inl hmoved⟩

end VendorDashboard.Orders

import VendorDashboard.Properties.CancellationWorkers

/-!
# The local orders and Shopify's

`ShopChange` lists what a step can do to Shopify's orders and to the local copies of their
lines.  From it follows that the two agree in every run (`StoreMatches`): the same lines at the
same quantities, no line in two orders, and a store that is consistent across all orders.

Its use is `eq_of_takes`: when one refund takes the whole quantity of a line, every refund of
that line is this refund.
-/

namespace VendorDashboard.Orders

open Finance (Id Instant)
open Table Transaction Run

namespace CancellationDb

variable {db db' : CancellationDb}

/-! ## The services do not write the orders -/

/-- The orders and the shipping claims are the same. -/
structure SameOrders (db db' : CancellationDb) : Prop where
  orders : db'.shopifyOrder = db.shopifyOrder
  claims : db'.orderShippingRefundClaim = db.orderShippingRefundClaim

lemma SameOrders.refl (db : CancellationDb) : SameOrders db db := ⟨rfl, rfl⟩

lemma SameOrders.trans {db'' : CancellationDb} (h : SameOrders db db')
    (h' : SameOrders db' db'') : SameOrders db db'' :=
  ⟨h'.orders.trans h.orders, h'.claims.trans h.claims⟩

lemma create_sameOrders {rawInput : CreateVerifiedCustomerCancellationRequestInput}
    {requestId : Id} {itemIds : List Id}
    (h : db.createPendingCustomerCancellationRequest rawInput requestId itemIds = .ok db') :
    SameOrders db db' := by
  obtain rfl | ⟨_, _, _, -, -, -, -, -, -, -, -, -, rfl⟩ := create_ok h
  · exact .refl db'
  · exact ⟨rfl, rfl⟩

lemma approveItem_sameOrders {requestId itemId : Id}
    (h : db.approveCustomerCancellationItemForRefund requestId itemId = .ok db') :
    SameOrders db db' := by
  simp only [approveCustomerCancellationItemForRefund, bind_eq_ok, getOrThrow_eq_ok,
    require_eq_ok, pure_eq_ok] at h
  obtain ⟨item, -, _, -, request, -, _, -, rfl⟩ := h
  exact ⟨rfl, rfl⟩

lemma insertAttempt_sameOrders {attempt : OutboundShopifyRefundAttempt}
    (h : db.insertAttempt attempt = .ok db') : SameOrders db db' := by
  simp only [insertAttempt, bind_eq_ok, require_eq_ok, insertRows_eq_ok, pure_eq_ok] at h
  obtain ⟨-, -, attempts, -, rfl⟩ := h
  exact ⟨rfl, rfl⟩

lemma autoApproveItem_sameOrders (item : CustomerCancellationRequestItem) :
    SameOrders db (db.autoApproveItem item) := by
  unfold autoApproveItem
  split <;> exact ⟨rfl, rfl⟩

lemma approveAndCreateAttempt_sameOrders {itemId attemptId : Id} {now : Instant}
    {context : CustomerCancellationAutoRefundCleanContext} {attempt : OutboundShopifyRefundAttempt}
    (h : db.approveAndCreateAttempt itemId context attemptId now = .ok (db', attempt)) :
    SameOrders db db' := by
  simp only [approveAndCreateAttempt, bind_eq_ok, getOrThrow_eq_ok, require_eq_ok] at h
  obtain ⟨item, -, allocation, -, _, -, _, -, _, -, _, -, h⟩ := h
  split at h
  next =>
    simp only [pure_eq_ok, Prod.mk.injEq] at h
    obtain ⟨rfl, -⟩ := h
    exact autoApproveItem_sameOrders item
  next =>
    simp only [bind_eq_ok, pure_eq_ok, Prod.mk.injEq] at h
    obtain ⟨inserted, hinsert, rfl, -⟩ := h
    exact (autoApproveItem_sameOrders item).trans (insertAttempt_sameOrders hinsert)

lemma reconcileItem_sameOrders (itemId : Id) (now : Instant) :
    SameOrders db (db.reconcileItem itemId now) := by
  unfold reconcileItem
  split
  · exact .refl db
  · simp only
    split <;> exact ⟨rfl, rfl⟩

lemma finalizeApproved_sameOrders (itemId : Id) (now : Instant) :
    SameOrders db (db.finalizeApproved itemId now) := by
  unfold finalizeApproved
  split
  · exact .refl db
  · simp only
    split <;> exact ⟨rfl, rfl⟩

lemma persistOrderCancelEvidence_sameOrders (itemId : Id) (jobId : Option Id) :
    SameOrders db (db.persistOrderCancelEvidence itemId jobId) := by
  unfold persistOrderCancelEvidence
  split <;> exact ⟨rfl, rfl⟩

lemma writePreview_sameOrders {existing : Option Id} {input : CreatePreviewAttemptInput}
    {newId : Id} {now : Instant} (h : db.writePreview existing input newId now = .ok db') :
    SameOrders db db' := by
  cases existing with
  | none => exact insertAttempt_sameOrders h
  | some id =>
      obtain rfl := Except.ok.inj h
      exact ⟨rfl, rfl⟩

lemma writeExecution_sameOrders {existing : Option Id} {input : CreatePreviewAttemptInput}
    {newId : Id} {now : Instant} (h : db.writeExecution existing input newId now = .ok db') :
    SameOrders db db' := by
  cases existing with
  | none => exact insertAttempt_sameOrders h
  | some id =>
      obtain rfl := Except.ok.inj h
      exact ⟨rfl, rfl⟩

/-- The claim is there already, or it is added. -/
lemma createShippingClaim_ok {shopifyOrderId attemptId claimId : Id} {now : Instant}
    {outcome : ClaimAcquisition}
    (h : db.createShippingClaim shopifyOrderId attemptId claimId now = .ok (db', outcome)) :
    db' = db ∨ ∃ claim : OrderShippingRefundClaim, claim.status = .active ∧
      KeyUnique OrderShippingRefundClaim.id (db.orderShippingRefundClaim ++ [claim]) ∧
      db' = { db with orderShippingRefundClaim := db.orderShippingRefundClaim ++ [claim] } := by
  unfold createShippingClaim at h
  split at h
  next =>
    simp only [Except.ok.injEq, Prod.mk.injEq] at h
    exact .inl h.1.symm
  next =>
    simp only [bind_eq_ok, insertRows_eq_ok, pure_eq_ok, Prod.mk.injEq] at h
    obtain ⟨claims, ⟨hunique, rfl⟩, rfl, -⟩ := h
    exact .inr ⟨_, rfl, hunique, rfl⟩

lemma shippingOnly_orders {orderId refundId : Id} {target : Option Id}
    (h : db.reconcileVerifiedShippingOnlyRefund orderId refundId target = .ok db') :
    db'.shopifyOrder = db.shopifyOrder := by
  simp only [reconcileVerifiedShippingOnlyRefund, bind_eq_ok, require_eq_ok, getOrThrow_eq_ok] at h
  obtain ⟨_, -, claim, -, attempt, -, allocation, -, _, -, h⟩ := h
  split at h
  next => rw [pure_eq_ok.mp h]
  next =>
    split at h
    next => rw [pure_eq_ok.mp h]
    next =>
      simp only [bind_eq_ok, require_eq_ok, pure_eq_ok] at h
      obtain ⟨_, -, rfl⟩ := h
      split <;> rfl

lemma acceptRefundGroup_orders (before : CancellationDb) (event : RefundEvent)
    (vendorAllocationId : Id) :
    (db.acceptRefundGroup before event vendorAllocationId).shopifyOrder = db.shopifyOrder := by
  unfold acceptRefundGroup resolveCancelRefundReviewAfterRefundIngestion
  split
  · rfl
  · split <;> rfl

lemma foldl_acceptRefundGroup_orders (before : CancellationDb) (event : RefundEvent)
    (ids : List Id) :
    (ids.foldl (fun acc a => acc.acceptRefundGroup before event a) db).shopifyOrder =
      db.shopifyOrder := by
  induction ids generalizing db with
  | nil => rfl
  | cons a ids ih => exact ih.trans (acceptRefundGroup_orders before event a)

lemma foldl_applyRefundToItem_orders (siblings : Id → List CustomerCancellationRequestItem)
    (refundId : Id) (now : Instant) (items : List CustomerCancellationRequestItem) :
    (items.foldl (fun acc i => acc.applyRefundToItem (siblings i.requestId) refundId i now)
      db).shopifyOrder = db.shopifyOrder := by
  induction items generalizing db with
  | nil => rfl
  | cons i items ih => exact ih.trans rfl

lemma ingestShopifyRefundWebhook_orders {event : RefundEvent} {now : Instant}
    (h : db.ingestShopifyRefundWebhook event now = .ok db') :
    db'.shopifyOrder = db.shopifyOrder := by
  simp only [ingestShopifyRefundWebhook, bind_eq_ok, require_eq_ok] at h
  obtain ⟨_, -, h⟩ := h
  split at h
  next =>
    simp only [bind_eq_ok, require_eq_ok] at h
    obtain ⟨_, -, h⟩ := h
    exact shippingOnly_orders h
  next =>
    simp only [bind_eq_ok, require_eq_ok, pure_eq_ok] at h
    obtain ⟨_, -, rfl⟩ := h
    split
    · exact (foldl_applyRefundToItem_orders _ _ now _).trans
        (foldl_acceptRefundGroup_orders db event _)
    · exact foldl_acceptRefundGroup_orders db event _

end CancellationDb

namespace World

open CancellationDb

lemma JobWrite.sameOrders {db db' : CancellationDb} {itemId : Id} {position : JobStep}
    (h : JobWrite db itemId position db') : SameOrders db db' := by
  cases h with
  | none => exact .refl db
  | reconcile => exact reconcileItem_sameOrders _ _
  | approve _ _ _ _ _ h => exact approveAndCreateAttempt_sameOrders h
  | fail => exact ⟨rfl, rfl⟩
  | record => exact ⟨rfl, rfl⟩
  | persist => exact persistOrderCancelEvidence_sameOrders _ _
  | finalize => exact finalizeApproved_sameOrders _ _

lemma ExecutionWrite.orders {db db' : CancellationDb} {input : CreatePreviewAttemptInput}
    {position : ExecutionStep} (h : ExecutionWrite db input position db') :
    db'.shopifyOrder = db.shopifyOrder := by
  cases h with
  | none => rfl
  | preview _ _ _ _ h => exact (writePreview_sameOrders h).orders
  | lock _ _ _ _ h => exact (writeExecution_sameOrders h).orders
  | claim _ _ _ _ _ h => obtain rfl | ⟨_, -, -, rfl⟩ := createShippingClaim_ok h <;> rfl
  | fail => rfl
  | record => rfl
  | review => rfl

variable {w w' : World}

lemma putDb_shop {x : Except String CancellationDb} (h : w.putDb <$> x = .ok w') :
    w'.shop = w.shop := by
  cases x with
  | error => cases h
  | ok db =>
      obtain rfl := Except.ok.inj h
      rfl

lemma startWorker_ok {i : Id} {worker : Worker} (h : w.startWorker i worker = .ok w') :
    (w.worker i).isNone = true ∧ w' = w.putWorker i (some worker) := by
  simp only [startWorker, bind_eq_ok, require_eq_ok, pure_eq_ok] at h
  obtain ⟨-, hfree, rfl⟩ := h
  exact ⟨hfree, rfl⟩

end World

/-! ## Shopify's orders -/

/-- What a step does to Shopify's orders and the local ones. -/
inductive ShopChange (w w' : World) : Prop
  | same (hshop : w'.shop = w.shop) (horders : w'.db.shopifyOrder = w.db.shopifyOrder)
  | record (order : ShopifyOrder) (allocations : List VendorAllocation)
      (lines : List VendorAllocationLineItem) (shopOrder : StoreOrder)
      (h : w.recordOrder order allocations lines shopOrder = .ok w')
  | merchant (orderId : Id) (refund : StoreRefund) (hkey : refund.idempotencyKey = none)
      (h : w.executeRefund orderId refund = .ok w')
  | execute (submission : CreateShopifyRefundInput) (refundId : Id) (amountMinor : ℕ)
      (h : w.executeSubmission submission refundId amountMinor = .ok w')
  | cancel (orderId : Id)
      (h : w' = { w with
        shop := updateWhere (fun o => decide (o.sourceShopifyOrderId = orderId))
          (fun o => { o with cancelled := true }) w.shop })

theorem step_shopChange {a : Action} {w w' : World} (h : step a w = .ok w') :
    ShopChange w w' := by
  cases a with
  | recordOrder order allocations lines shopOrder => exact .record _ _ _ _ h
  | updateAllocation allocation =>
      obtain rfl := Except.ok.inj h
      exact .same rfl rfl
  | merchantRefund orderId refund => exact .merchant _ _ rfl h
  | cancelShopifyOrder orderId => exact .cancel orderId (Except.ok.inj h).symm
  | executeSubmission submission refundId amountMinor => exact .execute _ _ _ h
  | createRequest input requestId itemIds =>
      exact .same (World.putDb_shop h) (CancellationDb.create_sameOrders (World.putDb_eq_ok h)).orders
  | approveItem requestId itemId =>
      exact .same (World.putDb_shop h) (CancellationDb.approveItem_sameOrders (World.putDb_eq_ok h)).orders
  | ingestRefund event now =>
      simp only [step, bind_eq_ok, require_eq_ok] at h
      obtain ⟨-, -, h⟩ := h
      exact .same (World.putDb_shop h)
        (CancellationDb.ingestShopifyRefundWebhook_orders (World.putDb_eq_ok h))
  | startJob i itemId =>
      obtain ⟨-, rfl⟩ := World.startWorker_ok h
      exact .same rfl rfl
  | startPreview i input =>
      obtain ⟨-, rfl⟩ := World.startWorker_ok h
      exact .same rfl rfl
  | startExecution i input =>
      obtain ⟨-, rfl⟩ := World.startWorker_ok h
      exact .same rfl rfl
  | stop i =>
      obtain rfl := Except.ok.inj h
      exact .same rfl rfl
  | run i reply =>
      obtain ⟨_, _, w₁, _, -, hrun, rfl⟩ | ⟨_, _, w₁, _, -, hrun, rfl⟩ := World.runWorker_ok h
      · exact .same (World.runJob_shop hrun).1 (World.runJob_write hrun).sameOrders.orders
      · exact .same (World.runExecution_shop hrun).1 (World.runExecution_write hrun).orders

/-! ## The local copies agree -/

/-- The lines of an order, as both sides keep them. -/
def StoreOrder.linePairs (o : StoreOrder) : List (Id × ℕ) :=
  o.lineItems.map fun l => (l.sourceLineItemId, l.quantity)

def ShopifyOrder.linePairs (o : ShopifyOrder) : List (Id × ℕ) :=
  o.lineItems.map fun l => (l.sourceLineItemId, l.quantity)

structure StoreMatches (w : World) : Prop where
  lines : w.shop.flatMap StoreOrder.linePairs = w.db.shopifyOrder.flatMap ShopifyOrder.linePairs
  lineIds : ((w.db.shopifyOrder.flatMap (·.lineItems)).map (·.sourceLineItemId)).Nodup
  localIds : ((w.db.shopifyOrder.flatMap (·.lineItems)).map (·.id)).Nodup
  consistent : ∀ o ∈ w.shop, o.Consistent
  refundIds : ∀ s ∈ w.refunds, ∀ s' ∈ w.refunds, s.id = s'.id → s = s'
  keys : ∀ s ∈ w.refunds, ∀ s' ∈ w.refunds, s.idempotencyKey.isSome →
    s.idempotencyKey = s'.idempotencyKey → s = s'

namespace World

variable {w w' : World}

lemma mem_refunds {s : StoreRefund} : s ∈ w.refunds ↔ ∃ o ∈ w.shop, s ∈ o.refunds := by
  simp [refunds]

/-- **What an execution does**: the refund, if Shopify knows the order. -/
lemma executeRefund_ok {orderId : Id} {refund : StoreRefund}
    (h : w.executeRefund orderId refund = .ok w') :
    (∀ o ∈ w.shop, o.sourceShopifyOrderId = orderId → o.Accepts refund) ∧
      (∀ x ∈ w.refunds, x.id ≠ refund.id ∧
        (refund.idempotencyKey.isSome → x.idempotencyKey ≠ refund.idempotencyKey)) ∧
      w' = { w with
        shop := updateWhere (fun o => decide (o.sourceShopifyOrderId = orderId))
          (fun o => o.execute refund) w.shop } := by
  simp only [executeRefund, bind_eq_ok, require_eq_ok, pure_eq_ok] at h
  obtain ⟨_, haccepts, _, hnew, rfl⟩ := h
  exact ⟨haccepts, hnew, rfl⟩

lemma mem_refunds_execute {orderId : Id} {refund s : StoreRefund}
    (h : w.executeRefund orderId refund = .ok w') (hs : s ∈ w'.refunds) :
    s ∈ w.refunds ∨ s = refund := by
  obtain ⟨-, -, rfl⟩ := executeRefund_ok h
  obtain ⟨o', ho', hs⟩ := mem_refunds.mp hs
  obtain ⟨o, ho, rfl⟩ := mem_updateWhere.mp ho'
  split at hs
  · rcases List.mem_append.mp hs with hs | hs
    · exact .inl (mem_refunds.mpr ⟨o, ho, hs⟩)
    · exact .inr (List.mem_singleton.mp hs)
  · exact .inl (mem_refunds.mpr ⟨o, ho, hs⟩)

lemma refunds_subset_execute {orderId : Id} {refund : StoreRefund}
    (h : w.executeRefund orderId refund = .ok w') : w.refunds ⊆ w'.refunds := by
  obtain ⟨-, -, rfl⟩ := executeRefund_ok h
  intro s hs
  obtain ⟨o, ho, hs⟩ := mem_refunds.mp hs
  refine mem_refunds.mpr ⟨_, mem_updateWhere.mpr ⟨o, ho, rfl⟩, ?_⟩
  split
  · exact List.mem_append_left _ hs
  · exact hs

end World

namespace StoreMatches

variable {w w' : World}

lemma init : StoreMatches World.init where
  lines := rfl
  lineIds := by simp [World.init, CancellationDb.empty]
  localIds := by simp [World.init, CancellationDb.empty]
  consistent := by simp [World.init]
  refundIds := by simp [World.init, World.refunds]
  keys := by simp [World.init, World.refunds]

lemma same (h : StoreMatches w) (hshop : w'.shop = w.shop)
    (horders : w'.db.shopifyOrder = w.db.shopifyOrder) : StoreMatches w' := by
  have hrefunds : w'.refunds = w.refunds := by
    unfold World.refunds
    rw [hshop]
  constructor
  · rw [hshop, horders]
    exact h.lines
  · rw [horders]
    exact h.lineIds
  · rw [horders]
    exact h.localIds
  · rw [hshop]
    exact h.consistent
  · rw [hrefunds]
    exact h.refundIds
  · rw [hrefunds]
    exact h.keys

lemma execute (h : StoreMatches w) {orderId : Id} {refund : StoreRefund}
    (hexecute : w.executeRefund orderId refund = .ok w') : StoreMatches w' := by
  have hmem {s : StoreRefund} (hs : s ∈ w'.refunds) : s ∈ w.refunds ∨ s = refund :=
    World.mem_refunds_execute hexecute hs
  obtain ⟨haccepts, hnew, rfl⟩ := World.executeRefund_ok hexecute
  constructor
  · rw [← h.lines]
    exact flatMap_updateWhere (fun _ => by rfl) _
  · exact h.lineIds
  · exact h.localIds
  · intro o' ho'
    obtain ⟨o, ho, rfl⟩ := mem_updateWhere.mp ho'
    split
    next hid => exact (h.consistent o ho).execute (haccepts o ho (of_decide_eq_true hid))
    next => exact h.consistent o ho
  · intro s hs s' hs' hid
    rcases hmem hs with hso | hsr <;> rcases hmem hs' with hso' | hsr'
    · exact h.refundIds s hso s' hso' hid
    · exact absurd (hsr' ▸ hid) (hnew s hso).1
    · exact absurd (hsr ▸ hid.symm) (hnew s' hso').1
    · exact hsr.trans hsr'.symm
  · intro s hs s' hs' hsome hkey
    rcases hmem hs with hso | hsr <;> rcases hmem hs' with hso' | hsr'
    · exact h.keys s hso s' hso' hsome hkey
    · exact absurd (hsr' ▸ hkey) ((hnew s hso).2 (hsr' ▸ hkey ▸ hsome))
    · exact absurd (hsr ▸ hkey.symm) ((hnew s' hso').2 (hsr ▸ hsome))
    · exact hsr.trans hsr'.symm

lemma cancel (h : StoreMatches w) (orderId : Id) :
    StoreMatches { w with
      shop := updateWhere (fun o => decide (o.sourceShopifyOrderId = orderId))
        (fun o => { o with cancelled := true }) w.shop } := by
  have hrefunds : (updateWhere (fun o => decide (o.sourceShopifyOrderId = orderId))
      (fun o => { o with cancelled := true }) w.shop).flatMap (·.refunds) = w.refunds :=
    flatMap_updateWhere (fun _ => by rfl) _
  constructor
  · rw [← h.lines]
    exact flatMap_updateWhere (fun _ => by rfl) _
  · exact h.lineIds
  · exact h.localIds
  · intro o' ho'
    obtain ⟨o, ho, rfl⟩ := mem_updateWhere.mp ho'
    obtain ⟨hquantity, hlines, hshipping, hids, hkeys⟩ := h.consistent o ho
    split <;> exact ⟨hquantity, hlines, hshipping, hids, hkeys⟩
  · unfold World.refunds
    rw [hrefunds]
    exact h.refundIds
  · unfold World.refunds
    rw [hrefunds]
    exact h.keys

lemma record (h : StoreMatches w) {order : ShopifyOrder} {allocations : List VendorAllocation}
    {lines : List VendorAllocationLineItem} {shopOrder : StoreOrder}
    (hrecord : w.recordOrder order allocations lines shopOrder = .ok w') : StoreMatches w' := by
  simp only [World.recordOrder, bind_eq_ok, require_eq_ok, insertRows_eq_ok, pure_eq_ok] at hrecord
  obtain ⟨_, ⟨-, hempty, -, hpairs⟩, _, hlineIds, _, hlocalIds, _, -, orders, ⟨-, rfl⟩, _, -,
    allocations, -, rfl⟩ := hrecord
  have hrefunds : (w.shop ++ [shopOrder]).flatMap (·.refunds) = w.refunds := by
    rw [List.flatMap_append, List.flatMap_singleton, hempty, List.append_nil]
    rfl
  constructor
  · rw [List.flatMap_append, List.flatMap_append, List.flatMap_singleton, List.flatMap_singleton,
      h.lines]
    exact congrArg _ hpairs.symm
  · exact hlineIds
  · exact hlocalIds
  · intro o ho
    rcases List.mem_append.mp ho with ho | ho
    · exact h.consistent o ho
    · rw [List.mem_singleton.mp ho]
      constructor <;> simp [hempty, StoreOrder.refundedQuantityOf, StoreOrder.refundedShipping,
        KeyUnique]
  · unfold World.refunds
    rw [hrefunds]
    exact h.refundIds
  · unfold World.refunds
    rw [hrefunds]
    exact h.keys

/-- **The step lemma.** -/
lemma step {a : Action} (h : StoreMatches w) (hstep : Orders.step a w = .ok w') :
    StoreMatches w' := by
  cases step_shopChange hstep with
  | same hshop horders => exact h.same hshop horders
  | record _ _ _ _ hrecord => exact h.record hrecord
  | merchant _ _ _ hexecute => exact h.execute hexecute
  | execute submission refundId amountMinor hexecute =>
      simp only [World.executeSubmission, bind_eq_ok, require_eq_ok] at hexecute
      obtain ⟨-, -, hexecute⟩ := hexecute
      exact h.execute hexecute
  | cancel orderId hw' => exact hw' ▸ h.cancel orderId

/-- Shopify's orders have each line once. -/
lemma shopLineIds (h : StoreMatches w) :
    (w.shop.flatMap fun o => o.lineItems.map (·.sourceLineItemId)).Nodup := by
  have hids : w.shop.flatMap (fun o => o.lineItems.map (·.sourceLineItemId)) =
      (w.db.shopifyOrder.flatMap (·.lineItems)).map (·.sourceLineItemId) := by
    have hfst := congrArg (List.map Prod.fst) h.lines
    simpa only [List.map_flatMap, StoreOrder.linePairs, ShopifyOrder.linePairs, List.map_map,
      Function.comp_def] using hfst
  rw [hids]
  exact h.lineIds

/-- A line is in one order. -/
lemma order_eq (h : StoreMatches w) {o o' : StoreOrder} (ho : o ∈ w.shop) (ho' : o' ∈ w.shop)
    {lineItemId : Id} (hl : lineItemId ∈ o.lineItems.map (·.sourceLineItemId))
    (hl' : lineItemId ∈ o'.lineItems.map (·.sourceLineItemId)) : o = o' := by
  have hdisjoint := (List.nodup_flatMap.mp h.shopLineIds).2
  by_contra hne
  have : Std.Symm (Function.onFun List.Disjoint
      fun o : StoreOrder => o.lineItems.map (·.sourceLineItemId)) := ⟨fun _ _ hd => hd.symm⟩
  exact hdisjoint.forall ho ho' hne hl hl'

/-- A line is in its order once. -/
lemma lineItems_unique (h : StoreMatches w) {o : StoreOrder} (ho : o ∈ w.shop) :
    KeyUnique StoreLine.sourceLineItemId o.lineItems :=
  (List.nodup_flatMap.mp h.shopLineIds).1 o ho

lemma exists_of_refundedQuantity_pos {lines : List (Id × ℕ)} {lineItemId : Id}
    (h : 0 < refundedQuantity lines lineItemId) : ∃ l ∈ lines, l.1 = lineItemId := by
  unfold refundedQuantity at h
  cases hf : lines.filter fun l => decide (l.1 = lineItemId) with
  | nil => simp [hf] at h
  | cons l rest =>
      have hl : l ∈ lines.filter fun l => decide (l.1 = lineItemId) := hf ▸ List.mem_cons_self
      obtain ⟨hmem, heq⟩ := List.mem_filter.mp hl
      exact ⟨l, hmem, of_decide_eq_true heq⟩

/-- **The only refund of a line**: a refund that takes its whole quantity. -/
theorem eq_of_takes (h : StoreMatches w) {lineItemId : Id} {quantity : ℕ}
    (hline : (lineItemId, quantity) ∈ w.db.shopifyOrder.flatMap ShopifyOrder.linePairs)
    (hquantity : 0 < quantity) {s s' : StoreRefund} (hs : s ∈ w.refunds) (hs' : s' ∈ w.refunds)
    (htakes : quantity ≤ refundedQuantity s.lines lineItemId)
    (hpos : 0 < refundedQuantity s'.lines lineItemId) : s' = s := by
  rw [← h.lines, List.mem_flatMap] at hline
  obtain ⟨o, ho, hpair⟩ := hline
  obtain ⟨l, hl, heq⟩ := List.mem_map.mp hpair
  obtain ⟨rfl, rfl⟩ := Prod.mk.inj heq
  -- both refunds are refunds of the order of the line
  have hof {r : StoreRefund} (hr : r ∈ w.refunds)
      (hp : 0 < refundedQuantity r.lines l.sourceLineItemId) : r ∈ o.refunds := by
    obtain ⟨o', ho', hr'⟩ := World.mem_refunds.mp hr
    obtain ⟨x, hx, hxl⟩ := exists_of_refundedQuantity_pos hp
    have hin := (h.consistent o' ho').lines r hr' x hx
    rw [hxl] at hin
    rw [h.order_eq ho ho' (List.mem_map_of_mem hl) hin]
    exact hr'
  exact (h.consistent o ho).refund_eq_of_covers hl (hof hs (hquantity.trans_le htakes))
    (hof hs' hpos) htakes hpos

end StoreMatches

end VendorDashboard.Orders

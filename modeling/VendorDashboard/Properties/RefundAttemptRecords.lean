import VendorDashboard.Properties.RefundAttemptIdentity

/-!
# What the attempt of an item records

The lines of an attempt are written once, when the attempt is created, unless an administrator
locks a preview again.  So the attempt of a cancellation item keeps the quantities and the
shipping that its job recorded (`step_attemptRecords`), and the item has left `PENDING` since
(`OwnInvariant.processed`).
-/

namespace VendorDashboard.Orders

open Finance (Id Instant CustomerCancellationStatus)
open Table Transaction Run

/-- The attempt, the item it belongs to and the lines it records. -/
abbrev AttemptRecord := Id × Option Id × List SubmittedRefundLine

def OutboundShopifyRefundAttempt.record (x : OutboundShopifyRefundAttempt) : AttemptRecord :=
  (x.id, x.customerCancellationRequestItemId, x.refundLineItemsJson)

namespace CancellationDb

variable {db db' : CancellationDb}

def attemptRecords (db : CancellationDb) : List AttemptRecord :=
  db.outboundShopifyRefundAttempt.map (·.record)

/-- A new attempt of an item, recorded from a context. -/
def RecordedFrom (db : CancellationDb) (itemId : Id)
    (context : CustomerCancellationAutoRefundCleanContext) (record : AttemptRecord) : Prop :=
  db.attemptOf itemId = none ∧ ∃ item attemptId now, db.findItem itemId = some item ∧
    record = (cancellationAttempt item context attemptId now).record

/-- The item has left `PENDING`. -/
def Processed (db : CancellationDb) (itemId : Id) : Prop :=
  ∃ i ∈ db.customerCancellationRequestItem, i.id = itemId ∧ i.status ≠ .pending

lemma Advances.not_pending {s t : CustomerCancellationStatus}
    (h : Relation.ReflTransGen Advances s t) (hs : s ≠ .pending) : t ≠ .pending := by
  induction h with
  | refl => exact hs
  | tail _ hadvance _ =>
      rintro rfl
      cases hadvance

lemma Processed.moved {itemId : Id} (h : db.Processed itemId)
    (hm : db.ItemsMoved db' ∨ db.ItemsCreated db') : db'.Processed itemId := by
  obtain ⟨i, hi, hid, hstatus⟩ := h
  rcases hm with ⟨-, f, hf, hscope, hadvances⟩ | ⟨_, _, -, -, hitems⟩
  · exact ⟨f i, hf ▸ List.mem_map_of_mem hi, (hscope i).1.trans hid,
      Advances.not_pending (hadvances i hi) hstatus⟩
  · exact ⟨i, hitems ▸ List.mem_append_left _ hi, hid, hstatus⟩

lemma autoApproveItem_processed {item : CustomerCancellationRequestItem}
    (hitem : item ∈ db.customerCancellationRequestItem) :
    (db.autoApproveItem item).Processed item.id := by
  unfold autoApproveItem
  split
  next =>
    refine ⟨_, mem_updateWhere.mpr ⟨item, hitem, rfl⟩, ?_⟩
    simp
  next hstatus => exact ⟨item, hitem, rfl, hstatus⟩

lemma acceptRefundGroup_records (before : CancellationDb) (event : RefundEvent)
    (vendorAllocationId : Id) :
    (db.acceptRefundGroup before event vendorAllocationId).attemptRecords = db.attemptRecords := by
  unfold acceptRefundGroup resolveCancelRefundReviewAfterRefundIngestion
  split
  · exact map_updateWhere (fun _ => by rfl) _
  · refine (map_updateWhere (fun _ => by rfl) _).trans ?_
    split <;> rfl

lemma foldl_acceptRefundGroup_records (before : CancellationDb) (event : RefundEvent)
    (ids : List Id) : (ids.foldl (fun acc a => acc.acceptRefundGroup before event a)
      db).attemptRecords = db.attemptRecords := by
  induction ids generalizing db with
  | nil => rfl
  | cons a ids ih => exact ih.trans (acceptRefundGroup_records before event a)

lemma foldl_applyRefundToItem_records (siblings : Id → List CustomerCancellationRequestItem)
    (refundId : Id) (now : Instant) (items : List CustomerCancellationRequestItem) :
    (items.foldl (fun acc i => acc.applyRefundToItem (siblings i.requestId) refundId i now)
      db).attemptRecords = db.attemptRecords := by
  induction items generalizing db with
  | nil => rfl
  | cons item items ih => exact ih.trans (map_updateWhere (fun _ => by rfl) _)

lemma shippingOnly_records {orderId refundId : Id} {target : Option Id}
    (h : db.reconcileVerifiedShippingOnlyRefund orderId refundId target = .ok db') :
    db'.attemptRecords = db.attemptRecords := by
  simp only [reconcileVerifiedShippingOnlyRefund, bind_eq_ok, require_eq_ok, getOrThrow_eq_ok] at h
  obtain ⟨_, -, claim, -, attempt, -, allocation, -, _, -, h⟩ := h
  split at h
  next => exact pure_eq_ok.mp h ▸ rfl
  next =>
    split at h
    next => exact pure_eq_ok.mp h ▸ rfl
    next =>
      simp only [bind_eq_ok, require_eq_ok, pure_eq_ok] at h
      obtain ⟨_, -, rfl⟩ := h
      split <;> exact map_updateWhere (fun _ => by rfl) _

/-- A webhook records nothing. -/
lemma ingest_records {event : RefundEvent} {now : Instant}
    (h : db.ingestShopifyRefundWebhook event now = .ok db') :
    db'.attemptRecords = db.attemptRecords := by
  simp only [ingestShopifyRefundWebhook, bind_eq_ok, require_eq_ok] at h
  obtain ⟨_, -, h⟩ := h
  split at h
  next =>
    simp only [bind_eq_ok, require_eq_ok] at h
    obtain ⟨_, -, h⟩ := h
    exact shippingOnly_records h
  next =>
    simp only [bind_eq_ok, require_eq_ok, pure_eq_ok] at h
    obtain ⟨_, -, rfl⟩ := h
    have haccepted := @foldl_acceptRefundGroup_records db db event event.acceptedAllocationIds
    split
    · exact (foldl_applyRefundToItem_records _ _ now _).trans haccepted
    · exact haccepted

lemma insertAttempt_records {attempt : OutboundShopifyRefundAttempt}
    (h : db.insertAttempt attempt = .ok db') :
    db'.attemptRecords = db.attemptRecords ++ [attempt.record] := by
  simp only [insertAttempt, bind_eq_ok, require_eq_ok, insertRows_eq_ok, pure_eq_ok] at h
  obtain ⟨-, -, attempts, ⟨-, rfl⟩, rfl⟩ := h
  exact List.map_append

lemma approve_records {itemId attemptId : Id} {now : Instant}
    {context : CustomerCancellationAutoRefundCleanContext} {attempt : OutboundShopifyRefundAttempt}
    (h : db.approveAndCreateAttempt itemId context attemptId now = .ok (db', attempt)) :
    db'.Processed itemId ∧ ∀ r ∈ db'.attemptRecords,
      r ∈ db.attemptRecords ∨ db.RecordedFrom itemId context r := by
  simp only [approveAndCreateAttempt, bind_eq_ok, getOrThrow_eq_ok, require_eq_ok] at h
  obtain ⟨item, hfind, allocation, -, _, -, _, -, _, -, _, -, h⟩ := h
  have hsame : (db.autoApproveItem item).attemptRecords = db.attemptRecords := by
    unfold autoApproveItem
    split <;> rfl
  obtain ⟨hitem, rfl⟩ := mem_of_findItem hfind
  have hprocessed := autoApproveItem_processed hitem
  split at h
  next =>
    simp only [pure_eq_ok, Prod.mk.injEq] at h
    obtain ⟨rfl, -⟩ := h
    exact ⟨hprocessed, fun r hr => .inl (hsame ▸ hr)⟩
  next hnone =>
    rw [attemptOf, World.autoApproveItem_attempts] at hnone
    simp only [bind_eq_ok, pure_eq_ok, Prod.mk.injEq] at h
    obtain ⟨inserted, hinsert, rfl, -⟩ := h
    refine ⟨?_, fun r hr => ?_⟩
    · unfold Processed
      rw [(insertAttempt_sameItems hinsert).items]
      exact hprocessed
    rw [insertAttempt_records hinsert, hsame] at hr
    rcases List.mem_append.mp hr with hold | hnew
    · exact .inl hold
    · exact .inr ⟨hnone, item, attemptId, now, hfind, List.mem_singleton.mp hnew⟩

end CancellationDb

namespace World

open CancellationDb

variable {w w' : World} {a : Action}

lemma jobWrite_records {itemId : Id} {position : JobStep} {db' : CancellationDb}
    (h : JobWrite w.db itemId position db') : ∀ r ∈ db'.attemptRecords,
      r ∈ w.db.attemptRecords ∨ ∃ context, position = .approve context ∧
        w.db.RecordedFrom itemId context r ∧ db'.Processed itemId := by
  have hsame (heq : db'.attemptRecords = w.db.attemptRecords) : ∀ r ∈ db'.attemptRecords,
      r ∈ w.db.attemptRecords ∨ ∃ context, position = .approve context ∧
        w.db.RecordedFrom itemId context r ∧ db'.Processed itemId :=
    fun r hr => .inl (heq ▸ hr)
  cases h with
  | none => exact hsame rfl
  | reconcile evidence now =>
      refine hsame ?_
      unfold reconcileItem
      split
      · rfl
      · simp only
        split
        · rfl
        · exact map_updateWhere (fun _ => by rfl) _
  | approve context attemptId now _ attempt happrove =>
      intro r hr
      obtain ⟨hprocessed, hrecords⟩ := approve_records happrove
      exact (hrecords r hr).imp_right fun hr => ⟨context, rfl, hr, hprocessed⟩
  | fail => exact hsame (map_updateWhere (fun _ => by rfl) _)
  | record => exact hsame (map_updateWhere (fun _ => by rfl) _)
  | persist =>
      refine hsame ?_
      unfold persistOrderCancelEvidence
      split
      · rfl
      · exact map_updateWhere (fun _ => by rfl) _
  | finalize now =>
      refine hsame ?_
      unfold finalizeApproved
      split
      · rfl
      · simp only
        split <;> rfl

/-- An update of an administrator's attempt leaves the records of the items alone. -/
lemma OwnInvariant.update_records (h : OwnInvariant w) {vendorAllocationId attemptId : Id}
    (hmanual : w.ManualAttempt vendorAllocationId attemptId)
    {f : OutboundShopifyRefundAttempt → OutboundShopifyRefundAttempt}
    (hf : ∀ x, (f x).customerCancellationRequestItemId = x.customerCancellationRequestItemId) :
    ∀ r ∈ (w.db.updateAttempt attemptId f).attemptRecords, r.2.1.isSome →
      r ∈ w.db.attemptRecords := by
  intro r hr hitem
  obtain ⟨x', hx', rfl⟩ := List.mem_map.mp hr
  obtain ⟨x, hx, rfl⟩ := mem_updateWhere.mp hx'
  split at hitem
  next hid =>
    rw [decide_eq_true_eq] at hid
    have hnone := (h.manual_item hmanual hx hid).1
    simp [OutboundShopifyRefundAttempt.record, hf, hnone] at hitem
  next hid =>
    rw [if_neg hid]
    exact List.mem_map_of_mem hx

lemma OwnInvariant.executionWrite_records (h : OwnInvariant w) {input : CreatePreviewAttemptInput}
    {position : ExecutionStep} (hok : w.ExecutionOk input position) {db' : CancellationDb}
    (hwrite : ExecutionWrite w.db input position db') :
    ∀ r ∈ db'.attemptRecords, r.2.1.isSome → r ∈ w.db.attemptRecords := by
  have hsame (heq : db'.attemptRecords = w.db.attemptRecords) : ∀ r ∈ db'.attemptRecords,
      r.2.1.isSome → r ∈ w.db.attemptRecords := fun r hr _ => heq ▸ hr
  have hinsert {attempt : OutboundShopifyRefundAttempt}
      (hnone : attempt.customerCancellationRequestItemId = none)
      (hinsert : w.db.insertAttempt attempt = .ok db') : ∀ r ∈ db'.attemptRecords,
        r.2.1.isSome → r ∈ w.db.attemptRecords := by
    intro r hr hitem
    rw [insertAttempt_records hinsert] at hr
    rcases List.mem_append.mp hr with hold | hnew
    · exact hold
    · rw [List.mem_singleton.mp hnew] at hitem
      simp [OutboundShopifyRefundAttempt.record, hnone] at hitem
  cases hwrite with
  | none => exact hsame rfl
  | preview existing newId now _ hwrite =>
      cases existing with
      | none => exact hinsert rfl hwrite
      | some id =>
          obtain rfl := Except.ok.inj hwrite
          exact h.update_records (hok id rfl) fun _ => rfl
  | lock existing newId now _ hwrite =>
      cases existing with
      | none => exact hinsert rfl hwrite
      | some id =>
          obtain rfl := Except.ok.inj hwrite
          exact h.update_records (hok id rfl) fun _ => rfl
  | claim _ _ _ _ _ hclaim =>
      refine hsame ?_
      obtain rfl | ⟨_, -, -, rfl⟩ := createShippingClaim_ok hclaim <;> rfl
  | fail => exact hsame (map_updateWhere (fun _ => by rfl) _)
  | record => exact hsame (map_updateWhere (fun _ => by rfl) _)
  | review => exact hsame rfl

/-- **What an item's attempt records**: it is an old record, or the job at its approval made
it. -/
theorem OwnInvariant.step_attemptRecords (h : OwnInvariant w) (hstep : Orders.step a w = .ok w') :
    ∀ r ∈ w'.db.attemptRecords, r.2.1.isSome → r ∈ w.db.attemptRecords ∨
      ∃ k itemId context, w.worker k = some (.job itemId (.approve context)) ∧
        w.db.RecordedFrom itemId context r ∧ w'.db.Processed itemId := by
  have hsame (hattempts : w'.db.outboundShopifyRefundAttempt =
      w.db.outboundShopifyRefundAttempt) : ∀ r ∈ w'.db.attemptRecords, r.2.1.isSome →
        r ∈ w.db.attemptRecords ∨ ∃ k itemId context,
          w.worker k = some (.job itemId (.approve context)) ∧
            w.db.RecordedFrom itemId context r ∧ w'.db.Processed itemId := by
    intro r hr _
    unfold attemptRecords at hr ⊢
    exact .inl (hattempts ▸ hr)
  cases a with
  | recordOrder order allocations lines shopOrder =>
      simp only [Orders.step, World.recordOrder, bind_eq_ok, require_eq_ok, insertRows_eq_ok,
        pure_eq_ok] at hstep
      obtain ⟨_, -, _, -, _, -, _, -, _, -, _, -, _, -, rfl⟩ := hstep
      exact hsame rfl
  | updateAllocation allocation =>
      obtain rfl := Except.ok.inj hstep
      exact hsame rfl
  | merchantRefund orderId refund => exact hsame (by rw [executeRefund_db hstep])
  | cancelShopifyOrder orderId =>
      obtain rfl := Except.ok.inj hstep
      exact hsame rfl
  | executeSubmission submission refundId amountMinor =>
      simp only [Orders.step, World.executeSubmission, bind_eq_ok, require_eq_ok] at hstep
      obtain ⟨-, -, hstep⟩ := hstep
      exact hsame (by rw [executeRefund_db hstep])
  | createRequest input requestId itemIds =>
      refine hsame ?_
      obtain heq | ⟨_, _, _, -, -, -, -, -, -, -, -, -, heq⟩ := create_ok (putDb_eq_ok hstep) <;>
        rw [heq]
  | approveItem requestId itemId =>
      have happrove := putDb_eq_ok hstep
      simp only [approveCustomerCancellationItemForRefund, bind_eq_ok, getOrThrow_eq_ok,
        require_eq_ok, pure_eq_ok] at happrove
      obtain ⟨item, -, _, -, request, -, _, -, heq⟩ := happrove
      refine hsame ?_
      rw [← heq]
      rfl
  | ingestRefund event now =>
      simp only [Orders.step, bind_eq_ok, require_eq_ok] at hstep
      obtain ⟨-, -, hstep⟩ := hstep
      intro r hr _
      exact .inl (ingest_records (putDb_eq_ok hstep) ▸ hr)
  | startJob i itemId =>
      obtain ⟨-, rfl⟩ := startWorker_ok hstep
      exact hsame rfl
  | startPreview i input =>
      obtain ⟨-, rfl⟩ := startWorker_ok hstep
      exact hsame rfl
  | startExecution i input =>
      obtain ⟨-, rfl⟩ := startWorker_ok hstep
      exact hsame rfl
  | stop i =>
      obtain rfl := Except.ok.inj hstep
      exact hsame rfl
  | run i reply =>
      obtain ⟨itemId, position, w₁, _, hworker, hrun, rfl⟩ |
        ⟨input, position, w₁, _, hworker, hrun, rfl⟩ := runWorker_ok hstep
      · intro r hr _
        refine (jobWrite_records (runJob_write hrun) r hr).imp_right ?_
        rintro ⟨context, rfl, hrecorded⟩
        exact ⟨i, itemId, context, hworker, hrecorded⟩
      · intro r hr hitem
        exact .inl (h.executionWrite_records (h.workers i _ hworker) (runExecution_write hrun) r hr
          hitem)

end World

end VendorDashboard.Orders

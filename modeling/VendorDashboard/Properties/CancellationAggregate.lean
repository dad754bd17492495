import VendorDashboard.Properties.CancellationItems

/-!
# Requests stay consistent with their items

`StatusesConsistent` is what the rest of the application relies on: a request's status is the
aggregate of its items, it is resolved exactly when no item is open, an allocation is held by at
most one request, and it is on hold exactly while one of its items is open.

Every service recomputes the aggregate from the items it has just read, except the loop of the
refund webhook: it reads the siblings of all items before it moves the first.  A refund that
covers two submitted items of one request therefore leaves a stale aggregate
(`stale_aggregate`).  In every run without such a refund the statuses are consistent
(`statusesConsistent`).
-/

namespace VendorDashboard.Orders

open Finance (Id Instant CustomerCancellationStatus)
open Table Transaction Run

/-! ## The aggregate -/

lemma Advances.active {s t : CustomerCancellationStatus} (h : Advances s t) :
    isActiveHoldItemStatus s = true := by
  cases h <;> rfl

lemma OnPath.active_iff {s : CustomerCancellationStatus} (h : OnPath s) :
    isActiveRequestStatus s = isActiveHoldItemStatus s := by
  rcases h with rfl | rfl | rfl | rfl <;> rfl

/-- An open item keeps the aggregate open. -/
lemma isActiveRequestStatus_aggregate {statuses : List CustomerCancellationStatus}
    (hpath : ∀ s ∈ statuses, OnPath s) {s : CustomerCancellationStatus} (hs : s ∈ statuses)
    (ha : isActiveHoldItemStatus s = true) : isActiveRequestStatus (aggregate statuses) = true := by
  unfold aggregate
  split
  next t heq =>
    have hmem : s ∈ statuses.eraseDups := List.mem_eraseDups.mpr hs
    rw [heq, List.mem_singleton] at hmem
    rw [← hmem, (hpath s hs).active_iff, ha]
  next => rfl

lemma aggregate_replicate {n : ℕ} (hn : n ≠ 0) (s : CustomerCancellationStatus) :
    aggregate (List.replicate n s) = s := by
  obtain ⟨m, rfl⟩ := Nat.exists_eq_succ_of_ne_zero hn
  have hfilter : (List.replicate m s).filter (fun b => !b == s) = [] := by
    rw [List.filter_eq_nil_iff]
    intro b hb
    simp [List.eq_of_mem_replicate hb]
  rw [aggregate, List.replicate_succ, List.eraseDups_cons, hfilter]
  rfl

lemma allTerminal_iff {statuses : List CustomerCancellationStatus}
    (hpath : ∀ s ∈ statuses, OnPath s) :
    allTerminal statuses = true ↔ ∀ s ∈ statuses, isActiveHoldItemStatus s = false := by
  unfold allTerminal
  rw [List.all_eq_true]
  refine forall₂_congr fun s hs => ?_
  rcases hpath s hs with rfl | rfl | rfl | rfl <;> decide

namespace CancellationDb

variable {db db' : CancellationDb}

/-! ## The property -/

/-- The request holds the allocation. -/
def Holds (db : CancellationDb) (requestId vendorAllocationId : Id) : Prop :=
  ∃ r ∈ db.customerCancellationRequest, r.id = requestId ∧ ∃ i ∈ db.itemsOf r.id,
    i.vendorAllocationId = vendorAllocationId ∧
      isPendingCustomerCancellationHoldState r.status i.status = true

structure StatusesConsistent (db : CancellationDb) : Prop where
  status_eq : ∀ r ∈ db.customerCancellationRequest,
    r.status = aggregate ((db.itemsOf r.id).map (·.status))
  resolvedAt_iff : ∀ r ∈ db.customerCancellationRequest,
    r.resolvedAt.isSome ↔ ∀ i ∈ db.itemsOf r.id, isActiveHoldItemStatus i.status = false
  holds_unique : ∀ vendorAllocationId requestId requestId',
    db.Holds requestId vendorAllocationId → db.Holds requestId' vendorAllocationId →
      requestId = requestId'
  hold_iff : ∀ vendorAllocationId, db.hasPendingCustomerCancellationHold vendorAllocationId = true ↔
    ∃ i ∈ db.customerCancellationRequestItem, i.vendorAllocationId = vendorAllocationId ∧
      isActiveHoldItemStatus i.status = true

/-! ## The invariant -/

structure ItemInvariant (db : CancellationDb) : Prop where
  requestIds : KeyUnique CustomerCancellationRequest.id db.customerCancellationRequest
  itemIds : KeyUnique CustomerCancellationRequestItem.id db.customerCancellationRequestItem
  parent : ∀ i ∈ db.customerCancellationRequestItem, ∃ r ∈ db.customerCancellationRequest,
    r.id = i.requestId
  onPath : ∀ i ∈ db.customerCancellationRequestItem, OnPath i.status
  status_eq : ∀ r ∈ db.customerCancellationRequest,
    r.status = aggregate ((db.itemsOf r.id).map (·.status))
  resolvedAt_eq : ∀ r ∈ db.customerCancellationRequest,
    r.resolvedAt.isSome = allTerminal ((db.itemsOf r.id).map (·.status))
  exclusive : ∀ i ∈ db.customerCancellationRequestItem, ∀ j ∈ db.customerCancellationRequestItem,
    i.vendorAllocationId = j.vendorAllocationId → isActiveHoldItemStatus i.status = true →
      isActiveHoldItemStatus j.status = true → i.requestId = j.requestId

lemma ItemInvariant.empty : ItemInvariant CancellationDb.empty := by
  constructor <;> simp [CancellationDb.empty, KeyUnique]

lemma ItemInvariant.congr (h : ItemInvariant db) (hs : SameItems db db') : ItemInvariant db' := by
  obtain ⟨hrequests, hitems⟩ := hs
  have hof := fun requestId => SameItems.itemsOf ⟨hrequests, hitems⟩ requestId
  constructor
  · exact hrequests ▸ h.requestIds
  · exact hitems ▸ h.itemIds
  · rw [hrequests, hitems]
    exact h.parent
  · exact hitems ▸ h.onPath
  · intro r hr
    rw [hof]
    exact h.status_eq r (hrequests ▸ hr)
  · intro r hr
    rw [hof]
    exact h.resolvedAt_eq r (hrequests ▸ hr)
  · exact hitems ▸ h.exclusive

/-- The request of an open item is open. -/
lemma ItemInvariant.activeRequest (h : ItemInvariant db) {i : CustomerCancellationRequestItem}
    (hi : i ∈ db.customerCancellationRequestItem) (ha : isActiveHoldItemStatus i.status = true) :
    ∃ r, db.findRequest i.requestId = some r ∧ isActiveRequestStatus r.status = true := by
  obtain ⟨r, hr, hid⟩ := h.parent i hi
  refine ⟨r, hid ▸ findRow_of_mem h.requestIds hr, ?_⟩
  rw [h.status_eq r hr]
  refine isActiveRequestStatus_aggregate ?_ (List.mem_map_of_mem (mem_itemsOf.mpr ⟨hi, hid.symm⟩)) ha
  intro s hs
  obtain ⟨j, hj, rfl⟩ := List.mem_map.mp hs
  exact h.onPath j (mem_itemsOf.mp hj).1

theorem ItemInvariant.consistent (h : ItemInvariant db) : StatusesConsistent db where
  status_eq := h.status_eq
  resolvedAt_iff := by
    intro r hr
    rw [h.resolvedAt_eq r hr, allTerminal_iff, List.forall_mem_map]
    · intro s hs
      obtain ⟨j, hj, rfl⟩ := List.mem_map.mp hs
      exact h.onPath j (mem_itemsOf.mp hj).1
  holds_unique := by
    rintro a _ _ ⟨r, -, rfl, i, hi, hia, hhold⟩ ⟨r', -, rfl, i', hi', hia', hhold'⟩
    obtain ⟨hi, hir⟩ := mem_itemsOf.mp hi
    obtain ⟨hi', hir'⟩ := mem_itemsOf.mp hi'
    rw [isPendingCustomerCancellationHoldState, Bool.and_eq_true] at hhold hhold'
    rw [← hir, ← hir']
    exact h.exclusive i hi i' hi' (hia.trans hia'.symm) hhold.2 hhold'.2
  hold_iff := by
    intro a
    unfold hasPendingCustomerCancellationHold pendingHoldItems
    rw [Bool.not_eq_true', List.isEmpty_eq_false_iff_exists_mem]
    constructor
    · rintro ⟨i, hi⟩
      simp only [List.mem_filter, List.mem_singleton, Bool.and_eq_true, decide_eq_true_eq] at hi
      exact ⟨i, hi.1, hi.2.1.1, hi.2.1.2⟩
    · rintro ⟨i, hi, hia, ha⟩
      obtain ⟨r, hr, hra⟩ := h.activeRequest hi ha
      refine ⟨i, ?_⟩
      simp only [List.mem_filter, List.mem_singleton, Bool.and_eq_true, decide_eq_true_eq]
      exact ⟨hi, ⟨hia, ha⟩, by simp [hr, hra]⟩

/-! ## One item moves -/

lemma itemsOf_moveItem (item : CustomerCancellationRequestItem)
    (status : CustomerCancellationStatus) (resolvedQuantity : Option ℕ)
    (statuses : List CustomerCancellationStatus) (resolvedAt : Option Instant) (requestId : Id) :
    (db.moveItem item status resolvedQuantity statuses resolvedAt).itemsOf requestId =
      updateWhere (fun i => decide (i.id = item.id))
        (fun i => { i with status := status, resolvedQuantity := resolvedQuantity })
        (db.itemsOf requestId) := by
  unfold CancellationDb.itemsOf moveItem updateItem updateRequest
  rw [filter_updateWhere]
  intro _
  rfl

/-- The items of another request are not moved. -/
lemma itemsOf_moveItem_of_ne (h : ItemInvariant db) {item : CustomerCancellationRequestItem}
    (hitem : item ∈ db.customerCancellationRequestItem) (status : CustomerCancellationStatus)
    (resolvedQuantity : Option ℕ) (statuses : List CustomerCancellationStatus)
    (resolvedAt : Option Instant) {requestId : Id} (hne : requestId ≠ item.requestId) :
    (db.moveItem item status resolvedQuantity statuses resolvedAt).itemsOf requestId =
      db.itemsOf requestId := by
  rw [itemsOf_moveItem]
  refine updateWhere_eq_self fun i hi => ?_
  obtain ⟨himem, hrequest⟩ := mem_itemsOf.mp hi
  rw [decide_eq_false_iff_not]
  intro hid
  exact hne (hrequest.symm.trans (congrArg _ (h.itemIds.eq himem hitem hid)))

/-- The statuses of the moved item's request. -/
lemma statuses_moveItem (item : CustomerCancellationRequestItem)
    (status : CustomerCancellationStatus) (resolvedQuantity : Option ℕ)
    (statuses : List CustomerCancellationStatus) (resolvedAt : Option Instant) (requestId : Id) :
    ((db.moveItem item status resolvedQuantity statuses resolvedAt).itemsOf requestId).map
        (·.status) = statusesWith (db.itemsOf requestId) item.id status := by
  rw [itemsOf_moveItem]
  unfold updateWhere statusesWith
  rw [List.map_map]
  refine List.map_congr_left fun i _ => ?_
  by_cases hid : i.id = item.id <;> simp [hid]

/-- **The step lemma of a move.** -/
lemma ItemInvariant.moveItemNow (h : ItemInvariant db) {item : CustomerCancellationRequestItem}
    (hitem : item ∈ db.customerCancellationRequestItem) {status : CustomerCancellationStatus}
    (hadvance : Advances item.status status) (resolvedQuantity : Option ℕ)
    {resolvedAt : Option Instant}
    (hresolved : resolvedAt.isSome =
      allTerminal (statusesWith (db.itemsOf item.requestId) item.id status)) :
    ItemInvariant (db.moveItemNow item status resolvedQuantity resolvedAt) := by
  have hrow : ∀ i ∈ (db.moveItemNow item status resolvedQuantity
      resolvedAt).customerCancellationRequestItem, ∃ j ∈ db.customerCancellationRequestItem,
      i.requestId = j.requestId ∧ i.vendorAllocationId = j.vendorAllocationId ∧
        (OnPath i.status) ∧
        (isActiveHoldItemStatus i.status = true → isActiveHoldItemStatus j.status = true) := by
    intro i hi
    obtain ⟨j, hj, rfl⟩ := mem_updateWhere.mp hi
    by_cases hid : j.id = item.id
    · obtain rfl := h.itemIds.eq hj hitem hid
      refine ⟨j, hj, ?_⟩
      simp only [decide_true, if_true, true_and]
      exact ⟨hadvance.onPath, fun _ => hadvance.active⟩
    · refine ⟨j, hj, ?_⟩
      simp only [hid, decide_false, Bool.false_eq_true, if_false, true_and]
      exact ⟨h.onPath j hj, id⟩
  constructor
  · exact h.requestIds.updateWhere fun _ => rfl
  · exact h.itemIds.updateWhere fun _ => rfl
  · intro i hi
    obtain ⟨j, hj, hrequest, -⟩ := hrow i hi
    rw [hrequest]
    exact exists_mem_updateWhere (h.parent j hj) fun _ h => h
  · intro i hi
    obtain ⟨_, _, _, _, hpath, _⟩ := hrow i hi
    exact hpath
  · intro r hr
    obtain ⟨r₀, hr₀, rfl⟩ := mem_updateWhere.mp hr
    by_cases hid : r₀.id = item.requestId
    · simp only [hid, decide_true, if_true]
      rw [CancellationDb.moveItemNow, statuses_moveItem]
    · simp only [hid, decide_false, Bool.false_eq_true, if_false]
      rw [CancellationDb.moveItemNow, itemsOf_moveItem_of_ne h hitem _ _ _ _ hid]
      exact h.status_eq r₀ hr₀
  · intro r hr
    obtain ⟨r₀, hr₀, rfl⟩ := mem_updateWhere.mp hr
    by_cases hid : r₀.id = item.requestId
    · simp only [hid, decide_true, if_true]
      rw [CancellationDb.moveItemNow, statuses_moveItem]
      exact hresolved
    · simp only [hid, decide_false, Bool.false_eq_true, if_false]
      rw [CancellationDb.moveItemNow, itemsOf_moveItem_of_ne h hitem _ _ _ _ hid]
      exact h.resolvedAt_eq r₀ hr₀
  · intro i hi j hj hallocation hai haj
    obtain ⟨i₀, hi₀, hri, hali, -, hacti⟩ := hrow i hi
    obtain ⟨j₀, hj₀, hrj, halj, -, hactj⟩ := hrow j hj
    rw [hri, hrj]
    exact h.exclusive i₀ hi₀ j₀ hj₀ (hali.symm.trans (hallocation.trans halj)) (hacti hai)
      (hactj haj)

/-! ## A request is created -/

lemma statuses_newItems (requestId : Id) (inputs : List VerifiedCustomerCancellationRequestItemInput)
    (itemIds : List Id) (hlength : itemIds.length = inputs.length) :
    ((itemIds.zip inputs).map (newItem requestId)).map (·.status) =
      List.replicate inputs.length CustomerCancellationStatus.pending := by
  rw [List.map_map, List.eq_replicate_iff]
  refine ⟨by simp [hlength], fun s hs => ?_⟩
  obtain ⟨_, -, rfl⟩ := List.mem_map.mp hs
  rfl

lemma ItemInvariant.create (h : ItemInvariant db)
    {rawInput : CreateVerifiedCustomerCancellationRequestInput} {requestId : Id}
    {itemIds : List Id}
    (hcreate : db.createPendingCustomerCancellationRequest rawInput requestId itemIds = .ok db') :
    ItemInvariant db' := by
  obtain rfl | ⟨input, _, _, -, -, -, hnonempty, -, hlength, hpending, hrequests, hitems, rfl⟩ :=
    create_ok hcreate
  · exact h
  obtain ⟨-, -, hfresh⟩ := keyUnique_append.mp hrequests
  have hold : ∀ i ∈ db.customerCancellationRequestItem, i.requestId ≠ requestId := by
    intro i hi
    obtain ⟨r, hr, hid⟩ := h.parent i hi
    exact hid ▸ hfresh r hr _ (List.mem_singleton.mpr rfl)
  have hfree : ∀ i ∈ db.customerCancellationRequestItem, isActiveHoldItemStatus i.status = true →
      i.vendorAllocationId ∉ input.items.map (·.vendorAllocationId) := by
    intro i hi ha hmem
    obtain ⟨r, hr, hra⟩ := h.activeRequest hi ha
    have : i ∈ db.pendingHoldItems (input.items.map (·.vendorAllocationId)).eraseDups := by
      simp only [pendingHoldItems, List.mem_filter, List.mem_eraseDups, Bool.and_eq_true,
        decide_eq_true_eq]
      exact ⟨hi, ⟨hmem, ha⟩, by simp [hr, hra]⟩
    rw [hpending] at this
    exact absurd this List.not_mem_nil
  -- the items of the new request are the new ones, those of an old request the old ones
  have hofNew : ((db.customerCancellationRequestItem ++
      (itemIds.zip input.items).map (newItem requestId)).filter
        fun i => decide (i.requestId = requestId)) =
      (itemIds.zip input.items).map (newItem requestId) := by
    rw [List.filter_append, List.filter_eq_nil_iff.mpr, List.nil_append, List.filter_eq_self]
    · exact fun i hi => decide_eq_true (mem_newItems hi).1
    · exact fun i hi => by simp [hold i hi]
  have hofOld : ∀ id, id ≠ requestId → ((db.customerCancellationRequestItem ++
      (itemIds.zip input.items).map (newItem requestId)).filter
        fun i => decide (i.requestId = id)) = db.itemsOf id := by
    intro id hid
    have hnone : ((itemIds.zip input.items).map (newItem requestId)).filter
        (fun i => decide (i.requestId = id)) = [] := by
      rw [List.filter_eq_nil_iff]
      exact fun i hi => by simp [(mem_newItems hi).1, Ne.symm hid]
    rw [List.filter_append, hnone, List.append_nil]
    rfl
  have hstatuses := statuses_newItems requestId input.items itemIds hlength
  have hlen : input.items.length ≠ 0 := by simpa using hnonempty
  have hpend : CustomerCancellationStatus.pending ∈
      List.replicate input.items.length CustomerCancellationStatus.pending := by
    simp [hnonempty]
  constructor
  · exact hrequests
  · exact hitems
  · intro i hi
    rcases List.mem_append.mp hi with hi | hi
    · obtain ⟨r, hr, hid⟩ := h.parent i hi
      exact ⟨r, List.mem_append_left _ hr, hid⟩
    · refine ⟨newRequest input requestId, List.mem_append_right _ (List.mem_singleton.mpr rfl), ?_⟩
      exact (mem_newItems hi).1.symm
  · intro i hi
    rcases List.mem_append.mp hi with hi | hi
    · exact h.onPath i hi
    · exact .inl (mem_newItems hi).2.1
  · intro r hr
    rcases List.mem_append.mp hr with hr | hr
    · have hne : r.id ≠ requestId := hfresh r hr _ (List.mem_singleton.mpr rfl)
      change r.status = aggregate ((List.filter _ _).map _)
      rw [hofOld r.id hne]
      exact h.status_eq r hr
    · obtain rfl := List.mem_singleton.mp hr
      change .pending = aggregate ((List.filter
        (fun i : CustomerCancellationRequestItem => decide (i.requestId = requestId)) _).map _)
      rw [hofNew, hstatuses, aggregate_replicate hlen]
  · intro r hr
    rcases List.mem_append.mp hr with hr | hr
    · have hne : r.id ≠ requestId := hfresh r hr _ (List.mem_singleton.mpr rfl)
      change r.resolvedAt.isSome = allTerminal ((List.filter _ _).map _)
      rw [hofOld r.id hne]
      exact h.resolvedAt_eq r hr
    · obtain rfl := List.mem_singleton.mp hr
      change false = allTerminal ((List.filter
        (fun i : CustomerCancellationRequestItem => decide (i.requestId = requestId)) _).map _)
      rw [hofNew, hstatuses, allTerminal_eq_false hpend rfl]
  · intro i hi j hj hallocation hai haj
    rcases List.mem_append.mp hi with hi | hi <;> rcases List.mem_append.mp hj with hj | hj
    · exact h.exclusive i hi j hj hallocation hai haj
    · exact absurd (hallocation ▸ (mem_newItems hj).2.2) (hfree i hi hai)
    · exact absurd (hallocation ▸ (mem_newItems hi).2.2) (hfree j hj haj)
    · rw [(mem_newItems hi).1, (mem_newItems hj).1]

/-! ## A refund moves several items -/

/-- One round of the webhook's loop, when the siblings it was given are the current ones. -/
lemma applyRefundToItem_sameItems (item : CustomerCancellationRequestItem) (refundId : Id)
    (now : Instant) : SameItems
      (db.moveItemNow item .refundedAwaitingOrderCancel (some item.requestedQuantity)
        (if allTerminal (statusesWith (db.itemsOf item.requestId) item.id
          .refundedAwaitingOrderCancel) then some now else none))
      (db.applyRefundToItem (db.itemsOf item.requestId) refundId item now) :=
  ⟨rfl, rfl⟩

/-- The loop keeps the invariant when its items belong to different requests; `before` is the
state that the siblings were read in. -/
lemma ItemInvariant.foldl_applyRefundToItem {before : CancellationDb} (refundId : Id)
    (now : Instant) {items : List CustomerCancellationRequestItem} (h : ItemInvariant db)
    (hitems : ∀ i ∈ items, i ∈ db.customerCancellationRequestItem ∧ i.status = .approvedForRefund ∧
      db.itemsOf i.requestId = before.itemsOf i.requestId)
    (hdistinct : items.Pairwise fun i j => i.requestId ≠ j.requestId) :
    ItemInvariant (items.foldl (fun acc i =>
      acc.applyRefundToItem (before.itemsOf i.requestId) refundId i now) db) := by
  induction items generalizing db with
  | nil => exact h
  | cons item items ih =>
      obtain ⟨hne, hdistinct⟩ := List.pairwise_cons.mp hdistinct
      obtain ⟨hitem, hstatus, hsiblings⟩ := hitems item List.mem_cons_self
      have hsame := @applyRefundToItem_sameItems db item refundId now
      rw [hsiblings] at hsame
      have hmoved := h.moveItemNow hitem (hstatus ▸ .reconcile) (some item.requestedQuantity)
        (isSome_ite (allTerminal (statusesWith (db.itemsOf item.requestId) item.id
          .refundedAwaitingOrderCancel)) now)
      rw [hsiblings] at hmoved
      rw [List.foldl_cons]
      refine ih (hmoved.congr hsame) (fun i hi => ?_) hdistinct
      obtain ⟨himem, histatus, hof⟩ := hitems i (List.mem_cons_of_mem _ hi)
      have hother := hne i hi
      refine ⟨?_, histatus, ?_⟩
      · rw [hsame.items]
        refine mem_updateWhere.mpr ⟨i, himem, ?_⟩
        have hid : i.id ≠ item.id := fun hid => hother (h.itemIds.eq himem hitem hid ▸ rfl)
        simp [hid]
      · rw [hsame.itemsOf, CancellationDb.moveItemNow,
          itemsOf_moveItem_of_ne h hitem _ _ _ _ (Ne.symm hother), hof]

/-! ## A refund webhook -/

/-- What accepting a refund's evidence leaves: the items, and the attempts up to their status
and the refund they carry. -/
structure AcceptedFrom (db db' : CancellationDb) : Prop where
  items : SameItems db db'
  orders : db'.shopifyOrder = db.shopifyOrder
  attempts : ∃ f : OutboundShopifyRefundAttempt → OutboundShopifyRefundAttempt,
    db'.outboundShopifyRefundAttempt = db.outboundShopifyRefundAttempt.map f ∧ ∀ a,
      (f a).customerCancellationRequestItemId = a.customerCancellationRequestItemId ∧
      (f a).refundLineItemsJson = a.refundLineItemsJson ∧
      ((f a).status = .shopifyActionPending → a.status = .shopifyActionPending)

lemma AcceptedFrom.refl (db : CancellationDb) : AcceptedFrom db db :=
  ⟨.refl db, rfl, id, by simp, fun _ => ⟨rfl, rfl, id⟩⟩

lemma AcceptedFrom.trans {db'' : CancellationDb} (h : AcceptedFrom db db')
    (h' : AcceptedFrom db' db'') : AcceptedFrom db db'' := by
  obtain ⟨f, hf, hfa⟩ := h.attempts
  obtain ⟨g, hg, hga⟩ := h'.attempts
  refine ⟨h.items.trans h'.items, h'.orders.trans h.orders, g ∘ f, ?_, fun a => ?_⟩
  · rw [hg, hf, List.map_map]
  · obtain ⟨hitem, hlines, hpending⟩ := hfa a
    obtain ⟨hitem', hlines', hpending'⟩ := hga (f a)
    exact ⟨hitem'.trans hitem, hlines'.trans hlines, fun h => hpending (hpending' h)⟩

lemma acceptedFrom_acceptRefundGroup (before : CancellationDb) (event : RefundEvent)
    (vendorAllocationId : Id) :
    AcceptedFrom db (db.acceptRefundGroup before event vendorAllocationId) := by
  unfold acceptRefundGroup resolveCancelRefundReviewAfterRefundIngestion
  split
  · refine ⟨⟨rfl, rfl⟩, rfl, _, rfl, fun a => ?_⟩
    split <;> exact ⟨rfl, rfl, id⟩
  · split <;>
    · refine ⟨⟨rfl, rfl⟩, rfl, _, rfl, fun a => ?_⟩
      split
      · exact ⟨rfl, rfl, by simp⟩
      · exact ⟨rfl, rfl, id⟩

lemma acceptedFrom_foldl (before : CancellationDb) (event : RefundEvent) (ids : List Id) :
    AcceptedFrom db (ids.foldl (fun acc a => acc.acceptRefundGroup before event a) db) := by
  induction ids generalizing db with
  | nil => exact .refl db
  | cons a ids ih => exact (acceptedFrom_acceptRefundGroup before event a).trans ih

lemma AcceptedFrom.attemptOf (h : AcceptedFrom db db') {itemId : Id}
    {a' : OutboundShopifyRefundAttempt} (ha : db'.attemptOf itemId = some a') :
    ∃ a, db.attemptOf itemId = some a ∧ a'.refundLineItemsJson = a.refundLineItemsJson ∧
      (a'.status = .shopifyActionPending → a.status = .shopifyActionPending) := by
  obtain ⟨f, hf, hfa⟩ := h.attempts
  unfold CancellationDb.attemptOf at ha
  rw [hf, findRow_map fun x => (hfa x).1, Option.map_eq_some_iff] at ha
  obtain ⟨a, hfind, rfl⟩ := ha
  exact ⟨a, hfind, (hfa a).2⟩

/-- An approved item with a submitted attempt whose quantity the refund takes exactly. -/
def submittedAndCovered (db : CancellationDb) (event : RefundEvent)
    (item : CustomerCancellationRequestItem) : Bool :=
  decide (item.status = .approvedForRefund) &&
    (db.attemptOf item.id).any (fun a => decide (a.status = .shopifyActionPending)) &&
    db.refundCoversItem event item

/-- The items that the webhook moves were submitted and covered before it. -/
lemma AcceptedFrom.itemsCoveredBy (h : AcceptedFrom db db') {event : RefundEvent}
    {i : CustomerCancellationRequestItem} (hi : i ∈ db'.itemsCoveredBy event) :
    i ∈ db.customerCancellationRequestItem ∧ i.status = .approvedForRefund ∧
      db.submittedAndCovered event i = true := by
  simp only [CancellationDb.itemsCoveredBy, reconciliationCandidates, List.mem_filter,
    Bool.and_eq_true, decide_eq_true_eq] at hi
  obtain ⟨⟨hmem, ⟨⟨hstatus, -⟩, -⟩, hattempt⟩, hcovers⟩ := hi
  rw [h.items.items] at hmem
  refine ⟨hmem, hstatus, ?_⟩
  obtain ⟨a', ha', hpending'⟩ := (Option.any_eq_true _ _).mp hattempt
  obtain ⟨a, ha, hlines, hpending⟩ := h.attemptOf ha'
  rw [Bool.and_eq_true, decide_eq_true_eq] at hpending'
  simp only [refundCoversItem, ha', Option.any_some, hlines, sourceLineItemIdOf, h.orders] at hcovers
  simp only [submittedAndCovered, refundCoversItem, ha, Option.any_some, hstatus, decide_true,
    Bool.true_and, sourceLineItemIdOf, hpending hpending'.1]
  exact hcovers

lemma itemsCoveredBy_subset (event : RefundEvent) {i : CustomerCancellationRequestItem}
    (hi : i ∈ db.itemsCoveredBy event) : i ∈ db.customerCancellationRequestItem :=
  (List.mem_filter.mp (List.mem_filter.mp hi).1).1

/-- **The step lemma of a webhook**, for a refund that covers at most one submitted item of each
request. -/
lemma ItemInvariant.ingestShopifyRefundWebhook (h : ItemInvariant db) {event : RefundEvent}
    {now : Instant}
    (hsingle : ∀ i ∈ db.customerCancellationRequestItem,
      ∀ j ∈ db.customerCancellationRequestItem, db.submittedAndCovered event i = true →
        db.submittedAndCovered event j = true → i.requestId = j.requestId → i = j)
    (hingest : db.ingestShopifyRefundWebhook event now = .ok db') : ItemInvariant db' := by
  simp only [CancellationDb.ingestShopifyRefundWebhook, bind_eq_ok, require_eq_ok] at hingest
  obtain ⟨_, -, hingest⟩ := hingest
  split at hingest
  next =>
    simp only [bind_eq_ok, require_eq_ok] at hingest
    obtain ⟨_, -, hingest⟩ := hingest
    exact h.congr (shippingOnly_sameItems hingest)
  next =>
    simp only [bind_eq_ok, require_eq_ok, pure_eq_ok] at hingest
    obtain ⟨_, -, hdb'⟩ := hingest
    have haccepted := @acceptedFrom_foldl db db event event.acceptedAllocationIds
    have hinv := h.congr haccepted.items
    generalize event.acceptedAllocationIds.foldl
      (fun acc a => acc.acceptRefundGroup db event a) db = accepted at hdb' haccepted hinv
    split at hdb'
    next =>
      subst hdb'
      refine hinv.foldl_applyRefundToItem _ now (fun i hi => ?_) ?_
      · exact ⟨itemsCoveredBy_subset event hi, (haccepted.itemsCoveredBy hi).2.1, rfl⟩
      · have hnodup : (accepted.itemsCoveredBy event).Nodup :=
          (hinv.itemIds.of_map _).filter _ |>.filter _
        refine hnodup.imp_of_mem ?_
        intro i j hi hj hne hrequest
        obtain ⟨himem, -, hci⟩ := haccepted.itemsCoveredBy hi
        obtain ⟨hjmem, -, hcj⟩ := haccepted.itemsCoveredBy hj
        exact hne (hsingle i himem j hjmem hci hcj hrequest)
    next => exact hdb' ▸ hinv

lemma ItemInvariant.itemChange (h : ItemInvariant db) (hchange : ItemChange db db') :
    ItemInvariant db' := by
  cases hchange with
  | same hs => exact h.congr hs
  | create _ _ _ hcreate => exact h.create hcreate
  | move _ _ _ _ hitem hadvance hresolved hs =>
      exact (h.moveItemNow hitem hadvance _ hresolved).congr hs

end CancellationDb

/-! ## Runs -/

/-- The refund of a webhook covers at most one submitted item of each request. -/
def SinglyCovered (w : World) : Action → Prop
  | .ingestRefund event _ => ∀ i ∈ w.db.customerCancellationRequestItem,
      ∀ j ∈ w.db.customerCancellationRequestItem, w.db.submittedAndCovered event i = true →
        w.db.submittedAndCovered event j = true → i.requestId = j.requestId → i = j
  | _ => True

/-- **The step lemma.** -/
lemma itemInvariant_step {a : Action} {w w' : World} (hok : SinglyCovered w a)
    (h : w.db.ItemInvariant) (hstep : step a w = .ok w') : w'.db.ItemInvariant := by
  obtain hchange | ⟨event, now, rfl, hingest⟩ := step_itemChange hstep
  · exact h.itemChange hchange
  · exact h.ingestShopifyRefundWebhook hok hingest

/-- **Requests stay consistent with their items**, in every run whose refund webhooks each cover
at most one submitted item of a request. -/
theorem statusesConsistent {w : World} (h : ReachableWith SinglyCovered w) :
    w.db.StatusesConsistent := by
  have hinv : w.db.ItemInvariant := by
    refine Reachable.invariant (P := fun w => w.db.ItemInvariant) ?_ ?_ h
    · rintro _ rfl
      exact CancellationDb.ItemInvariant.empty
    · rintro v v' - hv ⟨a, hok, hstep⟩
      exact itemInvariant_step hok hv hstep
  exact hinv.consistent

instance (w : World) : (a : Action) → Decidable (SinglyCovered w a)
  | .ingestRefund event _ => inferInstanceAs (Decidable (∀ i ∈ w.db.customerCancellationRequestItem,
      ∀ j ∈ w.db.customerCancellationRequestItem, w.db.submittedAndCovered event i = true →
        w.db.submittedAndCovered event j = true → i.requestId = j.requestId → i = j))
  | .recordOrder .. | .updateAllocation _ | .merchantRefund .. | .cancelShopifyOrder _
  | .executeSubmission .. | .createRequest .. | .approveItem .. | .startJob .. | .startPreview ..
  | .startExecution .. | .stop _ | .run .. => .isTrue trivial

/-! ## An order of two lines -/

namespace TwoLines

/-- Shopify's view of an order with two single pieces. -/
def shopOrder : StoreOrder where
  sourceShopifyOrderId := 100
  currency := "TRY"
  cancelled := false
  lineItems := [⟨111, 1⟩, ⟨112, 1⟩]
  shippingMinor := 0
  refunds := []

def order : ShopifyOrder := ⟨1, 100, some "TRY", [⟨11, 111, 1⟩, ⟨12, 112, 1⟩]⟩

def allocation (id : Id) : VendorAllocation where
  id := id
  orderId := 1
  allocationStatus := .active
  reassignmentRequired := false
  hasCancellationReason := false
  cancelRefundReviewStatus := none
  existingShipmentAuthority := .pending
  localShipmentConflict := false
  hasReturnRecords := false
  refundRecords := []
  hasCompletedEconomicTransfer := false
  hasOpenFinanceIntegrityAlert := false
  hasProgressedFinance := false
  hasFinanceConflict := false

/-- Each line is one vendor's, at one location. -/
def recordOrder : Action :=
  .recordOrder order [allocation 21, allocation 22] [⟨21, 11, 1⟩, ⟨22, 12, 1⟩] shopOrder

def createRequest : Action :=
  .createRequest
    { shopifyOrderId := 1
      shopDomain := "shop"
      shopifyCustomerId := "customer"
      reasonCode := "OTHER"
      idempotencyKey := "key"
      items := [⟨11, 21, 1⟩, ⟨12, 22, 1⟩] } 31 [41, 42]

/-- The answers to a classification after the given refunds. -/
def answers (refunds : List StoreRefund) : Reply :=
  .classification (StoreOrder.answers { shopOrder with refunds := refunds }
    [⟨some "OPEN", some "UNSUBMITTED", some 5, [⟨111, some 1⟩, ⟨112, some 1⟩]⟩]
    fun _ _ => [⟨some 7, some 1000, some "bank", some "TRY"⟩])

def tick : Reply := .local 1 0

/-- Worker `i` classifies an item, approves it and classifies it again. -/
def approve (i itemId attemptId : Id) (refunds : List StoreRefund) : List Action :=
  [.startJob i itemId, .run i tick, .run i (answers refunds), .run i (.local 2 attemptId),
    .run i (answers refunds)]

/-- A response without a refund identifier, and its record. -/
def recordResponse (i : Id) : List Action :=
  [.run i tick, .run i (.refundCreate none false), .run i tick]

/-- Two workers run the first item.  While one of them waits, the other one's request is refused
and the second item is submitted; then the first worker's response arrives, and the merchant
refunds both lines at once. -/
def bothItemsCovered : List Action :=
  [recordOrder, createRequest] ++ approve 1 41 51 [] ++
  [.startJob 2 41, .run 2 tick,
    .run 2 (.evidence (some shopOrder.canonicalRefunds) (some shopOrder.orderSnapshot)),
    .run 2 (answers []), .run 2 tick, .run 2 (answers []), .run 2 tick,
    .run 2 (.refundCreate none true), .run 2 tick] ++
  approve 3 42 52 [] ++ recordResponse 1 ++ recordResponse 3 ++
  [.merchantRefund 100 ⟨900, none, [(111, 1), (112, 1)], 0, 2000⟩,
    .ingestRefund ⟨900, 100, [(111, 1), (112, 1)], true, none, []⟩ 5]

/-- The first item is submitted and its refund is reported. -/
def oneItemCovered : List Action :=
  [recordOrder, createRequest] ++ approve 1 41 51 [] ++ recordResponse 1 ++
  [.merchantRefund 100 ⟨900, none, [(111, 1)], 0, 1000⟩,
    .ingestRefund ⟨900, 100, [(111, 1)], true, none, []⟩ 5]

end TwoLines

/-- A refund that covers two submitted items of a request leaves its status at
`PARTIALLY_RESOLVED`, although both items await the order's cancellation. -/
theorem stale_aggregate : ∃ w, ReachableWith (fun _ _ => True) w ∧
    (∃ r ∈ w.db.customerCancellationRequest, r.status = .partiallyResolved ∧
      (w.db.itemsOf r.id).map (·.status) =
        [.refundedAwaitingOrderCancel, .refundedAwaitingOrderCancel]) ∧
    ¬w.db.StatusesConsistent := by
  have hrun : Succeeds (runActions step TwoLines.bothItemsCovered World.init) fun w =>
      ∃ r ∈ w.db.customerCancellationRequest, r.status = .partiallyResolved ∧
        (w.db.itemsOf r.id).map (·.status) =
          [.refundedAwaitingOrderCancel, .refundedAwaitingOrderCancel] := by
    decide +kernel
  obtain ⟨w, hw, r, hr, hstatus, hitems⟩ := succeeds_iff.mp hrun
  refine ⟨w, reachable_of_runActions (.start rfl) (fun _ _ _ => trivial) hw,
    ⟨r, hr, hstatus, hitems⟩, fun h => ?_⟩
  have heq := h.status_eq r hr
  rw [hstatus, hitems] at heq
  exact absurd heq (by decide)

theorem statusesConsistent_oneItemCovered : ∃ w,
    runActions (guarded SinglyCovered "" step) TwoLines.oneItemCovered World.init = .ok w ∧
      (w.db.findItem 41).map (·.status) = some .refundedAwaitingOrderCancel ∧
      w.db.StatusesConsistent := by
  have hrun : Succeeds (runActions (guarded SinglyCovered "" step) TwoLines.oneItemCovered
      World.init) fun w =>
        (w.db.findItem 41).map (·.status) = some .refundedAwaitingOrderCancel := by
    decide +kernel
  obtain ⟨w, hw, hitem⟩ := succeeds_iff.mp hrun
  exact ⟨w, hw, hitem, statusesConsistent (reachable_of_runGuarded (.start rfl) hw)⟩

end VendorDashboard.Orders

import VendorDashboard.Orders.RefundReconciliation

/-!
# What a refund webhook leaves in the tables of the refunds

The attempts after an ingestion, row by row (`acceptGroups_attempts`), and what becomes of the
shipping claims (`Settles`): a claim is released only if its owner is resolved, and no claim stays
active whose owner the webhook resolves.
-/

namespace VendorDashboard.Orders

open Finance (Id Instant)
open Table Transaction

def OrderShippingRefundClaim.release (c : OrderShippingRefundClaim) : OrderShippingRefundClaim :=
  { c with status := .released, activeOrderKey := none }

/-- What the ingestion of a refund makes of an attempt of an accepted allocation. -/
def OutboundShopifyRefundAttempt.ingested (keepReviewOpen : Bool) (refundId : Id)
    (a : OutboundShopifyRefundAttempt) : OutboundShopifyRefundAttempt :=
  if keepReviewOpen then
    if a.status = .shopifyActionPending then { a with shopifyRefundId := some refundId } else a
  else if a.status = .previewed ∨ a.status = .shopifyActionPending then
    { a with status := .resolved, shopifyRefundId := some refundId }
  else a

/-- The row is the same but for its status and its refund. -/
structure OutboundShopifyRefundAttempt.SameRow (a b : OutboundShopifyRefundAttempt) : Prop where
  id : b.id = a.id
  allocation : b.vendorAllocationId = a.vendorAllocationId
  order : b.shopifyOrderId = a.shopifyOrderId
  item : b.customerCancellationRequestItemId = a.customerCancellationRequestItemId

namespace OutboundShopifyRefundAttempt

variable {a b c : OutboundShopifyRefundAttempt}

lemma SameRow.refl (a : OutboundShopifyRefundAttempt) : a.SameRow a := ⟨rfl, rfl, rfl, rfl⟩

lemma SameRow.trans (h : a.SameRow b) (h' : b.SameRow c) : a.SameRow c :=
  ⟨h'.id.trans h.id, h'.allocation.trans h.allocation, h'.order.trans h.order, h'.item.trans h.item⟩

lemma ingested_sameRow (keepReviewOpen : Bool) (refundId : Id) (a : OutboundShopifyRefundAttempt) :
    a.SameRow (a.ingested keepReviewOpen refundId) := by
  unfold ingested
  split
  · split <;> exact ⟨rfl, rfl, rfl, rfl⟩
  · split <;> exact ⟨rfl, rfl, rfl, rfl⟩

lemma ingested_status (keepReviewOpen : Bool) (refundId : Id) (a : OutboundShopifyRefundAttempt) :
    (a.ingested keepReviewOpen refundId).status = a.status ∨
      ((a.ingested keepReviewOpen refundId).status = .resolved ∧ keepReviewOpen = false ∧
        (a.status = .previewed ∨ a.status = .shopifyActionPending)) := by
  unfold ingested
  split
  · split <;> exact .inl rfl
  next hkeep =>
    split
    next hopen => exact .inr ⟨rfl, by simpa using hkeep, hopen⟩
    next => exact .inl rfl

end OutboundShopifyRefundAttempt

namespace CancellationDb

variable {db db' db'' : CancellationDb} {event : RefundEvent} {id : Id}

/-! ## The attempts -/

lemma acceptRefundGroup_attempts (before : CancellationDb) (event : RefundEvent) (id : Id) :
    (db.acceptRefundGroup before event id).outboundShopifyRefundAttempt =
      db.outboundShopifyRefundAttempt.map fun a =>
        if a.vendorAllocationId = id then
          a.ingested (db.shouldKeepReviewOpen id) event.sourceShopifyRefundId
        else a := by
  have hkeep : (db.recordRefund id event.sourceShopifyRefundId
      event.refundLineItems).shouldKeepReviewOpen id = db.shouldKeepReviewOpen id := rfl
  unfold acceptRefundGroup resolveCancelRefundReviewAfterRefundIngestion
  rw [hkeep]
  split
  next hopen =>
    refine List.map_congr_left fun a _ => ?_
    unfold OutboundShopifyRefundAttempt.ingested
    by_cases halloc : a.vendorAllocationId = id <;>
      by_cases hpending : a.status = .shopifyActionPending <;> simp [halloc, hpending, hopen]
  next hopen =>
    have hresolve : ∀ x : CancellationDb, x.outboundShopifyRefundAttempt =
        db.outboundShopifyRefundAttempt → (x.resolveAttempts id
          event.sourceShopifyRefundId).outboundShopifyRefundAttempt =
        db.outboundShopifyRefundAttempt.map fun a =>
          if a.vendorAllocationId = id then
            a.ingested (db.shouldKeepReviewOpen id) event.sourceShopifyRefundId
          else a := by
      intro x hx
      unfold resolveAttempts
      rw [hx]
      refine List.map_congr_left fun a _ => ?_
      unfold OutboundShopifyRefundAttempt.ingested
      by_cases halloc : a.vendorAllocationId = id <;>
        by_cases hstatus : a.status = .previewed ∨ a.status = .shopifyActionPending <;>
          simp [halloc, hstatus, hopen]
    refine hresolve _ ?_
    split <;> rfl

/-- Another allocation's attempts do not matter. -/
lemma shouldKeepReviewOpen_congr
    {f : OutboundShopifyRefundAttempt → OutboundShopifyRefundAttempt}
    (h : db'.outboundShopifyRefundAttempt = db.outboundShopifyRefundAttempt.map f)
    (hid : ∀ a, (f a).vendorAllocationId = a.vendorAllocationId)
    (hsame : ∀ a, a.vendorAllocationId = id → f a = a) :
    db'.shouldKeepReviewOpen id = db.shouldKeepReviewOpen id := by
  unfold shouldKeepReviewOpen
  rw [h, List.filter_map]
  have hfilter : (db.outboundShopifyRefundAttempt.filter
      ((fun a => decide (a.vendorAllocationId = id) && decide (a.status = .shopifyActionPending)) ∘
        f)) = db.outboundShopifyRefundAttempt.filter fun a =>
          decide (a.vendorAllocationId = id) && decide (a.status = .shopifyActionPending) := by
    refine List.filter_congr fun a _ => ?_
    by_cases halloc : a.vendorAllocationId = id
    · simp [hsame a halloc]
    · simp [hid a, halloc]
  rw [hfilter]
  have hmap : ∀ l : List OutboundShopifyRefundAttempt, (l.filter fun a =>
      decide (a.vendorAllocationId = id) && decide (a.status = .shopifyActionPending)).map f =
        l.filter fun a =>
          decide (a.vendorAllocationId = id) && decide (a.status = .shopifyActionPending) := by
    intro l
    refine (List.map_congr_left fun a ha => hsame a ?_).trans (List.map_id' _)
    have hmem := (List.mem_filter.mp ha).2
    rw [Bool.and_eq_true, decide_eq_true_eq] at hmem
    exact hmem.1
  rw [hmap]

lemma acceptRefundGroup_keepReviewOpen (before : CancellationDb) (event : RefundEvent) {id id' : Id}
    (hne : id' ≠ id) : (db.acceptRefundGroup before event id).shouldKeepReviewOpen id' =
      db.shouldKeepReviewOpen id' := by
  refine shouldKeepReviewOpen_congr (acceptRefundGroup_attempts before event id) (fun a => ?_)
    fun a halloc => ?_
  · split
    · exact (a.ingested_sameRow _ _).allocation
    · rfl
  · rw [if_neg]
    rintro rfl
    exact hne halloc.symm

/-- **The attempts after the accepted groups.** -/
theorem acceptGroups_attempts (before : CancellationDb) (event : RefundEvent) {ids : List Id}
    (hids : ids.Nodup) : (ids.foldl (fun acc a => acc.acceptRefundGroup before event a)
      db).outboundShopifyRefundAttempt = db.outboundShopifyRefundAttempt.map fun a =>
        if a.vendorAllocationId ∈ ids then
          a.ingested (db.shouldKeepReviewOpen a.vendorAllocationId) event.sourceShopifyRefundId
        else a := by
  induction ids generalizing db with
  | nil => simp
  | cons id ids ih =>
      obtain ⟨hnot, hids⟩ := List.nodup_cons.mp hids
      rw [List.foldl_cons, ih hids, acceptRefundGroup_attempts, List.map_map]
      refine List.map_congr_left fun a _ => ?_
      simp only [Function.comp_def]
      by_cases halloc : a.vendorAllocationId = id
      · have hrow := (a.ingested_sameRow (db.shouldKeepReviewOpen id)
          event.sourceShopifyRefundId).allocation
        rw [if_pos halloc, hrow, halloc, if_neg hnot, if_pos List.mem_cons_self]
      · rw [if_neg halloc, acceptRefundGroup_keepReviewOpen before event halloc]
        simp only [List.mem_cons, halloc, false_or]

/-! ## The claims -/

/-- The active claims of the attempt are claims for an order, and the attempt is not resolved. -/
def OpenFor (db : CancellationDb) (attemptId : Id) : Prop :=
  ∀ c ∈ db.orderShippingRefundClaim, c.ownerAttemptId = attemptId → c.status = .active →
    c.activeOrderKey.isSome = true ∧
      ∀ a ∈ db.outboundShopifyRefundAttempt, a.id = attemptId → a.status ≠ .resolved

/-- What an ingestion does to the attempts and the claims. -/
structure Settles (db db' : CancellationDb) : Prop where
  attempts : ∃ f, db'.outboundShopifyRefundAttempt = db.outboundShopifyRefundAttempt.map f ∧
    ∀ a, a.SameRow (f a) ∧ ((f a).status = a.status ∨ (f a).status = .resolved)
  claims : ∃ g, db'.orderShippingRefundClaim = db.orderShippingRefundClaim.map g ∧
    ∀ c, g c = c ∨ (g c = c.release ∧ c.status = .active ∧
      ∃ a ∈ db'.outboundShopifyRefundAttempt, a.id = c.ownerAttemptId ∧ a.status = .resolved)
  openFor : ∀ attemptId, db.OpenFor attemptId → db'.OpenFor attemptId

/-- No status changes. -/
lemma Settles.of_status {f : OutboundShopifyRefundAttempt → OutboundShopifyRefundAttempt}
    (hattempts : db'.outboundShopifyRefundAttempt = db.outboundShopifyRefundAttempt.map f)
    (hclaims : db'.orderShippingRefundClaim = db.orderShippingRefundClaim)
    (hrow : ∀ a, a.SameRow (f a) ∧ (f a).status = a.status) : Settles db db' where
  attempts := ⟨f, hattempts, fun a => ⟨(hrow a).1, .inl (hrow a).2⟩⟩
  claims := ⟨fun c => c, by rw [hclaims, List.map_id'], fun _ => .inl rfl⟩
  openFor := by
    intro attemptId hopen c hc howner hactive
    rw [hclaims] at hc
    obtain ⟨horder, hstatus⟩ := hopen c hc howner hactive
    refine ⟨horder, fun a ha haid => ?_⟩
    rw [hattempts] at ha
    obtain ⟨a₀, ha₀, rfl⟩ := List.mem_map.mp ha
    rw [(hrow a₀).2]
    exact hstatus a₀ ha₀ ((hrow a₀).1.id.symm.trans haid)

lemma Settles.of_same (hattempts : db'.outboundShopifyRefundAttempt = db.outboundShopifyRefundAttempt)
    (hclaims : db'.orderShippingRefundClaim = db.orderShippingRefundClaim) : Settles db db' :=
  .of_status (hattempts.trans (List.map_id' _).symm) hclaims fun a => ⟨.refl a, rfl⟩

lemma Settles.refl (db : CancellationDb) : Settles db db := .of_same rfl rfl

lemma Settles.trans (h : Settles db db') (h' : Settles db' db'') : Settles db db'' := by
  obtain ⟨f, hf, hrow⟩ := h.attempts
  obtain ⟨f', hf', hrow'⟩ := h'.attempts
  obtain ⟨g, hg, hclaim⟩ := h.claims
  obtain ⟨g', hg', hclaim'⟩ := h'.claims
  refine ⟨⟨fun a => f' (f a), by rw [hf', hf, List.map_map]; rfl, fun a => ?_⟩,
    ⟨fun c => g' (g c), by rw [hg', hg, List.map_map]; rfl, fun c => ?_⟩,
    fun attemptId hopen => h'.openFor attemptId (h.openFor attemptId hopen)⟩
  · refine ⟨(hrow a).1.trans (hrow' (f a)).1, ?_⟩
    rcases (hrow' (f a)).2 with hsame | hresolved
    · rw [hsame]
      exact (hrow a).2
    · exact .inr hresolved
  · dsimp only
    rcases hclaim c with hc | ⟨hc, hactive, a, ha, haid, hresolved⟩
    · rw [hc]
      exact hclaim' c
    · -- a released claim stays as it is, and so does its owner
      refine .inr ⟨?_, hactive, f' a, ?_, (hrow' a).1.id.trans haid, ?_⟩
      · rcases hclaim' (g c) with hc' | ⟨-, hactive', -⟩
        · exact hc'.trans hc
        · rw [hc] at hactive'
          cases hactive'
      · rw [hf']
        exact List.mem_map_of_mem ha
      · rcases (hrow' a).2 with hsame | hresolved'
        · exact hsame.trans hresolved
        · exact hresolved'

/-- The attempts of an allocation are updated, and then the claims of its resolved attempts are
released. -/
lemma Settles.update_release (hkey : KeyUnique OutboundShopifyRefundAttempt.id
      db.outboundShopifyRefundAttempt)
    {f : OutboundShopifyRefundAttempt → OutboundShopifyRefundAttempt}
    (hattempts : db'.outboundShopifyRefundAttempt = db.outboundShopifyRefundAttempt.map f)
    (hclaims : db'.orderShippingRefundClaim = db.orderShippingRefundClaim)
    (hrow : ∀ a, a.SameRow (f a) ∧ ((f a).status = a.status ∨
      ((f a).status = .resolved ∧ a.vendorAllocationId = id))) :
    Settles db (db'.releaseResolvedOrderShippingRefundClaimsForAllocation id) := by
  have hkey' : KeyUnique OutboundShopifyRefundAttempt.id db'.outboundShopifyRefundAttempt := by
    unfold KeyUnique at hkey ⊢
    rw [hattempts, List.map_map]
    have hmap : (OutboundShopifyRefundAttempt.id ∘ f) = OutboundShopifyRefundAttempt.id :=
      funext fun a => (hrow a).1.id
    rw [hmap]
    exact hkey
  refine ⟨⟨f, hattempts, fun a => ⟨(hrow a).1, (hrow a).2.imp_right (·.1)⟩⟩, ?_, ?_⟩
  · refine ⟨_, congrArg _ hclaims, fun c => ?_⟩
    dsimp only
    split
    next hreleased =>
      simp only [Bool.and_eq_true, decide_eq_true_eq] at hreleased
      obtain ⟨⟨hactive, -⟩, hattempt⟩ := hreleased
      obtain ⟨a, hfind, ha⟩ := (Option.any_eq_true _ _).mp hattempt
      simp only [Bool.and_eq_true, decide_eq_true_eq] at ha
      exact .inr ⟨rfl, hactive, a, mem_of_findRow hfind, key_of_findRow hfind, ha.2⟩
    next => exact .inl rfl
  · intro attemptId hopen c hc howner hactive
    obtain ⟨c₀, hc₀, rfl⟩ := mem_updateWhere.mp hc
    rw [hclaims] at hc₀
    split at hactive
    · cases hactive
    next hnot =>
      rw [if_neg hnot] at howner ⊢
      obtain ⟨horder, hstatus⟩ := hopen c₀ hc₀ howner hactive
      refine ⟨horder, fun a ha haid hresolved => hnot ?_⟩
      have hmem : a ∈ db'.outboundShopifyRefundAttempt := ha
      have hmap := hmem
      rw [hattempts] at hmap
      obtain ⟨a₀, ha₀, rfl⟩ := List.mem_map.mp hmap
      have hnew := (hrow a₀).2.resolve_left fun hsame => hstatus a₀ ha₀
        ((hrow a₀).1.id.symm.trans haid) (hsame.symm.trans hresolved)
      have hfind : db'.findAttempt c₀.ownerAttemptId = some (f a₀) := by
        rw [howner, ← haid]
        exact findRow_of_mem hkey' hmem
      simp [hactive, horder, hfind, hresolved, (hrow a₀).1.allocation, hnew.2]

lemma acceptRefundGroup_settles (hkey : KeyUnique OutboundShopifyRefundAttempt.id
      db.outboundShopifyRefundAttempt) (before : CancellationDb) (event : RefundEvent) (id : Id) :
    Settles db (db.acceptRefundGroup before event id) := by
  have hattempts := @acceptRefundGroup_attempts db before event id
  have hkeep : (db.recordRefund id event.sourceShopifyRefundId
      event.refundLineItems).shouldKeepReviewOpen id = db.shouldKeepReviewOpen id := rfl
  unfold acceptRefundGroup resolveCancelRefundReviewAfterRefundIngestion at hattempts ⊢
  rw [hkeep] at hattempts ⊢
  split
  next hopen =>
    rw [if_pos hopen] at hattempts
    refine .of_status hattempts rfl fun a => ?_
    split
    · refine ⟨a.ingested_sameRow _ _, ?_⟩
      refine (a.ingested_status _ event.sourceShopifyRefundId).resolve_right fun h => ?_
      rw [hopen] at h
      cases h.2.1
    · exact ⟨.refl a, rfl⟩
  next hopen =>
    rw [if_neg hopen] at hattempts
    refine Settles.update_release hkey hattempts ?_ fun a => ?_
    · split <;> rfl
    · split
      next halloc =>
        refine ⟨a.ingested_sameRow _ _, ?_⟩
        exact (a.ingested_status _ _).imp_right fun h => ⟨h.1, halloc⟩
      next => exact ⟨.refl a, .inl rfl⟩

lemma Settles.key (h : Settles db db')
    (hkey : KeyUnique OutboundShopifyRefundAttempt.id db.outboundShopifyRefundAttempt) :
    KeyUnique OutboundShopifyRefundAttempt.id db'.outboundShopifyRefundAttempt := by
  obtain ⟨f, hf, hrow⟩ := h.attempts
  unfold KeyUnique at hkey ⊢
  rw [hf, List.map_map]
  have hmap : (OutboundShopifyRefundAttempt.id ∘ f) = OutboundShopifyRefundAttempt.id :=
    funext fun a => (hrow a).1.id
  rw [hmap]
  exact hkey

lemma acceptGroups_settles (hkey : KeyUnique OutboundShopifyRefundAttempt.id
      db.outboundShopifyRefundAttempt) (before : CancellationDb) (event : RefundEvent)
    (ids : List Id) :
    Settles db (ids.foldl (fun acc a => acc.acceptRefundGroup before event a) db) := by
  induction ids generalizing db with
  | nil => exact .refl db
  | cons id ids ih =>
      have hgroup := acceptRefundGroup_settles hkey before event id
      exact hgroup.trans (ih (hgroup.key hkey))

/-! ## The ingestion -/

/-- No attempt is one of a customer's cancellation. -/
def NoItemAttempts (db : CancellationDb) : Prop :=
  ∀ a ∈ db.outboundShopifyRefundAttempt, a.customerCancellationRequestItemId = none

lemma Settles.noItemAttempts (h : Settles db db') (hitems : db.NoItemAttempts) :
    db'.NoItemAttempts := by
  obtain ⟨f, hf, hrow⟩ := h.attempts
  intro a ha
  rw [hf] at ha
  obtain ⟨a₀, ha₀, rfl⟩ := List.mem_map.mp ha
  exact (hrow a₀).1.item.trans (hitems a₀ ha₀)

/-- Without attempts for them, the refund moves no cancellation items. -/
lemma reconcileItems_eq (hitems : db.NoItemAttempts) (now : Instant) :
    db.reconcileCustomerCancellationItemsFromVerifiedRefund event now = db := by
  have hnone : db.itemsCoveredBy event = [] := by
    unfold itemsCoveredBy reconciliationCandidates
    rw [List.filter_filter, List.filter_eq_nil_iff]
    intro item _ hcase
    simp only [Bool.and_eq_true] at hcase
    obtain ⟨a, hattempt, -⟩ := (Option.any_eq_true _ _).mp hcase.2.2
    have hitem := hitems a (mem_of_findRow hattempt)
    have hkey : a.customerCancellationRequestItemId = some item.id := key_of_findRow hattempt
    rw [hitem] at hkey
    cases hkey
  unfold reconcileCustomerCancellationItemsFromVerifiedRefund
  rw [hnone]
  rfl

/-- What is ingested of a refund with lines. -/
lemma ingest_lines {now : Instant} (hitems : db.NoItemAttempts)
    (hkey : KeyUnique OutboundShopifyRefundAttempt.id db.outboundShopifyRefundAttempt)
    (hlines : event.refundLineItems.isEmpty = false)
    (h : db.ingestShopifyRefundWebhook event now = .ok db') :
    event.acceptedAllocationIds.Nodup ∧ db' = event.acceptedAllocationIds.foldl
      (fun acc a => acc.acceptRefundGroup db event a) db := by
  unfold ingestShopifyRefundWebhook at h
  simp only [bind_eq_ok, require_eq_ok, hlines, Bool.false_eq_true, if_false, pure_eq_ok] at h
  obtain ⟨_, -, _, haccepted, rfl⟩ := h
  refine ⟨haccepted.1, ?_⟩
  split
  · exact reconcileItems_eq ((acceptGroups_settles hkey db event _).noItemAttempts hitems) now
  · rfl

/-- What is ingested of a refund without lines: the attempt of the one claim that matches it is
resolved, or nothing changes. -/
lemma ingest_shippingOnly {now : Instant} (hlines : event.refundLineItems.isEmpty = true)
    (h : db.ingestShopifyRefundWebhook event now = .ok db') :
    ∃ claim attempt, db.matchingClaims event.sourceShopifyOrderId event.sourceShopifyRefundId =
        [claim] ∧ db.findAttempt claim.ownerAttemptId = some attempt ∧
      (db' = db ∨ (attempt.status = .shopifyActionPending ∧
        ∃ reviewed : CancellationDb,
          reviewed.outboundShopifyRefundAttempt = (db.updateAttempt attempt.id fun a =>
            { a with status := .resolved }).outboundShopifyRefundAttempt ∧
          reviewed.orderShippingRefundClaim = db.orderShippingRefundClaim ∧
          db' = reviewed.releaseResolvedOrderShippingRefundClaimsForAllocation
            attempt.vendorAllocationId)) := by
  unfold ingestShopifyRefundWebhook at h
  simp only [bind_eq_ok, require_eq_ok, hlines, if_true] at h
  obtain ⟨_, -, _, -, h⟩ := h
  unfold reconcileVerifiedShippingOnlyRefund at h
  simp only [bind_eq_ok, require_eq_ok, getOrThrow_eq_ok] at h
  obtain ⟨_, hone, claim, hclaim, attempt, hattempt, allocation, -, _, -, h⟩ := h
  obtain ⟨c, hc⟩ := List.length_eq_one_iff.mp hone
  rw [hc] at hclaim
  obtain rfl : c = claim := Option.some.inj hclaim
  refine ⟨c, attempt, hc, hattempt, ?_⟩
  split at h
  · exact .inl (pure_eq_ok.mp h).symm
  · split at h
    · exact .inl (pure_eq_ok.mp h).symm
    · simp only [bind_eq_ok, require_eq_ok, pure_eq_ok] at h
      obtain ⟨_, hactive, rfl⟩ := h
      refine .inr ⟨hactive.1, _, ?_, ?_, rfl⟩
      · split <;> rfl
      · split <;> rfl

/-- **What a webhook does to the attempts and the claims.** -/
theorem ingest_settles {now : Instant} (hitems : db.NoItemAttempts)
    (hkey : KeyUnique OutboundShopifyRefundAttempt.id db.outboundShopifyRefundAttempt)
    (h : db.ingestShopifyRefundWebhook event now = .ok db') : Settles db db' := by
  cases hlines : event.refundLineItems.isEmpty with
  | false =>
      obtain ⟨-, rfl⟩ := ingest_lines hitems hkey hlines h
      exact acceptGroups_settles hkey db event _
  | true =>
      obtain ⟨claim, attempt, -, hattempt, rfl | ⟨-, reviewed, hattempts, hclaims, rfl⟩⟩ :=
        ingest_shippingOnly hlines h
      · exact .refl _
      · have hmap : reviewed.outboundShopifyRefundAttempt =
            db.outboundShopifyRefundAttempt.map fun a =>
              if a.id = attempt.id ∧ a.vendorAllocationId = attempt.vendorAllocationId then
                { a with status := .resolved } else a := by
          rw [hattempts]
          refine List.map_congr_left fun a ha => ?_
          by_cases hid : a.id = attempt.id
          · obtain rfl : a = attempt := hkey.eq ha (mem_of_findRow hattempt) hid
            simp
          · simp [hid]
        refine Settles.update_release hkey hmap hclaims fun a => ?_
        split
        next hsame => exact ⟨⟨rfl, rfl, rfl, rfl⟩, .inr ⟨rfl, hsame.2⟩⟩
        next => exact ⟨.refl a, .inl rfl⟩

/-- The webhook resolves the attempt, if its ingestion succeeds. -/
def Resolves (db : CancellationDb) (event : RefundEvent) (a : OutboundShopifyRefundAttempt) : Prop :=
  if event.refundLineItems.isEmpty then
    a.status = .shopifyActionPending ∧ ∃ c ∈ db.matchingClaims event.sourceShopifyOrderId
      event.sourceShopifyRefundId, c.ownerAttemptId = a.id
  else
    a.vendorAllocationId ∈ event.acceptedAllocationIds ∧
      (a.status = .previewed ∨ a.status = .shopifyActionPending) ∧
        db.shouldKeepReviewOpen a.vendorAllocationId = false

instance (db : CancellationDb) (event : RefundEvent) (a : OutboundShopifyRefundAttempt) :
    Decidable (db.Resolves event a) := by
  unfold Resolves
  split <;> infer_instance

/-- An attempt that is resolved afterwards was so before, or the webhook resolves it. -/
lemma resolves_of_ingest {now : Instant} {a a' : OutboundShopifyRefundAttempt}
    (hitems : db.NoItemAttempts)
    (hkey : KeyUnique OutboundShopifyRefundAttempt.id db.outboundShopifyRefundAttempt)
    (h : db.ingestShopifyRefundWebhook event now = .ok db')
    (ha : a ∈ db.outboundShopifyRefundAttempt) (ha' : a' ∈ db'.outboundShopifyRefundAttempt)
    (hid : a'.id = a.id) (hresolved : a'.status = .resolved) :
    a.status = .resolved ∨ db.Resolves event a := by
  unfold Resolves
  cases hlines : event.refundLineItems.isEmpty with
  | false =>
      obtain ⟨hnodup, rfl⟩ := ingest_lines hitems hkey hlines h
      rw [acceptGroups_attempts db event hnodup] at ha'
      obtain ⟨a₀, ha₀, rfl⟩ := List.mem_map.mp ha'
      split at hresolved
      next hmem =>
        rw [if_pos hmem, (a₀.ingested_sameRow _ _).id] at hid
        obtain rfl : a₀ = a := hkey.eq ha₀ ha hid
        rcases a₀.ingested_status (db.shouldKeepReviewOpen a₀.vendorAllocationId)
          event.sourceShopifyRefundId with hsame | ⟨-, hkeep, hopen⟩
        · exact .inl (hsame.symm.trans hresolved)
        · exact .inr ⟨hmem, hopen, hkeep⟩
      next hmem =>
        rw [if_neg hmem] at hid
        obtain rfl : a₀ = a := hkey.eq ha₀ ha hid
        exact .inl hresolved
  | true =>
      obtain ⟨claim, attempt, hclaim, hattempt, rfl | ⟨hpending, reviewed, hattempts, -, rfl⟩⟩ :=
        ingest_shippingOnly hlines h
      · obtain rfl := hkey.eq ha' ha hid
        exact .inl hresolved
      · have hmem : a' ∈ reviewed.outboundShopifyRefundAttempt := ha'
        rw [hattempts] at hmem
        obtain ⟨a₀, ha₀, rfl⟩ := mem_updateWhere.mp hmem
        split at hresolved
        next hsame =>
          rw [if_pos hsame] at hid
          have hrow : a₀.id = attempt.id := of_decide_eq_true hsame
          obtain rfl : a₀ = a := hkey.eq ha₀ ha hid
          obtain rfl : a₀ = attempt := hkey.eq ha₀ (mem_of_findRow hattempt) hrow
          refine .inr ⟨hpending, claim, ?_, (key_of_findRow hattempt).symm⟩
          rw [hclaim]
          exact List.mem_singleton_self claim
        next hsame =>
          rw [if_neg hsame] at hid
          obtain rfl : a₀ = a := hkey.eq ha₀ ha hid
          exact .inl hresolved

end CancellationDb

end VendorDashboard.Orders

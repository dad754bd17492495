import VendorDashboard.Orders.AdminRefund

/-!
# The steps of an administrator's refund

What a step of a call writes (`Writes`), and what it leads to (`Follows`): the attempt that a call
has exists, a refund that it goes on to record was created under the key of its attempt, and a
shipping claim that it goes on to use was active and its own when the call saw it.
-/

namespace VendorDashboard.Orders

open Finance (Id Instant)
open Table Transaction
open CancellationDb (ClaimAcquisition ownClaimOutcome)

/-- The attempt is on its way to Shopify. -/
def OutboundShopifyRefundAttempt.InProgress (a : OutboundShopifyRefundAttempt) : Prop :=
  a.status = .readyToSubmit ∨ a.status = .shopifyActionPending

instance (a : OutboundShopifyRefundAttempt) : Decidable a.InProgress :=
  inferInstanceAs (Decidable (_ ∨ _))

/-- The claim is active for its order. -/
structure OrderShippingRefundClaim.ActiveFor (c : OrderShippingRefundClaim)
    (shopifyOrderId attemptId : Id) : Prop where
  status : c.status = .active
  owner : c.ownerAttemptId = attemptId
  order : c.activeOrderKey = some shopifyOrderId

namespace CancellationDb

/-- The attempt of the key is one of its allocation. -/
def HasAttempt (db : CancellationDb) (key : ShopifyRefundIdempotencyKey) : Prop :=
  ∃ a ∈ db.outboundShopifyRefundAttempt, a.id = key.attemptId ∧
    a.vendorAllocationId = key.allocationId

def HasClaim (db : CancellationDb) (shopifyOrderId attemptId : Id) : Prop :=
  ∃ c ∈ db.orderShippingRefundClaim, c.ActiveFor shopifyOrderId attemptId

end CancellationDb

/-! ## The attempts -/

namespace CancellationDb

variable {db db' : CancellationDb} {id : Id} {key : ShopifyRefundIdempotencyKey}

lemma mem_updateAttempt {f : OutboundShopifyRefundAttempt → OutboundShopifyRefundAttempt}
    {a' : OutboundShopifyRefundAttempt} :
    a' ∈ (db.updateAttempt id f).outboundShopifyRefundAttempt ↔
      ∃ a ∈ db.outboundShopifyRefundAttempt, (a.id = id ∧ a' = f a) ∨ (a.id ≠ id ∧ a' = a) := by
  unfold updateAttempt
  rw [mem_updateWhere]
  refine exists_congr fun a => and_congr_right fun _ => ?_
  by_cases h : a.id = id <;> simp [h, eq_comm]

lemma HasAttempt.update {f : OutboundShopifyRefundAttempt → OutboundShopifyRefundAttempt}
    (h : db.HasAttempt key) (hid : ∀ a, (f a).id = a.id)
    (halloc : ∀ a, (f a).vendorAllocationId = a.vendorAllocationId) :
    (db.updateAttempt id f).HasAttempt key := by
  obtain ⟨a, ha, hkey, hallocation⟩ := h
  by_cases heq : a.id = id
  · exact ⟨f a, mem_updateAttempt.mpr ⟨a, ha, .inl ⟨heq, rfl⟩⟩, (hid a).trans hkey,
      (halloc a).trans hallocation⟩
  · exact ⟨a, mem_updateAttempt.mpr ⟨a, ha, .inr ⟨heq, rfl⟩⟩, hkey, hallocation⟩

lemma insertAttempt_ok {attempt : OutboundShopifyRefundAttempt}
    (h : db.insertAttempt attempt = .ok db') :
    KeyUnique OutboundShopifyRefundAttempt.id (db.outboundShopifyRefundAttempt ++ [attempt]) ∧
      db' = { db with
        outboundShopifyRefundAttempt := db.outboundShopifyRefundAttempt ++ [attempt] } := by
  unfold insertAttempt at h
  simp only [bind_eq_ok, require_eq_ok, insertRows_eq_ok, pure_eq_ok] at h
  obtain ⟨_, -, attempts, ⟨hkey, rfl⟩, rfl⟩ := h
  exact ⟨hkey, rfl⟩

lemma HasAttempt.insert {attempt : OutboundShopifyRefundAttempt} (h : db.HasAttempt key)
    (hdb : db.insertAttempt attempt = .ok db') : db'.HasAttempt key := by
  obtain ⟨-, rfl⟩ := insertAttempt_ok hdb
  obtain ⟨a, ha, hkey⟩ := h
  exact ⟨a, List.mem_append_left _ ha, hkey⟩

end CancellationDb

/-- Shopify has created the refund of the key. -/
def AdminRefundStore.HasRefund (s : AdminRefundStore) (key : ShopifyRefundIdempotencyKey) : Prop :=
  ∃ c ∈ s.calls, c.input.idempotencyKey = key ∧ ∃ refundId, c.outcome = .created refundId

namespace AdminRefundPosition

/-- The execution, once it has an attempt. -/
def execution : AdminRefundPosition → Option RefundExecution
  | .classify e | .cancelFulfillmentOrder _ e | .readEligibilityAgain e | .readClaimAttempt e
  | .readOwnClaim e | .createClaim _ e | .readConflictingClaim _ e | .previewShippingMaximum e
  | .previewRefund _ e | .createShopifyRefund _ e | .failAttempt _ _ e | .checkShipping _ e
  | .checkCanonicalRefunds _ e | .checkFulfillment _ e | .markSubmitted _ _ e
  | .updateReview _ _ e => some e
  | _ => none

/-- The attempt that the call has, or is about to write. -/
def attempt : AdminRefundPosition → Option ShopifyRefundIdempotencyKey
  | .writePreview existing input => existing.map (⟨input.vendorAllocationId, ·⟩)
  | .writeLock existing request _ => existing.map (⟨request.target.allocationId, ·⟩)
  | p => p.execution.map (·.key)

/-- The execution whose refund was created. -/
def refundedBy : AdminRefundPosition → Option RefundExecution
  | .checkShipping _ e | .checkCanonicalRefunds _ e | .checkFulfillment _ e | .markSubmitted _ _ e
  | .updateReview _ _ e => some e
  | _ => none

/-- The execution that is about to refund the shipping. -/
def claimedBy : AdminRefundPosition → Option RefundExecution
  | .previewShippingMaximum e => some e
  | .previewRefund shippingAmount e => if shippingAmount.isSome then some e else none
  | .createShopifyRefund input e => if input.shipping.isSome then some e else none
  | _ => none

/-! ## What a step leads to -/

/-- What is known after a step from `p` to `q`. -/
structure Follows (p : AdminRefundPosition) (s : AdminRefundStore) (q : AdminRefundPosition) :
    Prop where
  attempt : ∀ key, q.attempt = some key → p.attempt = some key ∨ s.db.HasAttempt key
  call : ∀ input e, q = .createShopifyRefund input e →
    input.idempotencyKey = e.key ∧ input.orderId = e.target.shopifyOrderId
  refunded : ∀ e, q.refundedBy = some e →
    (∃ e₀, p.refundedBy = some e₀ ∧ e₀.key = e.key) ∨ s.HasRefund e.key
  claimed : ∀ e, q.claimedBy = some e →
    p.claimedBy = some e ∨ s.db.HasClaim e.target.shopifyOrderId e.attemptId

variable {p q : AdminRefundPosition} {s s' : AdminRefundStore} {e : RefundExecution}

/-- A position before the refund that does not use a claim. -/
structure Plain (q : AdminRefundPosition) : Prop where
  refunded : q.refundedBy = none
  claimed : q.claimedBy = none
  call : ∀ input e, q ≠ .createShopifyRefund input e

lemma Follows.plain (hq : q.Plain)
    (hattempt : ∀ key, q.attempt = some key → p.attempt = some key ∨ s.db.HasAttempt key) :
    Follows p s q where
  attempt := hattempt
  call := fun input e heq => absurd heq (hq.call input e)
  refunded := fun e he => by
    rw [hq.refunded] at he
    cases he
  claimed := fun e he => by
    rw [hq.claimed] at he
    cases he

/-- The call has no attempt. -/
lemma Follows.without (hq : q.Plain) (hattempt : q.attempt = none) : Follows p s q :=
  .plain hq fun key hkey => by
    rw [hattempt] at hkey
    cases hkey

/-- The call has the attempt that it had. -/
lemma Follows.with (hq : q.Plain) (hattempt : q.attempt = some e.key)
    (hp : p.attempt = some e.key) : Follows p s q :=
  .plain hq fun key hkey => .inl (by rw [hp, ← hattempt, hkey])

lemma Follows.stop (message : String) : Follows p s (stop message) :=
  .without ⟨rfl, rfl, fun _ _ heq => by cases heq⟩ rfl

lemma cancelFulfillmentOrders_plain (e : RefundExecution) (n : ℕ) :
    (cancelFulfillmentOrders e n).Plain := by
  cases n with
  | zero => exact ⟨rfl, rfl, fun _ _ heq => by cases heq⟩
  | succ n => exact ⟨rfl, rfl, fun _ _ heq => by cases heq⟩

lemma cancelFulfillmentOrders_attempt (e : RefundExecution) (n : ℕ) :
    (cancelFulfillmentOrders e n).attempt = some e.key := by
  cases n <;> rfl

lemma failAttempt_plain (response again : Bool) (e : RefundExecution) :
    (AdminRefundPosition.failAttempt response again e).Plain :=
  ⟨rfl, rfl, fun _ _ heq => by cases heq⟩

lemma classified_plain (e : RefundExecution) (c : FulfillmentOrderCancellation) :
    (classified e c).Plain ∧ (classified e c).attempt = some e.key := by
  unfold classified
  dsimp only
  split
  · exact ⟨failAttempt_plain .., rfl⟩
  · split
    · exact ⟨failAttempt_plain .., rfl⟩
    · split
      · exact ⟨failAttempt_plain .., rfl⟩
      · exact ⟨cancelFulfillmentOrders_plain .., cancelFulfillmentOrders_attempt ..⟩

lemma withAttempt_plain (request : RefundRequest) (attemptId : Id) :
    (withAttempt request attemptId).Plain ∧
      (withAttempt request attemptId).attempt = some ⟨request.target.allocationId, attemptId⟩ := by
  unfold withAttempt
  dsimp only
  split
  · exact classified_plain _ _
  · exact ⟨⟨rfl, rfl, fun _ _ heq => by cases heq⟩, rfl⟩

lemma checkedAllocation_plain (target : RefundTarget) (confirmed : Option ConfirmedExecution)
    (allocation : AdminRefundAllocation) (shippingOnly eligible : Bool) :
    (checkedAllocation target confirmed allocation shippingOnly eligible).Plain ∧
      (checkedAllocation target confirmed allocation shippingOnly eligible).attempt = none := by
  unfold checkedAllocation
  split
  · split <;> exact ⟨⟨rfl, rfl, fun _ _ heq => by cases heq⟩, rfl⟩
  · split <;> exact ⟨⟨rfl, rfl, fun _ _ heq => by cases heq⟩, rfl⟩

/-- The refund has been created, now or before. -/
lemma Follows.refund (hq : q.attempt = some e.key) (hrefunded : q.refundedBy = some e)
    (hclaimed : q.claimedBy = none) (hcall : ∀ input e, q ≠ .createShopifyRefund input e)
    (hp : p.attempt = some e.key)
    (h : (∃ e₀, p.refundedBy = some e₀ ∧ e₀.key = e.key) ∨ s.HasRefund e.key) :
    Follows p s q where
  attempt := fun key hkey => .inl (by rw [hp, ← hq, hkey])
  call := fun input e heq => absurd heq (hcall input e)
  refunded := fun e' he' => by
    obtain rfl : e = e' := Option.some.inj (hrefunded.symm.trans he')
    exact h
  claimed := fun e he => by
    rw [hclaimed] at he
    cases he

lemma afterShippingChecks_follows {refundId : Option Id} (hp : p.attempt = some e.key)
    (h : (∃ e₀, p.refundedBy = some e₀ ∧ e₀.key = e.key) ∨ s.HasRefund e.key) :
    Follows p s (afterShippingChecks refundId e) := by
  unfold afterShippingChecks
  split <;> exact .refund rfl rfl rfl (fun _ _ heq => by cases heq) hp h

lemma claimed_follows {outcome : ClaimAcquisition} (hp : p.attempt = some e.key)
    (h : outcome = .acquired ∨ outcome = .sameOwner →
      s.db.HasClaim e.target.shopifyOrderId e.attemptId) : Follows p s (claimed e outcome) := by
  have husing (hclaim : s.db.HasClaim e.target.shopifyOrderId e.attemptId) :
      Follows p s (.previewShippingMaximum e) :=
    { attempt := fun key hkey => .inl (by rw [hp, ← hkey]; rfl)
      call := fun _ _ heq => by cases heq
      refunded := fun _ he => by cases he
      claimed := fun e' he' => by
        obtain rfl : e = e' := Option.some.inj he'
        exact .inr hclaim }
  cases outcome with
  | acquired => exact husing (h (.inl rfl))
  | sameOwner => exact husing (h (.inr rfl))
  | ownedByAnotherAttempt | ownerTerminal => exact .with (failAttempt_plain ..) rfl hp

lemma ownClaimOutcome_active {db : CancellationDb} {claim : OrderShippingRefundClaim}
    {shopifyOrderId : Id} (hclaim : claim ∈ db.orderShippingRefundClaim)
    (h : ownClaimOutcome claim shopifyOrderId = .acquired ∨
      ownClaimOutcome claim shopifyOrderId = .sameOwner) :
    db.HasClaim shopifyOrderId claim.ownerAttemptId := by
  unfold ownClaimOutcome at h
  split at h
  next hactive => exact ⟨claim, hclaim, hactive.1, rfl, hactive.2⟩
  next => rcases h with h | h <;> cases h

lemma shippingMaximum_follows {preview : PreviewSuggestedRefundResult} :
    Follows (.previewShippingMaximum e) s (shippingMaximum e preview) := by
  unfold shippingMaximum
  dsimp only
  split
  · exact .stop _
  · split
    · exact .stop _
    · split
      · split
        · exact .stop _
        · exact
            { attempt := fun _ hkey => .inl hkey
              call := fun _ _ heq => by cases heq
              refunded := fun _ he => by cases he
              claimed := fun e' he' => by
                simp only [claimedBy] at he'
                split at he'
                · exact .inl he'
                · cases he' }
      · split
        · exact .stop _
        · exact .with ⟨rfl, rfl, fun _ _ heq => by cases heq⟩ rfl rfl

lemma suggestedRefund_follows {shippingAmount : Option ℤ} {preview : PreviewSuggestedRefundResult} :
    Follows (.previewRefund shippingAmount e) s (suggestedRefund e shippingAmount preview) := by
  unfold suggestedRefund
  dsimp only
  split
  · exact .with (failAttempt_plain ..) rfl rfl
  · split
    · exact .stop _
    · exact
        { attempt := fun _ hkey => .inl hkey
          call := fun _ _ heq => by
            cases heq
            exact ⟨rfl, rfl⟩
          refunded := fun _ he => by cases he
          claimed := fun _ he => .inl he }

lemma refunded_follows {input : CreateShopifyRefundInput} {refundId : Option Id}
    (h : s.HasRefund e.key) :
    Follows (.createShopifyRefund input e) s (refunded refundId input.shipping e) := by
  unfold refunded
  split
  · exact .refund rfl rfl rfl (fun _ _ heq => by cases heq) rfl (.inr h)
  · exact afterShippingChecks_follows rfl (.inr h)

/-! ## The tables -/

lemma hasAttempt_of_latestBy {db : CancellationDb} {a : OutboundShopifyRefundAttempt} {id : Id}
    {ok : OutboundShopifyRefundAttempt → Bool}
    (h : latestBy OutboundShopifyRefundAttempt.requestedAt (db.outboundShopifyRefundAttempt.filter
      fun a => decide (a.vendorAllocationId = id) && ok a) = some a) :
    a ∈ db.outboundShopifyRefundAttempt ∧ a.vendorAllocationId = id ∧ ok a = true := by
  obtain ⟨ha, hok⟩ := List.mem_filter.mp (mem_of_latestBy h)
  rw [Bool.and_eq_true, decide_eq_true_eq] at hok
  exact ⟨ha, hok⟩

lemma existingPreview_hasAttempt {db : CancellationDb} {allocationId id : Id}
    (h : (db.existingPreview allocationId).map (·.id) = some id) :
    db.HasAttempt ⟨allocationId, id⟩ := by
  obtain ⟨a, ha, rfl⟩ := Option.map_eq_some_iff.mp h
  obtain ⟨hmem, halloc, -⟩ := hasAttempt_of_latestBy ha
  exact ⟨a, hmem, rfl, halloc⟩

lemma findActive_hasAttempt {db : CancellationDb} {allocationId : Id}
    {a : OutboundShopifyRefundAttempt}
    (h : db.findActiveOutboundShopifyRefundAttemptForAllocation allocationId = some a) :
    db.HasAttempt ⟨allocationId, a.id⟩ := by
  obtain ⟨hmem, halloc, -⟩ := hasAttempt_of_latestBy h
  exact ⟨a, hmem, rfl, halloc⟩

/-- An attempt that is written for the first time is new. -/
lemma writeExecution_none {db db' : CancellationDb} {input : CreatePreviewAttemptInput} {newId : Id}
    {now : Instant} (h : db.writeExecution none input newId now = .ok db') :
    db'.HasAttempt ⟨input.vendorAllocationId, newId⟩ := by
  obtain ⟨-, rfl⟩ := CancellationDb.insertAttempt_ok h
  exact ⟨_, List.mem_append_right _ (List.mem_singleton.mpr rfl), rfl, rfl⟩

lemma insertShippingClaim_ok {db db' : CancellationDb} {shopifyOrderId attemptId claimId : Id}
    {now : Instant} (h : db.insertShippingClaim shopifyOrderId attemptId claimId now = some db') :
    claimId ∉ db.orderShippingRefundClaim.map (·.id) ∧
      db.conflictingClaim shopifyOrderId attemptId = none ∧
        db' = { db with orderShippingRefundClaim := db.orderShippingRefundClaim ++
          [⟨claimId, shopifyOrderId, attemptId, some shopifyOrderId, .active, now⟩] } := by
  unfold CancellationDb.insertShippingClaim at h
  split at h
  next => cases h
  next hfresh =>
    split at h
    next => cases h
    next hconflict => exact ⟨hfresh, by simpa using hconflict, (Option.some.inj h).symm⟩

lemma createShopifyRefund_ok {input : CreateShopifyRefundInput} {outcome : RefundCallOutcome}
    (h : s.createShopifyRefund input outcome = some s') :
    s.Answers input outcome ∧
      s' = { s with calls := s.calls ++ [⟨input, outcome, s.shippingOwner input.orderId⟩] } := by
  unfold AdminRefundStore.createShopifyRefund at h
  split at h
  next hanswers => exact ⟨hanswers, (Option.some.inj h).symm⟩
  next => cases h

/-- **What a step leads to.** -/
theorem answer_follows {a : AdminRefundAnswer} (hcall : ∀ input e, p = .createShopifyRefund input e →
      input.idempotencyKey = e.key) (h : p.answer s a = some (s', q)) : Follows p s' q := by
  unfold answer at h
  split at h
  case h_1 target confirmed evidence =>
    obtain ⟨rfl, rfl⟩ := Prod.mk.inj (Option.some.inj h)
    split
    · exact .stop _
    · split <;> exact .without ⟨rfl, rfl, fun _ _ heq => by cases heq⟩ rfl
  case h_2 target confirmed allocation completion =>
    obtain ⟨rfl, rfl⟩ := Prod.mk.inj (Option.some.inj h)
    split
    · exact .stop _
    · exact .without ⟨rfl, rfl, fun _ _ heq => by cases heq⟩ rfl
  case h_3 target confirmed allocation shippingOnly allocations =>
    obtain ⟨rfl, rfl⟩ := Prod.mk.inj (Option.some.inj h)
    obtain ⟨hplain, hattempt⟩ := checkedAllocation_plain target confirmed allocation shippingOnly _
    exact .without hplain hattempt
  case h_4 target allocation shippingOnly _ =>
    obtain ⟨rfl, rfl⟩ := Prod.mk.inj (Option.some.inj h)
    split
    · exact .stop _
    · split <;> exact .without ⟨rfl, rfl, fun _ _ heq => by cases heq⟩ rfl
  case h_5 =>
    obtain ⟨rfl, rfl⟩ := Prod.mk.inj (Option.some.inj h)
    exact .without ⟨rfl, rfl, fun _ _ heq => by cases heq⟩ rfl
  case h_6 input _ =>
    obtain ⟨rfl, rfl⟩ := Prod.mk.inj (Option.some.inj h)
    refine .plain ⟨rfl, rfl, fun _ _ heq => by cases heq⟩ fun key hkey => .inr ?_
    obtain ⟨id, hid, rfl⟩ := Option.map_eq_some_iff.mp hkey
    exact existingPreview_hasAttempt hid
  case h_7 existing input newId now =>
    obtain ⟨db, -, heq⟩ := Option.map_eq_some_iff.mp h
    obtain ⟨rfl, rfl⟩ := Prod.mk.inj heq
    exact .without ⟨rfl, rfl, fun _ _ heq => by cases heq⟩ rfl
  case h_8 request blocked refundShipping _ =>
    obtain ⟨rfl, rfl⟩ := Prod.mk.inj (Option.some.inj h)
    split
    · split
      · exact .stop _
      · exact .without ⟨rfl, rfl, fun _ _ heq => by cases heq⟩ rfl
    next attempt hattempt =>
      split
      · exact .stop _
      · split
        · exact .stop _
        · obtain ⟨hplain, hkey⟩ := withAttempt_plain request attempt.id
          refine .plain hplain fun key hkey' => .inr ?_
          obtain rfl := Option.some.inj (hkey.symm.trans hkey')
          exact findActive_hasAttempt hattempt
  case h_9 request refundShipping _ =>
    obtain ⟨rfl, rfl⟩ := Prod.mk.inj (Option.some.inj h)
    refine .plain ⟨rfl, rfl, fun _ _ heq => by cases heq⟩ fun key hkey => .inr ?_
    obtain ⟨id, hid, rfl⟩ := Option.map_eq_some_iff.mp hkey
    exact existingPreview_hasAttempt hid
  case h_10 existing request refundShipping newId now =>
    obtain ⟨db, hdb, heq⟩ := Option.map_eq_some_iff.mp h
    obtain ⟨rfl, rfl⟩ := Prod.mk.inj heq
    obtain ⟨hplain, hkey⟩ := withAttempt_plain request (existing.getD newId)
    refine .plain hplain fun key hkey' => ?_
    obtain rfl := Option.some.inj (hkey.symm.trans hkey')
    cases existing with
    | some id => exact .inl rfl
    | none => exact .inr (writeExecution_none (toOption_eq_some.mp hdb))
  case h_11 e c =>
    obtain ⟨rfl, rfl⟩ := Prod.mk.inj (Option.some.inj h)
    obtain ⟨hplain, hkey⟩ := classified_plain e c
    exact .with hplain hkey rfl
  case h_12 remaining e userErrors =>
    obtain ⟨rfl, rfl⟩ := Prod.mk.inj (Option.some.inj h)
    split
    · exact .with (failAttempt_plain ..) rfl rfl
    · exact .with (cancelFulfillmentOrders_plain e remaining)
        (cancelFulfillmentOrders_attempt e remaining) rfl
  case h_13 e allocations =>
    obtain ⟨rfl, rfl⟩ := Prod.mk.inj (Option.some.inj h)
    split <;> exact .with ⟨rfl, rfl, fun _ _ heq => by cases heq⟩ rfl rfl
  case h_14 e _ =>
    obtain ⟨rfl, rfl⟩ := Prod.mk.inj (Option.some.inj h)
    split
    · exact .stop _
    · split
      · exact .with ⟨rfl, rfl, fun _ _ heq => by cases heq⟩ rfl rfl
      · exact .stop _
  case h_15 e _ =>
    obtain ⟨rfl, rfl⟩ := Prod.mk.inj (Option.some.inj h)
    split
    · exact .with ⟨rfl, rfl, fun _ _ heq => by cases heq⟩ rfl rfl
    next claim hclaim =>
      split
      · refine claimed_follows rfl fun houtcome => ?_
        have howner : claim.ownerAttemptId = e.attemptId := key_of_findRow hclaim
        rw [← howner]
        exact ownClaimOutcome_active (mem_of_findRow hclaim) houtcome
      · exact .stop _
  case h_16 again e claimId now =>
    split at h
    · obtain ⟨rfl, rfl⟩ := Prod.mk.inj (Option.some.inj h)
      exact .with ⟨rfl, rfl, fun _ _ heq => by cases heq⟩ rfl rfl
    · obtain ⟨db, hdb, heq⟩ := Option.map_eq_some_iff.mp h
      obtain ⟨rfl, rfl⟩ := Prod.mk.inj heq
      obtain ⟨-, -, rfl⟩ := insertShippingClaim_ok hdb
      exact claimed_follows rfl fun _ =>
        ⟨_, List.mem_append_right _ (List.mem_singleton.mpr rfl), rfl, rfl, rfl⟩
  case h_17 again e _ =>
    obtain ⟨rfl, rfl⟩ := Prod.mk.inj (Option.some.inj h)
    split
    · split
      · exact .stop _
      · exact .with ⟨rfl, rfl, fun _ _ heq => by cases heq⟩ rfl rfl
    next claim hclaim =>
      have hmem := (List.mem_filter.mp (mem_of_latestBy hclaim)).1
      split
      next howner =>
        refine claimed_follows rfl fun houtcome => ?_
        rw [← howner]
        exact ownClaimOutcome_active hmem houtcome
      next => exact .with (failAttempt_plain ..) rfl rfl
  case h_18 e preview =>
    obtain ⟨rfl, rfl⟩ := Prod.mk.inj (Option.some.inj h)
    exact shippingMaximum_follows
  case h_19 shippingAmount e preview =>
    obtain ⟨rfl, rfl⟩ := Prod.mk.inj (Option.some.inj h)
    exact suggestedRefund_follows
  case h_20 input e refundId named =>
    obtain ⟨t, ht, heq⟩ := Option.map_eq_some_iff.mp h
    obtain ⟨rfl, rfl⟩ := Prod.mk.inj heq
    obtain ⟨-, rfl⟩ := createShopifyRefund_ok ht
    exact refunded_follows ⟨_, List.mem_append_right _ (List.mem_singleton.mpr rfl),
      hcall input e rfl, refundId, rfl⟩
  case h_21 input e =>
    obtain ⟨t, -, heq⟩ := Option.map_eq_some_iff.mp h
    obtain ⟨rfl, rfl⟩ := Prod.mk.inj heq
    exact .with (failAttempt_plain ..) rfl rfl
  case h_22 response again e _ =>
    obtain ⟨rfl, rfl⟩ := Prod.mk.inj (Option.some.inj h)
    split
    · exact .with (failAttempt_plain ..) rfl rfl
    · exact .stop _
  case h_23 refundId e _ =>
    obtain ⟨rfl, rfl⟩ := Prod.mk.inj (Option.some.inj h)
    exact .refund rfl rfl rfl (fun _ _ heq => by cases heq) rfl (.inl ⟨e, rfl, rfl⟩)
  case h_24 refundId e _ =>
    obtain ⟨rfl, rfl⟩ := Prod.mk.inj (Option.some.inj h)
    exact afterShippingChecks_follows rfl (.inl ⟨e, rfl, rfl⟩)
  case h_25 refundId e passed =>
    obtain ⟨rfl, rfl⟩ := Prod.mk.inj (Option.some.inj h)
    exact .refund rfl rfl rfl (fun _ _ heq => by cases heq) rfl (.inl ⟨e, rfl, rfl⟩)
  case h_26 refundId check e _ =>
    obtain ⟨rfl, rfl⟩ := Prod.mk.inj (Option.some.inj h)
    exact .refund rfl rfl rfl (fun _ _ heq => by cases heq) rfl (.inl ⟨e, rfl, rfl⟩)
  case h_27 =>
    obtain ⟨rfl, rfl⟩ := Prod.mk.inj (Option.some.inj h)
    exact .without ⟨rfl, rfl, fun _ _ heq => by cases heq⟩ rfl
  case h_28 => cases h

lemma thrown_follows (p : AdminRefundPosition) (s : AdminRefundStore) : Follows p s p.thrown := by
  unfold thrown
  split
  case h_1 | h_2 | h_3 => exact .with (failAttempt_plain ..) rfl rfl
  case h_4 refundId e | h_6 refundId e =>
    exact .refund rfl rfl rfl (fun _ _ heq => by cases heq) rfl (.inl ⟨e, rfl, rfl⟩)
  case h_5 refundId e => exact afterShippingChecks_follows rfl (.inl ⟨e, rfl, rfl⟩)
  case h_7 => exact .stop _

/-- The call to Shopify is made under the key of the attempt, and for the order of the target. -/
def CallsOwnKey (p : AdminRefundPosition) : Prop :=
  ∀ input e, p = .createShopifyRefund input e →
    input.idempotencyKey = e.key ∧ input.orderId = e.target.shopifyOrderId

theorem run_follows {reply : AdminRefundReply} (hcall : p.CallsOwnKey)
    (h : p.run reply s = some (s', q)) : Follows p s' q := by
  unfold run at h
  split at h
  case h_1 => cases h
  case h_2 =>
    obtain ⟨rfl, rfl⟩ := Prod.mk.inj (Option.some.inj h)
    exact .stop _
  case h_3 =>
    obtain ⟨t, -, heq⟩ := Option.map_eq_some_iff.mp h
    obtain ⟨rfl, rfl⟩ := Prod.mk.inj heq
    exact thrown_follows p t
  case h_4 => cases h
  case h_5 =>
    obtain ⟨⟨t, r⟩, -, heq⟩ := Option.map_eq_some_iff.mp h
    obtain ⟨rfl, rfl⟩ := Prod.mk.inj heq
    exact thrown_follows p t
  case h_6 => exact answer_follows (fun input e heq => (hcall input e heq).1) h

/-! ## What a step writes -/

/-- What a step from `p` may leave in the store. -/
inductive Writes (s : AdminRefundStore) : AdminRefundPosition → AdminRefundStore → Prop
  | nothing (p : AdminRefundPosition) : Writes s p s
  | preview {existing : Option Id} {input : CreatePreviewAttemptInput} {newId : Id} {now : Instant}
      {db : CancellationDb} (h : s.db.writePreview existing input newId now = .ok db) :
      Writes s (.writePreview existing input) (s.withDb db)
  | lock {existing : Option Id} {request : RefundRequest} {refundShipping : Bool} {newId : Id}
      {now : Instant} {db : CancellationDb}
      (h : s.db.writeExecution existing ⟨request.target.allocationId, request.target.shopifyOrderId,
        refundShipping, request.refundLineItems⟩ newId now = .ok db) :
      Writes s (.writeLock existing request refundShipping) (s.withDb db)
  | claim {again : Bool} {e : RefundExecution} {claimId : Id} {now : Instant} {db : CancellationDb}
      (h : s.db.insertShippingClaim e.target.shopifyOrderId e.attemptId claimId now = some db) :
      Writes s (.createClaim again e) (s.withDb db)
  | call {input : CreateShopifyRefundInput} {e : RefundExecution} {outcome : RefundCallOutcome}
      {s' : AdminRefundStore} (h : s.createShopifyRefund input outcome = some s') :
      Writes s (.createShopifyRefund input e) s'
  | fail (response again : Bool) (e : RefundExecution) :
      Writes s (.failAttempt response again e)
        (s.withDb (s.db.markOutboundShopifyRefundAttemptFailed e.attemptId response))
  | submitted (refundId : Option Id) (check : Option String) (e : RefundExecution) :
      Writes s (.markSubmitted refundId check e)
        (s.withDb (s.db.markOutboundShopifyRefundAttemptSubmitted e.attemptId refundId check))
  | review (refundId : Option Id) (check : Option String) (e : RefundExecution) :
      Writes s (.updateReview refundId check e)
        (s.withDb (s.db.setReviewActionPending e.target.allocationId))

lemma answer_writes {a : AdminRefundAnswer} (h : p.answer s a = some (s', q)) : Writes s p s' := by
  unfold answer at h
  split at h
  case h_7 =>
    obtain ⟨db, hdb, heq⟩ := Option.map_eq_some_iff.mp h
    obtain ⟨rfl, -⟩ := Prod.mk.inj heq
    exact .preview (toOption_eq_some.mp hdb)
  case h_10 =>
    obtain ⟨db, hdb, heq⟩ := Option.map_eq_some_iff.mp h
    obtain ⟨rfl, -⟩ := Prod.mk.inj heq
    exact .lock (toOption_eq_some.mp hdb)
  case h_16 =>
    split at h
    · obtain ⟨rfl, -⟩ := Prod.mk.inj (Option.some.inj h)
      exact .nothing _
    · obtain ⟨db, hdb, heq⟩ := Option.map_eq_some_iff.mp h
      obtain ⟨rfl, -⟩ := Prod.mk.inj heq
      exact .claim hdb
  case h_20 | h_21 =>
    obtain ⟨t, ht, heq⟩ := Option.map_eq_some_iff.mp h
    obtain ⟨rfl, -⟩ := Prod.mk.inj heq
    exact .call ht
  case h_22 response again e _ =>
    obtain ⟨rfl, -⟩ := Prod.mk.inj (Option.some.inj h)
    exact .fail response again e
  case h_26 refundId check e _ =>
    obtain ⟨rfl, -⟩ := Prod.mk.inj (Option.some.inj h)
    exact .submitted refundId check e
  case h_27 refundId check e _ =>
    obtain ⟨rfl, -⟩ := Prod.mk.inj (Option.some.inj h)
    exact .review refundId check e
  case h_28 => cases h
  all_goals
    obtain ⟨rfl, -⟩ := Prod.mk.inj (Option.some.inj h)
    exact .nothing _

/-- The position is before a call of `createShopifyRefund`. -/
def callsShopify : AdminRefundPosition → Bool
  | .createShopifyRefund .. => true
  | _ => false

/-- The reply says that the step took effect; a call to Shopify is made even if it fails. -/
def TakesEffect (p : AdminRefundPosition) : AdminRefundReply → Prop
  | .answered _ | .lost _ => True
  | .failed => p.callsShopify = true
  | .crash => False

instance (p : AdminRefundPosition) (reply : AdminRefundReply) : Decidable (p.TakesEffect reply) := by
  unfold TakesEffect
  split <;> infer_instance

/-- **What a step writes.** -/
theorem run_writes {reply : AdminRefundReply} (h : p.run reply s = some (s', q)) :
    s' = s ∨ (p.TakesEffect reply ∧ Writes s p s') := by
  unfold run at h
  split at h
  case h_1 | h_4 => cases h
  case h_2 =>
    obtain ⟨rfl, -⟩ := Prod.mk.inj (Option.some.inj h)
    exact .inl rfl
  case h_3 =>
    obtain ⟨t, ht, heq⟩ := Option.map_eq_some_iff.mp h
    obtain ⟨rfl, -⟩ := Prod.mk.inj heq
    unfold failed at ht
    split at ht
    · exact .inr ⟨rfl, .call ht⟩
    · exact .inl (Option.some.inj ht).symm
  case h_5 =>
    obtain ⟨⟨t, r⟩, ht, heq⟩ := Option.map_eq_some_iff.mp h
    obtain ⟨rfl, -⟩ := Prod.mk.inj heq
    exact .inr ⟨trivial, answer_writes ht⟩
  case h_6 => exact .inr ⟨trivial, answer_writes h⟩

end AdminRefundPosition

/-! ## What every step keeps -/

namespace AdminRefundPosition

variable {p q : AdminRefundPosition} {s s' : AdminRefundStore} {key : ShopifyRefundIdempotencyKey}

/-- An attempt stays, and stays one of its allocation. -/
lemma Writes.hasAttempt (h : Writes s p s') (hkey : s.db.HasAttempt key) :
    s'.db.HasAttempt key := by
  cases h with
  | nothing => exact hkey
  | @preview existing input newId now db hdb =>
      cases existing with
      | some id =>
          obtain rfl := Except.ok.inj hdb
          exact hkey.update (fun _ => rfl) fun _ => rfl
      | none => exact hkey.insert hdb
  | @lock existing request refundShipping newId now db hdb =>
      cases existing with
      | some id =>
          obtain rfl := Except.ok.inj hdb
          exact hkey.update (fun _ => rfl) fun _ => rfl
      | none => exact hkey.insert hdb
  | claim hdb =>
      obtain ⟨-, -, rfl⟩ := insertShippingClaim_ok hdb
      exact hkey
  | call ht =>
      obtain ⟨-, rfl⟩ := createShopifyRefund_ok ht
      exact hkey
  | fail | submitted => exact hkey.update (fun _ => rfl) fun _ => rfl
  | review => exact hkey

/-- A refund stays. -/
lemma Writes.hasRefund (h : Writes s p s') (hkey : s.HasRefund key) : s'.HasRefund key := by
  cases h with
  | call ht =>
      obtain ⟨-, rfl⟩ := createShopifyRefund_ok ht
      obtain ⟨c, hc, hrefund⟩ := hkey
      exact ⟨c, List.mem_append_left _ hc, hrefund⟩
  | _ => exact hkey

end AdminRefundPosition

end VendorDashboard.Orders

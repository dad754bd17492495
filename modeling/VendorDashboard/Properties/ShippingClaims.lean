import VendorDashboard.Properties.AdminRefundPayments
import VendorDashboard.Properties.RefundIngestion

/-!
# Who owns the shipping of an order

At most one claim of an order is active, and a claim is released only when its owner is resolved:
this holds in every run of executions, previews and refund webhooks.  That the owner of an active
claim is in progress, and that shipping is refunded by the owner alone, holds while no attempt with
an active claim is failed or overwritten by a preview, no claim is inserted for an attempt that is
no longer in progress, and no webhook resolves the attempt of an execution that has taken its claim
but not yet called Shopify.

Each of these happens: an execution fails its attempt after it has taken the claim, and the claim
stays active for ever (`shippingClaim_stuck`).
-/

namespace VendorDashboard.Orders

open Finance (Id Instant)
open Table Transaction Run Interleaving

/-- The executions and previews, and the refund webhooks. -/
abbrev adminRefundSystem :
    Program AdminRefundStore AdminRefundPosition AdminRefundCall AdminRefundReply RefundWebhook :=
  adminRefunds fun webhook s => webhook.ingest s

abbrev RefundSystemMove : Type := Move AdminRefundCall AdminRefundReply RefundWebhook

/-! ## The properties -/

namespace AdminRefundStore

variable (s : AdminRefundStore)

/-- At most one claim of an order is active. -/
def ClaimsExclusive : Prop :=
  ∀ c ∈ s.db.orderShippingRefundClaim, ∀ c' ∈ s.db.orderShippingRefundClaim, c.status = .active →
    c'.status = .active → c.shopifyOrderId = c'.shopifyOrderId → c = c'

/-- Shipping was refunded by the owner of the active claim. -/
def ShippingSentByOwner : Prop :=
  ∀ c ∈ s.calls, c.input.shipping.isSome = true →
    c.shippingOwner = some c.input.idempotencyKey.attemptId

/-- The owner of an active claim is in progress. -/
def OwnersInProgress : Prop :=
  ∀ c ∈ s.db.orderShippingRefundClaim, c.status = .active → s.InProgress c.ownerAttemptId

/-- The attempt has no active claim. -/
def Unclaimed (attemptId : Id) : Prop :=
  ∀ c ∈ s.db.orderShippingRefundClaim, c.ownerAttemptId = attemptId → c.status ≠ .active

instance (attemptId : Id) : Decidable (s.Unclaimed attemptId) :=
  inferInstanceAs (Decidable (∀ c ∈ s.db.orderShippingRefundClaim, _))

/-- A claim that is active before and released after has a resolved owner after. -/
def ReleasesResolved (s' : AdminRefundStore) : Prop :=
  ∀ c ∈ s.db.orderShippingRefundClaim, c.status = .active → ∀ c' ∈ s'.db.orderShippingRefundClaim,
    c'.id = c.id → c'.status = .released →
      ∃ a ∈ s'.db.outboundShopifyRefundAttempt, a.id = c.ownerAttemptId ∧ a.status = .resolved

end AdminRefundStore

/-! ## The steps that go wrong -/

/-- An attempt with an active claim is not failed, nor made a preview again; and a claim is inserted
for an attempt that is in progress. -/
def AdminRefundPosition.KeepsOwner (s : AdminRefundStore) : AdminRefundPosition → Prop
  | .failAttempt _ _ e => s.Unclaimed e.attemptId
  | .writePreview (some id) _ => s.Unclaimed id
  | .createClaim _ e => s.InProgress e.attemptId
  | _ => True

instance (s : AdminRefundStore) (p : AdminRefundPosition) : Decidable (p.KeepsOwner s) :=
  match p with
  | .failAttempt _ _ e => inferInstanceAs (Decidable (s.Unclaimed e.attemptId))
  | .writePreview (some id) _ => inferInstanceAs (Decidable (s.Unclaimed id))
  | .createClaim _ e => inferInstanceAs (Decidable (s.InProgress e.attemptId))
  | .readAllocation .. | .readExecutionMode .. | .readEligibility .. | .readPendingAttempt ..
  | .previewShopify .. | .readPreview .. | .writePreview none _ | .readActiveAttempt ..
  | .readLock .. | .writeLock .. | .classify .. | .cancelFulfillmentOrder ..
  | .readEligibilityAgain .. | .readClaimAttempt .. | .readOwnClaim .. | .readConflictingClaim ..
  | .previewShippingMaximum .. | .previewRefund .. | .createShopifyRefund .. | .checkShipping ..
  | .checkCanonicalRefunds .. | .checkFulfillment .. | .markSubmitted ..
  | .updateReview .. | .ended .. => .isTrue trivial

/-- The calls keep the owners, and a webhook resolves no attempt whose execution is about to refund
the shipping. -/
def KeepsOwners (w : AdminRefundWorld) : RefundSystemMove → Prop
  | .start _ _ => True
  | .run i reply => ∀ p ∈ w.process i, p.TakesEffect reply → p.KeepsOwner w.shared
  | .outside webhook => ∀ i, ∀ p ∈ w.process i, ∀ e ∈ p.claimedBy,
      ∀ a ∈ w.shared.db.outboundShopifyRefundAttempt, a.id = e.attemptId →
        ¬w.shared.db.Resolves webhook.event a

/-! ## The invariants -/

/-- What holds of the claims in every run. -/
structure AdminRefundStore.ClaimsSound (s : AdminRefundStore) : Prop where
  attempts : KeyUnique OutboundShopifyRefundAttempt.id s.db.outboundShopifyRefundAttempt
  items : s.db.NoItemAttempts
  key : KeyUnique OrderShippingRefundClaim.id s.db.orderShippingRefundClaim
  form : ∀ c ∈ s.db.orderShippingRefundClaim,
    (c.status = .active ∧ c.activeOrderKey = some c.shopifyOrderId) ∨
      (c.status = .released ∧ c.activeOrderKey = none)
  order : ∀ c ∈ s.db.orderShippingRefundClaim, ∀ c' ∈ s.db.orderShippingRefundClaim,
    c.activeOrderKey.isSome = true → c.activeOrderKey = c'.activeOrderKey → c.id = c'.id

/-- What holds of them while the owners are kept. -/
structure AdminRefundStore.ClaimsOwned (s : AdminRefundStore) : Prop extends s.ClaimsSound where
  owners : s.OwnersInProgress
  sent : s.ShippingSentByOwner

/-- What is known of a call: as `Owns`, and the claim that it uses is its own. -/
structure AdminRefundPosition.OwnsClaim (s : AdminRefundStore) (p : AdminRefundPosition) : Prop
    extends p.Owns s where
  claimed : ∀ e, p.claimedBy = some e → s.db.HasClaim e.target.shopifyOrderId e.attemptId

namespace AdminRefundStore

variable {s s' : AdminRefundStore} {id : Id} {attemptId : Id}
  {f : OutboundShopifyRefundAttempt → OutboundShopifyRefundAttempt}

lemma Fresh.claimsOwned (h : s.Fresh) : s.ClaimsOwned where
  attempts := by
    rw [h.attempts]
    exact .nil _
  items := fun a ha => by
    rw [h.attempts] at ha
    cases ha
  key := by
    rw [h.claims]
    exact .nil _
  form := fun c hc => by
    rw [h.claims] at hc
    cases hc
  order := fun c hc => by
    rw [h.claims] at hc
    cases hc
  owners := fun c hc => by
    rw [h.claims] at hc
    cases hc
  sent := fun c hc => by
    rw [h.calls] at hc
    cases hc

lemma ClaimsSound.exclusive (h : s.ClaimsSound) : s.ClaimsExclusive := by
  intro c hc c' hc' hactive hactive' horder
  have hkey := ((h.form c hc).resolve_right fun hr => by
    rw [hactive] at hr
    cases hr.1).2
  have hkey' := ((h.form c' hc').resolve_right fun hr => by
    rw [hactive'] at hr
    cases hr.1).2
  refine h.key.eq hc hc' (h.order c hc c' hc' ?_ ?_)
  · rw [hkey]
    rfl
  · rw [hkey, hkey', horder]

/-- The attempts are updated. -/
lemma ClaimsSound.update (h : s.ClaimsSound) (hid : ∀ a, (f a).id = a.id)
    (hitem : ∀ a, (f a).customerCancellationRequestItemId = a.customerCancellationRequestItemId) :
    (s.withDb (s.db.updateAttempt id f)).ClaimsSound where
  attempts := h.attempts.updateWhere hid
  items := by
    intro a' ha'
    obtain ⟨a, ha, ⟨-, rfl⟩ | ⟨-, rfl⟩⟩ := CancellationDb.mem_updateAttempt.mp ha'
    · exact (hitem a).trans (h.items a ha)
    · exact h.items a' ha
  key := h.key
  form := h.form
  order := h.order

lemma ClaimsSound.insert {attempt : OutboundShopifyRefundAttempt} {db : CancellationDb}
    (h : s.ClaimsSound) (hdb : s.db.insertAttempt attempt = .ok db)
    (hitem : attempt.customerCancellationRequestItemId = none) : (s.withDb db).ClaimsSound := by
  obtain ⟨hkey, rfl⟩ := CancellationDb.insertAttempt_ok hdb
  refine ⟨hkey, fun a ha => ?_, h.key, h.form, h.order⟩
  rcases List.mem_append.mp ha with ha | ha
  · exact h.items a ha
  · rw [List.mem_singleton.mp ha]
    exact hitem

/-- A claim is inserted. -/
lemma ClaimsSound.claim {shopifyOrderId claimId : Id} {now : Instant} {db : CancellationDb}
    (h : s.ClaimsSound)
    (hdb : s.db.insertShippingClaim shopifyOrderId attemptId claimId now = some db) :
    (s.withDb db).ClaimsSound := by
  obtain ⟨hfresh, hconflict, rfl⟩ := AdminRefundPosition.insertShippingClaim_ok hdb
  -- no other claim of the order is active
  have hother : ∀ c ∈ s.db.orderShippingRefundClaim, c.activeOrderKey ≠ some shopifyOrderId := by
    intro c hc hkey
    unfold CancellationDb.conflictingClaim at hconflict
    have hmem : c ∈ s.db.orderShippingRefundClaim.filter fun c =>
        decide (c.activeOrderKey = some shopifyOrderId) || decide (c.ownerAttemptId = attemptId) :=
      List.mem_filter.mpr ⟨hc, by simp [hkey]⟩
    rw [latestBy_eq_none.mp hconflict] at hmem
    cases hmem
  refine ⟨h.attempts, h.items, ?_, fun c hc => ?_, fun c hc c' hc' hsome hsame => ?_⟩
  · refine keyUnique_append.mpr ⟨h.key, by simp [KeyUnique], fun c hc c' hc' hid => ?_⟩
    rw [List.mem_singleton.mp hc'] at hid
    exact hfresh (List.mem_map.mpr ⟨c, hc, hid⟩)
  · rcases List.mem_append.mp hc with hc | hc
    · exact h.form c hc
    · rw [List.mem_singleton.mp hc]
      exact .inl ⟨rfl, rfl⟩
  · rcases List.mem_append.mp hc with hc | hc <;> rcases List.mem_append.mp hc' with hc' | hc'
    · exact h.order c hc c' hc' hsome hsame
    · rw [List.mem_singleton.mp hc'] at hsame
      exact absurd hsame (hother c hc)
    · rw [List.mem_singleton.mp hc] at hsame
      exact absurd hsame.symm (hother c' hc')
    · rw [List.mem_singleton.mp hc, List.mem_singleton.mp hc']

/-- An attempt in progress stays in progress, unless the update is of it. -/
lemma InProgress.update (h : s.InProgress attemptId) (hid : ∀ a, (f a).id = a.id)
    (hf : attemptId ≠ id ∨ ∀ a, (f a).InProgress) :
    (s.withDb (s.db.updateAttempt id f)).InProgress attemptId := by
  obtain ⟨a, ha, haid, hin⟩ := h
  by_cases hsame : a.id = id
  · have hprogress := hf.resolve_left fun hne => hne (haid.symm.trans hsame)
    exact ⟨f a, CancellationDb.mem_updateAttempt.mpr ⟨a, ha, .inl ⟨hsame, rfl⟩⟩,
      (hid a).trans haid, hprogress a⟩
  · exact ⟨a, CancellationDb.mem_updateAttempt.mpr ⟨a, ha, .inr ⟨hsame, rfl⟩⟩, haid, hin⟩

lemma ClaimsOwned.update (h : s.ClaimsOwned) (hid : ∀ a, (f a).id = a.id)
    (hitem : ∀ a, (f a).customerCancellationRequestItemId = a.customerCancellationRequestItemId)
    (hf : s.Unclaimed id ∨ ∀ a, (f a).InProgress) :
    (s.withDb (s.db.updateAttempt id f)).ClaimsOwned where
  toClaimsSound := h.toClaimsSound.update hid hitem
  owners := fun c hc hactive => by
    refine InProgress.update (h.owners c hc hactive) hid (hf.imp_left fun hfree howner => ?_)
    exact hfree c hc howner hactive
  sent := h.sent

lemma ClaimsOwned.insert {attempt : OutboundShopifyRefundAttempt} {db : CancellationDb}
    (h : s.ClaimsOwned) (hdb : s.db.insertAttempt attempt = .ok db)
    (hitem : attempt.customerCancellationRequestItemId = none) : (s.withDb db).ClaimsOwned where
  toClaimsSound := h.toClaimsSound.insert hdb hitem
  owners := fun c hc hactive => by
    obtain ⟨-, rfl⟩ := CancellationDb.insertAttempt_ok hdb
    obtain ⟨a, ha, hrest⟩ := h.owners c hc hactive
    exact ⟨a, List.mem_append_left _ ha, hrest⟩
  sent := h.sent

lemma ClaimsOwned.claim {shopifyOrderId claimId : Id} {now : Instant} {db : CancellationDb}
    (h : s.ClaimsOwned) (hin : s.InProgress attemptId)
    (hdb : s.db.insertShippingClaim shopifyOrderId attemptId claimId now = some db) :
    (s.withDb db).ClaimsOwned where
  toClaimsSound := h.toClaimsSound.claim hdb
  owners := fun c hc hactive => by
    obtain ⟨-, -, rfl⟩ := AdminRefundPosition.insertShippingClaim_ok hdb
    rcases List.mem_append.mp hc with hc | hc
    · exact h.owners c hc hactive
    · rw [List.mem_singleton.mp hc]
      exact hin
  sent := h.sent

/-- The owner of the active claim of an order is the one that owns an active claim of it. -/
lemma ClaimsSound.shippingOwner_eq (h : s.ClaimsSound) {shopifyOrderId : Id}
    (hclaim : s.db.HasClaim shopifyOrderId attemptId) :
    s.shippingOwner shopifyOrderId = some attemptId := by
  obtain ⟨c, hc, hactive⟩ := hclaim
  unfold shippingOwner
  obtain ⟨c', hfind⟩ : ∃ c', s.db.orderShippingRefundClaim.find? (fun c =>
      decide (c.status = .active) && decide (c.activeOrderKey = some shopifyOrderId)) = some c' := by
    refine Option.isSome_iff_exists.mp (List.find?_isSome.mpr ⟨c, hc, ?_⟩)
    simp [hactive.status, hactive.order]
  have hc' := List.mem_of_find?_eq_some hfind
  have htest := List.find?_some hfind
  simp only [Bool.and_eq_true, decide_eq_true_eq] at htest
  have hid : c'.id = c.id := by
    refine h.order c' hc' c hc ?_ (htest.2.trans hactive.order.symm)
    rw [htest.2]
    rfl
  obtain rfl := h.key.eq hc' hc hid
  rw [hfind, Option.map_some, hactive.owner]

lemma ClaimsOwned.call {input : CreateShopifyRefundInput} {outcome : RefundCallOutcome}
    (h : s.ClaimsOwned) (hclaim : input.shipping.isSome = true →
      s.db.HasClaim input.orderId input.idempotencyKey.attemptId)
    (hs : s.createShopifyRefund input outcome = some s') : s'.ClaimsOwned := by
  obtain ⟨-, rfl⟩ := AdminRefundPosition.createShopifyRefund_ok hs
  refine ⟨⟨h.attempts, h.items, h.key, h.form, h.order⟩, h.owners, fun c hc hshipping => ?_⟩
  rcases List.mem_append.mp hc with hc | hc
  · exact h.sent c hc hshipping
  · obtain rfl := List.mem_singleton.mp hc
    exact h.toClaimsSound.shippingOwner_eq (hclaim hshipping)

/-! ## Webhooks -/

lemma ClaimsSound.settles {db : CancellationDb} (h : s.ClaimsSound)
    (hsettles : s.db.Settles db) : (s.withDb db).ClaimsSound := by
  obtain ⟨g, hg, hclaim⟩ := hsettles.claims
  have hid : ∀ c, (g c).id = c.id := by
    intro c
    rcases hclaim c with hsame | ⟨hreleased, -⟩
    · rw [hsame]
    · rw [hreleased]
      rfl
  have hmem : ∀ c' ∈ db.orderShippingRefundClaim, ∃ c ∈ s.db.orderShippingRefundClaim,
      c'.id = c.id ∧ (c' = c ∨ c' = c.release) := by
    intro c' hc'
    rw [hg] at hc'
    obtain ⟨c, hc, rfl⟩ := List.mem_map.mp hc'
    exact ⟨c, hc, hid c, (hclaim c).imp_right (·.1)⟩
  refine ⟨hsettles.key h.attempts, hsettles.noItemAttempts h.items, ?_, fun c' hc' => ?_,
    fun c' hc' d' hd' hsome hsame => ?_⟩
  · have hkey := h.key
    unfold KeyUnique at hkey ⊢
    show (db.orderShippingRefundClaim.map (·.id)).Nodup
    rw [hg, List.map_map]
    have hmap : (OrderShippingRefundClaim.id ∘ g) = OrderShippingRefundClaim.id := funext hid
    show (s.db.orderShippingRefundClaim.map (OrderShippingRefundClaim.id ∘ g)).Nodup
    rw [hmap]
    exact hkey
  · obtain ⟨c, hc, -, rfl | rfl⟩ := hmem c' hc'
    · exact h.form c' hc
    · exact .inr ⟨rfl, rfl⟩
  · obtain ⟨c, hc, -, rfl | rfl⟩ := hmem c' hc'
    · obtain ⟨d, hd, -, rfl | rfl⟩ := hmem d' hd'
      · exact h.order c' hc d' hd hsome hsame
      · rw [hsame] at hsome
        cases hsome
    · cases hsome

lemma ClaimsOwned.ingest {webhook : RefundWebhook} (h : s.ClaimsOwned)
    (hs : webhook.ingest s = some s') : s'.ClaimsOwned := by
  obtain ⟨db, hdb, rfl⟩ := Option.map_eq_some_iff.mp hs
  have hsettles := CancellationDb.ingest_settles h.items h.attempts (toOption_eq_some.mp hdb)
  refine ⟨h.toClaimsSound.settles hsettles, fun c' hc' hactive => ?_, h.sent⟩
  obtain ⟨g, hg, hclaim⟩ := hsettles.claims
  obtain ⟨f, hf, hrow⟩ := hsettles.attempts
  have hopen : s.db.OpenFor c'.ownerAttemptId := by
    intro c hc howner hcactive
    have hform := (h.form c hc).resolve_right fun hr => by
      rw [hcactive] at hr
      cases hr.1
    refine ⟨by rw [hform.2]; rfl, fun a ha haid hresolved => ?_⟩
    obtain ⟨b, hb, hbid, hin⟩ := h.owners c hc hcactive
    obtain rfl := h.attempts.eq ha hb (haid.trans (howner.symm.trans hbid.symm))
    rcases hin with hin | hin <;> rw [hresolved] at hin <;> cases hin
  have hopen' := hsettles.openFor _ hopen c' hc' rfl hactive
  have hmem : c' ∈ db.orderShippingRefundClaim := hc'
  rw [hg] at hmem
  obtain ⟨c, hc, rfl⟩ := List.mem_map.mp hmem
  have hsame : g c = c := (hclaim c).resolve_right fun hr => by
    rw [hr.1] at hactive
    cases hactive
  rw [hsame] at hactive hopen' ⊢
  obtain ⟨a, ha, haid, hin⟩ := h.owners c hc hactive
  have ha' : f a ∈ db.outboundShopifyRefundAttempt := by
    rw [hf]
    exact List.mem_map_of_mem ha
  have hstatus := (hrow a).2.resolve_right
    (hopen'.2 (f a) ha' ((hrow a).1.id.trans haid))
  refine ⟨f a, ha', (hrow a).1.id.trans haid, ?_⟩
  unfold OutboundShopifyRefundAttempt.InProgress
  rw [hstatus]
  exact hin

/-- A claim in use survives a webhook that does not resolve its owner. -/
lemma ClaimsOwned.hasClaim {webhook : RefundWebhook} {shopifyOrderId : Id} (h : s.ClaimsOwned)
    (hs : webhook.ingest s = some s') (hclaim : s.db.HasClaim shopifyOrderId attemptId)
    (hkeep : ∀ a ∈ s.db.outboundShopifyRefundAttempt, a.id = attemptId →
      ¬s.db.Resolves webhook.event a) : s'.db.HasClaim shopifyOrderId attemptId := by
  obtain ⟨db, hdb, rfl⟩ := Option.map_eq_some_iff.mp hs
  have hingest := toOption_eq_some.mp hdb
  have hsettles := CancellationDb.ingest_settles h.items h.attempts hingest
  obtain ⟨g, hg, hchange⟩ := hsettles.claims
  obtain ⟨c, hc, hactive⟩ := hclaim
  rcases hchange c with hsame | ⟨-, -, a', ha', haid, hresolved⟩
  · refine ⟨c, ?_, hactive⟩
    show c ∈ db.orderShippingRefundClaim
    rw [hg, ← hsame]
    exact List.mem_map_of_mem hc
  · obtain ⟨a, ha, hid, hin⟩ := h.owners c hc hactive.status
    have hresolves := CancellationDb.resolves_of_ingest h.items h.attempts hingest ha ha'
      (haid.trans hid.symm) hresolved
    rcases hresolves with hbefore | hresolves
    · rcases hin with hin | hin <;> rw [hbefore] at hin <;> cases hin
    · exact absurd hresolves (hkeep a ha (hid.trans hactive.owner))

end AdminRefundStore

/-! ## Steps -/

namespace AdminRefundPosition

variable {p q : AdminRefundPosition} {s s' : AdminRefundStore} {shopifyOrderId attemptId : Id}

/-- A step leaves the claims that exist. -/
lemma Writes.mem_claims (h : Writes s p s') {c : OrderShippingRefundClaim}
    (hc : c ∈ s.db.orderShippingRefundClaim) : c ∈ s'.db.orderShippingRefundClaim := by
  cases h with
  | nothing => exact hc
  | @preview existing input newId now db hdb =>
      cases existing with
      | some id =>
          obtain rfl := Except.ok.inj hdb
          exact hc
      | none =>
          obtain ⟨-, rfl⟩ := CancellationDb.insertAttempt_ok hdb
          exact hc
  | @lock existing request refundShipping newId now db hdb =>
      cases existing with
      | some id =>
          obtain rfl := Except.ok.inj hdb
          exact hc
      | none =>
          obtain ⟨-, rfl⟩ := CancellationDb.insertAttempt_ok hdb
          exact hc
  | claim hdb =>
      obtain ⟨-, -, rfl⟩ := insertShippingClaim_ok hdb
      exact List.mem_append_left _ hc
  | call ht =>
      obtain ⟨-, rfl⟩ := createShopifyRefund_ok ht
      exact hc
  | fail | submitted | review => exact hc

lemma Writes.hasClaim (h : Writes s p s') (hclaim : s.db.HasClaim shopifyOrderId attemptId) :
    s'.db.HasClaim shopifyOrderId attemptId := by
  obtain ⟨c, hc, hactive⟩ := hclaim
  exact ⟨c, h.mem_claims hc, hactive⟩

lemma Writes.claimsSound (h : Writes s p s') (hs : s.ClaimsSound) : s'.ClaimsSound := by
  cases h with
  | nothing => exact hs
  | @preview existing input newId now db hdb =>
      cases existing with
      | some id =>
          obtain rfl := Except.ok.inj hdb
          exact hs.update (fun _ => rfl) fun _ => rfl
      | none => exact hs.insert hdb rfl
  | @lock existing request refundShipping newId now db hdb =>
      cases existing with
      | some id =>
          obtain rfl := Except.ok.inj hdb
          exact hs.update (fun _ => rfl) fun _ => rfl
      | none => exact hs.insert hdb rfl
  | claim hdb => exact hs.claim hdb
  | call ht =>
      obtain ⟨-, rfl⟩ := createShopifyRefund_ok ht
      exact ⟨hs.attempts, hs.items, hs.key, hs.form, hs.order⟩
  | fail | submitted => exact hs.update (fun _ => rfl) fun _ => rfl
  | review => exact ⟨hs.attempts, hs.items, hs.key, hs.form, hs.order⟩

/-- A step that keeps the owners keeps the invariant of the store. -/
lemma Writes.claimsOwned (h : Writes s p s') (hs : s.ClaimsOwned) (hp : p.OwnsClaim s)
    (hkeep : p.KeepsOwner s) : s'.ClaimsOwned := by
  cases h with
  | nothing => exact hs
  | @preview existing input newId now db hdb =>
      cases existing with
      | some id =>
          obtain rfl := Except.ok.inj hdb
          exact hs.update (fun _ => rfl) (fun _ => rfl) (.inl hkeep)
      | none => exact hs.insert hdb rfl
  | @lock existing request refundShipping newId now db hdb =>
      cases existing with
      | some id =>
          obtain rfl := Except.ok.inj hdb
          exact hs.update (fun _ => rfl) (fun _ => rfl) (.inr fun _ => .inl rfl)
      | none => exact hs.insert hdb rfl
  | claim hdb => exact hs.claim hkeep hdb
  | @call input e outcome s' hs' =>
      obtain ⟨hkey, horder⟩ := hp.call input e rfl
      refine hs.call (fun hshipping => ?_) hs'
      rw [hkey, horder]
      refine hp.claimed e ?_
      show (if input.shipping.isSome then some e else none) = some e
      exact if_pos hshipping
  | fail => exact hs.update (fun _ => rfl) (fun _ => rfl) (.inl hkeep)
  | submitted => exact hs.update (fun _ => rfl) (fun _ => rfl) (.inr fun _ => .inr rfl)
  | review =>
      exact ⟨⟨hs.attempts, hs.items, hs.key, hs.form, hs.order⟩, hs.owners, hs.sent⟩

lemma OwnsClaim.start (s : AdminRefundStore) (call : AdminRefundCall) :
    (start call).OwnsClaim s := by
  refine ⟨.start s call, fun e he => ?_⟩
  unfold AdminRefundPosition.start at he
  split at he <;> cases he

lemma OwnsClaim.follows (hp : p.OwnsClaim s) (h : p.Follows s' q)
    (hattempt : ∀ key, s.db.HasAttempt key → s'.db.HasAttempt key)
    (hrefund : ∀ key, s.HasRefund key → s'.HasRefund key)
    (hclaim : ∀ shopifyOrderId attemptId, s.db.HasClaim shopifyOrderId attemptId →
      s'.db.HasClaim shopifyOrderId attemptId) : q.OwnsClaim s' where
  toOwns := hp.toOwns.follows h hattempt hrefund
  claimed := fun e he => (h.claimed e he).elim (fun hbefore => hclaim _ _ (hp.claimed e hbefore)) id

lemma OwnsClaim.grows {r : AdminRefundPosition} (hr : r.OwnsClaim s)
    (hattempt : ∀ key, s.db.HasAttempt key → s'.db.HasAttempt key)
    (hrefund : ∀ key, s.HasRefund key → s'.HasRefund key)
    (hclaim : ∀ e, r.claimedBy = some e → s.db.HasClaim e.target.shopifyOrderId e.attemptId →
      s'.db.HasClaim e.target.shopifyOrderId e.attemptId) : r.OwnsClaim s' where
  toOwns := hr.toOwns.grows hattempt hrefund
  claimed := fun e he => hclaim e he (hr.claimed e he)

end AdminRefundPosition

/-! ## Runs -/

/-- A webhook keeps the attempts of their allocations. -/
lemma CancellationDb.Settles.hasAttempt {db db' : CancellationDb}
    {key : ShopifyRefundIdempotencyKey} (h : db.Settles db') (hkey : db.HasAttempt key) :
    db'.HasAttempt key := by
  obtain ⟨f, hf, hrow⟩ := h.attempts
  obtain ⟨a, ha, hid, halloc⟩ := hkey
  refine ⟨f a, ?_, (hrow a).1.id.trans hid, (hrow a).1.allocation.trans halloc⟩
  rw [hf]
  exact List.mem_map_of_mem ha

/-- The invariant of every run. -/
lemma adminRefundSystem_claimsSound : adminRefundSystem.Sound AdminRefundStore.Fresh
    (fun _ _ => True) AdminRefundStore.ClaimsSound fun _ _ _ => True where
  init := fun _ h => h.claimsOwned.toClaimsSound
  start := fun _ _ _ _ => trivial
  run := by
    intro w i reply p s q hw _ _ hrun
    rcases AdminRefundPosition.run_writes hrun with rfl | ⟨-, hwrites⟩
    · exact ⟨hw.1, trivial⟩
    · exact ⟨hwrites.claimsSound hw.1, trivial⟩
  interference := fun _ _ _ _ _ _ _ _ _ _ _ _ _ _ => trivial
  outside := by
    intro w webhook s hw _ hs
    obtain ⟨db, hdb, rfl⟩ := Option.map_eq_some_iff.mp hs
    have hsettles := CancellationDb.ingest_settles hw.1.items hw.1.attempts (toOption_eq_some.mp hdb)
    exact ⟨hw.1.settles hsettles, fun _ _ _ => trivial⟩

/-- The invariant of the runs that keep the owners. -/
lemma adminRefundSystem_claimsOwned : adminRefundSystem.Sound AdminRefundStore.Fresh KeepsOwners
    AdminRefundStore.ClaimsOwned fun _ s p => p.OwnsClaim s where
  init := fun _ h => h.claimsOwned
  start := fun _ s call _ => .start s call
  run := by
    intro w i reply p s q hw hp hok hrun
    have howns := hw.2 i p hp
    have hfollows := AdminRefundPosition.run_follows howns.call hrun
    rcases AdminRefundPosition.run_writes hrun with rfl | ⟨heffect, hwrites⟩
    · exact ⟨hw.1, howns.follows hfollows (fun _ h => h) (fun _ h => h) fun _ _ h => h⟩
    · exact ⟨hwrites.claimsOwned hw.1 howns (hok p hp heffect), howns.follows hfollows
        (fun _ => hwrites.hasAttempt) (fun _ => hwrites.hasRefund) fun _ _ => hwrites.hasClaim⟩
  interference := by
    intro w i reply p s q hw hp _ hrun j r _ hr
    have howns := hw.2 j r hr
    rcases AdminRefundPosition.run_writes hrun with rfl | ⟨-, hwrites⟩
    · exact howns
    · exact howns.grows (fun _ => hwrites.hasAttempt) (fun _ => hwrites.hasRefund)
        fun _ _ => hwrites.hasClaim
  outside := by
    intro w webhook s hw hok hs
    refine ⟨hw.1.ingest hs, fun j r hr => ?_⟩
    have hkeep := hok j r hr
    obtain ⟨db, hdb, hsdb⟩ := Option.map_eq_some_iff.mp hs
    have hsettles := CancellationDb.ingest_settles hw.1.items hw.1.attempts (toOption_eq_some.mp hdb)
    refine (hw.2 j r hr).grows (fun key hkey => ?_) (fun key hkey => ?_) fun e he hclaim => ?_
    · rw [← hsdb]
      exact hsettles.hasAttempt hkey
    · rw [← hsdb]
      exact hkey
    · exact hw.1.hasClaim hs hclaim (hkeep e he)

/-- A move leaves a claim active, or its owner is resolved. -/
lemma AdminRefundStore.ClaimsSound.releasesResolved {w w' : AdminRefundWorld} {m : RefundSystemMove}
    (h : w.shared.ClaimsSound) (h' : w'.shared.ClaimsSound)
    (hs : adminRefundSystem.step m w = .ok w') : w.shared.ReleasesResolved w'.shared := by
  intro c hc hactive c' hc' hid hreleased
  have hstays (hmem : c ∈ w'.shared.db.orderShippingRefundClaim) : False := by
    obtain rfl := h'.key.eq hc' hmem hid
    rw [hactive] at hreleased
    cases hreleased
  rcases Program.step_shared hs with hsame | ⟨i, reply, p, q, -, -, hrun⟩ | ⟨webhook, -, hrun⟩
  · rw [hsame] at hstays
    exact (hstays hc).elim
  · rcases AdminRefundPosition.run_writes hrun with hsame | ⟨-, hwrites⟩
    · rw [hsame] at hstays
      exact (hstays hc).elim
    · exact (hstays (hwrites.mem_claims hc)).elim
  · obtain ⟨db, hdb, hsdb⟩ := Option.map_eq_some_iff.mp hrun
    have hsettles := CancellationDb.ingest_settles h.items h.attempts (toOption_eq_some.mp hdb)
    obtain ⟨g, hg, hchange⟩ := hsettles.claims
    have hmem : g c ∈ w'.shared.db.orderShippingRefundClaim := by
      rw [← hsdb]
      show g c ∈ db.orderShippingRefundClaim
      rw [hg]
      exact List.mem_map_of_mem hc
    rcases hchange c with hgc | ⟨-, -, a, ha, haid, hresolved⟩
    · rw [hgc] at hmem
      exact (hstays hmem).elim
    · refine ⟨a, ?_, haid, hresolved⟩
      rw [← hsdb]
      exact ha

/-- **Ownership of the shipping of an order.**  In every run at most one claim of an order is
active, and a claim is released only when its owner is resolved.  In every run that keeps the
owners, shipping is refunded by the owner of the active claim, and that owner is in progress. -/
theorem shippingClaim_owned (w : AdminRefundWorld) :
    (adminRefundSystem.Reaches AdminRefundStore.Fresh (fun _ _ => True) w →
      w.shared.ClaimsExclusive ∧ ∀ m w', adminRefundSystem.step m w = .ok w' →
        w.shared.ReleasesResolved w'.shared) ∧
    (adminRefundSystem.Reaches AdminRefundStore.Fresh KeepsOwners w →
      w.shared.ShippingSentByOwner ∧ w.shared.OwnersInProgress) := by
  refine ⟨fun hw => ?_, fun hw => ?_⟩
  · have hsound := (adminRefundSystem_claimsSound.holds hw).1
    refine ⟨hsound.exclusive, fun m w' hs => hsound.releasesResolved ?_ hs⟩
    exact (adminRefundSystem_claimsSound.holds (hw.step ⟨m, trivial, hs⟩)).1
  · have howned := (adminRefundSystem_claimsOwned.holds hw).1
    exact ⟨howned.sent, howned.owners⟩

/-! ## Runs that refund shipping -/

section Samples

/-- A move of the calls alone. -/
def withWebhooks : AdminRefundMove → RefundSystemMove
  | .start i call => .start i call
  | .run i reply => .run i reply
  | .outside e => e.elim

/-- The one allocation of the order is blocked before its shipment. -/
def sampleBlocked : List CustomerCheckoutShippingAllocationEvidence :=
  [⟨21, "vendor_blocked", true, "pending", "not required", none, none, none, []⟩]

/-- Call `i` locks attempt `attemptId`. -/
def sampleShippingLocks (i : ℕ) (attemptId : Id) : List AdminRefundMove :=
  [.start i sampleExecution, .run i (.answered (.evidence ⟨false, true, false⟩)),
    .run i (.answered (.eligibility sampleBlocked))] ++ sampleLooks i ++
  [.run i (.answered (.inserted attemptId attemptId)),
    .run i (.answered (.classification ⟨.noCancellationNeeded, false, true, 0⟩)),
    .run i (.answered (.eligibility sampleBlocked)), .run i (.answered (.statement 60)),
    .run i (.answered (.statement 60))]

def sampleShippingPreview : PreviewSuggestedRefundResult :=
  ⟨[(111, 1)], some ⟨[⟨some 1, some 120, some "gateway", none⟩], some 120, some 20, some "TRY"⟩,
    []⟩

/-- An execution takes the claim of the order and refunds its shipping. -/
def sampleShippingRefund : List RefundSystemMove :=
  List.map withWebhooks (sampleShippingLocks 0 51 ++
    [.run 0 (.answered (.inserted 71 61)), .run 0 (.answered (.preview sampleShippingPreview)),
      .run 0 (.answered (.preview sampleShippingPreview)), .run 0 (.answered (.created 900 true)),
      .run 0 (.answered (.preview sampleShippingPreview)), .run 0 (.answered (.completion none)),
      .run 0 (.answered (.statement 62)), .run 0 (.answered (.statement 63))])

/-- An execution takes the claim, and then Shopify suggests no transaction; the execution that is
called next finds the claim owned by the failed attempt. -/
def sampleStuckClaim : List RefundSystemMove :=
  List.map withWebhooks (sampleShippingLocks 0 51 ++
    [.run 0 (.answered (.inserted 71 61)), .run 0 (.answered (.preview sampleShippingPreview)),
      .run 0 (.answered (.preview ⟨[(111, 1)], none, []⟩)), .run 0 (.answered (.statement 62))] ++
    sampleShippingLocks 1 52 ++
    [.run 1 (.answered (.inserted 72 64)), .run 1 (.answered (.statement 65)),
      .run 1 (.answered (.statement 66))])

/-- As `KeepsOwners`, without webhooks. -/
def KeepsOwnersAlone (w : AdminRefundWorld) : RefundSystemMove → Prop
  | .start _ _ => True
  | .run i reply => ∀ p ∈ w.process i, p.TakesEffect reply → p.KeepsOwner w.shared
  | .outside _ => False

instance (w : AdminRefundWorld) (m : RefundSystemMove) : Decidable (KeepsOwnersAlone w m) := by
  unfold KeepsOwnersAlone
  split <;> infer_instance

lemma KeepsOwnersAlone.keepsOwners {w : AdminRefundWorld} {m : RefundSystemMove}
    (h : KeepsOwnersAlone w m) : KeepsOwners w m := by
  cases m with
  | start i call => trivial
  | run i reply => exact h
  | outside webhook => exact h.elim

/-- The claims: order, owner and status. -/
def AdminRefundStore.claimRows (s : AdminRefundStore) : List (Id × Id × ShippingClaimStatus) :=
  s.db.orderShippingRefundClaim.map fun c => (c.shopifyOrderId, c.ownerAttemptId, c.status)

/-- An execution refunds the shipping under the claim of its attempt. -/
theorem shippingClaim_owned_single : ∃ w,
    adminRefundSystem.Reaches AdminRefundStore.Fresh KeepsOwners w ∧
      w.shared.calls.map (fun c => (c.input.shipping, c.shippingOwner)) = [(some 20, some 51)] ∧
      w.shared.claimRows = [(100, 51, .active)] ∧
        w.shared.ClaimsExclusive ∧ w.shared.ShippingSentByOwner ∧ w.shared.OwnersInProgress := by
  have hrun : Succeeds (runActions (guarded KeepsOwnersAlone () adminRefundSystem.step)
      sampleShippingRefund (.init sampleRefundStore)) fun w =>
        w.shared.calls.map (fun c => (c.input.shipping, c.shippingOwner)) =
          [(some 20, some 51)] ∧ w.shared.claimRows = [(100, 51, .active)] := by
    decide +kernel
  obtain ⟨w, hw, hcalls, hclaims⟩ := succeeds_iff.mp hrun
  have halone : adminRefundSystem.Reaches AdminRefundStore.Fresh KeepsOwnersAlone w :=
    reachable_of_runGuarded (.start ⟨_, sampleRefundStore_fresh, rfl⟩) hw
  have hreach := halone.mono fun _ _ => KeepsOwnersAlone.keepsOwners
  exact ⟨w, hreach, hcalls, hclaims,
    ((shippingClaim_owned w).1 (hreach.mono fun _ _ _ => trivial)).1,
    (shippingClaim_owned w).2 hreach⟩

/-- An attempt that has failed owns the active claim of its order although no call is running, and
the next execution for the order has failed for it. -/
theorem shippingClaim_stuck : ∃ w,
    adminRefundSystem.Reaches AdminRefundStore.Fresh (fun _ _ => True) w ∧ NoCallRuns w ∧
      (w.shared.claimRows = [(100, 51, .active)] ∧
        w.shared.db.outboundShopifyRefundAttempt.map (fun a => (a.id, a.status)) =
          [(51, .failed), (52, .failed)]) ∧
      ¬w.shared.OwnersInProgress := by
  have hrun : Succeeds (runActions adminRefundSystem.step sampleStuckClaim
      (.init sampleRefundStore)) fun w =>
        (w.shared.claimRows = [(100, 51, .active)] ∧
          w.shared.db.outboundShopifyRefundAttempt.map (fun a => (a.id, a.status)) =
            [(51, .failed), (52, .failed)]) ∧ ∀ i < 3, (w.process i).all (·.hasEnded) = true := by
    decide +kernel
  obtain ⟨w, hw, hrows, hended⟩ := succeeds_iff.mp hrun
  refine ⟨w, reachable_of_runActions (.start ⟨_, sampleRefundStore_fresh, rfl⟩)
    (fun _ _ _ => trivial) hw, noCallRuns_of_run hw ?_ hended, hrows, fun howners => ?_⟩
  · intro m hm i call heq
    obtain ⟨m', hm', rfl⟩ := List.mem_map.mp hm
    cases m' with
    | start j call' =>
        obtain ⟨rfl, -⟩ := Move.start.inj heq
        exact startsBelow_iff.mp (by decide) _ hm' j call' rfl
    | run j reply => cases heq
    | outside e => exact e.elim
  · obtain ⟨hclaims, hattempts⟩ := hrows
    have hclaim : (100, 51, .active) ∈ w.shared.claimRows := by
      rw [hclaims]
      exact List.mem_singleton_self _
    obtain ⟨c, hc, hrow⟩ := List.mem_map.mp hclaim
    simp only [Prod.mk.injEq] at hrow
    obtain ⟨-, howner, hactive⟩ := hrow
    obtain ⟨a, ha, -, hin⟩ := howners c hc hactive
    have hstatus : (a.id, a.status) ∈
        w.shared.db.outboundShopifyRefundAttempt.map fun a => (a.id, a.status) :=
      List.mem_map_of_mem ha
    rw [hattempts] at hstatus
    have hfailed : a.status = .failed := by
      simp only [List.mem_cons, List.not_mem_nil, or_false, Prod.mk.injEq] at hstatus
      rcases hstatus with hstatus | hstatus
      · exact hstatus.2
      · exact hstatus.2
    rcases hin with hin | hin <;> rw [hfailed] at hin <;> cases hin

end Samples

end VendorDashboard.Orders

import VendorDashboard.Properties.CancellationStore

/-!
# Which refund is an attempt's own

An attempt of an administrator owns the refund that Shopify executed under its idempotency key.
An attempt of a cancellation item owns the refund that takes the whole line of the item; it is
the one executed under its key, or a merchant's refund that was made instead.  `Explains` is
this relation, and `Explains.eq` says that an attempt owns at most one refund.

`Grows` collects what no step takes back: items, attempts, order lines and executed refunds.
Every fact that a worker holds about an attempt is kept by it.
-/

namespace VendorDashboard.Orders

open Finance (Id Instant)
open Table Transaction Run

/-- What never changes about an attempt. -/
def SameOwner (x x' : OutboundShopifyRefundAttempt) : Prop :=
  x'.id = x.id ∧ x'.vendorAllocationId = x.vendorAllocationId ∧
    x'.customerCancellationRequestItemId = x.customerCancellationRequestItemId

lemma SameOwner.refl (x : OutboundShopifyRefundAttempt) : SameOwner x x := ⟨rfl, rfl, rfl⟩

lemma SameOwner.trans {x x' x'' : OutboundShopifyRefundAttempt} (h : SameOwner x x')
    (h' : SameOwner x' x'') : SameOwner x x'' :=
  ⟨h'.1.trans h.1, h'.2.1.trans h.2.1, h'.2.2.trans h.2.2⟩

namespace World

variable (w : World)

/-! ## Facts about refunds and attempts -/

/-- The refund was executed under the key. -/
def ExecutedUnder (refundId : Id) (key : ShopifyRefundIdempotencyKey) : Prop :=
  ∃ s ∈ w.refunds, s.id = refundId ∧ s.idempotencyKey = some key

/-- The refund takes at least the quantity off the line. -/
def TakesLine (refundId lineItemId : Id) (quantity : ℕ) : Prop :=
  ∃ s ∈ w.refunds, s.id = refundId ∧ quantity ≤ refundedQuantity s.lines lineItemId

/-- The item is on Shopify's line with the requested quantity. -/
def ItemAt (itemId lineItemId : Id) (quantity : ℕ) : Prop :=
  ∃ i ∈ w.db.customerCancellationRequestItem, i.id = itemId ∧ i.requestedQuantity = quantity ∧
    w.db.sourceLineItemIdOf i.shopifyOrderLineItemId = some lineItemId

/-- **The refund is the attempt's own.** -/
def Explains (refundId : Id) (x : OutboundShopifyRefundAttempt) : Prop :=
  match x.customerCancellationRequestItemId with
  | none => w.ExecutedUnder refundId ⟨x.vendorAllocationId, x.id⟩
  | some itemId => ∃ i ∈ w.db.customerCancellationRequestItem, i.id = itemId ∧
      ∃ lineItemId ∈ w.db.sourceLineItemIdOf i.shopifyOrderLineItemId,
        w.TakesLine refundId lineItemId i.requestedQuantity

/-- The attempt of an item. -/
def JobAttempt (itemId attemptId : Id) : Prop :=
  ∃ x ∈ w.db.outboundShopifyRefundAttempt, x.id = attemptId ∧
    x.customerCancellationRequestItemId = some itemId

/-- An administrator's attempt for an allocation. -/
def ManualAttempt (vendorAllocationId attemptId : Id) : Prop :=
  ∃ x ∈ w.db.outboundShopifyRefundAttempt, x.id = attemptId ∧
    x.vendorAllocationId = vendorAllocationId ∧ x.customerCancellationRequestItemId = none

/-- The key is the one of an attempt; under the key of an item's attempt the lines take the
whole line of the item. -/
def KeyFor (key : ShopifyRefundIdempotencyKey) (lines : List (Id × ℕ)) : Prop :=
  ∃ x ∈ w.db.outboundShopifyRefundAttempt, x.id = key.attemptId ∧
    ∀ itemId, x.customerCancellationRequestItemId = some itemId → ∃ lineItemId quantity,
      w.ItemAt itemId lineItemId quantity ∧ quantity ≤ refundedQuantity lines lineItemId

/-! ## What no step takes back -/

structure Grows (w w' : World) : Prop where
  items : ∀ i ∈ w.db.customerCancellationRequestItem,
    ∃ i' ∈ w'.db.customerCancellationRequestItem, CancellationDb.SameScope i i'
  attempts : ∀ x ∈ w.db.outboundShopifyRefundAttempt,
    ∃ x' ∈ w'.db.outboundShopifyRefundAttempt, SameOwner x x'
  lines : ∀ id lineItemId, w.db.sourceLineItemIdOf id = some lineItemId →
    w'.db.sourceLineItemIdOf id = some lineItemId
  pairs : w.db.shopifyOrder.flatMap ShopifyOrder.linePairs ⊆
    w'.db.shopifyOrder.flatMap ShopifyOrder.linePairs
  refunds : w.refunds ⊆ w'.refunds

variable {w} {w' : World}

lemma Grows.refl (w : World) : Grows w w :=
  ⟨fun i hi => ⟨i, hi, rfl, rfl, rfl, rfl, rfl⟩, fun x hx => ⟨x, hx, .refl x⟩, fun _ _ => id,
    List.Subset.refl _, List.Subset.refl _⟩

lemma Grows.trans {w'' : World} (h : Grows w w') (h' : Grows w' w'') : Grows w w'' := by
  refine ⟨fun i hi => ?_, fun x hx => ?_, fun id lineItemId hline => ?_, ?_, ?_⟩
  · obtain ⟨i', hi', hscope⟩ := h.items i hi
    obtain ⟨i'', hi'', hscope'⟩ := h'.items i' hi'
    exact ⟨i'', hi'', hscope.trans hscope'⟩
  · obtain ⟨x', hx', howner⟩ := h.attempts x hx
    obtain ⟨x'', hx'', howner'⟩ := h'.attempts x' hx'
    exact ⟨x'', hx'', howner.trans howner'⟩
  · exact h'.lines id lineItemId (h.lines id lineItemId hline)
  · exact List.Subset.trans h.pairs h'.pairs
  · exact List.Subset.trans h.refunds h'.refunds

lemma ExecutedUnder.mono (hg : Grows w w') {refundId : Id} {key : ShopifyRefundIdempotencyKey}
    (h : w.ExecutedUnder refundId key) : w'.ExecutedUnder refundId key := by
  obtain ⟨s, hs, hid, hkey⟩ := h
  exact ⟨s, hg.refunds hs, hid, hkey⟩

lemma TakesLine.mono (hg : Grows w w') {refundId lineItemId : Id} {quantity : ℕ}
    (h : w.TakesLine refundId lineItemId quantity) : w'.TakesLine refundId lineItemId quantity := by
  obtain ⟨s, hs, hid, htakes⟩ := h
  exact ⟨s, hg.refunds hs, hid, htakes⟩

lemma ItemAt.mono (hg : Grows w w') {itemId lineItemId : Id} {quantity : ℕ}
    (h : w.ItemAt itemId lineItemId quantity) : w'.ItemAt itemId lineItemId quantity := by
  obtain ⟨i, hi, hid, hquantity, hline⟩ := h
  obtain ⟨i', hi', hid', -, hline', -, hquantity'⟩ := hg.items i hi
  exact ⟨i', hi', hid'.trans hid, hquantity'.trans hquantity, hline' ▸ hg.lines _ _ hline⟩

lemma Explains.mono (hg : Grows w w') {refundId : Id} {x x' : OutboundShopifyRefundAttempt}
    (hx : SameOwner x x') (h : w.Explains refundId x) : w'.Explains refundId x' := by
  obtain ⟨hid, hallocation, hitem⟩ := hx
  unfold Explains at h ⊢
  rw [hitem, hid, hallocation]
  split at h
  next => exact h.mono hg
  next itemId _ =>
    obtain ⟨i, hi, hiid, lineItemId, hline, htakes⟩ := h
    obtain ⟨i', hi', hid', -, hline', -, hquantity'⟩ := hg.items i hi
    refine ⟨i', hi', hid'.trans hiid, lineItemId, ?_, ?_⟩
    · rw [hline']
      exact hg.lines _ _ hline
    · rw [hquantity']
      exact htakes.mono hg

lemma JobAttempt.mono (hg : Grows w w') {itemId attemptId : Id}
    (h : w.JobAttempt itemId attemptId) : w'.JobAttempt itemId attemptId := by
  obtain ⟨x, hx, hid, hitem⟩ := h
  obtain ⟨x', hx', hid', -, hitem'⟩ := hg.attempts x hx
  exact ⟨x', hx', hid'.trans hid, hitem'.trans hitem⟩

lemma ManualAttempt.mono (hg : Grows w w') {vendorAllocationId attemptId : Id}
    (h : w.ManualAttempt vendorAllocationId attemptId) :
    w'.ManualAttempt vendorAllocationId attemptId := by
  obtain ⟨x, hx, hid, hallocation, hitem⟩ := h
  obtain ⟨x', hx', hid', hallocation', hitem'⟩ := hg.attempts x hx
  exact ⟨x', hx', hid'.trans hid, hallocation'.trans hallocation, hitem'.trans hitem⟩

lemma KeyFor.mono (hg : Grows w w') {key : ShopifyRefundIdempotencyKey} {lines : List (Id × ℕ)}
    (h : w.KeyFor key lines) : w'.KeyFor key lines := by
  obtain ⟨x, hx, hid, hitem⟩ := h
  obtain ⟨x', hx', hid', -, hitem'⟩ := hg.attempts x hx
  refine ⟨x', hx', hid'.trans hid, fun itemId hitemId => ?_⟩
  obtain ⟨lineItemId, quantity, hat, htakes⟩ := hitem itemId (hitem'.symm.trans hitemId)
  exact ⟨lineItemId, quantity, hat.mono hg, htakes⟩

/-! ## An attempt owns one refund -/

/-- Every item asks for the whole quantity of a line of its order. -/
def WholeLines (w : World) : Prop :=
  ∀ i ∈ w.db.customerCancellationRequestItem, 0 < i.requestedQuantity ∧
    ∃ lineItemId, w.db.sourceLineItemIdOf i.shopifyOrderLineItemId = some lineItemId ∧
      (lineItemId, i.requestedQuantity) ∈ w.db.shopifyOrder.flatMap ShopifyOrder.linePairs

/-- A refund of an item's line is the one that takes the whole line. -/
lemma eq_of_takesLine (hstore : StoreMatches w) (hwhole : WholeLines w)
    {i : CustomerCancellationRequestItem} (hi : i ∈ w.db.customerCancellationRequestItem)
    {lineItemId : Id} (hline : w.db.sourceLineItemIdOf i.shopifyOrderLineItemId = some lineItemId)
    {refundId refundId' : Id} (h : w.TakesLine refundId lineItemId i.requestedQuantity)
    {quantity : ℕ} (hquantity : 0 < quantity) (h' : w.TakesLine refundId' lineItemId quantity) :
    refundId' = refundId := by
  obtain ⟨hpos, _, hline', hpair⟩ := hwhole i hi
  obtain rfl := Option.some.inj (hline.symm.trans hline')
  obtain ⟨s, hs, rfl, htakes⟩ := h
  obtain ⟨s', hs', rfl, htakes'⟩ := h'
  rw [hstore.eq_of_takes hpair hpos hs hs' htakes (hquantity.trans_le htakes')]

/-- **An attempt owns at most one refund.** -/
theorem Explains.eq (hstore : StoreMatches w) (hwhole : WholeLines w)
    (hrows : w.db.ItemsWellFormed) {refundId refundId' : Id} {x : OutboundShopifyRefundAttempt}
    (h : w.Explains refundId x) (h' : w.Explains refundId' x) : refundId' = refundId := by
  unfold Explains at h h'
  split at h
  next hitem =>
    rw [hitem] at h'
    obtain ⟨s, hs, rfl, hkey⟩ := h
    obtain ⟨s', hs', rfl, hkey'⟩ := h'
    rw [hstore.keys s hs s' hs' (hkey ▸ rfl) (hkey.trans hkey'.symm)]
  next itemId hitem =>
    rw [hitem] at h'
    obtain ⟨i, hi, hid, lineItemId, hline, htakes⟩ := h
    obtain ⟨i', hi', hid', lineItemId', hline', htakes'⟩ := h'
    obtain rfl := hrows.itemIds.eq hi hi' (hid.trans hid'.symm)
    obtain rfl := Option.some.inj (hline.symm.trans hline')
    exact eq_of_takesLine hstore hwhole hi hline htakes (hwhole i hi).1 htakes'

end World

end VendorDashboard.Orders

import VendorDashboard.Orders.ShopifyAnswers
import Mathlib.Algebra.Order.BigOperators.Group.List
import Mathlib.Algebra.Order.Group.Nat

/-!
# Shopify as a store

An abstract model of the other side: an order has lines and checkout shipping, and Shopify
executes a refund when enough of each line and of the shipping is left and its idempotency key
was not used before.  The counters that Shopify reports are read off the executed refunds, so
they reflect all of them.

`Consistent` is what the acceptance rule keeps: no line and no shipping is refunded beyond what
was sold, a refund identifier names one refund and a key executes at most once.  Its use is
`refund_eq_of_covers`: a refund that takes a whole line is the only refund of that line.
-/

namespace VendorDashboard.Orders

open Finance (Id)
open Table

structure StoreLine where
  sourceLineItemId : Id
  quantity : ℕ

structure StoreRefund where
  id : Id
  /-- The key that the request carried; a merchant's refund has none. -/
  idempotencyKey : Option ShopifyRefundIdempotencyKey
  lines : List (Id × ℕ)
  shippingMinor : ℕ
  /-- What its payment transactions moved. -/
  amountMinor : ℕ

structure StoreOrder where
  sourceShopifyOrderId : Id
  currency : String
  cancelled : Bool
  lineItems : List StoreLine
  shippingMinor : ℕ
  refunds : List StoreRefund

namespace StoreOrder

variable (o : StoreOrder)

/-- What the executed refunds took off a line. -/
def refundedQuantityOf (lineItemId : Id) : ℕ :=
  (o.refunds.map fun r => refundedQuantity r.lines lineItemId).sum

def refundedShipping : ℕ := (o.refunds.map (·.shippingMinor)).sum

def execute (r : StoreRefund) : StoreOrder := { o with refunds := o.refunds ++ [r] }

/-- The rule by which Shopify accepts a refund. -/
def Accepts (r : StoreRefund) : Prop :=
  (∀ l ∈ r.lines, l.1 ∈ o.lineItems.map (·.sourceLineItemId)) ∧
    (∀ l ∈ o.lineItems, (o.execute r).refundedQuantityOf l.sourceLineItemId ≤ l.quantity) ∧
    (o.execute r).refundedShipping ≤ o.shippingMinor ∧
    (∀ x ∈ o.refunds, x.id ≠ r.id) ∧
    ∀ k, r.idempotencyKey = some k → ∀ x ∈ o.refunds, x.idempotencyKey ≠ some k

instance (r : StoreRefund) : Decidable (o.Accepts r) :=
  haveI : Decidable (∀ k, r.idempotencyKey = some k → ∀ x ∈ o.refunds, x.idempotencyKey ≠ some k) :=
    match h : r.idempotencyKey with
    | none => .isTrue (by simp)
    | some k =>
        decidable_of_iff (∀ x ∈ o.refunds, x.idempotencyKey ≠ some k)
          ⟨fun hx k' hk => by cases hk; exact hx, fun hx => hx k rfl⟩
  inferInstanceAs (Decidable (_ ∧ _ ∧ _ ∧ _ ∧ _))

/-! ## What Shopify reports -/

def orderSnapshot : OrderSnapshot where
  cancelled := o.cancelled
  lineItems := o.lineItems.map fun l =>
    { lineItemId := l.sourceLineItemId
      currentQuantity := some (l.quantity - o.refundedQuantityOf l.sourceLineItemId)
      refundableQuantity := some (l.quantity - o.refundedQuantityOf l.sourceLineItemId) }

/-- A refund with one successful payment transaction of its whole amount. -/
def canonicalRefund (r : StoreRefund) : CanonicalRefund where
  sourceShopifyRefundId := r.id
  totalRefunded := some ⟨r.amountMinor, o.currency⟩
  transactionPaginationComplete := true
  lineItemPaginationComplete := true
  transactions :=
    [some ⟨r.id, REFUND_TRANSACTION_KIND, FINAL_TRANSACTION_STATUS, ⟨r.amountMinor, o.currency⟩,
      none⟩]
  refundLineItems := r.lines

def canonicalRefunds : CanonicalRefunds where
  orderTotalRefunded := some ⟨(o.refunds.map (·.amountMinor)).sum, o.currency⟩
  orderTotalRefundedShippingAmount := some o.refundedShipping
  orderTotalRefundedShippingCurrencyCode := some o.currency
  refundsListComplete := true
  refunds := o.refunds.map o.canonicalRefund

/-- The shipping that may still be refunded. -/
def refundableShipping : ℤ := o.shippingMinor - o.refundedShipping

/-- The answers to a classification, while Shopify is available and nothing is returned;
`suggest` are the transactions of a suggested refund. -/
def answers (fulfillmentOrders : List FulfillmentOrder)
    (suggest : List (Id × ℕ) → Option ℤ → List SuggestedTransaction) : ShopifyAnswers where
  reads := some
    { order := some o.orderSnapshot
      refunds := some o.canonicalRefunds
      returns := some []
      fulfillmentOrders := fulfillmentOrders }
  previewSuggestedRefund lines shipping := some
    { refundLineItemsPreview := lines
      suggestedRefund := some
        { suggestedTransactions := suggest lines shipping
          totalRefundAmount := some
            ((suggest lines shipping).map fun t => t.amountMinor.getD 0).sum
          shippingMaximumRefundableAmount := some o.refundableShipping
          shippingCurrencyCode := some o.currency }
      graphqlErrors := [] }

/-! ## Consistency -/

structure Consistent : Prop where
  quantity : ∀ l ∈ o.lineItems, o.refundedQuantityOf l.sourceLineItemId ≤ l.quantity
  lines : ∀ r ∈ o.refunds, ∀ l ∈ r.lines, l.1 ∈ o.lineItems.map (·.sourceLineItemId)
  shipping : o.refundedShipping ≤ o.shippingMinor
  ids : KeyUnique StoreRefund.id o.refunds
  keys : ∀ r ∈ o.refunds, ∀ r' ∈ o.refunds, r.idempotencyKey.isSome →
    r.idempotencyKey = r'.idempotencyKey → r = r'

variable {o}

lemma Consistent.execute {r : StoreRefund} (h : o.Consistent) (hr : o.Accepts r) :
    (o.execute r).Consistent := by
  obtain ⟨hlines, hquantity, hshipping, hid, hkey⟩ := hr
  refine ⟨hquantity, ?_, hshipping, ?_, ?_⟩
  · intro x hx
    rcases List.mem_append.mp hx with hx | hx
    · exact h.lines x hx
    · rw [List.mem_singleton.mp hx]
      exact hlines
  · refine keyUnique_append.mpr ⟨h.ids, by simp [KeyUnique], ?_⟩
    intro x hx y hy
    rw [List.mem_singleton.mp hy]
    exact hid x hx
  · intro x hx y hy hs he
    obtain ⟨k, hk⟩ := Option.isSome_iff_exists.mp hs
    rcases List.mem_append.mp hx with hxo | hxr <;> rcases List.mem_append.mp hy with hyo | hyr
    · exact h.keys x hxo y hyo hs he
    · obtain rfl := List.mem_singleton.mp hyr
      exact absurd hk (hkey k (he ▸ hk) x hxo)
    · obtain rfl := List.mem_singleton.mp hxr
      exact absurd (he ▸ hk) (hkey k hk y hyo)
    · rw [List.mem_singleton.mp hxr, List.mem_singleton.mp hyr]

/-- Two different refunds share the quantity of a line. -/
lemma refundedQuantity_add_le {r r' : StoreRefund} (hr : r ∈ o.refunds) (hr' : r' ∈ o.refunds)
    (hne : r ≠ r') (lineItemId : Id) :
    refundedQuantity r.lines lineItemId + refundedQuantity r'.lines lineItemId ≤
      o.refundedQuantityOf lineItemId := by
  unfold refundedQuantityOf
  revert hr hr'
  induction o.refunds with
  | nil => simp
  | cons x l ih =>
      intro hr hr'
      have hmem {y : StoreRefund} (hy : y ∈ l) : refundedQuantity y.lines lineItemId ≤
          (l.map fun r => refundedQuantity r.lines lineItemId).sum :=
        List.single_le_sum (by simp) _ (List.mem_map_of_mem hy)
      rw [List.map_cons, List.sum_cons]
      rcases List.mem_cons.mp hr with rfl | hl <;> rcases List.mem_cons.mp hr' with rfl | hl'
      · exact absurd rfl hne
      · exact Nat.add_le_add_left (hmem hl') _
      · have := hmem hl
        omega
      · have := ih hl hl'
        omega

/-- **A refund that takes a whole line is the only refund of that line.** -/
lemma Consistent.refund_eq_of_covers (h : o.Consistent) {l : StoreLine} (hl : l ∈ o.lineItems)
    {r r' : StoreRefund} (hr : r ∈ o.refunds) (hr' : r' ∈ o.refunds)
    (hcovers : l.quantity ≤ refundedQuantity r.lines l.sourceLineItemId)
    (hpos : 0 < refundedQuantity r'.lines l.sourceLineItemId) : r' = r := by
  by_contra hne
  have hsum := refundedQuantity_add_le hr hr' (Ne.symm hne) l.sourceLineItemId
  have hle := h.quantity l hl
  omega

end StoreOrder

end VendorDashboard.Orders

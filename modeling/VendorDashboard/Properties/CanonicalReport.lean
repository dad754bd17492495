import VendorDashboard.Orders.AutoRefund
import VendorDashboard.Orders.ShopifyStore
import Mathlib.Data.List.Forall2
import Mathlib.Data.List.ReduceOption

/-!
# Shopify's report of an order's refunds

`Reports` says that a list of canonical refunds is about the executed refunds of an order: each
of them once, in any order, with its lines and with the successful payment transactions that
make up its amount, and the order's refunded shipping with its currency.  On such a report the
monetary evidence of every refund that moved money is positive
(`Reports.relevantRefunds_eq`), and the evidence check of a cancellation item comes down to
arithmetic on the order's refunds (`Reports.covers`).
-/

namespace VendorDashboard.Orders

open Finance (Id)
open Table Text

/-- The canonical refund of an executed refund. -/
structure ReportsRefund (currency : String) (s : StoreRefund) (r : CanonicalRefund) : Prop where
  id : r.sourceShopifyRefundId = s.id
  lines : r.refundLineItems = s.lines
  total : r.totalRefunded = some ⟨s.amountMinor, currency⟩
  transactionsComplete : r.transactionPaginationComplete = true
  linesComplete : r.lineItemPaginationComplete = true
  transactions : ∃ ts : List RefundTransaction, r.transactions = ts.map some ∧
    (∀ t ∈ ts, t.kind = REFUND_TRANSACTION_KIND ∧ t.status = FINAL_TRANSACTION_STATUS ∧
      t.money.currency = currency ∧ 0 ≤ t.money.minor) ∧
    (ts.map (·.money.minor)).sum = s.amountMinor

structure Reports (o : StoreOrder) (refunds : CanonicalRefunds) : Prop where
  executed : ∃ currency listed, listed.Perm o.refunds ∧
    List.Forall₂ (ReportsRefund currency) listed refunds.refunds ∧
    ∃ total, refunds.orderTotalRefunded = some ⟨total, currency⟩
  shipping : refunds.orderTotalRefundedShippingAmount = some o.refundedShipping
  shippingCurrency : refunds.orderTotalRefundedShippingCurrencyCode = some o.currency
  complete : refunds.refundsListComplete = true
  transactionGids :
    ((refunds.refunds.flatMap (·.transactions)).reduceOption.map (·.transactionGid)).Nodup

/-! ## Payment transactions -/

lemma uniqueTransactions_eq_self {ts : List RefundTransaction}
    (h : (ts.map (·.transactionGid)).Nodup) : uniqueTransactions ts = ts := by
  induction ts with
  | nil => rfl
  | cons t ts ih =>
      obtain ⟨hnotin, hnodup⟩ := List.nodup_cons.mp h
      rw [uniqueTransactions, ih hnodup, List.filter_eq_self.mpr]
      intro u hu
      rw [decide_eq_true_eq]
      intro heq
      exact hnotin (List.mem_map.mpr ⟨u, hu, heq⟩)

/-- Amounts that are not negative add up to the same when only the positive ones are added. -/
lemma sum_positive {α : Type} {amount : α → ℤ} {l : List α} (h : ∀ x ∈ l, 0 ≤ amount x) :
    (l.filterMap fun x => if 0 < amount x then some (amount x) else none).sum =
      (l.map amount).sum := by
  induction l with
  | nil => rfl
  | cons x l ih =>
      have hl := ih fun y hy => h y (List.mem_cons_of_mem _ hy)
      have hx := h x List.mem_cons_self
      rw [List.map_cons, List.sum_cons]
      by_cases hpos : 0 < amount x
      · simp only [List.filterMap_cons, if_pos hpos, List.sum_cons, hl]
      · simp only [List.filterMap_cons, if_neg hpos, hl]
        omega

/-- The refund transactions of a reported refund add up to its amount. -/
lemma ReportsRefund.localPositiveRefunds_sum {currency : String} {s : StoreRefund}
    {r : CanonicalRefund} (h : ReportsRefund currency s r) {all : List RefundTransaction}
    (hall : (all.map (·.transactionGid)).Nodup) (hsub : r.transactions.reduceOption.Sublist all) :
    (localPositiveRefunds all r).sum = s.amountMinor := by
  obtain ⟨ts, hts, hfinal, hsum⟩ := h.transactions
  have hown : r.transactions.reduceOption = ts := by
    rw [hts]
    simp [List.reduceOption]
  rw [hown] at hsub
  unfold localPositiveRefunds
  rw [hown, uniqueTransactions_eq_self ((hsub.map _).nodup hall)]
  have hfind : ∀ t ∈ ts, (all.find? fun u => decide (u.transactionGid = t.transactionGid)) =
      some t := by
    intro t ht
    exact findRow_of_mem hall (hsub.subset ht)
  have hstep : ∀ t ∈ ts, ((all.find? fun u => decide (u.transactionGid = t.transactionGid)).bind
      fun u => if u.kind = REFUND_TRANSACTION_KIND ∧ u.status = FINAL_TRANSACTION_STATUS ∧
        0 < u.money.minor then some u.money.minor else none) =
      if 0 < t.money.minor then some t.money.minor else none := by
    intro t ht
    obtain ⟨hkind, hstatus, -, -⟩ := hfinal t ht
    rw [hfind t ht]
    simp only [Option.bind_some, hkind, hstatus, true_and]
  rw [List.filterMap_congr hstep, sum_positive fun t ht => (hfinal t ht).2.2.2, hsum]

lemma exists_of_forall₂ {α β : Type} {R : α → β → Prop} {l : List α} {l' : List β}
    (h : List.Forall₂ R l l') {y : β} (hy : y ∈ l') : ∃ x ∈ l, R x y := by
  induction h with
  | nil => simp at hy
  | cons hR _ ih =>
      rcases List.mem_cons.mp hy with rfl | hy
      · exact ⟨_, List.mem_cons_self, hR⟩
      · obtain ⟨x, hx, hxR⟩ := ih hy
        exact ⟨x, List.mem_cons_of_mem _ hx, hxR⟩

/-- Every transaction of a report is a successful refund transaction. -/
lemma forall_reportedTransactions {currency : String} {listed : List StoreRefund}
    {rs : List CanonicalRefund} (h : List.Forall₂ (ReportsRefund currency) listed rs) :
    ∀ x ∈ rs.flatMap (·.transactions), ∃ t, x = some t ∧ t.kind = REFUND_TRANSACTION_KIND ∧
      t.status = FINAL_TRANSACTION_STATUS ∧ t.money.currency = currency := by
  intro x hx
  obtain ⟨r, hr, hxr⟩ := List.mem_flatMap.mp hx
  obtain ⟨s, -, hreports⟩ := exists_of_forall₂ h hr
  obtain ⟨ts, hts, hfinal, -⟩ := hreports.transactions
  rw [hts] at hxr
  obtain ⟨t, ht, rfl⟩ := List.mem_map.mp hxr
  obtain ⟨hkind, hstatus, hcurrency, -⟩ := hfinal t ht
  exact ⟨t, rfl, hkind, hstatus, hcurrency⟩

lemma ReportsRefund.classify {currency : String} {s : StoreRefund} {r : CanonicalRefund}
    (h : ReportsRefund currency s r) {total : ℤ} {all : List RefundTransaction}
    (hall : (all.map (·.transactionGid)).Nodup) (hsub : r.transactions.reduceOption.Sublist all)
    (hpos : 0 < s.amountMinor) :
    classifyRefund ⟨total, currency⟩ all r = some (r.sourceShopifyRefundId, .monetaryRefund) := by
  have hsum := h.localPositiveRefunds_sum hall hsub
  have hpos' : (0 : ℤ) < s.amountMinor := by exact_mod_cast hpos
  unfold classifyRefund
  rw [h.total]
  simp only [hsum, ne_eq, not_true_eq_false, if_false, if_pos hpos']

namespace Reports

variable {o : StoreOrder} {refunds : CanonicalRefunds}

/-- **A report of refunds that all moved money**: the evidence of each is monetary. -/
theorem classify (h : Reports o refunds) (hne : o.refunds ≠ [])
    (hpos : ∀ s ∈ o.refunds, 0 < s.amountMinor) :
    classifyCanonicalRefundMonetaryEvidence refunds =
      refunds.refunds.map fun r => (r.sourceShopifyRefundId, .monetaryRefund) := by
  obtain ⟨currency, listed, hperm, hreports, total, htotal⟩ := h.executed
  have hgids := h.transactionGids
  have hfinal := forall_reportedTransactions hreports
  have hcomplete : ∀ r ∈ refunds.refunds, r.transactionPaginationComplete = true ∧
      r.lineItemPaginationComplete = true := by
    intro r hr
    obtain ⟨s, -, hr⟩ := exists_of_forall₂ hreports hr
    exact ⟨hr.transactionsComplete, hr.linesComplete⟩
  unfold classifyCanonicalRefundMonetaryEvidence
  generalize hall : (refunds.refunds.flatMap (·.transactions)).reduceOption = all at hgids
  have hallFinal : ∀ t ∈ all, t.kind = REFUND_TRANSACTION_KIND ∧
      t.status = FINAL_TRANSACTION_STATUS ∧ t.money.currency = currency := by
    intro t ht
    rw [← hall, List.reduceOption_mem_iff] at ht
    obtain ⟨u, hu, hfinal⟩ := hfinal _ ht
    exact Option.some.inj hu ▸ hfinal
  have hsub : ∀ r ∈ refunds.refunds, r.transactions.reduceOption.Sublist all := by
    intro r hr
    rw [← hall, List.flatMap_def]
    exact (List.sublist_flatten_of_mem (List.mem_map_of_mem hr)).filterMap _
  have hclassify : ∀ r ∈ refunds.refunds, classifyRefund ⟨total, currency⟩ all r =
      some (r.sourceShopifyRefundId, .monetaryRefund) := by
    intro r hr
    obtain ⟨s, hs, hr'⟩ := exists_of_forall₂ hreports hr
    exact hr'.classify hgids (hsub r hr) (hpos s (hperm.mem_iff.mp hs))
  have hallNe : all ≠ [] := by
    rintro rfl
    obtain ⟨s, hs⟩ := List.exists_mem_of_ne_nil _ hne
    obtain ⟨r, hr, hr'⟩ := exists_of_forall₂ hreports.flip (hperm.mem_iff.mpr hs)
    have hsum := hr'.localPositiveRefunds_sum hgids (hsub r hr)
    have hnil := List.eq_nil_of_sublist_nil (hsub r hr)
    have hs0 := hpos s hs
    simp only [localPositiveRefunds, hnil, uniqueTransactions, List.filterMap_nil,
      List.sum_nil] at hsum
    omega
  simp only [htotal, hall, uniqueTransactions_eq_self hgids]
  rw [if_neg (by simp [h.complete]), if_neg (by simpa using fun r hr => (hcomplete r hr).1),
    if_neg (by simpa using fun r hr => (hcomplete r hr).2), if_neg, if_neg, if_neg, if_neg, if_neg,
    if_neg]
  · exact List.filterMap_eq_map_iff_forall_eq_some.mpr hclassify
  · simpa using hallNe
  · simp only [List.any_eq_true, Bool.and_eq_true, decide_eq_true_eq, not_exists, not_and]
    intro t ht _ hne
    exact hne (hallFinal t ht).2.1
  · simp only [List.any_eq_true, decide_eq_true_eq, not_exists, not_and]
    intro t ht hne
    exact hne (hallFinal t ht).2.2
  · simp only [List.any_eq_true, Bool.and_eq_true, decide_eq_true_eq, not_exists, not_and]
    intro t ht hkind
    rw [(hallFinal t ht).1] at hkind
    exact absurd hkind (by decide)
  · simp only [List.any_eq_true, Option.isNone_iff_eq_none, not_exists, not_and]
    intro x hx hnone
    obtain ⟨t, rfl, -⟩ := hfinal x hx
    simp at hnone
  · simp only [List.any_eq_true, Bool.and_eq_true, decide_eq_true_eq, not_exists, not_and]
    intro t ht u hu hgid hne
    exact hne (KeyUnique.eq hgids hu ht hgid)

/-- The refunds that moved money are all of them, so only the attempt's own refund is left when
it carries one. -/
lemma relevantRefunds_eq (h : Reports o refunds) (hpos : ∀ s ∈ o.refunds, 0 < s.amountMinor)
    (attempt : Option OutboundShopifyRefundAttempt) :
    relevantRefunds attempt refunds = refunds.refunds.filter fun r =>
      (attempt.bind (·.shopifyRefundId)).all fun id => decide (r.sourceShopifyRefundId = id) := by
  unfold relevantRefunds
  refine List.filter_congr fun r hr => ?_
  have hne : o.refunds ≠ [] := by
    obtain ⟨currency, listed, hperm, hreports, -⟩ := h.executed
    obtain ⟨s, hs, -⟩ := exists_of_forall₂ hreports hr
    exact List.ne_nil_of_mem (hperm.mem_iff.mp hs)
  rw [h.classify hne hpos]
  have hmem : r.sourceShopifyRefundId ∈ (((refunds.refunds.map fun r =>
      (r.sourceShopifyRefundId, RefundMonetaryClassification.monetaryRefund)).filter fun e =>
        decide (e.2 = .monetaryRefund)).map Prod.fst) := by
    refine List.mem_map.mpr ⟨(r.sourceShopifyRefundId, .monetaryRefund), ?_, rfl⟩
    exact List.mem_filter.mpr ⟨List.mem_map.mpr ⟨r, hr, rfl⟩, decide_eq_true rfl⟩
  rw [decide_eq_true hmem, Bool.true_and]

/-- What the report takes off a line, in terms of the executed refunds. -/
lemma sum_refundedQuantity (h : Reports o refunds) (p : Id → Bool) (lineItemId : Id) :
    ((refunds.refunds.filter fun r => p r.sourceShopifyRefundId).map fun r =>
        exactRefundedQuantity r lineItemId).sum =
      ((o.refunds.filter fun s => p s.id).map fun s => refundedQuantity s.lines lineItemId).sum := by
  obtain ⟨currency, listed, hperm, hreports, -⟩ := h.executed
  rw [← ((hperm.filter _).map _).sum_eq]
  generalize refunds.refunds = rs at hreports
  clear hperm
  induction hreports with
  | nil => rfl
  | cons hr _ ih =>
      rw [List.filter_cons, List.filter_cons, hr.id]
      split
      · rw [List.map_cons, List.map_cons, List.sum_cons, List.sum_cons, ih, exactRefundedQuantity,
          hr.lines]
      · exact ih

end Reports

/-- The report of the store is one. -/
lemma StoreOrder.reports_canonicalRefunds {o : StoreOrder} (h : o.Consistent) :
    Reports o o.canonicalRefunds where
  executed := by
    refine ⟨o.currency, o.refunds, .refl _, ?_, _, rfl⟩
    refine List.forall₂_map_right_iff.mpr (List.forall₂_same.mpr fun s _ => ?_)
    refine ⟨rfl, rfl, rfl, rfl, rfl, [⟨s.id, REFUND_TRANSACTION_KIND, FINAL_TRANSACTION_STATUS,
      ⟨s.amountMinor, o.currency⟩, none⟩], rfl, fun t ht => ?_, by simp⟩
    obtain rfl := List.mem_singleton.mp ht
    exact ⟨rfl, rfl, rfl, Int.natCast_nonneg _⟩
  shipping := rfl
  shippingCurrency := rfl
  complete := rfl
  transactionGids := by
    have hgids : ((o.canonicalRefunds.refunds.flatMap (·.transactions)).reduceOption.map
        (·.transactionGid)) = o.refunds.map (·.id) := by
      unfold canonicalRefunds
      induction o.refunds with
      | nil => rfl
      | cons r rs ih => simpa [canonicalRefund, List.reduceOption] using ih
    rw [hgids]
    exact h.ids

end VendorDashboard.Orders

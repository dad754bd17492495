import VendorDashboard.Framework.Reordering
import VendorDashboard.Properties.RefundMonetaryEvidence

/-!
# Refunded money is accounted for

A classification as a refund of money accounts for the money: the totals of the refunds, the
distinct transactions and the total of the order are one amount, and every transaction supports one
refund.  The answer depends on the transactions of each refund as a set and on the refunds in any
order, as the account that it computes does (`classify_eq_account`).
-/

namespace VendorDashboard.Shopify

open Decimal Reordering Table Text

variable (toUpperCase : String → String)

/-! ## Verified collections -/

/-- The sums of a collection are looked at and agree with each other. -/
structure RefundCollection.Verified (c : RefundCollection) (orderTotal : ParsedMoney) : Prop where
  reached : c.Reached toUpperCase orderTotal
  own : ¬ ∃ r ∈ c.refunds, r.ForeignTotal toUpperCase orderTotal
  agrees : ¬ c.Mismatch toUpperCase orderTotal
  supported : ¬ ∃ r ∈ c.refunds, r.Unsupported toUpperCase

variable {toUpperCase}

section Verified

variable {c : RefundCollection} {orderTotal : ParsedMoney}

lemma RefundCollection.accountRefunds_classification
    (h : (c.accountRefunds toUpperCase orderTotal).classification = .monetaryRefund) :
    (¬ ∃ r ∈ c.refunds, r.ForeignTotal toUpperCase orderTotal) ∧
      ¬ c.Mismatch toUpperCase orderTotal ∧ (¬ ∃ r ∈ c.refunds, r.Unsupported toUpperCase) ∧
      0 < orderTotal.decimal := by
  unfold RefundCollection.accountRefunds at h
  by_cases hforeign : ∃ r ∈ c.refunds, r.ForeignTotal toUpperCase orderTotal
  · rw [if_pos hforeign] at h
    cases h
  rw [if_neg hforeign] at h
  by_cases hmismatch : c.Mismatch toUpperCase orderTotal
  · rw [if_pos hmismatch] at h
    cases h
  rw [if_neg hmismatch] at h
  by_cases hunsupported : ∃ r ∈ c.refunds, r.Unsupported toUpperCase
  · rw [if_pos hunsupported] at h
    cases h
  rw [if_neg hunsupported] at h
  by_cases hpos : 0 < orderTotal.decimal
  · exact ⟨hforeign, hmismatch, hunsupported, hpos⟩
  · simp only [if_neg hpos] at h
    cases h

/-- Transactions that are classified as a refund are in order. -/
lemma RefundCollection.accountTransactions_classification
    (h : (c.accountTransactions toUpperCase orderTotal).classification = .monetaryRefund) :
    c.Orderly toUpperCase orderTotal ∧
      (c.accountRefunds toUpperCase orderTotal).classification = .monetaryRefund := by
  unfold RefundCollection.accountTransactions at h
  by_cases hconflict : c.Conflicting toUpperCase
  · rw [if_pos hconflict] at h
    cases h
  rw [if_neg hconflict] at h
  by_cases hbad : c.Malformed toUpperCase ∨
      c.HasTransaction toUpperCase UniqueTransaction.IsPositiveVoid
  · rw [if_pos hbad] at h
    cases h
  rw [if_neg hbad] at h
  by_cases hforeign : c.HasTransaction toUpperCase fun u => u.money.currency ≠ orderTotal.currency
  · rw [if_pos hforeign] at h
    cases h
  rw [if_neg hforeign] at h
  by_cases hopen : c.HasTransaction toUpperCase UniqueTransaction.IsNonFinalRefund
  · rw [if_pos hopen] at h
    cases h
  rw [if_neg hopen] at h
  by_cases hnone : c.allTransactions = []
  · rw [if_pos hnone] at h
    cases h
  rw [if_neg hnone] at h
  obtain ⟨hwell, hvoid⟩ := not_or.mp hbad
  exact ⟨⟨hconflict, hwell, hvoid, hforeign, hopen, hnone⟩, h⟩

/-- A collection that is classified as a refund of money is verified. -/
lemma RefundCollection.account_classification
    (h : (c.account toUpperCase).classification = .monetaryRefund) :
    ∃ orderTotal, c.Verified toUpperCase orderTotal ∧ 0 < orderTotal.decimal := by
  unfold RefundCollection.account at h
  by_cases hlist : c.refundsListComplete = false
  · rw [if_pos hlist] at h
    cases h
  rw [if_neg hlist] at h
  by_cases htransactions : ∃ r ∈ c.refunds, r.transactionPaginationComplete = false
  · rw [if_pos htransactions] at h
    cases h
  rw [if_neg htransactions] at h
  by_cases hlines : ∃ r ∈ c.refunds, r.lineItemPaginationComplete = false
  · rw [if_pos hlines] at h
    cases h
  rw [if_neg hlines] at h
  cases htotal : c.orderTotal toUpperCase with
  | none =>
      rw [htotal] at h
      cases h
  | some orderTotal =>
      rw [htotal] at h
      obtain ⟨horderly, hrefunds⟩ := RefundCollection.accountTransactions_classification h
      obtain ⟨hown, hagrees, hsupported, hpos⟩ :=
        RefundCollection.accountRefunds_classification hrefunds
      refine ⟨orderTotal, ⟨⟨by simpa using hlist, ?_, ?_, htotal, horderly⟩, hown, hagrees,
        hsupported⟩, hpos⟩
      · simpa using htransactions
      · simpa using hlines

/-- Verified collections are classified by their sums. -/
lemma RefundCollection.Verified.account_eq (h : c.Verified toUpperCase orderTotal) :
    c.account toUpperCase =
      ⟨if 0 < orderTotal.decimal then .monetaryRefund else .zeroValueVoid,
        if 0 < orderTotal.decimal then .monetaryRefundVerified
          else .zeroValueVoidNotMonetaryRefund,
        orderTotal.decimal, some orderTotal.currency, some orderTotal.decimal⟩ := by
  obtain ⟨⟨hlist, htransactions, hlines, htotal, horderly⟩, hown, hagrees, hsupported⟩ := h
  unfold RefundCollection.account
  rw [if_neg (by simp [hlist]), if_neg (by simpa using htransactions),
    if_neg (by simpa using hlines), htotal]
  simp only [RefundCollection.accountTransactions]
  rw [if_neg horderly.consistent, if_neg (not_or.mpr ⟨horderly.well, horderly.voids⟩),
    if_neg horderly.currency, if_neg horderly.final, if_neg horderly.some]
  unfold RefundCollection.accountRefunds
  rw [if_neg hown, if_neg hagrees, if_neg hsupported]

/-- The refunds of a verified collection are accounted for one by one. -/
lemma RefundCollection.Verified.accounted (h : c.Verified toUpperCase orderTotal)
    {r : RefundSnapshot} (hr : r ∈ c.refunds) : r.Accounted toUpperCase orderTotal := by
  by_contra hnot
  exact h.agrees (Or.inl ⟨r, hr, hnot⟩)

lemma RefundCollection.Verified.refunded_eq (h : c.Verified toUpperCase orderTotal) :
    refunded toUpperCase c.allTransactions = orderTotal.decimal := by
  by_contra hne
  exact h.agrees (Or.inr (Or.inr hne))

/-- What the transactions of the refunds add up to, one refund after the other. -/
lemma RefundCollection.Verified.sum_refunded (h : c.Verified toUpperCase orderTotal) :
    (c.refunds.map fun r => refunded toUpperCase r.transactions).sum = orderTotal.decimal := by
  have htotals : (c.refundTotals toUpperCase).sum = orderTotal.decimal := by
    by_contra hne
    exact h.agrees (Or.inr (Or.inl hne))
  have hmap : c.refundTotals toUpperCase =
      c.refunds.map fun r => refunded toUpperCase r.transactions := by
    unfold RefundCollection.refundTotals
    rw [← List.filterMap_eq_map]
    refine List.filterMap_congr fun r hr => ?_
    obtain ⟨total, htotal, -, hequal⟩ := h.accounted hr
    rw [htotal, Option.map_some, Function.comp_apply, hequal]
  rw [← hmap, htotals]

end Verified

/-! ## No transaction supports two refunds -/

/-- A part of some positive amounts that adds up to all of them is all of them. -/
lemma eq_of_sublist_of_sum_eq {α : Type*} {l m : List (α × ℚ)} (hsub : l.Sublist m)
    (hpos : ∀ e ∈ m, 0 < e.2) (hsum : (l.map Prod.snd).sum = (m.map Prod.snd).sum) : l = m := by
  induction hsub with
  | slnil => rfl
  | @cons l m e hsub ih =>
      have hle : (l.map Prod.snd).sum ≤ (m.map Prod.snd).sum :=
        (hsub.map Prod.snd).sum_le_sum fun x hx => by
          obtain ⟨e', he', rfl⟩ := List.mem_map.mp hx
          exact (hpos e' (List.mem_cons_of_mem _ he')).le
      have he := hpos e List.mem_cons_self
      rw [List.map_cons, List.sum_cons] at hsum
      linarith
  | @cons_cons l m e hsub ih =>
      rw [List.map_cons, List.sum_cons, List.map_cons, List.sum_cons] at hsum
      rw [ih (fun e' he' => hpos e' (List.mem_cons_of_mem _ he')) (add_left_cancel hsum)]

section Verified

variable {c : RefundCollection} {orderTotal : ParsedMoney}

/-- The entries of different refunds are different. -/
lemma RefundCollection.Verified.pairwise_disjoint (h : c.Verified toUpperCase orderTotal) :
    c.refunds.Pairwise fun r s =>
      (supports toUpperCase r.transactions).Disjoint (supports toUpperCase s.transactions) := by
  set all := c.refunds.flatMap fun r => supports toUpperCase r.transactions with hall
  have hpos : ∀ e ∈ all, 0 < e.2 := fun e he => by
    obtain ⟨r, -, her⟩ := List.mem_flatMap.mp he
    exact supports_pos her
  have hperm : all.dedup.Perm (supports toUpperCase c.allTransactions) := by
    rw [List.perm_ext_iff_of_nodup (List.nodup_dedup _) (nodup_supports _)]
    intro e
    rw [List.mem_dedup, hall, List.mem_flatMap]
    constructor
    · rintro ⟨r, hr, her⟩
      exact supports_subset (subset_allTransactions hr) her
    · intro he
      obtain ⟨p, hp, hrefund, hpe⟩ := mem_supports.mp he
      obtain ⟨t, ht, hnorm⟩ := mem_entries.mp hp
      obtain ⟨r, hr, htr⟩ := List.mem_flatMap.mp ht
      exact ⟨r, hr, mem_supports.mpr ⟨p, mem_entries.mpr ⟨t, htr, hnorm⟩, hrefund, hpe⟩⟩
  have hsum : (all.map Prod.snd).sum = orderTotal.decimal := by
    rw [← h.sum_refunded, hall, List.map_flatMap, List.flatMap_def, List.sum_flatten,
      List.map_map]
    rfl
  have hdedup : all.dedup = all :=
    eq_of_sublist_of_sum_eq (List.dedup_sublist all) hpos <| by
      rw [hsum, ← h.refunded_eq]
      exact (hperm.map Prod.snd).sum_eq
  exact (List.nodup_flatMap.mp (List.dedup_eq_self.mp hdedup)).2

/-- No transaction supports two refunds. -/
lemma RefundCollection.Verified.pairwise_ne (h : c.Verified toUpperCase orderTotal)
    (hbars : c.Unambiguous toUpperCase) :
    c.refunds.Pairwise fun r s => ∀ d ∈ supports toUpperCase r.transactions,
      ∀ e ∈ supports toUpperCase s.transactions, d.1 ≠ e.1 := by
  have hconsistent := RefundCollection.consistent hbars h.reached.orderly.consistent
  refine List.Pairwise.imp_of_mem ?_ h.pairwise_disjoint
  intro r s hr hs hdisjoint d hd e he hkey
  obtain ⟨p, hp, -, hpd⟩ := mem_supports.mp (supports_subset (subset_allTransactions hr) hd)
  obtain ⟨q, hq, -, hqe⟩ := mem_supports.mp (supports_subset (subset_allTransactions hs) he)
  have hpq : q.1 = p.1 := by
    rw [← hpd, ← hqe] at hkey
    exact hkey.symm
  have hsame := hconsistent p hp q hq hpq
  have heq : d = e := by
    rw [← hpd, ← hqe]
    exact Prod.ext hpq.symm hsame.decimal.symm
  exact hdisjoint hd (heq ▸ he)

end Verified

/-! ## The results of the refunds -/

variable (toUpperCase)

open Classical in
/-- The results of the refunds that are accounted for. -/
noncomputable def RefundCollection.itemAccounts (c : RefundCollection) (orderTotal : ParsedMoney) :
    List ItemVerdict :=
  c.refunds.filterMap fun r =>
    if r.Accounted toUpperCase orderTotal then some (r.itemVerdict toUpperCase orderTotal) else none

variable {toUpperCase}

section Items

variable {c : RefundCollection} {orderTotal : ParsedMoney}

/-- What is selected for a refund are its own transactions. -/
lemma mem_selectedTransactions {st : CollectedTransactions}
    (h : Collected toUpperCase orderTotal c.allTransactions st)
    (hconsistent : c.Consistent toUpperCase) (hwell : ¬ c.Malformed toUpperCase)
    {r : RefundSnapshot} (hr : r ∈ c.refunds) {item : RefundItemMonetaryEvidence}
    (hitem : r.result toUpperCase orderTotal st.uniqueTransactions = some item)
    {t : SelectedTransactionEvidence} (ht : t ∈ item.selectedTransactions) :
    ∃ e ∈ supports toUpperCase r.transactions, e.1 = trim t.transactionGid := by
  unfold RefundSnapshot.result at hitem
  obtain ⟨total, -, hitem⟩ := Option.bind_eq_some_iff.mp hitem
  split at hitem
  · obtain rfl := Option.some.inj hitem
    unfold itemResult at ht
    split at ht
    · obtain ⟨p, hp, rfl⟩ := List.mem_map.mp ht
      obtain ⟨hplocal, -⟩ := List.mem_filter.mp hp
      have hpunique := ((mem_localTransactions h.key).mp hplocal).1
      obtain ⟨t, -, hnorm⟩ := mem_entries.mp (h.subset p hpunique)
      obtain ⟨hkey, hsource, -⟩ := normalizeTransaction_eq_some hnorm
      refine ⟨entryOf p, ?_, ?_⟩
      · refine (positiveEntries_perm h hconsistent hwell (subset_allTransactions hr)).mem_iff.mp ?_
        exact List.mem_map_of_mem hp
      · show p.1 = trim p.2.source.transactionGid
        rw [hkey, hsource]
    · split at ht
      · cases ht
      · cases ht
  · cases hitem

/-- A collection that is reached is classified, refund by refund, with its own transactions. -/
lemma classify_of_reached (hbars : c.Unambiguous toUpperCase)
    (hreached : c.Reached toUpperCase orderTotal) :
    ∃ common st, Collected toUpperCase orderTotal c.allTransactions st ∧
      classifyCanonicalRefundMonetaryEvidence toUpperCase c =
        classifyRefunds toUpperCase c common orderTotal st.uniqueTransactions := by
  rcases classify_reached hbars with ⟨total, common, st, hreached', h, -, heq⟩ | ⟨hnot, -⟩
  · obtain rfl : total = orderTotal :=
      Option.some.inj (hreached'.total.symm.trans hreached.total)
    exact ⟨common, st, h, heq⟩
  · exact absurd hreached (hnot orderTotal)

/-- The results that the code has are the specified ones. -/
lemma classify_items (hbars : c.Unambiguous toUpperCase) (hfits : c.Fits toUpperCase)
    (hreached : c.Reached toUpperCase orderTotal) :
    (classifyCanonicalRefundMonetaryEvidence toUpperCase c).refunds.map (·.verdict) =
        c.itemAccounts toUpperCase orderTotal ∧
      (classifyCanonicalRefundMonetaryEvidence toUpperCase c).common.refundAggregateAmount =
        refundAggregate toUpperCase c.refunds := by
  obtain ⟨common, st, h, heq⟩ := classify_of_reached hbars hreached
  have hconsistent := RefundCollection.consistent hbars hreached.orderly.consistent
  have hwell := hreached.orderly.well
  rw [heq, classifyRefunds_refunds, classifyRefunds_refundAggregateAmount]
  refine ⟨?_, rfl⟩
  rw [(summed_sumRefunds orderTotal h.key c.refunds).results, List.map_filterMap]
  refine List.filterMap_congr fun r hr => ?_
  obtain ⟨hresult, hsome⟩ := result_eq hfits hconsistent hwell h hr
  cases hitem : r.result toUpperCase orderTotal st.uniqueTransactions with
  | none =>
      rw [if_neg fun haccounted => by simpa [hitem] using hsome haccounted]
      rfl
  | some item =>
      obtain ⟨haccounted, hverdict⟩ := hresult item hitem
      rw [if_pos haccounted, Option.map_some, hverdict]

/-- The transactions selected for different refunds are different. -/
lemma classify_selected (hbars : c.Unambiguous toUpperCase)
    (hverified : c.Verified toUpperCase orderTotal) :
    (classifyCanonicalRefundMonetaryEvidence toUpperCase c).refunds.Pairwise fun a b =>
      ∀ t ∈ a.selectedTransactions, ∀ u ∈ b.selectedTransactions,
        trim t.transactionGid ≠ trim u.transactionGid := by
  have hreached := hverified.reached
  obtain ⟨common, st, h, heq⟩ := classify_of_reached hbars hreached
  have hconsistent := RefundCollection.consistent hbars hreached.orderly.consistent
  have hwell := hreached.orderly.well
  rw [heq, classifyRefunds_refunds, (summed_sumRefunds orderTotal h.key c.refunds).results,
    List.pairwise_filterMap]
  refine List.Pairwise.imp_of_mem ?_ (hverified.pairwise_ne hbars)
  intro r s hr hs hne a ha b hb t ht u hu
  obtain ⟨d, hd, hdt⟩ := mem_selectedTransactions h hconsistent hwell hr ha ht
  obtain ⟨e, he, heu⟩ := mem_selectedTransactions h hconsistent hwell hs hb hu
  rw [← hdt, ← heu]
  exact hne d hd e he

end Items

/-! ## The account -/

variable (toUpperCase)

/-- What the evidence of a refund of money says about a collection. -/
structure MonetaryAccount (c : RefundCollection) (e : RefundMonetaryEvidence) : Prop where
  /-- Every listed refund has its own result. -/
  refunds : e.refunds.map (·.sourceShopifyRefundId) =
    c.refunds.map (·.sourceShopifyRefundId)
  sum_refunds : (e.refunds.map (·.monetaryRefundAmount)).sum = e.monetaryRefundAmount
  sum_transactions : refunded toUpperCase c.allTransactions = e.monetaryRefundAmount
  total : ∃ total, c.orderTotal toUpperCase = some total ∧
    total.decimal = e.monetaryRefundAmount ∧ e.currency = some total.currency
  /-- No transaction supports two refunds. -/
  selected : e.refunds.Pairwise fun a b => ∀ t ∈ a.selectedTransactions,
    ∀ u ∈ b.selectedTransactions, trim t.transactionGid ≠ trim u.transactionGid
  currency_refunds : ∀ r ∈ e.refunds, r.currency = e.currency
  currency_totals : ∀ r ∈ c.refunds, ∃ total, r.total toUpperCase = some total ∧
    e.currency = some total.currency
  currency_transactions : ∀ p ∈ c.allEntries toUpperCase, e.currency = some p.2.money.currency

variable {toUpperCase}

section Account

variable {c : RefundCollection} {orderTotal : ParsedMoney}

/-- In a verified collection all refunds are accounted for. -/
lemma RefundCollection.Verified.itemAccounts_eq (h : c.Verified toUpperCase orderTotal) :
    c.itemAccounts toUpperCase orderTotal =
      c.refunds.map fun r => r.itemVerdict toUpperCase orderTotal := by
  unfold RefundCollection.itemAccounts
  rw [← List.filterMap_eq_map]
  refine List.filterMap_congr fun r hr => ?_
  rw [if_pos (h.accounted hr)]
  rfl

lemma RefundSnapshot.itemVerdict_amount (r : RefundSnapshot) (orderTotal : ParsedMoney) :
    (r.itemVerdict toUpperCase orderTotal).monetaryRefundAmount =
      refunded toUpperCase r.transactions := by
  unfold RefundSnapshot.itemVerdict
  have hnonneg := @refunded_nonneg toUpperCase r.transactions
  by_cases hpos : 0 < refunded toUpperCase r.transactions
  · rw [if_pos hpos]
  · have hzero : refunded toUpperCase r.transactions = 0 := le_antisymm (not_lt.mp hpos) hnonneg
    rw [if_neg hpos]
    split
    · exact hzero.symm
    · exact hzero.symm

lemma RefundSnapshot.itemVerdict_id (r : RefundSnapshot) (orderTotal : ParsedMoney) :
    (r.itemVerdict toUpperCase orderTotal).sourceShopifyRefundId = r.sourceShopifyRefundId := by
  unfold RefundSnapshot.itemVerdict
  split
  · rfl
  split
  · rfl
  · rfl

lemma RefundSnapshot.itemVerdict_currency (r : RefundSnapshot) (orderTotal : ParsedMoney) :
    (r.itemVerdict toUpperCase orderTotal).currency = some orderTotal.currency := by
  unfold RefundSnapshot.itemVerdict
  split
  · rfl
  split
  · rfl
  · rfl

/-- The evidence of a verified collection accounts for its money. -/
lemma RefundCollection.Verified.monetaryAccount (h : c.Verified toUpperCase orderTotal)
    (hbars : c.Unambiguous toUpperCase) (hfits : c.Fits toUpperCase) :
    MonetaryAccount toUpperCase c (classifyCanonicalRefundMonetaryEvidence toUpperCase c) := by
  have hverdict := (classify_eq_account hbars hfits).trans h.account_eq
  have hitems := (classify_items hbars hfits h.reached).1.trans h.itemAccounts_eq
  have hselected := classify_selected hbars h
  generalize classifyCanonicalRefundMonetaryEvidence toUpperCase c = e at hverdict hitems hselected ⊢
  have hamount : e.monetaryRefundAmount = orderTotal.decimal :=
    congrArg Verdict.monetaryRefundAmount hverdict
  have hcurrency : e.currency = some orderTotal.currency := congrArg Verdict.currency hverdict
  have hown : ∀ r ∈ c.refunds, ∃ total, r.total toUpperCase = some total ∧
      total.currency = orderTotal.currency := fun r hr => by
    obtain ⟨total, htotal, hsame, -⟩ := h.accounted hr
    exact ⟨total, htotal, hsame⟩
  constructor
  · have hids := congrArg (List.map ItemVerdict.sourceShopifyRefundId) hitems
    simp only [List.map_map] at hids
    refine hids.trans (List.map_congr_left fun r _ => ?_)
    exact r.itemVerdict_id orderTotal
  · have hamounts := congrArg (List.map ItemVerdict.monetaryRefundAmount) hitems
    simp only [List.map_map] at hamounts
    have hmap : e.refunds.map (·.monetaryRefundAmount) =
        c.refunds.map fun r => refunded toUpperCase r.transactions :=
      hamounts.trans (List.map_congr_left fun r _ => r.itemVerdict_amount orderTotal)
    rw [hmap, h.sum_refunded, hamount]
  · rw [h.refunded_eq, hamount]
  · exact ⟨orderTotal, h.reached.total, hamount.symm, hcurrency⟩
  · exact hselected
  · intro item hitem
    have hmem : item.verdict ∈ c.refunds.map fun r => r.itemVerdict toUpperCase orderTotal :=
      hitems ▸ List.mem_map_of_mem hitem
    obtain ⟨r, -, hr⟩ := List.mem_map.mp hmem
    have hsame : item.currency = (r.itemVerdict toUpperCase orderTotal).currency :=
      (congrArg ItemVerdict.currency hr).symm
    rw [hsame, r.itemVerdict_currency, hcurrency]
  · intro r hr
    obtain ⟨total, htotal, hsame⟩ := hown r hr
    exact ⟨total, htotal, by rw [hcurrency, hsame]⟩
  · intro p hp
    by_contra hne
    refine h.reached.orderly.currency ⟨p, hp, fun hsame => hne ?_⟩
    rw [hcurrency, hsame]

end Account

/-! ## Order and repetition -/

/-- The same refund, with its transactions in another order or some of them repeated. -/
structure SameRefund (r r' : RefundSnapshot) : Prop where
  sourceShopifyRefundId : r'.sourceShopifyRefundId = r.sourceShopifyRefundId
  totalRefundedAmount : r'.totalRefundedAmount = r.totalRefundedAmount
  totalRefundedCurrencyCode : r'.totalRefundedCurrencyCode = r.totalRefundedCurrencyCode
  transactionPaginationComplete :
    r'.transactionPaginationComplete = r.transactionPaginationComplete
  lineItemPaginationComplete : r'.lineItemPaginationComplete = r.lineItemPaginationComplete
  transactions : ∀ t, t ∈ r'.transactions ↔ t ∈ r.transactions

/-- The same refunds of the same order, in another order. -/
structure SameRefunds (c c' : RefundCollection) : Prop where
  refundsListComplete : c'.refundsListComplete = c.refundsListComplete
  orderTotalRefundedAmount : c'.orderTotalRefundedAmount = c.orderTotalRefundedAmount
  orderTotalRefundedCurrencyCode :
    c'.orderTotalRefundedCurrencyCode = c.orderTotalRefundedCurrencyCode
  refunds : Reordered SameRefund c.refunds c'.refunds

section Transactions

variable {l m : List RefundTransaction}

lemma mem_entries_congr (h : ∀ t, t ∈ l ↔ t ∈ m) (p : String × UniqueTransaction) :
    p ∈ entries toUpperCase l ↔ p ∈ entries toUpperCase m := by
  rw [mem_entries, mem_entries]
  simp only [h]

lemma refunded_congr (h : ∀ t, t ∈ l ↔ t ∈ m) :
    refunded toUpperCase l = refunded toUpperCase m := by
  have hperm : (supports toUpperCase l).Perm (supports toUpperCase m) := by
    rw [List.perm_ext_iff_of_nodup (nodup_supports _) (nodup_supports _)]
    intro e
    rw [mem_supports, mem_supports]
    simp only [mem_entries_congr h]
  exact (hperm.map Prod.snd).sum_eq

end Transactions

namespace SameRefund

variable {r r' : RefundSnapshot} (h : SameRefund r r')

include h

lemma total_eq : r'.total toUpperCase = r.total toUpperCase := by
  unfold RefundSnapshot.total
  rw [h.totalRefundedAmount, h.totalRefundedCurrencyCode]

lemma foreignTotal_iff (orderTotal : ParsedMoney) :
    r'.ForeignTotal toUpperCase orderTotal ↔ r.ForeignTotal toUpperCase orderTotal := by
  unfold RefundSnapshot.ForeignTotal
  rw [h.total_eq]

lemma refunded_eq : refunded toUpperCase r'.transactions = refunded toUpperCase r.transactions :=
  refunded_congr h.transactions

lemma accounted_iff (orderTotal : ParsedMoney) :
    r'.Accounted toUpperCase orderTotal ↔ r.Accounted toUpperCase orderTotal := by
  unfold RefundSnapshot.Accounted
  rw [h.total_eq, h.refunded_eq]

lemma hasZeroVoid_iff : r'.HasZeroVoid toUpperCase ↔ r.HasZeroVoid toUpperCase := by
  unfold RefundSnapshot.HasZeroVoid
  simp only [mem_entries_congr h.transactions]

lemma unsupported_iff : r'.Unsupported toUpperCase ↔ r.Unsupported toUpperCase := by
  unfold RefundSnapshot.Unsupported
  rw [h.refunded_eq, h.hasZeroVoid_iff]

lemma itemVerdict_eq (orderTotal : ParsedMoney) :
    r'.itemVerdict toUpperCase orderTotal = r.itemVerdict toUpperCase orderTotal := by
  unfold RefundSnapshot.itemVerdict
  rw [h.refunded_eq, h.sourceShopifyRefundId]
  by_cases hpos : 0 < refunded toUpperCase r.transactions
  · rw [if_pos hpos, if_pos hpos]
  rw [if_neg hpos, if_neg hpos]
  by_cases hzero : r.HasZeroVoid toUpperCase
  · rw [if_pos hzero, if_pos (h.hasZeroVoid_iff.mpr hzero)]
  · rw [if_neg hzero, if_neg (mt h.hasZeroVoid_iff.mp hzero)]

end SameRefund

namespace SameRefunds

variable {c c' : RefundCollection} (h : SameRefunds c c')

include h

/-- What is read off each refund is the same up to its order. -/
lemma perm_filterMap {β : Type*} {f : RefundSnapshot → Option β}
    (hf : ∀ r r', SameRefund r r' → f r' = f r) :
    (c'.refunds.filterMap f).Perm (c.refunds.filterMap f) := by
  obtain ⟨l, hperm, hsame⟩ := h.refunds
  have heq : c'.refunds.filterMap f = l.filterMap f := by
    generalize c'.refunds = m at hsame ⊢
    clear hperm
    induction hsame with
    | nil => rfl
    | cons hr _ ih => rw [List.filterMap_cons, List.filterMap_cons, hf _ _ hr, ih]
  rw [heq]
  exact (hperm.filterMap f).symm

lemma exists_iff {P : RefundSnapshot → Prop} (hP : ∀ r r', SameRefund r r' → (P r' ↔ P r)) :
    (∃ r ∈ c'.refunds, P r) ↔ ∃ r ∈ c.refunds, P r := by
  classical
  have hperm := h.perm_filterMap (f := fun r => if P r then some () else none) fun r r' hr =>
    if_congr (hP r r' hr) rfl rfl
  have hmem : ∀ l : List RefundSnapshot,
      () ∈ l.filterMap (fun r => if P r then some () else none) ↔ ∃ r ∈ l, P r := by
    intro l
    simp
  rw [← hmem, ← hmem]
  exact hperm.mem_iff

lemma mem_allTransactions (t : RefundTransaction) :
    t ∈ c'.allTransactions ↔ t ∈ c.allTransactions := by
  unfold RefundCollection.allTransactions
  rw [List.mem_flatMap, List.mem_flatMap]
  exact h.exists_iff fun r r' hr => hr.transactions t

lemma mem_allEntries (p : String × UniqueTransaction) :
    p ∈ c'.allEntries toUpperCase ↔ p ∈ c.allEntries toUpperCase :=
  mem_entries_congr h.mem_allTransactions p

lemma orderTotal_eq : c'.orderTotal toUpperCase = c.orderTotal toUpperCase := by
  unfold RefundCollection.orderTotal
  rw [h.orderTotalRefundedAmount, h.orderTotalRefundedCurrencyCode]

lemma perm_refundTotals : (c'.refundTotals toUpperCase).Perm (c.refundTotals toUpperCase) :=
  h.perm_filterMap fun r r' hr => by rw [hr.total_eq]

lemma refunded_eq : refunded toUpperCase c'.allTransactions =
    refunded toUpperCase c.allTransactions := refunded_congr h.mem_allTransactions

lemma unambiguous (hbars : c.Unambiguous toUpperCase) : c'.Unambiguous toUpperCase :=
  fun p hp => hbars p ((h.mem_allEntries p).mp hp)

lemma fits (hfits : c.Fits toUpperCase) : c'.Fits toUpperCase := by
  refine ⟨hfits.1.subperm ?_, hfits.2.subperm h.perm_refundTotals.subperm⟩
  exact supports_map_subperm fun t ht => (h.mem_allTransactions t).mp ht

lemma conflicting_iff : c'.Conflicting toUpperCase ↔ c.Conflicting toUpperCase := by
  unfold RefundCollection.Conflicting
  simp only [h.mem_allEntries]

lemma malformed_iff : c'.Malformed toUpperCase ↔ c.Malformed toUpperCase := by
  unfold RefundCollection.Malformed
  simp only [h.mem_allTransactions]

lemma hasTransaction_iff (P : UniqueTransaction → Prop) :
    c'.HasTransaction toUpperCase P ↔ c.HasTransaction toUpperCase P := by
  unfold RefundCollection.HasTransaction
  simp only [h.mem_allEntries]

lemma allTransactions_eq_nil_iff : c'.allTransactions = [] ↔ c.allTransactions = [] := by
  rw [List.eq_nil_iff_forall_not_mem, List.eq_nil_iff_forall_not_mem]
  simp only [h.mem_allTransactions]

lemma mismatch_iff (orderTotal : ParsedMoney) :
    c'.Mismatch toUpperCase orderTotal ↔ c.Mismatch toUpperCase orderTotal := by
  unfold RefundCollection.Mismatch
  rw [h.perm_refundTotals.sum_eq, h.refunded_eq,
    h.exists_iff fun r r' hr => not_congr (hr.accounted_iff orderTotal)]

lemma accountRefunds_eq (orderTotal : ParsedMoney) :
    c'.accountRefunds toUpperCase orderTotal = c.accountRefunds toUpperCase orderTotal := by
  classical
  unfold RefundCollection.accountRefunds
  refine if_congr (h.exists_iff fun r r' hr => hr.foreignTotal_iff orderTotal) rfl ?_
  refine if_congr (h.mismatch_iff orderTotal) rfl ?_
  exact if_congr (h.exists_iff fun r r' hr => hr.unsupported_iff) rfl rfl

lemma accountTransactions_eq (orderTotal : ParsedMoney) :
    c'.accountTransactions toUpperCase orderTotal =
      c.accountTransactions toUpperCase orderTotal := by
  classical
  unfold RefundCollection.accountTransactions
  refine if_congr h.conflicting_iff rfl ?_
  refine if_congr (or_congr h.malformed_iff (h.hasTransaction_iff _)) rfl ?_
  refine if_congr (h.hasTransaction_iff _) rfl ?_
  refine if_congr (h.hasTransaction_iff _) rfl ?_
  exact if_congr h.allTransactions_eq_nil_iff rfl (h.accountRefunds_eq orderTotal)

/-- The account of the same refunds is the same. -/
lemma account_eq : c'.account toUpperCase = c.account toUpperCase := by
  classical
  unfold RefundCollection.account
  refine if_congr (by rw [h.refundsListComplete]) rfl ?_
  refine if_congr (h.exists_iff fun r r' hr => ?_) rfl ?_
  · rw [hr.transactionPaginationComplete]
  refine if_congr (h.exists_iff fun r r' hr => ?_) rfl ?_
  · rw [hr.lineItemPaginationComplete]
  rw [h.orderTotal_eq]
  cases c.orderTotal toUpperCase with
  | none => rfl
  | some orderTotal => exact h.accountTransactions_eq orderTotal

lemma reached_iff (orderTotal : ParsedMoney) :
    c'.Reached toUpperCase orderTotal ↔ c.Reached toUpperCase orderTotal := by
  have hflag : ∀ f : RefundSnapshot → Bool, (∀ r r', SameRefund r r' → f r' = f r) →
      ((∀ r ∈ c'.refunds, f r = true) ↔ ∀ r ∈ c.refunds, f r = true) := by
    intro f hf
    have hiff := not_congr (h.exists_iff (P := fun r => ¬ f r = true) fun r r' hr => by
      rw [hf r r' hr])
    simpa only [not_exists, not_and, not_not] using hiff
  have horderly : c'.Orderly toUpperCase orderTotal ↔ c.Orderly toUpperCase orderTotal := by
    constructor
    · rintro ⟨h1, h2, h3, h4, h5, h6⟩
      exact ⟨mt h.conflicting_iff.mpr h1, mt h.malformed_iff.mpr h2,
        mt (h.hasTransaction_iff _).mpr h3, mt (h.hasTransaction_iff _).mpr h4,
        mt (h.hasTransaction_iff _).mpr h5, mt h.allTransactions_eq_nil_iff.mpr h6⟩
    · rintro ⟨h1, h2, h3, h4, h5, h6⟩
      exact ⟨mt h.conflicting_iff.mp h1, mt h.malformed_iff.mp h2,
        mt (h.hasTransaction_iff _).mp h3, mt (h.hasTransaction_iff _).mp h4,
        mt (h.hasTransaction_iff _).mp h5, mt h.allTransactions_eq_nil_iff.mp h6⟩
  have htransactions := hflag (·.transactionPaginationComplete) fun r r' hr =>
    hr.transactionPaginationComplete
  have hlines := hflag (·.lineItemPaginationComplete) fun r r' hr => hr.lineItemPaginationComplete
  constructor
  · rintro ⟨h1, h2, h3, h4, h5⟩
    exact ⟨h.refundsListComplete ▸ h1, htransactions.mp h2, hlines.mp h3, h.orderTotal_eq ▸ h4,
      horderly.mp h5⟩
  · rintro ⟨h1, h2, h3, h4, h5⟩
    exact ⟨h.refundsListComplete ▸ h1, htransactions.mpr h2, hlines.mpr h3,
      h.orderTotal_eq.trans h4, horderly.mpr h5⟩

lemma perm_itemAccounts (orderTotal : ParsedMoney) :
    (c'.itemAccounts toUpperCase orderTotal).Perm (c.itemAccounts toUpperCase orderTotal) := by
  classical
  refine h.perm_filterMap fun r r' hr => ?_
  exact if_congr (hr.accounted_iff orderTotal) (by rw [hr.itemVerdict_eq]) rfl

end SameRefunds

/-! ## The account is exact -/

/-- Answers that agree on the classification, the amounts and the reasons. -/
structure SameAnswer (e e' : RefundMonetaryEvidence) : Prop where
  verdict : e'.verdict = e.verdict
  refunds : (e'.refunds.map (·.verdict)).Perm (e.refunds.map (·.verdict))

section Exact

variable {c : RefundCollection}

/-- Without the decision on the sums there is no result for any refund. -/
lemma classify_not_reached (hbars : c.Unambiguous toUpperCase)
    (hnot : ∀ orderTotal, ¬ c.Reached toUpperCase orderTotal) :
    (classifyCanonicalRefundMonetaryEvidence toUpperCase c).refunds = [] ∧
      (classifyCanonicalRefundMonetaryEvidence toUpperCase c).common.refundAggregateAmount =
        none := by
  rcases classify_reached hbars with ⟨orderTotal, -, -, hreached, -⟩ | ⟨-, hnone⟩
  · exact absurd hreached (hnot orderTotal)
  · exact hnone

/-- The sum of the totals, when there is one for every refund. -/
lemma refundAggregate_eq_sum (hfits : c.Fits toUpperCase)
    (htotals : ∀ r ∈ c.refunds, (r.total toUpperCase).isSome) :
    refundAggregate toUpperCase c.refunds = some (c.refundTotals toUpperCase).sum :=
  (refundAggregate_eq htotals).trans (congrArg some hfits.2.roundedSum_eq)

/-- The same refunds have the same answer. -/
lemma SameRefunds.sameAnswer {c' : RefundCollection} (h : SameRefunds c c')
    (hbars : c.Unambiguous toUpperCase) (hfits : c.Fits toUpperCase) :
    SameAnswer (classifyCanonicalRefundMonetaryEvidence toUpperCase c)
        (classifyCanonicalRefundMonetaryEvidence toUpperCase c') ∧
      ((∀ r ∈ c.refunds, (r.total toUpperCase).isSome) →
        (classifyCanonicalRefundMonetaryEvidence toUpperCase c').common.refundAggregateAmount =
          (classifyCanonicalRefundMonetaryEvidence toUpperCase c).common.refundAggregateAmount) := by
  have hbars' := h.unambiguous hbars
  have hfits' := h.fits hfits
  have hverdict : (classifyCanonicalRefundMonetaryEvidence toUpperCase c').verdict =
      (classifyCanonicalRefundMonetaryEvidence toUpperCase c).verdict := by
    rw [classify_eq_account hbars' hfits', classify_eq_account hbars hfits, h.account_eq]
  by_cases hreached : ∃ orderTotal, c.Reached toUpperCase orderTotal
  · obtain ⟨orderTotal, hreached⟩ := hreached
    have hreached' := (h.reached_iff orderTotal).mpr hreached
    obtain ⟨hitems, haggregate⟩ := classify_items hbars hfits hreached
    obtain ⟨hitems', haggregate'⟩ := classify_items hbars' hfits' hreached'
    refine ⟨⟨hverdict, ?_⟩, fun htotals => ?_⟩
    · rw [hitems, hitems']
      exact h.perm_itemAccounts orderTotal
    · have htotals' : ∀ r ∈ c'.refunds, (r.total toUpperCase).isSome := by
        have hiff := h.exists_iff (P := fun r => ¬ (r.total toUpperCase).isSome) fun r r' hr => by
          rw [hr.total_eq]
        intro r hr
        by_contra hnone
        obtain ⟨s, hs, hsnone⟩ := hiff.mp ⟨r, hr, hnone⟩
        exact hsnone (htotals s hs)
      rw [haggregate, haggregate', refundAggregate_eq_sum hfits htotals,
        refundAggregate_eq_sum hfits' htotals', h.perm_refundTotals.sum_eq]
  · have hnot := not_exists.mp hreached
    obtain ⟨hitems, haggregate⟩ := classify_not_reached hbars hnot
    obtain ⟨hitems', haggregate'⟩ := classify_not_reached hbars' fun orderTotal hr =>
      hnot orderTotal ((h.reached_iff orderTotal).mp hr)
    refine ⟨⟨hverdict, ?_⟩, fun _ => haggregate'.trans haggregate.symm⟩
    rw [hitems, hitems']

/-- A full refund is one of all the money that was received. -/
lemma classifyCustomerRefundCompletion_full {e : RefundMonetaryEvidence}
    (h : (classifyCustomerRefundCompletion toUpperCase c e).status = .verifiedFull) :
    e.classification = .monetaryRefund ∧ ∃ received refunded,
      parseMoney toUpperCase c.orderTotalReceivedAmount c.orderTotalReceivedCurrencyCode =
        some received ∧ c.orderTotal toUpperCase = some refunded ∧
      refunded.decimal = received.decimal ∧ e.currency = some received.currency := by
  simp only [classifyCustomerRefundCompletion] at h
  split at h
  · cases h
  split at h
  · cases h
  split at h
  · cases h
  rename_i hclass
  split at h
  · rename_i received refunded net outstanding hreceived hrefunded _ _
    split at h
    · cases h
    rename_i hcurrency
    simp only [not_or, ne_eq, not_not] at hcurrency
    refine ⟨not_not.mp hclass, received, refunded, hreceived, hrefunded, ?_, hcurrency.2.2.2⟩
    unfold completionOfMoney at h
    split at h
    · cases h
    split at h
    · rename_i hfull
      exact hfull.2.2.1
    split at h
    · cases h
    · cases h
  · cases h

/-- **Monetary evidence is an exact account.**  The money of a verified refund is accounted for,
the answer does not depend on the order of refunds and transactions or on repetitions within a
refund, and a full refund returns all that was received. -/
theorem monetaryEvidence_accounts (hbars : c.Unambiguous toUpperCase)
    (hfits : c.Fits toUpperCase) :
    ((classifyCanonicalRefundMonetaryEvidence toUpperCase c).classification = .monetaryRefund →
      MonetaryAccount toUpperCase c (classifyCanonicalRefundMonetaryEvidence toUpperCase c)) ∧
    (∀ c', SameRefunds c c' →
      SameAnswer (classifyCanonicalRefundMonetaryEvidence toUpperCase c)
        (classifyCanonicalRefundMonetaryEvidence toUpperCase c') ∧
      ((∀ r ∈ c.refunds, (r.total toUpperCase).isSome) →
        (classifyCanonicalRefundMonetaryEvidence toUpperCase c').common.refundAggregateAmount =
          (classifyCanonicalRefundMonetaryEvidence toUpperCase c).common.refundAggregateAmount)) ∧
    ((classifyCustomerRefundCompletion toUpperCase c
        (classifyCanonicalRefundMonetaryEvidence toUpperCase c)).status = .verifiedFull →
      MonetaryAccount toUpperCase c (classifyCanonicalRefundMonetaryEvidence toUpperCase c) ∧
      ∃ received, parseMoney toUpperCase c.orderTotalReceivedAmount
          c.orderTotalReceivedCurrencyCode = some received ∧
        received.decimal =
          (classifyCanonicalRefundMonetaryEvidence toUpperCase c).monetaryRefundAmount) := by
  have haccount : (classifyCanonicalRefundMonetaryEvidence toUpperCase c).classification =
      .monetaryRefund →
      MonetaryAccount toUpperCase c (classifyCanonicalRefundMonetaryEvidence toUpperCase c) := by
    intro hclass
    have hverdict := congrArg Verdict.classification (classify_eq_account hbars hfits)
    obtain ⟨orderTotal, hverified, -⟩ :=
      RefundCollection.account_classification (hverdict.symm.trans hclass)
    exact hverified.monetaryAccount hbars hfits
  refine ⟨haccount, fun c' h => h.sameAnswer hbars hfits, fun hfull => ?_⟩
  obtain ⟨hclass, received, refunded, hreceived, hrefunded, hequal, -⟩ :=
    classifyCustomerRefundCompletion_full hfull
  have hmoney := haccount hclass
  obtain ⟨total, htotal, hamount, -⟩ := hmoney.total
  obtain rfl := Option.some.inj (hrefunded.symm.trans htotal)
  exact ⟨hmoney, received, hreceived, hequal.symm.trans hamount⟩

end Exact

/-! ## Samples -/

section Samples

/-- A successful refund in US dollars. -/
def successfulRefund (transactionGid amount : String) : RefundTransaction :=
  ⟨transactionGid, some "REFUND", some "SUCCESS", some amount, some "USD", none⟩

/-- A complete refund in US dollars without lines. -/
def completeRefund (id : String) (total : Option String) (transactions : List RefundTransaction) :
    RefundSnapshot :=
  ⟨id, id, total, some "USD", true, true, transactions, []⟩

/-- The refunds of an order, of which all money that was received is refunded. -/
def refundedOrder (total currency : String) (refunds : List RefundSnapshot) : RefundCollection where
  orderGid := "gid://shopify/Order/1"
  sourceShopifyOrderId := "1"
  displayFinancialStatus := some "REFUNDED"
  orderTotalReceivedAmount := some total
  orderTotalReceivedCurrencyCode := some currency
  orderTotalRefundedAmount := some total
  orderTotalRefundedCurrencyCode := some currency
  orderNetPaymentAmount := some "0"
  orderNetPaymentCurrencyCode := some currency
  orderTotalOutstandingAmount := some "0"
  orderTotalOutstandingCurrencyCode := some currency
  orderTotalRefundedShippingAmount := none
  refundsListComplete := true
  refunds := refunds

/-- Two refunds, the first with a transaction that is listed twice. -/
def twoRefunds : RefundCollection :=
  refundedOrder "15.00" "USD"
    [completeRefund "1" (some "10.50") [successfulRefund "t1" "10.50", successfulRefund "t1" "10.50"],
      completeRefund "2" (some "4.5") [successfulRefund "t2" "4.50"]]

/-- The same refunds, the other way round. -/
def twoRefundsSwapped : RefundCollection :=
  refundedOrder "15.00" "USD"
    [completeRefund "2" (some "4.5") [successfulRefund "t2" "4.50"],
      completeRefund "1" (some "10.50") [successfulRefund "t1" "10.50"]]

lemma twoRefunds_same : SameRefunds twoRefunds twoRefundsSwapped := by
  refine ⟨rfl, rfl, rfl, _, List.Perm.swap _ _ _, ?_⟩
  refine List.Forall₂.cons ⟨rfl, rfl, rfl, rfl, rfl, fun t => Iff.rfl⟩ ?_
  refine List.Forall₂.cons ⟨rfl, rfl, rfl, rfl, rfl, fun t => ?_⟩ List.Forall₂.nil
  simp [completeRefund]

lemma twoRefunds_unambiguous : twoRefunds.Unambiguous id := by
  intro p hp
  have hwords : ∀ q ∈ twoRefunds.allEntries id, '|' ∉ q.2.kind.toList ∧
      '|' ∉ q.2.status.toList ∧ '|' ∉ q.2.money.currency.toList := by
    decide +kernel
  obtain ⟨hkind, hstatus, hcurrency⟩ := hwords p hp
  exact ⟨hkind, hstatus, hcurrency⟩

lemma twoRefunds_fits : twoRefunds.Fits id := by
  have hsupports : (supports id twoRefunds.allTransactions).map Prod.snd = [21 / 2, 9 / 2] := by
    decide +kernel
  have htotals : twoRefunds.refundTotals id = [21 / 2, 9 / 2] := by
    decide +kernel
  have hexact : ExactlySummable PRECISION [21 / 2, 9 / 2] := by
    refine ⟨1, ?_, ?_⟩
    · intro x hx
      rcases List.mem_pair.mp hx with rfl | rfl
      · exact ⟨105, by norm_num⟩
      · exact ⟨45, by norm_num⟩
    · norm_num [PRECISION]
  exact ⟨hsupports ▸ hexact, htotals ▸ hexact⟩

theorem monetaryEvidence_accounts_sample :
    MonetaryAccount id twoRefunds (classifyCanonicalRefundMonetaryEvidence id twoRefunds) ∧
      SameAnswer (classifyCanonicalRefundMonetaryEvidence id twoRefunds)
        (classifyCanonicalRefundMonetaryEvidence id twoRefundsSwapped) ∧
      (classifyCustomerRefundCompletion id twoRefunds
        (classifyCanonicalRefundMonetaryEvidence id twoRefunds)).status = .verifiedFull := by
  have haccounts := monetaryEvidence_accounts twoRefunds_unambiguous twoRefunds_fits
  have hfull : (classifyCustomerRefundCompletion id twoRefunds
      (classifyCanonicalRefundMonetaryEvidence id twoRefunds)).status = .verifiedFull := by
    decide +kernel
  exact ⟨(haccounts.2.2 hfull).1, (haccounts.2.1 _ twoRefunds_same).1, hfull⟩

/-- Two transactions that add up to one digit more than is kept. -/
def longRefund : RefundCollection :=
  refundedOrder "100000000000000000000" "USD"
    [completeRefund "1" (some "100000000000000000000")
      [successfulRefund "t1" "100000000000000000000", successfulRefund "t2" "1"]]

/-- Two transactions with one fingerprint, in words with the separator. -/
def joinedWords : List RefundTransaction :=
  [⟨"t1", some "REFUND", some "SUCCESS", some "5", some "7|USD", none⟩,
    ⟨"t1", some "REFUND|SUCCESS", some "5", some "7", some "USD", none⟩]

def joinedRefund (transactions : List RefundTransaction) : RefundCollection :=
  refundedOrder "5" "7|USD" [⟨"1", "1", some "5", some "7|USD", true, true, transactions, []⟩]

/-- A refund whose total is missing, and one whose total is 5. -/
def unknownTotal : List RefundSnapshot :=
  [completeRefund "1" none [successfulRefund "t1" "5"],
    completeRefund "2" (some "5") [successfulRefund "t2" "5"]]

/-- Two refunds of 5, and what else is listed with the second. -/
def fiveAndFive (transactions : List RefundTransaction) : RefundCollection :=
  refundedOrder "10" "USD"
    [completeRefund "1" (some "5") [successfulRefund "t1" "5"],
      completeRefund "2" (some "5") (successfulRefund "t2" "5" :: transactions)]

/-- Sums are rounded, words with the separator are confused, a total that is missing starts the sum
of the totals over, and a transaction that is repeated with another refund counts there too. -/
theorem monetaryEvidence_not_exact :
    ((classifyCanonicalRefundMonetaryEvidence id longRefund).classification = .monetaryRefund ∧
      refunded id longRefund.allTransactions ≠
        (classifyCanonicalRefundMonetaryEvidence id longRefund).monetaryRefundAmount) ∧
    (SameRefunds (joinedRefund joinedWords) (joinedRefund joinedWords.reverse) ∧
      (classifyCanonicalRefundMonetaryEvidence id (joinedRefund joinedWords)).classification ≠
        (classifyCanonicalRefundMonetaryEvidence id
          (joinedRefund joinedWords.reverse)).classification) ∧
    (SameRefunds (refundedOrder "10" "USD" unknownTotal)
        (refundedOrder "10" "USD" unknownTotal.reverse) ∧
      (classifyCanonicalRefundMonetaryEvidence id
          (refundedOrder "10" "USD" unknownTotal)).common.refundAggregateAmount ≠
        (classifyCanonicalRefundMonetaryEvidence id
          (refundedOrder "10" "USD" unknownTotal.reverse)).common.refundAggregateAmount) ∧
    (classifyCanonicalRefundMonetaryEvidence id (fiveAndFive [])).classification ≠
      (classifyCanonicalRefundMonetaryEvidence id
        (fiveAndFive [successfulRefund "t1" "5"])).classification := by
  refine ⟨⟨by decide +kernel, by decide +kernel⟩, ⟨?_, by decide +kernel⟩, ⟨?_, by decide +kernel⟩,
    by decide +kernel⟩
  · refine ⟨rfl, rfl, rfl, _, List.Perm.refl _, ?_⟩
    refine List.Forall₂.cons ⟨rfl, rfl, rfl, rfl, rfl, fun t => ?_⟩ List.Forall₂.nil
    exact List.mem_reverse
  · refine ⟨rfl, rfl, rfl, unknownTotal.reverse, (List.reverse_perm _).symm, ?_⟩
    refine List.forall₂_same.mpr fun r _ => ⟨rfl, rfl, rfl, rfl, rfl, fun t => Iff.rfl⟩

end Samples

end VendorDashboard.Shopify

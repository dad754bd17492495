import VendorDashboard.Finance.Constraints
import VendorDashboard.Finance.PayoutOffsetAuthority
import VendorDashboard.Finance.VendorBalance
import VendorDashboard.Properties.OffsetAllocation

/-!
# The two views of vendor debt

`getVendorBalanceSummary` folds the signed balance events of a vendor; the payout offset report
attributes every event and claim to one source and keeps a remaining amount for each.  When the
report is verified the two agree (`outstandingDebtMinor_eq_sum_remaining`).

The argument groups the offset events by the debt that their claim names.  Every offset of a
verified report has such a claim (`attributedDebtOffsets_eq`), the claim's foreign key puts its
debt among the vendor's debts (`debtOriginOf_mem`), and a verified debt has finalized exactly
what was attributed to it (`verified_debt`), so the groups add up to the whole
(`sum_attributedMinor`).
-/

namespace VendorDashboard.Finance

open Table Transaction

/-- The debts of a report. -/
def PayoutOffsetAuthorityDiagnostics.vendorDebtSources (d : PayoutOffsetAuthorityDiagnostics) :
    List PayoutOffsetSourceDiagnostic :=
  d.sources.filter fun s => decide (s.sourceType = .vendorDebt)

/-- No finalized claim belongs to a cancelled batch. -/
def FinanceDb.FinalizedClaimsUncancelled (db : FinanceDb) : Prop :=
  ∀ c ∈ db.payoutOffsetClaim, c.status = .finalized →
    ∀ b ∈ db.findBatch c.payoutBatchId, b.status ≠ .cancelled

instance (db : FinanceDb) : Decidable db.FinalizedClaimsUncancelled :=
  inferInstanceAs (Decidable (∀ c ∈ db.payoutOffsetClaim, c.status = .finalized →
    ∀ b ∈ db.findBatch c.payoutBatchId, b.status ≠ .cancelled))

namespace FinanceDb

variable {db : FinanceDb} {vendorId : Id} {currency : String}

/-! ## Reading an attribution -/

lemma mem_balanceEvents {type : VendorBalanceEventType} {e : VendorBalanceEvent} :
    e ∈ db.balanceEvents vendorId currency type ↔
      e ∈ db.vendorBalanceEvent ∧ e.vendorId = vendorId ∧ e.currency = currency ∧
        e.type = type := by
  simp [balanceEvents, and_assoc]

lemma mem_authorityClaims {c : PayoutOffsetClaim} :
    c ∈ db.authorityClaims vendorId currency ↔
      c ∈ db.payoutOffsetClaim ∧ c.vendorId = vendorId ∧ c.currency = currency := by
  simp [authorityClaims]

/-- What an attribution certifies about the offset and its claim. -/
lemma attributedClaim_spec {offset : VendorBalanceEvent} {c : PayoutOffsetClaim}
    (h : db.attributedClaim vendorId currency offset = some c) :
    c ∈ db.authorityClaims vendorId currency ∧ offset.source = .r1PayoutOffsetClaim c.id ∧
      c.sourceType = .vendorDebt ∧ c.status = .finalized ∧
        offset.payoutBatchId = some c.payoutBatchId := by
  unfold attributedClaim at h
  split at h
  · rename_i claimId hsource
    split at h
    · cases h
    · obtain ⟨hfind, hc⟩ := Option.filter_eq_some_iff.mp h
      have hid : c.id = claimId := by simpa using List.find?_some hfind
      simp only [Bool.and_eq_true, decide_eq_true_eq] at hc
      exact ⟨List.mem_of_find?_eq_some hfind, by rw [hsource, hid], hc.1.1.1, hc.1.1.2,
        hc.1.2.symm⟩
  · cases h

/-- The debt that an offset repays, read through its claim. -/
def debtOriginOf (db : FinanceDb) (vendorId : Id) (currency : String)
    (offset : VendorBalanceEvent) : Option Id :=
  (db.attributedClaim vendorId currency offset).bind (·.vendorDebtOriginEventId)

/-- The debts of a vendor, by identifier. -/
def debtIds (db : FinanceDb) (vendorId : Id) (currency : String) : List (Option Id) :=
  (db.balanceEvents vendorId currency .vendorDebtCreated).map fun e => some e.id

lemma nodup_debtIds (hc : db.Constraints) : (db.debtIds vendorId currency).Nodup := by
  have h : ((db.balanceEvents vendorId currency .vendorDebtCreated).map
      VendorBalanceEvent.id).Nodup := by
    unfold balanceEvents
    exact hc.event_key.sublist (List.Sublist.map _ List.filter_sublist)
  have := h.map (f := some) (Option.some_injective _)
  rwa [List.map_map] at this

/-- The foreign key of a claim puts the debt it repays among the vendor's debts. -/
lemma debtOriginOf_mem (hc : db.Constraints) {offset : VendorBalanceEvent}
    {c : PayoutOffsetClaim} (h : db.attributedClaim vendorId currency offset = some c) :
    db.debtOriginOf vendorId currency offset ∈ db.debtIds vendorId currency := by
  obtain ⟨hmem, -, htype, -, -⟩ := attributedClaim_spec h
  obtain ⟨hmem, hv, hcur⟩ := mem_authorityClaims.mp hmem
  obtain ⟨-, e, he, horigin, hev, hec, het⟩ := (hc.claim_references c hmem).vendorDebt htype
  have : db.debtOriginOf vendorId currency offset = some e.id := by
    simp [debtOriginOf, h, horigin]
  rw [this]
  exact List.mem_map.mpr ⟨e, mem_balanceEvents.mpr ⟨he, hev.trans hv, hec.trans hcur, het⟩, rfl⟩

/-- The report's attribution to a debt groups the offsets by the debt they repay. -/
lemma attributedMinor_eq (hc : db.Constraints) (eventId : Id) :
    db.attributedMinor vendorId currency eventId =
      total (fun o => decide (db.debtOriginOf vendorId currency o = some eventId))
        (·.amountMinor) (db.attributedDebtOffsets vendorId currency) := by
  unfold attributedMinor
  refine total_congr fun o ho => ?_
  obtain ⟨c, hclaim⟩ := Option.isSome_iff_exists.mp (List.mem_filter.mp ho).2
  obtain ⟨hmem, hsource, -⟩ := attributedClaim_spec hclaim
  have hiff : ((db.authorityClaims vendorId currency).any fun c =>
      decide (o.source = .r1PayoutOffsetClaim c.id) &&
        decide (c.vendorDebtOriginEventId = some eventId)) =
      decide (db.debtOriginOf vendorId currency o = some eventId) := by
    rw [Bool.eq_iff_iff, List.any_eq_true]
    simp only [debtOriginOf, hclaim, Option.bind_some, Bool.and_eq_true, decide_eq_true_eq]
    constructor
    · rintro ⟨c', hc', hs, horigin⟩
      have hid : c.id = c'.id := by
        rw [hsource] at hs
        exact BalanceEventSource.r1PayoutOffsetClaim.inj hs
      rwa [hc.claim_key.eq (mem_authorityClaims.mp hmem).1 (mem_authorityClaims.mp hc').1 hid]
    · intro horigin
      exact ⟨c, hmem, hsource, horigin⟩
  rw [hiff]

/-! ## A verified report -/

lemma attributedDebtOffsets_eq (h : db.unattributedDebtOffsets vendorId currency = []) :
    db.attributedDebtOffsets vendorId currency =
      db.balanceEvents vendorId currency .vendorDebtOffset := by
  unfold attributedDebtOffsets
  unfold unattributedDebtOffsets at h
  refine List.filter_eq_self.mpr fun o ho => ?_
  have := List.filter_eq_nil_iff.mp h o ho
  simpa [Option.isNone_iff_eq_none, Option.isSome_iff_ne_none] using this

/-- The attributions to the vendor's debts add up to all its offsets. -/
lemma sum_attributedMinor (hc : db.Constraints)
    (h : db.unattributedDebtOffsets vendorId currency = []) :
    ((db.balanceEvents vendorId currency .vendorDebtCreated).map fun e =>
        db.attributedMinor vendorId currency e.id).sum =
      total (fun _ => true) (·.amountMinor)
        (db.balanceEvents vendorId currency .vendorDebtOffset) := by
  have hnodup : (db.debtIds vendorId currency).Nodup := nodup_debtIds hc
  have hgroups := sum_total_fiber hnodup (fun _ => true)
    (db.debtOriginOf vendorId currency) (·.amountMinor)
    (db.attributedDebtOffsets vendorId currency)
  calc ((db.balanceEvents vendorId currency .vendorDebtCreated).map fun e =>
        db.attributedMinor vendorId currency e.id).sum
      = ((db.debtIds vendorId currency).map fun k =>
          total (fun o => true && decide (db.debtOriginOf vendorId currency o = k))
            (·.amountMinor) (db.attributedDebtOffsets vendorId currency)).sum := by
        unfold debtIds
        rw [List.map_map]
        refine congrArg List.sum (List.map_congr_left fun e _ => ?_)
        simp [attributedMinor_eq hc]
    _ = total (fun _ => true) (·.amountMinor)
          (db.attributedDebtOffsets vendorId currency) := by
        rw [hgroups]
        refine total_congr fun o ho => ?_
        obtain ⟨c, hclaim⟩ := Option.isSome_iff_exists.mp (List.mem_filter.mp ho).2
        simp [debtOriginOf_mem hc hclaim]
    _ = _ := by rw [attributedDebtOffsets_eq h]

/-- A debt without reasons has finalized exactly its attributed offsets, and its claims do not
exceed it. -/
lemma verified_debt {e : VendorBalanceEvent} (h : db.debtReasons vendorId currency e = []) :
    db.claimedFor vendorId currency .finalized .vendorDebt e.id =
        db.attributedMinor vendorId currency e.id ∧
      db.claimedFor vendorId currency .reserved .vendorDebt e.id +
        db.claimedFor vendorId currency .finalized .vendorDebt e.id ≤ -e.amountMinor := by
  have hr := collectReasons_eq_nil.mp (List.append_eq_nil_iff.mp h).2
  simp only [List.mem_cons, List.not_mem_nil, or_false, forall_eq_or_imp, forall_eq,
    decide_eq_false_iff_not] at hr
  obtain ⟨-, -, -, hfinal, hbound⟩ := hr
  exact ⟨not_not.mp hfinal, not_lt.mp hbound⟩

lemma claimedFor_nonneg (hc : db.Constraints) (status : PayoutOffsetClaimStatus)
    (type : PayoutOffsetSourceType) (id : Id) :
    0 ≤ db.claimedFor vendorId currency status type id :=
  total_nonneg fun c hmem _ =>
    (hc.claim_references c (mem_authorityClaims.mp hmem).1).positive_amount.le

/-- When no event is ambiguous and every offset counts, the balance is debts plus offsets. -/
lemma balanceMinor_eq (hamb : db.ambiguousDebtChanges vendorId currency = [])
    (hcount : ∀ o ∈ db.balanceEvents vendorId currency .vendorDebtOffset,
      db.countsTowardsBalance o = true) :
    db.balanceMinor vendorId currency =
      total (fun _ => true) (·.amountMinor)
          (db.balanceEvents vendorId currency .vendorDebtCreated) +
        total (fun _ => true) (·.amountMinor)
          (db.balanceEvents vendorId currency .vendorDebtOffset) := by
  have hfilter : ∀ type, total (fun _ => true) (·.amountMinor)
      (db.balanceEvents vendorId currency type) =
      total (fun e => decide (e.vendorId = vendorId) && decide (e.currency = currency) &&
        decide (e.type = type)) (·.amountMinor) db.vendorBalanceEvent := by
    intro type
    unfold balanceEvents
    rw [total_filter]
    simp
  have hsum := total_and_add_total_and_not
    (fun e : VendorBalanceEvent => decide (e.vendorId = vendorId) &&
      decide (e.currency = currency) && db.countsTowardsBalance e)
    (fun e => decide (e.type = .vendorDebtCreated)) (·.amountMinor) db.vendorBalanceEvent
  unfold balanceMinor
  rw [← hsum, hfilter, hfilter]
  congr 1 <;> refine total_congr fun e he => ?_
  · by_cases ht : e.type = .vendorDebtCreated <;> simp [ht, countsTowardsBalance]
  · by_cases hv : e.vendorId = vendorId ∧ e.currency = currency
    · have hnot : e ∉ db.ambiguousDebtChanges vendorId currency := by simp [hamb]
      have hoff : e.type = .vendorDebtOffset → db.countsTowardsBalance e = true := fun ht =>
        hcount e (mem_balanceEvents.mpr ⟨he, hv.1, hv.2, ht⟩)
      simp only [ambiguousDebtChanges, List.mem_filter, he, hv, decide_true, Bool.and_self,
        true_and, Bool.true_and, decide_eq_true_eq, not_or] at hnot
      cases ht : e.type <;> simp_all
    · have : (decide (e.vendorId = vendorId) && decide (e.currency = currency)) = false := by
        simpa using hv
      simp [this]

/-- An offset of a verified report counts: its claim is finalized, so its batch is not
cancelled. -/
lemma countsTowardsBalance_of_attributed (hf : db.FinalizedClaimsUncancelled)
    (h : db.unattributedDebtOffsets vendorId currency = []) {o : VendorBalanceEvent}
    (ho : o ∈ db.balanceEvents vendorId currency .vendorDebtOffset) :
    db.countsTowardsBalance o = true := by
  rw [← attributedDebtOffsets_eq h] at ho
  obtain ⟨c, hclaim⟩ := Option.isSome_iff_exists.mp (List.mem_filter.mp ho).2
  obtain ⟨hmem, -, -, hfinal, hbatch⟩ := attributedClaim_spec hclaim
  have huncancelled := hf c (mem_authorityClaims.mp hmem).1 hfinal
  unfold countsTowardsBalance
  cases hb : db.findBatch c.payoutBatchId with
  | none => simp [hbatch, hb]
  | some b => simp [hbatch, hb, huncancelled b hb]

/-- The remaining amounts of a report's debts, source by source. -/
lemma vendorDebtSources_perm :
    ((db.reconcilePayoutOffsetAuthority vendorId currency).vendorDebtSources).Perm
      ((db.balanceEvents vendorId currency .vendorDebtCreated).map
        (db.debtSource vendorId currency)) := by
  unfold PayoutOffsetAuthorityDiagnostics.vendorDebtSources
  have hperm : (db.reconcilePayoutOffsetAuthority vendorId currency).sources.Perm
      ((db.authorityAdjustments vendorId currency).map (db.adjustmentSource vendorId currency) ++
        (db.balanceEvents vendorId currency .vendorDebtCreated).map
          (db.debtSource vendorId currency)) :=
    List.perm_insertionSort _ _
  refine (hperm.filter _).trans ?_
  have hadj : ((db.authorityAdjustments vendorId currency).map
      (db.adjustmentSource vendorId currency)).filter
      (fun s => decide (s.sourceType = .vendorDebt)) = [] := by
    simp [List.filter_eq_nil_iff, adjustmentSource]
  have hdebt : ((db.balanceEvents vendorId currency .vendorDebtCreated).map
      (db.debtSource vendorId currency)).filter
      (fun s => decide (s.sourceType = .vendorDebt)) =
      (db.balanceEvents vendorId currency .vendorDebtCreated).map
        (db.debtSource vendorId currency) := by
    simp [List.filter_eq_self, debtSource]
  rw [List.filter_append, hadj, hdebt, List.nil_append]

/-- What remains of debts without reasons, as debts and attributions. -/
lemma sum_remaining {l : List VendorBalanceEvent}
    (he : ∀ e ∈ l, db.debtReasons vendorId currency e = []) :
    (l.map fun e =>
        -e.amountMinor - db.claimedFor vendorId currency .finalized .vendorDebt e.id).sum =
      -total (fun _ => true) (·.amountMinor) l -
        (l.map fun e => db.attributedMinor vendorId currency e.id).sum := by
  induction l with
  | nil => simp
  | cons e l ih =>
      have hfinal := (verified_debt (he e List.mem_cons_self)).1
      have hrest := ih fun x hx => he x (List.mem_cons_of_mem _ hx)
      simp only [List.map_cons, List.sum_cons, total_cons, if_true]
      omega

/-- What debts without reasons have left is not negative. -/
lemma sum_remaining_nonneg (hc : db.Constraints)
    (he : ∀ e ∈ db.balanceEvents vendorId currency .vendorDebtCreated,
      db.debtReasons vendorId currency e = []) :
    0 ≤ ((db.balanceEvents vendorId currency .vendorDebtCreated).map fun e =>
      -e.amountMinor - db.claimedFor vendorId currency .finalized .vendorDebt e.id).sum := by
  refine List.sum_nonneg fun x hx => ?_
  obtain ⟨e, hmem, rfl⟩ := List.mem_map.mp hx
  have hbound := (verified_debt (he e hmem)).2
  have hreserved : 0 ≤ db.claimedFor vendorId currency .reserved .vendorDebt e.id :=
    claimedFor_nonneg hc _ _ _
  omega

/-- Debts without reasons remain exactly what the vendor owes. -/
lemma outstandingDebtMinor_eq (hc : db.Constraints) (hf : db.FinalizedClaimsUncancelled)
    (hu : db.unattributedDebtOffsets vendorId currency = [])
    (ha : db.ambiguousDebtChanges vendorId currency = [])
    (he : ∀ e ∈ db.balanceEvents vendorId currency .vendorDebtCreated,
      db.debtReasons vendorId currency e = []) :
    db.outstandingDebtMinor vendorId currency =
      ((db.balanceEvents vendorId currency .vendorDebtCreated).map fun e =>
        -e.amountMinor - db.claimedFor vendorId currency .finalized .vendorDebt e.id).sum := by
  have hbalance := balanceMinor_eq ha fun o ho => countsTowardsBalance_of_attributed hf hu ho
  have hsum := sum_attributedMinor hc hu
  have hremaining : ((db.balanceEvents vendorId currency .vendorDebtCreated).map fun e =>
      -e.amountMinor - db.claimedFor vendorId currency .finalized .vendorDebt e.id).sum =
      -db.balanceMinor vendorId currency := by
    rw [hbalance, ← hsum, sum_remaining he]
    omega
  have hnonneg := sum_remaining_nonneg hc he
  unfold outstandingDebtMinor
  rw [hremaining] at hnonneg ⊢
  simp only
  split
  · rw [abs_of_neg ‹_›]
  · omega

/-- **The two views of vendor debt agree.**  On a database content whose report is verified,
and with no finalized claim on a cancelled batch, every debt source has a remaining amount and
these add up to the outstanding debt of the balance summary. -/
theorem outstandingDebtMinor_eq_sum_remaining (hc : db.Constraints)
    (hf : db.FinalizedClaimsUncancelled) {inputCurrency : Option String}
    {summary : VendorBalanceSummary}
    (hsummary : db.getVendorBalanceSummary vendorId inputCurrency = .ok summary)
    (hverified : (db.reconcilePayoutOffsetAuthority vendorId summary.currency).status =
      .verified) :
    (∀ s ∈ (db.reconcilePayoutOffsetAuthority vendorId summary.currency).vendorDebtSources,
        s.remainingAmountMinor.isSome) ∧
      summary.outstandingDebtMinor =
        ((db.reconcilePayoutOffsetAuthority vendorId summary.currency).vendorDebtSources.map
          fun s => s.remainingAmountMinor.getD 0).sum := by
  obtain ⟨hu, ha, -, he⟩ := reconcile_verified_iff.mp hverified
  have hout : summary.outstandingDebtMinor =
      db.outstandingDebtMinor vendorId summary.currency := by
    unfold getVendorBalanceSummary at hsummary
    obtain ⟨c, -, hs⟩ := bind_eq_ok.mp hsummary
    obtain rfl := pure_eq_ok.mp hs
    rfl
  have hsource : ∀ e ∈ db.balanceEvents vendorId summary.currency .vendorDebtCreated,
      (db.debtSource vendorId summary.currency e).remainingAmountMinor =
        some (-e.amountMinor -
          db.claimedFor vendorId summary.currency .finalized .vendorDebt e.id) := by
    intro e hmem
    simp [debtSource, he e hmem]
  constructor
  · intro s hs
    obtain ⟨e, hmem, rfl⟩ := List.mem_map.mp (vendorDebtSources_perm.mem_iff.mp hs)
    simp [hsource e hmem]
  · rw [hout, outstandingDebtMinor_eq hc hf hu ha he,
      (vendorDebtSources_perm.map _).sum_eq, List.map_map]
    refine congrArg List.sum (List.map_congr_left fun e hmem => ?_)
    simp [hsource e hmem]

end FinanceDb

/-! ## Two database contents -/

/-- A vendor that was debited for a refund of 100.00 after its sale was paid, and that repaid
40.00 of it from a paid batch. -/
def partlyRepaidDebt : FinanceDb :=
  { FinanceDb.empty with
    vendorAllocation := [twoDebts.allocationRow [⟨1, 1, 1, "1", some 100, true, 0⟩]]
    financeLedgerEntry := [twoDebts.ledgerRow 1 .sale 100 .paid none, twoDebts.ledgerRow 2 .refund
      100 .hold (some ⟨1, "1", 1, 1, 2, 1, 1, true, 100, "TRY", 0⟩)]
    settlementApproval := [twoDebts.approvalRow 1 10000 0]
    payoutBatch := [{ twoDebts.batchRow with
      status := .paid, grossAmount := 100, netAmount := 60, r1OffsetTotalMinor := 4000
      paidAt := some 0 }]
    vendorBalanceEvent := [twoDebts.debtRow 1 (-10000) 1 2,
      { id := 2, vendorId := 1, type := .vendorDebtOffset, amountMinor := 4000
        currency := "TRY", source := .r1PayoutOffsetClaim 1, financeLedgerEntryId := none
        refundRecordId := none, payoutBatchId := some 1, financialCorrectionAuthority := none }]
    payoutOffsetClaim := [
      { id := 1, vendorId := 1, currency := "TRY", payoutBatchId := 1, settlementApprovalId := 1
        sourceType := .vendorDebt, settlementRefundAdjustmentId := none
        vendorDebtOriginEventId := some 1, reservedAmountMinor := 4000, status := .finalized
        requestId := 1, reservedBy := 1, reservedAt := 0 }] }

/-- The same vendor with an adjustment in place of the debt, and a manual charge of 1.00. -/
def manualCharge : FinanceDb :=
  { partlyRepaidDebt with
    settlementRefundAdjustment := [
      { id := 1, refundRecordId := 1, refundFinanceLedgerEntryId := 2, vendorId := 1
        originalSettlementApprovalId := some 1, originalSettlementApprovalLineId := none
        status := .pending, amountMinor := 10000, currencyCode := "TRY", createdAt := 0
        originalAmountMinor := 10000, appliedAmountMinor := 0, remainingAmountMinor := 10000
        appliedSettlementApprovalId := none, appliedSettlementApprovalLineId := none }]
    vendorBalanceEvent := [
      { id := 1, vendorId := 1, type := .manualAdjustment, amountMinor := -100
        currency := "TRY", source := .other, financeLedgerEntryId := none
        refundRecordId := none, payoutBatchId := none, financialCorrectionAuthority := none }]
    payoutOffsetClaim := [] }

theorem outstandingDebtMinor_eq_sum_remaining_partlyRepaid :
    ∃ summary, partlyRepaidDebt.getVendorBalanceSummary 1 none = .ok summary ∧
      summary.outstandingDebtMinor = 6000 ∧
      summary.outstandingDebtMinor =
        ((partlyRepaidDebt.reconcilePayoutOffsetAuthority 1
          summary.currency).vendorDebtSources.map fun s => s.remainingAmountMinor.getD 0).sum := by
  refine ⟨_, FinanceDb.getVendorBalanceSummary_default 1, by decide +kernel, ?_⟩
  have h := FinanceDb.outstandingDebtMinor_eq_sum_remaining
    (by decide +kernel : partlyRepaidDebt.Constraints) (by decide +kernel) (FinanceDb.getVendorBalanceSummary_default 1)
    (by decide +kernel)
  exact h.2

/-- A verified source is not enough: a manual charge belongs to no source, so every source of
the vendor can be verified while the vendor owes money that no debt accounts for. -/
theorem verified_sources_miss_manual_charge :
    ∃ db : FinanceDb, ∃ summary, db.Constraints ∧ db.FinalizedClaimsUncancelled ∧
      db.getVendorBalanceSummary 1 none = .ok summary ∧
      (db.reconcilePayoutOffsetAuthority 1 summary.currency).sources ≠ [] ∧
      (∀ s ∈ (db.reconcilePayoutOffsetAuthority 1 summary.currency).sources,
        s.status = .verified) ∧
      summary.outstandingDebtMinor ≠
        ((db.reconcilePayoutOffsetAuthority 1 summary.currency).vendorDebtSources.map
          fun s => s.remainingAmountMinor.getD 0).sum := by
  have hone : (manualCharge.reconcilePayoutOffsetAuthority 1
      DEFAULT_FINANCE_CURRENCY).sources.length = 1 := by decide +kernel
  refine ⟨manualCharge, _, by decide +kernel, by decide +kernel,
    FinanceDb.getVendorBalanceSummary_default 1, ?_, by decide +kernel, by decide +kernel⟩
  intro h
  have hlength := congrArg List.length h
  exact absurd (hone.symm.trans hlength) (by decide)

end VendorDashboard.Finance

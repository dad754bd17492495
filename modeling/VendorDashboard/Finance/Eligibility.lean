import VendorDashboard.Finance.Holds

/-!
# Settlement eligibility

Which ledger rows a settlement draft may contain, and the line it freezes for each.

A refund row is settled directly only while its sale is not yet in an active settlement or
payout (`getUnsettledRefundOffsetEligibility`); a sale row waits for its delivery and its delay.
`rowIsEligible` is asked twice, when the draft is built and when it is approved, the second time
with the draft's own approval excluded.
-/

namespace VendorDashboard.Finance

/-! ## Statuses that count as active -/

def isActivePayoutBatchStatus : PayoutBatchStatus → Bool
  | .draft | .review | .approved | .executionPending | .paid | .paidPlaceholder
  | .cashlessCompleted => true
  | .cancelled => false

lemma isActivePayoutBatchStatus_iff {s : PayoutBatchStatus} :
    isActivePayoutBatchStatus s = true ↔ s ≠ .cancelled := by
  cases s <;> simp [isActivePayoutBatchStatus]

def isActiveSettlementApprovalStatus : SettlementApprovalStatus → Bool
  | .draft | .approved => true
  | .cancelled => false

lemma isActiveSettlementApprovalStatus_iff {s : SettlementApprovalStatus} :
    isActiveSettlementApprovalStatus s = true ↔ s ≠ .cancelled := by
  cases s <;> simp [isActiveSettlementApprovalStatus]

/-! ## Refund offset eligibility -/

inductive RefundOffsetCode
  | appliedBeforeSettlement
  | missingValidRefundRecord
  | missingSaleLedger
  | afterSettlementRequiresVendorDebt
  | saleLockedByActiveSettlement (approved : Bool)
  | saleLockedByActivePayoutBatch
  deriving DecidableEq

namespace RefundOffsetCode

def eligible (c : RefundOffsetCode) : Bool := c = .appliedBeforeSettlement

def POST_APPROVAL_REFUND_ADJUSTMENT_REQUIRED_REASON : String :=
  "Refund after settlement approval requires adjustment before payout"

def reason : RefundOffsetCode → String
  | appliedBeforeSettlement => "Refund offset applied before settlement."
  | missingValidRefundRecord => "Refund row is not linked to a valid Shopify refund."
  | missingSaleLedger => "Refund after settlement requires vendor debt handling."
  | afterSettlementRequiresVendorDebt => "Refund after settlement requires vendor debt handling."
  | saleLockedByActiveSettlement true => POST_APPROVAL_REFUND_ADJUSTMENT_REQUIRED_REASON
  | saleLockedByActiveSettlement false => "Refund after settlement requires vendor debt handling."
  | saleLockedByActivePayoutBatch => "Refund offset required before payout."

end RefundOffsetCode

def hasActivePayoutBatch (lines : List BatchLineRef) : Bool :=
  lines.any fun l => isActivePayoutBatchStatus l.status

def hasActiveSettlementApproval (lines : List ApprovalLineRef)
    (currentSettlementApprovalId : Option Id) : Bool :=
  lines.any fun l =>
    !decide (some l.settlementApprovalId = currentSettlementApprovalId) &&
      isActiveSettlementApprovalStatus l.status

def hasApprovedSettlementApproval (lines : List ApprovalLineRef) : Bool :=
  lines.any fun l => decide (l.status = .approved)

def getUnsettledRefundOffsetEligibility (refundRecord : Option RefundRecord)
    (relatedSaleLedgerEntry : Option LedgerSnapshot) (currentSettlementApprovalId : Option Id) :
    RefundOffsetCode :=
  match refundRecord with
  | none => .missingValidRefundRecord
  | some _ =>
      match relatedSaleLedgerEntry with
      | none => .missingSaleLedger
      | some sale =>
          if sale.entry.entryType ≠ .sale then .missingSaleLedger
          else if sale.entry.payoutStatus = .paid ∨ sale.entry.settlementStatus = .settled then
            .afterSettlementRequiresVendorDebt
          else if hasActivePayoutBatch sale.payoutBatchLines then .saleLockedByActivePayoutBatch
          else if hasActiveSettlementApproval sale.settlementApprovalLines
              currentSettlementApprovalId then
            .saleLockedByActiveSettlement
              (hasApprovedSettlementApproval sale.settlementApprovalLines)
          else .appliedBeforeSettlement

/-- The refund record and the sale row that the accepted evidence of a refund row names, when
all of them still agree with it. -/
def exactRefundEvidence (view : AllocationView) (ledger : FinanceLedgerEntry) :
    Option (RefundRecord × LedgerSnapshot) := do
  let evidence ← ledger.refundEvidenceSnapshot
  if evidence.refundFinanceLedgerEntryId ≠ ledger.id ∨
      evidence.vendorAllocationId ≠ view.allocation.id ∨
      evidence.historicalEconomicVendorId ≠ ledger.vendorId then none
  let record ← view.allocation.refundRecords.find? fun r =>
    decide (r.id = evidence.refundRecordId)
  let sale ← view.financeEntries.find? fun s =>
    decide (s.entry.id = evidence.historicalSaleFinanceLedgerEntryId) &&
      decide (s.entry.entryType = .sale)
  if record.sourceShopifyRefundId ≠ evidence.sourceShopifyRefundId ∨
      sale.entry.vendorId ≠ ledger.vendorId then none
  some (record, sale)

lemma exactRefundEvidence_some {view : AllocationView} {ledger : FinanceLedgerEntry}
    {p : RefundRecord × LedgerSnapshot} (h : exactRefundEvidence view ledger = some p) :
    p.1 ∈ view.allocation.refundRecords ∧ p.2 ∈ view.financeEntries ∧
      p.2.entry.entryType = .sale := by
  unfold exactRefundEvidence at h
  obtain ⟨evidence, -, h⟩ := Option.bind_eq_some_iff.mp h
  split at h
  · cases h
  · obtain ⟨record, hrecord, h⟩ := Option.bind_eq_some_iff.mp h
    obtain ⟨sale, hsale, h⟩ := Option.bind_eq_some_iff.mp h
    split at h
    · cases h
    · obtain rfl := Option.some.inj h
      have htype := List.find?_some hsale
      simp only [Bool.and_eq_true, decide_eq_true_eq] at htype
      exact ⟨List.mem_of_find?_eq_some hrecord, List.mem_of_find?_eq_some hsale, htype.2⟩

def getExactRefundEvidence (row : LedgerRow) : Option (RefundRecord × LedgerSnapshot) :=
  if row.entry.entryType ≠ .refund then none
  else row.vendorAllocation.bind fun view => exactRefundEvidence view row.entry

def getValidRefundRecord (row : LedgerRow) : Option RefundRecord :=
  (getExactRefundEvidence row).map Prod.fst

def getRelatedSaleLedgerEntry (row : LedgerRow) : Option LedgerSnapshot :=
  (getExactRefundEvidence row).map Prod.snd

def getRefundOffsetEligibility (row : LedgerRow) (currentSettlementApprovalId : Option Id) :
    RefundOffsetCode :=
  getUnsettledRefundOffsetEligibility (getValidRefundRecord row) (getRelatedSaleLedgerEntry row)
    currentSettlementApprovalId

def resolveRefundCommissionSnapshot (row : LedgerRow) : Option ℚ × Option ℚ :=
  let relatedSale := getRelatedSaleLedgerEntry row
  (row.entry.commissionPercentSnapshot <|>
      relatedSale.bind (·.entry.commissionPercentSnapshot),
    row.entry.commissionVatPercentSnapshot <|>
      relatedSale.bind (·.entry.commissionVatPercentSnapshot))

/-! ## The derived settlement status -/

def sumRefundImpact (view : Option AllocationView) : ℚ :=
  match view with
  | none => 0
  | some v => (v.allocation.refundRecords.map fun r => r.amount.getD 0).sum

def resolveSettlementStatus (row : LedgerRow) (currentSettlementApprovalId : Option Id)
    (asOfDate : Instant) : SettlementStatus :=
  let type := row.entry.entryType
  if row.entry.payoutStatus = .paid then .settled
  else if isFullOrderCancelled row.vendorAllocation then .held
  else if type = .refund ∧ (getRefundOffsetEligibility row currentSettlementApprovalId).eligible
  then .partiallyRefunded
  else if row.entry.payoutStatus = .hold then .held
  else if hasActiveVendorBlockedFinanceHold row.vendorAllocation then .held
  else if hasActiveCustomerCancellationFinanceHold row.vendorAllocation then .held
  else if hasBlockingCancelRefundReviewStatus row.vendorAllocation then .held
  else if row.entry.settlementStatus = .held ∨ row.entry.settlementStatus = .settled ∨
      row.entry.settlementStatus = .disputed then row.entry.settlementStatus
  else if type = .sale ∧ ¬(evaluateSaleSettlementDelay row asOfDate).eligible then .accruing
  else if type = .refund ∨ 0 < sumRefundImpact row.vendorAllocation then .partiallyRefunded
  else if hasApprovedOpenReturnHold row then .held
  else if type = .sale then .payable
  else row.entry.settlementStatus

def rowIsEligible (row : LedgerRow) (currentSettlementApprovalId : Option Id)
    (asOfDate : Instant) : Bool :=
  let type := row.entry.entryType
  !isFullOrderCancelled row.vendorAllocation &&
  decide (type = .sale ∨ type = .refund) &&
  !decide (row.entry.payoutStatus = .paid) &&
  !hasActiveVendorBlockedFinanceHold row.vendorAllocation &&
  !hasActiveCustomerCancellationFinanceHold row.vendorAllocation &&
  !hasBlockingCancelRefundReviewStatus row.vendorAllocation &&
  !(decide (type = .refund) &&
    !(getRefundOffsetEligibility row currentSettlementApprovalId).eligible) &&
  (let settlementStatus := resolveSettlementStatus row currentSettlementApprovalId asOfDate
   decide (settlementStatus = .payable ∨ settlementStatus = .partiallyRefunded) &&
    !hasApprovedOpenReturnHold row)

def rowHasActiveApproval (row : LedgerRow) : Bool :=
  row.settlementApprovalLines.any fun l => decide (l.status ≠ .cancelled)

/-! ## The reason given for a row -/

def refundCount (row : LedgerRow) : ℕ :=
  match row.vendorAllocation with
  | none => 0
  | some v => v.allocation.refundRecords.length

def eligibilityReason (row : LedgerRow) (asOfDate : Instant) : String :=
  let type := row.entry.entryType
  let settlementDelay := evaluateSaleSettlementDelay row asOfDate
  let derived := resolveSettlementStatus row none asOfDate
  if isFullOrderCancelled row.vendorAllocation then
    "Excluded because " ++ FULL_ORDER_CANCELLATION_BLOCKED_MESSAGE
  else if type ≠ .sale ∧ type ≠ .refund then
    "Excluded because row type is not sale or refund."
  else if hasActiveCustomerCancellationFinanceHold row.vendorAllocation then
    CUSTOMER_CANCELLATION_FINANCE_HOLD_REASON
  else if rowHasActiveApproval row then
    "Excluded because row already belongs to active settlement approval."
  else if type = .refund then (getRefundOffsetEligibility row none).reason
  else if row.entry.payoutStatus = .hold then "Excluded because payout status is HOLD."
  else if hasActiveVendorBlockedFinanceHold row.vendorAllocation then
    VENDOR_BLOCKED_FINANCE_HOLD_REASON
  else if hasBlockingCancelRefundReviewStatus row.vendorAllocation then
    CANCEL_REFUND_REVIEW_HOLD_REASON
  else if hasApprovedOpenReturnHold row then APPROVED_OPEN_RETURN_HOLD_REASON
  else if derived = .partiallyRefunded then
    "Derived partially refunded because refund records exist."
  else if settlementDelay.applies ∧
      settlementDelay.blockerReason = some MISSING_DELIVERY_DATE_REASON then
    MISSING_DELIVERY_DATE_REASON
  else if settlementDelay.applies ∧
      settlementDelay.blockerReason = some SETTLEMENT_DELAY_PENDING_REASON then
    SETTLEMENT_DELAY_PENDING_REASON
  else if derived = .payable ∧ settlementDelay.applies ∧ settlementDelay.eligible then
    "Derived payable because delivery evidence satisfies settlement delay."
  else "Excluded because row is not payable or partially refunded."

/-! ## The frozen line -/

structure SettlementApprovalLineDraft where
  financeLedgerEntryId : Id
  lineType : SettlementApprovalLineType
  amountMinor : ℤ
  commissionMinor : ℤ
  commissionVatMinor : ℤ
  payableImpactMinor : ℤ
  snapshotRefundCount : ℕ
  snapshotAdjustmentId : Option Id

def resolveCalculationProfile (e : FinanceLedgerEntry) : VendorFinanceProfileConfig :=
  match e.commissionPercentSnapshot with
  | some commissionPercent =>
      { commissionPercent
        commissionVatPercent := e.commissionVatPercentSnapshot.getD 0
        deductShippingEnabled := e.deductShippingEnabledSnapshot.getD false
        shippingMode := e.shippingModeSnapshot.getD .disabled
        fixedShippingFee := e.fixedShippingFeeSnapshot
        externalProviderShippingCost := e.shippingCostSnapshot
        externalProviderShippingVatAmount := e.shippingVatAmountSnapshot
        settlementDelayDays := e.settlementDelayDaysSnapshot }
  | none => DEFAULT_VENDOR_FINANCIAL_PROFILE

def buildLine (row : LedgerRow) : SettlementApprovalLineDraft :=
  if row.entry.entryType = .refund then
    let snapshots := resolveRefundCommissionSnapshot row
    let refundOffset := calculateRefundOffsetAmounts row.entry.amount snapshots.1 snapshots.2
    { financeLedgerEntryId := row.entry.id
      lineType := .refund
      amountMinor := refundOffset.refundMinor
      commissionMinor := -refundOffset.commissionReversalMinor
      commissionVatMinor := -refundOffset.commissionVatReversalMinor
      payableImpactMinor := -refundOffset.vendorPayableReversalMinor
      snapshotRefundCount := refundCount row
      snapshotAdjustmentId := none }
  else
    let calculation := calculateVendorPayout row.entry.amount 0
      (isFulfilledForSettlement row.vendorAllocation) (resolveCalculationProfile row.entry)
    { financeLedgerEntryId := row.entry.id
      lineType := .sale
      amountMinor := toMinorUnits row.entry.amount
      commissionMinor := toMinorUnits calculation.commission
      commissionVatMinor := toMinorUnits calculation.commissionVat
      payableImpactMinor := toMinorUnits calculation.estimatedPayout
      snapshotRefundCount := refundCount row
      snapshotAdjustmentId := none }

@[simp] lemma buildLine_financeLedgerEntryId (row : LedgerRow) :
    (buildLine row).financeLedgerEntryId = row.entry.id := by
  unfold buildLine
  split <;> rfl

@[simp] lemma buildLine_snapshotAdjustmentId (row : LedgerRow) :
    (buildLine row).snapshotAdjustmentId = none := by
  unfold buildLine
  split <;> rfl

@[simp] lemma buildLine_snapshotRefundCount (row : LedgerRow) :
    (buildLine row).snapshotRefundCount = refundCount row := by
  unfold buildLine
  split <;> rfl

end VendorDashboard.Finance

import VendorDashboard.Finance.RefundArrival

/-!
# Payout eligibility

Which lines of approved settlements a payout batch may take.

A payout looks at a ledger row together with all active ledger rows of its allocation.  A late
refund on the allocation stops the row unless its money is accounted for
(`getPostApprovalRefundRisk`): the refund must have accepted evidence, and an adjustment that
still has something left keeps the approved settlement from being paid.  Refund adjustment
lines skip that check (`isApprovedSettlementLineEligibleForPayout`).
-/

namespace VendorDashboard.Finance

/-- The evidence of one ledger row among the rows of its allocation. -/
def resolveExactRefundEvidence (view : Option AllocationView) (ledger : LedgerSnapshot) :
    Option (RefundRecord × LedgerSnapshot) :=
  view.bind fun v => exactRefundEvidence v ledger.entry

/-- The ledger rows of the allocation. -/
def LedgerRow.financeEntries (row : LedgerRow) : List LedgerSnapshot :=
  (row.vendorAllocation.map (·.financeEntries)).getD []

/-- The offset eligibility of a row that a payout reads; the row's own evidence is looked up
among the rows of its allocation. -/
def getPayoutRefundOffsetEligibility (row : LedgerRow) : RefundOffsetCode :=
  let exact := (row.financeEntries.find? fun s => decide (s.entry.id = row.entry.id)).bind
    (resolveExactRefundEvidence row.vendorAllocation)
  getUnsettledRefundOffsetEligibility (exact.map Prod.fst) (exact.map Prod.snd) none

/-! ## The review of a row -/

def hasDraftSettlementReview (row : LedgerRow) : Bool :=
  row.settlementApprovalLines.any (fun l => decide (l.status = .draft)) &&
    !hasApprovedSettlementApproval row.settlementApprovalLines

def hasApprovedSettlementSnapshot (row : LedgerRow) : Bool :=
  hasApprovedSettlementApproval row.settlementApprovalLines

/-! ## Late refunds -/

def isBlockingPostApprovalRefundRisk (risk : PostApprovalRefundRiskState) : Bool :=
  decide (risk = .approvedSettlementAdjustmentRequired) || decide (risk = .evidenceUnverified)

/-- An adjustment whose status and remaining amount contradict each other. -/
def SettlementRefundAdjustment.contradictory (a : SettlementRefundAdjustment) : Bool :=
  (decide (a.status = .applied) && decide (a.remainingAmountMinor ≠ 0)) ||
    (decide (a.status = .pending ∨ a.status = .partiallyApplied) &&
      decide (a.remainingAmountMinor ≤ 0))

def SettlementRefundAdjustment.outstanding (a : SettlementRefundAdjustment) : Bool :=
  decide (a.status = .pending ∨ a.status = .partiallyApplied) &&
    decide (0 < a.remainingAmountMinor)

/-- The risk of a row with several late refunds: the gravest one. -/
def gravestRisk (risks : List PostApprovalRefundRiskState) : PostApprovalRefundRiskState :=
  if .approvedSettlementAdjustmentRequired ∈ risks then .approvedSettlementAdjustmentRequired
  else if .alreadyPaidRequiresVendorDebt ∈ risks then .alreadyPaidRequiresVendorDebt
  else if .unsettledOffsetEligible ∈ risks then .unsettledOffsetEligible
  else .none

namespace FinanceDb

variable (db : FinanceDb)

/-- The adjustment of a refund row. -/
def adjustmentOfRefund (refundLedgerId : Id) : Option SettlementRefundAdjustment :=
  db.settlementRefundAdjustment.find? fun a =>
    decide (a.refundFinanceLedgerEntryId = refundLedgerId)

/-- The risk of one late refund. -/
def refundLedgerRisk (p : LedgerSnapshot × RefundRecord × LedgerSnapshot) :
    PostApprovalRefundRiskState :=
  if (db.adjustmentOfRefund p.1.entry.id).any (·.outstanding) then
    .approvedSettlementAdjustmentRequired
  else classifyPostApprovalRefundRisk (some p.2.1) (some p.2.2) (some p.1)

def getPostApprovalRefundRisk (row : LedgerRow) : PostApprovalRefundRiskState :=
  let type := row.entry.entryType
  if type ≠ .sale ∧ type ≠ .refund then .none
  else
    let refundLedgers := row.financeEntries.filter fun s => decide (s.entry.entryType = .refund)
    let resolved := refundLedgers.filterMap fun s =>
      (resolveExactRefundEvidence row.vendorAllocation s).map fun exact => (s, exact)
    let refundRecords := (row.vendorAllocation.map (·.allocation.refundRecords)).getD []
    if resolved.length ≠ refundLedgers.length then .evidenceUnverified
    else if type = .sale ∧ refundRecords.any fun r : RefundRecord =>
        decide (r.id ∉ resolved.map (·.2.1.id)) then .evidenceUnverified
    else
      let relevant := resolved.filter fun p =>
        if type = .refund then decide (p.1.entry.id = row.entry.id)
        else decide (p.2.2.entry.id = row.entry.id)
      if relevant.isEmpty then
        if type = .refund then .evidenceUnverified else .none
      else if relevant.any fun p =>
          (db.adjustmentOfRefund p.1.entry.id).any (·.contradictory) then .evidenceUnverified
      else gravestRisk (relevant.map db.refundLedgerRisk)

/-! ## The status of a row -/

def getSettlementStatus (row : LedgerRow) (now : Instant) : SettlementStatus :=
  let type := row.entry.entryType
  if row.entry.payoutStatus = .paid then .settled
  else if row.entry.payoutStatus = .cashlessCompleted then .cashlessCompleted
  else if isBlockingPostApprovalRefundRisk (db.getPostApprovalRefundRisk row) then .held
  else if isFullOrderCancelled row.vendorAllocation then .held
  else if type = .refund ∧ (getPayoutRefundOffsetEligibility row).eligible then
    .partiallyRefunded
  else if row.entry.payoutStatus = .hold then .held
  else if hasActiveVendorBlockedFinanceHold row.vendorAllocation then .held
  else if hasActiveCustomerCancellationFinanceHold row.vendorAllocation then .held
  else if hasBlockingCancelRefundReviewStatus row.vendorAllocation then .held
  else if row.entry.settlementStatus = .held ∨ row.entry.settlementStatus = .settled ∨
      row.entry.settlementStatus = .disputed then row.entry.settlementStatus
  else if type = .sale ∧ ¬(evaluateSaleSettlementDelay row now).eligible then .accruing
  else if type = .refund ∨ 0 < sumRefundImpact row.vendorAllocation then .partiallyRefunded
  else if hasApprovedOpenReturnHold row then .held
  else if type = .sale then .payable
  else row.entry.settlementStatus

def isEntryEligibleForPayoutBatch (row : LedgerRow) (requireApprovedSettlementSnapshot : Bool)
    (now : Instant) : Bool :=
  let type := row.entry.entryType
  !isFullOrderCancelled row.vendorAllocation &&
  decide (type = .sale ∨ type = .refund) &&
  row.payoutBatchLines.isEmpty &&
  !decide (row.entry.payoutStatus = .paid) &&
  !hasDraftSettlementReview row &&
  !hasActiveVendorBlockedFinanceHold row.vendorAllocation &&
  !hasActiveCustomerCancellationFinanceHold row.vendorAllocation &&
  !hasBlockingCancelRefundReviewStatus row.vendorAllocation &&
  !isBlockingPostApprovalRefundRisk (db.getPostApprovalRefundRisk row) &&
  !(decide (type = .refund) && !(getPayoutRefundOffsetEligibility row).eligible &&
    !hasApprovedSettlementSnapshot row) &&
  (let status := db.getSettlementStatus row now
   decide (status = .payable ∨ status = .partiallyRefunded)) &&
  (!requireApprovedSettlementSnapshot || hasApprovedSettlementSnapshot row)

/-! ## Approved lines -/

/-- A ledger row as preparing a payout reads it: all active rows of its allocation, and only
the lines of approved settlements. -/
def payoutLedgerRow (e : FinanceLedgerEntry) : LedgerRow where
  entry := e
  vendorAllocation := db.allocationView (fun _ => true) e.vendorAllocationId
  settlementApprovalLines := (db.activeApprovalLineRefs e.id).filter fun l =>
    decide (l.status = .approved)
  payoutBatchLines := db.activeBatchLineRefs e.id

/-- Whether an uncancelled payout batch has taken the settlement line. -/
def isLineInActivePayout (settlementApprovalLineId : Id) : Bool :=
  db.payoutBatchLine.any fun l =>
    decide (l.settlementApprovalLineId = some settlementApprovalLineId) &&
      db.batchIsActive l.payoutBatchId

/-- Whether a payout may take a line of an approved settlement; `row` is the line's ledger
row. -/
def isApprovedSettlementLineEligibleForPayout (line : SettlementApprovalLine)
    (approval : SettlementApproval) (row : LedgerRow) (now : Instant) : Bool :=
  decide (approval.status = .approved) && !db.isLineInActivePayout line.id &&
    if line.lineType = .refundAdjustment then
      !isFullOrderCancelled row.vendorAllocation &&
        !hasActiveVendorBlockedFinanceHold row.vendorAllocation &&
        !hasActiveCustomerCancellationFinanceHold row.vendorAllocation &&
        !hasBlockingCancelRefundReviewStatus row.vendorAllocation
    else
      db.isEntryEligibleForPayoutBatch
        { row with
          payoutBatchLines := []
          settlementApprovalLines :=
            [⟨line.id, approval.id, approval.status, approval.approvedAt⟩] } true now

end FinanceDb

/-- The amounts of one line in the totals of a payout batch. -/
structure PayoutTotals where
  grossAmountMinor : ℤ
  commissionAmountMinor : ℤ
  commissionVatAmountMinor : ℤ
  shippingDeductionAmountMinor : ℤ
  refundAmountMinor : ℤ
  netAmountMinor : ℤ

def approvedPayoutLineAmounts (line : SettlementApprovalLine) : PayoutTotals :=
  match line.lineType with
  | .sale =>
      { grossAmountMinor := line.amountMinor
        commissionAmountMinor := line.commissionMinor
        commissionVatAmountMinor := line.commissionVatMinor
        shippingDeductionAmountMinor := line.amountMinor - line.commissionMinor -
          line.commissionVatMinor - line.payableImpactMinor
        refundAmountMinor := 0
        netAmountMinor := line.payableImpactMinor }
  | .refund =>
      { grossAmountMinor := 0
        commissionAmountMinor := line.commissionMinor
        commissionVatAmountMinor := line.commissionVatMinor
        shippingDeductionAmountMinor := 0
        refundAmountMinor := line.amountMinor
        netAmountMinor := line.payableImpactMinor }
  | .refundAdjustment =>
      { grossAmountMinor := 0
        commissionAmountMinor := 0
        commissionVatAmountMinor := 0
        shippingDeductionAmountMinor := 0
        refundAmountMinor := line.amountMinor
        netAmountMinor := line.payableImpactMinor }

@[simp] lemma approvedPayoutLineAmounts_net (line : SettlementApprovalLine) :
    (approvedPayoutLineAmounts line).netAmountMinor = line.payableImpactMinor := by
  unfold approvedPayoutLineAmounts
  split <;> rfl

end VendorDashboard.Finance

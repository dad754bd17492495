import VendorDashboard.Finance.SettlementPreview
import VendorDashboard.Finance.PayoutEligibility

/-!
# Preparing a payout

`preparePayoutBatchInTransaction` selects every eligible line of the vendor's approved
settlements together with the correction lines that no payout has taken yet
(`selectPayout`), nets them, takes the vendor's outstanding debt off a positive net
(`calculateVendorDebtOffset`) and writes the draft batch (`insertPayoutBatch`).

With `r1Isolated` the debt is left alone: the caller reserves verified sources afterwards, and a
sale may be taken although a late refund is outstanding on it, provided the report covers that
refund (`r1CoveredRefunds`).
-/

namespace VendorDashboard.Finance

open Table Transaction

/-- The identifiers of the rows that one preparation inserts. -/
structure PayoutBatchIds where
  batchId : Id
  firstLineId : Id
  firstCreditLineId : Id
  firstDeductionLineId : Id
  firstApprovedDeductionLineId : Id
  debtOffsetEventId : Id
  firstClaimId : Id

/-- A line of an approved settlement with its ledger row. -/
structure PayoutCandidate where
  row : LedgerRow
  line : SettlementApprovalLine
  approval : SettlementApproval

/-- A correction line of an approved settlement with its source. -/
structure CorrectionCandidate where
  line : CorrectionSettlementLine
  source : CorrectionSource
  approval : SettlementApproval

structure PayoutSelection where
  candidates : List PayoutCandidate
  credits : List CorrectionCandidate
  deductions : List CorrectionCandidate
  coverages : List ApprovedDeductionCoverage

namespace PayoutSelection

variable (s : PayoutSelection)

def correctionCreditMinor : ℤ := (s.credits.map (·.line.amountMinor)).sum

def correctionDeductionMinor : ℤ :=
  (s.deductions.map (·.line.amountMinor)).sum + (s.coverages.map (·.amountMinor)).sum

/-- The totals of the selected lines, with the corrections in the net. -/
def totals : PayoutTotals :=
  let amounts := s.candidates.map fun c => approvedPayoutLineAmounts c.line
  { grossAmountMinor := (amounts.map (·.grossAmountMinor)).sum
    commissionAmountMinor := (amounts.map (·.commissionAmountMinor)).sum
    commissionVatAmountMinor := (amounts.map (·.commissionVatAmountMinor)).sum
    shippingDeductionAmountMinor := (amounts.map (·.shippingDeductionAmountMinor)).sum
    refundAmountMinor := (amounts.map (·.refundAmountMinor)).sum
    netAmountMinor := (amounts.map (·.netAmountMinor)).sum + s.correctionCreditMinor -
      s.correctionDeductionMinor }

lemma totals_netAmountMinor : s.totals.netAmountMinor =
    (s.candidates.map (·.line.payableImpactMinor)).sum + s.correctionCreditMinor -
      s.correctionDeductionMinor := by
  simp [totals, Function.comp_def]

def currencies : List String :=
  (s.candidates.map (·.approval.currency) ++ s.credits.map (·.approval.currency) ++
    s.deductions.map (·.approval.currency)).eraseDups

/-- What the selected lines of one settlement pay. -/
def payableOf (settlementApprovalId : Id) : ℤ :=
  total (fun c => decide (c.approval.id = settlementApprovalId)) (·.line.payableImpactMinor)
    s.candidates

/-- The selected credits of one settlement. -/
def creditOf (settlementApprovalId : Id) : ℤ :=
  total (fun c => decide (c.approval.id = settlementApprovalId)) (·.line.amountMinor) s.credits

/-- The selected deductions of one settlement. -/
def deductionOf (settlementApprovalId : Id) : ℤ :=
  total (fun c => decide (c.approval.id = settlementApprovalId)) (·.line.amountMinor)
    s.deductions

end PayoutSelection

/-- The correction routes of a settlement that was already approved. -/
def isApprovedCreditRoute (r : ApplicationRoute) : Bool :=
  decide (r = .approvedSettlementVendorCredit ∨ r = .draftPayoutVendorCredit ∨
    r = .reviewPayoutVendorCredit)

def isApprovedDeductionRoute (r : ApplicationRoute) : Bool :=
  decide (r = .approvedSettlementVendorDeduction ∨ r = .draftPayoutVendorDeduction ∨
    r = .reviewPayoutVendorDeduction)

/-- A payout line that holds its source. -/
def payoutLineHolds (p : CorrectionPayoutLine) : Bool :=
  decide (p.status = .active ∨ p.status = .paid)

namespace FinanceDb

variable (db : FinanceDb)

/-! ## What a payout may take -/

/-- The vendor's active ledger rows, oldest first. -/
def payoutRows (vendorId : Id) : List LedgerRow :=
  ((db.financeLedgerEntry.filter fun e =>
    decide (e.vendorId = vendorId) && decide (e.voidedAt = none) &&
      decide (e.entryType = .sale ∨ e.entryType = .refund)).insertionSort
    fun x y => x.createdAt ≤ y.createdAt).map db.payoutLedgerRow

/-- The lines of approved settlements on a ledger row. -/
def approvedLinesOn (financeLedgerEntryId : Id) :
    List (SettlementApprovalLine × SettlementApproval) :=
  db.settlementApprovalLine.filterMap fun l =>
    if l.financeLedgerEntryId = financeLedgerEntryId then
      (db.findApproval l.settlementApprovalId).bind fun a =>
        if a.status = .approved then some (l, a) else none
    else none

/-- The late refunds of a sale, as pairs of refund row and refund record, that the report
accounts for. -/
def r1CoveredRefunds (diagnostic : PayoutOffsetAuthorityDiagnostics) (row : LedgerRow) :
    List (Id × Id) :=
  if row.entry.entryType ≠ .sale then []
  else (row.financeEntries.filter fun s => decide (s.entry.entryType = .refund)).filterMap
    fun refund => do
      let exact ← resolveExactRefundEvidence row.vendorAllocation refund
      let adjustment ← db.adjustmentOfRefund refund.entry.id
      let source ← diagnostic.sources.find? fun s =>
        decide (s.sourceType = .refundAdjustment) && decide (s.sourceId = adjustment.id)
      if exact.2.entry.id = row.entry.id ∧ 0 < adjustment.remainingAmountMinor ∧
          (db.approvedLinesOn row.entry.id).any (fun l =>
            decide (adjustment.originalSettlementApprovalLineId = some l.1.id)) ∧
          source.status = .verified ∧
          source.refundFinanceLedgerEntryId = some refund.entry.id then
        some (refund.entry.id, exact.1.id)
      else none

end FinanceDb

/-- The row without the given refund rows and refund records. -/
def LedgerRow.withoutRefunds (row : LedgerRow) (covered : List (Id × Id)) : LedgerRow :=
  { row with
    vendorAllocation := row.vendorAllocation.map fun v =>
      { allocation := { v.allocation with
          refundRecords := v.allocation.refundRecords.filter fun r =>
            decide (r.id ∉ covered.map Prod.snd) }
        financeEntries := v.financeEntries.filter fun s =>
          decide (s.entry.id ∉ covered.map Prod.fst) } }

namespace FinanceDb

variable (db : FinanceDb)

/-- The row as its eligibility is judged: an R1 payout leaves covered refunds out. -/
def r1EligibleProjection (diagnostic : Option PayoutOffsetAuthorityDiagnostics)
    (row : LedgerRow) : LedgerRow :=
  match diagnostic with
  | none => row
  | some d => row.withoutRefunds (db.r1CoveredRefunds d row)

def approvedCandidates (vendorId : Id) : List PayoutCandidate :=
  (db.payoutRows vendorId).flatMap fun row =>
    (db.approvedLinesOn row.entry.id).map fun l => ⟨row, l.1, l.2⟩

def eligibleCandidates (vendorId : Id) (diagnostic : Option PayoutOffsetAuthorityDiagnostics)
    (now : Instant) : List PayoutCandidate :=
  (db.approvedCandidates vendorId).filter fun c =>
    db.isApprovedSettlementLineEligibleForPayout c.line c.approval
      (db.r1EligibleProjection diagnostic c.row) now

/-- The settlements with a line whose refund blocks it, each with the reason. -/
def blockedApprovalReasons (vendorId : Id)
    (diagnostic : Option PayoutOffsetAuthorityDiagnostics) : List (Id × String) :=
  (db.payoutRows vendorId).flatMap fun row =>
    let risk := db.getPostApprovalRefundRisk (db.r1EligibleProjection diagnostic row)
    if isBlockingPostApprovalRefundRisk risk then
      (db.approvedLinesOn row.entry.id).map fun l =>
        (l.2.id, risk.reason.getD REFUND_EVIDENCE_UNVERIFIED_REASON)
    else []

/-- A payout must not take only the eligible lines of a settlement while another of its lines is
blocked by a refund. -/
def assertNoBlockedApproval (candidates : List PayoutCandidate)
    (blocked : List (Id × String)) : Except String Unit :=
  match candidates.find? fun c => blocked.any fun b => decide (b.1 = c.approval.id) with
  | none => .ok ()
  | some c => .error (((blocked.filter fun b => decide (b.1 = c.approval.id)).getLast?.map
      Prod.snd).getD REFUND_EVIDENCE_UNVERIFIED_REASON)

/-- The active correction lines of the vendor's approved settlements that no payout holds. -/
def correctionCandidates (vendorId : Id) (sources : List CorrectionSource)
    (lines : List CorrectionSettlementLine) (payoutLines : List CorrectionPayoutLine) :
    List CorrectionCandidate :=
  (lines.filterMap fun line => do
    let source ← sources.find? fun s => decide (s.id = line.sourceId)
    let approval ← db.findApproval line.settlementApprovalId
    if line.status = .active ∧ source.vendorId = vendorId ∧ source.currency = "TRY" ∧
        approval.vendorId = vendorId ∧ approval.currency = "TRY" ∧ approval.status = .approved ∧
        payoutLines.all (fun p => !(decide (p.sourceLineId = line.id) && payoutLineHolds p)) then
      some ⟨line, source, approval⟩
    else none).insertionSort fun x y =>
      x.line.createdAt < y.line.createdAt ∨
        (x.line.createdAt = y.line.createdAt ∧ x.line.id ≤ y.line.id)

/-- A credit to an approved settlement is paid together with all lines of that settlement. -/
def assertCreditOrigin (vendorId : Id) (candidates : List PayoutCandidate)
    (a : FinancialCorrectionAuthority) : Except String Unit :=
  require ((a.historicalApprovedSettlementId.bind db.findApproval).any fun origin =>
      decide (origin.status = .approved ∧ origin.vendorId = vendorId ∧
        origin.currency = "TRY" ∧ origin.approvedAt.isSome ∧
        origin.approvedAt = a.historicalApprovedSettlementAt ∧
        some origin.netPayableMinor = a.historicalApprovedSettlementNetMinor ∧
        (candidates.filter fun c => decide (c.approval.id = origin.id)).length =
          (db.linesOf origin.id).length))
    "APPROVED_SETTLEMENT_CREDIT_ROUTE_UNAVAILABLE"

def assertCreditCandidate (vendorId : Id) (candidates : List PayoutCandidate)
    (c : CorrectionCandidate) : Except String Unit := do
  assertFinancialCorrectionCreditSource c.source
  require (0 < c.line.amountMinor ∧ c.line.amountMinor = c.source.amountMinor ∧
      c.line.amountMinor ≤ c.approval.correctionCreditMinor)
    "Financial Correction Credit settlement source is inconsistent."
  if isApprovedCreditRoute c.source.authority.applicationRoute then
    db.assertCreditOrigin vendorId candidates c.source.authority
  else pure ()

def assertDeductionCandidate (s : PayoutSelection) (c : CorrectionCandidate) :
    Except String Unit := do
  assertFinancialCorrectionDeductionSource c.source
  require (0 < c.line.amountMinor ∧ c.line.amountMinor = c.source.amountMinor ∧
      c.line.amountMinor ≤ c.approval.correctionDeductionMinor)
    "Financial Correction deduction settlement source is inconsistent."
  require (c.line.amountMinor ≤ s.payableOf c.line.settlementApprovalId +
      s.creditOf c.line.settlementApprovalId) "INSUFFICIENT_PAYABLE_FOR_FULL_DEDUCTION"

/-! ## Coverages of approved deductions -/

def assertApprovedDeductionCoverage (coverage : ApprovedDeductionCoverage) :
    Except String Unit := do
  let changed := "APPROVED_DEDUCTION_COVERAGE_CHANGED"
  let source ← getOrThrow (db.correctionDeduction.find? fun s =>
    decide (s.id = coverage.deductionId)) changed
  let origin ← getOrThrow (db.findApproval coverage.settlementApprovalId) changed
  let authority := source.authority
  require (coverage.status = .active ∧ coverage.currency = "TRY" ∧ 0 < coverage.amountMinor ∧
      coverage.vendorId = source.vendorId ∧ coverage.amountMinor = source.amountMinor ∧
      source.currency = "TRY" ∧ authority.vendorId = source.vendorId ∧
      authority.currency = "TRY" ∧ authority.economicDirection = .vendorDeduction ∧
      isApprovedDeductionRoute authority.applicationRoute ∧
      authority.vendorPayableDifferenceMinor = source.amountMinor ∧
      authority.historicalPayoutBatchId.isNone =
        decide (authority.applicationRoute = .approvedSettlementVendorDeduction) ∧
      authority.historicalApprovedSettlementId = some coverage.settlementApprovalId ∧
      origin.status = .approved ∧ origin.approvedAt.isSome ∧
      origin.vendorId = coverage.vendorId ∧ origin.currency = "TRY") changed

def getActiveApprovedDeductionCoverages (vendorId : Id) :
    Except String (List ApprovedDeductionCoverage) := do
  let coverages := (db.approvedDeductionCoverage.filter fun c =>
    decide (c.vendorId = vendorId) && decide (c.currency = "TRY") &&
      decide (c.status = .active)).insertionSort fun x y =>
        x.createdAt < y.createdAt ∨ (x.createdAt = y.createdAt ∧ x.id ≤ y.id)
  coverages.forM db.assertApprovedDeductionCoverage
  pure coverages

/-- The settlement that a coverage reduces must be paid in full by this payout. -/
def assertCoverageOrigin (s : PayoutSelection) (coverage : ApprovedDeductionCoverage) :
    Except String Unit := do
  let origin ← getOrThrow ((db.findApproval coverage.settlementApprovalId).filter fun a =>
    decide (a.status = .approved)) "APPROVED_DEDUCTION_COVERAGE_CHANGED"
  let originPayable := s.payableOf origin.id + s.creditOf origin.id - s.deductionOf origin.id
  require ((s.candidates.filter fun c => decide (c.approval.id = origin.id)).length =
        (db.linesOf origin.id).length ∧
      (s.credits.filter fun c => decide (c.approval.id = origin.id)).length =
        ((db.correctionCreditSettlementLine.filter fun l =>
          decide (l.settlementApprovalId = origin.id) && decide (l.status = .active))).length ∧
      (s.deductions.filter fun c => decide (c.approval.id = origin.id)).length =
        ((db.correctionDeductionSettlementLine.filter fun l =>
          decide (l.settlementApprovalId = origin.id) && decide (l.status = .active))).length ∧
      originPayable = origin.netPayableMinor ∧ 0 < originPayable)
    "APPROVED_DEDUCTION_ORIGIN_NOT_FULLY_PAYABLE"
  require (total (fun c => decide (c.settlementApprovalId = origin.id)) (·.amountMinor)
      s.coverages ≤ originPayable) "INSUFFICIENT_PAYABLE_FOR_FULL_DEDUCTION"

/-! ## The selection -/

/-- The vendor has a credit on an approved settlement that no approved settlement carries. -/
def hasUnsettledApprovedCredit (vendorId : Id) : Bool :=
  db.correctionCredit.any fun s =>
    decide (s.vendorId = vendorId) && decide (s.currency = "TRY") &&
      isApprovedCreditRoute s.authority.applicationRoute &&
      !db.correctionCreditSettlementLine.any fun l =>
        decide (l.sourceId = s.id) && decide (l.status = .active) &&
          db.approvalIsApproved l.settlementApprovalId

/-- Why nothing can be paid. -/
def nothingPayableReason (vendorId : Id) (diagnostic : Option PayoutOffsetAuthorityDiagnostics)
    (now : Instant) : String :=
  let rows := db.payoutRows vendorId
  if rows.any fun r => isFullOrderCancelled r.vendorAllocation then
    FULL_ORDER_CANCELLATION_BLOCKED_MESSAGE
  else if rows.any fun r => hasActiveCustomerCancellationFinanceHold r.vendorAllocation then
    CUSTOMER_CANCELLATION_FINANCE_HOLD_REASON
  else if rows.any fun r => decide (db.getPostApprovalRefundRisk
      (db.r1EligibleProjection diagnostic r) = .approvedSettlementAdjustmentRequired) then
    RefundOffsetCode.POST_APPROVAL_REFUND_ADJUSTMENT_REQUIRED_REASON
  else if rows.any fun r => decide (db.getPostApprovalRefundRisk r = .evidenceUnverified) then
    REFUND_EVIDENCE_UNVERIFIED_REASON
  else if rows.any fun r => !hasApprovedSettlementSnapshot r &&
      db.isEntryEligibleForPayoutBatch r false now then
    "Approved settlement snapshot is required before payout batch preparation."
  else "No eligible payable ledger rows are available for payout batch preparation."

/-- The report that an R1 preparation starts from. -/
def r1PreparationDiagnostic (vendorId : Id) : Except String PayoutOffsetAuthorityDiagnostics :=
  match ((db.approvedCandidates vendorId).map (·.approval.currency)).eraseDups with
  | [currency] => do
      let diagnostic := db.reconcilePayoutOffsetAuthority vendorId currency
      require (diagnostic.status = .verified) "R1_PREPARATION_REFUND_AUTHORITY_NOT_VERIFIED"
      pure diagnostic
  | _ => .error "R1_APPROVED_CURRENCY_SCOPE_UNKNOWN"

/-- Everything the payout takes. -/
def selectPayout (vendorId : Id) (diagnostic : Option PayoutOffsetAuthorityDiagnostics)
    (now : Instant) : Except String PayoutSelection := do
  let candidates := db.eligibleCandidates vendorId diagnostic now
  assertNoBlockedApproval candidates (db.blockedApprovalReasons vendorId diagnostic)
  let credits := db.correctionCandidates vendorId db.correctionCredit
    db.correctionCreditSettlementLine db.correctionCreditPayoutLine
  credits.forM (db.assertCreditCandidate vendorId candidates)
  let deductions := db.correctionCandidates vendorId db.correctionDeduction
    db.correctionDeductionSettlementLine db.correctionDeductionPayoutLine
  let uncovered : PayoutSelection := ⟨candidates, credits, deductions, []⟩
  deductions.forM (assertDeductionCandidate uncovered)
  let coverages ← db.getActiveApprovedDeductionCoverages vendorId
  let selection : PayoutSelection :=
    { uncovered with
      coverages := coverages.filter fun c => db.approvedDeductionPayoutLine.all fun p =>
        !(decide (p.sourceLineId = c.id) && payoutLineHolds p) }
  selection.coverages.forM (db.assertCoverageOrigin selection)
  require (¬(candidates.isEmpty ∧ credits.isEmpty))
    (db.nothingPayableReason vendorId diagnostic now)
  pure selection

/-! ## The batch -/

def payoutBatchLineRow (batchId : Id) (id : Id) (c : PayoutCandidate) : PayoutBatchLine where
  id
  payoutBatchId := batchId
  financeLedgerEntryId := c.line.financeLedgerEntryId
  settlementApprovalLineId := some c.line.id
  amountSnapshot := (c.line.payableImpactMinor : ℚ) / 100

def correctionPayoutLineRow (batchId : Id) (id : Id) (p : Id × ℤ) : CorrectionPayoutLine where
  id
  sourceLineId := p.1
  payoutBatchId := batchId
  amountMinor := p.2
  status := .active

def payoutBatchRow (id vendorId : Id) (currency : String) (s : PayoutSelection)
    (netAmountMinor : ℤ) (now : Instant) : PayoutBatch where
  id
  vendorId
  status := .draft
  grossAmount := (s.totals.grossAmountMinor : ℚ) / 100
  commissionAmount := (s.totals.commissionAmountMinor : ℚ) / 100
  commissionVatAmount := (s.totals.commissionVatAmountMinor : ℚ) / 100
  shippingDeductionAmount := (s.totals.shippingDeductionAmountMinor : ℚ) / 100
  refundAmount := (s.totals.refundAmountMinor : ℚ) / 100
  netAmount := (netAmountMinor : ℚ) / 100
  r1OffsetTotalMinor := 0
  correctionCreditAmount := (s.correctionCreditMinor : ℚ) / 100
  correctionDeductionAmount := (s.correctionDeductionMinor : ℚ) / 100
  currency
  createdAt := now
  paidAt := none
  eftExecutedAt := none

/-- Insert the draft batch with its settlement, credit and deduction lines. -/
def insertPayoutBatch (ids : PayoutBatchIds) (batch : PayoutBatch) (s : PayoutSelection) :
    Except String FinanceDb := do
  let batches ← insertRows PayoutBatch.id db.payoutBatch [batch] UNIQUE_CONSTRAINT_FAILED
  let lines ← insertRows PayoutBatchLine.id db.payoutBatchLine
    (withIds (payoutBatchLineRow ids.batchId) ids.firstLineId s.candidates)
    UNIQUE_CONSTRAINT_FAILED
  let creditLines ← insertRows CorrectionPayoutLine.id db.correctionCreditPayoutLine
    (withIds (correctionPayoutLineRow ids.batchId) ids.firstCreditLineId
      (s.credits.map fun c => (c.line.id, c.line.amountMinor))) UNIQUE_CONSTRAINT_FAILED
  let deductionLines ← insertRows CorrectionPayoutLine.id db.correctionDeductionPayoutLine
    (withIds (correctionPayoutLineRow ids.batchId) ids.firstDeductionLineId
      (s.deductions.map fun c => (c.line.id, c.line.amountMinor))) UNIQUE_CONSTRAINT_FAILED
  let approvedDeductionLines ← insertRows CorrectionPayoutLine.id db.approvedDeductionPayoutLine
    (withIds (correctionPayoutLineRow ids.batchId) ids.firstApprovedDeductionLineId
      (s.coverages.map fun c => (c.id, c.amountMinor))) UNIQUE_CONSTRAINT_FAILED
  pure { db with
    payoutBatch := batches
    payoutBatchLine := lines
    correctionCreditPayoutLine := creditLines
    correctionDeductionPayoutLine := deductionLines
    approvedDeductionPayoutLine := approvedDeductionLines }

def preparePayoutBatchInTransaction (vendorId : Id) (ids : PayoutBatchIds) (r1Isolated : Bool)
    (now : Instant) : Except String FinanceDb := do
  require (r1Isolated ∨ ∀ c ∈ db.payoutOffsetClaim, ¬(c.vendorId = vendorId ∧
      c.sourceType = .vendorDebt ∧ (c.status = .reserved ∨ c.status = .finalized)))
    "R1_VENDOR_DEBT_RESERVATION_REQUIRES_SOURCE_LEVEL_RECONCILIATION"
  require (db.hasUnsettledApprovedCredit vendorId = false)
    "FINANCIAL_CORRECTION_CREDIT_AWAITING_SETTLEMENT_APPROVAL"
  let diagnostic ← if r1Isolated then some <$> db.r1PreparationDiagnostic vendorId else pure none
  let selection ← db.selectPayout vendorId diagnostic now
  let currency ← getOrThrow (match selection.currencies with | [c] => some c | _ => none)
    "Approved settlement lines with different currencies cannot share one payout batch."
  require (currency ≠ "") "Approved settlement currency is required for payout preparation."
  let vendorBalance ← db.getVendorBalanceSummary vendorId (some currency)
  let net := selection.totals.netAmountMinor
  require (selection.correctionDeductionMinor ≤ 0 ∨ 0 ≤ net)
    "INSUFFICIENT_PAYABLE_FOR_FULL_DEDUCTION"
  let debtOffset := calculateVendorDebtOffset (max net 0)
    (if r1Isolated then 0 else vendorBalance.outstandingDebtMinor)
  let batch := payoutBatchRow ids.batchId vendorId currency selection
    (if 0 < net then debtOffset.netPayableMinor else net) now
  let prepared ← db.insertPayoutBatch ids batch selection
  prepared.createVendorDebtOffsetForPayoutBatch ids.debtOffsetEventId vendorId ids.batchId
    debtOffset.debtOffsetMinor (some currency)

/-! ## What a preparation writes -/

/-- The database with the rows of a new batch. -/
def withPayoutBatch (ids : PayoutBatchIds) (batch : PayoutBatch) (s : PayoutSelection) : FinanceDb :=
  { db with
    payoutBatch := db.payoutBatch ++ [batch]
    payoutBatchLine := db.payoutBatchLine ++
      withIds (payoutBatchLineRow ids.batchId) ids.firstLineId s.candidates
    correctionCreditPayoutLine := db.correctionCreditPayoutLine ++
      withIds (correctionPayoutLineRow ids.batchId) ids.firstCreditLineId
        (s.credits.map fun c => (c.line.id, c.line.amountMinor))
    correctionDeductionPayoutLine := db.correctionDeductionPayoutLine ++
      withIds (correctionPayoutLineRow ids.batchId) ids.firstDeductionLineId
        (s.deductions.map fun c => (c.line.id, c.line.amountMinor))
    approvedDeductionPayoutLine := db.approvedDeductionPayoutLine ++
      withIds (correctionPayoutLineRow ids.batchId) ids.firstApprovedDeductionLineId
        (s.coverages.map fun c => (c.id, c.amountMinor)) }

/-- The debt offset that a preparation computes. -/
def preparedDebtOffset (vendorId : Id) (s : PayoutSelection) (r1Isolated : Bool) :
    VendorDebtOffsetCalculation :=
  calculateVendorDebtOffset (max s.totals.netAmountMinor 0)
    (if r1Isolated then 0 else db.outstandingDebtMinor vendorId DEFAULT_FINANCE_CURRENCY)

/-- The net that a preparation freezes. -/
def preparedNetMinor (vendorId : Id) (s : PayoutSelection) (r1Isolated : Bool) : ℤ :=
  if 0 < s.totals.netAmountMinor then (db.preparedDebtOffset vendorId s r1Isolated).netPayableMinor
  else s.totals.netAmountMinor

variable {db} {db' : FinanceDb}

lemma insertPayoutBatch_ok {ids : PayoutBatchIds} {batch : PayoutBatch} {s : PayoutSelection}
    (h : db.insertPayoutBatch ids batch s = .ok db') :
    KeyUnique PayoutBatch.id (db.payoutBatch ++ [batch]) ∧
      KeyUnique PayoutBatchLine.id (db.payoutBatchLine ++
        withIds (payoutBatchLineRow ids.batchId) ids.firstLineId s.candidates) ∧
      db' = db.withPayoutBatch ids batch s := by
  simp only [insertPayoutBatch, bind_eq_ok, insertRows_eq_ok, pure_eq_ok] at h
  obtain ⟨_, ⟨hbatch, rfl⟩, _, ⟨hline, rfl⟩, _, ⟨-, rfl⟩, _, ⟨-, rfl⟩, _, ⟨-, rfl⟩, rfl⟩ := h
  exact ⟨hbatch, hline, rfl⟩

/-- A selected line is a line of an approved settlement that no uncancelled batch holds. -/
lemma mem_eligibleCandidates {vendorId : Id} {diagnostic : Option PayoutOffsetAuthorityDiagnostics}
    {now : Instant} {c : PayoutCandidate}
    (h : c ∈ db.eligibleCandidates vendorId diagnostic now) :
    c.line ∈ db.settlementApprovalLine ∧
      db.findApproval c.line.settlementApprovalId = some c.approval ∧
      c.approval.status = .approved ∧ db.isLineInActivePayout c.line.id = false := by
  unfold eligibleCandidates at h
  obtain ⟨hmem, helig⟩ := List.mem_filter.mp h
  unfold approvedCandidates at hmem
  obtain ⟨row, -, hmem⟩ := List.mem_flatMap.mp hmem
  obtain ⟨l, hl, rfl⟩ := List.mem_map.mp hmem
  unfold approvedLinesOn at hl
  obtain ⟨x, hx, hsel⟩ := List.mem_filterMap.mp hl
  split at hsel
  · obtain ⟨a, ha, hsel⟩ := Option.bind_eq_some_iff.mp hsel
    split at hsel
    · rename_i hstatus
      obtain rfl := Option.some.inj hsel
      simp only [isApprovedSettlementLineEligibleForPayout, Bool.and_eq_true,
        Bool.not_eq_true'] at helig
      exact ⟨hx, ha, hstatus, helig.1.2⟩
    · cases hsel
  · cases hsel

lemma selectPayout_ok {vendorId : Id} {diagnostic : Option PayoutOffsetAuthorityDiagnostics}
    {now : Instant} {s : PayoutSelection} (h : db.selectPayout vendorId diagnostic now = .ok s) :
    s.candidates = db.eligibleCandidates vendorId diagnostic now := by
  simp only [selectPayout, bind_eq_ok, pure_eq_ok] at h
  obtain ⟨-, -, -, -, -, -, _, -, -, -, -, -, rfl⟩ := h
  rfl

/-- **What a committed preparation wrote**: the batch with its lines and, when it recovers debt,
the offset. -/
theorem preparePayoutBatchInTransaction_ok {vendorId : Id} {ids : PayoutBatchIds}
    {r1Isolated : Bool} {now : Instant}
    (h : db.preparePayoutBatchInTransaction vendorId ids r1Isolated now = .ok db') :
    ∃ (diagnostic : Option PayoutOffsetAuthorityDiagnostics) (s : PayoutSelection)
      (currency : String),
      (r1Isolated ∨ ∀ c ∈ db.payoutOffsetClaim, ¬(c.vendorId = vendorId ∧
        c.sourceType = .vendorDebt ∧ (c.status = .reserved ∨ c.status = .finalized))) ∧
      db.selectPayout vendorId diagnostic now = .ok s ∧ s.currencies = [currency] ∧
      KeyUnique PayoutBatch.id (db.payoutBatch ++
        [payoutBatchRow ids.batchId vendorId currency s
          (db.preparedNetMinor vendorId s r1Isolated) now]) ∧
      (db.withPayoutBatch ids (payoutBatchRow ids.batchId vendorId currency s
          (db.preparedNetMinor vendorId s r1Isolated) now) s).createVendorDebtOffsetForPayoutBatch
        ids.debtOffsetEventId vendorId ids.batchId
        (db.preparedDebtOffset vendorId s r1Isolated).debtOffsetMinor (some currency) = .ok db' := by
  unfold preparePayoutBatchInTransaction at h
  obtain ⟨_, hclaims, h⟩ := bind_eq_ok.mp h
  rw [require_eq_ok] at hclaims
  obtain ⟨_, -, h⟩ := bind_eq_ok.mp h
  dsimp only at h
  cases r1Isolated <;>
  · simp only [Bool.false_eq_true, if_true, if_false, bind_eq_ok, getOrThrow_eq_ok,
      require_eq_ok] at h
    obtain ⟨diagnostic, -, s, hs, currency, hcurrency, -, -, balance, hbalance, -, -, prepared,
      hprepared, h⟩ := h
    simp only [getVendorBalanceSummary, bind_eq_ok, pure_eq_ok] at hbalance
    obtain ⟨c, hc, rfl⟩ := hbalance
    obtain rfl := resolveSupportedCurrency_eq_ok hc
    obtain ⟨hbatch, -, rfl⟩ := insertPayoutBatch_ok hprepared
    refine ⟨diagnostic, s, currency, hclaims, hs, ?_, hbatch, h⟩
    split at hcurrency
    · rename_i c' hcs
      rw [hcs, Option.some.inj hcurrency]
    · cases hcurrency

end FinanceDb

end VendorDashboard.Finance

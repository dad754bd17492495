import VendorDashboard.Finance.SettlementPreview

/-!
# Approving a settlement

`executeCanonicalSettlementApproval` checks every line of a draft against the current rows
(`validateSettlementApprovalBeforeApprove`), the correction lines and the stored totals, and
marks the draft approved.  A replacement draft is also held to its cancelled original: the same
sources, and exactly the late refunds it was frozen with (`verifyReplacementLateRefundBridges`),
for each of which the approval creates an adjustment.

Only the manual entry point is modelled; the system entry point adds guards on its attempt row
and changes no other table.
-/

namespace VendorDashboard.Finance

open Table Transaction

structure SettlementApprovalRevalidationReason where
  settlementApprovalLineId : Id
  financeLedgerEntryId : Id
  code : String
  reason : String

def buildRevalidationReason (line : SettlementApprovalLine) (code reason : String) :
    SettlementApprovalRevalidationReason :=
  ⟨line.id, line.financeLedgerEntryId, code, reason⟩

/-- The reasons of the checks that fail, in order. -/
def revalidationReasons (line : SettlementApprovalLine) (checks : List (Bool × String × String)) :
    List SettlementApprovalRevalidationReason :=
  (checks.filter Prod.fst).map fun c => buildRevalidationReason line c.2.1 c.2.2

lemma revalidationReasons_eq_nil {line : SettlementApprovalLine}
    {checks : List (Bool × String × String)} :
    revalidationReasons line checks = [] ↔ ∀ c ∈ checks, c.1 = false := by
  simp [revalidationReasons, List.filter_eq_nil_iff]

/-! ## Sale and refund lines -/

def lineAmountsChanged (line : SettlementApprovalLine) (current : SettlementApprovalLineDraft) :
    Bool :=
  decide (line.lineType ≠ current.lineType) || decide (line.amountMinor ≠ current.amountMinor) ||
    decide (line.commissionMinor ≠ current.commissionMinor) ||
    decide (line.commissionVatMinor ≠ current.commissionVatMinor) ||
    decide (line.payableImpactMinor ≠ current.payableImpactMinor)

/-- The checks of a sale or refund line that come before its eligibility. -/
def ledgerLineChecks (approval : SettlementApproval) (line : SettlementApprovalLine)
    (row : LedgerRow) (now : Instant) : List (Bool × String × String) :=
  let isSale := decide (line.lineType ≠ .refund)
  let settlementDelay := evaluateSaleSettlementDelay row now
  [(row.entry.voidedAt.isSome, "ledger_voided",
      "Ledger has been voided or superseded and cannot be approved."),
    (hasActiveCustomerCancellationFinanceHold row.vendorAllocation,
      "customer_cancellation_pending", CUSTOMER_CANCELLATION_FINANCE_HOLD_REASON),
    (decide (row.entry.vendorId ≠ approval.vendorId), "vendor_mismatch",
      "Ledger row vendor changed since draft creation"),
    (decide (row.entry.entryType ≠ if line.lineType = .refund then .refund else .sale),
      "entry_type_changed", "Ledger row type changed since draft creation"),
    (decide (row.entry.payoutStatus = .paid), "ledger_paid", "Ledger row already paid"),
    (hasBlockingCancelRefundReviewStatus row.vendorAllocation, "cancel_refund_review_active",
      CANCEL_REFUND_REVIEW_HOLD_REASON),
    (hasActiveVendorBlockedFinanceHold row.vendorAllocation,
      "vendor_blocked_finance_hold_active", VENDOR_BLOCKED_FINANCE_HOLD_REASON),
    (!row.payoutBatchLines.isEmpty, "active_payout_batch",
      "Ledger row is already included in an active payout batch"),
    (row.settlementApprovalLines.any fun l => decide (l.settlementApprovalId ≠ approval.id),
      "active_settlement_approval_conflict",
      "Ledger row is locked by another active settlement approval"),
    (isSale && decide (line.snapshotRefundCount < refundCount row), "refund_arrived_after_draft",
      "Refund arrived after draft creation"),
    (isSale && hasApprovedOpenReturnHold row, "approved_return_hold_active",
      "Approved return hold is now active"),
    (settlementDelay.applies && !settlementDelay.eligible, "settlement_delay_not_satisfied",
      "Settlement delay is no longer satisfied")]

/-- The codes that already explain why a row is not eligible. -/
def ELIGIBILITY_EXPLAINING_CODES : List String :=
  ["ledger_paid", "approved_return_hold_active", "settlement_delay_not_satisfied",
    "cancel_refund_review_active", "customer_cancellation_pending"]

def validateApprovalLineAgainstCurrentLedger (approval : SettlementApproval)
    (line : SettlementApprovalLine) (row : Option LedgerRow) (now : Instant) :
    List SettlementApprovalRevalidationReason :=
  match row with
  | none => [buildRevalidationReason line "ledger_missing" "Ledger row no longer exists"]
  | some row =>
      if line.lineType = .refundAdjustment then []
      else
        let reasons := revalidationReasons line (ledgerLineChecks approval line row now)
        let alreadyExplained := reasons.any fun r =>
          ELIGIBILITY_EXPLAINING_CODES.contains r.code
        let reasons := reasons ++ revalidationReasons line
          [(!rowIsEligible row (some approval.id) now && !alreadyExplained,
            "settlement_row_not_eligible", eligibilityReason row now)]
        reasons ++ revalidationReasons line
          [(reasons.isEmpty && lineAmountsChanged line (buildLine row),
            "settlement_amount_changed", "Settlement amount changed since draft creation")]

/-! ## Refund adjustment lines -/

/-- Whether a refund adjustment line charges something else than `amountMinor`. -/
def adjustmentLineChanged (line : SettlementApprovalLine) (amountMinor : ℤ) : Bool :=
  decide (line.lineType ≠ .refundAdjustment) || decide (line.amountMinor ≠ amountMinor) ||
    decide (line.commissionMinor ≠ 0) || decide (line.commissionVatMinor ≠ 0) ||
    decide (line.payableImpactMinor ≠ -amountMinor)

/-- The checks of a line against the application it is linked to. -/
def applicationChecks (approval : SettlementApproval) (line : SettlementApprovalLine)
    (application : SettlementRefundAdjustmentApplication)
    (adjustment : SettlementRefundAdjustment) : List (Bool × String × String) :=
  [(decide (application.settlementApprovalId ≠ approval.id ∨
        application.settlementApprovalLineId ≠ line.id), "refund_adjustment_application_mismatch",
      "Settlement refund adjustment application is linked to a different approval line"),
    (decide (adjustment.vendorId ≠ approval.vendorId), "vendor_mismatch",
      "Settlement refund adjustment vendor changed since draft creation"),
    (decide (adjustment.refundFinanceLedgerEntryId ≠ line.financeLedgerEntryId),
      "refund_adjustment_ledger_mismatch",
      "Settlement refund adjustment is linked to a different refund ledger row"),
    (decide (adjustment.status ≠ .applied ∧ adjustment.status ≠ .partiallyApplied),
      "refund_adjustment_not_applied", "Settlement refund adjustment is not applied"),
    (adjustmentLineChanged line application.amountMinor, "settlement_amount_changed",
      "Settlement refund adjustment amount changed since draft creation")]

/-- The checks of a line that names an adjustment but no application. -/
def legacyAdjustmentChecks (approval : SettlementApproval) (line : SettlementApprovalLine)
    (adjustment : SettlementRefundAdjustment) : List (Bool × String × String) :=
  [(decide (adjustment.vendorId ≠ approval.vendorId), "vendor_mismatch",
      "Settlement refund adjustment vendor changed since draft creation"),
    (decide (adjustment.status ≠ .applied), "refund_adjustment_not_applied",
      "Settlement refund adjustment is not marked APPLIED"),
    (decide (adjustment.refundFinanceLedgerEntryId ≠ line.financeLedgerEntryId),
      "refund_adjustment_ledger_mismatch",
      "Settlement refund adjustment is linked to a different refund ledger row"),
    (decide (adjustment.appliedSettlementApprovalId ≠ some approval.id ∨
        adjustment.appliedSettlementApprovalLineId ≠ some line.id),
      "refund_adjustment_application_mismatch",
      "Settlement refund adjustment is applied to a different settlement approval line"),
    (adjustmentLineChanged line adjustment.amountMinor, "settlement_amount_changed",
      "Settlement refund adjustment amount changed since draft creation")]

namespace FinanceDb

variable (db : FinanceDb)

def validateRefundAdjustmentApprovalLine (approval : SettlementApproval)
    (line : SettlementApprovalLine) (row : Option LedgerRow) :
    List SettlementApprovalRevalidationReason :=
  match row with
  | none => [buildRevalidationReason line "ledger_missing" "Ledger row no longer exists"]
  | some row =>
      revalidationReasons line
        [(decide (row.entry.vendorId ≠ approval.vendorId), "vendor_mismatch",
            "Ledger row vendor changed since draft creation"),
          (decide (row.entry.entryType ≠ .refund), "entry_type_changed",
            "Refund adjustment line is no longer linked to a refund ledger row"),
          (decide (row.entry.payoutStatus = .paid), "ledger_paid", "Ledger row already paid")] ++
      match line.settlementRefundAdjustmentApplicationId with
      | some applicationId =>
          match (db.findApplication applicationId).bind fun a =>
              (db.findAdjustment a.settlementRefundAdjustmentId).map fun adj => (a, adj) with
          | some (application, adjustment) =>
              if application.status ≠ .active then
                [buildRevalidationReason line "refund_adjustment_application_missing"
                  "Settlement refund adjustment application is not active"]
              else revalidationReasons line
                (applicationChecks approval line application adjustment)
          | none =>
              [buildRevalidationReason line "refund_adjustment_application_missing"
                "Settlement refund adjustment application is not active"]
      | none =>
          match line.settlementRefundAdjustmentId <|> line.snapshotAdjustmentId with
          | none => [buildRevalidationReason line "refund_adjustment_missing"
              "Settlement refund adjustment link is missing"]
          | some adjustmentId =>
              match db.findAdjustment adjustmentId with
              | none => [buildRevalidationReason line "refund_adjustment_missing"
                  "Settlement refund adjustment no longer exists"]
              | some adjustment => revalidationReasons line
                  (legacyAdjustmentChecks approval line adjustment)

/-! ## The whole draft -/

def loadCurrentLedgerRowForApprovalLine (line : SettlementApprovalLine) : Option LedgerRow :=
  (db.findLedger line.financeLedgerEntryId).map db.settlementLedgerRow

/-- The reasons of one line against its row, without the alerts on its allocation. -/
def validateLine (approval : SettlementApproval) (line : SettlementApprovalLine)
    (now : Instant) : List SettlementApprovalRevalidationReason :=
  let row := db.loadCurrentLedgerRowForApprovalLine line
  if line.lineType = .refundAdjustment then
    db.validateRefundAdjustmentApprovalLine approval line row
  else validateApprovalLineAgainstCurrentLedger approval line row now

def alertReasons (line : SettlementApprovalLine) : List SettlementApprovalRevalidationReason :=
  match db.loadCurrentLedgerRowForApprovalLine line with
  | none => []
  | some row => (db.getBlockingIntegrityAlertsForRow row).map fun alert =>
      buildRevalidationReason line "finance_integrity_alert_open"
        ("Money movement blocked by blocking finance integrity alert: " ++ alert.category ++ ".")

def validateSettlementApprovalBeforeApprove (approval : SettlementApproval) (now : Instant) :
    List SettlementApprovalRevalidationReason :=
  (db.linesOf approval.id).flatMap fun line =>
    db.validateLine approval line now ++ db.alertReasons line

/-! ## Late refunds of a replacement -/

structure LateRefundBridge where
  refundFinanceLedgerEntryId : Id
  refundRecordId : Id
  historicalSaleFinanceLedgerEntryId : Id

structure LateRefundCheck where
  bridges : List LateRefundBridge
  unverifiedRefundLedgerIds : List Id

/-- Refund rows of the replaced sales whose evidence was captured after the cutoff. -/
def lateRefundSnapshots (saleLedgerIds : List Id) (cutoff : Instant) :
    List (FinanceLedgerEntry × RefundEvidenceSnapshot) :=
  db.financeLedgerEntry.filterMap fun e =>
    e.refundEvidenceSnapshot.bind fun s =>
      if s.historicalSaleFinanceLedgerEntryId ∈ saleLedgerIds ∧ cutoff < s.capturedAt then
        some (e, s)
      else none

/-- The accepted evidence of a late refund agrees with its record, its two ledger rows and the
replaced sales, and nothing has consumed the refund yet. -/
def lateRefundIsVerified (vendorId : Id) (cutoff : Instant) (saleLedgerIds allocationIds : List Id)
    (conflictedRefundIds : List Id) (refund : FinanceLedgerEntry)
    (snapshot : RefundEvidenceSnapshot) : Bool :=
  decide (snapshot.monetaryRefund ∧ snapshot.currency = "TRY" ∧
    snapshot.historicalEconomicVendorId = vendorId ∧
    snapshot.historicalSaleFinanceLedgerEntryId ∈ saleLedgerIds ∧
    snapshot.vendorAllocationId ∈ allocationIds) &&
  (db.findLedger snapshot.historicalSaleFinanceLedgerEntryId).any (fun sale =>
    decide (sale.entryType = .sale ∧ sale.vendorId = vendorId ∧
      sale.vendorAllocationId = some snapshot.vendorAllocationId ∧ sale.voidedAt = none ∧
      sale.payoutStatus ≠ .paid ∧ sale.settlementStatus ≠ .settled)) &&
  decide (refund.id = snapshot.refundFinanceLedgerEntryId ∧ refund.entryType = .refund ∧
    refund.vendorId = vendorId ∧ refund.vendorAllocationId = some snapshot.vendorAllocationId ∧
    cutoff < refund.createdAt ∧ refund.voidedAt = none ∧ refund.payoutStatus ≠ .paid ∧
    refund.amount = snapshot.refundTotalAmount) &&
  (db.findRefundRecord snapshot.refundRecordId).any (fun record =>
    decide (record.vendorAllocationId = snapshot.vendorAllocationId ∧
      record.sourceShopifyRefundId = snapshot.sourceShopifyRefundId ∧ record.processed ∧
      record.amount = some snapshot.refundTotalAmount)) &&
  decide (refund.id ∉ conflictedRefundIds) && (db.activeApprovalLineRefs refund.id).isEmpty &&
  db.settlementRefundAdjustment.all (fun a =>
    decide (a.refundFinanceLedgerEntryId ≠ refund.id)) &&
  db.vendorBalanceEvent.all fun e =>
    !(decide (e.financeLedgerEntryId = some refund.id) && decide (e.type = .vendorDebtCreated))

def verifyReplacementLateRefundBridges (vendorId : Id) (cutoff : Instant)
    (saleLedgerIds allocationIds : List Id) : LateRefundCheck :=
  let conflictedRefundIds := (db.refundTerminalEvidenceReview.filter fun r =>
    decide (r.economicVendorId = vendorId) && decide (r.vendorAllocationId ∈ allocationIds) &&
      !r.resolved).map (·.terminalRefundFinanceLedgerEntryId)
  let snapshots := db.lateRefundSnapshots saleLedgerIds cutoff
  let verified := fun p : FinanceLedgerEntry × RefundEvidenceSnapshot =>
    db.lateRefundIsVerified vendorId cutoff saleLedgerIds allocationIds conflictedRefundIds p.1 p.2
  let bridges := (snapshots.filter verified).map fun p =>
    ⟨p.1.id, p.2.refundRecordId, p.2.historicalSaleFinanceLedgerEntryId⟩
  let unverified := conflictedRefundIds ++ (snapshots.filter fun p => !verified p).map (·.1.id)
  let lateLedgers := db.financeLedgerEntry.filter fun e =>
    decide (e.vendorId = vendorId) &&
      e.vendorAllocationId.any (fun id => decide (id ∈ allocationIds)) &&
      decide (e.entryType = .refund) && decide (cutoff < e.createdAt)
  { bridges
    unverifiedRefundLedgerIds := unverified ++ (lateLedgers.map (·.id)).filter fun id =>
      decide (id ∉ bridges.map (·.refundFinanceLedgerEntryId)) && decide (id ∉ unverified) }

/-! ## Correction lines -/

/-- A correction line must still be the active line of its source on this settlement. -/
def assertActiveCorrectionSettlement (assertSource : CorrectionSource → Except String Unit)
    (sources : List CorrectionSource) (approval : SettlementApproval) (message : String)
    (line : CorrectionSettlementLine) : Except String Unit := do
  let source ← getOrThrow (sources.find? fun s => decide (s.id = line.sourceId)) message
  assertSource source
  require (line.status = .active ∧ line.settlementApprovalId = approval.id ∧
    approval.status ≠ .cancelled ∧ approval.currency = "TRY" ∧
    source.vendorId = approval.vendorId ∧ source.currency = "TRY" ∧
    line.amountMinor = source.amountMinor ∧ 0 < line.amountMinor) message

def assertActiveFinancialCorrectionCreditSettlement (approval : SettlementApproval)
    (line : CorrectionSettlementLine) : Except String Unit :=
  assertActiveCorrectionSettlement assertFinancialCorrectionCreditSource db.correctionCredit
    approval "Financial Correction Credit settlement source is no longer valid." line

def assertActiveFinancialCorrectionDeductionSettlement (approval : SettlementApproval)
    (line : CorrectionSettlementLine) : Except String Unit :=
  assertActiveCorrectionSettlement assertFinancialCorrectionDeductionSource
    db.correctionDeduction approval
    "Financial Correction Deduction settlement source is no longer valid." line

def creditLinesOf (settlementApprovalId : Id) : List CorrectionSettlementLine :=
  db.correctionCreditSettlementLine.filter fun l =>
    decide (l.settlementApprovalId = settlementApprovalId)

def deductionLinesOf (settlementApprovalId : Id) : List CorrectionSettlementLine :=
  db.correctionDeductionSettlementLine.filter fun l =>
    decide (l.settlementApprovalId = settlementApprovalId)

/-- The correction lines of a draft and its stored totals agree with its lines. -/
def assertSettlementTotals (approval : SettlementApproval) : Except String Unit := do
  let lines := db.linesOf approval.id
  let creditLines := db.creditLinesOf approval.id
  let deductionLines := db.deductionLinesOf approval.id
  let creditMinor := (creditLines.map (·.amountMinor)).sum
  require (creditMinor = approval.correctionCreditMinor ∧
      ¬(lines.isEmpty ∧ creditLines.isEmpty))
    "Financial Correction Credit settlement amount is inconsistent."
  creditLines.forM (db.assertActiveFinancialCorrectionCreditSettlement approval)
  let deductionMinor := (deductionLines.map (·.amountMinor)).sum
  let ordinaryPayableMinor := (lines.map (·.payableImpactMinor)).sum
  require (deductionMinor = approval.correctionDeductionMinor ∧
      (0 < deductionMinor → 0 ≤ approval.netPayableMinor ∧
        deductionMinor ≤ ordinaryPayableMinor + creditMinor ∧
        approval.netPayableMinor = ordinaryPayableMinor + creditMinor - deductionMinor))
    "Financial Correction deduction settlement amount is inconsistent."
  deductionLines.forM (db.assertActiveFinancialCorrectionDeductionSettlement approval)
  let expected := summarizeSettlementTotals (lines.map (·.monetary))
    (creditLines.map (·.amountMinor)) (deductionLines.map (·.amountMinor))
  let inconsistent := fun field : String =>
    "Settlement approval monetary totals are inconsistent: " ++ field ++ "."
  require (approval.grossSalesMinor = expected.grossSalesMinor) (inconsistent "grossSalesMinor")
  require (approval.refundTotalMinor = expected.refundTotalMinor)
    (inconsistent "refundTotalMinor")
  require (approval.commissionMinor = expected.commissionMinor) (inconsistent "commissionMinor")
  require (approval.commissionVatMinor = expected.commissionVatMinor)
    (inconsistent "commissionVatMinor")
  require (approval.netPayableMinor = expected.netPayableMinor) (inconsistent "netPayableMinor")
  require (approval.correctionCreditMinor = expected.correctionCreditMinor)
    (inconsistent "correctionCreditMinor")
  require (approval.correctionDeductionMinor = expected.correctionDeductionMinor)
    (inconsistent "correctionDeductionMinor")

/-! ## The transaction -/

/-- What a replacement must share with its original, line by line. -/
def sourceKey (l : SettlementApprovalLine) :
    Id × SettlementApprovalLineType × ℤ × ℤ × ℤ × ℤ :=
  (l.financeLedgerEntryId, l.lineType, l.amountMinor, l.commissionMinor, l.commissionVatMinor,
    l.payableImpactMinor)

/-- Hold a replacement draft to its original; the late refunds it must bridge. -/
def assertReplacementAuthority (existing : SettlementApproval) (originalId : Id) :
    Except String (List LateRefundBridge) := do
  let cutoffChanged := "Replacement frozen cutoff or original authority changed before approval."
  let original ← getOrThrow (db.findApproval originalId) cutoffChanged
  let cutoff ← getOrThrow original.scheduledPeriodEnd cutoffChanged
  require (original.status = .cancelled ∧ original.vendorId = existing.vendorId ∧
    existing.periodEnd = some cutoff) cutoffChanged
  require (((db.linesOf originalId).map sourceKey).isPerm
      ((db.linesOf existing.id).map sourceKey))
    "Replacement frozen financial sources changed before approval."
  let saleIds : List Id := ((db.linesOf existing.id).filter fun l =>
    decide (l.lineType = .sale)).map (·.financeLedgerEntryId)
  let saleLedgers := db.financeLedgerEntry.filter fun e => decide (e.id ∈ saleIds)
  require (saleLedgers.length = saleIds.length ∧
      saleLedgers.all fun e => e.vendorAllocationId.isSome)
    "Replacement SALE authority is incomplete."
  let checked := db.verifyReplacementLateRefundBridges existing.vendorId cutoff saleIds
    (saleLedgers.filterMap (·.vendorAllocationId)).eraseDups
  require (checked.unverifiedRefundLedgerIds.isEmpty ∧ existing.lateRefundLedgerIds.isPerm
      (checked.bridges.map (·.refundFinanceLedgerEntryId)))
    "Replacement late-refund authority changed before approval."
  pure checked.bridges

/-- Create the adjustment of one late refund; `p` carries its identifier. -/
def bridgeLateRefund (approvalId : Id) (now : Instant) (db : FinanceDb)
    (p : Id × LateRefundBridge) : Except String FinanceDb := do
  let bridged ← db.createSettlementRefundAdjustmentForRefundLedger p.1
    p.2.refundFinanceLedgerEntryId p.2.refundRecordId now
  let adjustment := bridged.settlementRefundAdjustment.find? fun a =>
    decide (a.refundFinanceLedgerEntryId = p.2.refundFinanceLedgerEntryId)
  require ((db.settlementRefundAdjustmentForRefundLedger p.1 p.2.refundFinanceLedgerEntryId
        p.2.refundRecordId now).isSome ∧
      adjustment.any fun a =>
        decide (a.originalSettlementApprovalId = some approvalId) &&
          decide (a.refundRecordId = p.2.refundRecordId) && decide (a.status = .pending) &&
          decide (0 < a.originalAmountMinor) && decide (a.appliedAmountMinor = 0) &&
          decide (a.remainingAmountMinor = a.originalAmountMinor))
    "Replacement approval could not establish each late-refund obligation."
  pure bridged

def markApproved (id : Id) (now : Instant) : FinanceDb :=
  { db with
    settlementApproval := updateWhere (fun a => decide (a.id = id))
      (fun a => { a with status := .approved, approvedAt := some now }) db.settlementApproval }

def executeCanonicalSettlementApproval (id firstAdjustmentId : Id) (now : Instant) :
    Except String FinanceDb := do
  let existing ← getOrThrow (db.findApproval id) "Settlement approval could not be found."
  require (existing.status = .draft) "Only draft settlement approvals can be approved."
  let bridges ← match existing.replacesSettlementApprovalId with
    | some originalId => db.assertReplacementAuthority existing originalId
    | none => pure []
  require ((db.validateSettlementApprovalBeforeApprove existing now).isEmpty)
    "Settlement approval cannot be approved because one or more lines are no longer valid."
  db.assertSettlementTotals existing
  (withIds Prod.mk firstAdjustmentId bridges).foldlM (bridgeLateRefund id now)
    (db.markApproved id now)

/-! ## What an approval writes -/

variable {db} {db' : FinanceDb}

/-- An approval marks the draft approved and then creates the adjustments of its late refunds. -/
lemma executeCanonicalSettlementApproval_ok {id firstAdjustmentId : Id} {now : Instant}
    (h : db.executeCanonicalSettlementApproval id firstAdjustmentId now = .ok db') :
    ∃ existing, db.findApproval id = some existing ∧ existing.status = .draft ∧
      db.validateSettlementApprovalBeforeApprove existing now = [] ∧
      ∃ bridges : List (Id × LateRefundBridge),
        bridges.foldlM (bridgeLateRefund id now) (db.markApproved id now) = .ok db' := by
  unfold executeCanonicalSettlementApproval at h
  obtain ⟨existing, hfind, h⟩ := bind_eq_ok.mp h
  rw [getOrThrow_eq_ok] at hfind
  obtain ⟨_, hdraft, h⟩ := bind_eq_ok.mp h
  rw [require_eq_ok] at hdraft
  refine ⟨existing, hfind, hdraft, ?_⟩
  split at h <;>
  · simp only [bind_eq_ok, require_eq_ok, List.isEmpty_iff] at h
    obtain ⟨_, -, -, hvalid, -, -, hloop⟩ := h
    exact ⟨hvalid, _, hloop⟩

/-- What the creation of an adjustment preserves, an approval preserves after its mark. -/
theorem executeCanonicalSettlementApproval_preserves {id firstAdjustmentId : Id} {now : Instant}
    {P : FinanceDb → Prop}
    (h : db.executeCanonicalSettlementApproval id firstAdjustmentId now = .ok db')
    (hmark : P (db.markApproved id now))
    (hcreate : ∀ s t adjustmentId refundLedgerId recordId, P s →
      s.createSettlementRefundAdjustmentForRefundLedger adjustmentId refundLedgerId recordId now =
        .ok t → P t) : P db' := by
  obtain ⟨-, -, -, -, bridges, hloop⟩ := executeCanonicalSettlementApproval_ok h
  refine foldlM_preserves (P := P) ?_ hmark hloop
  intro s b t _ hs ht
  simp only [bridgeLateRefund, bind_eq_ok, pure_eq_ok] at ht
  obtain ⟨bridged, hbridged, -, -, rfl⟩ := ht
  exact hcreate s bridged _ _ _ hs hbridged

end FinanceDb

end VendorDashboard.Finance

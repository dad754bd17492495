import VendorDashboard.Finance.PayoutOffsetMissedRefund
import VendorDashboard.Finance.SettlementApprove

/-!
# Revalidating a payout batch

Before a batch moves on, `validatePayoutBatchBeforeTransition` compares each of its lines with
the current rows and collects what stands in the way (`PayoutBatchTransitionBlocker`).  A line
must still be a line of an approved settlement of the batch's vendor and currency that no other
batch holds, at the amount it was frozen with, and its ledger row must still be eligible.

`covered` are the refunds that need not stop their sale; they leave the row before its
eligibility is judged.
-/

namespace VendorDashboard.Finance

open Table Transaction

structure PayoutBatchTransitionBlocker where
  code : String
  reason : String
  payoutBatchLineId : Id
  financeLedgerEntryId : Option Id

/-- A payout line with the settlement line it pays.  Lines older than the direct link carry how
many settlement lines their ledger row has. -/
structure EffectiveLine where
  payoutLine : PayoutBatchLine
  settlementLine : Option SettlementApprovalLine
  legacyCandidateCount : Option ℕ

/-- The blockers of the checks that fail, in order. -/
def transitionBlockers (lineId : Id) (ledgerId : Option Id) (checks : List (Bool × String × String)) :
    List PayoutBatchTransitionBlocker :=
  (checks.filter Prod.fst).map fun c => ⟨c.2.1, c.2.2, lineId, ledgerId⟩

lemma transitionBlockers_eq_nil {lineId : Id} {ledgerId : Option Id}
    {checks : List (Bool × String × String)} :
    transitionBlockers lineId ledgerId checks = [] ↔ ∀ c ∈ checks, c.1 = false := by
  simp [transitionBlockers, List.filter_eq_nil_iff]

def REFUND_OFFSET_REQUIRED_BEFORE_PAYOUT_REASON : String := "Refund offset required before payout."

def isRefundOffsetRequired (e : FinanceLedgerEntry) : Bool :=
  decide (e.entryType = .refund) && decide (e.payoutStatus = .hold) &&
    decide (e.settlementHoldReason = some REFUND_OFFSET_REQUIRED_BEFORE_PAYOUT_REASON)

/-- The refunds among `covered` that belong to the row. -/
def coveredPairs (covered : List CoveredRefund) (ledgerId : Id) : List (Id × Id) :=
  (covered.filter fun c => decide (c.saleLedgerId = ledgerId)).map fun c =>
    (c.refundLedgerId, c.refundRecordId)

namespace FinanceDb

variable (db : FinanceDb)

def effectiveLine (l : PayoutBatchLine) : EffectiveLine :=
  match l.settlementApprovalLineId with
  | some id => ⟨l, db.findLine id, none⟩
  | none =>
      let candidates := (db.settlementApprovalLine.filter fun s =>
        decide (s.financeLedgerEntryId = l.financeLedgerEntryId)).take 2
      match candidates with
      | [s] => ⟨l, some s, some 1⟩
      | _ => ⟨l, none, some candidates.length⟩

def effectiveLines (payoutBatchId : Id) : List EffectiveLine :=
  (db.batchLinesOf payoutBatchId).map db.effectiveLine

/-! ## The settlement side of a line -/

/-- Another uncancelled batch holds the settlement line. -/
def isHeldByOtherBatch (batchId settlementLineId : Id) : Bool :=
  db.payoutBatchLine.any fun m => decide (m.settlementApprovalLineId = some settlementLineId) &&
    decide (m.payoutBatchId ≠ batchId) && db.batchIsActive m.payoutBatchId

/-- Another uncancelled batch has a line on the ledger row. -/
def isLedgerHeldByOtherBatch (batchId ledgerId : Id) : Bool :=
  db.payoutBatchLine.any fun m => decide (m.financeLedgerEntryId = ledgerId) &&
    decide (m.payoutBatchId ≠ batchId) && db.batchIsActive m.payoutBatchId

/-- The type of a historical settlement line does not fit its ledger row. -/
def isLegacyTypeMismatch (ledgerId : Id) (s : SettlementApprovalLine) : Bool :=
  !(db.findLedger ledgerId).any fun e =>
    (decide (e.entryType = .sale) && decide (s.lineType = .sale)) ||
      (decide (e.entryType = .refund) && decide (s.lineType ≠ .sale))

/-- The checks of a payout line against the settlement line it pays; `seen` are the settlement
lines of the payout lines before it. -/
def settlementLineChecks (batch : PayoutBatch) (seen : List Id) (l : EffectiveLine)
    (s : SettlementApprovalLine) : List (Bool × String × String) :=
  let approval := db.findApproval s.settlementApprovalId
  let ledgerId := l.payoutLine.financeLedgerEntryId
  [(decide (s.id ∈ seen), "settlement_approval_line_membership_conflict",
      "Approved settlement line is claimed more than once by this payout."),
    (!approval.any fun a => decide (a.status = .approved), "settlement_approval_not_approved",
      "Linked settlement approval is not approved."),
    (!approval.any fun a => decide (a.vendorId = batch.vendorId ∧ a.currency = batch.currency),
      "settlement_approval_scope_mismatch",
      "Linked settlement approval does not match the payout vendor and currency scope."),
    (decide (s.financeLedgerEntryId ≠ ledgerId), "settlement_approval_line_ledger_mismatch",
      "Payout line ledger reference differs from its approved settlement line."),
    (l.legacyCandidateCount.isSome && db.isLegacyTypeMismatch ledgerId s,
      "settlement_approval_line_ledger_mismatch",
      "Historical settlement line type does not match its payout source."),
    (l.legacyCandidateCount.isSome && db.isLedgerHeldByOtherBatch batch.id ledgerId,
      "settlement_approval_line_membership_conflict",
      "Historical settlement source belongs to another active payout."),
    (db.isHeldByOtherBatch batch.id s.id, "settlement_approval_line_membership_conflict",
      "Approved settlement line already belongs to another active payout batch."),
    (decide (s.payableImpactMinor ≠ toMinorUnits l.payoutLine.amountSnapshot),
      "payout_amount_changed_since_batch_creation",
      "Payout line amount no longer matches the approved settlement line.")]

def settlementLineBlockers (batch : PayoutBatch) (seen : List Id) (l : EffectiveLine) :
    List PayoutBatchTransitionBlocker :=
  let blockers := transitionBlockers l.payoutLine.id (some l.payoutLine.financeLedgerEntryId)
  match l.settlementLine with
  | some s => blockers (db.settlementLineChecks batch seen l s)
  | none =>
      if l.legacyCandidateCount = some 2 then
        blockers [(true, "settlement_approval_line_ambiguous",
          "Payout line has ambiguous historical settlement lineage.")]
      else blockers [(true, "settlement_approval_line_missing",
        "Payout line is not linked to an exact approved settlement line.")]

/-! ## The ledger side of a line -/

/-- A ledger row as a transition reads it, without the evidence of the batch itself. -/
def transitionLedgerRow (batchId : Id) (e : FinanceLedgerEntry) : LedgerRow :=
  let strip := fun lines : List BatchLineRef =>
    lines.filter fun l => decide (l.payoutBatchId ≠ batchId)
  { entry := e
    vendorAllocation := (db.allocationView (fun _ => true) e.vendorAllocationId).map fun v =>
      { v with financeEntries := v.financeEntries.map fun s =>
          { s with payoutBatchLines := strip s.payoutBatchLines } }
    settlementApprovalLines := db.activeApprovalLineRefs e.id
    payoutBatchLines := strip (db.activeBatchLineRefs e.id) }

/-- The checks of the ledger row of a payout line. -/
def ledgerRowChecks (batch : PayoutBatch) (covered : List CoveredRefund)
    (settlementLine : Option SettlementApprovalLine) (e : FinanceLedgerEntry) (now : Instant) :
    List (Bool × String × String) :=
  let transitionRow := db.transitionLedgerRow batch.id e
  let eligibilityRow := transitionRow.withoutRefunds (coveredPairs covered e.id)
  let view := transitionRow.vendorAllocation
  let isAdjustmentLine := settlementLine.any fun s => decide (s.lineType = .refundAdjustment)
  let isApproved := settlementLine.any fun s => db.approvalIsApproved s.settlementApprovalId
  let refundRecords := (eligibilityRow.vendorAllocation.map (·.allocation.refundRecords)).getD []
  [(isFullOrderCancelled view, "full_order_cancelled", FULL_ORDER_CANCELLATION_BLOCKED_MESSAGE),
    (e.vendorAllocationId.any fun id => !(db.findBlockingFinanceIntegrityAlerts id).isEmpty,
      "finance_integrity_alert_open", "Money movement blocked by blocking finance integrity alert."),
    (isLedgerVoided e, "ledger_row_voided",
      "Ledger row has been voided or superseded and cannot move through payout."),
    (decide (e.payoutStatus = .paid) && !isAdjustmentLine, "ledger_row_paid",
      "Ledger row already paid."),
    (refundRecords.any fun r => decide (batch.createdAt < r.createdAt),
      "refund_arrived_after_batch_creation", "Refund arrived after payout batch creation."),
    (isRefundOffsetRequired e || eligibilityRow.financeEntries.any fun s =>
      isRefundOffsetRequired s.entry, "refund_offset_required_before_payout",
      REFUND_OFFSET_REQUIRED_BEFORE_PAYOUT_REASON),
    (hasApprovedOpenReturnHold transitionRow, "approved_return_hold_active",
      "Approved return hold is active."),
    (hasActiveVendorBlockedFinanceHold view, "vendor_blocked_finance_hold_active",
      VENDOR_BLOCKED_FINANCE_HOLD_REASON),
    (hasActiveCustomerCancellationFinanceHold view, "customer_cancellation_pending",
      CUSTOMER_CANCELLATION_FINANCE_HOLD_REASON),
    (hasBlockingCancelRefundReviewStatus view, "cancel_refund_review_active",
      CANCEL_REFUND_REVIEW_HOLD_REASON),
    (decide (e.entryType ≠ .sale ∧ e.entryType ≠ .refund) ||
      (!isAdjustmentLine && decide (e.payoutStatus = .hold) &&
        decide (e.settlementHoldReason ≠ some REFUND_OFFSET_REQUIRED_BEFORE_PAYOUT_REASON)) ||
      (!isAdjustmentLine && !isFullOrderCancelled view &&
        !hasActiveCustomerCancellationFinanceHold view &&
        !hasBlockingCancelRefundReviewStatus view && isApproved &&
        !db.isEntryEligibleForPayoutBatch eligibilityRow true now),
      "ledger_row_no_longer_eligible", "Ledger row is no longer eligible for payout.")]

def ledgerRowBlockers (batch : PayoutBatch) (covered : List CoveredRefund) (l : EffectiveLine)
    (now : Instant) : List PayoutBatchTransitionBlocker :=
  let blockers := transitionBlockers l.payoutLine.id (some l.payoutLine.financeLedgerEntryId)
  match db.findLedger l.payoutLine.financeLedgerEntryId with
  | none => blockers [(true, "ledger_row_missing", "Ledger row no longer exists.")]
  | some e => blockers (db.ledgerRowChecks batch covered l.settlementLine e now)

/-- The blockers of the lines, each judged with the lines before it. -/
def lineBlockers (batch : PayoutBatch) (covered : List CoveredRefund) (now : Instant) :
    List Id → List EffectiveLine → List PayoutBatchTransitionBlocker
  | _, [] => []
  | seen, l :: lines =>
      db.settlementLineBlockers batch seen l ++ db.ledgerRowBlockers batch covered l now ++
        lineBlockers batch covered now ((l.settlementLine.map (·.id)).toList ++ seen) lines

/-! ## Corrections -/

/-- The payable that the batch's settlement lines bring from one settlement. -/
def effectivePayable (lines : List EffectiveLine) (settlementApprovalId : Id) : ℤ :=
  (lines.filterMap fun l => (l.settlementLine.filter fun s =>
    decide (s.settlementApprovalId = settlementApprovalId)).map (·.payableImpactMinor)).sum

/-- Whether a payout line is the only one that holds its source. -/
def holdsAlone (lines : List CorrectionPayoutLine) (p : CorrectionPayoutLine) : Bool :=
  lines.all fun q => !(decide (q.sourceLineId = p.sourceLineId) && payoutLineHolds q &&
    decide (q.id ≠ p.id))

/-- A credit or deduction line of the batch still matches its source and settlement. -/
def isCorrectionCurrent (batch : PayoutBatch) (sources : List CorrectionSource)
    (settlementLines : List CorrectionSettlementLine) (p : CorrectionPayoutLine) : Bool :=
  (settlementLines.find? fun l => decide (l.id = p.sourceLineId)).any fun line =>
    decide (p.status = .active) && decide (0 < p.amountMinor) && decide (line.status = .active) &&
    decide (line.amountMinor = p.amountMinor) &&
    (sources.find? fun s => decide (s.id = line.sourceId)).any (fun s =>
      decide (s.amountMinor = p.amountMinor) && decide (s.vendorId = batch.vendorId) &&
        decide (s.currency = batch.currency)) &&
    (db.findApproval line.settlementApprovalId).any (isApprovedFor batch)

/-- The source of a correction line must itself be consistent. -/
def assertCorrectionSource (assertSource : CorrectionSource → Except String Unit)
    (sources : List CorrectionSource) (settlementLines : List CorrectionSettlementLine)
    (p : CorrectionPayoutLine) : Except String Unit := do
  let line ← getOrThrow (settlementLines.find? fun l => decide (l.id = p.sourceLineId))
    "Correction settlement line not found."
  let source ← getOrThrow (sources.find? fun s => decide (s.id = line.sourceId))
    "Correction source not found."
  assertSource source

def creditChecks (batch : PayoutBatch) : List (Bool × String × String) :=
  let lines := correctionPayoutLinesOf batch.id db.correctionCreditPayoutLine
  [(decide (correctionTotalOf batch.id db.correctionCreditPayoutLine ≠
        toMinorUnits batch.correctionCreditAmount), "correction_credit_source_changed",
      "Correction credit payout total differs from its frozen sources."),
    (!lines.all (db.isCorrectionCurrent batch db.correctionCredit db.correctionCreditSettlementLine),
      "correction_credit_source_changed", "Correction credit source is no longer payable."),
    (!lines.all (holdsAlone db.correctionCreditPayoutLine),
      "correction_credit_membership_conflict",
      "Correction credit belongs to another active payout.")]

/-- The coverage of an approved deduction still matches the settlement it reduces. -/
def isCoverageCurrent (batch : PayoutBatch) (lines : List EffectiveLine)
    (p : CorrectionPayoutLine) : Bool :=
  (db.approvedDeductionCoverage.find? fun c => decide (c.id = p.sourceLineId)).any fun coverage =>
    (db.findApproval coverage.settlementApprovalId).any fun origin =>
      let ordinary := lines.filter fun l => l.settlementLine.any fun s =>
        decide (s.settlementApprovalId = origin.id)
      let ofOrigin := fun (source : CorrectionPayoutLine → Option CorrectionLineSource)
          (payoutLines : List CorrectionPayoutLine) =>
        (correctionPayoutLinesOf batch.id payoutLines).filter fun q =>
          (source q).any fun s => decide (s.settlementApprovalId = origin.id)
      let credits := ofOrigin db.creditLineSource db.correctionCreditPayoutLine
      let deductions := ofOrigin db.deductionLineSource db.correctionDeductionPayoutLine
      let signedNet := effectivePayable lines origin.id + (credits.map (·.amountMinor)).sum -
        (deductions.map (·.amountMinor)).sum
      decide (p.status = .active) && decide (p.amountMinor = coverage.amountMinor) &&
      holdsAlone db.approvedDeductionPayoutLine p &&
      decide (ordinary.length = (db.linesOf origin.id).length) &&
      decide (credits.length = ((db.creditLinesOf origin.id).filter fun l =>
        decide (l.status = .active)).length) &&
      decide (deductions.length = ((db.deductionLinesOf origin.id).filter fun l =>
        decide (l.status = .active)).length) &&
      decide (signedNet = origin.netPayableMinor) &&
      decide (((ofOrigin db.coverageSource db.approvedDeductionPayoutLine).map
        (·.amountMinor)).sum ≤ signedNet)

/-- The amounts that reduce the batch besides its deductions. -/
def batchDebtOffsetMinor (batchId : Id) : ℤ :=
  total (fun e => decide (e.payoutBatchId = some batchId) && decide (e.type = .vendorDebtOffset))
    (·.amountMinor) db.vendorBalanceEvent

def deductionChecks (batch : PayoutBatch) (lines : List EffectiveLine) (r1OffsetMinor : ℤ) :
    List (Bool × String × String) :=
  let deductionLines := correctionPayoutLinesOf batch.id db.correctionDeductionPayoutLine
  let coverageLines := correctionPayoutLinesOf batch.id db.approvedDeductionPayoutLine
  let deductionMinor := correctionTotalOf batch.id db.correctionDeductionPayoutLine +
    correctionTotalOf batch.id db.approvedDeductionPayoutLine
  let expectedNetMinor := ((db.batchLinesOf batch.id).map fun l =>
      toMinorUnits l.amountSnapshot).sum +
    correctionTotalOf batch.id db.correctionCreditPayoutLine - deductionMinor -
    db.batchDebtOffsetMinor batch.id - r1OffsetMinor
  let changed := "correction_deduction_source_changed"
  [(db.approvedDeductionCoverage.any fun c => decide (c.vendorId = batch.vendorId) &&
        decide (c.status = .active) &&
        lines.any (fun l => l.settlementLine.any fun s =>
          decide (s.settlementApprovalId = c.settlementApprovalId)) &&
        coverageLines.all fun p => decide (p.sourceLineId ≠ c.id), changed,
      "An approved-settlement deduction is missing from the payout."),
    (!coverageLines.all (db.isCoverageCurrent batch lines), changed,
      "Approved-settlement deduction coverage no longer matches this payout."),
    (decide (deductionMinor ≠ toMinorUnits batch.correctionDeductionAmount), changed,
      "Correction deduction payout total differs from its frozen sources."),
    (!deductionLines.all fun p =>
        db.isCorrectionCurrent batch db.correctionDeduction db.correctionDeductionSettlementLine p &&
        holdsAlone db.correctionDeductionPayoutLine p &&
        (db.deductionLineSource p).any fun s => decide (p.amountMinor ≤
          effectivePayable lines s.settlementApprovalId +
            correctionMinorOf batch.id s.settlementApprovalId db.correctionCreditPayoutLine
              db.creditLineSource), changed,
      "Correction deduction source is no longer valid for this payout."),
    (decide (0 < deductionMinor) && (decide (expectedNetMinor < 0) ||
        decide (expectedNetMinor ≠ toMinorUnits batch.netAmount)), changed,
      "Correction deduction payout does not reconcile to its frozen net amount.")]

/-! ## The validation -/

def validatePayoutBatchBeforeTransition (payoutBatchId : Id) (r1OffsetMinor : ℤ)
    (covered : List CoveredRefund) (now : Instant) : Except String Unit := do
  let batch ← getOrThrow (db.findBatch payoutBatchId) "Payout batch not found."
  let lines := db.effectiveLines payoutBatchId
  (correctionPayoutLinesOf batch.id db.correctionCreditPayoutLine).forM
    (assertCorrectionSource assertFinancialCorrectionCreditSource db.correctionCredit
      db.correctionCreditSettlementLine)
  (correctionPayoutLinesOf batch.id db.approvedDeductionPayoutLine).forM fun p => do
    let coverage ← getOrThrow (db.approvedDeductionCoverage.find? fun c =>
      decide (c.id = p.sourceLineId)) "APPROVED_DEDUCTION_COVERAGE_CHANGED"
    db.assertApprovedDeductionCoverage coverage
  (correctionPayoutLinesOf batch.id db.correctionDeductionPayoutLine).forM
    (assertCorrectionSource assertFinancialCorrectionDeductionSource db.correctionDeduction
      db.correctionDeductionSettlementLine)
  let blockers := db.lineBlockers batch covered now [] lines ++
    transitionBlockers payoutBatchId none (db.creditChecks batch) ++
    transitionBlockers payoutBatchId none (db.deductionChecks batch lines r1OffsetMinor)
  require (blockers.isEmpty)
    "Payout batch requires revision because financial facts changed after batch creation."

/-! ## What a validation certifies -/

variable {db}

lemma mem_lineBlockers_of_mem {batch : PayoutBatch} {covered : List CoveredRefund} {now : Instant}
    {lines : List EffectiveLine} {l : EffectiveLine} (hl : l ∈ lines) {seen : List Id}
    (h : db.lineBlockers batch covered now seen lines = []) :
    ∃ seen', db.settlementLineBlockers batch seen' l = [] ∧
      db.ledgerRowBlockers batch covered l now = [] := by
  induction lines generalizing seen with
  | nil => simp at hl
  | cons m lines ih =>
      simp only [lineBlockers, List.append_eq_nil_iff] at h
      rcases List.mem_cons.mp hl with rfl | hl
      · exact ⟨seen, h.1.1, h.1.2⟩
      · exact ih hl h.2

/-- **Every line of a validated batch** is a line of an approved settlement. -/
theorem validatePayoutBatchBeforeTransition_ok {payoutBatchId : Id} {r1OffsetMinor : ℤ}
    {covered : List CoveredRefund} {now : Instant} {u : Unit}
    (h : db.validatePayoutBatchBeforeTransition payoutBatchId r1OffsetMinor covered now = .ok u)
    {l : PayoutBatchLine} (hl : l ∈ db.batchLinesOf payoutBatchId) :
    ∃ s, (db.effectiveLine l).settlementLine = some s ∧
      db.approvalIsApproved s.settlementApprovalId = true := by
  simp only [validatePayoutBatchBeforeTransition, bind_eq_ok, getOrThrow_eq_ok,
    require_eq_ok, List.isEmpty_iff, List.append_eq_nil_iff] at h
  obtain ⟨batch, -, _, -, _, -, _, -, ⟨hlines, -⟩, -⟩ := h
  have hmem : db.effectiveLine l ∈ db.effectiveLines payoutBatchId := List.mem_map_of_mem hl
  obtain ⟨seen, hblockers, -⟩ := mem_lineBlockers_of_mem hmem hlines
  unfold settlementLineBlockers at hblockers
  dsimp only at hblockers
  split at hblockers
  · rename_i s hs
    refine ⟨s, hs, ?_⟩
    have hchecks := transitionBlockers_eq_nil.mp hblockers
    have := hchecks _ (List.mem_cons_of_mem _ List.mem_cons_self)
    simpa [approvalIsApproved] using this
  · split at hblockers <;> simp [transitionBlockers] at hblockers

end FinanceDb

end VendorDashboard.Finance

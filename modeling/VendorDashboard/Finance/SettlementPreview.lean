import VendorDashboard.Framework.Waterfall
import VendorDashboard.Finance.RefundArrival
import VendorDashboard.Finance.PayoutOffsetAuthority

/-!
# What a settlement draft would contain

`buildApprovalPreview` selects the rows, correction credits and correction deductions that a
draft would contain, builds the line of each row and adds the totals up.  `planAdjustments`
says how the vendor's outstanding refund adjustments are then applied to the draft, oldest
first, until the payable is used up: it is a waterfall over what each adjustment has left
unreserved.

Everything here is a query.  The source's preview also answers diagnostics for the admin page
and a balance summary, which no transaction reads.
-/

namespace VendorDashboard.Finance

open Table Text Transaction Waterfall

/-! ## The request -/

inductive CandidateScope
  | vendorWide | dateRange | selectedOrders | selectedAllocations
  deriving DecidableEq

/-- What a controlled replacement adds to the draft of its cancelled original. -/
structure SettlementReplacementAudit where
  originalSettlementApprovalId : Id
  lateRefundLedgerIds : List Id

structure SettlementApprovalInput where
  vendorId : Id
  periodStart : Option Instant
  periodEnd : Option Instant
  asOfDate : Option Instant
  selectedOrderIds : List String
  selectedShopifyOrderIds : List String
  selectedAllocationIds : List Id
  candidateScope : Option CandidateScope
  scheduledRunDate : Option Instant
  scheduledPeriodEnd : Option Instant
  scheduledCycleKey : Option String
  replacementAudit : Option SettlementReplacementAudit

def normalizeSelectionValues (values : List String) : List String :=
  ((values.map trim).filter fun v => v ≠ "").eraseDups

def normalizeOrderNumber (value : String) : String :=
  let trimmed := trim value
  if trimmed = "" ∨ trimmed.toList.head? = some '#' then trimmed else "#" ++ trimmed

def SettlementApprovalInput.requestedOrders (input : SettlementApprovalInput) : List String :=
  normalizeSelectionValues (input.selectedOrderIds ++ input.selectedShopifyOrderIds)

def determineCandidateScope (input : SettlementApprovalInput) : Except String CandidateScope :=
  if input.requestedOrders ≠ [] ∧ input.selectedAllocationIds ≠ [] then
    .error "Use selected orders or selected allocations, not both."
  else if input.candidateScope = some .selectedOrders then .ok .selectedOrders
  else if input.candidateScope = some .selectedAllocations then .ok .selectedAllocations
  else if input.candidateScope = some .dateRange then
    if input.periodStart = none ∧ input.periodEnd = none then
      .error "At least one period date is required for date range settlement candidate mode."
    else .ok .dateRange
  else if input.requestedOrders ≠ [] then .ok .selectedOrders
  else if input.selectedAllocationIds ≠ [] then .ok .selectedAllocations
  else if input.periodStart.isSome ∨ input.periodEnd.isSome then .ok .dateRange
  else .ok .vendorWide

def orderMatchesIdentifier (row : LedgerRow) (identifier : String) : Bool :=
  let orderId := (row.vendorAllocation.map (·.allocation.sourceShopifyOrderId)).getD ""
  let orderNumber := (row.vendorAllocation.map (·.allocation.sourceShopifyOrderNumber)).getD ""
  decide (orderId = identifier) || decide (orderNumber = identifier) ||
    decide (orderNumber = normalizeOrderNumber identifier)

def filterRowsByCandidateSelection (rows : List LedgerRow) (input : SettlementApprovalInput)
    (scope : CandidateScope) : List LedgerRow :=
  match scope with
  | .selectedOrders => rows.filter fun row =>
      input.requestedOrders.any fun identifier => orderMatchesIdentifier row identifier
  | .selectedAllocations => rows.filter fun row =>
      row.vendorAllocation.any fun v => decide (v.allocation.id ∈ input.selectedAllocationIds)
  | _ => rows

/-! ## Totals -/

structure SettlementMonetaryLine where
  lineType : SettlementApprovalLineType
  amountMinor : ℤ
  commissionMinor : ℤ
  commissionVatMinor : ℤ
  payableImpactMinor : ℤ

def SettlementApprovalLineDraft.monetary (l : SettlementApprovalLineDraft) :
    SettlementMonetaryLine :=
  ⟨l.lineType, l.amountMinor, l.commissionMinor, l.commissionVatMinor, l.payableImpactMinor⟩

def SettlementApprovalLine.monetary (l : SettlementApprovalLine) : SettlementMonetaryLine :=
  ⟨l.lineType, l.amountMinor, l.commissionMinor, l.commissionVatMinor, l.payableImpactMinor⟩

structure SettlementApprovalTotals where
  grossSalesMinor : ℤ
  refundTotalMinor : ℤ
  commissionMinor : ℤ
  commissionVatMinor : ℤ
  netPayableMinor : ℤ
  correctionCreditMinor : ℤ
  correctionDeductionMinor : ℤ
  deriving DecidableEq

def summarizeLines (lines : List SettlementMonetaryLine) : SettlementApprovalTotals where
  grossSalesMinor := total (fun l => decide (l.lineType = .sale)) (·.amountMinor) lines
  refundTotalMinor := total (fun l => decide (l.lineType = .refund)) (·.amountMinor) lines
  commissionMinor := (lines.map (·.commissionMinor)).sum
  commissionVatMinor := (lines.map (·.commissionVatMinor)).sum
  netPayableMinor := (lines.map (·.payableImpactMinor)).sum
  correctionCreditMinor := 0
  correctionDeductionMinor := 0

def summarizeSettlementTotals (lines : List SettlementMonetaryLine)
    (creditLines deductionLines : List ℤ) : SettlementApprovalTotals :=
  let lineTotals := summarizeLines lines
  { lineTotals with
    correctionCreditMinor := creditLines.sum
    correctionDeductionMinor := deductionLines.sum
    netPayableMinor := lineTotals.netPayableMinor + creditLines.sum - deductionLines.sum }

/-! ## Correction sources -/

/-- The payout evidence that the route of a credit requires or excludes. -/
def creditRouteEvidence (a : FinancialCorrectionAuthority) : Bool :=
  match a.applicationRoute with
  | .paidVendorCredit => a.historicalPayoutBatchId.isSome && a.historicalPayoutPaidAt.isSome
  | .beforeSettlementVendorCredit | .approvedSettlementVendorCredit =>
      a.historicalPayoutBatchId.isNone && a.historicalPayoutPaidAt.isNone
  | .draftPayoutVendorCredit | .reviewPayoutVendorCredit =>
      a.historicalPayoutBatchId.isSome && a.historicalPayoutPaidAt.isNone
  | _ => false

def assertFinancialCorrectionCreditSource (credit : CorrectionSource) : Except String Unit :=
  let a := credit.authority
  require (credit.currency = "TRY" ∧ 0 < credit.amountMinor ∧ a.vendorId = credit.vendorId ∧
      a.currency = "TRY" ∧ a.economicDirection = .vendorCredit ∧ creditRouteEvidence a ∧
      a.vendorPayableDifferenceMinor = -credit.amountMinor)
    "Financial Correction Credit authority is inconsistent."

def assertFinancialCorrectionDeductionSource (deduction : CorrectionSource) :
    Except String Unit :=
  let a := deduction.authority
  require (deduction.currency = "TRY" ∧ 0 < deduction.amountMinor ∧
      a.vendorId = deduction.vendorId ∧ a.currency = "TRY" ∧
      a.economicDirection = .vendorDeduction ∧
      a.applicationRoute = .beforeSettlementVendorDeduction ∧
      a.historicalPayoutBatchId = none ∧ a.historicalPayoutPaidAt = none ∧
      a.vendorPayableDifferenceMinor = deduction.amountMinor)
    "Financial Correction Deduction authority is inconsistent."

/-- Sources in the order of their creation, ties by identifier. -/
def sortCorrectionSources (l : List CorrectionSource) : List CorrectionSource :=
  l.insertionSort fun x y => x.createdAt < y.createdAt ∨ (x.createdAt = y.createdAt ∧ x.id ≤ y.id)

/-- The sources of `sources` that no active line of `lines` has taken. -/
def availableCorrectionSources (vendorId : Id) (sources : List CorrectionSource)
    (lines : List CorrectionSettlementLine) : List CorrectionSource :=
  sortCorrectionSources (sources.filter fun s =>
    decide (s.vendorId = vendorId) && decide (s.currency = "TRY") &&
      !lines.any fun l => decide (l.sourceId = s.id) && decide (l.status = .active))

/-! ## Outstanding adjustments -/

/-- What an adjustment still has left once the reservations on it are honoured. -/
def unreservedMinor (reservedFor : Id → ℤ) (a : SettlementRefundAdjustment) : ℤ :=
  a.remainingAmountMinor - reservedFor a.id

structure AdjustmentPlan where
  record : SettlementRefundAdjustment
  applyAmountMinor : ℤ

/-- Apply the adjustments in order until the payable is used up. -/
def planAdjustments (reservedFor : Id → ℤ) :
    ℤ → List SettlementRefundAdjustment → Except String (List AdjustmentPlan)
  | _, [] => .ok []
  | available, a :: records => do
      if available ≤ 0 then pure []
      else do
        require (0 ≤ unreservedMinor reservedFor a)
          "R1_REFUND_ADJUSTMENT_RESERVATION_EXCEEDS_REMAINING"
        let applyAmountMinor := min (unreservedMinor reservedFor a) available
        if applyAmountMinor ≤ 0 then planAdjustments reservedFor available records
        else do
          let plans ← planAdjustments reservedFor (available - applyAmountMinor) records
          pure (⟨a, applyAmountMinor⟩ :: plans)

/-- The plan is the waterfall over the unreserved amounts. -/
lemma planAdjustments_eq_waterfall {reservedFor : Id → ℤ} {available : ℤ}
    {records : List SettlementRefundAdjustment} {plans : List AdjustmentPlan}
    (h : planAdjustments reservedFor available records = .ok plans) :
    plans = (waterfall (unreservedMinor reservedFor) available records).map
      fun d => ⟨d.1, d.2⟩ := by
  induction records generalizing available plans with
  | nil =>
      simp only [planAdjustments, Except.ok.injEq] at h
      simp [← h]
  | cons a records ih =>
      unfold planAdjustments at h
      unfold waterfall
      split at h
      · rename_i hav
        rw [if_pos hav]
        simpa using (pure_eq_ok.mp h).symm
      · rename_i hav
        rw [if_neg hav]
        obtain ⟨-, -, h⟩ := bind_eq_ok.mp h
        simp only at h
        split at h
        · rename_i hmin
          rw [if_pos hmin]
          exact ih h
        · rename_i hmin
          obtain ⟨rest, hrest, h⟩ := bind_eq_ok.mp h
          rw [if_neg hmin, ← pure_eq_ok.mp h, ih hrest]
          rfl

def buildRefundAdjustmentLine (p : AdjustmentPlan) : SettlementApprovalLineDraft where
  financeLedgerEntryId := p.record.refundFinanceLedgerEntryId
  lineType := .refundAdjustment
  amountMinor := p.applyAmountMinor
  commissionMinor := 0
  commissionVatMinor := 0
  payableImpactMinor := -p.applyAmountMinor
  snapshotRefundCount := 1
  snapshotAdjustmentId := some p.record.id

namespace FinanceDb

variable (db : FinanceDb)

/-! ## The preview -/

/-- The ledger rows that a draft may take, oldest first. -/
def candidateLedgerRows (input : SettlementApprovalInput) : List LedgerRow :=
  ((db.financeLedgerEntry.filter fun e =>
    decide (e.vendorId = input.vendorId) && decide (e.voidedAt = none) &&
      decide (e.entryType = .sale ∨ e.entryType = .refund) &&
      input.periodStart.all (fun start => decide (start ≤ e.createdAt)) &&
      input.periodEnd.all (fun stop => decide (e.createdAt ≤ stop))).insertionSort
    fun x y => x.createdAt ≤ y.createdAt).map db.settlementLedgerRow

/-- The rows a draft takes: eligible, free of blocking alerts and not in an active
settlement. -/
def unapprovedRows (input : SettlementApprovalInput) (scope : CandidateScope) (now : Instant) :
    List LedgerRow :=
  (filterRowsByCandidateSelection (db.candidateLedgerRows input) input scope).filter fun row =>
    rowIsEligible row none (input.asOfDate.getD now) &&
      (db.getBlockingIntegrityAlertsForRow row).isEmpty && !rowHasActiveApproval row

def getAvailableFinancialCorrectionCredits (vendorId : Id) :
    Except String (List CorrectionSource) := do
  let credits := availableCorrectionSources vendorId db.correctionCredit
    db.correctionCreditSettlementLine
  credits.forM assertFinancialCorrectionCreditSource
  pure credits

def getAvailableFinancialCorrectionDeductions (vendorId : Id) :
    Except String (List CorrectionSource) := do
  let deductions := availableCorrectionSources vendorId
    (db.correctionDeduction.filter fun s =>
      decide (s.authority.applicationRoute = .beforeSettlementVendorDeduction))
    db.correctionDeductionSettlementLine
  deductions.forM assertFinancialCorrectionDeductionSource
  pure deductions

/-- The vendor's adjustments that still have something to apply, oldest first. -/
def previewPendingRefundAdjustmentApplication (vendorId : Id) (currencyCode : String) :
    List SettlementRefundAdjustment :=
  ((db.settlementRefundAdjustment.filter fun a =>
    decide (a.vendorId = vendorId) &&
      decide (a.status = .pending ∨ a.status = .partiallyApplied) &&
      decide (0 < a.remainingAmountMinor) && decide (a.currencyCode = currencyCode)).insertionSort
    fun x y => x.createdAt ≤ y.createdAt).take 100

structure SettlementApprovalPreview where
  candidateScope : CandidateScope
  lines : List SettlementApprovalLineDraft
  correctionCredits : List CorrectionSource
  correctionDeductions : List CorrectionSource
  netPayableMinor : ℤ
  pendingRefundAdjustments : List SettlementRefundAdjustment

def buildApprovalPreview (input : SettlementApprovalInput) (now : Instant) :
    Except String SettlementApprovalPreview := do
  let scope ← determineCandidateScope input
  let lines := (db.unapprovedRows input scope now).map buildLine
  let correctionCredits ←
    if scope = .vendorWide then db.getAvailableFinancialCorrectionCredits input.vendorId
    else pure []
  let correctionDeductions ← db.getAvailableFinancialCorrectionDeductions input.vendorId
  require (scope = .vendorWide ∨ correctionDeductions.isEmpty)
    "A pending Financial Correction deduction requires a vendor-wide settlement draft."
  let totals := summarizeSettlementTotals (lines.map (·.monetary))
    (correctionCredits.map (·.amountMinor)) (correctionDeductions.map (·.amountMinor))
  require (totals.correctionDeductionMinor ≤ 0 ∨ 0 ≤ totals.netPayableMinor)
    "INSUFFICIENT_PAYABLE_FOR_FULL_DEDUCTION"
  pure { candidateScope := scope
         lines
         correctionCredits
         correctionDeductions
         netPayableMinor := totals.netPayableMinor
         pendingRefundAdjustments :=
           db.previewPendingRefundAdjustmentApplication input.vendorId "TRY" }

/-! ## Reading a preview back -/

variable {db}

lemma mem_previewPendingRefundAdjustmentApplication {vendorId : Id} {currencyCode : String}
    {a : SettlementRefundAdjustment}
    (h : a ∈ db.previewPendingRefundAdjustmentApplication vendorId currencyCode) :
    a ∈ db.settlementRefundAdjustment ∧ a.vendorId = vendorId ∧
      (a.status = .pending ∨ a.status = .partiallyApplied) ∧ 0 < a.remainingAmountMinor ∧
        a.currencyCode = currencyCode := by
  unfold previewPendingRefundAdjustmentApplication at h
  have h := List.mem_of_mem_take h
  rw [List.mem_insertionSort, List.mem_filter] at h
  simpa [and_assoc] using h

/-- The pending adjustments are different rows. -/
lemma nodup_previewPendingRefundAdjustmentApplication
    (hu : KeyUnique SettlementRefundAdjustment.id db.settlementRefundAdjustment) (vendorId : Id)
    (currencyCode : String) : KeyUnique SettlementRefundAdjustment.id
      (db.previewPendingRefundAdjustmentApplication vendorId currencyCode) := by
  unfold previewPendingRefundAdjustmentApplication KeyUnique
  rw [List.map_take]
  refine List.Nodup.sublist (List.take_sublist _ _) ?_
  refine ((List.perm_insertionSort _ _).map _).nodup_iff.mpr ?_
  exact List.Nodup.sublist (List.Sublist.map _ List.filter_sublist) hu

lemma buildApprovalPreview_ok {input : SettlementApprovalInput} {now : Instant}
    {preview : SettlementApprovalPreview} (h : db.buildApprovalPreview input now = .ok preview) :
    determineCandidateScope input = .ok preview.candidateScope ∧
      preview.lines = (db.unapprovedRows input preview.candidateScope now).map buildLine ∧
      preview.pendingRefundAdjustments =
        db.previewPendingRefundAdjustmentApplication input.vendorId "TRY" := by
  unfold buildApprovalPreview at h
  obtain ⟨scope, hscope, h⟩ := bind_eq_ok.mp h
  dsimp only at h
  split at h <;>
  · simp only [bind_eq_ok, require_eq_ok, pure_eq_ok] at h
    obtain ⟨_, -, _, -, _, -, _, -, rfl⟩ := h
    exact ⟨hscope, rfl, rfl⟩

/-- A row that a draft takes. -/
lemma mem_unapprovedRows {input : SettlementApprovalInput} {scope : CandidateScope}
    {now : Instant} {row : LedgerRow} (h : row ∈ db.unapprovedRows input scope now) :
    ∃ e ∈ db.financeLedgerEntry, row = db.settlementLedgerRow e ∧ e.vendorId = input.vendorId ∧
      e.voidedAt = none ∧ rowIsEligible row none (input.asOfDate.getD now) = true ∧
        rowHasActiveApproval row = false := by
  unfold unapprovedRows at h
  obtain ⟨hrow, hsel⟩ := List.mem_filter.mp h
  have hcand : row ∈ db.candidateLedgerRows input := by
    unfold filterRowsByCandidateSelection at hrow
    split at hrow
    · exact (List.mem_filter.mp hrow).1
    · exact (List.mem_filter.mp hrow).1
    · exact hrow
  unfold candidateLedgerRows at hcand
  obtain ⟨e, he, rfl⟩ := List.mem_map.mp hcand
  rw [List.mem_insertionSort, List.mem_filter] at he
  simp only [Bool.and_eq_true, decide_eq_true_eq] at he
  simp only [Bool.and_eq_true, Bool.not_eq_true'] at hsel
  exact ⟨e, he.1, rfl, he.2.1.1.1.1, he.2.1.1.1.2, hsel.1.1, hsel.2⟩

end FinanceDb

end VendorDashboard.Finance

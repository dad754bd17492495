import VendorDashboard.Finance.PayoutOffsetLifecycle

/-!
# Refunds around an R1 payout

Which refunds on the sales of an R1 batch need not stop it: those that a claim of the batch
covers (`proveR1ClaimCoveredRefunds`), and, once the bank transfer was sent, those that arrived
after the batch was prepared and whose adjustment stays outstanding
(`proveR1MissedRefundsForSentEft`).
-/

namespace VendorDashboard.Finance

open Table Transaction

/-- A refund that need not stop its sale: the sale, the refund's row and its record. -/
structure CoveredRefund where
  saleLedgerId : Id
  refundLedgerId : Id
  refundRecordId : Id

structure R1EftRefundTiming where
  beforeEftRefundLedgerIds : List Id
  afterEftRefundLedgerIds : List Id
  /-- Some refund's timing could not be told. -/
  hasUnknown : Bool

inductive RefundTiming
  | unknown | unrelated | beforeEft | afterEft
  deriving DecidableEq

/-- The evidence of a refund row agrees with its record and with the batch. -/
def isTimingAligned (batch : PayoutBatch) (records : List RefundRecord)
    (ledger : FinanceLedgerEntry) (evidence : RefundEvidenceSnapshot) : Bool :=
  (records.find? fun r => decide (r.id = evidence.refundRecordId)).any (fun record =>
    decide (some record.vendorAllocationId = ledger.vendorAllocationId ∧
      record.sourceShopifyRefundId = evidence.sourceShopifyRefundId ∧
      record.sourceShopifyOrderId = evidence.sourceShopifyOrderId ∧ record.processed)) &&
  decide (ledger.id = evidence.refundFinanceLedgerEntryId ∧ ledger.vendorId = batch.vendorId ∧
    evidence.historicalEconomicVendorId = batch.vendorId ∧ evidence.currency = batch.currency ∧
    evidence.monetaryRefund ∧ some evidence.vendorAllocationId = ledger.vendorAllocationId)

def refundTimingOf (batch : PayoutBatch) (sales : List FinanceLedgerEntry)
    (records : List RefundRecord) (eftExecutedAt : Instant) (ledger : FinanceLedgerEntry) :
    RefundTiming :=
  match ledger.refundEvidenceSnapshot.filter (isTimingAligned batch records ledger) with
  | none => .unknown
  | some evidence =>
      match sales.find? fun s => decide (s.id = evidence.historicalSaleFinanceLedgerEntryId) with
      | none => .unrelated
      | some sale =>
          if sale.vendorAllocationId ≠ ledger.vendorAllocationId then .unknown
          else if evidence.capturedAt < eftExecutedAt then .beforeEft
          else if eftExecutedAt < evidence.capturedAt then .afterEft
          else .unknown

namespace FinanceDb

variable (db : FinanceDb)

/-- The sale rows of a batch. -/
def batchSales (payoutBatchId : Id) : List FinanceLedgerEntry :=
  (db.batchLinesOf payoutBatchId).filterMap fun l =>
    (db.findLedger l.financeLedgerEntryId).filter fun e => decide (e.entryType = .sale)

def classifyR1EftRefundTiming (payoutBatchId : Id) (eftExecutedAt : Instant) :
    Except String R1EftRefundTiming := do
  let batch ← getOrThrow (db.findBatch payoutBatchId) "R1_EFT_PAYOUT_BATCH_MISSING"
  let sales := db.batchSales payoutBatchId
  require (sales.all fun s => decide (s.vendorId = batch.vendorId) && s.vendorAllocationId.isSome)
    "R1_EFT_SALE_AUTHORITY_CONFLICT"
  let allocationIds : List Id := sales.filterMap (·.vendorAllocationId)
  let records := (db.vendorAllocation.filter fun a => decide (a.id ∈ allocationIds)).flatMap
    (·.refundRecords)
  let ledgers := db.financeLedgerEntry.filter fun e => decide (e.entryType = .refund) &&
    e.vendorAllocationId.any fun id => decide (id ∈ allocationIds)
  let timing := refundTimingOf batch sales records eftExecutedAt
  let linkedRecords := (ledgers.filter fun e => decide (timing e ≠ .unknown)).filterMap
    fun e => e.refundEvidenceSnapshot.map (·.refundRecordId)
  pure
    { beforeEftRefundLedgerIds := (ledgers.filter fun e => decide (timing e = .beforeEft)).map (·.id)
      afterEftRefundLedgerIds := (ledgers.filter fun e => decide (timing e = .afterEft)).map (·.id)
      hasUnknown := ledgers.any (fun e => decide (timing e = .unknown)) ||
        records.any fun r => decide (r.id ∉ linkedRecords) }

/-- The settlement line that a batch pays on a ledger row. -/
def lineBySale (payoutBatchId ledgerId : Id) : Option Id :=
  (((db.batchLinesOf payoutBatchId).filter fun l =>
    decide (l.financeLedgerEntryId = ledgerId)).getLast?).bind (·.settlementApprovalLineId)

/-- The refund of the batch's own sales that one claim covers. -/
def claimCoveredRefund (batch : PayoutBatch) (claims : List PayoutOffsetClaim)
    (claim : PayoutOffsetClaim) : Except String (Option CoveredRefund) := do
  let changed := "R1_CLAIM_COVERED_REFUND_AUTHORITY_CHANGED"
  let adjustmentId ← getOrThrow claim.settlementRefundAdjustmentId
    "R1_CLAIM_COVERED_REFUND_IDENTITY_MISSING"
  let adjustment ← getOrThrow (db.findAdjustment adjustmentId) changed
  require (adjustment.vendorId = batch.vendorId ∧ adjustment.currencyCode = batch.currency) changed
  let ownLines := (db.batchLinesOf batch.id).map fun l =>
    db.lineBySale batch.id l.financeLedgerEntryId
  if adjustment.originalSettlementApprovalLineId ∉ ownLines then pure none
  else do
    let snapshot ← getOrThrow (db.acceptedSnapshot adjustment.refundFinanceLedgerEntryId) changed
    require (snapshot.refundRecordId = adjustment.refundRecordId ∧
      db.lineBySale batch.id snapshot.historicalSaleFinanceLedgerEntryId =
        adjustment.originalSettlementApprovalLineId ∧
      claimSum (claims.filter fun c => decide (c.settlementRefundAdjustmentId = some adjustmentId)) =
        adjustment.remainingAmountMinor) changed
    pure (some ⟨snapshot.historicalSaleFinanceLedgerEntryId, adjustment.refundFinanceLedgerEntryId,
      adjustment.refundRecordId⟩)

def proveR1ClaimCoveredRefunds (payoutBatchId : Id) : Except String (List CoveredRefund) := do
  let batch ← getOrThrow (db.findBatch payoutBatchId) "R1_CLAIM_COVERED_REFUND_BATCH_MISSING"
  let claims := (db.claimsOf payoutBatchId).filter fun c =>
    decide (c.status = .reserved) && decide (c.sourceType = .refundAdjustment)
  let covered ← claims.mapM (db.claimCoveredRefund batch claims)
  pure (covered.filterMap id)

/-- A refund that arrived after the batch was prepared must have a verified, still outstanding
adjustment of its own. -/
def missedRefund (batch : PayoutBatch) (eftExecutedAt : Instant)
    (diagnostic : PayoutOffsetAuthorityDiagnostics) (refundLedgerId : Id) :
    Except String CoveredRefund := do
  let notVerified := "R1_MISSED_REFUND_ROUTE_NOT_VERIFIED"
  let snapshot ← getOrThrow (db.acceptedSnapshot refundLedgerId)
    "R1_MISSED_REFUND_ACCEPTED_EVIDENCE_MISSING"
  let approvalLineId ← getOrThrow
    (if (db.batchSales batch.id).any fun s =>
        decide (s.id = snapshot.historicalSaleFinanceLedgerEntryId) then
      db.lineBySale batch.id snapshot.historicalSaleFinanceLedgerEntryId
    else none) "R1_MISSED_REFUND_SALE_LINEAGE_CHANGED"
  require (batch.createdAt < snapshot.capturedAt) "R1_REFUND_PREDATES_PAYOUT_MISSING_OFFSET"
  require (snapshot.capturedAt ≠ eftExecutedAt) "R1_EFT_REFUND_TIMING_UNKNOWN"
  let adjustment ← getOrThrow (db.adjustmentOfRefund refundLedgerId) notVerified
  let route ← getOrThrow (diagnostic.sources.find? fun s =>
    decide (s.sourceType = .refundAdjustment) && decide (s.sourceId = adjustment.id)) notVerified
  require (adjustment.vendorId = batch.vendorId ∧ adjustment.currencyCode = batch.currency ∧
    adjustment.refundRecordId = snapshot.refundRecordId ∧
    adjustment.originalSettlementApprovalLineId = some approvalLineId ∧
    route.status = .verified ∧ route.refundFinanceLedgerEntryId = some refundLedgerId ∧
    route.remainingAmountMinor = some adjustment.remainingAmountMinor ∧
    db.hasDirectRefundLine refundLedgerId = false ∧
    db.vendorBalanceEvent.all fun e => !(decide (e.vendorId = batch.vendorId) &&
      decide (e.financeLedgerEntryId = some refundLedgerId) &&
      decide (e.type = .vendorDebtCreated))) notVerified
  pure ⟨snapshot.historicalSaleFinanceLedgerEntryId, refundLedgerId, snapshot.refundRecordId⟩

def proveR1MissedRefundsForSentEft (payoutBatchId : Id) (eftExecutedAt : Instant) :
    Except String (List CoveredRefund) := do
  let batch ← getOrThrow (db.findBatch payoutBatchId) "R1_MISSED_REFUND_BATCH_MISSING"
  require (¬(db.batchLinesOf payoutBatchId).isEmpty) "R1_MISSED_REFUND_BATCH_MISSING"
  let timing ← db.classifyR1EftRefundTiming payoutBatchId eftExecutedAt
  require (timing.hasUnknown = false) "R1_EFT_REFUND_TIMING_UNKNOWN"
  let claimCovered ← db.proveR1ClaimCoveredRefunds payoutBatchId
  let refundLines := (db.batchLinesOf payoutBatchId).filter fun l =>
    (db.settlementLineOf l).any (fun s => decide (s.lineType ≠ .sale)) &&
      (db.findLedger l.financeLedgerEntryId).any fun e => decide (e.entryType = .refund)
  let represented := refundLines.map (·.financeLedgerEntryId) ++ claimCovered.map (·.refundLedgerId)
  let refundIds : List Id := (timing.beforeEftRefundLedgerIds ++ timing.afterEftRefundLedgerIds).filter
    fun id => decide (id ∉ represented)
  if refundIds.isEmpty then pure claimCovered
  else do
    let diagnostic := db.reconcilePayoutOffsetAuthority batch.vendorId batch.currency
    require (diagnostic.status = .verified) "R1_MISSED_REFUND_ROUTE_NOT_VERIFIED"
    let missed ← refundIds.mapM (db.missedRefund batch eftExecutedAt diagnostic)
    pure (claimCovered ++ missed)

end FinanceDb

end VendorDashboard.Finance

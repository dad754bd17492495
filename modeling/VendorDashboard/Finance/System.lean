import VendorDashboard.Framework.Run
import VendorDashboard.Finance.SettlementDraft
import VendorDashboard.Finance.SettlementCancel
import VendorDashboard.Finance.PayoutCompletion

/-!
# The finance system

One action per transaction that writes the finance tables, and `step`, which runs it.  A run is
any sequence of actions in any order, each of which commits: the transactions are taken to be
serial.  The writers of settlements are `Serializable`, an ordinary approval by that alone; most
writers of payouts are so too, and all of them lock the vendor's row.  The ingestion of a refund
runs at the default isolation and locks the vendors of its items.

Besides the modelled services there are the actions of the rest of the application
(`recordSale`, `updateAllocation`, the alerts, invoices, reviews and financial corrections).  A
sale is a fresh allocation with one pending sale row, and everything else about the allocation may
change at any time.  The writers that change a sale row afterwards are left out: the second upsert
of the sale ledger, the economic transfer and the allocation split.
-/

namespace VendorDashboard.Finance

open Table Transaction Run

inductive Action
  | recordSale (allocation : VendorAllocation) (sale : FinanceLedgerEntry)
  | updateAllocation (allocation : VendorAllocation)
  | setFinanceIntegrityAlerts (alerts : List FinanceIntegrityAlert)
  | setCommissionInvoices (invoices : List SettlementCommissionInvoice)
  | setTerminalEvidenceReviews (reviews : List RefundTerminalEvidenceReview)
  | recordCorrectionCredit (source : CorrectionSource)
  | recordCorrectionDeduction (source : CorrectionSource)
  | recordApprovedDeductionCoverage (coverage : ApprovedDeductionCoverage)
  | chargePaidCorrection (eventId : Id) (authority : FinancialCorrectionAuthority)
      (authorizedDebtMinor : ℤ)
  | ingestRefund (refund : FinanceDb.RefundArrival)
  | createDraftApproval (input : SettlementApprovalInput) (ids : DraftIds) (now : Instant)
  | approveSettlement (id firstAdjustmentId : Id) (now : Instant)
  | cancelSettlement (id : Id)
  | preparePayout (vendorId : Id) (ids : PayoutBatchIds) (now : Instant)
  | prepareR1Payout (vendorId actorId requestId : Id) (ids : PayoutBatchIds) (now : Instant)
  | prepareAdminPayout (vendorId actorId requestId : Id) (ids : PayoutBatchIds) (now : Instant)
  | reservePayoutOffsets (input : FinanceDb.ReservationInput) (now : Instant)
  | markPayoutReview (batchId : Id) (now : Instant)
  | markR1PayoutReview (batchId : Id) (now : Instant)
  | cancelDraftPayout (batchId : Id) (actorId : Option Id)
  | cancelReviewPayout (batchId : Id)
  | cancelR1ReviewPayout (batchId actorUserId : Id)
  | cancelPayout (batchId : Id) (actorId : Option Id)
  | completeCashlessPayout (batchId firstEventId : Id) (now : Instant)
  | markPayoutPaid (batchId : Id) (evidence : PaymentEvidence) (now : Instant)
  | markR1PayoutPaid (batchId : Id) (evidence : PaymentEvidence) (actualEftAmountMinor : ℤ)
      (firstEventId : Id) (now : Instant)

namespace FinanceDb

variable (db : FinanceDb)

/-- A new allocation with its sale row. -/
def recordSale (allocation : VendorAllocation) (sale : FinanceLedgerEntry) :
    Except String FinanceDb := do
  require (allocation.refundRecords.isEmpty ∧ sale.vendorAllocationId = some allocation.id ∧
    sale.entryType = .sale ∧ sale.payoutStatus = .pending ∧ sale.settledAt = none ∧
    sale.voidedAt = none ∧ sale.refundEvidenceSnapshot.isNone) "Sale ledger is not pending."
  let allocations ← insertRows VendorAllocation.id db.vendorAllocation [allocation]
    UNIQUE_CONSTRAINT_FAILED
  let entries ← insertRows FinanceLedgerEntry.id db.financeLedgerEntry [sale]
    UNIQUE_CONSTRAINT_FAILED
  pure { db with vendorAllocation := allocations, financeLedgerEntry := entries }

/-- The operational state of an allocation changes; its identity and its refunds stay. -/
def updateAllocation (allocation : VendorAllocation) : FinanceDb :=
  { db with
    vendorAllocation := updateWhere (fun a => decide (a.id = allocation.id))
      (fun a => { allocation with
        sourceShopifyOrderId := a.sourceShopifyOrderId
        sourceShopifyOrderNumber := a.sourceShopifyOrderNumber
        orderId := a.orderId
        orderCurrency := a.orderCurrency
        refundRecords := a.refundRecords }) db.vendorAllocation }

def recordCorrectionCredit (source : CorrectionSource) : Except String FinanceDb := do
  let sources ← insertRows CorrectionSource.id db.correctionCredit [source]
    UNIQUE_CONSTRAINT_FAILED
  pure { db with correctionCredit := sources }

def recordCorrectionDeduction (source : CorrectionSource) : Except String FinanceDb := do
  let sources ← insertRows CorrectionSource.id db.correctionDeduction [source]
    UNIQUE_CONSTRAINT_FAILED
  pure { db with correctionDeduction := sources }

def recordApprovedDeductionCoverage (coverage : ApprovedDeductionCoverage) :
    Except String FinanceDb := do
  let coverages ← insertRows ApprovedDeductionCoverage.id db.approvedDeductionCoverage [coverage]
    UNIQUE_CONSTRAINT_FAILED
  pure { db with approvedDeductionCoverage := coverages }

end FinanceDb

/-- Run one transaction. -/
def step (a : Action) (db : FinanceDb) : Except String FinanceDb :=
  match a with
  | .recordSale allocation sale => db.recordSale allocation sale
  | .updateAllocation allocation => .ok (db.updateAllocation allocation)
  | .setFinanceIntegrityAlerts alerts => .ok { db with financeIntegrityAlert := alerts }
  | .setCommissionInvoices invoices => .ok { db with settlementCommissionInvoice := invoices }
  | .setTerminalEvidenceReviews reviews =>
      .ok { db with refundTerminalEvidenceReview := reviews }
  | .recordCorrectionCredit source => db.recordCorrectionCredit source
  | .recordCorrectionDeduction source => db.recordCorrectionDeduction source
  | .recordApprovedDeductionCoverage coverage => db.recordApprovedDeductionCoverage coverage
  | .chargePaidCorrection eventId authority authorizedDebtMinor =>
      db.createVendorDebtForPaidFinancialCorrection eventId authority authorizedDebtMinor
  | .ingestRefund refund => db.ingestRefund refund
  | .createDraftApproval input ids now => db.createDraftApprovalInTransaction input ids now
  | .approveSettlement id firstAdjustmentId now =>
      db.executeCanonicalSettlementApproval id firstAdjustmentId now
  | .cancelSettlement id => db.cancelSettlementApproval id
  | .preparePayout vendorId ids now => db.preparePayoutBatchInTransaction vendorId ids false now
  | .prepareR1Payout vendorId actorId requestId ids now =>
      db.prepareR1PayoutBatchInTransaction vendorId actorId requestId ids now
  | .prepareAdminPayout vendorId actorId requestId ids now =>
      db.prepareAdminPayoutBatchWithR1 vendorId actorId requestId ids now
  | .reservePayoutOffsets input now =>
      db.reserveVerifiedPayoutOffsetsInTransaction input false now
  | .markPayoutReview batchId now => db.markPayoutBatchReview batchId now
  | .markR1PayoutReview batchId now => db.markR1PayoutBatchReview batchId now
  | .cancelDraftPayout batchId actorId => db.cancelDraftPayoutBatchWithClient batchId actorId
  | .cancelReviewPayout batchId => db.cancelReviewPayoutBatchWithClient batchId
  | .cancelR1ReviewPayout batchId actorUserId =>
      db.cancelR1ReviewPayoutBeforeEft batchId actorUserId
  | .cancelPayout batchId actorId => db.cancelPayoutBatch batchId actorId
  | .completeCashlessPayout batchId firstEventId now =>
      db.completeR1CashlessPayout batchId firstEventId now
  | .markPayoutPaid batchId evidence now => db.markPayoutBatchPaid batchId evidence now
  | .markR1PayoutPaid batchId evidence actualEftAmountMinor firstEventId now =>
      db.markR1PayoutBatchPaid batchId evidence actualEftAmountMinor firstEventId now

/-- The states that runs of admitted actions reach from the empty database. -/
def ReachableWith (ok : FinanceDb → Action → Prop) (db : FinanceDb) : Prop :=
  Reachable (fun s => s = FinanceDb.empty) (Commits step ok) db

/-- The states that any run reaches. -/
def ReachableDb (db : FinanceDb) : Prop := ReachableWith (fun _ _ => True) db

/-- **The invariant rule** of the system. -/
theorem ReachableWith.invariant {ok : FinanceDb → Action → Prop} {P : FinanceDb → Prop}
    (hempty : P FinanceDb.empty)
    (hstep : ∀ s a t, ReachableWith ok s → P s → ok s a → step a s = .ok t → P t)
    {db : FinanceDb} (h : ReachableWith ok db) : P db := by
  refine Reachable.invariant (fun s hs => hs ▸ hempty) ?_ h
  rintro s t hr hp ⟨a, hok, ha⟩
  exact hstep s a t hr hp hok ha

/-- An executed script ends in a reachable state. -/
lemma reachableWith_of_runActions {ok : FinanceDb → Action → Prop} {acts : List Action}
    {db : FinanceDb} (hok : ∀ a ∈ acts, ∀ s, ok s a)
    (h : runActions step acts FinanceDb.empty = .ok db) : ReachableWith ok db :=
  reachable_of_runActions (.start rfl) hok h

end VendorDashboard.Finance

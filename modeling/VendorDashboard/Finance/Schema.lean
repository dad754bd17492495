import VendorDashboard.Framework.Table
import Mathlib.Data.Rat.Defs

/-!
# The finance tables

The rows that the settlement, refund-adjustment and payout services read and write, under the
column names of the database schema.  A row keeps the columns that some modelled query or guard
reads; descriptive columns, audit events and denormalised labels that nothing reads are left
out.

* Identifiers are opaque (`cuid`s in the source) and only ever compared, so they are numbers.
  Shopify order ids and order numbers stay strings, because an admin selects rows by them.
* Instants are milliseconds since the epoch.
* `Decimal` columns are exact rationals; `…Minor` columns are integer minor units.
* Relations that have exactly one owner and are only read through it (an allocation's refund
  and return records, its delivered observation, a refund row's accepted evidence snapshot) are
  nested in the owner.
* `entryType` is a free text column; every writer in the finance services stores `sale` or
  `refund` and every reader normalises case and blanks first, so the row holds the normalised
  value.
-/

namespace VendorDashboard.Finance

/-- An opaque row identifier. -/
abbrev Id := ℕ

/-- Milliseconds since the epoch. -/
abbrev Instant := ℤ

/-! ## Enumerations -/

inductive EntryType
  | sale | refund | other
  deriving DecidableEq

inductive PayoutStatus
  | pending | approved | paid | hold | cashlessCompleted
  deriving DecidableEq

inductive SettlementStatus
  | pending | accruing | payable | partiallyRefunded | held | settled | disputed
  | cashlessCompleted
  deriving DecidableEq

inductive ShippingMode
  | disabled | fixed | externalProvider
  deriving DecidableEq

inductive VendorOutboundMethod
  | kargonomi | vendorIntegration
  deriving DecidableEq

inductive VendorIntegrationProviderCode
  | sopyo
  deriving DecidableEq

inductive AllocationStatus
  | active | vendorBlocked | pendingReassignment | reassigned | fulfilled
  deriving DecidableEq

/-- `VendorAllocation.cancelRefundReviewStatus`, normalised as every reader normalises it. -/
inductive CancelRefundReviewStatus
  | pendingReview | customerContacted | shopifyActionPending | resolved | other
  deriving DecidableEq

inductive CustomerCancellationStatus
  | pending | partiallyResolved | approvedForRefund | refundedAwaitingOrderCancel
  | approved | declined | tooLate | conflicted
  deriving DecidableEq

inductive ReturnStatus
  | approved | processed | other
  deriving DecidableEq

inductive SettlementApprovalStatus
  | draft | approved | cancelled
  deriving DecidableEq

inductive SettlementApprovalLineType
  | sale | refund | refundAdjustment
  deriving DecidableEq

inductive SettlementRefundAdjustmentStatus
  | pending | partiallyApplied | applied | blocked | cancelled
  deriving DecidableEq

inductive ApplicationStatus
  | active | cancelled
  deriving DecidableEq

inductive InvoiceStatus
  | pending | created | failed | cancelled | unknown
  deriving DecidableEq

inductive PayoutBatchStatus
  | draft | review | approved | cancelled | executionPending | paid | paidPlaceholder
  | cashlessCompleted
  deriving DecidableEq

inductive VendorBalanceEventType
  | payableEarned | vendorDebtCreated | vendorDebtOffset | manualAdjustment | debtWaived
  deriving DecidableEq

inductive PayoutOffsetSourceType
  | refundAdjustment | vendorDebt
  deriving DecidableEq

inductive PayoutOffsetClaimStatus
  | reserved | finalized | released
  deriving DecidableEq

/-- The status text of a correction line. -/
inductive CorrectionLineStatus
  | active | cancelled | paid
  deriving DecidableEq

inductive EconomicDirection
  | vendorCredit | vendorDeduction | other
  deriving DecidableEq

inductive ApplicationRoute
  | paidVendorCredit | beforeSettlementVendorCredit | approvedSettlementVendorCredit
  | draftPayoutVendorCredit | reviewPayoutVendorCredit
  | beforeSettlementVendorDeduction | approvedSettlementVendorDeduction
  | draftPayoutVendorDeduction | reviewPayoutVendorDeduction
  | paidVendorDebt | other
  deriving DecidableEq

inductive AlertSeverity
  | info | warning | critical
  deriving DecidableEq

inductive AlertStatus
  | open | acknowledged | resolved
  deriving DecidableEq

/-! ## Orders, allocations and the ledger -/

structure DeliveredObservation where
  vendorAllocationId : Id
  outboundMethod : VendorOutboundMethod
  outboundIntegrationProvider : Option VendorIntegrationProviderCode
  firstObservedDeliveredAt : Instant

structure RefundRecord where
  id : Id
  vendorAllocationId : Id
  sourceShopifyRefundId : Id
  sourceShopifyOrderId : String
  amount : Option ℚ
  /-- `status = 'processed'`. -/
  processed : Bool
  createdAt : Instant

structure ReturnRecord where
  id : Id
  status : ReturnStatus
  /-- `none` when the lifecycle status is blank. -/
  returnLifecycleStatus : Option ReturnStatus
  /-- `sourceShopifyRefundId` is present and not blank. -/
  hasShopifyRefundId : Bool

structure CustomerCancellationRequestItem where
  status : CustomerCancellationStatus
  requestStatus : CustomerCancellationStatus

structure VendorAllocation where
  id : Id
  sourceShopifyOrderId : String
  sourceShopifyOrderNumber : String
  /-- `order.id`; `none` when the order row is missing. -/
  orderId : Option Id
  orderCurrency : String
  orderCancelledAt : Option Instant
  allocationStatus : AllocationStatus
  cancelRefundReviewStatus : Option CancelRefundReviewStatus
  customerCancellationRequestItems : List CustomerCancellationRequestItem
  fulfillmentStatus : String
  shippingStatus : String
  fulfilledAt : Option Instant
  outboundMethodSnapshot : Option VendorOutboundMethod
  outboundIntegrationProviderSnapshot : Option VendorIntegrationProviderCode
  deliveredObservation : Option DeliveredObservation
  refundRecords : List RefundRecord
  returnRecords : List ReturnRecord

/-- The accepted evidence snapshot of a refund ledger row. -/
structure RefundEvidenceSnapshot where
  sourceShopifyRefundId : Id
  sourceShopifyOrderId : String
  vendorAllocationId : Id
  refundRecordId : Id
  refundFinanceLedgerEntryId : Id
  historicalEconomicVendorId : Id
  historicalSaleFinanceLedgerEntryId : Id
  /-- `monetaryClassification = 'MONETARY_REFUND'`. -/
  monetaryRefund : Bool
  refundTotalAmount : ℚ
  currency : String
  capturedAt : Instant

structure FinanceLedgerEntry where
  id : Id
  vendorAllocationId : Option Id
  vendorId : Id
  entryType : EntryType
  amount : ℚ
  payoutStatus : PayoutStatus
  settlementStatus : SettlementStatus
  settlementHoldReason : Option String
  commissionPercentSnapshot : Option ℚ
  commissionVatPercentSnapshot : Option ℚ
  deductShippingEnabledSnapshot : Option Bool
  shippingModeSnapshot : Option ShippingMode
  fixedShippingFeeSnapshot : Option ℚ
  shippingCostSnapshot : Option ℚ
  shippingVatAmountSnapshot : Option ℚ
  settlementDelayDaysSnapshot : ℤ
  settledAt : Option Instant
  voidedAt : Option Instant
  createdAt : Instant
  refundEvidenceSnapshot : Option RefundEvidenceSnapshot

/-- An unresolved or resolved terminal-evidence review of a refund row. -/
structure RefundTerminalEvidenceReview where
  economicVendorId : Id
  vendorAllocationId : Id
  terminalRefundFinanceLedgerEntryId : Id
  resolved : Bool

structure FinanceIntegrityAlert where
  id : Id
  severity : AlertSeverity
  category : String
  vendorAllocationId : Option Id
  status : AlertStatus

/-! ## Settlements -/

structure SettlementApproval where
  id : Id
  vendorId : Id
  status : SettlementApprovalStatus
  currency : String
  periodStart : Option Instant
  periodEnd : Option Instant
  scheduledRunDate : Option Instant
  scheduledPeriodEnd : Option Instant
  scheduledCycleKey : Option String
  replacesSettlementApprovalId : Option Id
  /-- `sourceSnapshotJson.lateRefundLedgerIds` of a replacement draft. -/
  lateRefundLedgerIds : List Id
  grossSalesMinor : ℤ
  refundTotalMinor : ℤ
  commissionMinor : ℤ
  commissionVatMinor : ℤ
  netPayableMinor : ℤ
  correctionCreditMinor : ℤ
  correctionDeductionMinor : ℤ
  approvedAt : Option Instant
  cancelledFromStatus : Option SettlementApprovalStatus

/-- A settlement line.  `snapshotRefundCount` and `snapshotAdjustmentId` are the two values a
later step reads back from `sourceSnapshotJson`. -/
structure SettlementApprovalLine where
  id : Id
  settlementApprovalId : Id
  financeLedgerEntryId : Id
  settlementRefundAdjustmentId : Option Id
  settlementRefundAdjustmentApplicationId : Option Id
  lineType : SettlementApprovalLineType
  amountMinor : ℤ
  commissionMinor : ℤ
  commissionVatMinor : ℤ
  payableImpactMinor : ℤ
  snapshotRefundCount : ℕ
  snapshotAdjustmentId : Option Id

structure SettlementRefundAdjustment where
  id : Id
  refundRecordId : Id
  refundFinanceLedgerEntryId : Id
  vendorId : Id
  originalSettlementApprovalId : Option Id
  originalSettlementApprovalLineId : Option Id
  status : SettlementRefundAdjustmentStatus
  amountMinor : ℤ
  currencyCode : String
  createdAt : Instant
  originalAmountMinor : ℤ
  appliedAmountMinor : ℤ
  remainingAmountMinor : ℤ
  appliedSettlementApprovalId : Option Id
  appliedSettlementApprovalLineId : Option Id

structure SettlementRefundAdjustmentApplication where
  id : Id
  settlementRefundAdjustmentId : Id
  settlementApprovalId : Id
  settlementApprovalLineId : Id
  amountMinor : ℤ
  currencyCode : String
  status : ApplicationStatus

structure SettlementCommissionInvoice where
  id : Id
  settlementApprovalId : Id
  status : InvoiceStatus
  createdAt : Instant

/-! ## Financial corrections

Credits and deductions have the same shape and the same two levels of consumption: a settlement
line consumes a source, a payout line consumes a settlement line.  The two families live in
separate tables of the same row types. -/

structure FinancialCorrectionAuthority where
  id : Id
  vendorId : Id
  currency : String
  economicDirection : EconomicDirection
  applicationRoute : ApplicationRoute
  vendorPayableDifferenceMinor : ℤ
  historicalPayoutBatchId : Option Id
  historicalPayoutPaidAt : Option Instant
  historicalApprovedSettlementId : Option Id
  historicalApprovedSettlementAt : Option Instant
  historicalApprovedSettlementNetMinor : Option ℤ
  appliedAt : Instant

/-- A `FinancialCorrectionCredit` or a `FinancialCorrectionDeduction`. -/
structure CorrectionSource where
  id : Id
  authority : FinancialCorrectionAuthority
  vendorId : Id
  amountMinor : ℤ
  currency : String
  createdAt : Instant

/-- A `FinancialCorrection{Credit,Deduction}SettlementLine`. -/
structure CorrectionSettlementLine where
  id : Id
  sourceId : Id
  settlementApprovalId : Id
  amountMinor : ℤ
  status : CorrectionLineStatus
  createdAt : Instant

/-- A `FinancialCorrection{Credit,Deduction,ApprovedDeduction}PayoutLine`. -/
structure CorrectionPayoutLine where
  id : Id
  sourceLineId : Id
  payoutBatchId : Id
  amountMinor : ℤ
  status : CorrectionLineStatus

structure ApprovedDeductionCoverage where
  id : Id
  deductionId : Id
  settlementApprovalId : Id
  vendorId : Id
  amountMinor : ℤ
  currency : String
  status : CorrectionLineStatus
  createdAt : Instant

/-! ## Payouts -/

structure PayoutBatch where
  id : Id
  vendorId : Id
  status : PayoutBatchStatus
  grossAmount : ℚ
  commissionAmount : ℚ
  commissionVatAmount : ℚ
  shippingDeductionAmount : ℚ
  refundAmount : ℚ
  netAmount : ℚ
  r1OffsetTotalMinor : ℤ
  correctionCreditAmount : ℚ
  correctionDeductionAmount : ℚ
  currency : String
  createdAt : Instant
  paidAt : Option Instant
  eftExecutedAt : Option Instant

structure PayoutBatchLine where
  id : Id
  payoutBatchId : Id
  financeLedgerEntryId : Id
  settlementApprovalLineId : Option Id
  amountSnapshot : ℚ

/-- What an event of the vendor balance was created from (`sourceType` and `sourceId`). -/
inductive BalanceEventSource
  | shopifyRefund (refundRecordId : Id)
  | financialCorrection (authorityId : Id)
  | payoutBatch (payoutBatchId : Id)
  | r1PayoutOffsetClaim (claimId : Id)
  | other
  deriving DecidableEq

structure VendorBalanceEvent where
  id : Id
  vendorId : Id
  type : VendorBalanceEventType
  amountMinor : ℤ
  currency : String
  source : BalanceEventSource
  financeLedgerEntryId : Option Id
  refundRecordId : Option Id
  payoutBatchId : Option Id
  financialCorrectionAuthority : Option FinancialCorrectionAuthority

structure PayoutOffsetClaim where
  id : Id
  vendorId : Id
  currency : String
  payoutBatchId : Id
  settlementApprovalId : Id
  sourceType : PayoutOffsetSourceType
  settlementRefundAdjustmentId : Option Id
  vendorDebtOriginEventId : Option Id
  reservedAmountMinor : ℤ
  status : PayoutOffsetClaimStatus
  requestId : Id
  reservedBy : Id
  reservedAt : Instant

/-! ## The database -/

structure FinanceDb where
  vendorAllocation : List VendorAllocation
  financeLedgerEntry : List FinanceLedgerEntry
  refundTerminalEvidenceReview : List RefundTerminalEvidenceReview
  financeIntegrityAlert : List FinanceIntegrityAlert
  settlementApproval : List SettlementApproval
  settlementApprovalLine : List SettlementApprovalLine
  settlementRefundAdjustment : List SettlementRefundAdjustment
  settlementRefundAdjustmentApplication : List SettlementRefundAdjustmentApplication
  settlementCommissionInvoice : List SettlementCommissionInvoice
  correctionCredit : List CorrectionSource
  correctionCreditSettlementLine : List CorrectionSettlementLine
  correctionCreditPayoutLine : List CorrectionPayoutLine
  correctionDeduction : List CorrectionSource
  correctionDeductionSettlementLine : List CorrectionSettlementLine
  correctionDeductionPayoutLine : List CorrectionPayoutLine
  approvedDeductionCoverage : List ApprovedDeductionCoverage
  approvedDeductionPayoutLine : List CorrectionPayoutLine
  payoutBatch : List PayoutBatch
  payoutBatchLine : List PayoutBatchLine
  vendorBalanceEvent : List VendorBalanceEvent
  payoutOffsetClaim : List PayoutOffsetClaim

/-- The database before any row was written. -/
def FinanceDb.empty : FinanceDb where
  vendorAllocation := []
  financeLedgerEntry := []
  refundTerminalEvidenceReview := []
  financeIntegrityAlert := []
  settlementApproval := []
  settlementApprovalLine := []
  settlementRefundAdjustment := []
  settlementRefundAdjustmentApplication := []
  settlementCommissionInvoice := []
  correctionCredit := []
  correctionCreditSettlementLine := []
  correctionCreditPayoutLine := []
  correctionDeduction := []
  correctionDeductionSettlementLine := []
  correctionDeductionPayoutLine := []
  approvedDeductionCoverage := []
  approvedDeductionPayoutLine := []
  payoutBatch := []
  payoutBatchLine := []
  vendorBalanceEvent := []
  payoutOffsetClaim := []

end VendorDashboard.Finance

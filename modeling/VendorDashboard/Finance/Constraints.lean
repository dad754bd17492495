import VendorDashboard.Finance.Queries
import Mathlib.Tactic.MkIffOfInductiveProp

/-!
# What the database enforces

The constraints of the schema that the results rely on: primary keys, unique indexes, composite
foreign keys and checks.  A database content is one that satisfies `FinanceDb.Constraints`;
every transaction of the model keeps it, because an insert that would break a key rolls back.
-/

namespace VendorDashboard.Finance

open Table

/-- The identity check and the composite foreign keys of one claim: it names exactly the source
its type says, and that source, the batch and the settlement belong to the claim's vendor and
currency. -/
@[mk_iff]
structure PayoutOffsetClaim.References (c : PayoutOffsetClaim) (db : FinanceDb) : Prop where
  positive_amount : 0 < c.reservedAmountMinor
  refundAdjustment : c.sourceType = .refundAdjustment → c.vendorDebtOriginEventId = none ∧
    ∃ a ∈ db.settlementRefundAdjustment, c.settlementRefundAdjustmentId = some a.id ∧
      a.vendorId = c.vendorId ∧ a.currencyCode = c.currency
  vendorDebt : c.sourceType = .vendorDebt → c.settlementRefundAdjustmentId = none ∧
    ∃ e ∈ db.vendorBalanceEvent, c.vendorDebtOriginEventId = some e.id ∧
      e.vendorId = c.vendorId ∧ e.currency = c.currency ∧ e.type = .vendorDebtCreated
  payoutBatch : ∃ b ∈ db.payoutBatch, b.id = c.payoutBatchId ∧ b.vendorId = c.vendorId ∧
    b.currency = c.currency
  settlementApproval : ∃ s ∈ db.settlementApproval, s.id = c.settlementApprovalId ∧
    s.vendorId = c.vendorId ∧ s.currency = c.currency

instance (c : PayoutOffsetClaim) (db : FinanceDb) : Decidable (c.References db) :=
  decidable_of_iff' _ (PayoutOffsetClaim.references_iff c db)

@[mk_iff]
structure FinanceDb.Constraints (db : FinanceDb) : Prop where
  ledger_key : KeyUnique FinanceLedgerEntry.id db.financeLedgerEntry
  approval_key : KeyUnique SettlementApproval.id db.settlementApproval
  line_key : KeyUnique SettlementApprovalLine.id db.settlementApprovalLine
  line_unique : KeyUnique (fun l => (l.settlementApprovalId, l.financeLedgerEntryId))
    db.settlementApprovalLine
  adjustment_key : KeyUnique SettlementRefundAdjustment.id db.settlementRefundAdjustment
  adjustment_unique : KeyUnique SettlementRefundAdjustment.refundFinanceLedgerEntryId
    db.settlementRefundAdjustment
  application_key : KeyUnique SettlementRefundAdjustmentApplication.id
    db.settlementRefundAdjustmentApplication
  batch_key : KeyUnique PayoutBatch.id db.payoutBatch
  event_key : KeyUnique VendorBalanceEvent.id db.vendorBalanceEvent
  claim_key : KeyUnique PayoutOffsetClaim.id db.payoutOffsetClaim
  claim_references : ∀ c ∈ db.payoutOffsetClaim, c.References db

instance (db : FinanceDb) : Decidable db.Constraints :=
  decidable_of_iff' _ (FinanceDb.constraints_iff db)

end VendorDashboard.Finance

import VendorDashboard.Finance.VendorBalance
import Mathlib.Data.List.Sort

/-!
# A refund arrives

What the refund webhook writes for one allocation: the return and refund records, the refund's
ledger row with its accepted evidence, and the one place the money is taken back from.

* A sale that was already paid makes a vendor debt (`createVendorDebtForPaidRefund`).
* A sale in an approved settlement makes a refund adjustment
  (`createSettlementRefundAdjustmentForRefundLedger`), which a later settlement or payout
  consumes.
* Any other refund waits for a settlement to take its ledger row directly.

The refund's commission snapshots are copied from the sale, so what a refund takes back
(`FinanceLedgerEntry.vendorPayableReversalMinor`) is fixed when it arrives.
-/

namespace VendorDashboard.Finance

open Table Transaction

/-- What a refund row takes back from the vendor under its own snapshots. -/
def FinanceLedgerEntry.vendorPayableReversalMinor (e : FinanceLedgerEntry) : ℤ :=
  (calculateRefundOffsetAmounts e.amount e.commissionPercentSnapshot
    e.commissionVatPercentSnapshot).vendorPayableReversalMinor

/-! ## The risk of a late refund -/

inductive PostApprovalRefundRiskState
  | none | evidenceUnverified | approvedSettlementAdjustmentRequired
  | alreadyPaidRequiresVendorDebt | unsettledOffsetEligible
  deriving DecidableEq

def REFUND_EVIDENCE_UNVERIFIED_REASON : String :=
  "Accepted refund evidence cannot be verified for this finance ledger."

def PostApprovalRefundRiskState.reason : PostApprovalRefundRiskState → Option String
  | none => Option.none
  | evidenceUnverified => some REFUND_EVIDENCE_UNVERIFIED_REASON
  | approvedSettlementAdjustmentRequired =>
      some RefundOffsetCode.POST_APPROVAL_REFUND_ADJUSTMENT_REQUIRED_REASON
  | alreadyPaidRequiresVendorDebt =>
      some "Refund after settlement requires vendor debt handling."
  | unsettledOffsetEligible => some "Refund offset applied before settlement."

def classifyPostApprovalRefundRisk (refundRecord : Option RefundRecord)
    (sale refundLedgerEntry : Option LedgerSnapshot) : PostApprovalRefundRiskState :=
  match refundRecord, sale with
  | some _, some s =>
      if s.entry.entryType ≠ .sale then .none
      else if s.entry.payoutStatus = .paid ∨ s.entry.settlementStatus = .settled then
        .alreadyPaidRequiresVendorDebt
      else if refundLedgerEntry.any fun r =>
          hasApprovedSettlementApproval r.settlementApprovalLines then .none
      else if hasApprovedSettlementApproval s.settlementApprovalLines then
        .approvedSettlementAdjustmentRequired
      else if (getUnsettledRefundOffsetEligibility refundRecord sale none).eligible then
        .unsettledOffsetEligible
      else .none
  | _, _ => .none

/-! ## The refund adjustment -/

/-- The most recently approved settlement line of a sale.  The query returns lines of approved
settlements only, so the source's fallback to invoiced lines has no candidate. -/
def chooseOriginalApprovalLine (lines : List ApprovalLineRef) : Option ApprovalLineRef :=
  ((lines.filter fun l => decide (l.status = .approved)).insertionSort fun l r =>
    r.approvedAt.getD 0 ≤ l.approvedAt.getD 0).head?

namespace FinanceDb

variable (db : FinanceDb)

def isLedgerVoided (e : FinanceLedgerEntry) : Bool := e.voidedAt.isSome

/-- The sale rows of an allocation that are not voided. -/
def activeSaleLedgers (vendorAllocationId : Id) : List FinanceLedgerEntry :=
  db.financeLedgerEntry.filter fun e =>
    decide (e.vendorAllocationId = some vendorAllocationId) && decide (e.entryType = .sale) &&
      !isLedgerVoided e

/-- The one active sale row of the refund row's allocation, if it has the same owner. -/
def selectActiveSaleLedgerForRefundAdjustment (refund : FinanceLedgerEntry) :
    Option FinanceLedgerEntry :=
  match refund.vendorAllocationId.map db.activeSaleLedgers with
  | some [sale] => if sale.vendorId = refund.vendorId then some sale else none
  | _ => none

/-- The adjustment that a refund row calls for; `none` when nothing is to be adjusted. -/
def settlementRefundAdjustmentForRefundLedger (id refundFinanceLedgerEntryId refundRecordId : Id)
    (now : Instant) : Option SettlementRefundAdjustment := do
  let refund ← db.findLedger refundFinanceLedgerEntryId
  if refund.entryType ≠ .refund then none
  let sale ← db.selectActiveSaleLedgerForRefundAdjustment refund
  if sale.payoutStatus = .paid ∨ sale.settlementStatus = .settled then none
  let originalLine ← chooseOriginalApprovalLine (db.activeApprovalLineRefs sale.id)
  let amount := (calculateRefundOffsetAmounts refund.amount
    (refund.commissionPercentSnapshot <|> sale.commissionPercentSnapshot)
    (refund.commissionVatPercentSnapshot <|>
      sale.commissionVatPercentSnapshot)).vendorPayableReversalMinor
  let allocation ← refund.vendorAllocationId.bind db.findAllocation
  if amount ≤ 0 ∨ allocation.orderId = none then none
  some
    { id
      refundRecordId
      refundFinanceLedgerEntryId := refund.id
      vendorId := refund.vendorId
      originalSettlementApprovalId := some originalLine.settlementApprovalId
      originalSettlementApprovalLineId := some originalLine.lineId
      status := .pending
      amountMinor := amount
      currencyCode := allocation.orderCurrency
      createdAt := now
      originalAmountMinor := amount
      appliedAmountMinor := 0
      remainingAmountMinor := amount
      appliedSettlementApprovalId := none
      appliedSettlementApprovalLineId := none }

/-- Create the adjustment of a refund row, unless the row already has one. -/
def createSettlementRefundAdjustmentForRefundLedger
    (id refundFinanceLedgerEntryId refundRecordId : Id) (now : Instant) :
    Except String FinanceDb :=
  match db.settlementRefundAdjustmentForRefundLedger id refundFinanceLedgerEntryId refundRecordId
      now with
  | none => pure db
  | some adjustment =>
      if db.settlementRefundAdjustment.any fun a =>
          decide (a.refundFinanceLedgerEntryId = refundFinanceLedgerEntryId) then pure db
      else do
        let adjustments ← insertRows SettlementRefundAdjustment.id db.settlementRefundAdjustment
          [adjustment] UNIQUE_CONSTRAINT_FAILED
        pure { db with settlementRefundAdjustment := adjustments }

/-! ## The webhook -/

/-- What one refund webhook says about one allocation, with the identifiers of its new rows. -/
structure RefundArrival where
  vendorAllocationId : Id
  sourceShopifyRefundId : Id
  sourceShopifyOrderId : String
  returnRecordId : Id
  refundRecordId : Id
  refundLedgerId : Id
  adjustmentId : Id
  debtEventId : Id
  totalRefundAmount : ℚ
  refundTotalAmount : ℚ
  currency : String
  now : Instant

def assertResolvedEconomicOwnerForMoneyMovement (vendorAllocationId : Id) :
    Except String FinanceLedgerEntry :=
  match (db.findAllocation vendorAllocationId).map fun a => db.activeSaleLedgers a.id with
  | some [sale] => .ok sale
  | some (_ :: _ :: _) => .error "Multiple active sale ledgers found for allocation."
  | _ => .error "No active sale ledger found for allocation."

def assertNoOpenFinanceIntegrityAlertForMoneyMovement (vendorAllocationId : Id) :
    Except String Unit :=
  match db.findBlockingFinanceIntegrityAlerts vendorAllocationId with
  | [] => .ok ()
  | alert :: _ => .error
      ("Money movement blocked by blocking finance integrity alert: " ++ alert.category ++ ".")

/-- Whether the refund already has accepted evidence on the allocation. -/
def hasAcceptedSnapshot (sourceShopifyRefundId vendorAllocationId : Id) : Bool :=
  db.financeLedgerEntry.any fun e => e.refundEvidenceSnapshot.any fun s =>
    decide (s.sourceShopifyRefundId = sourceShopifyRefundId) &&
      decide (s.vendorAllocationId = vendorAllocationId)

def upsertReturnRecord (id : Id) (records : List ReturnRecord) : List ReturnRecord :=
  if records.any fun r => decide (r.id = id) then
    updateWhere (fun r => decide (r.id = id))
      (fun r => { r with status := .processed, hasShopifyRefundId := true }) records
  else records ++ [⟨id, .processed, none, true⟩]

def upsertRefundRecord (record : RefundRecord) (records : List RefundRecord) :
    List RefundRecord :=
  if records.any fun r => decide (r.id = record.id) then
    updateWhere (fun r => decide (r.id = record.id))
      (fun r => { record with createdAt := r.createdAt }) records
  else records ++ [record]

def RefundArrival.refundRecord (r : RefundArrival) : RefundRecord :=
  ⟨r.refundRecordId, r.vendorAllocationId, r.sourceShopifyRefundId, r.sourceShopifyOrderId,
    some r.totalRefundAmount, true, r.now⟩

/-- The allocation after its return and refund records were written. -/
def RefundArrival.writeRecords (r : RefundArrival) (a : VendorAllocation) : VendorAllocation :=
  { a with
    returnRecords := upsertReturnRecord r.returnRecordId a.returnRecords
    refundRecords := upsertRefundRecord r.refundRecord a.refundRecords }

/-- The sale as the webhook loads it: only unfinished payout batches are selected. -/
def refundArrivalSaleSnapshot (sale : FinanceLedgerEntry) : LedgerSnapshot where
  entry := sale
  payoutBatchLines := (db.activeBatchLineRefs sale.id).filter fun l =>
    decide (l.status ≠ .paid) && decide (l.status ≠ .cashlessCompleted)
  settlementApprovalLines := db.activeApprovalLineRefs sale.id

/-- The ledger row of an arriving refund. -/
def RefundArrival.ledgerRow (r : RefundArrival) (sale : LedgerSnapshot) : FinanceLedgerEntry :=
  let refundOffsetEligibility :=
    getUnsettledRefundOffsetEligibility (some r.refundRecord) (some sale) none
  { id := r.refundLedgerId
    vendorAllocationId := some r.vendorAllocationId
    vendorId := sale.entry.vendorId
    entryType := .refund
    amount := r.totalRefundAmount
    payoutStatus := if refundOffsetEligibility.eligible then .pending else .hold
    settlementStatus := .partiallyRefunded
    settlementHoldReason :=
      if refundOffsetEligibility.eligible then none
      else some ((classifyPostApprovalRefundRisk (some r.refundRecord) (some sale)
        none).reason.getD refundOffsetEligibility.reason)
    commissionPercentSnapshot := sale.entry.commissionPercentSnapshot
    commissionVatPercentSnapshot := sale.entry.commissionVatPercentSnapshot
    deductShippingEnabledSnapshot := none
    shippingModeSnapshot := none
    fixedShippingFeeSnapshot := none
    shippingCostSnapshot := none
    shippingVatAmountSnapshot := none
    settlementDelayDaysSnapshot := DEFAULT_SETTLEMENT_DELAY_DAYS
    settledAt := none
    voidedAt := none
    createdAt := r.now
    refundEvidenceSnapshot := some
      { sourceShopifyRefundId := r.sourceShopifyRefundId
        sourceShopifyOrderId := r.sourceShopifyOrderId
        vendorAllocationId := r.vendorAllocationId
        refundRecordId := r.refundRecordId
        refundFinanceLedgerEntryId := r.refundLedgerId
        historicalEconomicVendorId := sale.entry.vendorId
        historicalSaleFinanceLedgerEntryId := sale.entry.id
        monetaryRefund := true
        refundTotalAmount := r.refundTotalAmount
        currency := r.currency
        capturedAt := r.now } }

/-- The database with the records and the ledger row of the refund. -/
def writeRefundLedger (r : RefundArrival) (sale : FinanceLedgerEntry) :
    Except String FinanceDb := do
  let entries ← insertRows FinanceLedgerEntry.id db.financeLedgerEntry
    [r.ledgerRow (db.refundArrivalSaleSnapshot sale)] UNIQUE_CONSTRAINT_FAILED
  pure { db with
    vendorAllocation := updateWhere (fun a => decide (a.id = r.vendorAllocationId))
      r.writeRecords db.vendorAllocation
    financeLedgerEntry := entries }

def ingestRefund (r : RefundArrival) : Except String FinanceDb := do
  let sale ← db.assertResolvedEconomicOwnerForMoneyMovement r.vendorAllocationId
  db.assertNoOpenFinanceIntegrityAlertForMoneyMovement r.vendorAllocationId
  require (db.hasAcceptedSnapshot r.sourceShopifyRefundId r.vendorAllocationId = false)
    "terminal refund evidence conflicts with accepted snapshot"
  let risk := classifyPostApprovalRefundRisk (some r.refundRecord)
    (some (db.refundArrivalSaleSnapshot sale)) none
  let written ← db.writeRefundLedger r sale
  if risk = .alreadyPaidRequiresVendorDebt then
    written.createVendorDebtForPaidRefund r.debtEventId
      { vendorId := sale.vendorId
        refundRecordId := r.refundRecordId
        financeLedgerEntryId := r.refundLedgerId
        refundAmount := r.totalRefundAmount
        commissionPercentSnapshot := sale.commissionPercentSnapshot
        commissionVatPercentSnapshot := sale.commissionVatPercentSnapshot
        currency := (db.findAllocation r.vendorAllocationId).map (·.orderCurrency) }
  else
    written.createSettlementRefundAdjustmentForRefundLedger r.adjustmentId r.refundLedgerId
      r.refundRecordId r.now

/-! ## What an arrival writes -/

/-- What is known of an adjustment when it is created for a refund row. -/
structure IsNewAdjustment (db : FinanceDb) (id refundLedgerId refundRecordId : Id)
    (a : SettlementRefundAdjustment) : Prop where
  id_eq : a.id = id
  refundLedger_eq : a.refundFinanceLedgerEntryId = refundLedgerId
  refundRecord_eq : a.refundRecordId = refundRecordId
  status_eq : a.status = .pending
  applied_eq : a.appliedAmountMinor = 0
  remaining_eq : a.remainingAmountMinor = a.originalAmountMinor
  amount_eq : a.amountMinor = a.originalAmountMinor
  original_pos : 0 < a.originalAmountMinor
  pointer_eq : a.appliedSettlementApprovalId = none
  refund : ∃ e, db.findLedger refundLedgerId = some e ∧ e.entryType = .refund ∧
    e.vendorId = a.vendorId ∧ ∃ sale ∈ db.financeLedgerEntry, sale.entryType = .sale ∧
      sale.vendorAllocationId = e.vendorAllocationId ∧ a.originalAmountMinor =
        (calculateRefundOffsetAmounts e.amount
          (e.commissionPercentSnapshot <|> sale.commissionPercentSnapshot)
          (e.commissionVatPercentSnapshot <|>
            sale.commissionVatPercentSnapshot)).vendorPayableReversalMinor

variable {db} {db' : FinanceDb}

lemma mem_activeSaleLedgers {vendorAllocationId : Id} {e : FinanceLedgerEntry} :
    e ∈ db.activeSaleLedgers vendorAllocationId ↔ e ∈ db.financeLedgerEntry ∧
      e.vendorAllocationId = some vendorAllocationId ∧ e.entryType = .sale ∧
        e.voidedAt = none := by
  simp [activeSaleLedgers, isLedgerVoided, and_assoc]

/-- The sale an adjustment is computed from is an active sale of the refund's allocation. -/
lemma selectActiveSaleLedgerForRefundAdjustment_some {refund sale : FinanceLedgerEntry}
    (h : db.selectActiveSaleLedgerForRefundAdjustment refund = some sale) :
    sale ∈ db.financeLedgerEntry ∧ sale.vendorAllocationId = refund.vendorAllocationId ∧
      sale.entryType = .sale := by
  unfold selectActiveSaleLedgerForRefundAdjustment at h
  split at h
  · rename_i s hs
    obtain ⟨allocationId, ha, hlist⟩ := Option.map_eq_some_iff.mp hs
    split at h
    · obtain rfl := Option.some.inj h
      have hmem : s ∈ db.activeSaleLedgers allocationId := by simp [hlist]
      obtain ⟨hmem, halloc, htype, -⟩ := mem_activeSaleLedgers.mp hmem
      exact ⟨hmem, halloc.trans ha.symm, htype⟩
    · cases h
  · cases h

lemma settlementRefundAdjustmentForRefundLedger_some {id refundLedgerId refundRecordId : Id}
    {now : Instant} {a : SettlementRefundAdjustment}
    (h : db.settlementRefundAdjustmentForRefundLedger id refundLedgerId refundRecordId now =
      some a) : IsNewAdjustment db id refundLedgerId refundRecordId a := by
  unfold settlementRefundAdjustmentForRefundLedger at h
  obtain ⟨refund, hrefund, h⟩ := Option.bind_eq_some_iff.mp h
  have hkey : refund.id = refundLedgerId := key_of_findRow hrefund
  split at h
  · cases h
  · rename_i htype
    obtain ⟨sale, hsale, h⟩ := Option.bind_eq_some_iff.mp h
    split at h
    · cases h
    · obtain ⟨line, -, h⟩ := Option.bind_eq_some_iff.mp h
      obtain ⟨allocation, -, h⟩ := Option.bind_eq_some_iff.mp h
      split at h
      · cases h
      · rename_i hpos
        obtain rfl := Option.some.inj h
        obtain ⟨hmem, halloc, hsaleType⟩ := selectActiveSaleLedgerForRefundAdjustment_some hsale
        obtain ⟨hpositive, -⟩ := not_or.mp hpos
        exact
          { id_eq := rfl
            refundLedger_eq := hkey
            refundRecord_eq := rfl
            status_eq := rfl
            applied_eq := rfl
            remaining_eq := rfl
            amount_eq := rfl
            original_pos := not_le.mp hpositive
            pointer_eq := rfl
            refund := ⟨refund, hrefund, not_not.mp htype, rfl, sale, hmem, hsaleType, halloc,
              rfl⟩ }

/-- An adjustment is created at most once for a refund row. -/
lemma createSettlementRefundAdjustmentForRefundLedger_ok {id refundLedgerId refundRecordId : Id}
    {now : Instant} (h : db.createSettlementRefundAdjustmentForRefundLedger id refundLedgerId
      refundRecordId now = .ok db') :
    db' = db ∨ ∃ a, IsNewAdjustment db id refundLedgerId refundRecordId a ∧
      (∀ x ∈ db.settlementRefundAdjustment, x.refundFinanceLedgerEntryId ≠ refundLedgerId) ∧
      KeyUnique SettlementRefundAdjustment.id (db.settlementRefundAdjustment ++ [a]) ∧
      db' = { db with settlementRefundAdjustment := db.settlementRefundAdjustment ++ [a] } := by
  unfold createSettlementRefundAdjustmentForRefundLedger at h
  split at h
  · exact .inl (pure_eq_ok.mp h).symm
  · rename_i a ha
    split at h
    · exact .inl (pure_eq_ok.mp h).symm
    · rename_i hnone
      simp only [bind_eq_ok, insertRows_eq_ok, pure_eq_ok] at h
      obtain ⟨_, ⟨hu, rfl⟩, rfl⟩ := h
      refine .inr ⟨a, settlementRefundAdjustmentForRefundLedger_some ha, fun x hx heq => ?_, hu,
        rfl⟩
      exact hnone (List.any_eq_true.mpr ⟨x, hx, by simpa using heq⟩)

/-- The allocation's one active sale. -/
lemma assertResolvedEconomicOwnerForMoneyMovement_ok {vendorAllocationId : Id}
    {sale : FinanceLedgerEntry}
    (h : db.assertResolvedEconomicOwnerForMoneyMovement vendorAllocationId = .ok sale) :
    sale ∈ db.financeLedgerEntry ∧ sale.vendorAllocationId = some vendorAllocationId ∧
      sale.entryType = .sale ∧ (db.findAllocation vendorAllocationId).isSome := by
  unfold assertResolvedEconomicOwnerForMoneyMovement at h
  split at h
  · rename_i s hs
    obtain ⟨allocation, ha, hlist⟩ := Option.map_eq_some_iff.mp hs
    cases h
    have hid : allocation.id = vendorAllocationId := key_of_findRow ha
    have hmem : sale ∈ db.activeSaleLedgers allocation.id := by simp [hlist]
    obtain ⟨hmem, halloc, htype, -⟩ := mem_activeSaleLedgers.mp hmem
    exact ⟨hmem, hid ▸ halloc, htype, by simp [ha]⟩
  · cases h
  · cases h

lemma writeRefundLedger_ok {r : RefundArrival} {sale : FinanceLedgerEntry}
    (h : db.writeRefundLedger r sale = .ok db') :
    KeyUnique FinanceLedgerEntry.id (db.financeLedgerEntry ++
        [r.ledgerRow (db.refundArrivalSaleSnapshot sale)]) ∧
      db' = { db with
        vendorAllocation := updateWhere (fun a => decide (a.id = r.vendorAllocationId))
          r.writeRecords db.vendorAllocation
        financeLedgerEntry := db.financeLedgerEntry ++
          [r.ledgerRow (db.refundArrivalSaleSnapshot sale)] } := by
  simp only [writeRefundLedger, bind_eq_ok, insertRows_eq_ok, pure_eq_ok] at h
  obtain ⟨_, ⟨hu, rfl⟩, rfl⟩ := h
  exact ⟨hu, rfl⟩

/-- What a debt transaction for a refund, or the creation of its adjustment, may write. -/
lemma ingestRefund_ok {r : RefundArrival} (h : db.ingestRefund r = .ok db') :
    ∃ sale ∈ db.financeLedgerEntry, sale.vendorAllocationId = some r.vendorAllocationId ∧
      sale.entryType = .sale ∧ (db.findAllocation r.vendorAllocationId).isSome ∧
      ∃ written, db.writeRefundLedger r sale = .ok written ∧
        ((∃ refund : PaidRefund, refund.vendorId = sale.vendorId ∧
            written.createVendorDebtForPaidRefund r.debtEventId refund = .ok db') ∨
          written.createSettlementRefundAdjustmentForRefundLedger r.adjustmentId
            r.refundLedgerId r.refundRecordId r.now = .ok db') := by
  simp only [ingestRefund, bind_eq_ok, require_eq_ok] at h
  obtain ⟨sale, hsale, -, -, -, -, written, hwritten, h⟩ := h
  obtain ⟨hmem, halloc, htype, hfound⟩ := assertResolvedEconomicOwnerForMoneyMovement_ok hsale
  refine ⟨sale, hmem, halloc, htype, hfound, written, hwritten, ?_⟩
  split at h
  · exact .inl ⟨_, rfl, h⟩
  · exact .inr h

end FinanceDb

end VendorDashboard.Finance

import VendorDashboard.Finance.Queries
import Mathlib.Data.List.Sort

/-!
# Payout offset authority

A payout may be reduced by two kinds of source: a refund adjustment that no settlement has
consumed yet, and a debt the vendor owes.  `reconcilePayoutOffsetAuthority` is the read-only
report that decides whether the books agree about every source of a vendor: a source is
`VERIFIED` exactly when none of its checks finds a reason (`adjustmentSource_verified_iff`,
`debtSource_verified_iff`), and the report is `VERIFIED` exactly when every source is and no
balance event is unattributed (`reconcile_verified_iff`).

The report's sources are sorted by the instant they were verified; identifiers stand for
themselves in the tie-break.
-/

namespace VendorDashboard.Finance

open Table

inductive ReconciliationStatus
  | verified | blocked | unknown
  deriving DecidableEq

/-- Keep the texts whose condition holds, in order. -/
def collectReasons (checks : List (Bool × String)) : List String :=
  (checks.filter Prod.fst).map Prod.snd

lemma collectReasons_eq_nil {checks : List (Bool × String)} :
    collectReasons checks = [] ↔ ∀ c ∈ checks, c.1 = false := by
  simp [collectReasons, List.filter_eq_nil_iff]

structure PayoutOffsetSourceDiagnostic where
  sourceType : PayoutOffsetSourceType
  sourceId : Id
  refundFinanceLedgerEntryId : Option Id
  vendorId : Id
  currency : String
  verifiedAt : Option Instant
  originalAmountMinor : ℤ
  appliedAmountMinor : Option ℤ
  remainingAmountMinor : Option ℤ
  activeReservationMinor : ℤ
  unreservedAmountMinor : Option ℤ
  status : ReconciliationStatus
  reasons : List String

structure PayoutOffsetAuthorityDiagnostics where
  status : ReconciliationStatus
  sources : List PayoutOffsetSourceDiagnostic
  reasons : List String

/-- The source that a claim draws on. -/
def PayoutOffsetClaim.sourceId (c : PayoutOffsetClaim) : Option Id :=
  c.settlementRefundAdjustmentId <|> c.vendorDebtOriginEventId

namespace FinanceDb

variable (db : FinanceDb)

/-! ## What the report reads -/

def authorityAdjustments (vendorId : Id) (currency : String) : List SettlementRefundAdjustment :=
  db.settlementRefundAdjustment.filter fun a =>
    decide (a.vendorId = vendorId) && decide (a.currencyCode = currency)

def balanceEvents (vendorId : Id) (currency : String) (type : VendorBalanceEventType) :
    List VendorBalanceEvent :=
  db.vendorBalanceEvent.filter fun e =>
    decide (e.vendorId = vendorId) && decide (e.currency = currency) && decide (e.type = type)

/-- Events that change the balance without naming a source. -/
def ambiguousDebtChanges (vendorId : Id) (currency : String) : List VendorBalanceEvent :=
  db.vendorBalanceEvent.filter fun e =>
    decide (e.vendorId = vendorId) && decide (e.currency = currency) &&
      decide (e.type = .debtWaived ∨ e.type = .manualAdjustment ∨ e.type = .payableEarned)

def authorityClaims (vendorId : Id) (currency : String) : List PayoutOffsetClaim :=
  db.payoutOffsetClaim.filter fun c =>
    decide (c.vendorId = vendorId) && decide (c.currency = currency)

/-- The claim that a debt offset event was created from, if the event matches it exactly. -/
def attributedClaim (vendorId : Id) (currency : String) (event : VendorBalanceEvent) :
    Option PayoutOffsetClaim :=
  match event.source with
  | .r1PayoutOffsetClaim claimId =>
      if event.payoutBatchId = none ∨ event.amountMinor ≤ 0 then none
      else
        ((db.authorityClaims vendorId currency).find? fun c => decide (c.id = claimId)).filter
          fun c => decide (c.sourceType = .vendorDebt) && decide (c.status = .finalized) &&
            decide (some c.payoutBatchId = event.payoutBatchId) &&
            decide (c.reservedAmountMinor = event.amountMinor)
  | _ => none

def attributedDebtOffsets (vendorId : Id) (currency : String) : List VendorBalanceEvent :=
  (db.balanceEvents vendorId currency .vendorDebtOffset).filter fun e =>
    (db.attributedClaim vendorId currency e).isSome

def unattributedDebtOffsets (vendorId : Id) (currency : String) : List VendorBalanceEvent :=
  (db.balanceEvents vendorId currency .vendorDebtOffset).filter fun e =>
    (db.attributedClaim vendorId currency e).isNone

/-- The sum of a source's claims in a given status. -/
def claimedFor (vendorId : Id) (currency : String) (status : PayoutOffsetClaimStatus)
    (sourceType : PayoutOffsetSourceType) (sourceId : Id) : ℤ :=
  total (fun c => decide (c.sourceType = sourceType) && decide (c.sourceId = some sourceId) &&
    decide (c.status = status)) (·.reservedAmountMinor) (db.authorityClaims vendorId currency)

/-- Whether an active settlement charges the refund row directly. -/
def hasDirectRefundLine (refundFinanceLedgerEntryId : Id) : Bool :=
  db.settlementApprovalLine.any fun l =>
    decide (l.financeLedgerEntryId = refundFinanceLedgerEntryId) &&
      decide (l.lineType = .refund) && db.approvalIsActive l.settlementApprovalId

def acceptedSnapshot (refundFinanceLedgerEntryId : Id) : Option RefundEvidenceSnapshot :=
  (db.findLedger refundFinanceLedgerEntryId).bind (·.refundEvidenceSnapshot)

/-- Whether the accepted snapshot of a refund row disagrees with the source, with the refund
record or with the two ledger rows it names. -/
def snapshotConflict (snapshot : RefundEvidenceSnapshot) (refundRecordId vendorId : Id)
    (currency : String) : Bool :=
  let record := db.findRefundRecord snapshot.refundRecordId
  let refund := db.findLedger snapshot.refundFinanceLedgerEntryId
  let sale := db.findLedger snapshot.historicalSaleFinanceLedgerEntryId
  !(decide (snapshot.refundRecordId = refundRecordId) &&
    decide (snapshot.historicalEconomicVendorId = vendorId) &&
    decide (snapshot.currency = currency) &&
    record.any (fun r => decide (r.vendorAllocationId = snapshot.vendorAllocationId)) &&
    refund.any (fun e => decide (e.vendorId = vendorId) &&
      decide (e.vendorAllocationId = some snapshot.vendorAllocationId) &&
      decide (e.entryType = .refund)) &&
    sale.any (fun e => decide (e.vendorId = vendorId) &&
      decide (e.vendorAllocationId = some snapshot.vendorAllocationId) &&
      decide (e.entryType = .sale)))

/-! ## Refund adjustments as sources -/

def activeApplicationsMinor (adjustmentId : Id) : ℤ :=
  total (fun a => decide (a.settlementRefundAdjustmentId = adjustmentId) &&
    decide (a.status = .active)) (·.amountMinor) db.settlementRefundAdjustmentApplication

/-- What the claims in a given status draw from an adjustment, whoever made them. -/
def claimedMinor (status : PayoutOffsetClaimStatus) (adjustmentId : Id) : ℤ :=
  total (fun c => decide (c.settlementRefundAdjustmentId = some adjustmentId) &&
    decide (c.status = status)) (·.reservedAmountMinor) db.payoutOffsetClaim

def adjustmentReasons (vendorId : Id) (currency : String) (a : SettlementRefundAdjustment) :
    List String :=
  let snapshot := db.acceptedSnapshot a.refundFinanceLedgerEntryId
  collectReasons
    [(decide (a.status = .blocked ∨ a.status = .cancelled), "ADJUSTMENT_NOT_AVAILABLE"),
      (snapshot.isNone, "ACCEPTED_REFUND_SNAPSHOT_MISSING"),
      (snapshot.any fun s => db.snapshotConflict s a.refundRecordId a.vendorId a.currencyCode,
        "ACCEPTED_REFUND_SNAPSHOT_CONFLICT"),
      ((db.balanceEvents vendorId currency .vendorDebtCreated).any fun e =>
          decide (e.financeLedgerEntryId = some a.refundFinanceLedgerEntryId),
        "REFUND_ADJUSTMENT_AND_DEBT_CONFLICT"),
      (db.hasDirectRefundLine a.refundFinanceLedgerEntryId,
        "DIRECT_REFUND_AND_ADJUSTMENT_CONFLICT"),
      (decide (db.activeApplicationsMinor a.id +
          db.claimedFor vendorId currency .finalized .refundAdjustment a.id ≠
            a.appliedAmountMinor), "ADJUSTMENT_APPLICATION_TOTAL_CONFLICT"),
      (decide (a.originalAmountMinor < 0 ∨ a.appliedAmountMinor < 0 ∨
          a.remainingAmountMinor < 0 ∨
          a.originalAmountMinor ≠ a.appliedAmountMinor + a.remainingAmountMinor),
        "ADJUSTMENT_AMOUNT_RECONCILIATION_FAILED"),
      (decide (a.remainingAmountMinor <
          db.claimedFor vendorId currency .reserved .refundAdjustment a.id),
        "RESERVATION_EXCEEDS_REMAINING")]

def adjustmentSource (vendorId : Id) (currency : String) (a : SettlementRefundAdjustment) :
    PayoutOffsetSourceDiagnostic :=
  let reasons := db.adjustmentReasons vendorId currency a
  let activeReservationMinor := db.claimedFor vendorId currency .reserved .refundAdjustment a.id
  { sourceType := .refundAdjustment
    sourceId := a.id
    refundFinanceLedgerEntryId := some a.refundFinanceLedgerEntryId
    vendorId := a.vendorId
    currency := a.currencyCode
    verifiedAt :=
      if reasons.contains "ACCEPTED_REFUND_SNAPSHOT_MISSING" ||
          reasons.contains "ACCEPTED_REFUND_SNAPSHOT_CONFLICT" then none
      else (db.acceptedSnapshot a.refundFinanceLedgerEntryId).map (·.capturedAt)
    originalAmountMinor := a.originalAmountMinor
    appliedAmountMinor := some a.appliedAmountMinor
    remainingAmountMinor := some a.remainingAmountMinor
    activeReservationMinor
    unreservedAmountMinor :=
      if reasons.isEmpty then some (a.remainingAmountMinor - activeReservationMinor) else none
    status :=
      if reasons.isEmpty then .verified
      else if reasons.contains "ADJUSTMENT_NOT_AVAILABLE" ||
          reasons.contains "REFUND_ADJUSTMENT_AND_DEBT_CONFLICT" ||
          reasons.contains "DIRECT_REFUND_AND_ADJUSTMENT_CONFLICT" ||
          reasons.contains "RESERVATION_EXCEEDS_REMAINING" then .blocked
      else .unknown
    reasons }

/-! ## Vendor debts as sources -/

/-- The provenance reasons of a debt event. -/
def debtProvenanceReasons (vendorId : Id) (currency : String) (e : VendorBalanceEvent) :
    List String :=
  match e.financeLedgerEntryId, e.refundRecordId, e.financialCorrectionAuthority with
  | some ledgerId, some recordId, none =>
      let snapshot := db.acceptedSnapshot ledgerId
      collectReasons
        [(match e.source with
            | .shopifyRefund sourceId => decide (sourceId ≠ recordId)
            | _ => true, "DEBT_SOURCE_PROVENANCE_CONFLICT"),
          (snapshot.isNone, "ACCEPTED_REFUND_SNAPSHOT_MISSING"),
          (snapshot.any fun s => db.snapshotConflict s recordId e.vendorId e.currency,
            "ACCEPTED_REFUND_SNAPSHOT_CONFLICT"),
          ((db.authorityAdjustments vendorId currency).any fun a =>
              decide (a.refundFinanceLedgerEntryId = ledgerId),
            "REFUND_ADJUSTMENT_AND_DEBT_CONFLICT"),
          (db.hasDirectRefundLine ledgerId, "DIRECT_REFUND_AND_DEBT_CONFLICT")]
  | none, none, some authority =>
      collectReasons
        [(!(decide (authority.vendorId = e.vendorId) && decide (authority.currency = e.currency) &&
            decide (authority.applicationRoute = .paidVendorDebt) &&
            decide (authority.vendorPayableDifferenceMinor = -e.amountMinor) &&
            (match e.source with
              | .financialCorrection sourceId => decide (sourceId = authority.id)
              | _ => false)), "FINANCIAL_CORRECTION_AUTHORITY_CONFLICT")]
  | _, _, _ => ["DEBT_SOURCE_AUTHORITY_AMBIGUOUS"]

def debtVerifiedAt (e : VendorBalanceEvent) (provenance : List String) : Option Instant :=
  match e.financeLedgerEntryId, e.refundRecordId, e.financialCorrectionAuthority with
  | some ledgerId, some _, none =>
      if provenance.contains "ACCEPTED_REFUND_SNAPSHOT_CONFLICT" then none
      else (db.acceptedSnapshot ledgerId).map (·.capturedAt)
  | none, none, some authority =>
      if provenance.isEmpty then some authority.appliedAt else none
  | _, _, _ => none

/-- The debt offsets that claims of this debt event account for. -/
def attributedMinor (vendorId : Id) (currency : String) (eventId : Id) : ℤ :=
  total (fun offset => (db.authorityClaims vendorId currency).any fun c =>
    decide (offset.source = .r1PayoutOffsetClaim c.id) &&
      decide (c.vendorDebtOriginEventId = some eventId)) (·.amountMinor)
    (db.attributedDebtOffsets vendorId currency)

def debtReasons (vendorId : Id) (currency : String) (e : VendorBalanceEvent) : List String :=
  let reserved := db.claimedFor vendorId currency .reserved .vendorDebt e.id
  let finalized := db.claimedFor vendorId currency .finalized .vendorDebt e.id
  db.debtProvenanceReasons vendorId currency e ++ collectReasons
    [(decide (0 ≤ e.amountMinor), "DEBT_AMOUNT_INVALID"),
      (!(db.unattributedDebtOffsets vendorId currency).isEmpty,
        "HISTORICAL_DEBT_OFFSET_SOURCE_ALLOCATION_UNKNOWN"),
      (!(db.ambiguousDebtChanges vendorId currency).isEmpty,
        "HISTORICAL_DEBT_BALANCE_CHANGE_SOURCE_ALLOCATION_UNKNOWN"),
      (decide (finalized ≠ db.attributedMinor vendorId currency e.id),
        "PAYOUT_FINALIZED_DEBT_OFFSET_CONFLICT"),
      (decide (-e.amountMinor < reserved + finalized), "RESERVATION_EXCEEDS_SOURCE")]

def debtSource (vendorId : Id) (currency : String) (e : VendorBalanceEvent) :
    PayoutOffsetSourceDiagnostic :=
  let reasons := db.debtReasons vendorId currency e
  let reserved := db.claimedFor vendorId currency .reserved .vendorDebt e.id
  let finalized := db.claimedFor vendorId currency .finalized .vendorDebt e.id
  let remaining := -e.amountMinor - finalized
  { sourceType := .vendorDebt
    sourceId := e.id
    refundFinanceLedgerEntryId := e.financeLedgerEntryId
    vendorId := e.vendorId
    currency := e.currency
    verifiedAt := db.debtVerifiedAt e (db.debtProvenanceReasons vendorId currency e)
    originalAmountMinor := -e.amountMinor
    appliedAmountMinor := if reasons.isEmpty then some finalized else none
    remainingAmountMinor := if reasons.isEmpty then some remaining else none
    activeReservationMinor := reserved
    unreservedAmountMinor := if reasons.isEmpty then some (remaining - reserved) else none
    status :=
      if reasons.contains "REFUND_ADJUSTMENT_AND_DEBT_CONFLICT" ||
          reasons.contains "DIRECT_REFUND_AND_DEBT_CONFLICT" ||
          reasons.contains "RESERVATION_EXCEEDS_SOURCE" then .blocked
      else if reasons.isEmpty then .verified
      else .unknown
    reasons }

/-! ## The report -/

/-- Sources in the order of the report: verified ones first, by instant, then by type and
identifier. -/
def sourceLe (a b : PayoutOffsetSourceDiagnostic) : Bool :=
  let byIdentity :=
    match a.sourceType, b.sourceType with
    | .refundAdjustment, .vendorDebt => true
    | .vendorDebt, .refundAdjustment => false
    | _, _ => decide (a.sourceId ≤ b.sourceId)
  match a.verifiedAt, b.verifiedAt with
  | some s, some t => decide (s < t) || (decide (s = t) && byIdentity)
  | some _, none => true
  | none, some _ => false
  | none, none => byIdentity

def authoritySources (vendorId : Id) (currency : String) : List PayoutOffsetSourceDiagnostic :=
  ((db.authorityAdjustments vendorId currency).map (db.adjustmentSource vendorId currency) ++
    (db.balanceEvents vendorId currency .vendorDebtCreated).map
      (db.debtSource vendorId currency)).insertionSort fun a b => sourceLe a b

def reconcilePayoutOffsetAuthority (vendorId : Id) (currency : String) :
    PayoutOffsetAuthorityDiagnostics :=
  let sources := db.authoritySources vendorId currency
  let reasons := collectReasons
    [(!(db.unattributedDebtOffsets vendorId currency).isEmpty,
        "AGGREGATE_DEBT_OFFSETS_NOT_SOURCE_ATTRIBUTED"),
      (!(db.ambiguousDebtChanges vendorId currency).isEmpty,
        "DEBT_BALANCE_CHANGES_NOT_SOURCE_ATTRIBUTED"),
      (sources.any fun s => decide (s.status = .blocked), "SOURCE_CONFLICT_OR_OVERSUBSCRIPTION"),
      (sources.any fun s => decide (s.status = .unknown), "SOURCE_AUTHORITY_INCOMPLETE")]
  { status :=
      if reasons.contains "SOURCE_CONFLICT_OR_OVERSUBSCRIPTION" then .blocked
      else if reasons.isEmpty then .verified
      else .unknown
    sources
    reasons }

/-! ## When a source, and the report, is verified -/

section

variable {db : FinanceDb} {vendorId : Id} {currency : String}

lemma adjustmentSource_verified_iff {a : SettlementRefundAdjustment} :
    (db.adjustmentSource vendorId currency a).status = .verified ↔
      db.adjustmentReasons vendorId currency a = [] := by
  unfold adjustmentSource
  constructor
  · intro h
    by_contra hne
    have : (db.adjustmentReasons vendorId currency a).isEmpty = false := by simpa using hne
    simp only [this, Bool.false_eq_true, if_false] at h
    split at h <;> cases h
  · intro h
    simp [h]

lemma debtSource_verified_iff {e : VendorBalanceEvent} :
    (db.debtSource vendorId currency e).status = .verified ↔
      db.debtReasons vendorId currency e = [] := by
  unfold debtSource
  constructor
  · intro h
    by_contra hne
    have : (db.debtReasons vendorId currency e).isEmpty = false := by simpa using hne
    simp only [this, Bool.false_eq_true, if_false] at h
    split at h <;> cases h
  · intro h
    simp [h]

lemma mem_authoritySources {s : PayoutOffsetSourceDiagnostic} :
    s ∈ db.authoritySources vendorId currency ↔
      (∃ a ∈ db.authorityAdjustments vendorId currency,
          s = db.adjustmentSource vendorId currency a) ∨
        ∃ e ∈ db.balanceEvents vendorId currency .vendorDebtCreated,
          s = db.debtSource vendorId currency e := by
  unfold authoritySources
  rw [List.mem_insertionSort, List.mem_append, List.mem_map, List.mem_map]
  simp only [eq_comm]

/-- **The report is verified** exactly when every source is, and no debt offset or balance
change is left without a source. -/
theorem reconcile_verified_iff :
    (db.reconcilePayoutOffsetAuthority vendorId currency).status = .verified ↔
      db.unattributedDebtOffsets vendorId currency = [] ∧
        db.ambiguousDebtChanges vendorId currency = [] ∧
        (∀ a ∈ db.authorityAdjustments vendorId currency,
          db.adjustmentReasons vendorId currency a = []) ∧
        ∀ e ∈ db.balanceEvents vendorId currency .vendorDebtCreated,
          db.debtReasons vendorId currency e = [] := by
  have hsrc : (∀ s ∈ db.authoritySources vendorId currency, s.status = .verified) ↔
      (∀ a ∈ db.authorityAdjustments vendorId currency,
          db.adjustmentReasons vendorId currency a = []) ∧
        ∀ e ∈ db.balanceEvents vendorId currency .vendorDebtCreated,
          db.debtReasons vendorId currency e = [] := by
    constructor
    · intro h
      refine ⟨fun a ha => adjustmentSource_verified_iff.mp (h _ ?_),
        fun e he => debtSource_verified_iff.mp (h _ ?_)⟩
      · exact mem_authoritySources.mpr (.inl ⟨a, ha, rfl⟩)
      · exact mem_authoritySources.mpr (.inr ⟨e, he, rfl⟩)
    · rintro ⟨ha, he⟩ s hs
      rcases mem_authoritySources.mp hs with ⟨a, hmem, rfl⟩ | ⟨e, hmem, rfl⟩
      · exact adjustmentSource_verified_iff.mpr (ha a hmem)
      · exact debtSource_verified_iff.mpr (he e hmem)
  rw [← hsrc]
  unfold reconcilePayoutOffsetAuthority
  constructor
  · intro h
    simp only at h
    split at h
    · cases h
    · split at h
      · rename_i hr
        have := collectReasons_eq_nil.mp (by simpa using hr)
        simp only [List.mem_cons, List.not_mem_nil, or_false, forall_eq_or_imp, forall_eq,
          Bool.not_eq_false', List.isEmpty_iff, List.any_eq_false, decide_eq_true_eq] at this
        obtain ⟨hu, hd, hb, hk⟩ := this
        refine ⟨hu, hd, fun s hs => ?_⟩
        cases hst : s.status with
        | verified => rfl
        | blocked => exact absurd hst (hb s hs)
        | unknown => exact absurd hst (hk s hs)
      · cases h
  · rintro ⟨hu, hd, hs⟩
    have hb : (db.authoritySources vendorId currency).any (fun s => decide (s.status = .blocked))
        = false := by
      rw [List.any_eq_false]
      intro s h
      simp [hs s h]
    have hk : (db.authoritySources vendorId currency).any (fun s => decide (s.status = .unknown))
        = false := by
      rw [List.any_eq_false]
      intro s h
      simp [hs s h]
    simp [hu, hd, hb, hk, collectReasons]

end

end FinanceDb

end VendorDashboard.Finance

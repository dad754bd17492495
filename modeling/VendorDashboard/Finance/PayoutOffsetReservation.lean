import VendorDashboard.Finance.PayoutPreparation

/-!
# Reserving payout offsets

A payout batch may be reduced by what the vendor owes on refund adjustments and debts.  Each
reduction is a claim: the batch, the settlement whose payable it reduces, the source it draws
on and an amount.  `reserveVerifiedPayoutOffsetsInTransaction` creates the claims of one draft
batch.  It first holds the batch to its approved lineage (`batchLineage`), then requires every
source of the vendor to be verified, and serves the settlements of the batch in the order of
their approval from the sources in the order of their verification.
-/

namespace VendorDashboard.Finance

open Table Transaction Waterfall

/-- A money column in minor units; the column must not be finer than that. -/
def exactMinor (value : ℚ) : Except String ℤ :=
  if (value * 100).den = 1 then .ok (value * 100).num
  else .error "R1_PAYOUT_MONETARY_PRECISION_UNKNOWN"

lemma exactMinor_eq_ok {value : ℚ} {n : ℤ} : exactMinor value = .ok n ↔ value * 100 = n := by
  unfold exactMinor
  split
  · rename_i h
    rw [Except.ok.injEq]
    constructor
    · rintro rfl
      exact (Rat.den_eq_one_iff _).mp h |>.symm
    · intro hv
      rw [hv, Rat.num_intCast]
  · rename_i h
    simp only [reduceCtorEq, false_iff]
    rintro hv
    rw [hv] at h
    exact h (Rat.den_intCast n)

/-! ## The approved lineage of a batch -/

/-- What a correction payout line was taken from. -/
structure CorrectionLineSource where
  settlementApprovalId : Id
  amountMinor : ℤ
  status : CorrectionLineStatus

/-- What one settlement contributes to a batch. -/
structure ApprovalCapacity where
  approvalId : Id
  approvedAt : Instant
  availableMinor : ℤ

/-- The error texts of a lineage check. -/
structure LineageMessages where
  line : String
  credit : String
  deduction : String
  approvedDeduction : String

namespace FinanceDb

variable (db : FinanceDb)

def batchLinesOf (payoutBatchId : Id) : List PayoutBatchLine :=
  db.payoutBatchLine.filter fun l => decide (l.payoutBatchId = payoutBatchId)

def claimsOf (payoutBatchId : Id) : List PayoutOffsetClaim :=
  db.payoutOffsetClaim.filter fun c => decide (c.payoutBatchId = payoutBatchId)

def correctionPayoutLinesOf (payoutBatchId : Id) (lines : List CorrectionPayoutLine) :
    List CorrectionPayoutLine :=
  lines.filter fun p => decide (p.payoutBatchId = payoutBatchId)

def settlementLineOf (l : PayoutBatchLine) : Option SettlementApprovalLine :=
  l.settlementApprovalLineId.bind db.findLine

/-- What the settlement line of a payout line pays. -/
def payoutLinePayable (l : PayoutBatchLine) : ℤ :=
  ((db.settlementLineOf l).map (·.payableImpactMinor)).getD 0

/-- Whether a payout line comes from a settlement. -/
def isLineOfApproval (settlementApprovalId : Id) (l : PayoutBatchLine) : Bool :=
  (db.settlementLineOf l).any fun s => decide (s.settlementApprovalId = settlementApprovalId)

def creditLineSource (p : CorrectionPayoutLine) : Option CorrectionLineSource :=
  (db.correctionCreditSettlementLine.find? fun l => decide (l.id = p.sourceLineId)).map
    fun l => ⟨l.settlementApprovalId, l.amountMinor, l.status⟩

def deductionLineSource (p : CorrectionPayoutLine) : Option CorrectionLineSource :=
  (db.correctionDeductionSettlementLine.find? fun l => decide (l.id = p.sourceLineId)).map
    fun l => ⟨l.settlementApprovalId, l.amountMinor, l.status⟩

def coverageSource (p : CorrectionPayoutLine) : Option CorrectionLineSource :=
  (db.approvedDeductionCoverage.find? fun c => decide (c.id = p.sourceLineId)).map
    fun c => ⟨c.settlementApprovalId, c.amountMinor, c.status⟩

/-- The correction amounts of a batch that come from one settlement. -/
def correctionMinorOf (payoutBatchId settlementApprovalId : Id)
    (lines : List CorrectionPayoutLine)
    (source : CorrectionPayoutLine → Option CorrectionLineSource) : ℤ :=
  total (fun p => decide (p.payoutBatchId = payoutBatchId) &&
    (source p).any fun s => decide (s.settlementApprovalId = settlementApprovalId))
    (·.amountMinor) lines

/-- The correction amounts of a batch. -/
def correctionTotalOf (payoutBatchId : Id) (lines : List CorrectionPayoutLine) : ℤ :=
  total (fun p => decide (p.payoutBatchId = payoutBatchId)) (·.amountMinor) lines

/-- What the lines of a batch pay before any debt or claim is taken off: its settlement lines
and credits, less its deductions. -/
def approvedBaseMinor (payoutBatchId : Id) : ℤ :=
  ((db.batchLinesOf payoutBatchId).map db.payoutLinePayable).sum +
    correctionTotalOf payoutBatchId db.correctionCreditPayoutLine -
    correctionTotalOf payoutBatchId db.correctionDeductionPayoutLine -
    correctionTotalOf payoutBatchId db.approvedDeductionPayoutLine

/-- The part of the base that one settlement contributes. -/
def approvalCapacityMinor (payoutBatchId settlementApprovalId : Id) : ℤ :=
  (((db.batchLinesOf payoutBatchId).filter (db.isLineOfApproval settlementApprovalId)).map
      db.payoutLinePayable).sum +
    correctionMinorOf payoutBatchId settlementApprovalId db.correctionCreditPayoutLine
      db.creditLineSource -
    correctionMinorOf payoutBatchId settlementApprovalId db.correctionDeductionPayoutLine
      db.deductionLineSource -
    correctionMinorOf payoutBatchId settlementApprovalId db.approvedDeductionPayoutLine
      db.coverageSource

/-- The settlement is approved and belongs to the batch's vendor and currency. -/
def isApprovedFor (batch : PayoutBatch) (a : SettlementApproval) : Bool :=
  decide (a.status = .approved) && decide (a.vendorId = batch.vendorId) &&
    decide (a.currency = batch.currency)

/-- A payout line still matches the approved settlement line it was created from. -/
def assertPayoutLineLineage (batch : PayoutBatch) (message : String) (l : PayoutBatchLine) :
    Except String Unit := do
  let line ← getOrThrow (db.settlementLineOf l) message
  let approval ← getOrThrow (db.findApproval line.settlementApprovalId) message
  require (isApprovedFor batch approval ∧ approval.approvedAt.isSome ∧
    l.financeLedgerEntryId = line.financeLedgerEntryId) message
  let amount ← exactMinor l.amountSnapshot
  require (amount = line.payableImpactMinor) message

/-- A correction payout line still matches its source on one of the batch's settlements. -/
def assertCorrectionLineage (batch : PayoutBatch) (approvalIds : List Id)
    (requirePositive : Bool) (message : String)
    (source : CorrectionPayoutLine → Option CorrectionLineSource) (p : CorrectionPayoutLine) :
    Except String Unit := do
  let s ← getOrThrow (source p) message
  require (p.status = .active ∧ s.status = .active ∧
    (db.findApproval s.settlementApprovalId).any (isApprovedFor batch) ∧
    s.settlementApprovalId ∈ approvalIds ∧ p.amountMinor = s.amountMinor ∧
    (requirePositive → 0 < p.amountMinor)) message

/-- The settlements of a batch, in the order of its lines. -/
def approvalIdsOf (payoutBatchId : Id) : List Id :=
  ((db.batchLinesOf payoutBatchId).filterMap fun l =>
    (db.settlementLineOf l).map (·.settlementApprovalId)).eraseDups

/-- Check the whole lineage of a batch; what each settlement contributes. -/
def batchLineage (batch : PayoutBatch) (requirePositive : Bool) (messages : LineageMessages) :
    Except String (List ApprovalCapacity) := do
  (db.batchLinesOf batch.id).forM (db.assertPayoutLineLineage batch messages.line)
  let approvalIds := db.approvalIdsOf batch.id
  (correctionPayoutLinesOf batch.id db.correctionCreditPayoutLine).forM
    (db.assertCorrectionLineage batch approvalIds requirePositive messages.credit
      db.creditLineSource)
  (correctionPayoutLinesOf batch.id db.correctionDeductionPayoutLine).forM
    (db.assertCorrectionLineage batch approvalIds requirePositive messages.deduction
      db.deductionLineSource)
  (correctionPayoutLinesOf batch.id db.approvedDeductionPayoutLine).forM
    (db.assertCorrectionLineage batch approvalIds requirePositive messages.approvedDeduction
      db.coverageSource)
  pure <| approvalIds.map fun id =>
    { approvalId := id
      approvedAt := ((db.findApproval id).bind (·.approvedAt)).getD 0
      availableMinor := db.approvalCapacityMinor batch.id id }

/-! ## Older settlements -/

/-- Whether a payout has completed a settlement line: it was paid, or settled without cash. -/
def isLinePaidOut (line : SettlementApprovalLine) : Bool :=
  let memberships := db.payoutBatchLine.filterMap fun l =>
    if l.settlementApprovalLineId = some line.id then db.findBatch l.payoutBatchId else none
  (db.findLedger line.financeLedgerEntryId).any fun e =>
    (decide (e.payoutStatus = .paid) && memberships.any fun b =>
      decide (b.status = .paid) && b.paidAt.isSome) ||
    (decide (e.payoutStatus = .cashlessCompleted) && memberships.any fun b =>
      decide (b.status = .cashlessCompleted) && b.paidAt.isNone)

/-- Why an older approved settlement may be left out of the batch: it is paid, it is held by an
outstanding refund of its own, or claims reserve all of it. -/
def isOlderApprovalExplained (a : SettlementApproval) : Bool :=
  let lines := db.linesOf a.id
  (!lines.isEmpty && lines.all db.isLinePaidOut) ||
  (db.settlementRefundAdjustment.any (fun r =>
      decide (r.originalSettlementApprovalId = some a.id) && r.outstanding) &&
    lines.all fun l => !db.isLineInActivePayout l.id) ||
  (decide (a.correctionCreditMinor = 0) && decide (a.correctionDeductionMinor = 0) &&
    decide ((lines.map (·.payableImpactMinor)).sum = a.netPayableMinor) &&
    decide (0 < a.netPayableMinor) &&
    decide (a.netPayableMinor ≤ total (fun c => decide (c.settlementApprovalId = a.id) &&
      decide (c.status = .reserved)) (·.reservedAmountMinor) db.payoutOffsetClaim))

/-- The instant of the oldest approval in the batch. -/
def oldestSelectedAt (capacity : List ApprovalCapacity) : Instant :=
  (capacity.map (·.approvedAt)).foldl min 8640000000000000

def assertOlderApprovalsExplained (vendorId : Id) (currency : String)
    (capacity : List ApprovalCapacity) : Except String Unit :=
  require (db.settlementApproval.all fun a =>
      !(decide (a.vendorId = vendorId) && decide (a.currency = currency) &&
        decide (a.status = .approved) &&
        a.approvedAt.any (fun at_ => decide (at_ < oldestSelectedAt capacity)) &&
        decide (a.id ∉ capacity.map (·.approvalId))) || db.isOlderApprovalExplained a)
    "R1_OLDER_APPROVED_SETTLEMENT_ELIGIBILITY_UNKNOWN"

/-! ## Sources -/

/-- An adjustment must come from an approved settlement, and from one outside the batch unless
the batch pays exactly the sale line the refund belongs to. -/
def assertAdjustmentOrigin (vendorId : Id) (currency : String) (payoutBatchId : Id)
    (capacity : List ApprovalCapacity) (allowExactOwnOriginRefund : Bool)
    (source : PayoutOffsetSourceDiagnostic) : Except String Unit := do
  let message := "R1_REFUND_ADJUSTMENT_ORIGIN_NOT_ELIGIBLE_FOR_THIS_PAYOUT"
  let adjustment ← getOrThrow (db.findAdjustment source.sourceId) message
  let originId ← getOrThrow adjustment.originalSettlementApprovalId message
  let originLineId ← getOrThrow adjustment.originalSettlementApprovalLineId message
  let origin ← getOrThrow (db.findApproval originId) message
  let inBatch := decide (originId ∈ capacity.map (·.approvalId))
  let exactOwnOrigin := inBatch && allowExactOwnOriginRefund &&
    (db.acceptedSnapshot adjustment.refundFinanceLedgerEntryId).any fun accepted =>
      decide (some accepted.refundFinanceLedgerEntryId = source.refundFinanceLedgerEntryId) &&
      (db.batchLinesOf payoutBatchId).any fun l =>
        decide (l.settlementApprovalLineId = some originLineId) &&
        decide (l.financeLedgerEntryId = accepted.historicalSaleFinanceLedgerEntryId) &&
        db.isLineOfApproval originId l
  require (origin.status = .approved ∧ origin.vendorId = vendorId ∧ origin.currency = currency ∧
    ¬(inBatch ∧ ¬exactOwnOrigin)) message

/-- The amount of a source must be what its accepted refund takes back from the vendor. -/
def assertSourceEvidence (vendorId : Id) (source : PayoutOffsetSourceDiagnostic)
    (refundLedgerId : Id) : Except String Unit := do
  let message := "R1_ACCEPTED_REFUND_MONETARY_EVIDENCE_INVALID"
  let ledger ← getOrThrow (db.findLedger refundLedgerId) message
  let snapshot ← getOrThrow ledger.refundEvidenceSnapshot message
  require (ledger.entryType = .refund ∧ ledger.vendorId = vendorId ∧ snapshot.monetaryRefund ∧
    ledger.amount ≤ snapshot.refundTotalAmount) message
  let sale ← getOrThrow (db.findLedger snapshot.historicalSaleFinanceLedgerEntryId) message
  require (source.sourceType = .vendorDebt → sale.payoutStatus = .paid)
    "R1_REFUND_DEBT_REQUIRES_PAID_HISTORICAL_SALE"
  require ((calculateRefundOffsetAmounts ledger.amount
      (ledger.commissionPercentSnapshot <|> sale.commissionPercentSnapshot)
      (ledger.commissionVatPercentSnapshot <|>
        sale.commissionVatPercentSnapshot)).vendorPayableReversalMinor =
        source.originalAmountMinor) "R1_SOURCE_AMOUNT_DIFFERS_FROM_FROZEN_REFUND_EVIDENCE"

def assertSourceReservable (vendorId : Id) (currency : String) (payoutBatchId : Id)
    (capacity : List ApprovalCapacity) (allowExactOwnOriginRefund : Bool)
    (source : PayoutOffsetSourceDiagnostic) : Except String Unit := do
  require (source.verifiedAt.isSome ∧ source.unreservedAmountMinor.isSome)
    "R1_SOURCE_VERIFICATION_TIME_OR_BALANCE_UNKNOWN"
  if source.sourceType = .refundAdjustment then
    db.assertAdjustmentOrigin vendorId currency payoutBatchId capacity allowExactOwnOriginRefund
      source
  match source.refundFinanceLedgerEntryId with
  | none => pure ()
  | some refundLedgerId => db.assertSourceEvidence vendorId source refundLedgerId

/-! ## The reservation -/

structure ReservationInput where
  vendorId : Id
  currency : String
  payoutBatchId : Id
  requestId : Id
  actorId : Id
  firstClaimId : Id

/-- A source as a key: its type and its identifier. -/
abbrev SourceKey := PayoutOffsetSourceType × Id

/-- What a source has left unreserved. -/
def unreservedOf (sources : List PayoutOffsetSourceDiagnostic) (k : SourceKey) : ℤ :=
  ((sources.find? fun s => decide ((s.sourceType, s.sourceId) = k)).bind
    (·.unreservedAmountMinor)).getD 0

def claimRow (input : ReservationInput) (now : Instant) (id : Id) (w : Id × SourceKey × ℤ) :
    PayoutOffsetClaim where
  id
  vendorId := input.vendorId
  currency := input.currency
  payoutBatchId := input.payoutBatchId
  settlementApprovalId := w.1
  sourceType := w.2.1.1
  settlementRefundAdjustmentId := if w.2.1.1 = .refundAdjustment then some w.2.1.2 else none
  vendorDebtOriginEventId := if w.2.1.1 = .vendorDebt then some w.2.1.2 else none
  reservedAmountMinor := w.2.2
  status := .reserved
  requestId := input.requestId
  reservedBy := input.actorId
  reservedAt := now

/-- The claims that a batch makes on the sources of a report. -/
def plannedClaims (sources : List PayoutOffsetSourceDiagnostic)
    (capacity : List ApprovalCapacity) : List (Id × SourceKey × ℤ) :=
  let orderedApprovals := capacity.insertionSort fun x y =>
    x.approvedAt < y.approvedAt ∨ (x.approvedAt = y.approvedAt ∧ x.approvalId ≤ y.approvalId)
  let available := (sources.filter fun s => decide (0 < s.unreservedAmountMinor.getD 0)).insertionSort
    fun x y => sourceLe x y
  serve (unreservedOf sources)
    (orderedApprovals.map fun c => (c.approvalId, c.availableMinor))
    (available.map fun s => (s.sourceType, s.sourceId))

/-- Whether the claims of the same request are exactly the batch's claims. -/
def isSameReservation (input : ReservationInput) (priorRequest batchClaims : List PayoutOffsetClaim) :
    Bool :=
  !priorRequest.isEmpty && decide (priorRequest.length = batchClaims.length) &&
    priorRequest.all (fun c => decide (c.payoutBatchId = input.payoutBatchId) &&
      decide (c.vendorId = input.vendorId) && decide (c.currency = input.currency) &&
      decide (c.status = .reserved) && decide (c.reservedBy = input.actorId)) &&
    batchClaims.all fun c => decide (c.requestId = input.requestId)

def RESERVATION_LINEAGE : LineageMessages where
  line := "R1_APPROVED_SETTLEMENT_LINEAGE_INVALID"
  credit := "R1_CORRECTION_CREDIT_LINEAGE_INVALID"
  deduction := "R1_CORRECTION_DEDUCTION_LINEAGE_INVALID"
  approvedDeduction := "R1_APPROVED_DEDUCTION_LINEAGE_INVALID"

/-- Check a batch that has no claims yet; what its settlements can contribute. -/
def assertReservable (input : ReservationInput) (batch : PayoutBatch)
    (allowExactOwnOriginRefund : Bool) : Except String (List ApprovalCapacity) := do
  let capacity ← db.batchLineage batch true RESERVATION_LINEAGE
  require ((db.batchLinesOf batch.id).all fun l => db.payoutBatchLine.all fun m =>
      !(decide (m.settlementApprovalLineId = l.settlementApprovalLineId) &&
        m.settlementApprovalLineId.isSome && decide (m.payoutBatchId ≠ batch.id) &&
        db.batchIsActive m.payoutBatchId)) "R1_APPROVED_LINE_ALREADY_IN_ACTIVE_PAYOUT"
  require (capacity.all (fun c => decide (0 ≤ c.availableMinor)) ∧
    0 ≤ db.approvedBaseMinor batch.id) "R1_PAYOUT_MONETARY_AUTHORITY_INVALID"
  let net ← exactMinor batch.netAmount
  require (net = db.approvedBaseMinor batch.id)
    "R1_PAYOUT_BASE_DOES_NOT_MATCH_APPROVED_AUTHORITY"
  db.assertOlderApprovalsExplained input.vendorId input.currency capacity
  let diagnostic := db.reconcilePayoutOffsetAuthority input.vendorId input.currency
  require (diagnostic.status = .verified ∧
    diagnostic.sources.all fun s => decide (s.status = .verified)) "R1_OFFSET_AUTHORITY_NOT_VERIFIED"
  diagnostic.sources.forM (db.assertSourceReservable input.vendorId input.currency batch.id capacity
    allowExactOwnOriginRefund)
  pure capacity

def reserveVerifiedPayoutOffsetsInTransaction (input : ReservationInput)
    (allowExactOwnOriginRefund : Bool) (now : Instant) : Except String FinanceDb := do
  let batch ← getOrThrow ((db.findBatch input.payoutBatchId).filter fun b =>
    decide (b.vendorId = input.vendorId) && decide (b.currency = input.currency) &&
      decide (b.status = .draft) && b.paidAt.isNone && !(db.batchLinesOf b.id).isEmpty)
    "R1_PAYOUT_BATCH_NOT_ELIGIBLE"
  require (db.vendorBalanceEvent.all fun e => !(decide (e.payoutBatchId = some batch.id) &&
    decide (e.type = .vendorDebtOffset))) "R1_AGGREGATE_DEBT_OFFSET_CONFLICT"
  let priorRequest := db.payoutOffsetClaim.filter fun c => decide (c.requestId = input.requestId)
  let batchClaims := db.claimsOf batch.id
  if priorRequest.isEmpty && batchClaims.isEmpty then do
    let capacity ← db.assertReservable input batch allowExactOwnOriginRefund
    let planned := plannedClaims
      (db.reconcilePayoutOffsetAuthority input.vendorId input.currency).sources capacity
    let claims ← insertRows PayoutOffsetClaim.id db.payoutOffsetClaim
      (withIds (claimRow input now) input.firstClaimId planned) UNIQUE_CONSTRAINT_FAILED
    pure { db with payoutOffsetClaim := claims }
  else do
    require (isSameReservation input priorRequest batchClaims)
      "R1_RESERVATION_IDEMPOTENCY_CONFLICT"
    pure db

/-! ## What a reservation writes -/

variable {db} {db' : FinanceDb}

/-- The lineage check certifies the settlements of a batch. -/
lemma batchLineage_ok {batch : PayoutBatch} {requirePositive : Bool} {messages : LineageMessages}
    {capacity : List ApprovalCapacity}
    (h : db.batchLineage batch requirePositive messages = .ok capacity) :
    capacity.map (·.approvalId) = db.approvalIdsOf batch.id ∧
      ∀ id ∈ db.approvalIdsOf batch.id, ∃ a, db.findApproval id = some a ∧
        isApprovedFor batch a = true := by
  simp only [batchLineage, bind_eq_ok, pure_eq_ok] at h
  obtain ⟨_, hlines, _, -, _, -, _, -, rfl⟩ := h
  refine ⟨by rw [List.map_map]; exact List.map_id _, fun id hid => ?_⟩
  obtain ⟨l, hl, hline⟩ := List.mem_filterMap.mp (List.mem_eraseDups.mp hid)
  obtain ⟨s, hs, rfl⟩ := Option.map_eq_some_iff.mp hline
  have hlineage := forM_eq_ok.mp hlines l hl
  simp only [assertPayoutLineLineage, bind_eq_ok, getOrThrow_eq_ok, require_eq_ok, hs,
    Option.some.injEq] at hlineage
  obtain ⟨_, rfl, a, ha, -, hchecks, -⟩ := hlineage
  exact ⟨a, ha, hchecks.1⟩

lemma assertReservable_ok {input : ReservationInput} {batch : PayoutBatch}
    {allowOwn : Bool} {capacity : List ApprovalCapacity}
    (h : db.assertReservable input batch allowOwn = .ok capacity) :
    capacity.map (·.approvalId) = db.approvalIdsOf batch.id ∧
      (∀ id ∈ db.approvalIdsOf batch.id, ∃ a, db.findApproval id = some a ∧
        isApprovedFor batch a = true) ∧
      batch.netAmount * 100 = db.approvedBaseMinor batch.id ∧
      (db.reconcilePayoutOffsetAuthority input.vendorId input.currency).status = .verified := by
  simp only [assertReservable, bind_eq_ok, require_eq_ok, pure_eq_ok] at h
  obtain ⟨_, hlineage, _, -, _, -, net, hnet, _, hbase, _, -, _, hverified, _, -, rfl⟩ := h
  obtain ⟨hids, happroved⟩ := batchLineage_ok hlineage
  rw [exactMinor_eq_ok] at hnet
  exact ⟨hids, happroved, by rw [hnet, hbase], hverified.1⟩

/-- A planned claim draws a positive amount from a source of the report for a settlement of the
batch. -/
lemma mem_plannedClaims {sources : List PayoutOffsetSourceDiagnostic}
    {capacity : List ApprovalCapacity} {w : Id × SourceKey × ℤ}
    (h : w ∈ plannedClaims sources capacity) :
    w.1 ∈ capacity.map (·.approvalId) ∧ (∃ s ∈ sources, (s.sourceType, s.sourceId) = w.2.1) ∧
      0 < w.2.2 := by
  obtain ⟨hdemand, hsource, hpos⟩ := serve_bounds h
  refine ⟨?_, ?_, hpos⟩
  · rw [List.map_map] at hdemand
    obtain ⟨k, hk, hid⟩ := List.mem_map.mp hdemand
    rw [List.mem_insertionSort] at hk
    exact List.mem_map.mpr ⟨k, hk, hid⟩
  · obtain ⟨s, hs, hkey⟩ := List.mem_map.mp hsource
    rw [List.mem_insertionSort, List.mem_filter] at hs
    exact ⟨s, hs.1, hkey⟩

/-- **What a committed reservation wrote**: nothing when it repeats an earlier request, and
otherwise the planned claims of a batch that had none. -/
theorem reserveVerifiedPayoutOffsetsInTransaction_ok {input : ReservationInput} {allowOwn : Bool}
    {now : Instant}
    (h : db.reserveVerifiedPayoutOffsetsInTransaction input allowOwn now = .ok db') :
    ∃ batch, db.findBatch input.payoutBatchId = some batch ∧ batch.vendorId = input.vendorId ∧
      batch.currency = input.currency ∧ batch.status = .draft ∧
      (∀ e ∈ db.vendorBalanceEvent, ¬(e.payoutBatchId = some batch.id ∧
        e.type = .vendorDebtOffset)) ∧
      (db' = db ∨ db.claimsOf batch.id = [] ∧ ∃ capacity,
        db.assertReservable input batch allowOwn = .ok capacity ∧
        KeyUnique PayoutOffsetClaim.id (db.payoutOffsetClaim ++
          withIds (claimRow input now) input.firstClaimId (plannedClaims
            (db.reconcilePayoutOffsetAuthority input.vendorId input.currency).sources capacity)) ∧
        db' = { db with
          payoutOffsetClaim := db.payoutOffsetClaim ++
            withIds (claimRow input now) input.firstClaimId (plannedClaims
              (db.reconcilePayoutOffsetAuthority input.vendorId input.currency).sources
              capacity) }) := by
  unfold reserveVerifiedPayoutOffsetsInTransaction at h
  obtain ⟨batch, hbatch, h⟩ := bind_eq_ok.mp h
  rw [getOrThrow_eq_ok] at hbatch
  obtain ⟨hfind, hsel⟩ := Option.filter_eq_some_iff.mp hbatch
  simp only [Bool.and_eq_true, decide_eq_true_eq] at hsel
  obtain ⟨_, hevents, h⟩ := bind_eq_ok.mp h
  rw [require_eq_ok, List.all_eq_true] at hevents
  refine ⟨batch, hfind, hsel.1.1.1.1, hsel.1.1.1.2, hsel.1.1.2, fun e he hc => ?_, ?_⟩
  · have := hevents e he
    simp [hc] at this
  · dsimp only at h
    split at h
    · rename_i hempty
      simp only [bind_eq_ok, insertRows_eq_ok, pure_eq_ok] at h
      obtain ⟨capacity, hcapacity, _, ⟨hu, rfl⟩, rfl⟩ := h
      simp only [Bool.and_eq_true, List.isEmpty_iff] at hempty
      exact .inr ⟨hempty.2, capacity, hcapacity, hu, rfl⟩
    · simp only [bind_eq_ok, pure_eq_ok] at h
      obtain ⟨-, -, rfl⟩ := h
      exact .inl rfl

end FinanceDb

end VendorDashboard.Finance

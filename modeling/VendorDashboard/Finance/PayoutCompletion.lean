import VendorDashboard.Finance.Constraints
import VendorDashboard.Finance.PayoutTransition

/-!
# Moving a payout batch

The transitions of a payout batch after its preparation: into review, cancelled, paid, or
completed without cash.  Each is one guarded update of the batch's status
(`FinanceDb.moveBatch`) together with what happens to its claims, its correction lines and its
ledger rows.  Batches with reserved claims go through the R1 variants, which hold the batch to
its frozen net first.
-/

namespace VendorDashboard.Finance

open Table Transaction

/-- What an admin declares about a bank transfer. -/
structure PaymentEvidence where
  paidAt : Instant
  eftExecutedAt : Option Instant

namespace FinanceDb

variable (db : FinanceDb)

/-- Move the one batch that `select` admits under the identifier to its new state. -/
def moveBatch (batchId : Id) (select : PayoutBatch → Bool) (f : PayoutBatch → PayoutBatch)
    (message : String) : Except String FinanceDb := do
  let admitted := fun b : PayoutBatch => decide (b.id = batchId) && select b
  require ((db.payoutBatch.filter admitted).length = 1) message
  pure { db with payoutBatch := updateWhere admitted f db.payoutBatch }

/-- A batch in the given status that was not paid. -/
def isUnpaidIn (status : PayoutBatchStatus) (b : PayoutBatch) : Bool :=
  decide (b.status = status) && b.paidAt.isNone

def assertNoReservedPayoutOffsetClaims (batchId : Id) : Except String Unit :=
  require ((db.claimsOf batchId).all fun c => decide (c.status ≠ .reserved))
    "R1_PAYOUT_RESERVED_CLAIMS_BLOCK_TRANSITION"

/-- Set the status of the batch's active correction lines. -/
def settleCorrectionLines (batchId : Id) (status : CorrectionLineStatus)
    (lines : List CorrectionPayoutLine) : List CorrectionPayoutLine :=
  updateWhere (fun p => decide (p.payoutBatchId = batchId) && decide (p.status = .active))
    (fun p => { p with status }) lines

def settleCorrectionPayoutLines (batchId : Id) (status : CorrectionLineStatus) : FinanceDb :=
  { db with
    correctionCreditPayoutLine := settleCorrectionLines batchId status db.correctionCreditPayoutLine
    correctionDeductionPayoutLine :=
      settleCorrectionLines batchId status db.correctionDeductionPayoutLine
    approvedDeductionPayoutLine :=
      settleCorrectionLines batchId status db.approvedDeductionPayoutLine }

def releaseCancelledPayoutSources (batchId : Id) : FinanceDb :=
  db.settleCorrectionPayoutLines batchId .cancelled

/-! ## Review -/

def markPayoutBatchReview (batchId : Id) (now : Instant) : Except String FinanceDb := do
  db.assertNoReservedPayoutOffsetClaims batchId
  db.validatePayoutBatchBeforeTransition batchId 0 [] now
  db.moveBatch batchId (isUnpaidIn .draft) (fun b => { b with status := .review })
    "Payout batch must still be DRAFT to enter review."

def markR1PayoutBatchReview (batchId : Id) (now : Instant) : Except String FinanceDb := do
  let authority ← db.assertR1PayoutMonetaryAuthority batchId true
  require (authority.batch.status = .draft) "R1_PAYOUT_REVIEW_STATE_CHANGED"
  let claimCoveredRefunds ← db.proveR1ClaimCoveredRefunds batchId
  db.validatePayoutBatchBeforeTransition batchId authority.offsetMinor claimCoveredRefunds now
  db.moveBatch batchId (isUnpaidIn .draft) (fun b => { b with status := .review })
    "R1_PAYOUT_REVIEW_STATE_CHANGED"

/-! ## Cancellation -/

def cancelDraftPayoutBatchWithClient (batchId : Id) (actorId : Option Id) :
    Except String FinanceDb := do
  let cancelled ← db.moveBatch batchId (isUnpaidIn .draft)
    (fun b => { b with status := .cancelled }) "DRAFT_PAYOUT_STATE_CHANGED"
  let released ← cancelled.releaseCancelledPayoutOffsetClaims batchId actorId .draft none
  pure (released.releaseCancelledPayoutSources batchId)

def cancelReviewPayoutBatchWithClient (batchId : Id) : Except String FinanceDb := do
  db.assertNoReservedPayoutOffsetClaims batchId
  let cancelled ← db.moveBatch batchId (isUnpaidIn .review)
    (fun b => { b with status := .cancelled }) "REVIEW_PAYOUT_STATE_CHANGED"
  pure (cancelled.releaseCancelledPayoutSources batchId)

/-- Give up an R1 batch in review on the attestation that no bank transfer was sent. -/
def cancelR1ReviewPayoutBeforeEft (batchId actorUserId : Id) : Except String FinanceDb := do
  let authority ← db.assertR1PayoutMonetaryAuthority batchId false
  require (authority.batch.status = .review ∧ authority.batch.eftExecutedAt.isNone ∧
    authority.batch.paidAt.isNone) "R1_REVIEW_EXTERNAL_EFT_STATE_UNSAFE"
  let evidence : R1ReviewCancellationAttestation :=
    { actorUserId
      confirmedEftNotSent := true
      frozenNetMinor := authority.netCashMinor
      frozenOffsetMinor := authority.offsetMinor }
  let cancelled ← db.moveBatch batchId
    (fun b => isUnpaidIn .review b && b.eftExecutedAt.isNone)
    (fun b => { b with status := .cancelled }) "R1_REVIEW_PAYOUT_STATE_CHANGED"
  let released ← cancelled.releaseCancelledPayoutOffsetClaims batchId (some actorUserId) .review
    (some evidence)
  pure (released.releaseCancelledPayoutSources batchId)

def isGenerallyCancellable (b : PayoutBatch) : Bool :=
  b.paidAt.isNone && match b.status with
    | .paid | .cashlessCompleted | .cancelled | .review => false
    | _ => true

/-- Why a batch cannot be cancelled. -/
def cancellationRefusal (b : Option PayoutBatch) : String :=
  match b with
  | none => "Payout batch not found."
  | some b =>
      if b.status = .paid ∨ b.paidAt.isSome then "Paid payout batches cannot be cancelled."
      else if b.status = .cashlessCompleted then
        "Cashless completed payout batches cannot be cancelled."
      else if b.status = .review then "REVIEW_GENERAL_CANCELLATION_FORBIDDEN"
      else "Payout batch could not be cancelled because its status changed."

def cancelPayoutBatch (batchId : Id) (actorId : Option Id) : Except String FinanceDb := do
  let initial ← getOrThrow (db.findBatch batchId) "Payout batch not found."
  let cancelled ← db.moveBatch batchId isGenerallyCancellable
    (fun b => { b with status := .cancelled }) (cancellationRefusal (db.findBatch batchId))
  let released ← cancelled.releaseCancelledPayoutOffsetClaims batchId actorId initial.status none
  pure (released.releaseCancelledPayoutSources batchId)

/-! ## Completion without cash -/

/-- The ledger rows of a batch. -/
def batchLedgerIds (batchId : Id) : List Id :=
  ((db.batchLinesOf batchId).map (·.financeLedgerEntryId)).eraseDups

def completeR1CashlessPayout (batchId firstEventId : Id) (now : Instant) :
    Except String FinanceDb := do
  let authority ← db.assertR1PayoutMonetaryAuthority batchId true
  let batch := authority.batch
  require (batch.status = .review ∧ authority.netCashMinor = 0 ∧
    authority.approvedBaseMinor = authority.offsetMinor) "R1_CASHLESS_ZERO_NET_REVIEW_REQUIRED"
  require (batch.paidAt.isNone ∧ batch.eftExecutedAt.isNone)
    "R1_CASHLESS_EXTERNAL_EFT_STATE_UNSAFE"
  let claimCoveredRefunds ← db.proveR1ClaimCoveredRefunds batchId
  db.validatePayoutBatchBeforeTransition batchId authority.offsetMinor claimCoveredRefunds now
  let finalized ← db.finalizeR1PayoutOffsetClaimsInTransaction batchId batch.vendorId
    batch.currency firstEventId
  let moved ← finalized.moveBatch batchId
    (fun b => decide (b.vendorId = batch.vendorId) && isUnpaidIn .review b &&
      b.eftExecutedAt.isNone) (fun b => { b with status := .cashlessCompleted })
    "R1_CASHLESS_PAYOUT_STATE_CHANGED"
  let ledgerIds := db.batchLedgerIds batchId
  let select := fun e : FinanceLedgerEntry => decide (e.id ∈ ledgerIds) &&
    decide (e.vendorId = batch.vendorId) && decide (e.payoutStatus ≠ .paid) && e.settledAt.isNone
  require ((moved.financeLedgerEntry.filter select).length = ledgerIds.length)
    "R1_CASHLESS_LEDGER_LINEAGE_CHANGED"
  pure { moved with
    financeLedgerEntry := updateWhere select
      (fun e => { e with payoutStatus := .cashlessCompleted, settlementStatus := .cashlessCompleted })
      moved.financeLedgerEntry }

/-! ## Payment -/

/-- Why a batch that is not in review cannot be paid. -/
def paymentRefusal (b : PayoutBatch) : String :=
  if b.status = .paid then "Payout batch is already paid."
  else if b.status = .cancelled then "Cancelled payout batches cannot be marked paid."
  else "Only review payout batches can be marked paid."

/-- What an ordinary payment requires of the claims of the batch: none may be reserved. -/
def assertOrdinaryPayment (batchId : Id) (evidence : PaymentEvidence) : Except String Unit := do
  match evidence.eftExecutedAt with
  | some eftExecutedAt =>
      if (db.claimsOf batchId).any fun c => decide (c.status = .reserved) then do
        let timing ← db.classifyR1EftRefundTiming batchId eftExecutedAt
        require (timing.hasUnknown = false) "R1_EFT_REFUND_TIMING_UNKNOWN"
        require (timing.beforeEftRefundLedgerIds.isEmpty) "R1_REFUND_ACCEPTED_BEFORE_EFT"
      else pure ()
  | none => pure ()
  db.assertNoReservedPayoutOffsetClaims batchId

/-- What an R1 payment requires: the transferred amount is the frozen net. -/
def assertR1Payment (batchId : Id) (evidence : PaymentEvidence) (actualEftAmountMinor : ℤ) :
    Except String (ℤ × List CoveredRefund) := do
  let authority ← db.assertR1PayoutMonetaryAuthority batchId false
  let eftExecutedAt ← getOrThrow evidence.eftExecutedAt "R1_ACTUAL_EFT_ATTESTATION_REQUIRED"
  require (authority.batch.status = .review ∧ 0 < authority.netCashMinor ∧
    authority.netCashMinor = actualEftAmountMinor) "R1_ACTUAL_EFT_AMOUNT_OR_STATE_CONFLICT"
  let missedRefunds ← db.proveR1MissedRefundsForSentEft batchId eftExecutedAt
  pure (authority.offsetMinor, missedRefunds)

/-- The R1 claims and the refunds that a payment leaves out of its revalidation. -/
def assertPayment (batchId : Id) (evidence : PaymentEvidence) (actualR1EftAmountMinor : Option ℤ) :
    Except String (ℤ × List CoveredRefund) :=
  match actualR1EftAmountMinor with
  | some amount => db.assertR1Payment batchId evidence amount
  | none => do
      db.assertOrdinaryPayment batchId evidence
      pure (0, [])

/-- Mark the ledger rows of a batch paid. -/
def payLedgerRows (ledgerIds : List Id) (paidAt : Instant) : Except String FinanceDb := do
  let select := fun e : FinanceLedgerEntry => decide (e.id ∈ ledgerIds)
  require ((db.financeLedgerEntry.filter select).length = ledgerIds.length)
    "Every payout batch ledger row must be updated before marking paid."
  pure { db with
    financeLedgerEntry := updateWhere select
      (fun e => { e with payoutStatus := .paid, settlementStatus := .settled, settledAt := some paidAt })
      db.financeLedgerEntry }

/-- Every correction line of the batch is still active. -/
def assertCorrectionLinesActive (batchId : Id) : Except String Unit := do
  let allActive := fun lines : List CorrectionPayoutLine =>
    (correctionPayoutLinesOf batchId lines).all fun p => decide (p.status = .active)
  require (allActive db.correctionCreditPayoutLine)
    "Every correction-credit payout line must be marked paid atomically."
  require (allActive db.correctionDeductionPayoutLine)
    "Every correction-deduction payout line must be marked paid atomically."
  require (allActive db.approvedDeductionPayoutLine)
    "Every approved-settlement correction deduction must be marked paid atomically."

/-- Pay a batch in review; `actualR1EftAmountMinor` selects the R1 route. -/
def markPayoutBatchPaidInTransaction (batchId : Id) (evidence : PaymentEvidence)
    (actualR1EftAmountMinor : Option ℤ) (firstEventId : Id) (now : Instant) :
    Except String FinanceDb := do
  let batch ← getOrThrow (db.findBatch batchId) "Payout batch not found."
  require (batch.status = .review) (paymentRefusal batch)
  let (offsetMinor, missedRefunds) ← db.assertPayment batchId evidence actualR1EftAmountMinor
  require (¬((db.batchLinesOf batchId).isEmpty ∧
    (correctionPayoutLinesOf batchId db.correctionCreditPayoutLine).isEmpty ∧
    (correctionPayoutLinesOf batchId db.correctionDeductionPayoutLine).isEmpty ∧
    (correctionPayoutLinesOf batchId db.approvedDeductionPayoutLine).isEmpty))
    "Payout batch has no lines to mark paid."
  db.validatePayoutBatchBeforeTransition batchId offsetMinor missedRefunds now
  require (evidence.eftExecutedAt.all fun t => decide (t ≤ now))
    "EFT execution time cannot be after its Admin attestation."
  let finalized ← if actualR1EftAmountMinor.isSome then
      db.finalizeR1PayoutOffsetClaimsInTransaction batchId batch.vendorId batch.currency
        firstEventId
    else pure db
  let moved ← finalized.moveBatch batchId (fun b => decide (b.status = .review))
    (fun b => { b with
      status := .paid, paidAt := some evidence.paidAt, eftExecutedAt := evidence.eftExecutedAt })
    "Payout batch could not be marked paid because its status changed."
  let paid ← moved.payLedgerRows (db.batchLedgerIds batchId) evidence.paidAt
  paid.assertCorrectionLinesActive batchId
  pure (paid.settleCorrectionPayoutLines batchId .paid)

def markPayoutBatchPaid (batchId : Id) (evidence : PaymentEvidence) (now : Instant) :
    Except String FinanceDb :=
  db.markPayoutBatchPaidInTransaction batchId evidence none 0 now

def markR1PayoutBatchPaid (batchId : Id) (evidence : PaymentEvidence)
    (actualEftAmountMinor : ℤ) (firstEventId : Id) (now : Instant) : Except String FinanceDb := do
  require (evidence.eftExecutedAt.isSome ∧ 0 < actualEftAmountMinor)
    "R1_ACTUAL_EFT_ATTESTATION_REQUIRED"
  db.markPayoutBatchPaidInTransaction batchId evidence (some actualEftAmountMinor) firstEventId now

/-! ## What a transition writes -/

/-- The database with one batch rewritten. -/
def withBatch (batchId : Id) (f : PayoutBatch → PayoutBatch) : FinanceDb :=
  { db with payoutBatch := updateWhere (fun b => decide (b.id = batchId)) f db.payoutBatch }

/-- The database with a batch cancelled, its claims released and its correction lines free. -/
def withCancelledBatch (batchId : Id) : FinanceDb :=
  releaseCancelledPayoutSources
    { db.withBatch batchId (fun b => { b with status := .cancelled }) with
      payoutOffsetClaim := updateWhere
        (fun c => decide (c.payoutBatchId = batchId) && decide (c.status = .reserved))
        releaseClaimRow db.payoutOffsetClaim } batchId

variable {db} {db' : FinanceDb}

lemma moveBatch_ok {batchId : Id} {select : PayoutBatch → Bool} {f : PayoutBatch → PayoutBatch}
    {message : String} (hbatch : KeyUnique PayoutBatch.id db.payoutBatch)
    (h : db.moveBatch batchId select f message = .ok db') :
    (∃ b, db.findBatch batchId = some b ∧ select b = true) ∧ db' = db.withBatch batchId f := by
  simp only [moveBatch, bind_eq_ok, require_eq_ok, pure_eq_ok] at h
  obtain ⟨-, hone, rfl⟩ := h
  have hselect : ∀ b : PayoutBatch, (decide (b.id = batchId) && select b) = true →
      b.id = batchId := by
    intro b hb
    simp only [Bool.and_eq_true, decide_eq_true_eq] at hb
    exact hb.1
  obtain ⟨hupdate, b, hb, rfl, hsel⟩ := updateWhere_of_length_eq_one hbatch (f := f) hselect hone
  simp only [Bool.and_eq_true] at hsel
  refine ⟨⟨b, findRow_of_mem hbatch hb, hsel.2⟩, ?_⟩
  rw [hupdate]
  rfl

lemma isUnpaidIn_eq_true {status : PayoutBatchStatus} {b : PayoutBatch} :
    isUnpaidIn status b = true ↔ b.status = status ∧ b.paidAt.isNone := by
  simp [isUnpaidIn]

/-- Both routes into review move a draft. -/
lemma markPayoutBatchReview_ok {batchId : Id} {now : Instant}
    (hc : db.Constraints) (h : db.markPayoutBatchReview batchId now = .ok db') :
    (∃ b, db.findBatch batchId = some b ∧ b.status = .draft) ∧
      db' = db.withBatch batchId fun b => { b with status := .review } := by
  simp only [markPayoutBatchReview, bind_eq_ok] at h
  obtain ⟨_, -, _, -, h⟩ := h
  obtain ⟨⟨b, hb, hsel⟩, rfl⟩ := moveBatch_ok hc.batch_key h
  exact ⟨⟨b, hb, (isUnpaidIn_eq_true.mp hsel).1⟩, rfl⟩

lemma markR1PayoutBatchReview_ok {batchId : Id} {now : Instant}
    (hc : db.Constraints) (h : db.markR1PayoutBatchReview batchId now = .ok db') :
    (∃ b, db.findBatch batchId = some b ∧ b.status = .draft) ∧
      db' = db.withBatch batchId fun b => { b with status := .review } := by
  simp only [markR1PayoutBatchReview, bind_eq_ok] at h
  obtain ⟨_, -, _, -, _, -, _, -, h⟩ := h
  obtain ⟨⟨b, hb, hsel⟩, rfl⟩ := moveBatch_ok hc.batch_key h
  exact ⟨⟨b, hb, (isUnpaidIn_eq_true.mp hsel).1⟩, rfl⟩

/-! ### Cancellation -/

/-- A release after the move to cancelled: the claims that were reserved are released. -/
lemma withCancelledBatch_of_release {batchId : Id} {actorId : Option Id}
    {originalStatus : PayoutBatchStatus} {evidence : Option R1ReviewCancellationAttestation}
    {released : FinanceDb} (hclaim : KeyUnique PayoutOffsetClaim.id db.payoutOffsetClaim)
    (h : (db.withBatch batchId fun b => { b with status := .cancelled }
      ).releaseCancelledPayoutOffsetClaims batchId actorId originalStatus evidence = .ok released) :
    released.releaseCancelledPayoutSources batchId = db.withCancelledBatch batchId := by
  obtain ⟨hreserved, rfl⟩ := releaseCancelledPayoutOffsetClaims_ok h hclaim
  have hupdate : updateWhere (fun c => decide (c.payoutBatchId = batchId)) releaseClaimRow
      db.payoutOffsetClaim = updateWhere
        (fun c => decide (c.payoutBatchId = batchId) && decide (c.status = .reserved))
        releaseClaimRow db.payoutOffsetClaim := by
    refine List.map_congr_left fun c hc => ?_
    by_cases hb : c.payoutBatchId = batchId
    · have hs := hreserved c (List.mem_filter.mpr ⟨hc, by simpa using hb⟩)
      simp [hb, hs]
    · simp [hb]
  unfold withCancelledBatch
  rw [← hupdate]
  rfl

lemma cancelDraftPayoutBatchWithClient_ok {batchId : Id} {actorId : Option Id}
    (hc : db.Constraints) (h : db.cancelDraftPayoutBatchWithClient batchId actorId = .ok db') :
    (∃ b, db.findBatch batchId = some b ∧ b.status = .draft) ∧
      db' = db.withCancelledBatch batchId := by
  simp only [cancelDraftPayoutBatchWithClient, bind_eq_ok, pure_eq_ok] at h
  obtain ⟨cancelled, hmove, released, hrelease, rfl⟩ := h
  obtain ⟨⟨b, hb, hsel⟩, rfl⟩ := moveBatch_ok hc.batch_key hmove
  exact ⟨⟨b, hb, (isUnpaidIn_eq_true.mp hsel).1⟩, withCancelledBatch_of_release hc.claim_key hrelease⟩

lemma cancelReviewPayoutBatchWithClient_ok {batchId : Id}
    (hc : db.Constraints) (h : db.cancelReviewPayoutBatchWithClient batchId = .ok db') :
    (∃ b, db.findBatch batchId = some b ∧ b.status = .review) ∧
      (∀ c ∈ db.claimsOf batchId, c.status ≠ .reserved) ∧
      db' = db.withCancelledBatch batchId := by
  simp only [cancelReviewPayoutBatchWithClient, assertNoReservedPayoutOffsetClaims, bind_eq_ok,
    require_eq_ok, pure_eq_ok, List.all_eq_true, decide_eq_true_eq] at h
  obtain ⟨_, hnone, cancelled, hmove, rfl⟩ := h
  obtain ⟨⟨b, hb, hsel⟩, rfl⟩ := moveBatch_ok hc.batch_key hmove
  refine ⟨⟨b, hb, (isUnpaidIn_eq_true.mp hsel).1⟩, hnone, ?_⟩
  unfold withCancelledBatch
  rw [updateWhere_eq_self]
  · rfl
  · intro c hmem
    by_cases hb : c.payoutBatchId = batchId
    · simp [hnone c (List.mem_filter.mpr ⟨hmem, by simpa using hb⟩)]
    · simp [hb]

lemma cancelR1ReviewPayoutBeforeEft_ok {batchId actorUserId : Id}
    (hc : db.Constraints) (h : db.cancelR1ReviewPayoutBeforeEft batchId actorUserId = .ok db') :
    (∃ b, db.findBatch batchId = some b ∧ b.status = .review) ∧
      db' = db.withCancelledBatch batchId := by
  simp only [cancelR1ReviewPayoutBeforeEft, bind_eq_ok, pure_eq_ok] at h
  obtain ⟨_, -, _, -, cancelled, hmove, released, hrelease, rfl⟩ := h
  obtain ⟨⟨b, hb, hsel⟩, rfl⟩ := moveBatch_ok hc.batch_key hmove
  simp only [Bool.and_eq_true] at hsel
  exact ⟨⟨b, hb, (isUnpaidIn_eq_true.mp hsel.1).1⟩, withCancelledBatch_of_release hc.claim_key hrelease⟩

lemma cancelPayoutBatch_ok {batchId : Id} {actorId : Option Id}
    (hc : db.Constraints) (h : db.cancelPayoutBatch batchId actorId = .ok db') :
    (∃ b, db.findBatch batchId = some b ∧ b.status ≠ .paid ∧ b.status ≠ .cashlessCompleted ∧
      b.status ≠ .cancelled) ∧ db' = db.withCancelledBatch batchId := by
  simp only [cancelPayoutBatch, bind_eq_ok, pure_eq_ok] at h
  obtain ⟨_, -, cancelled, hmove, released, hrelease, rfl⟩ := h
  obtain ⟨⟨b, hb, hsel⟩, rfl⟩ := moveBatch_ok hc.batch_key hmove
  refine ⟨⟨b, hb, ?_⟩, withCancelledBatch_of_release hc.claim_key hrelease⟩
  simp only [isGenerallyCancellable, Bool.and_eq_true] at hsel
  refine ⟨?_, ?_, ?_⟩ <;>
  · intro hs
    simp [hs] at hsel

/-! ### Completion and payment -/

/-- The ledger rows that a completion without cash marks. -/
def isCashlessRow (ledgerIds : List Id) (vendorId : Id) (e : FinanceLedgerEntry) : Bool :=
  decide (e.id ∈ ledgerIds) && decide (e.vendorId = vendorId) && decide (e.payoutStatus ≠ .paid) &&
    e.settledAt.isNone

/-- A finalization leaves the batches alone. -/
lemma finalize_batch_key {payoutBatchId vendorId : Id} {currency : String} {firstEventId : Id}
    (hc : db.Constraints)
    (h : db.finalizeR1PayoutOffsetClaimsInTransaction payoutBatchId vendorId currency
      firstEventId = .ok db') : KeyUnique PayoutBatch.id db'.payoutBatch := by
  obtain ⟨claims, hclaims, hwrites, -⟩ := finalizeR1PayoutOffsetClaimsInTransaction_ok h
  obtain ⟨-, -, rfl⟩ := finalizeClaims_ok hwrites hclaims.perm hc.adjustment_key hc.claim_key
    hc.event_key
  exact hc.batch_key

lemma completeR1CashlessPayout_ok {batchId firstEventId : Id} {now : Instant}
    (hc : db.Constraints) (h : db.completeR1CashlessPayout batchId firstEventId now = .ok db') :
    ∃ batch finalized, db.findBatch batchId = some batch ∧ batch.status = .review ∧
      (∀ l ∈ db.batchLinesOf batchId, ∃ s, (db.effectiveLine l).settlementLine = some s ∧
        db.approvalIsApproved s.settlementApprovalId = true) ∧
      db.finalizeR1PayoutOffsetClaimsInTransaction batchId batch.vendorId batch.currency
        firstEventId = .ok finalized ∧
      db' = { finalized.withBatch batchId fun b => { b with status := .cashlessCompleted } with
        financeLedgerEntry := updateWhere (isCashlessRow (db.batchLedgerIds batchId) batch.vendorId)
          (fun e => { e with
            payoutStatus := .cashlessCompleted, settlementStatus := .cashlessCompleted })
          finalized.financeLedgerEntry } := by
  simp only [completeR1CashlessPayout, bind_eq_ok, require_eq_ok, pure_eq_ok] at h
  obtain ⟨authority, hauthority, _, ⟨hreview, -⟩, _, -, covered, -, _, hvalid, finalized,
    hfinalized, moved, hmove, _, -, rfl⟩ := h
  obtain ⟨hfind, -⟩ := assertR1PayoutMonetaryAuthority_ok hauthority
  obtain ⟨-, rfl⟩ := moveBatch_ok (finalize_batch_key hc hfinalized) hmove
  exact ⟨authority.batch, finalized, hfind, hreview,
    fun l hl => validatePayoutBatchBeforeTransition_ok hvalid hl, hfinalized, rfl⟩

lemma payLedgerRows_ok {ledgerIds : List Id} {paidAt : Instant}
    (h : db.payLedgerRows ledgerIds paidAt = .ok db') :
    db' = { db with
      financeLedgerEntry := updateWhere (fun e => decide (e.id ∈ ledgerIds))
        (fun e => { e with
          payoutStatus := .paid, settlementStatus := .settled, settledAt := some paidAt })
        db.financeLedgerEntry } := by
  simp only [payLedgerRows, bind_eq_ok, require_eq_ok, pure_eq_ok] at h
  obtain ⟨-, -, rfl⟩ := h
  rfl

/-- The finalization that a payment runs first: on the R1 route, of the batch's claims. -/
def finalizeForPayment (db : FinanceDb) (batch : PayoutBatch) (actualR1EftAmountMinor : Option ℤ)
    (firstEventId : Id) : Except String FinanceDb :=
  if actualR1EftAmountMinor.isSome then
    db.finalizeR1PayoutOffsetClaimsInTransaction batch.id batch.vendorId batch.currency firstEventId
  else pure db

lemma markPayoutBatchPaidInTransaction_ok {batchId : Id} {evidence : PaymentEvidence}
    {actualR1EftAmountMinor : Option ℤ} {firstEventId : Id} {now : Instant} (hc : db.Constraints)
    (h : db.markPayoutBatchPaidInTransaction batchId evidence actualR1EftAmountMinor firstEventId
      now = .ok db') :
    ∃ batch finalized, db.findBatch batchId = some batch ∧ batch.status = .review ∧
      (∃ covered, db.assertPayment batchId evidence actualR1EftAmountMinor = .ok covered) ∧
      (∀ l ∈ db.batchLinesOf batchId, ∃ s, (db.effectiveLine l).settlementLine = some s ∧
        db.approvalIsApproved s.settlementApprovalId = true) ∧
      db.finalizeForPayment batch actualR1EftAmountMinor firstEventId = .ok finalized ∧
      db' = { finalized.withBatch batchId (fun b => { b with
          status := .paid, paidAt := some evidence.paidAt
          eftExecutedAt := evidence.eftExecutedAt }) with
        financeLedgerEntry := updateWhere (fun e => decide (e.id ∈ db.batchLedgerIds batchId))
          (fun e => { e with payoutStatus := .paid, settlementStatus := .settled
                             settledAt := some evidence.paidAt })
          finalized.financeLedgerEntry }.settleCorrectionPayoutLines batchId .paid := by
  unfold markPayoutBatchPaidInTransaction at h
  simp only [bind_eq_ok, getOrThrow_eq_ok, require_eq_ok] at h
  obtain ⟨batch, hfind, _, hreview, covered, hpayment, _, -, _, hvalid, _, -, h⟩ := h
  have hid : batch.id = batchId := key_of_findRow hfind
  have hlines : ∀ l ∈ db.batchLinesOf batchId, ∃ s,
      (db.effectiveLine l).settlementLine = some s ∧
        db.approvalIsApproved s.settlementApprovalId = true :=
    fun l hl => validatePayoutBatchBeforeTransition_ok hvalid hl
  have hfinalize : ∃ finalized, db.finalizeForPayment batch actualR1EftAmountMinor firstEventId =
      .ok finalized ∧ KeyUnique PayoutBatch.id finalized.payoutBatch ∧
      ∃ moved, finalized.moveBatch batchId (fun b => decide (b.status = .review))
        (fun b => { b with
          status := .paid, paidAt := some evidence.paidAt
          eftExecutedAt := evidence.eftExecutedAt })
        "Payout batch could not be marked paid because its status changed." = .ok moved ∧
      ∃ paid, moved.payLedgerRows (db.batchLedgerIds batchId) evidence.paidAt = .ok paid ∧
        db' = paid.settleCorrectionPayoutLines batchId .paid := by
    unfold finalizeForPayment
    split at h
    · rename_i hr1
      simp only [bind_eq_ok, pure_eq_ok] at h
      obtain ⟨finalized, hfinalized, moved, hmove, paid, hpaid, _, -, rfl⟩ := h
      rw [if_pos hr1, hid]
      exact ⟨finalized, hfinalized, finalize_batch_key hc hfinalized, moved, hmove, paid, hpaid, rfl⟩
    · rename_i hr1
      simp only [bind_eq_ok, pure_eq_ok] at h
      obtain ⟨_, rfl, moved, hmove, paid, hpaid, _, -, rfl⟩ := h
      rw [if_neg hr1]
      exact ⟨_, rfl, hc.batch_key, moved, hmove, paid, hpaid, rfl⟩
  obtain ⟨finalized, hfinalized, hkey, moved, hmove, paid, hpaid, rfl⟩ := hfinalize
  obtain ⟨-, rfl⟩ := moveBatch_ok hkey hmove
  obtain rfl := payLedgerRows_ok hpaid
  exact ⟨batch, finalized, hfind, hreview, ⟨covered, hpayment⟩, hlines, hfinalized, rfl⟩

/-- The ordinary route pays no batch with reserved claims. -/
lemma assertPayment_none_ok {batchId : Id} {evidence : PaymentEvidence}
    {covered : ℤ × List CoveredRefund}
    (h : db.assertPayment batchId evidence none = .ok covered) :
    ∀ c ∈ db.claimsOf batchId, c.status ≠ .reserved := by
  have hnone : ∀ u, db.assertNoReservedPayoutOffsetClaims batchId = .ok u →
      ∀ c ∈ db.claimsOf batchId, c.status ≠ .reserved := by
    intro u hu
    simpa [assertNoReservedPayoutOffsetClaims] using hu
  simp only [assertPayment, bind_eq_ok, assertOrdinaryPayment] at h
  obtain ⟨_, hordinary, -⟩ := h
  split at hordinary
  · split at hordinary
    · simp only [bind_eq_ok] at hordinary
      obtain ⟨_, -, _, -, _, -, hu⟩ := hordinary
      exact hnone _ hu
    · exact hnone _ hordinary
  · exact hnone _ hordinary

lemma markR1PayoutBatchPaid_ok {batchId : Id} {evidence : PaymentEvidence}
    {actualEftAmountMinor : ℤ} {firstEventId : Id} {now : Instant}
    (h : db.markR1PayoutBatchPaid batchId evidence actualEftAmountMinor firstEventId now =
      .ok db') :
    db.markPayoutBatchPaidInTransaction batchId evidence (some actualEftAmountMinor) firstEventId
      now = .ok db' := by
  simp only [markR1PayoutBatchPaid, bind_eq_ok] at h
  obtain ⟨_, -, h⟩ := h
  exact h

end FinanceDb

end VendorDashboard.Finance

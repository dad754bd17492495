import VendorDashboard.Finance.PayoutOffsetReservation

/-!
# Checking, finalizing and releasing claims

The three things that happen to the claims of a batch after they were reserved.

* `assertR1PayoutMonetaryAuthority` holds the batch to its frozen net: the approved base less its
  claims, each claim within its settlement and its source.
* `finalizeR1PayoutOffsetClaimsInTransaction` consumes the sources: an adjustment by its counters,
  a debt by an offset event; every claim of the batch becomes `FINALIZED`.
* `releaseCancelledPayoutOffsetClaims` gives the sources back; every claim becomes `RELEASED`.
-/

namespace VendorDashboard.Finance

open Table Transaction

/-- What the monetary check of an R1 batch returns. -/
structure R1MonetaryAuthority where
  batch : PayoutBatch
  claims : List PayoutOffsetClaim
  approvedBaseMinor : ℤ
  offsetMinor : ℤ
  netCashMinor : ℤ

/-- The attestation that lets a batch in review be cancelled. -/
structure R1ReviewCancellationAttestation where
  actorUserId : Id
  confirmedEftNotSent : Bool
  frozenNetMinor : ℤ
  frozenOffsetMinor : ℤ

def MONETARY_LINEAGE : LineageMessages where
  line := "R1_PAYOUT_APPROVED_LINEAGE_CHANGED"
  credit := "R1_PAYOUT_CREDIT_LINEAGE_CHANGED"
  deduction := "R1_PAYOUT_DEDUCTION_LINEAGE_CHANGED"
  approvedDeduction := "R1_PAYOUT_APPROVED_DEDUCTION_LINEAGE_CHANGED"

def claimSum (claims : List PayoutOffsetClaim) : ℤ := (claims.map (·.reservedAmountMinor)).sum

/-- The source of a claim in a report. -/
def sourceOfClaim (diagnostic : PayoutOffsetAuthorityDiagnostics) (c : PayoutOffsetClaim) :
    Option PayoutOffsetSourceDiagnostic :=
  diagnostic.sources.find? fun s =>
    decide (s.sourceType = c.sourceType) && decide (some s.sourceId = c.sourceId)

namespace FinanceDb

variable (db : FinanceDb)

/-! ## The monetary check -/

/-- An outstanding refund of one of the batch's own lines must be reserved in full. -/
def ownRefundsCovered (batch : PayoutBatch) (claims : List PayoutOffsetClaim) : Bool :=
  db.settlementRefundAdjustment.all fun a =>
    !((db.batchLinesOf batch.id).any (fun l => l.settlementApprovalLineId.isSome &&
        decide (a.originalSettlementApprovalLineId = l.settlementApprovalLineId)) &&
      a.outstanding) ||
    (decide (a.vendorId = batch.vendorId) && decide (a.currencyCode = batch.currency) &&
      decide (claimSum (claims.filter fun c =>
        decide (c.settlementRefundAdjustmentId = some a.id)) = a.remainingAmountMinor))

def assertR1PayoutMonetaryAuthority (payoutBatchId : Id)
    (requireCurrentOwnRefundCoverage : Bool) : Except String R1MonetaryAuthority := do
  let invalid := "R1_PAYOUT_MONETARY_BATCH_INVALID"
  let batch ← getOrThrow (db.findBatch payoutBatchId) invalid
  let claims := db.claimsOf batch.id
  require ((batch.status = .draft ∨ batch.status = .review) ∧ batch.paidAt.isNone ∧
    0 < batch.r1OffsetTotalMinor ∧ ¬(db.batchLinesOf batch.id).isEmpty ∧ ¬claims.isEmpty ∧
    db.vendorBalanceEvent.all (fun e => !(decide (e.payoutBatchId = some batch.id) &&
      decide (e.type = .vendorDebtOffset)))) invalid
  let capacity ← db.batchLineage batch false MONETARY_LINEAGE
  let base := db.approvedBaseMinor batch.id
  let offset := claimSum claims
  let net ← exactMinor batch.netAmount
  require (0 < base ∧ offset = batch.r1OffsetTotalMinor ∧ offset ≤ base ∧ net = base - offset ∧
    claims.all (fun c => decide (c.status = .reserved) && decide (c.vendorId = batch.vendorId) &&
      decide (c.currency = batch.currency) && decide (0 < c.reservedAmountMinor) &&
      decide (c.settlementApprovalId ∈ capacity.map (·.approvalId))))
    "R1_PAYOUT_FROZEN_NET_OR_CLAIMS_CHANGED"
  require (capacity.all fun k => decide (0 ≤ k.availableMinor) &&
    decide (claimSum (claims.filter fun c => decide (c.settlementApprovalId = k.approvalId)) ≤
      k.availableMinor)) "R1_PAYOUT_APPROVAL_CAPACITY_CHANGED"
  require (requireCurrentOwnRefundCoverage → db.ownRefundsCovered batch claims)
    "R1_OWN_APPROVAL_REFUND_NOT_FULLY_RESERVED"
  let diagnostic := db.reconcilePayoutOffsetAuthority batch.vendorId batch.currency
  require (diagnostic.status = .verified) "R1_PAYOUT_SOURCE_AUTHORITY_CHANGED"
  require (claims.all fun c => (sourceOfClaim diagnostic c).any fun s =>
    decide (s.status = .verified) && decide (c.reservedAmountMinor ≤ s.activeReservationMinor))
    "R1_PAYOUT_SOURCE_CLAIM_NOT_VERIFIED"
  pure { batch, claims, approvedBaseMinor := base, offsetMinor := offset, netCashMinor := base - offset }

/-! ## Finalizing -/

/-- Whether a claim may be finalized under the report. -/
def isClaimFinalizable (diagnostic : PayoutOffsetAuthorityDiagnostics) (c : PayoutOffsetClaim) :
    Bool :=
  (sourceOfClaim diagnostic c).any fun s => decide (s.status = .verified) &&
    s.remainingAmountMinor.isSome && decide (c.reservedAmountMinor ≤ s.activeReservationMinor)

/-- A claim names exactly the source its type says. -/
def hasSourceIdentity (c : PayoutOffsetClaim) : Bool :=
  match c.sourceType with
  | .refundAdjustment =>
      c.settlementRefundAdjustmentId.isSome && c.vendorDebtOriginEventId.isNone
  | .vendorDebt => c.vendorDebtOriginEventId.isSome && c.settlementRefundAdjustmentId.isNone

/-- The adjustments that the claims draw on, in the order of the claims. -/
def refundGroups (claims : List PayoutOffsetClaim) : List Id :=
  ((claims.filter fun c => decide (c.sourceType = .refundAdjustment)).filterMap
    (·.settlementRefundAdjustmentId)).eraseDups

/-- What the claims draw from one adjustment. -/
def groupAmount (claims : List PayoutOffsetClaim) (adjustmentId : Id) : ℤ :=
  claimSum (claims.filter fun c => decide (c.sourceType = .refundAdjustment) &&
    decide (c.settlementRefundAdjustmentId = some adjustmentId))

/-- Whether the guarded update of an adjustment may finalize `amountMinor` on it. -/
def mayFinalize (vendorId : Id) (currency : String) (adjustmentId : Id) (amountMinor : ℤ)
    (a : SettlementRefundAdjustment) : Bool :=
  decide (a.id = adjustmentId) && decide (a.vendorId = vendorId) &&
    decide (a.currencyCode = currency) &&
    decide (a.status = .pending ∨ a.status = .partiallyApplied) &&
    decide (amountMinor ≤ a.remainingAmountMinor)

/-- The adjustment after `amountMinor` was finalized on it; `remaining` is what the check
computed. -/
def finalizeOn (amountMinor remaining : ℤ) (a : SettlementRefundAdjustment) :
    SettlementRefundAdjustment :=
  { a with
    appliedAmountMinor := a.appliedAmountMinor + amountMinor
    remainingAmountMinor := a.remainingAmountMinor - amountMinor
    status := if remaining = 0 then .applied else .partiallyApplied }

/-- Finalize what the claims draw from one adjustment. -/
def finalizeAdjustment (vendorId : Id) (currency : String) (claims : List PayoutOffsetClaim)
    (db : FinanceDb) (adjustmentId : Id) : Except String FinanceDb := do
  let amountMinor := groupAmount claims adjustmentId
  let adjustment ← getOrThrow (db.findAdjustment adjustmentId)
    "R1_FINALIZATION_ADJUSTMENT_AMOUNT_INVALID"
  require (0 < amountMinor ∧ amountMinor ≤ adjustment.remainingAmountMinor ∧
    adjustment.originalAmountMinor =
      adjustment.appliedAmountMinor + adjustment.remainingAmountMinor)
    "R1_FINALIZATION_ADJUSTMENT_AMOUNT_INVALID"
  let select := mayFinalize vendorId currency adjustmentId amountMinor
  require ((db.settlementRefundAdjustment.filter select).length = 1)
    "R1_FINALIZATION_ADJUSTMENT_RACE"
  pure { db with
    settlementRefundAdjustment := updateWhere select
      (finalizeOn amountMinor (adjustment.remainingAmountMinor - amountMinor))
      db.settlementRefundAdjustment }

/-- The debt offset of a finalized claim. -/
def claimOffsetEvent (id : Id) (c : PayoutOffsetClaim) : VendorBalanceEvent where
  id
  vendorId := c.vendorId
  type := .vendorDebtOffset
  amountMinor := c.reservedAmountMinor
  currency := c.currency
  source := .r1PayoutOffsetClaim c.id
  financeLedgerEntryId := none
  refundRecordId := none
  payoutBatchId := some c.payoutBatchId
  financialCorrectionAuthority := none

/-- Finalize one claim; `p` carries the identifier of its debt offset. -/
def finalizeClaim (payoutBatchId : Id) (db : FinanceDb) (p : Id × PayoutOffsetClaim) :
    Except String FinanceDb := do
  let events ← if p.2.sourceType = .vendorDebt then
      insertRows VendorBalanceEvent.id db.vendorBalanceEvent [claimOffsetEvent p.1 p.2]
        UNIQUE_CONSTRAINT_FAILED
    else pure db.vendorBalanceEvent
  let select := fun c : PayoutOffsetClaim => decide (c.id = p.2.id) &&
    decide (c.payoutBatchId = payoutBatchId) && decide (c.status = .reserved)
  require ((db.payoutOffsetClaim.filter select).length = 1) "R1_FINALIZATION_CLAIM_RACE"
  pure { db with
    vendorBalanceEvent := events
    payoutOffsetClaim := updateWhere select (fun c => { c with status := .finalized })
      db.payoutOffsetClaim }

/-- The claims that may be finalized with a batch in review. -/
def assertFinalizable (payoutBatchId vendorId : Id) (currency : String) :
    Except String (List PayoutOffsetClaim) := do
  require ((db.findBatch payoutBatchId).any fun b => decide (b.vendorId = vendorId) &&
    decide (b.currency = currency) && decide (b.status = .review) && b.paidAt.isNone)
    "R1_FINALIZATION_BATCH_STATE_INVALID"
  let claims := (db.claimsOf payoutBatchId).insertionSort fun x y =>
    x.reservedAt < y.reservedAt ∨ (x.reservedAt = y.reservedAt ∧ x.id ≤ y.id)
  require (¬claims.isEmpty ∧ claims.all fun c => decide (c.status = .reserved) &&
    decide (c.vendorId = vendorId) && decide (c.currency = currency) &&
    decide (0 < c.reservedAmountMinor)) "R1_FINALIZATION_CLAIM_STATE_INVALID"
  let before := db.reconcilePayoutOffsetAuthority vendorId currency
  require (before.status = .verified) "R1_FINALIZATION_AUTHORITY_NOT_VERIFIED"
  require (claims.all (isClaimFinalizable before)) "R1_FINALIZATION_SOURCE_NOT_VERIFIED"
  require (claims.all hasSourceIdentity) "R1_FINALIZATION_SOURCE_IDENTITY_INVALID"
  pure claims

/-- The writes of a finalization. -/
def finalizeClaims (payoutBatchId vendorId : Id) (currency : String) (firstEventId : Id)
    (claims : List PayoutOffsetClaim) : Except String FinanceDb := do
  let consumed ← (refundGroups claims).foldlM (finalizeAdjustment vendorId currency claims) db
  (withIds Prod.mk firstEventId claims).foldlM (finalizeClaim payoutBatchId) consumed

def finalizeR1PayoutOffsetClaimsInTransaction (payoutBatchId vendorId : Id) (currency : String)
    (firstEventId : Id) : Except String FinanceDb := do
  let claims ← db.assertFinalizable payoutBatchId vendorId currency
  let finalized ← db.finalizeClaims payoutBatchId vendorId currency firstEventId claims
  require ((finalized.reconcilePayoutOffsetAuthority vendorId currency).status = .verified)
    "R1_FINALIZATION_POSTCHECK_FAILED"
  pure finalized

/-! ## Releasing -/

/-- Release one claim of a cancelled batch. -/
def releaseClaim (batch : PayoutBatch) (db : FinanceDb) (claim : PayoutOffsetClaim) :
    Except String FinanceDb := do
  let select := fun c : PayoutOffsetClaim => decide (c.id = claim.id) &&
    decide (c.payoutBatchId = batch.id) && decide (c.vendorId = batch.vendorId) &&
    decide (c.currency = batch.currency) && decide (c.status = .reserved)
  require ((db.payoutOffsetClaim.filter select).length = 1) "R1_PAYOUT_CLAIM_RELEASE_RACE"
  pure { db with
    payoutOffsetClaim := updateWhere select (fun c => { c with status := .released })
      db.payoutOffsetClaim }

/-- A batch in review is only given up on an attestation about exactly its frozen amounts. -/
def reviewEvidenceAccepted (batch : PayoutBatch) (actorId : Option Id)
    (evidence : Option R1ReviewCancellationAttestation) : Bool :=
  evidence.any fun e => e.confirmedEftNotSent && decide (some e.actorUserId = actorId) &&
    decide (e.frozenNetMinor = toMinorUnits batch.netAmount) &&
    decide (e.frozenOffsetMinor = batch.r1OffsetTotalMinor)

def releaseCancelledPayoutOffsetClaims (batchId : Id) (actorId : Option Id)
    (originalStatus : PayoutBatchStatus) (reviewEvidence : Option R1ReviewCancellationAttestation) :
    Except String FinanceDb := do
  let claims := db.claimsOf batchId
  if claims.isEmpty then pure db
  else do
    let batch ← getOrThrow (db.findBatch batchId) "R1_PAYOUT_CLAIM_RELEASE_NOT_AUTHORIZED"
    require ((originalStatus = .draft ∨ originalStatus = .review) ∧ batch.status = .cancelled ∧
      batch.paidAt.isNone ∧ actorId.isSome ∧
      (originalStatus = .review → reviewEvidenceAccepted batch actorId reviewEvidence) ∧
      claims.all fun c => decide (c.status = .reserved) && decide (c.vendorId = batch.vendorId) &&
        decide (c.currency = batch.currency))
      "R1_PAYOUT_CLAIM_RELEASE_NOT_AUTHORIZED"
    claims.foldlM (releaseClaim batch) db

/-! ## What a finalization writes -/

/-- An adjustment after everything the claims draw from it was finalized. -/
def finalizeRow (claims : List PayoutOffsetClaim) (a : SettlementRefundAdjustment) :
    SettlementRefundAdjustment :=
  finalizeOn (groupAmount claims a.id) (a.remainingAmountMinor - groupAmount claims a.id) a

def finalizeClaimRow (c : PayoutOffsetClaim) : PayoutOffsetClaim := { c with status := .finalized }

def releaseClaimRow (c : PayoutOffsetClaim) : PayoutOffsetClaim := { c with status := .released }

/-- The debt offsets of the finalized claims, each under its identifier. -/
def claimOffsetEvents (ps : List (Id × PayoutOffsetClaim)) : List VendorBalanceEvent :=
  (ps.filter fun p => decide (p.2.sourceType = .vendorDebt)).map fun p => claimOffsetEvent p.1 p.2

/-- What the guards of a finalization certify about one adjustment. -/
structure MayFinalize (vendorId : Id) (currency : String) (amountMinor : ℤ)
    (a : SettlementRefundAdjustment) : Prop where
  vendor_eq : a.vendorId = vendorId
  currency_eq : a.currencyCode = currency
  amount_pos : 0 < amountMinor
  amount_le : amountMinor ≤ a.remainingAmountMinor
  original_eq : a.originalAmountMinor = a.appliedAmountMinor + a.remainingAmountMinor
  outstanding : a.status = .pending ∨ a.status = .partiallyApplied

variable {db} {db' : FinanceDb}

lemma finalizeAdjustment_ok {vendorId : Id} {currency : String} {claims : List PayoutOffsetClaim}
    {adjustmentId : Id}
    (hadj : KeyUnique SettlementRefundAdjustment.id db.settlementRefundAdjustment)
    (h : finalizeAdjustment vendorId currency claims db adjustmentId = .ok db') :
    (∃ a ∈ db.settlementRefundAdjustment, a.id = adjustmentId ∧
        MayFinalize vendorId currency (groupAmount claims adjustmentId) a) ∧
      db' = { db with
        settlementRefundAdjustment := updateWhere (fun a => decide (a.id = adjustmentId))
          (finalizeRow claims) db.settlementRefundAdjustment } := by
  simp only [finalizeAdjustment, bind_eq_ok, getOrThrow_eq_ok, require_eq_ok, pure_eq_ok] at h
  obtain ⟨a, ha, -, ⟨hpos, hle, horiginal⟩, -, hone, rfl⟩ := h
  have hmem : a ∈ db.settlementRefundAdjustment := mem_of_findRow ha
  have hid : a.id = adjustmentId := key_of_findRow ha
  have hmay : ∀ x, mayFinalize vendorId currency adjustmentId (groupAmount claims adjustmentId) x =
      true → x.id = adjustmentId := by
    intro x hx
    simp only [mayFinalize, Bool.and_eq_true, decide_eq_true_eq] at hx
    exact hx.1.1.1.1
  obtain ⟨hupdate, x, hx, hxid, hxmay⟩ := updateWhere_of_length_eq_one hadj
    (f := finalizeOn (groupAmount claims adjustmentId)
      (a.remainingAmountMinor - groupAmount claims adjustmentId)) hmay hone
  obtain rfl : x = a := hadj.eq hx hmem (hxid.trans hid.symm)
  simp only [mayFinalize, Bool.and_eq_true, decide_eq_true_eq] at hxmay
  refine ⟨⟨x, hmem, hid, hxmay.1.1.1.2, hxmay.1.1.2, hpos, hle, horiginal, hxmay.1.2⟩, ?_⟩
  rw [hupdate]
  have hrow : updateWhere (fun a => decide (a.id = adjustmentId))
      (finalizeOn (groupAmount claims adjustmentId)
        (x.remainingAmountMinor - groupAmount claims adjustmentId)) db.settlementRefundAdjustment =
      updateWhere (fun a => decide (a.id = adjustmentId)) (finalizeRow claims)
        db.settlementRefundAdjustment := by
    refine List.map_congr_left fun y hy => ?_
    by_cases hyid : y.id = adjustmentId
    · obtain rfl := hadj.eq hy hmem (hyid.trans hid.symm)
      simp [finalizeRow, hyid]
    · simp [hyid]
  rw [hrow]

lemma finalizeAdjustments_ok {vendorId : Id} {currency : String} {claims : List PayoutOffsetClaim}
    {ids : List Id} (h : ids.foldlM (finalizeAdjustment vendorId currency claims) db = .ok db')
    (hids : ids.Nodup)
    (hadj : KeyUnique SettlementRefundAdjustment.id db.settlementRefundAdjustment) :
    (∀ i ∈ ids, ∃ a ∈ db.settlementRefundAdjustment, a.id = i ∧
        MayFinalize vendorId currency (groupAmount claims i) a) ∧
      db' = { db with
        settlementRefundAdjustment := updateWhere (fun a => decide (a.id ∈ ids))
          (finalizeRow claims) db.settlementRefundAdjustment } := by
  induction ids generalizing db with
  | nil =>
      obtain rfl := foldlM_nil_eq_ok.mp h
      refine ⟨by simp, ?_⟩
      rw [updateWhere_eq_self (by simp)]
  | cons i ids ih =>
      obtain ⟨hi, hids⟩ := List.nodup_cons.mp hids
      obtain ⟨t, ht, h⟩ := foldlM_cons_eq_ok.mp h
      obtain ⟨hfirst, rfl⟩ := finalizeAdjustment_ok hadj ht
      have hadj' := hadj.updateWhere (p := fun a => decide (a.id = i)) (f := finalizeRow claims)
        fun _ => rfl
      obtain ⟨hrest, rfl⟩ := ih h hids hadj'
      refine ⟨fun j hj => ?_, ?_⟩
      · rcases List.mem_cons.mp hj with rfl | hj
        · exact hfirst
        · obtain ⟨a, ha, hid, hmay⟩ := hrest j hj
          obtain ⟨a₀, ha₀, rfl⟩ := mem_updateWhere.mp ha
          by_cases hi₀ : a₀.id = i
          · simp only [hi₀, decide_true, if_true] at hid
            have : a₀.id = j := hid
            exact absurd (hi₀ ▸ this ▸ hj) hi
          · simp only [hi₀, decide_false, Bool.false_eq_true, if_false] at hid hmay
            exact ⟨a₀, ha₀, hid, hmay⟩
      · rw [← updateWhere_mem_cons SettlementRefundAdjustment.id (finalizeRow claims) hi
          fun _ => rfl]

/-- The status of a claim moves once. -/
lemma finalizeClaim_ok {payoutBatchId : Id} {p : Id × PayoutOffsetClaim}
    (hclaim : KeyUnique PayoutOffsetClaim.id db.payoutOffsetClaim)
    (hevent : KeyUnique VendorBalanceEvent.id db.vendorBalanceEvent)
    (h : finalizeClaim payoutBatchId db p = .ok db') :
    KeyUnique VendorBalanceEvent.id (db.vendorBalanceEvent ++ claimOffsetEvents [p]) ∧
      db' = { db with
        vendorBalanceEvent := db.vendorBalanceEvent ++ claimOffsetEvents [p]
        payoutOffsetClaim := updateWhere (fun c => decide (c.id = p.2.id)) finalizeClaimRow
          db.payoutOffsetClaim } := by
  have hselect : ∀ c : PayoutOffsetClaim, (decide (c.id = p.2.id) &&
      decide (c.payoutBatchId = payoutBatchId) && decide (c.status = .reserved)) = true →
        c.id = p.2.id := by
    intro c hc
    simp only [Bool.and_eq_true, decide_eq_true_eq] at hc
    exact hc.1.1
  unfold finalizeClaim at h
  dsimp only at h
  split at h
  · rename_i htype
    simp only [bind_eq_ok, insertRows_eq_ok, require_eq_ok, pure_eq_ok] at h
    obtain ⟨_, ⟨hu, rfl⟩, -, hone, rfl⟩ := h
    obtain ⟨hupdate, -⟩ := updateWhere_of_length_eq_one hclaim (f := finalizeClaimRow) hselect hone
    have hrows : claimOffsetEvents [p] = [claimOffsetEvent p.1 p.2] := by
      simp [claimOffsetEvents, htype]
    rw [hrows, ← hupdate]
    exact ⟨hu, rfl⟩
  · rename_i htype
    simp only [bind_eq_ok, require_eq_ok, pure_eq_ok] at h
    obtain ⟨_, rfl, -, hone, rfl⟩ := h
    obtain ⟨hupdate, -⟩ := updateWhere_of_length_eq_one hclaim (f := finalizeClaimRow) hselect hone
    have hrows : claimOffsetEvents [p] = [] := by simp [claimOffsetEvents, htype]
    rw [hrows, ← hupdate, List.append_nil]
    exact ⟨hevent, rfl⟩

lemma finalizeClaimLoop_ok {payoutBatchId : Id} {ps : List (Id × PayoutOffsetClaim)}
    (h : ps.foldlM (finalizeClaim payoutBatchId) db = .ok db')
    (hps : (ps.map (·.2.id)).Nodup)
    (hclaim : KeyUnique PayoutOffsetClaim.id db.payoutOffsetClaim)
    (hevent : KeyUnique VendorBalanceEvent.id db.vendorBalanceEvent) :
    KeyUnique VendorBalanceEvent.id (db.vendorBalanceEvent ++ claimOffsetEvents ps) ∧
      db' = { db with
        vendorBalanceEvent := db.vendorBalanceEvent ++ claimOffsetEvents ps
        payoutOffsetClaim := updateWhere (fun c => decide (c.id ∈ ps.map (·.2.id)))
          finalizeClaimRow db.payoutOffsetClaim } := by
  induction ps generalizing db with
  | nil =>
      obtain rfl := foldlM_nil_eq_ok.mp h
      rw [updateWhere_eq_self (by simp)]
      simpa [claimOffsetEvents] using hevent
  | cons p ps ih =>
      obtain ⟨hp, hps⟩ := List.nodup_cons.mp hps
      obtain ⟨t, ht, h⟩ := foldlM_cons_eq_ok.mp h
      obtain ⟨hevent', rfl⟩ := finalizeClaim_ok hclaim hevent ht
      have hclaim' := hclaim.updateWhere (p := fun c => decide (c.id = p.2.id))
        (f := finalizeClaimRow) fun _ => rfl
      obtain ⟨hu, rfl⟩ := ih h hps hclaim' hevent'
      have hrows : db.vendorBalanceEvent ++ claimOffsetEvents [p] ++ claimOffsetEvents ps =
          db.vendorBalanceEvent ++ claimOffsetEvents (p :: ps) := by
        rw [List.append_assoc]
        congr 1
        by_cases hp : p.2.sourceType = .vendorDebt <;> simp [claimOffsetEvents, hp]
      rw [hrows] at hu
      refine ⟨hu, ?_⟩
      have hcons := updateWhere_mem_cons PayoutOffsetClaim.id finalizeClaimRow hp (fun _ => rfl)
        db.payoutOffsetClaim
      rw [List.map_cons, ← hcons, hrows]

/-- The claims of a batch, told by the batch they belong to. -/
lemma updateWhere_claimIds {payoutBatchId : Id} {claims : List PayoutOffsetClaim}
    (hclaim : KeyUnique PayoutOffsetClaim.id db.payoutOffsetClaim)
    (hperm : claims.Perm (db.claimsOf payoutBatchId)) (f : PayoutOffsetClaim → PayoutOffsetClaim) :
    updateWhere (fun c => decide (c.id ∈ claims.map (·.id))) f db.payoutOffsetClaim =
      updateWhere (fun c => decide (c.payoutBatchId = payoutBatchId)) f db.payoutOffsetClaim := by
  refine List.map_congr_left fun c hc => ?_
  have hiff : c.id ∈ claims.map (·.id) ↔ c.payoutBatchId = payoutBatchId := by
    rw [(hperm.map _).mem_iff]
    constructor
    · intro hmem
      obtain ⟨d, hd, hid⟩ := List.mem_map.mp hmem
      obtain ⟨hd, hbatch⟩ := List.mem_filter.mp hd
      rw [← hclaim.eq hd hc hid]
      simpa using hbatch
    · intro hbatch
      exact List.mem_map_of_mem (List.mem_filter.mpr ⟨hc, by simpa using hbatch⟩)
  simp only [hiff]

/-- What the guards of a finalization certify about the claims it finalizes. -/
structure FinalizableClaims (db : FinanceDb) (payoutBatchId vendorId : Id) (currency : String)
    (claims : List PayoutOffsetClaim) : Prop where
  perm : claims.Perm (db.claimsOf payoutBatchId)
  nonempty : claims ≠ []
  reserved : ∀ c ∈ claims, c.status = .reserved
  vendor_eq : ∀ c ∈ claims, c.vendorId = vendorId
  currency_eq : ∀ c ∈ claims, c.currency = currency
  amount_pos : ∀ c ∈ claims, 0 < c.reservedAmountMinor
  identity : ∀ c ∈ claims, hasSourceIdentity c = true
  before : (db.reconcilePayoutOffsetAuthority vendorId currency).status = .verified

lemma assertFinalizable_ok {payoutBatchId vendorId : Id} {currency : String}
    {claims : List PayoutOffsetClaim}
    (h : db.assertFinalizable payoutBatchId vendorId currency = .ok claims) :
    FinalizableClaims db payoutBatchId vendorId currency claims := by
  simp only [assertFinalizable, bind_eq_ok, require_eq_ok, pure_eq_ok] at h
  obtain ⟨_, -, _, ⟨hne, hstate⟩, _, hbefore, _, -, _, hidentity, rfl⟩ := h
  simp only [List.all_eq_true, Bool.and_eq_true, decide_eq_true_eq] at hstate hidentity
  exact
    { perm := List.perm_insertionSort _ _
      nonempty := by simpa using hne
      reserved := fun c hc => (hstate c hc).1.1.1
      vendor_eq := fun c hc => (hstate c hc).1.1.2
      currency_eq := fun c hc => (hstate c hc).1.2
      amount_pos := fun c hc => (hstate c hc).2
      identity := hidentity
      before := hbefore }

/-- **What the writes of a finalization are**, table by table. -/
theorem finalizeClaims_ok {payoutBatchId vendorId : Id} {currency : String} {firstEventId : Id}
    {claims : List PayoutOffsetClaim}
    (h : db.finalizeClaims payoutBatchId vendorId currency firstEventId claims = .ok db')
    (hperm : claims.Perm (db.claimsOf payoutBatchId))
    (hadj : KeyUnique SettlementRefundAdjustment.id db.settlementRefundAdjustment)
    (hclaim : KeyUnique PayoutOffsetClaim.id db.payoutOffsetClaim)
    (hevent : KeyUnique VendorBalanceEvent.id db.vendorBalanceEvent) :
    (∀ i ∈ refundGroups claims, ∃ a ∈ db.settlementRefundAdjustment, a.id = i ∧
        MayFinalize vendorId currency (groupAmount claims i) a) ∧
      KeyUnique VendorBalanceEvent.id (db.vendorBalanceEvent ++
        claimOffsetEvents (withIds Prod.mk firstEventId claims)) ∧
      db' = { db with
        settlementRefundAdjustment := updateWhere (fun a => decide (a.id ∈ refundGroups claims))
          (finalizeRow claims) db.settlementRefundAdjustment
        vendorBalanceEvent := db.vendorBalanceEvent ++
          claimOffsetEvents (withIds Prod.mk firstEventId claims)
        payoutOffsetClaim := updateWhere (fun c => decide (c.payoutBatchId = payoutBatchId))
          finalizeClaimRow db.payoutOffsetClaim } := by
  unfold finalizeClaims at h
  obtain ⟨consumed, hconsumed, h⟩ := bind_eq_ok.mp h
  obtain ⟨hgroups, rfl⟩ := finalizeAdjustments_ok hconsumed (nodup_eraseDups _) hadj
  have hmap : (withIds Prod.mk firstEventId claims).map (·.2.id) = claims.map (·.id) :=
    map_withIds (f := Prod.mk) (fun _ _ => rfl) _ _
  have hids : ((withIds Prod.mk firstEventId claims).map (·.2.id)).Nodup := by
    rw [hmap, (hperm.map _).nodup_iff]
    exact List.Nodup.sublist (List.Sublist.map _ List.filter_sublist) hclaim
  obtain ⟨hu, rfl⟩ := finalizeClaimLoop_ok h hids hclaim hevent
  refine ⟨hgroups, hu, ?_⟩
  rw [hmap]
  dsimp only
  rw [updateWhere_claimIds hclaim hperm]

lemma finalizeR1PayoutOffsetClaimsInTransaction_ok {payoutBatchId vendorId : Id}
    {currency : String} {firstEventId : Id}
    (h : db.finalizeR1PayoutOffsetClaimsInTransaction payoutBatchId vendorId currency
      firstEventId = .ok db') :
    ∃ claims, FinalizableClaims db payoutBatchId vendorId currency claims ∧
      db.finalizeClaims payoutBatchId vendorId currency firstEventId claims = .ok db' ∧
      (db'.reconcilePayoutOffsetAuthority vendorId currency).status = .verified := by
  simp only [finalizeR1PayoutOffsetClaimsInTransaction, bind_eq_ok, require_eq_ok,
    pure_eq_ok] at h
  obtain ⟨claims, hclaims, finalized, hfinalized, _, hpost, rfl⟩ := h
  exact ⟨claims, assertFinalizable_ok hclaims, hfinalized, hpost⟩

/-! ## What a release writes -/

lemma releaseClaims_ok {batch : PayoutBatch} {claims : List PayoutOffsetClaim}
    (h : claims.foldlM (releaseClaim batch) db = .ok db')
    (hclaims : (claims.map (·.id)).Nodup)
    (hclaim : KeyUnique PayoutOffsetClaim.id db.payoutOffsetClaim) :
    db' = { db with
      payoutOffsetClaim := updateWhere (fun c => decide (c.id ∈ claims.map (·.id)))
        releaseClaimRow db.payoutOffsetClaim } := by
  induction claims generalizing db with
  | nil =>
      obtain rfl := foldlM_nil_eq_ok.mp h
      rw [updateWhere_eq_self (by simp)]
  | cons c claims ih =>
      obtain ⟨hc, hclaims⟩ := List.nodup_cons.mp hclaims
      obtain ⟨t, ht, h⟩ := foldlM_cons_eq_ok.mp h
      simp only [releaseClaim, bind_eq_ok, require_eq_ok, pure_eq_ok] at ht
      obtain ⟨_, hone, rfl⟩ := ht
      have hselect : ∀ x : PayoutOffsetClaim, (decide (x.id = c.id) &&
          decide (x.payoutBatchId = batch.id) && decide (x.vendorId = batch.vendorId) &&
          decide (x.currency = batch.currency) && decide (x.status = .reserved)) = true →
            x.id = c.id := by
        intro x hx
        simp only [Bool.and_eq_true, decide_eq_true_eq] at hx
        exact hx.1.1.1.1
      obtain ⟨hupdate, -⟩ := updateWhere_of_length_eq_one hclaim (f := releaseClaimRow) hselect hone
      have hclaim' := hclaim.updateWhere (p := fun x => decide (x.id = c.id))
        (f := releaseClaimRow) fun _ => rfl
      rw [← hupdate] at hclaim'
      obtain rfl := ih h hclaims hclaim'
      have hcons := updateWhere_mem_cons PayoutOffsetClaim.id releaseClaimRow hc (fun _ => rfl)
        db.payoutOffsetClaim
      rw [List.map_cons, ← hcons, ← hupdate]
      rfl

/-- **What a release writes**: all claims of the batch, which were reserved, are released. -/
theorem releaseCancelledPayoutOffsetClaims_ok {batchId : Id} {actorId : Option Id}
    {originalStatus : PayoutBatchStatus} {reviewEvidence : Option R1ReviewCancellationAttestation}
    (h : db.releaseCancelledPayoutOffsetClaims batchId actorId originalStatus reviewEvidence =
      .ok db')
    (hclaim : KeyUnique PayoutOffsetClaim.id db.payoutOffsetClaim) :
    (∀ c ∈ db.claimsOf batchId, c.status = .reserved) ∧
      db' = { db with
        payoutOffsetClaim := updateWhere (fun c => decide (c.payoutBatchId = batchId))
          releaseClaimRow db.payoutOffsetClaim } := by
  unfold releaseCancelledPayoutOffsetClaims at h
  dsimp only at h
  split at h
  · rename_i hempty
    rw [List.isEmpty_iff] at hempty
    obtain rfl := pure_eq_ok.mp h
    refine ⟨by simp [hempty], ?_⟩
    have hnone := List.filter_eq_nil_iff.mp hempty
    rw [updateWhere_eq_self fun c hc => by simpa using hnone c hc]
  · simp only [bind_eq_ok, getOrThrow_eq_ok, require_eq_ok] at h
    obtain ⟨batch, -, _, hstate, hloop⟩ := h
    have hall := hstate.2.2.2.2.2
    simp only [List.all_eq_true, Bool.and_eq_true, decide_eq_true_eq] at hall
    have hids : ((db.claimsOf batchId).map (·.id)).Nodup :=
      List.Nodup.sublist (List.Sublist.map _ List.filter_sublist) hclaim
    refine ⟨fun c hc => (hall c hc).1.1, ?_⟩
    rw [releaseClaims_ok hloop hids hclaim, updateWhere_claimIds hclaim (List.Perm.refl _)]

end FinanceDb

/-! ## R1 preparation -/

namespace FinanceDb

variable (db : FinanceDb)

/-- Prepare a batch without touching the vendor's debt, then reserve verified sources against
it and freeze the net that is left. -/
def prepareR1PayoutBatchInTransaction (vendorId actorId requestId : Id) (ids : PayoutBatchIds)
    (now : Instant) : Except String FinanceDb := do
  let prepared ← db.preparePayoutBatchInTransaction vendorId ids true now
  let batch ← getOrThrow (prepared.findBatch ids.batchId) "Payout batch not found."
  let reserved ← prepared.reserveVerifiedPayoutOffsetsInTransaction
    { vendorId, currency := batch.currency, payoutBatchId := ids.batchId, requestId, actorId
      firstClaimId := ids.firstClaimId } true now
  let claims := reserved.claimsOf ids.batchId
  require (¬claims.isEmpty) "R1_PAYOUT_NO_VERIFIED_OFFSET"
  let baseMinor := toMinorUnits batch.netAmount
  let offsetMinor := claimSum claims
  require (0 < offsetMinor ∧ offsetMinor ≤ baseMinor) "R1_PAYOUT_OFFSET_EXCEEDS_APPROVED_BASE"
  let netted : FinanceDb := { reserved with
    payoutBatch := updateWhere (fun b => decide (b.id = ids.batchId))
      (fun b => { b with
        netAmount := ((baseMinor - offsetMinor : ℤ) : ℚ) / 100
        r1OffsetTotalMinor := offsetMinor }) reserved.payoutBatch }
  let _ ← netted.assertR1PayoutMonetaryAuthority ids.batchId true
  pure netted

/-- The default-disabled entry point: repeat an earlier request, and otherwise take the R1 route
exactly when a verified source has something left. -/
def prepareAdminPayoutBatchWithR1 (vendorId actorId requestId : Id) (ids : PayoutBatchIds)
    (now : Instant) : Except String FinanceDb := do
  let priorClaims := db.payoutOffsetClaim.filter fun c => decide (c.requestId = requestId)
  match priorClaims with
  | first :: _ => do
      require (priorClaims.all (fun c => decide (c.payoutBatchId = first.payoutBatchId) &&
          decide (c.vendorId = vendorId) && decide (c.reservedBy = actorId)) ∧
        (db.findBatch first.payoutBatchId).any (fun b => decide (b.vendorId = vendorId)))
        "R1_RESERVATION_IDEMPOTENCY_CONFLICT"
      pure db
  | [] => do
      require ((db.settlementRefundAdjustment.all fun a =>
          decide (a.vendorId ≠ vendorId) || decide (a.currencyCode = "TRY")) ∧
        db.vendorBalanceEvent.all fun e => decide (e.vendorId ≠ vendorId) ||
          decide (e.type ≠ .vendorDebtCreated) || decide (e.currency = "TRY"))
        "R1_PAYOUT_CURRENCY_SCOPE_UNKNOWN"
      let authority := db.reconcilePayoutOffsetAuthority vendorId "TRY"
      require (authority.status = .verified) "R1_PAYOUT_SOURCE_AUTHORITY_NOT_VERIFIED"
      if authority.sources.any fun s => decide (0 < s.unreservedAmountMinor.getD 0) then
        db.prepareR1PayoutBatchInTransaction vendorId actorId requestId ids now
      else db.preparePayoutBatchInTransaction vendorId ids false now

/-! ## What an R1 preparation writes -/

/-- The database with the net of a batch frozen at what its claims leave. -/
def withR1Net (batchId : Id) (baseMinor offsetMinor : ℤ) : FinanceDb :=
  { db with
    payoutBatch := updateWhere (fun b => decide (b.id = batchId))
      (fun b => { b with
        netAmount := ((baseMinor - offsetMinor : ℤ) : ℚ) / 100
        r1OffsetTotalMinor := offsetMinor }) db.payoutBatch }

variable {db} {db' : FinanceDb}

/-- What the monetary check certifies about a batch. -/
lemma assertR1PayoutMonetaryAuthority_ok {payoutBatchId : Id} {requireCover : Bool}
    {authority : R1MonetaryAuthority}
    (h : db.assertR1PayoutMonetaryAuthority payoutBatchId requireCover = .ok authority) :
    db.findBatch payoutBatchId = some authority.batch ∧
      (authority.batch.status = .draft ∨ authority.batch.status = .review) ∧
      authority.batch.paidAt.isNone ∧
      authority.claims = db.claimsOf payoutBatchId ∧ authority.claims ≠ [] ∧
      (∀ c ∈ authority.claims, c.status = .reserved) ∧
      authority.approvedBaseMinor = db.approvedBaseMinor payoutBatchId ∧
      authority.offsetMinor = claimSum authority.claims ∧
      authority.netCashMinor = authority.approvedBaseMinor - authority.offsetMinor ∧
      authority.offsetMinor ≤ authority.approvedBaseMinor := by
  simp only [assertR1PayoutMonetaryAuthority, bind_eq_ok, getOrThrow_eq_ok, require_eq_ok,
    pure_eq_ok] at h
  obtain ⟨batch, hbatch, _, ⟨hstatus, hpaid, -, -, hclaims, -⟩, capacity, -, net, -, _,
    ⟨-, -, hle, -, hall⟩, _, -, _, -, _, -, _, -, rfl⟩ := h
  have hid : batch.id = payoutBatchId := key_of_findRow hbatch
  simp only [List.all_eq_true, Bool.and_eq_true, decide_eq_true_eq] at hall
  refine ⟨hbatch, hstatus, hpaid, by rw [← hid], by simpa using hclaims,
    fun c hc => (hall c hc).1.1.1.1, by rw [← hid], rfl, rfl, hle⟩

lemma prepareR1PayoutBatchInTransaction_ok {vendorId actorId requestId : Id} {ids : PayoutBatchIds}
    {now : Instant}
    (h : db.prepareR1PayoutBatchInTransaction vendorId actorId requestId ids now = .ok db') :
    ∃ prepared batch reserved,
      db.preparePayoutBatchInTransaction vendorId ids true now = .ok prepared ∧
      prepared.findBatch ids.batchId = some batch ∧
      prepared.reserveVerifiedPayoutOffsetsInTransaction
        { vendorId, currency := batch.currency, payoutBatchId := ids.batchId, requestId, actorId
          firstClaimId := ids.firstClaimId } true now = .ok reserved ∧
      0 < claimSum (reserved.claimsOf ids.batchId) ∧
      claimSum (reserved.claimsOf ids.batchId) ≤ toMinorUnits batch.netAmount ∧
      db' = reserved.withR1Net ids.batchId (toMinorUnits batch.netAmount)
        (claimSum (reserved.claimsOf ids.batchId)) := by
  simp only [prepareR1PayoutBatchInTransaction, bind_eq_ok, getOrThrow_eq_ok, require_eq_ok,
    pure_eq_ok] at h
  obtain ⟨prepared, hprepared, batch, hbatch, reserved, hreserved, _, -, _, ⟨hpos, hle⟩, _, -,
    rfl⟩ := h
  exact ⟨prepared, batch, reserved, hprepared, hbatch, hreserved, hpos, hle, rfl⟩

/-- The administrator's entry point repeats an earlier request or takes one of the two routes. -/
lemma prepareAdminPayoutBatchWithR1_ok {vendorId actorId requestId : Id} {ids : PayoutBatchIds}
    {now : Instant}
    (h : db.prepareAdminPayoutBatchWithR1 vendorId actorId requestId ids now = .ok db') :
    db' = db ∨ db.prepareR1PayoutBatchInTransaction vendorId actorId requestId ids now = .ok db' ∨
      db.preparePayoutBatchInTransaction vendorId ids false now = .ok db' := by
  unfold prepareAdminPayoutBatchWithR1 at h
  dsimp only at h
  split at h
  · simp only [bind_eq_ok, pure_eq_ok] at h
    obtain ⟨-, -, rfl⟩ := h
    exact .inl rfl
  · simp only [bind_eq_ok] at h
    obtain ⟨_, -, _, -, h⟩ := h
    split at h
    · exact .inr (.inl h)
    · exact .inr (.inr h)

end FinanceDb

end VendorDashboard.Finance

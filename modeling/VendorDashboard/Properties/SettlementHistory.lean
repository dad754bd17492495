import VendorDashboard.Finance.ApprovalSystem
import VendorDashboard.Properties.Integrity

/-!
# What the finance system never rewrites

A settlement's lines keep their content, an adjustment keeps the refund and the settlement it was
created for, and a ledger row keeps its accepted evidence.  Settlements and their lines are written
by three transactions only, and every other transaction keeps all of it
(`FinanceDb.KeepsHistory.step`).  For each of the three there is a lemma that says what it writes
(`createDraftApproval_writes`, `executeCanonicalSettlementApproval_writes`,
`cancelSettlementApproval_writes`); of the refunds they keep what the others keep.
-/

namespace VendorDashboard.Finance

open Table Transaction

/-- What an adjustment is created with and keeps: its id, its refund, its settlement and its
amount. -/
def SettlementRefundAdjustment.origin (a : SettlementRefundAdjustment) :
    Id × Id × Id × Id × Option Id × ℤ :=
  (a.id, a.refundFinanceLedgerEntryId, a.refundRecordId, a.vendorId,
    a.originalSettlementApprovalId, a.originalAmountMinor)

/-- The row of an accepted refund, with its evidence. -/
def FinanceLedgerEntry.evidence (e : FinanceLedgerEntry) : Id × Option RefundEvidenceSnapshot :=
  (e.id, e.refundEvidenceSnapshot)

/-- What a settlement line keeps: its id, its settlement and its sums. -/
def SettlementApprovalLine.content (l : SettlementApprovalLine) :
    Id × Id × Id × SettlementApprovalLineType × ℤ × ℤ × ℤ × ℤ :=
  (l.id, l.settlementApprovalId, FinanceDb.sourceKey l)

namespace FinanceDb

/-- `db'` has the adjustments and the evidence of `db`, and evidence of its own rows only. -/
structure KeepsRefunds (db db' : FinanceDb) : Prop where
  adjustments : db.settlementRefundAdjustment.map (·.origin) <+:
    db'.settlementRefundAdjustment.map (·.origin)
  evidence : ∃ new, db'.financeLedgerEntry.map (·.evidence) =
    db.financeLedgerEntry.map (·.evidence) ++ new ∧
      ∀ x ∈ new, ∀ s ∈ x.2, s.refundFinanceLedgerEntryId = x.1

variable {db db' : FinanceDb}

lemma KeepsRefunds.of_eq
    (hadj : db'.settlementRefundAdjustment.map (·.origin) =
      db.settlementRefundAdjustment.map (·.origin))
    (hledger : db'.financeLedgerEntry.map (·.evidence) =
      db.financeLedgerEntry.map (·.evidence)) : db.KeepsRefunds db' where
  adjustments := by rw [hadj]
  evidence := ⟨[], by rw [hledger, List.append_nil], by simp⟩

lemma KeepsRefunds.refl (db : FinanceDb) : db.KeepsRefunds db := .of_eq rfl rfl

lemma KeepsRefunds.trans {db'' : FinanceDb} (h : db.KeepsRefunds db')
    (h' : db'.KeepsRefunds db'') : db.KeepsRefunds db'' := by
  obtain ⟨new, hnew, hid⟩ := h.evidence
  obtain ⟨new', hnew', hid'⟩ := h'.evidence
  refine ⟨h.adjustments.trans h'.adjustments, new ++ new', ?_, ?_⟩
  · rw [hnew', hnew, List.append_assoc]
  · rw [List.forall_mem_append]
    exact ⟨hid, hid'⟩

/-- An adjustment survives with its origin. -/
lemma KeepsRefunds.adjustment (h : db.KeepsRefunds db') {a : SettlementRefundAdjustment}
    (ha : a ∈ db.settlementRefundAdjustment) :
    ∃ a' ∈ db'.settlementRefundAdjustment, a'.origin = a.origin :=
  List.mem_map.mp (h.adjustments.subset (List.mem_map_of_mem ha))

/-- A ledger row survives with its evidence. -/
lemma KeepsRefunds.ledger (h : db.KeepsRefunds db') {e : FinanceLedgerEntry}
    (he : e ∈ db.financeLedgerEntry) :
    ∃ e' ∈ db'.financeLedgerEntry, e'.evidence = e.evidence := by
  obtain ⟨new, hnew, -⟩ := h.evidence
  refine List.mem_map.mp (hnew ▸ List.mem_append_left _ (List.mem_map_of_mem he))

/-- `db'` also has the same settlements with the same lines. -/
structure KeepsHistory (db db' : FinanceDb) : Prop extends KeepsRefunds db db' where
  approvals : db'.settlementApproval = db.settlementApproval
  lines : db'.settlementApprovalLine = db.settlementApprovalLine

lemma KeepsHistory.of_eq
    (hadj : db'.settlementRefundAdjustment.map (·.origin) =
      db.settlementRefundAdjustment.map (·.origin))
    (hledger : db'.financeLedgerEntry.map (·.evidence) =
      db.financeLedgerEntry.map (·.evidence))
    (happroval : db'.settlementApproval = db.settlementApproval)
    (hline : db'.settlementApprovalLine = db.settlementApprovalLine) : db.KeepsHistory db' :=
  ⟨.of_eq hadj hledger, happroval, hline⟩

lemma KeepsHistory.refl (db : FinanceDb) : db.KeepsHistory db := .of_eq rfl rfl rfl rfl

lemma KeepsHistory.trans {db'' : FinanceDb} (h : db.KeepsHistory db')
    (h' : db'.KeepsHistory db'') : db.KeepsHistory db'' :=
  ⟨h.toKeepsRefunds.trans h'.toKeepsRefunds, h'.approvals.trans h.approvals, h'.lines.trans h.lines⟩

/-! ## The writes of refunds -/

lemma KeepsHistory.createSettlementRefundAdjustment {id refundLedgerId recordId : Id}
    {now : Instant} (hs : db.createSettlementRefundAdjustmentForRefundLedger id refundLedgerId
      recordId now = .ok db') : db.KeepsHistory db' := by
  rcases createSettlementRefundAdjustmentForRefundLedger_ok hs with rfl | ⟨a, -, -, -, rfl⟩
  · exact .refl _
  · refine ⟨⟨?_, [], by simp, by simp⟩, rfl, rfl⟩
    rw [List.map_append]
    exact List.prefix_append _ _

lemma KeepsHistory.createVendorDebtForPaidRefund {id : Id} {input : PaidRefund}
    (hs : db.createVendorDebtForPaidRefund id input = .ok db') : db.KeepsHistory db' := by
  rcases createVendorDebtForPaidRefund_ok hs with rfl | ⟨_, -, -, rfl⟩
  · exact .refl _
  · exact .of_eq rfl rfl rfl rfl

lemma KeepsHistory.writeRefundLedger {r : RefundArrival} {sale : FinanceLedgerEntry}
    (hs : db.writeRefundLedger r sale = .ok db') : db.KeepsHistory db' := by
  obtain ⟨-, rfl⟩ := writeRefundLedger_ok hs
  refine ⟨⟨by simp, [(r.ledgerRow (db.refundArrivalSaleSnapshot sale)).evidence], by simp, ?_⟩,
    rfl, rfl⟩
  intro x hx s hsx
  obtain rfl := List.mem_singleton.mp hx
  obtain rfl := Option.some.inj hsx
  rfl

lemma KeepsHistory.ingestRefund {r : RefundArrival} (hs : db.ingestRefund r = .ok db') :
    db.KeepsHistory db' := by
  obtain ⟨sale, -, -, -, -, written, hwritten, hrest⟩ := ingestRefund_ok hs
  refine (KeepsHistory.writeRefundLedger hwritten).trans ?_
  rcases hrest with ⟨_, -, hdebt⟩ | hadjustment
  · exact .createVendorDebtForPaidRefund hdebt
  · exact .createSettlementRefundAdjustment hadjustment

/-! ## The writes of payouts -/

lemma KeepsHistory.preparePayoutBatch {vendorId : Id} {ids : PayoutBatchIds} {r1Isolated : Bool}
    {now : Instant} (hs : db.preparePayoutBatchInTransaction vendorId ids r1Isolated now = .ok db') :
    db.KeepsHistory db' := by
  obtain ⟨_, s, currency, -, -, -, -, hoffset⟩ := preparePayoutBatchInTransaction_ok hs
  rcases createVendorDebtOffsetForPayoutBatch_ok hoffset with ⟨-, rfl⟩ | ⟨-, rfl, -⟩ |
    ⟨-, -, rfl⟩
  · exact .of_eq rfl rfl rfl rfl
  · exact .of_eq rfl rfl rfl rfl
  · exact .of_eq rfl rfl rfl rfl

lemma KeepsHistory.reservePayoutOffsets {input : ReservationInput} {allowOwn : Bool} {now : Instant}
    (hs : db.reserveVerifiedPayoutOffsetsInTransaction input allowOwn now = .ok db') :
    db.KeepsHistory db' := by
  obtain ⟨_, -, -, -, -, -, rfl | ⟨-, _, -, -, rfl⟩⟩ :=
    reserveVerifiedPayoutOffsetsInTransaction_ok hs
  · exact .refl _
  · exact .of_eq rfl rfl rfl rfl

lemma KeepsHistory.prepareR1PayoutBatch {vendorId actorId requestId : Id} {ids : PayoutBatchIds}
    {now : Instant}
    (hs : db.prepareR1PayoutBatchInTransaction vendorId actorId requestId ids now = .ok db') :
    db.KeepsHistory db' := by
  obtain ⟨prepared, batch, reserved, hprepared, -, hreserved, -, -, rfl⟩ :=
    prepareR1PayoutBatchInTransaction_ok hs
  exact ((KeepsHistory.preparePayoutBatch hprepared).trans (.reservePayoutOffsets hreserved)).trans
    (.of_eq rfl rfl rfl rfl)

lemma KeepsHistory.finalizeClaims {payoutBatchId vendorId : Id} {currency : String}
    {firstEventId : Id} (h : db.Integrity)
    (hs : db.finalizeR1PayoutOffsetClaimsInTransaction payoutBatchId vendorId currency
      firstEventId = .ok db') : db.KeepsHistory db' := by
  obtain ⟨claims, hclaims, hwrites, -⟩ := finalizeR1PayoutOffsetClaimsInTransaction_ok hs
  obtain ⟨-, -, rfl⟩ := finalizeClaims_ok hwrites hclaims.perm h.adjustment_key h.claim_key
    h.event_key
  exact .of_eq (map_updateWhere (f := finalizeRow claims) (fun _ => rfl) _) rfl rfl rfl

lemma KeepsHistory.completeR1CashlessPayout {batchId firstEventId : Id} {now : Instant}
    (h : db.Integrity) (hs : db.completeR1CashlessPayout batchId firstEventId now = .ok db') :
    db.KeepsHistory db' := by
  obtain ⟨_, finalized, -, -, -, hfinalized, rfl⟩ := completeR1CashlessPayout_ok h.toConstraints hs
  refine (KeepsHistory.finalizeClaims h hfinalized).trans (.of_eq rfl ?_ rfl rfl)
  exact map_updateWhere (f := fun e : FinanceLedgerEntry => { e with
    payoutStatus := .cashlessCompleted, settlementStatus := .cashlessCompleted }) (fun _ => rfl) _

lemma KeepsHistory.markPayoutBatchPaid {batchId : Id} {evidence : PaymentEvidence}
    {actualR1EftAmountMinor : Option ℤ} {firstEventId : Id} {now : Instant} (h : db.Integrity)
    (hs : db.markPayoutBatchPaidInTransaction batchId evidence actualR1EftAmountMinor firstEventId
      now = .ok db') : db.KeepsHistory db' := by
  obtain ⟨batch, finalized, -, -, -, -, hfinalized, rfl⟩ :=
    markPayoutBatchPaidInTransaction_ok h.toConstraints hs
  have hfirst : db.KeepsHistory finalized := by
    unfold FinanceDb.finalizeForPayment at hfinalized
    split at hfinalized
    · exact .finalizeClaims h hfinalized
    · obtain rfl := pure_eq_ok.mp hfinalized
      exact .refl _
  refine hfirst.trans (.of_eq rfl ?_ rfl rfl)
  exact map_updateWhere (f := fun e : FinanceLedgerEntry => { e with
    payoutStatus := .paid, settlementStatus := .settled, settledAt := some evidence.paidAt })
    (fun _ => rfl) _

end FinanceDb

open FinanceDb in
/-- **The history is kept** by every transaction that writes no settlement. -/
theorem FinanceDb.KeepsHistory.step {db db' : FinanceDb} {a : Action} (h : db.Integrity)
    (ha : a.keepsApprovals = true) (hs : step a db = .ok db') : db.KeepsHistory db' := by
  cases a with
  | recordSale allocation sale =>
      simp only [Finance.step, FinanceDb.recordSale, bind_eq_ok, require_eq_ok, insertRows_eq_ok,
        pure_eq_ok] at hs
      obtain ⟨-, ⟨-, -, -, -, -, -, hnone⟩, _, ⟨-, rfl⟩, _, ⟨-, rfl⟩, rfl⟩ := hs
      refine ⟨⟨by simp, [sale.evidence], by simp, fun x hx s hsx => ?_⟩, rfl, rfl⟩
      obtain rfl := List.mem_singleton.mp hx
      simp only [FinanceLedgerEntry.evidence, Option.isNone_iff_eq_none] at hnone hsx
      rw [hnone] at hsx
      cases hsx
  | updateAllocation allocation =>
      obtain rfl := Except.ok.inj hs
      exact .of_eq rfl rfl rfl rfl
  | setFinanceIntegrityAlerts alerts =>
      obtain rfl := Except.ok.inj hs
      exact .of_eq rfl rfl rfl rfl
  | setCommissionInvoices invoices =>
      obtain rfl := Except.ok.inj hs
      exact .of_eq rfl rfl rfl rfl
  | setTerminalEvidenceReviews reviews =>
      obtain rfl := Except.ok.inj hs
      exact .of_eq rfl rfl rfl rfl
  | recordCorrectionCredit source =>
      simp only [Finance.step, FinanceDb.recordCorrectionCredit, bind_eq_ok, pure_eq_ok] at hs
      obtain ⟨-, -, rfl⟩ := hs
      exact .of_eq rfl rfl rfl rfl
  | recordCorrectionDeduction source =>
      simp only [Finance.step, FinanceDb.recordCorrectionDeduction, bind_eq_ok, pure_eq_ok] at hs
      obtain ⟨-, -, rfl⟩ := hs
      exact .of_eq rfl rfl rfl rfl
  | recordApprovedDeductionCoverage coverage =>
      simp only [Finance.step, FinanceDb.recordApprovedDeductionCoverage, bind_eq_ok, pure_eq_ok] at hs
      obtain ⟨-, -, rfl⟩ := hs
      exact .of_eq rfl rfl rfl rfl
  | chargePaidCorrection eventId authority authorizedDebtMinor =>
      obtain ⟨-, -, rfl⟩ := createVendorDebtForPaidFinancialCorrection_ok hs
      exact .of_eq rfl rfl rfl rfl
  | ingestRefund refund => exact .ingestRefund hs
  | createDraftApproval input ids now => cases ha
  | approveSettlement id firstAdjustmentId now => cases ha
  | cancelSettlement id => cases ha
  | preparePayout vendorId ids now => exact .preparePayoutBatch hs
  | prepareR1Payout vendorId actorId requestId ids now => exact .prepareR1PayoutBatch hs
  | prepareAdminPayout vendorId actorId requestId ids now =>
      rcases prepareAdminPayoutBatchWithR1_ok hs with rfl | hr1 | hordinary
      · exact .refl _
      · exact .prepareR1PayoutBatch hr1
      · exact .preparePayoutBatch hordinary
  | reservePayoutOffsets input now => exact .reservePayoutOffsets hs
  | markPayoutReview batchId now =>
      obtain ⟨-, rfl⟩ := markPayoutBatchReview_ok h.toConstraints hs
      exact .of_eq rfl rfl rfl rfl
  | markR1PayoutReview batchId now =>
      obtain ⟨-, rfl⟩ := markR1PayoutBatchReview_ok h.toConstraints hs
      exact .of_eq rfl rfl rfl rfl
  | cancelDraftPayout batchId actorId =>
      obtain ⟨-, rfl⟩ := cancelDraftPayoutBatchWithClient_ok h.toConstraints hs
      exact .of_eq rfl rfl rfl rfl
  | cancelReviewPayout batchId =>
      obtain ⟨-, -, rfl⟩ := cancelReviewPayoutBatchWithClient_ok h.toConstraints hs
      exact .of_eq rfl rfl rfl rfl
  | cancelR1ReviewPayout batchId actorUserId =>
      obtain ⟨-, rfl⟩ := cancelR1ReviewPayoutBeforeEft_ok h.toConstraints hs
      exact .of_eq rfl rfl rfl rfl
  | cancelPayout batchId actorId =>
      obtain ⟨-, rfl⟩ := cancelPayoutBatch_ok h.toConstraints hs
      exact .of_eq rfl rfl rfl rfl
  | completeCashlessPayout batchId firstEventId now => exact .completeR1CashlessPayout h hs
  | markPayoutPaid batchId evidence now => exact .markPayoutBatchPaid h hs
  | markR1PayoutPaid batchId evidence actualEftAmountMinor firstEventId now =>
      exact .markPayoutBatchPaid h (markR1PayoutBatchPaid_ok hs)

/-! ## The three writers of settlements -/

namespace FinanceDb

variable {db db' : FinanceDb}

/-- What a draft adds: its row, and lines of its own. -/
structure WritesDraft (db db' : FinanceDb) (input : SettlementApprovalInput) (ids : DraftIds) : Prop
    extends KeepsRefunds db db' where
  approvals : ∃ totals, db'.settlementApproval =
    db.settlementApproval ++ [draftApprovalRow ids.approvalId input totals]
  fresh : ∀ a ∈ db.settlementApproval, a.id ≠ ids.approvalId
  predecessor : ∀ a ∈ db.settlementApproval, ∀ i, a.replacesSettlementApprovalId = some i →
    input.replacementAudit.map (·.originalSettlementApprovalId) ≠ some i
  lines : ∃ new, db'.settlementApprovalLine.map (·.content) =
    db.settlementApprovalLine.map (·.content) ++ new ∧ ∀ x ∈ new, x.2.1 = ids.approvalId

lemma applyRefundAdjustmentPlan_settlementApproval {approvalId vendorId : Id}
    {p : Id × AdjustmentPlan} (h : applyRefundAdjustmentPlan approvalId vendorId db p = .ok db') :
    db'.settlementApproval = db.settlementApproval := by
  simp only [applyRefundAdjustmentPlan, bind_eq_ok, getOrThrow_eq_ok, require_eq_ok,
    insertRows_eq_ok, pure_eq_ok] at h
  obtain ⟨_, -, _, ⟨-, rfl⟩, -, -, rfl⟩ := h
  rfl

/-- The row of a new draft, and what its insertion checks of the others. -/
lemma createDraftApproval_row {input : SettlementApprovalInput} {ids : DraftIds} {now : Instant}
    (hs : db.createDraftApprovalInTransaction input ids now = .ok db') :
    (∃ totals, db'.settlementApproval =
        db.settlementApproval ++ [draftApprovalRow ids.approvalId input totals]) ∧
      ∀ a ∈ db.settlementApproval, ∀ i, a.replacesSettlementApprovalId = some i →
        input.replacementAudit.map (·.originalSettlementApprovalId) ≠ some i := by
  simp only [createDraftApprovalInTransaction, bind_eq_ok, require_eq_ok] at hs
  obtain ⟨preview, -, _, -, plans, -, _, -, _, -, drafted, hdrafted, hloop⟩ := hs
  have hrow := foldlM_const (g := FinanceDb.settlementApproval)
    (fun s p t _ ht => applyRefundAdjustmentPlan_settlementApproval ht) hloop
  rw [hrow]
  have hunique := hdrafted
  simp only [insertDraftApproval, bind_eq_ok, require_eq_ok] at hunique
  obtain ⟨_, hunique, -⟩ := hunique
  obtain ⟨-, -, -, rfl⟩ := insertDraftApproval_ok hdrafted
  refine ⟨⟨_, rfl⟩, fun a ha i hi heq => ?_⟩
  have hnone := (hunique a ha).2 (hi.trans heq.symm)
  exact absurd (heq.symm.trans hnone) (by simp)

theorem createDraftApproval_writes {input : SettlementApprovalInput} {ids : DraftIds}
    {now : Instant} (h : db.Integrity)
    (hs : db.createDraftApprovalInTransaction input ids now = .ok db') :
    db.WritesDraft db' input ids := by
  obtain ⟨happrovals, hpredecessor⟩ := createDraftApproval_row hs
  obtain ⟨preview, plans, approval, _, _, lineOf, -, -, -, -, ⟨hid, -, -, -⟩, hkey, -, -, -, -,
    rfl⟩ := createDraftApprovalInTransaction_ok h.adjustment_key h.application_key hs
  have hfresh : ∀ a ∈ db.settlementApproval, a.id ≠ ids.approvalId := by
    intro a ha heq
    have hdisjoint := (keyUnique_append.mp hkey).2.2 a ha approval (by simp)
    exact hdisjoint (heq.trans hid.symm)
  refine ⟨.of_eq (map_applyPlans (fun _ _ _ => rfl) _ _ _) rfl, happrovals, hfresh, hpredecessor,
    (draftLineRows ids preview plans).map (·.content), ?_, fun x hx => ?_⟩
  · rw [map_linkPlans (fun _ _ => rfl), List.map_append]
  · obtain ⟨l, hl, rfl⟩ := List.mem_map.mp hx
    obtain ⟨i, ⟨d, -, rfl⟩ | ⟨p, -, rfl⟩⟩ := mem_draftLineRows hl
    · rfl
    · rfl

/-- What a cancellation writes of a settlement. -/
def cancelledRow (a : SettlementApproval) : SettlementApproval :=
  { a with status := .cancelled, cancelledFromStatus := some a.status }

/-- The settlement is marked cancelled; nothing else changes about settlements. -/
structure WritesCancellation (db db' : FinanceDb) (id : Id) : Prop extends KeepsRefunds db db' where
  existing : ∃ a, db.findApproval id = some a ∧ a.status ≠ .cancelled
  approvals : db'.settlementApproval =
    updateWhere (fun a => decide (a.id = id)) cancelledRow db.settlementApproval
  lines : db'.settlementApprovalLine = db.settlementApprovalLine

theorem cancelSettlementApproval_writes {id : Id} (h : db.Integrity)
    (hs : db.cancelSettlementApproval id = .ok db') : db.WritesCancellation db' id := by
  obtain ⟨existing, hfind, hstatus, -, rfl⟩ := cancelSettlementApproval_ok hs
  rw [cancelApplications_eq h.application_key h.application_unique]
  refine ⟨.of_eq ?_ rfl, ⟨existing, hfind, hstatus⟩, rfl, rfl⟩
  refine (map_updateWhere (f := resetLegacyAdjustment) (fun _ => rfl) _).trans ?_
  refine map_updateEach (fun u hu a => ?_) _
  obtain ⟨p, -, rfl⟩ := List.mem_map.mp hu
  rfl

/-- What an approval writes of a settlement. -/
def approvedRow (now : Instant) (a : SettlementApproval) : SettlementApproval :=
  { a with status := .approved, approvedAt := some now }

/-- The draft is marked approved; nothing else changes about settlements. -/
structure WritesApproval (db db' : FinanceDb) (id : Id) (now : Instant) : Prop
    extends KeepsRefunds db db' where
  existing : ∃ a, db.findApproval id = some a ∧ a.status = .draft
  approvals : db'.settlementApproval =
    updateWhere (fun a => decide (a.id = id)) (approvedRow now) db.settlementApproval
  lines : db'.settlementApprovalLine = db.settlementApprovalLine

theorem executeCanonicalSettlementApproval_writes {id firstAdjustmentId : Id} {now : Instant}
    (hs : db.executeCanonicalSettlementApproval id firstAdjustmentId now = .ok db') :
    db.WritesApproval db' id now := by
  have hkeeps : (db.markApproved id now).KeepsHistory db' := by
    refine executeCanonicalSettlementApproval_preserves hs (.refl _) ?_
    intro s t adjustmentId refundLedgerId recordId hs ht
    exact hs.trans (.createSettlementRefundAdjustment ht)
  obtain ⟨existing, hfind, hdraft, -, -⟩ := executeCanonicalSettlementApproval_ok hs
  have hmark : db.KeepsRefunds (db.markApproved id now) := .of_eq rfl rfl
  exact ⟨hmark.trans hkeeps.toKeepsRefunds, ⟨existing, hfind, hdraft⟩, hkeeps.approvals,
    hkeeps.lines⟩

end FinanceDb

end VendorDashboard.Finance

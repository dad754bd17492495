import VendorDashboard.Finance.System

/-!
# The tables hang together

`FinanceDb.Integrity` collects what the schema promises and what no column update ever breaks:
keys, foreign keys, and the facts a row is created with and keeps (what a refund line charges,
what an adjustment was created for).  It holds in every reachable state
(`ReachableDb.integrity`): an insert is checked against the rows it refers to, and an update
rewrites neither a key nor a reference.
-/

namespace VendorDashboard.Finance

open Table Transaction Run

/-- The type of a settlement line fits its ledger row, and a direct refund line charges what the
row takes back. -/
def SettlementApprovalLine.Fits (l : SettlementApprovalLine) (e : FinanceLedgerEntry) : Prop :=
  match l.lineType with
  | .sale => e.entryType = .sale
  | .refund => e.entryType = .refund ∧ l.payableImpactMinor = -e.vendorPayableReversalMinor
  | .refundAdjustment => e.entryType = .refund

/-- The adjustment belongs to the refund row and was created for what the row takes back. -/
def SettlementRefundAdjustment.Fits (a : SettlementRefundAdjustment) (e : FinanceLedgerEntry) :
    Prop :=
  e.entryType = .refund ∧ e.vendorId = a.vendorId ∧
    a.originalAmountMinor = e.vendorPayableReversalMinor

/-- What an adjustment is created with and keeps. -/
def SettlementRefundAdjustment.identity (a : SettlementRefundAdjustment) :
    Id × Id × String × Id × Int :=
  (a.id, a.vendorId, a.currencyCode, a.refundFinanceLedgerEntryId, a.originalAmountMinor)

def SettlementRefundAdjustmentApplication.identity (x : SettlementRefundAdjustmentApplication) :
    Id × Id × Id × Int :=
  (x.id, x.settlementRefundAdjustmentId, x.settlementApprovalId, x.amountMinor)

/-- The two rows carry the same commission. -/
def FinanceLedgerEntry.SameCommission (e s : FinanceLedgerEntry) : Prop :=
  e.commissionPercentSnapshot = s.commissionPercentSnapshot ∧
    e.commissionVatPercentSnapshot = s.commissionVatPercentSnapshot

structure FinanceDb.Integrity (db : FinanceDb) : Prop extends db.Constraints where
  ledger_allocation : ∀ e ∈ db.financeLedgerEntry, ∃ a ∈ db.vendorAllocation,
    e.vendorAllocationId = some a.id
  commission : ∀ e ∈ db.financeLedgerEntry, ∀ s ∈ db.financeLedgerEntry, s.entryType = .sale →
    e.vendorAllocationId = s.vendorAllocationId → e.SameCommission s
  line_approval : ∀ l ∈ db.settlementApprovalLine, ∃ a ∈ db.settlementApproval,
    a.id = l.settlementApprovalId
  line_ledger : ∀ l ∈ db.settlementApprovalLine, ∃ e ∈ db.financeLedgerEntry,
    e.id = l.financeLedgerEntryId ∧ l.Fits e
  application_approval : ∀ x ∈ db.settlementRefundAdjustmentApplication,
    ∃ a ∈ db.settlementApproval, a.id = x.settlementApprovalId
  application_adjustment : ∀ x ∈ db.settlementRefundAdjustmentApplication,
    ∃ a ∈ db.settlementRefundAdjustment, a.id = x.settlementRefundAdjustmentId
  application_unique : KeyUnique (fun x => (x.settlementRefundAdjustmentId, x.settlementApprovalId))
    db.settlementRefundAdjustmentApplication
  application_pos : ∀ x ∈ db.settlementRefundAdjustmentApplication, 0 < x.amountMinor
  adjustment_ledger : ∀ a ∈ db.settlementRefundAdjustment, ∃ e ∈ db.financeLedgerEntry,
    e.id = a.refundFinanceLedgerEntryId ∧ a.Fits e
  batchLine_batch : ∀ m ∈ db.payoutBatchLine, ∃ b ∈ db.payoutBatch, b.id = m.payoutBatchId
  batchLine_line : ∀ m ∈ db.payoutBatchLine, ∃ s ∈ db.settlementApprovalLine,
    m.settlementApprovalLineId = some s.id ∧ s.financeLedgerEntryId = m.financeLedgerEntryId

namespace FinanceDb

/-- The rows that claims refer to are still there. -/
structure KeepsClaimed (db db' : FinanceDb) : Prop where
  adjustment : ∀ a ∈ db.settlementRefundAdjustment, ∃ a' ∈ db'.settlementRefundAdjustment,
    a'.id = a.id ∧ a'.vendorId = a.vendorId ∧ a'.currencyCode = a.currencyCode
  event : ∀ e ∈ db.vendorBalanceEvent, e ∈ db'.vendorBalanceEvent
  batch : ∀ b ∈ db.payoutBatch, ∃ b' ∈ db'.payoutBatch, b'.id = b.id ∧ b'.vendorId = b.vendorId ∧
    b'.currency = b.currency
  approval : ∀ s ∈ db.settlementApproval, ∃ s' ∈ db'.settlementApproval, s'.id = s.id ∧
    s'.vendorId = s.vendorId ∧ s'.currency = s.currency

end FinanceDb

lemma PayoutOffsetClaim.References.mono {c : PayoutOffsetClaim} {db db' : FinanceDb}
    (h : c.References db) (hk : db.KeepsClaimed db') : c.References db' where
  positive_amount := h.positive_amount
  refundAdjustment := fun ht => by
    obtain ⟨hnone, a, ha, hid, hv, hc⟩ := h.refundAdjustment ht
    obtain ⟨a', ha', hid', hv', hc'⟩ := hk.adjustment a ha
    exact ⟨hnone, a', ha', hid.trans (by rw [hid']), hv'.trans hv, hc'.trans hc⟩
  vendorDebt := fun ht => by
    obtain ⟨hnone, e, he, hrest⟩ := h.vendorDebt ht
    exact ⟨hnone, e, hk.event e he, hrest⟩
  payoutBatch := by
    obtain ⟨b, hb, hid, hv, hc⟩ := h.payoutBatch
    obtain ⟨b', hb', hid', hv', hc'⟩ := hk.batch b hb
    exact ⟨b', hb', hid'.trans hid, hv'.trans hv, hc'.trans hc⟩
  settlementApproval := by
    obtain ⟨s, hs, hid, hv, hc⟩ := h.settlementApproval
    obtain ⟨s', hs', hid', hv', hc'⟩ := hk.approval s hs
    exact ⟨s', hs', hid'.trans hid, hv'.trans hv, hc'.trans hc⟩

namespace FinanceDb

lemma KeepsClaimed.of_eq {db db' : FinanceDb}
    (hadj : db'.settlementRefundAdjustment = db.settlementRefundAdjustment)
    (hevent : db'.vendorBalanceEvent = db.vendorBalanceEvent)
    (hbatch : db'.payoutBatch = db.payoutBatch)
    (happroval : db'.settlementApproval = db.settlementApproval) : db.KeepsClaimed db' where
  adjustment := fun a ha => ⟨a, hadj ▸ ha, rfl, rfl, rfl⟩
  event := fun _ he => hevent ▸ he
  batch := fun b hb => ⟨b, hbatch ▸ hb, rfl, rfl, rfl⟩
  approval := fun s hs => ⟨s, happroval ▸ hs, rfl, rfl, rfl⟩

variable {db db' : FinanceDb}

/-! ## Inserts -/

lemma Integrity.empty : FinanceDb.empty.Integrity := by
  constructor
  · decide
  all_goals simp [FinanceDb.empty, KeyUnique]

lemma Integrity.recordSale {allocation : VendorAllocation} {sale : FinanceLedgerEntry}
    (h : db.Integrity) (hs : db.recordSale allocation sale = .ok db') : db'.Integrity := by
  simp only [FinanceDb.recordSale, bind_eq_ok, require_eq_ok, insertRows_eq_ok, pure_eq_ok] at hs
  obtain ⟨-, ⟨-, halloc, -⟩, _, ⟨hkey, rfl⟩, _, ⟨hledger, rfl⟩, rfl⟩ := hs
  have hfresh : ∀ e ∈ db.financeLedgerEntry, e.vendorAllocationId ≠ sale.vendorAllocationId := by
    intro e he heq
    obtain ⟨a, ha, hea⟩ := h.ledger_allocation e he
    have hid : a.id = allocation.id := Option.some.inj (hea.symm.trans (heq.trans halloc))
    exact (keyUnique_append.mp hkey).2.2 a ha allocation (by simp) hid
  exact
    { h with
      ledger_key := hledger
      claim_references := fun c hc => (h.claim_references c hc).mono (.of_eq rfl rfl rfl rfl)
      ledger_allocation := by
        rw [List.forall_mem_append]
        refine ⟨fun e he => exists_mem_append_left (h.ledger_allocation e he), ?_⟩
        simp only [List.mem_singleton, forall_eq]
        exact ⟨allocation, by simp, halloc⟩
      commission := by
        intro e he s hs hsale heq
        rcases List.mem_append.mp he with hold | hnew <;>
          rcases List.mem_append.mp hs with hsold | hsnew
        · exact h.commission e hold s hsold hsale heq
        · rw [List.mem_singleton.mp hsnew] at heq
          exact absurd heq (hfresh e hold)
        · rw [List.mem_singleton.mp hnew] at heq
          exact absurd heq.symm (hfresh s hsold)
        · rw [List.mem_singleton.mp hnew, List.mem_singleton.mp hsnew]
          exact ⟨rfl, rfl⟩
      line_ledger := fun l hl => exists_mem_append_left (h.line_ledger l hl)
      adjustment_ledger := fun a ha => exists_mem_append_left (h.adjustment_ledger a ha) }

lemma Integrity.updateAllocation (h : db.Integrity) (allocation : VendorAllocation) :
    (db.updateAllocation allocation).Integrity := by
  refine
    { h with
      claim_references := fun c hc => (h.claim_references c hc).mono (.of_eq rfl rfl rfl rfl)
      ledger_allocation := fun e he => ?_ }
  obtain ⟨a, ha, hid⟩ := h.ledger_allocation e he
  refine ⟨_, mem_updateWhere.mpr ⟨a, ha, rfl⟩, ?_⟩
  by_cases hp : a.id = allocation.id <;> simp [hp, hid]

lemma Integrity.appendEvents {events : List VendorBalanceEvent} (h : db.Integrity)
    (hkey : KeyUnique VendorBalanceEvent.id (db.vendorBalanceEvent ++ events)) :
    Integrity { db with vendorBalanceEvent := db.vendorBalanceEvent ++ events } :=
  { h with
    event_key := hkey
    claim_references := fun c hc => (h.claim_references c hc).mono
      { adjustment := fun a ha => ⟨a, ha, rfl, rfl, rfl⟩
        event := fun _ he => List.mem_append_left _ he
        batch := fun b hb => ⟨b, hb, rfl, rfl, rfl⟩
        approval := fun s hs => ⟨s, hs, rfl, rfl, rfl⟩ } }

lemma Integrity.createVendorDebtForPaidRefund {id : Id} {input : PaidRefund} (h : db.Integrity)
    (hs : db.createVendorDebtForPaidRefund id input = .ok db') : db'.Integrity := by
  rcases createVendorDebtForPaidRefund_ok hs with rfl | ⟨_, -, hkey, rfl⟩
  · exact h
  · exact h.appendEvents hkey

lemma Integrity.createSettlementRefundAdjustment {id refundLedgerId recordId : Id} {now : Instant}
    (h : db.Integrity) (hs : db.createSettlementRefundAdjustmentForRefundLedger id refundLedgerId
      recordId now = .ok db') : db'.Integrity := by
  rcases createSettlementRefundAdjustmentForRefundLedger_ok hs with rfl | ⟨a, ha, hfree, hkey, rfl⟩
  · exact h
  · obtain ⟨e, he, htype, hvendor, sale, hsale, hsaleType, halloc, hamount⟩ := ha.refund
    have hmem : e ∈ db.financeLedgerEntry := mem_of_findRow he
    obtain ⟨hpercent, hvat⟩ := h.commission e hmem sale hsale hsaleType halloc.symm
    have hfits : a.Fits e := by
      refine ⟨htype, hvendor, ?_⟩
      rw [hamount, ← hpercent, ← hvat]
      simp [FinanceLedgerEntry.vendorPayableReversalMinor]
    exact
      { h with
        adjustment_key := hkey
        adjustment_unique := keyUnique_append.mpr ⟨h.adjustment_unique, by simp [KeyUnique], by
          intro x hx y hy
          obtain rfl := List.mem_singleton.mp hy
          rw [ha.refundLedger_eq]
          exact hfree x hx⟩
        claim_references := fun c hc => (h.claim_references c hc).mono
          { adjustment := fun x hx => ⟨x, List.mem_append_left _ hx, rfl, rfl, rfl⟩
            event := fun _ he => he
            batch := fun b hb => ⟨b, hb, rfl, rfl, rfl⟩
            approval := fun s hs => ⟨s, hs, rfl, rfl, rfl⟩ }
        application_adjustment := fun x hx =>
          exists_mem_append_left (h.application_adjustment x hx)
        adjustment_ledger := by
          rw [List.forall_mem_append]
          refine ⟨h.adjustment_ledger, ?_⟩
          simp only [List.mem_singleton, forall_eq]
          exact ⟨e, hmem, (key_of_findRow he).trans ha.refundLedger_eq.symm, hfits⟩ }

lemma Integrity.ingestRefund {r : RefundArrival} (h : db.Integrity)
    (hs : db.ingestRefund r = .ok db') : db'.Integrity := by
  obtain ⟨sale, hsale, halloc, hsaleType, hfound, written, hwritten, hrest⟩ := ingestRefund_ok hs
  have hw : written.Integrity := by
    obtain ⟨hkey, rfl⟩ := writeRefundLedger_ok hwritten
    have hsnap : ∀ e ∈ db.financeLedgerEntry, e.entryType = .sale →
        some r.vendorAllocationId = e.vendorAllocationId →
        sale.SameCommission e := fun e he htype heq =>
      h.commission sale hsale e he htype (halloc.trans heq)
    exact
      { h with
        ledger_key := hkey
        claim_references := fun c hc => (h.claim_references c hc).mono (.of_eq rfl rfl rfl rfl)
        ledger_allocation := by
          rw [List.forall_mem_append]
          refine ⟨fun e he => exists_mem_updateWhere (h.ledger_allocation e he) fun _ h => h, ?_⟩
          simp only [List.mem_singleton, forall_eq]
          obtain ⟨a, ha⟩ := Option.isSome_iff_exists.mp hfound
          refine exists_mem_updateWhere ⟨a, mem_of_findRow ha, ?_⟩ fun _ h => h
          exact congrArg some (key_of_findRow ha).symm
        commission := by
          intro e he s hs hsType heq
          rcases List.mem_append.mp hs with hs | hs
          · rcases List.mem_append.mp he with he | he
            · exact h.commission e he s hs hsType heq
            · obtain rfl := List.mem_singleton.mp he
              exact hsnap s hs hsType heq
          · obtain rfl := List.mem_singleton.mp hs
            cases hsType
        line_ledger := fun l hl => exists_mem_append_left (h.line_ledger l hl)
        adjustment_ledger := fun a ha => exists_mem_append_left (h.adjustment_ledger a ha) }
  rcases hrest with ⟨_, -, hdebt⟩ | hadj
  · exact hw.createVendorDebtForPaidRefund hdebt
  · exact hw.createSettlementRefundAdjustment hadj

/-! ## Drafts -/

/-- The direct line of a ledger row fits the row. -/
lemma Integrity.buildLine_fits (h : db.Integrity) {e : FinanceLedgerEntry}
    (he : e ∈ db.financeLedgerEntry) (htype : e.entryType = .sale ∨ e.entryType = .refund)
    (approvalId id : Id) :
    (settlementApprovalLineRow approvalId id (buildLine (db.settlementLedgerRow e))).Fits e := by
  have hrow : (db.settlementLedgerRow e).entry = e := rfl
  unfold SettlementApprovalLine.Fits settlementApprovalLineRow buildLine
  rw [hrow]
  rcases htype with hsale | hrefund
  · simp [hsale]
  · have hcommission : resolveRefundCommissionSnapshot (db.settlementLedgerRow e) =
        (e.commissionPercentSnapshot, e.commissionVatPercentSnapshot) := by
      unfold resolveRefundCommissionSnapshot
      rw [hrow]
      cases hs : getRelatedSaleLedgerEntry (db.settlementLedgerRow e) with
      | none => simp
      | some s =>
          obtain ⟨-, hmem, halloc, hsale⟩ := getRelatedSaleLedgerEntry_some hs
          obtain ⟨hpercent, hvat⟩ := h.commission e he s.entry hmem hsale halloc.symm
          simp [← hpercent, ← hvat]
    simp [hrefund, hcommission, FinanceLedgerEntry.vendorPayableReversalMinor]

/-- A row that a draft takes is a sale or a refund. -/
lemma entryType_of_rowIsEligible {row : LedgerRow} {id : Option Id} {asOf : Instant}
    (h : rowIsEligible row id asOf = true) :
    row.entry.entryType = .sale ∨ row.entry.entryType = .refund := by
  simp only [rowIsEligible, Bool.and_eq_true, decide_eq_true_eq] at h
  exact h.1.1.1.1.1.1.2

lemma mem_draftLineRows {ids : DraftIds} {preview : SettlementApprovalPreview}
    {plans : List AdjustmentPlan} {l : SettlementApprovalLine}
    (h : l ∈ draftLineRows ids preview plans) :
    ∃ i, (∃ d ∈ preview.lines, l = settlementApprovalLineRow ids.approvalId i d) ∨
      ∃ p ∈ plans, l = settlementApprovalLineRow ids.approvalId i (buildRefundAdjustmentLine p) := by
  obtain ⟨d, hd, i, -, rfl⟩ := mem_withIds h
  refine ⟨i, ?_⟩
  rcases List.mem_append.mp hd with hd | hd
  · exact .inl ⟨d, hd, rfl⟩
  · obtain ⟨p, hp, rfl⟩ := List.mem_map.mp hd
    exact .inr ⟨p, hp, rfl⟩

lemma Integrity.createDraftApproval {input : SettlementApprovalInput} {ids : DraftIds}
    {now : Instant} (h : db.Integrity)
    (hs : db.createDraftApprovalInTransaction input ids now = .ok db') : db'.Integrity := by
  obtain ⟨preview, plans, approval, _, _, lineOf, hpreview, hplans, -, -, ⟨hid, -, -, -⟩,
    happroval, hline, hunique, happ, hplanLine, rfl⟩ :=
      createDraftApprovalInTransaction_ok h.adjustment_key h.application_key hs
  have hnodup := nodup_appliedAdjustmentPlans h.adjustment_key hpreview hplans
  have hrecord : ∀ p ∈ plans, p.record ∈ db.settlementRefundAdjustment ∧ 0 < p.applyAmountMinor := by
    intro p hp
    obtain ⟨hmem, -, -, hpos, -⟩ := mem_appliedAdjustmentPlans hpreview hplans hp
    exact ⟨hmem, hpos⟩
  have hfresh : ∀ a ∈ db.settlementApproval, a.id ≠ ids.approvalId := by
    intro a ha
    rw [← hid]
    exact (keyUnique_append.mp happroval).2.2 a ha approval (by simp)
  have hidPlans : ∀ q ∈ withIds Prod.mk ids.firstApplicationId plans, q.2 ∈ plans := by
    intro q hq
    obtain ⟨p, hp, i, -, rfl⟩ := mem_withIds hq
    exact hp
  have hnew : ∀ l ∈ draftLineRows ids preview plans, l.settlementApprovalId = ids.approvalId ∧
      ∃ e ∈ db.financeLedgerEntry, e.id = l.financeLedgerEntryId ∧ l.Fits e := by
    intro l hl
    obtain ⟨i, ⟨d, hd, rfl⟩ | ⟨p, hp, rfl⟩⟩ := mem_draftLineRows hl
    · refine ⟨rfl, ?_⟩
      rw [(buildApprovalPreview_ok hpreview).2.1] at hd
      obtain ⟨row, hrow, rfl⟩ := List.mem_map.mp hd
      obtain ⟨e, he, rfl, -, -, helig, -⟩ := mem_unapprovedRows hrow
      refine ⟨e, he, ?_, h.buildLine_fits he (entryType_of_rowIsEligible helig) _ _⟩
      simp [settlementApprovalLineRow, settlementLedgerRow]
    · obtain ⟨e, he, hkey, hfits⟩ := h.adjustment_ledger p.record (hrecord p hp).1
      exact ⟨rfl, e, he, hkey, hfits.1⟩
  exact
    { h with
      approval_key := happroval
      line_key := by
        unfold KeyUnique
        rwa [map_linkPlans fun _ _ => rfl]
      line_unique := by
        unfold KeyUnique
        rwa [map_linkPlans fun _ _ => rfl]
      adjustment_key := by
        unfold KeyUnique
        rw [map_applyPlans fun _ _ _ => rfl]
        exact h.adjustment_key
      adjustment_unique := by
        unfold KeyUnique
        rw [map_applyPlans fun _ _ _ => rfl]
        exact h.adjustment_unique
      application_key := happ
      claim_references := fun c hc => (h.claim_references c hc).mono
        { adjustment := fun a ha => exists_mem_applyPlans ⟨a, ha, rfl, rfl, rfl⟩ fun _ _ _ h => h
          event := fun _ he => he
          batch := fun b hb => ⟨b, hb, rfl, rfl, rfl⟩
          approval := fun s hs => ⟨s, List.mem_append_left _ hs, rfl, rfl, rfl⟩ }
      line_approval := by
        refine forall_mem_linkPlans ?_ fun _ _ h => h
        rw [List.forall_mem_append]
        refine ⟨fun l hl => exists_mem_append_left (h.line_approval l hl), fun l hl => ?_⟩
        exact ⟨approval, by simp, hid.trans (hnew l hl).1.symm⟩
      line_ledger := by
        refine forall_mem_linkPlans ?_ fun _ _ h => h
        rw [List.forall_mem_append]
        exact ⟨h.line_ledger, fun l hl => (hnew l hl).2⟩
      application_approval := by
        rw [List.forall_mem_append]
        refine ⟨fun x hx => exists_mem_append_left (h.application_approval x hx), fun x hx => ?_⟩
        obtain ⟨q, -, rfl⟩ := List.mem_map.mp hx
        exact ⟨approval, by simp, hid⟩
      application_adjustment := by
        rw [List.forall_mem_append]
        refine ⟨fun x hx => exists_mem_applyPlans (h.application_adjustment x hx)
          fun _ _ _ h => h, fun x hx => ?_⟩
        obtain ⟨q, hq, rfl⟩ := List.mem_map.mp hx
        exact exists_mem_applyPlans ⟨q.2.record, (hrecord q.2 (hidPlans q hq)).1, rfl⟩
          fun _ _ _ h => h
      application_unique := by
        refine keyUnique_append.mpr ⟨h.application_unique, ?_, ?_⟩
        · unfold KeyUnique
          rw [List.map_map]
          have hpairs : ((withIds Prod.mk ids.firstApplicationId plans).map fun q =>
              (q.2.record.id, ids.approvalId)) = plans.map fun p => (p.record.id, ids.approvalId) :=
            map_withIds (f := Prod.mk) (fun _ _ => rfl) _ _
          rw [show ((fun x => (x.settlementRefundAdjustmentId, x.settlementApprovalId)) ∘
            fun q : Id × AdjustmentPlan => applicationRow ids.approvalId (lineOf q.2.record.id) q) =
              fun q => (q.2.record.id, ids.approvalId) from rfl, hpairs]
          have := hnodup.map (f := fun i : Id => (i, ids.approvalId))
            fun _ _ heq => (Prod.mk.inj heq).1
          rwa [List.map_map] at this
        · intro x hx y hy heq
          obtain ⟨q, -, rfl⟩ := List.mem_map.mp hy
          obtain ⟨a, ha, hax⟩ := h.application_approval x hx
          exact hfresh a ha (hax.trans (Prod.mk.inj heq).2)
      application_pos := by
        rw [List.forall_mem_append]
        refine ⟨h.application_pos, fun x hx => ?_⟩
        obtain ⟨q, hq, rfl⟩ := List.mem_map.mp hx
        exact (hrecord q.2 (hidPlans q hq)).2
      adjustment_ledger := forall_mem_applyPlans h.adjustment_ledger fun _ _ _ h => h
      batchLine_line := fun m hm => exists_mem_linkPlans
        (exists_mem_append_left (h.batchLine_line m hm)) fun _ _ h => h }

/-! ## Approvals and cancellations -/

/-- A change of a settlement's status keeps its key and scope. -/
lemma Integrity.updateApprovals {p : SettlementApproval → Bool}
    {f : SettlementApproval → SettlementApproval} (h : db.Integrity)
    (hf : ∀ a, (f a).id = a.id ∧ (f a).vendorId = a.vendorId ∧ (f a).currency = a.currency) :
    Integrity { db with settlementApproval := updateWhere p f db.settlementApproval } :=
  have hid : ∀ i a, a.id = i → (f a).id = i := fun _ a ha => (hf a).1.trans ha
  { h with
    approval_key := h.approval_key.updateWhere fun a => (hf a).1
    claim_references := fun c hc => (h.claim_references c hc).mono
      { adjustment := fun a ha => ⟨a, ha, rfl, rfl, rfl⟩
        event := fun _ he => he
        batch := fun b hb => ⟨b, hb, rfl, rfl, rfl⟩
        approval := fun s hs => exists_mem_updateWhere ⟨s, hs, rfl, rfl, rfl⟩
          fun x hx => ⟨(hf x).1.trans hx.1, (hf x).2.1.trans hx.2.1, (hf x).2.2.trans hx.2.2⟩ }
    line_approval := fun l hl => exists_mem_updateWhere (h.line_approval l hl) (hid _)
    application_approval := fun x hx =>
      exists_mem_updateWhere (h.application_approval x hx) (hid _) }

lemma Integrity.executeCanonicalSettlementApproval {id firstAdjustmentId : Id} {now : Instant}
    (h : db.Integrity)
    (hs : db.executeCanonicalSettlementApproval id firstAdjustmentId now = .ok db') :
    db'.Integrity := by
  refine executeCanonicalSettlementApproval_preserves hs ?_ ?_
  · exact h.updateApprovals fun _ => ⟨rfl, rfl, rfl⟩
  · intro s t i r record hs ht
    exact hs.createSettlementRefundAdjustment ht

/-- Counters, status and pointer of an adjustment are not part of its identity. -/
lemma Integrity.updateAdjustments {l : List SettlementRefundAdjustment} (h : db.Integrity)
    (hsame : l.map (·.identity) = db.settlementRefundAdjustment.map (·.identity)) :
    Integrity { db with settlementRefundAdjustment := l } := by
  have hto : ∀ a ∈ db.settlementRefundAdjustment, ∃ a' ∈ l, a'.identity = a.identity :=
    fun a ha => List.mem_map.mp (hsame ▸ List.mem_map_of_mem ha)
  have hof : ∀ a ∈ l, ∃ a' ∈ db.settlementRefundAdjustment, a'.identity = a.identity :=
    fun a ha => List.mem_map.mp (hsame ▸ List.mem_map_of_mem ha)
  have hids := congrArg (List.map fun t => t.1) hsame
  have hledgers := congrArg (List.map fun t => t.2.2.2.1) hsame
  simp only [List.map_map] at hids hledgers
  refine
    { h with
      adjustment_key := ?_
      adjustment_unique := ?_
      claim_references := fun c hc => (h.claim_references c hc).mono
        { adjustment := fun a ha => ?_
          event := fun _ he => he
          batch := fun b hb => ⟨b, hb, rfl, rfl, rfl⟩
          approval := fun s hs => ⟨s, hs, rfl, rfl, rfl⟩ }
      application_adjustment := fun x hx => ?_
      adjustment_ledger := fun a ha => ?_ }
  · exact (congrArg List.Nodup hids).mpr h.adjustment_key
  · exact (congrArg List.Nodup hledgers).mpr h.adjustment_unique
  · obtain ⟨a', ha', heq⟩ := hto a ha
    simp only [SettlementRefundAdjustment.identity, Prod.mk.injEq] at heq
    exact ⟨a', ha', heq.1, heq.2.1, heq.2.2.1⟩
  · obtain ⟨a, ha, hid⟩ := h.application_adjustment x hx
    obtain ⟨a', ha', heq⟩ := hto a ha
    simp only [SettlementRefundAdjustment.identity, Prod.mk.injEq] at heq
    exact ⟨a', ha', heq.1.trans hid⟩
  · obtain ⟨a', ha', heq⟩ := hof a ha
    simp only [SettlementRefundAdjustment.identity, Prod.mk.injEq] at heq
    obtain ⟨-, hvendor, -, hledger, horiginal⟩ := heq
    obtain ⟨e, he, hk, htype, hv, ho⟩ := h.adjustment_ledger a' ha'
    exact ⟨e, he, hk.trans hledger, htype, hv.trans hvendor, horiginal.symm.trans ho⟩

/-- So is what an application is created with. -/
lemma Integrity.updateApplications {l : List SettlementRefundAdjustmentApplication}
    (h : db.Integrity)
    (hsame : l.map (·.identity) = db.settlementRefundAdjustmentApplication.map (·.identity)) :
    Integrity { db with settlementRefundAdjustmentApplication := l } := by
  have hof : ∀ x ∈ l, ∃ x' ∈ db.settlementRefundAdjustmentApplication, x'.identity = x.identity :=
    fun x hx => List.mem_map.mp (hsame ▸ List.mem_map_of_mem hx)
  have hids := congrArg (List.map fun t => t.1) hsame
  have hpairs := congrArg (List.map fun t => (t.2.1, t.2.2.1)) hsame
  simp only [List.map_map] at hids hpairs
  refine
    { h with
      application_key := (congrArg List.Nodup hids).mpr h.application_key
      application_unique := (congrArg List.Nodup hpairs).mpr h.application_unique
      claim_references := fun c hc => (h.claim_references c hc).mono (.of_eq rfl rfl rfl rfl)
      application_approval := fun x hx => ?_
      application_adjustment := fun x hx => ?_
      application_pos := fun x hx => ?_ }
  all_goals
    obtain ⟨x', hx', heq⟩ := hof x hx
    simp only [SettlementRefundAdjustmentApplication.identity, Prod.mk.injEq] at heq
    obtain ⟨-, hadjustment, happroval, hamount⟩ := heq
  · rw [← happroval]
    exact h.application_approval x' hx'
  · rw [← hadjustment]
    exact h.application_adjustment x' hx'
  · rw [← hamount]
    exact h.application_pos x' hx'

lemma Integrity.resetLegacyAppliedAdjustments (h : db.Integrity) (id : Id) :
    (db.resetLegacyAppliedAdjustments id).Integrity :=
  h.updateAdjustments (map_updateWhere (f := resetLegacyAdjustment) (fun _ => rfl) _)

lemma Integrity.cancelSettlementApproval {id : Id} (h : db.Integrity)
    (hs : db.cancelSettlementApproval id = .ok db') : db'.Integrity := by
  obtain ⟨-, -, -, -, rfl⟩ := cancelSettlementApproval_ok hs
  refine Integrity.resetLegacyAppliedAdjustments ?_ id
  rw [cancelApplications_eq h.application_key h.application_unique]
  have happrovals := h.updateApprovals (p := fun a => decide (a.id = id))
    (f := fun a => { a with status := .cancelled, cancelledFromStatus := some a.status })
    fun _ => ⟨rfl, rfl, rfl⟩
  have happs := happrovals.updateApplications
    (l := updateEach SettlementRefundAdjustmentApplication.id
      ((db.activeApplicationsOf id).map fun p => (p.1.id, cancelApplicationRow))
      db.settlementRefundAdjustmentApplication) <| map_updateEach (fun u hu x => by
    obtain ⟨p, -, rfl⟩ := List.mem_map.mp hu
    rfl) _
  have hadjs := happs.updateAdjustments
    (l := updateEach SettlementRefundAdjustment.id
      ((db.activeApplicationsOf id).map fun p =>
        (p.1.settlementRefundAdjustmentId, unapplyFrom id p.1 p.2))
      db.settlementRefundAdjustment) <| map_updateEach (fun u hu x => by
    obtain ⟨p, -, rfl⟩ := List.mem_map.mp hu
    rfl) _
  exact
    { hadjs with
      claim_references := fun c hc => (hadjs.claim_references c hc).mono (.of_eq rfl rfl rfl rfl) }

/-! ## Payout batches -/

/-- A preparation creates its batch and takes lines that exist. -/
lemma Integrity.withPayoutBatch {ids : PayoutBatchIds} {batch : PayoutBatch} {s : PayoutSelection}
    (h : db.Integrity) (hkey : KeyUnique PayoutBatch.id (db.payoutBatch ++ [batch]))
    (hid : batch.id = ids.batchId)
    (hline : ∀ c ∈ s.candidates, c.line ∈ db.settlementApprovalLine) :
    (db.withPayoutBatch ids batch s).Integrity :=
  { h with
    batch_key := hkey
    claim_references := fun c hc => (h.claim_references c hc).mono
      { adjustment := fun a ha => ⟨a, ha, rfl, rfl, rfl⟩
        event := fun _ he => he
        batch := fun b hb => ⟨b, List.mem_append_left _ hb, rfl, rfl, rfl⟩
        approval := fun s hs => ⟨s, hs, rfl, rfl, rfl⟩ }
    batchLine_batch := by
      simp only [FinanceDb.withPayoutBatch]
      rw [List.forall_mem_append]
      refine ⟨fun m hm => exists_mem_append_left (h.batchLine_batch m hm), fun m hm => ?_⟩
      obtain ⟨c, -, i, -, rfl⟩ := mem_withIds hm
      exact ⟨batch, by simp, hid⟩
    batchLine_line := by
      simp only [FinanceDb.withPayoutBatch]
      rw [List.forall_mem_append]
      refine ⟨h.batchLine_line, fun m hm => ?_⟩
      obtain ⟨c, hc, i, -, rfl⟩ := mem_withIds hm
      exact ⟨c.line, hline c hc, rfl, rfl⟩ }

lemma Integrity.preparePayoutBatch {vendorId : Id} {ids : PayoutBatchIds} {r1Isolated : Bool}
    {now : Instant} (h : db.Integrity)
    (hs : db.preparePayoutBatchInTransaction vendorId ids r1Isolated now = .ok db') :
    db'.Integrity := by
  obtain ⟨_, s, currency, -, hselect, -, hbatch, hoffset⟩ := preparePayoutBatchInTransaction_ok hs
  have hprepared : (db.withPayoutBatch ids (payoutBatchRow ids.batchId vendorId currency s
      (db.preparedNetMinor vendorId s r1Isolated) now) s).Integrity := by
    refine h.withPayoutBatch hbatch rfl fun c hc => ?_
    rw [selectPayout_ok hselect] at hc
    exact (mem_eligibleCandidates hc).1
  rcases createVendorDebtOffsetForPayoutBatch_ok hoffset with ⟨-, rfl⟩ | ⟨-, rfl, -⟩ |
    ⟨-, hkey, rfl⟩
  · exact hprepared
  · exact hprepared
  · exact hprepared.appendEvents hkey

/-- The claims of a reservation name sources, settlements and a batch of their own scope. -/
lemma plannedClaim_references {input : ReservationInput} {now : Instant}
    {batch : PayoutBatch} {allowOwn : Bool} {capacity : List ApprovalCapacity}
    (hbatch : db.findBatch input.payoutBatchId = some batch)
    (hvendor : batch.vendorId = input.vendorId) (hcurrency : batch.currency = input.currency)
    (hcapacity : db.assertReservable input batch allowOwn = .ok capacity)
    {i : Id} {w : Id × SourceKey × ℤ}
    (hw : w ∈ plannedClaims
      (db.reconcilePayoutOffsetAuthority input.vendorId input.currency).sources capacity) :
    (claimRow input now i w).References db := by
  obtain ⟨happroval, ⟨s, hs, hkey⟩, hpos⟩ := mem_plannedClaims hw
  obtain ⟨hids, happroved, -⟩ := assertReservable_ok hcapacity
  obtain ⟨a, ha, hfor⟩ := happroved w.1 (hids ▸ happroval)
  simp only [isApprovedFor, Bool.and_eq_true, decide_eq_true_eq] at hfor
  have hsource := mem_authoritySources.mp hs
  refine
    { positive_amount := hpos
      refundAdjustment := fun ht => ?_
      vendorDebt := fun ht => ?_
      payoutBatch := ⟨batch, mem_of_findRow hbatch, key_of_findRow hbatch, hvendor, hcurrency⟩
      settlementApproval := ⟨a, mem_of_findRow ha, key_of_findRow ha, hfor.1.2.trans hvendor,
        hfor.2.trans hcurrency⟩ }
  · have hw2 : w.2.1 = (.refundAdjustment, s.sourceId) := by
      rw [← hkey]
      exact congrArg (·, s.sourceId) (congrArg Prod.fst hkey |>.trans ht)
    rcases hsource with ⟨x, hx, rfl⟩ | ⟨e, -, rfl⟩
    · obtain ⟨hx, hscope⟩ := List.mem_filter.mp hx
      simp only [Bool.and_eq_true, decide_eq_true_eq] at hscope
      exact ⟨by simp [claimRow, hw2], x, hx, by simp [claimRow, hw2]; rfl, hscope.1, hscope.2⟩
    · exact absurd ((congrArg Prod.fst hkey).trans ht) (by simp [debtSource])
  · have hw2 : w.2.1 = (.vendorDebt, s.sourceId) := by
      rw [← hkey]
      exact congrArg (·, s.sourceId) (congrArg Prod.fst hkey |>.trans ht)
    rcases hsource with ⟨x, -, rfl⟩ | ⟨e, he, rfl⟩
    · exact absurd ((congrArg Prod.fst hkey).trans ht) (by simp [adjustmentSource])
    · obtain ⟨he, hscope⟩ := List.mem_filter.mp he
      simp only [Bool.and_eq_true, decide_eq_true_eq] at hscope
      exact ⟨by simp [claimRow, hw2], e, he, by simp [claimRow, hw2]; rfl, hscope.1.1, hscope.1.2,
        hscope.2⟩

lemma Integrity.reservePayoutOffsets {input : ReservationInput} {allowOwn : Bool} {now : Instant}
    (h : db.Integrity)
    (hs : db.reserveVerifiedPayoutOffsetsInTransaction input allowOwn now = .ok db') :
    db'.Integrity := by
  obtain ⟨batch, hbatch, hvendor, hcurrency, -, -, rfl | ⟨-, capacity, hcapacity, hkey, rfl⟩⟩ :=
    reserveVerifiedPayoutOffsetsInTransaction_ok hs
  · exact h
  · refine { h with claim_key := hkey, claim_references := fun c hc => ?_ }
    have hkeeps : ∀ l, db.KeepsClaimed { db with payoutOffsetClaim := l } :=
      fun _ => .of_eq rfl rfl rfl rfl
    rcases List.mem_append.mp hc with hold | hnew
    · exact (h.claim_references c hold).mono (hkeeps _)
    · obtain ⟨w, hw, i, -, rfl⟩ := mem_withIds hnew
      exact (plannedClaim_references hbatch hvendor hcurrency hcapacity hw).mono (hkeeps _)

/-- A batch keeps its key and scope through every transition. -/
lemma Integrity.withBatch {batchId : Id} {f : PayoutBatch → PayoutBatch} (h : db.Integrity)
    (hf : ∀ b, (f b).id = b.id ∧ (f b).vendorId = b.vendorId ∧ (f b).currency = b.currency) :
    (db.withBatch batchId f).Integrity :=
  { h with
    batch_key := h.batch_key.updateWhere fun b => (hf b).1
    claim_references := fun c hc => (h.claim_references c hc).mono
      { adjustment := fun a ha => ⟨a, ha, rfl, rfl, rfl⟩
        event := fun _ he => he
        batch := fun b hb => exists_mem_updateWhere ⟨b, hb, rfl, rfl, rfl⟩
          fun x hx => ⟨(hf x).1.trans hx.1, (hf x).2.1.trans hx.2.1, (hf x).2.2.trans hx.2.2⟩
        approval := fun s hs => ⟨s, hs, rfl, rfl, rfl⟩ }
    batchLine_batch := fun m hm => exists_mem_updateWhere (h.batchLine_batch m hm)
      fun b hb => (hf b).1.trans hb }

/-- A claim keeps everything but its status. -/
lemma Integrity.updateClaims {p : PayoutOffsetClaim → Bool}
    {f : PayoutOffsetClaim → PayoutOffsetClaim} (h : db.Integrity)
    (hf : ∀ c, ∃ status, f c = { c with status := status }) :
    Integrity { db with payoutOffsetClaim := updateWhere p f db.payoutOffsetClaim } := by
  refine { h with claim_key := ?_, claim_references := ?_ }
  · refine h.claim_key.updateWhere fun c => ?_
    obtain ⟨status, hc⟩ := hf c
    rw [hc]
  · refine forall_mem_updateWhere (fun c hc => (h.claim_references c hc).mono
      (.of_eq rfl rfl rfl rfl)) fun c hc => ?_
    obtain ⟨status, heq⟩ := hf c
    rw [heq]
    exact { hc with }

lemma Integrity.settleCorrectionPayoutLines (h : db.Integrity) (batchId : Id)
    (status : CorrectionLineStatus) : (db.settleCorrectionPayoutLines batchId status).Integrity :=
  { h with
    claim_references := fun c hc => (h.claim_references c hc).mono (.of_eq rfl rfl rfl rfl) }

lemma Integrity.withCancelledBatch (h : db.Integrity) (batchId : Id) :
    (db.withCancelledBatch batchId).Integrity :=
  ((h.withBatch (f := fun b => { b with status := .cancelled }) fun _ => ⟨rfl, rfl, rfl⟩
    ).updateClaims (f := releaseClaimRow) fun _ => ⟨_, rfl⟩).settleCorrectionPayoutLines batchId
      .cancelled

lemma Integrity.finalizeClaims {payoutBatchId vendorId : Id} {currency : String}
    {firstEventId : Id} (h : db.Integrity)
    (hs : db.finalizeR1PayoutOffsetClaimsInTransaction payoutBatchId vendorId currency
      firstEventId = .ok db') : db'.Integrity := by
  obtain ⟨claims, hclaims, hwrites, -⟩ := finalizeR1PayoutOffsetClaimsInTransaction_ok hs
  obtain ⟨-, hkey, rfl⟩ := finalizeClaims_ok hwrites hclaims.perm h.adjustment_key h.claim_key
    h.event_key
  have hadjs := h.updateAdjustments (map_updateWhere
    (p := fun a => decide (a.id ∈ refundGroups claims)) (f := finalizeRow claims)
    (fun _ => rfl) db.settlementRefundAdjustment)
  exact (hadjs.appendEvents hkey).updateClaims (f := finalizeClaimRow) fun _ => ⟨_, rfl⟩

/-- The states that a ledger row moves through are not part of its identity. -/
lemma Integrity.rewriteLedger {p : FinanceLedgerEntry → Bool}
    {f : FinanceLedgerEntry → FinanceLedgerEntry} (h : db.Integrity)
    (hf : ∀ e, ∃ payout settlement reason settledAt voidedAt, f e = { e with
      payoutStatus := payout, settlementStatus := settlement, settlementHoldReason := reason
      settledAt := settledAt, voidedAt := voidedAt }) :
    Integrity { db with financeLedgerEntry := updateWhere p f db.financeLedgerEntry } := by
  have hkeep : ∀ (P : FinanceLedgerEntry → Prop),
      (∀ e payout settlement reason settledAt voidedAt, P e → P { e with
        payoutStatus := payout, settlementStatus := settlement, settlementHoldReason := reason
        settledAt := settledAt, voidedAt := voidedAt }) → ∀ e, P e → P (f e) := by
    intro P hP e he
    obtain ⟨payout, settlement, reason, settledAt, voidedAt, heq⟩ := hf e
    rw [heq]
    exact hP e payout settlement reason settledAt voidedAt he
  have hentry : ∀ e ∈ updateWhere p f db.financeLedgerEntry, ∃ e₀ ∈ db.financeLedgerEntry,
      e.entryType = e₀.entryType ∧ e.vendorAllocationId = e₀.vendorAllocationId ∧
        e.SameCommission e₀ :=
    forall_mem_updateWhere (fun e he => ⟨e, he, rfl, rfl, rfl, rfl⟩)
      (hkeep _ fun _ _ _ _ _ _ he => he)
  refine
    { h with
      ledger_key := h.ledger_key.updateWhere fun e => hkeep (·.id = e.id) (fun _ _ _ _ _ _ h => h) e rfl
      claim_references := fun c hc => (h.claim_references c hc).mono (.of_eq rfl rfl rfl rfl)
      ledger_allocation := forall_mem_updateWhere h.ledger_allocation
        (hkeep _ fun _ _ _ _ _ _ he => he)
      commission := fun e he s hs hsale halloc => ?_
      line_ledger := fun l hl => exists_mem_updateWhere (h.line_ledger l hl)
        (hkeep _ fun _ _ _ _ _ _ he => he)
      adjustment_ledger := fun a ha => exists_mem_updateWhere (h.adjustment_ledger a ha)
        (hkeep _ fun _ _ _ _ _ _ he => he) }
  obtain ⟨e₀, he₀, -, healloc, hecomm⟩ := hentry e he
  obtain ⟨s₀, hs₀, hstype, hsalloc, hscomm⟩ := hentry s hs
  have hsame := h.commission e₀ he₀ s₀ hs₀ (hstype ▸ hsale) (healloc ▸ hsalloc ▸ halloc)
  exact ⟨hecomm.1.trans (hsame.1.trans hscomm.1.symm), hecomm.2.trans (hsame.2.trans hscomm.2.symm)⟩

/-- Payout and settlement state of a ledger row are not part of its identity. -/
lemma Integrity.updateLedger {p : FinanceLedgerEntry → Bool}
    {f : FinanceLedgerEntry → FinanceLedgerEntry} (h : db.Integrity)
    (hf : ∀ e, ∃ payout settlement settledAt, f e = { e with
      payoutStatus := payout, settlementStatus := settlement, settledAt := settledAt }) :
    Integrity { db with financeLedgerEntry := updateWhere p f db.financeLedgerEntry } := by
  refine h.rewriteLedger fun e => ?_
  obtain ⟨payout, settlement, settledAt, heq⟩ := hf e
  exact ⟨payout, settlement, e.settlementHoldReason, settledAt, e.voidedAt, heq⟩

lemma Integrity.completeR1CashlessPayout {batchId firstEventId : Id} {now : Instant}
    (h : db.Integrity) (hs : db.completeR1CashlessPayout batchId firstEventId now = .ok db') :
    db'.Integrity := by
  obtain ⟨batch, finalized, -, -, -, hfinalized, rfl⟩ :=
    completeR1CashlessPayout_ok h.toConstraints hs
  exact ((h.finalizeClaims hfinalized).withBatch
    (f := fun b => { b with status := .cashlessCompleted }) fun _ => ⟨rfl, rfl, rfl⟩
    ).updateLedger (f := fun e => { e with
      payoutStatus := .cashlessCompleted, settlementStatus := .cashlessCompleted })
      fun _ => ⟨_, _, _, rfl⟩

lemma Integrity.finalizeForPayment {batch : PayoutBatch} {actualR1EftAmountMinor : Option ℤ}
    {firstEventId : Id} (h : db.Integrity)
    (hs : db.finalizeForPayment batch actualR1EftAmountMinor firstEventId = .ok db') :
    db'.Integrity := by
  unfold FinanceDb.finalizeForPayment at hs
  split at hs
  · exact h.finalizeClaims hs
  · obtain rfl := pure_eq_ok.mp hs
    exact h

lemma Integrity.markPayoutBatchPaid {batchId : Id} {evidence : PaymentEvidence}
    {actualR1EftAmountMinor : Option ℤ} {firstEventId : Id} {now : Instant} (h : db.Integrity)
    (hs : db.markPayoutBatchPaidInTransaction batchId evidence actualR1EftAmountMinor firstEventId
      now = .ok db') : db'.Integrity := by
  obtain ⟨batch, finalized, -, -, -, -, hfinalized, rfl⟩ :=
    markPayoutBatchPaidInTransaction_ok h.toConstraints hs
  refine Integrity.settleCorrectionPayoutLines ?_ batchId .paid
  exact ((h.finalizeForPayment hfinalized).withBatch
    (f := fun b => { b with
      status := .paid, paidAt := some evidence.paidAt, eftExecutedAt := evidence.eftExecutedAt })
    fun _ => ⟨rfl, rfl, rfl⟩).updateLedger
      (f := fun e => { e with
        payoutStatus := .paid, settlementStatus := .settled, settledAt := some evidence.paidAt })
      fun _ => ⟨_, _, _, rfl⟩

end FinanceDb

open FinanceDb in
/-- **Integrity is kept** by every transaction. -/
theorem FinanceDb.Integrity.step {db db' : FinanceDb} {a : Action} (h : db.Integrity)
    (hs : step a db = .ok db') : db'.Integrity := by
  have hkeeps : ∀ {t : FinanceDb}, db.KeepsClaimed t → ∀ c ∈ db.payoutOffsetClaim, c.References t :=
    fun hk c hc => (h.claim_references c hc).mono hk
  have hprepareR1 : ∀ {vendorId actorId requestId ids now},
      db.prepareR1PayoutBatchInTransaction vendorId actorId requestId ids now = .ok db' →
      db'.Integrity := by
    intro vendorId actorId requestId ids now hs
    obtain ⟨prepared, batch, reserved, hprepared, -, hreserved, -, -, rfl⟩ :=
      prepareR1PayoutBatchInTransaction_ok hs
    exact ((h.preparePayoutBatch hprepared).reservePayoutOffsets hreserved).withBatch
      fun _ => ⟨rfl, rfl, rfl⟩
  cases a with
  | recordSale allocation sale => exact h.recordSale hs
  | updateAllocation allocation =>
      obtain rfl := Except.ok.inj hs
      exact h.updateAllocation allocation
  | setFinanceIntegrityAlerts alerts =>
      obtain rfl := Except.ok.inj hs
      exact { h with claim_references := hkeeps (.of_eq rfl rfl rfl rfl) }
  | setCommissionInvoices invoices =>
      obtain rfl := Except.ok.inj hs
      exact { h with claim_references := hkeeps (.of_eq rfl rfl rfl rfl) }
  | setTerminalEvidenceReviews reviews =>
      obtain rfl := Except.ok.inj hs
      exact { h with claim_references := hkeeps (.of_eq rfl rfl rfl rfl) }
  | recordCorrectionCredit source =>
      simp only [Finance.step, FinanceDb.recordCorrectionCredit, bind_eq_ok, pure_eq_ok] at hs
      obtain ⟨-, -, rfl⟩ := hs
      exact { h with claim_references := hkeeps (.of_eq rfl rfl rfl rfl) }
  | recordCorrectionDeduction source =>
      simp only [Finance.step, FinanceDb.recordCorrectionDeduction, bind_eq_ok, pure_eq_ok] at hs
      obtain ⟨-, -, rfl⟩ := hs
      exact { h with claim_references := hkeeps (.of_eq rfl rfl rfl rfl) }
  | recordApprovedDeductionCoverage coverage =>
      simp only [Finance.step, FinanceDb.recordApprovedDeductionCoverage, bind_eq_ok, pure_eq_ok] at hs
      obtain ⟨-, -, rfl⟩ := hs
      exact { h with claim_references := hkeeps (.of_eq rfl rfl rfl rfl) }
  | chargePaidCorrection eventId authority authorizedDebtMinor =>
      obtain ⟨-, hkey, rfl⟩ := createVendorDebtForPaidFinancialCorrection_ok hs
      exact h.appendEvents hkey
  | ingestRefund refund => exact h.ingestRefund hs
  | createDraftApproval input ids now => exact h.createDraftApproval hs
  | approveSettlement id firstAdjustmentId now => exact h.executeCanonicalSettlementApproval hs
  | cancelSettlement id => exact h.cancelSettlementApproval hs
  | preparePayout vendorId ids now => exact h.preparePayoutBatch hs
  | prepareR1Payout vendorId actorId requestId ids now => exact hprepareR1 hs
  | prepareAdminPayout vendorId actorId requestId ids now =>
      rcases prepareAdminPayoutBatchWithR1_ok hs with rfl | hr1 | hordinary
      · exact h
      · exact hprepareR1 hr1
      · exact h.preparePayoutBatch hordinary
  | reservePayoutOffsets input now => exact h.reservePayoutOffsets hs
  | markPayoutReview batchId now =>
      obtain ⟨-, rfl⟩ := markPayoutBatchReview_ok h.toConstraints hs
      exact h.withBatch fun _ => ⟨rfl, rfl, rfl⟩
  | markR1PayoutReview batchId now =>
      obtain ⟨-, rfl⟩ := markR1PayoutBatchReview_ok h.toConstraints hs
      exact h.withBatch fun _ => ⟨rfl, rfl, rfl⟩
  | cancelDraftPayout batchId actorId =>
      obtain ⟨-, rfl⟩ := cancelDraftPayoutBatchWithClient_ok h.toConstraints hs
      exact h.withCancelledBatch batchId
  | cancelReviewPayout batchId =>
      obtain ⟨-, -, rfl⟩ := cancelReviewPayoutBatchWithClient_ok h.toConstraints hs
      exact h.withCancelledBatch batchId
  | cancelR1ReviewPayout batchId actorUserId =>
      obtain ⟨-, rfl⟩ := cancelR1ReviewPayoutBeforeEft_ok h.toConstraints hs
      exact h.withCancelledBatch batchId
  | cancelPayout batchId actorId =>
      obtain ⟨-, rfl⟩ := cancelPayoutBatch_ok h.toConstraints hs
      exact h.withCancelledBatch batchId
  | completeCashlessPayout batchId firstEventId now => exact h.completeR1CashlessPayout hs
  | markPayoutPaid batchId evidence now => exact h.markPayoutBatchPaid hs
  | markR1PayoutPaid batchId evidence actualEftAmountMinor firstEventId now =>
      exact h.markPayoutBatchPaid (markR1PayoutBatchPaid_ok hs)

/-- The tables hang together in every reachable state. -/
theorem ReachableDb.integrity {db : FinanceDb} (h : ReachableDb db) : db.Integrity :=
  h.invariant FinanceDb.Integrity.empty fun _ _ _ _ hs _ hstep => hs.step hstep

end VendorDashboard.Finance

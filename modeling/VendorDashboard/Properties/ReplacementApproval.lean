import VendorDashboard.Properties.PayoutBooks

/-!
# What the approval of a replacement establishes

The approval of a replacement draft verifies every refund that was accepted after the cutoff on
one of its sales, and gives each of them its adjustment (`WritesReplacement`).  The adjustments,
the refunds' evidence and the frozen list then agree (`LateRefundsBridged`), and nothing that the
system does later changes that (`LateRefundsBridged.mono`).

In every reachable state an original has at most one replacement, and one that was approved settles
what its cancelled original had settled (`ReachableDb.replacement_resettles`).
-/

namespace VendorDashboard.Finance

open Table Transaction Run

namespace FinanceDb

variable {db db' : FinanceDb}

/-! ## Verified late refunds -/

/-- The ledger rows of the sales among the lines of a settlement. -/
def saleLedgerIds (db : FinanceDb) (settlementApprovalId : Id) : List Id :=
  ((db.linesOf settlementApprovalId).filter fun l => decide (l.lineType = .sale)).map
    (·.financeLedgerEntryId)

/-- The rows of the refunds that were accepted after the cutoff on one of the sales. -/
def lateRefundLedgerIds (db : FinanceDb) (saleIds : List Id) (cutoff : Instant) : List Id :=
  (db.lateRefundSnapshots saleIds cutoff).map (·.1.id)

lemma mem_lateRefundSnapshots {saleIds : List Id} {cutoff : Instant}
    {p : FinanceLedgerEntry × RefundEvidenceSnapshot} :
    p ∈ db.lateRefundSnapshots saleIds cutoff ↔ p.1 ∈ db.financeLedgerEntry ∧
      p.1.refundEvidenceSnapshot = some p.2 ∧ p.2.historicalSaleFinanceLedgerEntryId ∈ saleIds ∧
        cutoff < p.2.capturedAt := by
  unfold lateRefundSnapshots
  rw [List.mem_filterMap]
  constructor
  · rintro ⟨e, he, h⟩
    obtain ⟨s, hs, h⟩ := Option.bind_eq_some_iff.mp h
    split at h
    · rename_i hlate
      obtain rfl := Option.some.inj h
      exact ⟨he, hs, hlate⟩
    · cases h
  · rintro ⟨he, hs, hlate⟩
    exact ⟨p.1, he, by rw [hs, Option.bind_some, if_pos hlate]⟩

lemma nodup_lateRefundLedgerIds (h : KeyUnique FinanceLedgerEntry.id db.financeLedgerEntry)
    (saleIds : List Id) (cutoff : Instant) : (db.lateRefundLedgerIds saleIds cutoff).Nodup := by
  refine List.Nodup.sublist ?_ h
  unfold lateRefundLedgerIds lateRefundSnapshots
  induction db.financeLedgerEntry with
  | nil => simp
  | cons e l ih =>
      rw [List.filterMap_cons, List.map_cons]
      split
      · exact ih.cons _
      · rename_i p hp
        obtain ⟨s, -, hp⟩ := Option.bind_eq_some_iff.mp hp
        split at hp
        · obtain rfl := Option.some.inj hp
          exact ih.cons_cons _
        · cases hp

/-- What the verification of a late refund says about its row and its evidence. -/
lemma lateRefundIsVerified_facts {vendorId : Id} {cutoff : Instant}
    {saleIds allocationIds conflicted : List Id} {refund : FinanceLedgerEntry}
    {snapshot : RefundEvidenceSnapshot}
    (h : db.lateRefundIsVerified vendorId cutoff saleIds allocationIds conflicted refund snapshot =
      true) :
    snapshot.historicalEconomicVendorId = vendorId ∧ refund.vendorId = vendorId ∧
      refund.id = snapshot.refundFinanceLedgerEntryId ∧
        ∀ a ∈ db.settlementRefundAdjustment, a.refundFinanceLedgerEntryId ≠ refund.id := by
  simp only [lateRefundIsVerified, Bool.and_eq_true, decide_eq_true_eq, List.all_eq_true] at h
  obtain ⟨⟨⟨⟨⟨⟨⟨⟨-, -, hvendor, -⟩, -⟩, hid, -, hrefund, -⟩, -⟩, -⟩, -⟩, hfree⟩, -⟩ := h
  exact ⟨hvendor, hrefund, hid, hfree⟩

/-- The bridges of late refunds. -/
def bridgesOf (snapshots : List (FinanceLedgerEntry × RefundEvidenceSnapshot)) :
    List LateRefundBridge :=
  snapshots.map fun p => ⟨p.1.id, p.2.refundRecordId, p.2.historicalSaleFinanceLedgerEntryId⟩

/-- When nothing is left unverified, each late refund has its bridge. -/
lemma verifyReplacementLateRefundBridges_ok {vendorId : Id} {cutoff : Instant}
    {saleIds allocationIds : List Id}
    (h : (db.verifyReplacementLateRefundBridges vendorId cutoff saleIds
      allocationIds).unverifiedRefundLedgerIds = []) :
    (db.verifyReplacementLateRefundBridges vendorId cutoff saleIds allocationIds).bridges =
        bridgesOf (db.lateRefundSnapshots saleIds cutoff) ∧
      ∀ p ∈ db.lateRefundSnapshots saleIds cutoff, ∃ conflicted, db.lateRefundIsVerified vendorId
        cutoff saleIds allocationIds conflicted p.1 p.2 = true := by
  unfold verifyReplacementLateRefundBridges at h ⊢
  simp only [List.append_eq_nil_iff, List.map_eq_nil_iff, List.filter_eq_nil_iff] at h
  obtain ⟨⟨-, hverified⟩, -⟩ := h
  have hall : ∀ p ∈ db.lateRefundSnapshots saleIds cutoff, db.lateRefundIsVerified vendorId cutoff
      saleIds allocationIds ((db.refundTerminalEvidenceReview.filter fun r =>
        decide (r.economicVendorId = vendorId) && decide (r.vendorAllocationId ∈ allocationIds) &&
          !r.resolved).map (·.terminalRefundFinanceLedgerEntryId)) p.1 p.2 = true := by
    intro p hp
    simpa using hverified p hp
  refine ⟨?_, fun p hp => ⟨_, hall p hp⟩⟩
  simp only [bridgesOf]
  rw [List.filter_eq_self.mpr hall]

/-! ## The authority of a replacement -/

/-- What the approval of a replacement has checked. -/
structure ReplacementAuthority (db : FinanceDb) (existing original : SettlementApproval)
    (cutoff : Instant) : Prop where
  found : db.findApproval original.id = some original
  cancelled : original.status = .cancelled
  vendor : original.vendorId = existing.vendorId
  original_cutoff : original.scheduledPeriodEnd = some cutoff
  replacement_cutoff : existing.periodEnd = some cutoff
  sources : ((db.linesOf original.id).map sourceKey).Perm ((db.linesOf existing.id).map sourceKey)
  frozen : existing.lateRefundLedgerIds.Perm
    (db.lateRefundLedgerIds (db.saleLedgerIds existing.id) cutoff)
  verified : ∀ p ∈ db.lateRefundSnapshots (db.saleLedgerIds existing.id) cutoff,
    ∃ allocationIds conflicted, db.lateRefundIsVerified existing.vendorId cutoff
      (db.saleLedgerIds existing.id) allocationIds conflicted p.1 p.2 = true

theorem assertReplacementAuthority_ok {existing : SettlementApproval} {originalId : Id}
    {bridges : List LateRefundBridge}
    (h : db.assertReplacementAuthority existing originalId = .ok bridges) :
    ∃ original cutoff, original.id = originalId ∧
      db.ReplacementAuthority existing original cutoff ∧
      bridges = bridgesOf (db.lateRefundSnapshots (db.saleLedgerIds existing.id) cutoff) := by
  simp only [assertReplacementAuthority, bind_eq_ok, getOrThrow_eq_ok, require_eq_ok,
    pure_eq_ok] at h
  obtain ⟨original, hfind, cutoff, hcutoff, _, ⟨hstatus, hvendor, hperiod⟩, _, hsources, _, -, _,
    ⟨hunverified, hfrozen⟩, rfl⟩ := h
  obtain rfl : original.id = originalId := key_of_findRow hfind
  rw [List.isEmpty_iff] at hunverified
  obtain ⟨hbridges, hverified⟩ := verifyReplacementLateRefundBridges_ok hunverified
  refine ⟨original, cutoff, rfl, ?_, hbridges⟩
  refine
    { found := hfind
      cancelled := hstatus
      vendor := hvendor
      original_cutoff := hcutoff
      replacement_cutoff := hperiod
      sources := List.isPerm_iff.mp hsources
      frozen := ?_
      verified := fun p hp => ?_ }
  · rw [hbridges, bridgesOf, List.map_map] at hfrozen
    exact List.isPerm_iff.mp hfrozen
  · obtain ⟨conflicted, hp⟩ := hverified p hp
    exact ⟨_, conflicted, hp⟩

/-! ## The adjustments of the late refunds -/

/-- The adjustment that an approval creates for a bridged refund. -/
structure IsBridgeAdjustment (db : FinanceDb) (approvalId : Id) (b : LateRefundBridge)
    (a : SettlementRefundAdjustment) : Prop where
  refundLedger_eq : a.refundFinanceLedgerEntryId = b.refundFinanceLedgerEntryId
  refundRecord_eq : a.refundRecordId = b.refundRecordId
  approval_eq : a.originalSettlementApprovalId = some approvalId
  original_pos : 0 < a.originalAmountMinor
  vendor : ∃ e, db.findLedger b.refundFinanceLedgerEntryId = some e ∧ e.vendorId = a.vendorId

/-- One bridge creates its adjustment, when the refund has none. -/
lemma bridgeLateRefund_ok {approvalId : Id} {now : Instant} {p : Id × LateRefundBridge}
    (hfree : ∀ a ∈ db.settlementRefundAdjustment,
      a.refundFinanceLedgerEntryId ≠ p.2.refundFinanceLedgerEntryId)
    (h : bridgeLateRefund approvalId now db p = .ok db') :
    ∃ a, IsBridgeAdjustment db approvalId p.2 a ∧
      db' = { db with settlementRefundAdjustment := db.settlementRefundAdjustment ++ [a] } := by
  simp only [bridgeLateRefund, bind_eq_ok, require_eq_ok, pure_eq_ok] at h
  obtain ⟨bridged, hcreate, _, ⟨-, hadjustment⟩, rfl⟩ := h
  have hnone : db.settlementRefundAdjustment.find? (fun a =>
      decide (a.refundFinanceLedgerEntryId = p.2.refundFinanceLedgerEntryId)) = none := by
    rw [List.find?_eq_none]
    intro a ha
    simpa using hfree a ha
  rcases createSettlementRefundAdjustmentForRefundLedger_ok hcreate with rfl | ⟨a, ha, -, -, rfl⟩
  · rw [hnone] at hadjustment
    cases hadjustment
  · refine ⟨a, ?_, rfl⟩
    rw [List.find?_append, hnone, Option.none_or, List.find?_singleton,
      if_pos (decide_eq_true ha.refundLedger_eq)] at hadjustment
    simp only [Option.any_some, Bool.and_eq_true, decide_eq_true_eq] at hadjustment
    obtain ⟨e, he, -, hvendor, -⟩ := ha.refund
    exact
      { refundLedger_eq := ha.refundLedger_eq
        refundRecord_eq := ha.refundRecord_eq
        approval_eq := hadjustment.1.1.1.1.1
        original_pos := ha.original_pos
        vendor := ⟨e, he, hvendor⟩ }

/-- **The loop over the bridges** creates one adjustment for each, in their order. -/
theorem bridgeLateRefunds_ok {approvalId : Id} {now : Instant}
    {bridges : List (Id × LateRefundBridge)}
    (hnodup : (bridges.map (·.2.refundFinanceLedgerEntryId)).Nodup)
    (hfree : ∀ p ∈ bridges, ∀ a ∈ db.settlementRefundAdjustment,
      a.refundFinanceLedgerEntryId ≠ p.2.refundFinanceLedgerEntryId)
    (h : bridges.foldlM (bridgeLateRefund approvalId now) db = .ok db') :
    ∃ new, new.map (·.refundFinanceLedgerEntryId) =
        bridges.map (·.2.refundFinanceLedgerEntryId) ∧
      (∀ a ∈ new, ∃ p ∈ bridges, IsBridgeAdjustment db approvalId p.2 a) ∧
      db' = { db with settlementRefundAdjustment := db.settlementRefundAdjustment ++ new } := by
  induction bridges generalizing db with
  | nil =>
      obtain rfl := foldlM_nil_eq_ok.mp h
      exact ⟨[], rfl, by simp, by rw [List.append_nil]⟩
  | cons p bridges ih =>
      obtain ⟨t, ht, h⟩ := foldlM_cons_eq_ok.mp h
      rw [List.map_cons, List.nodup_cons] at hnodup
      obtain ⟨a, ha, rfl⟩ := bridgeLateRefund_ok (hfree p List.mem_cons_self) ht
      have hrest : ∀ q ∈ bridges, ∀ x ∈ db.settlementRefundAdjustment ++ [a],
          x.refundFinanceLedgerEntryId ≠ q.2.refundFinanceLedgerEntryId := by
        intro q hq x hx
        rcases List.mem_append.mp hx with hx | hx
        · exact hfree q (List.mem_cons_of_mem _ hq) x hx
        · obtain rfl := List.mem_singleton.mp hx
          rw [ha.refundLedger_eq]
          intro heq
          exact hnodup.1 (List.mem_map.mpr ⟨q, hq, heq.symm⟩)
      obtain ⟨new, hids, hnew, rfl⟩ := ih hnodup.2 hrest h
      refine ⟨a :: new, ?_, ?_, by simp⟩
      · rw [List.map_cons, List.map_cons, hids, ha.refundLedger_eq]
      · rw [List.forall_mem_cons]
        refine ⟨⟨p, List.mem_cons_self, ha⟩, fun x hx => ?_⟩
        obtain ⟨q, hq, hqx⟩ := hnew x hx
        exact ⟨q, List.mem_cons_of_mem _ hq, hqx.refundLedger_eq, hqx.refundRecord_eq,
          hqx.approval_eq, hqx.original_pos, hqx.vendor⟩

/-! ## What the approval writes -/

/-- What the approval of a replacement has checked and written.  `new` are the adjustments that
it created. -/
structure WritesReplacement (db db' : FinanceDb) (existing original : SettlementApproval)
    (cutoff : Instant) (new : List SettlementRefundAdjustment) : Prop where
  authority : db.ReplacementAuthority existing original cutoff
  adjustments : db'.settlementRefundAdjustment = db.settlementRefundAdjustment ++ new
  free : ∀ a ∈ db.settlementRefundAdjustment, a.refundFinanceLedgerEntryId ∉
    db.lateRefundLedgerIds (db.saleLedgerIds existing.id) cutoff
  refunds : new.map (·.refundFinanceLedgerEntryId) =
    db.lateRefundLedgerIds (db.saleLedgerIds existing.id) cutoff
  origins : ∀ a ∈ new, a.originalSettlementApprovalId = some existing.id ∧
    a.vendorId = existing.vendorId ∧ 0 < a.originalAmountMinor ∧
      ∃ p ∈ db.lateRefundSnapshots (db.saleLedgerIds existing.id) cutoff,
        p.1.id = a.refundFinanceLedgerEntryId ∧ p.2.refundFinanceLedgerEntryId = p.1.id ∧
          p.2.refundRecordId = a.refundRecordId ∧
            p.2.historicalEconomicVendorId = existing.vendorId

lemma bridgeIds_eq (firstId : Id) (snapshots : List (FinanceLedgerEntry × RefundEvidenceSnapshot)) :
    (withIds Prod.mk firstId (bridgesOf snapshots)).map (·.2.refundFinanceLedgerEntryId) =
      snapshots.map (·.1.id) := by
  rw [map_withIds (g := fun p : Id × LateRefundBridge => p.2.refundFinanceLedgerEntryId)
    (k := (·.refundFinanceLedgerEntryId)) (fun _ _ => rfl), bridgesOf, List.map_map]
  rfl

/-- **The approval of a replacement** creates exactly one adjustment for each late refund. -/
theorem executeCanonicalSettlementApproval_replacement {id firstAdjustmentId originalId : Id}
    {now : Instant} {existing : SettlementApproval} (h : db.Integrity)
    (hfind : db.findApproval id = some existing)
    (hreplaces : existing.replacesSettlementApprovalId = some originalId)
    (hs : db.executeCanonicalSettlementApproval id firstAdjustmentId now = .ok db') :
    ∃ original cutoff new, original.id = originalId ∧
      db.WritesReplacement db' existing original cutoff new := by
  unfold executeCanonicalSettlementApproval at hs
  simp only [hfind, getOrThrow, bind_eq_ok, require_eq_ok, hreplaces, Except.ok.injEq,
    exists_eq_left'] at hs
  obtain ⟨-, -, bridges, hchecked, -, -, -, -, hloop⟩ := hs
  obtain rfl : existing.id = id := key_of_findRow hfind
  obtain ⟨original, cutoff, rfl, hauthority, rfl⟩ := assertReplacementAuthority_ok hchecked
  have hfacts : ∀ p ∈ db.lateRefundSnapshots (db.saleLedgerIds existing.id) cutoff,
      p.2.historicalEconomicVendorId = existing.vendorId ∧ p.1.vendorId = existing.vendorId ∧
        p.1.id = p.2.refundFinanceLedgerEntryId ∧
          ∀ a ∈ db.settlementRefundAdjustment, a.refundFinanceLedgerEntryId ≠ p.1.id := by
    intro p hp
    obtain ⟨allocationIds, conflicted, hv⟩ := hauthority.verified p hp
    exact lateRefundIsVerified_facts hv
  have hfree : ∀ a ∈ db.settlementRefundAdjustment, a.refundFinanceLedgerEntryId ∉
      db.lateRefundLedgerIds (db.saleLedgerIds existing.id) cutoff := by
    intro a ha hmem
    obtain ⟨p, hp, heq⟩ := List.mem_map.mp hmem
    exact (hfacts p hp).2.2.2 a ha heq.symm
  have hids := bridgeIds_eq firstAdjustmentId
    (db.lateRefundSnapshots (db.saleLedgerIds existing.id) cutoff)
  have hnodup := nodup_lateRefundLedgerIds h.ledger_key (db.saleLedgerIds existing.id) cutoff
  unfold lateRefundLedgerIds at hnodup
  rw [← hids] at hnodup
  have hunbridged : ∀ q ∈ withIds Prod.mk firstAdjustmentId
      (bridgesOf (db.lateRefundSnapshots (db.saleLedgerIds existing.id) cutoff)),
      ∀ a ∈ (db.markApproved existing.id now).settlementRefundAdjustment,
        a.refundFinanceLedgerEntryId ≠ q.2.refundFinanceLedgerEntryId := by
    intro q hq a ha heq
    refine hfree a ha ?_
    rw [heq]
    unfold lateRefundLedgerIds
    rw [← hids]
    exact List.mem_map_of_mem hq
  obtain ⟨new, hrefunds, hnew, rfl⟩ := bridgeLateRefunds_ok hnodup hunbridged hloop
  refine ⟨original, cutoff, new, rfl, hauthority, rfl, hfree, hrefunds.trans hids, fun a ha => ?_⟩
  obtain ⟨q, hq, hqa⟩ := hnew a ha
  obtain ⟨b, hb, i, -, rfl⟩ := mem_withIds hq
  obtain ⟨p, hp, rfl⟩ := List.mem_map.mp hb
  obtain ⟨hvendor, hrefundVendor, hid, -⟩ := hfacts p hp
  obtain ⟨e, he, hea⟩ := hqa.vendor
  have hrow : db.findLedger p.1.id = some p.1 :=
    findRow_of_mem h.ledger_key (mem_lateRefundSnapshots.mp hp).1
  obtain rfl : p.1 = e := Option.some.inj (hrow.symm.trans he)
  exact ⟨hqa.approval_eq, hea.symm.trans hrefundVendor, hqa.original_pos, p, hp,
    hqa.refundLedger_eq.symm, hid.symm, hqa.refundRecord_eq.symm, hvendor⟩

/-! ## The obligations of an approved replacement -/

/-- The evidence of an adjustment's refund names the same refund and the same vendor. -/
def HasEvidence (db : FinanceDb) (a : SettlementRefundAdjustment) : Prop :=
  ∃ e ∈ db.financeLedgerEntry, ∃ s, e.refundEvidenceSnapshot = some s ∧
    s.refundFinanceLedgerEntryId = a.refundFinanceLedgerEntryId ∧
      s.refundRecordId = a.refundRecordId ∧ s.historicalEconomicVendorId = a.vendorId

/-- Each frozen late refund of the settlement has an adjustment that belongs to the settlement,
and the evidence of the refund agrees with it. -/
structure LateRefundsBridged (db : FinanceDb) (s : SettlementApproval) : Prop where
  nodup : s.lateRefundLedgerIds.Nodup
  bridged : ∀ i ∈ s.lateRefundLedgerIds, ∃ a ∈ db.settlementRefundAdjustment,
    a.refundFinanceLedgerEntryId = i ∧ a.originalSettlementApprovalId = some s.id ∧
      a.vendorId = s.vendorId ∧ 0 < a.originalAmountMinor ∧ db.HasEvidence a

lemma HasEvidence.mono {a a' : SettlementRefundAdjustment} (h : db.HasEvidence a)
    (hk : db.KeepsRefunds db') (ha : a'.origin = a.origin) : db'.HasEvidence a' := by
  obtain ⟨e, he, s, hs, hledger, hrecord, hvendor⟩ := h
  obtain ⟨e', he', hevidence⟩ := hk.ledger he
  simp only [SettlementRefundAdjustment.origin, Prod.mk.injEq] at ha
  simp only [FinanceLedgerEntry.evidence, Prod.mk.injEq] at hevidence
  exact ⟨e', he', s, hevidence.2.trans hs, hledger.trans ha.2.1.symm,
    hrecord.trans ha.2.2.1.symm, hvendor.trans ha.2.2.2.1.symm⟩

/-- The obligations stay. -/
theorem LateRefundsBridged.mono {s : SettlementApproval} (h : db.LateRefundsBridged s)
    (hk : db.KeepsRefunds db') : db'.LateRefundsBridged s := by
  refine ⟨h.nodup, fun i hi => ?_⟩
  obtain ⟨a, ha, hid, happroval, hvendor, hpos, hevidence⟩ := h.bridged i hi
  obtain ⟨a', ha', horigin⟩ := hk.adjustment ha
  have hevidence' := hevidence.mono hk horigin
  simp only [SettlementRefundAdjustment.origin, Prod.mk.injEq] at horigin
  obtain ⟨-, hledger, -, hvendor', happroval', hamount⟩ := horigin
  exact ⟨a', ha', hledger.trans hid, happroval'.trans happroval, hvendor'.trans hvendor,
    hamount ▸ hpos, hevidence'⟩

/-- The approval of a replacement meets its obligations. -/
theorem WritesReplacement.lateRefundsBridged {existing original : SettlementApproval}
    {cutoff : Instant} {new : List SettlementRefundAdjustment} (h : db.Integrity)
    (hw : db.WritesReplacement db' existing original cutoff new) (hk : db.KeepsRefunds db') :
    db'.LateRefundsBridged existing := by
  have hperm := hw.authority.frozen
  refine ⟨hperm.nodup_iff.mpr (nodup_lateRefundLedgerIds h.ledger_key _ _), fun i hi => ?_⟩
  have hmem := hperm.mem_iff.mp hi
  rw [← hw.refunds] at hmem
  obtain ⟨a, ha, rfl⟩ := List.mem_map.mp hmem
  obtain ⟨happroval, hvendor, hpos, p, hp, hrow, hown, hrecord, heconomic⟩ := hw.origins a ha
  have hevidence : db.HasEvidence a := by
    obtain ⟨hledger, hsnapshot, -⟩ := mem_lateRefundSnapshots.mp hp
    exact ⟨p.1, hledger, p.2, hsnapshot, hown.trans hrow, hrecord, heconomic.trans hvendor.symm⟩
  refine ⟨a, ?_, rfl, happroval, hvendor, hpos, hevidence.mono hk rfl⟩
  rw [hw.adjustments]
  exact List.mem_append_right _ ha

/-! ## Every run -/

lemma linesOf_sourceKeys (db : FinanceDb) (id : Id) : (db.linesOf id).map sourceKey =
    ((db.settlementApprovalLine.map (·.content)).filter fun x =>
      decide (x.2.1 = id)).map fun x => x.2.2 := by
  unfold linesOf
  rw [List.filter_map, List.map_map]
  rfl

/-- The replacement `s` settles what its cancelled original had settled, and the refunds that came
late have their adjustments. -/
structure Resettles (db : FinanceDb) (s : SettlementApproval) (originalId : Id) : Prop where
  original : ∃ o ∈ db.settlementApproval, o.id = originalId ∧ o.status = .cancelled ∧
    o.vendorId = s.vendorId
  sources : ((db.linesOf originalId).map sourceKey).Perm ((db.linesOf s.id).map sourceKey)
  lateRefunds : db.LateRefundsBridged s

structure ReplacementsSound (db : FinanceDb) : Prop where
  once : ∀ s ∈ db.settlementApproval, ∀ t ∈ db.settlementApproval, ∀ i,
    s.replacesSettlementApprovalId = some i → t.replacesSettlementApprovalId = some i → s = t
  resettles : ∀ s ∈ db.settlementApproval, s.HistoricallyApproved → ∀ i,
    s.replacesSettlementApprovalId = some i → db.Resettles s i

/-- What a settlement's row keeps. -/
def identity (s : SettlementApproval) : Id × Id × List Id × Option Id :=
  (s.id, s.vendorId, s.lateRefundLedgerIds, s.replacesSettlementApprovalId)

lemma Resettles.mono {s s' : SettlementApproval} {i : Id} (h : db.Resettles s i)
    (hs : s ∈ db.settlementApproval) (hsame : identity s' = identity s) (hk : db.KeepsRefunds db')
    (hcancelled : ∀ o ∈ db.settlementApproval, o.status = .cancelled → o ∈ db'.settlementApproval ∨
      ∃ o' ∈ db'.settlementApproval, o'.status = .cancelled ∧ identity o' = identity o)
    (hlines : ∀ t ∈ db.settlementApproval,
      (db'.linesOf t.id).map sourceKey = (db.linesOf t.id).map sourceKey) : db'.Resettles s' i := by
  simp only [identity, Prod.mk.injEq] at hsame hcancelled
  obtain ⟨hid, hvendor, hlate, -⟩ := hsame
  obtain ⟨o, ho, rfl, hstatus, hvendorOf⟩ := h.original
  refine ⟨?_, ?_, ?_⟩
  · rcases hcancelled o ho hstatus with hsame | ⟨o', ho', hstatus', hid', hvendor', -⟩
    · exact ⟨o, hsame, rfl, hstatus, hvendorOf.trans hvendor.symm⟩
    · exact ⟨o', ho', hid', hstatus', hvendor'.trans (hvendorOf.trans hvendor.symm)⟩
  · rw [hid, hlines o ho, hlines s hs]
    exact h.sources
  · obtain ⟨hnodup, hbridged⟩ := h.lateRefunds.mono hk
    rw [← hlate] at hnodup hbridged
    rw [← hid, ← hvendor] at hbridged
    exact ⟨hnodup, hbridged⟩

/-- A transaction that rewrites rows of settlements, and approves none. -/
lemma ReplacementsSound.rewrite {p : SettlementApproval → Bool}
    {f : SettlementApproval → SettlementApproval} (h : db.ReplacementsSound)
    (hk : db.KeepsRefunds db') (hf : ∀ s, identity (f s) = identity s)
    (hcancelled : ∀ s ∈ db.settlementApproval, s.status = .cancelled → p s = true →
      (f s).status = .cancelled)
    (happrovals : db'.settlementApproval = updateWhere p f db.settlementApproval)
    (hlines : db'.settlementApprovalLine.map (·.content) =
      db.settlementApprovalLine.map (·.content))
    (hnew : ∀ s ∈ db.settlementApproval, p s = true → (f s).HistoricallyApproved →
      ∀ i, s.replacesSettlementApprovalId = some i →
        s.HistoricallyApproved ∨ db'.Resettles (f s) i) : db'.ReplacementsSound := by
  have hrow : ∀ s, identity (if p s = true then f s else s) = identity s := by
    intro s
    split
    · exact hf s
    · rfl
  have hreplaces : ∀ s, (if p s = true then f s else s).replacesSettlementApprovalId =
      s.replacesSettlementApprovalId := fun s => congrArg (·.2.2.2) (hrow s)
  have hkept : ∀ s ∈ db.settlementApproval, ∀ i, db.Resettles s i →
      db'.Resettles (if p s = true then f s else s) i := by
    intro s hs i hresettles
    refine hresettles.mono hs (hrow s) hk (fun o ho hstatus => Or.inr ?_) fun t _ => ?_
    · refine ⟨if p o = true then f o else o, ?_, ?_, hrow o⟩
      · rw [happrovals]
        exact mem_updateWhere.mpr ⟨o, ho, rfl⟩
      · split
        · rename_i hp
          exact hcancelled o ho hstatus hp
        · exact hstatus
    · rw [linesOf_sourceKeys, linesOf_sourceKeys, hlines]
  refine ⟨?_, ?_⟩
  · intro s' hs' t' ht' i hsi hti
    rw [happrovals] at hs' ht'
    obtain ⟨s, hs, rfl⟩ := mem_updateWhere.mp hs'
    obtain ⟨t, ht, rfl⟩ := mem_updateWhere.mp ht'
    rw [hreplaces] at hsi hti
    rw [h.once s hs t ht i hsi hti]
  · intro s' hs' happroved i hi
    rw [happrovals] at hs'
    obtain ⟨s, hs, rfl⟩ := mem_updateWhere.mp hs'
    rw [hreplaces] at hi
    by_cases hp : p s = true
    · rw [if_pos hp] at happroved ⊢
      rcases hnew s hs hp happroved i hi with hbefore | hresettles
      · have hsame := hkept s hs i (h.resettles s hs hbefore i hi)
        rwa [if_pos hp] at hsame
      · exact hresettles
    · rw [if_neg hp] at happroved
      exact hkept s hs i (h.resettles s hs happroved i hi)

/-- A new draft is no replacement that was approved, and no second replacement of its original. -/
lemma ReplacementsSound.createDraftApproval {input : SettlementApprovalInput} {ids : DraftIds}
    (h : db.ReplacementsSound) (hw : db.WritesDraft db' input ids) : db'.ReplacementsSound := by
  obtain ⟨totals, happrovals⟩ := hw.approvals
  obtain ⟨new, hlines, hown⟩ := hw.lines
  have hsame : ∀ t ∈ db.settlementApproval,
      (db'.linesOf t.id).map sourceKey = (db.linesOf t.id).map sourceKey := by
    intro t ht
    have hnil : new.filter (fun x => decide (x.2.1 = t.id)) = [] :=
      List.filter_eq_nil_iff.mpr fun x hx => by
        rw [hown x hx]
        simpa using (hw.fresh t ht).symm
    rw [linesOf_sourceKeys, linesOf_sourceKeys, hlines, List.filter_append, hnil, List.append_nil]
  have hdraft : (draftApprovalRow ids.approvalId input totals).replacesSettlementApprovalId =
      input.replacementAudit.map (·.originalSettlementApprovalId) := rfl
  refine ⟨?_, ?_⟩
  · intro s hs t ht i hsi hti
    rw [happrovals] at hs ht
    rcases List.mem_append.mp hs with hs | hs
    · rcases List.mem_append.mp ht with ht | ht
      · exact h.once s hs t ht i hsi hti
      · obtain rfl := List.mem_singleton.mp ht
        exact absurd (hdraft.symm.trans hti) (hw.predecessor s hs i hsi)
    · obtain rfl := List.mem_singleton.mp hs
      rcases List.mem_append.mp ht with ht | ht
      · exact absurd (hdraft.symm.trans hsi) (hw.predecessor t ht i hti)
      · exact (List.mem_singleton.mp ht).symm
  · intro s hs happroved i hi
    rw [happrovals] at hs
    rcases List.mem_append.mp hs with hs | hs
    · refine (h.resettles s hs happroved i hi).mono hs rfl hw.toKeepsRefunds (fun o ho _ => ?_) hsame
      rw [happrovals]
      exact Or.inl (List.mem_append_left _ ho)
    · obtain rfl := List.mem_singleton.mp hs
      rcases happroved with happroved | ⟨hcancelled, -⟩
      · cases happroved
      · cases hcancelled

/-- An approval that marks a replacement makes it settle what its original had settled. -/
lemma ReplacementsSound.executeCanonicalSettlementApproval {id firstAdjustmentId : Id}
    {now : Instant} (h : db.ReplacementsSound) (hi : db.Integrity)
    (hs : db.executeCanonicalSettlementApproval id firstAdjustmentId now = .ok db') :
    db'.ReplacementsSound := by
  have hw := executeCanonicalSettlementApproval_writes hs
  obtain ⟨existing, hfind, hdraft⟩ := hw.existing
  obtain rfl : existing.id = id := key_of_findRow hfind
  have hmem : existing ∈ db.settlementApproval := mem_of_findRow hfind
  have hlines : db'.settlementApprovalLine.map (·.content) =
      db.settlementApprovalLine.map (·.content) := by rw [hw.lines]
  have hrow : ∀ s ∈ db.settlementApproval, decide (s.id = existing.id) = true → s = existing :=
    fun s hs hp => hi.approval_key.eq hs hmem (of_decide_eq_true hp)
  refine h.rewrite (f := approvedRow now) hw.toKeepsRefunds (fun _ => rfl) ?_ hw.approvals hlines ?_
  · intro s hsmem hcancelled hp
    obtain rfl := hrow s hsmem hp
    rw [hdraft] at hcancelled
    cases hcancelled
  · intro s hsmem hp _ i hreplaces
    obtain rfl := hrow s hsmem hp
    obtain ⟨original, cutoff, new, rfl, hwrites⟩ :=
      executeCanonicalSettlementApproval_replacement hi hfind hreplaces hs
    obtain ⟨hnodup, hbridged⟩ := hwrites.lateRefundsBridged hi hw.toKeepsRefunds
    refine Or.inr ⟨⟨original, ?_, rfl, hwrites.authority.cancelled, hwrites.authority.vendor⟩, ?_,
      hnodup, hbridged⟩
    · -- the original is cancelled, so it is not the draft that is approved
      have hne : ¬decide (original.id = s.id) = true := by
        intro hid
        have hsame := hrow original (mem_of_findRow hwrites.authority.found) hid
        rw [← hsame, hwrites.authority.cancelled] at hdraft
        cases hdraft
      rw [hw.approvals]
      exact mem_updateWhere.mpr ⟨original, mem_of_findRow hwrites.authority.found, by rw [if_neg hne]⟩
    · have hsources := hwrites.authority.sources
      rw [linesOf_sourceKeys, linesOf_sourceKeys] at hsources ⊢
      rw [hlines]
      exact hsources

lemma ReplacementsSound.cancelSettlementApproval {id : Id} (h : db.ReplacementsSound)
    (hi : db.Integrity) (hs : db.cancelSettlementApproval id = .ok db') :
    db'.ReplacementsSound := by
  have hw := cancelSettlementApproval_writes hi hs
  refine h.rewrite (f := cancelledRow) hw.toKeepsRefunds (fun _ => rfl) (fun _ _ _ _ => rfl)
    hw.approvals (by rw [hw.lines]) ?_
  intro s _ _ happroved i _
  rcases happroved with happroved | ⟨-, hfrom⟩
  · cases happroved
  · exact Or.inl (Or.inl (Option.some.inj hfrom))

end FinanceDb

open FinanceDb in
/-- **Replacements stay sound** over every transaction. -/
theorem FinanceDb.ReplacementsSound.step {db db' : FinanceDb} {a : Action}
    (h : db.ReplacementsSound) (hi : db.Integrity) (hs : step a db = .ok db') :
    db'.ReplacementsSound := by
  by_cases ha : a.keepsApprovals = true
  · have hk := KeepsHistory.step hi ha hs
    refine h.rewrite (p := fun _ => false) (f := id) hk.toKeepsRefunds (fun _ => rfl)
      (fun _ _ hstatus _ => hstatus) ?_ (by rw [hk.lines]) fun s _ hp => ?_
    · rw [hk.approvals, updateWhere_eq_self fun _ _ => rfl]
    · cases hp
  · cases a with
    | createDraftApproval input ids now =>
        exact h.createDraftApproval (createDraftApproval_writes hi hs)
    | approveSettlement id firstAdjustmentId now => exact h.executeCanonicalSettlementApproval hi hs
    | cancelSettlement id => exact h.cancelSettlementApproval hi hs
    | _ => exact absurd rfl ha

theorem ReachableDb.replacementsSound {db : FinanceDb} (h : ReachableDb db) :
    db.ReplacementsSound := by
  refine h.invariant (P := FinanceDb.ReplacementsSound) ⟨?_, ?_⟩ fun s a t hr hs _ hstep =>
    hs.step (ReachableDb.integrity hr) hstep
  · intro s hs
    cases hs
  · intro s hs
    cases hs

/-- **A replacement settles what its original had settled**: in every reachable state a settlement
has at most one replacement, and one that was approved has the lines of its cancelled original and
exactly one adjustment for each refund that was accepted after the cutoff. -/
theorem ReachableDb.replacement_resettles {db : FinanceDb} (h : ReachableDb db)
    {s : SettlementApproval} (hs : s ∈ db.settlementApproval) {originalId : Id}
    (hreplaces : s.replacesSettlementApprovalId = some originalId) :
    (∀ t ∈ db.settlementApproval, t.replacesSettlementApprovalId = some originalId → t = s) ∧
      (s.HistoricallyApproved → db.Resettles s originalId ∧
        ∀ i ∈ s.lateRefundLedgerIds, ∃! a, a ∈ db.settlementRefundAdjustment ∧
          a.refundFinanceLedgerEntryId = i) := by
  have hr := h.replacementsSound
  refine ⟨fun t ht hti => hr.once t ht s hs originalId hti hreplaces, fun happroved => ?_⟩
  have hresettles := hr.resettles s hs happroved originalId hreplaces
  refine ⟨hresettles, fun i hi => ?_⟩
  obtain ⟨a, ha, hid, -⟩ := hresettles.lateRefunds.bridged i hi
  exact ⟨a, ⟨ha, hid⟩, fun b hb =>
    h.integrity.adjustment_unique.eq hb.1 ha (hb.2.trans hid.symm)⟩

namespace LateReplacement

def originalInput : SettlementApprovalInput :=
  { TwoPayouts.draftInput with
    periodEnd := some 2
    asOfDate := some 2
    candidateScope := some .dateRange
    scheduledRunDate := some 0
    scheduledPeriodEnd := some 2
    scheduledCycleKey := some "scheduled" }

def replacementInput : SettlementApprovalInput :=
  { TwoPayouts.draftInput with
    periodEnd := some 2
    asOfDate := some 2
    candidateScope := some .dateRange
    replacementAudit := some ⟨1, [50]⟩ }

/-- The draft is cancelled, its sale is refunded, and the replacement is approved. -/
def approved : List Action :=
  [.recordSale (TwoPayouts.allocation 1) (TwoPayouts.sale 1),
    .createDraftApproval originalInput ⟨1, 10, 10, 10, 10⟩ 3, .cancelSettlement 1,
    .ingestRefund TwoPayouts.refund, .createDraftApproval replacementInput ⟨2, 20, 20, 20, 20⟩ 10,
    .approveSettlement 2 90 11]

end LateReplacement

theorem replacement_resettles_lateRefund : ∃ db, ReachableDb db ∧ ∃ s ∈ db.settlementApproval,
    s.status = .approved ∧ s.lateRefundLedgerIds = [50] ∧ db.Resettles s 1 := by
  have hrun : Succeeds (runActions step LateReplacement.approved FinanceDb.empty) fun db =>
      ∃ s ∈ db.settlementApproval, s.status = .approved ∧ s.lateRefundLedgerIds = [50] ∧
        s.replacesSettlementApprovalId = some 1 := by
    decide +kernel
  obtain ⟨db, hdb, s, hs, happroved, hlate, hreplaces⟩ := succeeds_iff.mp hrun
  have hreachable : ReachableDb db := reachableWith_of_runActions (fun _ _ _ => trivial) hdb
  have hresettles := ((hreachable.replacement_resettles hs hreplaces).2 (Or.inl happroved)).1
  exact ⟨db, hreachable, s, hs, happroved, hlate, hresettles⟩

end VendorDashboard.Finance

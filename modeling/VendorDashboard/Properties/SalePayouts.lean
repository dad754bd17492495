import VendorDashboard.Properties.ReplacementApproval

/-!
# A sale is paid once

At most one active settlement holds a sale (`FinanceDb.SalesSettledOnce`), an approved line is in at
most one uncancelled batch, and the settlements of a completed batch stay approved.  So at most one
completed batch pays a sale (`FinanceDb.completedLine_unique`), and the payout status of the sale's
ledger row is the one that this batch gave it (`FinanceDb.SalePayouts`).
-/

namespace VendorDashboard.Finance

open Run Table Transaction

/-- The payout status that a completed batch gives to its ledger rows. -/
def PayoutBatchStatus.gives : PayoutBatchStatus → Option PayoutStatus
  | .paid => some .paid
  | .cashlessCompleted => some .cashlessCompleted
  | _ => none

lemma PayoutBatchStatus.isCompleted_of_gives {s : PayoutBatchStatus} {p : PayoutStatus}
    (h : s.gives = some p) : s.isCompleted = true := by
  cases s <;> simp_all [gives, isCompleted]

lemma PayoutBatchStatus.eq_paid_of_gives {s : PayoutBatchStatus} (h : s.gives = some .paid) :
    s = .paid := by
  cases s <;> simp_all [gives]

lemma PayoutBatchStatus.eq_cashless_of_gives {s : PayoutBatchStatus}
    (h : s.gives = some .cashlessCompleted) : s = .cashlessCompleted := by
  cases s <;> simp_all [gives]

/-- What identifies a settlement line and its place. -/
def SettlementApprovalLine.place (l : SettlementApprovalLine) :
    Id × Id × Id × SettlementApprovalLineType :=
  (l.id, l.settlementApprovalId, l.financeLedgerEntryId, l.lineType)

namespace FinanceDb

/-- No two lines of active settlements hold one sale. -/
def SalesSettledOnce (db : FinanceDb) : Prop :=
  ∀ l ∈ db.settlementApprovalLine, ∀ m ∈ db.settlementApprovalLine, l.lineType = .sale →
    m.lineType = .sale → l.financeLedgerEntryId = m.financeLedgerEntryId →
    db.approvalIsActive l.settlementApprovalId = true →
    db.approvalIsActive m.settlementApprovalId = true → l.id = m.id

variable {db db' : FinanceDb}

/-! ## The settlements of a sale -/

/-- Lines stay in place, and no settlement becomes active. -/
lemma SalesSettledOnce.keeps (ho : db.SalesSettledOnce)
    (hlines : db'.settlementApprovalLine = db.settlementApprovalLine)
    (hactive : ∀ i, db'.approvalIsActive i = true → db.approvalIsActive i = true) :
    db'.SalesSettledOnce := by
  intro l hl m hm htype htype' hledger hl' hm'
  rw [hlines] at hl hm
  exact ho l hl m hm htype htype' hledger (hactive _ hl') (hactive _ hm')

lemma approvalIsActive_of_updateWhere {p : SettlementApproval → Bool}
    {f : SettlementApproval → SettlementApproval} (hid : ∀ a, (f a).id = a.id)
    (hf : ∀ a ∈ db.settlementApproval, p a = true → a.status ≠ .cancelled)
    (happrovals : db'.settlementApproval = updateWhere p f db.settlementApproval) {i : Id}
    (h : db'.approvalIsActive i = true) : db.approvalIsActive i = true := by
  obtain ⟨a', ha', hstatus⟩ := approvalIsActive_iff.mp h
  unfold findApproval at ha'
  rw [happrovals] at ha'
  unfold updateWhere at ha'
  rw [findRow_map (fun a => by
    show (if p a = true then f a else a).id = a.id
    split
    · exact hid a
    · rfl)] at ha'
  obtain ⟨a, ha, rfl⟩ := Option.map_eq_some_iff.mp ha'
  refine approvalIsActive_iff.mpr ⟨a, ha, ?_⟩
  by_cases hp : p a = true
  · exact hf a (mem_of_findRow ha) hp
  · rwa [if_neg hp] at hstatus

/-- A draft takes sales that no active settlement holds. -/
lemma SalesSettledOnce.createDraftApproval {input : SettlementApprovalInput} {ids : DraftIds}
    {now : Instant} (ho : db.SalesSettledOnce) (h : db.Integrity)
    (hs : db.createDraftApprovalInTransaction input ids now = .ok db') : db'.SalesSettledOnce := by
  have h' := h.createDraftApproval hs
  obtain ⟨preview, plans, approval, _, _, lineOf, -, -, -, hfree, hrow, hkey, -, hunique, -, -, rfl⟩ :=
    createDraftApprovalInTransaction_ok h.adjustment_key h.application_key hs
  have hplaces := map_linkPlans (g := SettlementApprovalLine.place) (fun _ _ => rfl) lineOf
    (withIds Prod.mk ids.firstApplicationId plans)
    (db.settlementApprovalLine ++ draftLineRows ids preview plans)
  -- linking keeps each line in its place
  have hplace : ∀ l ∈ linkPlans lineOf (withIds Prod.mk ids.firstApplicationId plans)
      (db.settlementApprovalLine ++ draftLineRows ids preview plans),
      ∃ x ∈ db.settlementApprovalLine ++ draftLineRows ids preview plans, x.place = l.place := by
    intro l hl
    have hmem : l.place ∈ (db.settlementApprovalLine ++ draftLineRows ids preview plans).map
        SettlementApprovalLine.place := hplaces ▸ List.mem_map_of_mem hl
    exact List.mem_map.mp hmem
  have hactive : ∀ x ∈ db.settlementApprovalLine, ∀ approvals,
      (∃ a, approvals = db.settlementApproval ++ [a]) → KeyUnique SettlementApproval.id approvals →
      (findRow SettlementApproval.id x.settlementApprovalId approvals).any (fun a =>
        isActiveSettlementApprovalStatus a.status) = true →
      db.approvalIsActive x.settlementApprovalId = true := by
    rintro x hx _ ⟨a, rfl⟩ hkey hx'
    obtain ⟨y, hy, hid⟩ := h.line_approval x hx
    rw [← hid] at hx' ⊢
    rw [findRow_of_mem hkey (List.mem_append_left _ hy)] at hx'
    unfold approvalIsActive findApproval
    rw [findRow_of_mem h.approval_key hy]
    exact hx'
  -- a sale of the draft is in no active settlement
  have hnew : ∀ x ∈ db.settlementApprovalLine, ∀ y ∈ draftLineRows ids preview plans,
      y.lineType = .sale → x.financeLedgerEntryId = y.financeLedgerEntryId →
      db.approvalIsActive x.settlementApprovalId = false := by
    intro x hx y hy htype hledger
    refine hfree x hx ?_
    rw [hledger]
    obtain ⟨i, ⟨d, hd, rfl⟩ | ⟨p, -, rfl⟩⟩ := mem_draftLineRows hy
    · exact List.mem_map_of_mem hd
    · cases htype
  intro l hl m hm htype htype' hledger hl' hm'
  obtain ⟨x, hx, hxl⟩ := hplace l hl
  obtain ⟨y, hy, hym⟩ := hplace m hm
  simp only [SettlementApprovalLine.place, Prod.mk.injEq] at hxl hym
  obtain ⟨hxid, hxa, hxe, hxt⟩ := hxl
  obtain ⟨hyid, hya, hye, hyt⟩ := hym
  rw [← hxid, ← hyid]
  rw [← hxt] at htype
  rw [← hyt] at htype'
  rw [← hxe, ← hye] at hledger
  rw [← hxa] at hl'
  rw [← hya] at hm'
  rcases List.mem_append.mp hx with hxold | hxnew
  · have hxactive := hactive x hxold _ ⟨approval, rfl⟩ hkey hl'
    rcases List.mem_append.mp hy with hyold | hynew
    · have hyactive := hactive y hyold _ ⟨approval, rfl⟩ hkey hm'
      exact ho x hxold y hyold htype htype' hledger hxactive hyactive
    · rw [hnew x hxold y hynew htype' hledger] at hxactive
      cases hxactive
  · rcases List.mem_append.mp hy with hyold | hynew
    · have hyactive := hactive y hyold _ ⟨approval, rfl⟩ hkey hm'
      rw [hnew y hyold x hxnew htype hledger.symm] at hyactive
      cases hyactive
    · have hown : ∀ z ∈ draftLineRows ids preview plans, z.settlementApprovalId = ids.approvalId := by
        intro z hz
        obtain ⟨i, ⟨d, -, rfl⟩ | ⟨p, -, rfl⟩⟩ := mem_draftLineRows hz
        · rfl
        · rfl
      have hsame : x = y := hunique.eq hx hy (by
        simp only [hown x hxnew, hown y hynew, hledger])
      rw [hsame]

lemma SalesSettledOnce.executeCanonicalSettlementApproval {id firstAdjustmentId : Id}
    {now : Instant} (ho : db.SalesSettledOnce) (h : db.Integrity)
    (hs : db.executeCanonicalSettlementApproval id firstAdjustmentId now = .ok db') :
    db'.SalesSettledOnce := by
  have hwrites := executeCanonicalSettlementApproval_writes hs
  obtain ⟨existing, hfind, hdraft⟩ := hwrites.existing
  refine ho.keeps hwrites.lines fun i hi =>
    approvalIsActive_of_updateWhere (f := approvedRow now) (fun _ => rfl) ?_ hwrites.approvals hi
  intro a ha hid
  have hsame : a = existing := h.approval_key.eq ha (mem_of_findRow hfind)
    ((of_decide_eq_true hid).trans (key_of_findRow hfind).symm)
  rw [hsame, hdraft]
  decide

lemma SalesSettledOnce.cancelSettlementApproval {id : Id} (ho : db.SalesSettledOnce)
    (h : db.Integrity) (hs : db.cancelSettlementApproval id = .ok db') : db'.SalesSettledOnce := by
  have hwrites := cancelSettlementApproval_writes h hs
  obtain ⟨existing, hfind, hstatus⟩ := hwrites.existing
  refine ho.keeps hwrites.lines fun i hi =>
    approvalIsActive_of_updateWhere (f := cancelledRow) (fun _ => rfl) ?_ hwrites.approvals hi
  intro a ha hid
  have hsame : a = existing := h.approval_key.eq ha (mem_of_findRow hfind)
    ((of_decide_eq_true hid).trans (key_of_findRow hfind).symm)
  rw [hsame]
  exact hstatus

theorem SalesSettledOnce.step {a : Action} (ho : db.SalesSettledOnce) (h : db.Integrity)
    (hs : Finance.step a db = .ok db') : db'.SalesSettledOnce := by
  by_cases ha : a.keepsApprovals = true
  · have hhistory := KeepsHistory.step h ha hs
    refine ho.keeps hhistory.lines fun i hi => ?_
    unfold approvalIsActive findApproval at hi ⊢
    rwa [hhistory.approvals] at hi
  · cases a with
    | createDraftApproval input ids now => exact ho.createDraftApproval h hs
    | approveSettlement id firstAdjustmentId now =>
        exact ho.executeCanonicalSettlementApproval h hs
    | cancelSettlement id => exact ho.cancelSettlementApproval h hs
    | _ => exact absurd rfl ha

/-! ## The payouts of a sale -/

/-- At most one line of a completed batch pays a sale. -/
theorem completedLine_unique (hb : db.PayoutBooks) (h : db.Integrity) (ho : db.SalesSettledOnce)
    {b c : PayoutBatch} (hbmem : b ∈ db.payoutBatch) (hcmem : c ∈ db.payoutBatch)
    (hbdone : b.status.isCompleted = true) (hcdone : c.status.isCompleted = true)
    {l m : PayoutBatchLine} (hl : l ∈ db.batchLinesOf b.id) (hm : m ∈ db.batchLinesOf c.id)
    (hledger : l.financeLedgerEntryId = m.financeLedgerEntryId)
    {e : FinanceLedgerEntry} (he : e ∈ db.financeLedgerEntry) (hid : e.id = l.financeLedgerEntryId)
    (hsale : e.entryType = .sale) : l = m := by
  -- the settlement line behind a completed payout line of the sale
  have hline : ∀ {x : PayoutBatch} {k : PayoutBatchLine}, x ∈ db.payoutBatch →
      x.status.isCompleted = true → k ∈ db.batchLinesOf x.id → k.financeLedgerEntryId = e.id →
      ∃ s ∈ db.settlementApprovalLine, k.settlementApprovalLineId = some s.id ∧
        s.lineType = .sale ∧ s.financeLedgerEntryId = e.id ∧
        db.approvalIsActive s.settlementApprovalId = true ∧
        db.batchIsActive k.payoutBatchId = true := by
    intro x k hx hdone hk hke
    obtain ⟨hkmem, hkx⟩ := List.mem_filter.mp hk
    obtain ⟨s, hsmem, hkid, hsledger⟩ := h.batchLine_line k hkmem
    obtain ⟨t, ht, happroved⟩ := hb.completed x hx hdone k hk
    obtain rfl : s = t := by
      unfold settlementLineOf at ht
      rw [hkid, Option.bind_some] at ht
      exact Option.some.inj ((findRow_of_mem h.line_key hsmem).symm.trans ht)
    obtain ⟨f, hf, hfid, hfits⟩ := h.line_ledger s hsmem
    obtain rfl : f = e := h.ledger_key.eq hf he (hfid.trans (hsledger.trans hke))
    refine ⟨s, hsmem, hkid, ?_, hfid.symm, approvalIsActive_of_approved happroved, ?_⟩
    · unfold SettlementApprovalLine.Fits at hfits
      cases htype : s.lineType with
      | sale => rfl
      | refund =>
          rw [htype, hsale] at hfits
          cases hfits.1
      | refundAdjustment =>
          rw [htype, hsale] at hfits
          cases hfits
    · refine batchIsActive_iff.mpr ⟨x, ?_, ?_⟩
      · rw [of_decide_eq_true hkx]
        exact findRow_of_mem h.batch_key hx
      · intro hcancelled
        rw [hcancelled] at hdone
        cases hdone
  obtain ⟨s, hs, hlid, hstype, hse, hsactive, hlactive⟩ := hline hbmem hbdone hl hid.symm
  obtain ⟨t, ht, hmid, httype, hte, htactive, hmactive⟩ :=
    hline hcmem hcdone hm (hledger.symm.trans hid.symm)
  have hsame : s.id = t.id := ho s hs t ht hstype httype (hse.trans hte.symm) hsactive htactive
  exact hb.exclusive l (List.mem_filter.mp hl).1 m (List.mem_filter.mp hm).1
    (by rw [hlid, hmid, hsame]) hlactive hmactive

/-- The payout status of a sale is the one that the batch that completed it gave. -/
structure SalePayouts (db : FinanceDb) : Prop where
  given : ∀ b ∈ db.payoutBatch, ∀ p, b.status.gives = some p → ∀ l ∈ db.batchLinesOf b.id,
    ∀ e ∈ db.financeLedgerEntry, e.id = l.financeLedgerEntryId → e.entryType = .sale →
      e.payoutStatus = p
  source : ∀ e ∈ db.financeLedgerEntry, e.entryType = .sale →
    e.payoutStatus = .paid ∨ e.payoutStatus = .cashlessCompleted →
    ∃ b ∈ db.payoutBatch, b.status.gives = some e.payoutStatus ∧ ∃ l ∈ db.batchLinesOf b.id,
      l.financeLedgerEntryId = e.id

/-- The completed batches with their lines are the same, and new sales are pending. -/
structure KeepsCompletions (db db' : FinanceDb) : Prop where
  batches : ∀ b, b.status.gives ≠ none → (b ∈ db'.payoutBatch ↔ b ∈ db.payoutBatch)
  lines : ∀ b ∈ db.payoutBatch, b.status.gives ≠ none → db'.batchLinesOf b.id = db.batchLinesOf b.id
  ledger : ∃ new, db'.financeLedgerEntry = db.financeLedgerEntry ++ new ∧
    ∀ e ∈ new, e.entryType = .sale → e.payoutStatus = .pending

lemma SalePayouts.keeps (hp : db.SalePayouts) (h : db.Integrity) (h' : db'.Integrity)
    (hk : db.KeepsCompletions db') : db'.SalePayouts := by
  obtain ⟨new, hledger, hpending⟩ := hk.ledger
  refine ⟨?_, ?_⟩
  · intro b hb p hgives l hl e he hid hsale
    have hne : b.status.gives ≠ none := by
      rw [hgives]
      exact Option.some_ne_none p
    have hbold := (hk.batches b hne).mp hb
    rw [hk.lines b hbold hne] at hl
    -- the line's row was there before
    obtain ⟨s, hs, -, hsledger⟩ := h.batchLine_line l (List.mem_filter.mp hl).1
    obtain ⟨f, hf, hfid, -⟩ := h.line_ledger s hs
    have hsame : e = f := by
      refine h'.ledger_key.eq he ?_ (hid.trans (hsledger.symm.trans hfid.symm))
      rw [hledger]
      exact List.mem_append_left _ hf
    exact hp.given b hbold p hgives l hl e (hsame ▸ hf) hid hsale
  · intro e he hsale hstatus
    rw [hledger] at he
    rcases List.mem_append.mp he with he | he
    · obtain ⟨b, hb, hgives, l, hl, hle⟩ := hp.source e he hsale hstatus
      have hne : b.status.gives ≠ none := by
        rw [hgives]
        exact Option.some_ne_none _
      refine ⟨b, (hk.batches b hne).mpr hb, hgives, l, ?_, hle⟩
      rwa [hk.lines b hb hne]
    · rw [hpending e he hsale] at hstatus
      rcases hstatus with hstatus | hstatus
      · cases hstatus
      · cases hstatus

/-- A batch in review completes, and gives its rows their status. -/
structure CompletesBatch (db db' : FinanceDb) (b b' : PayoutBatch) (p : PayoutStatus) : Prop where
  mem : b ∈ db.payoutBatch
  isReview : b.status = .review
  id : b'.id = b.id
  gives : b'.status.gives = some p
  batches : ∀ x, x ∈ db'.payoutBatch ↔ x ∈ db.payoutBatch ∧ x.id ≠ b.id ∨ x = b'
  lines : db'.payoutBatchLine = db.payoutBatchLine
  ledger : ∃ q f, db'.financeLedgerEntry = updateWhere q f db.financeLedgerEntry ∧
    (∀ e, (f e).id = e.id ∧ (f e).entryType = e.entryType ∧ (f e).payoutStatus = p) ∧
    ∀ e ∈ db.financeLedgerEntry, q e = true ↔ e.id ∈ db.batchLedgerIds b.id

lemma mem_batchLedgerIds {i ledgerId : Id} :
    ledgerId ∈ db.batchLedgerIds i ↔ ∃ l ∈ db.batchLinesOf i, l.financeLedgerEntryId = ledgerId := by
  unfold batchLedgerIds
  rw [List.mem_eraseDups, List.mem_map]

lemma SalePayouts.completes {b d : PayoutBatch} {p : PayoutStatus} (hp : db.SalePayouts)
    (h : db.Integrity) (h' : db'.Integrity) (hb' : db'.PayoutBooks) (ho' : db'.SalesSettledOnce)
    (hm : db.CompletesBatch db' b d p) : db'.SalePayouts := by
  obtain ⟨q, f, hledger, hf, hq⟩ := hm.ledger
  have hmoved : d ∈ db'.payoutBatch := (hm.batches d).mpr (Or.inr rfl)
  have hlines : ∀ i, db'.batchLinesOf i = db.batchLinesOf i := by
    intro i
    unfold batchLinesOf
    rw [hm.lines]
  refine ⟨?_, ?_⟩
  · intro x hx p' hgives l hl e' he' hid hsale
    rw [hlines] at hl
    have he'mem := he'
    rw [hledger] at he'
    obtain ⟨e, he, rfl⟩ := mem_updateWhere.mp he'
    rcases (hm.batches x).mp hx with ⟨hxold, hne⟩ | rfl
    · by_cases hqe : q e = true
      · -- the row would be paid by two completed batches
        exfalso
        rw [if_pos hqe] at hid hsale he'mem
        obtain ⟨m, hmem, hmledger⟩ := mem_batchLedgerIds.mp ((hq e he).mp hqe)
        have hsame : l = m := completedLine_unique hb' h' ho' hx hmoved
          (PayoutBatchStatus.isCompleted_of_gives hgives)
          (PayoutBatchStatus.isCompleted_of_gives hm.gives) (by rwa [hlines])
          (by rwa [hlines, hm.id]) (by rw [hmledger, ← hid, (hf e).1]) he'mem hid hsale
        have hlx := of_decide_eq_true (List.mem_filter.mp hl).2
        have hmb := of_decide_eq_true (List.mem_filter.mp hmem).2
        rw [hsame, hmb] at hlx
        exact hne hlx.symm
      · rw [if_neg hqe] at hid hsale ⊢
        exact hp.given x hxold p' hgives l hl e he hid hsale
    · rw [hm.id] at hl
      obtain rfl : p = p' := Option.some.inj (hm.gives.symm.trans hgives)
      have heid : e.id = l.financeLedgerEntryId := by
        by_cases hqe : q e = true
        · rwa [if_pos hqe, (hf e).1] at hid
        · rwa [if_neg hqe] at hid
      have hqe : q e = true := (hq e he).mpr (mem_batchLedgerIds.mpr ⟨l, hl, heid.symm⟩)
      rw [if_pos hqe]
      exact (hf e).2.2
  · intro e' he' hsale hstatus
    rw [hledger] at he'
    obtain ⟨e, he, rfl⟩ := mem_updateWhere.mp he'
    by_cases hqe : q e = true
    · obtain ⟨l, hl, hle⟩ := mem_batchLedgerIds.mp ((hq e he).mp hqe)
      rw [if_pos hqe, (hf e).1, (hf e).2.2]
      refine ⟨d, hmoved, hm.gives, l, ?_, hle⟩
      rwa [hlines, hm.id]
    · rw [if_neg hqe] at hsale hstatus ⊢
      obtain ⟨x, hx, hgives, l, hl, hle⟩ := hp.source e he hsale hstatus
      refine ⟨x, (hm.batches x).mpr (Or.inl ⟨hx, fun hid => ?_⟩), hgives, l, by rwa [hlines], hle⟩
      rw [h.batch_key.eq hx hm.mem hid, hm.isReview] at hgives
      cases hgives

/-! ## The transactions -/

/-- A batch that is open before and after is no completion. -/
lemma KeepsCompletions.withBatch {b : PayoutBatch} {f : PayoutBatch → PayoutBatch}
    (h : db.Integrity) (hmem : b ∈ db.payoutBatch) (hopen : b.status.gives = none)
    (hf : (f b).status.gives = none)
    (hbatches : db'.payoutBatch = updateWhere (fun x => decide (x.id = b.id)) f db.payoutBatch)
    (hlines : db'.payoutBatchLine = db.payoutBatchLine)
    (hledger : db'.financeLedgerEntry = db.financeLedgerEntry) : db.KeepsCompletions db' where
  batches := by
    intro x hx
    rw [hbatches, mem_updateBatch h hmem]
    constructor
    · rintro (⟨hold, -⟩ | rfl)
      · exact hold
      · exact absurd hf hx
    · intro hold
      refine Or.inl ⟨hold, fun hid => hx ?_⟩
      rw [h.batch_key.eq hold hmem hid]
      exact hopen
  lines := by
    intro x _ _
    unfold batchLinesOf
    rw [hlines]
  ledger := ⟨[], by rw [hledger, List.append_nil], by simp⟩

lemma KeepsCompletions.of_eq (hbatches : db'.payoutBatch = db.payoutBatch)
    (hlines : db'.payoutBatchLine = db.payoutBatchLine)
    (hledger : ∃ new, db'.financeLedgerEntry = db.financeLedgerEntry ++ new ∧
      ∀ e ∈ new, e.entryType = .sale → e.payoutStatus = .pending) : db.KeepsCompletions db' where
  batches := fun b _ => by rw [hbatches]
  lines := by
    intro x _ _
    unfold batchLinesOf
    rw [hlines]
  ledger := hledger

lemma KeepsCompletions.trans {db'' : FinanceDb} (h : db.KeepsCompletions db')
    (h' : db'.KeepsCompletions db'') : db.KeepsCompletions db'' where
  batches := fun b hb => (h'.batches b hb).trans (h.batches b hb)
  lines := fun b hmem hb => (h'.lines b ((h.batches b hb).mpr hmem) hb).trans (h.lines b hmem hb)
  ledger := by
    obtain ⟨new, hledger, hnew⟩ := h.ledger
    obtain ⟨new', hledger', hnew'⟩ := h'.ledger
    refine ⟨new ++ new', by rw [hledger', hledger, List.append_assoc], ?_⟩
    rw [List.forall_mem_append]
    exact ⟨hnew, hnew'⟩

lemma KeepsCompletions.preparePayoutBatch {vendorId : Id} {ids : PayoutBatchIds} {r1Isolated : Bool}
    {now : Instant} (hb : db.PayoutBooks) (h : db.Integrity)
    (hs : db.preparePayoutBatchInTransaction vendorId ids r1Isolated now = .ok db') :
    db.KeepsCompletions db' := by
  have h' := h.preparePayoutBatch hs
  obtain ⟨b, lines, _, _, _, _, -, hi⟩ := hb.insertsBatch h hs
  have hledger : db'.financeLedgerEntry = db.financeLedgerEntry := by
    obtain ⟨_, s, currency, -, -, -, -, hoffset⟩ := preparePayoutBatchInTransaction_ok hs
    rcases createVendorDebtOffsetForPayoutBatch_ok hoffset with ⟨-, rfl⟩ | ⟨-, rfl, -⟩ | ⟨-, -, rfl⟩
    · rfl
    · rfl
    · rfl
  have hkey := h'.batch_key
  rw [hi.batches] at hkey
  refine ⟨?_, ?_, [], by rw [hledger, List.append_nil], by simp⟩
  · intro x hx
    rw [hi.batches, List.mem_append, List.mem_singleton]
    constructor
    · rintro (hold | rfl)
      · exact hold
      · rw [hi.isDraft.1] at hx
        exact absurd rfl hx
    · exact Or.inl
  · intro x hx _
    have hne : x.id ≠ b.id := (keyUnique_append.mp hkey).2.2 x hx b (List.mem_singleton_self b)
    have hnil : lines.filter (fun l => decide (l.payoutBatchId = x.id)) = [] :=
      List.filter_eq_nil_iff.mpr fun l hl => by
        rw [hi.ofBatch l hl]
        simpa using hne.symm
    unfold batchLinesOf
    rw [hi.newLines, List.filter_append, hnil, List.append_nil]

lemma KeepsCompletions.prepareR1PayoutBatch {vendorId actorId requestId : Id} {ids : PayoutBatchIds}
    {now : Instant} (hb : db.PayoutBooks) (h : db.Integrity)
    (hs : db.prepareR1PayoutBatchInTransaction vendorId actorId requestId ids now = .ok db') :
    db.KeepsCompletions db' := by
  obtain ⟨prepared, batch, reserved, hprepared, hbatch, hreserved, -, -, rfl⟩ :=
    prepareR1PayoutBatchInTransaction_ok hs
  have hip := h.preparePayoutBatch hprepared
  have hir := hip.reservePayoutOffsets hreserved
  have hkeeps : prepared.KeepsCompletions reserved ∧ reserved.payoutBatch = prepared.payoutBatch := by
    obtain ⟨_, -, -, -, -, -, rfl | ⟨-, _, -, -, rfl⟩⟩ :=
      reserveVerifiedPayoutOffsetsInTransaction_ok hreserved
    · exact ⟨.of_eq rfl rfl (exists_append_eq_self _), rfl⟩
    · exact ⟨.of_eq rfl rfl (exists_append_eq_self _), rfl⟩
  obtain ⟨b, _, _, _, _, _, hbid, hinserts⟩ := hb.insertsBatch h hprepared
  have hmem : batch ∈ reserved.payoutBatch := by
    rw [hkeeps.2]
    exact mem_of_findRow hbatch
  have hdraft : batch.status = .draft := by
    obtain ⟨x, hx, -, -, hdraft, -, -⟩ := reserveVerifiedPayoutOffsetsInTransaction_ok hreserved
    rwa [← Option.some.inj (hbatch.symm.trans hx)] at hdraft
  have hid : batch.id = ids.batchId := key_of_findRow hbatch
  refine (KeepsCompletions.preparePayoutBatch hb h hprepared).trans (hkeeps.1.trans ?_)
  rw [← hid]
  refine .withBatch hir hmem ?_ ?_ rfl rfl rfl
  · rw [hdraft]
    rfl
  · show PayoutBatchStatus.gives batch.status = none
    rw [hdraft]
    rfl

/-- A finalization leaves the ledger alone. -/
lemma finalizeR1PayoutOffsetClaims_ledger {payoutBatchId vendorId : Id} {currency : String}
    {firstEventId : Id} (h : db.Integrity)
    (hs : db.finalizeR1PayoutOffsetClaimsInTransaction payoutBatchId vendorId currency
      firstEventId = .ok db') : db'.financeLedgerEntry = db.financeLedgerEntry := by
  obtain ⟨claims, hclaims, hwrites, -⟩ := finalizeR1PayoutOffsetClaimsInTransaction_ok hs
  obtain ⟨-, -, rfl⟩ := finalizeClaims_ok hwrites hclaims.perm h.adjustment_key h.claim_key
    h.event_key
  rfl

/-- A completion without cash marks all rows of its batch. -/
lemma completeR1CashlessPayout_rows {batchId firstEventId : Id} {now : Instant} {b : PayoutBatch}
    (h : db.Integrity) (hfind : db.findBatch batchId = some b)
    (hs : db.completeR1CashlessPayout batchId firstEventId now = .ok db') :
    (db.financeLedgerEntry.filter (isCashlessRow (db.batchLedgerIds batchId) b.vendorId)).length =
      (db.batchLedgerIds batchId).length := by
  simp only [FinanceDb.completeR1CashlessPayout, bind_eq_ok, require_eq_ok, pure_eq_ok] at hs
  obtain ⟨authority, hauthority, _, -, _, -, covered, -, _, -, finalized, hfinalized, moved,
    hmove, _, hcount, -⟩ := hs
  obtain ⟨hbatch, -⟩ := assertR1PayoutMonetaryAuthority_ok hauthority
  obtain rfl : b = authority.batch := Option.some.inj (hfind.symm.trans hbatch)
  obtain ⟨-, rfl⟩ := moveBatch_ok (finalize_batch_key h.toConstraints hfinalized) hmove
  have hledger := finalizeR1PayoutOffsetClaims_ledger h hfinalized
  rw [← hledger]
  exact hcount

/-- Rows that are as many as the identifiers they are selected from are the rows of all of them. -/
lemma mem_of_length_filter {ids : List Id} {p : FinanceLedgerEntry → Bool} (h : db.Integrity)
    (hp : ∀ e, p e = true → e.id ∈ ids)
    (hlength : (db.financeLedgerEntry.filter p).length = ids.length) {e : FinanceLedgerEntry}
    (he : e ∈ db.financeLedgerEntry) (hmem : e.id ∈ ids) : p e = true := by
  have hnodup : ((db.financeLedgerEntry.filter p).map (·.id)).Nodup :=
    List.Nodup.sublist (List.filter_sublist.map _) h.ledger_key
  have hsubset : (db.financeLedgerEntry.filter p).map (·.id) ⊆ ids := by
    intro i hi
    obtain ⟨x, hx, rfl⟩ := List.mem_map.mp hi
    exact hp x (List.mem_filter.mp hx).2
  have hperm := (List.subperm_of_subset hnodup hsubset).perm_of_length_le (by
    rw [List.length_map, hlength])
  obtain ⟨x, hx, hid⟩ := List.mem_map.mp (hperm.mem_iff.mpr hmem)
  obtain ⟨hxmem, hpx⟩ := List.mem_filter.mp hx
  rwa [← h.ledger_key.eq hxmem he hid]

lemma CompletesBatch.completeR1CashlessPayout {batchId firstEventId : Id} {now : Instant}
    (h : db.Integrity) (hs : db.completeR1CashlessPayout batchId firstEventId now = .ok db') :
    ∃ b d p, db.CompletesBatch db' b d p := by
  have hrows : ∀ {b}, db.findBatch batchId = some b → _ :=
    fun hfind => completeR1CashlessPayout_rows h hfind hs
  obtain ⟨b, finalized, hfind, hreview, -, hfinalized, rfl⟩ :=
    completeR1CashlessPayout_ok h.toConstraints hs
  have hmem : b ∈ db.payoutBatch := mem_of_findRow hfind
  have hcount := hrows hfind
  obtain rfl : b.id = batchId := key_of_findRow hfind
  have hf := h.finalizesClaims hfinalized
  refine ⟨b, { b with status := .cashlessCompleted }, .cashlessCompleted,
    { mem := hmem
      isReview := hreview
      id := rfl
      gives := rfl
      batches := hf.mem_batches h hmem
      lines := hf.lines
      ledger := ⟨_, _, congrArg _ (finalizeR1PayoutOffsetClaims_ledger h hfinalized),
        fun _ => ⟨rfl, rfl, rfl⟩, fun e he => ⟨fun hq => ?_, fun hid => ?_⟩⟩ }⟩
  · simp only [isCashlessRow, Bool.and_eq_true, decide_eq_true_eq] at hq
    exact hq.1.1.1
  · refine mem_of_length_filter h (fun x hx => ?_) hcount he hid
    simp only [isCashlessRow, Bool.and_eq_true, decide_eq_true_eq] at hx
    exact hx.1.1.1

lemma CompletesBatch.markPayoutBatchPaid {batchId : Id} {evidence : PaymentEvidence}
    {actualR1EftAmountMinor : Option ℤ} {firstEventId : Id} {now : Instant} (hb : db.PayoutBooks)
    (h : db.Integrity) (hs : db.markPayoutBatchPaidInTransaction batchId evidence
      actualR1EftAmountMinor firstEventId now = .ok db') : ∃ b d p, db.CompletesBatch db' b d p := by
  obtain ⟨b, finalized, hfind, hreview, hpayment, -, hfinalized, rfl⟩ :=
    markPayoutBatchPaidInTransaction_ok h.toConstraints hs
  have hf := hb.finalizesForPayment h hfind hreview hpayment hfinalized
  have hledger : finalized.financeLedgerEntry = db.financeLedgerEntry := by
    unfold FinanceDb.finalizeForPayment at hfinalized
    split at hfinalized
    · exact finalizeR1PayoutOffsetClaims_ledger h hfinalized
    · rw [pure_eq_ok.mp hfinalized]
  have hmem : b ∈ db.payoutBatch := mem_of_findRow hfind
  obtain rfl : b.id = batchId := key_of_findRow hfind
  exact ⟨b, { b with
      status := .paid, paidAt := some evidence.paidAt, eftExecutedAt := evidence.eftExecutedAt },
    .paid,
    { mem := hmem
      isReview := hreview
      id := rfl
      gives := rfl
      batches := hf.mem_batches h hmem
      lines := hf.lines
      ledger := ⟨_, _, congrArg _ hledger, fun _ => ⟨rfl, rfl, rfl⟩, fun e _ => by simp⟩ }⟩

end FinanceDb

open FinanceDb in
/-- **What a transaction does to completed batches**: it leaves them alone, or completes one more. -/
theorem FinanceDb.PayoutBooks.completions {db db' : FinanceDb} {a : Action} (hb : db.PayoutBooks)
    (h : db.Integrity) (hs : Finance.step a db = .ok db') :
    db.KeepsCompletions db' ∨ ∃ b d p, db.CompletesBatch db' b d p := by
  have hmoved : ∀ {t : FinanceDb} {b : PayoutBatch} {f : PayoutBatch → PayoutBatch},
      b ∈ db.payoutBatch → b.status = .draft ∨ b.status = .review → (f b).status.gives = none →
      t.payoutBatch = updateWhere (fun x => decide (x.id = b.id)) f db.payoutBatch →
      t.payoutBatchLine = db.payoutBatchLine → t.financeLedgerEntry = db.financeLedgerEntry →
      db.KeepsCompletions t := by
    intro t b f hmem hopen hf hbatches hlines hledger
    refine .withBatch h hmem ?_ hf hbatches hlines hledger
    rcases hopen with hopen | hopen
    · rw [hopen]
      rfl
    · rw [hopen]
      rfl
  by_cases ha : a.keepsPayouts = true
  · have hk := LeavesPayouts.step h ha hs
    exact Or.inl (.of_eq hk.batches hk.lines hk.ledger)
  by_cases hc : a.cancelsPayout = true
  · obtain ⟨b, hmem, hopen, rfl⟩ := hb.cancels h hc hs
    exact Or.inl (hmoved (f := fun x => { x with status := .cancelled }) hmem hopen rfl rfl rfl rfl)
  cases a with
  | preparePayout vendorId ids now => exact Or.inl (.preparePayoutBatch hb h hs)
  | prepareR1Payout vendorId actorId requestId ids now => exact Or.inl (.prepareR1PayoutBatch hb h hs)
  | prepareAdminPayout vendorId actorId requestId ids now =>
      rcases prepareAdminPayoutBatchWithR1_ok hs with rfl | hr1 | hordinary
      · exact Or.inl (.of_eq rfl rfl (exists_append_eq_self _))
      · exact Or.inl (.prepareR1PayoutBatch hb h hr1)
      · exact Or.inl (.preparePayoutBatch hb h hordinary)
  | reservePayoutOffsets input now =>
      obtain ⟨_, -, -, -, -, -, rfl | ⟨-, _, -, -, rfl⟩⟩ :=
        reserveVerifiedPayoutOffsetsInTransaction_ok hs
      · exact Or.inl (.of_eq rfl rfl (exists_append_eq_self _))
      · exact Or.inl (.of_eq rfl rfl (exists_append_eq_self _))
  | markPayoutReview batchId now =>
      obtain ⟨⟨b, hfind, hstatus⟩, rfl⟩ := markPayoutBatchReview_ok h.toConstraints hs
      obtain rfl := key_of_findRow hfind
      exact Or.inl (hmoved (f := fun x => { x with status := .review }) (mem_of_findRow hfind)
        (Or.inl hstatus) rfl rfl rfl rfl)
  | markR1PayoutReview batchId now =>
      obtain ⟨⟨b, hfind, hstatus⟩, rfl⟩ := markR1PayoutBatchReview_ok h.toConstraints hs
      obtain rfl := key_of_findRow hfind
      exact Or.inl (hmoved (f := fun x => { x with status := .review }) (mem_of_findRow hfind)
        (Or.inl hstatus) rfl rfl rfl rfl)
  | completeCashlessPayout batchId firstEventId now =>
      exact Or.inr (CompletesBatch.completeR1CashlessPayout h hs)
  | markPayoutPaid batchId evidence now => exact Or.inr (CompletesBatch.markPayoutBatchPaid hb h hs)
  | markR1PayoutPaid batchId evidence actualEftAmountMinor firstEventId now =>
      exact Or.inr (CompletesBatch.markPayoutBatchPaid hb h (markR1PayoutBatchPaid_ok hs))
  | _ =>
      first
      | exact absurd rfl ha
      | exact absurd rfl hc

/-- **The payouts of sales are kept** by every transaction. -/
theorem FinanceDb.SalePayouts.step {db db' : FinanceDb} {a : Action} (hp : db.SalePayouts)
    (hb : db.PayoutBooks) (h : db.Integrity) (ho : db.SalesSettledOnce) (hs : step a db = .ok db') :
    db'.SalePayouts := by
  rcases hb.completions h hs with hkeeps | ⟨b, d, p, hcompletes⟩
  · exact hp.keeps h (h.step hs) hkeeps
  · exact hp.completes h (h.step hs) (hb.step h hs) (ho.step h hs) hcompletes

/-- Sales are settled once, and their payouts are right, in every reachable state. -/
theorem ReachableDb.salePayouts {db : FinanceDb} (h : ReachableDb db) :
    db.SalesSettledOnce ∧ db.SalePayouts := by
  refine h.invariant (P := fun db => db.SalesSettledOnce ∧ db.SalePayouts) ⟨?_, ?_, ?_⟩ ?_
  · intro l hl
    cases hl
  · intro b hb
    cases hb
  · intro e he
    cases he
  · intro s a t hr hs _ hstep
    have hi := ReachableDb.integrity hr
    exact ⟨hs.1.step hi hstep, hs.2.step (ReachableDb.payoutBooks hr) hi hs.1 hstep⟩

/-- **No sale is settled twice**: in every reachable state at most one line of the settlements that
are not cancelled holds a sale. -/
theorem ReachableDb.sale_settled_once {db : FinanceDb} (h : ReachableDb db) : db.SalesSettledOnce :=
  h.salePayouts.1

/-- A cancelled settlement and its approved replacement have a line of the sale each. -/
theorem sale_settled_once_replacement : ∃ db, ReachableDb db ∧
    db.settlementApproval.map (·.status) = [.cancelled, .approved] ∧
      (db.settlementApprovalLine.filter fun l => decide (l.lineType = .sale)).map
        (fun l => (l.settlementApprovalId, l.financeLedgerEntryId)) = [(1, 1), (2, 1)] ∧
      db.SalesSettledOnce := by
  have hrun : Succeeds (runActions step LateReplacement.approved FinanceDb.empty) fun db =>
      db.settlementApproval.map (·.status) = [.cancelled, .approved] ∧
        (db.settlementApprovalLine.filter fun l => decide (l.lineType = .sale)).map
          (fun l => (l.settlementApprovalId, l.financeLedgerEntryId)) = [(1, 1), (2, 1)] := by
    decide +kernel
  obtain ⟨db, hdb, hstatus, hlines⟩ := succeeds_iff.mp hrun
  have hreachable : ReachableDb db := reachableWith_of_runActions (fun _ _ _ => trivial) hdb
  exact ⟨db, hreachable, hstatus, hlines, hreachable.sale_settled_once⟩

/-- **No sale is paid twice**: in every reachable state at most one line of a completed batch pays a
sale, and the sale's ledger row is paid, or completed without cash, exactly when it is on a batch
that was. -/
theorem ReachableDb.sale_paid_once {db : FinanceDb} (h : ReachableDb db) :
    ∀ e ∈ db.financeLedgerEntry, e.entryType = .sale →
      (∀ b ∈ db.payoutBatch, ∀ c ∈ db.payoutBatch, b.status.isCompleted = true →
        c.status.isCompleted = true → ∀ l ∈ db.batchLinesOf b.id, ∀ m ∈ db.batchLinesOf c.id,
          l.financeLedgerEntryId = e.id → m.financeLedgerEntryId = e.id → l = m) ∧
      (e.payoutStatus = .paid ↔ ∃ b ∈ db.payoutBatch, b.status = .paid ∧
        ∃ l ∈ db.batchLinesOf b.id, l.financeLedgerEntryId = e.id) ∧
      (e.payoutStatus = .cashlessCompleted ↔ ∃ b ∈ db.payoutBatch, b.status = .cashlessCompleted ∧
        ∃ l ∈ db.batchLinesOf b.id, l.financeLedgerEntryId = e.id) := by
  intro e he hsale
  obtain ⟨ho, hp⟩ := h.salePayouts
  refine ⟨fun b hb c hc hbdone hcdone l hl m hm hle hme => ?_, ⟨fun hpaid => ?_, ?_⟩,
    ⟨fun hcashless => ?_, ?_⟩⟩
  · exact FinanceDb.completedLine_unique h.payoutBooks h.integrity ho hb hc hbdone hcdone hl hm
      (hle.trans hme.symm) he hle.symm hsale
  · obtain ⟨b, hb, hgives, l, hl, hle⟩ := hp.source e he hsale (Or.inl hpaid)
    rw [hpaid] at hgives
    refine ⟨b, hb, ?_, l, hl, hle⟩
    exact PayoutBatchStatus.eq_paid_of_gives hgives
  · rintro ⟨b, hb, hstatus, l, hl, hle⟩
    exact hp.given b hb .paid (by rw [hstatus]; rfl) l hl e he hle.symm hsale
  · obtain ⟨b, hb, hgives, l, hl, hle⟩ := hp.source e he hsale (Or.inr hcashless)
    rw [hcashless] at hgives
    refine ⟨b, hb, ?_, l, hl, hle⟩
    exact PayoutBatchStatus.eq_cashless_of_gives hgives
  · rintro ⟨b, hb, hstatus, l, hl, hle⟩
    exact hp.given b hb .cashlessCompleted (by rw [hstatus]; rfl) l hl e he hle.symm hsale

theorem sale_paid_once_twoPayouts : ∃ db, ReachableDb db ∧
    db.financeLedgerEntry.map (·.payoutStatus) = [.paid, .hold, .paid] ∧
    ∀ e ∈ db.financeLedgerEntry, e.entryType = .sale →
      (e.payoutStatus = .paid ↔ ∃ b ∈ db.payoutBatch, b.status = .paid ∧
        ∃ l ∈ db.batchLinesOf b.id, l.financeLedgerEntryId = e.id) := by
  obtain ⟨db, hdb, -, -, hledger, -⟩ := twoPayouts_reachable
  exact ⟨db, hdb, hledger, fun e he hsale => (hdb.sale_paid_once e he hsale).2.1⟩

end VendorDashboard.Finance

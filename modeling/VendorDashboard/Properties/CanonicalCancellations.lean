import VendorDashboard.Reconciliation.CanonicalCancellation
import VendorDashboard.Properties.VendorDebts
import VendorDashboard.Properties.SalePayouts

/-!
# A cancelled order voids no settled money

No transaction of the finance system settles a sale row that is voided: an approval checks the rows
of its lines, and a payout takes only rows with an approved line (`FinanceDb.Unsettled.step`).  The
transaction of the order repair reads and voids at once, so the rows it voids are unsettled.  A
`reconcileShopifyOrderCancellation` call voids what it read two database calls ago, and an approval
or a payout in between is overlooked: `voiding_settled` is such a run.  When each call finds the
rows that it read still unsettled, a voided row is never settled
(`canonicalCancellation_keepsSettled`).
-/

namespace VendorDashboard.Finance

open Table Transaction

/-- What a ledger row must keep: its type, and that it is voided. -/
def FinanceLedgerEntry.voidState (e : FinanceLedgerEntry) : Id × EntryType × Option Instant :=
  (e.id, e.entryType, e.voidedAt)

namespace FinanceDb

/-- No line of an approved settlement and no line of an uncancelled payout is on the ledger row. -/
def Unsettled (db : FinanceDb) (ledgerId : Id) : Prop :=
  (∀ l ∈ db.settlementApprovalLine, l.financeLedgerEntryId = ledgerId →
    db.approvalIsApproved l.settlementApprovalId = false) ∧
  ∀ m ∈ db.payoutBatchLine, m.financeLedgerEntryId = ledgerId →
    db.batchIsActive m.payoutBatchId = false

instance (db : FinanceDb) (ledgerId : Id) : Decidable (db.Unsettled ledgerId) :=
  inferInstanceAs (Decidable (_ ∧ _))

def HasSale (db : FinanceDb) (ledgerId : Id) : Prop :=
  ∃ e ∈ db.financeLedgerEntry, e.id = ledgerId ∧ e.entryType = .sale

def HasVoidedSale (db : FinanceDb) (ledgerId : Id) : Prop :=
  ∃ e ∈ db.financeLedgerEntry, e.id = ledgerId ∧ e.entryType = .sale ∧ e.voidedAt.isSome

variable {db db' : FinanceDb} {ledgerId : Id}

/-! ## Ledger rows stay -/

def KeepsLedger (db db' : FinanceDb) : Prop :=
  ∃ new, db'.financeLedgerEntry.map (·.voidState) = db.financeLedgerEntry.map (·.voidState) ++ new

lemma KeepsLedger.of_eq (h : db'.financeLedgerEntry = db.financeLedgerEntry) :
    db.KeepsLedger db' := ⟨[], by rw [h, List.append_nil]⟩

lemma KeepsLedger.append {new : List FinanceLedgerEntry}
    (h : db'.financeLedgerEntry = db.financeLedgerEntry ++ new) : db.KeepsLedger db' :=
  ⟨new.map (·.voidState), by rw [h, List.map_append]⟩

lemma KeepsLedger.updateWhere {p : FinanceLedgerEntry → Bool}
    {f : FinanceLedgerEntry → FinanceLedgerEntry}
    (h : db'.financeLedgerEntry = updateWhere p f db.financeLedgerEntry)
    (hf : ∀ e, (f e).voidState = e.voidState) : db.KeepsLedger db' :=
  ⟨[], by rw [h, List.append_nil, map_updateWhere hf]⟩

lemma KeepsLedger.exists (h : db.KeepsLedger db') {e : FinanceLedgerEntry}
    (he : e ∈ db.financeLedgerEntry) :
    ∃ e' ∈ db'.financeLedgerEntry, e'.voidState = e.voidState := by
  obtain ⟨new, hnew⟩ := h
  exact List.mem_map.mp (hnew ▸ List.mem_append_left _ (List.mem_map_of_mem he))

lemma HasSale.keeps (hs : db.HasSale ledgerId) (h : db.KeepsLedger db') :
    db'.HasSale ledgerId := by
  obtain ⟨e, he, hid, htype⟩ := hs
  obtain ⟨e', he', hstate⟩ := h.exists he
  simp only [FinanceLedgerEntry.voidState, Prod.mk.injEq] at hstate
  exact ⟨e', he', hstate.1.trans hid, hstate.2.1.trans htype⟩

lemma HasVoidedSale.keeps (hs : db.HasVoidedSale ledgerId) (h : db.KeepsLedger db') :
    db'.HasVoidedSale ledgerId := by
  obtain ⟨e, he, hid, htype, hvoided⟩ := hs
  obtain ⟨e', he', hstate⟩ := h.exists he
  simp only [FinanceLedgerEntry.voidState, Prod.mk.injEq] at hstate
  exact ⟨e', he', hstate.1.trans hid, hstate.2.1.trans htype, by rw [hstate.2.2]; exact hvoided⟩

/-! ## Settlements of a voided sale -/

/-- The settlements on the row, as far as they matter. -/
def Unapproved (db : FinanceDb) (ledgerId : Id) : Prop :=
  ∀ l ∈ db.settlementApprovalLine, l.financeLedgerEntryId = ledgerId →
    db.approvalIsApproved l.settlementApprovalId = false

lemma Unapproved.keeps (hu : db.Unapproved ledgerId)
    (hlines : db'.settlementApprovalLine = db.settlementApprovalLine)
    (happroved : ∀ i, db'.approvalIsApproved i = true → db.approvalIsApproved i = true) :
    db'.Unapproved ledgerId := by
  intro l hl hid
  rw [hlines] at hl
  by_contra hnot
  have hold := happroved _ (Bool.eq_true_of_not_eq_false hnot)
  rw [hu l hl hid] at hold
  cases hold

/-- A draft approves nothing. -/
lemma Unapproved.createDraftApproval {input : SettlementApprovalInput} {ids : DraftIds}
    {now : Instant} (hu : db.Unapproved ledgerId) (h : db.Integrity)
    (hs : db.createDraftApprovalInTransaction input ids now = .ok db') :
    db'.Unapproved ledgerId := by
  have h' := h.createDraftApproval hs
  have hwrites := createDraftApproval_writes h hs
  obtain ⟨totals, happrovals⟩ := hwrites.approvals
  obtain ⟨new, hcontent, hnew⟩ := hwrites.lines
  have hkey := h'.approval_key
  rw [happrovals] at hkey
  intro l hl hid
  have hmem : l.content ∈ db.settlementApprovalLine.map (·.content) ++ new :=
    hcontent ▸ List.mem_map_of_mem hl
  unfold approvalIsApproved findApproval
  rw [happrovals]
  rcases List.mem_append.mp hmem with hold | hdraft
  · obtain ⟨x, hx, hsame⟩ := List.mem_map.mp hold
    simp only [SettlementApprovalLine.content, sourceKey, Prod.mk.injEq] at hsame
    obtain ⟨a, ha, haid⟩ := h.line_approval x hx
    have hfind := findRow_of_mem h.approval_key ha
    have hold := hu x hx (hsame.2.2.1.trans hid)
    unfold approvalIsApproved findApproval at hold
    rw [← haid, hfind] at hold
    rw [← hsame.2.1, ← haid, findRow_of_mem hkey (List.mem_append_left _ ha)]
    exact hold
  · have happroval : l.settlementApprovalId = ids.approvalId := hnew _ hdraft
    have hrow := findRow_of_mem hkey (List.mem_append_right db.settlementApproval
      (List.mem_singleton_self (draftApprovalRow ids.approvalId input totals)))
    rw [happroval]
    show ((findRow SettlementApproval.id ids.approvalId (db.settlementApproval ++
      [draftApprovalRow ids.approvalId input totals])).any
        fun a => decide (a.status = .approved)) = false
    have hdraftId : (draftApprovalRow ids.approvalId input totals).id = ids.approvalId := rfl
    rw [hdraftId] at hrow
    rw [hrow]
    rfl

lemma approvalIsApproved_updateWhere {i : Id} {f : SettlementApproval → SettlementApproval}
    (hf : ∀ a, (f a).id = a.id)
    (happrovals : db'.settlementApproval =
      updateWhere (fun a => decide (a.id = i)) f db.settlementApproval) (j : Id) :
    db'.approvalIsApproved j = (db.findApproval j).any fun a =>
      decide ((if a.id = i then f a else a).status = .approved) := by
  unfold approvalIsApproved findApproval
  rw [happrovals]
  unfold updateWhere
  rw [findRow_map (fun a => by split <;> simp [hf]), Option.any_map]
  refine congrArg (fun p => Option.any p _) (funext fun a => ?_)
  simp

/-- No approval has a line on a voided sale: its own check of the line fails. -/
lemma Unapproved.executeCanonicalSettlementApproval {id firstAdjustmentId : Id} {now : Instant}
    (hu : db.Unapproved ledgerId) (hv : db.HasVoidedSale ledgerId) (h : db.Integrity)
    (hs : db.executeCanonicalSettlementApproval id firstAdjustmentId now = .ok db') :
    db'.Unapproved ledgerId := by
  have hwrites := executeCanonicalSettlementApproval_writes hs
  obtain ⟨existing, hfind, -, hvalid, -⟩ := executeCanonicalSettlementApproval_ok hs
  intro l hl hid
  rw [hwrites.lines] at hl
  rw [approvalIsApproved_updateWhere (f := approvedRow now) (fun _ => rfl) hwrites.approvals]
  by_cases happroval : l.settlementApprovalId = id
  · exfalso
    have hexisting : existing.id = id := key_of_findRow hfind
    obtain ⟨e, he, heid, htype, hvoided⟩ := hv
    obtain ⟨e₀, he₀, he₀id, hfits⟩ := h.line_ledger l hl
    obtain rfl : e₀ = e := h.ledger_key.eq he₀ he ((he₀id.trans hid).trans heid.symm)
    have hline : l.lineType ≠ .refundAdjustment := by
      intro hadjustment
      unfold SettlementApprovalLine.Fits at hfits
      rw [hadjustment] at hfits
      rw [hfits] at htype
      cases htype
    have hnil : db.validateLine existing l now = [] := by
      have hmem : l ∈ db.linesOf existing.id :=
        List.mem_filter.mpr ⟨hl, by simp [happroval, hexisting]⟩
      exact (List.append_eq_nil_iff.mp (List.flatMap_eq_nil_iff.mp hvalid l hmem)).1
    have hrow : db.loadCurrentLedgerRowForApprovalLine l = some (db.settlementLedgerRow e₀) := by
      unfold loadCurrentLedgerRowForApprovalLine findLedger
      rw [← he₀id, findRow_of_mem h.ledger_key he₀]
      rfl
    unfold validateLine at hnil
    rw [if_neg hline, hrow] at hnil
    unfold validateApprovalLineAgainstCurrentLedger at hnil
    simp only [if_neg hline] at hnil
    have hchecks := (List.append_eq_nil_iff.mp (List.append_eq_nil_iff.mp hnil).1).1
    have hunvoided := revalidationReasons_eq_nil.mp hchecks
      (e₀.voidedAt.isSome, "ledger_voided",
        "Ledger has been voided or superseded and cannot be approved.") List.mem_cons_self
    have hunvoided : e₀.voidedAt.isSome = false := hunvoided
    rw [hvoided] at hunvoided
    cases hunvoided
  · have hold := hu l hl hid
    unfold approvalIsApproved at hold
    cases ha : db.findApproval l.settlementApprovalId with
    | none => rfl
    | some a =>
        have haid : a.id = l.settlementApprovalId := key_of_findRow ha
        rw [ha] at hold
        rw [Option.any_some, if_neg (by rw [haid]; exact happroval)]
        exact hold

lemma Unapproved.cancelSettlementApproval {id : Id} (hu : db.Unapproved ledgerId)
    (h : db.Integrity) (hs : db.cancelSettlementApproval id = .ok db') :
    db'.Unapproved ledgerId := by
  have hwrites := cancelSettlementApproval_writes h hs
  refine hu.keeps hwrites.lines fun i hi => ?_
  rw [approvalIsApproved_updateWhere (f := cancelledRow) (fun _ => rfl) hwrites.approvals] at hi
  obtain ⟨a, ha, hstatus⟩ := (Option.any_eq_true _ _).mp hi
  refine approvalIsApproved_iff.mpr ⟨a, ha, ?_⟩
  have hstatus := of_decide_eq_true hstatus
  split at hstatus
  · cases hstatus
  · exact hstatus

theorem Unapproved.step {a : Action} (hu : db.Unapproved ledgerId) (hv : db.HasVoidedSale ledgerId)
    (h : db.Integrity) (hs : Finance.step a db = .ok db') : db'.Unapproved ledgerId := by
  by_cases ha : a.keepsApprovals = true
  · have hhistory := KeepsHistory.step h ha hs
    refine hu.keeps hhistory.lines fun i hi => ?_
    unfold approvalIsApproved findApproval at hi ⊢
    rwa [hhistory.approvals] at hi
  · cases a with
    | createDraftApproval input ids now => exact hu.createDraftApproval h hs
    | approveSettlement id firstAdjustmentId now =>
        exact hu.executeCanonicalSettlementApproval hv h hs
    | cancelSettlement id => exact hu.cancelSettlementApproval h hs
    | _ => exact absurd rfl ha

/-! ## Payouts and the ledger -/

/-- What a transaction does to payouts: a cancelled batch stays cancelled, and a new line is on a
row with an approved settlement line. -/
structure KeepsPaidOut (db db' : FinanceDb) : Prop where
  cancelled : ∀ i, db.isCancelledBatch i = true → db'.isCancelledBatch i = true
  lines : ∀ m ∈ db'.payoutBatchLine, m ∈ db.payoutBatchLine ∨
    ∃ l ∈ db.settlementApprovalLine, l.financeLedgerEntryId = m.financeLedgerEntryId ∧
      db.approvalIsApproved l.settlementApprovalId = true
  ledger : db.KeepsLedger db'

lemma KeepsPaidOut.of_eq (hbatches : db'.payoutBatch = db.payoutBatch)
    (hlines : db'.payoutBatchLine = db.payoutBatchLine) (hledger : db.KeepsLedger db') :
    db.KeepsPaidOut db' where
  cancelled := fun i hi => (isCancelledBatch_eq hbatches i).trans hi
  lines := fun _ hm => Or.inl (hlines ▸ hm)
  ledger := hledger

/-- An open batch moves. -/
lemma KeepsPaidOut.withBatch {batchId : Id} {b : PayoutBatch} {f : PayoutBatch → PayoutBatch}
    (h : db.Integrity) (hfind : db.findBatch batchId = some b) (hopen : b.status ≠ .cancelled)
    (hbatches : db'.payoutBatch = updateWhere (fun x => decide (x.id = batchId)) f db.payoutBatch)
    (hid : ∀ x, (f x).id = x.id) (hlines : db'.payoutBatchLine = db.payoutBatchLine)
    (hledger : db.KeepsLedger db') : db.KeepsPaidOut db' where
  cancelled := by
    obtain rfl : b.id = batchId := key_of_findRow hfind
    intro i hi
    exact isCancelledBatch_updateWhere h (mem_of_findRow hfind) hopen hid hbatches hi
  lines := fun m hm => Or.inl (hlines ▸ hm)
  ledger := hledger

lemma KeepsLedger.trans {db'' : FinanceDb} (h : db.KeepsLedger db') (h' : db'.KeepsLedger db'') :
    db.KeepsLedger db'' := by
  obtain ⟨new, hnew⟩ := h
  obtain ⟨new', hnew'⟩ := h'
  exact ⟨new ++ new', by rw [hnew', hnew, List.append_assoc]⟩

/-- What happens after a transaction that adds no line of its own. -/
lemma KeepsPaidOut.trans {db'' : FinanceDb} (h : db.KeepsPaidOut db') (h' : db'.KeepsPaidOut db'')
    (hlines : db''.payoutBatchLine = db'.payoutBatchLine) : db.KeepsPaidOut db'' where
  cancelled := fun i hi => h'.cancelled i (h.cancelled i hi)
  lines := fun m hm => h.lines m (hlines ▸ hm)
  ledger := h.ledger.trans h'.ledger

lemma KeepsPaidOut.preparePayoutBatch {vendorId : Id} {ids : PayoutBatchIds} {r1Isolated : Bool}
    {now : Instant} (hs : db.preparePayoutBatchInTransaction vendorId ids r1Isolated now = .ok db') :
    db.KeepsPaidOut db' := by
  obtain ⟨diagnostic, s, currency, -, hselect, -, -, hoffset⟩ := preparePayoutBatchInTransaction_ok hs
  have hkeeps : db.KeepsPaidOut (db.withPayoutBatch ids (payoutBatchRow ids.batchId vendorId
      currency s (db.preparedNetMinor vendorId s r1Isolated) now) s) := by
    refine ⟨fun i hi => ?_, fun m hm => ?_, .of_eq rfl⟩
    · unfold isCancelledBatch at hi ⊢
      obtain ⟨x, hx, hstatus⟩ := (Option.any_eq_true _ _).mp hi
      unfold findBatch findRow withPayoutBatch at *
      rw [List.find?_append, hx]
      exact hstatus
    · rcases List.mem_append.mp hm with hold | hnew
      · exact Or.inl hold
      · obtain ⟨c, hc, i, -, rfl⟩ := mem_withIds hnew
        rw [selectPayout_ok hselect] at hc
        obtain ⟨hline, happroval, hstatus, -⟩ := mem_eligibleCandidates hc
        exact Or.inr ⟨c.line, hline, rfl, approvalIsApproved_iff.mpr ⟨c.approval, happroval, hstatus⟩⟩
  rcases createVendorDebtOffsetForPayoutBatch_ok hoffset with ⟨-, rfl⟩ | ⟨-, rfl, -⟩ | ⟨-, -, rfl⟩
  · exact hkeeps
  · exact hkeeps
  · exact hkeeps.trans (.of_eq rfl rfl (.of_eq rfl)) rfl

lemma KeepsPaidOut.prepareR1PayoutBatch {vendorId actorId requestId : Id} {ids : PayoutBatchIds}
    {now : Instant} (h : db.Integrity)
    (hs : db.prepareR1PayoutBatchInTransaction vendorId actorId requestId ids now = .ok db') :
    db.KeepsPaidOut db' := by
  obtain ⟨prepared, batch, reserved, hprepared, -, hreserved, -, -, rfl⟩ :=
    prepareR1PayoutBatchInTransaction_ok hs
  have hir := (h.preparePayoutBatch hprepared).reservePayoutOffsets hreserved
  obtain ⟨x, hx, -, -, hdraft, -, hwrites⟩ := reserveVerifiedPayoutOffsetsInTransaction_ok hreserved
  have hreservedKeeps : prepared.KeepsPaidOut reserved ∧
      reserved.payoutBatchLine = prepared.payoutBatchLine ∧
      reserved.findBatch ids.batchId = some x := by
    rcases hwrites with rfl | ⟨-, _, -, -, rfl⟩
    · exact ⟨.of_eq rfl rfl (.of_eq rfl), rfl, hx⟩
    · exact ⟨.of_eq rfl rfl (.of_eq rfl), rfl, hx⟩
  have hopen : x.status ≠ .cancelled := by
    rw [hdraft]
    decide
  have hnet : reserved.KeepsPaidOut (reserved.withR1Net ids.batchId (toMinorUnits batch.netAmount)
      (claimSum (reserved.claimsOf ids.batchId))) :=
    .withBatch hir hreservedKeeps.2.2 hopen rfl (fun _ => rfl) rfl (.of_eq rfl)
  exact ((KeepsPaidOut.preparePayoutBatch hprepared).trans hreservedKeeps.1 hreservedKeeps.2.1).trans
    hnet rfl

lemma KeepsPaidOut.finalizeClaims {payoutBatchId vendorId : Id} {currency : String}
    {firstEventId : Id} (h : db.Integrity)
    (hs : db.finalizeR1PayoutOffsetClaimsInTransaction payoutBatchId vendorId currency
      firstEventId = .ok db') :
    db.KeepsPaidOut db' ∧ db'.payoutBatchLine = db.payoutBatchLine ∧
      db'.payoutBatch = db.payoutBatch := by
  have hf := h.finalizesClaims hs
  exact ⟨.of_eq hf.batches hf.lines (.of_eq (finalizeR1PayoutOffsetClaims_ledger h hs)), hf.lines,
    hf.batches⟩

lemma KeepsPaidOut.completeR1CashlessPayout {batchId firstEventId : Id} {now : Instant}
    (h : db.Integrity) (hs : db.completeR1CashlessPayout batchId firstEventId now = .ok db') :
    db.KeepsPaidOut db' := by
  obtain ⟨b, finalized, hfind, hreview, -, hfinalized, rfl⟩ :=
    completeR1CashlessPayout_ok h.toConstraints hs
  obtain ⟨hkeeps, -, hbatches⟩ := KeepsPaidOut.finalizeClaims h hfinalized
  have hfindFinal : finalized.findBatch batchId = some b := by
    unfold findBatch at hfind ⊢
    rwa [hbatches]
  refine hkeeps.trans ?_ rfl
  refine .withBatch (h.finalizeClaims hfinalized) hfindFinal (by rw [hreview]; decide) rfl
    (fun _ => rfl) rfl ?_
  exact .updateWhere rfl fun _ => rfl

lemma KeepsPaidOut.markPayoutBatchPaid {batchId : Id} {evidence : PaymentEvidence}
    {actualR1EftAmountMinor : Option ℤ} {firstEventId : Id} {now : Instant} (h : db.Integrity)
    (hs : db.markPayoutBatchPaidInTransaction batchId evidence actualR1EftAmountMinor firstEventId
      now = .ok db') : db.KeepsPaidOut db' := by
  obtain ⟨b, finalized, hfind, hreview, -, -, hfinalized, rfl⟩ :=
    markPayoutBatchPaidInTransaction_ok h.toConstraints hs
  have hkeeps : db.KeepsPaidOut finalized ∧ finalized.payoutBatch = db.payoutBatch := by
    unfold FinanceDb.finalizeForPayment at hfinalized
    split at hfinalized
    · obtain ⟨hkeeps, -, hbatches⟩ := KeepsPaidOut.finalizeClaims h hfinalized
      exact ⟨hkeeps, hbatches⟩
    · rw [← pure_eq_ok.mp hfinalized]
      exact ⟨.of_eq rfl rfl (.of_eq rfl), rfl⟩
  have hfindFinal : finalized.findBatch batchId = some b := by
    unfold findBatch at hfind ⊢
    rwa [hkeeps.2]
  refine hkeeps.1.trans ?_ rfl
  refine .withBatch (h.finalizeForPayment hfinalized) hfindFinal (by rw [hreview]; decide) rfl
    (fun _ => rfl) rfl ?_
  exact .updateWhere rfl fun _ => rfl

/-- A cancelled batch is its open batch with a new status. -/
lemma KeepsPaidOut.withCancelledBatch {batchId : Id} {b : PayoutBatch} (h : db.Integrity)
    (hfind : db.findBatch batchId = some b) (hopen : b.status ≠ .cancelled) :
    db.KeepsPaidOut (db.withCancelledBatch batchId) :=
  .withBatch h hfind hopen (f := fun b => { b with status := .cancelled }) rfl (fun _ => rfl) rfl
    (.of_eq rfl)

end FinanceDb

open FinanceDb in
theorem FinanceDb.KeepsPaidOut.step {db db' : FinanceDb} {a : Action} (h : db.Integrity)
    (hs : step a db = .ok db') : db.KeepsPaidOut db' := by
  have hdraft : ∀ {b : PayoutBatch}, b.status = .draft → b.status ≠ .cancelled := by
    intro b hb
    rw [hb]
    decide
  have hreview : ∀ {b : PayoutBatch}, b.status = .review → b.status ≠ .cancelled := by
    intro b hb
    rw [hb]
    decide
  cases a with
  | recordSale allocation sale =>
      simp only [Finance.step, FinanceDb.recordSale, bind_eq_ok, insertRows_eq_ok, pure_eq_ok] at hs
      obtain ⟨_, -, _, -, _, ⟨-, rfl⟩, rfl⟩ := hs
      exact .of_eq rfl rfl (.append rfl)
  | updateAllocation allocation =>
      obtain rfl := Except.ok.inj hs
      exact .of_eq rfl rfl (.of_eq rfl)
  | setFinanceIntegrityAlerts alerts =>
      obtain rfl := Except.ok.inj hs
      exact .of_eq rfl rfl (.of_eq rfl)
  | setCommissionInvoices invoices =>
      obtain rfl := Except.ok.inj hs
      exact .of_eq rfl rfl (.of_eq rfl)
  | setTerminalEvidenceReviews reviews =>
      obtain rfl := Except.ok.inj hs
      exact .of_eq rfl rfl (.of_eq rfl)
  | recordCorrectionCredit source =>
      simp only [Finance.step, FinanceDb.recordCorrectionCredit, bind_eq_ok, pure_eq_ok] at hs
      obtain ⟨_, -, rfl⟩ := hs
      exact .of_eq rfl rfl (.of_eq rfl)
  | recordCorrectionDeduction source =>
      simp only [Finance.step, FinanceDb.recordCorrectionDeduction, bind_eq_ok, pure_eq_ok] at hs
      obtain ⟨_, -, rfl⟩ := hs
      exact .of_eq rfl rfl (.of_eq rfl)
  | recordApprovedDeductionCoverage coverage =>
      simp only [Finance.step, FinanceDb.recordApprovedDeductionCoverage, bind_eq_ok, pure_eq_ok]
        at hs
      obtain ⟨_, -, rfl⟩ := hs
      exact .of_eq rfl rfl (.of_eq rfl)
  | chargePaidCorrection eventId authority authorizedDebtMinor =>
      obtain ⟨-, -, rfl⟩ := createVendorDebtForPaidFinancialCorrection_ok hs
      exact .of_eq rfl rfl (.of_eq rfl)
  | ingestRefund r =>
      obtain ⟨sale, -, -, -, -, written, hwritten, hrest⟩ := ingestRefund_ok hs
      have hkeeps : db.KeepsPaidOut written := by
        obtain ⟨-, rfl⟩ := writeRefundLedger_ok hwritten
        exact .of_eq rfl rfl (.append rfl)
      rcases hrest with ⟨refund, -, hdebt⟩ | hadjustment
      · rcases createVendorDebtForPaidRefund_ok hdebt with rfl | ⟨_, -, -, rfl⟩
        · exact hkeeps
        · exact hkeeps.trans (.of_eq rfl rfl (.of_eq rfl)) rfl
      · rcases createSettlementRefundAdjustmentForRefundLedger_ok hadjustment with
          rfl | ⟨_, -, -, -, rfl⟩
        · exact hkeeps
        · exact hkeeps.trans (.of_eq rfl rfl (.of_eq rfl)) rfl
  | createDraftApproval input ids now =>
      obtain ⟨_, _, _, _, _, _, -, -, -, -, -, -, -, -, -, -, rfl⟩ :=
        createDraftApprovalInTransaction_ok h.adjustment_key h.application_key hs
      exact .of_eq rfl rfl (.of_eq rfl)
  | approveSettlement id firstAdjustmentId now =>
      have hsame : db'.payoutBatch = db.payoutBatch ∧ db'.payoutBatchLine = db.payoutBatchLine ∧
          db'.financeLedgerEntry = db.financeLedgerEntry := by
        refine executeCanonicalSettlementApproval_preserves (P := fun t =>
          t.payoutBatch = db.payoutBatch ∧ t.payoutBatchLine = db.payoutBatchLine ∧
            t.financeLedgerEntry = db.financeLedgerEntry) hs ⟨rfl, rfl, rfl⟩ ?_
        intro s t adjustmentId refundLedgerId recordId hs ht
        rcases createSettlementRefundAdjustmentForRefundLedger_ok ht with rfl | ⟨_, -, -, -, rfl⟩
        · exact hs
        · exact hs
      exact .of_eq hsame.1 hsame.2.1 (.of_eq hsame.2.2)
  | cancelSettlement id =>
      obtain ⟨_, -, -, -, rfl⟩ := cancelSettlementApproval_ok hs
      rw [cancelApplications_eq h.application_key h.application_unique]
      exact .of_eq rfl rfl (.of_eq rfl)
  | preparePayout vendorId ids now => exact .preparePayoutBatch hs
  | prepareR1Payout vendorId actorId requestId ids now => exact .prepareR1PayoutBatch h hs
  | prepareAdminPayout vendorId actorId requestId ids now =>
      rcases prepareAdminPayoutBatchWithR1_ok hs with rfl | hr1 | hordinary
      · exact .of_eq rfl rfl (.of_eq rfl)
      · exact .prepareR1PayoutBatch h hr1
      · exact .preparePayoutBatch hordinary
  | reservePayoutOffsets input now =>
      obtain ⟨_, -, -, -, -, -, rfl | ⟨-, _, -, -, rfl⟩⟩ :=
        reserveVerifiedPayoutOffsetsInTransaction_ok hs
      · exact .of_eq rfl rfl (.of_eq rfl)
      · exact .of_eq rfl rfl (.of_eq rfl)
  | markPayoutReview batchId now =>
      obtain ⟨⟨b, hfind, hstatus⟩, rfl⟩ := markPayoutBatchReview_ok h.toConstraints hs
      exact .withBatch h hfind (hdraft hstatus) rfl (fun _ => rfl) rfl (.of_eq rfl)
  | markR1PayoutReview batchId now =>
      obtain ⟨⟨b, hfind, hstatus⟩, rfl⟩ := markR1PayoutBatchReview_ok h.toConstraints hs
      exact .withBatch h hfind (hdraft hstatus) rfl (fun _ => rfl) rfl (.of_eq rfl)
  | cancelDraftPayout batchId actorId =>
      obtain ⟨⟨b, hfind, hstatus⟩, rfl⟩ := cancelDraftPayoutBatchWithClient_ok h.toConstraints hs
      exact .withCancelledBatch h hfind (hdraft hstatus)
  | cancelReviewPayout batchId =>
      obtain ⟨⟨b, hfind, hstatus⟩, -, rfl⟩ := cancelReviewPayoutBatchWithClient_ok h.toConstraints hs
      exact .withCancelledBatch h hfind (hreview hstatus)
  | cancelR1ReviewPayout batchId actorUserId =>
      obtain ⟨⟨b, hfind, hstatus⟩, rfl⟩ := cancelR1ReviewPayoutBeforeEft_ok h.toConstraints hs
      exact .withCancelledBatch h hfind (hreview hstatus)
  | cancelPayout batchId actorId =>
      obtain ⟨⟨b, hfind, -, -, hstatus⟩, rfl⟩ := cancelPayoutBatch_ok h.toConstraints hs
      exact .withCancelledBatch h hfind hstatus
  | completeCashlessPayout batchId firstEventId now => exact .completeR1CashlessPayout h hs
  | markPayoutPaid batchId evidence now => exact .markPayoutBatchPaid h hs
  | markR1PayoutPaid batchId evidence actualEftAmountMinor firstEventId now =>
      exact .markPayoutBatchPaid h (markR1PayoutBatchPaid_ok hs)

namespace FinanceDb

variable {db db' : FinanceDb} {ledgerId : Id}

lemma isActivePayoutBatchStatus_eq_false {s : PayoutBatchStatus} :
    isActivePayoutBatchStatus s = false ↔ s = .cancelled := by
  rw [← Bool.not_eq_true, isActivePayoutBatchStatus_iff, not_not]

/-- **No transaction settles a voided sale.** -/
theorem Unsettled.step {a : Action} (hu : db.Unsettled ledgerId) (hv : db.HasVoidedSale ledgerId)
    (h : db.Integrity) (hs : Finance.step a db = .ok db') :
    db'.HasVoidedSale ledgerId ∧ db'.Unsettled ledgerId := by
  have hk := KeepsPaidOut.step h hs
  have h' := h.step hs
  refine ⟨hv.keeps hk.ledger, Unapproved.step hu.1 hv h hs, fun m hm hid => ?_⟩
  rcases hk.lines m hm with hold | ⟨l, hl, hledger, happroved⟩
  · obtain ⟨b, hb, hbid⟩ := h.batchLine_batch m hold
    have hfind : db.findBatch m.payoutBatchId = some b := hbid ▸ findRow_of_mem h.batch_key hb
    have hinactive := hu.2 m hold hid
    unfold batchIsActive at hinactive
    rw [hfind] at hinactive
    have hcancelled : db.isCancelledBatch m.payoutBatchId = true := by
      unfold isCancelledBatch
      rw [hfind]
      simpa [isActivePayoutBatchStatus_eq_false] using hinactive
    obtain ⟨c, hc, hstatus⟩ := (Option.any_eq_true _ _).mp (hk.cancelled _ hcancelled)
    unfold batchIsActive
    rw [hc]
    simpa [isActivePayoutBatchStatus_eq_false] using hstatus
  · rw [hu.1 l hl (hledger.trans hid)] at happroved
    cases happroved

end FinanceDb

end VendorDashboard.Finance

namespace VendorDashboard.CanonicalCancellation

open Table Transaction Finance Interleaving Run

/-! ## What is read -/

lemma mem_activeLedgers {o : LocalOrder} {x : LocalAllocation × SaleLedger} :
    x ∈ o.activeLedgers ↔
      x.1 ∈ o.allocations ∧ x.2 ∈ x.1.financeEntries ∧ x.2.voidedAt = none := by
  obtain ⟨a, l⟩ := x
  simp [LocalOrder.activeLedgers]

namespace OrderDb

variable {db : OrderDb}

/-- The rows that a local order lists are sales of the database. -/
lemma activeLedger_of_findLocalOrder {sourceShopifyOrderId : String} {o : LocalOrder}
    (h : db.findLocalOrderForCancellation sourceShopifyOrderId = some o)
    {x : LocalAllocation × SaleLedger} (hx : x ∈ o.activeLedgers) :
    ∃ e ∈ db.finance.financeLedgerEntry, e.entryType = .sale ∧ x.2 = db.saleLedger e := by
  obtain ⟨row, -, rfl⟩ := Option.map_eq_some_iff.mp h
  obtain ⟨hallocation, hledger, -⟩ := mem_activeLedgers.mp hx
  obtain ⟨a, -, ha⟩ := List.mem_map.mp hallocation
  rw [← ha] at hledger
  obtain ⟨e, he, hsame⟩ := List.mem_map.mp hledger
  obtain ⟨hmem, hsel⟩ := List.mem_filter.mp he
  simp only [Bool.and_eq_true, decide_eq_true_eq] at hsel
  exact ⟨e, hmem, hsel.2, hsame.symm⟩

lemma hasSale_of_findLocalOrder {sourceShopifyOrderId : String} {o : LocalOrder}
    (h : db.findLocalOrderForCancellation sourceShopifyOrderId = some o) :
    ∀ x ∈ o.activeLedgers, db.finance.HasSale x.2.id := by
  intro x hx
  obtain ⟨e, he, htype, hsame⟩ := activeLedger_of_findLocalOrder h hx
  exact ⟨e, he, by rw [hsame]; rfl, htype⟩

/-- A row that needs no review is unsettled. -/
lemma unsettled_of_not_review {e : FinanceLedgerEntry}
    (h : isFinanceReviewRequired (db.saleLedger e) = false) : db.finance.Unsettled e.id := by
  simp only [isFinanceReviewRequired, Bool.or_eq_false_iff, List.any_eq_false, decide_eq_true_eq]
    at h
  obtain ⟨⟨-, hsettlements⟩, hbatches⟩ := h
  refine ⟨fun l hl hid => ?_, fun m hm hid => ?_⟩
  · unfold FinanceDb.approvalIsApproved
    cases ha : db.finance.findApproval l.settlementApprovalId with
    | none => rfl
    | some a =>
        have hread : a.status ∈ (db.saleLedger e).settlementStatuses :=
          List.mem_filterMap.mpr ⟨l, List.mem_filter.mpr ⟨hl, by simpa using hid⟩, by rw [ha]; rfl⟩
        simpa using hsettlements _ hread
  · unfold FinanceDb.batchIsActive
    cases hb : db.finance.findBatch m.payoutBatchId with
    | none => rfl
    | some b =>
        have hread : b.status ∈ (db.saleLedger e).payoutBatchStatuses :=
          List.mem_filterMap.mpr ⟨m, List.mem_filter.mpr ⟨hm, by simpa using hid⟩, by rw [hb]; rfl⟩
        have hcancelled := hbatches _ hread
        rw [not_not] at hcancelled
        rw [Option.any_some, hcancelled]
        rfl

/-! ## What is written -/

/-- The rows voided by a cancellation are voided, and none is settled. -/
structure Sound (db : OrderDb) : Prop where
  integrity : db.finance.Integrity
  voided : ∀ id reason, db.voidReason id = some reason →
    db.finance.HasVoidedSale id ∧ db.finance.Unsettled id

lemma Sound.voidLedger (h : db.Sound) {id : Id} {voidedAt : Instant} {voidReason : String}
    (hsale : db.finance.HasSale id) (hu : db.finance.Unsettled id) :
    (voidLedger voidedAt voidReason db id).Sound where
  integrity := h.integrity.rewriteLedger fun e =>
    ⟨.hold, .held, some "Canonical Shopify order cancellation.", e.settledAt, some voidedAt, rfl⟩
  voided := by
    intro j reason hj
    by_cases hid : j = id
    · subst hid
      obtain ⟨e, he, heid, htype⟩ := hsale
      refine ⟨⟨_, mem_updateWhere.mpr ⟨e, he, rfl⟩, ?_⟩, hu⟩
      rw [if_pos (by simpa using heid)]
      exact ⟨heid, htype, rfl⟩
    · have hreason : Function.update db.voidReason id (some voidReason) j = some reason := hj
      rw [Function.update_of_ne hid] at hreason
      obtain ⟨⟨e, he, heid, htype, hvoided⟩, hunsettled⟩ := h.voided j reason hreason
      refine ⟨⟨_, mem_updateWhere.mpr ⟨e, he, rfl⟩, ?_⟩, hunsettled⟩
      rw [if_neg (by simpa [heid] using hid)]
      exact ⟨heid, htype, hvoided⟩

lemma hasSale_voidLedger {id j : Id} {voidedAt : Instant} {voidReason : String}
    (h : db.finance.HasSale j) : (voidLedger voidedAt voidReason db id).finance.HasSale j := by
  obtain ⟨e, he, heid, htype⟩ := h
  refine ⟨_, mem_updateWhere.mpr ⟨e, he, rfl⟩, ?_⟩
  split
  · exact ⟨heid, htype⟩
  · exact ⟨heid, htype⟩

/-- Voiding unsettled sales one by one; the induction is on the rows left. -/
lemma Sound.voidLedgers {ids : List Id} {voidedAt : Instant} {voidReason : String}
    (h : db.Sound) (hsale : ∀ id ∈ ids, db.finance.HasSale id)
    (hu : ∀ id ∈ ids, db.finance.Unsettled id) :
    (ids.foldl (OrderDb.voidLedger voidedAt voidReason) db).Sound := by
  induction ids generalizing db with
  | nil => exact h
  | cons id ids ih =>
      refine ih (h.voidLedger (hsale id List.mem_cons_self) (hu id List.mem_cons_self))
        (fun j hj => ?_) fun j hj => ?_
      · exact hasSale_voidLedger (hsale j (List.mem_cons_of_mem _ hj))
      · exact hu j (List.mem_cons_of_mem _ hj)

lemma hasSale_voidLedgers {ids : List Id} {voidedAt : Instant} {voidReason : String} {j : Id}
    (h : db.finance.HasSale j) :
    (ids.foldl (OrderDb.voidLedger voidedAt voidReason) db).finance.HasSale j := by
  induction ids generalizing db with
  | nil => exact h
  | cons id ids ih => exact ih (hasSale_voidLedger h)

lemma Sound.voidSales (h : db.Sound) {canonicalOrder : CanonicalShopifyOrderSnapshot}
    {o : LocalOrder} {now : Instant} (hsale : ∀ x ∈ o.activeLedgers, db.finance.HasSale x.2.id)
    (hu : ∀ x ∈ o.activeLedgers, db.finance.Unsettled x.2.id) :
    (db.voidSales canonicalOrder o now).Sound := by
  have hcancelled : (db.cancelAllocations (o.allocations.map (·.id))).Sound :=
    ⟨h.integrity, h.voided⟩
  refine hcancelled.voidLedgers (fun id hid => ?_) fun id hid => ?_
  · obtain ⟨x, hx, rfl⟩ := List.mem_map.mp hid
    exact hsale x hx
  · obtain ⟨x, hx, rfl⟩ := List.mem_map.mp hid
    exact hu x hx

end OrderDb

/-- The columns that a cancellation may write, apart from the order's own. -/
def SameSales (db db' : OrderDb) : Prop :=
  db'.finance = db.finance ∧ db'.allocationColumns = db.allocationColumns ∧
    db'.voidReason = db.voidReason

lemma sameSales_persist (db : OrderDb) (orderId : Id)
    (canonicalOrder : CanonicalShopifyOrderSnapshot) :
    SameSales db (db.persistCanonicalCancellationMetadata orderId canonicalOrder) :=
  ⟨rfl, rfl, rfl⟩

/-- What the transaction of the order repair does: nothing to the sales, or it voids rows that it
found unsettled. -/
theorem applyCanonicalCancellation_ok {db : OrderDb} {canonicalOrder : CanonicalShopifyOrderSnapshot}
    {now : Instant} {r : TransactionalCanonicalCancellationResult} {t : OrderDb}
    (h : applyCanonicalCancellationInTransaction db canonicalOrder now = .ok (r, t)) :
    ((r.applied = false ∨ r.conflict ≠ .none) ∧ SameSales db t) ∨
      r.applied = true ∧ r.conflict = .none ∧
        ∃ o, db.findLocalOrderForCancellation canonicalOrder.sourceShopifyOrderId = some o ∧
          (∀ x ∈ o.activeLedgers, db.finance.Unsettled x.2.id) ∧
          t = (db.persistCanonicalCancellationMetadata o.id canonicalOrder).voidSales
            canonicalOrder o now := by
  unfold applyCanonicalCancellationInTransaction at h
  split at h
  · obtain ⟨rfl, rfl⟩ := Prod.mk.injEq _ _ _ _ ▸ Except.ok.inj h
    exact Or.inl ⟨Or.inl rfl, rfl, rfl, rfl⟩
  · cases h
  · obtain ⟨o, ho, h⟩ := bind_eq_ok.mp h
    rw [getOrThrow_eq_ok] at ho
    dsimp only at h
    split at h
    · obtain ⟨rfl, rfl⟩ := Prod.mk.injEq _ _ _ _ ▸ pure_eq_ok.mp h
      exact Or.inl ⟨Or.inr (by simp), sameSales_persist db o.id canonicalOrder⟩
    · split at h
      · obtain ⟨rfl, rfl⟩ := Prod.mk.injEq _ _ _ _ ▸ pure_eq_ok.mp h
        exact Or.inl ⟨Or.inr (by simp), sameSales_persist db o.id canonicalOrder⟩
      · rename_i hreview
        obtain ⟨rfl, rfl⟩ := Prod.mk.injEq _ _ _ _ ▸ pure_eq_ok.mp h
        refine Or.inr ⟨rfl, rfl, o, ho, fun x hx => ?_, rfl⟩
        obtain ⟨e, -, -, hsame⟩ := OrderDb.activeLedger_of_findLocalOrder ho hx
        have hnot : isFinanceReviewRequired x.2 = false := by
          by_contra hyes
          exact hreview (List.any_eq_true.mpr ⟨x, hx, Bool.eq_true_of_not_eq_false hyes⟩)
        rw [hsame] at hnot ⊢
        exact OrderDb.unsettled_of_not_review hnot

/-! ## Runs -/

/-- What a call knows: the rows that it read are sales, and nothing has failed yet. -/
def ReconcileCall.Knows (db : OrderDb) : ReconcileCall → Prop
  | .locating _ report => report.failedCount = 0 ∧ report.skippedCount = 0
  | .storing _ o report | .voiding _ o report =>
      (report.failedCount = 0 ∧ report.skippedCount = 0) ∧
        ∀ x ∈ o.activeLedgers, db.finance.HasSale x.2.id
  | _ => True

/-- Sales are never deleted. -/
lemma ReconcileCall.Knows.mono {db db' : OrderDb} {call : ReconcileCall} (h : call.Knows db)
    (hk : ∀ id, db.finance.HasSale id → db'.finance.HasSale id) : call.Knows db' := by
  cases call with
  | fetching _ => trivial
  | locating _ _ => exact h
  | storing _ _ _ => exact ⟨h.1, fun x hx => hk _ (h.2 x hx)⟩
  | voiding _ _ _ => exact ⟨h.1, fun x hx => hk _ (h.2 x hx)⟩
  | returned _ => trivial

/-- Every row that a voiding call has read is unsettled when it voids them. -/
def FindsUnsettled (w : World OrderDb ReconcileCall) (m : Move String Answer OutsideMove) : Prop :=
  match m with
  | .run i _ =>
      match w.process i with
      | some (.voiding _ o _) => ∀ x ∈ o.activeLedgers, w.shared.finance.Unsettled x.2.id
      | _ => True
  | _ => True

instance (w : World OrderDb ReconcileCall) (m : Move String Answer OutsideMove) :
    Decidable (FindsUnsettled w m) :=
  match m with
  | .start _ _ => isTrue trivial
  | .outside _ => isTrue trivial
  | .run i _ =>
      match h : w.process i with
      | some (.voiding _ o _) =>
          decidable_of_iff (∀ x ∈ o.activeLedgers, w.shared.finance.Unsettled x.2.id)
            (by simp [FindsUnsettled, h])
      | none | some (.fetching _) | some (.locating _ _) | some (.storing _ _ _)
      | some (.returned _) => isTrue (by simp [FindsUnsettled, h])

lemma knows_afterFetch (db : OrderDb) (sourceShopifyOrderId : String)
    (canonicalOrder : CanonicalShopifyOrderSnapshot) :
    (afterFetch sourceShopifyOrderId canonicalOrder).Knows db := by
  unfold afterFetch
  dsimp only
  split
  · trivial
  · trivial
  · exact ⟨rfl, rfl⟩

lemma knows_afterStore {db : OrderDb} {canonicalOrder : CanonicalShopifyOrderSnapshot}
    {o : LocalOrder} {report : CancellationReport}
    (h : (ReconcileCall.storing canonicalOrder o report).Knows db) :
    (afterStore canonicalOrder o report).Knows db := by
  unfold afterStore
  dsimp only
  split
  · trivial
  · split
    · trivial
    · exact h

/-- **What one step of a call does**: nothing to the sales, or it voids the rows that it read and
reports no failure. -/
theorem reconcileShopifyOrderCancellation_some {answer : Answer} {db db' : OrderDb}
    {call next : ReconcileCall}
    (h : reconcileShopifyOrderCancellation answer db call = some (db', next))
    (hk : call.Knows db) :
    next.Knows db' ∧ (SameSales db db' ∨ ∃ canonicalOrder o report,
      call = .voiding canonicalOrder o report ∧
        db' = db.voidSales canonicalOrder o answer.now ∧
        next = .returned (some (reconciledReport o report))) := by
  cases call with
  | fetching sourceShopifyOrderId =>
      unfold reconcileShopifyOrderCancellation at h
      dsimp only at h
      split at h
      · obtain ⟨rfl, rfl⟩ := Prod.mk.injEq _ _ _ _ ▸ Option.some.inj h
        exact ⟨trivial, Or.inl ⟨rfl, rfl, rfl⟩⟩
      · obtain ⟨rfl, rfl⟩ := Prod.mk.injEq _ _ _ _ ▸ Option.some.inj h
        exact ⟨knows_afterFetch _ _ _, Or.inl ⟨rfl, rfl, rfl⟩⟩
  | locating canonicalOrder report =>
      unfold reconcileShopifyOrderCancellation at h
      dsimp only at h
      split at h
      · obtain ⟨rfl, rfl⟩ := Prod.mk.injEq _ _ _ _ ▸ Option.some.inj h
        exact ⟨trivial, Or.inl ⟨rfl, rfl, rfl⟩⟩
      · rename_i o ho
        obtain ⟨rfl, rfl⟩ := Prod.mk.injEq _ _ _ _ ▸ Option.some.inj h
        exact ⟨⟨hk, OrderDb.hasSale_of_findLocalOrder ho⟩, Or.inl ⟨rfl, rfl, rfl⟩⟩
  | storing canonicalOrder o report =>
      obtain ⟨rfl, rfl⟩ := Prod.mk.injEq _ _ _ _ ▸ Option.some.inj h
      exact ⟨knows_afterStore hk, Or.inl (sameSales_persist db o.id canonicalOrder)⟩
  | voiding canonicalOrder o report =>
      obtain ⟨rfl, rfl⟩ := Prod.mk.injEq _ _ _ _ ▸ Option.some.inj h
      exact ⟨trivial, Or.inr ⟨canonicalOrder, o, report, rfl, rfl, rfl⟩⟩
  | returned report => cases h

lemma SameSales.sound {db db' : OrderDb} (hs : SameSales db db') (h : db.Sound) : db'.Sound := by
  obtain ⟨hfinance, -, hreason⟩ := hs
  refine ⟨by rw [hfinance]; exact h.integrity, fun id reason hid => ?_⟩
  rw [hreason] at hid
  rw [hfinance]
  exact h.voided id reason hid

lemma hasSale_voidSales {db : OrderDb} {canonicalOrder : CanonicalShopifyOrderSnapshot}
    {o : LocalOrder} {now : Instant} {id : Id} (h : db.finance.HasSale id) :
    (db.voidSales canonicalOrder o now).finance.HasSale id := by
  have hcancelled : (db.cancelAllocations (o.allocations.map (·.id))).finance.HasSale id := h
  exact OrderDb.hasSale_voidLedgers hcancelled

/-- A move of the surroundings keeps the books. -/
lemma OrderDb.Sound.outside {db db' : OrderDb} {m : OutsideMove} (h : db.Sound)
    (hs : CanonicalCancellation.outside m db = some db') :
    db'.Sound ∧ ∀ id, db.finance.HasSale id → db'.finance.HasSale id := by
  cases m with
  | finance action =>
      obtain ⟨f, hf, rfl⟩ := Option.map_eq_some_iff.mp hs
      rw [toOption_eq_some] at hf
      refine ⟨⟨h.integrity.step hf, fun id reason hid => ?_⟩, fun id hid => ?_⟩
      · obtain ⟨hvoided, hunsettled⟩ := h.voided id reason hid
        exact hunsettled.step hvoided h.integrity hf
      · exact hid.keeps (FinanceDb.KeepsPaidOut.step h.integrity hf).ledger
  | repairOrder canonicalOrder now =>
      obtain ⟨⟨r, t⟩, ht, rfl⟩ := Option.map_eq_some_iff.mp hs
      rw [toOption_eq_some] at ht
      rcases applyCanonicalCancellation_ok ht with ⟨-, hsame⟩ | ⟨-, -, o, ho, hu, rfl⟩
      · exact ⟨hsame.sound h, fun id hid => by rw [hsame.1]; exact hid⟩
      · have hstored := (sameSales_persist db o.id canonicalOrder).sound h
        have hsales := OrderDb.hasSale_of_findLocalOrder ho
        refine ⟨hstored.voidSales hsales hu, fun id hid => ?_⟩
        exact hasSale_voidSales hid
  | recordOrder order =>
      obtain ⟨orders, -, rfl⟩ := Option.map_eq_some_iff.mp hs
      exact ⟨⟨h.integrity, h.voided⟩, fun id hid => hid⟩
  | updateAllocation id columns =>
      obtain rfl := Option.some.inj hs
      exact ⟨⟨h.integrity, h.voided⟩, fun id hid => hid⟩

/-- A step of a call that finds its rows unsettled keeps the books. -/
lemma sound_of_run {w : World OrderDb ReconcileCall} {i : ℕ} {answer : Answer}
    {call next : ReconcileCall} {db' : OrderDb} (h : w.shared.Sound) (hk : call.Knows w.shared)
    (hp : w.process i = some call) (hok : FindsUnsettled w (.run i answer))
    (hrun : reconcileShopifyOrderCancellation answer w.shared call = some (db', next)) :
    db'.Sound ∧ ∀ id, w.shared.finance.HasSale id → db'.finance.HasSale id := by
  obtain ⟨-, hsame | ⟨canonicalOrder, o, report, rfl, rfl, -⟩⟩ :=
    reconcileShopifyOrderCancellation_some hrun hk
  · exact ⟨hsame.sound h, fun id hid => by rw [hsame.1]; exact hid⟩
  · simp only [FindsUnsettled, hp] at hok
    exact ⟨h.voidSales hk.2 hok, fun id hid => hasSale_voidSales hid⟩

theorem system_sound : Program.Sound system (· = OrderDb.empty) FindsUnsettled OrderDb.Sound
    fun _ db call => call.Knows db where
  init := by
    rintro s rfl
    refine ⟨FinanceDb.Integrity.empty, fun id reason hid => ?_⟩
    cases hid
  start := fun i s input h => trivial
  run := by
    intro w i answer p s q hw hp hok hrun
    have hk := hw.2 i p hp
    exact ⟨(sound_of_run hw.1 hk hp hok hrun).1, (reconcileShopifyOrderCancellation_some hrun hk).1⟩
  interference := by
    intro w i answer p s q hw hp hok hrun j r hj hr
    exact (hw.2 j r hr).mono (sound_of_run hw.1 (hw.2 i p hp) hp hok hrun).2
  outside := by
    intro w e s hw hok hs
    obtain ⟨hsound, hkeeps⟩ := hw.1.outside hs
    exact ⟨hsound, fun j r hr => (hw.2 j r hr).mono hkeeps⟩

/-! ## The two implementations -/

/-- What is decided about an order. -/
inductive CancellationDecision
  | nothing | manualReview | missingOrder | operationalConflict | financeReview
  | voids (ledgerIds : List Id)
  deriving DecidableEq

/-- The decision of the order repair. -/
def transactionDecision :
    Except String (TransactionalCanonicalCancellationResult × OrderDb) → CancellationDecision
  | .error message => if message = PARTIAL_CANCELLATION then .manualReview else .missingOrder
  | .ok (r, _) =>
      if r.applied = false then .nothing
      else match r.conflict with
        | .operationalState => .operationalConflict
        | .financeReview => .financeReview
        | .none => .voids r.ledgerIds

/-- The decision that a report of the reconciliation tells. -/
def CancellationReport.decision (report : CancellationReport) : CancellationDecision :=
  match report.cancellationState with
  | .none => .nothing
  | .unknownRequiresManualReview => .manualReview
  | .fullOrderCancelled =>
      match report.results.head? with
      | some ⟨.failed, _, _, none, _⟩ => .missingOrder
      | some ⟨.failed, _, _, some _, none⟩ => .operationalConflict
      | some ⟨.failed, _, _, some _, some _⟩ => .financeReview
      | _ => .voids report.ledgersHeldOrVoided

/-- A call that nobody interrupts, for the given number of steps. -/
def runCall (answer : Answer) : ℕ → OrderDb × ReconcileCall → OrderDb × ReconcileCall
  | 0, s => s
  | n + 1, s =>
      match reconcileShopifyOrderCancellation answer s.1 s.2 with
      | none => s
      | some t => runCall answer n t

/-- A call on the order of the snapshot, run to its end. -/
def reconcileAlone (canonicalOrder : CanonicalShopifyOrderSnapshot) (now : Instant) (db : OrderDb) :
    OrderDb × ReconcileCall :=
  runCall ⟨some canonicalOrder, now⟩ 4 (db, .fetching canonicalOrder.sourceShopifyOrderId)

lemma runCall_returned (answer : Answer) (n : ℕ) (db : OrderDb)
    (report : Option CancellationReport) :
    runCall answer n (db, .returned report) = (db, .returned report) := by
  cases n with
  | zero => rfl
  | succ n => rfl

lemma reconcileAlone_afterFetch (canonicalOrder : CanonicalShopifyOrderSnapshot) (now : Instant)
    (db : OrderDb) : reconcileAlone canonicalOrder now db =
      runCall ⟨some canonicalOrder, now⟩ 3
        (db, afterFetch canonicalOrder.sourceShopifyOrderId canonicalOrder) := rfl

/-- The report that a call on a cancelled order starts with. -/
def cancelledReport (canonicalOrder : CanonicalShopifyOrderSnapshot) : CancellationReport :=
  buildEmptyReport canonicalOrder.sourceShopifyOrderId (classifyCanonicalCancellation canonicalOrder)

lemma afterFetch_cancelled {canonicalOrder : CanonicalShopifyOrderSnapshot}
    (hstate : (classifyCanonicalCancellation canonicalOrder).state = .fullOrderCancelled) :
    afterFetch canonicalOrder.sourceShopifyOrderId canonicalOrder =
      .locating canonicalOrder (cancelledReport canonicalOrder) := by
  unfold afterFetch
  simp only [hstate]
  rfl

/-- A call on a cancelled order whose local order is known. -/
lemma reconcileAlone_located {canonicalOrder : CanonicalShopifyOrderSnapshot} {now : Instant}
    {db : OrderDb} {o : LocalOrder}
    (hstate : (classifyCanonicalCancellation canonicalOrder).state = .fullOrderCancelled)
    (ho : db.findLocalOrderForCancellation canonicalOrder.sourceShopifyOrderId = some o) :
    reconcileAlone canonicalOrder now db = runCall ⟨some canonicalOrder, now⟩ 1
      (db.persistCanonicalCancellationMetadata o.id canonicalOrder,
        afterStore canonicalOrder o (cancelledReport canonicalOrder)) := by
  have hfetch := afterFetch_cancelled hstate
  have hlocate : reconcileShopifyOrderCancellation ⟨some canonicalOrder, now⟩ db
      (.locating canonicalOrder (cancelledReport canonicalOrder)) =
      some (db, .storing canonicalOrder o (cancelledReport canonicalOrder)) := by
    have hfind : db.findLocalOrderForCancellation (cancelledReport canonicalOrder).shopifyOrderId =
        some o := ho
    unfold reconcileShopifyOrderCancellation
    dsimp only
    rw [hfind]
  rw [reconcileAlone_afterFetch, hfetch]
  unfold runCall
  rw [hlocate]
  rfl

/-- The decision of a call that fails for one reason. -/
lemma decision_failed {report : CancellationReport} {r : ItemResult}
    (hstate : report.cancellationState = .fullOrderCancelled) (hresults : report.results = []) :
    (report.failed r).decision =
      match some r with
      | some ⟨.failed, _, _, none, _⟩ => .missingOrder
      | some ⟨.failed, _, _, some _, none⟩ => .operationalConflict
      | some ⟨.failed, _, _, some _, some _⟩ => .financeReview
      | _ => .voids report.ledgersHeldOrVoided := by
  unfold CancellationReport.decision CancellationReport.failed
  simp only [hstate, hresults, List.nil_append, List.head?_cons]

/-- The decision of a call that voids. -/
lemma decision_reconciled {report : CancellationReport} (o : LocalOrder)
    (hstate : report.cancellationState = .fullOrderCancelled) (hresults : report.results = []) :
    (reconciledReport o report).decision = .voids (o.activeLedgers.map (·.2.id)) := by
  have hhead : ∀ r ∈ (reconciledReport o report).results.head?, r.status ≠ .failed := by
    intro r hr
    have hmem := List.mem_of_mem_head? hr
    unfold reconciledReport at hmem
    simp only [hresults, List.nil_append] at hmem
    split at hmem
    · obtain ⟨a, -, rfl⟩ := List.mem_map.mp hmem
      simp
    · obtain ⟨x, -, rfl⟩ := List.mem_map.mp hmem
      simp
  unfold CancellationReport.decision
  have hsame : (reconciledReport o report).cancellationState = .fullOrderCancelled := hstate
  rw [hsame]
  dsimp only
  split
  · rename_i hr
    exact absurd rfl (hhead _ hr)
  · rename_i hr
    exact absurd rfl (hhead _ hr)
  · rename_i hr
    exact absurd rfl (hhead _ hr)
  · rfl

/-- Both implementations take the same decision, and leave the same database. -/
theorem reconcileAlone_eq (db : OrderDb) (canonicalOrder : CanonicalShopifyOrderSnapshot)
    (now : Instant) : ∃ report : CancellationReport,
    reconcileAlone canonicalOrder now db =
      (((applyCanonicalCancellationInTransaction db canonicalOrder now).toOption.map
        Prod.snd).getD db, .returned (some report)) ∧
      report.decision =
        transactionDecision (applyCanonicalCancellationInTransaction db canonicalOrder now) := by
  cases hstate : (classifyCanonicalCancellation canonicalOrder).state with
  | none =>
      have happly : applyCanonicalCancellationInTransaction db canonicalOrder now =
          .ok (⟨false, .none, [], [], []⟩, db) := by
        unfold applyCanonicalCancellationInTransaction
        rw [hstate]
      have hfetch : afterFetch canonicalOrder.sourceShopifyOrderId canonicalOrder =
          .returned (some (cancelledReport canonicalOrder)) := by
        unfold afterFetch
        simp only [hstate]
        rfl
      refine ⟨cancelledReport canonicalOrder, ?_, ?_⟩
      · rw [reconcileAlone_afterFetch, hfetch, runCall_returned, happly]
        rfl
      · have hreport : (cancelledReport canonicalOrder).cancellationState = .none := hstate
        rw [happly]
        unfold CancellationReport.decision
        rw [hreport]
        rfl
  | unknownRequiresManualReview =>
      have happly : applyCanonicalCancellationInTransaction db canonicalOrder now =
          .error PARTIAL_CANCELLATION := by
        unfold applyCanonicalCancellationInTransaction
        rw [hstate]
      obtain ⟨report, hfetch, hreport⟩ : ∃ report,
          afterFetch canonicalOrder.sourceShopifyOrderId canonicalOrder = .returned (some report) ∧
            report.cancellationState = .unknownRequiresManualReview := by
        unfold afterFetch
        simp only [hstate]
        exact ⟨_, rfl, hstate⟩
      refine ⟨report, ?_, ?_⟩
      · rw [reconcileAlone_afterFetch, hfetch, runCall_returned, happly]
        rfl
      · rw [happly]
        have hmanual : transactionDecision (.error PARTIAL_CANCELLATION) = .manualReview := by
          simp [transactionDecision]
        rw [hmanual]
        unfold CancellationReport.decision
        rw [hreport]
  | fullOrderCancelled =>
      have hreport : (cancelledReport canonicalOrder).cancellationState = .fullOrderCancelled :=
        hstate
      cases ho : db.findLocalOrderForCancellation canonicalOrder.sourceShopifyOrderId with
      | none =>
          have happly : applyCanonicalCancellationInTransaction db canonicalOrder now =
              .error LOCAL_ORDER_MISSING := by
            unfold applyCanonicalCancellationInTransaction
            rw [hstate, ho]
            rfl
          have hfetch := afterFetch_cancelled hstate
          have hlocate : reconcileShopifyOrderCancellation ⟨some canonicalOrder, now⟩ db
              (.locating canonicalOrder (cancelledReport canonicalOrder)) =
              some (db, .returned (some ((cancelledReport canonicalOrder).failed ⟨.failed,
                "canonical_order_cancellation_missing_local_order", none, none, none⟩))) := by
            have hfind : db.findLocalOrderForCancellation
                (cancelledReport canonicalOrder).shopifyOrderId = none := ho
            unfold reconcileShopifyOrderCancellation
            dsimp only
            rw [hfind]
          refine ⟨(cancelledReport canonicalOrder).failed ⟨.failed,
            "canonical_order_cancellation_missing_local_order", none, none, none⟩, ?_, ?_⟩
          · rw [reconcileAlone_afterFetch, hfetch, happly]
            unfold runCall
            rw [hlocate]
            exact runCall_returned _ _ _ _
          · have hmessage : LOCAL_ORDER_MISSING ≠ PARTIAL_CANCELLATION := by
              unfold LOCAL_ORDER_MISSING PARTIAL_CANCELLATION
              decide
            have hmissing : transactionDecision (.error LOCAL_ORDER_MISSING) = .missingOrder := by
              simp [transactionDecision, hmessage]
            rw [decision_failed hreport rfl, happly, hmissing]
      | some o =>
          rw [reconcileAlone_located hstate ho]
          unfold applyCanonicalCancellationInTransaction
          rw [hstate, ho]
          unfold afterStore
          dsimp only
          have hsome : ∀ {β : Type} (f : LocalOrder → Except String β),
              (getOrThrow (some o) LOCAL_ORDER_MISSING >>= f) = f o := fun _ => rfl
          rw [hsome]
          cases hconflict : o.allocations.find? isOperationalConflict with
          | some conflict =>
              have hany : o.allocations.any isOperationalConflict = true :=
                List.any_eq_true.mpr ⟨conflict, List.mem_of_find?_eq_some hconflict,
                  List.find?_some hconflict⟩
              rw [if_pos hany]
              refine ⟨_, runCall_returned _ _ _ _, ?_⟩
              rw [decision_failed (by exact hreport) rfl]
              rfl
          | none =>
              have hany : ¬o.allocations.any isOperationalConflict = true := by
                rw [List.any_eq_true]
                rintro ⟨a, ha, hyes⟩
                exact List.find?_eq_none.mp hconflict a ha hyes
              rw [if_neg hany]
              cases hreview : o.activeLedgers.find? fun l => isFinanceReviewRequired l.2 with
              | some review =>
                  have hany : o.activeLedgers.any (fun l => isFinanceReviewRequired l.2) = true :=
                    List.any_eq_true.mpr ⟨review, List.mem_of_find?_eq_some hreview,
                      (List.find?_eq_some_iff_append.mp hreview).1⟩
                  rw [if_pos hany]
                  refine ⟨_, runCall_returned _ _ _ _, ?_⟩
                  rw [decision_failed (by exact hreport) rfl]
                  rfl
              | none =>
                  have hany : ¬o.activeLedgers.any (fun l => isFinanceReviewRequired l.2) =
                      true := by
                    rw [List.any_eq_true]
                    rintro ⟨x, hx, hyes⟩
                    exact List.find?_eq_none.mp hreview x hx hyes
                  rw [if_neg hany]
                  refine ⟨_, rfl, ?_⟩
                  rw [decision_reconciled o (by exact hreport) rfl]
                  rfl

/-! ## The claim -/

namespace CancelledSale

/-- The sale before its parcel leaves. -/
def allocation : VendorAllocation :=
  { TwoPayouts.allocation 1 with
    fulfillmentStatus := "Pending"
    shippingStatus := "Awaiting Shipment"
    deliveredObservation := none }

/-- The parcel has arrived. -/
def delivered : VendorAllocation :=
  { TwoPayouts.allocation 1 with
    fulfillmentStatus := "Fulfilled"
    shippingStatus := "delivered" }

def canonicalOrder : CanonicalShopifyOrderSnapshot where
  sourceShopifyOrderId := "1"
  cancelledAt := some 4
  cancelReason := none
  lineItems := []

/-- A call reads the order and stores its cancellation. -/
def readMoves : List (Move String Answer OutsideMove) :=
  [.outside (.finance (.recordSale allocation (TwoPayouts.sale 1))),
    .outside (.recordOrder ⟨1, "1", none, none⟩), .start 0 "1", .run 0 ⟨some canonicalOrder, 5⟩,
    .run 0 ⟨none, 5⟩, .run 0 ⟨none, 5⟩]

/-- The sale is delivered and settled before the call voids it. -/
def settledMoves : List (Move String Answer OutsideMove) :=
  [.outside (.finance (.updateAllocation delivered)),
    .outside (.finance (.createDraftApproval TwoPayouts.draftInput ⟨1, 10, 10, 10, 10⟩ 6)),
    .outside (.finance (.approveSettlement 1 90 7)), .run 0 ⟨none, 8⟩]

end CancelledSale

end VendorDashboard.CanonicalCancellation

import VendorDashboard.Properties.SettlementHistory

/-!
# The books of a payout batch

What holds of the payouts in every state that a run reaches (`FinanceDb.PayoutBooks`): the claims of
a batch are in step with its status, its net is what its lines pay less what is taken off, no two
uncancelled batches hold one settlement line, and what a completed batch paid stays approved.

`PayoutBooks.keeps` is for the transactions that write no payout (`LeavesPayouts.step`),
`PayoutBooks.moves` for those that move one batch, and `PayoutBooks.insert` and
`PayoutBooks.reserve` for the rest.
-/

namespace VendorDashboard.Finance

open Table Transaction Run

/-- The status of the claims of a batch. -/
def PayoutBatchStatus.Follows : PayoutBatchStatus → PayoutOffsetClaimStatus → Prop
  | .draft, s | .review, s => s = .reserved
  | .paid, s | .cashlessCompleted, s => s = .finalized
  | .cancelled, s => s = .released
  | .approved, _ | .executionPending, _ | .paidPlaceholder, _ => False

def PayoutBatchStatus.isCompleted (s : PayoutBatchStatus) : Bool :=
  decide (s = .paid) || decide (s = .cashlessCompleted)

/-- What a settlement line pays, and for which ledger row. -/
def SettlementApprovalLine.payment (l : SettlementApprovalLine) : Id × Id × Id × ℤ :=
  (l.id, l.settlementApprovalId, l.financeLedgerEntryId, l.payableImpactMinor)

/-- What a correction line takes to or from a batch. -/
def CorrectionPayoutLine.taken (p : CorrectionPayoutLine) : Id × ℤ := (p.payoutBatchId, p.amountMinor)

/-- A debt that no payout recovered. -/
structure VendorBalanceEvent.RecordsDebt (e : VendorBalanceEvent) : Prop where
  type : e.type = .vendorDebtCreated
  amount : e.amountMinor < 0
  source : ∀ i, e.source ≠ .payoutBatch i

/-- The actions that write no payout. -/
def Action.keepsPayouts : Action → Bool
  | .recordSale .. | .updateAllocation .. | .setFinanceIntegrityAlerts .. | .setCommissionInvoices ..
  | .setTerminalEvidenceReviews .. | .recordCorrectionCredit .. | .recordCorrectionDeduction ..
  | .recordApprovedDeductionCoverage .. | .chargePaidCorrection .. | .ingestRefund ..
  | .createDraftApproval .. | .approveSettlement .. | .cancelSettlement .. => true
  | _ => false

/-- The actions that cancel a payout. -/
def Action.cancelsPayout : Action → Bool
  | .cancelDraftPayout .. | .cancelReviewPayout .. | .cancelR1ReviewPayout .. | .cancelPayout .. => true
  | _ => false

def PayoutOffsetClaim.withStatus (status : PayoutOffsetClaimStatus) (c : PayoutOffsetClaim) :
    PayoutOffsetClaim :=
  { c with status }

namespace FinanceDb

/-- The debt that the preparation of a batch recovered. -/
def batchOffsetMinor (db : FinanceDb) (payoutBatchId : Id) : ℤ :=
  total (fun e => decide (e.type = .vendorDebtOffset) && decide (e.source = .payoutBatch payoutBatchId))
    (·.amountMinor) db.vendorBalanceEvent

/-- The amounts of a batch. -/
structure BatchBooked (db : FinanceDb) (b : PayoutBatch) : Prop where
  paidAt : b.paidAt.isSome = true ↔ b.status = .paid
  net : b.netAmount * 100 =
    ((db.approvedBaseMinor b.id - db.batchOffsetMinor b.id - b.r1OffsetTotalMinor : ℤ) : ℚ)
  offset : b.r1OffsetTotalMinor = claimSum (db.claimsOf b.id) ∨
    b.r1OffsetTotalMinor = 0 ∧ (b.status = .draft ∨ b.status = .cancelled)

structure PayoutBooks (db : FinanceDb) : Prop where
  status : ∀ b ∈ db.payoutBatch, ∃ s, b.status.Follows s
  claim : ∀ c ∈ db.payoutOffsetClaim, ∃ b ∈ db.payoutBatch, b.id = c.payoutBatchId ∧
    b.status.Follows c.status
  booked : ∀ b ∈ db.payoutBatch, db.BatchBooked b
  exclusive : ∀ l ∈ db.payoutBatchLine, ∀ m ∈ db.payoutBatchLine,
    l.settlementApprovalLineId = m.settlementApprovalLineId →
      db.batchIsActive l.payoutBatchId = true → db.batchIsActive m.payoutBatchId = true → l = m
  amount : ∀ l ∈ db.payoutBatchLine, l.amountSnapshot * 100 = (db.payoutLinePayable l : ℚ)
  completed : ∀ b ∈ db.payoutBatch, b.status.isCompleted = true → ∀ l ∈ db.batchLinesOf b.id,
    ∃ s, db.settlementLineOf l = some s ∧ db.approvalIsApproved s.settlementApprovalId = true
  correction : ∀ p ∈ db.correctionCreditPayoutLine ++ db.correctionDeductionPayoutLine ++
    db.approvedDeductionPayoutLine, ∃ b ∈ db.payoutBatch, b.id = p.payoutBatchId
  event : ∀ e ∈ db.vendorBalanceEvent, ∀ i, e.source = .payoutBatch i →
    ∃ b ∈ db.payoutBatch, b.id = i

/-! ## Settlement lines keep what they pay -/

/-- The settlement lines of `db` are lines of `db'`, and pay the same. -/
def KeepsPayments (db db' : FinanceDb) : Prop :=
  ∀ s ∈ db.settlementApprovalLine, ∃ s' ∈ db'.settlementApprovalLine, s'.payment = s.payment

variable {db db' : FinanceDb}

lemma KeepsPayments.of_eq (h : db'.settlementApprovalLine = db.settlementApprovalLine) :
    db.KeepsPayments db' :=
  fun s hs => ⟨s, h ▸ hs, rfl⟩

lemma Integrity.exists_settlementLine (h : db.Integrity) {l : PayoutBatchLine}
    (hl : l ∈ db.payoutBatchLine) : ∃ s ∈ db.settlementApprovalLine,
      db.settlementLineOf l = some s ∧ l.settlementApprovalLineId = some s.id := by
  obtain ⟨s, hs, hid, -⟩ := h.batchLine_line l hl
  refine ⟨s, hs, ?_, hid⟩
  unfold settlementLineOf
  rw [hid]
  exact findRow_of_mem h.line_key hs

/-- The settlement line of a payout line, later on. -/
lemma KeepsPayments.settlementLine (hk : db.KeepsPayments db') (h : db.Integrity)
    (h' : db'.Integrity) {l : PayoutBatchLine} (hl : l ∈ db.payoutBatchLine) :
    ∃ s s', db.settlementLineOf l = some s ∧ db'.settlementLineOf l = some s' ∧
      s'.payment = s.payment := by
  obtain ⟨s, hs, hline, hid⟩ := h.exists_settlementLine hl
  obtain ⟨s', hs', hpay⟩ := hk s hs
  have hid' : s'.id = s.id := congrArg Prod.fst hpay
  refine ⟨s, s', hline, ?_, hpay⟩
  unfold settlementLineOf
  rw [hid, ← hid']
  exact findRow_of_mem h'.line_key hs'

lemma KeepsPayments.payoutLinePayable (hk : db.KeepsPayments db') (h : db.Integrity)
    (h' : db'.Integrity) {l : PayoutBatchLine} (hl : l ∈ db.payoutBatchLine) :
    db'.payoutLinePayable l = db.payoutLinePayable l := by
  obtain ⟨s, s', hs, hs', hpay⟩ := hk.settlementLine h h' hl
  unfold FinanceDb.payoutLinePayable
  rw [hs, hs']
  exact congrArg (·.2.2.2) hpay

/-- The correction amounts of a batch depend on what its lines take only. -/
lemma correctionTotalOf_eq {i : Id} {l l' : List CorrectionPayoutLine}
    (h : l'.map (·.taken) = l.map (·.taken)) : correctionTotalOf i l' = correctionTotalOf i l := by
  have hmap : ∀ l : List CorrectionPayoutLine, correctionTotalOf i l =
      ((l.map (·.taken)).map fun t => if t.1 = i then t.2 else 0).sum := by
    intro l
    unfold correctionTotalOf total
    rw [List.map_map]
    refine congrArg List.sum (List.map_congr_left fun p _ => ?_)
    simp [CorrectionPayoutLine.taken]
  rw [hmap, hmap, h]

lemma correctionTotalOf_append (i : Id) (l l' : List CorrectionPayoutLine) :
    correctionTotalOf i (l ++ l') = correctionTotalOf i l + correctionTotalOf i l' := by
  simp [correctionTotalOf, total]

lemma correctionTotalOf_eq_zero {i : Id} {l : List CorrectionPayoutLine}
    (h : ∀ p ∈ l, p.payoutBatchId ≠ i) : correctionTotalOf i l = 0 :=
  total_eq_zero fun p hp => by simpa using h p hp

/-- The correction lines take the same. -/
structure KeepsCorrections (db db' : FinanceDb) : Prop where
  credit : db'.correctionCreditPayoutLine.map (·.taken) =
    db.correctionCreditPayoutLine.map (·.taken)
  deduction : db'.correctionDeductionPayoutLine.map (·.taken) =
    db.correctionDeductionPayoutLine.map (·.taken)
  approvedDeduction : db'.approvedDeductionPayoutLine.map (·.taken) =
    db.approvedDeductionPayoutLine.map (·.taken)

lemma KeepsCorrections.of_eq (hcredit : db'.correctionCreditPayoutLine = db.correctionCreditPayoutLine)
    (hdeduction : db'.correctionDeductionPayoutLine = db.correctionDeductionPayoutLine)
    (happroved : db'.approvedDeductionPayoutLine = db.approvedDeductionPayoutLine) :
    db.KeepsCorrections db' := by
  refine ⟨?_, ?_, ?_⟩
  · rw [hcredit]
  · rw [hdeduction]
  · rw [happroved]

lemma KeepsCorrections.batches (h : db.KeepsCorrections db') :
    (db'.correctionCreditPayoutLine ++ db'.correctionDeductionPayoutLine ++
        db'.approvedDeductionPayoutLine).map (·.payoutBatchId) =
      (db.correctionCreditPayoutLine ++ db.correctionDeductionPayoutLine ++
        db.approvedDeductionPayoutLine).map (·.payoutBatchId) := by
  have hfst : ∀ l : List CorrectionPayoutLine,
      l.map (·.payoutBatchId) = (l.map (·.taken)).map Prod.fst := by
    intro l
    rw [List.map_map]
    rfl
  simp only [List.map_append, hfst, h.credit, h.deduction, h.approvedDeduction]

lemma approvedBaseMinor_eq (hk : db.KeepsPayments db') (h : db.Integrity) (h' : db'.Integrity)
    (hc : db.KeepsCorrections db') {i : Id} (hlines : db'.batchLinesOf i = db.batchLinesOf i) :
    db'.approvedBaseMinor i = db.approvedBaseMinor i := by
  have hpayable : (db.batchLinesOf i).map db'.payoutLinePayable =
      (db.batchLinesOf i).map db.payoutLinePayable :=
    List.map_congr_left fun l hl => hk.payoutLinePayable h h' (List.mem_filter.mp hl).1
  unfold approvedBaseMinor
  rw [hlines, hpayable, correctionTotalOf_eq hc.credit, correctionTotalOf_eq hc.deduction,
    correctionTotalOf_eq hc.approvedDeduction]

/-- New balance events leave what a batch recovered alone. -/
lemma batchOffsetMinor_append {events : List VendorBalanceEvent} {i : Id}
    (hevents : db'.vendorBalanceEvent = db.vendorBalanceEvent ++ events)
    (hnew : ∀ e ∈ events, e.source ≠ .payoutBatch i) :
    db'.batchOffsetMinor i = db.batchOffsetMinor i := by
  have hzero : total (fun e => decide (e.type = .vendorDebtOffset) &&
      decide (e.source = .payoutBatch i)) (·.amountMinor) events = 0 :=
    total_eq_zero fun e he => by simp [hnew e he]
  unfold batchOffsetMinor
  rw [hevents]
  unfold total at hzero ⊢
  rw [List.map_append, List.sum_append, hzero, add_zero]

/-! ## Transactions that write no payout -/

structure KeepsPayouts (db db' : FinanceDb) : Prop extends KeepsCorrections db db' where
  batches : db'.payoutBatch = db.payoutBatch
  lines : db'.payoutBatchLine = db.payoutBatchLine
  claims : db'.payoutOffsetClaim = db.payoutOffsetClaim
  payments : db.KeepsPayments db'
  events : ∃ new, db'.vendorBalanceEvent = db.vendorBalanceEvent ++ new ∧
    ∀ e ∈ new, ∀ i, e.source ≠ .payoutBatch i
  approved : ∀ b ∈ db.payoutBatch, b.status.isCompleted = true → ∀ l ∈ db.batchLinesOf b.id,
    ∀ s, db.settlementLineOf l = some s → db.approvalIsApproved s.settlementApprovalId = true →
      db'.approvalIsApproved s.settlementApprovalId = true

lemma batchIsActive_eq (h : db'.payoutBatch = db.payoutBatch) (i : Id) :
    db'.batchIsActive i = db.batchIsActive i := by
  unfold batchIsActive findBatch
  rw [h]

/-- Every correction line has its batch. -/
lemma PayoutBooks.correctionBatch (hb : db.PayoutBooks) {i : Id}
    (hi : i ∈ (db.correctionCreditPayoutLine ++ db.correctionDeductionPayoutLine ++
      db.approvedDeductionPayoutLine).map (·.payoutBatchId)) : ∃ b ∈ db.payoutBatch, b.id = i := by
  obtain ⟨p, hp, rfl⟩ := List.mem_map.mp hi
  exact hb.correction p hp

theorem PayoutBooks.keeps (hb : db.PayoutBooks) (h : db.Integrity) (h' : db'.Integrity)
    (hk : db.KeepsPayouts db') : db'.PayoutBooks where
  status := by
    rw [hk.batches]
    exact hb.status
  claim := by
    rw [hk.batches, hk.claims]
    exact hb.claim
  booked := by
    intro b hmem
    rw [hk.batches] at hmem
    obtain ⟨hpaid, hnet, hoffset⟩ := hb.booked b hmem
    obtain ⟨new, hevents, hnew⟩ := hk.events
    have hlines : db'.batchLinesOf b.id = db.batchLinesOf b.id := by
      unfold batchLinesOf
      rw [hk.lines]
    refine ⟨hpaid, ?_, ?_⟩
    · rw [approvedBaseMinor_eq hk.payments h h' hk.toKeepsCorrections hlines,
        batchOffsetMinor_append hevents fun e he => hnew e he b.id]
      exact hnet
    · unfold claimsOf at hoffset ⊢
      rw [hk.claims]
      exact hoffset
  exclusive := by
    intro l hl m hm hsame hactive hactive'
    rw [hk.lines] at hl hm
    rw [batchIsActive_eq hk.batches] at hactive hactive'
    exact hb.exclusive l hl m hm hsame hactive hactive'
  amount := by
    intro l hl
    rw [hk.lines] at hl
    rw [hk.payments.payoutLinePayable h h' hl]
    exact hb.amount l hl
  completed := by
    intro b hmem hcompleted l hl
    rw [hk.batches] at hmem
    have hl : l ∈ db.batchLinesOf b.id := by
      unfold batchLinesOf at hl ⊢
      rwa [hk.lines] at hl
    obtain ⟨s, hs, happroved⟩ := hb.completed b hmem hcompleted l hl
    obtain ⟨t, t', ht, ht', hpay⟩ := hk.payments.settlementLine h h' (List.mem_filter.mp hl).1
    obtain rfl := Option.some.inj (hs.symm.trans ht)
    refine ⟨t', ht', ?_⟩
    have hid : t'.settlementApprovalId = s.settlementApprovalId := congrArg (·.2.1) hpay
    rw [hid]
    exact hk.approved b hmem hcompleted l hl s hs happroved
  correction := by
    intro p hp
    rw [hk.batches]
    refine hb.correctionBatch ?_
    rw [← hk.toKeepsCorrections.batches]
    exact List.mem_map_of_mem hp
  event := by
    intro e he i hsource
    obtain ⟨new, hevents, hnew⟩ := hk.events
    rw [hk.batches]
    rw [hevents] at he
    rcases List.mem_append.mp he with he | he
    · exact hb.event e he i hsource
    · exact absurd hsource (hnew e he i)

/-! ## Transactions that move one batch -/

/-- The open batch `b` becomes `b'`, and its claims get a status. -/
structure MovesBatch (db db' : FinanceDb) (b b' : PayoutBatch)
    (claimStatus : PayoutOffsetClaimStatus) : Prop extends KeepsCorrections db db' where
  mem : b ∈ db.payoutBatch
  isOpen : b.status = .draft ∨ b.status = .review
  id : b'.id = b.id
  batches : ∀ x, x ∈ db'.payoutBatch ↔ x ∈ db.payoutBatch ∧ x.id ≠ b.id ∨ x = b'
  claims : db'.payoutOffsetClaim = updateWhere (fun c => decide (c.payoutBatchId = b.id))
    (PayoutOffsetClaim.withStatus claimStatus) db.payoutOffsetClaim
  follows : b'.status.Follows claimStatus
  lines : db'.payoutBatchLine = db.payoutBatchLine
  settlementLines : db'.settlementApprovalLine = db.settlementApprovalLine
  approvals : db'.settlementApproval = db.settlementApproval
  events : ∃ new, db'.vendorBalanceEvent = db.vendorBalanceEvent ++ new ∧
    ∀ e ∈ new, ∀ i, e.source ≠ .payoutBatch i
  booked : db.BatchBooked b'
  approved : b'.status.isCompleted = true → ∀ l ∈ db.batchLinesOf b.id,
    ∃ s, db.settlementLineOf l = some s ∧ db.approvalIsApproved s.settlementApprovalId = true

/-- The claims of a batch keep their amounts. -/
lemma claimSum_updateStatus (p : PayoutOffsetClaim → Bool) (status : PayoutOffsetClaimStatus)
    (hclaims : db'.payoutOffsetClaim =
      updateWhere p (PayoutOffsetClaim.withStatus status) db.payoutOffsetClaim)
    (i : Id) : claimSum (db'.claimsOf i) = claimSum (db.claimsOf i) := by
  unfold claimSum claimsOf
  rw [hclaims, filter_updateWhere (f := PayoutOffsetClaim.withStatus status) fun _ => rfl,
    map_updateWhere (f := PayoutOffsetClaim.withStatus status) fun _ => rfl]

/-- The claims of an open batch are reserved. -/
lemma PayoutBooks.reserved (hb : db.PayoutBooks) (h : db.Integrity) {b : PayoutBatch}
    (hmem : b ∈ db.payoutBatch) (hopen : b.status = .draft ∨ b.status = .review) :
    ∀ c ∈ db.payoutOffsetClaim, c.payoutBatchId = b.id → c.status = .reserved := by
  intro c hc hid
  obtain ⟨x, hx, hxid, hfollows⟩ := hb.claim c hc
  obtain rfl := h.batch_key.eq hx hmem (hxid.trans hid)
  rcases hopen with hstatus | hstatus
  · rw [hstatus] at hfollows
    exact hfollows
  · rw [hstatus] at hfollows
    exact hfollows

theorem PayoutBooks.moves {b d : PayoutBatch} {p : PayoutOffsetClaimStatus}
    (hb : db.PayoutBooks) (h : db.Integrity) (h' : db'.Integrity)
    (hm : db.MovesBatch db' b d p) : db'.PayoutBooks := by
  have hpayments : db.KeepsPayments db' := .of_eq hm.settlementLines
  have hlines : ∀ i, db'.batchLinesOf i = db.batchLinesOf i := by
    intro i
    unfold batchLinesOf
    rw [hm.lines]
  have hmoved : d ∈ db'.payoutBatch := (hm.batches d).mpr (Or.inr rfl)
  have hexists : ∀ i, (∃ x ∈ db.payoutBatch, x.id = i) → ∃ x ∈ db'.payoutBatch, x.id = i := by
    rintro i ⟨x, hx, rfl⟩
    by_cases hid : x.id = b.id
    · exact ⟨d, hmoved, hm.id.trans hid.symm⟩
    · exact ⟨x, (hm.batches x).mpr (Or.inl ⟨hx, hid⟩), rfl⟩
  have hactive : ∀ i, db'.batchIsActive i = true → db.batchIsActive i = true := by
    intro i hi
    obtain ⟨x, hx, hstatus⟩ := batchIsActive_iff.mp hi
    obtain rfl : x.id = i := key_of_findRow hx
    refine batchIsActive_iff.mpr ?_
    rcases (hm.batches x).mp (mem_of_findRow hx) with ⟨hx, -⟩ | rfl
    · exact ⟨x, findRow_of_mem h.batch_key hx, hstatus⟩
    · rw [hm.id]
      refine ⟨b, findRow_of_mem h.batch_key hm.mem, ?_⟩
      rcases hm.isOpen with hopen | hopen
      · simp [hopen]
      · simp [hopen]
  have happrovals : ∀ i, db'.approvalIsApproved i = db.approvalIsApproved i := by
    intro i
    unfold approvalIsApproved findApproval
    rw [hm.approvals]
  have hline : ∀ l, db'.settlementLineOf l = db.settlementLineOf l := by
    intro l
    unfold settlementLineOf findLine
    rw [hm.settlementLines]
  have hbooked : ∀ x, db.BatchBooked x → db'.BatchBooked x := by
    rintro x ⟨hpaid, hnet, hoffset⟩
    obtain ⟨new, hevents, hnew⟩ := hm.events
    refine ⟨hpaid, ?_, ?_⟩
    · rw [approvedBaseMinor_eq hpayments h h' hm.toKeepsCorrections (hlines x.id),
        batchOffsetMinor_append hevents fun e he => hnew e he x.id]
      exact hnet
    · rw [claimSum_updateStatus _ _ hm.claims]
      exact hoffset
  exact
    { status := by
        intro x hx
        rcases (hm.batches x).mp hx with ⟨hx, -⟩ | rfl
        · exact hb.status x hx
        · exact ⟨p, hm.follows⟩
      claim := by
        intro c' hc'
        rw [hm.claims] at hc'
        obtain ⟨c, hc, rfl⟩ := mem_updateWhere.mp hc'
        by_cases hid : c.payoutBatchId = b.id
        · simp only [hid, decide_true, if_true]
          exact ⟨d, hmoved, hm.id.trans hid.symm, hm.follows⟩
        · simp only [hid, decide_false, Bool.false_eq_true, if_false]
          obtain ⟨x, hx, hxid, hfollows⟩ := hb.claim c hc
          exact ⟨x, (hm.batches x).mpr (Or.inl ⟨hx, hxid ▸ hid⟩), hxid, hfollows⟩
      booked := by
        intro x hx
        rcases (hm.batches x).mp hx with ⟨hx, -⟩ | rfl
        · exact hbooked x (hb.booked x hx)
        · exact hbooked x hm.booked
      exclusive := by
        intro l hl m hmem hsame hl' hm'
        rw [hm.lines] at hl hmem
        exact hb.exclusive l hl m hmem hsame (hactive _ hl') (hactive _ hm')
      amount := by
        intro l hl
        rw [hm.lines] at hl
        rw [hpayments.payoutLinePayable h h' hl]
        exact hb.amount l hl
      completed := by
        intro x hx hcompleted l hl
        rw [hlines] at hl
        rw [hline]
        simp only [happrovals]
        rcases (hm.batches x).mp hx with ⟨hx, -⟩ | rfl
        · exact hb.completed x hx hcompleted l hl
        · rw [hm.id] at hl
          exact hm.approved hcompleted l hl
      correction := by
        intro p hp
        refine hexists _ (hb.correctionBatch ?_)
        rw [← hm.toKeepsCorrections.batches]
        exact List.mem_map_of_mem hp
      event := by
        intro e he i hsource
        obtain ⟨new, hevents, hnew⟩ := hm.events
        rw [hevents] at he
        rcases List.mem_append.mp he with he | he
        · exact hexists i (hb.event e he i hsource)
        · exact absurd hsource (hnew e he i) }

/-! ## A new batch -/

/-- A draft batch is inserted with lines that no uncancelled batch holds. -/
structure InsertsBatch (db db' : FinanceDb) (b : PayoutBatch) (lines : List PayoutBatchLine)
    (credits deductions coverages : List CorrectionPayoutLine) (events : List VendorBalanceEvent) :
    Prop where
  batches : db'.payoutBatch = db.payoutBatch ++ [b]
  isDraft : b.status = .draft ∧ b.paidAt = none ∧ b.r1OffsetTotalMinor = 0
  newLines : db'.payoutBatchLine = db.payoutBatchLine ++ lines
  ofBatch : ∀ l ∈ lines, l.payoutBatchId = b.id
  free : ∀ l ∈ lines, ∀ m ∈ db.payoutBatchLine,
    l.settlementApprovalLineId = m.settlementApprovalLineId →
      db.batchIsActive m.payoutBatchId = false
  distinct : KeyUnique PayoutBatchLine.settlementApprovalLineId lines
  amount : ∀ l ∈ lines, l.amountSnapshot * 100 = (db.payoutLinePayable l : ℚ)
  settlementLines : db'.settlementApprovalLine = db.settlementApprovalLine
  approvals : db'.settlementApproval = db.settlementApproval
  claims : db'.payoutOffsetClaim = db.payoutOffsetClaim
  credit : db'.correctionCreditPayoutLine = db.correctionCreditPayoutLine ++ credits
  deduction : db'.correctionDeductionPayoutLine = db.correctionDeductionPayoutLine ++ deductions
  approvedDeduction : db'.approvedDeductionPayoutLine = db.approvedDeductionPayoutLine ++ coverages
  corrections : ∀ p ∈ credits ++ deductions ++ coverages, p.payoutBatchId = b.id
  newEvents : db'.vendorBalanceEvent = db.vendorBalanceEvent ++ events
  event : ∀ e ∈ events, e.type = .vendorDebtOffset ∧ e.source = .payoutBatch b.id
  net : b.netAmount * 100 = (((lines.map db.payoutLinePayable).sum +
    (credits.map (·.amountMinor)).sum - (deductions.map (·.amountMinor)).sum -
    (coverages.map (·.amountMinor)).sum - (events.map (·.amountMinor)).sum : ℤ) : ℚ)

lemma total_eq_sum {α : Type} {p : α → Bool} {f : α → ℤ} {l : List α}
    (h : ∀ x ∈ l, p x = true) : total p f l = (l.map f).sum := by
  unfold total
  exact congrArg List.sum (List.map_congr_left fun x hx => if_pos (h x hx))

theorem PayoutBooks.insert {b : PayoutBatch} {lines : List PayoutBatchLine}
    {credits deductions coverages : List CorrectionPayoutLine} {events : List VendorBalanceEvent}
    (hb : db.PayoutBooks) (h : db.Integrity) (h' : db'.Integrity)
    (hi : db.InsertsBatch db' b lines credits deductions coverages events) : db'.PayoutBooks := by
  have hfresh : ∀ x ∈ db.payoutBatch, x.id ≠ b.id := by
    have hkey := h'.batch_key
    rw [hi.batches] at hkey
    intro x hx
    exact (keyUnique_append.mp hkey).2.2 x hx b (List.mem_singleton_self b)
  have hexists : ∀ i, (∃ x ∈ db.payoutBatch, x.id = i) → ∃ x ∈ db'.payoutBatch, x.id = i := by
    intro i hx
    rw [hi.batches]
    exact exists_mem_append_left hx
  have hpayable : ∀ l, db'.payoutLinePayable l = db.payoutLinePayable l := by
    intro l
    unfold payoutLinePayable settlementLineOf findLine
    rw [hi.settlementLines]
  have hactive : ∀ i, i ≠ b.id → db'.batchIsActive i = db.batchIsActive i := by
    intro i hne
    have hfind : db'.findBatch i = db.findBatch i := by
      unfold findBatch findRow
      rw [hi.batches, List.find?_append, List.find?_singleton]
      simp [hne.symm]
    unfold batchIsActive
    rw [hfind]
  have hlineBatch : ∀ m ∈ db.payoutBatchLine, m.payoutBatchId ≠ b.id := by
    intro m hm heq
    obtain ⟨x, hx, hid⟩ := h.batchLine_batch m hm
    exact hfresh x hx (hid.trans heq)
  have holdLines : ∀ i, i ≠ b.id → db'.batchLinesOf i = db.batchLinesOf i := by
    intro i hne
    have hnil : lines.filter (fun l => decide (l.payoutBatchId = i)) = [] :=
      List.filter_eq_nil_iff.mpr fun l hl => by simp [hi.ofBatch l hl, hne.symm]
    unfold batchLinesOf
    rw [hi.newLines, List.filter_append, hnil, List.append_nil]
  have hnewLines : db'.batchLinesOf b.id = lines := by
    have hnil : db.payoutBatchLine.filter (fun l => decide (l.payoutBatchId = b.id)) = [] :=
      List.filter_eq_nil_iff.mpr fun l hl => by simp [hlineBatch l hl]
    unfold batchLinesOf
    rw [hi.newLines, List.filter_append, hnil, List.nil_append, List.filter_eq_self]
    exact fun l hl => by simp [hi.ofBatch l hl]
  have holdCorrections : ∀ p ∈ db.correctionCreditPayoutLine ++ db.correctionDeductionPayoutLine ++
      db.approvedDeductionPayoutLine, p.payoutBatchId ≠ b.id := by
    intro p hp heq
    obtain ⟨x, hx, hid⟩ := hb.correction p hp
    exact hfresh x hx (hid.trans heq)
  simp only [List.forall_mem_append] at holdCorrections
  have hcorrections := hi.corrections
  simp only [List.forall_mem_append] at hcorrections
  -- the corrections of one batch
  have hother : ∀ i, i ≠ b.id → ∀ old new : List CorrectionPayoutLine,
      (∀ p ∈ new, p.payoutBatchId = b.id) →
      correctionTotalOf i (old ++ new) = correctionTotalOf i old := by
    intro i hne old new hnew
    rw [correctionTotalOf_append, correctionTotalOf_eq_zero (l := new), add_zero]
    exact fun p hp heq => hne (heq.symm.trans (hnew p hp))
  have hthis : ∀ old new : List CorrectionPayoutLine, (∀ p ∈ old, p.payoutBatchId ≠ b.id) →
      (∀ p ∈ new, p.payoutBatchId = b.id) →
      correctionTotalOf b.id (old ++ new) = (new.map (·.amountMinor)).sum := by
    intro old new hold hnew
    rw [correctionTotalOf_append, correctionTotalOf_eq_zero hold, zero_add]
    exact total_eq_sum fun p hp => by simp [hnew p hp]
  have hclaims : ∀ i, db'.claimsOf i = db.claimsOf i := by
    intro i
    unfold claimsOf
    rw [hi.claims]
  exact
    { status := by
        intro x hx
        rw [hi.batches] at hx
        rcases List.mem_append.mp hx with hx | hx
        · exact hb.status x hx
        · obtain rfl := List.mem_singleton.mp hx
          exact ⟨.reserved, hi.isDraft.1 ▸ rfl⟩
      claim := by
        intro c hc
        rw [hi.claims] at hc
        obtain ⟨x, hx, hid, hfollows⟩ := hb.claim c hc
        rw [hi.batches]
        exact ⟨x, List.mem_append_left _ hx, hid, hfollows⟩
      booked := by
        intro x hx
        rw [hi.batches] at hx
        rcases List.mem_append.mp hx with hx | hx
        · obtain ⟨hpaid, hnet, hoffset⟩ := hb.booked x hx
          have hne := hfresh x hx
          refine ⟨hpaid, ?_, ?_⟩
          · have hoffsetEq : db'.batchOffsetMinor x.id = db.batchOffsetMinor x.id :=
              batchOffsetMinor_append hi.newEvents fun e he => by
                rw [(hi.event e he).2]
                simpa using hne.symm
            rw [hoffsetEq]
            unfold approvedBaseMinor at hnet ⊢
            rw [holdLines _ hne, funext hpayable, hi.credit, hi.deduction, hi.approvedDeduction,
              hother _ hne _ _ hcorrections.1.1, hother _ hne _ _ hcorrections.1.2,
              hother _ hne _ _ hcorrections.2]
            exact hnet
          · rw [hclaims]
            exact hoffset
        · obtain rfl := List.mem_singleton.mp hx
          obtain ⟨hstatus, hpaid, hr1⟩ := hi.isDraft
          refine ⟨?_, ?_, Or.inr ⟨hr1, Or.inl hstatus⟩⟩
          · simp [hpaid, hstatus]
          · have hold : total (fun e => decide (e.type = .vendorDebtOffset) &&
                decide (e.source = .payoutBatch x.id)) (·.amountMinor) db.vendorBalanceEvent = 0 := by
              refine total_eq_zero fun e he => ?_
              simp only [Bool.and_eq_false_iff, decide_eq_false_iff_not]
              refine Or.inr fun hsource => ?_
              obtain ⟨y, hy, hid⟩ := hb.event e he x.id hsource
              exact hfresh y hy hid
            have hoffset : db'.batchOffsetMinor x.id = (events.map (·.amountMinor)).sum := by
              unfold batchOffsetMinor
              rw [hi.newEvents]
              unfold total at hold ⊢
              rw [List.map_append, List.sum_append, hold, zero_add]
              refine congrArg List.sum (List.map_congr_left fun e he => if_pos ?_)
              simp [hi.event e he]
            unfold approvedBaseMinor
            rw [hoffset, hnewLines, funext hpayable, hi.credit, hi.deduction, hi.approvedDeduction,
              hthis _ _ holdCorrections.1.1 hcorrections.1.1,
              hthis _ _ holdCorrections.1.2 hcorrections.1.2,
              hthis _ _ holdCorrections.2 hcorrections.2, hr1, sub_zero]
            exact hi.net
      exclusive := by
        intro l hl m hm hsame hlActive hmActive
        rw [hi.newLines] at hl hm
        rcases List.mem_append.mp hl with hl | hl
        · rw [hactive _ (hlineBatch l hl)] at hlActive
          rcases List.mem_append.mp hm with hm | hm
          · rw [hactive _ (hlineBatch m hm)] at hmActive
            exact hb.exclusive l hl m hm hsame hlActive hmActive
          · rw [hi.free m hm l hl hsame.symm] at hlActive
            cases hlActive
        · rcases List.mem_append.mp hm with hm | hm
          · rw [hactive _ (hlineBatch m hm), hi.free l hl m hm hsame] at hmActive
            cases hmActive
          · exact hi.distinct.eq hl hm hsame
      amount := by
        intro l hl
        rw [hpayable]
        rw [hi.newLines] at hl
        rcases List.mem_append.mp hl with hl | hl
        · exact hb.amount l hl
        · exact hi.amount l hl
      completed := by
        intro x hx hcompleted l hl
        rw [hi.batches] at hx
        rcases List.mem_append.mp hx with hx | hx
        · rw [holdLines _ (hfresh x hx)] at hl
          unfold settlementLineOf findLine approvalIsApproved findApproval
          rw [hi.settlementLines, hi.approvals]
          exact hb.completed x hx hcompleted l hl
        · obtain rfl := List.mem_singleton.mp hx
          rw [hi.isDraft.1] at hcompleted
          cases hcompleted
      correction := by
        intro p hp
        rw [hi.credit, hi.deduction, hi.approvedDeduction] at hp
        have hnew : b ∈ db'.payoutBatch := by
          rw [hi.batches]
          exact List.mem_append_right _ (List.mem_singleton_self b)
        simp only [List.mem_append] at hp
        rcases hp with ((hp | hp) | (hp | hp)) | (hp | hp)
        · exact hexists _ (hb.correction p (by simp [hp]))
        · exact ⟨b, hnew, (hcorrections.1.1 p hp).symm⟩
        · exact hexists _ (hb.correction p (by simp [hp]))
        · exact ⟨b, hnew, (hcorrections.1.2 p hp).symm⟩
        · exact hexists _ (hb.correction p (by simp [hp]))
        · exact ⟨b, hnew, (hcorrections.2 p hp).symm⟩
      event := by
        intro e he i hsource
        rw [hi.newEvents] at he
        rcases List.mem_append.mp he with he | he
        · exact hexists i (hb.event e he i hsource)
        · obtain rfl : b.id = i := by simpa using (hi.event e he).2.symm.trans hsource
          rw [hi.batches]
          exact ⟨b, List.mem_append_right _ (List.mem_singleton_self b), rfl⟩ }

/-! ## Preparation -/

/-- A column of inserted rows that does not depend on the identifier. -/
lemma map_withIds_of_mem {α β γ : Type} {f : ℕ → α → β} {g : β → γ} {k : α → γ} {l : List α}
    (h : ∀ a ∈ l, ∀ i, g (f i a) = k a) (n : ℕ) : (withIds f n l).map g = l.map k := by
  induction l generalizing n with
  | nil => rfl
  | cons a l ih =>
      rw [withIds_cons, List.map_cons, List.map_cons, h a List.mem_cons_self n,
        ih fun b hb => h b (List.mem_cons_of_mem a hb)]

lemma mem_approvedLinesOn {i : Id} {x : SettlementApprovalLine × SettlementApproval}
    (h : x ∈ db.approvedLinesOn i) : x.1 ∈ db.settlementApprovalLine ∧
      x.1.financeLedgerEntryId = i := by
  unfold approvedLinesOn at h
  obtain ⟨l, hl, hsel⟩ := List.mem_filterMap.mp h
  split at hsel
  · rename_i hledger
    obtain ⟨a, -, hsel⟩ := Option.bind_eq_some_iff.mp hsel
    split at hsel
    · obtain rfl := Option.some.inj hsel
      exact ⟨hl, hledger⟩
    · cases hsel
  · cases hsel

/-- A ledger row offers each of its settlement lines once. -/
lemma Integrity.nodup_approvedLinesOn (h : db.Integrity) (i : Id) :
    ((db.approvedLinesOn i).map (·.1.id)).Nodup := by
  have hkey := h.line_key
  unfold KeyUnique at hkey
  unfold approvedLinesOn
  rw [List.Nodup, List.pairwise_map] at hkey ⊢
  refine List.Pairwise.filterMap _ (fun l m hne x hx y hy => ?_) hkey
  have hfst : ∀ {l : SettlementApprovalLine} {x : SettlementApprovalLine × SettlementApproval},
      (if l.financeLedgerEntryId = i then
      (db.findApproval l.settlementApprovalId).bind fun a =>
        if a.status = .approved then some (l, a) else none
    else none) = some x → x.1 = l := by
    intro l x hx
    split at hx
    · obtain ⟨a, -, hx⟩ := Option.bind_eq_some_iff.mp hx
      split at hx
      · rw [← Option.some.inj hx]
      · cases hx
    · cases hx
  rw [hfst hx, hfst hy]
  exact hne

/-- A vendor's ledger rows are read once each. -/
lemma Integrity.nodup_payoutRows (h : db.Integrity) (vendorId : Id) :
    ((db.payoutRows vendorId).map (·.entry.id)).Nodup := by
  unfold payoutRows
  rw [List.map_map]
  exact (((List.perm_insertionSort _ _).map _).nodup_iff).mpr
    (List.Nodup.sublist (List.filter_sublist.map _) h.ledger_key)

/-- A payout is offered each settlement line once. -/
lemma Integrity.nodup_eligibleCandidates (h : db.Integrity) (vendorId : Id)
    (diagnostic : Option PayoutOffsetAuthorityDiagnostics) (now : Instant) :
    ((db.eligibleCandidates vendorId diagnostic now).map (·.line.id)).Nodup := by
  have happroved : ((db.approvedCandidates vendorId).map (·.line.id)).Nodup := by
    unfold approvedCandidates
    rw [List.map_flatMap, List.nodup_flatMap]
    constructor
    · intro row _
      rw [List.map_map]
      exact h.nodup_approvedLinesOn row.entry.id
    · have hrows := h.nodup_payoutRows vendorId
      rw [List.Nodup, List.pairwise_map] at hrows
      refine hrows.imp fun {row other} hne => ?_
      simp only [Function.onFun, List.map_map, List.disjoint_left]
      intro i hi hi'
      obtain ⟨x, hx, rfl⟩ := List.mem_map.mp hi
      obtain ⟨y, hy, hid⟩ := List.mem_map.mp hi'
      obtain ⟨hxl, hxrow⟩ := mem_approvedLinesOn hx
      obtain ⟨hyl, hyrow⟩ := mem_approvedLinesOn hy
      have hsame : y.1 = x.1 := h.line_key.eq hyl hxl hid
      rw [← hxrow, ← hyrow, hsame] at hne
      exact hne rfl
  unfold eligibleCandidates
  exact List.Nodup.sublist (List.filter_sublist.map _) happroved

/-- A draft for the selected lines, which are payable. -/
lemma Integrity.insertsPayout {vendorId : Id} {ids : PayoutBatchIds} {currency : String}
    {diagnostic : Option PayoutOffsetAuthorityDiagnostics} {s : PayoutSelection} {netMinor : ℤ}
    {now : Instant} {events : List VendorBalanceEvent} (h : db.Integrity)
    (hselect : db.selectPayout vendorId diagnostic now = .ok s)
    (hevents : ∀ e ∈ events, e.type = .vendorDebtOffset ∧ e.source = .payoutBatch ids.batchId)
    (hnet : netMinor = s.totals.netAmountMinor - (events.map (·.amountMinor)).sum) :
    db.InsertsBatch
      { db.withPayoutBatch ids (payoutBatchRow ids.batchId vendorId currency s netMinor now) s with
        vendorBalanceEvent := db.vendorBalanceEvent ++ events }
      (payoutBatchRow ids.batchId vendorId currency s netMinor now)
      (withIds (payoutBatchLineRow ids.batchId) ids.firstLineId s.candidates)
      (withIds (correctionPayoutLineRow ids.batchId) ids.firstCreditLineId
        (s.credits.map fun c => (c.line.id, c.line.amountMinor)))
      (withIds (correctionPayoutLineRow ids.batchId) ids.firstDeductionLineId
        (s.deductions.map fun c => (c.line.id, c.line.amountMinor)))
      (withIds (correctionPayoutLineRow ids.batchId) ids.firstApprovedDeductionLineId
        (s.coverages.map fun c => (c.id, c.amountMinor))) events := by
  have hcandidates := selectPayout_ok hselect
  have hpayable : ∀ c ∈ s.candidates, ∀ i,
      db.payoutLinePayable (payoutBatchLineRow ids.batchId i c) = c.line.payableImpactMinor := by
    intro c hc i
    rw [hcandidates] at hc
    have hfind : db.findLine c.line.id = some c.line :=
      findRow_of_mem h.line_key (mem_eligibleCandidates hc).1
    unfold payoutLinePayable settlementLineOf payoutBatchLineRow
    rw [Option.bind_some, hfind]
    rfl
  have hcorrections : ∀ first (ps : List (Id × ℤ)),
      (withIds (correctionPayoutLineRow ids.batchId) first ps).map (·.amountMinor) =
        ps.map fun p => p.2 := by
    intro first ps
    refine map_withIds (fun i p => ?_) first ps
    rfl
  refine
    { batches := rfl
      isDraft := ⟨rfl, rfl, rfl⟩
      newLines := rfl
      ofBatch := fun l hl => ?_
      free := fun l hl m hm hsame => ?_
      distinct := ?_
      amount := fun l hl => ?_
      settlementLines := rfl
      approvals := rfl
      claims := rfl
      credit := rfl
      deduction := rfl
      approvedDeduction := rfl
      corrections := fun p hp => ?_
      newEvents := rfl
      event := hevents
      net := ?_ }
  · obtain ⟨c, -, i, -, rfl⟩ := mem_withIds hl
    rfl
  · obtain ⟨c, hc, i, -, rfl⟩ := mem_withIds hl
    rw [hcandidates] at hc
    have hnone := (mem_eligibleCandidates hc).2.2.2
    unfold isLineInActivePayout at hnone
    rw [List.any_eq_false] at hnone
    have hid : m.settlementApprovalLineId = some c.line.id := hsame.symm
    simpa [hid] using hnone m hm
  · have hnodup := h.nodup_eligibleCandidates vendorId diagnostic now
    rw [← hcandidates] at hnodup
    unfold KeyUnique
    have hids : (withIds (payoutBatchLineRow ids.batchId) ids.firstLineId s.candidates).map
        (·.settlementApprovalLineId) = s.candidates.map fun c => some c.line.id := by
      refine map_withIds (fun i c => ?_) _ _
      rfl
    have hsome := hnodup.map (Option.some_injective Id)
    rw [List.map_map] at hsome
    rw [hids]
    exact hsome
  · obtain ⟨c, hc, i, -, rfl⟩ := mem_withIds hl
    rw [hpayable c hc i]
    simp [payoutBatchLineRow]
  · simp only [List.mem_append] at hp
    rcases hp with (hp | hp) | hp
    · obtain ⟨x, -, i, -, rfl⟩ := mem_withIds hp
      rfl
    · obtain ⟨x, -, i, -, rfl⟩ := mem_withIds hp
      rfl
    · obtain ⟨x, -, i, -, rfl⟩ := mem_withIds hp
      rfl
  · have hlines : (withIds (payoutBatchLineRow ids.batchId) ids.firstLineId s.candidates).map
        db.payoutLinePayable = s.candidates.map (·.line.payableImpactMinor) :=
      map_withIds_of_mem hpayable _
    rw [hlines, hcorrections, hcorrections, hcorrections]
    simp only [payoutBatchRow, List.map_map]
    rw [div_mul_cancel₀ _ (by norm_num : (100 : ℚ) ≠ 0), hnet, PayoutSelection.totals_netAmountMinor]
    unfold PayoutSelection.correctionCreditMinor PayoutSelection.correctionDeductionMinor
    congr 1
    simp only [Function.comp_def]
    ring

/-- The prepared batch, and the debt that its net was reduced by. -/
lemma PayoutBooks.insertsBatch {vendorId : Id} {ids : PayoutBatchIds} {r1Isolated : Bool}
    {now : Instant} (hb : db.PayoutBooks) (h : db.Integrity)
    (hs : db.preparePayoutBatchInTransaction vendorId ids r1Isolated now = .ok db') :
    ∃ b lines credits deductions coverages events,
      b.id = ids.batchId ∧ db.InsertsBatch db' b lines credits deductions coverages events := by
  obtain ⟨_, s, currency, -, hselect, -, hbatch, hoffset⟩ := preparePayoutBatchInTransaction_ok hs
  -- an empty or a negative selection recovers nothing
  have hnet : db.preparedNetMinor vendorId s r1Isolated = s.totals.netAmountMinor -
      (db.preparedDebtOffset vendorId s r1Isolated).debtOffsetMinor := by
    unfold preparedNetMinor
    have hbounds := debtOffsetMinor_bounds (max s.totals.netAmountMinor 0)
      (if r1Isolated then 0 else db.outstandingDebtMinor vendorId DEFAULT_FINANCE_CURRENCY)
    rw [show calculateVendorDebtOffset _ _ = db.preparedDebtOffset vendorId s r1Isolated from rfl]
      at hbounds
    split
    · rw [show db.preparedDebtOffset vendorId s r1Isolated = calculateVendorDebtOffset _ _ from rfl,
        debtOffset_netPayableMinor]
      omega
    · omega
  rcases createVendorDebtOffsetForPayoutBatch_ok hoffset with ⟨hle, rfl⟩ |
    ⟨-, rfl, e, he, -, hsource⟩ | ⟨-, -, rfl⟩
  · have hzero : (db.preparedDebtOffset vendorId s r1Isolated).debtOffsetMinor = 0 :=
      le_antisymm hle (debtOffsetMinor_bounds _ _).1
    have hinserts := @Integrity.insertsPayout db vendorId ids currency _ s
      (db.preparedNetMinor vendorId s r1Isolated) now [] h hselect (by simp)
      (by rw [hnet, hzero]; simp)
    rw [List.append_nil] at hinserts
    exact ⟨payoutBatchRow ids.batchId vendorId currency s
      (db.preparedNetMinor vendorId s r1Isolated) now, _, _, _, _, [], rfl, hinserts⟩
  · -- the batch is new, so no offset can be its own
    obtain ⟨x, hx, hid⟩ := hb.event e he ids.batchId hsource
    exact absurd hid ((keyUnique_append.mp hbatch).2.2 x hx _ (List.mem_singleton_self _))
  · refine ⟨payoutBatchRow ids.batchId vendorId currency s
      (db.preparedNetMinor vendorId s r1Isolated) now, _, _, _, _, [batchDebtOffsetRow ids.debtOffsetEventId vendorId ids.batchId
      (db.preparedDebtOffset vendorId s r1Isolated).debtOffsetMinor DEFAULT_FINANCE_CURRENCY],
      rfl, h.insertsPayout hselect ?_ ?_⟩
    · intro e he
      obtain rfl := List.mem_singleton.mp he
      exact ⟨rfl, rfl⟩
    · rw [hnet]
      simp [batchDebtOffsetRow]

lemma PayoutBooks.preparePayoutBatch {vendorId : Id} {ids : PayoutBatchIds} {r1Isolated : Bool}
    {now : Instant} (hb : db.PayoutBooks) (h : db.Integrity)
    (hs : db.preparePayoutBatchInTransaction vendorId ids r1Isolated now = .ok db') :
    db'.PayoutBooks := by
  obtain ⟨b, _, _, _, _, _, -, hinserts⟩ := hb.insertsBatch h hs
  exact hb.insert h (h.preparePayoutBatch hs) hinserts

/-! ## Claims of a draft -/

/-- Claims are reserved for a draft that has none. -/
lemma PayoutBooks.reserve {b : PayoutBatch} {claims : List PayoutOffsetClaim} (hb : db.PayoutBooks)
    (h : db.Integrity) (hmem : b ∈ db.payoutBatch) (hdraft : b.status = .draft)
    (hnone : db.claimsOf b.id = [])
    (hclaims : ∀ c ∈ claims, c.payoutBatchId = b.id ∧ c.status = .reserved) :
    PayoutBooks { db with payoutOffsetClaim := db.payoutOffsetClaim ++ claims } where
  status := hb.status
  claim := by
    rw [List.forall_mem_append]
    refine ⟨hb.claim, fun c hc => ⟨b, hmem, (hclaims c hc).1.symm, ?_⟩⟩
    rw [hdraft]
    exact (hclaims c hc).2
  booked := by
    intro x hx
    obtain ⟨hpaid, hnet, hoffset⟩ := hb.booked x hx
    refine ⟨hpaid, hnet, ?_⟩
    by_cases hid : x.id = b.id
    · obtain rfl := h.batch_key.eq hx hmem hid
      rw [hnone] at hoffset
      rcases hoffset with hoffset | hoffset
      · exact Or.inr ⟨hoffset, Or.inl hdraft⟩
      · exact Or.inr hoffset
    · have hnil : claims.filter (fun c => decide (c.payoutBatchId = x.id)) = [] :=
        List.filter_eq_nil_iff.mpr fun c hc => by
          rw [(hclaims c hc).1]
          simpa using Ne.symm hid
      unfold claimsOf at hoffset ⊢
      rw [List.filter_append, hnil, List.append_nil]
      exact hoffset
  exclusive := hb.exclusive
  amount := hb.amount
  completed := hb.completed
  correction := hb.correction
  event := hb.event

lemma PayoutBooks.reservePayoutOffsets {input : ReservationInput} {allowOwn : Bool} {now : Instant}
    (hb : db.PayoutBooks) (h : db.Integrity)
    (hs : db.reserveVerifiedPayoutOffsetsInTransaction input allowOwn now = .ok db') :
    db'.PayoutBooks := by
  obtain ⟨batch, hbatch, -, -, hdraft, -, rfl | ⟨hnone, capacity, -, -, rfl⟩⟩ :=
    reserveVerifiedPayoutOffsetsInTransaction_ok hs
  · exact hb
  · refine hb.reserve h (mem_of_findRow hbatch) hdraft hnone fun c hc => ?_
    obtain ⟨w, -, i, -, rfl⟩ := mem_withIds hc
    exact ⟨(key_of_findRow hbatch).symm, rfl⟩

/-! ## Moves of a batch -/

/-- The rows after one of them was rewritten. -/
lemma mem_updateBatch (h : db.Integrity) {b : PayoutBatch} (hmem : b ∈ db.payoutBatch)
    {f : PayoutBatch → PayoutBatch} (x : PayoutBatch) :
    x ∈ updateWhere (fun y => decide (y.id = b.id)) f db.payoutBatch ↔
      x ∈ db.payoutBatch ∧ x.id ≠ b.id ∨ x = f b := by
  rw [mem_updateWhere]
  constructor
  · rintro ⟨y, hy, rfl⟩
    by_cases hid : y.id = b.id
    · obtain rfl := h.batch_key.eq hy hmem hid
      simp
    · simp [hid, hy]
  · rintro (⟨hx, hid⟩ | rfl)
    · exact ⟨x, hx, by simp [hid]⟩
    · exact ⟨b, hmem, by simp⟩

/-- The claims of an open batch keep their status when it becomes reserved. -/
lemma PayoutBooks.claims_eq_reserved (hb : db.PayoutBooks) (h : db.Integrity) {b : PayoutBatch}
    (hmem : b ∈ db.payoutBatch) (hopen : b.status = .draft ∨ b.status = .review) :
    db.payoutOffsetClaim = updateWhere (fun c => decide (c.payoutBatchId = b.id))
      (PayoutOffsetClaim.withStatus .reserved) db.payoutOffsetClaim := by
  have hsame : ∀ c ∈ db.payoutOffsetClaim, (if decide (c.payoutBatchId = b.id) = true then
      PayoutOffsetClaim.withStatus .reserved c else c) = c := by
    intro c hc
    by_cases hid : c.payoutBatchId = b.id
    · have hstatus := hb.reserved h hmem hopen c hc hid
      rw [if_pos (by simpa using hid)]
      unfold PayoutOffsetClaim.withStatus
      rw [← hstatus]
    · rw [if_neg (by simpa using hid)]
  unfold updateWhere
  rw [List.map_congr_left hsame, List.map_id']

lemma PayoutBooks.paidAt_eq_none (hb : db.PayoutBooks) {b : PayoutBatch}
    (hmem : b ∈ db.payoutBatch) (hstatus : b.status ≠ .paid) : b.paidAt = none := by
  by_contra hsome
  exact hstatus ((hb.booked b hmem).paidAt.mp (Option.isSome_iff_ne_none.mpr hsome))

lemma PayoutBooks.unpaid (hb : db.PayoutBooks) {b : PayoutBatch} (hmem : b ∈ db.payoutBatch)
    (hopen : b.status = .draft ∨ b.status = .review) : b.paidAt = none := by
  refine hb.paidAt_eq_none hmem fun hpaid => ?_
  rcases hopen with hopen | hopen
  · rw [hopen] at hpaid
    cases hpaid
  · rw [hopen] at hpaid
    cases hpaid

/-- A batch in review has its offset frozen. -/
lemma PayoutBooks.frozen (hb : db.PayoutBooks) {b : PayoutBatch} (hmem : b ∈ db.payoutBatch)
    (hreview : b.status = .review) : b.r1OffsetTotalMinor = claimSum (db.claimsOf b.id) := by
  rcases (hb.booked b hmem).offset with hoffset | ⟨-, hstatus⟩
  · exact hoffset
  · rcases hstatus with hstatus | hstatus
    · rw [hreview] at hstatus
      cases hstatus
    · rw [hreview] at hstatus
      cases hstatus

/-- The net of a draft is frozen at what its claims leave. -/
lemma PayoutBooks.withR1Net {b : PayoutBatch} (hb : db.PayoutBooks) (h : db.Integrity)
    (hmem : b ∈ db.payoutBatch) (hdraft : b.status = .draft) (hr1 : b.r1OffsetTotalMinor = 0) :
    (db.withR1Net b.id (toMinorUnits b.netAmount) (claimSum (db.claimsOf b.id))).PayoutBooks := by
  have hopen : b.status = .draft ∨ b.status = .review := Or.inl hdraft
  obtain ⟨hpaid, hnet, -⟩ := hb.booked b hmem
  have hbase : toMinorUnits b.netAmount = db.approvedBaseMinor b.id - db.batchOffsetMinor b.id := by
    unfold toMinorUnits
    rw [hnet, hr1, sub_zero, round_intCast]
  refine hb.moves (b := b) (d := { b with
      netAmount := ((toMinorUnits b.netAmount - claimSum (db.claimsOf b.id) : ℤ) : ℚ) / 100
      r1OffsetTotalMinor := claimSum (db.claimsOf b.id) }) (p := .reserved) h
    (h.withBatch fun _ => ⟨rfl, rfl, rfl⟩)
    { KeepsCorrections.of_eq rfl rfl rfl with
      mem := hmem
      isOpen := hopen
      id := rfl
      batches := mem_updateBatch h hmem
      claims := hb.claims_eq_reserved h hmem hopen
      follows := by
        rw [hdraft]
        rfl
      lines := rfl
      settlementLines := rfl
      approvals := rfl
      events := ⟨[], (List.append_nil _).symm, by simp⟩
      booked := ⟨hpaid, ?_, Or.inl rfl⟩
      approved := fun hcompleted => by
        rw [hdraft] at hcompleted
        cases hcompleted }
  rw [div_mul_cancel₀ _ (by norm_num : (100 : ℚ) ≠ 0), hbase]

lemma PayoutBooks.prepareR1PayoutBatch {vendorId actorId requestId : Id} {ids : PayoutBatchIds}
    {now : Instant} (hb : db.PayoutBooks) (h : db.Integrity)
    (hs : db.prepareR1PayoutBatchInTransaction vendorId actorId requestId ids now = .ok db') :
    db'.PayoutBooks := by
  obtain ⟨prepared, batch, reserved, hprepared, hbatch, hreserved, -, -, rfl⟩ :=
    prepareR1PayoutBatchInTransaction_ok hs
  have hip := h.preparePayoutBatch hprepared
  have hbp := hb.preparePayoutBatch h hprepared
  have hir := hip.reservePayoutOffsets hreserved
  have hbr := hbp.reservePayoutOffsets hip hreserved
  have hid : batch.id = ids.batchId := key_of_findRow hbatch
  -- the batch is the one that was inserted
  obtain ⟨b, _, _, _, _, _, hbid, hinserts⟩ := hb.insertsBatch h hprepared
  have hnew : batch = b := by
    refine hip.batch_key.eq (mem_of_findRow hbatch) ?_ (hid.trans hbid.symm)
    rw [hinserts.batches]
    exact List.mem_append_right _ (List.mem_singleton_self b)
  subst hnew
  have hmem : batch ∈ reserved.payoutBatch := by
    obtain ⟨_, -, -, -, -, -, rfl | ⟨-, _, -, -, rfl⟩⟩ :=
      reserveVerifiedPayoutOffsetsInTransaction_ok hreserved
    · exact mem_of_findRow hbatch
    · exact mem_of_findRow hbatch
  rw [← hid]
  exact hbr.withR1Net hir hmem hinserts.isDraft.1 hinserts.isDraft.2.2

/-- A draft whose offset is frozen goes into review. -/
lemma PayoutBooks.review {b : PayoutBatch} (hb : db.PayoutBooks) (h : db.Integrity)
    (hmem : b ∈ db.payoutBatch) (hdraft : b.status = .draft)
    (hoffset : b.r1OffsetTotalMinor = claimSum (db.claimsOf b.id)) :
    (db.withBatch b.id fun y => { y with status := .review }).PayoutBooks := by
  have hopen : b.status = .draft ∨ b.status = .review := Or.inl hdraft
  obtain ⟨-, hnet, -⟩ := hb.booked b hmem
  exact hb.moves (b := b) (d := { b with status := .review }) (p := .reserved) h
    (h.withBatch fun _ => ⟨rfl, rfl, rfl⟩)
    { KeepsCorrections.of_eq rfl rfl rfl with
      mem := hmem
      isOpen := hopen
      id := rfl
      batches := mem_updateBatch h hmem
      claims := hb.claims_eq_reserved h hmem hopen
      follows := rfl
      lines := rfl
      settlementLines := rfl
      approvals := rfl
      events := ⟨[], (List.append_nil _).symm, by simp⟩
      booked := ⟨by simp [hb.unpaid hmem hopen], hnet, Or.inl hoffset⟩
      approved := fun hcompleted => by cases hcompleted }

lemma taken_settleCorrectionLines (i : Id) (status : CorrectionLineStatus)
    (lines : List CorrectionPayoutLine) :
    (settleCorrectionLines i status lines).map (·.taken) = lines.map (·.taken) :=
  map_updateWhere (f := fun p : CorrectionPayoutLine => { p with status }) (fun _ => rfl) lines

lemma KeepsCorrections.settle (db : FinanceDb) (i : Id) (status : CorrectionLineStatus) :
    db.KeepsCorrections (db.settleCorrectionPayoutLines i status) :=
  ⟨taken_settleCorrectionLines i status _, taken_settleCorrectionLines i status _,
    taken_settleCorrectionLines i status _⟩

/-- A cancelled batch gives its claims back. -/
lemma PayoutBooks.cancel {b : PayoutBatch} (hb : db.PayoutBooks) (h : db.Integrity)
    (hmem : b ∈ db.payoutBatch) (hopen : b.status = .draft ∨ b.status = .review) :
    (db.withCancelledBatch b.id).PayoutBooks := by
  obtain ⟨-, hnet, hoffset⟩ := hb.booked b hmem
  have hclaims : (db.withCancelledBatch b.id).payoutOffsetClaim =
      updateWhere (fun c => decide (c.payoutBatchId = b.id))
        (PayoutOffsetClaim.withStatus .released) db.payoutOffsetClaim := by
    refine List.map_congr_left fun c hc => ?_
    by_cases hid : c.payoutBatchId = b.id
    · have hreserved := hb.reserved h hmem hopen c hc hid
      simp only [hid, hreserved, decide_true, Bool.and_true, if_true]
      rfl
    · simp [hid]
  refine hb.moves (b := b) (d := { b with status := .cancelled }) (p := .released) h
    (h.withCancelledBatch b.id)
    { KeepsCorrections.settle db b.id .cancelled with
      mem := hmem
      isOpen := hopen
      id := rfl
      batches := mem_updateBatch h hmem
      claims := hclaims
      follows := rfl
      lines := rfl
      settlementLines := rfl
      approvals := rfl
      events := ⟨[], (List.append_nil _).symm, by simp⟩
      booked := ⟨by simp [hb.unpaid hmem hopen], hnet, ?_⟩
      approved := fun hcompleted => by cases hcompleted }
  rcases hoffset with hoffset | ⟨hzero, -⟩
  · exact Or.inl hoffset
  · exact Or.inr ⟨hzero, Or.inr rfl⟩

/-- `db'` is `db` with the claims of one batch finalized. -/
structure FinalizesClaims (db db' : FinanceDb) (i : Id) : Prop extends KeepsCorrections db db' where
  batches : db'.payoutBatch = db.payoutBatch
  claims : db'.payoutOffsetClaim = updateWhere (fun c => decide (c.payoutBatchId = i))
    (PayoutOffsetClaim.withStatus .finalized) db.payoutOffsetClaim
  lines : db'.payoutBatchLine = db.payoutBatchLine
  settlementLines : db'.settlementApprovalLine = db.settlementApprovalLine
  approvals : db'.settlementApproval = db.settlementApproval
  events : ∃ new, db'.vendorBalanceEvent = db.vendorBalanceEvent ++ new ∧
    ∀ e ∈ new, ∀ i, e.source ≠ .payoutBatch i

lemma Integrity.finalizesClaims {payoutBatchId vendorId : Id} {currency : String}
    {firstEventId : Id} (h : db.Integrity)
    (hs : db.finalizeR1PayoutOffsetClaimsInTransaction payoutBatchId vendorId currency
      firstEventId = .ok db') : db.FinalizesClaims db' payoutBatchId := by
  obtain ⟨claims, hclaims, hwrites, -⟩ := finalizeR1PayoutOffsetClaimsInTransaction_ok hs
  obtain ⟨-, -, rfl⟩ := finalizeClaims_ok hwrites hclaims.perm h.adjustment_key h.claim_key
    h.event_key
  refine ⟨.of_eq rfl rfl rfl, rfl, rfl, rfl, rfl, rfl, _, rfl, fun e he i => ?_⟩
  obtain ⟨p, -, rfl⟩ := List.mem_map.mp he
  simp [claimOffsetEvent]

lemma FinalizesClaims.mem_batches {b : PayoutBatch} (hf : db.FinalizesClaims db' b.id)
    (h : db.Integrity) (hmem : b ∈ db.payoutBatch) {f : PayoutBatch → PayoutBatch}
    (x : PayoutBatch) : x ∈ (db'.withBatch b.id f).payoutBatch ↔
      x ∈ db.payoutBatch ∧ x.id ≠ b.id ∨ x = f b := by
  unfold FinanceDb.withBatch
  rw [hf.batches]
  exact mem_updateBatch h hmem x

/-- The claims of a payment: finalized on the R1 route, and none on the ordinary one. -/
lemma PayoutBooks.finalizesForPayment {b : PayoutBatch} {batchId : Id} {evidence : PaymentEvidence}
    {actualR1EftAmountMinor : Option ℤ} {firstEventId : Id} (hb : db.PayoutBooks)
    (h : db.Integrity) (hfind : db.findBatch batchId = some b) (hreview : b.status = .review)
    (hpayment : ∃ covered, db.assertPayment batchId evidence actualR1EftAmountMinor = .ok covered)
    (hs : db.finalizeForPayment b actualR1EftAmountMinor firstEventId = .ok db') :
    db.FinalizesClaims db' b.id := by
  unfold finalizeForPayment at hs
  split at hs
  · exact h.finalizesClaims hs
  · rename_i hnone
    obtain rfl := pure_eq_ok.mp hs
    rw [Bool.not_eq_true, Option.isSome_eq_false_iff, Option.isNone_iff_eq_none] at hnone
    subst hnone
    obtain ⟨covered, hpayment⟩ := hpayment
    have hunreserved := assertPayment_none_ok hpayment
    have hid : b.id = batchId := key_of_findRow hfind
    refine ⟨.of_eq rfl rfl rfl, rfl, ?_, rfl, rfl, rfl, [], (List.append_nil _).symm, by simp⟩
    rw [updateWhere_eq_self]
    intro c hc
    rw [decide_eq_false_iff_not]
    intro hcid
    have hreserved := hb.reserved h (mem_of_findRow hfind) (Or.inr hreview) c hc hcid
    refine hunreserved c (List.mem_filter.mpr ⟨hc, ?_⟩) hreserved
    simpa using hcid.trans hid

/-- The lines of a validated batch have approved settlements. -/
lemma Integrity.approvedLines (h : db.Integrity) {i : Id}
    (hlines : ∀ l ∈ db.batchLinesOf i, ∃ s, (db.effectiveLine l).settlementLine = some s ∧
      db.approvalIsApproved s.settlementApprovalId = true) :
    ∀ l ∈ db.batchLinesOf i, ∃ s, db.settlementLineOf l = some s ∧
      db.approvalIsApproved s.settlementApprovalId = true := by
  intro l hl
  obtain ⟨s, hs, happroved⟩ := hlines l hl
  obtain ⟨t, -, ht, hid⟩ := h.exists_settlementLine (List.mem_filter.mp hl).1
  have heffective : (db.effectiveLine l).settlementLine = some t := by
    unfold settlementLineOf at ht
    rw [hid] at ht
    unfold effectiveLine
    rw [hid]
    exact ht
  obtain rfl := Option.some.inj (heffective.symm.trans hs)
  exact ⟨t, ht, happroved⟩

lemma PayoutBooks.completeR1CashlessPayout {batchId firstEventId : Id} {now : Instant}
    (hb : db.PayoutBooks) (h : db.Integrity)
    (hs : db.completeR1CashlessPayout batchId firstEventId now = .ok db') : db'.PayoutBooks := by
  have h' := h.completeR1CashlessPayout hs
  obtain ⟨b, finalized, hfind, hreview, hlines, hfinalized, rfl⟩ :=
    completeR1CashlessPayout_ok h.toConstraints hs
  have hmem : b ∈ db.payoutBatch := mem_of_findRow hfind
  obtain rfl : b.id = batchId := key_of_findRow hfind
  have hf := h.finalizesClaims hfinalized
  have hfrozen := hb.frozen hmem hreview
  exact hb.moves (b := b) (d := { b with status := .cashlessCompleted })
    (p := .finalized) h h'
    { hf.toKeepsCorrections with
      mem := hmem
      isOpen := Or.inr hreview
      id := rfl
      batches := hf.mem_batches h hmem
      claims := hf.claims
      follows := rfl
      lines := hf.lines
      settlementLines := hf.settlementLines
      approvals := hf.approvals
      events := hf.events
      booked := ⟨by simp [hb.unpaid hmem (Or.inr hreview)], (hb.booked b hmem).net,
        Or.inl hfrozen⟩
      approved := fun _ => h.approvedLines hlines }

lemma PayoutBooks.markPayoutBatchPaid {batchId : Id} {evidence : PaymentEvidence}
    {actualR1EftAmountMinor : Option ℤ} {firstEventId : Id} {now : Instant} (hb : db.PayoutBooks)
    (h : db.Integrity) (hs : db.markPayoutBatchPaidInTransaction batchId evidence
      actualR1EftAmountMinor firstEventId now = .ok db') : db'.PayoutBooks := by
  have h' := h.markPayoutBatchPaid hs
  obtain ⟨b, finalized, hfind, hreview, hpayment, hlines, hfinalized, rfl⟩ :=
    markPayoutBatchPaidInTransaction_ok h.toConstraints hs
  have hf := hb.finalizesForPayment h hfind hreview hpayment hfinalized
  have hmem : b ∈ db.payoutBatch := mem_of_findRow hfind
  obtain rfl : b.id = batchId := key_of_findRow hfind
  have hcorrections := KeepsCorrections.settle finalized b.id .paid
  have hfrozen := hb.frozen hmem hreview
  exact hb.moves (b := b) (d := { b with
      status := .paid, paidAt := some evidence.paidAt, eftExecutedAt := evidence.eftExecutedAt })
    (p := .finalized) h h'
    { credit := hcorrections.credit.trans hf.credit
      deduction := hcorrections.deduction.trans hf.deduction
      approvedDeduction := hcorrections.approvedDeduction.trans hf.approvedDeduction
      mem := hmem
      isOpen := Or.inr hreview
      id := rfl
      batches := hf.mem_batches h hmem
      claims := hf.claims
      follows := rfl
      lines := hf.lines
      settlementLines := hf.settlementLines
      approvals := hf.approvals
      events := hf.events
      booked := ⟨by simp, (hb.booked b hmem).net, Or.inl hfrozen⟩
      approved := fun _ => h.approvedLines hlines }

/-! ## The writers of settlements and refunds -/

/-- The tables that payouts write. -/
def payoutTables (db : FinanceDb) : List PayoutBatch × List PayoutBatchLine ×
    List PayoutOffsetClaim × List CorrectionPayoutLine × List CorrectionPayoutLine ×
    List CorrectionPayoutLine :=
  (db.payoutBatch, db.payoutBatchLine, db.payoutOffsetClaim, db.correctionCreditPayoutLine,
    db.correctionDeductionPayoutLine, db.approvedDeductionPayoutLine)

/-- **What a transaction that writes no payout does**: the payouts stay, and what it appends are
debts and unpaid sales. -/
structure LeavesPayouts (db db' : FinanceDb) : Prop extends KeepsPayouts db db' where
  debts : ∃ new, db'.vendorBalanceEvent = db.vendorBalanceEvent ++ new ∧
    ∀ e ∈ new, e.RecordsDebt
  ledger : ∃ new, db'.financeLedgerEntry = db.financeLedgerEntry ++ new ∧
    ∀ e ∈ new, e.entryType = .sale → e.payoutStatus = .pending

/-- The payout tables are not written, and the payments of completed batches stay approved. -/
lemma LeavesPayouts.of_tables (htables : db'.payoutTables = db.payoutTables)
    (hpayments : db.KeepsPayments db')
    (hevents : ∃ new, db'.vendorBalanceEvent = db.vendorBalanceEvent ++ new ∧
      ∀ e ∈ new, e.RecordsDebt)
    (hledger : ∃ new, db'.financeLedgerEntry = db.financeLedgerEntry ++ new ∧
      ∀ e ∈ new, e.entryType = .sale → e.payoutStatus = .pending)
    (happroved : ∀ b ∈ db.payoutBatch, b.status.isCompleted = true → ∀ l ∈ db.batchLinesOf b.id,
      ∀ s, db.settlementLineOf l = some s → db.approvalIsApproved s.settlementApprovalId = true →
        db'.approvalIsApproved s.settlementApprovalId = true) : db.LeavesPayouts db' := by
  simp only [payoutTables, Prod.mk.injEq] at htables
  obtain ⟨hbatches, hlines, hclaims, hcredit, hdeduction, happrovedDeduction⟩ := htables
  exact
    { KeepsCorrections.of_eq hcredit hdeduction happrovedDeduction with
      batches := hbatches
      lines := hlines
      claims := hclaims
      payments := hpayments
      events := hevents.imp fun _ ⟨hnew, hdebt⟩ => ⟨hnew, fun e he => (hdebt e he).source⟩
      approved := happroved
      debts := hevents
      ledger := hledger }

/-- Neither payouts nor settlements are written. -/
lemma LeavesPayouts.of_history (htables : db'.payoutTables = db.payoutTables)
    (hhistory : db.KeepsHistory db')
    (hevents : ∃ new, db'.vendorBalanceEvent = db.vendorBalanceEvent ++ new ∧
      ∀ e ∈ new, e.RecordsDebt)
    (hledger : ∃ new, db'.financeLedgerEntry = db.financeLedgerEntry ++ new ∧
      ∀ e ∈ new, e.entryType = .sale → e.payoutStatus = .pending) : db.LeavesPayouts db' := by
  refine .of_tables htables (.of_eq hhistory.lines) hevents hledger ?_
  intro b _ _ l _ s _ happroved
  unfold approvalIsApproved findApproval at happroved ⊢
  rwa [hhistory.approvals]

lemma exists_append_eq_self {α : Type} {P : α → Prop} (l : List α) :
    ∃ new, l = l ++ new ∧ ∀ x ∈ new, P x :=
  ⟨[], (List.append_nil l).symm, by simp⟩

lemma LeavesPayouts.createDraftApproval {input : SettlementApprovalInput} {ids : DraftIds}
    {now : Instant} (h : db.Integrity)
    (hs : db.createDraftApprovalInTransaction input ids now = .ok db') : db.LeavesPayouts db' := by
  obtain ⟨preview, plans, approval, _, _, lineOf, -, -, -, -, -, hkey, -, -, -, -, rfl⟩ :=
    createDraftApprovalInTransaction_ok h.adjustment_key h.application_key hs
  refine .of_tables rfl ?_ (exists_append_eq_self _) (exists_append_eq_self _) ?_
  · intro s hs
    have hpayments := map_linkPlans (g := SettlementApprovalLine.payment) (fun _ _ => rfl) lineOf
      (withIds Prod.mk ids.firstApplicationId plans)
      (db.settlementApprovalLine ++ draftLineRows ids preview plans)
    have hmem : s.payment ∈ (db.settlementApprovalLine ++ draftLineRows ids preview plans).map
        SettlementApprovalLine.payment := List.mem_map_of_mem (List.mem_append_left _ hs)
    rw [← hpayments] at hmem
    exact List.mem_map.mp hmem
  · intro b _ _ l _ s _ happroved
    obtain ⟨a, ha, hstatus⟩ := approvalIsApproved_iff.mp happroved
    have hid : a.id = s.settlementApprovalId := key_of_findRow ha
    refine approvalIsApproved_iff.mpr ⟨a, ?_, hstatus⟩
    rw [← hid]
    exact findRow_of_mem hkey (List.mem_append_left _ (mem_of_findRow ha))

lemma LeavesPayouts.executeCanonicalSettlementApproval {id firstAdjustmentId : Id} {now : Instant}
    (hs : db.executeCanonicalSettlementApproval id firstAdjustmentId now = .ok db') :
    db.LeavesPayouts db' := by
  obtain ⟨htables, hevents, hledger⟩ : db'.payoutTables = db.payoutTables ∧
      db'.vendorBalanceEvent = db.vendorBalanceEvent ∧
        db'.financeLedgerEntry = db.financeLedgerEntry := by
    refine executeCanonicalSettlementApproval_preserves
      (P := fun t => t.payoutTables = db.payoutTables ∧
        t.vendorBalanceEvent = db.vendorBalanceEvent ∧
          t.financeLedgerEntry = db.financeLedgerEntry) hs ⟨rfl, rfl, rfl⟩ ?_
    intro s t adjustmentId refundLedgerId recordId hs ht
    rcases createSettlementRefundAdjustmentForRefundLedger_ok ht with rfl | ⟨_, -, -, -, rfl⟩
    · exact hs
    · exact hs
  have hwrites := executeCanonicalSettlementApproval_writes hs
  refine .of_tables htables (.of_eq hwrites.lines) (hevents ▸ exists_append_eq_self _)
    (hledger ▸ exists_append_eq_self _) ?_
  intro b _ _ l _ s _ happroved
  obtain ⟨a, ha, hstatus⟩ := approvalIsApproved_iff.mp happroved
  have hfind : db'.findApproval s.settlementApprovalId =
      (db.findApproval s.settlementApprovalId).map fun x =>
        if decide (x.id = id) = true then approvedRow now x else x := by
    unfold findApproval
    rw [hwrites.approvals]
    exact findRow_map (fun x => by split <;> rfl) _ _
  rw [ha] at hfind
  refine approvalIsApproved_iff.mpr ⟨_, hfind, ?_⟩
  show (if decide (a.id = id) = true then approvedRow now a else a).status = .approved
  by_cases hid : a.id = id
  · rw [if_pos (by simpa using hid)]
    rfl
  · rw [if_neg (by simpa using hid)]
    exact hstatus

/-- A settlement that a completed batch pays cannot be cancelled. -/
lemma Integrity.not_cancellable (h : db.Integrity) {b : PayoutBatch}
    (hmem : b ∈ db.payoutBatch) (hcompleted : b.status.isCompleted = true) {l : PayoutBatchLine}
    (hl : l ∈ db.batchLinesOf b.id) {s : SettlementApprovalLine}
    (hs : db.settlementLineOf l = some s) :
    db.findFirstCancellationGuard s.settlementApprovalId ≠ none := by
  have hfind : db.findBatch l.payoutBatchId = some b := by
    obtain ⟨-, hid⟩ := List.mem_filter.mp hl
    rw [of_decide_eq_true hid]
    exact findRow_of_mem h.batch_key hmem
  have hlinked : b ∈ db.linkedPayoutBatches s.settlementApprovalId := by
    refine List.mem_map.mpr ⟨(l, b), List.mem_filterMap.mpr ⟨l, (List.mem_filter.mp hl).1, ?_⟩, rfl⟩
    show (if (db.settlementLineOf l).any (fun x => decide (x.settlementApprovalId =
      s.settlementApprovalId)) = true then (db.findBatch l.payoutBatchId).map (fun x => (l, x))
        else none) = some (l, b)
    rw [hs, hfind]
    simp
  have hpaid : (db.linkedPayoutBatches s.settlementApprovalId).any (fun b =>
        decide (b.status = .paid) || b.paidAt.isSome) = true ∨
      (db.linkedPayoutBatches s.settlementApprovalId).any (fun b =>
        decide (b.status = .cashlessCompleted)) = true := by
    simp only [PayoutBatchStatus.isCompleted, Bool.or_eq_true, decide_eq_true_eq] at hcompleted
    rcases hcompleted with hpaid | hcashless
    · exact Or.inl (List.any_eq_true.mpr ⟨b, hlinked, by simp [hpaid]⟩)
    · exact Or.inr (List.any_eq_true.mpr ⟨b, hlinked, by simp [hcashless]⟩)
  intro hnone
  have hskip : ∀ {p : Bool} {message : String} {o : Option String},
      (if p = true then some message else o) = none → p ≠ true ∧ o = none := by
    intro p message o hif
    cases p with
    | true => cases hif
    | false => exact ⟨by simp, hif⟩
  obtain ⟨-, hnone⟩ := hskip hnone
  obtain ⟨-, hnone⟩ := hskip hnone
  obtain ⟨hunpaid, hnone⟩ := hskip hnone
  obtain ⟨huncompleted, -⟩ := hskip hnone
  rcases hpaid with hpaid | hcashless
  · exact hunpaid hpaid
  · exact huncompleted hcashless

lemma LeavesPayouts.cancelSettlementApproval {id : Id} (h : db.Integrity)
    (hs : db.cancelSettlementApproval id = .ok db') : db.LeavesPayouts db' := by
  have hwrites := cancelSettlementApproval_writes h hs
  obtain ⟨existing, hfind, -, hguard, rfl⟩ := cancelSettlementApproval_ok hs
  have hsame : ((db.cancelApplications id).resetLegacyAppliedAdjustments id).payoutTables =
      db.payoutTables ∧ ((db.cancelApplications id).resetLegacyAppliedAdjustments id
        ).vendorBalanceEvent = db.vendorBalanceEvent ∧ ((db.cancelApplications id
          ).resetLegacyAppliedAdjustments id).financeLedgerEntry = db.financeLedgerEntry := by
    rw [cancelApplications_eq h.application_key h.application_unique]
    exact ⟨rfl, rfl, rfl⟩
  refine .of_tables hsame.1 (.of_eq hwrites.lines) ⟨[], by rw [hsame.2.1, List.append_nil], by simp⟩
    ⟨[], by rw [hsame.2.2, List.append_nil], by simp⟩ ?_
  intro b hmem hcompleted l hl s hline happroved
  have hne : s.settlementApprovalId ≠ id := by
    rintro rfl
    exact h.not_cancellable hmem hcompleted hl hline hguard
  obtain ⟨a, ha, hstatus⟩ := approvalIsApproved_iff.mp happroved
  refine approvalIsApproved_iff.mpr ⟨a, ?_, hstatus⟩
  have hid : a.id = s.settlementApprovalId := key_of_findRow ha
  unfold findApproval at ha ⊢
  rw [hwrites.approvals]
  unfold updateWhere
  rw [findRow_map (fun x => by split <;> rfl), ha, Option.map_some,
    if_neg (by simpa [hid] using hne)]

lemma LeavesPayouts.ingestRefund {r : RefundArrival} (hs : db.ingestRefund r = .ok db') :
    db.LeavesPayouts db' := by
  have hhistory := KeepsHistory.ingestRefund hs
  obtain ⟨sale, -, -, -, -, written, hwritten, hrest⟩ := ingestRefund_ok hs
  obtain ⟨-, rfl⟩ := writeRefundLedger_ok hwritten
  have hrow : ∃ new, db.financeLedgerEntry ++ [r.ledgerRow (db.refundArrivalSaleSnapshot sale)] =
      db.financeLedgerEntry ++ new ∧ ∀ e ∈ new, e.entryType = .sale → e.payoutStatus = .pending := by
    refine ⟨_, rfl, fun e he hsale => ?_⟩
    obtain rfl := List.mem_singleton.mp he
    cases hsale
  rcases hrest with ⟨refund, -, hdebt⟩ | hadjustment
  · rcases createVendorDebtForPaidRefund_ok hdebt with rfl | ⟨_, hpos, -, rfl⟩
    · exact .of_history rfl hhistory (exists_append_eq_self _) hrow
    · refine .of_history rfl hhistory ⟨_, rfl, fun e he => ?_⟩ hrow
      obtain rfl := List.mem_singleton.mp he
      exact ⟨rfl, neg_lt_zero.mpr hpos, by simp [refundDebtRow]⟩
  · rcases createSettlementRefundAdjustmentForRefundLedger_ok hadjustment with
      rfl | ⟨_, -, -, -, rfl⟩
    · exact .of_history rfl hhistory (exists_append_eq_self _) hrow
    · exact .of_history rfl hhistory (exists_append_eq_self _) hrow

/-! ## Reviews -/

/-- The ordinary review finds no claims. -/
lemma PayoutBooks.markPayoutBatchReview {batchId : Id} {now : Instant} (hb : db.PayoutBooks)
    (h : db.Integrity) (hs : db.markPayoutBatchReview batchId now = .ok db') : db'.PayoutBooks := by
  obtain ⟨⟨b, hfind, hdraft⟩, rfl⟩ := markPayoutBatchReview_ok h.toConstraints hs
  have hmem : b ∈ db.payoutBatch := mem_of_findRow hfind
  obtain rfl : b.id = batchId := key_of_findRow hfind
  simp only [FinanceDb.markPayoutBatchReview, assertNoReservedPayoutOffsetClaims, bind_eq_ok,
    require_eq_ok, List.all_eq_true, decide_eq_true_eq] at hs
  obtain ⟨_, hunreserved, -⟩ := hs
  have hnone : db.claimsOf b.id = [] := by
    rw [List.eq_nil_iff_forall_not_mem]
    intro c hc
    obtain ⟨hmemc, hid⟩ := List.mem_filter.mp hc
    exact hunreserved c hc (hb.reserved h hmem (Or.inl hdraft) c hmemc (of_decide_eq_true hid))
  refine hb.review h hmem hdraft ?_
  rw [hnone]
  rcases (hb.booked b hmem).offset with hoffset | ⟨hzero, -⟩
  · rw [hoffset, hnone]
  · exact hzero

/-- The R1 review holds the frozen offset to the claims. -/
lemma PayoutBooks.markR1PayoutBatchReview {batchId : Id} {now : Instant} (hb : db.PayoutBooks)
    (h : db.Integrity) (hs : db.markR1PayoutBatchReview batchId now = .ok db') :
    db'.PayoutBooks := by
  obtain ⟨⟨b, hfind, hdraft⟩, rfl⟩ := markR1PayoutBatchReview_ok h.toConstraints hs
  have hmem : b ∈ db.payoutBatch := mem_of_findRow hfind
  obtain rfl : b.id = batchId := key_of_findRow hfind
  simp only [FinanceDb.markR1PayoutBatchReview, bind_eq_ok] at hs
  obtain ⟨authority, hauthority, -⟩ := hs
  simp only [assertR1PayoutMonetaryAuthority, bind_eq_ok, getOrThrow_eq_ok, require_eq_ok,
    pure_eq_ok, hfind, Option.some.injEq] at hauthority
  obtain ⟨_, rfl, _, -, _, -, _, -, _, ⟨-, hoffset, -⟩, -⟩ := hauthority
  exact hb.review h hmem hdraft hoffset.symm

end FinanceDb

open FinanceDb in
/-- **What a transaction that writes no payout leaves alone.** -/
theorem FinanceDb.LeavesPayouts.step {db db' : FinanceDb} {a : Action} (h : db.Integrity)
    (ha : a.keepsPayouts = true) (hs : step a db = .ok db') : db.LeavesPayouts db' := by
  have hunwritten : ∀ {t : FinanceDb}, t.payoutTables = db.payoutTables → db.KeepsHistory t →
      t.vendorBalanceEvent = db.vendorBalanceEvent → t.financeLedgerEntry = db.financeLedgerEntry →
      db.LeavesPayouts t :=
    fun htables hhistory hevents hledger => .of_history htables hhistory
      (hevents ▸ exists_append_eq_self _) (hledger ▸ exists_append_eq_self _)
  cases a with
  | recordSale allocation sale =>
      have hhistory := KeepsHistory.step (a := .recordSale allocation sale) h rfl hs
      simp only [Finance.step, FinanceDb.recordSale, bind_eq_ok, require_eq_ok, insertRows_eq_ok,
        pure_eq_ok] at hs
      obtain ⟨_, ⟨-, -, -, hpending, -⟩, _, -, _, ⟨-, rfl⟩, rfl⟩ := hs
      refine .of_history rfl hhistory (exists_append_eq_self _) ⟨[sale], rfl, fun e he _ => ?_⟩
      obtain rfl := List.mem_singleton.mp he
      exact hpending
  | updateAllocation allocation =>
      obtain rfl := Except.ok.inj hs
      exact hunwritten rfl (.of_eq rfl rfl rfl rfl) rfl rfl
  | setFinanceIntegrityAlerts alerts =>
      obtain rfl := Except.ok.inj hs
      exact hunwritten rfl (.of_eq rfl rfl rfl rfl) rfl rfl
  | setCommissionInvoices invoices =>
      obtain rfl := Except.ok.inj hs
      exact hunwritten rfl (.of_eq rfl rfl rfl rfl) rfl rfl
  | setTerminalEvidenceReviews reviews =>
      obtain rfl := Except.ok.inj hs
      exact hunwritten rfl (.of_eq rfl rfl rfl rfl) rfl rfl
  | recordCorrectionCredit source =>
      simp only [Finance.step, FinanceDb.recordCorrectionCredit, bind_eq_ok, pure_eq_ok] at hs
      obtain ⟨_, -, rfl⟩ := hs
      exact hunwritten rfl (.of_eq rfl rfl rfl rfl) rfl rfl
  | recordCorrectionDeduction source =>
      simp only [Finance.step, FinanceDb.recordCorrectionDeduction, bind_eq_ok, pure_eq_ok] at hs
      obtain ⟨_, -, rfl⟩ := hs
      exact hunwritten rfl (.of_eq rfl rfl rfl rfl) rfl rfl
  | recordApprovedDeductionCoverage coverage =>
      simp only [Finance.step, FinanceDb.recordApprovedDeductionCoverage, bind_eq_ok, pure_eq_ok]
        at hs
      obtain ⟨_, -, rfl⟩ := hs
      exact hunwritten rfl (.of_eq rfl rfl rfl rfl) rfl rfl
  | chargePaidCorrection eventId authority authorizedDebtMinor =>
      obtain ⟨hpos, -, rfl⟩ := createVendorDebtForPaidFinancialCorrection_ok hs
      refine .of_history rfl (.of_eq rfl rfl rfl rfl) ⟨_, rfl, fun e he => ?_⟩
        (exists_append_eq_self _)
      obtain rfl := List.mem_singleton.mp he
      exact ⟨rfl, neg_lt_zero.mpr hpos, by simp [correctionDebtRow]⟩
  | ingestRefund refund => exact .ingestRefund hs
  | createDraftApproval input ids now => exact .createDraftApproval h hs
  | approveSettlement id firstAdjustmentId now => exact .executeCanonicalSettlementApproval hs
  | cancelSettlement id => exact .cancelSettlementApproval h hs
  | _ => cases ha

open FinanceDb in
/-- **What a cancellation of a payout does**: it cancels an open batch. -/
theorem FinanceDb.PayoutBooks.cancels {db db' : FinanceDb} {a : Action} (hb : db.PayoutBooks)
    (h : db.Integrity) (ha : a.cancelsPayout = true) (hs : step a db = .ok db') :
    ∃ b ∈ db.payoutBatch, (b.status = .draft ∨ b.status = .review) ∧
      db' = db.withCancelledBatch b.id := by
  have hfound : ∀ {batchId b}, db.findBatch batchId = some b →
      (b.status = .draft ∨ b.status = .review) → ∃ c ∈ db.payoutBatch,
        (c.status = .draft ∨ c.status = .review) ∧
          db.withCancelledBatch batchId = db.withCancelledBatch c.id := by
    intro batchId b hfind hopen
    exact ⟨b, mem_of_findRow hfind, hopen, by rw [key_of_findRow hfind]⟩
  cases a with
  | cancelDraftPayout batchId actorId =>
      obtain ⟨⟨b, hfind, hdraft⟩, rfl⟩ := cancelDraftPayoutBatchWithClient_ok h.toConstraints hs
      exact hfound hfind (Or.inl hdraft)
  | cancelReviewPayout batchId =>
      obtain ⟨⟨b, hfind, hreview⟩, -, rfl⟩ := cancelReviewPayoutBatchWithClient_ok h.toConstraints hs
      exact hfound hfind (Or.inr hreview)
  | cancelR1ReviewPayout batchId actorUserId =>
      obtain ⟨⟨b, hfind, hreview⟩, rfl⟩ := cancelR1ReviewPayoutBeforeEft_ok h.toConstraints hs
      exact hfound hfind (Or.inr hreview)
  | cancelPayout batchId actorId =>
      obtain ⟨⟨b, hfind, hpaid, hcashless, hcancelled⟩, rfl⟩ := cancelPayoutBatch_ok h.toConstraints hs
      refine hfound hfind ?_
      -- the statuses that no transaction writes
      obtain ⟨s, hfollows⟩ := hb.status b (mem_of_findRow hfind)
      cases hstatus : b.status with
      | draft => exact Or.inl rfl
      | review => exact Or.inr rfl
      | paid => exact absurd hstatus hpaid
      | cashlessCompleted => exact absurd hstatus hcashless
      | cancelled => exact absurd hstatus hcancelled
      | approved | executionPending | paidPlaceholder =>
          rw [hstatus] at hfollows
          cases hfollows
  | _ => cases ha

open FinanceDb in
/-- **The books of payouts are kept** by every transaction. -/
theorem FinanceDb.PayoutBooks.step {db db' : FinanceDb} {a : Action} (hb : db.PayoutBooks)
    (h : db.Integrity) (hs : step a db = .ok db') : db'.PayoutBooks := by
  by_cases ha : a.keepsPayouts = true
  · exact hb.keeps h (h.step hs) (LeavesPayouts.step h ha hs).toKeepsPayouts
  by_cases hc : a.cancelsPayout = true
  · obtain ⟨b, hmem, hopen, rfl⟩ := hb.cancels h hc hs
    exact hb.cancel h hmem hopen
  cases a with
  | preparePayout vendorId ids now => exact hb.preparePayoutBatch h hs
  | prepareR1Payout vendorId actorId requestId ids now => exact hb.prepareR1PayoutBatch h hs
  | prepareAdminPayout vendorId actorId requestId ids now =>
      rcases prepareAdminPayoutBatchWithR1_ok hs with rfl | hr1 | hordinary
      · exact hb
      · exact hb.prepareR1PayoutBatch h hr1
      · exact hb.preparePayoutBatch h hordinary
  | reservePayoutOffsets input now => exact hb.reservePayoutOffsets h hs
  | markPayoutReview batchId now => exact hb.markPayoutBatchReview h hs
  | markR1PayoutReview batchId now => exact hb.markR1PayoutBatchReview h hs
  | completeCashlessPayout batchId firstEventId now => exact hb.completeR1CashlessPayout h hs
  | markPayoutPaid batchId evidence now => exact hb.markPayoutBatchPaid h hs
  | markR1PayoutPaid batchId evidence actualEftAmountMinor firstEventId now =>
      exact hb.markPayoutBatchPaid h (markR1PayoutBatchPaid_ok hs)
  | _ =>
      first
      | exact absurd rfl ha
      | exact absurd rfl hc

lemma FinanceDb.PayoutBooks.empty : FinanceDb.empty.PayoutBooks where
  status := fun _ h => absurd h (List.not_mem_nil)
  claim := fun _ h => absurd h (List.not_mem_nil)
  booked := fun _ h => absurd h (List.not_mem_nil)
  exclusive := fun _ h => absurd h (List.not_mem_nil)
  amount := fun _ h => absurd h (List.not_mem_nil)
  completed := fun _ h => absurd h (List.not_mem_nil)
  correction := fun _ h => absurd h (List.not_mem_nil)
  event := fun _ h => absurd h (List.not_mem_nil)

/-- The books of payouts are right in every reachable state. -/
theorem ReachableDb.payoutBooks {db : FinanceDb} (h : ReachableDb db) : db.PayoutBooks :=
  h.invariant FinanceDb.PayoutBooks.empty fun _ _ _ hr hb _ hstep => hb.step (ReachableDb.integrity hr) hstep

/-- **Claims move with their batches**: in every reachable state a claim is reserved, finalized or
released exactly when its batch is open, completed or cancelled. -/
theorem ReachableDb.claims_follow_batches {db : FinanceDb} (h : ReachableDb db) :
    ∀ c ∈ db.payoutOffsetClaim, ∃ b ∈ db.payoutBatch, b.id = c.payoutBatchId ∧
      (c.status = .reserved ↔ b.status = .draft ∨ b.status = .review) ∧
      (c.status = .finalized ↔ b.status = .paid ∨ b.status = .cashlessCompleted) ∧
      (c.status = .released ↔ b.status = .cancelled) := by
  intro c hc
  obtain ⟨b, hb, hid, hfollows⟩ := h.payoutBooks.claim c hc
  refine ⟨b, hb, hid, ?_⟩
  cases hstatus : b.status with
  | draft | review | paid | cashlessCompleted | cancelled =>
      rw [hstatus] at hfollows
      rw [show c.status = _ from hfollows]
      simp
  | approved | executionPending | paidPlaceholder =>
      rw [hstatus] at hfollows
      cases hfollows

/-- **The net of a payout**: in every reachable state it is what the lines of the batch pay, less
the debt that the batch recovered and less its frozen claims, which are all of its claims while the
batch is in review and once it is completed. -/
theorem ReachableDb.payout_net {db : FinanceDb} (h : ReachableDb db) : ∀ b ∈ db.payoutBatch,
    b.netAmount * 100 = ((((db.batchLinesOf b.id).map db.payoutLinePayable).sum +
        FinanceDb.correctionTotalOf b.id db.correctionCreditPayoutLine -
        FinanceDb.correctionTotalOf b.id db.correctionDeductionPayoutLine -
        FinanceDb.correctionTotalOf b.id db.approvedDeductionPayoutLine - db.batchOffsetMinor b.id -
        b.r1OffsetTotalMinor : ℤ) : ℚ) ∧
      (b.status = .review ∨ b.status = .paid ∨ b.status = .cashlessCompleted →
        b.r1OffsetTotalMinor = claimSum (db.claimsOf b.id)) ∧
      ∀ l ∈ db.batchLinesOf b.id, l.amountSnapshot * 100 = (db.payoutLinePayable l : ℚ) := by
  intro b hb
  obtain ⟨-, hnet, hoffset⟩ := h.payoutBooks.booked b hb
  refine ⟨hnet, fun hleft => ?_, fun l hl => h.payoutBooks.amount l (List.mem_filter.mp hl).1⟩
  rcases hoffset with hoffset | ⟨-, hstatus⟩
  · exact hoffset
  · rcases hstatus with hstatus | hstatus
    · simp [hstatus] at hleft
    · simp [hstatus] at hleft

/-- **Payouts exclude each other**: in every reachable state a settlement line is in at most one
uncancelled batch, and the settlements that a completed batch paid are approved. -/
theorem ReachableDb.payout_lines_exclusive {db : FinanceDb} (h : ReachableDb db) :
    (∀ l ∈ db.payoutBatchLine, ∀ m ∈ db.payoutBatchLine,
        l.settlementApprovalLineId = m.settlementApprovalLineId →
        db.batchIsActive l.payoutBatchId = true → db.batchIsActive m.payoutBatchId = true → l = m) ∧
      ∀ b ∈ db.payoutBatch, b.status = .paid ∨ b.status = .cashlessCompleted →
        ∀ l ∈ db.batchLinesOf b.id, ∃ s, db.settlementLineOf l = some s ∧
          db.approvalIsApproved s.settlementApprovalId = true := by
  refine ⟨h.payoutBooks.exclusive, fun b hb hstatus => h.payoutBooks.completed b hb ?_⟩
  rcases hstatus with hstatus | hstatus
  · rw [hstatus]
    rfl
  · rw [hstatus]
    rfl

/-! ### Two payouts of a vendor -/

namespace TwoPayouts

def allocation (id : Id) : VendorAllocation where
  id
  sourceShopifyOrderId := "1"
  sourceShopifyOrderNumber := "#1"
  orderId := some id
  orderCurrency := "TRY"
  orderCancelledAt := none
  allocationStatus := .active
  cancelRefundReviewStatus := none
  customerCancellationRequestItems := []
  fulfillmentStatus := ""
  shippingStatus := ""
  fulfilledAt := none
  outboundMethodSnapshot := some .kargonomi
  outboundIntegrationProviderSnapshot := none
  deliveredObservation := some ⟨id, .kargonomi, none, 0⟩
  refundRecords := []
  returnRecords := []

/-- A sale of 100 without commission. -/
def sale (id : Id) : FinanceLedgerEntry where
  id
  vendorAllocationId := some id
  vendorId := 1
  entryType := .sale
  amount := 100
  payoutStatus := .pending
  settlementStatus := .payable
  settlementHoldReason := none
  commissionPercentSnapshot := some 0
  commissionVatPercentSnapshot := some 0
  deductShippingEnabledSnapshot := some false
  shippingModeSnapshot := some .disabled
  fixedShippingFeeSnapshot := none
  shippingCostSnapshot := none
  shippingVatAmountSnapshot := none
  settlementDelayDaysSnapshot := 0
  settledAt := none
  voidedAt := none
  createdAt := 1
  refundEvidenceSnapshot := none

def draftInput : SettlementApprovalInput where
  vendorId := 1
  periodStart := none
  periodEnd := none
  asOfDate := none
  selectedOrderIds := []
  selectedShopifyOrderIds := []
  selectedAllocationIds := []
  candidateScope := none
  scheduledRunDate := none
  scheduledPeriodEnd := none
  scheduledCycleKey := none
  replacementAudit := none

/-- A refund of 40 on the first sale. -/
def refund : FinanceDb.RefundArrival where
  vendorAllocationId := 1
  sourceShopifyRefundId := 50
  sourceShopifyOrderId := "1"
  returnRecordId := 50
  refundRecordId := 50
  refundLedgerId := 50
  adjustmentId := 50
  debtEventId := 50
  totalRefundAmount := 40
  refundTotalAmount := 40
  currency := "TRY"
  now := 9

/-- The first sale is paid, its refund becomes a debt, and the second sale is offered to a payout
that reserves the debt. -/
def reserved : List Action :=
  [.recordSale (allocation 1) (sale 1), .createDraftApproval draftInput ⟨1, 10, 10, 10, 10⟩ 3,
    .approveSettlement 1 90 4, .preparePayout 1 ⟨1, 10, 10, 10, 10, 10, 10⟩ 5,
    .markPayoutReview 1 6, .markPayoutPaid 1 ⟨7, some 7⟩ 8, .ingestRefund refund,
    .recordSale (allocation 2) (sale 2), .createDraftApproval draftInput ⟨2, 20, 20, 20, 20⟩ 10,
    .approveSettlement 2 91 11, .prepareR1Payout 1 7 1 ⟨2, 20, 20, 20, 20, 20, 20⟩ 12]

/-- The second payout is paid as well. -/
def finalized : List Action :=
  reserved ++ [.markR1PayoutReview 2 13, .markR1PayoutPaid 2 ⟨14, some 14⟩ 6000 60 15]

end TwoPayouts

/-- What holds after both payouts, when their claims and lines are read. -/
lemma twoPayouts_reachable : ∃ db, ReachableDb db ∧
    db.payoutBatch.map (·.status) = [.paid, .paid] ∧
    db.payoutOffsetClaim.map (·.status) = [.finalized] ∧
    db.financeLedgerEntry.map (·.payoutStatus) = [.paid, .hold, .paid] ∧
    db.vendorBalanceEvent.map (·.amountMinor) = [-4000, 4000] ∧ db.payoutBatchLine.length = 2 := by
  have hrun : Succeeds (runActions step TwoPayouts.finalized FinanceDb.empty) fun db =>
      db.payoutBatch.map (·.status) = [.paid, .paid] ∧
        db.payoutOffsetClaim.map (·.status) = [.finalized] ∧
        db.financeLedgerEntry.map (·.payoutStatus) = [.paid, .hold, .paid] ∧
        db.vendorBalanceEvent.map (·.amountMinor) = [-4000, 4000] ∧
        db.payoutBatchLine.length = 2 := by
    decide +kernel
  obtain ⟨db, hdb, hstate⟩ := succeeds_iff.mp hrun
  exact ⟨db, reachableWith_of_runActions (fun _ _ _ => trivial) hdb, hstate⟩

theorem claims_follow_batches_twoPayouts : ∃ db, ReachableDb db ∧
    db.payoutOffsetClaim.map (·.status) = [.finalized] ∧
    ∀ c ∈ db.payoutOffsetClaim, ∃ b ∈ db.payoutBatch, b.id = c.payoutBatchId ∧
      (c.status = .reserved ↔ b.status = .draft ∨ b.status = .review) ∧
      (c.status = .finalized ↔ b.status = .paid ∨ b.status = .cashlessCompleted) ∧
      (c.status = .released ↔ b.status = .cancelled) := by
  obtain ⟨db, hdb, -, hclaims, -⟩ := twoPayouts_reachable
  exact ⟨db, hdb, hclaims, hdb.claims_follow_batches⟩

theorem payout_net_twoPayouts : ∃ db, ReachableDb db ∧
    db.payoutBatch.map (·.status) = [.paid, .paid] ∧ ∀ b ∈ db.payoutBatch,
      b.netAmount * 100 = ((((db.batchLinesOf b.id).map db.payoutLinePayable).sum +
          FinanceDb.correctionTotalOf b.id db.correctionCreditPayoutLine -
          FinanceDb.correctionTotalOf b.id db.correctionDeductionPayoutLine -
          FinanceDb.correctionTotalOf b.id db.approvedDeductionPayoutLine -
          db.batchOffsetMinor b.id - b.r1OffsetTotalMinor : ℤ) : ℚ) ∧
        b.r1OffsetTotalMinor = claimSum (db.claimsOf b.id) := by
  obtain ⟨db, hdb, hbatches, -⟩ := twoPayouts_reachable
  refine ⟨db, hdb, hbatches, fun b hb => ?_⟩
  obtain ⟨hnet, hoffset, -⟩ := hdb.payout_net b hb
  have hpaid : b.status ∈ [PayoutBatchStatus.paid, .paid] :=
    hbatches ▸ List.mem_map_of_mem hb
  exact ⟨hnet, hoffset (.inr (.inl (by simpa using hpaid)))⟩

theorem payout_lines_exclusive_twoPayouts : ∃ db, ReachableDb db ∧ db.payoutBatchLine.length = 2 ∧
    ∀ l ∈ db.payoutBatchLine, ∀ m ∈ db.payoutBatchLine,
      l.settlementApprovalLineId = m.settlementApprovalLineId →
      db.batchIsActive l.payoutBatchId = true → db.batchIsActive m.payoutBatchId = true →
        l = m := by
  obtain ⟨db, hdb, -, -, -, -, hlines⟩ := twoPayouts_reachable
  exact ⟨db, hdb, hlines, hdb.payout_lines_exclusive.1⟩

end VendorDashboard.Finance

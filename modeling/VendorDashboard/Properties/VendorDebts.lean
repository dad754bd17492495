import VendorDashboard.Properties.PayoutBooks
import VendorDashboard.Properties.DebtReconciliation

/-!
# A debt is recovered once

The debts of a vendor are recorded by negative balance events, and a payout recovers them by
positive ones: the preparation of an ordinary batch by one offset, the payment of an R1 batch by one
for each claim on a debt.  An offset counts until its batch is cancelled.  In every reachable state
the counted offsets are at most the recorded debts (`ReachableDb.debt_recovered_once`).

An ordinary preparation offsets at most what is outstanding.  A finalization is not bounded by its
own arithmetic but by the report it demands at its end: when every debt is verified, each one's
finalized claims are within it (`FinanceDb.balanceMinor_nonpos_of_verified`).
-/

namespace VendorDashboard.Finance

open Table Transaction

namespace FinanceDb

/-- The debts recorded for a vendor. -/
def recordedDebtMinor (db : FinanceDb) (vendorId : Id) (currency : String) : ℤ :=
  total (fun e => decide (e.vendorId = vendorId) && decide (e.currency = currency) &&
    decide (e.type = .vendorDebtCreated)) (fun e => -e.amountMinor) db.vendorBalanceEvent

/-- The debts that payouts have recovered and that no cancellation gave back. -/
def recoveredDebtMinor (db : FinanceDb) (vendorId : Id) (currency : String) : ℤ :=
  total (fun e => decide (e.vendorId = vendorId) && decide (e.currency = currency) &&
    decide (e.type = .vendorDebtOffset) && db.countsTowardsBalance e) (·.amountMinor)
    db.vendorBalanceEvent

/-- What the balance events of reachable states look like. -/
structure DebtEvent (e : VendorBalanceEvent) : Prop where
  type : e.type = .vendorDebtCreated ∨ e.type = .vendorDebtOffset
  created : e.type = .vendorDebtCreated → e.amountMinor < 0
  offset : e.type = .vendorDebtOffset → 0 < e.amountMinor

structure DebtBooks (db : FinanceDb) : Prop where
  event : ∀ e ∈ db.vendorBalanceEvent, DebtEvent e
  balance : ∀ vendorId currency, db.balanceMinor vendorId currency ≤ 0

variable {db db' : FinanceDb}

/-! ## When a balance cannot rise -/

/-- A total grows with its predicate when the rows it gains are not negative. -/
lemma total_le_of_gain {α : Type} {p q : α → Bool} {f : α → ℤ} {l : List α}
    (hpq : ∀ x ∈ l, p x = true → q x = true)
    (hf : ∀ x ∈ l, p x = false → q x = true → 0 ≤ f x) : total p f l ≤ total q f l := by
  refine List.sum_le_sum fun x hx => ?_
  cases hp : p x with
  | true => simp [hpq x hx hp]
  | false =>
      cases hq : q x with
      | true => simpa using hf x hx hp hq
      | false => simp

lemma total_neg {α : Type} (p : α → Bool) (f : α → ℤ) (l : List α) :
    total p (fun x => -f x) l = -total p f l := by
  induction l with
  | nil => simp
  | cons x l ih =>
      rw [total_cons, total_cons, ih]
      split
      · omega
      · omega

def isCancelledBatch (db : FinanceDb) (i : Id) : Bool :=
  (db.findBatch i).any fun b => decide (b.status = .cancelled)

lemma countsTowardsBalance_eq_false {e : VendorBalanceEvent} :
    db.countsTowardsBalance e = false ↔
      e.type = .vendorDebtOffset ∧ ∃ i, e.payoutBatchId = some i ∧ db.isCancelledBatch i = true := by
  unfold countsTowardsBalance isCancelledBatch
  cases he : e.payoutBatchId with
  | none => simp
  | some i => simp

/-- A cancelled batch stays cancelled, so an event counts later only if it counts now. -/
lemma countsTowardsBalance_mono
    (hcancelled : ∀ i, db.isCancelledBatch i = true → db'.isCancelledBatch i = true)
    {e : VendorBalanceEvent} (h : db'.countsTowardsBalance e = true) :
    db.countsTowardsBalance e = true := by
  by_contra hnot
  obtain ⟨htype, i, hi, hc⟩ := countsTowardsBalance_eq_false.mp (Bool.eq_false_iff.mpr hnot)
  have hlater : db'.countsTowardsBalance e = false :=
    countsTowardsBalance_eq_false.mpr ⟨htype, i, hi, hcancelled i hc⟩
  rw [hlater] at h
  cases h

/-- What the old events count for later is at most the old balance. -/
lemma DebtBooks.counted_le (hd : db.DebtBooks)
    (hcancelled : ∀ i, db.isCancelledBatch i = true → db'.isCancelledBatch i = true)
    (vendorId : Id) (currency : String) :
    total (fun e => decide (e.vendorId = vendorId) && decide (e.currency = currency) &&
      db'.countsTowardsBalance e) (·.amountMinor) db.vendorBalanceEvent ≤
      db.balanceMinor vendorId currency := by
  refine total_le_of_gain (fun e _ he => ?_) fun e hmem hnot he => ?_
  · simp only [Bool.and_eq_true] at he ⊢
    exact ⟨he.1, countsTowardsBalance_mono hcancelled he.2⟩
  · -- an event that stopped counting is an offset
    simp only [Bool.and_eq_true] at he
    simp only [he.1, Bool.and_self, Bool.true_and] at hnot
    obtain ⟨htype, -⟩ := countsTowardsBalance_eq_false.mp hnot
    exact ((hd.event e hmem).offset htype).le

/-- Without new offsets a balance does not rise. -/
lemma DebtBooks.keeps {l : List VendorBalanceEvent} (hd : db.DebtBooks)
    (hcancelled : ∀ i, db.isCancelledBatch i = true → db'.isCancelledBatch i = true)
    (hevents : db'.vendorBalanceEvent = db.vendorBalanceEvent ++ l)
    (hnew : ∀ e ∈ l, e.type = .vendorDebtCreated ∧ e.amountMinor < 0) : db'.DebtBooks where
  event := by
    rw [hevents, List.forall_mem_append]
    refine ⟨hd.event, fun e he => ?_⟩
    obtain ⟨htype, hneg⟩ := hnew e he
    refine ⟨Or.inl htype, fun _ => hneg, fun hoffset => ?_⟩
    rw [htype] at hoffset
    cases hoffset
  balance := by
    intro vendorId currency
    have hold := hd.balance vendorId currency
    have hcounted := hd.counted_le hcancelled vendorId currency
    have hnonpos : total (fun e => decide (e.vendorId = vendorId) &&
        decide (e.currency = currency) && db'.countsTowardsBalance e) (·.amountMinor) l ≤ 0 := by
      have hle := total_le_of_gain (p := fun _ => false) (f := fun e => -e.amountMinor)
        (q := fun e => decide (e.vendorId = vendorId) && decide (e.currency = currency) &&
          db'.countsTowardsBalance e) (l := l) (by simp) fun e he _ _ => by
            have hneg := (hnew e he).2
            omega
      rw [total_eq_zero (by simp), total_neg] at hle
      exact neg_nonneg.mp hle
    unfold balanceMinor
    rw [hevents, total_append]
    omega

/-- An offset within what is outstanding. -/
lemma DebtBooks.offset {o : VendorBalanceEvent} (hd : db.DebtBooks)
    (hcancelled : ∀ i, db.isCancelledBatch i = true → db'.isCancelledBatch i = true)
    (hevents : db'.vendorBalanceEvent = db.vendorBalanceEvent ++ [o])
    (htype : o.type = .vendorDebtOffset) (hpos : 0 < o.amountMinor)
    (hle : o.amountMinor ≤ -db.balanceMinor o.vendorId o.currency) : db'.DebtBooks where
  event := by
    rw [hevents, List.forall_mem_append]
    refine ⟨hd.event, fun e he => ?_⟩
    obtain rfl := List.mem_singleton.mp he
    refine ⟨Or.inr htype, fun hcreated => ?_, fun _ => hpos⟩
    rw [htype] at hcreated
    cases hcreated
  balance := by
    intro vendorId currency
    have hold := hd.balance vendorId currency
    have hcounted := hd.counted_le hcancelled vendorId currency
    unfold balanceMinor
    rw [hevents, total_append, total_cons, total_nil, add_zero]
    split
    · rename_i hscope
      simp only [Bool.and_eq_true, decide_eq_true_eq] at hscope
      rw [hscope.1.1, hscope.1.2] at hle
      omega
    · omega

lemma isCancelledBatch_eq (h : db'.payoutBatch = db.payoutBatch) (i : Id) :
    db'.isCancelledBatch i = db.isCancelledBatch i := by
  unfold isCancelledBatch findBatch
  rw [h]

/-- An open batch that moves was not cancelled. -/
lemma isCancelledBatch_updateWhere {b : PayoutBatch} {f : PayoutBatch → PayoutBatch}
    (h : db.Integrity) (hmem : b ∈ db.payoutBatch) (hopen : b.status ≠ .cancelled)
    (hid : ∀ x, (f x).id = x.id)
    (hbatches : db'.payoutBatch = updateWhere (fun x => decide (x.id = b.id)) f db.payoutBatch)
    {i : Id} (hc : db.isCancelledBatch i = true) : db'.isCancelledBatch i = true := by
  unfold isCancelledBatch at hc ⊢
  obtain ⟨x, hx, hstatus⟩ := (Option.any_eq_true _ _).mp hc
  have hne : x.id ≠ b.id := by
    intro heq
    rw [h.batch_key.eq (mem_of_findRow hx) hmem heq] at hstatus
    exact hopen (of_decide_eq_true hstatus)
  have hfind : db'.findBatch i = some x := by
    unfold findBatch at hx ⊢
    rw [hbatches]
    unfold updateWhere
    rw [findRow_map (fun y => by
      show (if decide (y.id = b.id) = true then f y else y).id = y.id
      split
      · exact hid y
      · rfl), hx, Option.map_some, if_neg (by simpa using hne)]
  rw [hfind]
  simpa using hstatus

/-! ## Preparation -/

/-- An ordinary offset is within what is outstanding. -/
lemma outstandingDebtMinor_eq_neg (hd : db.DebtBooks) (vendorId : Id) (currency : String) :
    db.outstandingDebtMinor vendorId currency = -db.balanceMinor vendorId currency := by
  have hbalance := hd.balance vendorId currency
  unfold outstandingDebtMinor
  dsimp only
  split
  · rename_i hneg
    exact abs_of_neg hneg
  · omega

/-- The offset of a new batch recovers at most what is outstanding. -/
lemma DebtBooks.preparePayoutBatch {vendorId : Id} {ids : PayoutBatchIds} {r1Isolated : Bool}
    {now : Instant} (hd : db.DebtBooks)
    (hs : db.preparePayoutBatchInTransaction vendorId ids r1Isolated now = .ok db') :
    db'.DebtBooks := by
  have hcancelled : ∀ {t : FinanceDb} {b : PayoutBatch}, t.payoutBatch = db.payoutBatch ++ [b] →
      ∀ i, db.isCancelledBatch i = true → t.isCancelledBatch i = true := by
    intro t b hbatches i hc
    unfold isCancelledBatch at hc ⊢
    obtain ⟨x, hx, hstatus⟩ := (Option.any_eq_true _ _).mp hc
    have hfind : t.findBatch i = some x := by
      unfold findBatch findRow at hx ⊢
      rw [hbatches, List.find?_append, hx]
      rfl
    rw [hfind]
    exact hstatus
  obtain ⟨_, s, currency, -, -, -, -, hoffset⟩ := preparePayoutBatchInTransaction_ok hs
  rcases createVendorDebtOffsetForPayoutBatch_ok hoffset with ⟨-, rfl⟩ | ⟨-, rfl, -⟩ |
    ⟨hpos, -, rfl⟩
  · exact hd.keeps (l := []) (hcancelled rfl) (List.append_nil _).symm (by simp)
  · exact hd.keeps (l := []) (hcancelled rfl) (List.append_nil _).symm (by simp)
  · refine hd.offset (hcancelled rfl) rfl rfl hpos ?_
    have hbounds : (db.preparedDebtOffset vendorId s r1Isolated).debtOffsetMinor ≤
        max (if r1Isolated then 0 else db.outstandingDebtMinor vendorId DEFAULT_FINANCE_CURRENCY)
          0 := (debtOffsetMinor_bounds _ _).2.2
    have hbalance := hd.balance vendorId DEFAULT_FINANCE_CURRENCY
    rw [outstandingDebtMinor_eq_neg hd] at hbounds
    show (db.preparedDebtOffset vendorId s r1Isolated).debtOffsetMinor ≤
      -db.balanceMinor vendorId DEFAULT_FINANCE_CURRENCY
    refine hbounds.trans (max_le ?_ (by omega))
    split
    · omega
    · exact le_rfl

/-! ## Finalization -/

/-- A verified report bounds the balance: what its debts have left is not negative. -/
lemma balanceMinor_nonpos_of_verified {vendorId : Id} {currency : String} (hc : db.Constraints)
    (hf : db.FinalizedClaimsUncancelled)
    (hverified : (db.reconcilePayoutOffsetAuthority vendorId currency).status = .verified) :
    db.balanceMinor vendorId currency ≤ 0 := by
  obtain ⟨hu, ha, -, he⟩ := reconcile_verified_iff.mp hverified
  have hbalance := balanceMinor_eq ha fun o ho => countsTowardsBalance_of_attributed hf hu ho
  have hsum := sum_attributedMinor hc hu
  have hremaining := sum_remaining he
  have hnonneg := sum_remaining_nonneg hc he
  omega

/-- The claims of a batch in review are finalized. -/
lemma DebtBooks.finalizeClaims {payoutBatchId vendorId : Id} {currency : String} {firstEventId : Id}
    (hd : db.DebtBooks) (hb : db.PayoutBooks) (h : db.Integrity)
    (hreview : ∃ b, db.findBatch payoutBatchId = some b ∧ b.status = .review)
    (hs : db.finalizeR1PayoutOffsetClaimsInTransaction payoutBatchId vendorId currency
      firstEventId = .ok db') : db'.DebtBooks := by
  have h' := h.finalizeClaims hs
  have hfinalizes := h.finalizesClaims hs
  obtain ⟨claims, hclaims, hwrites, hpost⟩ := finalizeR1PayoutOffsetClaimsInTransaction_ok hs
  obtain ⟨-, -, heq⟩ := finalizeClaims_ok hwrites hclaims.perm h.adjustment_key h.claim_key
    h.event_key
  have hevents : db'.vendorBalanceEvent = db.vendorBalanceEvent ++
      claimOffsetEvents (withIds Prod.mk firstEventId claims) := by
    rw [heq]
  have hnew : ∀ e ∈ claimOffsetEvents (withIds Prod.mk firstEventId claims),
      e.type = .vendorDebtOffset ∧ 0 < e.amountMinor ∧ e.vendorId = vendorId ∧
        e.currency = currency := by
    intro e he
    obtain ⟨p, hp, rfl⟩ := List.mem_map.mp he
    obtain ⟨c, hcmem, i, -, rfl⟩ := mem_withIds (List.mem_filter.mp hp).1
    exact ⟨rfl, hclaims.amount_pos c hcmem, hclaims.vendor_eq c hcmem, hclaims.currency_eq c hcmem⟩
  have hcancelled : ∀ i, db.isCancelledBatch i = true → db'.isCancelledBatch i = true :=
    fun i hi => (isCancelledBatch_eq hfinalizes.batches i).trans hi
  refine ⟨?_, fun v c => ?_⟩
  · rw [hevents, List.forall_mem_append]
    refine ⟨hd.event, fun e he => ?_⟩
    obtain ⟨htype, hpos, -⟩ := hnew e he
    refine ⟨Or.inr htype, fun hcreated => ?_, fun _ => hpos⟩
    rw [htype] at hcreated
    cases hcreated
  · by_cases hscope : v = vendorId ∧ c = currency
    · obtain ⟨rfl, rfl⟩ := hscope
      refine balanceMinor_nonpos_of_verified h'.toConstraints ?_ hpost
      -- a finalized claim is one of the batch in review, or one of a completed batch
      intro x hx hfinal b hfind hcancelledStatus
      rw [hfinalizes.claims] at hx
      obtain ⟨y, hy, rfl⟩ := mem_updateWhere.mp hx
      have hfindOld : db.findBatch y.payoutBatchId = some b := by
        unfold findBatch at hfind ⊢
        rw [hfinalizes.batches] at hfind
        by_cases hid : y.payoutBatchId = payoutBatchId
        · rwa [if_pos (by simpa using hid)] at hfind
        · rwa [if_neg (by simpa using hid)] at hfind
      by_cases hid : y.payoutBatchId = payoutBatchId
      · obtain ⟨r, hr, hreview⟩ := hreview
        rw [hid, hr] at hfindOld
        rw [← Option.some.inj hfindOld, hreview] at hcancelledStatus
        cases hcancelledStatus
      · rw [if_neg (by simpa using hid)] at hfinal
        obtain ⟨z, hz, hzid, hfollows⟩ := hb.claim y hy
        have hsame : z = b := by
          have hzfind : db.findBatch y.payoutBatchId = some z := by
            rw [← hzid]
            exact findRow_of_mem h.batch_key hz
          exact Option.some.inj (hzfind.symm.trans hfindOld)
        rw [hsame, hcancelledStatus, hfinal] at hfollows
        cases hfollows
    · have hcounted := hd.counted_le hcancelled v c
      have hbalance := hd.balance v c
      unfold balanceMinor
      rw [hevents, total_append, total_eq_zero (l := claimOffsetEvents _)]
      · omega
      · intro e he
        obtain ⟨-, -, hv, hcur⟩ := hnew e he
        rw [hv, hcur]
        by_cases hvendor : vendorId = v
        · have hne : currency ≠ c := fun hc => hscope ⟨hvendor.symm, hc.symm⟩
          simp [hne]
        · simp [hvendor]

/-! ## Runs -/

lemma DebtBooks.withBatch {batchId : Id} {b : PayoutBatch} {f : PayoutBatch → PayoutBatch}
    (hd : db.DebtBooks) (h : db.Integrity) (hfind : db.findBatch batchId = some b)
    (hopen : b.status ≠ .cancelled)
    (hbatches : db'.payoutBatch = updateWhere (fun x => decide (x.id = batchId)) f db.payoutBatch)
    (hevents : db'.vendorBalanceEvent = db.vendorBalanceEvent) (hid : ∀ x, (f x).id = x.id) :
    db'.DebtBooks := by
  obtain rfl : b.id = batchId := key_of_findRow hfind
  refine hd.keeps (l := []) (fun i => ?_) (by rw [hevents, List.append_nil]) (by simp)
  exact isCancelledBatch_updateWhere h (mem_of_findRow hfind) hopen hid hbatches

lemma DebtBooks.prepareR1PayoutBatch {vendorId actorId requestId : Id} {ids : PayoutBatchIds}
    {now : Instant} (hd : db.DebtBooks) (h : db.Integrity)
    (hs : db.prepareR1PayoutBatchInTransaction vendorId actorId requestId ids now = .ok db') :
    db'.DebtBooks := by
  obtain ⟨prepared, batch, reserved, hprepared, hbatch, hreserved, -, -, rfl⟩ :=
    prepareR1PayoutBatchInTransaction_ok hs
  have hip := h.preparePayoutBatch hprepared
  have hdp := hd.preparePayoutBatch hprepared
  have hir := hip.reservePayoutOffsets hreserved
  obtain ⟨x, hx, -, -, hdraft, -, hwrites⟩ := reserveVerifiedPayoutOffsetsInTransaction_ok hreserved
  have hopen : x.status ≠ .cancelled := by
    rw [hdraft]
    decide
  have hdr : reserved.DebtBooks ∧ reserved.findBatch ids.batchId = some x := by
    rcases hwrites with rfl | ⟨-, _, -, -, rfl⟩
    · exact ⟨hdp, hx⟩
    · exact ⟨hdp.keeps (l := []) (fun i hi => hi) (List.append_nil _).symm (by simp), hx⟩
  exact hdr.1.withBatch hir hdr.2 hopen rfl rfl fun _ => rfl

lemma DebtBooks.completeR1CashlessPayout {batchId firstEventId : Id} {now : Instant}
    (hd : db.DebtBooks) (hb : db.PayoutBooks) (h : db.Integrity)
    (hs : db.completeR1CashlessPayout batchId firstEventId now = .ok db') : db'.DebtBooks := by
  obtain ⟨b, finalized, hfind, hreview, -, hfinalized, rfl⟩ :=
    completeR1CashlessPayout_ok h.toConstraints hs
  have hif := h.finalizeClaims hfinalized
  have hdf := hd.finalizeClaims hb h ⟨b, hfind, hreview⟩ hfinalized
  have hfindFinal : finalized.findBatch batchId = some b := by
    unfold findBatch at hfind ⊢
    rw [(h.finalizesClaims hfinalized).batches]
    exact hfind
  exact hdf.withBatch hif hfindFinal (by rw [hreview]; decide) rfl rfl fun _ => rfl

lemma DebtBooks.markPayoutBatchPaid {batchId : Id} {evidence : PaymentEvidence}
    {actualR1EftAmountMinor : Option ℤ} {firstEventId : Id} {now : Instant} (hd : db.DebtBooks)
    (hb : db.PayoutBooks) (h : db.Integrity)
    (hs : db.markPayoutBatchPaidInTransaction batchId evidence actualR1EftAmountMinor firstEventId
      now = .ok db') : db'.DebtBooks := by
  obtain ⟨b, finalized, hfind, hreview, hpayment, -, hfinalized, rfl⟩ :=
    markPayoutBatchPaidInTransaction_ok h.toConstraints hs
  have hf := hb.finalizesForPayment h hfind hreview hpayment hfinalized
  have hif := h.finalizeForPayment hfinalized
  have hid : b.id = batchId := key_of_findRow hfind
  have hdf : finalized.DebtBooks := by
    unfold FinanceDb.finalizeForPayment at hfinalized
    split at hfinalized
    · exact hd.finalizeClaims hb h ⟨b, hid ▸ hfind, hreview⟩ hfinalized
    · rw [← pure_eq_ok.mp hfinalized]
      exact hd
  have hfindFinal : finalized.findBatch batchId = some b := by
    unfold findBatch at hfind ⊢
    rw [hf.batches]
    exact hfind
  exact hdf.withBatch hif hfindFinal (by rw [hreview]; decide) rfl rfl fun _ => rfl

/-- The balance is what was recovered less what was recorded. -/
lemma balanceMinor_eq_sub (hd : db.DebtBooks) (vendorId : Id) (currency : String) :
    db.balanceMinor vendorId currency =
      db.recoveredDebtMinor vendorId currency - db.recordedDebtMinor vendorId currency := by
  have hevent := hd.event
  unfold balanceMinor recoveredDebtMinor recordedDebtMinor
  rw [total_neg]
  generalize db.vendorBalanceEvent = l at hevent
  induction l with
  | nil => simp
  | cons e l ih =>
      have hrest := ih fun x hx => hevent x (List.mem_cons_of_mem _ hx)
      have htype := (hevent e List.mem_cons_self).type
      rw [total_cons, total_cons, total_cons, hrest]
      rcases htype with htype | htype
      · have hcounts : db.countsTowardsBalance e = true := by simp [countsTowardsBalance, htype]
        simp only [htype, hcounts, decide_true, Bool.and_true, reduceCtorEq, decide_false,
          Bool.and_false, Bool.false_eq_true, if_false]
        omega
      · simp only [htype, decide_true, Bool.and_true, reduceCtorEq, decide_false, Bool.and_false,
          Bool.false_eq_true, if_false]
        omega

end FinanceDb

open FinanceDb in
/-- **The books of debts are kept** by every transaction. -/
theorem FinanceDb.DebtBooks.step {db db' : FinanceDb} {a : Action} (hd : db.DebtBooks)
    (hb : db.PayoutBooks) (h : db.Integrity) (hs : step a db = .ok db') : db'.DebtBooks := by
  by_cases ha : a.keepsPayouts = true
  · have hk := LeavesPayouts.step h ha hs
    obtain ⟨new, hevents, hnew⟩ := hk.debts
    exact hd.keeps (fun i hi => (isCancelledBatch_eq hk.batches i).trans hi) hevents
      fun e he => ⟨(hnew e he).type, (hnew e he).amount⟩
  by_cases hc : a.cancelsPayout = true
  · obtain ⟨b, hmem, hopen, rfl⟩ := hb.cancels h hc hs
    refine hd.withBatch h (findRow_of_mem h.batch_key hmem) ?_ rfl rfl fun _ => rfl
    rcases hopen with hopen | hopen
    · rw [hopen]
      decide
    · rw [hopen]
      decide
  cases a with
  | preparePayout vendorId ids now => exact hd.preparePayoutBatch hs
  | prepareR1Payout vendorId actorId requestId ids now => exact hd.prepareR1PayoutBatch h hs
  | prepareAdminPayout vendorId actorId requestId ids now =>
      rcases prepareAdminPayoutBatchWithR1_ok hs with rfl | hr1 | hordinary
      · exact hd
      · exact hd.prepareR1PayoutBatch h hr1
      · exact hd.preparePayoutBatch hordinary
  | reservePayoutOffsets input now =>
      obtain ⟨_, -, -, -, -, -, rfl | ⟨-, _, -, -, rfl⟩⟩ :=
        reserveVerifiedPayoutOffsetsInTransaction_ok hs
      · exact hd
      · exact hd.keeps (l := []) (fun _ hi => hi) (List.append_nil _).symm (by simp)
  | markPayoutReview batchId now =>
      obtain ⟨⟨b, hfind, hstatus⟩, rfl⟩ := markPayoutBatchReview_ok h.toConstraints hs
      exact hd.withBatch h hfind (by rw [hstatus]; decide) rfl rfl fun _ => rfl
  | markR1PayoutReview batchId now =>
      obtain ⟨⟨b, hfind, hstatus⟩, rfl⟩ := markR1PayoutBatchReview_ok h.toConstraints hs
      exact hd.withBatch h hfind (by rw [hstatus]; decide) rfl rfl fun _ => rfl
  | completeCashlessPayout batchId firstEventId now => exact hd.completeR1CashlessPayout hb h hs
  | markPayoutPaid batchId evidence now => exact hd.markPayoutBatchPaid hb h hs
  | markR1PayoutPaid batchId evidence actualEftAmountMinor firstEventId now =>
      exact hd.markPayoutBatchPaid hb h (markR1PayoutBatchPaid_ok hs)
  | _ =>
      first
      | exact absurd rfl ha
      | exact absurd rfl hc

theorem ReachableDb.debtBooks {db : FinanceDb} (h : ReachableDb db) : db.DebtBooks := by
  refine h.invariant (P := FinanceDb.DebtBooks) ⟨?_, ?_⟩ fun s a t hr hs _ hstep =>
    hs.step (ReachableDb.payoutBooks hr) (ReachableDb.integrity hr) hstep
  · intro e he
    cases he
  · intro vendorId currency
    exact le_rfl

/-- **A debt is recovered at most once**: in every reachable state what payouts recovered from a
vendor is between nothing and the recorded debts, and the difference is what is outstanding. -/
theorem ReachableDb.debt_recovered_once {db : FinanceDb} (h : ReachableDb db) (vendorId : Id)
    (currency : String) :
    0 ≤ db.recoveredDebtMinor vendorId currency ∧
      db.recoveredDebtMinor vendorId currency ≤ db.recordedDebtMinor vendorId currency ∧
      db.outstandingDebtMinor vendorId currency =
        db.recordedDebtMinor vendorId currency - db.recoveredDebtMinor vendorId currency := by
  have hd := h.debtBooks
  have hbalance := FinanceDb.balanceMinor_eq_sub hd vendorId currency
  refine ⟨?_, ?_, ?_⟩
  · refine total_nonneg fun e he hcounts => ?_
    simp only [Bool.and_eq_true, decide_eq_true_eq] at hcounts
    exact ((hd.event e he).offset hcounts.1.2).le
  · have hnonpos := hd.balance vendorId currency
    omega
  · rw [FinanceDb.outstandingDebtMinor_eq_neg hd, hbalance]
    omega

theorem debt_recovered_once_twoPayouts : ∃ db, ReachableDb db ∧
    db.vendorBalanceEvent.map (·.amountMinor) = [-4000, 4000] ∧
    db.recoveredDebtMinor 1 "TRY" ≤ db.recordedDebtMinor 1 "TRY" := by
  obtain ⟨db, hdb, -, -, -, hevents, -⟩ := twoPayouts_reachable
  exact ⟨db, hdb, hevents, (hdb.debt_recovered_once 1 "TRY").2.1⟩

end VendorDashboard.Finance

import VendorDashboard.Finance.SettlementPreview

/-!
# Drafting a settlement

`createDraftApprovalInTransaction` writes the draft that the preview describes and applies the
planned refund adjustments to it.  It is the sequence of the source's guards
(`assertDraftable`), the insert of the draft with all its lines (`insertDraftApproval`) and a
loop that applies one planned adjustment at a time (`applyRefundAdjustmentPlan`): an
application row, the link from its line, and the adjustment's counters, status and pointer in
one guarded update.
-/

namespace VendorDashboard.Finance

open Table Transaction

/-- The identifiers of the rows that one draft inserts. -/
structure DraftIds where
  approvalId : Id
  firstLineId : Id
  firstApplicationId : Id
  firstCreditLineId : Id
  firstDeductionLineId : Id

namespace FinanceDb

variable (db : FinanceDb)

/-! ## Guards -/

/-- A claim that holds part of its source. -/
def claimIsOutstanding (c : PayoutOffsetClaim) : Bool :=
  decide (c.status = .reserved ∨ c.status = .finalized)

/-- Whether the source of a claim stands for one of the given refund rows. -/
def claimCoversRefund (refundLedgerIds : List Id) (c : PayoutOffsetClaim) : Bool :=
  ((c.settlementRefundAdjustmentId.bind db.findAdjustment).any fun a =>
      decide (a.refundFinanceLedgerEntryId ∈ refundLedgerIds)) ||
    (c.vendorDebtOriginEventId.bind db.findBalanceEvent).any fun e =>
      e.financeLedgerEntryId.any fun ledgerId => decide (ledgerId ∈ refundLedgerIds)

def directRefundIds (lines : List SettlementApprovalLineDraft) : List Id :=
  (lines.filter fun l => decide (l.lineType = .refund)).map (·.financeLedgerEntryId)

/-- The outstanding claims on the given adjustments. -/
def payoutClaimsOn (adjustmentIds : List Id) : List PayoutOffsetClaim :=
  db.payoutOffsetClaim.filter fun c =>
    c.settlementRefundAdjustmentId.any (fun id => decide (id ∈ adjustmentIds)) &&
      claimIsOutstanding c

/-- The amount that the given claims reserve on an adjustment. -/
def reservedByAdjustment (claims : List PayoutOffsetClaim) (adjustmentId : Id) : ℤ :=
  total (fun c => decide (c.status = .reserved) &&
    decide (c.settlementRefundAdjustmentId = some adjustmentId)) (·.reservedAmountMinor) claims

/-- A claimed adjustment must be verified, with the counters the preview read. -/
def assertClaimedAdjustmentVerified (vendorId : Id) (claims : List PayoutOffsetClaim)
    (record : SettlementRefundAdjustment) : Except String Unit :=
  let source := (db.reconcilePayoutOffsetAuthority vendorId record.currencyCode).sources.find?
    fun s => decide (s.sourceType = .refundAdjustment) && decide (s.sourceId = record.id)
  require (claims.all (fun c => decide (c.settlementRefundAdjustmentId ≠ some record.id)) ∨
      source.any (fun s => decide (s.status = .verified) &&
        decide (s.remainingAmountMinor = some record.remainingAmountMinor) &&
        decide (s.appliedAmountMinor = some record.appliedAmountMinor) &&
        s.unreservedAmountMinor.isSome))
    "R1_PAYOUT_ADJUSTMENT_RECONCILIATION_FAILED"

/-- The guards between the preview and the plan. -/
def assertDraftable (input : SettlementApprovalInput) (preview : SettlementApprovalPreview) :
    Except String Unit := do
  if preview.lines.isEmpty && preview.correctionCredits.isEmpty then
    if preview.pendingRefundAdjustments.isEmpty then
      .error "No eligible settlement rows are available for approval."
    else .error "Adjustment-only settlement drafts are not supported yet."
  else pure ()
  require (∀ c ∈ db.payoutOffsetClaim, c.vendorId = input.vendorId → claimIsOutstanding c →
      db.claimCoversRefund (directRefundIds preview.lines) c = false)
    "R1_DIRECT_REFUND_CONFLICTS_WITH_PAYOUT_RESERVATION"
  require (input.scheduledCycleKey.all fun key => key = "" || db.settlementApproval.all fun a =>
      !(decide (a.vendorId = input.vendorId) && decide (a.scheduledCycleKey = some key) &&
        decide (a.status ≠ .cancelled)))
    "Scheduled settlement cycle already has an approval."
  preview.pendingRefundAdjustments.forM
    (db.assertClaimedAdjustmentVerified input.vendorId
      (db.payoutClaimsOn (preview.pendingRefundAdjustments.map (·.id))))

/-! ## Writes -/

def settlementApprovalLineRow (approvalId : Id) (id : Id) (l : SettlementApprovalLineDraft) :
    SettlementApprovalLine where
  id
  settlementApprovalId := approvalId
  financeLedgerEntryId := l.financeLedgerEntryId
  settlementRefundAdjustmentId := none
  settlementRefundAdjustmentApplicationId := none
  lineType := l.lineType
  amountMinor := l.amountMinor
  commissionMinor := l.commissionMinor
  commissionVatMinor := l.commissionVatMinor
  payableImpactMinor := l.payableImpactMinor
  snapshotRefundCount := l.snapshotRefundCount
  snapshotAdjustmentId := l.snapshotAdjustmentId

def correctionSettlementLineRow (approvalId : Id) (now : Instant) (id : Id)
    (s : CorrectionSource) : CorrectionSettlementLine where
  id
  sourceId := s.id
  settlementApprovalId := approvalId
  amountMinor := s.amountMinor
  status := .active
  createdAt := now

def draftApprovalRow (id : Id) (input : SettlementApprovalInput)
    (totals : SettlementApprovalTotals) : SettlementApproval where
  id
  vendorId := input.vendorId
  status := .draft
  currency := "TRY"
  periodStart := input.periodStart
  periodEnd := input.periodEnd
  scheduledRunDate := input.scheduledRunDate
  scheduledPeriodEnd := input.scheduledPeriodEnd
  scheduledCycleKey := input.scheduledCycleKey
  replacesSettlementApprovalId :=
    input.replacementAudit.map (·.originalSettlementApprovalId)
  lateRefundLedgerIds := (input.replacementAudit.map (·.lateRefundLedgerIds)).getD []
  grossSalesMinor := totals.grossSalesMinor
  refundTotalMinor := totals.refundTotalMinor
  commissionMinor := totals.commissionMinor
  commissionVatMinor := totals.commissionVatMinor
  netPayableMinor := totals.netPayableMinor
  correctionCreditMinor := totals.correctionCreditMinor
  correctionDeductionMinor := totals.correctionDeductionMinor
  approvedAt := none
  cancelledFromStatus := none

/-- Insert the draft with its settlement, credit and deduction lines. -/
def insertDraftApproval (ids : DraftIds) (approval : SettlementApproval)
    (lines : List SettlementApprovalLineDraft) (credits deductions : List CorrectionSource)
    (now : Instant) : Except String FinanceDb := do
  require (∀ a ∈ db.settlementApproval,
      (a.scheduledCycleKey = approval.scheduledCycleKey → approval.scheduledCycleKey = none) ∧
      (a.replacesSettlementApprovalId = approval.replacesSettlementApprovalId →
        approval.replacesSettlementApprovalId = none)) UNIQUE_CONSTRAINT_FAILED
  let approvals ← insertRows SettlementApproval.id db.settlementApproval [approval]
    UNIQUE_CONSTRAINT_FAILED
  let lines ← insertRows SettlementApprovalLine.id db.settlementApprovalLine
    (withIds (settlementApprovalLineRow ids.approvalId) ids.firstLineId lines)
    UNIQUE_CONSTRAINT_FAILED
  require (KeyUnique (fun l => (l.settlementApprovalId, l.financeLedgerEntryId)) lines)
    UNIQUE_CONSTRAINT_FAILED
  let creditLines ← insertRows CorrectionSettlementLine.id db.correctionCreditSettlementLine
    (withIds (correctionSettlementLineRow ids.approvalId now) ids.firstCreditLineId credits)
    UNIQUE_CONSTRAINT_FAILED
  let deductionLines ← insertRows CorrectionSettlementLine.id
    db.correctionDeductionSettlementLine
    (withIds (correctionSettlementLineRow ids.approvalId now) ids.firstDeductionLineId
      deductions) UNIQUE_CONSTRAINT_FAILED
  pure { db with
    settlementApproval := approvals
    settlementApprovalLine := lines
    correctionCreditSettlementLine := creditLines
    correctionDeductionSettlementLine := deductionLines }

/-- Whether the guarded update of an adjustment may apply a plan to it. -/
def planMayApply (vendorId : Id) (plan : AdjustmentPlan) (a : SettlementRefundAdjustment) :
    Bool :=
  decide (a.id = plan.record.id) && decide (a.vendorId = vendorId) &&
    decide (a.status = .pending ∨ a.status = .partiallyApplied) &&
    decide (plan.applyAmountMinor ≤ a.remainingAmountMinor)

/-- The adjustment after a plan was applied to it.  Status and pointer follow the remaining
amount that the preview read. -/
def applyPlanTo (plan : AdjustmentPlan) (approvalId lineId : Id)
    (a : SettlementRefundAdjustment) : SettlementRefundAdjustment :=
  let remainingAfterApply := plan.record.remainingAmountMinor - plan.applyAmountMinor
  { a with
    status := if remainingAfterApply = 0 then .applied else .partiallyApplied
    appliedAmountMinor := a.appliedAmountMinor + plan.applyAmountMinor
    remainingAmountMinor := a.remainingAmountMinor - plan.applyAmountMinor
    appliedSettlementApprovalId := if remainingAfterApply = 0 then some approvalId else none
    appliedSettlementApprovalLineId := if remainingAfterApply = 0 then some lineId else none }

def applicationRow (approvalId lineId : Id) (p : Id × AdjustmentPlan) :
    SettlementRefundAdjustmentApplication where
  id := p.1
  settlementRefundAdjustmentId := p.2.record.id
  settlementApprovalId := approvalId
  settlementApprovalLineId := lineId
  amountMinor := p.2.applyAmountMinor
  currencyCode := p.2.record.currencyCode
  status := .active

/-- Apply one planned adjustment to the new draft; `p` carries the identifier of its
application. -/
def applyRefundAdjustmentPlan (approvalId vendorId : Id) (db : FinanceDb)
    (p : Id × AdjustmentPlan) : Except String FinanceDb := do
  let line ← getOrThrow (db.settlementApprovalLine.find? fun l =>
      decide (l.settlementApprovalId = approvalId) && decide (l.lineType = .refundAdjustment) &&
        decide (l.snapshotAdjustmentId = some p.2.record.id))
    "Pending refund adjustment line could not be linked safely."
  let applications ← insertRows SettlementRefundAdjustmentApplication.id
    db.settlementRefundAdjustmentApplication [applicationRow approvalId line.id p]
    UNIQUE_CONSTRAINT_FAILED
  require ((db.settlementRefundAdjustment.filter (planMayApply vendorId p.2)).length = 1)
    "Pending refund adjustment could not be applied safely."
  pure { db with
    settlementRefundAdjustmentApplication := applications
    settlementApprovalLine := updateWhere (fun l => decide (l.id = line.id))
      (fun l => { l with settlementRefundAdjustmentApplicationId := some p.1 })
      db.settlementApprovalLine
    settlementRefundAdjustment := updateWhere (planMayApply vendorId p.2)
      (applyPlanTo p.2 approvalId line.id) db.settlementRefundAdjustment }

/-- The refund adjustments that a draft with this preview applies. -/
def appliedAdjustmentPlans (preview : SettlementApprovalPreview) :
    Except String (List AdjustmentPlan) :=
  planAdjustments
    (reservedByAdjustment (db.payoutClaimsOn (preview.pendingRefundAdjustments.map (·.id))))
    (max preview.netPayableMinor 0) preview.pendingRefundAdjustments

def createDraftApprovalInTransaction (input : SettlementApprovalInput) (ids : DraftIds)
    (now : Instant) : Except String FinanceDb := do
  let preview ← db.buildApprovalPreview input now
  db.assertDraftable input preview
  let plans ← db.appliedAdjustmentPlans preview
  let settlementLines := preview.lines ++ plans.map buildRefundAdjustmentLine
  let totals := summarizeSettlementTotals (settlementLines.map (·.monetary))
    (preview.correctionCredits.map (·.amountMinor))
    (preview.correctionDeductions.map (·.amountMinor))
  require (totals.correctionDeductionMinor ≤ 0 ∨ 0 ≤ totals.netPayableMinor)
    "INSUFFICIENT_PAYABLE_FOR_FULL_DEDUCTION"
  require (∀ l ∈ db.settlementApprovalLine,
      l.financeLedgerEntryId ∈ preview.lines.map (·.financeLedgerEntryId) →
        db.approvalIsActive l.settlementApprovalId = false)
    "One or more settlement rows are already linked to an active approval."
  let drafted ← db.insertDraftApproval ids (draftApprovalRow ids.approvalId input totals)
    settlementLines preview.correctionCredits preview.correctionDeductions now
  (withIds Prod.mk ids.firstApplicationId plans).foldlM
    (applyRefundAdjustmentPlan ids.approvalId input.vendorId) drafted

/-! ## What a draft writes -/

/-- Link a settlement line to the application that carries it. -/
def linkApplication (applicationId : Id) (l : SettlementApprovalLine) : SettlementApprovalLine :=
  { l with settlementRefundAdjustmentApplicationId := some applicationId }

/-- The adjustments after the plans were applied to them; `lineOf` is the line of each. -/
def applyPlans (approvalId : Id) (lineOf : Id → Id) (plans : List (Id × AdjustmentPlan)) :
    List SettlementRefundAdjustment → List SettlementRefundAdjustment :=
  updateEach SettlementRefundAdjustment.id <| plans.map fun p =>
    (p.2.record.id, applyPlanTo p.2 approvalId (lineOf p.2.record.id))

/-- The settlement lines after the applications of the plans were linked to them. -/
def linkPlans (lineOf : Id → Id) (plans : List (Id × AdjustmentPlan)) :
    List SettlementApprovalLine → List SettlementApprovalLine :=
  updateEach SettlementApprovalLine.id <| plans.map fun p =>
    (lineOf p.2.record.id, linkApplication p.1)

/-- Applying plans writes no column that a single plan does not write. -/
lemma map_applyPlans {β : Type} {approvalId : Id} {g : SettlementRefundAdjustment → β}
    (hg : ∀ p i a, g (applyPlanTo p approvalId i a) = g a) (lineOf : Id → Id)
    (plans : List (Id × AdjustmentPlan)) (l : List SettlementRefundAdjustment) :
    (applyPlans approvalId lineOf plans l).map g = l.map g := by
  refine map_updateEach (fun u hu a => ?_) l
  obtain ⟨p, -, rfl⟩ := List.mem_map.mp hu
  exact hg p.2 _ a

/-- Linking applications writes one column. -/
lemma map_linkPlans {β : Type} {g : SettlementApprovalLine → β}
    (hg : ∀ i l, g (linkApplication i l) = g l) (lineOf : Id → Id)
    (plans : List (Id × AdjustmentPlan)) (l : List SettlementApprovalLine) :
    (linkPlans lineOf plans l).map g = l.map g := by
  refine map_updateEach (fun u hu a => ?_) l
  obtain ⟨p, -, rfl⟩ := List.mem_map.mp hu
  exact hg p.1 a

lemma exists_mem_applyPlans {approvalId : Id} {lineOf : Id → Id}
    {plans : List (Id × AdjustmentPlan)} {l : List SettlementRefundAdjustment}
    {P : SettlementRefundAdjustment → Prop} (h : ∃ a ∈ l, P a)
    (hP : ∀ p i a, P a → P (applyPlanTo p approvalId i a)) :
    ∃ a ∈ applyPlans approvalId lineOf plans l, P a := by
  refine exists_mem_updateEach h fun u hu a ha => ?_
  obtain ⟨p, -, rfl⟩ := List.mem_map.mp hu
  exact hP p.2 _ a ha

lemma forall_mem_applyPlans {approvalId : Id} {lineOf : Id → Id}
    {plans : List (Id × AdjustmentPlan)} {l : List SettlementRefundAdjustment}
    {P : SettlementRefundAdjustment → Prop} (h : ∀ a ∈ l, P a)
    (hP : ∀ p i a, P a → P (applyPlanTo p approvalId i a)) :
    ∀ a ∈ applyPlans approvalId lineOf plans l, P a := by
  refine forall_mem_updateEach h fun u hu a ha => ?_
  obtain ⟨p, -, rfl⟩ := List.mem_map.mp hu
  exact hP p.2 _ a ha

lemma exists_mem_linkPlans {lineOf : Id → Id} {plans : List (Id × AdjustmentPlan)}
    {l : List SettlementApprovalLine} {P : SettlementApprovalLine → Prop} (h : ∃ x ∈ l, P x)
    (hP : ∀ i x, P x → P (linkApplication i x)) : ∃ x ∈ linkPlans lineOf plans l, P x := by
  refine exists_mem_updateEach h fun u hu x hx => ?_
  obtain ⟨p, -, rfl⟩ := List.mem_map.mp hu
  exact hP p.1 x hx

lemma forall_mem_linkPlans {lineOf : Id → Id} {plans : List (Id × AdjustmentPlan)}
    {l : List SettlementApprovalLine} {P : SettlementApprovalLine → Prop} (h : ∀ x ∈ l, P x)
    (hP : ∀ i x, P x → P (linkApplication i x)) : ∀ x ∈ linkPlans lineOf plans l, P x := by
  refine forall_mem_updateEach h fun u hu x hx => ?_
  obtain ⟨p, -, rfl⟩ := List.mem_map.mp hu
  exact hP p.1 x hx

/-- The line of a planned adjustment in a new draft. -/
def IsPlanLine (approvalId lineId : Id) (plan : AdjustmentPlan) (l : SettlementApprovalLine) :
    Prop :=
  l.id = lineId ∧ l.settlementApprovalId = approvalId ∧ l.lineType = .refundAdjustment ∧
    l.snapshotAdjustmentId = some plan.record.id

lemma linkPlans_cons {lineOf : Id → Id} {p : Id × AdjustmentPlan}
    {plans : List (Id × AdjustmentPlan)}
    (h : ∀ q ∈ plans, lineOf q.2.record.id ≠ lineOf p.2.record.id)
    (l : List SettlementApprovalLine) :
    linkPlans lineOf (p :: plans) l = linkPlans lineOf plans
      (updateWhere (fun x => decide (x.id = lineOf p.2.record.id)) (linkApplication p.1) l) := by
  refine updateEach_cons ?_ (fun _ => rfl) l
  rw [List.map_map]
  intro hmem
  obtain ⟨q, hq, heq⟩ := List.mem_map.mp hmem
  exact h q hq heq

lemma applyPlans_cons {approvalId : Id} {lineOf : Id → Id} {p : Id × AdjustmentPlan}
    {plans : List (Id × AdjustmentPlan)} (h : ∀ q ∈ plans, q.2.record.id ≠ p.2.record.id)
    (l : List SettlementRefundAdjustment) :
    applyPlans approvalId lineOf (p :: plans) l = applyPlans approvalId lineOf plans
      (updateWhere (fun a => decide (a.id = p.2.record.id))
        (applyPlanTo p.2 approvalId (lineOf p.2.record.id)) l) := by
  refine updateEach_cons ?_ (fun _ => rfl) l
  rw [List.map_map]
  intro hmem
  obtain ⟨q, hq, heq⟩ := List.mem_map.mp hmem
  exact h q hq heq

variable {db} {db' : FinanceDb}

lemma insertDraftApproval_ok {ids : DraftIds} {approval : SettlementApproval}
    {lines : List SettlementApprovalLineDraft} {credits deductions : List CorrectionSource}
    {now : Instant}
    (h : db.insertDraftApproval ids approval lines credits deductions now = .ok db') :
    KeyUnique SettlementApproval.id (db.settlementApproval ++ [approval]) ∧
      KeyUnique SettlementApprovalLine.id (db.settlementApprovalLine ++
        withIds (settlementApprovalLineRow ids.approvalId) ids.firstLineId lines) ∧
      KeyUnique (fun l => (l.settlementApprovalId, l.financeLedgerEntryId))
        (db.settlementApprovalLine ++
          withIds (settlementApprovalLineRow ids.approvalId) ids.firstLineId lines) ∧
      db' = { db with
        settlementApproval := db.settlementApproval ++ [approval]
        settlementApprovalLine := db.settlementApprovalLine ++
          withIds (settlementApprovalLineRow ids.approvalId) ids.firstLineId lines
        correctionCreditSettlementLine := db.correctionCreditSettlementLine ++
          withIds (correctionSettlementLineRow ids.approvalId now) ids.firstCreditLineId credits
        correctionDeductionSettlementLine := db.correctionDeductionSettlementLine ++
          withIds (correctionSettlementLineRow ids.approvalId now) ids.firstDeductionLineId
            deductions } := by
  simp only [insertDraftApproval, bind_eq_ok, require_eq_ok, insertRows_eq_ok, pure_eq_ok] at h
  obtain ⟨-, -, _, ⟨happroval, rfl⟩, _, ⟨hline, rfl⟩, -, hunique, _, ⟨-, rfl⟩, _, ⟨-, rfl⟩, rfl⟩ := h
  exact ⟨happroval, hline, hunique, rfl⟩

/-- One plan rewrites its adjustment and links its line. -/
lemma applyRefundAdjustmentPlan_ok {approvalId vendorId : Id} {p : Id × AdjustmentPlan}
    (hadj : KeyUnique SettlementRefundAdjustment.id db.settlementRefundAdjustment)
    (h : applyRefundAdjustmentPlan approvalId vendorId db p = .ok db') :
    ∃ line ∈ db.settlementApprovalLine, IsPlanLine approvalId line.id p.2 line ∧
      (∃ a ∈ db.settlementRefundAdjustment, planMayApply vendorId p.2 a = true) ∧
      KeyUnique SettlementRefundAdjustmentApplication.id
        (db.settlementRefundAdjustmentApplication ++ [applicationRow approvalId line.id p]) ∧
      db' = { db with
        settlementRefundAdjustmentApplication := db.settlementRefundAdjustmentApplication ++
          [applicationRow approvalId line.id p]
        settlementApprovalLine := updateWhere (fun l => decide (l.id = line.id))
          (linkApplication p.1) db.settlementApprovalLine
        settlementRefundAdjustment := updateWhere (fun a => decide (a.id = p.2.record.id))
          (applyPlanTo p.2 approvalId line.id) db.settlementRefundAdjustment } := by
  simp only [applyRefundAdjustmentPlan, bind_eq_ok, getOrThrow_eq_ok, require_eq_ok,
    insertRows_eq_ok, pure_eq_ok] at h
  obtain ⟨line, hline, _, ⟨happ, rfl⟩, -, hone, rfl⟩ := h
  have hmay : ∀ a, planMayApply vendorId p.2 a = true → a.id = p.2.record.id := by
    intro a ha
    simp only [planMayApply, Bool.and_eq_true, decide_eq_true_eq] at ha
    exact ha.1.1.1
  obtain ⟨hupdate, a, ha, -, hap⟩ := updateWhere_of_length_eq_one hadj
    (f := applyPlanTo p.2 approvalId line.id) hmay hone
  have hsel := List.find?_some hline
  simp only [Bool.and_eq_true, decide_eq_true_eq] at hsel
  refine ⟨line, List.mem_of_find?_eq_some hline, ⟨rfl, hsel.1.1, hsel.1.2, hsel.2⟩, ⟨a, ha, hap⟩,
    happ, ?_⟩
  rw [hupdate]
  rfl

/-- **The loop over the plans**, as one update of each adjustment and each line. -/
theorem applyRefundAdjustmentPlans_ok {approvalId vendorId : Id}
    {plans : List (Id × AdjustmentPlan)}
    (h : plans.foldlM (applyRefundAdjustmentPlan approvalId vendorId) db = .ok db')
    (hplans : (plans.map (·.2.record.id)).Nodup)
    (hadj : KeyUnique SettlementRefundAdjustment.id db.settlementRefundAdjustment)
    (hline : KeyUnique SettlementApprovalLine.id db.settlementApprovalLine)
    (happ : KeyUnique SettlementRefundAdjustmentApplication.id
      db.settlementRefundAdjustmentApplication) :
    ∃ lineOf : Id → Id,
      (∀ p ∈ plans, (∃ l ∈ db.settlementApprovalLine,
          IsPlanLine approvalId (lineOf p.2.record.id) p.2 l) ∧
        ∃ a ∈ db.settlementRefundAdjustment, planMayApply vendorId p.2 a = true) ∧
      KeyUnique SettlementRefundAdjustmentApplication.id
        (db.settlementRefundAdjustmentApplication ++ plans.map fun p =>
          applicationRow approvalId (lineOf p.2.record.id) p) ∧
      db' = { db with
        settlementRefundAdjustmentApplication := db.settlementRefundAdjustmentApplication ++
          plans.map fun p => applicationRow approvalId (lineOf p.2.record.id) p
        settlementApprovalLine := linkPlans lineOf plans db.settlementApprovalLine
        settlementRefundAdjustment := applyPlans approvalId lineOf plans
          db.settlementRefundAdjustment } := by
  induction plans generalizing db with
  | nil =>
      obtain rfl := foldlM_nil_eq_ok.mp h
      exact ⟨id, by simp, by simpa using happ, by simp [linkPlans, applyPlans]⟩
  | cons p plans ih =>
      obtain ⟨hp, hplans⟩ := List.nodup_cons.mp hplans
      obtain ⟨t, ht, h⟩ := foldlM_cons_eq_ok.mp h
      obtain ⟨line, hlmem, hpl, hmay, happ', rfl⟩ := applyRefundAdjustmentPlan_ok hadj ht
      have hadj' := hadj.updateWhere (p := fun a => decide (a.id = p.2.record.id))
        (f := applyPlanTo p.2 approvalId line.id) fun _ => rfl
      have hline' := hline.updateWhere (p := fun l => decide (l.id = line.id))
        (f := linkApplication p.1) fun _ => rfl
      obtain ⟨lineOf, hrest, hkey, rfl⟩ := ih h hplans hadj' hline' happ'
      let lineOf' := fun i => if i = p.2.record.id then line.id else lineOf i
      have hself : lineOf' p.2.record.id = line.id := if_pos rfl
      have hne : ∀ q ∈ plans, q.2.record.id ≠ p.2.record.id :=
        fun q hq heq => hp (List.mem_map.mpr ⟨q, hq, heq⟩)
      have hother : ∀ q ∈ plans, lineOf' q.2.record.id = lineOf q.2.record.id :=
        fun q hq => if_neg (hne q hq)
      have hlines : ∀ q ∈ plans, ∃ l ∈ db.settlementApprovalLine,
          IsPlanLine approvalId (lineOf q.2.record.id) q.2 l := by
        intro q hq
        obtain ⟨l, hl, hql⟩ := (hrest q hq).1
        obtain ⟨l₀, hl₀, rfl⟩ := mem_updateWhere.mp hl
        refine ⟨l₀, hl₀, ?_⟩
        split at hql <;> exact hql
      have hfresh : ∀ q ∈ plans, lineOf q.2.record.id ≠ line.id := by
        intro q hq heq
        obtain ⟨l, hl, hid, -, -, hsnap⟩ := hlines q hq
        obtain rfl := hline.eq hl hlmem (hid.trans heq)
        exact hne q hq (Option.some.inj (hsnap.symm.trans hpl.2.2.2))
      have hrows : (plans.map fun q => applicationRow approvalId (lineOf' q.2.record.id) q) =
          plans.map fun q => applicationRow approvalId (lineOf q.2.record.id) q :=
        List.map_congr_left fun q hq => by rw [hother q hq]
      refine ⟨lineOf', ?_, ?_, ?_⟩
      · intro q hq
        rcases List.mem_cons.mp hq with rfl | hq
        · rw [hself]
          exact ⟨⟨line, hlmem, hpl⟩, hmay⟩
        · rw [hother q hq]
          refine ⟨hlines q hq, ?_⟩
          obtain ⟨a, ha, haq⟩ := (hrest q hq).2
          obtain ⟨a₀, ha₀, rfl⟩ := mem_updateWhere.mp ha
          by_cases hid : a₀.id = p.2.record.id
          · simp only [hid, decide_true, if_true] at haq
            simp only [planMayApply, Bool.and_eq_true, decide_eq_true_eq] at haq
            exact absurd (haq.1.1.1.symm.trans hid) (hne q hq)
          · simp only [hid, decide_false, Bool.false_eq_true, if_false] at haq
            exact ⟨a₀, ha₀, haq⟩
      · rw [List.map_cons, hself, hrows]
        simpa using hkey
      · have hlink : linkPlans lineOf' plans = linkPlans lineOf plans := by
          unfold linkPlans
          rw [List.map_congr_left fun q hq => by rw [hother q hq]]
        have happly : applyPlans approvalId lineOf' plans = applyPlans approvalId lineOf plans := by
          unfold applyPlans
          rw [List.map_congr_left fun q hq => by rw [hother q hq]]
        have hfresh' : ∀ q ∈ plans, lineOf' q.2.record.id ≠ lineOf' p.2.record.id := by
          intro q hq
          rw [hother q hq, hself]
          exact hfresh q hq
        rw [List.map_cons, linkPlans_cons hfresh', applyPlans_cons hne, hself, hrows, hlink, happly]
        simp

/-- A plan draws a positive amount, at most what its adjustment has left unreserved. -/
lemma mem_appliedAdjustmentPlans {input : SettlementApprovalInput} {now : Instant}
    {preview : SettlementApprovalPreview} {plans : List AdjustmentPlan}
    (hpreview : db.buildApprovalPreview input now = .ok preview)
    (hplans : db.appliedAdjustmentPlans preview = .ok plans) {p : AdjustmentPlan} (hp : p ∈ plans) :
    p.record ∈ db.settlementRefundAdjustment ∧ p.record.vendorId = input.vendorId ∧
      (p.record.status = .pending ∨ p.record.status = .partiallyApplied) ∧
      0 < p.applyAmountMinor ∧ p.applyAmountMinor ≤
        p.record.remainingAmountMinor - db.claimedMinor .reserved p.record.id := by
  obtain ⟨-, -, hpending⟩ := buildApprovalPreview_ok hpreview
  have heq := planAdjustments_eq_waterfall hplans
  rw [heq] at hp
  obtain ⟨d, hd, rfl⟩ := List.mem_map.mp hp
  obtain ⟨hmem, hpos, hle⟩ := Waterfall.waterfall_bounds hd
  have hid : d.1.id ∈ preview.pendingRefundAdjustments.map (·.id) := List.mem_map_of_mem hmem
  rw [hpending] at hmem
  obtain ⟨hrow, hvendor, hstatus, -, -⟩ := mem_previewPendingRefundAdjustmentApplication hmem
  refine ⟨hrow, hvendor, hstatus, hpos, ?_⟩
  have hreserved : reservedByAdjustment
      (db.payoutClaimsOn (preview.pendingRefundAdjustments.map (·.id))) d.1.id =
        db.claimedMinor .reserved d.1.id := by
    unfold reservedByAdjustment payoutClaimsOn claimedMinor
    rw [total_filter]
    refine total_congr fun c _ => ?_
    by_cases hc : c.settlementRefundAdjustmentId = some d.1.id
    · by_cases hs : c.status = .reserved
      · simp [hc, hs, hid, claimIsOutstanding, -List.mem_map]
      · simp [hs]
    · simp [hc]
  rw [← hreserved]
  exact hle

/-- The plans of a draft are for different adjustments. -/
lemma nodup_appliedAdjustmentPlans {input : SettlementApprovalInput} {now : Instant}
    {preview : SettlementApprovalPreview} {plans : List AdjustmentPlan}
    (hu : KeyUnique SettlementRefundAdjustment.id db.settlementRefundAdjustment)
    (hpreview : db.buildApprovalPreview input now = .ok preview)
    (hplans : db.appliedAdjustmentPlans preview = .ok plans) :
    (plans.map (·.record.id)).Nodup := by
  obtain ⟨-, -, hpending⟩ := buildApprovalPreview_ok hpreview
  have heq := planAdjustments_eq_waterfall hplans
  rw [heq, List.map_map]
  refine List.Nodup.sublist ?_ (nodup_previewPendingRefundAdjustmentApplication hu input.vendorId
    "TRY")
  rw [← hpending]
  have hcomp : (fun x : AdjustmentPlan => x.record.id) ∘
      (fun d : SettlementRefundAdjustment × ℤ => (⟨d.1, d.2⟩ : AdjustmentPlan)) =
        SettlementRefundAdjustment.id ∘ Prod.fst := rfl
  rw [hcomp, ← List.map_map]
  exact (Waterfall.waterfall_sublist _ _).map _

/-- A claim on a refund keeps the refund out of a draft's direct lines. -/
lemma assertDraftable_ok {input : SettlementApprovalInput} {preview : SettlementApprovalPreview}
    {u : Unit} (h : db.assertDraftable input preview = .ok u) :
    ∀ c ∈ db.payoutOffsetClaim, c.vendorId = input.vendorId → claimIsOutstanding c = true →
      db.claimCoversRefund (directRefundIds preview.lines) c = false := by
  unfold assertDraftable at h
  split at h
  · split at h <;> simp [bind, Except.bind] at h
  · simp only [bind_eq_ok, require_eq_ok] at h
    obtain ⟨-, hclaims, -⟩ := h
    exact hclaims

/-- The settlement lines that a draft inserts, direct lines first. -/
def draftLineRows (ids : DraftIds) (preview : SettlementApprovalPreview)
    (plans : List AdjustmentPlan) : List SettlementApprovalLine :=
  withIds (settlementApprovalLineRow ids.approvalId) ids.firstLineId
    (preview.lines ++ plans.map buildRefundAdjustmentLine)

/-- **What a committed draft wrote**: the approval with its lines, and the applications of the
planned adjustments together with the adjustments they change. -/
theorem createDraftApprovalInTransaction_ok {input : SettlementApprovalInput} {ids : DraftIds}
    {now : Instant}
    (hadj : KeyUnique SettlementRefundAdjustment.id db.settlementRefundAdjustment)
    (happ : KeyUnique SettlementRefundAdjustmentApplication.id
      db.settlementRefundAdjustmentApplication)
    (h : db.createDraftApprovalInTransaction input ids now = .ok db') :
    ∃ (preview : SettlementApprovalPreview) (plans : List AdjustmentPlan)
      (approval : SettlementApproval) (creditLines deductionLines : List CorrectionSettlementLine)
      (lineOf : Id → Id),
      db.buildApprovalPreview input now = .ok preview ∧
      db.appliedAdjustmentPlans preview = .ok plans ∧
      (∀ c ∈ db.payoutOffsetClaim, c.vendorId = input.vendorId → claimIsOutstanding c = true →
        db.claimCoversRefund (directRefundIds preview.lines) c = false) ∧
      (∀ l ∈ db.settlementApprovalLine,
        l.financeLedgerEntryId ∈ preview.lines.map (·.financeLedgerEntryId) →
          db.approvalIsActive l.settlementApprovalId = false) ∧
      (approval.id = ids.approvalId ∧ approval.vendorId = input.vendorId ∧
        approval.status = .draft ∧ approval.currency = "TRY") ∧
      KeyUnique SettlementApproval.id (db.settlementApproval ++ [approval]) ∧
      KeyUnique SettlementApprovalLine.id
        (db.settlementApprovalLine ++ draftLineRows ids preview plans) ∧
      KeyUnique (fun l => (l.settlementApprovalId, l.financeLedgerEntryId))
        (db.settlementApprovalLine ++ draftLineRows ids preview plans) ∧
      KeyUnique SettlementRefundAdjustmentApplication.id
        (db.settlementRefundAdjustmentApplication ++
          (withIds Prod.mk ids.firstApplicationId plans).map fun p =>
            applicationRow ids.approvalId (lineOf p.2.record.id) p) ∧
      (∀ p ∈ plans, (∃ l ∈ db.settlementApprovalLine ++ draftLineRows ids preview plans,
          IsPlanLine ids.approvalId (lineOf p.record.id) p l) ∧
        ∃ a ∈ db.settlementRefundAdjustment, planMayApply input.vendorId p a = true) ∧
      db' = { db with
        settlementApproval := db.settlementApproval ++ [approval]
        settlementApprovalLine := linkPlans lineOf (withIds Prod.mk ids.firstApplicationId plans)
          (db.settlementApprovalLine ++ draftLineRows ids preview plans)
        correctionCreditSettlementLine := db.correctionCreditSettlementLine ++ creditLines
        correctionDeductionSettlementLine := db.correctionDeductionSettlementLine ++ deductionLines
        settlementRefundAdjustmentApplication := db.settlementRefundAdjustmentApplication ++
          (withIds Prod.mk ids.firstApplicationId plans).map fun p =>
            applicationRow ids.approvalId (lineOf p.2.record.id) p
        settlementRefundAdjustment := applyPlans ids.approvalId lineOf
          (withIds Prod.mk ids.firstApplicationId plans) db.settlementRefundAdjustment } := by
  simp only [createDraftApprovalInTransaction, bind_eq_ok, require_eq_ok] at h
  obtain ⟨preview, hpreview, _, hdraftable, plans, hplans, _, -, _, hfree, drafted, hdrafted, hloop⟩ :=
    h
  obtain ⟨happroval, hline, hunique, rfl⟩ := insertDraftApproval_ok hdrafted
  have hids : ((withIds Prod.mk ids.firstApplicationId plans).map (·.2.record.id)).Nodup := by
    rw [map_withIds (g := fun p : Id × AdjustmentPlan => p.2.record.id)
      (k := fun p : AdjustmentPlan => p.record.id) fun _ _ => rfl]
    exact nodup_appliedAdjustmentPlans hadj hpreview hplans
  obtain ⟨lineOf, hlines, hkey, rfl⟩ := applyRefundAdjustmentPlans_ok hloop hids hadj
    hline happ
  refine ⟨preview, plans, _, _, _, lineOf, hpreview, hplans, assertDraftable_ok hdraftable, hfree,
    ⟨rfl, rfl, rfl, rfl⟩, happroval, hline, hunique, hkey, fun p hp => ?_, rfl⟩
  have hmem : p ∈ (withIds Prod.mk ids.firstApplicationId plans).map Prod.snd := by
    rw [map_withIds (g := Prod.snd) (k := id) fun _ _ => rfl, List.map_id]
    exact hp
  obtain ⟨q, hq, rfl⟩ := List.mem_map.mp hmem
  exact hlines q hq

end FinanceDb

end VendorDashboard.Finance

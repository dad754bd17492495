import VendorDashboard.Finance.SettlementPreview

/-!
# Cancelling a settlement

`cancelSettlementApproval` marks a draft or approved settlement cancelled, cancels its
correction lines and gives the amounts of its active adjustment applications back to their
adjustments (`cancelApplication`).  A last pass resets adjustments that still point at the
settlement, for rows written before applications existed.

What money already left blocks the cancellation (`findFirstCancellationGuard`).
-/

namespace VendorDashboard.Finance

open Table Transaction

namespace FinanceDb

variable (db : FinanceDb)

/-! ## Guards -/

/-- The payout lines, with their batches, that a predicate on the payout line selects. -/
def payoutLinesWithBatch (select : PayoutBatchLine → Bool) :
    List (PayoutBatchLine × PayoutBatch) :=
  db.payoutBatchLine.filterMap fun l =>
    if select l then (db.findBatch l.payoutBatchId).map fun b => (l, b) else none

/-- The batches that pay a line of the settlement. -/
def linkedPayoutBatches (settlementApprovalId : Id) : List PayoutBatch :=
  (db.payoutLinesWithBatch fun l => (l.settlementApprovalLineId.bind db.findLine).any fun s =>
    decide (s.settlementApprovalId = settlementApprovalId)).map Prod.snd

/-- Paid or completed payout lines without a settlement link on the settlement's ledger
rows. -/
def legacyPaidPayoutLines (settlementApprovalId : Id) : List (PayoutBatchLine × PayoutBatch) :=
  (db.payoutLinesWithBatch fun l => l.settlementApprovalLineId.isNone &&
    (db.linesOf settlementApprovalId).any fun s =>
      decide (s.financeLedgerEntryId = l.financeLedgerEntryId)).filter fun p =>
    decide (p.2.status = .paid) || decide (p.2.status = .cashlessCompleted) || p.2.paidAt.isSome

/-- Whether the one settlement line on the ledger row of a legacy payout line is the line it
paid. -/
def legacyLineageConsistent (settlementApprovalId : Id) (payoutLine : PayoutBatchLine)
    (batch : PayoutBatch) (candidate : SettlementApprovalLine) : Bool :=
  decide (candidate.settlementApprovalId = settlementApprovalId) &&
    (db.findApproval candidate.settlementApprovalId).any (fun a =>
      decide (a.status = .approved) && decide (a.vendorId = batch.vendorId) &&
        decide (a.currency = batch.currency)) &&
    (db.findLedger candidate.financeLedgerEntryId).any (fun e =>
      decide (e.vendorId = batch.vendorId) &&
        (decide (e.entryType = .sale ∧ candidate.lineType = .sale) ||
          decide (e.entryType = .refund ∧
            (candidate.lineType = .refund ∨ candidate.lineType = .refundAdjustment)))) &&
    decide (toMinorUnits payoutLine.amountSnapshot = candidate.payableImpactMinor)

/-- The reason a legacy paid payout line blocks the cancellation. -/
def legacyPayoutGuard (settlementApprovalId : Id) : Option String :=
  match db.legacyPaidPayoutLines settlementApprovalId with
  | [] => none
  | (payoutLine, batch) :: _ =>
      match db.settlementApprovalLine.filter fun s =>
          decide (s.financeLedgerEntryId = payoutLine.financeLedgerEntryId) with
      | [candidate] =>
          if db.legacyLineageConsistent settlementApprovalId payoutLine batch candidate then
            some <| "Settlement approval cannot be cancelled because it is linked to a paid " ++
              "payout batch."
          else some <| "Settlement approval cannot be cancelled because paid historical payout " ++
            "lineage is inconsistent."
      | _ => some <| "Settlement approval cannot be cancelled because paid historical payout " ++
          "lineage is ambiguous."

/-- Whether an uncancelled payout consumes a correction line of the settlement. -/
def hasActiveCorrectionPayout (lines : List CorrectionSettlementLine)
    (payoutLines : List CorrectionPayoutLine) (settlementApprovalId : Id) : Bool :=
  lines.any fun l => decide (l.settlementApprovalId = settlementApprovalId) &&
    payoutLines.any fun p => decide (p.sourceLineId = l.id) && decide (p.status ≠ .cancelled) &&
      db.batchIsActive p.payoutBatchId

/-- The first reason not to cancel the settlement. -/
def findFirstCancellationGuard (id : Id) : Option String :=
  if db.approvedDeductionCoverage.any fun c =>
      decide (c.settlementApprovalId = id) && decide (c.status = .active) then
    some "ORIGIN_SETTLEMENT_CANCELLATION_BLOCKED"
  else if db.settlementCommissionInvoice.any fun i =>
      decide (i.settlementApprovalId = id) && decide (i.status ≠ .cancelled) then
    some <| "Settlement approval cannot be cancelled because an active commission invoice " ++
      "record exists."
  else if (db.linkedPayoutBatches id).any fun b =>
      decide (b.status = .paid) || b.paidAt.isSome then
    some <| "Settlement approval cannot be cancelled because it is linked to a paid payout batch."
  else if (db.linkedPayoutBatches id).any fun b => decide (b.status = .cashlessCompleted) then
    some <| "Settlement approval cannot be cancelled because it is linked to a cashless " ++
      "completed payout batch."
  else (db.legacyPayoutGuard id).or <|
    if db.hasActiveCorrectionPayout db.correctionCreditSettlementLine
        db.correctionCreditPayoutLine id then
      some "Cancel the unpaid correction-credit payout before cancelling its settlement."
    else if db.hasActiveCorrectionPayout db.correctionDeductionSettlementLine
        db.correctionDeductionPayoutLine id then
      some "Cancel the unpaid correction-deduction payout before cancelling its settlement."
    else none

/-! ## Writes -/

/-- The settlement's row and its correction lines, cancelled. -/
def markCancelled (id : Id) : FinanceDb :=
  { db with
    settlementApproval := updateWhere (fun a => decide (a.id = id))
      (fun a => { a with status := .cancelled, cancelledFromStatus := some a.status })
      db.settlementApproval
    correctionCreditSettlementLine := updateWhere
      (fun l => decide (l.settlementApprovalId = id) && decide (l.status = .active))
      (fun l => { l with status := .cancelled }) db.correctionCreditSettlementLine
    correctionDeductionSettlementLine := updateWhere
      (fun l => decide (l.settlementApprovalId = id) && decide (l.status = .active))
      (fun l => { l with status := .cancelled }) db.correctionDeductionSettlementLine }

/-- The adjustment after an application was cancelled; `read` is the adjustment as the
cancellation loaded it together with the application. -/
def unapplyFrom (settlementApprovalId : Id) (application : SettlementRefundAdjustmentApplication)
    (read a : SettlementRefundAdjustment) : SettlementRefundAdjustment :=
  let appliedAfterCancel := max (read.appliedAmountMinor - application.amountMinor) 0
  let remainingAfterCancel := read.remainingAmountMinor + application.amountMinor
  let pointsHere := decide (read.appliedSettlementApprovalId = some settlementApprovalId)
  { a with
    appliedAmountMinor := a.appliedAmountMinor - application.amountMinor
    remainingAmountMinor := a.remainingAmountMinor + application.amountMinor
    status :=
      if appliedAfterCancel = 0 then .pending
      else if 0 < remainingAfterCancel then .partiallyApplied
      else .applied
    appliedSettlementApprovalId :=
      if pointsHere then none else a.appliedSettlementApprovalId
    appliedSettlementApprovalLineId :=
      if pointsHere then none else a.appliedSettlementApprovalLineId }

/-- The settlement's active applications, each with its adjustment. -/
def activeApplicationsOf (settlementApprovalId : Id) :
    List (SettlementRefundAdjustmentApplication × SettlementRefundAdjustment) :=
  db.settlementRefundAdjustmentApplication.filterMap fun application =>
    if application.settlementApprovalId = settlementApprovalId ∧ application.status = .active then
      (db.findAdjustment application.settlementRefundAdjustmentId).map fun a => (application, a)
    else none

/-- Give the amount of one application back to its adjustment. -/
def cancelApplication (settlementApprovalId : Id) (db : FinanceDb)
    (p : SettlementRefundAdjustmentApplication × SettlementRefundAdjustment) : FinanceDb :=
  { db with
    settlementRefundAdjustmentApplication := updateWhere (fun x => decide (x.id = p.1.id))
      (fun x => { x with status := .cancelled }) db.settlementRefundAdjustmentApplication
    settlementRefundAdjustment := updateWhere
      (fun a => decide (a.id = p.1.settlementRefundAdjustmentId))
      (unapplyFrom settlementApprovalId p.1 p.2) db.settlementRefundAdjustment }

/-- Whether the last pass of a cancellation resets an adjustment. -/
def isLegacyApplied (settlementApprovalId : Id) (a : SettlementRefundAdjustment) : Bool :=
  decide (a.appliedSettlementApprovalId = some settlementApprovalId) && decide (a.status = .applied)

def resetLegacyAdjustment (a : SettlementRefundAdjustment) : SettlementRefundAdjustment :=
  { a with
    status := .pending
    appliedAmountMinor := 0
    remainingAmountMinor := if a.originalAmountMinor = 0 then a.amountMinor
      else a.originalAmountMinor
    appliedSettlementApprovalId := none
    appliedSettlementApprovalLineId := none }

def resetLegacyAppliedAdjustments (settlementApprovalId : Id) : FinanceDb :=
  { db with
    settlementRefundAdjustment := updateWhere (isLegacyApplied settlementApprovalId)
      resetLegacyAdjustment db.settlementRefundAdjustment }

/-- The state before the last pass of a cancellation. -/
def cancelApplications (id : Id) : FinanceDb :=
  (db.markCancelled id).activeApplicationsOf id |>.foldl (cancelApplication id)
    (db.markCancelled id)

def cancelSettlementApproval (id : Id) : Except String FinanceDb := do
  let existing ← getOrThrow (db.findApproval id) "Settlement approval could not be found."
  require (existing.status ≠ .cancelled) "Settlement approval is already cancelled."
  match db.findFirstCancellationGuard id with
  | some message => .error message
  | none => pure ((db.cancelApplications id).resetLegacyAppliedAdjustments id)

/-! ## What a cancellation writes -/

variable {db} {db' : FinanceDb}

lemma cancelSettlementApproval_ok {id : Id} (h : db.cancelSettlementApproval id = .ok db') :
    ∃ existing, db.findApproval id = some existing ∧ existing.status ≠ .cancelled ∧
      db.findFirstCancellationGuard id = none ∧
      db' = (db.cancelApplications id).resetLegacyAppliedAdjustments id := by
  unfold cancelSettlementApproval at h
  simp only [bind_eq_ok, getOrThrow_eq_ok, require_eq_ok] at h
  obtain ⟨existing, hfind, -, hstatus, h⟩ := h
  split at h
  · cases h
  · rename_i hguard
    exact ⟨existing, hfind, hstatus, hguard, (pure_eq_ok.mp h).symm⟩

lemma mem_activeApplicationsOf {id : Id}
    {p : SettlementRefundAdjustmentApplication × SettlementRefundAdjustment} :
    p ∈ db.activeApplicationsOf id ↔ p.1 ∈ db.settlementRefundAdjustmentApplication ∧
      p.1.settlementApprovalId = id ∧ p.1.status = .active ∧
        db.findAdjustment p.1.settlementRefundAdjustmentId = some p.2 := by
  unfold activeApplicationsOf
  rw [List.mem_filterMap]
  constructor
  · rintro ⟨x, hx, h⟩
    split at h
    · rename_i hsel
      obtain ⟨a, ha, rfl⟩ := Option.map_eq_some_iff.mp h
      exact ⟨hx, hsel.1, hsel.2, ha⟩
    · cases h
  · rintro ⟨hx, hid, hactive, ha⟩
    exact ⟨p.1, hx, by rw [if_pos ⟨hid, hactive⟩, ha]; rfl⟩

/-- The active applications are read in the order of their table. -/
lemma activeApplicationsOf_sublist (id : Id) :
    ((db.activeApplicationsOf id).map Prod.fst).Sublist
      db.settlementRefundAdjustmentApplication := by
  unfold activeApplicationsOf
  induction db.settlementRefundAdjustmentApplication with
  | nil => simp
  | cons x l ih =>
      rw [List.filterMap_cons]
      split
      · exact ih.cons _
      · rename_i p hp
        split at hp
        · obtain ⟨a, -, rfl⟩ := Option.map_eq_some_iff.mp hp
          exact ih.cons_cons _
        · cases hp

def cancelApplicationRow (x : SettlementRefundAdjustmentApplication) :
    SettlementRefundAdjustmentApplication :=
  { x with status := .cancelled }

/-- The loop of a cancellation, table by table. -/
lemma foldl_cancelApplication (id : Id)
    (ps : List (SettlementRefundAdjustmentApplication × SettlementRefundAdjustment))
    (db : FinanceDb) :
    ps.foldl (cancelApplication id) db =
      { db with
        settlementRefundAdjustmentApplication := (ps.map fun p => (p.1.id, cancelApplicationRow)).foldl
          (fun l u => updateWhere (fun x => decide (x.id = u.1)) u.2 l)
          db.settlementRefundAdjustmentApplication
        settlementRefundAdjustment := (ps.map fun p =>
            (p.1.settlementRefundAdjustmentId, unapplyFrom id p.1 p.2)).foldl
          (fun l u => updateWhere (fun a => decide (a.id = u.1)) u.2 l)
          db.settlementRefundAdjustment } := by
  induction ps generalizing db with
  | nil => rfl
  | cons p ps ih =>
      rw [List.foldl_cons, ih]
      rfl

/-- **The loop of a cancellation** as one update of each application and each adjustment. -/
theorem cancelApplications_eq {id : Id}
    (hkey : KeyUnique SettlementRefundAdjustmentApplication.id
      db.settlementRefundAdjustmentApplication)
    (hunique : KeyUnique (fun x => (x.settlementRefundAdjustmentId, x.settlementApprovalId))
      db.settlementRefundAdjustmentApplication) :
    db.cancelApplications id =
      { db.markCancelled id with
        settlementRefundAdjustmentApplication :=
          updateEach SettlementRefundAdjustmentApplication.id
            ((db.activeApplicationsOf id).map fun p => (p.1.id, cancelApplicationRow))
            db.settlementRefundAdjustmentApplication
        settlementRefundAdjustment := updateEach SettlementRefundAdjustment.id
          ((db.activeApplicationsOf id).map fun p =>
            (p.1.settlementRefundAdjustmentId, unapplyFrom id p.1 p.2))
          db.settlementRefundAdjustment } := by
  have hsub := db.activeApplicationsOf_sublist id
  have hids : KeyUnique Prod.fst ((db.activeApplicationsOf id).map fun p =>
      (p.1.id, cancelApplicationRow)) := by
    unfold KeyUnique
    rw [List.map_map]
    have := List.Nodup.sublist (hsub.map SettlementRefundAdjustmentApplication.id) hkey
    rwa [List.map_map] at this
  have hadjs : KeyUnique Prod.fst ((db.activeApplicationsOf id).map fun p =>
      (p.1.settlementRefundAdjustmentId, unapplyFrom id p.1 p.2)) := by
    have hpairs : (((db.activeApplicationsOf id).map Prod.fst).map fun x =>
        (x.settlementRefundAdjustmentId, x.settlementApprovalId)).Nodup :=
      List.Nodup.sublist (hsub.map _) hunique
    rw [List.map_map] at hpairs
    unfold KeyUnique
    rw [List.map_map]
    have hfst : ((db.activeApplicationsOf id).map ((fun x : SettlementRefundAdjustmentApplication =>
        (x.settlementRefundAdjustmentId, x.settlementApprovalId)) ∘ Prod.fst)) =
        ((db.activeApplicationsOf id).map fun p => p.1.settlementRefundAdjustmentId).map
          fun i => (i, id) := by
      rw [List.map_map]
      refine List.map_congr_left fun p hp => ?_
      simp [(mem_activeApplicationsOf.mp hp).2.1]
    rw [hfst] at hpairs
    exact List.Nodup.of_map _ hpairs
  have hloop := foldl_cancelApplication id (db.activeApplicationsOf id) (db.markCancelled id)
  rw [foldl_updateWhere_eq_updateEach hids, foldl_updateWhere_eq_updateEach hadjs] at hloop
  · exact hloop
  · intro u hu x
    obtain ⟨p, -, rfl⟩ := List.mem_map.mp hu
    rfl
  · intro u hu x
    obtain ⟨p, -, rfl⟩ := List.mem_map.mp hu
    rfl

end FinanceDb

end VendorDashboard.Finance

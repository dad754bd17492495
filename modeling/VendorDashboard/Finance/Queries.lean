import VendorDashboard.Framework.Transaction
import VendorDashboard.Finance.Eligibility

/-!
# Queries

The lookups and joins that the services run against the finance tables, and the ledger row
projection (`settlementLedgerRow`) that drafting and approving a settlement read.

A relation is followed through its foreign key, so a line whose parent is missing contributes
to no joined query.
-/

namespace VendorDashboard.Finance

open Table Transaction

/-- The error of a violated primary key or unique index. -/
def UNIQUE_CONSTRAINT_FAILED : String := "Unique constraint failed"

/-- Give consecutive identifiers to the rows that one statement inserts. -/
def withIds {α β : Type} (f : ℕ → α → β) (first : ℕ) : List α → List β
  | [] => []
  | a :: l => f first a :: withIds f (first + 1) l

@[simp] lemma withIds_nil {α β : Type} (f : ℕ → α → β) (n : ℕ) : withIds f n [] = [] := rfl

@[simp] lemma withIds_cons {α β : Type} (f : ℕ → α → β) (n : ℕ) (a : α) (l : List α) :
    withIds f n (a :: l) = f n a :: withIds f (n + 1) l := rfl

/-- Every inserted row comes from one of the values, under an identifier of its own. -/
lemma mem_withIds {α β : Type} {f : ℕ → α → β} {n : ℕ} {l : List α} {b : β}
    (h : b ∈ withIds f n l) : ∃ a ∈ l, ∃ i, n ≤ i ∧ b = f i a := by
  induction l generalizing n with
  | nil => simp at h
  | cons a l ih =>
      rcases List.mem_cons.mp h with rfl | h
      · exact ⟨a, List.mem_cons_self, n, le_rfl, rfl⟩
      · obtain ⟨a', ha', i, hi, rfl⟩ := ih h
        exact ⟨a', List.mem_cons_of_mem _ ha', i, by omega, rfl⟩

/-- A column that does not depend on the identifier. -/
lemma map_withIds {α β γ : Type} {f : ℕ → α → β} {g : β → γ} {k : α → γ}
    (h : ∀ i a, g (f i a) = k a) (n : ℕ) (l : List α) : (withIds f n l).map g = l.map k := by
  induction l generalizing n with
  | nil => rfl
  | cons a l ih => simp [h, ih]

/-- A total over inserted rows is a total over the values. -/
lemma total_withIds {α β : Type} {f : ℕ → α → β} {p : β → Bool} {g : β → ℤ} {q : α → Bool}
    {k : α → ℤ} (hp : ∀ i a, p (f i a) = q a) (hg : ∀ i a, g (f i a) = k a) (n : ℕ)
    (l : List α) : total p g (withIds f n l) = total q k l := by
  induction l generalizing n with
  | nil => rfl
  | cons a l ih => simp [hp, hg, ih]

namespace FinanceDb

variable (db : FinanceDb)

/-! ## Rows by key -/

def findAllocation (id : Id) : Option VendorAllocation :=
  findRow VendorAllocation.id id db.vendorAllocation

def findLedger (id : Id) : Option FinanceLedgerEntry :=
  findRow FinanceLedgerEntry.id id db.financeLedgerEntry

def findApproval (id : Id) : Option SettlementApproval :=
  findRow SettlementApproval.id id db.settlementApproval

def findLine (id : Id) : Option SettlementApprovalLine :=
  findRow SettlementApprovalLine.id id db.settlementApprovalLine

def findAdjustment (id : Id) : Option SettlementRefundAdjustment :=
  findRow SettlementRefundAdjustment.id id db.settlementRefundAdjustment

def findApplication (id : Id) : Option SettlementRefundAdjustmentApplication :=
  findRow SettlementRefundAdjustmentApplication.id id db.settlementRefundAdjustmentApplication

def findBatch (id : Id) : Option PayoutBatch :=
  findRow PayoutBatch.id id db.payoutBatch

def findBalanceEvent (id : Id) : Option VendorBalanceEvent :=
  findRow VendorBalanceEvent.id id db.vendorBalanceEvent

def findRefundRecord (id : Id) : Option RefundRecord :=
  findRow RefundRecord.id id (db.vendorAllocation.flatMap (·.refundRecords))

/-! ## Statuses through a relation -/

/-- The settlement exists and is a draft or approved. -/
def approvalIsActive (id : Id) : Bool :=
  (db.findApproval id).any fun a => isActiveSettlementApprovalStatus a.status

/-- The settlement exists and is approved. -/
def approvalIsApproved (id : Id) : Bool :=
  (db.findApproval id).any fun a => decide (a.status = .approved)

/-- The payout batch exists and is not cancelled. -/
def batchIsActive (id : Id) : Bool :=
  (db.findBatch id).any fun b => isActivePayoutBatchStatus b.status

/-! ## Joins -/

/-- The lines of one settlement. -/
def linesOf (settlementApprovalId : Id) : List SettlementApprovalLine :=
  db.settlementApprovalLine.filter fun l =>
    decide (l.settlementApprovalId = settlementApprovalId)

/-- The settlement lines on a ledger row whose settlement is a draft or approved. -/
def activeApprovalLineRefs (financeLedgerEntryId : Id) : List ApprovalLineRef :=
  db.settlementApprovalLine.filterMap fun l =>
    if l.financeLedgerEntryId = financeLedgerEntryId then
      (db.findApproval l.settlementApprovalId).bind fun a =>
        if isActiveSettlementApprovalStatus a.status then
          some ⟨l.id, a.id, a.status, a.approvedAt⟩
        else none
    else none

/-- The payout lines on a ledger row whose batch is not cancelled. -/
def activeBatchLineRefs (financeLedgerEntryId : Id) : List BatchLineRef :=
  db.payoutBatchLine.filterMap fun l =>
    if l.financeLedgerEntryId = financeLedgerEntryId then
      (db.findBatch l.payoutBatchId).bind fun b =>
        if isActivePayoutBatchStatus b.status then some ⟨l.id, b.id, b.status⟩ else none
    else none

def ledgerSnapshot (e : FinanceLedgerEntry) : LedgerSnapshot where
  entry := e
  payoutBatchLines := db.activeBatchLineRefs e.id
  settlementApprovalLines := db.activeApprovalLineRefs e.id

/-- The allocation of a ledger row with its active ledger rows of the selected types. -/
def allocationView (select : FinanceLedgerEntry → Bool) (allocationId : Option Id) :
    Option AllocationView :=
  allocationId.bind fun id =>
    (db.findAllocation id).map fun a =>
      { allocation := a
        financeEntries := (db.financeLedgerEntry.filter fun e =>
          decide (e.vendorAllocationId = some a.id) && decide (e.voidedAt = none) &&
            select e).map db.ledgerSnapshot }

/-- A ledger row as drafting and approving read it: `financeEntries` are the active sales. -/
def settlementLedgerRow (e : FinanceLedgerEntry) : LedgerRow where
  entry := e
  vendorAllocation := db.allocationView (fun s => decide (s.entryType = .sale)) e.vendorAllocationId
  settlementApprovalLines := db.activeApprovalLineRefs e.id
  payoutBatchLines := db.activeBatchLineRefs e.id

/-- The alerts that block money movement on an allocation. -/
def findBlockingFinanceIntegrityAlerts (vendorAllocationId : Id) : List FinanceIntegrityAlert :=
  db.financeIntegrityAlert.filter fun a =>
    decide (a.vendorAllocationId = some vendorAllocationId) &&
      decide (a.status = .open ∨ a.status = .acknowledged) &&
      decide (a.severity = .warning ∨ a.severity = .critical)

def getBlockingIntegrityAlertsForRow (row : LedgerRow) : List FinanceIntegrityAlert :=
  match row.vendorAllocation with
  | none => []
  | some v => db.findBlockingFinanceIntegrityAlerts v.allocation.id

end FinanceDb

/-! ## Reading the joins back -/

section

variable {db : FinanceDb}

lemma FinanceDb.approvalIsActive_iff {id : Id} :
    db.approvalIsActive id = true ↔
      ∃ a, db.findApproval id = some a ∧ a.status ≠ .cancelled := by
  simp [approvalIsActive, Option.any_eq_true, isActiveSettlementApprovalStatus_iff]

lemma FinanceDb.approvalIsApproved_iff {id : Id} :
    db.approvalIsApproved id = true ↔
      ∃ a, db.findApproval id = some a ∧ a.status = .approved := by
  simp [approvalIsApproved, Option.any_eq_true]

lemma FinanceDb.batchIsActive_iff {id : Id} :
    db.batchIsActive id = true ↔ ∃ b, db.findBatch id = some b ∧ b.status ≠ .cancelled := by
  simp [batchIsActive, Option.any_eq_true, isActivePayoutBatchStatus_iff]

lemma FinanceDb.approvalIsActive_of_approved {id : Id} (h : db.approvalIsApproved id = true) :
    db.approvalIsActive id = true := by
  obtain ⟨a, ha, hs⟩ := approvalIsApproved_iff.mp h
  exact approvalIsActive_iff.mpr ⟨a, ha, by simp [hs]⟩

/-- A row seen through the allocation of another row. -/
lemma FinanceDb.mem_allocationView {select : FinanceLedgerEntry → Bool} {allocationId : Option Id}
    {v : AllocationView} (hv : db.allocationView select allocationId = some v) {s : LedgerSnapshot}
    (hs : s ∈ v.financeEntries) : s = db.ledgerSnapshot s.entry ∧ s.entry ∈ db.financeLedgerEntry ∧
      s.entry.vendorAllocationId = allocationId ∧ s.entry.voidedAt = none := by
  obtain ⟨id, rfl, hv⟩ := Option.bind_eq_some_iff.mp hv
  obtain ⟨a, ha, rfl⟩ := Option.map_eq_some_iff.mp hv
  have hid : a.id = id := key_of_findRow ha
  obtain ⟨e, he, rfl⟩ := List.mem_map.mp hs
  obtain ⟨hmem, hsel⟩ := List.mem_filter.mp he
  simp only [Bool.and_eq_true, decide_eq_true_eq] at hsel
  exact ⟨rfl, hmem, hid ▸ hsel.1.1, hsel.1.2⟩

/-- The sale that the evidence of a row names is an active sale of the row's allocation. -/
lemma getRelatedSaleLedgerEntry_some {e : FinanceLedgerEntry} {s : LedgerSnapshot}
    (h : getRelatedSaleLedgerEntry (db.settlementLedgerRow e) = some s) :
    s = db.ledgerSnapshot s.entry ∧ s.entry ∈ db.financeLedgerEntry ∧
      s.entry.vendorAllocationId = e.vendorAllocationId ∧ s.entry.entryType = .sale := by
  obtain ⟨p, hp, rfl⟩ := Option.map_eq_some_iff.mp h
  unfold getExactRefundEvidence at hp
  split at hp
  · cases hp
  · obtain ⟨v, hv, hp⟩ := Option.bind_eq_some_iff.mp hp
    obtain ⟨-, hmem, htype⟩ := exactRefundEvidence_some hp
    obtain ⟨hsnap, hledger, halloc, -⟩ := FinanceDb.mem_allocationView hv hmem
    exact ⟨hsnap, hledger, halloc, htype⟩

end

end VendorDashboard.Finance

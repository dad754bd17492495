import VendorDashboard.Framework.Text
import VendorDashboard.Finance.ApprovalSchema

/-!
# Creating and ending settlements

The transactions that write a settlement's row, with the authority columns they set: an ordinary
draft (`createDraftApprovalWithOrigin`), the draft of a controlled replacement
(`createControlledSettlementReplacementDraft`), the approval by a user and the cancellation.

A replacement draft freezes the refunds that were accepted after the cutoff of its original in
`lateRefundLedgerIds`; the approval of the draft compares them with what it finds then.  The
read-only assessment that precedes the draft is an argument, and may answer anything.
-/

namespace VendorDashboard.Finance

open Text Transaction

structure ReplacementRequest where
  originalSettlementApprovalId : Id
  vendorId : Id
  requestId : Id
  adminUserId : Id
  reason : String

inductive AssessmentOutcome
  | eligible | blocked | unknown
  deriving DecidableEq

def AssessmentOutcome.name : AssessmentOutcome → String
  | .eligible => "eligible"
  | .blocked => "blocked"
  | .unknown => "unknown"

structure RefundEvidence where
  refundFinanceLedgerEntryId : Id
  afterCutoff : Bool

/-- What `assessCancelledScheduledSettlementReplacement` answers. -/
structure SettlementReplacementAssessment where
  outcome : AssessmentOutcome
  originalCutoff : Option Instant
  refundEvidence : List RefundEvidence

/-- The request of a draft that takes what the original took. -/
def replacementInput (vendorId : Id) (cutoff : Instant) : SettlementApprovalInput where
  vendorId
  periodStart := none
  periodEnd := some cutoff
  asOfDate := some cutoff
  selectedOrderIds := []
  selectedShopifyOrderIds := []
  selectedAllocationIds := []
  candidateScope := some .dateRange
  scheduledRunDate := none
  scheduledPeriodEnd := none
  scheduledCycleKey := none
  replacementAudit := none

namespace ApprovalDb

variable (d : ApprovalDb)

/-- The transaction of `createDraftApprovalInTransaction` on all tables. -/
def createDraft (input : SettlementApprovalInput)
    (creationOrigin : Option SettlementDraftCreationOrigin) (request : Option ReplacementRequest)
    (ids : DraftIds) (now : Instant) : Except String ApprovalDb := do
  let finance ← d.finance.createDraftApprovalInTransaction input ids now
  pure
    { d with
      finance
      approvalColumns := Function.update d.approvalColumns ids.approvalId
        { ApprovalColumns.blank with
          creationOrigin
          replacementRequestId := request.map (·.requestId)
          replacementRequestedBy := request.map (·.adminUserId)
          replacementReason := request.map (·.reason)
          replacementRequestedAt := request.map fun _ => now } }

/-- `createDraftApproval` and its variants for an administrator and the scheduler, which differ in
the origin only. -/
def createDraftApprovalWithOrigin (input : SettlementApprovalInput)
    (origin : Option SettlementDraftCreationOrigin) (ids : DraftIds) (now : Instant) :
    Except String ApprovalDb := do
  require (input.replacementAudit.isNone ∧ origin ≠ some .controlledReplacement)
    "Only the replacement writer drafts a replacement."
  d.createDraft input origin none ids now

/-- The settlement that a replacement request created. -/
def replacementByRequest (requestId : Id) : Option SettlementApproval :=
  d.finance.settlementApproval.find? fun a =>
    decide ((d.approvalColumns a.id).replacementRequestId = some requestId)

/-- The late refunds that a replacement of an assessed settlement freezes. -/
def frozenLateRefunds (assessment : SettlementReplacementAssessment) : List Id :=
  ((assessment.refundEvidence.filter (·.afterCutoff)).map
    (·.refundFinanceLedgerEntryId)).insertionSort (· ≤ ·)

def createControlledSettlementReplacementDraft (input : ReplacementRequest)
    (assessment : SettlementReplacementAssessment) (ids : DraftIds) (now : Instant) :
    Except String ApprovalDb := do
  let reason := trim input.reason
  require (reason ≠ "")
    "Replacement requires original, vendor, request, Admin actor and reason."
  match d.replacementByRequest input.requestId with
  | some byRequest =>
      let columns := d.approvalColumns byRequest.id
      require (byRequest.replacesSettlementApprovalId = some input.originalSettlementApprovalId ∧
          byRequest.vendorId = input.vendorId ∧
          columns.replacementRequestedBy = some input.adminUserId ∧
          columns.replacementReason = some reason)
        "Replacement request ID is already bound to different authority or audit evidence."
      pure d
  | none =>
      require (∀ a ∈ d.finance.settlementApproval, a.vendorId = input.vendorId →
          a.replacesSettlementApprovalId ≠ some input.originalSettlementApprovalId)
        "Original settlement already has a replacement claim."
      let notEligible := "Settlement replacement is " ++ assessment.outcome.name ++
        "; no draft was created."
      require (assessment.outcome = .eligible) notEligible
      let cutoff ← getOrThrow assessment.originalCutoff notEligible
      d.createDraft
        { replacementInput input.vendorId cutoff with
          replacementAudit := some
            ⟨input.originalSettlementApprovalId, frozenLateRefunds assessment⟩ }
        (some .controlledReplacement) (some { input with reason }) ids now

/-- The approval by a user. -/
def approveSettlementApproval (id : Id) (approvedBy : Option String) (firstAdjustmentId : Id)
    (now : Instant) : Except String ApprovalDb := do
  let finance ← d.finance.executeCanonicalSettlementApproval id firstAdjustmentId now
  pure
    { d.withColumns id fun c => { c with approvedBy } with
      finance
      approvalLog := d.approvalLog ++ [(id, none)] }

def cancelSettlementApproval (id : Id) : Except String ApprovalDb := do
  let finance ← d.finance.cancelSettlementApproval id
  pure { d with finance }

end ApprovalDb

end VendorDashboard.Finance

import VendorDashboard.Finance.ReplacementWriter

/-!
# The transactions of the automatic approval

An attempt is created before the approval it stands for, in a transaction of its own
(`createAttempt`).  The approval itself (`approveSettlementApprovalAsTrustedSystem`) is the
canonical approval with guards on the attempt, and marks the attempt approved in the same
transaction.  Any other outcome is recorded afterwards by `appendOutcome`.
-/

namespace VendorDashboard.Finance

open Table Text Transaction

structure AttemptIdentity where
  attemptId : AttemptId
  settlementApprovalId : Id
  expectedVendorId : Id
  deriving DecidableEq

/-- What a failed call reports. -/
inductive CallError
  /-- An error that the service itself throws. -/
  | message (text : String)
  /-- `SettlementApprovalRevalidationError`, with the codes of its reasons. -/
  | revalidation (codes : List String)
  /-- `P2002`. -/
  | uniqueConstraint
  /-- `P2034`: the transaction was rolled back by a write conflict. -/
  | writeConflict
  /-- Any other error of the database client. -/
  | databaseClient
  | other
  deriving DecidableEq

/-- The errors of a model transaction are texts; the database's own is recognised. -/
def CallError.ofText (text : String) : CallError :=
  if text = UNIQUE_CONSTRAINT_FAILED then .uniqueConstraint else .message text

def ATTEMPT_IDENTITY_MISMATCH : String := "Automatic approval attempt identity does not match."

/-- The attempt is the one that the caller names. -/
def SettlementAutoApprovalAttempt.Matches (t : SettlementAutoApprovalAttempt)
    (identity : AttemptIdentity) : Prop :=
  t.settlementApprovalId = identity.settlementApprovalId ∧
    t.vendorId = identity.expectedVendorId ∧ t.actorId = ACTOR

instance (t : SettlementAutoApprovalAttempt) (identity : AttemptIdentity) :
    Decidable (t.Matches identity) :=
  inferInstanceAs (Decidable (_ ∧ _))

/-- An outcome that is final. -/
def SettlementAutoApprovalAttemptOutcome.Terminal (o : SettlementAutoApprovalAttemptOutcome) :
    Prop :=
  o ≠ .started ∧ o ≠ .unknown

instance (o : SettlementAutoApprovalAttemptOutcome) : Decidable o.Terminal :=
  inferInstanceAs (Decidable (_ ∧ _))

namespace ApprovalDb

variable (d : ApprovalDb)

/-! ## Attempts -/

/-- The matching attempt. -/
def loadAttempt (identity : AttemptIdentity) : Except String SettlementAutoApprovalAttempt := do
  let attempt ← getOrThrow (d.findAttempt identity.attemptId) ATTEMPT_IDENTITY_MISMATCH
  require (attempt.Matches identity) ATTEMPT_IDENTITY_MISMATCH
  pure attempt

/-- Add an event to the history of an attempt. -/
def withEvent (attemptId : AttemptId) (outcome : SettlementAutoApprovalAttemptOutcome)
    (reasonCode : String) : ApprovalDb :=
  { d with
    settlementAutoApprovalAttemptEvent :=
      d.settlementAutoApprovalAttemptEvent ++ [⟨attemptId, outcome, reasonCode⟩] }

def createAttempt (identity : AttemptIdentity) : Except String ApprovalDb := do
  require ((d.finance.findApproval identity.settlementApprovalId).any fun a =>
    decide (a.vendorId = identity.expectedVendorId)) "Foreign key constraint failed."
  let attempts ← insertRows SettlementAutoApprovalAttempt.id d.settlementAutoApprovalAttempt
    [⟨identity.attemptId, identity.settlementApprovalId, identity.expectedVendorId, ACTOR, .started,
      none⟩] UNIQUE_CONSTRAINT_FAILED
  pure (withEvent { d with settlementAutoApprovalAttempt := attempts } identity.attemptId .started
    "ATTEMPT_CREATED")

/-- Set the outcome of an attempt. -/
def withOutcome (attemptId : AttemptId) (outcome : SettlementAutoApprovalAttemptOutcome)
    (reasonCode : Option String) : ApprovalDb :=
  { d with
    settlementAutoApprovalAttempt := updateWhere (fun t => decide (t.id = attemptId))
      (fun t => { t with outcome, reasonCode }) d.settlementAutoApprovalAttempt }

def appendOutcome (identity : AttemptIdentity) (outcome : SettlementAutoApprovalAttemptOutcome)
    (reasonCode : String) : Except String ApprovalDb := do
  let attempt ← d.loadAttempt identity
  if attempt.outcome = outcome ∧ attempt.reasonCode = some reasonCode then pure d
  else do
    require (¬attempt.outcome.Terminal ∧ outcome ≠ .approved)
      "Automatic approval attempt outcome transition is not permitted."
    pure ((d.withOutcome identity.attemptId outcome (some reasonCode)).withEvent identity.attemptId
      outcome reasonCode)

/-! ## The approval -/

/-- The origins of drafts that may be approved automatically. -/
def approvedOrigins : List SettlementDraftCreationOrigin :=
  [.autonomousScheduler, .adminScheduled, .adminManual, .controlledReplacement]

/-- The request for a controlled replacement is complete.  The list of late refunds is written
with the predecessor, so it is present whenever that is. -/
def replacementProvenanceComplete (existing : SettlementApproval) (columns : ApprovalColumns) :
    Bool :=
  existing.replacesSettlementApprovalId.isSome && columns.replacementRequestId.isSome &&
    columns.replacementRequestedBy.isSome &&
    columns.replacementReason.any (fun r => decide (trim r ≠ "")) &&
    columns.replacementRequestedAt.isSome && existing.scheduledRunDate.isNone &&
    existing.scheduledPeriodEnd.isNone && existing.scheduledCycleKey.all (fun k => decide (k = "")) &&
    existing.periodStart.isNone && existing.periodEnd.isSome

/-- The original of a controlled replacement was a scheduled draft.  An original without the
authority for any replacement is left to the canonical checks. -/
def originalScheduleComplete (existing : SettlementApproval) (original : SettlementApproval) :
    Bool :=
  !(original.scheduledPeriodEnd.isSome && decide (original.status = .cancelled) &&
      decide (original.vendorId = existing.vendorId) &&
      decide (existing.periodEnd = original.scheduledPeriodEnd)) ||
    (decide (original.cancelledFromStatus = some .draft) && original.scheduledRunDate.isSome &&
      original.scheduledCycleKey.any fun k => decide (k ≠ ""))

/-- The guards of the system entry point before the canonical ones. -/
def assertSystemAuthority (identity : AttemptIdentity) : Except String Unit := do
  let existing ← getOrThrow (d.finance.findApproval identity.settlementApprovalId)
    "Settlement approval could not be found."
  let columns := d.approvalColumns existing.id
  require (existing.vendorId = identity.expectedVendorId)
    "System settlement approval vendor identity does not match."
  require ((d.findAttempt identity.attemptId).any fun t =>
      decide (t.settlementApprovalId = identity.settlementApprovalId) &&
        decide (t.vendorId = existing.vendorId) && decide (t.actorId = ACTOR) &&
        decide (t.outcome = .started))
    "System settlement approval attempt identity or state does not match."
  require (columns.creationOrigin.any fun o => decide (o ∈ approvedOrigins))
    "System settlement approval requires an approved DRAFT creation origin."
  let controlled := columns.creationOrigin = some .controlledReplacement
  require (controlled → replacementProvenanceComplete existing columns)
    "System controlled replacement provenance is incomplete."
  require (existing.replacesSettlementApprovalId.isSome → controlled)
    "System replacement approval requires controlled replacement origin."
  require (existing.status = .draft) "Only draft settlement approvals can be approved."
  require (controlled → ((existing.replacesSettlementApprovalId.bind d.finance.findApproval).all
      (originalScheduleComplete existing)))
    "System controlled replacement original scheduled provenance is incomplete."

/-- The canonical approval, its errors told apart. -/
def executeCanonicalSettlementApproval (id firstAdjustmentId : Id) (now : Instant) :
    Except CallError FinanceDb :=
  match d.finance.executeCanonicalSettlementApproval id firstAdjustmentId now with
  | .ok finance => .ok finance
  | .error text =>
      if text = "Settlement approval cannot be approved because one or more lines are no longer valid."
      then .error (.revalidation (((d.finance.findApproval id).toList.flatMap fun existing =>
        d.finance.validateSettlementApprovalBeforeApprove existing now).map (·.code)))
      else .error (.ofText text)

def approveSettlementApprovalAsTrustedSystem (identity : AttemptIdentity) (firstAdjustmentId : Id)
    (now : Instant) : Except CallError ApprovalDb :=
  match d.assertSystemAuthority identity with
  | .error text => .error (.message text)
  | .ok () => do
      let finance ← d.executeCanonicalSettlementApproval identity.settlementApprovalId
        firstAdjustmentId now
      let columns := d.withColumns identity.settlementApprovalId fun c =>
        { c with
          approvedBy := some ACTOR
          successfulAutoApprovalAttemptId := some identity.attemptId }
      let reasonCode := (d.findAttempt identity.attemptId).bind (·.reasonCode)
      pure (withEvent (withOutcome
        { columns with
          finance
          approvalLog :=
            d.approvalLog ++ [(identity.settlementApprovalId, some identity.attemptId)] }
        identity.attemptId .approved reasonCode) identity.attemptId .approved
        "CANONICAL_APPROVAL_COMMITTED")

/-- The event of a rolled back approval that is tried again. -/
def recordRollback (identity : AttemptIdentity) : Except String ApprovalDb := do
  let _ ← getOrThrow (d.findAttempt identity.attemptId) "Foreign key constraint failed."
  pure (d.withEvent identity.attemptId .started "SERIALIZABLE_TRANSACTION_ROLLED_BACK")

end ApprovalDb

/-- The settlement was approved at some time. -/
def SettlementApproval.HistoricallyApproved (s : SettlementApproval) : Prop :=
  s.status = .approved ∨ (s.status = .cancelled ∧ s.cancelledFromStatus = some .approved)

instance (s : SettlementApproval) : Decidable s.HistoricallyApproved :=
  inferInstanceAs (Decidable (_ ∨ _))

end VendorDashboard.Finance

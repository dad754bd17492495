import VendorDashboard.Finance.System
import Mathlib.Logic.Function.Basic

/-!
# The tables of the approval workflow

`ApprovalDb` adds to the finance tables what only the creation and the approval of settlement
drafts read and write: who created and approved a settlement and by what authority
(`ApprovalColumns`), and the attempts of the automatic approval with their events.

`approvalLog` is not a table.  It records each committed approval with the attempt in whose
transaction it happened (`none` for an approval by a user), is written by the two entry points of
the approval and read by nothing.
-/

namespace VendorDashboard.Finance

inductive SettlementDraftCreationOrigin
  | autonomousScheduler | adminScheduled | adminManual | controlledReplacement
  deriving DecidableEq

/-- The key of an attempt: a random one, or the one derived from the blocked attempt that it
recovers (`recovery:` and a digest of that attempt's key). -/
inductive AttemptId
  | uuid (value : ℕ)
  | recovery (previous : AttemptId)
  deriving DecidableEq

inductive SettlementAutoApprovalAttemptOutcome
  | started | approved | blocked | technicalFailure | unknown
  deriving DecidableEq

/-- The actor of every automatic approval. -/
def ACTOR : String := "system:settlement_auto_approval"

structure SettlementAutoApprovalAttempt where
  id : AttemptId
  settlementApprovalId : Id
  vendorId : Id
  actorId : String
  outcome : SettlementAutoApprovalAttemptOutcome
  reasonCode : Option String
  deriving DecidableEq

structure SettlementAutoApprovalAttemptEvent where
  attemptId : AttemptId
  outcome : SettlementAutoApprovalAttemptOutcome
  reasonCode : String

/-- The columns of a settlement that state its authority. -/
structure ApprovalColumns where
  creationOrigin : Option SettlementDraftCreationOrigin
  approvedBy : Option String
  successfulAutoApprovalAttemptId : Option AttemptId
  replacementRequestId : Option Id
  replacementRequestedBy : Option Id
  replacementReason : Option String
  replacementRequestedAt : Option Instant

/-- The columns of a settlement that does not exist. -/
def ApprovalColumns.blank : ApprovalColumns where
  creationOrigin := none
  approvedBy := none
  successfulAutoApprovalAttemptId := none
  replacementRequestId := none
  replacementRequestedBy := none
  replacementReason := none
  replacementRequestedAt := none

structure ApprovalDb where
  finance : FinanceDb
  approvalColumns : Id → ApprovalColumns
  settlementAutoApprovalAttempt : List SettlementAutoApprovalAttempt
  settlementAutoApprovalAttemptEvent : List SettlementAutoApprovalAttemptEvent
  approvalLog : List (Id × Option AttemptId)

def ApprovalDb.empty : ApprovalDb where
  finance := FinanceDb.empty
  approvalColumns := fun _ => .blank
  settlementAutoApprovalAttempt := []
  settlementAutoApprovalAttemptEvent := []
  approvalLog := []

namespace ApprovalDb

variable (d : ApprovalDb)

def findAttempt (id : AttemptId) : Option SettlementAutoApprovalAttempt :=
  Table.findRow SettlementAutoApprovalAttempt.id id d.settlementAutoApprovalAttempt

/-- Write the authority columns of one settlement. -/
def withColumns (id : Id) (f : ApprovalColumns → ApprovalColumns) : ApprovalDb :=
  { d with approvalColumns := Function.update d.approvalColumns id (f (d.approvalColumns id)) }

end ApprovalDb

end VendorDashboard.Finance

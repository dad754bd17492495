import VendorDashboard.Finance.AutoApproval

/-!
# The approval system

The transactions that write the tables of `ApprovalDb`, as actions, and `ApprovalDb.step`, which
runs one.  Every other transaction of the finance system is an action too (`.finance`); the three
that write a settlement's row are replaced by the variants that also write its authority columns.

`ApprovalDb.ReachableDb` are the states of its runs: any number of transactions in any order.
-/

namespace VendorDashboard.Finance

open Transaction Run

/-- The actions of the finance system that write no settlement row. -/
def Action.keepsApprovals : Action → Bool
  | .createDraftApproval .. | .approveSettlement .. | .cancelSettlement .. => false
  | _ => true

inductive ApprovalAction
  | finance (a : Action)
  | createDraftApproval (input : SettlementApprovalInput)
      (origin : Option SettlementDraftCreationOrigin) (ids : DraftIds) (now : Instant)
  | createReplacementDraft (input : ReplacementRequest)
      (assessment : SettlementReplacementAssessment) (ids : DraftIds) (now : Instant)
  | approveSettlement (id : Id) (approvedBy : Option String) (firstAdjustmentId : Id)
      (now : Instant)
  | cancelSettlement (id : Id)
  | createAttempt (identity : AttemptIdentity)
  | approveAsTrustedSystem (identity : AttemptIdentity) (firstAdjustmentId : Id) (now : Instant)
  | appendOutcome (identity : AttemptIdentity) (outcome : SettlementAutoApprovalAttemptOutcome)
      (reasonCode : String)
  | recordRollback (identity : AttemptIdentity)

namespace ApprovalDb

/-- Run one transaction; the errors of the service are texts. -/
def step (a : ApprovalAction) (d : ApprovalDb) : Except CallError ApprovalDb :=
  let texts : Except String ApprovalDb → Except CallError ApprovalDb := Except.mapError .ofText
  match a with
  | .finance a => texts do
      require (a.keepsApprovals) "The transaction writes a settlement."
      let finance ← Finance.step a d.finance
      pure { d with finance }
  | .createDraftApproval input origin ids now =>
      texts (d.createDraftApprovalWithOrigin input origin ids now)
  | .createReplacementDraft input assessment ids now =>
      texts (d.createControlledSettlementReplacementDraft input assessment ids now)
  | .approveSettlement id approvedBy firstAdjustmentId now =>
      texts (d.approveSettlementApproval id approvedBy firstAdjustmentId now)
  | .cancelSettlement id => texts (d.cancelSettlementApproval id)
  | .createAttempt identity => texts (d.createAttempt identity)
  | .approveAsTrustedSystem identity firstAdjustmentId now =>
      d.approveSettlementApprovalAsTrustedSystem identity firstAdjustmentId now
  | .appendOutcome identity outcome reasonCode => texts (d.appendOutcome identity outcome reasonCode)
  | .recordRollback identity => texts (d.recordRollback identity)

/-- The states that runs of transactions reach from the empty tables. -/
def ReachableDb (d : ApprovalDb) : Prop :=
  Reachable (fun s => s = ApprovalDb.empty) (Commits step fun _ _ => True) d

/-- The states that runs of transactions reach from `d`. -/
def Later (d d' : ApprovalDb) : Prop :=
  Reachable (fun s => s = d) (Commits step fun _ _ => True) d'

theorem ReachableDb.invariant {P : ApprovalDb → Prop} (hempty : P ApprovalDb.empty)
    (hstep : ∀ s a t, ReachableDb s → P s → step a s = .ok t → P t) {d : ApprovalDb}
    (h : ReachableDb d) : P d := by
  unfold ReachableDb at h
  refine h.invariant (fun s hs => hs ▸ hempty) ?_
  rintro s t hr hp ⟨a, -, ha⟩
  exact hstep s a t hr hp ha

/-- A relation between tables that is reflexive and that each transaction extends relates the
tables of a run's ends. -/
theorem Later.rule {R : ApprovalDb → ApprovalDb → Prop} {d d' : ApprovalDb} (h : Later d d')
    (hrefl : R d d) (hstep : ∀ s a t, Later d s → R d s → step a s = .ok t → R d t) : R d d' := by
  unfold Later at h
  refine h.invariant (fun s hs => hs ▸ hrefl) ?_
  rintro s t hr hp ⟨a, -, ha⟩
  exact hstep s a t hr hp ha

end ApprovalDb

end VendorDashboard.Finance

import VendorDashboard.VendorIntegration.SopyoShopifyFulfillmentExecution

/-!
# A Sopyo shipment is submitted to Shopify at most once

Only one call can claim the submission: the claim needs an intent without `submissionStartedAt`, and
no later write takes it back.  The statuses before the submission and those after it are apart, and
the `CHECK` constraints leave a fulfillment only to a confirmed intent or a cargo conflict.

What is not kept is the fulfillment that the mutation returns.  While the mutation is in flight a
reconciliation may see part of what it did and give up with `SHOPIFY_RECONCILIATION_AMBIGUOUS`, a
status from which the submitting call stores nothing.

`ShipmentCall.Writes` says what a step writes, `ShipmentStore.Sound` and `ShipmentCall.Sound` are
the invariants.
-/

namespace VendorDashboard.VendorIntegration

open Finance (Id Instant)
open Interleaving Transaction Run

/-! ## What is kept -/

/-- No reconciliation has decided against the fulfillment. -/
def ShipmentStore.Open (s : ShipmentStore) (f : ShopifySopyoFulfillmentEvidence) : Prop :=
  ∀ row ∈ s.intent, row.conflictReasonCode ≠ some .shopifyReconciliationAmbiguous ∧
    ∀ id ∈ row.shopifyFulfillmentId, id = f.id

instance (s : ShipmentStore) (f : ShopifySopyoFulfillmentEvidence) : Decidable (s.Open f) := by
  unfold ShipmentStore.Open
  infer_instance

/-- The second update of a call that has proven a fulfillment finds it undecided. -/
def ShipmentCall.KeepsProven (s : ShipmentStore) : ShipmentCall → Prop
  | .preserve f => s.Open f
  | _ => True

instance (s : ShipmentStore) : DecidablePred (ShipmentCall.KeepsProven s) := fun c => by
  cases c <;> unfold ShipmentCall.KeepsProven <;> infer_instance

def KeepsProven (w : World ShipmentStore ShipmentCall) :
    Move ShipmentInput ShipmentAnswer Empty → Prop
  | .run i _ => ∀ c ∈ w.process i, c.KeepsProven w.shared
  | _ => True

instance (w : World ShipmentStore ShipmentCall) : DecidablePred (KeepsProven w) := fun m => by
  cases m <;> unfold KeepsProven <;> infer_instance

/-- What a step keeps of an intent. -/
structure SopyoShipmentIntent.Kept (row row' : SopyoShipmentIntent) : Prop where
  carrier : row'.carrier = row.carrier
  trackingNumber : row'.trackingNumber = row.trackingNumber
  started : row.submissionStartedAt ≠ none → row'.submissionStartedAt = row.submissionStartedAt
  fulfillment : ∀ id, row.shopifyFulfillmentId = some id → row'.shopifyFulfillmentId = some id
  confirmed : row.status = .confirmed → row'.status = .confirmed ∨ row'.CargoConflict

lemma SopyoShipmentIntent.Kept.refl (row : SopyoShipmentIntent) : row.Kept row :=
  ⟨rfl, rfl, fun _ => rfl, fun _ h => h, fun h => .inl h⟩

/-- What a step keeps of the intent and its plan. -/
structure ShipmentStore.Kept (s s' : ShipmentStore) : Prop where
  intent : ∀ row, s.intent = some row → ∃ row', s'.intent = some row' ∧ row.Kept row'
  plan : ∀ plan, s.plan = some plan → s'.plan = some plan

/-- Shopify has shown the fulfillment, and it proves the plan. -/
def ShipmentStore.Proves (le : LocaleCompare) (s : ShipmentStore) (row : SopyoShipmentIntent)
    (f : ShopifySopyoFulfillmentEvidence) : Prop :=
  f ∈ s.shown ∧ ∃ plan, s.plan = some plan ∧
    matchesSopyoShopifyExecutionPlan le f plan row.carrier row.trackingNumber = true

/-- The intent was submitted at most once, and holds a fulfillment only if it is proven. -/
structure ShipmentStore.SubmittedOnce (le : LocaleCompare) (s : ShipmentStore) : Prop where
  calls : s.calls.length ≤ 1
  started : ∀ row, s.intent = some row → row.submissionStartedAt ≠ none → ¬row.status.Plannable
  fulfillment : ∀ row id, s.intent = some row → row.shopifyFulfillmentId = some id →
    ∃ f, f.id = id ∧ s.Proves le row f

/-! ## The invariants -/

namespace SopyoShipmentIntent

structure Sound (le : LocaleCompare) (s : ShipmentStore) (row : SopyoShipmentIntent) : Prop where
  checked : row.Checked
  started : row.submissionStartedAt = none ↔ s.submitter = none
  plannable : row.status.Plannable → s.submitter = none
  waiting : row.status.Reconcilable → s.submitter ≠ none
  reason : row.status = .conflict → row.conflictReasonCode ≠ none
  ready : row.status = .planReady → s.plan ≠ none
  unplanned : row.status ≠ .reconciliationPending
  fulfillment : ∀ id, row.shopifyFulfillmentId = some id → ∃ f, f.id = id ∧ s.Proves le row f

/-- The submitting call has not been rejected. -/
def Unresolved (row : SopyoShipmentIntent) : Prop :=
  ∀ reason, row.conflictReasonCode = some reason →
    reason = .cargoMismatch ∨ reason = .shopifyReconciliationAmbiguous

/-- The update of the submitting call finds nothing. -/
def Left (row : SopyoShipmentIntent) : Prop :=
  row.status ≠ .submissionPending ∧ row.status ≠ .outcomeUnknown

variable {row : SopyoShipmentIntent}

lemma Checked.reason (h : row.Checked) (hstatus : row.status ≠ .conflict) :
    row.conflictReasonCode = none := by
  have hcheck := h.1
  unfold ConflictCheck at hcheck
  rw [if_neg hstatus] at hcheck
  exact hcheck.1

lemma Checked.fulfillment (h : row.Checked) (hconfirmed : row.status ≠ .confirmed)
    (hconflict : row.status ≠ .conflict) : row.shopifyFulfillmentId = none := by
  rcases h.2 with ⟨hstatus | hstatus, -⟩ | ⟨-, hid, -⟩
  · exact absurd hstatus hconfirmed
  · exact absurd hstatus.1 hconflict
  · exact hid

lemma Checked.confirmed (h : row.Checked) (hstatus : row.status = .confirmed) :
    row.shopifyFulfillmentId ≠ none := by
  rcases h.2 with ⟨-, hid, -⟩ | ⟨hne, -⟩
  · exact hid
  · exact absurd hstatus hne

end SopyoShipmentIntent

structure ShipmentStore.Sound (le : LocaleCompare) (s : ShipmentStore) : Prop where
  intent : ∀ row, s.intent = some row → row.Sound le s
  absent : s.intent = none → s.plan = none ∧ s.submitter = none
  submitted : s.submitter ≠ none → s.plan ≠ none
  calls : s.calls = [] ∨ ∃ i, s.calls = [i] ∧ s.submitter = some i

/-- Call `i` has claimed the submission and not written its outcome. -/
def ShipmentStore.Submits (s : ShipmentStore) (i : ℕ) : Prop :=
  s.submitter = some i ∧ ∀ row, s.intent = some row → row.Unresolved

def ShipmentStore.HasCargo (s : ShipmentStore) (carrier trackingNumber : String) : Prop :=
  ∃ row, s.intent = some row ∧ row.carrier = carrier ∧ row.trackingNumber = trackingNumber

/-- The plan and the cargo are those in the store. -/
def ShipmentStore.Planned (s : ShipmentStore) (plan : SopyoShopifyExecutionPlan)
    (carrier trackingNumber : String) : Prop :=
  s.plan = some plan ∧ s.HasCargo carrier trackingNumber

/-- The fulfillment proves the plan for the cargo in the store. -/
def ShipmentStore.Shows (le : LocaleCompare) (s : ShipmentStore)
    (f : ShopifySopyoFulfillmentEvidence) : Prop :=
  ∃ row, s.intent = some row ∧ s.Proves le row f

def ShipmentStore.Holds (s : ShipmentStore) (f : ShopifySopyoFulfillmentEvidence) : Prop :=
  ∃ row, s.intent = some row ∧ row.shopifyFulfillmentId = some f.id

/-- An intent as it is created. -/
def SopyoShipmentIntent.Fresh (row : SopyoShipmentIntent) : Prop :=
  row.status = .cargoVerified ∧ row.submissionStartedAt = none ∧ row.shopifyFulfillmentId = none

/-- The invariant of call `i`; `strict` is whether the run meets the condition on its steps. -/
def ShipmentCall.Sound (le : LocaleCompare) (strict : Prop) (i : ℕ) (s : ShipmentStore) :
    ShipmentCall → Prop
  | .recordCreate row => row.Fresh
  | .executeFind _ _ _ context => s.HasCargo context.intent.carrier context.intent.trackingNumber
  | .executeLocal sub | .claim sub => s.Planned sub.plan sub.carrier sub.trackingNumber
  | .create sub =>
      s.Submits i ∧ s.Planned sub.plan sub.carrier sub.trackingNumber ∧ s.calls = []
  | .awaitCreate sub => s.Submits i ∧ s.Planned sub.plan sub.carrier sub.trackingNumber
  | .confirm f => s.Submits i ∧ s.Shows le f
  | .preserve f =>
      s.Submits i ∧ s.Shows le f ∧ ∀ row, s.intent = some row → row.Left
  | .reject => s.Submits i
  | .reconcileFetch row plan => s.Planned plan row.carrier row.trackingNumber
  | .settle (.exact f _) => s.Shows le f
  | .readBack (some f) | .ended _ (some f) => strict → s.Holds f
  | _ => True

/-! ## What a step writes -/

/-- An update of the intent by a call at position `c`. -/
inductive ShipmentCall.Updates (c : ShipmentCall) (row : SopyoShipmentIntent) :
    SopyoShipmentIntent → Prop
  | cargo (now : Instant) : Updates c row (row.markConflict .cargoMismatch now)
  | refuse {reason : SopyoConflictReason} {now : Instant} (hplannable : row.status.Plannable) :
      Updates c row (row.markConflict reason now)
  | rejected {now : Instant} (hposition : c = .reject) (hstatus : row.status = .submissionPending) :
      Updates c row (row.markConflict .shopifyCreateRejected now)
  | ambiguous {now : Instant} (hreconcilable : row.status.Reconcilable) :
      Updates c row (row.markConflict .shopifyReconciliationAmbiguous now)
  | unknown (hreconcilable : row.status.Reconcilable) :
      Updates c row { row with status := .outcomeUnknown }
  | confirm {f : ShopifySopyoFulfillmentEvidence} {now : Instant}
      (hposition : c = .confirm f ∨ c = .settle (.exact f false))
      (hreconcilable : row.status.Reconcilable) :
      Updates c row { row.identify f.id now with status := .confirmed }
  | preserve {f : ShopifySopyoFulfillmentEvidence} {now : Instant}
      (hposition : c = .preserve f ∨ c = .settle (.exact f true)) (hcargo : row.CargoConflict)
      (hnone : row.shopifyFulfillmentId = none) : Updates c row (row.identify f.id now)

/-- A step of call `i` at position `c`. -/
inductive ShipmentCall.Writes (i : ℕ) (s : ShipmentStore) : ShipmentCall → ShipmentStore → Prop
  | see {c : ShipmentCall} (evidence : List ShopifySopyoFulfillmentEvidence) :
      Writes i s c (s.see evidence)
  | record {row : SopyoShipmentIntent} (hnone : s.intent = none) (hchecked : row.Checked) :
      Writes i s (.recordCreate row) (s.setIntent row)
  | update {c : ShipmentCall} {row row' : SopyoShipmentIntent} (hrow : s.intent = some row)
      (hupdate : c.Updates row row') (hchecked : row'.Checked) : Writes i s c (s.setIntent row')
  | plan {c : ShipmentCall} {plan : SopyoShopifyExecutionPlan} {row : SopyoShipmentIntent}
      (hnone : s.plan = none) (hrow : s.intent = some row)
      (hchecked : SopyoShipmentIntent.Checked { row with status := .planReady }) :
      Writes i s c { s.setIntent { row with status := .planReady } with plan := some plan }
  | claim {c : ShipmentCall} {row : SopyoShipmentIntent} {now : Instant}
      (hrow : s.intent = some row) (hstatus : row.status = .planReady)
      (hstarted : row.submissionStartedAt = none) (hchecked : (row.submit now).Checked) :
      Writes i s c { s.setIntent (row.submit now) with submitter := some i }
  | call {sub : Submission} : Writes i s (.create sub) { s with calls := s.calls ++ [i] }

namespace ShipmentStore

variable {s s' : ShipmentStore} {count : ℕ}

lemma updateMany_eq_some {p : SopyoShipmentIntent → Prop} [DecidablePred p]
    {f : SopyoShipmentIntent → SopyoShipmentIntent} (h : s.updateMany p f = some (s', count)) :
    (count = 0 ∧ s' = s ∧ ∀ row, s.intent = some row → ¬p row) ∨
      ∃ row, s.intent = some row ∧ p row ∧ (f row).Checked ∧ count = 1 ∧
        s' = s.setIntent (f row) := by
  unfold updateMany at h
  cases hrow : s.intent with
  | none =>
      simp only [hrow, Option.some.injEq, Prod.mk.injEq] at h
      exact .inl ⟨h.2.symm, h.1.symm, fun row hrow' => by cases hrow'⟩
  | some row =>
      simp only [hrow] at h
      split at h
      · rename_i hp
        split at h
        · rename_i hchecked
          simp only [Option.some.injEq, Prod.mk.injEq] at h
          exact .inr ⟨row, rfl, hp, hchecked, h.2.symm, h.1.symm⟩
        · cases h
      · rename_i hp
        simp only [Option.some.injEq, Prod.mk.injEq] at h
        refine .inl ⟨h.2.symm, h.1.symm, fun row' hrow' => ?_⟩
        obtain rfl := Option.some.inj hrow'
        exact hp

lemma mem_reconcilable {status : SopyoShipmentIntentStatus} (h : status ∈ reconcilable) :
    status.Reconcilable := by
  cases status <;> simp [reconcilable] at h <;> trivial

lemma mem_plannable {status : SopyoShipmentIntentStatus} (h : status ∈ plannableStatuses) :
    status.Plannable := by
  cases status <;> simp [plannableStatuses] at h <;> trivial

end ShipmentStore

namespace ShipmentCall

variable {le : LocaleCompare} {i : ℕ} {s s' : ShipmentStore} {c c' : ShipmentCall} {count : ℕ}

lemma Writes.nothing : Writes i s c s := by
  have h : Writes i s c (s.see []) := .see []
  rwa [ShipmentStore.see, List.append_nil] at h

/-- An update that is one of those a call may make. -/
lemma writes_updateMany {p : SopyoShipmentIntent → Prop} [DecidablePred p]
    {f : SopyoShipmentIntent → SopyoShipmentIntent} (hf : ∀ row, p row → c.Updates row (f row))
    (h : s.updateMany p f = some (s', count)) : Writes i s c s' := by
  rcases ShipmentStore.updateMany_eq_some h with ⟨-, rfl, -⟩ | ⟨row, hrow, hp, hchecked, -, rfl⟩
  · exact .nothing
  · exact .update hrow (hf row hp) hchecked

lemma writes_confirm {f : ShopifySopyoFulfillmentEvidence} {now : Instant}
    {fromStatuses : List SopyoShipmentIntentStatus}
    (hfrom : ∀ status ∈ fromStatuses, status.Reconcilable)
    (hposition : c = .confirm f ∨ c = .settle (.exact f false))
    (h : s.confirm fromStatuses f now = some (s', count)) : Writes i s c s' :=
  writes_updateMany (fun _ hstatus => .confirm hposition (hfrom _ hstatus)) h

lemma writes_preserve {f : ShopifySopyoFulfillmentEvidence} {now : Instant}
    (hposition : c = .preserve f ∨ c = .settle (.exact f true))
    (h : s.preserve f now = some (s', count)) : Writes i s c s' :=
  writes_updateMany (fun _ hrow => .preserve hposition hrow.1 hrow.2) h

lemma writes_refuse {reason : SopyoConflictReason} {now : Instant}
    {fromStatuses : List SopyoShipmentIntentStatus}
    (hfrom : ∀ status ∈ fromStatuses, status.Plannable)
    (h : s.moveToConflict fromStatuses reason now = some (s', count)) : Writes i s c s' :=
  writes_updateMany (fun _ hstatus => .refuse (hfrom _ hstatus)) h

lemma writes_settle {decision : ReconcileDecision} {now : Instant}
    (h : settleWrite s now decision = some (s', count)) : Writes i s (.settle decision) s' := by
  cases decision with
  | exact f cargoConflict =>
      cases cargoConflict with
      | false => exact writes_confirm (fun _ => ShipmentStore.mem_reconcilable) (.inr rfl) h
      | true => exact writes_preserve (.inr rfl) h
  | ambiguous =>
      exact writes_updateMany (fun _ hrow => .ambiguous (ShipmentStore.mem_reconcilable hrow)) h
  | unseen =>
      exact writes_updateMany (fun _ hrow => .unknown (ShipmentStore.mem_reconcilable hrow)) h

lemma writes_createPlan {plan : SopyoShopifyExecutionPlan}
    (h : s.createPlan plan = some (s', count)) : Writes i s c s' := by
  unfold ShipmentStore.createPlan at h
  split at h
  · rename_i hnone
    obtain ⟨⟨t, n⟩, hfilter, heq⟩ := Option.map_eq_some_iff.mp h
    obtain ⟨hupdate, hcount⟩ := Option.filter_eq_some_iff.mp hfilter
    obtain rfl : n = 1 := of_decide_eq_true hcount
    simp only [Prod.mk.injEq] at heq
    obtain ⟨rfl, -⟩ := heq
    rcases ShipmentStore.updateMany_eq_some hupdate with ⟨hzero, -⟩ | ⟨row, hrow, -, hchecked, -, rfl⟩
    · cases hzero
    · exact .plan hnone hrow hchecked
  · cases h

lemma writes_claimSubmission {now : Instant} (h : s.claimSubmission i now = some (s', count)) :
    Writes i s c s' := by
  unfold ShipmentStore.claimSubmission at h
  obtain ⟨⟨t, n⟩, hupdate, heq⟩ := Option.map_eq_some_iff.mp h
  rcases ShipmentStore.updateMany_eq_some hupdate with
    ⟨rfl, rfl, -⟩ | ⟨row, hrow, ⟨hstatus, hstarted, -⟩, hchecked, rfl, rfl⟩
  · simp only [Nat.zero_ne_one, if_false, Prod.mk.injEq] at heq
    rw [← heq.1]
    exact .nothing
  · simp only [if_true, Prod.mk.injEq] at heq
    rw [← heq.1]
    exact .claim hrow hstatus hstarted hchecked

/-- A step that writes leads to a store that it wrote, or to the old one. -/
lemma write_cases {answer : ShipmentAnswer} {written : Instant → Option (ShipmentStore × ℕ)}
    {next : ShipmentStore → ℕ → ShipmentCall} {error : ShipmentCall}
    (h : write s answer written next error = some (s', c')) :
    (s' = s ∧ c' = error) ∨ (∃ now count, written now = some (s', count) ∧
      (c' = error ∨ c' = next s' count)) := by
  unfold write at h
  split at h
  · rename_i now
    cases hwritten : written now with
    | none =>
        simp only [hwritten, Option.some.injEq, Prod.mk.injEq] at h
        exact .inl ⟨h.1.symm, h.2.symm⟩
    | some written' =>
        obtain ⟨t, count⟩ := written'
        simp only [hwritten, Option.some.injEq, Prod.mk.injEq] at h
        obtain ⟨rfl, rfl⟩ := h
        exact .inr ⟨now, count, hwritten, .inr rfl⟩
  · rename_i now
    cases hwritten : written now with
    | none =>
        simp only [hwritten, Option.some.injEq, Prod.mk.injEq] at h
        exact .inl ⟨h.1.symm, h.2.symm⟩
    | some written' =>
        obtain ⟨t, count⟩ := written'
        simp only [hwritten, Option.some.injEq, Prod.mk.injEq] at h
        obtain ⟨rfl, rfl⟩ := h
        exact .inr ⟨now, count, hwritten, .inl rfl⟩
  · simp only [Option.some.injEq, Prod.mk.injEq] at h
    exact .inl ⟨h.1.symm, h.2.symm⟩
  · cases h

lemma write_writes {answer : ShipmentAnswer} {written : Instant → Option (ShipmentStore × ℕ)}
    {next : ShipmentStore → ℕ → ShipmentCall} {error : ShipmentCall}
    (hwrites : ∀ now t count, written now = some (t, count) → Writes i s c t)
    (h : write s answer written next error = some (s', c')) : Writes i s c s' := by
  rcases write_cases h with ⟨rfl, -⟩ | ⟨now, count, hwritten, -⟩
  · exact .nothing
  · exact hwrites now s' count hwritten

/-- **What a step of a call writes.** -/
theorem run_writes {answer : ShipmentAnswer} (h : c.run le i answer s = some (s', c')) :
    Writes i s c s' := by
  unfold run at h
  split at h
  case h_2 row =>
    refine write_writes (fun now t count hwritten => ?_) h
    unfold ShipmentStore.createIntent at hwritten
    split at hwritten
    · rename_i hcreate
      simp only [Option.some.injEq, Prod.mk.injEq] at hwritten
      rw [← hwritten.1]
      exact .record hcreate.1 hcreate.2
    · cases hwritten
  case h_3 =>
    refine write_writes (fun now t count hwritten => ?_) h
    obtain ⟨hupdate, -⟩ := Option.filter_eq_some_iff.mp hwritten
    exact writes_updateMany (fun _ _ => .cargo now) hupdate
  case h_8 plan => exact write_writes (fun _ _ _ => writes_createPlan) h
  case h_9 reason error =>
    exact write_writes (fun _ _ _ => writes_refuse fun _ => ShipmentStore.mem_plannable) h
  case h_15 sub => exact write_writes (fun _ _ _ => writes_claimSubmission) h
  case h_16 reason error =>
    refine write_writes (fun _ _ _ => writes_refuse fun status hstatus => ?_) h
    rw [List.mem_singleton.mp hstatus]
    trivial
  case h_17 sub =>
    split at h
    · simp only [Option.some.injEq, Prod.mk.injEq] at h
      rw [← h.1]
      exact .call
    · simp only [Option.some.injEq, Prod.mk.injEq] at h
      rw [← h.1]
      exact .nothing
    · cases h
  case h_19 f =>
    refine write_writes (fun _ _ _ => writes_confirm (fun status hstatus => ?_) (.inl rfl)) h
    simp only [List.mem_cons, List.not_mem_nil, or_false] at hstatus
    rcases hstatus with rfl | rfl <;> trivial
  case h_20 f => exact write_writes (fun _ _ _ => writes_preserve (.inl rfl)) h
  case h_21 =>
    refine write_writes (fun _ _ _ => writes_updateMany fun row hstatus => ?_) h
    exact .rejected rfl (List.mem_singleton.mp hstatus)
  case h_22 =>
    refine write_writes (fun _ _ _ => writes_updateMany fun row hstatus => .unknown ?_) h
    rw [List.mem_singleton.mp hstatus]
    trivial
  case h_25 decision => exact write_writes (fun _ _ _ => writes_settle) h
  all_goals
    repeat' split at h
    all_goals simp only [Option.some.injEq, Prod.mk.injEq, reduceCtorEq] at h
    all_goals
      obtain ⟨rfl, -⟩ := h
      first
        | exact .nothing
        | exact .see _

end ShipmentCall

/-! ## The store -/

namespace SopyoShipmentIntentStatus

variable {status : SopyoShipmentIntentStatus}

lemma Plannable.ne (h : status.Plannable) :
    status ≠ .conflict ∧ status ≠ .confirmed ∧ ¬status.Reconcilable := by
  cases status <;> simp_all [Plannable, Reconcilable]

lemma Reconcilable.ne (h : status.Reconcilable) :
    status ≠ .conflict ∧ status ≠ .confirmed ∧ ¬status.Plannable := by
  cases status <;> simp_all [Plannable, Reconcilable]

end SopyoShipmentIntentStatus

namespace SopyoShipmentIntent

variable {c : ShipmentCall} {row row' : SopyoShipmentIntent}

/-- An update keeps the cargo, the start of the submission, and what is confirmed. -/
lemma Kept.ofUpdates (hchecked : row.Checked) (h : c.Updates row row') : row.Kept row' := by
  cases h with
  | cargo now => exact ⟨rfl, rfl, fun _ => rfl, fun _ h => h, fun _ => .inr ⟨rfl, rfl⟩⟩
  | refuse hplannable =>
      exact ⟨rfl, rfl, fun _ => rfl, fun _ h => h,
        fun hstatus => absurd hstatus hplannable.ne.2.1⟩
  | rejected hposition hstatus =>
      refine ⟨rfl, rfl, fun _ => rfl, fun _ h => h, fun hconfirmed => ?_⟩
      rw [hstatus] at hconfirmed
      cases hconfirmed
  | ambiguous hreconcilable | unknown hreconcilable =>
      exact ⟨rfl, rfl, fun _ => rfl, fun _ h => h,
        fun hstatus => absurd hstatus hreconcilable.ne.2.1⟩
  | confirm hposition hreconcilable =>
      obtain ⟨hconflict, hconfirmed, -⟩ := hreconcilable.ne
      refine ⟨rfl, rfl, fun _ => rfl, fun id hid => ?_, fun hstatus => .inl rfl⟩
      rw [hchecked.fulfillment hconfirmed hconflict] at hid
      cases hid
  | preserve hposition hcargo hnone =>
      refine ⟨rfl, rfl, fun _ => rfl, fun id hid => ?_, fun _ => .inr hcargo⟩
      rw [hnone] at hid
      cases hid

end SopyoShipmentIntent

namespace ShipmentCall

variable {c : ShipmentCall} {row row' : SopyoShipmentIntent}

/-- An update leaves the intent on its side of the submission. -/
lemma Updates.status (h : c.Updates row row') :
    (row'.status.Plannable → False) ∧
      (row'.status.Reconcilable → row.status.Reconcilable) ∧
      (row'.status = .reconciliationPending → row.status = .reconciliationPending) := by
  cases h with
  | cargo now | refuse hplannable | rejected hposition hstatus | ambiguous hreconcilable =>
      exact ⟨fun h => h, fun h => h.elim, fun h => by cases h⟩
  | unknown hreconcilable =>
      exact ⟨fun h => h, fun _ => hreconcilable, fun h => by cases h⟩
  | confirm hposition hreconcilable =>
      exact ⟨fun h => h, fun h => h.elim, fun h => by cases h⟩
  | preserve hposition hcargo hnone =>
      have hstatus : row.status = .conflict := hcargo.1
      refine ⟨fun h => ?_, fun h => h, fun h => h⟩
      have hplannable : row.status.Plannable := h
      rw [hstatus] at hplannable
      exact hplannable

lemma Updates.started (h : c.Updates row row') :
    row'.submissionStartedAt = row.submissionStartedAt := by
  cases h <;> rfl

/-- A conflict has a reason. -/
lemma Updates.reason (h : c.Updates row row') (hstatus : row'.status = .conflict) :
    row'.conflictReasonCode ≠ none := by
  cases h with
  | cargo now | refuse hplannable | rejected hposition hstatus | ambiguous hreconcilable =>
      exact Option.some_ne_none _
  | unknown hreconcilable | confirm hposition hreconcilable => cases hstatus
  | preserve hposition hcargo hnone =>
      intro hreason
      have hcargo : row.conflictReasonCode = some .cargoMismatch := hcargo.2
      have hreason : row.conflictReasonCode = none := hreason
      rw [hcargo] at hreason
      cases hreason

/-- The fulfillment of an intent is an old one, or one that the call has proven. -/
lemma Updates.fulfillment {id : String} (h : c.Updates row row')
    (hid : row'.shopifyFulfillmentId = some id) :
    row.shopifyFulfillmentId = some id ∨ ∃ f cargoConflict, f.id = id ∧
      (c = .confirm f ∨ c = .preserve f ∨ c = .settle (.exact f cargoConflict)) := by
  cases h with
  | cargo now | refuse hplannable | rejected hposition hstatus | ambiguous hreconcilable
  | unknown hreconcilable => exact .inl hid
  | @confirm f now hposition hreconcilable =>
      refine .inr ⟨f, false, Option.some.inj hid, ?_⟩
      rcases hposition with hposition | hposition
      · exact .inl hposition
      · exact .inr (.inr hposition)
  | @preserve f now hposition hcargo hnone =>
      refine .inr ⟨f, true, Option.some.inj hid, ?_⟩
      rcases hposition with hposition | hposition
      · exact .inr (.inl hposition)
      · exact .inr (.inr hposition)

end ShipmentCall

namespace ShipmentStore

variable {le : LocaleCompare} {strict : Prop} {i : ℕ} {s s' : ShipmentStore} {c : ShipmentCall}
  {f : ShopifySopyoFulfillmentEvidence}

/-- What a step keeps, and what it never takes back. -/
structure Grows (s s' : ShipmentStore) : Prop extends s.Kept s' where
  shown : s.shown ⊆ s'.shown
  submitter : ∀ i, s.submitter = some i → s'.submitter = some i

lemma Grows.proves {row row' : SopyoShipmentIntent} (h : s.Grows s') (hrow : row.Kept row')
    (hf : s.Proves le row f) : s'.Proves le row' f := by
  obtain ⟨hshown, plan, hplan, hmatches⟩ := hf
  refine ⟨h.shown hshown, plan, h.plan plan hplan, ?_⟩
  rw [hrow.carrier, hrow.trackingNumber]
  exact hmatches

lemma Grows.shows (h : s.Grows s') (hf : s.Shows le f) : s'.Shows le f := by
  obtain ⟨row, hrow, hproves⟩ := hf
  obtain ⟨row', hrow', hkept⟩ := h.intent row hrow
  exact ⟨row', hrow', h.proves hkept hproves⟩

lemma Grows.hasCargo {carrier trackingNumber : String} (h : s.Grows s')
    (hs : s.HasCargo carrier trackingNumber) : s'.HasCargo carrier trackingNumber := by
  obtain ⟨row, hrow, rfl, rfl⟩ := hs
  obtain ⟨row', hrow', hkept⟩ := h.intent row hrow
  exact ⟨row', hrow', hkept.carrier, hkept.trackingNumber⟩

lemma Grows.planned {plan : SopyoShopifyExecutionPlan} {carrier trackingNumber : String}
    (h : s.Grows s') (hs : s.Planned plan carrier trackingNumber) :
    s'.Planned plan carrier trackingNumber :=
  ⟨h.plan plan hs.1, h.hasCargo hs.2⟩

lemma Grows.holds (h : s.Grows s') (hs : s.Holds f) : s'.Holds f := by
  obtain ⟨row, hrow, hid⟩ := hs
  obtain ⟨row', hrow', hkept⟩ := h.intent row hrow
  exact ⟨row', hrow', hkept.fulfillment f.id hid⟩

lemma kept_setIntent {row row' : SopyoShipmentIntent} (hrow : s.intent = some row)
    (hkept : row.Kept row') : s.Kept (s.setIntent row') where
  intent := by
    intro r hr
    rw [hrow] at hr
    obtain rfl := Option.some.inj hr
    exact ⟨row', rfl, hkept⟩
  plan := fun _ h => h

/-- A step takes nothing back. -/
theorem Grows.ofWrites (hs : s.Sound le) (h : c.Writes i s s') : s.Grows s' := by
  have hintent : ∀ row, s.intent = some row → ∃ row', s.intent = some row' ∧ row.Kept row' :=
    fun row hrow => ⟨row, hrow, .refl row⟩
  cases h with
  | see evidence =>
      exact
        { intent := hintent
          plan := fun _ h => h
          shown := List.subset_append_left _ _
          submitter := fun _ h => h }
  | record hnone hchecked =>
      refine
        { intent := fun row hrow => ?_
          plan := fun _ h => h
          shown := List.Subset.refl _
          submitter := fun _ h => h }
      rw [hnone] at hrow
      cases hrow
  | update hrow hupdate hchecked =>
      exact
        { kept_setIntent hrow (.ofUpdates (hs.intent _ hrow).checked hupdate) with
          shown := List.Subset.refl _
          submitter := fun _ h => h }
  | @plan _ plan row hnone hrow hchecked =>
      have hsubmitter : s.submitter = none := by
        by_contra hne
        exact hs.submitted hne hnone
      have hrowSound := hs.intent row hrow
      have hfulfillment : row.shopifyFulfillmentId = none := by
        cases hid : row.shopifyFulfillmentId with
        | none => rfl
        | some id =>
            obtain ⟨f, -, -, plan, hplan, -⟩ := hrowSound.fulfillment id hid
            rw [hnone] at hplan
            cases hplan
      have hkept : row.Kept { row with status := .planReady } := by
        refine ⟨rfl, rfl, fun _ => rfl, fun _ h => h, fun hconfirmed => ?_⟩
        exact absurd hfulfillment (hrowSound.checked.confirmed hconfirmed)
      refine
        { intent := (kept_setIntent hrow hkept).intent
          plan := fun p hp => ?_
          shown := List.Subset.refl _
          submitter := fun _ h => h }
      rw [hnone] at hp
      cases hp
  | @claim _ row now hrow hstatus hstarted hchecked =>
      have hsubmitter : s.submitter = none := (hs.intent row hrow).started.mp hstarted
      have hkept : row.Kept (row.submit now) := by
        refine ⟨rfl, rfl, fun h => absurd hstarted h, fun _ h => h, fun hconfirmed => ?_⟩
        rw [hstatus] at hconfirmed
        cases hconfirmed
      refine
        { kept_setIntent hrow hkept with
          shown := List.Subset.refl _
          submitter := fun j hj => ?_ }
      rw [hsubmitter] at hj
      cases hj
  | call =>
      exact
        { intent := hintent
          plan := fun _ h => h
          shown := List.Subset.refl _
          submitter := fun _ h => h }

/-- An intent that is not written stays sound. -/
lemma Grows.intentSound {row : SopyoShipmentIntent} (h : s.Grows s')
    (hsubmitter : s'.submitter = s.submitter) (hrow : row.Sound le s) : row.Sound le s' where
  checked := hrow.checked
  started := by
    rw [hsubmitter]
    exact hrow.started
  plannable := by
    rw [hsubmitter]
    exact hrow.plannable
  waiting := by
    rw [hsubmitter]
    exact hrow.waiting
  reason := hrow.reason
  ready := fun hstatus hnone => by
    obtain ⟨plan, hplan⟩ := Option.ne_none_iff_exists'.mp (hrow.ready hstatus)
    rw [h.plan plan hplan] at hnone
    cases hnone
  unplanned := hrow.unplanned
  fulfillment := fun id hid => by
    obtain ⟨f, hf, hproves⟩ := hrow.fulfillment id hid
    exact ⟨f, hf, h.proves (.refl row) hproves⟩

/-- The fulfillment that a call is about to store is proven. -/
lemma shows_of_position {cargoConflict : Bool} (hc : c.Sound le strict i s)
    (hposition : c = .confirm f ∨ c = .preserve f ∨ c = .settle (.exact f cargoConflict)) :
    s.Shows le f := by
  rcases hposition with rfl | rfl | rfl
  · exact hc.2
  · exact hc.2.1
  · exact hc

/-- **The store stays sound.** -/
theorem Sound.ofWrites (hs : s.Sound le) (hc : c.Sound le strict i s) (h : c.Writes i s s') :
    s'.Sound le := by
  have hgrows : s.Grows s' := .ofWrites hs h
  cases h with
  | see evidence =>
      exact
        { intent := fun row hrow => hgrows.intentSound rfl (hs.intent row hrow)
          absent := hs.absent
          submitted := hs.submitted
          calls := hs.calls }
  | @record row hnone hchecked =>
      obtain ⟨hstatus, hstarted, hfulfillment⟩ : row.Fresh := hc
      refine
        { intent := fun row' hrow' => ?_
          absent := fun h => by cases h
          submitted := hs.submitted
          calls := hs.calls }
      obtain rfl := Option.some.inj hrow'
      exact
        { checked := hchecked
          started := ⟨fun _ => (hs.absent hnone).2, fun _ => hstarted⟩
          plannable := fun _ => (hs.absent hnone).2
          waiting := fun h => by
            rw [hstatus] at h
            exact h.elim
          reason := fun h => by
            rw [hstatus] at h
            cases h
          ready := fun h => by
            rw [hstatus] at h
            cases h
          unplanned := fun h => by
            rw [hstatus] at h
            cases h
          fulfillment := fun id hid => by
            rw [hfulfillment] at hid
            cases hid }
  | @update _ row row' hrow hupdate hchecked =>
      have hold := hs.intent row hrow
      obtain ⟨hplannable, hreconcilable, hpending⟩ := hupdate.status
      refine
        { intent := fun r hr => ?_
          absent := fun h => by cases h
          submitted := hs.submitted
          calls := hs.calls }
      obtain rfl := Option.some.inj hr
      exact
        { checked := hchecked
          started := by
            rw [hupdate.started]
            exact hold.started
          plannable := fun h => (hplannable h).elim
          waiting := fun h => hold.waiting (hreconcilable h)
          reason := hupdate.reason
          ready := fun h => by
            refine (hplannable ?_).elim
            rw [h]
            trivial
          unplanned := fun h => hold.unplanned (hpending h)
          fulfillment := fun id hid => by
            have hkept : row.Kept row' := .ofUpdates hold.checked hupdate
            rcases hupdate.fulfillment hid with
              hid | ⟨f, cargoConflict, hf, hposition⟩
            · obtain ⟨f, hf, hproves⟩ := hold.fulfillment id hid
              exact ⟨f, hf, hgrows.proves hkept hproves⟩
            · obtain ⟨r, hr, hproves⟩ := shows_of_position hc hposition
              rw [hrow] at hr
              obtain rfl := Option.some.inj hr
              exact ⟨f, hf, hgrows.proves hkept hproves⟩ }
  | @plan _ plan row hnone hrow hchecked =>
      have hold := hs.intent row hrow
      have hsubmitter : s.submitter = none := by
        by_contra hne
        exact hs.submitted hne hnone
      refine
        { intent := fun r hr => ?_
          absent := fun h => by cases h
          submitted := fun _ h => by cases h
          calls := hs.calls }
      obtain rfl := Option.some.inj hr
      exact
        { checked := hchecked
          started := hold.started
          plannable := fun _ => hsubmitter
          waiting := fun h => h.elim
          reason := fun h => by cases h
          ready := fun _ h => by cases h
          unplanned := fun h => by cases h
          fulfillment := fun id hid => by
            obtain ⟨f, -, -, p, hp, -⟩ := hold.fulfillment id hid
            rw [hnone] at hp
            cases hp }
  | @claim _ row now hrow hstatus hstarted hchecked =>
      have hold := hs.intent row hrow
      refine
        { intent := fun r hr => ?_
          absent := fun h => by cases h
          submitted := fun _ => hold.ready hstatus
          calls := ?_ }
      · obtain rfl := Option.some.inj hr
        exact
          { checked := hchecked
            started := ⟨fun h => (by cases h), fun h => (by cases h)⟩
            plannable := fun h => h.elim
            waiting := fun _ h => by cases h
            reason := fun h => by cases h
            ready := fun h => by cases h
            unplanned := fun h => by cases h
            fulfillment := fun id hid => by
              obtain ⟨f, hf, hproves⟩ := hold.fulfillment id hid
              exact ⟨f, hf, hproves⟩ }
      · rcases hs.calls with hcalls | ⟨j, -, hj⟩
        · exact .inl hcalls
        · rw [hold.started.mp hstarted] at hj
          cases hj
  | @call sub =>
      obtain ⟨hsubmits, -, hcalls⟩ := hc
      exact
        { intent := fun row hrow => hgrows.intentSound rfl (hs.intent row hrow)
          absent := hs.absent
          submitted := hs.submitted
          calls := .inr ⟨i, by rw [hcalls, List.nil_append], hsubmits.1⟩ }

/-! ## The calls -/

/-- The submitting call stays unresolved under an update of another one. -/
lemma unresolved_ofUpdates {row row' : SopyoShipmentIntent} (hs : s.Sound le)
    (hrow : s.intent = some row) (hsubmitter : s.submitter ≠ none) (hreject : c ≠ .reject)
    (hunresolved : row.Unresolved) (h : c.Updates row row') : row'.Unresolved := by
  cases h with
  | cargo now =>
      intro reason hreason
      exact .inl (Option.some.inj hreason).symm
  | refuse hplannable => exact absurd ((hs.intent row hrow).plannable hplannable) hsubmitter
  | rejected hposition hstatus => exact absurd hposition hreject
  | ambiguous hreconcilable =>
      intro reason hreason
      exact .inr (Option.some.inj hreason).symm
  | unknown hreconcilable => exact hunresolved
  | confirm hposition hreconcilable => exact hunresolved
  | preserve hposition hcargo hnone => exact hunresolved

/-- No step brings the intent back to where the submitting call confirms it. -/
lemma left_ofUpdates {row row' : SopyoShipmentIntent} (hs : s.Sound le)
    (hrow : s.intent = some row) (hleft : row.Left) (h : c.Updates row row') : row'.Left := by
  cases h with
  | cargo now | refuse hplannable | rejected hposition hstatus | ambiguous hreconcilable
  | confirm hposition hreconcilable =>
      constructor <;> intro h <;> cases h
  | unknown hreconcilable =>
      obtain ⟨hpending, hunknown⟩ := hleft
      have hunplanned := (hs.intent row hrow).unplanned
      cases hstatus : row.status <;> simp_all [SopyoShipmentIntentStatus.Reconcilable]
  | preserve hposition hcargo hnone => exact hleft

lemma submits_ofWrites {j : ℕ} (hs : s.Sound le) (hsubmits : s.Submits j)
    (hreject : c ≠ .reject) (h : c.Writes i s s') : s'.Submits j := by
  obtain ⟨hsubmitter, hunresolved⟩ := hsubmits
  refine ⟨(Grows.ofWrites hs h).submitter j hsubmitter, ?_⟩
  have hne : s.submitter ≠ none := by
    rw [hsubmitter]
    exact Option.some_ne_none j
  cases h with
  | see evidence => exact hunresolved
  | record hnone hchecked => exact absurd (hs.absent hnone).2 hne
  | update hrow hupdate hchecked =>
      intro r hr
      obtain rfl := Option.some.inj hr
      exact unresolved_ofUpdates hs hrow hne hreject (hunresolved _ hrow) hupdate
  | plan hnone hrow hchecked => exact absurd hnone (hs.submitted hne)
  | claim hrow hstatus hstarted hchecked =>
      exact absurd ((hs.intent _ hrow).started.mp hstarted) hne
  | call => exact hunresolved

lemma allLeft_ofWrites (hs : s.Sound le) (hsubmitter : s.submitter ≠ none)
    (hleft : ∀ row, s.intent = some row → row.Left) (h : c.Writes i s s') :
    ∀ row, s'.intent = some row → row.Left := by
  cases h with
  | see evidence => exact hleft
  | record hnone hchecked => exact absurd (hs.absent hnone).2 hsubmitter
  | update hrow hupdate hchecked =>
      intro r hr
      obtain rfl := Option.some.inj hr
      exact left_ofUpdates hs hrow (hleft _ hrow) hupdate
  | plan hnone hrow hchecked => exact absurd hnone (hs.submitted hsubmitter)
  | claim hrow hstatus hstarted hchecked =>
      exact absurd ((hs.intent _ hrow).started.mp hstarted) hsubmitter
  | call => exact hleft

end ShipmentStore

namespace ShipmentCall

variable {le : LocaleCompare} {strict : Prop} {i j : ℕ} {s s' : ShipmentStore}
  {c c' e : ShipmentCall}

/-- What a submitting call knows, as its position says. -/
lemma Sound.submits (h : c.Sound le strict i s) (hposition : c = .reject ∨ ∃ sub, c = .create sub) :
    s.submitter = some i := by
  rcases hposition with rfl | ⟨sub, rfl⟩
  · exact h.1
  · exact h.1.1

/-- **A step of another call leaves a call sound.** -/
theorem Writes.other (hs : s.Sound le) (hc : c.Sound le strict i s) (he : e.Sound le strict j s)
    (hij : j ≠ i) (h : c.Writes i s s') : e.Sound le strict j s' := by
  have hgrows : s.Grows s' := .ofWrites hs h
  -- two calls do not submit the same intent
  have hexclusive : s.submitter = some j → ¬(c = .reject ∨ ∃ sub, c = .create sub) := by
    intro hj hposition
    have hi := hc.submits hposition
    rw [hj] at hi
    exact hij (Option.some.inj hi)
  have hsubmits : s.Submits j → s'.Submits j := fun hsubmits =>
    ShipmentStore.submits_ofWrites hs hsubmits
      (fun hreject => hexclusive hsubmits.1 (.inl hreject)) h
  cases e with
  | recordCreate row => exact he
  | executeFind initial plan canonical context => exact hgrows.hasCargo he
  | executeLocal sub => exact hgrows.planned he
  | claim sub => exact hgrows.planned he
  | create sub =>
      obtain ⟨hsubmit, hplanned, hcalls⟩ := he
      refine ⟨hsubmits hsubmit, hgrows.planned hplanned, ?_⟩
      cases h with
      | call => exact absurd (.inr ⟨_, rfl⟩) (hexclusive hsubmit.1)
      | _ => exact hcalls
  | awaitCreate sub => exact ⟨hsubmits he.1, hgrows.planned he.2⟩
  | confirm f => exact ⟨hsubmits he.1, hgrows.shows he.2⟩
  | preserve f =>
      obtain ⟨hsubmit, hshows, hleft⟩ := he
      have hsubmitter : s.submitter ≠ none := by
        rw [hsubmit.1]
        exact Option.some_ne_none j
      exact ⟨hsubmits hsubmit, hgrows.shows hshows,
        ShipmentStore.allLeft_ofWrites hs hsubmitter hleft h⟩
  | reject => exact hsubmits he
  | reconcileFetch row plan => exact hgrows.planned he
  | settle decision =>
      cases decision with
      | exact f cargoConflict => exact hgrows.shows he
      | ambiguous => trivial
      | unseen => trivial
  | readBack proven =>
      cases proven with
      | none => trivial
      | some f => exact fun hstrict => hgrows.holds (he hstrict)
  | ended result proven =>
      cases proven with
      | none => trivial
      | some f => exact fun hstrict => hgrows.holds (he hstrict)
  | _ => trivial

end ShipmentCall

/-! ## The call that takes the step -/

lemma verifiedIntent_fresh {input : RecordInput} {reads : RecordReads}
    {row : SopyoShipmentIntent} (h : verifiedIntent input reads = .ok row) : row.Fresh := by
  unfold verifiedIntent at h
  simp only [bind_eq_ok, getOrThrow_eq_ok, require_eq_ok, pure_eq_ok] at h
  obtain ⟨carrier, -, trackingNumber, -, sopyoOrderId, -, -, -, actionable, -, allocation, -, -, -, -,
    -, -, -, push, -, -, -, rfl⟩ := h
  exact ⟨rfl, rfl, rfl⟩

lemma loadContext_intent {intent : Option SopyoShipmentIntent} {reads : PlanningReads}
    {context : PlanningContext} (h : loadSopyoShopifyPlanningContext intent reads = .ok context) :
    intent = some context.intent := by
  unfold loadSopyoShopifyPlanningContext at h
  simp only [bind_eq_ok, getOrThrow_eq_ok, require_eq_ok, pure_eq_ok] at h
  obtain ⟨row, hrow, -, -, gid, -, -, -, -, -, -, -, -, -, rfl⟩ := h
  exact hrow

namespace ShipmentCall

variable {le : LocaleCompare} {strict : Prop} {i : ℕ} {s s' : ShipmentStore} {c c' : ShipmentCall}

lemma sound_afterRecord {input : RecordInput} {reads : RecordReads} :
    (afterRecord s.intent (verifiedIntent input reads)).Sound le strict i s := by
  unfold afterRecord
  cases hverified : verifiedIntent input reads with
  | error error => trivial
  | ok verified =>
      cases s.intent with
      | none => exact verifiedIntent_fresh hverified
      | some existing =>
          simp only
          repeat' split
          all_goals trivial

lemma sound_afterExecuteLoad {initial : SopyoShipmentIntent} {plan : SopyoShopifyExecutionPlan}
    {canonical : ShopifySopyoFulfillmentPlanRead} {reads : PlanningReads} :
    (afterExecuteLoad initial plan canonical
      (loadSopyoShopifyPlanningContext s.intent reads)).Sound le strict i s := by
  unfold afterExecuteLoad
  cases hcontext : loadSopyoShopifyPlanningContext s.intent reads with
  | error error => trivial
  | ok context =>
      simp only
      split
      · exact ⟨context.intent, loadContext_intent hcontext, rfl, rfl⟩
      · trivial

lemma sound_afterExecuteFind {initial : SopyoShipmentIntent}
    {initialPlan : SopyoShopifyExecutionPlan} {canonical : ShopifySopyoFulfillmentPlanRead}
    {context : PlanningContext}
    (hcargo : s.HasCargo context.intent.carrier context.intent.trackingNumber) :
    (afterExecuteFind le initial initialPlan canonical context s.plan).Sound le strict i s := by
  unfold afterExecuteFind
  cases hplan : s.plan with
  | none => trivial
  | some plan =>
      simp only
      split
      · exact ⟨hplan, hcargo⟩
      · trivial

lemma sound_afterExecuteLocal {sub : Submission} {fulfillment : Option LocalFulfillment}
    (hplanned : s.Planned sub.plan sub.carrier sub.trackingNumber) :
    (afterExecuteLocal sub fulfillment).Sound le strict i s := by
  unfold afterExecuteLocal
  split
  · trivial
  · exact hplanned

lemma sound_afterReconcile :
    (afterReconcile s.intent s.plan).Sound le strict i s := by
  unfold afterReconcile
  split
  · rename_i intent plan hintent hplan
    repeat' split
    · trivial
    · exact ⟨hplan, intent, hintent, rfl, rfl⟩
    · trivial
  · trivial

/-- The fulfillment that a reconciliation finds is one that Shopify has shown. -/
lemma sound_afterEvidence {intent : SopyoShipmentIntent} {plan : SopyoShopifyExecutionPlan}
    {evidence : List ShopifySopyoFulfillmentEvidence}
    (hplanned : s.Planned plan intent.carrier intent.trackingNumber) :
    (afterEvidence le intent plan evidence).Sound le strict i (s.see evidence) := by
  unfold afterEvidence
  split
  · split <;> trivial
  · rename_i f hcandidates
    split
    · rename_i hmatches
      obtain ⟨hplan, row, hrow, hcarrier, htracking⟩ := hplanned
      have hmem : f ∈ evidence := by
        refine List.mem_of_mem_filter (p := isCandidate plan intent.carrier intent.trackingNumber) ?_
        rw [hcandidates]
        exact List.mem_singleton_self f
      refine ⟨row, hrow, List.mem_append_right _ hmem, plan, hplan, ?_⟩
      rw [hcarrier, htracking]
      exact hmatches
    · trivial
  · trivial

lemma sound_afterCreate {sub : Submission} {result : ShopifySopyoFulfillmentCreateResult}
    (hsubmits : s.Submits i) (hplanned : s.Planned sub.plan sub.carrier sub.trackingNumber) :
    (afterCreate le sub result).Sound le strict i (s.see (ShopifyResultShows result)) := by
  cases result with
  | success f =>
      unfold afterCreate
      simp only
      split
      · rename_i hmatches
        obtain ⟨hplan, row, hrow, hcarrier, htracking⟩ := hplanned
        refine ⟨hsubmits, row, hrow, List.mem_append_right _ (List.mem_singleton_self f), sub.plan,
          hplan, ?_⟩
        rw [hcarrier, htracking]
        exact hmatches
      · trivial
  | rejected => exact hsubmits
  | unknown => trivial

lemma sound_claim {sub : Submission} {now : Instant} {count : ℕ} (hs : s.Sound le)
    (hplanned : s.Planned sub.plan sub.carrier sub.trackingNumber)
    (h : s.claimSubmission i now = some (s', count)) :
    (if count = 1 then ShipmentCall.create sub else .readBack none).Sound le strict i s' := by
  have hgrows : s.Grows s' := .ofWrites hs (writes_claimSubmission (c := .claim sub) h)
  unfold ShipmentStore.claimSubmission at h
  obtain ⟨⟨t, n⟩, hupdate, heq⟩ := Option.map_eq_some_iff.mp h
  rcases ShipmentStore.updateMany_eq_some hupdate with
    ⟨rfl, rfl, -⟩ | ⟨row, hrow, ⟨hstatus, hstarted, -⟩, hchecked, rfl, rfl⟩
  · simp only [Nat.zero_ne_one, if_false, Prod.mk.injEq] at heq
    rw [← heq.2, if_neg Nat.zero_ne_one]
    trivial
  · simp only [if_true, Prod.mk.injEq] at heq
    have hrowSound := hs.intent row hrow
    have hcalls : s.calls = [] := by
      rcases hs.calls with hcalls | ⟨j, -, hj⟩
      · exact hcalls
      · rw [hrowSound.started.mp hstarted] at hj
        cases hj
    have hreason : row.conflictReasonCode = none := by
      refine hrowSound.checked.reason ?_
      rw [hstatus]
      exact SopyoShipmentIntentStatus.noConfusion
    rw [← heq.2, if_pos rfl]
    refine ⟨⟨?_, ?_⟩, hgrows.planned hplanned, ?_⟩
    · rw [← heq.1]
    · rw [← heq.1]
      intro r hr reason hr'
      obtain rfl := Option.some.inj hr
      have hr' : row.conflictReasonCode = some reason := hr'
      rw [hreason] at hr'
      cases hr'
    · rw [← heq.1]
      exact hcalls

lemma sound_confirm {f : ShopifySopyoFulfillmentEvidence} {now : Instant} {count : ℕ}
    (hsubmits : s.Submits i) (hshows : s.Shows le f)
    (h : s.confirm [.submissionPending, .outcomeUnknown] f now = some (s', count)) :
    (if count = 0 then ShipmentCall.preserve f else .readBack (some f)).Sound le strict i s' := by
  rcases ShipmentStore.updateMany_eq_some h with
    ⟨rfl, rfl, hleft⟩ | ⟨row, hrow, -, -, rfl, rfl⟩
  · rw [if_pos rfl]
    refine ⟨hsubmits, hshows, fun row hrow => ?_⟩
    have hnot := hleft row hrow
    simp only [List.mem_cons, List.not_mem_nil, or_false, not_or] at hnot
    exact hnot
  · rw [if_neg Nat.one_ne_zero]
    exact fun _ => ⟨_, rfl, rfl⟩

/-- A proven fulfillment is stored, unless a reconciliation has decided otherwise. -/
lemma sound_preserve {f : ShopifySopyoFulfillmentEvidence} {now : Instant} {count : ℕ}
    (hs : s.Sound le) (hsubmits : s.Submits i) (hshows : s.Shows le f)
    (hleft : ∀ row, s.intent = some row → row.Left) (hopen : strict → s.Open f)
    (h : s.preserve f now = some (s', count)) :
    (ShipmentCall.readBack (some f)).Sound le strict i s' := by
  intro hstrict
  rcases ShipmentStore.updateMany_eq_some h with ⟨-, rfl, hmissed⟩ | ⟨row, hrow, -, -, -, rfl⟩
  · obtain ⟨row, hrow, -⟩ := hshows
    obtain ⟨hambiguous, hid⟩ := hopen hstrict row hrow
    have hrowSound := hs.intent row hrow
    cases hnone : row.shopifyFulfillmentId with
    | some id =>
        refine ⟨row, hrow, ?_⟩
        rw [hnone, hid id hnone]
    | none =>
        refine absurd ⟨?_, hnone⟩ (hmissed row hrow)
        -- the submission has started, so the intent can only be in a conflict
        have hconflict : row.status = .conflict := by
          have hsubmitter : s'.submitter ≠ none := by
            rw [hsubmits.1]
            exact Option.some_ne_none i
          obtain ⟨hpending, hunknown⟩ := hleft row hrow
          have hplannable : ¬row.status.Plannable := fun h => hsubmitter (hrowSound.plannable h)
          have hconfirmed : row.status ≠ .confirmed := fun h =>
            hrowSound.checked.confirmed h hnone
          have hunplanned := hrowSound.unplanned
          cases hstatus : row.status <;> simp_all [SopyoShipmentIntentStatus.Plannable]
        refine ⟨hconflict, ?_⟩
        obtain ⟨reason, hreason⟩ := Option.ne_none_iff_exists'.mp (hrowSound.reason hconflict)
        rcases hsubmits.2 row hrow reason hreason with rfl | rfl
        · exact hreason
        · exact absurd hreason hambiguous
  · exact ⟨_, rfl, rfl⟩

/-- Planning and reading claim nothing. -/
lemma sound_afterPlanFetch {before : PlanningContext}
    {canonical : ShopifySopyoFulfillmentPlanRead} :
    (afterPlanFetch le before canonical).Sound le strict i s := by
  unfold afterPlanFetch
  repeat' split
  all_goals trivial

lemma sound_afterPlanReload {before : PlanningContext} {orderGid : String}
    {lines : List SopyoShopifyExecutionPlanLine}
    {current : Except (Option SopyoShipmentError) PlanningContext} :
    (afterPlanReload before orderGid lines current).Sound le strict i s := by
  unfold afterPlanReload
  repeat' split
  all_goals trivial

lemma sound_afterPlanFind {current : PlanningContext} {orderGid : String}
    {lines : List SopyoShopifyExecutionPlanLine} {plan : Option SopyoShopifyExecutionPlan} :
    (afterPlanFind le i current orderGid lines plan).Sound le strict i s := by
  unfold afterPlanFind
  repeat' split
  all_goals trivial

lemma sound_afterExecute {intent : Option SopyoShipmentIntent}
    {plan : Option SopyoShopifyExecutionPlan} :
    (afterExecute intent plan).Sound le strict i s := by
  unfold afterExecute
  repeat' split
  all_goals trivial

lemma write_sound {answer : ShipmentAnswer} {written : Instant → Option (ShipmentStore × ℕ)}
    {next : ShipmentStore → ℕ → ShipmentCall} {error : ShipmentCall}
    (h : write s answer written next error = some (s', c'))
    (hnext : ∀ now t count, written now = some (t, count) → (next t count).Sound le strict i t)
    (herror : ∀ t, error.Sound le strict i t) : c'.Sound le strict i s' := by
  rcases write_cases h with ⟨rfl, rfl⟩ | ⟨now, count, hwritten, rfl | rfl⟩
  · exact herror s'
  · exact herror s'
  · exact hnext now s' count hwritten

lemma sound_reached {t : ShipmentStore} {d : ShipmentCall} (h : some (t, d) = some (s', c'))
    (hd : d.Sound le strict i t) : c'.Sound le strict i s' := by
  simp only [Option.some.injEq, Prod.mk.injEq] at h
  obtain ⟨rfl, rfl⟩ := h
  exact hd

lemma sound_returnIntent {proven : Option ShopifySopyoFulfillmentEvidence}
    (h : (ShipmentCall.readBack proven).Sound le strict i s) :
    (returnIntent s proven).Sound le strict i s := by
  unfold returnIntent
  split
  · trivial
  · cases proven with
    | none => trivial
    | some f => exact h

/-- **The call that takes a step stays sound.** -/
theorem run_sound {answer : ShipmentAnswer} (hs : s.Sound le) (hc : c.Sound le strict i s)
    (hopen : strict → ∀ f, c = .preserve f → s.Open f)
    (h : c.run le i answer s = some (s', c')) : c'.Sound le strict i s' := by
  have hthrew : ∀ t : ShipmentStore, (threw none).Sound le strict i t := fun _ => trivial
  unfold run at h
  split at h
  case h_1 input =>
    split at h
    · split at h
      · exact sound_reached h sound_afterRecord
      · cases h
    · exact sound_reached h (hthrew s)
    · cases h
  case h_2 row => exact write_sound h (fun _ _ _ _ => trivial) hthrew
  case h_3 =>
    refine write_sound h (fun _ t _ _ => ?_) hthrew
    have hread : (ShipmentCall.readBack none).Sound le strict i t := trivial
    exact sound_returnIntent hread
  case h_4 =>
    split at h
    · split at h
      · exact sound_reached h trivial
      · exact sound_reached h trivial
    · exact sound_reached h (hthrew s)
    · cases h
  case h_5 before =>
    split at h
    · exact sound_reached h sound_afterPlanFetch
    · exact sound_reached h trivial
    · cases h
  case h_6 before orderGid lines =>
    split at h
    · exact sound_reached h sound_afterPlanReload
    · exact sound_reached h (hthrew s)
    · cases h
  case h_7 current orderGid lines =>
    split at h
    · exact sound_reached h sound_afterPlanFind
    · exact sound_reached h (hthrew s)
    · cases h
  case h_8 plan => exact write_sound h (fun _ _ _ _ => trivial) hthrew
  case h_9 reason error => exact write_sound h (fun _ _ _ _ => trivial) hthrew
  case h_10 env =>
    split at h
    · split at h
      · exact sound_reached h sound_afterExecute
      · exact sound_reached h (hthrew s)
      · cases h
    · exact sound_reached h trivial
  case h_11 initial plan =>
    split at h
    · exact sound_reached h trivial
    · exact sound_reached h trivial
    · cases h
  case h_12 initial plan canonical =>
    split at h
    · exact sound_reached h sound_afterExecuteLoad
    · exact sound_reached h trivial
    · cases h
  case h_13 initial plan canonical context =>
    split at h
    · exact sound_reached h (sound_afterExecuteFind hc)
    · exact sound_reached h trivial
    · cases h
  case h_14 sub =>
    split at h
    · exact sound_reached h (sound_afterExecuteLocal hc)
    · exact sound_reached h trivial
    · cases h
  case h_15 sub => exact write_sound h (fun _ _ _ => sound_claim hs hc) fun _ => trivial
  case h_16 reason error => exact write_sound h (fun _ _ _ _ => trivial) hthrew
  case h_17 sub =>
    obtain ⟨hsubmits, hplanned, -⟩ := hc
    split at h
    · exact sound_reached h ⟨hsubmits, hplanned⟩
    · exact sound_reached h trivial
    · cases h
  case h_18 sub =>
    obtain ⟨hsubmits, hplanned⟩ := hc
    split at h
    · exact sound_reached h (sound_afterCreate hsubmits hplanned)
    · exact sound_reached h trivial
    · cases h
  case h_19 f =>
    obtain ⟨hsubmits, hshows⟩ := hc
    exact write_sound h (fun _ _ _ => sound_confirm hsubmits hshows) hthrew
  case h_20 f =>
    obtain ⟨hsubmits, hshows, hleft⟩ := hc
    refine write_sound h (fun _ _ _ => ?_) hthrew
    exact sound_preserve hs hsubmits hshows hleft fun hstrict => hopen hstrict f rfl
  case h_21 => exact write_sound h (fun _ _ _ _ => trivial) hthrew
  case h_22 => exact write_sound h (fun _ _ _ _ => trivial) hthrew
  case h_23 =>
    split at h
    · exact sound_reached h sound_afterReconcile
    · exact sound_reached h (hthrew s)
    · cases h
  case h_24 intent plan =>
    split at h
    · exact sound_reached h (sound_afterEvidence hc)
    · exact sound_reached h trivial
    · cases h
  case h_25 decision => exact write_sound h (fun _ _ _ _ => trivial) hthrew
  case h_26 proven =>
    split at h
    · exact sound_reached h (sound_returnIntent hc)
    · exact sound_reached h (hthrew s)
    · cases h
  case h_27 result proven => cases h

end ShipmentCall

/-! ## Runs -/

section Runs

variable {le : LocaleCompare}

lemma ShipmentStore.New.sound {s : ShipmentStore} (h : s.New) : s.Sound le := by
  obtain ⟨hintent, hplan, -, hcalls, hsubmitter⟩ := h
  refine
    { intent := fun row hrow => ?_
      absent := fun _ => ⟨hplan, hsubmitter⟩
      submitted := fun h => absurd hsubmitter h
      calls := .inl hcalls }
  rw [hintent] at hrow
  cases hrow

/-- Whatever the runs, the store is sound; what the submitting call has proven is kept in those
whose steps meet the condition. -/
lemma sopyoShipment_sound (le : LocaleCompare) (strict : Prop) :
    (sopyoShipment le).Sound ShipmentStore.New (fun w m => strict → KeepsProven w m)
      (ShipmentStore.Sound le) (fun i s c => c.Sound le strict i s) where
  init := fun s hs => hs.sound
  start := fun i s input _ => by cases input <;> trivial
  run := by
    intro w i answer c s c' hw hprocess hok hrun
    have hc := hw.2 i c hprocess
    refine ⟨.ofWrites hw.1 hc (ShipmentCall.run_writes hrun), ShipmentCall.run_sound hw.1 hc ?_ hrun⟩
    rintro hstrict f rfl
    exact hok hstrict _ hprocess
  interference := fun w i answer c s c' hw hprocess _ hrun j e hj he =>
    (ShipmentCall.run_writes hrun).other hw.1 (hw.2 i c hprocess) (hw.2 j e he) hj
  outside := fun w e => e.elim

lemma ShipmentStore.Sound.submittedOnce {s : ShipmentStore} (h : s.Sound le) :
    s.SubmittedOnce le where
  calls := by
    rcases h.calls with hcalls | ⟨i, hcalls, -⟩
    · rw [hcalls]
      exact Nat.zero_le 1
    · rw [hcalls]
      exact Nat.le_refl 1
  started := fun row hrow hstarted hplannable =>
    hstarted ((h.intent row hrow).started.mpr ((h.intent row hrow).plannable hplannable))
  fulfillment := fun row id hrow hid => (h.intent row hrow).fulfillment id hid

/-- A move of a run keeps what must be kept. -/
lemma kept_of_step {w w' : World ShipmentStore ShipmentCall}
    {m : Move ShipmentInput ShipmentAnswer Empty} (hs : w.shared.Sound le)
    (h : (sopyoShipment le).step m w = .ok w') : w.shared.Kept w'.shared := by
  rcases Program.step_shared h with hshared | ⟨i, answer, c, c', -, -, hrun⟩ | ⟨e, -⟩
  · rw [hshared]
    exact ⟨fun row hrow => ⟨row, hrow, .refl row⟩, fun _ h => h⟩
  · exact (ShipmentStore.Grows.ofWrites hs (ShipmentCall.run_writes hrun)).toKept
  · exact e.elim

/-- **A Sopyo shipment is submitted once and a proven fulfillment is kept.**  The first part is of
every run; the second of those in which no reconciliation decides against the fulfillment while the
mutation is in flight. -/
theorem sopyoShipment_submittedOnce (le : LocaleCompare) :
    (∀ w, (sopyoShipment le).Reaches ShipmentStore.New (fun _ _ => True) w →
      w.shared.SubmittedOnce le ∧
        ∀ m w', (sopyoShipment le).step m w = .ok w' → w.shared.Kept w'.shared) ∧
    ∀ w, (sopyoShipment le).Reaches ShipmentStore.New KeepsProven w →
      ∀ i result f, w.process i = some (.ended result (some f)) → w.shared.Holds f := by
  constructor
  · intro w hw
    have hsound := ((sopyoShipment_sound le False).holds
      (hw.mono fun _ _ _ h => h.elim)).1
    exact ⟨hsound.submittedOnce, fun m w' hm => kept_of_step hsound hm⟩
  · intro w hw i result f hprocess
    have hsound := (sopyoShipment_sound le True).holds (hw.mono fun _ _ hok _ => hok)
    exact hsound.2 i _ hprocess trivial

end Runs

/-! ### A reconciliation while the mutation is in flight -/

def sampleCompare : LocaleCompare := fun a b => decide (a ≤ b)

def sampleOrderGid : String := "gid://shopify/Order/1"

def samplePush : SopyoOrderPush :=
  { SopyoOrderPush.created 1 2 with status := .succeeded, sopyoOrderId := some 7 }

def sampleAllocation : SopyoAllocation where
  id := 1
  assignedVendorId := 2
  allocationStatus := .active
  cancellationReason := none
  reassignmentRequired := false
  outboundMethodSnapshot := some .vendorIntegration
  outboundIntegrationProviderSnapshot := some .sopyo
  shopifyLocationGidSnapshot := some "L"
  sourceShopifyOrderId := sampleOrderGid
  orderCancelledAt := none

def sampleCargo : RecordInput := ⟨3, ⟨7, 1, "SOPYOAPI", some "A", some "T"⟩⟩

def sampleRecordReads : RecordReads := ⟨some 1, some sampleAllocation, false, some samplePush⟩

def samplePlanningReads : PlanningReads :=
  ⟨sampleAllocation, [⟨4, 5, "1", 2⟩], [], samplePush, true, false⟩

def sampleCanonical : ShopifySopyoFulfillmentPlanRead :=
  ⟨sampleOrderGid, [⟨"gid://shopify/FulfillmentOrder/1", some ["CREATE_FULFILLMENT"], some "L",
    [⟨"gid://shopify/FulfillmentOrderLineItem/1", "gid://shopify/LineItem/1", some 2, some 2⟩], []⟩]⟩

/-- The fulfillment that the mutation creates. -/
def sampleFulfillment : ShopifySopyoFulfillmentEvidence where
  id := "F"
  orderGid := sampleOrderGid
  locationGid := "L"
  fulfillmentOrderGids := ["gid://shopify/FulfillmentOrder/1"]
  lines := [⟨"gid://shopify/LineItem/1", 2⟩]
  tracking := [⟨some "A", some "T"⟩]
  status := "SUCCESS"

def sampleConfig : ShopifyConfig := ⟨"2026-01", some "shop", some "token"⟩

/-- The shipment is recorded, planned, and its submission sent. -/
def sampleSubmit : List (Move ShipmentInput ShipmentAnswer Empty) :=
  [.start 0 (.record sampleCargo), .run 0 (.recordReads sampleRecordReads), .run 0 (.statement 10),
    .start 1 .plan, .run 1 (.planningReads samplePlanningReads), .run 1 (.canonical sampleCanonical),
    .run 1 (.planningReads samplePlanningReads), .run 1 (.statement 11), .run 1 (.statement 12),
    .start 2 (.execute sampleConfig), .run 2 (.statement 13), .run 2 (.canonical sampleCanonical),
    .run 2 (.planningReads samplePlanningReads), .run 2 (.statement 14), .run 2 (.localFulfillment none),
    .run 2 (.statement 15), .run 2 .sent]

/-- Meanwhile another call sees the fulfillment without its tracking. -/
def sampleReconcile : List (Move ShipmentInput ShipmentAnswer Empty) :=
  [.start 3 (.execute sampleConfig), .run 3 (.statement 16), .run 3 (.statement 17),
    .run 3 (.evidence [{ sampleFulfillment with tracking := [] }]), .run 3 (.statement 18),
    .run 3 (.statement 19)]

/-- The answer arrives, and the call runs to its end. -/
def sampleAnswer : List (Move ShipmentInput ShipmentAnswer Empty) :=
  [.run 2 (.created (.success sampleFulfillment)), .run 2 (.statement 20), .run 2 (.statement 21),
    .run 2 (.statement 22)]

def sampleStore : ShipmentStore := ⟨1, none, none, [], [], none⟩

/-- The call has run to its end with this fulfillment proven. -/
def ShipmentCall.Proved (f : ShopifySopyoFulfillmentEvidence) : ShipmentCall → Prop
  | .ended _ (some g) => g = f
  | _ => False

instance (f : ShopifySopyoFulfillmentEvidence) : DecidablePred (ShipmentCall.Proved f) := fun c => by
  unfold ShipmentCall.Proved
  split <;> infer_instance

lemma ShipmentCall.Proved.ended {f : ShopifySopyoFulfillmentEvidence} {c : ShipmentCall}
    (h : c.Proved f) : ∃ result, c = .ended result (some f) := by
  unfold ShipmentCall.Proved at h
  split at h
  · rw [← h]
    exact ⟨_, rfl⟩
  · exact h.elim

/-- The fulfillment that the intents of a store hold. -/
def ShipmentStore.fulfillmentIds (s : ShipmentStore) : List (Option String) :=
  (s.intent.map (·.shopifyFulfillmentId)).toList

/-- The witness: nobody interferes, and the fulfillment is stored. -/
theorem sopyoShipment_submittedOnce_undisturbed : ∃ w : World ShipmentStore ShipmentCall,
    w.shared.Holds sampleFulfillment ∧ w.shared.calls.length = 1 ∧
      w.shared.SubmittedOnce sampleCompare := by
  have hrun : Succeeds (runActions (guarded KeepsProven () (sopyoShipment sampleCompare).step)
      (sampleSubmit ++ [.run 2 (.created (.success sampleFulfillment)), .run 2 (.statement 20),
        .run 2 (.statement 21)]) (World.init sampleStore))
      fun w => w.shared.calls.length = 1 ∧
        ∃ c ∈ w.process 2, c.Proved sampleFulfillment := by
    decide +kernel
  obtain ⟨w, hw, hcalls, c, hc, hproved⟩ := succeeds_iff.mp hrun
  have hreaches : (sopyoShipment sampleCompare).Reaches ShipmentStore.New KeepsProven w :=
    reachable_of_runGuarded (.start ⟨sampleStore, ⟨rfl, rfl, rfl, rfl, rfl⟩, rfl⟩) hw
  obtain ⟨result, rfl⟩ := hproved.ended
  have honce := sopyoShipment_submittedOnce sampleCompare
  have hkept := honce.1 w (hreaches.mono fun _ _ _ => trivial)
  exact ⟨w, honce.2 w hreaches 2 result sampleFulfillment hc, hcalls, hkept.1⟩

/-- The mutation succeeds and the call runs to its end, but the intent was given up meanwhile: the
identity of the fulfillment is lost. -/
theorem sopyoShipment_losesFulfillment : ∃ (w : World ShipmentStore ShipmentCall)
    (result : ShipmentResult),
    (sopyoShipment sampleCompare).Reaches ShipmentStore.New (fun _ _ => True) w ∧
      w.process 2 = some (.ended result (some sampleFulfillment)) ∧
      ¬w.shared.Holds sampleFulfillment := by
  have hrun : Succeeds (runActions (sopyoShipment sampleCompare).step
      (sampleSubmit ++ sampleReconcile ++ sampleAnswer) (World.init sampleStore))
      fun w => w.shared.fulfillmentIds = [none] ∧
        ∃ c ∈ w.process 2, c.Proved sampleFulfillment := by
    decide +kernel
  obtain ⟨w, hw, hids, c, hc, hproved⟩ := succeeds_iff.mp hrun
  obtain ⟨result, rfl⟩ := hproved.ended
  refine ⟨w, result, ?_, hc, ?_⟩
  · exact reachable_of_runActions (.start ⟨sampleStore, ⟨rfl, rfl, rfl, rfl, rfl⟩, rfl⟩)
      (fun _ _ _ => trivial) hw
  · rintro ⟨row, hrow, hid⟩
    unfold ShipmentStore.fulfillmentIds at hids
    rw [hrow] at hids
    simp only [Option.map_some, Option.toList_some, List.cons.injEq, and_true] at hids
    rw [hids] at hid
    cases hid

end VendorDashboard.VendorIntegration

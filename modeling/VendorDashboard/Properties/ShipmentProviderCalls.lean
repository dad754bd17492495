import VendorDashboard.Shipping.ShipmentExecution

/-!
# One call of the provider at a time

`Steps` says once what a step of a call can do.  The execution that a call has claimed is its own
until the outcome is written: it is pending, without a shipment, and names the call as its caller
(`Claimed`).  A first claim and the retry of a failed execution change the status that the others
look at.  The retry of a dry run does not: that nothing else is under way is a condition on the run
(`Uncontested`).
-/

namespace VendorDashboard.Shipping

open Finance (AllocationStatus Id)
open Interleaving Run Table Transaction

/-! ## What is to be shown -/

/-- The call has claimed its execution, and its outcome is not written. -/
def Position.outstanding : Position → Option ProviderCall
  | .createShipment call => some call
  | .persistResult call _ => some call
  | .recordFailure call _ => some call
  | .unrecorded call => some call
  | _ => none

/-- A provider shipment id, a tracking number or a label is recorded. -/
def ShipmentExecution.hasShipment (r : ShipmentExecution) : Bool :=
  truthy r.providerShipmentId || truthy r.trackingNumber || truthy r.labelUrl

/-- The shipment of the execution is still the same. -/
structure SameShipment (r r' : ShipmentExecution) : Prop where
  id : r'.id = r.id
  providerShipmentId : r'.providerShipmentId = r.providerShipmentId
  trackingNumber : r'.trackingNumber = r.trackingNumber
  labelUrl : r'.labelUrl = r.labelUrl
  shipmentStatus : r'.shipmentStatus = r.shipmentStatus

/-- What the allocation has to be for a shipment to be requested by the vendor. -/
structure MayBegin (s : ShippingStore) (vendorId : Id) : Prop where
  status : s.allocation.allocationStatus = .active
  cancellationReason : s.allocation.cancellationReason = none
  cancelledAt : s.allocation.cancelledAt = none
  vendor : s.allocation.assignedVendorId = vendorId
  fact : s.fullRefundTerminalFact = none
  hold : hasPendingCustomerCancellationHold s = false

/-- The transaction of a dry-run retry passes all of its checks. -/
def ClaimsDryRun (s : ShippingStore) (call : ProviderCall) : Prop :=
  call.request.isDryRunRetry = true ∧
    assertShipmentProviderCallMayBegin s call.vendorId call.sourceShopifyOrderId = .ok () ∧
    ∃ r ∈ s.findExecution call.executionId, assertDryRunRetryEligible r = .ok ()

/-- A dry-run retry claims an execution only while no other call of it is outstanding, and a
create finds the allocation, when it reads it again, with the vendor that called. -/
def Uncontested (w : World ShippingStore Position) : Move Input Answer Outside → Prop
  | .run i _ =>
      match w.process i with
      | some (.claim call) => ClaimsDryRun w.shared call → ∀ j p other, w.process j = some p →
          p.outstanding = some other → other.executionId ≠ call.executionId
      | some (.allocation (.create vendorId _) _) => w.shared.allocation.assignedVendorId = vendorId
      | _ => True
  | _ => True

/-- No shipment has been requested for the allocation, and it is not closed. -/
def NewAllocation (s : ShippingStore) : Prop :=
  s.shipmentExecution = [] ∧ s.fullRefundTerminalFact = none

/-! ## The checks -/

section Checks

variable {s : ShippingStore} {r : ShipmentExecution}

lemma assertDryRunRetryEligible_ok (h : assertDryRunRetryEligible r = .ok ()) :
    r.shipmentStatus = .pending ∧ truthy r.providerShipmentId = false ∧
      truthy r.trackingNumber = false := by
  simp only [assertDryRunRetryEligible, bind_eq_ok, require_eq_ok, exists_const] at h
  exact ⟨h.1, h.2.1, h.2.2.1⟩

lemma assertFailedRetryEligible_ok (h : assertFailedRetryEligible r = .ok ()) :
    r.shipmentStatus = .failed ∧ r.hasShipment = false := by
  simp only [assertFailedRetryEligible, bind_eq_ok, require_eq_ok, exists_const] at h
  obtain ⟨hstatus, hid, htracking, hlabel⟩ := h
  exact ⟨hstatus, by simp [ShipmentExecution.hasShipment, hid, htracking, hlabel]⟩

lemma assertShipmentProviderCallMayBegin_ok {vendorId : Id} {sourceShopifyOrderId : String}
    (h : assertShipmentProviderCallMayBegin s vendorId sourceShopifyOrderId = .ok ()) :
    MayBegin s vendorId := by
  simp only [assertShipmentProviderCallMayBegin, assertAllocationActionable,
    assertFullOrderOperationallyEligible, assertNoPendingCustomerCancellationHold, bind_eq_ok,
    require_eq_ok, exists_const, getOrThrow_eq_ok, pure_eq_ok] at h
  obtain ⟨id, ⟨_, -, hfact, -⟩, -, ⟨hvendor, -⟩, hcancelled, ⟨hreason, hstatus⟩, hhold⟩ := h
  exact ⟨hstatus, hreason, hcancelled, hvendor, hfact, hhold⟩

/-- An execution of an active provider is never retried as a stale one. -/
lemma canRetryStaleNavlungoExecution_of_active (h : isPassiveShippingProvider r.provider = false) :
    canRetryStaleNavlungoExecution r = false := by
  have hprovider : r.provider ≠ .navlungo := by
    rintro heq
    rw [heq] at h
    exact absurd h (by decide)
  simp [canRetryStaleNavlungoExecution, hprovider]

lemma mem_of_findExecution {id : String} (h : s.findExecution id = some r) :
    r ∈ s.shipmentExecution ∧ r.id = id := by
  refine ⟨List.mem_of_find?_eq_some h, ?_⟩
  have hfound := List.find?_some h
  exact eq_of_beq hfound

lemma findExecution_isNone {id : String} (h : (s.findExecution id).isNone = true) :
    ∀ r ∈ s.shipmentExecution, r.id ≠ id := by
  intro r hr heq
  have hnone := List.find?_eq_none.mp (Option.isNone_iff_eq_none.mp h) r hr
  exact hnone (beq_iff_eq.mpr heq)

end Checks

/-! ## What a call knows -/

/-- What the call has made sure of before its claim. -/
structure ProviderCall.Sound (call : ProviderCall) : Prop where
  active : isPassiveShippingProvider call.provider = false
  vendor : call.vendorId = call.request.vendorId
  retry : ∀ kind existing, call.request = .retry kind existing →
    call.provider = existing.provider ∧ call.executionId = existing.id

/-- The execution is the call's own. -/
def Claimed (i : ℕ) (s : ShippingStore) (call : ProviderCall) : Prop :=
  ∃ r ∈ s.shipmentExecution, r.id = call.executionId ∧ r.caller = some i ∧
    r.shipmentStatus = .pending ∧ r.hasShipment = false

def Position.Sound (i : ℕ) (s : ShippingStore) : Position → Prop
  | .allocation _ provider => isPassiveShippingProvider provider = false
  | .existingExecution call => call.Sound
  | .claim call => call.Sound
  | .createShipment call => Claimed i s call
  | .persistResult call _ => Claimed i s call
  | .recordFailure call _ => Claimed i s call
  | .unrecorded call => Claimed i s call
  | _ => True

structure ShippingStore.Sound (s : ShippingStore) : Prop where
  key : KeyUnique ShipmentExecution.id s.shipmentExecution
  shipped : ∀ r ∈ s.shipmentExecution, r.hasShipment = true → r.shipmentStatus ≠ .pending

/-- Nothing is known of a call there. -/
def Position.Free : Position → Prop
  | .allocation _ _ => False
  | .existingExecution _ => False
  | .claim _ => False
  | .createShipment _ => False
  | .persistResult _ _ => False
  | .recordFailure _ _ => False
  | .unrecorded _ => False
  | _ => True

lemma Position.Free.sound {p : Position} (h : p.Free) (i : ℕ) (s : ShippingStore) :
    p.Sound i s := by
  cases p <;> trivial

lemma Position.sound_of_outstanding {p : Position} {call : ProviderCall} {i : ℕ}
    {s : ShippingStore} (h : p.outstanding = some call) : p.Sound i s ↔ Claimed i s call := by
  cases p <;> cases h <;> rfl

lemma Position.sound_of_not_outstanding {p : Position} {i : ℕ} {s s' : ShippingStore}
    (h : p.outstanding = none) (hp : p.Sound i s) : p.Sound i s' := by
  cases p <;> first | exact hp | cases h

lemma orThrow_free {r : Except String Position} (h : ∀ q, r = .ok q → q.Free) :
    (orThrow r).Free := by
  cases r with
  | error message => trivial
  | ok q => exact h q rfl

/-! ## What a step does -/

/-- What the claim of an execution does. -/
inductive Claims (i : ℕ) (call : ProviderCall) (s : ShippingStore) :
    ShippingStore → Position → Prop
  | existing (id : String) : Claims i call s s (.ended (.shipmentExecution id))
  | created : MayBegin s call.vendorId →
      (∀ r ∈ s.shipmentExecution, r.id ≠ call.executionId) →
        Claims i call s
          { s with shipmentExecution := s.shipmentExecution ++ [claimedExecution i call] }
          (.createShipment call)
  | dryRun {existing current : ShipmentExecution} : call.request = .retry .dryRun existing →
      MayBegin s call.vendorId → ClaimsDryRun s call → current ∈ s.shipmentExecution →
        current.id = call.executionId → assertDryRunRetryEligible current = .ok () →
          Claims i call s
            (s.updateExecution call.executionId fun r =>
              { r with responseSnapshot := call.claimSnapshot, caller := some i })
            (.createShipment call)
  | failed {current : ShipmentExecution} : MayBegin s call.vendorId →
      current ∈ s.shipmentExecution → current.id = call.executionId →
        assertFailedRetryEligible current = .ok () →
          Claims i call s
            (s.updateExecution call.executionId fun r =>
              { r with
                shipmentStatus := .pending
                responseSnapshot := call.claimSnapshot
                caller := some i })
            (.createShipment call)

lemma claimExecution_claims {i : ℕ} {call : ProviderCall} {s s' : ShippingStore} {q : Position}
    (hcall : call.Sound) (h : claimExecution i call s = .ok (s', q)) :
    Claims i call s s' q := by
  simp only [claimExecution, bind_eq_ok] at h
  obtain ⟨⟨⟩, hbegin, h⟩ := h
  have hmay := assertShipmentProviderCallMayBegin_ok hbegin
  cases hrequest : call.request with
  | create vendorId provider =>
      simp only [hrequest] at h
      cases hfound : s.findByProvider call.provider with
      | some current =>
          simp only [hfound, pure_eq_ok, Prod.mk.injEq] at h
          obtain ⟨rfl, rfl⟩ := h
          exact .existing current.id
      | none =>
          simp only [hfound, bind_eq_ok, require_eq_ok, exists_const, pure_eq_ok,
            Prod.mk.injEq] at h
          obtain ⟨hnew, rfl, rfl⟩ := h
          exact .created hmay (findExecution_isNone hnew)
  | retry kind existing =>
      obtain ⟨hprovider, hid⟩ := hcall.retry kind existing hrequest
      cases kind with
      | dryRun =>
          simp only [hrequest, bind_eq_ok, getOrThrow_eq_ok, pure_eq_ok, Prod.mk.injEq] at h
          obtain ⟨current, hfound, ⟨⟩, heligible, rfl, rfl⟩ := h
          rw [← hid] at hfound ⊢
          have hmem := mem_of_findExecution hfound
          have hclaims : ClaimsDryRun s call :=
            ⟨by simp [hrequest, ShipmentRequest.isDryRunRetry], hbegin, current, hfound, heligible⟩
          exact .dryRun hrequest hmay hclaims hmem.1 hmem.2 heligible
      | failed vendorId useFullSenderDetailsForThisRetry =>
          have hstale : canRetryStaleNavlungoExecution existing = false :=
            canRetryStaleNavlungoExecution_of_active (hprovider ▸ hcall.active)
          simp only [hrequest, hstale, bind_eq_ok, getOrThrow_eq_ok, pure_eq_ok, Prod.mk.injEq,
            Bool.false_eq_true, if_false] at h
          obtain ⟨current, hfound, ⟨⟩, heligible, rfl, rfl⟩ := h
          rw [← hid] at hfound ⊢
          have hmem := mem_of_findExecution hfound
          exact .failed hmay hmem.1 hmem.2 heligible

/-- What a step of the call `i` does to the store and to its own position. -/
inductive Steps (i : ℕ) (s : ShippingStore) : Position → ShippingStore → Position → Prop
  | free {p q : Position} : q.Free → Steps i s p s q
  | chosen {request : ShipmentRequest} {provider : ShippingProvider} :
      isPassiveShippingProvider provider = false →
        Steps i s (.previewConfig request) s (.allocation request provider)
  | read {request : ShipmentRequest} {provider : ShippingProvider} {q : Position} :
      readAllocation request provider s = .ok q → Steps i s (.allocation request provider) s q
  | absent {call : ProviderCall} : Steps i s (.existingExecution call) s (.claim call)
  | claim {call : ProviderCall} {s' : ShippingStore} {q : Position} :
      claimExecution i call s = .ok (s', q) → Steps i s (.claim call) s' q
  | carries {p q : Position} {call : ProviderCall} : p.outstanding = some call →
      q.outstanding = some call → q ≠ .createShipment call → Steps i s p s q
  | persists {call : ProviderCall} {result : ShippingProviderCreateResult} {q : Position} :
      q.Free → Steps i s (.persistResult call result) (persistProviderShipmentResult call result s) q
  | fails {call : ProviderCall} {error : ProviderError} {q : Position} :
      q.Free → Steps i s (.recordFailure call error) (recordProviderFailure call error s) q
  | syncs {call : ProviderCall} {responseSnapshot fields : Snapshot} {q : Position} : q.Free →
      Steps i s (.shopifySync call responseSnapshot)
        (s.updateExecution call.executionId fun r => { r with responseSnapshot := fields }) q
  | closes {verificationSource shopifyOrderGid : String}
      {fact : AllocationFullRefundTerminalFact} {q : Position} : q.Free →
      (∀ r ∈ s.shipmentExecution, r.shipmentStatus ≠ .pending) →
        Steps i s (.commitFact verificationSource shopifyOrderGid)
          { s with fullRefundTerminalFact := some fact } q

lemma Steps.orThrow {i : ℕ} {s : ShippingStore} {p : Position} {r : Except String Position}
    (h : ∀ q, r = .ok q → q.Free) : Steps i s p s (orThrow r) :=
  .free (orThrow_free h)

lemma verified_free (verificationSource : String) (v : TerminalVerification) :
    (verified verificationSource v).Free := by
  cases v <;> trivial

lemma checkReadiness_ok {request : ShipmentRequest} {executionReady : Bool}
    {missing : List String} {q : Position}
    (h : checkReadiness request executionReady missing = .ok q) : q = .previewActionable request := by
  unfold checkReadiness at h
  cases hprovider : request.provider with
  | some provider =>
      simp only [hprovider, bind_eq_ok, pure_eq_ok] at h
      obtain ⟨_, -, _, -, rfl⟩ := h
      rfl
  | none =>
      simp only [hprovider, bind_eq_ok, pure_eq_ok] at h
      obtain ⟨_, -, _, -, rfl⟩ := h
      rfl

lemma previewConfig_ok {request : ShipmentRequest}
    {preferredProvider : Except String ShippingProvider} {q : Position}
    (h : previewConfig request preferredProvider = .ok q) :
    ∃ provider, isPassiveShippingProvider provider = false ∧ q = .allocation request provider := by
  simp only [previewConfig, normalizeProvider, assertActiveShippingProvider, bind_eq_ok,
    require_eq_ok, exists_const, pure_eq_ok] at h
  obtain ⟨preferred, -, provider, -, hactive, rfl⟩ := h
  exact ⟨provider, hactive, rfl⟩

lemma commitVerifiedFact_steps {i : ℕ} {s : ShippingStore}
    {verificationSource shopifyOrderGid : String} :
    Steps i s (.commitFact verificationSource shopifyOrderGid)
      (commitVerifiedFact verificationSource shopifyOrderGid s).1
      (.ended (.fact (commitVerifiedFact verificationSource shopifyOrderGid s).2)) := by
  unfold commitVerifiedFact
  by_cases hid : normalizeRequired s.allocation.sourceShopifyOrderId = none
  · rw [if_pos hid]
    exact .free trivial
  rw [if_neg hid]
  by_cases hfact : s.fullRefundTerminalFact.isSome = true
  · rw [if_pos hfact]
    exact .free trivial
  rw [if_neg hfact]
  by_cases hpending : s.shipmentExecution.any (fun r => r.shipmentStatus == .pending) = true
  · rw [if_pos hpending]
    exact .free trivial
  rw [if_neg hpending]
  by_cases hsync : s.allocation.syncStatus = some "fulfillment_submission_pending"
  · rw [if_pos hsync]
    exact .free trivial
  rw [if_neg hsync]
  refine .closes trivial ?_
  intro r hr hstatus
  exact hpending (List.any_eq_true.mpr ⟨r, hr, beq_iff_eq.mpr hstatus⟩)

/-- **What a step does.** -/
theorem run_steps {i : ℕ} {answer : Answer} {s s' : ShippingStore} {p q : Position}
    (h : run i answer s p = some (s', q)) : Steps i s p s' q := by
  cases p with
  | existing kind shipmentExecutionId =>
      obtain ⟨rfl, rfl⟩ := Prod.mk.inj (Option.some.inj h)
      refine .orThrow fun q hq => ?_
      simp only [readExisting, bind_eq_ok, getOrThrow_eq_ok, pure_eq_ok] at hq
      obtain ⟨existing, -, _, -, rfl⟩ := hq
      trivial
  | operational request =>
      obtain ⟨rfl, rfl⟩ := Prod.mk.inj (Option.some.inj h)
      refine .orThrow fun q hq => ?_
      simp only [bind_eq_ok, pure_eq_ok] at hq
      obtain ⟨_, -, rfl⟩ := hq
      trivial
  | operationalOrder request =>
      obtain ⟨rfl, rfl⟩ := Prod.mk.inj (Option.some.inj h)
      refine .orThrow fun q hq => ?_
      simp only [bind_eq_ok, pure_eq_ok] at hq
      obtain ⟨_, -, rfl⟩ := hq
      trivial
  | customerCancellationHold request =>
      obtain ⟨rfl, rfl⟩ := Prod.mk.inj (Option.some.inj h)
      refine .orThrow fun q hq => ?_
      simp only [bind_eq_ok, pure_eq_ok] at hq
      obtain ⟨_, -, rfl⟩ := hq
      trivial
  | readiness request =>
      cases answer with
      | diagnostics executionReady missing =>
          obtain ⟨rfl, rfl⟩ := Prod.mk.inj (Option.some.inj h)
          exact .orThrow fun q hq => checkReadiness_ok hq ▸ trivial
      | _ => cases h
  | previewActionable request =>
      obtain ⟨rfl, rfl⟩ := Prod.mk.inj (Option.some.inj h)
      refine .orThrow fun q hq => ?_
      simp only [bind_eq_ok, pure_eq_ok] at hq
      obtain ⟨_, -, rfl⟩ := hq
      trivial
  | previewAllocation request =>
      obtain ⟨rfl, rfl⟩ := Prod.mk.inj (Option.some.inj h)
      refine .orThrow fun q hq => ?_
      simp only [previewAllocation, bind_eq_ok, pure_eq_ok] at hq
      obtain ⟨_, -, _, -, _, -, rfl⟩ := hq
      trivial
  | previewConfig request =>
      cases answer with
      | preview preferredProvider =>
          obtain ⟨rfl, rfl⟩ := Prod.mk.inj (Option.some.inj h)
          cases hconfig : previewConfig request preferredProvider with
          | error message => exact .free trivial
          | ok q =>
              obtain ⟨provider, hactive, rfl⟩ := previewConfig_ok hconfig
              exact .chosen hactive
      | _ => cases h
  | allocation request provider =>
      obtain ⟨rfl, rfl⟩ := Prod.mk.inj (Option.some.inj h)
      cases hread : readAllocation request provider s with
      | error message => exact .free trivial
      | ok q => exact .read hread
  | existingExecution call =>
      simp only [run] at h
      cases hfound : s.findByProvider call.provider with
      | some existing =>
          rw [hfound] at h
          obtain ⟨rfl, rfl⟩ := Prod.mk.inj (Option.some.inj h)
          exact .free trivial
      | none =>
          rw [hfound] at h
          obtain ⟨rfl, rfl⟩ := Prod.mk.inj (Option.some.inj h)
          exact .absent
  | claim call =>
      simp only [run] at h
      cases hclaim : claimExecution i call s with
      | ok next =>
          rw [hclaim] at h
          obtain rfl := Option.some.inj h
          exact .claim hclaim
      | error message =>
          rw [hclaim] at h
          obtain ⟨rfl, rfl⟩ := Prod.mk.inj (Option.some.inj h)
          exact .free trivial
  | createShipment call =>
      cases answer with
      | shipment result =>
          obtain ⟨rfl, rfl⟩ := Prod.mk.inj (Option.some.inj h)
          exact .carries rfl rfl (by simp)
      | threw error =>
          obtain ⟨rfl, rfl⟩ := Prod.mk.inj (Option.some.inj h)
          exact .carries rfl rfl (by simp)
      | _ => cases h
  | persistResult call result =>
      cases answer with
      | ok =>
          obtain ⟨rfl, rfl⟩ := Prod.mk.inj (Option.some.inj h)
          exact .persists trivial
      | databaseFails =>
          obtain ⟨rfl, rfl⟩ := Prod.mk.inj (Option.some.inj h)
          exact .carries rfl rfl (by simp)
      | _ => cases h
  | recordFailure call error =>
      cases answer with
      | ok =>
          obtain ⟨rfl, rfl⟩ := Prod.mk.inj (Option.some.inj h)
          exact .fails trivial
      | databaseFails =>
          obtain ⟨rfl, rfl⟩ := Prod.mk.inj (Option.some.inj h)
          exact .carries rfl rfl (by simp)
      | _ => cases h
  | unrecorded call => cases h
  | shopifySync call responseSnapshot =>
      cases answer with
      | syncDiagnostics fields =>
          cases fields with
          | none =>
              obtain ⟨rfl, rfl⟩ := Prod.mk.inj (Option.some.inj h)
              exact .free trivial
          | some fields =>
              obtain ⟨rfl, rfl⟩ := Prod.mk.inj (Option.some.inj h)
              exact .syncs trivial
      | databaseFails =>
          obtain ⟨rfl, rfl⟩ := Prod.mk.inj (Option.some.inj h)
          exact .free trivial
      | _ => cases h
  | verify verificationSource =>
      cases answer with
      | verification v =>
          obtain ⟨rfl, rfl⟩ := Prod.mk.inj (Option.some.inj h)
          exact .free (verified_free verificationSource v)
      | _ => cases h
  | commitFact verificationSource shopifyOrderGid =>
      simp only [run] at h
      obtain ⟨rfl, rfl⟩ := Prod.mk.inj (Option.some.inj h)
      exact commitVerifiedFact_steps
  | ended reply => cases h

/-! ## Updates of an execution -/

section Update

variable {s s' : ShippingStore} {i j : ℕ} {call other : ProviderCall} {id : String}
  {f : ShipmentExecution → ShipmentExecution}

lemma mem_updateExecution {r' : ShipmentExecution} :
    r' ∈ (s.updateExecution id f).shipmentExecution ↔
      ∃ r ∈ s.shipmentExecution, (r.id = id ∧ r' = f r) ∨ (r.id ≠ id ∧ r' = r) := by
  constructor
  · intro h
    obtain ⟨r, hr, heq⟩ := mem_updateWhere.mp h
    by_cases hid : r.id = id
    · rw [if_pos (beq_iff_eq.mpr hid)] at heq
      exact ⟨r, hr, .inl ⟨hid, heq.symm⟩⟩
    · rw [if_neg (by simpa using hid)] at heq
      exact ⟨r, hr, .inr ⟨hid, heq.symm⟩⟩
  · rintro ⟨r, hr, ⟨hid, rfl⟩ | ⟨hid, rfl⟩⟩
    · exact mem_updateWhere.mpr ⟨r, hr, if_pos (beq_iff_eq.mpr hid)⟩
    · exact mem_updateWhere.mpr ⟨r', hr, if_neg (by simpa using hid)⟩

lemma ShippingStore.Sound.update (hs : s.Sound) (hid : ∀ r, (f r).id = r.id)
    (hshipped : ∀ r ∈ s.shipmentExecution, r.id = id → (f r).hasShipment = true →
      (f r).shipmentStatus ≠ .pending) : (s.updateExecution id f).Sound := by
  refine ⟨hs.key.updateWhere hid, ?_⟩
  intro r' hr' hship
  obtain ⟨r, hr, ⟨heq, rfl⟩ | ⟨-, rfl⟩⟩ := mem_updateExecution.mp hr'
  · exact hshipped r hr heq hship
  · exact hs.shipped r' hr hship

/-- The claim only rests on the executions. -/
lemma Claimed.of_rows (h : Claimed i s call) (hrows : s'.shipmentExecution = s.shipmentExecution) :
    Claimed i s' call := by
  unfold Claimed at h ⊢
  rw [hrows]
  exact h

lemma Claimed.update_other (h : Claimed i s call) (hid : call.executionId ≠ id) :
    Claimed i (s.updateExecution id f) call := by
  obtain ⟨r, hr, hcall, hrest⟩ := h
  have hne : r.id ≠ id := by
    rw [hcall]
    exact hid
  exact ⟨r, mem_updateExecution.mpr ⟨r, hr, .inr ⟨hne, rfl⟩⟩, hcall, hrest⟩

lemma Claimed.update_snapshot (h : Claimed i s call) (fields : Snapshot) :
    Claimed i (s.updateExecution id fun r => { r with responseSnapshot := fields }) call := by
  obtain ⟨r, hr, hcall, hcaller, hstatus, hship⟩ := h
  by_cases hid : r.id = id
  · exact ⟨_, mem_updateExecution.mpr ⟨r, hr, .inl ⟨hid, rfl⟩⟩, hcall, hcaller, hstatus, hship⟩
  · exact ⟨r, mem_updateExecution.mpr ⟨r, hr, .inr ⟨hid, rfl⟩⟩, hcall, hcaller, hstatus, hship⟩

/-- The row of a claimed execution. -/
lemma Claimed.row (h : Claimed i s call) (hs : s.Sound) {r : ShipmentExecution}
    (hr : r ∈ s.shipmentExecution) (hid : r.id = call.executionId) :
    r.caller = some i ∧ r.shipmentStatus = .pending ∧ r.hasShipment = false := by
  obtain ⟨r', hr', hid', hrest⟩ := h
  obtain rfl := hs.key.eq hr hr' (hid.trans hid'.symm)
  exact hrest

/-- **An execution is claimed by one call.** -/
lemma Claimed.unique (hs : s.Sound) (h : Claimed i s call) (h' : Claimed j s other)
    (hid : call.executionId = other.executionId) : i = j := by
  obtain ⟨r, hr, hcall, hcaller, -⟩ := h
  obtain ⟨hcaller', -⟩ := h'.row hs hr (hcall.trans hid)
  exact Option.some.inj (hcaller.symm.trans hcaller')

lemma persistProviderShipmentResult_rows (call : ProviderCall)
    (result : ShippingProviderCreateResult) (s : ShippingStore) :
    (persistProviderShipmentResult call result s).shipmentExecution =
      (s.updateExecution call.executionId (·.withResult result)).shipmentExecution := by
  unfold persistProviderShipmentResult
  split <;> rfl

/-- With a shipment the execution is no longer pending. -/
lemma persistedStatus_ne_pending {result : ShippingProviderCreateResult}
    (h : (truthy result.providerShipmentId || truthy result.trackingNumber ||
      truthy result.labelUrl) = true) : persistedStatus result ≠ .pending := by
  have hcreated : providerCreated result = true := by
    simp only [Bool.or_eq_true] at h
    simp only [providerCreated, Bool.or_eq_true]
    tauto
  unfold persistedStatus
  rw [if_pos hcreated]
  by_cases hpending : result.shipmentStatus = .pending
  · rw [if_pos hpending]
    decide
  · rw [if_neg hpending]
    exact hpending

end Update

/-! ## The invariant -/

section Invariant

variable {i j : ℕ} {s s' : ShippingStore} {p q : Position} {call other : ProviderCall}

/-- The claim keeps the store, and makes the execution the call's own. -/
lemma Claims.sound (hs : s.Sound) (h : Claims i call s s' q) : s'.Sound ∧ q.Sound i s' := by
  cases h with
  | existing id => exact ⟨hs, trivial⟩
  | created hmay hnew =>
      refine ⟨⟨?_, ?_⟩, ?_⟩
      · refine keyUnique_append.mpr ⟨hs.key, ?_, ?_⟩
        · simp [KeyUnique]
        · intro r hr r' hr'
          rw [List.mem_singleton.mp hr']
          exact hnew r hr
      · intro r hr hship
        rcases List.mem_append.mp hr with hr | hr
        · exact hs.shipped r hr hship
        · rw [List.mem_singleton.mp hr] at hship
          simp [ShipmentExecution.hasShipment, claimedExecution, truthy] at hship
      · exact ⟨claimedExecution i call, List.mem_append_right _ (List.mem_singleton.mpr rfl), rfl,
          rfl, rfl, by simp [ShipmentExecution.hasShipment, claimedExecution, truthy]⟩
  | dryRun hrequest hmay hclaims hcurrent hid heligible =>
      obtain ⟨hstatus, -, -⟩ := assertDryRunRetryEligible_ok heligible
      refine ⟨hs.update (fun _ => rfl) fun r hr _ hship => hs.shipped r hr hship, ?_⟩
      refine ⟨_, mem_updateExecution.mpr ⟨_, hcurrent, .inl ⟨hid, rfl⟩⟩, hid, rfl, hstatus, ?_⟩
      by_contra hship
      exact hs.shipped _ hcurrent (Bool.eq_true_of_not_eq_false hship) hstatus
  | failed hmay hcurrent hid heligible =>
      obtain ⟨-, hship⟩ := assertFailedRetryEligible_ok heligible
      refine ⟨hs.update (fun _ => rfl) ?_, ?_⟩
      · intro r hr hr_id hr_ship
        obtain rfl := hs.key.eq hr hcurrent (hr_id.trans hid.symm)
        exact absurd hr_ship (by simp [ShipmentExecution.hasShipment] at hship ⊢; exact hship)
      · exact ⟨_, mem_updateExecution.mpr ⟨_, hcurrent, .inl ⟨hid, rfl⟩⟩, hid, rfl, rfl, hship⟩

lemma readAllocation_sound {request : ShipmentRequest} {provider : ShippingProvider}
    (hactive : isPassiveShippingProvider provider = false)
    (hvendor : ∀ vendorId preferred, request = .create vendorId preferred →
      s.allocation.assignedVendorId = vendorId)
    (h : readAllocation request provider s = .ok q) : q.Sound i s := by
  cases request with
  | create vendorId preferred =>
      obtain rfl := Except.ok.inj h
      exact ⟨hactive, hvendor vendorId preferred rfl, fun _ _ hretry => by cases hretry⟩
  | retry kind existing =>
      simp only [readAllocation, bind_eq_ok, require_eq_ok, exists_const, pure_eq_ok] at h
      obtain ⟨hprovider, hassigned, rfl⟩ := h
      refine ⟨hactive, hassigned, ?_⟩
      rintro kind' existing' hretry
      cases hretry
      exact ⟨hprovider, rfl⟩

/-- **A step keeps the invariant.** -/
theorem Steps.sound (hs : s.Sound) (hp : p.Sound i s)
    (hvendor : ∀ vendorId preferred provider, p = .allocation (.create vendorId preferred) provider →
      s.allocation.assignedVendorId = vendorId)
    (h : Steps i s p s' q) : s'.Sound ∧ q.Sound i s' := by
  cases h with
  | free hq => exact ⟨hs, hq.sound i s⟩
  | chosen hactive => exact ⟨hs, hactive⟩
  | @read request provider q hread =>
      refine ⟨hs, readAllocation_sound hp ?_ hread⟩
      intro vendorId preferred hrequest
      exact hvendor vendorId preferred provider (by rw [hrequest])
  | absent => exact ⟨hs, hp⟩
  | claim hclaim => exact (claimExecution_claims hp hclaim).sound hs
  | carries hp' hq' _ =>
      refine ⟨hs, (Position.sound_of_outstanding hq').mpr ?_⟩
      exact (Position.sound_of_outstanding hp').mp hp
  | @persists call result q hq =>
      have hupdate : (s.updateExecution call.executionId (·.withResult result)).Sound :=
        hs.update (fun _ => rfl) fun _ _ _ hship => persistedStatus_ne_pending hship
      have hrows := persistProviderShipmentResult_rows call result s
      exact ⟨⟨hrows ▸ hupdate.key, hrows ▸ hupdate.shipped⟩, hq.sound i _⟩
  | @fails call error q hq =>
      refine ⟨hs.update (fun _ => rfl) ?_, hq.sound i _⟩
      intro r hr hid hship hstatus
      cases hstatus
  | syncs hq =>
      exact ⟨hs.update (fun _ => rfl) fun r hr _ hship => hs.shipped r hr hship, hq.sound i _⟩
  | closes hq _ => exact ⟨⟨hs.key, hs.shipped⟩, hq.sound i _⟩

/-- **A step leaves the claims of the others.**  A dry-run retry does so by the condition on it. -/
theorem Steps.claimed_other (hs : s.Sound) (hp : p.Sound i s) (h : Steps i s p s' q)
    (hdry : ∀ call, p = .claim call → ClaimsDryRun s call →
      other.executionId ≠ call.executionId)
    (hj : j ≠ i) (hother : Claimed j s other) : Claimed j s' other := by
  cases h with
  | free _ => exact hother
  | chosen _ => exact hother
  | read _ => exact hother
  | absent => exact hother
  | @claim call s' q hclaim =>
      cases claimExecution_claims hp hclaim with
      | existing id => exact hother
      | created _ _ =>
          obtain ⟨r, hr, hrest⟩ := hother
          exact ⟨r, List.mem_append_left _ hr, hrest⟩
      | dryRun _ _ hclaims _ _ _ => exact hother.update_other (hdry call rfl hclaims)
      | failed _ hcurrent hid heligible =>
          apply hother.update_other
          intro heq
          -- the row of the other call is pending, and this one has failed
          obtain ⟨-, hpending, -⟩ := hother.row hs hcurrent (hid.trans heq.symm)
          rw [(assertFailedRetryEligible_ok heligible).1] at hpending
          cases hpending
  | carries _ _ _ => exact hother
  | @persists call result q _ =>
      have hne : other.executionId ≠ call.executionId :=
        fun heq => hj (Claimed.unique hs hother hp heq)
      exact (hother.update_other hne).of_rows (persistProviderShipmentResult_rows call result s)
  | @fails call error q _ =>
      exact hother.update_other fun heq => hj (Claimed.unique hs hother hp heq)
  | syncs _ => exact hother.update_snapshot _
  | closes _ _ => exact hother.of_rows rfl

end Invariant

/-! ## Runs -/

section Runs

variable {w w' : World ShippingStore Position} {m : Move Input Answer Outside} {i j : ℕ}

/-- A move of the surroundings leaves the executions. -/
lemma outside_rows {e : Outside} {s s' : ShippingStore} (h : outside e s = some s') :
    s'.shipmentExecution = s.shipmentExecution ∧
      s'.fullRefundTerminalFact = s.fullRefundTerminalFact := by
  cases e <;> obtain rfl := Option.some.inj h <;> exact ⟨rfl, rfl⟩

lemma Position.Sound.of_rows {p : Position} {s s' : ShippingStore} (hp : p.Sound i s)
    (hrows : s'.shipmentExecution = s.shipmentExecution) : p.Sound i s' := by
  cases hout : p.outstanding with
  | none => exact Position.sound_of_not_outstanding hout hp
  | some call =>
      have hclaimed := (Position.sound_of_outstanding hout).mp hp
      exact (Position.sound_of_outstanding hout).mpr (hclaimed.of_rows hrows)

lemma Uncontested.vendor {answer : Answer} {p : Position} (hok : Uncontested w (.run i answer))
    (hp : w.process i = some p) :
    ∀ vendorId preferred provider, p = .allocation (.create vendorId preferred) provider →
      w.shared.allocation.assignedVendorId = vendorId := by
  rintro vendorId preferred provider rfl
  simpa only [Uncontested, hp] using hok

lemma Uncontested.dryRun {answer : Answer} {p r : Position} {other : ProviderCall}
    (hok : Uncontested w (.run i answer)) (hp : w.process i = some p) (hr : w.process j = some r)
    (hout : r.outstanding = some other) :
    ∀ call, p = .claim call → ClaimsDryRun w.shared call →
      other.executionId ≠ call.executionId := by
  rintro call rfl hclaims
  simp only [Uncontested, hp] at hok
  exact hok hclaims j r other hr hout

lemma steps_of_run {answer : Answer} {p q : Position} {s s' : ShippingStore}
    (h : shipmentSystem.run i answer s p = some (s', q)) : Steps i s p s' q := by
  have hrun : run i answer s p = some (s', q) := h
  exact run_steps hrun

theorem shipmentSystem_sound : shipmentSystem.Sound NewAllocation Uncontested
    ShippingStore.Sound Position.Sound where
  init := by
    rintro s ⟨hrows, -⟩
    refine ⟨?_, ?_⟩
    · rw [hrows]
      exact KeyUnique.nil _
    · intro r hr
      rw [hrows] at hr
      cases hr
  start := by
    intro i s input _
    cases input <;> trivial
  run := by
    intro w i answer p s q hw hp hok hrun
    exact (steps_of_run hrun).sound hw.1 (hw.2 i p hp) (hok.vendor hp)
  interference := by
    intro w i answer p s q hw hp hok hrun j r hj hr
    cases hout : r.outstanding with
    | none => exact Position.sound_of_not_outstanding hout (hw.2 j r hr)
    | some other =>
        have hclaimed := (Position.sound_of_outstanding hout).mp (hw.2 j r hr)
        have hkeeps := (steps_of_run hrun).claimed_other hw.1 (hw.2 i p hp)
          (hok.dryRun hp hr hout) hj hclaimed
        exact (Position.sound_of_outstanding hout).mpr hkeeps
  outside := by
    intro w e s hw _ he
    obtain ⟨hrows, -⟩ := outside_rows he
    refine ⟨⟨hrows ▸ hw.1.key, hrows ▸ hw.1.shipped⟩, ?_⟩
    intro j r hr
    exact (hw.2 j r hr).of_rows hrows

/-- What the outstanding call of a process holds. -/
lemma claimed_of_reaches (hw : shipmentSystem.Reaches NewAllocation Uncontested w) {p : Position}
    {call : ProviderCall} (hp : w.process i = some p) (hout : p.outstanding = some call) :
    Claimed i w.shared call :=
  (Position.sound_of_outstanding hout).mp ((shipmentSystem_sound.holds hw).2 i p hp)

/-- No execution has two outstanding calls. -/
lemma outstanding_unique (hw : shipmentSystem.Reaches NewAllocation Uncontested w)
    {p q : Position} {call other : ProviderCall} (hp : w.process i = some p)
    (hq : w.process j = some q) (hcall : p.outstanding = some call)
    (hother : q.outstanding = some other) (hid : call.executionId = other.executionId) : i = j :=
  Claimed.unique (shipmentSystem_sound.holds hw).1 (claimed_of_reaches hw hp hcall)
    (claimed_of_reaches hw hq hother) hid

/-- What the claim of an execution rests on. -/
lemma Claims.mayBegin {call other : ProviderCall} {s s' : ShippingStore} (hs : s.Sound)
    (h : Claims i call s s' (.createShipment other)) :
    other = call ∧ MayBegin s call.vendorId ∧
      ∀ r ∈ s.shipmentExecution, r.id = call.executionId → r.hasShipment = false := by
  cases h with
  | created hmay hnew =>
      refine ⟨rfl, hmay, ?_⟩
      intro r hr hid
      exact absurd hid (hnew r hr)
  | dryRun hrequest hmay _ hcurrent hid heligible =>
      refine ⟨rfl, hmay, ?_⟩
      intro r hr hr_id
      obtain rfl := hs.key.eq hr hcurrent (hr_id.trans hid.symm)
      obtain ⟨hstatus, -, -⟩ := assertDryRunRetryEligible_ok heligible
      by_contra hship
      exact hs.shipped r hr (Bool.eq_true_of_not_eq_false hship) hstatus
  | failed hmay hcurrent hid heligible =>
      refine ⟨rfl, hmay, ?_⟩
      intro r hr hr_id
      obtain rfl := hs.key.eq hr hcurrent (hr_id.trans hid.symm)
      exact (assertFailedRetryEligible_ok heligible).2

/-- The provider is called only from a claim. -/
lemma Steps.mayBegin {p : Position} {call : ProviderCall} {s s' : ShippingStore} (hs : s.Sound)
    (hp : p.Sound i s) (h : Steps i s p s' (.createShipment call)) :
    p = .claim call ∧ MayBegin s call.request.vendorId ∧
      ∀ r ∈ s.shipmentExecution, r.id = call.executionId → r.hasShipment = false := by
  cases h with
  | free hq => exact hq.elim
  | @read request provider _ hread =>
      cases request with
      | create vendorId preferred => cases hread
      | retry kind existing =>
          simp only [readAllocation, bind_eq_ok, require_eq_ok, exists_const, pure_eq_ok] at hread
          obtain ⟨-, -, hposition⟩ := hread
          cases hposition
  | @claim other _ _ hclaim =>
      obtain ⟨rfl, hmay, hship⟩ := (claimExecution_claims hp hclaim).mayBegin hs
      refine ⟨rfl, ?_, hship⟩
      rw [← hp.vendor]
      exact hmay
  | carries _ hq hne =>
      obtain rfl := Option.some.inj hq
      exact absurd rfl hne
  | persists hq => exact hq.elim
  | fails hq => exact hq.elim
  | syncs hq => exact hq.elim
  | closes hq _ => exact hq.elim

/-- An update of other executions keeps the shipment of this one. -/
lemma SameShipment.update {s : ShippingStore} {r : ShipmentExecution}
    {f : ShipmentExecution → ShipmentExecution} {id : String} (hr : r ∈ s.shipmentExecution)
    (hf : r.id = id → SameShipment r (f r)) :
    ∃ r' ∈ (s.updateExecution id f).shipmentExecution, SameShipment r r' := by
  by_cases hid : r.id = id
  · exact ⟨f r, mem_updateExecution.mpr ⟨r, hr, .inl ⟨hid, rfl⟩⟩, hf hid⟩
  · exact ⟨r, mem_updateExecution.mpr ⟨r, hr, .inr ⟨hid, rfl⟩⟩, rfl, rfl, rfl, rfl, rfl⟩

/-- An execution with a shipment is nobody's claim. -/
lemma Claimed.not_shipped {s : ShippingStore} {call : ProviderCall} {r : ShipmentExecution}
    (h : Claimed i s call) (hs : s.Sound) (hr : r ∈ s.shipmentExecution)
    (hship : r.hasShipment = true) : r.id ≠ call.executionId := by
  intro hid
  obtain ⟨-, -, hnone⟩ := h.row hs hr hid
  rw [hship] at hnone
  cases hnone

/-- **A step keeps a recorded shipment.** -/
theorem Steps.keepsShipment {p q : Position} {s s' : ShippingStore} {r : ShipmentExecution}
    (hs : s.Sound) (hp : p.Sound i s) (h : Steps i s p s' q) (hr : r ∈ s.shipmentExecution)
    (hship : r.hasShipment = true) : ∃ r' ∈ s'.shipmentExecution, SameShipment r r' := by
  have hsame : ∃ r' ∈ s.shipmentExecution, SameShipment r r' :=
    ⟨r, hr, rfl, rfl, rfl, rfl, rfl⟩
  cases h with
  | free _ => exact hsame
  | chosen _ => exact hsame
  | read _ => exact hsame
  | absent => exact hsame
  | claim hclaim =>
      cases claimExecution_claims hp hclaim with
      | existing id => exact hsame
      | created _ _ => exact ⟨r, List.mem_append_left _ hr, rfl, rfl, rfl, rfl, rfl⟩
      | dryRun _ _ _ _ _ _ => exact SameShipment.update hr fun _ => ⟨rfl, rfl, rfl, rfl, rfl⟩
      | failed _ hcurrent hid heligible =>
          apply SameShipment.update hr
          intro hr_id
          obtain rfl := hs.key.eq hr hcurrent (hr_id.trans hid.symm)
          rw [(assertFailedRetryEligible_ok heligible).2] at hship
          cases hship
  | carries _ _ _ => exact hsame
  | @persists call result q _ =>
      rw [persistProviderShipmentResult_rows]
      exact SameShipment.update hr fun hid => absurd hid (Claimed.not_shipped hp hs hr hship)
  | fails _ =>
      exact SameShipment.update hr fun hid => absurd hid (Claimed.not_shipped hp hs hr hship)
  | syncs _ => exact SameShipment.update hr fun _ => ⟨rfl, rfl, rfl, rfl, rfl⟩
  | closes _ _ => exact hsame

/-- The fact is written only while no execution is pending. -/
lemma Steps.closes_pending {p q : Position} {s s' : ShippingStore} (h : Steps i s p s' q)
    (hp : p.Sound i s) (hopen : s.fullRefundTerminalFact = none)
    (hclosed : s'.fullRefundTerminalFact ≠ none) :
    ∀ r ∈ s.shipmentExecution, r.shipmentStatus ≠ .pending := by
  cases h with
  | free _ => exact absurd hopen hclosed
  | chosen _ => exact absurd hopen hclosed
  | read _ => exact absurd hopen hclosed
  | absent => exact absurd hopen hclosed
  | claim hclaim =>
      cases claimExecution_claims hp hclaim <;> exact absurd hopen hclosed
  | carries _ _ _ => exact absurd hopen hclosed
  | @persists call result q _ =>
      refine absurd ?_ hclosed
      unfold persistProviderShipmentResult
      split <;> exact hopen
  | fails _ => exact absurd hopen hclosed
  | syncs _ => exact absurd hopen hclosed
  | closes _ hpending => exact hpending

/-- No fact is written while a call is outstanding. -/
lemma outstanding_of_closes (hw : shipmentSystem.Reaches NewAllocation Uncontested w)
    (h : shipmentSystem.step m w = .ok w') (hopen : w.shared.fullRefundTerminalFact = none)
    (hclosed : w'.shared.fullRefundTerminalFact ≠ none) {p : Position}
    (hp : w.process i = some p) : p.outstanding = none := by
  have hsound := shipmentSystem_sound.holds hw
  cases hout : p.outstanding with
  | none => rfl
  | some call =>
      obtain ⟨r, hr, -, -, hpending, -⟩ := claimed_of_reaches hw hp hout
      rcases Program.step_shared h with hsame | ⟨j, answer, p', q, -, hp', hrun⟩ | ⟨e, -, he⟩
      · rw [hsame] at hclosed
        exact absurd hopen hclosed
      · have hnone := (steps_of_run hrun).closes_pending (hsound.2 j p' hp') hopen hclosed
        exact absurd hpending (hnone r hr)
      · rw [(outside_rows he).2] at hclosed
        exact absurd hopen hclosed

/-- The provider is called only by the step that claims the execution. -/
lemma starts_of_step (hw : shipmentSystem.Reaches NewAllocation Uncontested w)
    (h : shipmentSystem.step m w = .ok w') {call : ProviderCall}
    (hcall : w'.process i = some (.createShipment call)) :
    w.process i = some (.createShipment call) ∨
      (w.process i = some (.claim call) ∧ MayBegin w.shared call.request.vendorId ∧
        ∀ r ∈ w.shared.shipmentExecution, r.id = call.executionId → r.hasShipment = false) := by
  have hsound := shipmentSystem_sound.holds hw
  cases m with
  | start j input =>
      obtain ⟨-, rfl⟩ := Program.step_start_ok.mp h
      rcases World.withProcess_some hcall with ⟨rfl, hq⟩ | ⟨-, hq⟩
      · cases input <;> cases hq
      · exact .inl hq
  | run j answer =>
      obtain ⟨p, s, q, hp, hrun, rfl⟩ := Program.step_run_ok.mp h
      rcases World.withProcess_some hcall with ⟨rfl, rfl⟩ | ⟨-, hq⟩
      · obtain ⟨rfl, hmay, hship⟩ := (steps_of_run hrun).mayBegin hsound.1 (hsound.2 i p hp)
        exact .inr ⟨hp, hmay, hship⟩
      · exact .inl hq
  | outside e =>
      obtain ⟨s, -, rfl⟩ := Program.step_outside_ok.mp h
      exact .inl hcall

lemma keepsShipment_of_step (hw : shipmentSystem.Reaches NewAllocation Uncontested w)
    (h : shipmentSystem.step m w = .ok w') {r : ShipmentExecution}
    (hr : r ∈ w.shared.shipmentExecution) (hship : r.hasShipment = true) :
    ∃ r' ∈ w'.shared.shipmentExecution, SameShipment r r' := by
  have hsound := shipmentSystem_sound.holds hw
  rcases Program.step_shared h with hsame | ⟨j, answer, p, q, -, hp, hrun⟩ | ⟨e, -, he⟩
  · rw [hsame]
    exact ⟨r, hr, rfl, rfl, rfl, rfl, rfl⟩
  · exact (steps_of_run hrun).keepsShipment hsound.1 (hsound.2 j p hp) hr hship
  · rw [(outside_rows he).1]
    exact ⟨r, hr, rfl, rfl, rfl, rfl, rfl⟩

/-- **Calls of the provider exclude each other and the terminal fact.**  An execution has at most
one call that is claimed and not recorded.  A call is started only by a claim, of an allocation
that is active, not cancelled, the vendor's, not closed and not held, and of an execution without
a shipment.  No fact is written while a call is outstanding, and a recorded shipment stays. -/
theorem createShipment_exclusive (hw : shipmentSystem.Reaches NewAllocation Uncontested w) :
    (∀ i j p q call other, w.process i = some p → w.process j = some q →
      p.outstanding = some call → q.outstanding = some other →
        call.executionId = other.executionId → i = j) ∧
    ∀ m w', shipmentSystem.step m w = .ok w' →
      (∀ i call, w'.process i = some (.createShipment call) →
        w.process i = some (.createShipment call) ∨
          (w.process i = some (.claim call) ∧ MayBegin w.shared call.request.vendorId ∧
            ∀ r ∈ w.shared.shipmentExecution, r.id = call.executionId →
              r.hasShipment = false)) ∧
      (w.shared.fullRefundTerminalFact = none → w'.shared.fullRefundTerminalFact ≠ none →
        ∀ i p, w.process i = some p → p.outstanding = none) ∧
      ∀ r ∈ w.shared.shipmentExecution, r.hasShipment = true →
        ∃ r' ∈ w'.shared.shipmentExecution, SameShipment r r' := by
  refine ⟨?_, ?_⟩
  · intro i j p q call other hp hq hcall hother hid
    exact outstanding_unique hw hp hq hcall hother hid
  · intro m w' h
    refine ⟨?_, ?_, ?_⟩
    · intro i call hcall
      exact starts_of_step hw h hcall
    · intro hopen hclosed i p hp
      exact outstanding_of_closes hw h hopen hclosed hp
    · intro r hr hship
      exact keepsShipment_of_step hw h hr hship

end Runs

/-! ## Two retries of a dry run -/

section Sample

def sampleAllocation : ShippingStore where
  allocation :=
    { id := "alloc-1"
      assignedVendorId := 1
      allocationStatus := .active
      cancellationReason := none
      sourceShopifyOrderId := "5001"
      cancelledAt := none
      syncStatus := none }
  customerCancellationRequestItem := []
  fullRefundTerminalFact := none
  shipmentExecution := []

/-- A create up to its claim. -/
def sampleCreate (i : ℕ) : List (Move Input Answer Outside) :=
  [.start i (.createShipmentExecution 1 none), .run i .ok, .run i .ok,
    .run i (.preview (.ok .kargonomi)), .run i .ok, .run i .ok, .run i .ok]

/-- A retry up to the point before its claim. -/
def sampleRetry (i : ℕ) (kind : RetryKind) : List (Move Input Answer Outside) :=
  [.start i (.retryShipmentExecution kind "shipment-kargonomi-alloc-1"), .run i .ok, .run i .ok,
    .run i .ok, .run i .ok, .run i (.diagnostics true []), .run i .ok, .run i .ok,
    .run i (.preview (.ok .kargonomi)), .run i .ok]

def sampleFailure (i : ℕ) : List (Move Input Answer Outside) :=
  [.run i (.threw ⟨"timeout", none⟩), .run i .ok]

/-- The provider answers, but makes no shipment. -/
def sampleDryRun (i : ℕ) : List (Move Input Answer Outside) :=
  [.run i (.shipment
      { providerShipmentId := none
        trackingNumber := none
        trackingUrl := none
        labelUrl := none
        shipmentStatus := .pending
        responseSnapshot := [("dryRun", .bool true)] }),
    .run i .ok, .run i (.syncDiagnostics none)]

def sampleFact (i : ℕ) : List (Move Input Answer Outside) :=
  [.start i (.createVerifiedFact "refund_webhook"),
    .run i (.verification (.qualifies "gid://shopify/Order/5001")), .run i .ok]

/-- The provider is being called for the execution. -/
def isCalling (w : World ShippingStore Position) (i : ℕ) (executionId : String) : Bool :=
  match w.process i with
  | some (.createShipment call) => call.executionId == executionId
  | _ => false

lemma exists_of_isCalling {w : World ShippingStore Position} {i : ℕ} {executionId : String}
    (h : isCalling w i executionId = true) :
    ∃ call, w.process i = some (.createShipment call) ∧ call.executionId = executionId := by
  unfold isCalling at h
  split at h
  · rename_i call hcall
    exact ⟨call, hcall, eq_of_beq h⟩
  · cases h

/-- A run without retries of dry runs, in which no allocation is transferred. -/
def NoDryRunRetry (w : World ShippingStore Position) : Move Input Answer Outside → Prop
  | .run i _ =>
      match w.process i with
      | some (.claim call) => call.request.isDryRunRetry = false
      | some (.allocation (.create vendorId _) _) => w.shared.allocation.assignedVendorId = vendorId
      | _ => True
  | _ => True

instance (w : World ShippingStore Position) : DecidablePred (NoDryRunRetry w) := fun m => by
  unfold NoDryRunRetry
  split
  · split <;> infer_instance
  · infer_instance

lemma NoDryRunRetry.uncontested (w : World ShippingStore Position) (m : Move Input Answer Outside)
    (h : NoDryRunRetry w m) : Uncontested w m := by
  cases m with
  | start i input => trivial
  | outside e => trivial
  | run i answer =>
      unfold NoDryRunRetry at h
      unfold Uncontested
      cases hp : w.process i with
      | none =>
          simp only [hp]
      | some p =>
          simp only [hp] at h ⊢
          cases p with
          | claim call =>
              rintro ⟨hdry, -⟩
              rw [h] at hdry
              cases hdry
          | allocation request provider =>
              cases request with
              | create vendorId preferred => exact h
              | retry kind existing => trivial
          | _ => trivial

lemma sampleAllocation_new : NewAllocation sampleAllocation := ⟨rfl, rfl⟩

/-- The witness: a call fails and is retried. -/
theorem createShipment_exclusive_sample : ∃ (w w' : World ShippingStore Position) (call : _),
    w'.process 2 = some (.createShipment call) ∧ MayBegin w.shared call.request.vendorId ∧
      w'.shared.shipmentExecution.length = 1 := by
  have hrun : Succeeds (runActions (guarded NoDryRunRetry () shipmentSystem.step)
      (sampleCreate 1 ++ sampleFailure 1 ++ sampleRetry 2 (.failed 1 false))
      (World.init sampleAllocation)) fun w =>
        Succeeds (shipmentSystem.step (.run 2 .ok) w) fun w' =>
          isCalling w 2 "shipment-kargonomi-alloc-1" = false ∧
            isCalling w' 2 "shipment-kargonomi-alloc-1" = true ∧
              w'.shared.shipmentExecution.length = 1 := by
    decide +kernel
  obtain ⟨w, hw, hnext⟩ := succeeds_iff.mp hrun
  obtain ⟨w', hw', hbefore, hcalling, hlength⟩ := succeeds_iff.mp hnext
  have hreach : shipmentSystem.Reaches NewAllocation Uncontested w :=
    Program.Reaches.mono NoDryRunRetry.uncontested
      (reachable_of_runGuarded (.start ⟨_, sampleAllocation_new, rfl⟩) hw)
  obtain ⟨call, hcall, hid⟩ := exists_of_isCalling hcalling
  obtain ⟨hstarts, -⟩ := (createShipment_exclusive hreach).2 _ w' hw'
  rcases hstarts 2 call hcall with hsame | ⟨-, hmay, -⟩
  · simp only [isCalling, hsame, hid] at hbefore
    exact absurd hbefore (by decide)
  · exact ⟨w, w', call, hcall, hmay, hlength⟩

/-- Two retries of a dry run call the provider at once.  When the first has failed, the allocation
is closed while the second call is still running. -/
theorem createShipment_overlaps : ∃ w w' : World ShippingStore Position,
    shipmentSystem.Reaches NewAllocation (fun _ _ => True) w ∧
      shipmentSystem.Reaches NewAllocation (fun _ _ => True) w' ∧
        (∃ call other, w.process 2 = some (.createShipment call) ∧
          w.process 3 = some (.createShipment other) ∧ call.executionId = other.executionId) ∧
          w'.shared.fullRefundTerminalFact ≠ none ∧
            ∃ call, w'.process 3 = some (.createShipment call) := by
  have hrun : Succeeds (runActions shipmentSystem.step
      (sampleCreate 1 ++ sampleDryRun 1 ++ sampleRetry 2 .dryRun ++ sampleRetry 3 .dryRun ++
        [.run 2 .ok, .run 3 .ok]) (World.init sampleAllocation)) fun w =>
        isCalling w 2 "shipment-kargonomi-alloc-1" = true ∧
          isCalling w 3 "shipment-kargonomi-alloc-1" = true ∧
            Succeeds (runActions shipmentSystem.step (sampleFailure 2 ++ sampleFact 4) w) fun w' =>
              w'.shared.fullRefundTerminalFact ≠ none ∧
                isCalling w' 3 "shipment-kargonomi-alloc-1" = true := by
    decide +kernel
  obtain ⟨w, hw, hcalling, hcalling', hnext⟩ := succeeds_iff.mp hrun
  obtain ⟨w', hw', hclosed, hrunning⟩ := succeeds_iff.mp hnext
  have hreach : shipmentSystem.Reaches NewAllocation (fun _ _ => True) w :=
    reachable_of_runActions (.start ⟨_, sampleAllocation_new, rfl⟩) (fun _ _ _ => trivial) hw
  have hreach' : shipmentSystem.Reaches NewAllocation (fun _ _ => True) w' :=
    reachable_of_runActions hreach (fun _ _ _ => trivial) hw'
  obtain ⟨call, hcall, hid⟩ := exists_of_isCalling hcalling
  obtain ⟨other, hother, hid'⟩ := exists_of_isCalling hcalling'
  obtain ⟨last, hlast, -⟩ := exists_of_isCalling hrunning
  exact ⟨w, w', hreach, hreach', ⟨call, other, hcall, hother, hid.trans hid'.symm⟩, hclosed, last,
    hlast⟩

end Sample

end VendorDashboard.Shipping
